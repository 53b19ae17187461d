import Valqeron.Identifiers.Common

/-!
# CNPJ, the Brazilian company number

Fourteen characters: twelve digits or letters and two modulo-11 check digits.
-/

namespace Valqeron
namespace Identifiers

open Foundation

inductive CnpjError where
  | empty
  | invalidLength (found : Nat)
  | invalidCharacter (character : Char) (position : Nat)
      (expected : CharacterClass)
  | invalidCheckDigits (position expected found : Nat)
  | repeatedDigits
deriving DecidableEq, Repr

def CnpjError.message : CnpjError -> String
  | empty => "CNPJ cannot be empty."
  | invalidLength found =>
      s!"CNPJ must have exactly 14 meaningful characters, found {found}"
  | invalidCharacter character position _ =>
      s!"CNPJ must contain only digits, found '{character}' at position {position}"
  | invalidCheckDigits position expected found =>
      s!"CNPJ verification digit at position {position} is invalid, expected {expected} but found {found}"
  | repeatedDigits => "A CNPJ cannot contain only repeated digits"

namespace Cnpj

instance lengthNeZero : NeZero 14 := ⟨by decide⟩

def baseLen : Nat := 12

def weightsDv1 : List Nat := [5, 4, 3, 2, 9, 8, 7, 6, 5, 4, 3, 2]

def weightsDv2 : List Nat := [6, 5, 4, 3, 2, 9, 8, 7, 6, 5, 4, 3, 2]

def charValue (byte : UInt8) : Nat := byte.toNat - 48

def checkCharacterClass (i : Nat) (byte : UInt8) : Except CnpjError Unit :=
  let isValid :=
    if i < baseLen then
      isAsciiDigit byte || isAsciiUppercase byte
    else
      isAsciiDigit byte
  let expected : CharacterClass :=
    if i < baseLen then .alphanumeric else .digit
  if isValid then
    .ok ()
  else
    .error (.invalidCharacter (charOfByte byte) (i + 1) expected)

def validateNotRepeated (candidate : List UInt8) : Except CnpjError Unit :=
  if candidate.all (fun b => some b == candidate.head?) then
    .error .repeatedDigits
  else
    .ok ()

def computeCheckDigit (values weights : List Nat) : Nat :=
  let sum := ((values.zip weights).map (fun vw => vw.1 * vw.2)).sum
  let remainder := sum % 11
  if remainder < 2 then 0 else 11 - remainder

def computeValidCheckDigits (base : List UInt8) : Nat × Nat :=
  let baseValues := base.map charValue
  let dv1 := computeCheckDigit baseValues weightsDv1
  let dv2 := computeCheckDigit (baseValues ++ [dv1]) weightsDv2
  (dv1, dv2)

def validateCheckDigits (candidate : List UInt8) : Except CnpjError Unit :=
  let expected := computeValidCheckDigits (candidate.take baseLen)
  let foundDv1 := charValue (candidate.getD 12 48)
  let foundDv2 := charValue (candidate.getD 13 48)
  if expected.1 ≠ foundDv1 then
    .error (.invalidCheckDigits 13 expected.1 foundDv1)
  else if expected.2 ≠ foundDv2 then
    .error (.invalidCheckDigits 14 expected.2 foundDv2)
  else
    .ok ()

def validate (candidate : Bytes 14) : Except CnpjError Unit := do
  checkBytes checkCharacterClass 0 candidate.toList
  validateNotRepeated candidate.toList
  validateCheckDigits candidate.toList

def isFormattingChar (c : Char) : Bool :=
  c == '.' || c == '/' || c == '-' || isWhitespace c

def normalize (input : String) : Except CnpjError (Bytes 14) :=
  if input.isEmpty then
    .error .empty
  else
    let meaningful := input.toList.filter (fun c => !isFormattingChar c)
    if h : meaningful.length = 14 then
      h ▸ normalizeChars
        (fun i c => .invalidCharacter c (i + 1) .alphanumeric) 0 meaningful
    else
      .error (.invalidLength meaningful.length)

end Cnpj

/-- A CNPJ carries the proof that it has been validated. -/
structure Cnpj where
  bytes : Bytes 14
  valid : Cnpj.validate bytes = .ok ()
deriving DecidableEq

namespace Cnpj

def fromBytes (bytes : Bytes 14) : Except CnpjError Cnpj :=
  validated validate Cnpj.mk bytes

def parse (input : String) : Except CnpjError Cnpj := do
  let candidate ← normalize input
  fromBytes candidate

def asStr (c : Cnpj) : String := asciiText c.bytes.toList

theorem asStr_injective {a b : Cnpj} (h : a.asStr = b.asStr) : a = b := by
  have hbytes : a.bytes = b.bytes :=
    List.Vector.toList_injective (asciiText_injective h)
  cases a
  cases b
  cases hbytes
  rfl

/-- The class of a position; a character outside ASCII is reported without it. -/
def positionClass (i : Nat) : CharacterClass :=
  if i < baseLen then .alphanumeric else .digit

theorem checkCharacterClass_eq_ok_iff (i : Nat) (byte : UInt8) :
    checkCharacterClass i byte = .ok () <->
      (positionClass i).Contains byte := by
  unfold checkCharacterClass positionClass
  rw [accepts_iff]
  split
  · rw [Bool.or_eq_true]
    rfl
  · rfl

theorem isCodeByte_of_mem (c : Cnpj) {b : UInt8} (hb : b ∈ c.bytes.toList) :
    isCodeByte b = true :=
  isCodeByte_of_checked checkCharacterClass_eq_ok_iff c.valid hb

theorem isFormattingChar_charOfByte {b : UInt8} (h : isCodeByte b = true) :
    isFormattingChar (charOfByte b) = false := by
  have hrange := isCodeByte_iff.mp h
  have hne : forall c : Char, c.toNat < 48 -> (charOfByte b == c) = false := by
    intro c hc
    rw [beq_eq_false_iff_ne]
    intro heq
    have htoNat := charOfByte_toNat b
    rw [heq] at htoNat
    omega
  unfold isFormattingChar
  rw [hne '.' (by decide), hne '/' (by decide), hne '-' (by decide),
    isWhitespace_charOfByte h]
  rfl

theorem fromBytes_bytes (c : Cnpj) : fromBytes c.bytes = .ok c :=
  validated_of_ok c.valid

theorem normalize_asStr (c : Cnpj) : normalize c.asStr = .ok c.bytes := by
  have hlist : c.asStr.toList = c.bytes.toList.map charOfByte :=
    toList_asciiText c.bytes.toList
  have hmeaningful : c.asStr.toList.filter (fun x => !isFormattingChar x) =
      c.bytes.toList.map charOfByte := by
    rw [hlist, List.filter_eq_self]
    intro x hx
    rcases List.mem_map.mp hx with ⟨b, hb, rfl⟩
    rw [isFormattingChar_charOfByte (c.isCodeByte_of_mem hb)]
    rfl
  have hlength :
      (c.asStr.toList.filter (fun x => !isFormattingChar x)).length = 14 := by
    rw [hmeaningful, List.length_map, List.Vector.toList_length]
  have hne : ¬ c.asStr.isEmpty = true := by
    intro hempty
    rw [String.isEmpty_iff] at hempty
    rw [hempty] at hlength
    simp at hlength
  unfold normalize
  rw [if_neg hne]
  simp only
  rw [dif_pos hlength]
  exact normalizeChars_code _ 0 hlength hmeaningful
    (fun _ => c.isCodeByte_of_mem)

theorem parse_asStr (c : Cnpj) : parse c.asStr = .ok c := by
  unfold parse
  rw [c.normalize_asStr]
  exact c.fromBytes_bytes

end Cnpj

end Identifiers
end Valqeron
