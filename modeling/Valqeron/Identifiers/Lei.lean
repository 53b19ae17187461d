import Valqeron.Identifiers.Common

/-!
# LEI, the legal entity identifier

Twenty characters: eighteen digits or letters and two ISO 7064 MOD 97-10 check
digits.
-/

namespace Valqeron
namespace Identifiers

open Foundation

inductive LeiError where
  | empty
  | invalidLength (found : Nat)
  | invalidCharacter (character : Char) (position : Nat)
      (expected : CharacterClass)
  | invalidCheckDigits (expected found : Nat)
deriving DecidableEq, Repr

def LeiError.message : LeiError -> String
  | empty => "LEI cannot be empty"
  | invalidLength found => s!"LEI must be 20 characters long, found {found}"
  | invalidCharacter character position expected =>
      s!"LEI must contain only alphanumeric characters, found '{character}' at position {position}. Expected {expected.display}"
  | invalidCheckDigits expected found =>
      s!"LEI must have valid check digits, found {found}, expected {expected}"

namespace Lei

def baseLen : Nat := 18

def expectedClass (i : Nat) : CharacterClass :=
  if i < baseLen then .alphanumeric else .digit

def checkCharacterClass (i : Nat) (byte : UInt8) : Except LeiError Unit :=
  let isValid :=
    if i < baseLen then
      isAsciiDigit byte || isAsciiUppercase byte
    else
      isAsciiDigit byte
  if isValid then
    .ok ()
  else
    .error (.invalidCharacter (charOfByte byte) (i + 1) (expectedClass i))

/-- Digits weigh one place, letters `A` = 10 to `Z` = 35 two. -/
def foldMod97 (rem : Nat) : List UInt8 -> Nat
  | [] => rem
  | c :: rest =>
      if isAsciiDigit c then
        foldMod97 ((rem * 10 + (c.toNat - 48)) % 97) rest
      else
        foldMod97 ((rem * 100 + (c.toNat - 65 + 10)) % 97) rest

def computeCheckDigits (base : List UInt8) : Nat :=
  let rem := foldMod97 0 base
  98 - rem * 100 % 97

def validateCheckDigits (candidate : List UInt8) : Except LeiError Unit :=
  let expected := computeCheckDigits (candidate.take baseLen)
  let found :=
    ((candidate.getD 18 48).toNat - 48) * 10 +
      ((candidate.getD 19 48).toNat - 48)
  if expected ≠ found then
    .error (.invalidCheckDigits expected found)
  else
    .ok ()

def validate (candidate : Bytes 20) : Except LeiError Unit := do
  checkBytes checkCharacterClass 0 candidate.toList
  validateCheckDigits candidate.toList

def normalize (input : String) : Except LeiError (Bytes 20) :=
  if input.isEmpty then
    .error .empty
  else
    let trimmed := trim input.toList
    if h : trimmed.length = 20 then
      h ▸ normalizeChars
        (fun i c => .invalidCharacter c (i + 1) (expectedClass i)) 0 trimmed
    else
      .error (.invalidLength trimmed.length)

end Lei

/-- A LEI carries the proof that it has been validated. -/
structure Lei where
  bytes : Bytes 20
  valid : Lei.validate bytes = .ok ()
deriving DecidableEq

namespace Lei

def fromBytes (bytes : Bytes 20) : Except LeiError Lei :=
  validated validate Lei.mk bytes

def parse (input : String) : Except LeiError Lei := do
  let candidate ← normalize input
  fromBytes candidate

def new (input : String) : Except LeiError Lei := parse input

def asStr (l : Lei) : String := asciiText l.bytes.toList

theorem asStr_injective {a b : Lei} (h : a.asStr = b.asStr) : a = b := by
  have hbytes : a.bytes = b.bytes :=
    List.Vector.toList_injective (asciiText_injective h)
  cases a
  cases b
  cases hbytes
  rfl

theorem checkCharacterClass_eq_ok_iff (i : Nat) (byte : UInt8) :
    checkCharacterClass i byte = .ok () <->
      (expectedClass i).Contains byte := by
  unfold checkCharacterClass expectedClass
  rw [accepts_iff]
  split
  · rw [Bool.or_eq_true]
    rfl
  · rfl

theorem isCodeByte_of_mem (l : Lei) {b : UInt8} (hb : b ∈ l.bytes.toList) :
    isCodeByte b = true :=
  isCodeByte_of_checked checkCharacterClass_eq_ok_iff l.valid hb

theorem fromBytes_bytes (l : Lei) : fromBytes l.bytes = .ok l :=
  validated_of_ok l.valid

theorem parse_asStr (l : Lei) : parse l.asStr = .ok l := by
  have hnormalize : normalize l.asStr = .ok l.bytes :=
    normalizeCode_asciiText (by decide) _ _ _ (fun _ => l.isCodeByte_of_mem)
  unfold parse
  rw [hnormalize]
  exact l.fromBytes_bytes

end Lei

end Identifiers
end Valqeron
