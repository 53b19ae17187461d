import Valqeron.Identifiers.Common

/-!
# ISIN, the international securities identification number

Twelve characters: two letters, nine letters or digits and a check digit, which is
computed with the Luhn algorithm over the decimal digits of all characters.
-/

namespace Valqeron
namespace Identifiers

open Foundation

inductive IsinError where
  | empty
  | invalidLength (found : Nat)
  | invalidCharacter (character : Char) (position : Nat)
      (expected : CharacterClass)
  | invalidCheckDigit (expected found : Nat)
deriving DecidableEq, Repr

def IsinError.message : IsinError -> String
  | empty => "ISIN code cannot be empty"
  | invalidLength _ => "ISIN code must contain exactly 12 characters"
  | invalidCharacter _ position _ =>
      s!"ISIN code contains an invalid character at position {position}"
  | invalidCheckDigit expected found =>
      s!"ISIN code has an invalid check digit; expected {expected}, found {found}"

namespace Isin

def baseLen : Nat := 11

def expectedClass (i : Nat) : CharacterClass :=
  if i < 2 then .letter else if i < baseLen then .alphanumeric else .digit

def checkCharacterClass (i : Nat) (byte : UInt8) : Except IsinError Unit :=
  let isValid :=
    if i < 2 then
      isAsciiUppercase byte
    else if i < baseLen then
      isAsciiDigit byte || isAsciiUppercase byte
    else
      isAsciiDigit byte
  if isValid then
    .ok ()
  else
    .error (.invalidCharacter (charOfByte byte) (i + 1) (expectedClass i))

def luhnStep (value : Nat) (double : Bool) : Nat :=
  if double then
    if 9 < value * 2 then value * 2 - 9 else value * 2
  else
    value

/-- The weighted digits from the right; a letter is `A` = 10 to `Z` = 35. -/
def luhnSum (double : Bool) : List UInt8 -> Nat
  | [] => 0
  | c :: rest =>
      if isAsciiDigit c then
        luhnStep (c.toNat - 48) double + luhnSum (!double) rest
      else
        let value := c.toNat - 65 + 10
        luhnStep (value % 10) double + luhnStep (value / 10) (!double) +
          luhnSum double rest

def computeCheckDigit (base : List UInt8) : Nat :=
  (10 - luhnSum true base.reverse % 10) % 10

def validateCheckDigit (candidate : List UInt8) : Except IsinError Unit :=
  let expected := computeCheckDigit (candidate.take baseLen)
  let found := (candidate.getD baseLen 48).toNat - 48
  if expected ≠ found then
    .error (.invalidCheckDigit expected found)
  else
    .ok ()

def validate (candidate : Bytes 12) : Except IsinError Unit := do
  checkBytes checkCharacterClass 0 candidate.toList
  validateCheckDigit candidate.toList

def normalize (input : String) : Except IsinError (Bytes 12) :=
  normalizeCode 12 .empty .invalidLength
    (fun i c => .invalidCharacter c (i + 1) (expectedClass i)) input

end Isin

/-- An ISIN carries the proof that it has been validated. -/
structure Isin where
  bytes : Bytes 12
  valid : Isin.validate bytes = .ok ()
deriving DecidableEq

namespace Isin

def fromBytes (bytes : Bytes 12) : Except IsinError Isin :=
  validated validate Isin.mk bytes

def parse (input : String) : Except IsinError Isin := do
  let candidate ← normalize input
  fromBytes candidate

def new (input : String) : Except IsinError Isin := parse input

def asStr (i : Isin) : String := asciiText i.bytes.toList

theorem checkCharacterClass_eq_ok_iff (i : Nat) (byte : UInt8) :
    checkCharacterClass i byte = .ok () <->
      (expectedClass i).Contains byte := by
  unfold checkCharacterClass expectedClass
  rw [accepts_iff]
  split
  · rfl
  · split
    · rw [Bool.or_eq_true]
      rfl
    · rfl

theorem isCodeByte_of_mem (isin : Isin) {b : UInt8}
    (hb : b ∈ isin.bytes.toList) : isCodeByte b = true :=
  isCodeByte_of_checked checkCharacterClass_eq_ok_iff isin.valid hb

theorem fromBytes_bytes (isin : Isin) : fromBytes isin.bytes = .ok isin :=
  validated_of_ok isin.valid

theorem new_asStr (isin : Isin) : new isin.asStr = .ok isin := by
  have hnormalize : normalize isin.asStr = .ok isin.bytes :=
    normalizeCode_asciiText (by decide) _ _ _ (fun _ => isin.isCodeByte_of_mem)
  unfold new parse
  rw [hnormalize]
  exact isin.fromBytes_bytes

example : (Isin.new "us0378331005 ").map Isin.asStr = .ok "US0378331005" := by
  decide +kernel

end Isin

end Identifiers
end Valqeron
