import Valqeron.Foundation.Guarded
import Valqeron.Identifiers.LeiChecksum

/-!
# LEIs, with the panics

The last two characters are digits by the time they are read as a number, which
fits a byte.
-/

namespace Valqeron
namespace Identifiers

open Foundation

namespace Lei
namespace Checked

/-- The first eighteen bytes; `expect` panics where there are not as many. -/
def base (bytes : Bytes 20) : Option (List UInt8) := do
  let base ← checkedSlice bytes.toList 0 baseLen
  checkedAssert (base.length = baseLen)
  pure base

def checkDigits (bytes : Bytes 20) : Option Nat := do
  let first ← checkedSub (bytes.get 18).toNat 48
  let tens ← checkedMul 8 first 10
  let second ← checkedSub (bytes.get 19).toNat 48
  checkedAdd 8 tens second

def computedCheckDigits (bytes : Bytes 20) : Option Nat := do
  let base ← base bytes
  computeCheckDigitsChecked base

def validateCheckDigits (candidate : Bytes 20) : Guarded LeiError Unit := do
  let expected ← computedCheckDigits candidate
  let found ← checkDigits candidate
  if expected ≠ found then
    throw (.invalidCheckDigits expected found)

def checkCharacterClass (i : Nat) (byte : UInt8) : Guarded LeiError Unit :=
  let isValid :=
    if i < baseLen then
      isAsciiDigit byte || isAsciiUppercase byte
    else
      isAsciiDigit byte
  Guarded.checkClass isValid i
    (fun position =>
      .invalidCharacter (charOfByte byte) position (expectedClass i))

def validate (candidate : Bytes 20) : Guarded LeiError Unit := do
  Guarded.checkBytes checkCharacterClass 0 candidate.toList
  validateCheckDigits candidate

def normalize (input : String) : Guarded LeiError (Bytes 20) :=
  Guarded.normalizeCode 20 .empty .invalidLength
    (fun i c position =>
      some
        (.invalidCharacter c position (if i < 18 then .alphanumeric else .digit)))
    input

def fromBytes (bytes : Bytes 20) : Guarded LeiError (Bytes 20) :=
  Guarded.fromBytes validate bytes

def parse (input : String) : Guarded LeiError (Bytes 20) :=
  Guarded.parse normalize validate input

def asStr (bytes : Bytes 20) : Option String := fromUtf8 bytes.toList

def louPrefix (bytes : Bytes 20) : Option String := do
  let text ← asStr bytes
  sliceText text 0 4

def entityId (bytes : Bytes 20) : Option String := do
  let text ← asStr bytes
  sliceText text 4 18

section

variable {bytes : Bytes 20}

theorem base_eq (bytes : Bytes 20) :
    base bytes = some (bytes.toList.take baseLen) := by
  have hslice : checkedSlice bytes.toList 0 baseLen =
      some (bytes.toList.take baseLen) := by
    apply checkedSlice_take
    rw [bytes.toList_length]
    decide
  have hlength : (bytes.toList.take baseLen).length = baseLen := by
    rw [List.length_take, bytes.toList_length]
    rfl
  unfold base
  rw [hslice]
  show (checkedAssert ((bytes.toList.take baseLen).length = baseLen)).bind _ = _
  rw [checkedAssert_of hlength]
  rfl

theorem computedCheckDigits_eq (h : WellFormed bytes.toList) :
    computedCheckDigits bytes =
      some (computeCheckDigits (bytes.toList.take baseLen)) := by
  unfold computedCheckDigits
  rw [base_eq]
  apply computeCheckDigitsChecked_eq
  intro b hb
  exact h.isCodeByte (List.mem_of_mem_take hb)

theorem checkDigits_eq (h : WellFormed bytes.toList) :
    checkDigits bytes = some (checkValue bytes.toList) := by
  have hfirst := isAsciiDigit_iff.mp
    (isAsciiDigit_of_wellFormed h (i := 18) (by decide) (by decide))
  have hsecond := isAsciiDigit_iff.mp
    (isAsciiDigit_of_wellFormed h (i := 19) (by decide) (by decide))
  unfold checkDigits
  rw [get_eq_getD bytes 18 48, get_eq_getD bytes 19 48]
  show (checkedSub (bytes.toList.getD 18 48).toNat 48).bind _ = _
  rw [checkedSub_of_le hfirst.left]
  show (checkedMul 8 ((bytes.toList.getD 18 48).toNat - 48) 10).bind _ = _
  rw [checkedMul_of_lt (by omega)]
  show (checkedSub (bytes.toList.getD 19 48).toNat 48).bind _ = _
  rw [checkedSub_of_le hsecond.left]
  exact checkedAdd_of_lt (by omega)

theorem validateCheckDigits_eq (h : WellFormed bytes.toList) :
    validateCheckDigits bytes =
      Guarded.ofExcept (Lei.validateCheckDigits bytes.toList) := by
  unfold validateCheckDigits Lei.validateCheckDigits
  rw [computedCheckDigits_eq h, checkDigits_eq h]
  show (if computeCheckDigits _ ≠ checkValue bytes.toList then throw _
    else pure ()) = Guarded.ofExcept
      (if computeCheckDigits _ ≠ checkValue bytes.toList then _ else _)
  split
  · rfl
  · rfl

end

theorem checkCharacterClass_eq {i : Nat} (h : i < 255) (byte : UInt8) :
    checkCharacterClass i byte =
      Guarded.ofExcept (Lei.checkCharacterClass i byte) :=
  Guarded.checkClass_eq h _ _

theorem validate_eq (candidate : Bytes 20) :
    validate candidate = Guarded.ofExcept (Lei.validate candidate) := by
  unfold validate Lei.validate
  rw [Guarded.checkBytes_array (by decide) checkCharacterClass_eq candidate]
  apply Guarded.ofExcept_bind
  intro _ hchecked
  exact validateCheckDigits_eq
    ((checkBytes_eq_ok_iff_wellFormed _).mp hchecked)

theorem normalize_eq (input : String) :
    normalize input = Guarded.ofExcept (Lei.normalize input) := by
  apply Guarded.normalizeCode_eq (by decide)
  intro i c _
  rfl

structure AccessorsReturn (lei : Lei) : Prop where
  asStr : asStr lei.bytes = some lei.asStr
  louPrefix : louPrefix lei.bytes = some (asciiText (lei.bytes.toList.take 4))
  entityId :
    entityId lei.bytes = some (asciiText ((lei.bytes.toList.drop 4).take 14))
  checkDigits : checkDigits lei.bytes = some (checkValue lei.bytes.toList)
  computedCheckDigits :
    computedCheckDigits lei.bytes =
      some (computeCheckDigits (lei.bytes.toList.take baseLen))

structure NeverPanics : Prop where
  constructors :
    Guarded.RunsThrough Lei.bytes Lei.parse Lei.fromBytes parse fromBytes
  text : forall lei : Lei, Guarded.StoresText lei.bytes
  accessors : forall lei : Lei, AccessorsReturn lei

theorem storesText (lei : Lei) : Guarded.StoresText lei.bytes :=
  Guarded.storesText_of_codeBytes (fun _ => lei.isCodeByte_of_mem)

theorem accessorsReturn (lei : Lei) : AccessorsReturn lei := by
  have hform := ((validate_eq_ok_iff lei.bytes).mp lei.valid).left
  have hstored := storesText lei
  exact
    { asStr := hstored.text
      louPrefix := hstored.slice (by decide) (by decide)
      entityId := hstored.slice (by decide) (by decide)
      checkDigits := checkDigits_eq hform
      computedCheckDigits := computedCheckDigits_eq hform }

theorem neverPanics : NeverPanics :=
  { constructors := Guarded.runsThrough normalize_eq validate_eq
      (fun _ => map_validated (fun _ _ => rfl))
    text := storesText
    accessors := accessorsReturn }

end Checked
end Lei

end Identifiers
end Valqeron
