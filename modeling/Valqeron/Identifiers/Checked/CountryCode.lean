import Valqeron.Foundation.Guarded
import Valqeron.Identifiers.CountryBitmap

/-!
# Country codes, with the panics

The letters of a code are checked before they are turned into a place of the
bitmap, which every place they can name is within.
-/

namespace Valqeron
namespace Identifiers

open Foundation

namespace CountryCode
namespace Checked

def bitIndex (code : Bytes 2) : Option Nat := do
  let first ← checkedSub (code.get 0).toNat 65
  let second ← checkedSub (code.get 1).toNat 65
  let row ← checkedMul usizeWidth first 26
  checkedAdd usizeWidth row second

def isAssigned (candidate : Bytes 2) : Option Bool := do
  checkedAssert
    (isAsciiUppercase (candidate.get 0) && isAsciiUppercase (candidate.get 1))
  let index ← bitIndex candidate
  Bitmap.checkedTestBit assigned index

/-- A code that is not UTF-8 counts as a panic; the source has an error for it. -/
def validateMembership (candidate : Bytes 2) : Guarded CountryCodeError Unit := do
  if ← isAssigned candidate then
    pure ()
  else
    let code ← fromUtf8 candidate.toList
    throw (.unassigned code)

def checkCharacterClass (i : Nat) (byte : UInt8) :
    Guarded CountryCodeError Unit :=
  Guarded.checkClass (isAsciiUppercase byte) i
    (.invalidCharacter (charOfByte byte))

def validate (candidate : Bytes 2) : Guarded CountryCodeError Unit := do
  Guarded.checkBytes checkCharacterClass 0 candidate.toList
  validateMembership candidate

def normalize (input : String) : Guarded CountryCodeError (Bytes 2) :=
  Guarded.normalizeCode 2 .empty .invalidLength
    (fun _ c position => some (.invalidCharacter c position)) input

def fromBytes (bytes : Bytes 2) : Guarded CountryCodeError (Bytes 2) :=
  Guarded.fromBytes validate bytes

def parse (input : String) : Guarded CountryCodeError (Bytes 2) :=
  Guarded.parse normalize validate input

/-- `from_utf8_unchecked` is defined on UTF-8 only. -/
def asStr (bytes : Bytes 2) : Option String := fromUtf8 bytes.toList

theorem bitIndex_eq (pair : LetterPair) :
    bitIndex pair.bytes = some pair.index := by
  have hfirst := isAsciiUppercase_iff.mp pair.firstUpper
  have hsecond := isAsciiUppercase_iff.mp pair.secondUpper
  have hrow : (pair.first.toNat - 65) * 26 < 2 ^ usizeWidth := by
    unfold usizeWidth
    omega
  have hindex : pair.index < 2 ^ usizeWidth :=
    pair.index_lt_combinations.trans (by decide)
  unfold bitIndex
  show (checkedSub pair.first.toNat 65).bind _ = _
  rw [checkedSub_of_le hfirst.left]
  show (checkedSub pair.second.toNat 65).bind _ = _
  rw [checkedSub_of_le hsecond.left]
  show (checkedMul usizeWidth (pair.first.toNat - 65) 26).bind _ = _
  rw [checkedMul_of_lt hrow]
  exact checkedAdd_of_lt hindex

theorem isAssigned_eq (pair : LetterPair) :
    isAssigned pair.bytes =
      some (CountryCode.isAssigned pair.first pair.second) := by
  have hupper :
      (isAsciiUppercase pair.first && isAsciiUppercase pair.second) = true := by
    rw [pair.firstUpper, pair.secondUpper]
    rfl
  have hholds : Bitmap.Holds assigned pair.index := by
    unfold Bitmap.Holds assigned
    rw [length_buildBitmap]
    exact pair.index_div_lt_words
  unfold isAssigned
  show (checkedAssert (isAsciiUppercase pair.first && isAsciiUppercase pair.second)).bind _ = _
  rw [checkedAssert_of hupper]
  show (bitIndex pair.bytes).bind _ = _
  rw [bitIndex_eq, Option.bind_some, isAssigned_eq_testBit,
    Bitmap.checkedTestBit_of_holds (by decide) hholds]
  rfl

theorem validateMembership_eq (pair : LetterPair) :
    validateMembership pair.bytes =
      Guarded.ofExcept (CountryCode.validateMembership pair.bytes) := by
  have hmember : CountryCode.validateMembership pair.bytes =
      if CountryCode.isAssigned pair.first pair.second then .ok ()
      else .error (.unassigned pair.text) := rfl
  have htext : fromUtf8 pair.bytes.toList = some pair.text := by
    apply fromUtf8_eq_some
    intro b hb
    rcases List.mem_pair.mp hb with rfl | rfl
    · exact lt_128_of_isCodeByte (isCodeByte_of_isAsciiUppercase pair.firstUpper)
    · exact lt_128_of_isCodeByte (isCodeByte_of_isAsciiUppercase pair.secondUpper)
  unfold validateMembership
  rw [isAssigned_eq, hmember]
  cases CountryCode.isAssigned pair.first pair.second with
  | true => rfl
  | false =>
      rw [htext]
      rfl

theorem checkCharacterClass_eq {i : Nat} (h : i < 255) (byte : UInt8) :
    checkCharacterClass i byte =
      Guarded.ofExcept (CountryCode.checkCharacterClass i byte) :=
  Guarded.checkClass_eq h _ _

theorem validate_eq (candidate : Bytes 2) :
    validate candidate = Guarded.ofExcept (CountryCode.validate candidate) := by
  unfold validate CountryCode.validate
  rw [Guarded.checkBytes_array (by decide) checkCharacterClass_eq candidate]
  apply Guarded.ofExcept_bind
  intro _ hchecked
  rcases checkBytes_eq_ok_iff_letterPair.mp hchecked with ⟨pair, rfl⟩
  exact validateMembership_eq pair

theorem normalize_eq (input : String) :
    normalize input = Guarded.ofExcept (CountryCode.normalize input) := by
  apply Guarded.normalizeCode_eq (by decide)
  intro i c _
  rfl

structure NeverPanics : Prop where
  constructors :
    Guarded.RunsThrough CountryCode.bytes CountryCode.parse CountryCode.fromBytes
      parse fromBytes
  text : forall country : CountryCode, Guarded.StoresText country.bytes
  asStr : forall country : CountryCode, asStr country.bytes = some country.asStr

theorem storesText (country : CountryCode) : Guarded.StoresText country.bytes :=
  Guarded.storesText_of_codeBytes (fun _ => country.isCodeByte_of_mem)

theorem neverPanics : NeverPanics :=
  { constructors := Guarded.runsThrough normalize_eq validate_eq
      (fun _ => map_validated (fun _ _ => rfl))
    text := storesText
    asStr := fun country => (storesText country).text }

end Checked
end CountryCode

end Identifiers
end Valqeron
