import Valqeron.Identifiers.Checked.CountryCode
import Valqeron.Identifiers.IsinChecksum

/-!
# ISINs, with the panics

The classes of the characters are checked before the sum is computed, so that
no letter is subtracted below zero, and the sum of eleven characters is small.
-/

namespace Valqeron
namespace Identifiers

open Foundation

namespace Isin
namespace Checked

def luhnStep (value : Nat) (double : Bool) : Option Nat :=
  if double then do
    let doubled ← checkedMul 32 value 2
    if 9 < doubled then checkedSub doubled 9 else some doubled
  else
    some value

/-- The loop of the check digit, from the right; `sum` is what it has so far. -/
def luhnSum (sum : Nat) (double : Bool) : List UInt8 -> Option Nat
  | [] => some sum
  | c :: rest =>
      if isAsciiDigit c then do
        let digit ← checkedSub c.toNat 48
        let step ← luhnStep digit double
        let next ← checkedAdd 32 sum step
        luhnSum next (!double) rest
      else do
        let letter ← checkedSub c.toNat 65
        let value ← checkedAdd 8 letter 10
        let units ← luhnStep (value % 10) double
        let between ← checkedAdd 32 sum units
        let tens ← luhnStep (value / 10) (!double)
        let next ← checkedAdd 32 between tens
        luhnSum next double rest

def computeCheckDigit (base : List UInt8) : Option Nat := do
  checkedAssert (base.length = baseLen)
  let sum ← luhnSum 0 true base.reverse
  let rest ← checkedSub 10 (sum % 10)
  -- `as u8`
  pure (rest % 10 % 2 ^ 8)

def validateCheckDigit (candidate : Bytes 12) : Guarded IsinError Unit := do
  let base ← checkedSlice candidate.toList 0 baseLen
  let expected ← computeCheckDigit base
  let found ← checkedSub (candidate.get 11).toNat 48
  if expected ≠ found then
    throw (.invalidCheckDigit expected found)

def checkCharacterClass (i : Nat) (byte : UInt8) : Guarded IsinError Unit :=
  let isValid :=
    if i < 2 then
      isAsciiUppercase byte
    else if i < baseLen then
      isAsciiDigit byte || isAsciiUppercase byte
    else
      isAsciiDigit byte
  Guarded.checkClass isValid i
    (fun position =>
      .invalidCharacter (charOfByte byte) position (expectedClass i))

def validate (candidate : Bytes 12) : Guarded IsinError Unit := do
  Guarded.checkBytes checkCharacterClass 0 candidate.toList
  validateCheckDigit candidate

/-- The class at a place of the input; the last branch is `unreachable!`. -/
def expectedOfInput (i : Nat) : Option CharacterClass :=
  if i <= 1 then
    some .letter
  else if i <= 10 then
    some .alphanumeric
  else if i = 11 then
    some .digit
  else
    none

def normalize (input : String) : Guarded IsinError (Bytes 12) :=
  Guarded.normalizeCode 12 .empty .invalidLength
    (fun i c position =>
      (expectedOfInput i).map (.invalidCharacter c position))
    input

def fromBytes (bytes : Bytes 12) : Guarded IsinError (Bytes 12) :=
  Guarded.fromBytes validate bytes

def parse (input : String) : Guarded IsinError (Bytes 12) :=
  Guarded.parse normalize validate input

def asStr (bytes : Bytes 12) : Option String := fromUtf8 bytes.toList

def countryCode (bytes : Bytes 12) : Option String := do
  let text ← asStr bytes
  sliceText text 0 2

def country (bytes : Bytes 12) : Option (Option (Bytes 2)) := do
  let read ← (CountryCode.Checked.fromBytes
    ⟨[bytes.get 0, bytes.get 1], rfl⟩).run
  pure read.toOption

def nsin (bytes : Bytes 12) : Option String := do
  let text ← asStr bytes
  sliceText text 2 11

def checkDigit (bytes : Bytes 12) : Option Nat :=
  checkedSub (bytes.get 11).toNat 48

def computedCheckDigit (bytes : Bytes 12) : Option Nat := do
  let base ← checkedSlice bytes.toList 0 11
  computeCheckDigit base

theorem luhnStep_eq {value : Nat} (h : value < 10) (double : Bool) :
    luhnStep value double = some (Isin.luhnStep value double) := by
  unfold luhnStep Isin.luhnStep
  cases double with
  | false => rfl
  | true =>
      rw [checkedMul_of_lt (by omega)]
      show (if 9 < value * 2 then checkedSub (value * 2) 9 else some (value * 2)) =
        some (if 9 < value * 2 then value * 2 - 9 else value * 2)
      split
      · exact checkedSub_of_le (by omega)
      · rfl

theorem luhnStep_lt {value : Nat} (h : value < 10) (double : Bool) :
    Isin.luhnStep value double < 10 := by
  unfold Isin.luhnStep
  split
  · split
    · omega
    · omega
  · exact h

/-- A character adds at most 18 to the sum, which has room for all of them. -/
theorem luhnSum_eq {sum : Nat} {double : Bool} {bytes : List UInt8}
    (hbytes : forall b, b ∈ bytes -> isCodeByte b = true)
    (hroom : sum + 18 * bytes.length < 2 ^ 32) :
    luhnSum sum double bytes = some (sum + Isin.luhnSum double bytes) := by
  induction bytes generalizing sum double with
  | nil => rfl
  | cons c rest ih =>
      have hrest : forall b, b ∈ rest -> isCodeByte b = true :=
        fun b hb => hbytes b (List.mem_cons_of_mem c hb)
      rw [List.length_cons] at hroom
      unfold luhnSum Isin.luhnSum
      cases hdigit : isAsciiDigit c with
      | true =>
          have hrange := isAsciiDigit_iff.mp hdigit
          have hvalue : c.toNat - 48 < 10 := by omega
          have hstep := luhnStep_lt hvalue double
          rw [if_pos rfl, if_pos rfl, checkedSub_of_le hrange.left]
          show (luhnStep (c.toNat - 48) double).bind _ = _
          rw [luhnStep_eq hvalue]
          show (checkedAdd 32 sum (Isin.luhnStep (c.toNat - 48) double)).bind _ = _
          rw [checkedAdd_of_lt (by omega)]
          show luhnSum _ (!double) rest = _
          rw [ih hrest (by omega), Nat.add_assoc]
      | false =>
          have hrange := Lei.letter_range (hbytes c List.mem_cons_self) hdigit
          have hunits : (c.toNat - 65 + 10) % 10 < 10 := Nat.mod_lt _ (by decide)
          have htens : (c.toNat - 65 + 10) / 10 < 10 := by omega
          have hstepUnits := luhnStep_lt hunits double
          have hstepTens := luhnStep_lt htens (!double)
          rw [if_neg Bool.false_ne_true, if_neg Bool.false_ne_true,
            checkedSub_of_le hrange.left]
          show (checkedAdd 8 (c.toNat - 65) 10).bind _ = _
          rw [checkedAdd_of_lt (by omega)]
          show (luhnStep ((c.toNat - 65 + 10) % 10) double).bind _ = _
          rw [luhnStep_eq hunits]
          show (checkedAdd 32 sum _).bind _ = _
          rw [checkedAdd_of_lt (by omega)]
          show (luhnStep ((c.toNat - 65 + 10) / 10) (!double)).bind _ = _
          rw [luhnStep_eq htens]
          show (checkedAdd 32 _ _).bind _ = _
          rw [checkedAdd_of_lt (by omega)]
          show luhnSum _ double rest = _
          rw [ih hrest (by omega)]
          simp only [Nat.add_assoc]

theorem computeCheckDigit_eq {base : List UInt8} (hlength : base.length = baseLen)
    (hbase : forall b, b ∈ base -> isCodeByte b = true) :
    computeCheckDigit base = some (Isin.computeCheckDigit base) := by
  have hreverse : forall b, b ∈ base.reverse -> isCodeByte b = true :=
    fun b hb => hbase b (List.mem_reverse.mp hb)
  have hroom : 0 + 18 * base.reverse.length < 2 ^ 32 := by
    rw [List.length_reverse, hlength]
    decide
  have hrest : Isin.luhnSum true base.reverse % 10 < 10 :=
    Nat.mod_lt _ (by decide)
  unfold computeCheckDigit Isin.computeCheckDigit
  rw [checkedAssert_of hlength]
  show (luhnSum 0 true base.reverse).bind _ = _
  rw [luhnSum_eq hreverse hroom, Nat.zero_add]
  show (checkedSub 10 (Isin.luhnSum true base.reverse % 10)).bind _ = _
  rw [checkedSub_of_le (by omega)]
  show some ((10 - Isin.luhnSum true base.reverse % 10) % 10 % 2 ^ 8) = _
  rw [Nat.mod_eq_of_lt (by omega)]

section

variable {bytes : Bytes 12}

theorem checkedSlice_base :
    checkedSlice bytes.toList 0 baseLen = some (bytes.toList.take baseLen) := by
  apply checkedSlice_take
  rw [bytes.toList_length]
  decide

theorem computeCheckDigit_take (h : WellFormed bytes.toList) :
    computeCheckDigit (bytes.toList.take baseLen) =
      some (Isin.computeCheckDigit (bytes.toList.take baseLen)) := by
  apply computeCheckDigit_eq
  · rw [List.length_take, bytes.toList_length]
    rfl
  · intro b hb
    exact h.isCodeByte (List.mem_of_mem_take hb)

theorem checkDigit_eq (h : WellFormed bytes.toList) :
    checkDigit bytes = some ((bytes.toList.getD baseLen 48).toNat - 48) := by
  have hrange := isAsciiDigit_iff.mp (isAsciiDigit_last h)
  unfold checkDigit
  rw [get_eq_getD bytes 11 48]
  exact checkedSub_of_le hrange.left

theorem validateCheckDigit_eq (h : WellFormed bytes.toList) :
    validateCheckDigit bytes =
      Guarded.ofExcept (Isin.validateCheckDigit bytes.toList) := by
  have hfound := checkDigit_eq h
  unfold checkDigit at hfound
  unfold validateCheckDigit Isin.validateCheckDigit
  rw [checkedSlice_base]
  show (liftM (computeCheckDigit (bytes.toList.take baseLen)) >>= _ :
    Guarded IsinError Unit) = _
  rw [computeCheckDigit_take h, hfound]
  show (if Isin.computeCheckDigit (bytes.toList.take baseLen) ≠
      (bytes.toList.getD baseLen 48).toNat - 48 then throw _
    else pure ()) = Guarded.ofExcept
      (if Isin.computeCheckDigit (bytes.toList.take baseLen) ≠
        (bytes.toList.getD baseLen 48).toNat - 48 then _ else _)
  split
  · rfl
  · rfl

end

theorem checkCharacterClass_eq {i : Nat} (h : i < 255) (byte : UInt8) :
    checkCharacterClass i byte =
      Guarded.ofExcept (Isin.checkCharacterClass i byte) :=
  Guarded.checkClass_eq h _ _

theorem validate_eq (candidate : Bytes 12) :
    validate candidate = Guarded.ofExcept (Isin.validate candidate) := by
  unfold validate Isin.validate
  rw [Guarded.checkBytes_array (by decide) checkCharacterClass_eq candidate]
  apply Guarded.ofExcept_bind
  intro _ hchecked
  exact validateCheckDigit_eq
    ((checkBytes_eq_ok_iff_wellFormed _).mp hchecked)

/-- The places of twelve characters do not reach the last branch. -/
theorem expectedOfInput_eq {i : Nat} (h : i < 12) :
    expectedOfInput i = some (expectedClass i) := by
  have hall : forall place : Fin 12,
      expectedOfInput place = some (expectedClass place) := by
    decide
  exact hall ⟨i, h⟩

theorem normalize_eq (input : String) :
    normalize input = Guarded.ofExcept (Isin.normalize input) := by
  apply Guarded.normalizeCode_eq (by decide)
  intro i c hi
  rw [expectedOfInput_eq hi]
  rfl

theorem computeCheckDigit_eq_last (isin : Isin) :
    Isin.computeCheckDigit (isin.bytes.toList.take baseLen) =
      (isin.bytes.toList.getD baseLen 48).toNat - 48 := by
  rcases bind_eq_ok.mp isin.valid with ⟨_, _, h⟩
  unfold Isin.validateCheckDigit at h
  simp only at h
  split at h
  · cases h
  · rename_i heq
    exact not_not.mp heq

structure AccessorsReturn (isin : Isin) : Prop where
  asStr : asStr isin.bytes = some isin.asStr
  countryCode :
    countryCode isin.bytes = some (asciiText (isin.bytes.toList.take 2))
  country :
    exists found : Option CountryCode,
      country isin.bytes = some (found.map CountryCode.bytes)
  nsin : nsin isin.bytes = some (asciiText ((isin.bytes.toList.drop 2).take 9))
  checkDigit :
    exists digit, checkDigit isin.bytes = some digit ∧
      computedCheckDigit isin.bytes = some digit

structure NeverPanics : Prop where
  constructors :
    Guarded.RunsThrough Isin.bytes Isin.parse Isin.fromBytes parse fromBytes
  text : forall isin : Isin, Guarded.StoresText isin.bytes
  accessors : forall isin : Isin, AccessorsReturn isin

theorem storesText (isin : Isin) : Guarded.StoresText isin.bytes :=
  Guarded.storesText_of_codeBytes (fun _ => isin.isCodeByte_of_mem)

theorem accessorsReturn (isin : Isin) : AccessorsReturn isin := by
  have hform := ((validate_eq_ok_iff isin.bytes).mp isin.valid).left
  have hstored := storesText isin
  refine
    { asStr := hstored.text
      countryCode := hstored.slice (by decide) (by decide)
      country := ?_
      nsin := hstored.slice (by decide) (by decide)
      checkDigit := ?_ }
  · have hread := CountryCode.Checked.neverPanics.constructors.fromBytes
      ⟨[isin.bytes.get 0, isin.bytes.get 1], rfl⟩
    unfold country
    rw [hread]
    cases CountryCode.fromBytes ⟨[isin.bytes.get 0, isin.bytes.get 1], rfl⟩ with
    | error e => exact ⟨none, rfl⟩
    | ok found => exact ⟨some found, rfl⟩
  · refine ⟨_, checkDigit_eq hform, ?_⟩
    unfold computedCheckDigit
    show (checkedSlice isin.bytes.toList 0 baseLen).bind _ = _
    rw [checkedSlice_base]
    show computeCheckDigit (isin.bytes.toList.take baseLen) = _
    rw [computeCheckDigit_take hform, computeCheckDigit_eq_last isin]

theorem neverPanics : NeverPanics :=
  { constructors := Guarded.runsThrough normalize_eq validate_eq
      (fun _ => map_validated (fun _ _ => rfl))
    text := storesText
    accessors := accessorsReturn }

end Checked
end Isin

end Identifiers
end Valqeron
