import Valqeron.Foundation.Guarded
import Valqeron.Identifiers.CnpjLanguage

/-!
# CNPJs, with the panics

The code saturates where it could overflow and has a value to fall back on where
it could be out of range.  Neither happens.
-/

namespace Valqeron
namespace Identifiers

open Foundation

namespace Cnpj
namespace Checked

def saturate (width n : Nat) : Nat := min n (2 ^ width - 1)

/-- `u8::try_from(n).unwrap_or(0)` -/
def tryByte (n : Nat) : Nat := if n < 2 ^ 8 then n else 0

def position (i : Nat) : Nat := saturate 8 (tryByte i + 1)

def saturatingSum (start : Nat) (pairs : List (Nat × Nat)) : Nat :=
  pairs.foldl (fun sum vw => saturate 32 (sum + saturate 32 (vw.1 * vw.2))) start

def computeCheckDigit (values weights : List Nat) : Option Nat := do
  checkedAssert (values.length = weights.length)
  let remainder := saturatingSum 0 (values.zip weights) % 11
  pure (if remainder < 2 then 0 else tryByte (11 - remainder))

def computeValidCheckDigits (base : List UInt8) : Option (Nat × Nat) := do
  let baseValues := base.map charValue
  let dv1 ← computeCheckDigit baseValues weightsDv1
  let dv2Input := (List.range (baseLen + 1)).map
    (fun i => (baseValues[i]?).getD dv1)
  let dv2 ← computeCheckDigit dv2Input weightsDv2
  pure (dv1, dv2)

def found (candidate : Bytes 14) (i : Nat) : Nat :=
  ((candidate.toList[i]?).map (fun b => tryByte (charValue b))).getD 0

def validateCheckDigits (candidate : Bytes 14) : Guarded CnpjError Unit := do
  let base :=
    (checkedSlice candidate.toList 0 baseLen).getD (List.replicate baseLen 48)
  let expected ← computeValidCheckDigits base
  if expected.1 ≠ found candidate 12 then
    throw (.invalidCheckDigits 13 expected.1 (found candidate 12))
  else if expected.2 ≠ found candidate 13 then
    throw (.invalidCheckDigits 14 expected.2 (found candidate 13))
  else
    pure ()

def validateNotRepeated (candidate : Bytes 14) : Guarded CnpjError Unit :=
  if candidate.toList.all (fun b => b == candidate.get 0) then
    throw .repeatedDigits
  else
    pure ()

def checkCharacterClass (i : Nat) (byte : UInt8) : Guarded CnpjError Unit :=
  let isValid :=
    if i < baseLen then
      isAsciiDigit byte || isAsciiUppercase byte
    else
      isAsciiDigit byte
  let expected : CharacterClass :=
    if i < baseLen then .alphanumeric else .digit
  if isValid then
    pure ()
  else
    throw (.invalidCharacter (charOfByte byte) (position i) expected)

def validate (candidate : Bytes 14) : Guarded CnpjError Unit := do
  Guarded.checkBytes checkCharacterClass 0 candidate.toList
  validateNotRepeated candidate
  validateCheckDigits candidate

/-- The source walks over the places of the array instead of indexing it. -/
def normalize (input : String) : Guarded CnpjError (Bytes 14) :=
  Guarded.normalizeSelected 14 .empty .invalidLength
    (fun i c => some (.invalidCharacter c (position i) .alphanumeric))
    input.isEmpty (input.toList.filter (fun c => !isFormattingChar c))

def fromBytes (bytes : Bytes 14) : Guarded CnpjError (Bytes 14) :=
  Guarded.fromBytes validate bytes

def parse (input : String) : Guarded CnpjError (Bytes 14) :=
  Guarded.parse normalize validate input

def asStr (bytes : Bytes 14) : Option String := fromUtf8 bytes.toList

/-- A part of the text; `get` has an empty text instead of a panic. -/
def part (bytes : Bytes 14) (start stop : Nat) : Option String := do
  let text ← asStr bytes
  pure ((sliceText text start stop).getD "")

def root (bytes : Bytes 14) : Option String := part bytes 0 8

def branchCode (bytes : Bytes 14) : Option String := part bytes 8 12

def isRoot (bytes : Bytes 14) : Option Bool := do
  let branch ← branchCode bytes
  pure (branch == "0001")

def branchNumber (bytes : Bytes 14) : Option (Option Nat) := do
  let branch ← branchCode bytes
  pure (parseUnsigned (2 ^ 16) branch)

def checkDigits (bytes : Bytes 14) : Option (Nat × Nat) := do
  let first ← bytes.toList[12]?
  let second ← bytes.toList[13]?
  -- `saturating_sub`
  pure (charValue first, charValue second)

def formatted (bytes : Bytes 14) : Option (List UInt8) := do
  let d := bytes.get
  let layout := [d 0, d 1, 46, d 2, d 3, d 4, 46, d 5, d 6, d 7, 47, d 8, d 9,
    d 10, d 11, 45, d 12, d 13]
  -- `copy_from_slice`
  checkedAssert (layout.length = 18)
  pure layout

theorem saturate_of_lt {width n : Nat} (h : n < 2 ^ width) :
    saturate width n = n :=
  Nat.min_eq_left (Nat.le_sub_one_of_lt h)

theorem tryByte_of_lt {n : Nat} (h : n < 2 ^ 8) : tryByte n = n := if_pos h

theorem position_of_lt {i : Nat} (h : i < 255) : position i = i + 1 := by
  unfold position
  rw [tryByte_of_lt (by omega), saturate_of_lt (by omega)]

theorem charValue_lt (b : UInt8) : charValue b < 2 ^ 8 := by
  have hb := b.toNat_lt
  unfold charValue
  omega

/-- A product is less than 4096, so that a short sum stays below the largest value. -/
theorem saturatingSum_eq (start : Nat) (pairs : List (Nat × Nat))
    (hpairs : forall vw, vw ∈ pairs -> vw.1 < 2 ^ 8 ∧ vw.2 < 2 ^ 4)
    (hroom : start + 2 ^ 12 * pairs.length < 2 ^ 32) :
    saturatingSum start pairs =
      start + (pairs.map (fun vw => vw.1 * vw.2)).sum := by
  unfold saturatingSum
  induction pairs generalizing start with
  | nil => rfl
  | cons vw rest ih =>
      rw [List.length_cons] at hroom
      have hproduct : vw.1 * vw.2 < 2 ^ 12 := by
        have hvw := hpairs vw List.mem_cons_self
        calc
          vw.1 * vw.2 <= 2 ^ 8 * vw.2 :=
            Nat.mul_le_mul_right _ (Nat.le_of_lt hvw.left)
          _ < 2 ^ 8 * 2 ^ 4 := (Nat.mul_lt_mul_left (by decide)).mpr hvw.right
      have hothers : forall other, other ∈ rest ->
          other.1 < 2 ^ 8 ∧ other.2 < 2 ^ 4 :=
        fun other hother => hpairs other (List.mem_cons_of_mem _ hother)
      have hsum : start + vw.1 * vw.2 < 2 ^ 32 := by omega
      have hsaturated : saturate 32 (vw.1 * vw.2) = vw.1 * vw.2 :=
        saturate_of_lt (by omega)
      rw [List.foldl_cons, hsaturated, saturate_of_lt hsum,
        ih (start + vw.1 * vw.2) hothers (by omega), List.map_cons,
        List.sum_cons, Nat.add_assoc]

theorem computeCheckDigit_lt (values weights : List Nat) :
    Cnpj.computeCheckDigit values weights < 2 ^ 8 := by
  unfold Cnpj.computeCheckDigit
  simp only
  split
  · decide
  · omega

theorem computeCheckDigit_eq {values weights : List Nat}
    (hlength : values.length = weights.length)
    (hshort : values.length <= 2 ^ 4)
    (hvalues : forall v, v ∈ values -> v < 2 ^ 8)
    (hweights : forall w, w ∈ weights -> w < 2 ^ 4) :
    computeCheckDigit values weights =
      some (Cnpj.computeCheckDigit values weights) := by
  have hpairs : forall vw, vw ∈ values.zip weights ->
      vw.1 < 2 ^ 8 ∧ vw.2 < 2 ^ 4 := by
    intro vw hvw
    have hboth := List.of_mem_zip hvw
    exact ⟨hvalues vw.1 hboth.left, hweights vw.2 hboth.right⟩
  have hroom : 0 + 2 ^ 12 * (values.zip weights).length < 2 ^ 32 := by
    rw [List.length_zip]
    omega
  have hsum := saturatingSum_eq 0 (values.zip weights) hpairs hroom
  have hdigit : 11 - ((values.zip weights).map (fun vw => vw.1 * vw.2)).sum % 11 <
      2 ^ 8 := by
    omega
  unfold computeCheckDigit Cnpj.computeCheckDigit
  rw [checkedAssert_of hlength, hsum, Nat.zero_add]
  show some (if _ % 11 < 2 then 0 else tryByte (11 - _ % 11)) = _
  rw [tryByte_of_lt hdigit]

theorem map_range_getD (values : List Nat) (last : Nat) :
    (List.range (values.length + 1)).map (fun i => (values[i]?).getD last) =
      values ++ [last] := by
  have hvalues : (List.range values.length).map (fun i => (values[i]?).getD last) =
      values := by
    apply List.ext_getElem
    · rw [List.length_map, List.length_range]
    · intro i _ hi
      rw [List.getElem_map, List.getElem_range, List.getElem?_eq_getElem hi]
      rfl
  have hlast : values[values.length]? = none :=
    List.getElem?_eq_none (Nat.le_refl _)
  rw [List.range_succ, List.map_append, hvalues, List.map_singleton, hlast]
  rfl

theorem computeValidCheckDigits_eq {base : List UInt8}
    (hlength : base.length = baseLen) :
    computeValidCheckDigits base = some (Cnpj.computeValidCheckDigits base) := by
  have hvalues : (base.map charValue).length = baseLen := by
    rw [List.length_map, hlength]
  have hsmall : forall v, v ∈ base.map charValue -> v < 2 ^ 8 := by
    intro v hv
    rcases List.mem_map.mp hv with ⟨b, _, rfl⟩
    exact charValue_lt b
  have hfirst : computeCheckDigit (base.map charValue) weightsDv1 =
      some (Cnpj.computeCheckDigit (base.map charValue) weightsDv1) := by
    apply computeCheckDigit_eq _ _ hsmall (by decide)
    · rw [hvalues]
      rfl
    · rw [hvalues]
      decide
  have hdv1 := computeCheckDigit_lt (base.map charValue) weightsDv1
  have hinput := map_range_getD (base.map charValue)
    (Cnpj.computeCheckDigit (base.map charValue) weightsDv1)
  rw [hvalues] at hinput
  unfold computeValidCheckDigits Cnpj.computeValidCheckDigits
  simp only
  rw [hfirst]
  simp only [Option.bind_eq_bind, Option.bind_some]
  rw [hinput, computeCheckDigit_eq]
  · rfl
  · rw [List.length_append, hvalues]
    rfl
  · rw [List.length_append, hvalues, List.length_singleton]
    decide
  · intro v hv
    rcases List.mem_append.mp hv with hv | hv
    · exact hsmall v hv
    · rw [List.mem_singleton.mp hv]
      exact hdv1
  · decide

theorem checkedSlice_base (candidate : Bytes 14) :
    checkedSlice candidate.toList 0 baseLen =
      some (candidate.toList.take baseLen) := by
  apply checkedSlice_take
  rw [candidate.toList_length]
  decide

theorem found_eq (candidate : Bytes 14) {i : Nat} (hi : i < 14) :
    found candidate i = charValue (candidate.toList.getD i 48) := by
  have hplace : i < candidate.toList.length := by
    rw [candidate.toList_length]
    exact hi
  unfold found
  rw [List.getD_eq_getElem?_getD, List.getElem?_eq_getElem hplace]
  exact tryByte_of_lt (charValue_lt _)

theorem validateCheckDigits_eq (candidate : Bytes 14) :
    validateCheckDigits candidate =
      Guarded.ofExcept (Cnpj.validateCheckDigits candidate.toList) := by
  have hlength : (candidate.toList.take baseLen).length = baseLen := by
    rw [List.length_take, candidate.toList_length]
    rfl
  unfold validateCheckDigits Cnpj.validateCheckDigits
  simp only
  rw [checkedSlice_base, found_eq candidate (by decide),
    found_eq candidate (by decide), Option.getD_some,
    computeValidCheckDigits_eq hlength]
  show (if _ ≠ charValue (candidate.toList.getD 12 48) then throw _
    else if _ ≠ charValue (candidate.toList.getD 13 48) then throw _
    else pure ()) = Guarded.ofExcept _
  split
  · rfl
  · split
    · rfl
    · rfl

theorem validateNotRepeated_eq (candidate : Bytes 14) :
    validateNotRepeated candidate =
      Guarded.ofExcept (Cnpj.validateNotRepeated candidate.toList) := by
  have hhead : candidate.toList.head? = some (candidate.get 0) := by
    rcases candidate with ⟨bytes, hbytes⟩
    cases bytes with
    | nil => cases hbytes
    | cons b rest => rfl
  have hsame : candidate.toList.all (fun b => b == candidate.get 0) =
      candidate.toList.all (fun b => some b == candidate.toList.head?) := by
    rw [hhead]
    rfl
  unfold validateNotRepeated Cnpj.validateNotRepeated
  rw [hsame]
  split
  · rfl
  · rfl

theorem checkCharacterClass_eq {i : Nat} (h : i < 255) (byte : UInt8) :
    checkCharacterClass i byte =
      Guarded.ofExcept (Cnpj.checkCharacterClass i byte) := by
  unfold checkCharacterClass Cnpj.checkCharacterClass
  rw [position_of_lt h]
  dsimp only
  generalize (if i < baseLen then isAsciiDigit byte || isAsciiUppercase byte
    else isAsciiDigit byte) = isValid
  cases isValid with
  | true => rfl
  | false => rfl

theorem validate_eq (candidate : Bytes 14) :
    validate candidate = Guarded.ofExcept (Cnpj.validate candidate) := by
  unfold validate Cnpj.validate
  rw [Guarded.checkBytes_array (by decide) checkCharacterClass_eq candidate]
  apply Guarded.ofExcept_bind
  intro _ _
  rw [validateNotRepeated_eq]
  apply Guarded.ofExcept_bind
  intro _ _
  exact validateCheckDigits_eq candidate

theorem normalize_eq (input : String) :
    normalize input = Guarded.ofExcept (Cnpj.normalize input) := by
  apply Guarded.normalizeSelected_eq
  intro i c hi _
  rw [position_of_lt (by omega)]

structure AccessorsReturn (cnpj : Cnpj) : Prop where
  asStr : asStr cnpj.bytes = some cnpj.asStr
  root : root cnpj.bytes = some (asciiText (cnpj.bytes.toList.take 8))
  branchCode : branchCode cnpj.bytes = some cnpj.branchCode
  isRoot : isRoot cnpj.bytes = some cnpj.isRoot
  branchNumber : branchNumber cnpj.bytes = some cnpj.branchNumber
  checkDigits :
    checkDigits cnpj.bytes =
      some (charValue (cnpj.bytes.get 12), charValue (cnpj.bytes.get 13))
  formatted : formatted cnpj.bytes = some cnpj.formatted.bytes.toList
  formattedText :
    fromUtf8 cnpj.formatted.bytes.toList = some cnpj.formatted.asStr

structure NeverPanics : Prop where
  constructors :
    Guarded.RunsThrough Cnpj.bytes Cnpj.parse Cnpj.fromBytes parse fromBytes
  text : forall cnpj : Cnpj, Guarded.StoresText cnpj.bytes
  accessors : forall cnpj : Cnpj, AccessorsReturn cnpj

theorem storesText (cnpj : Cnpj) : Guarded.StoresText cnpj.bytes :=
  Guarded.storesText_of_codeBytes (fun _ => cnpj.isCodeByte_of_mem)

theorem part_eq (cnpj : Cnpj) {start stop : Nat} (hstart : start <= stop)
    (hstop : stop <= 14) :
    part cnpj.bytes start stop =
      some (asciiText ((cnpj.bytes.toList.drop start).take (stop - start))) := by
  have hstored := storesText cnpj
  have hlength : stop <= cnpj.bytes.toList.length := by
    rw [cnpj.bytes.toList_length]
    exact hstop
  have hslice := sliceText_ascii hstored.ascii hstart hlength
  unfold part asStr
  rw [hstored.text]
  show some ((sliceText (asciiText cnpj.bytes.toList) start stop).getD "") = _
  rw [hslice]
  rfl

theorem formatted_ascii (cnpj : Cnpj) {b : UInt8}
    (hb : b ∈ cnpj.formatted.bytes.toList) : b.toNat < 128 := by
  have hcode : forall i, (cnpj.bytes.get i).toNat < 128 := by
    intro i
    exact lt_128_of_isCodeByte
      (cnpj.isCodeByte_of_mem (List.Vector.get_mem i cnpj.bytes))
  have hdot : (46 : UInt8).toNat < 128 := by decide
  have hslash : (47 : UInt8).toNat < 128 := by decide
  have hdash : (45 : UInt8).toNat < 128 := by decide
  have hlayout : forall c, c ∈ cnpj.formatted.bytes.toList -> c.toNat < 128 := by
    show forall c, c ∈ [cnpj.bytes.get 0, cnpj.bytes.get 1, 46,
      cnpj.bytes.get 2, cnpj.bytes.get 3, cnpj.bytes.get 4, 46,
      cnpj.bytes.get 5, cnpj.bytes.get 6, cnpj.bytes.get 7, 47,
      cnpj.bytes.get 8, cnpj.bytes.get 9, cnpj.bytes.get 10,
      cnpj.bytes.get 11, 45, cnpj.bytes.get 12, cnpj.bytes.get 13] ->
      c.toNat < 128
    simp only [List.forall_mem_cons, hcode, hdot, hslash, hdash, true_and]
    exact List.forall_mem_nil _
  exact hlayout b hb

theorem accessorsReturn (cnpj : Cnpj) : AccessorsReturn cnpj := by
  have hbranch : branchCode cnpj.bytes = some cnpj.branchCode :=
    part_eq cnpj (by decide) (by decide)
  exact
    { asStr := (storesText cnpj).text
      root := part_eq cnpj (by decide) (by decide)
      branchCode := hbranch
      isRoot := by
        unfold isRoot
        rw [hbranch]
        rfl
      branchNumber := by
        unfold branchNumber
        rw [hbranch]
        rfl
      checkDigits := by
        have hfirst := getElem?_toList cnpj.bytes 12
        have hsecond := getElem?_toList cnpj.bytes 13
        show (cnpj.bytes.toList[(12 : Fin 14).val]?).bind _ = _
        rw [hfirst]
        show (cnpj.bytes.toList[(13 : Fin 14).val]?).bind _ = _
        rw [hsecond]
        rfl
      formatted := rfl
      formattedText := fromUtf8_eq_some (fun _ => formatted_ascii cnpj) }

theorem neverPanics : NeverPanics :=
  { constructors := Guarded.runsThrough normalize_eq validate_eq
      (fun _ => map_validated (fun _ _ => rfl))
    text := storesText
    accessors := accessorsReturn }

end Checked
end Cnpj

end Identifiers
end Valqeron
