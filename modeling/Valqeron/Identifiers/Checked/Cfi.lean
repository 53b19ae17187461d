import Valqeron.Foundation.Guarded
import Valqeron.Identifiers.CfiTaxonomy

/-!
# CFI codes, with the panics

The letters are checked before the taxonomy is searched, so that no mask is
shifted by more than its width; a group has a mask for each of the attributes.
-/

namespace Valqeron
namespace Identifiers

open Foundation

namespace Cfi
namespace Checked

open CfiSeed

def findCategory (code : UInt8) : Option (Option CategoryEntry) :=
  checkedLookup categoryKey categories code.toNat

def findGroup (category : CategoryEntry) (code : UInt8) :
    Option (Option GroupEntry) :=
  checkedLookup groupKey category.groups code.toNat

def attrAllows (mask : BitVec 32) (code : UInt8) : Option Bool := do
  let letter ← checkedSub code.toNat 65
  let bits ← checkedShiftRight mask letter
  pure (bits &&& 1#32 == 1#32)

def checkAttribute (category : UInt8) (group : GroupEntry) (i : Nat)
    (code : UInt8) : Guarded CfiError Unit := do
  let mask ← (group.attrs[i]? : Option (BitVec 32))
  if !(← attrAllows mask code) then
    let index ← Guarded.position i
    throw
      (.invalidAttribute (charOfByte category) (charOfByte group.code) index
        (charOfByte code))

def validateTaxonomy (candidate : Bytes 6) : Guarded CfiError Unit := do
  let categoryCode := candidate.get 0
  match ← findCategory categoryCode with
  | none => throw (.unknownCategory (charOfByte categoryCode))
  | some category =>
      let groupCode := candidate.get 1
      match ← findGroup category groupCode with
      | none =>
          throw (.unknownGroup (charOfByte categoryCode) (charOfByte groupCode))
      | some group =>
          let attributes ← checkedSlice candidate.toList 2 candidate.toList.length
          Guarded.checkBytes (checkAttribute categoryCode group) 0 attributes

def checkCharacterClass (i : Nat) (byte : UInt8) : Guarded CfiError Unit :=
  Guarded.checkClass (isAsciiUppercase byte) i
    (.invalidCharacter (charOfByte byte))

def validate (candidate : Bytes 6) : Guarded CfiError Unit := do
  Guarded.checkBytes checkCharacterClass 0 candidate.toList
  validateTaxonomy candidate

def normalize (input : String) : Guarded CfiError (Bytes 6) :=
  Guarded.normalizeCode 6 .empty .invalidLength
    (fun _ c position => some (.invalidCharacter c position)) input

def fromBytes (bytes : Bytes 6) : Guarded CfiError (Bytes 6) :=
  Guarded.fromBytes validate bytes

def parse (input : String) : Guarded CfiError (Bytes 6) :=
  Guarded.parse normalize validate input

def asStr (bytes : Bytes 6) : Option String := fromUtf8 bytes.toList

def letter (bytes : Bytes 6) (i : Nat) : Option Char :=
  (bytes.toList[i]?).map charOfByte

def category (bytes : Bytes 6) : Option Char := letter bytes 0

def group (bytes : Bytes 6) : Option Char := letter bytes 1

def attributes (bytes : Bytes 6) : Option (List Char) :=
  [2, 3, 4, 5].mapM (letter bytes)

theorem attrAllows_eq {mask : BitVec 32} {code : UInt8}
    (h : isAsciiUppercase code = true) :
    attrAllows mask code = some (Cfi.attrAllows mask code) := by
  have hcode := isAsciiUppercase_iff.mp h
  unfold attrAllows
  rw [checkedSub_of_le hcode.left]
  show (checkedShiftRight mask (code.toNat - 65)).bind _ = _
  rw [checkedShiftRight_of_lt (by omega)]
  rfl

theorem length_attrs {category : CategoryEntry} {group : GroupEntry}
    (hcategory : category ∈ categories) (hgroup : group ∈ category.groups) :
    group.attrs.length = 4 := by
  rcases List.mem_map.mp hcategory with ⟨row, _, rfl⟩
  rcases List.mem_map.mp hgroup with ⟨letters, _, rfl⟩
  rfl

theorem checkAttribute_eq {category : UInt8} {group : GroupEntry}
    (hattrs : group.attrs.length = 4) {i : Nat} (hi : i < 4) {code : UInt8}
    (hcode : isAsciiUppercase code = true) :
    checkAttribute category group i code =
      Guarded.ofExcept (Cfi.checkAttribute category group i code) := by
  have hmask : i < group.attrs.length := by
    rw [hattrs]
    exact hi
  unfold checkAttribute Cfi.checkAttribute
  rw [List.getD_eq_getElem?_getD, List.getElem?_eq_getElem hmask,
    Guarded.position_of_lt (by omega)]
  show (liftM (attrAllows group.attrs[i] code) >>= _ : Guarded CfiError Unit) = _
  rw [attrAllows_eq hcode]
  cases hallowed : Cfi.attrAllows group.attrs[i] code with
  | true =>
      rw [Option.getD_some, hallowed]
      rfl
  | false =>
      rw [Option.getD_some, hallowed]
      rfl

theorem findCategory_eq (code : UInt8) :
    findCategory code = some (Cfi.findCategory code) := by
  unfold findCategory
  rw [checkedLookup_eq, ← findCategoryIn_categories]
  rfl

theorem findGroup_eq {category : CategoryEntry}
    (hcategory : category ∈ categories) (code : UInt8) :
    findGroup category code = some (Cfi.findGroup category code) := by
  unfold findGroup
  rw [checkedLookup_eq, ← findGroupIn_categories hcategory]
  rfl

theorem validateTaxonomy_eq {candidate : Bytes 6}
    (hupper : forall b, b ∈ candidate.toList -> isAsciiUppercase b = true) :
    validateTaxonomy candidate =
      Guarded.ofExcept (Cfi.validateTaxonomy candidate) := by
  have hlength := candidate.toList_length
  unfold validateTaxonomy Cfi.validateTaxonomy
  simp only
  rw [findCategory_eq]
  cases hcategory : Cfi.findCategory (candidate.get 0) with
  | none => rfl
  | some category =>
      have hmem : category ∈ categories := List.mem_of_find?_eq_some hcategory
      dsimp only
      show (liftM (findGroup category (candidate.get 1)) >>= _ :
        Guarded CfiError Unit) = _
      rw [findGroup_eq hmem]
      cases hgroup : Cfi.findGroup category (candidate.get 1) with
      | none => rfl
      | some group =>
          have hattrs := length_attrs hmem (List.mem_of_find?_eq_some hgroup)
          have hfour : (candidate.toList.drop 2).length = 4 := by
            rw [List.length_drop, hlength]
          have hslice : checkedSlice candidate.toList 2 candidate.toList.length =
              some (candidate.toList.drop 2) := by
            rw [checkedSlice_of_le (by omega) (Nat.le_refl _), hlength,
              List.take_of_length_le (Nat.le_of_eq hfour)]
          rw [hslice]
          exact Guarded.checkBytes_eq
            (fun j b hj hb =>
              checkAttribute_eq hattrs hj (hupper b (List.mem_of_mem_drop hb)))
            (by rw [hfour])

theorem checkCharacterClass_eq {i : Nat} (h : i < 255) (byte : UInt8) :
    checkCharacterClass i byte =
      Guarded.ofExcept (Cfi.checkCharacterClass i byte) :=
  Guarded.checkClass_eq h _ _

theorem isAsciiUppercase_of_checkBytes {bytes : List UInt8}
    (h : checkBytes Cfi.checkCharacterClass 0 bytes = .ok ()) {b : UInt8}
    (hb : b ∈ bytes) : isAsciiUppercase b = true := by
  rcases checkBytes_mem h hb with ⟨i, hi⟩
  unfold Cfi.checkCharacterClass at hi
  split at hi
  · assumption
  · cases hi

theorem validate_eq (candidate : Bytes 6) :
    validate candidate = Guarded.ofExcept (Cfi.validate candidate) := by
  unfold validate Cfi.validate
  rw [Guarded.checkBytes_array (by decide) checkCharacterClass_eq candidate]
  apply Guarded.ofExcept_bind
  intro _ hchecked
  exact validateTaxonomy_eq (fun _ => isAsciiUppercase_of_checkBytes hchecked)

theorem normalize_eq (input : String) :
    normalize input = Guarded.ofExcept (Cfi.normalize input) := by
  apply Guarded.normalizeCode_eq (by decide)
  intro i c _
  rfl

theorem letter_eq (bytes : Bytes 6) (i : Fin 6) :
    letter bytes i = some (charOfByte (bytes.get i)) :=
  congrArg (Option.map charOfByte) (getElem?_toList bytes i)

structure AccessorsReturn (cfi : Cfi) : Prop where
  asStr : asStr cfi.bytes = some cfi.asStr
  category : category cfi.bytes = some (charOfByte (cfi.bytes.get 0))
  group : group cfi.bytes = some (charOfByte (cfi.bytes.get 1))
  attributes :
    attributes cfi.bytes =
      some ([2, 3, 4, 5].map (fun i => charOfByte (cfi.bytes.get i)))

structure NeverPanics : Prop where
  constructors :
    Guarded.RunsThrough Cfi.bytes Cfi.parse Cfi.fromBytes parse fromBytes
  text : forall cfi : Cfi, Guarded.StoresText cfi.bytes
  accessors : forall cfi : Cfi, AccessorsReturn cfi

theorem storesText (cfi : Cfi) : Guarded.StoresText cfi.bytes :=
  Guarded.storesText_of_codeBytes (fun _ => cfi.isCodeByte_of_mem)

theorem accessorsReturn (cfi : Cfi) : AccessorsReturn cfi where
  asStr := (storesText cfi).text
  category := letter_eq cfi.bytes 0
  group := letter_eq cfi.bytes 1
  attributes := by
    have hletters : letter cfi.bytes ∘ Fin.val =
        fun i : Fin 6 => pure (charOfByte (cfi.bytes.get i)) :=
      funext (letter_eq cfi.bytes)
    show (([2, 3, 4, 5] : List (Fin 6)).map Fin.val).mapM _ = _
    rw [List.mapM_map, hletters, List.mapM_pure]
    rfl

theorem neverPanics : NeverPanics :=
  { constructors := Guarded.runsThrough normalize_eq validate_eq
      (fun _ => map_validated (fun _ _ => rfl))
    text := storesText
    accessors := accessorsReturn }

end Checked
end Cfi

end Identifiers
end Valqeron
