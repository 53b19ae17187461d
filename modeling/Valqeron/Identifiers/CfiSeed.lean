import Valqeron.Foundation.BinarySearch
import Valqeron.Foundation.Decoding
import Valqeron.Foundation.Json
import Valqeron.Foundation.Utf8
import Valqeron.Identifiers.Cfi

/-!
# The taxonomy of financial instruments, at build time

The macro that turns a JSON taxonomy into the table of categories and groups:
it reads the codes, collects the letters of an attribute in a mask, and sorts
categories and groups by their codes.  Where the macro panics, the taxonomy is
rejected.
-/

namespace Valqeron
namespace Identifiers

open Foundation

namespace CfiSeed

open Cfi

inductive SeedError where
  | categoriesNotArray
  | groupsNotArray
  | valuesNotArray (key : String)
  | noValues (key : String) (group : Char)
  | notString (what : String)
  | notLetter (what found : String)
deriving DecidableEq, Repr

/-- The text of the panic; `debug` quotes a text. -/
def SeedError.message (debug : String -> String) : SeedError -> String
  | categoriesNotArray => "top-level `categories` must be an array"
  | groupsNotArray => "`groups` must be an array"
  | valuesNotArray key => s!"`{key}.attributeValues` must be an array"
  | noValues key group => s!"attribute `{key}` has no values in group {group}"
  | notString what => s!"{what} must be a string"
  | notLetter what found =>
      s!"{what} must be a single uppercase A-Z letter, found {debug found}"

def singleLetter (node : Json) (what : String) : Except SeedError UInt8 :=
  match node.asStr with
  | none => .error (.notString what)
  | some s =>
      match utf8Bytes s with
      | [byte] =>
          if isAsciiUppercase byte then
            .ok byte
          else
            .error (.notLetter what s)
      | _ => .error (.notLetter what s)

/-- The loop over the values of an attribute, which sets the bit of each. -/
def setLetters (mask : BitVec 32) : List Json -> Except SeedError (BitVec 32)
  | [] => .ok mask
  | value :: values =>
      match singleLetter (value.get "code") "attribute value code" with
      | .error e => .error e
      | .ok letter =>
          setLetters (mask ||| 1#32 <<< (letter.toNat - 65)) values

def attrKeys : List String :=
  ["attribute1", "attribute2", "attribute3", "attribute4"]

def attributeValues (group : Json) (key : String) : Option (List Json) :=
  ((group.get key).get "attributeValues").asArray

def attributeMask (group : Json) (code : UInt8) (key : String) :
    Except SeedError (BitVec 32) :=
  match attributeValues group key with
  | none => .error (.valuesNotArray key)
  | some values =>
      match setLetters 0#32 values with
      | .error e => .error e
      | .ok mask =>
          if mask = 0#32 then
            .error (.noValues key (charOfByte code))
          else
            .ok mask

def parseCfiGroup (group : Json) : Except SeedError GroupEntry := do
  let code ← singleLetter (group.get "code") "group code"
  let masks ← attrKeys.mapM (attributeMask group code)
  pure { code := code, attrs := masks }

def groupKey (group : GroupEntry) : Nat := group.code.toNat

def categoryKey (category : CategoryEntry) : Nat := category.code.toNat

def parseCfiCategory (category : Json) : Except SeedError CategoryEntry := do
  let code ← singleLetter (category.get "code") "category code"
  match (category.get "groups").asArray with
  | none => .error .groupsNotArray
  | some entries => do
      let groups ← entries.mapM parseCfiGroup
      pure { code := code, groups := sortByKey groupKey groups }

def parseCfiCategories (json : Json) : Except SeedError (List CategoryEntry) :=
  match (json.get "categories").asArray with
  | none => .error .categoriesNotArray
  | some entries => do
      let categories ← entries.mapM parseCfiCategory
      pure (sortByKey categoryKey categories)

/-!
## What a taxonomy lists
-/

def hasCode (letter : UInt8) (entry : Json) : Bool :=
  (entry.get "code").asStr == some (asciiText [letter])

def ListsLetter (group : Json) (key : String) (letter : UInt8) : Prop :=
  exists values, attributeValues group key = some values ∧
    exists value, value ∈ values ∧ hasCode letter value = true

def AllowsLetters (group : Json) (code : Bytes 6) : Prop :=
  forall i key letter, attrKeys[i]? = some key ->
    code.toList[i + 2]? = some letter -> ListsLetter group key letter

/-- An entry with the first letter has one with the second, with the others. -/
def Listed (json : Json) (code : Bytes 6) : Prop :=
  exists categories category groups group,
    (json.get "categories").asArray = some categories ∧
    category ∈ categories ∧ hasCode (code.get 0) category = true ∧
    (category.get "groups").asArray = some groups ∧
    group ∈ groups ∧ hasCode (code.get 1) group = true ∧
    AllowsLetters group code

def lastWithCode (letter : UInt8) (entries : List Json) : Option Json :=
  (entries.filter (hasCode letter)).getLast?

/-- As `Listed`, by the last entry with the first and with the second letter. -/
def ListedLast (json : Json) (code : Bytes 6) : Prop :=
  exists categories category groups group,
    (json.get "categories").asArray = some categories ∧
    lastWithCode (code.get 0) categories = some category ∧
    (category.get "groups").asArray = some groups ∧
    lastWithCode (code.get 1) groups = some group ∧
    AllowsLetters group code

def CodesDiffer (entries : List Json) : Prop :=
  entries.Pairwise (fun a b =>
    forall letter, hasCode letter a = true -> hasCode letter b = false)

/-- No code is repeated, neither of a category nor of a group in one. -/
def Unrepeated (json : Json) : Prop :=
  forall categories, (json.get "categories").asArray = some categories ->
    CodesDiffer categories ∧
      forall category groups, category ∈ categories ->
        (category.get "groups").asArray = some groups -> CodesDiffer groups

/-!
## The masks
-/

theorem attrAllows_eq (mask : BitVec 32) (code : UInt8) :
    attrAllows mask code = mask.getLsbD (code.toNat - 65) := by
  unfold attrAllows
  rw [BitVec.and_one_eq_setWidth_ofBool_getLsbD, BitVec.getLsbD_ushiftRight,
    Nat.add_zero]
  cases mask.getLsbD (code.toNat - 65) with
  | false => rfl
  | true => rfl

/-- A letter is allowed by a mask with a new letter when it is this or was. -/
theorem attrAllows_or {mask : BitVec 32} {letter code : UInt8}
    (hletter : isAsciiUppercase letter = true)
    (hcode : isAsciiUppercase code = true) :
    attrAllows (mask ||| 1#32 <<< (letter.toNat - 65)) code = true <->
      attrAllows mask code = true ∨ letter = code := by
  have hl := isAsciiUppercase_iff.mp hletter
  have hc := isAsciiUppercase_iff.mp hcode
  rw [attrAllows_eq, attrAllows_eq, BitVec.getLsbD_or, ← BitVec.twoPow_eq,
    BitVec.getLsbD_twoPow, Bool.or_eq_true, Bool.and_eq_true,
    decide_eq_true_eq, decide_eq_true_eq, ← UInt8.toNat_inj]
  refine or_congr Iff.rfl ?_
  omega

theorem singleLetter_ok {node : Json} {what : String} {letter : UInt8}
    (h : singleLetter node what = .ok letter) :
    isAsciiUppercase letter = true ∧
      node.asStr = some (asciiText [letter]) := by
  unfold singleLetter at h
  split at h
  · cases h
  rename_i s hs
  split at h
  · rename_i byte hbyte
    split at h
    · rename_i hupper
      cases h
      refine ⟨hupper, hs.trans (congrArg some (utf8Bytes_injective ?_))⟩
      rw [hbyte, utf8Bytes_asciiText]
      intro b hb
      rw [List.mem_singleton.mp hb]
      exact lt_128_of_isCodeByte (isCodeByte_of_isAsciiUppercase hupper)
    · cases h
  · cases h

theorem hasCode_of_singleLetter {entry : Json} {what : String}
    {code : UInt8} (h : singleLetter (entry.get "code") what = .ok code)
    (letter : UInt8) : hasCode letter entry = decide (code = letter) := by
  unfold hasCode
  rw [(singleLetter_ok h).right, Bool.eq_iff_iff, beq_iff_eq, Option.some_inj,
    decide_eq_true_eq]
  constructor
  · intro heq
    exact List.singleton_inj.mp (asciiText_injective heq)
  · intro heq
    rw [heq]

theorem setLetters_ok {mask mask' : BitVec 32} {values : List Json}
    (h : setLetters mask values = .ok mask') {letter : UInt8}
    (hletter : isAsciiUppercase letter = true) :
    attrAllows mask' letter = true <->
      attrAllows mask letter = true ∨
        exists value, value ∈ values ∧ hasCode letter value = true := by
  induction values generalizing mask with
  | nil =>
      cases h
      simp
  | cons value values ih =>
      unfold setLetters at h
      split at h
      · cases h
      · rename_i code hcode
        rw [ih h, attrAllows_or (singleLetter_ok hcode).left hletter, or_assoc,
          List.exists_mem_cons_iff, hasCode_of_singleLetter hcode,
          decide_eq_true_eq]

theorem attributeMask_ok {group : Json} {code : UInt8} {key : String}
    {mask : BitVec 32} (h : attributeMask group code key = .ok mask)
    {letter : UInt8} (hletter : isAsciiUppercase letter = true) :
    attrAllows mask letter = true <-> ListsLetter group key letter := by
  unfold attributeMask at h
  split at h
  · cases h
  rename_i values hvalues
  split at h
  · cases h
  rename_i mask' hmask
  split at h
  · cases h
  cases h
  have hnone : attrAllows 0#32 letter = false := by
    rw [attrAllows_eq, BitVec.getLsbD_zero]
  rw [setLetters_ok hmask hletter, hnone]
  unfold ListsLetter
  simp [hvalues]

/-!
## The groups and the categories
-/

theorem parseCfiGroup_ok {group : Json} {entry : GroupEntry}
    (h : parseCfiGroup group = .ok entry) :
    (forall letter, hasCode letter group = decide (entry.code = letter)) ∧
      List.Forall₂ (fun key mask => forall letter,
        isAsciiUppercase letter = true ->
          (attrAllows mask letter = true <-> ListsLetter group key letter))
        attrKeys entry.attrs := by
  unfold parseCfiGroup at h
  rcases bind_eq_ok.mp h with ⟨code, hcode, h⟩
  rcases bind_eq_ok.mp h with ⟨masks, hmasks, h⟩
  cases h
  refine ⟨hasCode_of_singleLetter hcode, ?_⟩
  apply (mapM_eq_ok_iff.mp hmasks).imp
  intro key mask hmask letter
  exact attributeMask_ok hmask

theorem parseCfiCategory_ok {category : Json} {entry : CategoryEntry}
    (h : parseCfiCategory category = .ok entry) :
    (forall letter, hasCode letter category = decide (entry.code = letter)) ∧
      exists entries groups,
        (category.get "groups").asArray = some entries ∧
        entries.mapM parseCfiGroup = .ok groups ∧
        entry.groups = sortByKey groupKey groups := by
  unfold parseCfiCategory at h
  rcases bind_eq_ok.mp h with ⟨code, hcode, h⟩
  split at h
  · cases h
  rename_i entries hentries
  rcases bind_eq_ok.mp h with ⟨groups, hgroups, h⟩
  cases h
  exact ⟨hasCode_of_singleLetter hcode, entries, groups, hentries, hgroups, rfl⟩

theorem groupKey_of_parse {letter : UInt8} {group : Json} {entry : GroupEntry}
    (h : parseCfiGroup group = .ok entry) :
    decide (groupKey entry = letter.toNat) = hasCode letter group := by
  rw [(parseCfiGroup_ok h).left, groupKey, decide_eq_decide, UInt8.toNat_inj]

theorem categoryKey_of_parse {letter : UInt8} {category : Json}
    {entry : CategoryEntry} (h : parseCfiCategory category = .ok entry) :
    decide (categoryKey entry = letter.toNat) = hasCode letter category := by
  rw [(parseCfiCategory_ok h).left, categoryKey, decide_eq_decide,
    UInt8.toNat_inj]

theorem parseCfiCategories_ok {json : Json} {table : List CategoryEntry}
    (h : parseCfiCategories json = .ok table) :
    exists entries categories,
      (json.get "categories").asArray = some entries ∧
      entries.mapM parseCfiCategory = .ok categories ∧
      table = sortByKey categoryKey categories := by
  unfold parseCfiCategories at h
  split at h
  · cases h
  rename_i entries hentries
  rcases bind_eq_ok.mp h with ⟨categories, hcategories, h⟩
  cases h
  exact ⟨entries, categories, hentries, hcategories, rfl⟩

theorem exists_category {json : Json} {table : List CategoryEntry}
    (h : parseCfiCategories json = .ok table) {categories : List Json}
    (hcategories : (json.get "categories").asArray = some categories)
    {category : Json} (hmem : category ∈ categories) :
    exists entry, parseCfiCategory category = .ok entry := by
  rcases parseCfiCategories_ok h with ⟨entries, rows, hentries, hrows, _⟩
  rw [hcategories] at hentries
  cases hentries
  exact exists_mapM_iff.mp ⟨rows, hrows⟩ category hmem

theorem exists_group {category : Json} {entry : CategoryEntry}
    (h : parseCfiCategory category = .ok entry) {groups : List Json}
    (hgroups : (category.get "groups").asArray = some groups) {group : Json}
    (hmem : group ∈ groups) :
    exists groupEntry, parseCfiGroup group = .ok groupEntry := by
  rcases (parseCfiCategory_ok h).right with
    ⟨entries, rows, hentries, hrows, _⟩
  rw [hgroups] at hentries
  cases hentries
  exact exists_mapM_iff.mp ⟨rows, hrows⟩ group hmem

theorem mem_of_lastWithCode {letter : UInt8} {entries : List Json}
    {entry : Json} (h : lastWithCode letter entries = some entry) :
    entry ∈ entries :=
  List.mem_of_mem_filter (List.mem_of_getLast? h)

theorem hasCode_of_lastWithCode {letter : UInt8} {entries : List Json}
    {entry : Json} (h : lastWithCode letter entries = some entry) :
    hasCode letter entry = true :=
  List.of_mem_filter (List.mem_of_getLast? h)

theorem ListedLast.listed {json : Json} {code : Bytes 6}
    (h : ListedLast json code) : Listed json code := by
  rcases h with ⟨categories, category, groups, group, hcategories, hcategory,
    hgroups, hgroup, hallows⟩
  exact ⟨categories, category, groups, group, hcategories,
    mem_of_lastWithCode hcategory, hasCode_of_lastWithCode hcategory, hgroups,
    mem_of_lastWithCode hgroup, hasCode_of_lastWithCode hgroup, hallows⟩

theorem lastWithCode_of_codesDiffer {entries : List Json}
    (h : CodesDiffer entries) {letter : UInt8} {entry : Json}
    (hmem : entry ∈ entries) (hcode : hasCode letter entry = true) :
    lastWithCode letter entries = some entry := by
  rcases List.append_of_mem hmem with ⟨before, after, rfl⟩
  have hlater := (List.pairwise_cons.mp (List.pairwise_append.mp h).right.left).left
  have hnone : after.filter (hasCode letter) = [] := by
    rw [List.filter_eq_nil_iff]
    intro other hother
    rw [hlater other hother letter hcode]
    exact Bool.false_ne_true
  unfold lastWithCode
  rw [List.filter_append, List.filter_cons_of_pos hcode, hnone,
    List.getLast?_concat]

theorem Listed.last {json : Json} (hunrepeated : Unrepeated json)
    {code : Bytes 6} (h : Listed json code) : ListedLast json code := by
  rcases h with ⟨categories, category, groups, group, hcategories, hcategory,
    hcategoryCode, hgroups, hgroup, hgroupCode, hallows⟩
  rcases hunrepeated categories hcategories with ⟨hdiffer, hgroupsDiffer⟩
  exact ⟨categories, category, groups, group, hcategories,
    lastWithCode_of_codesDiffer hdiffer hcategory hcategoryCode, hgroups,
    lastWithCode_of_codesDiffer (hgroupsDiffer category groups hcategory hgroups)
      hgroup hgroupCode,
    hallows⟩

/-- The search in a sorted table finds what the last entry became. -/
theorem lookupByKey_mapM {row : Type} {decode : Json -> Except SeedError row}
    {keyOf : row -> Nat} {letter : UInt8} {entries : List Json}
    {rows : List row} {found : row}
    (hcode : forall {entry r}, decode entry = .ok r ->
      decide (keyOf r = letter.toNat) = hasCode letter entry)
    (h : entries.mapM decode = .ok rows) :
    lookupByKey keyOf (sortByKey keyOf rows) letter.toNat = some found <->
      exists entry, lastWithCode letter entries = some entry ∧
        decode entry = .ok found := by
  have hpairs := mapM_eq_ok_iff.mp (mapM_filter hcode h)
  rw [lookupByKey_sortByKey]
  unfold lastWithCode
  constructor
  · intro hfound
    exact getLast?_of_forall₂ hpairs.flip hfound
  · intro h
    rcases h with ⟨entry, hentry, hdecode⟩
    rcases getLast?_of_forall₂ hpairs hentry with ⟨r, hr, hdecode'⟩
    rw [hdecode] at hdecode'
    cases hdecode'
    exact hr

end CfiSeed

end Identifiers
end Valqeron
