import Valqeron.Identifiers.CfiSeed

/-!
# The codes that a generated taxonomy accepts

The lookups of a table, which is searched by halving: an entry is found only as
the last one with its code, so that a table accepts what its taxonomy lists as
long as no later entry hides a listing one.
-/

namespace Valqeron
namespace Identifiers

open Foundation

namespace Cfi

open CfiSeed

section Table

variable (table : List CategoryEntry)

def findCategoryIn (code : UInt8) : Option CategoryEntry :=
  lookupByKey categoryKey table code.toNat

def findGroupIn (category : CategoryEntry) (code : UInt8) : Option GroupEntry :=
  lookupByKey groupKey category.groups code.toNat

def validateTaxonomyIn (candidate : Bytes 6) : Except CfiError Unit :=
  let categoryCode := candidate.get 0
  match findCategoryIn table categoryCode with
  | none => .error (.unknownCategory (charOfByte categoryCode))
  | some category =>
      let groupCode := candidate.get 1
      match findGroupIn category groupCode with
      | none =>
          .error
            (.unknownGroup (charOfByte categoryCode) (charOfByte groupCode))
      | some group =>
          checkBytes (checkAttribute categoryCode group) 0
            (candidate.toList.drop 2)

def validateIn (candidate : Bytes 6) : Except CfiError Unit := do
  checkBytes checkCharacterClass 0 candidate.toList
  validateTaxonomyIn table candidate

def fromBytesIn (bytes : Bytes 6) : Except CfiError (Bytes 6) := do
  validateIn table bytes
  pure bytes

end Table

/-!
## Acceptance
-/

theorem checkAttributes_iff {group : Json} {entry : GroupEntry}
    (hparsed : parseCfiGroup group = .ok entry) {category : UInt8}
    {code : Bytes 6}
    (hletters : forall b, b ∈ code.toList -> isAsciiUppercase b = true) :
    checkBytes (checkAttribute category entry) 0 (code.toList.drop 2) =
        .ok () <->
      AllowsLetters group code := by
  have hmasks := (parseCfiGroup_ok hparsed).right
  simp only [checkBytes_eq_ok_iff, Nat.zero_add, checkAttribute_eq_ok_iff,
    List.getElem?_drop, Nat.add_comm 2]
  constructor
  · intro h i key letter hkey hletter
    rcases getElem?_of_forall₂ hmasks hkey with ⟨mask, hmask, hallows⟩
    apply (hallows letter (hletters _ (List.mem_of_getElem? hletter))).mp
    have hallowed := h i letter hletter
    rw [List.getD_eq_getElem?_getD, hmask] at hallowed
    exact hallowed
  · intro h i letter hletter
    have hlt := (List.getElem?_eq_some_iff.mp hletter).choose
    rw [code.toList_length] at hlt
    have hi : i < attrKeys.length := Nat.lt_of_add_lt_add_right hlt
    have hkey := List.getElem?_eq_getElem hi
    rcases getElem?_of_forall₂ hmasks hkey with ⟨mask, hmask, hallows⟩
    rw [List.getD_eq_getElem?_getD, hmask]
    exact (hallows letter (hletters _ (List.mem_of_getElem? hletter))).mpr
      (h i _ letter hkey hletter)

theorem validateTaxonomyIn_eq_ok_iff {table : List CategoryEntry}
    {code : Bytes 6} :
    validateTaxonomyIn table code = .ok () <->
      exists category group,
        findCategoryIn table (code.get 0) = some category ∧
        findGroupIn category (code.get 1) = some group ∧
        checkBytes (checkAttribute (code.get 0) group) 0
          (code.toList.drop 2) = .ok () := by
  unfold validateTaxonomyIn
  simp only
  split
  · rename_i hnone
    apply iff_of_false nofun
    intro hgiven
    rcases hgiven with ⟨category, _, hcategory, _⟩
    rw [hnone] at hcategory
    cases hcategory
  · rename_i category hcategory
    split
    · rename_i hnone
      apply iff_of_false nofun
      intro hgiven
      rcases hgiven with ⟨category', group, hcategory', hgroup, _⟩
      rw [hcategory] at hcategory'
      cases hcategory'
      rw [hnone] at hgroup
      cases hgroup
    · rename_i group hgroup
      constructor
      · intro h
        exact ⟨category, group, hcategory, hgroup, h⟩
      · intro hgiven
        rcases hgiven with ⟨category', group', hcategory', hgroup', h⟩
        rw [hcategory] at hcategory'
        cases hcategory'
        rw [hgroup] at hgroup'
        cases hgroup'
        exact h

/-- Letters are validated by their category, their group and its attributes. -/
theorem fromBytesIn_iff_taxonomy {table : List CategoryEntry} {code : Bytes 6}
    (hletters : forall b, b ∈ code.toList -> isAsciiUppercase b = true) :
    (exists cfi, fromBytesIn table code = .ok cfi) <->
      validateTaxonomyIn table code = .ok () := by
  have hclasses : checkBytes checkCharacterClass 0 code.toList = .ok () := by
    rw [checkBytes_eq_ok_iff]
    intro i b hb
    exact if_pos (hletters b (List.mem_of_getElem? hb))
  unfold fromBytesIn validateIn
  rw [hclasses]
  constructor
  · intro hgiven
    rcases hgiven with ⟨_, h⟩
    rcases bind_eq_ok.mp h with ⟨_, hvalid, _⟩
    exact hvalid
  · intro h
    exact ⟨code, bind_eq_ok.mpr ⟨(), h, rfl⟩⟩

theorem findCategoryIn_eq_some_iff {json : Json} {table : List CategoryEntry}
    (h : parseCfiCategories json = .ok table) {letter : UInt8}
    {entry : CategoryEntry} :
    findCategoryIn table letter = some entry <->
      exists categories category,
        (json.get "categories").asArray = some categories ∧
        lastWithCode letter categories = some category ∧
        parseCfiCategory category = .ok entry := by
  rcases parseCfiCategories_ok h with ⟨entries, rows, hentries, hrows, rfl⟩
  refine (lookupByKey_mapM categoryKey_of_parse hrows).trans ?_
  rw [hentries]
  simp

theorem findGroupIn_eq_some_iff {category : Json} {entry : CategoryEntry}
    (h : parseCfiCategory category = .ok entry) {letter : UInt8}
    {groupEntry : GroupEntry} :
    findGroupIn entry letter = some groupEntry <->
      exists groups group,
        (category.get "groups").asArray = some groups ∧
        lastWithCode letter groups = some group ∧
        parseCfiGroup group = .ok groupEntry := by
  rcases (parseCfiCategory_ok h).right with
    ⟨entries, rows, hentries, hrows, hsorted⟩
  unfold findGroupIn
  rw [hsorted]
  refine (lookupByKey_mapM groupKey_of_parse hrows).trans ?_
  rw [hentries]
  simp

/-- Letters are accepted by what the last entries with their codes list. -/
theorem fromBytesIn_iff_listedLast {json : Json} {table : List CategoryEntry}
    (htable : parseCfiCategories json = .ok table) {code : Bytes 6}
    (hletters : forall b, b ∈ code.toList -> isAsciiUppercase b = true) :
    (exists cfi, fromBytesIn table code = .ok cfi) <->
      ListedLast json code := by
  rw [fromBytesIn_iff_taxonomy hletters, validateTaxonomyIn_eq_ok_iff]
  constructor
  · intro h
    rcases h with ⟨entry, groupEntry, hentry, hgroupEntry, hattributes⟩
    rcases (findCategoryIn_eq_some_iff htable).mp hentry with
      ⟨categories, category, hcategories, hlast, hread⟩
    rcases (findGroupIn_eq_some_iff hread).mp hgroupEntry with
      ⟨groups, group, hgroups, hlastGroup, hreadGroup⟩
    exact ⟨categories, category, groups, group, hcategories, hlast, hgroups,
      hlastGroup, (checkAttributes_iff hreadGroup hletters).mp hattributes⟩
  · intro h
    rcases h with ⟨categories, category, groups, group, hcategories, hlast, hgroups,
      hlastGroup, hallows⟩
    rcases exists_category htable hcategories (mem_of_lastWithCode hlast) with
      ⟨entry, hread⟩
    rcases exists_group hread hgroups (mem_of_lastWithCode hlastGroup) with
      ⟨groupEntry, hreadGroup⟩
    exact ⟨entry, groupEntry,
      (findCategoryIn_eq_some_iff htable).mpr
        ⟨categories, category, hcategories, hlast, hread⟩,
      (findGroupIn_eq_some_iff hread).mpr
        ⟨groups, group, hgroups, hlastGroup, hreadGroup⟩,
      (checkAttributes_iff hreadGroup hletters).mpr hallows⟩

/--
A table accepts what its taxonomy lists exactly when no listing entry is hidden
by a later one with its code, which none is where no code is repeated.
-/
theorem fromBytesIn_follows_iff {json : Json} {table : List CategoryEntry}
    (htable : parseCfiCategories json = .ok table) :
    (forall code : Bytes 6,
      (forall b, b ∈ code.toList -> isAsciiUppercase b = true) ->
      (((exists cfi, fromBytesIn table code = .ok cfi) <->
          Listed json code) <->
        (Listed json code -> ListedLast json code))) ∧
      (Unrepeated json -> forall code : Bytes 6,
        (forall b, b ∈ code.toList -> isAsciiUppercase b = true) ->
        ((exists cfi, fromBytesIn table code = .ok cfi) <->
          Listed json code)) := by
  refine ⟨?_, ?_⟩
  · intro code hletters
    rw [fromBytesIn_iff_listedLast htable hletters]
    exact ⟨Iff.mpr, fun h => ⟨ListedLast.listed, h⟩⟩
  · intro hunrepeated code hletters
    rw [fromBytesIn_iff_listedLast htable hletters]
    exact ⟨ListedLast.listed, Listed.last hunrepeated⟩

/-!
## A repeated category
-/

def attributeOf (code : String) : Json :=
  .object [("attributeValues", .array [.object [("code", .string code)]])]

def groupOf (code : String) : Json :=
  .object (("code", .string code) ::
    attrKeys.map (fun key => (key, attributeOf "X")))

def categoryOf (code : String) (groups : List Json) : Json :=
  .object [("code", .string code), ("groups", .array groups)]

theorem groupOf_lists {code key : String} (hkey : key ∈ attrKeys) :
    ListsLetter (groupOf code) key 88 := by
  have hvalues : attributeValues (groupOf code) key =
      some [.object [("code", .string "X")]] := by
    simp only [attrKeys, List.mem_cons, List.not_mem_nil, or_false] at hkey
    rcases hkey with rfl | rfl | rfl | rfl
    · rfl
    · rfl
    · rfl
    · rfl
  exact ⟨_, hvalues, _, List.mem_singleton_self _, by decide +kernel⟩

/-- Two groups, in two entries of one category. -/
def splitTaxonomy : Json :=
  .object [("categories",
    .array [categoryOf "E" [groupOf "S"], categoryOf "E" [groupOf "C"]])]

def splitTable : List CategoryEntry :=
  [
    { code := 69, groups := [{ code := 83, attrs := List.replicate 4 8388608#32 }] },
    { code := 69, groups := [{ code := 67, attrs := List.replicate 4 8388608#32 }] }
  ]

theorem parse_splitTaxonomy :
    parseCfiCategories splitTaxonomy = .ok splitTable := by
  decide +kernel

theorem fromBytesIn_follows_splitTaxonomy :
    (forall code : Bytes 6,
      (forall b, b ∈ code.toList -> isAsciiUppercase b = true) ->
      (((exists cfi, fromBytesIn splitTable code = .ok cfi) <->
          Listed splitTaxonomy code) <->
        (Listed splitTaxonomy code -> ListedLast splitTaxonomy code))) ∧
      (Unrepeated splitTaxonomy -> forall code : Bytes 6,
        (forall b, b ∈ code.toList -> isAsciiUppercase b = true) ->
        ((exists cfi, fromBytesIn splitTable code = .ok cfi) <->
          Listed splitTaxonomy code)) :=
  fromBytesIn_follows_iff parse_splitTaxonomy

/-- `ESXXXX` -/
def splitCode : Bytes 6 := ⟨[69, 83, 88, 88, 88, 88], rfl⟩

/-- The first entry lists the code, and only the second one is searched. -/
theorem splitTaxonomy_hides :
    parseCfiCategories splitTaxonomy = .ok splitTable ∧
      (forall b, b ∈ splitCode.toList -> isAsciiUppercase b = true) ∧
      Listed splitTaxonomy splitCode ∧
      fromBytesIn splitTable splitCode = .error (.unknownGroup 'E' 'S') := by
  refine ⟨parse_splitTaxonomy, List.all_eq_true.mp rfl, ?_,
    by decide +kernel⟩
  refine ⟨_, categoryOf "E" [groupOf "S"], _, groupOf "S", rfl,
    List.mem_cons_self, by decide +kernel, rfl, List.mem_cons_self,
    by decide +kernel, ?_⟩
  have hrest : splitCode.toList.drop 2 = List.replicate 4 88 := rfl
  intro i key letter hkey hletter
  rw [Nat.add_comm, ← List.getElem?_drop, hrest] at hletter
  rw [List.eq_of_mem_replicate (List.mem_of_getElem? hletter)]
  exact groupOf_lists (List.mem_of_getElem? hkey)

/-!
## The table of the registry
-/

theorem findCategoryIn_categories (code : UInt8) :
    findCategoryIn categories code = findCategory code := by
  have hstrict : StrictlySorted categoryKey categories := by decide +kernel
  unfold findCategoryIn findCategory
  rw [lookupByKey_eq_find? hstrict]
  congr 1
  funext category
  rw [Bool.eq_iff_iff, decide_eq_true_eq, beq_iff_eq]
  exact UInt8.toNat_inj

theorem findGroupIn_categories {category : CategoryEntry}
    (h : category ∈ categories) (code : UInt8) :
    findGroupIn category code = findGroup category code := by
  have hstrict : forall c, c ∈ categories ->
      StrictlySorted groupKey c.groups := by
    decide +kernel
  unfold findGroupIn findGroup
  rw [lookupByKey_eq_find? (hstrict category h)]
  congr 1
  funext group
  rw [Bool.eq_iff_iff, decide_eq_true_eq, beq_iff_eq]
  exact UInt8.toNat_inj

end Cfi

end Identifiers
end Valqeron
