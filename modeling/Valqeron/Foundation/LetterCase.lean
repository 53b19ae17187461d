import Valqeron.Foundation.Utf8

/-!
# Spellings of a word

The texts whose upper-case form is a given ASCII word. Besides the word in
either case these are texts with a few characters outside ASCII.
-/

namespace Valqeron
namespace Foundation

/-- An ASCII character stands for its upper case, a listed one for its form. -/
inductive Spells : List Char -> List Char -> Prop where
  | nil : Spells [] []
  | ascii {c : Char} {s w : List Char} :
      isAscii c = true -> Spells s w -> Spells (c :: s) (c.toUpper :: w)
  | special {c : Char} {form s w : List Char} :
      (c, form) ∈ asciiUppercases -> Spells s w -> Spells (c :: s) (form ++ w)

def AllAscii (s : List Char) : Prop := forall c, c ∈ s -> isAscii c = true

theorem exists_of_not_allAscii {s : List Char} (h : ¬AllAscii s) :
    exists c, c ∈ s ∧ isAscii c = false := by
  unfold AllAscii at h
  push Not at h
  rcases h with ⟨c, hc, hother⟩
  exact ⟨c, hc, Bool.eq_false_iff.mpr hother⟩

theorem not_allAscii_of_exists {s : List Char}
    (h : exists c, c ∈ s ∧ isAscii c = false) : ¬AllAscii s := by
  intro hascii
  rcases h with ⟨c, hc, hother⟩
  rw [hascii c hc] at hother
  cases hother

theorem isAscii_iff {c : Char} : isAscii c = true <-> c.toNat < 128 := by
  simp [isAscii]

theorem upperChars_of_lower {c : Char} (h : 97 <= c.toNat ∧ c.toNat <= 122) :
    upperChars c = [c.toUpper] := by
  have hupper := toNat_toUpper c
  rw [if_pos h] at hupper
  unfold upperChars
  rw [if_pos (by simpa using h), ← hupper, Char.ofNat_toNat]

theorem upperChars_of_not_lower {c : Char}
    (h : ¬(97 <= c.toNat ∧ c.toNat <= 122)) :
    upperChars c = (asciiUppercases.lookup c).getD [c] := by
  unfold upperChars
  rw [if_neg (by simpa using h)]

theorem lookup_of_isAscii {c : Char} (h : isAscii c = true) :
    asciiUppercases.lookup c = none := by
  have hkeys :
      asciiUppercases.all (fun entry => !isAscii entry.1) = true := by
    decide +kernel
  rw [List.lookup_eq_none_iff]
  intro entry hentry
  have hkey := List.all_eq_true.mp hkeys entry hentry
  rw [bne_iff_ne]
  intro heq
  rw [← heq, h] at hkey
  cases hkey

theorem upperChars_of_isAscii {c : Char} (h : isAscii c = true) :
    upperChars c = [c.toUpper] := by
  by_cases hlower : 97 <= c.toNat ∧ c.toNat <= 122
  · exact upperChars_of_lower hlower
  · have hupper := toNat_toUpper c
    rw [if_neg hlower] at hupper
    rw [upperChars_of_not_lower hlower, lookup_of_isAscii h,
      Char.toNat_inj.mp hupper]
    rfl

theorem upperChars_of_mem {c : Char} {form : List Char}
    (h : (c, form) ∈ asciiUppercases) : upperChars c = form := by
  have hall :
      asciiUppercases.all (fun entry => upperChars entry.1 = entry.2) = true := by
    decide +kernel
  exact of_decide_eq_true (List.all_eq_true.mp hall _ h)

theorem upperChars_cases (c : Char) :
    isAscii c = true ∨ (c, upperChars c) ∈ asciiUppercases ∨
      upperChars c = [c] := by
  by_cases hlower : 97 <= c.toNat ∧ c.toNat <= 122
  · exact Or.inl (isAscii_iff.mpr (by omega))
  · rw [upperChars_of_not_lower hlower]
    cases hlookup : asciiUppercases.lookup c with
    | none =>
        exact Or.inr (Or.inr rfl)
    | some form =>
        rcases List.lookup_eq_some_iff.mp hlookup with ⟨before, after, hsplit, _⟩
        refine Or.inr (Or.inl ?_)
        rw [hsplit]
        exact List.mem_append_right _ List.mem_cons_self

/-- The upper-case form of a text is a word exactly when the text spells it. -/
theorem flatMap_upperChars_eq_iff {s w : List Char} (hw : AllAscii w) :
    s.flatMap upperChars = w <-> Spells s w := by
  constructor
  · intro h
    induction s generalizing w with
    | nil =>
        cases h
        exact .nil
    | cons c s ih =>
        rw [List.flatMap_cons] at h
        subst h
        have hrest : AllAscii (s.flatMap upperChars) := by
          intro d hd
          exact hw d (List.mem_append_right _ hd)
        rcases upperChars_cases c with hascii | hlisted | hsame
        · rw [upperChars_of_isAscii hascii]
          exact .ascii hascii (ih hrest rfl)
        · exact .special hlisted (ih hrest rfl)
        · have hascii : isAscii c = true := by
            apply hw c
            rw [hsame]
            exact List.mem_cons_self
          rw [upperChars_of_isAscii hascii]
          exact .ascii hascii (ih hrest rfl)
  · intro h
    clear hw
    induction h with
    | nil => rfl
    | ascii hascii _ ih =>
        rw [List.flatMap_cons, upperChars_of_isAscii hascii, ih]
        rfl
    | special hlisted _ ih =>
        rw [List.flatMap_cons, upperChars_of_mem hlisted, ih]

theorem toUppercase_eq_iff {s word : String} (hword : AllAscii word.toList) :
    toUppercase s = word <-> Spells s.toList word.toList := by
  rw [← flatMap_upperChars_eq_iff hword]
  unfold toUppercase
  rw [← String.toList_inj, String.toList_ofList]

theorem spells_iff_of_allAscii {s w : List Char} (hs : AllAscii s) :
    Spells s w <-> s.map Char.toUpper = w := by
  constructor
  · intro h
    induction h with
    | nil => rfl
    | ascii _ _ ih =>
        rw [List.map_cons, ih (fun c hc => hs c (List.mem_cons_of_mem _ hc))]
    | special hlisted _ _ =>
        have hlookup := lookup_of_isAscii (hs _ List.mem_cons_self)
        have hkey := List.lookup_eq_none_iff.mp hlookup _ hlisted
        simp at hkey
  · intro h
    subst h
    induction s with
    | nil => exact .nil
    | cons c s ih =>
        exact .ascii (hs c List.mem_cons_self)
          (ih (fun d hd => hs d (List.mem_cons_of_mem _ hd)))

theorem isAscii_of_isAscii_toUpper {c : Char} (h : isAscii c.toUpper = true) :
    isAscii c = true := by
  have hlt := isAscii_iff.mp h
  rw [toNat_toUpper] at hlt
  apply isAscii_iff.mpr
  split at hlt
  · omega
  · exact hlt

theorem allAscii_of_upperText {s word : String} (hword : AllAscii word.toList)
    (h : upperText s = word) : AllAscii s.toList := by
  intro c hc
  apply isAscii_of_isAscii_toUpper
  apply hword
  rw [← h]
  unfold upperText
  rw [String.toList_ofList]
  exact List.mem_map_of_mem hc

theorem spells_iff_upperText {s word : String} (hs : AllAscii s.toList) :
    Spells s.toList word.toList <-> upperText s = word := by
  rw [spells_iff_of_allAscii hs]
  unfold upperText
  rw [← String.toList_inj, String.toList_ofList]

end Foundation
end Valqeron
