import Valqeron.Domain.Listing
import Valqeron.Foundation.LetterCase

/-!
# Names of the enumerations

The kinds, roles and states are read from their names in any letter case. The
upper-case form that is compared is that of the whole of Unicode, so that some
texts outside ASCII are read as a name too.
-/

namespace Valqeron
namespace Domain

open Foundation

section

variable {error value : Type}
variable (fromStr : String -> Except error value) (asStr : value -> String)

/-- A text is read as a value exactly when it is its name up to ASCII letter case. -/
structure ReadsNames (s : String) : Prop where
  names :
    forall v, fromStr s = .ok v <-> upperText s = upperText (asStr v)
  asciiOnly :
    (exists c, c ∈ s.toList ∧ isAscii c = false) -> forall v, fromStr s ≠ .ok v

/-- A text is ASCII, or spells no name by means of other characters. -/
def PlainlySpelled (s : String) : Prop :=
  AllAscii s.toList ∨ forall v, ¬Spells s.toList (asStr v).toList

variable {fromStr asStr}

def UpperNames (asStr : value -> String) : Prop :=
  forall v, AllAscii (asStr v).toList ∧ upperText (asStr v) = asStr v

theorem readsNames_iff (hnames : UpperNames asStr) {s : String}
    (hread : forall v, fromStr s = .ok v <-> toUppercase s = asStr v) :
    ReadsNames fromStr asStr s <-> PlainlySpelled asStr s := by
  have hspells : forall v, fromStr s = .ok v <-> Spells s.toList (asStr v).toList := by
    intro v
    rw [hread, toUppercase_eq_iff (hnames v).left]
  constructor
  · intro h
    by_cases hascii : AllAscii s.toList
    · exact Or.inl hascii
    · refine Or.inr ?_
      intro v hv
      exact h.asciiOnly (exists_of_not_allAscii hascii) v ((hspells v).mpr hv)
  · intro h
    rcases h with hascii | hnone
    · refine { names := ?_, asciiOnly := ?_ }
      · intro v
        rw [hspells, spells_iff_upperText hascii, (hnames v).right]
      · intro hother
        exact absurd hascii (not_allAscii_of_exists hother)
    · refine { names := ?_, asciiOnly := ?_ }
      · intro v
        constructor
        · intro hv
          exact absurd ((hspells v).mp hv) (hnone v)
        · intro hv
          rw [(hnames v).right] at hv
          have hascii := allAscii_of_upperText (hnames v).left hv
          exact absurd ((spells_iff_upperText hascii).mpr hv) (hnone v)
      · intro _ v hv
        exact hnone v ((hspells v).mp hv)

end

/-!
## The parsers
-/

variable {s : String}

theorem IssuerStatus.fromStr_eq_ok_iff {status : IssuerStatus} :
    fromStr s = .ok status <-> toUppercase s = status.asStr := by
  unfold fromStr
  constructor
  · intro h
    simp only at h
    split at h
    · cases h
      assumption
    · split at h
      · cases h
        assumption
      · cases h
  · intro h
    rw [h]
    cases status with
    | active => rfl
    | retired => rfl

theorem SecurityKind.fromStr_eq_ok_iff {kind : SecurityKind} :
    fromStr s = .ok kind <-> toUppercase s = kind.asStr := by
  unfold fromStr
  constructor
  · intro h
    simp only at h
    split at h
    · cases h
      assumption
    · split at h
      · cases h
        assumption
      · split at h
        · cases h
          assumption
        · split at h
          · cases h
            assumption
          · cases h
  · intro h
    rw [h]
    cases kind with
    | commonShare => rfl
    | preferredShare => rfl
    | unit => rfl
    | depositaryReceipt => rfl

theorem SecurityStatus.fromStr_eq_ok_iff {status : SecurityStatus} :
    fromStr s = .ok status <-> toUppercase s = status.asStr := by
  unfold fromStr
  constructor
  · intro h
    simp only at h
    split at h
    · cases h
      assumption
    · split at h
      · cases h
        assumption
      · cases h
  · intro h
    rw [h]
    cases status with
    | active => rfl
    | retired => rfl

theorem ListingStatus.fromStr_eq_ok_iff {status : ListingStatus} :
    fromStr s = .ok status <-> toUppercase s = status.asStr := by
  unfold fromStr
  constructor
  · intro h
    simp only at h
    split at h
    · cases h
      assumption
    · split at h
      · cases h
        assumption
      · split at h
        · cases h
          assumption
        · cases h
  · intro h
    rw [h]
    cases status with
    | active => rfl
    | suspended => rfl
    | delisted => rfl

theorem ListingRole.fromStr_eq_ok_iff {role : ListingRole} :
    fromStr s = .ok role <-> toUppercase s = role.asStr := by
  unfold fromStr
  constructor
  · intro h
    simp only at h
    split at h
    · cases h
      assumption
    · split at h
      · cases h
        assumption
      · cases h
  · intro h
    rw [h]
    cases role with
    | primary => rfl
    | secondary => rfl

theorem upperNames_of_all {value : Type} {asStr : value -> String}
    (h : forall v,
      ((asStr v).toList.all isAscii && upperText (asStr v) = asStr v) = true) :
    UpperNames asStr := by
  intro v
  have hv := h v
  rw [Bool.and_eq_true, decide_eq_true_eq] at hv
  exact ⟨List.all_eq_true.mp hv.left, hv.right⟩

theorem IssuerStatus.upperNames : UpperNames IssuerStatus.asStr := by
  apply upperNames_of_all
  intro v
  cases v with
  | active => rfl
  | retired => rfl

theorem SecurityKind.upperNames : UpperNames SecurityKind.asStr := by
  apply upperNames_of_all
  intro v
  cases v with
  | commonShare => rfl
  | preferredShare => rfl
  | unit => rfl
  | depositaryReceipt => rfl

theorem SecurityStatus.upperNames : UpperNames SecurityStatus.asStr := by
  apply upperNames_of_all
  intro v
  cases v with
  | active => rfl
  | retired => rfl

theorem ListingStatus.upperNames : UpperNames ListingStatus.asStr := by
  apply upperNames_of_all
  intro v
  cases v with
  | active => rfl
  | suspended => rfl
  | delisted => rfl

theorem ListingRole.upperNames : UpperNames ListingRole.asStr := by
  apply upperNames_of_all
  intro v
  cases v with
  | primary => rfl
  | secondary => rfl

/--
Each parser reads exactly the names of its enumeration on the texts that are
ASCII, or that spell none of the names by means of other characters.
-/
theorem enumParsers_readNames_iff (s : String) :
    (ReadsNames IssuerStatus.fromStr IssuerStatus.asStr s <->
      PlainlySpelled IssuerStatus.asStr s) ∧
      (ReadsNames SecurityKind.fromStr SecurityKind.asStr s <->
        PlainlySpelled SecurityKind.asStr s) ∧
      (ReadsNames SecurityStatus.fromStr SecurityStatus.asStr s <->
        PlainlySpelled SecurityStatus.asStr s) ∧
      (ReadsNames ListingStatus.fromStr ListingStatus.asStr s <->
        PlainlySpelled ListingStatus.asStr s) ∧
      (ReadsNames ListingRole.fromStr ListingRole.asStr s <->
        PlainlySpelled ListingRole.asStr s) :=
  ⟨readsNames_iff IssuerStatus.upperNames
      (fun _ => IssuerStatus.fromStr_eq_ok_iff),
    readsNames_iff SecurityKind.upperNames
      (fun _ => SecurityKind.fromStr_eq_ok_iff),
    readsNames_iff SecurityStatus.upperNames
      (fun _ => SecurityStatus.fromStr_eq_ok_iff),
    readsNames_iff ListingStatus.upperNames
      (fun _ => ListingStatus.fromStr_eq_ok_iff),
    readsNames_iff ListingRole.upperNames
      (fun _ => ListingRole.fromStr_eq_ok_iff)⟩

/-- A dotless letter, and a ligature that becomes two letters. -/
theorem foreignSpellings_read :
    IssuerStatus.fromStr "act\u0131ve" = .ok .active ∧
      ¬ReadsNames IssuerStatus.fromStr IssuerStatus.asStr "act\u0131ve" ∧
      ListingStatus.fromStr "deli\uFB06ed" = .ok .delisted ∧
      ¬ReadsNames ListingStatus.fromStr ListingStatus.asStr "deli\uFB06ed" := by
  have hdotless : IssuerStatus.fromStr "act\u0131ve" = .ok .active := by
    decide +kernel
  have hligature : ListingStatus.fromStr "deli\uFB06ed" = .ok .delisted := by
    decide +kernel
  refine ⟨hdotless, ?_, hligature, ?_⟩
  · intro h
    exact h.asciiOnly ⟨'\u0131', by decide +kernel, by decide⟩ _ hdotless
  · intro h
    exact h.asciiOnly ⟨'\uFB06', by decide +kernel, by decide⟩ _ hligature

end Domain
end Valqeron
