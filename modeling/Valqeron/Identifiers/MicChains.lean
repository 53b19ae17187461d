import Mathlib.Algebra.Order.Ring.Int
import Mathlib.Logic.Relation
import Valqeron.Foundation.Chains
import Valqeron.Identifiers.Mic

/-!
# Chains of operating codes

A seed is accepted only when its references resolve and have no cycle but those
of markets that operate themselves, so that the operating codes from any code on
come to rest.  The loop that decides this ends on every input.
-/

namespace Valqeron
namespace Identifiers

open Foundation

namespace MicSeed

/-!
## References between markets
-/

def Resolved (markets : List Market) : Prop :=
  forall m, m ∈ markets -> exists m', m' ∈ markets ∧ m'.mic = m.operating

def Refers (markets : List Market) (a b : Market) : Prop :=
  a ∈ markets ∧ b ∈ markets ∧ b.mic = a.operating

/-- A market that does not operate itself is reached from itself. -/
def Cyclic (markets : List Market) : Prop :=
  exists m, m.mic ≠ m.operating ∧ Relation.TransGen (Refers markets) m m

def operatorOf (markets : List Market) (m : Market) : Market :=
  (lookupByKey Market.key markets (micKey m.operating)).getD m

section Sorted

variable {markets : List Market}

theorem lookup_eq_some_iff (hstrict : StrictlySorted Market.key markets)
    {code : Bytes 4} {m : Market} :
    lookupByKey Market.key markets (micKey code) = some m <->
      m ∈ markets ∧ m.mic = code := by
  rw [lookupByKey_eq_some_iff hstrict]
  constructor
  · intro h
    rcases h with ⟨hmem, hkey⟩
    exact ⟨hmem, micKey_injective hkey⟩
  · intro h
    rcases h with ⟨hmem, rfl⟩
    exact ⟨hmem, rfl⟩

theorem Refers.operatorOf (hstrict : StrictlySorted Market.key markets)
    {a b : Market} (h : Refers markets a b) : operatorOf markets a = b := by
  unfold MicSeed.operatorOf
  rw [(lookup_eq_some_iff hstrict).mpr h.right]
  rfl

theorem refers_operatorOf (hstrict : StrictlySorted Market.key markets)
    (hresolved : Resolved markets) {m : Market} (hm : m ∈ markets) :
    Refers markets m (operatorOf markets m) := by
  rcases hresolved m hm with ⟨m', hm', hmic⟩
  have h : Refers markets m m' := ⟨hm, hm', hmic⟩
  rw [h.operatorOf hstrict]
  exact h

theorem atRest_iff (hstrict : StrictlySorted Market.key markets)
    (hresolved : Resolved markets) {m : Market} (hm : m ∈ markets) :
    Chains.AtRest (operatorOf markets) m <-> m.mic = m.operating := by
  have hrefers := refers_operatorOf hstrict hresolved hm
  constructor
  · intro hrest
    have hmic := hrefers.right.right
    rw [hrest] at hmic
    exact hmic
  · intro hself
    exact Refers.operatorOf hstrict ⟨hm, hm, hself⟩

theorem iterate_mem (hstrict : StrictlySorted Market.key markets)
    (hresolved : Resolved markets) {m : Market} (hm : m ∈ markets) (n : Nat) :
    (operatorOf markets)^[n] m ∈ markets := by
  induction n with
  | zero => exact hm
  | succ n ih =>
      rw [Function.iterate_succ_apply']
      exact (refers_operatorOf hstrict hresolved ih).right.left

theorem iterate_of_transGen (hstrict : StrictlySorted Market.key markets)
    {a b : Market} (h : Relation.TransGen (Refers markets) a b) :
    exists n, 0 < n ∧ (operatorOf markets)^[n] a = b := by
  induction h with
  | single hab => exact ⟨1, Nat.one_pos, hab.operatorOf hstrict⟩
  | tail _ hbc ih =>
      rcases ih with ⟨n, _, hn⟩
      refine ⟨n + 1, Nat.succ_pos n, ?_⟩
      rw [Function.iterate_succ_apply', hn, hbc.operatorOf hstrict]

theorem transGen_iterate (hstrict : StrictlySorted Market.key markets)
    (hresolved : Resolved markets) {m : Market} (hm : m ∈ markets) (n : Nat) :
    Relation.TransGen (Refers markets) m ((operatorOf markets)^[n + 1] m) := by
  induction n with
  | zero => exact .single (refers_operatorOf hstrict hresolved hm)
  | succ n ih =>
      rw [Function.iterate_succ_apply']
      exact ih.tail (refers_operatorOf hstrict hresolved
        (iterate_mem hstrict hresolved hm (n + 1)))

theorem not_cyclic_iff (hstrict : StrictlySorted Market.key markets)
    (hresolved : Resolved markets) :
    Not (Cyclic markets) <->
      forall m, m ∈ markets -> Chains.Ends (operatorOf markets) m := by
  constructor
  · intro hnone m hm
    apply Chains.ends_of_noCycle (iterate_mem hstrict hresolved hm)
    intro y hy hreturns
    rw [atRest_iff hstrict hresolved hy]
    by_contra hself
    rcases hreturns with ⟨n, hn, hback⟩
    have hcycle := transGen_iterate hstrict hresolved hy (n - 1)
    rw [Nat.sub_add_cancel hn, hback] at hcycle
    exact hnone ⟨y, hself, hcycle⟩
  · intro hends hgiven
    rcases hgiven with ⟨m, hself, hcycle⟩
    have hm : m ∈ markets := by
      cases hcycle with
      | single h => exact h.left
      | tail _ h => exact h.right.left
    apply hself
    rw [← atRest_iff hstrict hresolved hm]
    exact Chains.atRest_of_returns (iterate_of_transGen hstrict hcycle)
      (hends m hm)

theorem followOperating_eq_ok_iff (hstrict : StrictlySorted Market.key markets)
    (hresolved : Resolved markets) {start m : Market} (hm : m ∈ markets)
    (hops : Nat) :
    followOperating markets start hops m = .ok () <->
      exists n, n <= hops ∧
        Chains.AtRest (operatorOf markets) ((operatorOf markets)^[n] m) := by
  induction hops generalizing m with
  | zero =>
      unfold followOperating
      have hrest := atRest_iff hstrict hresolved hm
      split
      · rename_i hself
        exact iff_of_true rfl ⟨0, le_rfl, hrest.mpr hself⟩
      · rename_i hself
        rw [(lookup_eq_some_iff hstrict).mpr
          (refers_operatorOf hstrict hresolved hm).right]
        refine iff_of_false ?_ ?_
        · intro h
          cases h
        · intro h
          rcases h with ⟨n, hn, hends⟩
          rw [Nat.le_zero.mp hn] at hends
          exact hself (hrest.mp hends)
  | succ hops ih =>
      unfold followOperating
      have hrest := atRest_iff hstrict hresolved hm
      have hrefers := refers_operatorOf hstrict hresolved hm
      split
      · rename_i hself
        exact iff_of_true rfl ⟨0, Nat.zero_le _, hrest.mpr hself⟩
      · rename_i hself
        rw [(lookup_eq_some_iff hstrict).mpr hrefers.right]
        refine (ih hrefers.right.left).trans ?_
        constructor
        · intro h
          rcases h with ⟨n, hn, hends⟩
          exact ⟨n + 1, Nat.succ_le_succ hn, hends⟩
        · intro h
          rcases h with ⟨n, hn, hends⟩
          cases n with
          | zero => exact absurd (hrest.mp hends) hself
          | succ n => exact ⟨n, Nat.le_of_succ_le_succ hn, hends⟩

/-- As many hops as there are markets tell whether references resolve and end. -/
theorem forall_followOperating_iff
    (hstrict : StrictlySorted Market.key markets) :
    (forall m, m ∈ markets ->
        followOperating markets m markets.length m = .ok ()) <->
      Resolved markets ∧ Not (Cyclic markets) := by
  constructor
  · intro hfollowed
    have hresolved : Resolved markets :=
      fun m hm => followOperating_resolves hstrict hm (hfollowed m hm)
    refine ⟨hresolved, (not_cyclic_iff hstrict hresolved).mpr ?_⟩
    intro m hm
    rcases (followOperating_eq_ok_iff hstrict hresolved hm _).mp
      (hfollowed m hm) with ⟨n, _, hrest⟩
    exact ⟨n, hrest⟩
  · intro h m hm
    rcases h with ⟨hresolved, hnone⟩
    have hends := (not_cyclic_iff hstrict hresolved).mp hnone m hm
    rcases hends.exists_lt (iterate_mem hstrict hresolved hm) with
      ⟨n, hn, hrest⟩
    exact (followOperating_eq_ok_iff hstrict hresolved hm _).mpr
      ⟨n, hn.le, hrest⟩

end Sorted

/-!
## The accepted markets
-/

theorem resolved_congr {markets markets' : List Market}
    (h : forall m, m ∈ markets <-> m ∈ markets') :
    Resolved markets <-> Resolved markets' := by
  simp only [Resolved, h]

theorem cyclic_congr {markets markets' : List Market}
    (h : forall m, m ∈ markets <-> m ∈ markets') :
    Cyclic markets <-> Cyclic markets' := by
  have hsame : Refers markets = Refers markets' := by
    funext a b
    simp only [Refers, h]
  rw [Cyclic, Cyclic, hsame]

theorem nodup_key_iff {markets : List Market} :
    (markets.map Market.key).Nodup <-> (markets.map Market.mic).Nodup := by
  have hkeys : markets.map Market.key =
      (markets.map Market.mic).map micKey := by
    rw [List.map_map]
    rfl
  rw [hkeys, List.nodup_map_iff (fun _ _ => micKey_injective)]

theorem repeatedKey_sorted_eq_none_iff {markets : List Market} :
    repeatedKey Market.key (sortByKey Market.key markets) = none <->
      (markets.map Market.mic).Nodup := by
  have hsorted : (sortByKey Market.key markets).Perm markets := sortByKey_perm
  have hperm := hsorted.map Market.key
  rw [← nodup_key_iff, ← hperm.nodup_iff]
  constructor
  · intro h
    exact (strictlySorted_of_repeatedKey sortByKey_pairwise h).nodup
  · exact repeatedKey_eq_none

/-- Markets that can be followed, and are in the order of their codes. -/
theorem finalizeMic_eq_ok_iff {markets sorted : List Market} :
    finalizeMic markets = .ok sorted <->
      sorted = sortByKey Market.key markets ∧ markets ≠ [] ∧
        markets.length < 2 ^ 16 ∧ (markets.map Market.mic).Nodup ∧
        Resolved markets ∧ Not (Cyclic markets) := by
  have hmem : forall m, m ∈ sortByKey Market.key markets <-> m ∈ markets :=
    fun _ => mem_sortByKey
  rw [← repeatedKey_sorted_eq_none_iff, ← resolved_congr hmem,
    ← cyclic_congr hmem]
  constructor
  · intro h
    unfold finalizeMic at h
    split at h
    · cases h
    rename_i hempty
    split at h
    · cases h
    rename_i hfits
    simp only at h
    split at h
    · cases h
    rename_i hrepeated
    rcases bind_eq_ok.mp h with ⟨_, hfollowed, h⟩
    cases h
    have hstrict := strictlySorted_of_repeatedKey sortByKey_pairwise hrepeated
    refine ⟨rfl, mt List.isEmpty_iff.mpr hempty, Nat.lt_of_not_le hfits,
      hrepeated, (forall_followOperating_iff hstrict).mp ?_⟩
    intro m hm
    exact (exists_mapM_iff.mp ⟨_, hfollowed⟩ m hm).choose_spec
  · intro h
    rcases h with ⟨rfl, hempty, hfits, hrepeated, hends⟩
    have hstrict := strictlySorted_of_repeatedKey sortByKey_pairwise hrepeated
    have hfollowed := (forall_followOperating_iff hstrict).mpr hends
    rcases exists_mapM_iff.mpr (fun m hm => ⟨(), hfollowed m hm⟩) with
      ⟨done, hdone⟩
    unfold finalizeMic
    rw [if_neg (mt List.isEmpty_iff.mp hempty), if_neg (Nat.not_le.mpr hfits)]
    simp only [hrepeated]
    exact bind_eq_ok.mpr ⟨done, hdone, rfl⟩

/-!
## The loop

The loop of the macro counts its turns upward and may stop at any of them; here
it runs one turn after the other.
-/

inductive LoopState where
  | running (current : Market) (hops : Nat)
  | ended (result : Except SeedError Unit)

def loopStep (markets : List Market) (market : Market) : LoopState -> LoopState
  | .ended result => .ended result
  | .running current hops =>
      if current.mic = current.operating then
        .ended (.ok ())
      else
        match lookupByKey Market.key markets (micKey current.operating) with
        | none => .ended (.error (.missingOperating current.mic current.operating))
        | some next =>
            if hops + 1 <= markets.length then
              .running next (hops + 1)
            else
              .ended (.error (.cycle market.mic))

theorem iterate_loopStep_ended {markets : List Market} {market : Market}
    {result : Except SeedError Unit} (n : Nat) :
    (loopStep markets market)^[n] (.ended result) = .ended result :=
  Function.iterate_fixed rfl n

theorem iterate_loopStep {markets : List Market} {market : Market}
    (left hops : Nat) (current : Market)
    (hleft : hops + left = markets.length) :
    (loopStep markets market)^[left + 1] (.running current hops) =
      .ended (followOperating markets market left current) := by
  induction left generalizing hops current with
  | zero =>
      show loopStep markets market (.running current hops) = _
      unfold followOperating
      by_cases hself : current.mic = current.operating
      · rw [if_pos hself, loopStep, if_pos hself]
      · rw [if_neg hself, loopStep, if_neg hself]
        cases lookupByKey Market.key markets (micKey current.operating) with
        | none => rfl
        | some next =>
            have hgone : Not (hops + 1 <= markets.length) := by omega
            simp only [if_neg hgone]
  | succ left ih =>
      rw [Function.iterate_succ_apply]
      unfold followOperating
      by_cases hself : current.mic = current.operating
      · rw [if_pos hself, loopStep, if_pos hself]
        exact iterate_loopStep_ended _
      · rw [if_neg hself, loopStep, if_neg hself]
        have hnext : hops + 1 + left = markets.length := by omega
        cases lookupByKey Market.key markets (micKey current.operating) with
        | none => exact iterate_loopStep_ended _
        | some next =>
            simp only [if_pos (Nat.le.intro hnext)]
            exact ih (hops + 1) next hnext

end MicSeed

/-!
## Operating codes of operating codes
-/

namespace Mic

open MicSeed

/-- The code that is reached by taking the operating code so many times. -/
def operatingChain (table : List MicEntry) : Nat -> Mic -> Option Mic
  | 0, mic => some mic
  | n + 1, mic =>
      (mic.operatingMic table).bind (operatingChain table n)

section Table

variable {rows : List (List String)} {table : List MicEntry}
variable {read markets : List Market}

theorem operatingMic_market (htable : TableOf rows table)
    (hstrict : StrictlySorted Market.key markets)
    (hentries : List.Forall₂ (EntryOf markets) markets table) {m : Market}
    (hm : m ∈ markets) :
    operatingMic table { bytes := m.mic } =
      some { bytes := (operatorOf markets m).mic } := by
  rcases exists_right_of_mem hentries hm with ⟨entry, hentry, hof⟩
  rcases hof.operating with ⟨m', hm', hmic⟩
  rcases getElem?_of_forall₂ hentries hm' with ⟨operator, hoperator, hofOperator⟩
  have hrefers : Refers markets m m' := ⟨hm, List.mem_of_getElem? hm', hmic⟩
  have hfind : find table m.mic = some entry :=
    (find_eq_some_iff htable).mpr ⟨hentry, hof.code⟩
  unfold operatingMic Mic.entry
  rw [hrefers.operatorOf hstrict, hfind]
  show (table[entry.operating.toNat]?.bind _) = _
  rw [hoperator, ← hofOperator.code]
  rfl

theorem operatingChain_market (htable : TableOf rows table)
    (hstrict : StrictlySorted Market.key markets)
    (hresolved : Resolved markets)
    (hentries : List.Forall₂ (EntryOf markets) markets table) (n : Nat)
    {m : Market} (hm : m ∈ markets) :
    operatingChain table n { bytes := m.mic } =
      some { bytes := ((operatorOf markets)^[n] m).mic } := by
  induction n generalizing m with
  | zero => rfl
  | succ n ih =>
      unfold operatingChain
      rw [operatingMic_market htable hstrict hentries hm,
        Function.iterate_succ_apply]
      exact ih (refers_operatorOf hstrict hresolved hm).right.left

theorem exists_operatingChain (htable : TableOf rows table)
    (hfinal : finalizeMic read = .ok markets)
    (hentries : List.Forall₂ (EntryOf markets) markets table) {m : Market}
    (hm : m ∈ markets) :
    exists n last, n < markets.length ∧
      operatingChain table n { bytes := m.mic } = some last ∧
      last.operatingMic table = some last ∧
      last.isOperating table = some true := by
  have hfinalized := finalizeMic_ok hfinal
  have hstrict := hfinalized.strictly
  have hresolved : Resolved markets := hfinalized.resolves
  have hnone : Not (Cyclic markets) := by
    rw [cyclic_congr hfinalized.mem_iff]
    exact (finalizeMic_eq_ok_iff.mp hfinal).right.right.right.right.right
  have hmem := iterate_mem hstrict hresolved hm
  have hends := (not_cyclic_iff hstrict hresolved).mp hnone m hm
  rcases hends.exists_lt hmem with ⟨n, hn, hrest⟩
  have hlast := operatingMic_market htable hstrict hentries (hmem n)
  rw [hrest] at hlast
  refine ⟨n, _, hn,
    operatingChain_market htable hstrict hresolved hentries n hm, hlast, ?_⟩
  rw [isOperating_eq hlast, decide_eq_true rfl]

end Table

/--
In an accepted seed every code leads, in fewer steps than there are rows, to a
code that operates itself.  Accepted are the markets whose references resolve
without a cycle, and the loop that finds this out ends on every input.
-/
theorem operatingChains_end :
    (forall raw table, generateMicTable raw = .ok table ->
      exists rows, parseCsv raw = .ok (micColumns.toList :: rows) ∧
        forall row (code : Bytes 4), row ∈ rows ->
          published row 0 = some (asciiText code.toList) ->
          exists n last, n < rows.length ∧
            operatingChain table n { bytes := code } = some last ∧
            last.operatingMic table = some last ∧
            last.isOperating table = some true) ∧
      (forall markets,
        (exists sorted, finalizeMic markets = .ok sorted) <->
          markets ≠ [] ∧ markets.length < 2 ^ 16 ∧
            (markets.map Market.mic).Nodup ∧ Resolved markets ∧
            Not (Cyclic markets)) ∧
      forall markets market,
        (loopStep markets market)^[markets.length + 1] (.running market 0) =
          .ended (followOperating markets market markets.length market) := by
  refine ⟨?_, ?_, ?_⟩
  · intro raw table h
    rcases generateMicTable_ok h with
      ⟨rows, read, markets, hrecords, hread, hfinal, hentries⟩
    have htable := tableOf hread (finalizeMic_ok hfinal) hentries
    refine ⟨rows, hrecords, ?_⟩
    intro row code hrow hpublished
    rcases (exists_entry_iff_published htable).mpr ⟨row, hrow, hpublished⟩ with
      ⟨entry, hentry, hcode⟩
    rcases exists_left_of_mem hentries hentry with ⟨m, hm, hof⟩
    have hlength : markets.length = rows.length := by
      rw [(finalizeMic_eq_ok_iff.mp hfinal).left, length_sortByKey,
        hread.length_eq]
    rw [← hcode, hof.code, ← hlength]
    exact exists_operatingChain htable hfinal hentries hm
  · intro markets
    simp only [finalizeMic_eq_ok_iff, exists_eq_left]
  · intro markets market
    exact iterate_loopStep markets.length 0 market (Nat.zero_add _)

theorem operatingChains_end_smallSeed :
    exists rows, parseCsv smallSeed = .ok (micColumns.toList :: rows) ∧
      forall row (code : Bytes 4), row ∈ rows ->
        published row 0 = some (asciiText code.toList) ->
        exists n last, n < rows.length ∧
          operatingChain smallTable n { bytes := code } = some last ∧
          last.operatingMic smallTable = some last ∧
          last.isOperating smallTable = some true :=
  operatingChains_end.left smallSeed smallTable generateMicTable_smallSeed

end Mic

end Identifiers
end Valqeron
