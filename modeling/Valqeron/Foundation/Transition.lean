import Mathlib.Algebra.Order.Ring.Int
import Mathlib.Data.List.Induction

/-!
# Runs of transition systems

A system is given by a step function that answers `none` when an action is not
enabled.  All nondeterminism (which party moves, which fault occurs) sits in the
action, so a run is a list of actions and a property of every reachable state is
proved once, by induction over that list.
-/

namespace Valqeron
namespace Foundation

variable {state action : Type}

/-- Perform a list of actions; `none` when one of them is not enabled. -/
def runFrom (step : state -> action -> Option state) :
    state -> List action -> Option state
  | s, [] => some s
  | s, a :: rest =>
      match step s a with
      | none => none
      | some s' => runFrom step s' rest

/--
Every step of the run meets a condition on the state before it and the action.
-/
def StepsMeet (step : state -> action -> Option state)
    (condition : state -> action -> Prop) : state -> List action -> Prop
  | _, [] => True
  | s, a :: rest =>
      condition s a ∧
        forall s', step s a = some s' -> StepsMeet step condition s' rest

/-!
## Composition of runs
-/

theorem runFrom_cons_of_step {step : state -> action -> Option state}
    {s s' : state} {a : action} (rest : List action)
    (h : step s a = some s') :
    runFrom step s (a :: rest) = runFrom step s' rest := by
  simp [runFrom, h]

theorem runFrom_cons_some {step : state -> action -> Option state}
    {s t : state} {a : action} {rest : List action}
    (h : runFrom step s (a :: rest) = some t) :
    exists s', step s a = some s' ∧ runFrom step s' rest = some t := by
  unfold runFrom at h
  cases hstep : step s a with
  | none =>
      rw [hstep] at h
      cases h
  | some s' =>
      rw [hstep] at h
      exact ⟨s', rfl, h⟩

theorem runFrom_append {step : state -> action -> Option state}
    {s t u : state} {first second : List action}
    (hfirst : runFrom step s first = some t)
    (hsecond : runFrom step t second = some u) :
    runFrom step s (first ++ second) = some u := by
  induction first generalizing s with
  | nil =>
      cases hfirst
      exact hsecond
  | cons a rest ih =>
      rcases runFrom_cons_some hfirst with ⟨s', hstep, hrest⟩
      rw [List.cons_append, runFrom_cons_of_step _ hstep]
      exact ih hrest

theorem stepsMeet_cons_of_step {step : state -> action -> Option state}
    {condition : state -> action -> Prop} {s s' : state} {a : action}
    (rest : List action) (h : step s a = some s') :
    StepsMeet step condition s (a :: rest) <->
      condition s a ∧ StepsMeet step condition s' rest := by
  simp [StepsMeet, h]

theorem stepsMeet_of_forall {step : state -> action -> Option state}
    {condition : state -> action -> Prop} {acts : List action}
    (h : forall s a, a ∈ acts -> condition s a) (s : state) :
    StepsMeet step condition s acts := by
  induction acts generalizing s with
  | nil => trivial
  | cons a rest ih =>
      constructor
      · exact h s a List.mem_cons_self
      · intro s' _
        apply ih
        intro s b hb
        exact h s b (List.mem_cons_of_mem a hb)

instance decidableStepsMeet (step : state -> action -> Option state)
    (condition : state -> action -> Prop)
    [forall s a, Decidable (condition s a)] :
    forall (s : state) (acts : List action),
      Decidable (StepsMeet step condition s acts)
  | _, [] => isTrue trivial
  | s, a :: rest =>
      match h : step s a with
      | none =>
          decidable_of_iff (condition s a) (by simp [StepsMeet, h])
      | some s' =>
          have := decidableStepsMeet step condition s' rest
          decidable_of_iff (condition s a ∧ StepsMeet step condition s' rest)
            (stepsMeet_cons_of_step rest h).symm

/-!
## Invariants

An invariant is preserved by a run when it is preserved by a step.  The second
rule lets the step use a condition that the run is assumed to meet throughout.
-/

theorem runFrom_invariant {step : state -> action -> Option state}
    (Inv : state -> Prop)
    (hstep : forall {s a s'}, Inv s -> step s a = some s' -> Inv s')
    {s t : state} {acts : List action} (hs : Inv s)
    (hrun : runFrom step s acts = some t) : Inv t := by
  induction acts generalizing s with
  | nil =>
      cases hrun
      exact hs
  | cons a rest ih =>
      rcases runFrom_cons_some hrun with ⟨s', hfirst, hrest⟩
      exact ih (hstep hs hfirst) hrest

theorem runFrom_invariant_of_stepsMeet
    {step : state -> action -> Option state}
    {condition : state -> action -> Prop} (Inv : state -> Prop)
    (hstep : forall {s a s'},
      Inv s -> condition s a -> step s a = some s' -> Inv s')
    {s t : state} {acts : List action} (hs : Inv s)
    (hmeet : StepsMeet step condition s acts)
    (hrun : runFrom step s acts = some t) : Inv t := by
  induction acts generalizing s with
  | nil =>
      cases hrun
      exact hs
  | cons a rest ih =>
      rcases runFrom_cons_some hrun with ⟨s', hfirst, hrest⟩
      exact ih (hstep hs hmeet.left hfirst) (hmeet.right s' hfirst) hrest

theorem runFrom_append_some {step : state -> action -> Option state}
    {s u : state} {first second : List action}
    (h : runFrom step s (first ++ second) = some u) :
    exists t, runFrom step s first = some t ∧
      runFrom step t second = some u := by
  induction first generalizing s with
  | nil => exact ⟨s, rfl, h⟩
  | cons a rest ih =>
      rcases runFrom_cons_some h with ⟨s', hstep, hrun⟩
      rcases ih hrun with ⟨t, hrest, hsecond⟩
      exact ⟨t, (runFrom_cons_of_step rest hstep).trans hrest, hsecond⟩

theorem stepsMeet_mono {step : state -> action -> Option state}
    {condition condition' : state -> action -> Prop}
    (himp : forall s a, condition s a -> condition' s a) {s : state}
    {acts : List action} (h : StepsMeet step condition s acts) :
    StepsMeet step condition' s acts := by
  induction acts generalizing s with
  | nil => trivial
  | cons a rest ih =>
      refine ⟨himp s a h.left, ?_⟩
      intro s' hstep
      exact ih (h.right s' hstep)

theorem stepsMeet_append {step : state -> action -> Option state}
    {condition : state -> action -> Prop} {s t : state}
    {first second : List action}
    (h : StepsMeet step condition s (first ++ second))
    (hrun : runFrom step s first = some t) :
    StepsMeet step condition s first ∧
      StepsMeet step condition t second := by
  induction first generalizing s with
  | nil =>
      cases hrun
      exact ⟨trivial, h⟩
  | cons a rest ih =>
      rcases runFrom_cons_some hrun with ⟨s', hstep, hrest⟩
      have hboth := ih (h.right s' hstep) hrest
      refine ⟨?_, hboth.right⟩
      rw [stepsMeet_cons_of_step rest hstep]
      exact ⟨h.left, hboth.left⟩

theorem runFrom_snoc {step : state -> action -> Option state} {s t : state}
    {past : List action} {a : action}
    (h : runFrom step s (past ++ [a]) = some t) :
    exists u, runFrom step s past = some u ∧ step u a = some t := by
  rcases runFrom_append_some h with ⟨u, hpast, hlast⟩
  rcases runFrom_cons_some hlast with ⟨t', hstep, hrun⟩
  cases hrun
  exact ⟨u, hpast, hstep⟩

theorem stepsMeet_snoc {step : state -> action -> Option state}
    {condition : state -> action -> Prop} {s u : state}
    {past : List action} {a : action}
    (h : StepsMeet step condition s (past ++ [a]))
    (hrun : runFrom step s past = some u) :
    StepsMeet step condition s past ∧ condition u a := by
  rcases stepsMeet_append h hrun with ⟨hpast, hlast⟩
  exact ⟨hpast, hlast.left⟩

/-- An invariant may also speak about the actions of the run so far. -/
theorem runFrom_history {step : state -> action -> Option state}
    {condition : state -> action -> Prop} (Inv : List action -> state -> Prop)
    (hstep : forall {past s a s'}, Inv past s -> condition s a ->
      step s a = some s' -> Inv (past ++ [a]) s')
    {s t : state} (hs : Inv [] s) {acts : List action}
    (hmeet : StepsMeet step condition s acts)
    (hrun : runFrom step s acts = some t) : Inv acts t := by
  induction acts using List.reverseRecOn generalizing t with
  | nil =>
      cases hrun
      exact hs
  | append_singleton past a ih =>
      rcases runFrom_snoc hrun with ⟨u, hpast, hlast⟩
      rcases stepsMeet_snoc hmeet hpast with ⟨hbefore, hcondition⟩
      exact hstep (ih hbefore hpast) hcondition hlast

/--
A log that every step may only extend has, at every moment of the run, the log of
that moment for prefix.
-/
theorem runFrom_growing {entry : Type} {step : state -> action -> Option state}
    {condition : state -> action -> Prop}
    (Inv : List action -> state -> List entry -> Prop)
    (hstep : forall {past s log a s'}, Inv past s log -> condition s a ->
      step s a = some s' -> exists log', log <+: log' ∧ Inv (past ++ [a]) s' log')
    {s t : state} (hs : Inv [] s []) {acts : List action}
    (hmeet : StepsMeet step condition s acts)
    (hrun : runFrom step s acts = some t) :
    exists log, Inv acts t log ∧
      forall before u, before <+: acts -> runFrom step s before = some u ->
        exists done, done <+: log ∧ Inv before u done := by
  induction acts using List.reverseRecOn generalizing t with
  | nil =>
      cases hrun
      refine ⟨[], hs, ?_⟩
      intro before u hbefore hmoment
      rw [List.prefix_nil.mp hbefore] at hmoment ⊢
      cases hmoment
      exact ⟨[], List.prefix_rfl, hs⟩
  | append_singleton past a ih =>
      rcases runFrom_snoc hrun with ⟨v, hpast, hlast⟩
      rcases stepsMeet_snoc hmeet hpast with ⟨hearlier, hcondition⟩
      rcases ih hearlier hpast with ⟨log, hlog, hmoments⟩
      rcases hstep hlog hcondition hlast with ⟨log', hgrows, hlog'⟩
      refine ⟨log', hlog', ?_⟩
      intro before u hbefore hmoment
      rcases List.prefix_concat_iff.mp hbefore with hwhole | hinner
      · rw [hwhole] at hmoment ⊢
        rw [hrun] at hmoment
        cases hmoment
        exact ⟨log', List.prefix_rfl, hlog'⟩
      · rcases hmoments before u hinner hmoment with ⟨done, hdone, hinv⟩
        exact ⟨done, hdone.trans hgrows, hinv⟩

/--
Where a step keeps a property exactly under a condition, the property holds along
a whole run exactly when every step of the run meets the condition.
-/
theorem invariant_along_iff_stepsMeet
    {step : state -> action -> Option state}
    {condition : state -> action -> Prop} (Base Inv : state -> Prop)
    (hbase : forall {s a s'}, Base s -> step s a = some s' -> Base s')
    (hexact : forall {s a}, Base s -> Inv s ->
      (condition s a <-> forall s', step s a = some s' -> Inv s'))
    {s : state} (hs : Base s) (hinv : Inv s) (acts : List action) :
    (forall past t, past <+: acts -> runFrom step s past = some t -> Inv t) <->
      StepsMeet step condition s acts := by
  induction acts generalizing s with
  | nil =>
      constructor
      · intro _
        trivial
      · intro _ past t hpast hrun
        rw [List.prefix_nil] at hpast
        subst hpast
        cases hrun
        exact hinv
  | cons a rest ih =>
      constructor
      · intro hall
        have hnext : forall s', step s a = some s' -> Inv s' := by
          intro s' hstep
          apply hall [a] s'
          · exact List.prefix_cons_inj a |>.mpr List.nil_prefix
          · rw [runFrom_cons_of_step [] hstep]
            rfl
        refine ⟨(hexact hs hinv).mpr hnext, ?_⟩
        intro s' hstep
        apply (ih (hbase hs hstep) (hnext s' hstep)).mp
        intro past t hpast hrun
        apply hall (a :: past) t
        · exact List.prefix_cons_inj a |>.mpr hpast
        · rw [runFrom_cons_of_step past hstep]
          exact hrun
      · intro hmeet past t hpast hrun
        cases past with
        | nil =>
            cases hrun
            exact hinv
        | cons b past =>
            rcases List.cons_prefix_cons.mp hpast with ⟨hb, hrest⟩
            subst hb
            rcases runFrom_cons_some hrun with ⟨s', hstep, hlast⟩
            have hinv' := (hexact hs hinv).mp hmeet.left s' hstep
            exact (ih (hbase hs hstep) hinv').mpr (hmeet.right s' hstep)
              past t hrest hlast

/-!
## Parties

Where the parties of a system are kept in a list, a step of one of them replaces
it in the list.
-/

theorem countP_set_of_getElem? {party : Type} {p : party -> Bool}
    {parties : List party} {i : Nat} {c : party} (c' : party)
    (h : parties[i]? = some c) :
    (parties.set i c').countP p + (p c).toNat =
      parties.countP p + (p c').toNat := by
  induction parties generalizing i with
  | nil => simp at h
  | cons x rest ih =>
      cases i with
      | zero =>
          have hx : x = c := by simpa using h
          subst x
          simp only [List.set_cons_zero, List.countP_cons]
          cases p c <;> cases p c' <;> simp
      | succ i =>
          have hrest : rest[i]? = some c := by simpa using h
          have := ih hrest
          simp only [List.set_cons_succ, List.countP_cons]
          omega

theorem flatMap_set_perm {party item : Type} (f : party -> List item)
    {parties : List party} {i : Nat} {c : party} (c' : party)
    (h : parties[i]? = some c) :
    ((parties.set i c').flatMap f ++ f c).Perm
      (parties.flatMap f ++ f c') := by
  induction parties generalizing i with
  | nil => simp at h
  | cons x rest ih =>
      cases i with
      | zero =>
          have hx : x = c := by simpa using h
          subst x
          rw [List.set_cons_zero, List.flatMap_cons, List.flatMap_cons]
          apply List.perm_append_comm.trans
          rw [List.append_assoc]
          exact List.perm_append_comm.append_left (f c)
      | succ i =>
          have hrest : rest[i]? = some c := by simpa using h
          rw [List.set_cons_succ, List.flatMap_cons, List.flatMap_cons,
            List.append_assoc, List.append_assoc]
          exact (ih hrest).append_left (f x)

theorem getElem?_set_cases {party : Type} {parties : List party} {i j : Nat}
    {c x : party} (h : (parties.set i c)[j]? = some x) :
    (j = i ∧ x = c) ∨ (j ≠ i ∧ parties[j]? = some x) := by
  rw [List.getElem?_set] at h
  split at h
  · rename_i hij
    split at h
    · cases h
      exact Or.inl ⟨hij.symm, rfl⟩
    · cases h
  · rename_i hij
    exact Or.inr ⟨Ne.symm hij, h⟩

theorem getElem?_set_of_getElem? {party : Type} {parties : List party}
    {i : Nat} {c : party} (c' : party) (h : parties[i]? = some c) :
    (parties.set i c')[i]? = some c' := by
  rcases List.getElem?_eq_some_iff.mp h with ⟨hlt, _⟩
  exact List.getElem?_set_self hlt

theorem self_mem_set {party : Type} {parties : List party} {i : Nat}
    {c : party} (c' : party) (h : parties[i]? = some c) :
    c' ∈ parties.set i c' :=
  List.mem_of_getElem? (getElem?_set_of_getElem? c' h)

theorem mem_set_of_mem {party : Type} {parties : List party} {i : Nat}
    {c x : party} (c' : party) (h : parties[i]? = some c)
    (hx : x ∈ parties) : x = c ∨ x ∈ parties.set i c' := by
  rcases List.mem_iff_getElem?.mp hx with ⟨j, hj⟩
  rcases eq_or_ne j i with hij | hij
  · subst hij
    rw [h] at hj
    exact Or.inl (Option.some.inj hj).symm
  · right
    rw [List.mem_iff_getElem?]
    exact ⟨j, (List.getElem?_set_ne (Ne.symm hij)).trans hj⟩

theorem getElem?_append_cases {party : Type} {parties : List party} {j : Nat}
    {c x : party} (h : (parties ++ [c])[j]? = some x) :
    (j = parties.length ∧ x = c) ∨ parties[j]? = some x := by
  rw [List.getElem?_append] at h
  split at h
  · exact Or.inr h
  · left
    rename_i hge
    rw [List.getElem?_singleton] at h
    split at h
    · rename_i hzero
      cases h
      exact ⟨by omega, rfl⟩
    · cases h

theorem index_unique_of_countP {party : Type} {p : party -> Bool}
    {parties : List party} {i j : Nat} {c x : party}
    (hone : parties.countP p <= 1) (hi : parties[i]? = some c)
    (hj : parties[j]? = some x) (hc : p c = true) (hx : p x = true) :
    i = j := by
  induction parties generalizing i j with
  | nil => cases hi
  | cons first rest ih =>
      rw [List.countP_cons] at hone
      have hrest : forall {k : Nat} {y z : party}, first = y ->
          rest[k]? = some z -> p y = true -> p z = true -> False := by
        intro k y z hfirst hz hpy hpz
        rw [hfirst, if_pos hpy] at hone
        have hzero : rest.countP p = 0 := by omega
        have hnone := List.countP_eq_zero.mp hzero z (List.mem_of_getElem? hz)
        exact hnone hpz
      cases i with
      | zero =>
          cases j with
          | zero => rfl
          | succ j => exact (hrest (Option.some.inj hi) hj hc hx).elim
      | succ i =>
          cases j with
          | zero => exact (hrest (Option.some.inj hj) hi hx hc).elim
          | succ j =>
              have hle : rest.countP p <= 1 := by omega
              rw [ih hle hi hj]

theorem countP_succ_le {party : Type} {p q : party -> Bool}
    {l : List party} {x : party}
    (hle : forall y, y ∈ l -> p y = true -> q y = true) (hx : x ∈ l)
    (hp : p x = false) (hq : q x = true) :
    l.countP p + 1 <= l.countP q := by
  induction l with
  | nil => cases hx
  | cons y rest ih =>
      have hrest := List.countP_mono_left
        (fun z hz => hle z (List.mem_cons_of_mem y hz))
      rw [List.countP_cons, List.countP_cons]
      rcases List.mem_cons.mp hx with heq | hmem
      · rw [← heq, hp, hq]
        simpa using hrest
      · have hnext := ih
          (fun z hz => hle z (List.mem_cons_of_mem y hz)) hmem
        cases hy : p y with
        | true =>
            rw [hle y List.mem_cons_self hy]
            simp only [if_true]
            omega
        | false =>
            simp only [Bool.false_eq_true, if_false]
            split
            · omega
            · omega

end Foundation
end Valqeron
