import Mathlib.Algebra.Order.Ring.Int
import Mathlib.Data.List.Basic

/-!
# Jobs one after another

A serial run performs jobs on a world one at a time, each to its end, and records
which job gave which outcome.  The jobs may themselves be run step by step; what
such a job does alone is the yardstick for what it does among others.
-/

namespace Valqeron
namespace Foundation

variable {world world' job outcome : Type}

/-- The jobs of the log, each run to its end in the order of the log. -/
inductive Serial (run : world -> job -> world -> outcome -> Prop)
    (jobs : List job) (start : world) : List (Nat × outcome) -> world -> Prop
  where
  | nil : Serial run jobs start [] start
  | snoc {log : List (Nat × outcome)} {v u : world} {i : Nat} {r : outcome}
      {f : job} (h : Serial run jobs start log v) (hjob : jobs[i]? = some f)
      (hrun : run v f u r) : Serial run jobs start (log ++ [(i, r)]) u

theorem getElem?_append_of_getElem? {a : Type} {l : List a} {i : Nat} {x : a}
    (more : List a) (h : l[i]? = some x) : (l ++ more)[i]? = some x := by
  rcases List.getElem?_eq_some_iff.mp h with ⟨hlt, _⟩
  rw [List.getElem?_append_left hlt]
  exact h

namespace Serial

variable {run : world -> job -> world -> outcome -> Prop} {jobs : List job}
variable {start v : world} {log : List (Nat × outcome)}

theorem append (h : Serial run jobs start log v) (more : List job) :
    Serial run (jobs ++ more) start log v := by
  induction h with
  | nil => exact .nil
  | snoc _ hjob hrun ih =>
      exact .snoc ih (getElem?_append_of_getElem? more hjob) hrun

theorem invariant {Inv : world -> Prop} (h : Serial run jobs start log v)
    (hstart : Inv start)
    (hrun : forall v f u r, Inv v -> run v f u r -> Inv u) : Inv v := by
  induction h with
  | nil => exact hstart
  | snoc _ _ hlast ih => exact hrun _ _ _ _ ih hlast

/-- Every entry of the log has had its turn, behind the entries before it. -/
theorem turn (h : Serial run jobs start log v) {i : Nat} {r : outcome}
    (hmem : (i, r) ∈ log) :
    exists earlier u u' f, earlier ++ [(i, r)] <+: log ∧
      Serial run jobs start earlier u ∧ jobs[i]? = some f ∧ run u f u' r := by
  induction h with
  | nil => cases hmem
  | snoc hbefore hjob hlast ih =>
      rcases List.mem_append.mp hmem with hold | hnew
      · rcases ih hold with ⟨earlier, u, u', f, hearlier, hrest⟩
        exact ⟨earlier, u, u', f, hearlier.trans (List.prefix_append _ _),
          hrest⟩
      · cases List.mem_singleton.mp hnew
        exact ⟨_, _, _, _, List.prefix_rfl, hbefore, hjob, hlast⟩

/-- A serial run of one system is one of another that answers every job alike. -/
theorem simulate {run' : world' -> job -> world' -> outcome -> Prop}
    {R : world -> world' -> Prop} (h : Serial run jobs start log v)
    {start' : world'} (hstart : R start start')
    (hrun : forall v v' f u r, f ∈ jobs -> R v v' -> run v f u r ->
      exists u', run' v' f u' r ∧ R u u') :
    exists v', Serial run' jobs start' log v' ∧ R v v' := by
  induction h with
  | nil => exact ⟨start', .nil, hstart⟩
  | snoc _ hjob hlast ih =>
      rcases ih with ⟨v', hserial, hv⟩
      rcases hrun _ v' _ _ _ (List.mem_of_getElem? hjob) hv hlast with
        ⟨u', hlast', hu⟩
      exact ⟨u', .snoc hserial hjob hlast', hu⟩

end Serial

/-!
## Jobs that are run step by step
-/

variable {closure : Type}

/-- Some steps of a closure, none of which is the last. -/
inductive Steps
    (body : world -> closure -> Option (world × (closure ⊕ outcome)))
    (w : world) (f : closure) : world -> closure -> Prop where
  | refl : Steps body w f w f
  | step {v u : world} {g g' : closure} (h : Steps body w f v g)
      (hstep : body v g = some (u, .inl g')) : Steps body w f u g'

/-- The steps of a closure up to the last, which gives its outcome. -/
def Finishes
    (body : world -> closure -> Option (world × (closure ⊕ outcome)))
    (w : world) (f : closure) (u : world) (r : outcome) : Prop :=
  exists v g, Steps body w f v g ∧ body v g = some (u, .inr r)

theorem Steps.invariant
    {body : world -> closure -> Option (world × (closure ⊕ outcome))}
    {Inv : world -> closure -> Prop} {w v : world} {f g : closure}
    (h : Steps body w f v g) (hstart : Inv w f)
    (hstep : forall v g u g', Inv v g -> body v g = some (u, .inl g') ->
      Inv u g') : Inv v g := by
  induction h with
  | refl => exact hstart
  | step _ hlast ih => exact hstep _ _ _ _ ih hlast

end Foundation
end Valqeron
