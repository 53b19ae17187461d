import Valqeron.Foundation.Program

/-!
# Logged dialogues

The log of an execution lists its commands with the responses they got.  A program
that follows a protocol leaves a log in which every command was allowed when it was
issued, whatever the outside party answered.
-/

namespace Valqeron
namespace Foundation

abbrev Exchange (command : Type) (response : command -> Type) : Type :=
  (c : command) × response c

variable {command : Type} {response : command -> Type}
variable {value other world summary : Type}

namespace Protocol

def after (P : Protocol command response summary) :
    summary -> List (Exchange command response) -> summary
  | g, [] => g
  | g, x :: rest => P.after (P.advance g x.1 x.2) rest

/-- Every command of the log was allowed when it was issued. -/
def Kept (P : Protocol command response summary) :
    summary -> List (Exchange command response) -> Prop
  | _, [] => True
  | g, x :: rest => P.allowed g x.1 ∧ P.Kept (P.advance g x.1 x.2) rest

theorem kept_append {P : Protocol command response summary} {g : summary}
    {first rest : List (Exchange command response)} :
    P.Kept g (first ++ rest) <->
      P.Kept g first ∧ P.Kept (P.after g first) rest := by
  induction first generalizing g with
  | nil => simp [Kept, after]
  | cons x first ih =>
      simp only [List.cons_append, Kept, after, ih, and_assoc]

theorem Kept.allowed_at {P : Protocol command response summary} {g : summary}
    {before rest : List (Exchange command response)} {c : command}
    {r : response c} (h : P.Kept g (before ++ ⟨c, r⟩ :: rest)) :
    P.allowed (P.after g before) c :=
  (kept_append.mp h).right.left

end Protocol

namespace Program

/-- Some execution leaves this log and ends with this value. -/
def Converses : Program command response value ->
    List (Exchange command response) -> value -> Prop
  | done v, log, v' => log = [] ∧ v' = v
  | call c next, log, v' =>
      exists r rest, log = ⟨c, r⟩ :: rest ∧ (next r).Converses rest v'

/-- On every world the program leaves some log. -/
theorem run_converses
    (handle : world -> (c : command) -> world × response c) (w : world)
    (p : Program command response value) :
    exists log, p.Converses log (p.run handle w).2 := by
  induction p generalizing w with
  | done v => exact ⟨[], rfl, rfl⟩
  | call c next ih =>
      rcases ih (handle w c).2 (handle w c).1 with ⟨log, hlog⟩
      exact ⟨⟨c, (handle w c).2⟩ :: log, _, log, rfl, hlog⟩

/-- The log of a program that follows a protocol keeps to it. -/
theorem follows_converses {P : Protocol command response summary}
    {post : summary -> value -> Prop} {g : summary}
    {p : Program command response value}
    {log : List (Exchange command response)} {v : value}
    (hfollows : p.Follows P post g) (hlog : p.Converses log v)
    (hpossible : forall x, x ∈ log -> P.possible x.1 x.2) :
    P.Kept g log ∧ post (P.after g log) v := by
  induction p generalizing g log with
  | done u =>
      rcases hlog with ⟨hnil, hv⟩
      rw [hnil, hv]
      exact ⟨trivial, hfollows⟩
  | call c next ih =>
      rcases hlog with ⟨r, rest, hcons, hrest⟩
      rw [hcons] at hpossible ⊢
      have hr : P.possible c r := hpossible ⟨c, r⟩ List.mem_cons_self
      have hlater := ih r (hfollows.right r hr) hrest
        (fun x hx => hpossible x (List.mem_cons_of_mem _ hx))
      exact ⟨⟨hfollows.left, hlater.left⟩, hlater.right⟩

end Program

/-!
## A program inside another

Every command of a program may itself be carried out by a program that speaks to
someone else.  Where those programs keep to the other party's protocol, all of
them together do.
-/

namespace Program

variable {command' : Type} {response' : command' -> Type} {summary' : Type}

def via (impl : (c : command) -> Program command' response' (response c)) :
    Program command response value -> Program command' response' value
  | done v => done v
  | call c next => (impl c).bind (fun r => (next r).via impl)

theorem follows_via {P : Protocol command response summary}
    {Q : Protocol command' response' summary'}
    {R : summary -> summary' -> Prop}
    {impl : (c : command) -> Program command' response' (response c)}
    (himpl : forall g g' c, R g g' -> P.allowed g c ->
      (impl c).Follows Q
        (fun g' r => P.possible c r ∧ R (P.advance g c r) g') g')
    {post : summary -> value -> Prop} {g : summary} {g' : summary'}
    (hrelated : R g g') {p : Program command response value}
    (hfollows : p.Follows P post g) :
    (p.via impl).Follows Q (fun g' v => exists g, R g g' ∧ post g v) g' := by
  induction p generalizing g g' with
  | done v => exact ⟨g, hrelated, hfollows⟩
  | call c next ih =>
      refine follows_bind (himpl g g' c hrelated hfollows.left) ?_
      intro g' r hr
      exact ih r hr.right (hfollows.right r hr.left)

end Program

end Foundation
end Valqeron
