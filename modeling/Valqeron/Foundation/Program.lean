/-!
# Programs that call an outside party

A program either is done or issues a command and continues with the response.
Code that talks to a database is written once as a program; it can then be run on
a database of its own, or command by command among other programs.
-/

namespace Valqeron
namespace Foundation

inductive Program (command : Type) (response : command -> Type)
    (value : Type) where
  | done (v : value)
  | call (c : command) (next : response c -> Program command response value)

variable {command : Type} {response : command -> Type}
variable {value other world : Type}

namespace Program

def bind : Program command response value ->
    (value -> Program command response other) ->
    Program command response other
  | done v, f => f v
  | call c next, f => call c (fun r => (next r).bind f)

instance : Monad (Program command response) where
  pure := done
  bind := bind

def perform (c : command) : Program command response (response c) :=
  call c done

@[simp] theorem pure_eq (v : value) :
    (pure v : Program command response value) = done v := rfl

@[simp] theorem perform_bind (c : command)
    (f : response c -> Program command response other) :
    (perform c >>= f) = call c f := rfl

def bracket (enter leave : command)
    (body : Program command response value) :
    Program command response value := do
  let _ ← perform enter
  let v ← body
  let _ ← perform leave
  pure v

/-- `op`, and after it up to `more` attempts while its value asks for one. -/
def retryWhile (again : value -> Bool)
    (op : Program command response value) :
    Nat -> Program command response value
  | 0 => op
  | more + 1 => do
      let v ← op
      if again v then
        retryWhile again op more
      else
        pure v

/-- Run a program to its end on a world that nobody else touches. -/
def run (handle : world -> (c : command) -> world × response c) :
    world -> Program command response value -> world × value
  | w, done v => (w, v)
  | w, call c next => run handle (handle w c).1 (next (handle w c).2)

@[simp] theorem run_done
    (handle : world -> (c : command) -> world × response c)
    (w : world) (v : value) : run handle w (done v) = (w, v) := rfl

@[simp] theorem run_call
    (handle : world -> (c : command) -> world × response c)
    (w : world) (c : command)
    (next : response c -> Program command response value) :
    run handle w (call c next) =
      run handle (handle w c).1 (next (handle w c).2) := rfl

theorem run_bind (handle : world -> (c : command) -> world × response c)
    (w : world) (p : Program command response value)
    (f : value -> Program command response other) :
    run handle w (p >>= f) =
      run handle (run handle w p).1 (f (run handle w p).2) := by
  induction p generalizing w with
  | done v => rfl
  | call c next ih => exact ih (handle w c).2 (handle w c).1

theorem run_bracket_eq (handle : world -> (c : command) -> world × response c)
    (enter leave : command) (w : world)
    (body : Program command response value) :
    run handle w (bracket enter leave body) =
      ((handle (run handle (handle w enter).1 body).1 leave).1,
        (run handle (handle w enter).1 body).2) := by
  unfold bracket
  rw [perform_bind, run_call, run_bind, perform_bind, run_call]
  rfl

theorem run_bracket {handle : world -> (c : command) -> world × response c}
    {enter leave : command} (henter : forall w, (handle w enter).1 = w)
    (hleave : forall w, (handle w leave).1 = w) (w : world)
    (body : Program command response value) :
    run handle w (bracket enter leave body) = run handle w body := by
  rw [run_bracket_eq, henter, hleave]

theorem run_retryWhile {handle : world -> (c : command) -> world × response c}
    {again : value -> Bool} {w : world}
    {op : Program command response value}
    (h : again (run handle w op).2 = false) (more : Nat) :
    run handle w (retryWhile again op more) = run handle w op := by
  cases more with
  | zero => rfl
  | succ more =>
      unfold retryWhile
      rw [run_bind, h]
      rfl

/--
What holds of a last attempt, and of an attempt that asks for another one and
what comes after it, holds of all attempts together.
-/
theorem run_retryWhile_induction
    {handle : world -> (c : command) -> world × response c}
    {again : value -> Bool} {op : Program command response value}
    {post : Nat -> world -> world × value -> Prop}
    (hlast : forall more w,
      again (run handle w op).2 = false ∨ more = 0 ->
      post more w (run handle w op))
    (hagain : forall more w out, again (run handle w op).2 = true ->
      post more (run handle w op).1 out -> post (more + 1) w out)
    (more : Nat) (w : world) :
    post more w (run handle w (retryWhile again op more)) := by
  induction more generalizing w with
  | zero => exact hlast 0 w (Or.inr rfl)
  | succ more ih =>
      unfold retryWhile
      rw [run_bind]
      cases hasked : again (run handle w op).2 with
      | true =>
          rw [if_pos rfl]
          exact hagain more w _ hasked (ih _)
      | false =>
          rw [if_neg Bool.false_ne_true]
          exact hlast (more + 1) w (Or.inl hasked)

theorem run_invariant {handle : world -> (c : command) -> world × response c}
    {Inv : world -> Prop}
    (hstep : forall w c, Inv w -> Inv (handle w c).1) {w : world}
    (hw : Inv w) (p : Program command response value) :
    Inv (run handle w p).1 := by
  induction p generalizing w with
  | done v => exact hw
  | call c next ih => exact ih (handle w c).2 (hstep w c hw)

end Program

/-!
# Dialogues

What a program says to an outside party that may give any of the possible
responses: which commands it may still issue and with which value it may end, by a
summary of the dialogue so far.
-/

structure Protocol (command : Type) (response : command -> Type)
    (summary : Type) where
  allowed : summary -> command -> Prop
  possible : (c : command) -> response c -> Prop
  advance : summary -> (c : command) -> response c -> summary

namespace Program

variable {summary : Type}

/-- The program keeps to the protocol and ends as the postcondition says. -/
def Follows (P : Protocol command response summary)
    (post : summary -> value -> Prop) :
    summary -> Program command response value -> Prop
  | g, done v => post g v
  | g, call c next =>
      P.allowed g c ∧
        forall r, P.possible c r -> Follows P post (P.advance g c r) (next r)

theorem follows_bind {P : Protocol command response summary}
    {mid : summary -> value -> Prop} {post : summary -> other -> Prop}
    {p : Program command response value}
    {f : value -> Program command response other} {g : summary}
    (hp : p.Follows P mid g)
    (hf : forall g v, mid g v -> (f v).Follows P post g) :
    (p >>= f).Follows P post g := by
  induction p generalizing g with
  | done v => exact hf g v hp
  | call c next ih =>
      constructor
      · exact hp.left
      · intro r hr
        exact ih r (hp.right r hr)

theorem follows_perform {P : Protocol command response summary} {c : command}
    {post : summary -> response c -> Prop} {g : summary}
    (hallowed : P.allowed g c)
    (hpost : forall r, P.possible c r -> post (P.advance g c r) r) :
    (perform c).Follows P post g :=
  ⟨hallowed, hpost⟩

/--
A world that stands in a relation to the summary as long as the program keeps to
the protocol stands in it at the end, with the postcondition.
-/
theorem run_follows {P : Protocol command response summary}
    {post : summary -> value -> Prop}
    (handle : world -> (c : command) -> world × response c)
    (R : summary -> world -> Prop)
    (hstep : forall g w c, R g w -> P.allowed g c ->
      P.possible c (handle w c).2 ∧
        R (P.advance g c (handle w c).2) (handle w c).1)
    {g : summary} {w : world} {p : Program command response value}
    (hw : R g w) (hp : p.Follows P post g) :
    exists g', post g' (p.run handle w).2 ∧ R g' (p.run handle w).1 := by
  induction p generalizing g w with
  | done v => exact ⟨g, hp, hw⟩
  | call c next ih =>
      rcases hstep g w c hw hp.left with ⟨hpossible, hnext⟩
      exact ih _ hnext (hp.right _ hpossible)

end Program

/-!
# What a program emits

Every command stands for some events; an execution, with whatever responses,
emits the events of its commands in order.
-/

namespace Program

variable {event : Type}

/-- Some execution emits these events and ends with this value. -/
def Emits (emit : command -> List event) :
    Program command response value -> List event -> value -> Prop
  | done v, trace, v' => trace = [] ∧ v' = v
  | call c next, trace, v' =>
      exists r rest, trace = emit c ++ rest ∧ (next r).Emits emit rest v'

variable {emit : command -> List event}

theorem emits_bind {p : Program command response value}
    {f : value -> Program command response other} {trace : List event}
    {v : other} (h : (p >>= f).Emits emit trace v) :
    exists first rest u, trace = first ++ rest ∧ p.Emits emit first u ∧
      (f u).Emits emit rest v := by
  induction p generalizing trace with
  | done u => exact ⟨[], trace, u, rfl, ⟨rfl, rfl⟩, h⟩
  | call c next ih =>
      rcases h with ⟨r, rest, htrace, hrest⟩
      rcases ih r hrest with ⟨first, last, u, hsplit, hfirst, hlast⟩
      refine ⟨emit c ++ first, last, u, ?_, ⟨r, first, rfl, hfirst⟩, hlast⟩
      rw [htrace, hsplit, List.append_assoc]

def Silent (emit : command -> List event)
    (p : Program command response value) : Prop :=
  forall trace v, p.Emits emit trace v -> trace = []

theorem silent_done (v : value) :
    Silent emit (done v : Program command response value) :=
  fun _ _ h => h.left

theorem silent_perform {c : command} (h : emit c = []) :
    Silent emit (perform c : Program command response (response c)) := by
  intro trace v hemits
  rcases hemits with ⟨r, rest, htrace, hdone⟩
  rw [htrace, h, hdone.left]
  rfl

theorem silent_bind {p : Program command response value}
    {f : value -> Program command response other} (hp : Silent emit p)
    (hf : forall v, Silent emit (f v)) : Silent emit (p >>= f) := by
  intro trace v h
  rcases emits_bind h with ⟨first, rest, u, hsplit, hfirst, hrest⟩
  rw [hsplit, hp first u hfirst, hf u rest v hrest]
  rfl

theorem emits_bracket {enter leave : command}
    {body : Program command response value} {trace : List event} {v : value}
    (hbody : Silent emit body)
    (h : (bracket enter leave body).Emits emit trace v) :
    trace = emit enter ++ emit leave := by
  unfold bracket at h
  rcases h with ⟨_, rest, htrace, hrest⟩
  have hbound : (body >>= fun v => call leave (fun _ => done v)).Emits emit
      rest v := hrest
  rcases emits_bind hbound with ⟨first, last, u, hsplit, hfirst, hlast⟩
  rcases hlast with ⟨_, tail, hlast, hdone⟩
  rw [htrace, hsplit, hbody first u hfirst, hlast, hdone.left,
    List.nil_append, List.append_nil]

theorem emits_retryWhile {again : value -> Bool}
    {op : Program command response value} (P : List event -> Prop)
    (happend : forall {s t}, P s -> P t -> P (s ++ t))
    (hop : forall trace v, op.Emits emit trace v -> P trace) (more : Nat)
    {trace : List event} {v : value}
    (h : (retryWhile again op more).Emits emit trace v) : P trace := by
  induction more generalizing trace with
  | zero => exact hop trace v h
  | succ more ih =>
      unfold retryWhile at h
      rcases emits_bind h with ⟨first, rest, u, hsplit, hfirst, hrest⟩
      rw [hsplit]
      split at hrest
      · exact happend (hop first u hfirst) (ih hrest)
      · rw [hrest.left, List.append_nil]
        exact hop first u hfirst

end Program

end Foundation
end Valqeron
