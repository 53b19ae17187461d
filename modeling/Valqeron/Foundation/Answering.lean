import Mathlib.Algebra.Order.Ring.Int
import Mathlib.Data.List.Basic

/-!
# Systems that answer

A system takes inputs one at a time and answers each.  It refines a specification
when a relation between their states says so for every single input; then whole
runs give answers that the specification allows.
-/

namespace Valqeron
namespace Foundation

variable {state state' input answer : Type}

/-- The answers to the inputs, in order, and the state behind the last one. -/
def answersFrom (serve : state -> input -> state × answer) (s : state) :
    List input -> state × List answer
  | [] => (s, [])
  | i :: rest =>
      ((answersFrom serve (serve s i).1 rest).1,
        (serve s i).2 :: (answersFrom serve (serve s i).1 rest).2)

theorem answersFrom_fst (serve : state -> input -> state × answer)
    (inputs : List input) (s : state) :
    (answersFrom serve s inputs).1 =
      inputs.foldl (fun s i => (serve s i).1) s := by
  induction inputs generalizing s with
  | nil => rfl
  | cons i rest ih => exact ih (serve s i).1

/-- The inputs and answers that a specification of single inputs allows. -/
inductive Answered
    (spec : state -> input -> answer -> state -> Prop) :
    state -> List input -> List answer -> state -> Prop where
  | nil (s : state) : Answered spec s [] [] s
  | cons {s s₁ s' : state} {i : input} {a : answer} {inputs : List input}
      {answers : List answer} (h : spec s i a s₁)
      (rest : Answered spec s₁ inputs answers s') :
      Answered spec s (i :: inputs) (a :: answers) s'

section Refinement

variable {R : state -> state' -> Prop}
variable {serve : state -> input -> state × answer}

/-- A system answers a whole run as the specification allows. -/
theorem answered_of_refines
    {spec : state' -> input -> answer -> state' -> Prop}
    (hstep : forall s t i, R s t ->
      exists t', spec t i (serve s i).2 t' ∧ R (serve s i).1 t')
    (inputs : List input) {s : state} {t : state'} (h : R s t) :
    exists t', Answered spec t inputs (answersFrom serve s inputs).2 t' ∧
      R (answersFrom serve s inputs).1 t' := by
  induction inputs generalizing s t with
  | nil => exact ⟨t, .nil t, h⟩
  | cons i rest ih =>
      rcases hstep s t i h with ⟨t₁, hspec, hrelated⟩
      rcases ih hrelated with ⟨t', hanswered, hend⟩
      exact ⟨t', .cons hspec hanswered, hend⟩

/-- Two systems that answer every input alike answer every run alike. -/
theorem answersFrom_refines {serve' : state' -> input -> state' × answer}
    (hstep : forall s t i, R s t ->
      R (serve s i).1 (serve' t i).1 ∧ (serve s i).2 = (serve' t i).2)
    (inputs : List input) {s : state} {t : state'} (h : R s t) :
    R (answersFrom serve s inputs).1 (answersFrom serve' t inputs).1 ∧
      (answersFrom serve s inputs).2 = (answersFrom serve' t inputs).2 := by
  induction inputs generalizing s t with
  | nil => exact ⟨h, rfl⟩
  | cons i rest ih =>
      have hfirst := hstep s t i h
      have hrest := ih hfirst.left
      refine ⟨hrest.left, ?_⟩
      show (serve s i).2 :: _ = (serve' t i).2 :: _
      rw [hrest.right, hfirst.right]

end Refinement

end Foundation
end Valqeron
