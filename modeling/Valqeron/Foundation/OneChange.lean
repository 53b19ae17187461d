import Valqeron.Foundation.Program

/-!
# Programs that change the world at once

What another party can see while a program runs: the worlds between its commands.
A program whose commands leave the world alone, except for one, shows only the world
from before it and the world from after it.
-/

namespace Valqeron
namespace Foundation
namespace Program

variable {command : Type} {response : command -> Type}
variable {value other world : Type}
variable {handle : world -> (c : command) -> world × response c}

/-- The program leaves the world alone all the way. -/
def Still (handle : world -> (c : command) -> world × response c) :
    world -> Program command response value -> Prop
  | _, done _ => True
  | w, call c next =>
      (handle w c).1 = w ∧ Still handle w (next (handle w c).2)

/-- At most one command changes the world. -/
def AtOnce (handle : world -> (c : command) -> world × response c) :
    world -> Program command response value -> Prop
  | _, done _ => True
  | w, call c next =>
      ((handle w c).1 = w ∧ AtOnce handle w (next (handle w c).2)) ∨
        (next (handle w c).2).Still handle (handle w c).1

theorem Still.run_eq {w : world} {p : Program command response value}
    (h : p.Still handle w) : (p.run handle w).1 = w := by
  induction p with
  | done v => rfl
  | call c next ih =>
      rw [run_call, h.left]
      exact ih _ h.right

theorem Still.atOnce {w : world} {p : Program command response value}
    (h : p.Still handle w) : p.AtOnce handle w := by
  induction p with
  | done v => trivial
  | call c next ih => exact Or.inl ⟨h.left, ih _ h.right⟩

theorem still_done (w : world) (v : value) :
    (done v : Program command response value).Still handle w := trivial

theorem still_perform {w : world} {c : command} (h : (handle w c).1 = w) :
    (perform c).Still handle w :=
  ⟨h, trivial⟩

theorem still_bind {w : world} {p : Program command response value}
    {f : value -> Program command response other} (hp : p.Still handle w)
    (hf : (f (p.run handle w).2).Still handle w) :
    (p >>= f).Still handle w := by
  induction p with
  | done v => exact hf
  | call c next ih =>
      rw [run_call, hp.left] at hf
      exact ⟨hp.left, ih _ hp.right hf⟩

theorem atOnce_perform (w : world) (c : command) :
    (perform c).AtOnce handle w :=
  Or.inr trivial

/-- What comes before the change may look, as long as it leaves no trace. -/
theorem atOnce_bind_of_still {w : world}
    {p : Program command response value}
    {f : value -> Program command response other} (hp : p.Still handle w)
    (hf : (f (p.run handle w).2).AtOnce handle w) :
    (p >>= f).AtOnce handle w := by
  induction p with
  | done v => exact hf
  | call c next ih =>
      rw [run_call, hp.left] at hf
      exact Or.inl ⟨hp.left, ih _ hp.right hf⟩

theorem AtOnce.bind_still {w : world} {p : Program command response value}
    {f : value -> Program command response other} (hp : p.AtOnce handle w)
    (hf : (f (p.run handle w).2).Still handle (p.run handle w).1) :
    (p >>= f).AtOnce handle w := by
  induction p with
  | done v => exact hf.atOnce
  | call c next ih =>
      rw [run_call] at hf
      rcases hp with ⟨hsame, hrest⟩ | hstill
      · rw [hsame] at hf
        exact Or.inl ⟨hsame, ih _ hrest hf⟩
      · rw [hstill.run_eq] at hf
        exact Or.inr (still_bind hstill hf)

theorem atOnce_bracket {w : world} {enter leave : command}
    {body : Program command response value}
    (henter : forall u, (handle u enter).1 = u)
    (hleave : forall u, (handle u leave).1 = u)
    (hbody : body.AtOnce handle w) :
    (bracket enter leave body).AtOnce handle w := by
  unfold bracket
  apply atOnce_bind_of_still (still_perform (henter w))
  apply AtOnce.bind_still hbody
  exact still_bind (still_perform (hleave _)) (still_done _ _)

theorem atOnce_retryWhile {w : world} {again : value -> Bool}
    {op : Program command response value} (hop : op.AtOnce handle w)
    (hlast : again (op.run handle w).2 = false) (more : Nat) :
    (retryWhile again op more).AtOnce handle w := by
  cases more with
  | zero => exact hop
  | succ more =>
      unfold retryWhile
      apply AtOnce.bind_still hop
      rw [hlast]
      exact still_done _ _

end Program
end Foundation
end Valqeron
