import Valqeron.Foundation.Program

/-!
# Programs on a shared world

A service says which worlds and responses a command may lead to.  What other
parties do to the world, and every fault, is part of the service, so a program on a
service runs among all of them.
-/

namespace Valqeron
namespace Foundation

abbrev Service (world command : Type) (response : command -> Type) : Type :=
  world -> (c : command) -> world -> response c -> Prop

variable {command command' : Type}
variable {response : command -> Type} {response' : command' -> Type}
variable {value other world : Type}

namespace Program

/-- Some execution on the service leads from one world to the other. -/
def RunsOn (serve : Service world command response) :
    Program command response value -> world -> world -> value -> Prop
  | done v, w, w', v' => w' = w ∧ v' = v
  | call c next, w, w', v' =>
      exists w₁ r, serve w c w₁ r ∧ (next r).RunsOn serve w₁ w' v'

variable {serve : Service world command response}

/-- A run in which a schedule says what the service does at every command. -/
def playOn {move : Type}
    (play : move -> world -> (c : command) -> world × response c) :
    List move -> Program command response value -> world ->
      Option (world × value)
  | _, done v, w => some (w, v)
  | [], call _ _, _ => none
  | m :: rest, call c next, w =>
      playOn play rest (next (play m w c).2) (play m w c).1

theorem runsOn_of_playOn {move : Type}
    {play : move -> world -> (c : command) -> world × response c}
    (hserve : forall m w c, serve w c (play m w c).1 (play m w c).2)
    {moves : List move} {p : Program command response value} {w w' : world}
    {v : value} (h : playOn play moves p w = some (w', v)) :
    p.RunsOn serve w w' v := by
  induction p generalizing moves w with
  | done u =>
      unfold playOn at h
      cases h
      exact ⟨rfl, rfl⟩
  | call c next ih =>
      cases moves with
      | nil => cases h
      | cons m rest =>
          unfold playOn at h
          exact ⟨_, _, hserve m w c, ih _ h⟩

theorem runsOn_bind {p : Program command response value}
    {f : value -> Program command response other} {w w' : world} {v : other} :
    (p >>= f).RunsOn serve w w' v <->
      exists w₁ u, p.RunsOn serve w w₁ u ∧ (f u).RunsOn serve w₁ w' v := by
  induction p generalizing w with
  | done u =>
      constructor
      · intro h
        exact ⟨w, u, ⟨rfl, rfl⟩, h⟩
      · intro h
        rcases h with ⟨w₁, u₁, ⟨hworld, hvalue⟩, hrest⟩
        rw [hworld, hvalue] at hrest
        exact hrest
  | call c next ih =>
      constructor
      · intro h
        rcases h with ⟨w₁, r, hserve, hrest⟩
        rcases (ih r).mp hrest with ⟨w₂, u, hfirst, hlast⟩
        exact ⟨w₂, u, ⟨w₁, r, hserve, hfirst⟩, hlast⟩
      · intro h
        rcases h with ⟨w₂, u, ⟨w₁, r, hserve, hfirst⟩, hlast⟩
        exact ⟨w₁, r, hserve, (ih r).mpr ⟨w₂, u, hfirst, hlast⟩⟩

theorem runsOn_bracket {R : world -> world -> Prop} {enter leave : command}
    (henter : forall {w w' r}, serve w enter w' r -> R w w')
    (hleave : forall {w w' r}, serve w leave w' r -> R w w')
    {body : Program command response value} {w w' : world} {v : value}
    (h : (bracket enter leave body).RunsOn serve w w' v) :
    exists w₁ w₂, R w w₁ ∧ body.RunsOn serve w₁ w₂ v ∧ R w₂ w' := by
  rcases h with ⟨w₁, r, hserve, hrest⟩
  have hbound : (body >>= fun v => call leave (fun _ => done v)).RunsOn serve
      w₁ w' v := hrest
  rcases runsOn_bind.mp hbound with ⟨w₂, u, hbody, hlast⟩
  rcases hlast with ⟨w₃, r', hserve', hworld, hvalue⟩
  rw [hvalue, hworld]
  exact ⟨w₁, w₂, henter hserve, hbody, hleave hserve'⟩

theorem runsOn_retryWhile {again : value -> Bool}
    {op : Program command response value} {Q : world -> world -> value -> Prop}
    (hop : forall {w w' v}, op.RunsOn serve w w' v -> Q w w' v)
    (hagain : forall {w w₁ w' u v}, again u = true -> Q w w₁ u ->
      Q w₁ w' v -> Q w w' v)
    {more : Nat} {w w' : world} {v : value}
    (h : (retryWhile again op more).RunsOn serve w w' v) : Q w w' v := by
  induction more generalizing w with
  | zero => exact hop h
  | succ more ih =>
      unfold retryWhile at h
      rcases runsOn_bind.mp h with ⟨w₁, u, hfirst, hrest⟩
      split at hrest
      · rename_i hasked
        exact hagain hasked (hop hfirst) (ih hrest)
      · rcases hrest with ⟨hworld, hvalue⟩
        rw [hworld, hvalue]
        exact hop hfirst

/-!
## Two parties

A program for one of two parties is a program for both.
-/

def onLeft : Program command response value ->
    Program (command ⊕ command') (Sum.elim response response') value
  | done v => done v
  | call c next => call (.inl c) (fun r => (next r).onLeft)

def onRight : Program command' response' value ->
    Program (command ⊕ command') (Sum.elim response response') value
  | done v => done v
  | call c next => call (.inr c) (fun r => (next r).onRight)

theorem runsOn_onLeft
    {serve : Service world (command ⊕ command') (Sum.elim response response')}
    {p : Program command response value} {w w' : world} {v : value} :
    p.onLeft.RunsOn serve w w' v <->
      p.RunsOn (fun w c w' r => serve w (.inl c) w' r) w w' v := by
  induction p generalizing w with
  | done u => exact Iff.rfl
  | call c next ih =>
      exact exists_congr (fun _ => exists_congr (fun r =>
        and_congr_right (fun _ => ih r)))

theorem runsOn_onRight
    {serve : Service world (command ⊕ command') (Sum.elim response response')}
    {p : Program command' response' value} {w w' : world} {v : value} :
    p.onRight.RunsOn serve w w' v <->
      p.RunsOn (fun w c w' r => serve w (.inr c) w' r) w w' v := by
  induction p generalizing w with
  | done u => exact Iff.rfl
  | call c next ih =>
      exact exists_congr (fun _ => exists_congr (fun r =>
        and_congr_right (fun _ => ih r)))

theorem run_onLeft {handle : world -> (c : command ⊕ command') ->
      world × Sum.elim response response' c}
    (p : Program command response value) (w : world) :
    p.onLeft.run handle w = p.run (fun w c => handle w (.inl c)) w := by
  induction p generalizing w with
  | done v => rfl
  | call c next ih => exact ih _ _

theorem run_onRight {handle : world -> (c : command ⊕ command') ->
      world × Sum.elim response response' c}
    (p : Program command' response' value) (w : world) :
    p.onRight.run handle w = p.run (fun w c => handle w (.inr c)) w := by
  induction p generalizing w with
  | done v => rfl
  | call c next ih => exact ih _ _

end Program

end Foundation
end Valqeron
