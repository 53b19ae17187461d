import Valqeron.Engine.Storage
import Valqeron.Foundation.Serial

/-!
# The write lane

One permit makes the closures of the write lane run one after another.  The permit
goes with the closure: it is taken before the closure is handed to the pool and
dropped when the body is over, so that a caller that gives up in between cannot
let another closure in.

What a closure does to the engine is still a parameter here.
-/

namespace Valqeron
namespace Engine

open Foundation

variable {world closure result : Type}

namespace CallPhase

def outcome : CallPhase closure result -> Option (Except String result)
  | finishing r => some r
  | permitDropped r => some r
  | returned r => some r
  | _ => none

def pending : CallPhase closure result -> Option closure
  | queued f => some f
  | granted f => some f
  | spawned f => some f
  | _ => none

def current : CallPhase closure result -> Option closure
  | running f => some f
  | _ => none

/-- `spawn_blocking` has been given the closure. -/
def handedOver : CallPhase closure result -> Bool
  | spawned _ => true
  | running _ => true
  | finishing _ => true
  | permitDropped _ => true
  | returned _ => true
  | _ => false

def settled : CallPhase closure result -> Bool
  | returned _ => true
  | rejected _ => true
  | cancelled => true
  | _ => false

attribute [simp] outcome current pending handedOver

end CallPhase

def submitted (acts : List (StorageAction closure)) : List closure :=
  acts.filterMap (fun a =>
    match a with
    | .submit _ f => some f
    | _ => none)

/--
Only closures of a kind are submitted, to the write lane, and what has been handed
to the pool is run.
-/
def OnWriteLane (admits : closure -> Prop)
    (_ : AsyncStorage world closure result) : StorageAction closure -> Prop
  | .submit operation f => operation.lane = .write ∧ admits f
  | .call _ (.dropUnstarted _) => False
  | _ => True

/-- What a step of a call is to the engine and to the closure. -/
inductive CallEffect
    (body : world -> closure ->
      Option (world × (closure ⊕ Except String result)))
    (w : world) (c : Call closure result) :
    CallAction -> world -> Call closure result -> Prop where
  | quiet (a : CallAction) (c' : Call closure result)
      (houtcome : c'.phase.outcome = c.phase.outcome)
      (hcurrent : c'.phase.current = c.phase.current)
      (hpending : forall f, c'.phase.pending = some f ->
        c.phase.pending = some f)
      (hover : c'.phase.handedOver = true <->
        c.phase.handedOver = true ∨ a = .spawn)
      (hlane : c'.lane = c.lane) : CallEffect body w c a w c'
  | started (f : closure) (hphase : c.phase = .spawned f) :
      CallEffect body w c .start w { c with phase := .running f }
  | stepped (f f' : closure) (w' : world) (hphase : c.phase = .running f)
      (hbody : body w f = some (w', .inl f')) :
      CallEffect body w c .exec w' { c with phase := .running f' }
  | finished (f : closure) (r : Except String result) (w' : world)
      (hphase : c.phase = .running f)
      (hbody : body w f = some (w', .inr r)) :
      CallEffect body w c .exec w' { c with phase := .finishing r }

theorem callStep_effect
    {body : world -> closure ->
      Option (world × (closure ⊕ Except String result))}
    {w w' : world} {permits permits' : Semaphore}
    {c c' : Call closure result} {a : CallAction}
    (hstep : callStep body w permits c a = some (w', permits', c'))
    (hrun : forall message, a ≠ .dropUnstarted message) :
    CallEffect body w c a w' c' := by
  cases a with
  | dropUnstarted message => exact absurd rfl (hrun message)
  | exec =>
      simp only [callStep] at hstep
      split at hstep
      · rename_i f hphase
        split at hstep
        · cases hstep
        · rename_i hbody
          cases hstep
          exact .stepped f _ _ hphase hbody
        · rename_i hbody
          cases hstep
          exact .finished f _ _ hphase hbody
      · cases hstep
  | start =>
      simp only [callStep] at hstep
      split at hstep
      · rename_i f hphase
        cases hstep
        exact .started f hphase
      · cases hstep
  | grant =>
      simp only [callStep] at hstep
      split at hstep
      · rename_i f hphase
        split at hstep
        · cases hstep
          apply CallEffect.quiet
          all_goals simp [hphase, Call.lane]
        · cases hstep
      · cases hstep
  | timeout =>
      simp only [callStep] at hstep
      split at hstep
      · rename_i f hphase
        cases hstep
        apply CallEffect.quiet
        all_goals simp [hphase, Call.lane]
      · rename_i f hphase
        cases hstep
        apply CallEffect.quiet
        all_goals simp [hphase, Call.lane]
      · cases hstep
  | refuse =>
      simp only [callStep] at hstep
      split at hstep
      · split at hstep
        · rename_i f hphase
          cases hstep
          apply CallEffect.quiet
          all_goals simp [hphase, Call.lane]
        · rename_i f hphase
          cases hstep
          apply CallEffect.quiet
          all_goals simp [hphase, Call.lane]
        · cases hstep
      · cases hstep
  | cancel =>
      simp only [callStep] at hstep
      split at hstep
      · rename_i f hphase
        cases hstep
        apply CallEffect.quiet
        all_goals simp [hphase, Call.lane]
      · rename_i f hphase
        cases hstep
        apply CallEffect.quiet
        all_goals simp [hphase, Call.lane]
      · cases hstep
        apply CallEffect.quiet
        all_goals simp [Call.lane]
  | _ =>
      simp only [callStep] at hstep
      split at hstep
      · rename_i f hphase
        cases hstep
        apply CallEffect.quiet
        all_goals simp [hphase, Call.lane]
      · cases hstep

/-!
## The serial order

The log holds the calls whose bodies are over, in the order in which they have
run.  While no body runs, the engine is what the serial run of the log leaves; the
body that runs has started from there.
-/

structure LaneSerial
    (body : world -> closure ->
      Option (world × (closure ⊕ Except String result)))
    (admits : closure -> Prop) (w0 : world)
    (past : List (StorageAction closure))
    (s : AsyncStorage world closure result)
    (log : List (Nat × Except String result)) (w : world) : Prop where
  serial : Serial (Finishes body) (submitted past) w0 log w
  once : (log.map Prod.fst).Nodup
  outcome : forall (i : Nat) (r : Except String result), (i, r) ∈ log <->
    exists c, s.calls[i]? = some c ∧ c.phase.outcome = some r
  pending : forall (i : Nat) (c : Call closure result) (f : closure),
    s.calls[i]? = some c -> c.phase.pending = some f ->
    (submitted past)[i]? = some f
  idle : (forall c, c ∈ s.calls -> c.phase.current = none) -> s.engine = w
  busy : forall (i : Nat) (c : Call closure result) (f : closure),
    s.calls[i]? = some c -> c.phase.current = some f ->
    exists f0, (submitted past)[i]? = some f0 ∧ Steps body w f0 s.engine f
  handedOver : forall i : Nat, .call i .spawn ∈ past <->
    exists c, s.calls[i]? = some c ∧ c.phase.handedOver = true
  length : s.calls.length = (submitted past).length
  admitted : forall f, f ∈ submitted past -> admits f
  lane : forall c, c ∈ s.calls -> c.lane = .write
  single : s.maxPermits .write = 1
  accounted : s.Accounted

theorem submitted_append (past : List (StorageAction closure))
    (a : StorageAction closure) :
    submitted (past ++ [a]) = submitted past ++ submitted [a] :=
  List.filterMap_append

theorem new_laneSerial
    (body : world -> closure ->
      Option (world × (closure ⊕ Except String result)))
    (admits : closure -> Prop) (w0 : world) (readerPoolSize : Nat) :
    LaneSerial body admits w0 [] (AsyncStorage.new w0 readerPoolSize) []
      w0 where
  serial := .nil
  once := List.nodup_nil
  outcome := by
    intro i r
    simp [AsyncStorage.new]
  pending := by
    intro i c f hc
    cases hc
  idle := by
    intro _
    rfl
  busy := by
    intro i c f hc
    cases hc
  handedOver := by
    intro i
    simp [AsyncStorage.new]
  length := rfl
  admitted := by
    intro f hf
    cases hf
  lane := by
    intro c hc
    cases hc
  single := rfl
  accounted := AsyncStorage.new_accounted w0 readerPoolSize

section Lane

variable {body : world -> closure ->
  Option (world × (closure ⊕ Except String result))}
variable {admits : closure -> Prop} {w0 w : world}
variable {past : List (StorageAction closure)}
variable {s : AsyncStorage world closure result}
variable {log : List (Nat × Except String result)}

theorem LaneSerial.holder_unique (h : LaneSerial body admits w0 past s log w)
    {i j : Nat} {c x : Call closure result} (hc : s.calls[i]? = some c)
    (hx : s.calls[j]? = some x) (hcholds : c.phase.holdsPermit = true)
    (hxholds : x.phase.holdsPermit = true) : i = j := by
  have hpermits := h.accounted.permits .write
  rw [h.single] at hpermits
  have hone : s.holders .write <= 1 := by omega
  apply index_unique_of_countP hone hc hx
  · rw [h.lane c (List.mem_of_getElem? hc), hcholds]
    rfl
  · rw [h.lane x (List.mem_of_getElem? hx), hxholds]
    rfl

theorem holdsPermit_of_current {phase : CallPhase closure result}
    {f : closure} (h : phase.current = some f) :
    phase.holdsPermit = true := by
  cases phase with
  | running g => rfl
  | _ => cases h

theorem LaneSerial.idle_of_holder
    (h : LaneSerial body admits w0 past s log w) {i : Nat}
    {c : Call closure result} (hc : s.calls[i]? = some c)
    (hholds : c.phase.holdsPermit = true)
    (hwaits : c.phase.current = none) : s.engine = w := by
  apply h.idle
  intro x hx
  rcases List.mem_iff_getElem?.mp hx with ⟨j, hj⟩
  cases hcurrent : x.phase.current with
  | none => rfl
  | some f =>
      have hij := h.holder_unique hc hj hholds
        (holdsPermit_of_current hcurrent)
      subst hij
      rw [hc] at hj
      cases hj
      rw [hwaits] at hcurrent
      cases hcurrent

def AsyncStorage.afterCall (s : AsyncStorage world closure result) (i : Nat)
    (engine : world) (permits : Lane -> Semaphore)
    (c : Call closure result) : AsyncStorage world closure result :=
  { s with engine := engine, permits := permits, calls := s.calls.set i c }

theorem submitted_call (past : List (StorageAction closure)) (i : Nat)
    (a : CallAction) : submitted (past ++ [.call i a]) = submitted past := by
  rw [submitted_append]
  exact List.append_nil _

variable {i : Nat} {c c' : Call closure result} {a : CallAction}
variable {engine w' : world} {permits : Lane -> Semaphore}
variable {log' : List (Nat × Except String result)}

theorem laneSerial_afterCall (h : LaneSerial body admits w0 past s log w)
    (hc : s.calls[i]? = some c)
    (hpending : forall f, c'.phase.pending = some f ->
      c.phase.pending = some f)
    (hover : c'.phase.handedOver = true <->
      c.phase.handedOver = true ∨ a = .spawn)
    (hlane : c'.lane = c.lane)
    (haccounted : (s.afterCall i engine permits c').Accounted)
    (hserial : Serial (Finishes body) (submitted past) w0 log' w')
    (honce : (log'.map Prod.fst).Nodup)
    (houtcome : forall j r, (j, r) ∈ log' <->
      exists x, (s.calls.set i c')[j]? = some x ∧ x.phase.outcome = some r)
    (hidle : (forall x, x ∈ s.calls.set i c' -> x.phase.current = none) ->
      engine = w')
    (hbusy : forall (j : Nat) (x : Call closure result) (f : closure),
      (s.calls.set i c')[j]? = some x -> x.phase.current = some f ->
      exists f0, (submitted past)[j]? = some f0 ∧
        Steps body w' f0 engine f) :
    LaneSerial body admits w0 (past ++ [.call i a])
      (s.afterCall i engine permits c') log' w' where
  serial := by
    rw [submitted_call]
    exact hserial
  once := honce
  outcome := houtcome
  pending := by
    intro j x f hx hf
    rw [submitted_call]
    rcases getElem?_set_cases hx with ⟨hj, heq⟩ | ⟨_, hold⟩
    · subst hj heq
      exact h.pending j c f hc (hpending f hf)
    · exact h.pending j x f hold hf
  idle := hidle
  busy := by
    intro j x f hx hf
    rw [submitted_call]
    exact hbusy j x f hx hf
  handedOver := by
    intro j
    rw [List.mem_append, List.mem_singleton, h.handedOver j]
    constructor
    · intro hspawned
      rcases eq_or_ne j i with hj | hj
      · subst hj
        refine ⟨c', getElem?_set_of_getElem? c' hc, ?_⟩
        apply hover.mpr
        rcases hspawned with ⟨x, hx, hxover⟩ | hnew
        · rw [hc] at hx
          cases hx
          exact Or.inl hxover
        · cases hnew
          exact Or.inr rfl
      · rcases hspawned with ⟨x, hx, hxover⟩ | hnew
        · exact ⟨x, (List.getElem?_set_ne (Ne.symm hj)).trans hx, hxover⟩
        · cases hnew
          exact absurd rfl hj
    · intro hgiven
      rcases hgiven with ⟨x, hx, hxover⟩
      rcases getElem?_set_cases hx with ⟨hj, heq⟩ | ⟨_, hold⟩
      · subst hj heq
        rcases hover.mp hxover with hcover | hspawn
        · exact Or.inl ⟨c, hc, hcover⟩
        · subst hspawn
          exact Or.inr rfl
      · exact Or.inl ⟨x, hold, hxover⟩
  length := by
    rw [submitted_call]
    exact List.length_set.trans h.length
  admitted := by
    rw [submitted_call]
    exact h.admitted
  lane := by
    intro x hx
    rcases List.mem_or_eq_of_mem_set hx with hold | heq
    · exact h.lane x hold
    · rw [heq, hlane]
      exact h.lane c (List.mem_of_getElem? hc)
  single := h.single
  accounted := haccounted

theorem laneSerial_quiet (h : LaneSerial body admits w0 past s log w)
    (hc : s.calls[i]? = some c)
    (houtcome : c'.phase.outcome = c.phase.outcome)
    (hcurrent : c'.phase.current = c.phase.current)
    (hpending : forall f, c'.phase.pending = some f ->
      c.phase.pending = some f)
    (hover : c'.phase.handedOver = true <->
      c.phase.handedOver = true ∨ a = .spawn)
    (hlane : c'.lane = c.lane)
    (haccounted : (s.afterCall i s.engine permits c').Accounted) :
    LaneSerial body admits w0 (past ++ [.call i a])
      (s.afterCall i s.engine permits c') log w := by
  apply laneSerial_afterCall h hc hpending hover hlane haccounted h.serial
    h.once
  · intro j r
    rw [h.outcome]
    constructor
    · intro hgiven
      rcases hgiven with ⟨x, hx, hr⟩
      rcases eq_or_ne j i with hj | hj
      · subst hj
        rw [hc] at hx
        cases hx
        exact ⟨c', getElem?_set_of_getElem? c' hc, houtcome.trans hr⟩
      · exact ⟨x, (List.getElem?_set_ne (Ne.symm hj)).trans hx, hr⟩
    · intro hgiven
      rcases hgiven with ⟨x, hx, hr⟩
      rcases getElem?_set_cases hx with ⟨hj, heq⟩ | ⟨_, hold⟩
      · subst hj heq
        exact ⟨c, hc, houtcome.symm.trans hr⟩
      · exact ⟨x, hold, hr⟩
  · intro hnone
    apply h.idle
    intro x hx
    rcases mem_set_of_mem c' hc hx with heq | hkept
    · rw [heq, ← hcurrent]
      exact hnone c' (self_mem_set c' hc)
    · exact hnone x hkept
  · intro j x f hx hf
    rcases getElem?_set_cases hx with ⟨hj, heq⟩ | ⟨_, hold⟩
    · subst hj heq
      exact h.busy j c f hc (hcurrent.symm.trans hf)
    · exact h.busy j x f hold hf

theorem LaneSerial.not_current (h : LaneSerial body admits w0 past s log w)
    (hc : s.calls[i]? = some c) (hholds : c.phase.holdsPermit = true) {j : Nat}
    {x : Call closure result} {f : closure} (hj : j ≠ i)
    (hx : s.calls[j]? = some x) : x.phase.current ≠ some f := by
  intro hcurrent
  exact hj (h.holder_unique hx hc (holdsPermit_of_current hcurrent) hholds)

theorem LaneSerial.not_logged (h : LaneSerial body admits w0 past s log w)
    (hc : s.calls[i]? = some c) (hnone : c.phase.outcome = none)
    (r : Except String result) : (i, r) ∉ log := by
  intro hmem
  rcases (h.outcome i r).mp hmem with ⟨x, hx, hr⟩
  rw [hc] at hx
  cases hx
  rw [hnone] at hr
  cases hr

theorem LaneSerial.outcome_of_running
    (h : LaneSerial body admits w0 past s log w) (hc : s.calls[i]? = some c)
    (hnone : c.phase.outcome = none) (j : Nat) (r : Except String result) :
    (exists x, (s.calls.set i c')[j]? = some x ∧ x.phase.outcome = some r) <->
      (j, r) ∈ log ∨ (j = i ∧ c'.phase.outcome = some r) := by
  constructor
  · intro hgiven
    rcases hgiven with ⟨x, hx, hr⟩
    rcases getElem?_set_cases hx with ⟨hj, heq⟩ | ⟨_, hold⟩
    · subst heq
      exact Or.inr ⟨hj, hr⟩
    · exact Or.inl ((h.outcome j r).mpr ⟨x, hold, hr⟩)
  · intro hgiven
    rcases hgiven with hmem | ⟨hj, hr⟩
    · have hj : j ≠ i := by
        intro heq
        subst heq
        exact h.not_logged hc hnone r hmem
      rcases (h.outcome j r).mp hmem with ⟨x, hx, hr⟩
      exact ⟨x, (List.getElem?_set_ne (Ne.symm hj)).trans hx, hr⟩
    · subst hj
      exact ⟨c', getElem?_set_of_getElem? c' hc, hr⟩

/-- A body that starts, or goes on, has the engine to itself. -/
theorem laneSerial_running (h : LaneSerial body admits w0 past s log w)
    (hc : s.calls[i]? = some c) (hholds : c.phase.holdsPermit = true)
    (hnone : c.phase.outcome = none) (hover : c.phase.handedOver = true)
    {f0 f : closure} (hjob : (submitted past)[i]? = some f0)
    (hsteps : Steps body w f0 engine f)
    (haccounted : (s.afterCall i engine permits
      { c with phase := .running f }).Accounted) :
    LaneSerial body admits w0 (past ++ [.call i a])
      (s.afterCall i engine permits { c with phase := .running f }) log
      w := by
  refine laneSerial_afterCall h hc ?_ ?_ ?_ haccounted h.serial h.once ?_ ?_
    ?_
  · intro g hg
    cases hg
  · constructor
    · intro _
      exact Or.inl hover
    · intro _
      rfl
  · rfl
  · intro j r
    rw [h.outcome_of_running hc hnone]
    constructor
    · intro hmem
      exact Or.inl hmem
    · intro hgiven
      rcases hgiven with hmem | ⟨_, hr⟩
      · exact hmem
      · cases hr
  · intro hidle
    have hself := hidle _ (self_mem_set { c with phase := .running f } hc)
    cases hself
  · intro j x g hx hg
    rcases getElem?_set_cases hx with ⟨hj, heq⟩ | ⟨hj, hold⟩
    · subst hj heq
      cases hg
      exact ⟨f0, hjob, hsteps⟩
    · exact absurd hg (h.not_current hc hholds hj hold)

/-- The last step of a body appends its call to the log. -/
theorem laneSerial_finished (h : LaneSerial body admits w0 past s log w)
    {f : closure} {r : Except String result} (hc : s.calls[i]? = some c)
    (hphase : c.phase = .running f)
    (hbody : body s.engine f = some (engine, .inr r))
    (haccounted : (s.afterCall i engine permits
      { c with phase := .finishing r }).Accounted) :
    LaneSerial body admits w0 (past ++ [.call i a])
      (s.afterCall i engine permits { c with phase := .finishing r })
      (log ++ [(i, r)]) engine := by
  have hcurrent : c.phase.current = some f := by
    rw [hphase]
    rfl
  have hholds := holdsPermit_of_current hcurrent
  have hnone : c.phase.outcome = none := by
    rw [hphase]
    rfl
  rcases h.busy i c f hc hcurrent with ⟨f0, hjob, hsteps⟩
  refine laneSerial_afterCall h hc ?_ ?_ ?_ haccounted ?_ ?_ ?_ ?_ ?_
  · intro g hg
    cases hg
  · constructor
    · intro _
      left
      rw [hphase]
      rfl
    · intro _
      rfl
  · rfl
  · exact .snoc h.serial hjob ⟨s.engine, f, hsteps, hbody⟩
  · rw [List.map_append, List.nodup_append]
    refine ⟨h.once, by simp, ?_⟩
    intro j hj k hk heq
    rw [List.mem_singleton.mp hk] at heq
    subst heq
    rcases List.mem_map.mp hj with ⟨⟨j', r'⟩, hmem, hj'⟩
    subst hj'
    exact h.not_logged hc hnone r' hmem
  · intro j r'
    rw [h.outcome_of_running hc hnone, List.mem_append, List.mem_singleton,
      Prod.mk.injEq]
    apply or_congr_right
    apply and_congr_right
    intro _
    constructor
    · intro hr
      rw [hr]
      rfl
    · intro hr
      exact (Option.some.inj hr).symm
  · intro _
    rfl
  · intro j x g hx hg
    rcases getElem?_set_cases hx with ⟨_, heq⟩ | ⟨hj, hold⟩
    · subst heq
      cases hg
    · exact absurd hg (h.not_current hc hholds hj hold)

theorem laneSerial_call (h : LaneSerial body admits w0 past s log w)
    (hc : s.calls[i]? = some c) (heffect : CallEffect body s.engine c a engine c')
    (haccounted : (s.afterCall i engine permits c').Accounted) :
    exists log' w', LaneSerial body admits w0 (past ++ [.call i a])
      (s.afterCall i engine permits c') log' w' := by
  cases heffect with
  | quiet a c' houtcome hcurrent hpending hover hlane =>
      exact ⟨log, w, laneSerial_quiet h hc houtcome hcurrent hpending hover
        hlane haccounted⟩
  | started f hphase =>
      have hholds : c.phase.holdsPermit = true := by
        rw [hphase]
        rfl
      have hjob := h.pending i c f hc (by rw [hphase]; rfl)
      have hengine := h.idle_of_holder hc hholds (by rw [hphase]; rfl)
      refine ⟨log, w, laneSerial_running h hc hholds ?_ ?_ hjob ?_ haccounted⟩
      · rw [hphase]
        rfl
      · rw [hphase]
        rfl
      · rw [hengine]
        exact .refl
  | stepped f f' _ hphase hbody =>
      have hcurrent : c.phase.current = some f := by
        rw [hphase]
        rfl
      rcases h.busy i c f hc hcurrent with ⟨f0, hjob, hsteps⟩
      refine ⟨log, w, laneSerial_running h hc (holdsPermit_of_current hcurrent)
        ?_ ?_ hjob (.step hsteps hbody) haccounted⟩
      · rw [hphase]
        rfl
      · rw [hphase]
        rfl
  | finished f r _ hphase hbody =>
      exact ⟨_, _, laneSerial_finished h hc hphase hbody haccounted⟩

theorem laneSerial_elsewhere (h : LaneSerial body admits w0 past s log w)
    {s' : AsyncStorage world closure result} {b : StorageAction closure}
    (hsubmitted : submitted [b] = []) (hspawn : forall j, b ≠ .call j .spawn)
    (hcalls : s'.calls = s.calls) (hengine : s'.engine = s.engine)
    (hmax : s'.maxPermits = s.maxPermits) (haccounted : s'.Accounted) :
    LaneSerial body admits w0 (past ++ [b]) s' log w := by
  have hjobs : submitted (past ++ [b]) = submitted past := by
    rw [submitted_append, hsubmitted]
    exact List.append_nil _
  constructor
  · rw [hjobs]
    exact h.serial
  · exact h.once
  · rw [hcalls]
    exact h.outcome
  · rw [hjobs, hcalls]
    exact h.pending
  · rw [hcalls, hengine]
    exact h.idle
  · rw [hjobs, hcalls, hengine]
    exact h.busy
  · intro j
    rw [hcalls, ← h.handedOver j, List.mem_append, List.mem_singleton]
    constructor
    · intro hgiven
      rcases hgiven with hold | hnew
      · exact hold
      · exact absurd hnew.symm (hspawn j)
    · exact Or.inl
  · rw [hjobs, hcalls]
    exact h.length
  · rw [hjobs]
    exact h.admitted
  · rw [hcalls]
    exact h.lane
  · rw [hmax]
    exact h.single
  · exact haccounted

theorem laneSerial_submit (h : LaneSerial body admits w0 past s log w)
    {operation : Operation} {f : closure} (hlane : operation.lane = .write)
    (hadmits : admits f)
    (haccounted : AsyncStorage.Accounted
      { s with
        calls := s.calls ++
          [{ operation := operation, phase := .queued f, attached := true }] }) :
    LaneSerial body admits w0 (past ++ [.submit operation f])
      { s with
        calls := s.calls ++
          [{ operation := operation, phase := .queued f, attached := true }] }
      log w := by
  have hjobs : submitted (past ++ [.submit operation f]) =
      submitted past ++ [f] := submitted_append past _
  constructor
  · rw [hjobs]
    exact h.serial.append [f]
  · exact h.once
  · intro j r
    rw [h.outcome]
    constructor
    · intro hgiven
      rcases hgiven with ⟨x, hx, hr⟩
      exact ⟨x, getElem?_append_of_getElem? _ hx, hr⟩
    · intro hgiven
      rcases hgiven with ⟨x, hx, hr⟩
      rcases getElem?_append_cases hx with ⟨_, heq⟩ | hbefore
      · subst heq
        cases hr
      · exact ⟨x, hbefore, hr⟩
  · intro j x g hx hg
    rw [hjobs]
    rcases getElem?_append_cases hx with ⟨hj, heq⟩ | hbefore
    · subst heq
      cases hg
      rw [hj, h.length]
      exact List.getElem?_concat_length
    · exact getElem?_append_of_getElem? _ (h.pending j x g hbefore hg)
  · intro hnone
    apply h.idle
    intro x hx
    exact hnone x (List.mem_append_left _ hx)
  · intro j x g hx hg
    rw [hjobs]
    rcases getElem?_append_cases hx with ⟨_, heq⟩ | hbefore
    · subst heq
      cases hg
    · rcases h.busy j x g hbefore hg with ⟨f0, hjob, hsteps⟩
      exact ⟨f0, getElem?_append_of_getElem? _ hjob, hsteps⟩
  · intro j
    rw [List.mem_append, List.mem_singleton, h.handedOver j]
    constructor
    · intro hgiven
      rcases hgiven with ⟨x, hx, hover⟩ | hnew
      · exact ⟨x, getElem?_append_of_getElem? _ hx, hover⟩
      · cases hnew
    · intro hgiven
      rcases hgiven with ⟨x, hx, hover⟩
      left
      rcases getElem?_append_cases hx with ⟨_, heq⟩ | hbefore
      · subst heq
        cases hover
      · exact ⟨x, hbefore, hover⟩
  · rw [hjobs, List.length_append, List.length_append, h.length]
    rfl
  · intro g hg
    rw [hjobs] at hg
    rcases List.mem_append.mp hg with hbefore | hnew
    · exact h.admitted g hbefore
    · rw [List.mem_singleton.mp hnew]
      exact hadmits
  · intro x hx
    rcases List.mem_append.mp hx with hbefore | hnew
    · exact h.lane x hbefore
    · rw [List.mem_singleton.mp hnew]
      exact hlane
  · exact h.single
  · exact haccounted

theorem storageStep_laneSerial {s' : AsyncStorage world closure result}
    {b : StorageAction closure}
    (h : exists log w, LaneSerial body admits w0 past s log w)
    (hcondition : OnWriteLane admits s b)
    (hstep : storageStep body s b = some s') :
    exists log w, LaneSerial body admits w0 (past ++ [b]) s' log w := by
  rcases h with ⟨log, w, h⟩
  have haccounted := storageStep_accounted h.accounted hstep
  cases b with
  | submit operation f =>
      simp only [storageStep] at hstep
      split at hstep
      · cases hstep
        exact ⟨log, w, laneSerial_submit h hcondition.left hcondition.right
          haccounted⟩
      · cases hstep
  | call i a =>
      simp only [storageStep] at hstep
      split at hstep
      · cases hstep
      · rename_i c hc
        split at hstep
        · cases hstep
        · rename_i engine permits c' hcall
          cases hstep
          apply laneSerial_call h hc _ haccounted
          apply callStep_effect hcall
          intro message ha
          subst ha
          exact hcondition
  | cloneStorage =>
      simp only [storageStep] at hstep
      split at hstep
      · cases hstep
        exact ⟨log, w, laneSerial_elsewhere h rfl (by simp) rfl rfl rfl
          haccounted⟩
      · cases hstep
  | dropClone =>
      simp only [storageStep] at hstep
      split at hstep
      · cases hstep
        exact ⟨log, w, laneSerial_elsewhere h rfl (by simp) rfl rfl rfl
          haccounted⟩
      · cases hstep
  | close lane =>
      simp only [storageStep] at hstep
      split at hstep
      · cases hstep
        exact ⟨log, w, laneSerial_elsewhere h rfl (by simp) rfl rfl rfl
          haccounted⟩
      · cases hstep
  | pollReads =>
      simp only [storageStep] at hstep
      split at hstep
      · cases hstep
        exact ⟨log, w, laneSerial_elsewhere h rfl (by simp) rfl rfl rfl
          haccounted⟩
      · cases hstep
  | pollWrites =>
      simp only [storageStep] at hstep
      split at hstep
      · cases hstep
        exact ⟨log, w, laneSerial_elsewhere h rfl (by simp) rfl rfl rfl
          haccounted⟩
      · cases hstep

/-- In every run there is an order in which the bodies have run one by one. -/
theorem laneSerial_of_run {readerPoolSize : Nat}
    {acts : List (StorageAction closure)}
    (hmeet : StepsMeet (storageStep body) (OnWriteLane admits)
      (AsyncStorage.new w0 readerPoolSize) acts)
    (hrun : runFrom (storageStep body) (AsyncStorage.new w0 readerPoolSize)
      acts = some s) :
    exists log w, LaneSerial body admits w0 acts s log w := by
  apply runFrom_history
    (fun past s => exists log w, LaneSerial body admits w0 past s log w)
    storageStep_laneSerial _ hmeet hrun
  exact ⟨[], w0, new_laneSerial body admits w0 readerPoolSize⟩

end Lane

end Engine
end Valqeron
