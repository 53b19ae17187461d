import Valqeron.Engine.WriteLane

/-!
# One order for the calls of both lanes

The closures of the two lanes run at the same time, at most one of them on the write
lane.  Where each of them takes effect at one moment while it runs, the calls are
served one after another, in the order of these moments.
-/

namespace Valqeron
namespace Engine

open Foundation

variable {world closure result model : Type}

/-- What a job has settled on is kept, or it takes effect now. -/
inductive Acts {job outcome : Type}
    (serves : model -> job -> model -> outcome -> Prop) (a : model) (f : job)
    (told : Option outcome) : model -> Option outcome -> Prop where
  | kept : Acts serves a f told a told
  | now {a' : model} {r : outcome} (htold : told = none)
      (hserves : serves a f a' r) : Acts serves a f told a' (some r)

theorem Acts.map {job job' outcome outcome' : Type}
    {serves : model -> job -> model -> outcome -> Prop}
    {serves' : model -> job' -> model -> outcome' -> Prop} {a a' : model}
    {f : job} {f' : job'} {told told' : Option outcome}
    {g : outcome -> outcome'} (h : Acts serves a f told a' told')
    (hserves : forall a' r, serves a f a' r -> serves' a f' a' (g r)) :
    Acts serves' a f' (told.map g) a' (told'.map g) := by
  cases h with
  | kept => exact .kept
  | now htold hserved =>
      rw [htold]
      exact .now rfl (hserves _ _ hserved)

/--
Closures that take effect at one moment.  `progress lane w a f told g` says that `g`
is left of the submitted closure `f`, and `told` what it has settled on.
-/
structure AtomicClosures
    (body : world -> closure ->
      Option (world × (closure ⊕ Except String result)))
    (serves : model -> closure -> model -> Except String result -> Prop) where
  admits : Lane -> closure -> Prop
  shows : world -> model -> Prop
  /-- No write is half done. -/
  rests : world -> model -> Prop
  progress : Lane -> world -> model -> closure ->
    Option (Except String result) -> closure -> Prop
  shows_of_rests : forall {w a}, rests w a -> shows w a
  shows_of_progress : forall {w a f told g}, progress .write w a f told g ->
    shows w a
  start : forall {lane w a f}, admits lane f ->
    (lane = .write -> rests w a) -> progress lane w a f none f
  step : forall {lane w a f told g w' g'}, shows w a ->
    progress lane w a f told g -> body w g = some (w', .inl g') ->
    exists a' told', Acts serves a f told a' told' ∧
      progress lane w' a' f told' g' ∧ (lane = .read -> w' = w ∧ a' = a)
  stop : forall {lane w a f told g w' r}, shows w a ->
    progress lane w a f told g -> body w g = some (w', .inr r) ->
    exists a', Acts serves a f told a' (some r) ∧
      (lane = .write -> rests w' a') ∧ (lane = .read -> w' = w ∧ a' = a)
  /-- A read goes on whatever the others have done. -/
  stable : forall {w a w' a' f told g}, progress .read w a f told g ->
    progress .read w' a' f told g

/-- Closures are submitted to their lanes; what the pool is given, it runs. -/
def OnTheirLanes (admits : Lane -> closure -> Prop)
    (_ : AsyncStorage world closure result) : StorageAction closure -> Prop
  | .submit operation f => admits operation.lane f
  | .call _ (.dropUnstarted _) => False
  | _ => True

theorem OnTheirLanes.mono {admits admits' : Lane -> closure -> Prop}
    (himp : forall lane f, admits lane f -> admits' lane f)
    {s : AsyncStorage world closure result} {a : StorageAction closure}
    (h : OnTheirLanes admits s a) : OnTheirLanes admits' s a := by
  cases a with
  | submit operation f => exact himp operation.lane f h
  | call i act =>
      cases act with
      | dropUnstarted message => exact h
      | _ => trivial
  | _ => trivial

def Tells (order : List (Nat × Except String result)) (i : Nat)
    (told : Option (Except String result)) : Prop :=
  forall r, (i, r) ∈ order <-> told = some r

section Order

variable {body : world -> closure ->
  Option (world × (closure ⊕ Except String result))}
variable {serves : model -> closure -> model -> Except String result -> Prop}

structure Stage (A : AtomicClosures body serves) (w : world) (a : model)
    (lane : Lane) (f : closure) (told : Option (Except String result))
    (phase : CallPhase closure result) : Prop where
  pending : forall g, phase.pending = some g -> g = f
  /-- Nothing is settled before the closure runs, and its outcome behind it. -/
  unmoved : phase.current = none -> told = phase.outcome
  current : forall g, phase.current = some g ->
    A.progress lane w a f told g

structure Ordered (A : AtomicClosures body serves) (a0 : model)
    (past : List (StorageAction closure))
    (s : AsyncStorage world closure result)
    (order : List (Nat × Except String result)) (a : model) : Prop where
  serial : Serial serves (submitted past) a0 order a
  once : (order.map Prod.fst).Nodup
  shows : A.shows s.engine a
  rests : (forall x, x ∈ s.calls -> x.lane = .write ->
    x.phase.current = none) -> A.rests s.engine a
  call : forall (i : Nat) (x : Call closure result), s.calls[i]? = some x ->
    exists f told, (submitted past)[i]? = some f ∧ A.admits x.lane f ∧
      Tells order i told ∧ Stage A s.engine a x.lane f told x.phase
  entry : forall (i : Nat) (r : Except String result), (i, r) ∈ order ->
    i < s.calls.length
  length : s.calls.length = (submitted past).length
  single : s.maxPermits .write = 1
  accounted : s.Accounted

variable {A : AtomicClosures body serves} {a0 a a' : model}
variable {past : List (StorageAction closure)}
variable {s s' : AsyncStorage world closure result}
variable {order order' : List (Nat × Except String result)}

theorem new_ordered (A : AtomicClosures body serves) {w0 : world}
    (h0 : A.rests w0 a0) (readerPoolSize : Nat) :
    Ordered A a0 [] (AsyncStorage.new w0 readerPoolSize) [] a0 where
  serial := .nil
  once := List.nodup_nil
  shows := A.shows_of_rests h0
  rests := fun _ => h0
  call := by
    intro i x hx
    cases hx
  entry := by
    intro i r hr
    cases hr
  length := rfl
  single := rfl
  accounted := AsyncStorage.new_accounted w0 readerPoolSize

/-!
## One call
-/

variable {i : Nat} {x x' : Call closure result} {f : closure}
variable {told told' : Option (Except String result)}

structure Extends
    (serves : model -> closure -> model -> Except String result -> Prop)
    (jobs : List closure) (a0 : model)
    (order : List (Nat × Except String result)) (i : Nat)
    (told' : Option (Except String result))
    (order' : List (Nat × Except String result)) (a' : model) : Prop where
  grows : order <+: order'
  serial : Serial serves jobs a0 order' a'
  once : (order'.map Prod.fst).Nodup
  tells : Tells order' i told'
  others : forall j r, j ≠ i -> ((j, r) ∈ order' <-> (j, r) ∈ order)

theorem Ordered.extends (h : Ordered A a0 past s order a)
    (hjob : (submitted past)[i]? = some f) (htells : Tells order i told)
    (hacts : Acts serves a f told a' told') :
    exists order', Extends serves (submitted past) a0 order i told' order'
      a' := by
  cases hacts with
  | kept =>
      exact ⟨order,
        { grows := List.prefix_rfl
          serial := h.serial
          once := h.once
          tells := htells
          others := fun _ _ _ => Iff.rfl }⟩
  | @now a' r htold hserves =>
      have hnew : forall q, (i, q) ∉ order := by
        intro q hq
        have hsome := (htells q).mp hq
        rw [htold] at hsome
        cases hsome
      refine ⟨order ++ [(i, r)], ?_⟩
      constructor
      · exact List.prefix_append order _
      · exact .snoc h.serial hjob hserves
      · rw [List.map_append, List.map_singleton, List.nodup_append]
        refine ⟨h.once, List.pairwise_singleton _ i, ?_⟩
        intro j hj k hk hjk
        rcases List.mem_map.mp hj with ⟨⟨j', q⟩, hq, hj'⟩
        have hsame : j' = i := (hj'.trans hjk).trans (List.mem_singleton.mp hk)
        rw [hsame] at hq
        exact hnew q hq
      · intro q
        rw [List.mem_append, List.mem_singleton, Option.some_inj]
        constructor
        · intro hmem
          rcases hmem with hold | hlast
          · exact absurd hold (hnew q)
          · cases hlast
            rfl
        · intro hsame
          rw [hsame]
          exact Or.inr rfl
      · intro j q hj
        rw [List.mem_append, List.mem_singleton]
        constructor
        · intro hmem
          rcases hmem with hold | hlast
          · exact hold
          · cases hlast
            exact absurd rfl hj
        · exact Or.inl

variable {engine : world} {permits : Lane -> Semaphore} {act : CallAction}

theorem ordered_afterCall (h : Ordered A a0 past s order a)
    (hx : s.calls[i]? = some x) (hlane : x'.lane = x.lane)
    (hjob : (submitted past)[i]? = some f) (hadmits : A.admits x.lane f)
    (hextends : Extends serves (submitted past) a0 order i told' order' a')
    (hstage : Stage A engine a' x.lane f told' x'.phase)
    (hshows : A.shows engine a')
    (hrests : (forall y, y ∈ s.calls.set i x' -> y.lane = .write ->
      y.phase.current = none) -> A.rests engine a')
    (hframe : forall (j : Nat) (y : Call closure result) g told₁ g₁, j ≠ i ->
      s.calls[j]? = some y -> y.phase.current = some g₁ ->
      A.progress y.lane s.engine a g told₁ g₁ ->
      A.progress y.lane engine a' g told₁ g₁)
    (haccounted : (s.afterCall i engine permits x').Accounted) :
    Ordered A a0 (past ++ [.call i act]) (s.afterCall i engine permits x')
      order' a' where
  serial := by
    rw [submitted_call]
    exact hextends.serial
  once := hextends.once
  shows := hshows
  rests := hrests
  call := by
    intro j y hy
    rw [submitted_call]
    rcases getElem?_set_cases hy with ⟨hj, heq⟩ | ⟨hj, hold⟩
    · subst hj heq
      rw [hlane]
      exact ⟨f, told', hjob, hadmits, hextends.tells, hstage⟩
    · rcases h.call j y hold with ⟨g, told₁, hg, hfits, htells, hother⟩
      refine ⟨g, told₁, hg, hfits, ?_, hother.pending, hother.unmoved, ?_⟩
      · intro r
        rw [hextends.others j r hj]
        exact htells r
      · intro g₁ hg₁
        exact hframe j y g told₁ g₁ hj hold hg₁ (hother.current g₁ hg₁)
  entry := by
    intro j r hr
    have hsame : (s.calls.set i x').length = s.calls.length :=
      List.length_set
    refine hsame ▸ ?_
    rcases eq_or_ne j i with hj | hj
    · rw [hj]
      exact (List.getElem?_eq_some_iff.mp hx).choose
    · exact h.entry j r ((hextends.others j r hj).mp hr)
  length := by
    rw [submitted_call]
    exact List.length_set.trans h.length
  single := h.single
  accounted := haccounted

theorem Ordered.holder_unique (h : Ordered A a0 past s order a) {j : Nat}
    {y : Call closure result} (hx : s.calls[i]? = some x)
    (hy : s.calls[j]? = some y) (hxlane : x.lane = .write)
    (hylane : y.lane = .write) (hxholds : x.phase.holdsPermit = true)
    (hyholds : y.phase.holdsPermit = true) : i = j := by
  have hpermits := h.accounted.permits .write
  rw [h.single] at hpermits
  have hone : s.holders .write <= 1 := by omega
  apply index_unique_of_countP hone hx hy
  · rw [hxlane, hxholds]
    rfl
  · rw [hylane, hyholds]
    rfl

theorem Ordered.rests_of_holder (h : Ordered A a0 past s order a)
    (hx : s.calls[i]? = some x) (hlane : x.lane = .write)
    (hholds : x.phase.holdsPermit = true)
    (hwaits : x.phase.current = none) : A.rests s.engine a := by
  apply h.rests
  intro y hy hylane
  rcases List.mem_iff_getElem?.mp hy with ⟨j, hj⟩
  cases hcurrent : y.phase.current with
  | none => rfl
  | some g =>
      have hij := h.holder_unique hx hj hlane hylane hholds
        (holdsPermit_of_current hcurrent)
      subst hij
      rw [hx] at hj
      cases hj
      rw [hwaits] at hcurrent
      cases hcurrent

theorem Ordered.rests_set (h : Ordered A a0 past s order a)
    (hx : s.calls[i]? = some x) (hlane : x'.lane = x.lane)
    (hcurrent : x.lane = .write -> x'.phase.current = none ->
      x.phase.current = none)
    (hidle : forall y, y ∈ s.calls.set i x' -> y.lane = .write ->
      y.phase.current = none) : A.rests s.engine a := by
  apply h.rests
  intro y hy hylane
  rcases List.mem_iff_getElem?.mp hy with ⟨j, hj⟩
  rcases eq_or_ne j i with hij | hij
  · subst hij
    rw [hx] at hj
    cases hj
    exact hcurrent hylane (hidle x' (self_mem_set x' hx)
      (hlane.trans hylane))
  · apply hidle y _ hylane
    apply List.mem_of_getElem? (i := j)
    exact (List.getElem?_set_ne (Ne.symm hij)).trans hj

theorem Ordered.progress_others (h : Ordered A a0 past s order a)
    (hx : s.calls[i]? = some x) (hholds : x.phase.holdsPermit = true)
    (hread : x.lane = .read -> engine = s.engine ∧ a' = a) {j : Nat}
    {y : Call closure result} {g g₁ : closure}
    {told₁ : Option (Except String result)} (hj : j ≠ i)
    (hy : s.calls[j]? = some y) (hg₁ : y.phase.current = some g₁)
    (hprogress : A.progress y.lane s.engine a g told₁ g₁) :
    A.progress y.lane engine a' g told₁ g₁ := by
  cases hlane : x.lane with
  | read =>
      rcases hread hlane with ⟨hengine, ha⟩
      rw [hengine, ha]
      exact hprogress
  | write =>
      cases hylane : y.lane with
      | read =>
          rw [hylane] at hprogress
          exact A.stable hprogress
      | write =>
          exact absurd (h.holder_unique hx hy hlane hylane hholds
            (holdsPermit_of_current hg₁)).symm hj

theorem ordered_moved (h : Ordered A a0 past s order a)
    (hx : s.calls[i]? = some x) (hholds : x.phase.holdsPermit = true)
    (hlane : x'.lane = x.lane) (hjob : (submitted past)[i]? = some f)
    (hadmits : A.admits x.lane f) (htells : Tells order i told)
    (hacts : Acts serves a f told a' told')
    (hstage : Stage A engine a' x.lane f told' x'.phase)
    (hread : x.lane = .read -> engine = s.engine ∧ a' = a)
    (hwrite : x.lane = .write -> A.shows engine a' ∧
      (x'.phase.current = none -> A.rests engine a'))
    (haccounted : (s.afterCall i engine permits x').Accounted) :
    exists order' a', order <+: order' ∧
      Ordered A a0 (past ++ [.call i act]) (s.afterCall i engine permits x')
        order' a' := by
  rcases h.extends hjob htells hacts with ⟨order', hextends⟩
  refine ⟨order', a', hextends.grows, ?_⟩
  refine ordered_afterCall h hx hlane hjob hadmits hextends hstage ?_ ?_
    (fun _ _ _ _ _ => h.progress_others hx hholds hread) haccounted
  · cases hx' : x.lane with
    | read =>
        rcases hread hx' with ⟨hengine, ha⟩
        rw [hengine, ha]
        exact h.shows
    | write => exact (hwrite hx').left
  · intro hidle
    cases hx' : x.lane with
    | read =>
        rcases hread hx' with ⟨hengine, ha⟩
        rw [hengine, ha]
        refine h.rests_set hx hlane ?_ hidle
        intro hxwrite
        rw [hx'] at hxwrite
        cases hxwrite
    | write =>
        exact (hwrite hx').right
          (hidle x' (self_mem_set x' hx) (hlane.trans hx'))

theorem ordered_call (h : Ordered A a0 past s order a)
    (hx : s.calls[i]? = some x)
    (heffect : CallEffect body s.engine x act engine x')
    (haccounted : (s.afterCall i engine permits x').Accounted) :
    exists order' a', order <+: order' ∧
      Ordered A a0 (past ++ [.call i act]) (s.afterCall i engine permits x')
        order' a' := by
  rcases h.call i x hx with ⟨f, told, hjob, hadmits, htells, hstage⟩
  cases heffect with
  | quiet act x' houtcome hcurrent hpending hover hlane =>
      rcases h.extends hjob htells .kept with ⟨order', hkept⟩
      refine ⟨order', a, hkept.grows, ?_⟩
      refine ordered_afterCall h hx hlane hjob hadmits hkept ?_ h.shows ?_
        (fun _ _ _ _ _ _ _ _ hprogress => hprogress) haccounted
      · constructor
        · intro g hg
          exact hstage.pending g (hpending g hg)
        · rw [hcurrent, houtcome]
          exact hstage.unmoved
        · rw [hcurrent]
          exact hstage.current
      · intro hidle
        refine h.rests_set hx hlane ?_ hidle
        intro _ hnone
        rw [← hcurrent]
        exact hnone
  | started g hphase =>
      have hholds : x.phase.holdsPermit = true := by
        rw [hphase]
        rfl
      have hwaits : x.phase.current = none := by
        rw [hphase]
        rfl
      have hg : g = f := hstage.pending g (by rw [hphase]; rfl)
      have hnone : told = none := by
        rw [hstage.unmoved hwaits, hphase]
        rfl
      subst hg hnone
      have hrests : x.lane = .write -> A.rests s.engine a := fun hlane =>
        h.rests_of_holder hx hlane hholds hwaits
      refine ordered_moved h hx hholds rfl hjob hadmits htells .kept ?_
        (fun _ => ⟨rfl, rfl⟩) (fun hlane => ⟨h.shows, fun _ => hrests hlane⟩)
        haccounted
      constructor
      · intro g₁ hg₁
        cases hg₁
      · intro hnow
        cases hnow
      · intro g₁ hg₁
        cases hg₁
        exact A.start hadmits hrests
  | stepped g g' w' hphase hbody =>
      have hrunning : x.phase.current = some g := by
        rw [hphase]
        rfl
      rcases A.step h.shows (hstage.current g hrunning) hbody with
        ⟨a', told', hacts, hprogress, hread⟩
      refine ordered_moved h hx (holdsPermit_of_current hrunning) rfl hjob
        hadmits htells hacts ?_ hread ?_ haccounted
      · constructor
        · intro g₁ hg₁
          cases hg₁
        · intro hnow
          cases hnow
        · intro g₁ hg₁
          cases hg₁
          exact hprogress
      · intro hlane
        rw [hlane] at hprogress
        refine ⟨A.shows_of_progress hprogress, ?_⟩
        intro hnow
        cases hnow
  | finished g r w' hphase hbody =>
      have hrunning : x.phase.current = some g := by
        rw [hphase]
        rfl
      rcases A.stop h.shows (hstage.current g hrunning) hbody with
        ⟨a', hacts, hrests, hread⟩
      refine ordered_moved h hx (holdsPermit_of_current hrunning) rfl hjob
        hadmits htells hacts ?_ hread ?_ haccounted
      · constructor
        · intro g₁ hg₁
          cases hg₁
        · intro _
          rfl
        · intro g₁ hg₁
          cases hg₁
      · intro hlane
        exact ⟨A.shows_of_rests (hrests hlane), fun _ => hrests hlane⟩

/-!
## Any interleaving
-/

theorem ordered_elsewhere (h : Ordered A a0 past s order a)
    {b : StorageAction closure} (hsubmitted : submitted [b] = [])
    (hcalls : s'.calls = s.calls) (hengine : s'.engine = s.engine)
    (hmax : s'.maxPermits = s.maxPermits) (haccounted : s'.Accounted) :
    Ordered A a0 (past ++ [b]) s' order a := by
  have hjobs : submitted (past ++ [b]) = submitted past := by
    rw [submitted_append, hsubmitted]
    exact List.append_nil _
  constructor
  · rw [hjobs]
    exact h.serial
  · exact h.once
  · rw [hengine]
    exact h.shows
  · rw [hcalls, hengine]
    exact h.rests
  · rw [hjobs, hcalls, hengine]
    exact h.call
  · rw [hcalls]
    exact h.entry
  · rw [hjobs, hcalls]
    exact h.length
  · rw [hmax]
    exact h.single
  · exact haccounted

theorem ordered_submit (h : Ordered A a0 past s order a)
    {operation : Operation} (hadmits : A.admits operation.lane f)
    (hcalls : s'.calls = s.calls ++
      [{ operation := operation, phase := .queued f, attached := true }])
    (hengine : s'.engine = s.engine) (hmax : s'.maxPermits = s.maxPermits)
    (haccounted : s'.Accounted) :
    Ordered A a0 (past ++ [.submit operation f]) s' order a := by
  have hjobs : submitted (past ++ [.submit operation f]) =
      submitted past ++ [f] := submitted_append past _
  constructor
  · rw [hjobs]
    exact h.serial.append [f]
  · exact h.once
  · rw [hengine]
    exact h.shows
  · rw [hcalls, hengine]
    intro hidle
    apply h.rests
    intro y hy
    exact hidle y (List.mem_append_left _ hy)
  · intro j y hy
    rw [hcalls] at hy
    rw [hjobs, hengine]
    rcases getElem?_append_cases hy with ⟨hj, hnew⟩ | hold
    · subst hj hnew
      refine ⟨f, none, ?_, hadmits, ?_, ?_⟩
      · rw [h.length, List.getElem?_concat_length]
      · intro r
        constructor
        · intro hr
          exact absurd (h.entry _ r hr) (Nat.lt_irrefl _)
        · intro hr
          cases hr
      · constructor
        · intro g hg
          cases hg
          rfl
        · intro _
          rfl
        · intro g hg
          cases hg
    · rcases h.call j y hold with ⟨g, told, hg, hrest⟩
      exact ⟨g, told, getElem?_append_of_getElem? [f] hg, hrest⟩
  · intro j r hr
    rw [hcalls, List.length_append]
    exact Nat.lt_add_right _ (h.entry j r hr)
  · rw [hjobs, hcalls, List.length_append, List.length_append, h.length]
    rfl
  · rw [hmax]
    exact h.single
  · exact haccounted

theorem storageStep_ordered {b : StorageAction closure}
    (h : Ordered A a0 past s order a) (hcondition : OnTheirLanes A.admits s b)
    (hstep : storageStep body s b = some s') :
    exists order' a', order <+: order' ∧
      Ordered A a0 (past ++ [b]) s' order' a' := by
  have haccounted := storageStep_accounted h.accounted hstep
  cases b with
  | submit operation f =>
      simp only [storageStep] at hstep
      split at hstep
      · cases hstep
        exact ⟨order, a, List.prefix_rfl,
          ordered_submit h hcondition rfl rfl rfl haccounted⟩
      · cases hstep
  | call i act =>
      simp only [storageStep] at hstep
      split at hstep
      · cases hstep
      · rename_i x hx
        split at hstep
        · cases hstep
        · rename_i engine permits x' hcall
          cases hstep
          apply ordered_call h hx _ haccounted
          apply callStep_effect hcall
          intro message hdrop
          subst hdrop
          exact hcondition
  | pollWrites =>
      simp only [storageStep] at hstep
      split at hstep
      · cases hstep
        exact ⟨order, a, List.prefix_rfl,
          ordered_elsewhere h rfl rfl rfl rfl haccounted⟩
      · cases hstep
  | _ =>
      simp only [storageStep] at hstep
      split at hstep
      · cases hstep
        exact ⟨order, a, List.prefix_rfl,
          ordered_elsewhere h rfl rfl rfl rfl haccounted⟩
      · cases hstep

/-!
## What is said of the order
-/

/-- Every call of the order is served once, behind those that stand before it. -/
structure ServedInOrder
    (serves : model -> closure -> model -> Except String result -> Prop)
    (jobs : List closure) (a0 : model)
    (s : AsyncStorage world closure result)
    (order : List (Nat × Except String result)) (a : model) : Prop where
  serial : Serial serves jobs a0 order a
  once : (order.map Prod.fst).Nodup
  ended : forall (i : Nat) (x : Call closure result) (r : Except String result),
    s.calls[i]? = some x -> x.phase.outcome = some r -> (i, r) ∈ order
  /-- A call of the order that is not over is running. -/
  begun : forall (i : Nat) (r : Except String result), (i, r) ∈ order ->
    exists x, s.calls[i]? = some x ∧
      (x.phase.outcome = some r ∨ x.Executing)

theorem executing_of_current {x : Call closure result} {g : closure}
    (h : x.phase.current = some g) : x.Executing := by
  cases hphase : x.phase with
  | running g' => exact ⟨g', hphase⟩
  | _ =>
      rw [hphase] at h
      cases h

theorem Ordered.servedInOrder (h : Ordered A a0 past s order a) :
    ServedInOrder serves (submitted past) a0 s order a where
  serial := h.serial
  once := h.once
  ended := by
    intro i x r hx hr
    rcases h.call i x hx with ⟨f, told, _, _, htells, hstage⟩
    rw [htells r, hstage.unmoved, hr]
    cases hphase : x.phase with
    | running g =>
        rw [hphase] at hr
        cases hr
    | _ => rfl
  begun := by
    intro i r hr
    have hlt := h.entry i r hr
    cases hx : s.calls[i]? with
    | none =>
        rw [List.getElem?_eq_none_iff] at hx
        omega
    | some x =>
        refine ⟨x, rfl, ?_⟩
        rcases h.call i x hx with ⟨f, told, _, _, htells, hstage⟩
        cases hcurrent : x.phase.current with
        | none =>
            left
            rw [← hstage.unmoved hcurrent]
            exact (htells r).mp hr
        | some g => exact Or.inr (executing_of_current hcurrent)

/--
The calls of a run in the order in which they take effect, and, at every moment of
the run, those that have taken effect by then.
-/
structure Linearised
    (body : world -> closure ->
      Option (world × (closure ⊕ Except String result)))
    (serves : model -> closure -> model -> Except String result -> Prop)
    (shows : world -> model -> Prop) (a0 : model)
    (start : AsyncStorage world closure result)
    (acts : List (StorageAction closure))
    (s : AsyncStorage world closure result)
    (order : List (Nat × Except String result)) (a : model) : Prop where
  served : ServedInOrder serves (submitted acts) a0 s order a
  holds : shows s.engine a
  moments : forall before u, before <+: acts ->
    runFrom (storageStep body) start before = some u ->
    exists done a₁, done <+: order ∧
      ServedInOrder serves (submitted before) a0 u done a₁ ∧
        shows u.engine a₁

/-- However the closures of the two lanes interleave, their calls have an order. -/
theorem linearised_of_run (A : AtomicClosures body serves) {w0 : world}
    (h0 : A.rests w0 a0) {readerPoolSize : Nat}
    {acts : List (StorageAction closure)}
    (hmeet : StepsMeet (storageStep body) (OnTheirLanes A.admits)
      (AsyncStorage.new w0 readerPoolSize) acts)
    (hrun : runFrom (storageStep body) (AsyncStorage.new w0 readerPoolSize)
      acts = some s) :
    exists order a, Linearised body serves A.shows a0
      (AsyncStorage.new w0 readerPoolSize) acts s order a := by
  have hgrows := runFrom_growing
    (fun past s order => exists a, Ordered A a0 past s order a) ?_
    ⟨a0, new_ordered A h0 readerPoolSize⟩ hmeet hrun
  · rcases hgrows with ⟨order, ⟨a, hordered⟩, hmoments⟩
    refine ⟨order, a, hordered.servedInOrder, hordered.shows, ?_⟩
    intro before u hbefore hmoment
    rcases hmoments before u hbefore hmoment with ⟨done, hdone, a₁, hthen⟩
    exact ⟨done, a₁, hdone, hthen.servedInOrder, hthen.shows⟩
  · intro past s order b s' hordered hcondition hstep
    rcases hordered with ⟨a, hordered⟩
    rcases storageStep_ordered hordered hcondition hstep with
      ⟨order', a', hgrows, hordered'⟩
    exact ⟨order', hgrows, a', hordered'⟩

/-!
## Another specification of the calls
-/

theorem prefix_submitted {before acts : List (StorageAction closure)}
    (h : before <+: acts) : submitted before <+: submitted acts :=
  h.filterMap _

theorem submitted_admitted {admits : Lane -> closure -> Prop}
    {start : AsyncStorage world closure result}
    {acts : List (StorageAction closure)}
    (hmeet : StepsMeet (storageStep body) (OnTheirLanes admits) start acts)
    (hrun : runFrom (storageStep body) start acts = some s) {f : closure}
    (hf : f ∈ submitted acts) : exists lane, admits lane f := by
  have hall := runFrom_history
    (fun past (_ : AsyncStorage world closure result) =>
      forall f, f ∈ submitted past -> exists lane, admits lane f)
    ?_ ?_ hmeet hrun
  · exact hall f hf
  · intro past s b s' hpast hcondition _ g hg
    rw [submitted_append] at hg
    rcases List.mem_append.mp hg with hold | hnew
    · exact hpast g hold
    · cases b with
      | submit operation g' =>
          rw [List.mem_singleton.mp hnew]
          exact ⟨operation.lane, hcondition⟩
      | _ => cases hnew
  · intro g hg
    cases hg

variable {serves' : model -> closure -> model -> Except String result -> Prop}
variable {shows shows' : world -> model -> Prop} {jobs : List closure}

/-- Calls that are served in one way are served in another that keeps an invariant. -/
theorem ServedInOrder.refine {I : model -> Prop}
    (h : ServedInOrder serves jobs a0 s order a) (h0 : I a0)
    (hserves : forall a f a' r, f ∈ jobs -> I a -> serves a f a' r ->
      serves' a f a' r ∧ I a') :
    ServedInOrder serves' jobs a0 s order a ∧ I a := by
  have hsimulated : exists b, Serial serves' jobs a0 order b ∧
      (a = b ∧ I b) := by
    apply h.serial.simulate (R := fun a b => a = b ∧ I b) ⟨rfl, h0⟩
    intro a b f a' r hf hsame hserved
    rcases hsame with ⟨hab, hinv⟩
    subst hab
    rcases hserves _ f a' r hf hinv hserved with ⟨hserved', hinv'⟩
    exact ⟨a', hserved', rfl, hinv'⟩
  rcases hsimulated with ⟨b, hserial, hb, hinv⟩
  subst hb
  exact ⟨⟨hserial, h.once, h.ended, h.begun⟩, hinv⟩

theorem Linearised.refine {I : model -> Prop}
    {start : AsyncStorage world closure result}
    {acts : List (StorageAction closure)}
    (h : Linearised body serves shows a0 start acts s order a) (h0 : I a0)
    (hserves : forall a f a' r, f ∈ submitted acts -> I a ->
      serves a f a' r -> serves' a f a' r ∧ I a')
    (hshows : forall w a, shows w a -> I a -> shows' w a) :
    Linearised body serves' shows' a0 start acts s order a := by
  rcases h.served.refine h0 hserves with ⟨hserved, hinv⟩
  refine ⟨hserved, hshows _ _ h.holds hinv, ?_⟩
  intro before u hbefore hmoment
  rcases h.moments before u hbefore hmoment with
    ⟨done, a₁, hdone, hserved₁, hholds₁⟩
  rcases hserved₁.refine h0 (fun a f a' r hf =>
    hserves a f a' r ((prefix_submitted hbefore).subset hf)) with
    ⟨hserved₁', hinv₁⟩
  exact ⟨done, a₁, hdone, hserved₁', hshows _ _ hholds₁ hinv₁⟩

end Order

end Engine
end Valqeron
