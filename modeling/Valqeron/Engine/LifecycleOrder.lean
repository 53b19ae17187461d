import Valqeron.Foundation.Dialogue
import Valqeron.Engine.Lifecycle

/-!
# What an engine process may do when

The standing of a process is what its dialogue with the system amounts to: where
the lifecycle cell is, what the service manager has been told, and which resources
the main thread holds.  The protocol says which commands fit which standing, and
the program of the main thread keeps to it whatever it is answered.
-/

namespace Valqeron
namespace Engine

open Foundation

structure Standing where
  lifecycle : LifecycleState
  /-- The values that the cell took after `Starting`, in order. -/
  visited : List LifecycleState
  /-- The messages to the service manager, in order. -/
  sent : List String
  locked : Bool
  /-- Another instance was found to hold the lock. -/
  contended : Bool
  /-- The main thread has the storage facade. -/
  opened : Bool
  /-- The listener is bound and open. -/
  listening : Bool
  /-- A socket file was bound, and its removal not asked for yet. -/
  socketFile : Bool
  /-- The runtime was built. -/
  launched : Bool
  /-- `shutdown_timeout` has returned. -/
  halted : Bool
  /-- The gRPC server was spawned. -/
  serving : Bool
  /-- The storage admits no more calls. -/
  closed : Bool
deriving DecidableEq

namespace Standing

def fresh : Standing where
  lifecycle := .starting
  visited := []
  sent := []
  locked := false
  contended := false
  opened := false
  listening := false
  socketFile := false
  launched := false
  halted := false
  serving := false
  closed := false

/-- What must be so before the cell takes a value. -/
def MayEnter (g : Standing) : LifecycleState -> Prop
  | .starting => False
  | .ready => g.locked = true ∧ g.opened = true ∧ g.listening = true ∧
      g.socketFile = true ∧ g.serving = true
  | .stopping => g.locked = true ∧ g.opened = true
  | .stopped => g.locked = false ∧ g.opened = false ∧ g.socketFile = false
  | .failed => g.locked = false ∧ g.opened = false ∧ g.listening = false

def Allows (g : Standing) : EngineCommand -> Prop
  | .publish s => isValidTransition g.lifecycle s = true ∧ g.MayEnter s
  | .logInvalid _ _ => False
  | .notify m => g.lifecycle.notification = some m ∧ m ∉ g.sent
  | .acquireLock _ _ => g.locked = false
  | .removeFile _ => g.locked = true ∧ g.listening = false
  | .openStorage _ _ => g.locked = true ∧ g.opened = false
  | .bindListener _ => g.locked = true ∧ g.opened = true ∧
      g.socketFile = false
  | .buildRuntime => g.locked = true ∧ g.opened = true ∧ g.listening = true
  | .spawnServer => g.launched = true ∧ g.listening = true
  | .awaitWakeup => g.lifecycle = .ready ∧ g.sent = ["READY=1"]
  | .beginShutdown => g.lifecycle = .stopping ∧ g.closed = false
  | .closeStorage => g.lifecycle = .stopping ∧ g.halted = false
  | .shutdownRuntime _ => g.launched = true ∧
      (g.lifecycle = .stopping -> g.closed = true)
  | .intoEngine => g.halted = true ∧ g.locked = true ∧ g.opened = true
  | .drop .connections => g.halted = true ∧ g.locked = true
  | .drop .lock => g.locked = true ∧
      (g.launched = true -> g.opened = false ∧ g.socketFile = false)
  | .printError _ => g.locked = false ∧ g.opened = false
  | _ => True

/-- The standing after a command and its response. -/
def advance (g : Standing) :
    (c : EngineCommand) -> EngineResponse c -> Standing
  | .publish s, _ => { g with lifecycle := s, visited := g.visited ++ [s] }
  | .notify m, _ => { g with sent := g.sent ++ [m] }
  | .acquireLock _ _, .ok _ => { g with locked := true }
  | .acquireLock _ _, .error (.alreadyRunning _ _) => { g with contended := true }
  | .openStorage _ _, .ok _ => { g with opened := true }
  | .bindListener _, .ok _ => { g with listening := true, socketFile := true }
  | .buildRuntime, .ok _ => { g with launched := true }
  | .spawnServer, _ => { g with serving := true }
  | .closeStorage, _ => { g with closed := true }
  | .shutdownRuntime _, _ =>
      -- the server's task goes with the runtime, and the listener with the task
      { g with halted := true, serving := false, listening := false }
  | .removeFile _, _ => { g with socketFile := false }
  | .drop .lock, _ => { g with locked := false }
  | .drop .storage, _ => { g with opened := false }
  | .drop .connections, _ => { g with opened := false }
  | .drop .listener, _ => { g with listening := false }
  | _, _ => g

end Standing

def supervision : Protocol EngineCommand EngineResponse Standing where
  allowed := Standing.Allows
  possible := fun _ _ => True
  advance := Standing.advance

/-!
## How the pieces end
-/

/-- The standings of the phases, each with what the phase before it acquired. -/
def Standing.lockTaken : Standing := { Standing.fresh with locked := true }

def Standing.databaseOpen : Standing := { Standing.lockTaken with opened := true }

def Standing.socketBound : Standing :=
  { Standing.databaseOpen with listening := true, socketFile := true }

def Standing.booted : Standing := { Standing.socketBound with launched := true }

/-- The lifecycle may only fail from here, and nothing is held any more. -/
structure Standing.GivenUp (g : Standing) (e : EngineFailure) : Prop where
  lifecycle : g.lifecycle = .starting
  visited : g.visited = []
  sent : g.sent = []
  locked : g.locked = false
  opened : g.opened = false
  listening : g.listening = false
  launched : g.launched = false
  runtime : e.exitCode ≠ 2
  contended : g.contended = true <-> e.exitCode = 3

def BootEnds (g : Standing) : EngineOutcome Unit -> Prop
  | .ok _ => g = .booted
  | .error e => g.GivenUp e

/-!
## The boot sequence
-/

def Standing.MayDrop : Standing -> List Owned -> Prop
  | _, [] => True
  | g, x :: rest =>
      g.Allows (.drop x) ∧ (g.advance (.drop x) ()).MayDrop rest

def Standing.release : Standing -> List Owned -> Standing
  | g, [] => g
  | g, x :: rest => (g.advance (.drop x) ()).release rest

theorem dropAll_follows {value : Type} {post : Standing -> value -> Prop}
    {next : EngineProgram value} {fields : List Owned} {g : Standing}
    (hdrop : g.MayDrop fields)
    (hnext : next.Follows supervision post (g.release fields)) :
    (dropAll next fields).Follows supervision post g := by
  induction fields generalizing g with
  | nil => exact hnext
  | cons x rest ih => exact ⟨hdrop.left, fun _ _ => ih hdrop.right hnext⟩

theorem abandon_follows {fields : List Owned} {e : EngineFailure} {g : Standing}
    (hdrop : g.MayDrop fields) (hend : (g.release fields).GivenUp e) :
    (abandon fields e).Follows supervision BootEnds g :=
  dropAll_follows hdrop hend

attribute [simp] Standing.fresh Standing.lockTaken Standing.databaseOpen
  Standing.socketBound Standing.booted Standing.MayDrop Standing.release
  Standing.Allows Standing.advance

theorem Standing.fresh_givenUp {e : EngineFailure} (h : e.exitCode = 1) :
    Standing.fresh.GivenUp e := by
  constructor <;> simp [h]

variable {parent : String -> Option String} {config : EngineConfig}

theorem createParent_follows {fields : List Owned} {dir : Option String}
    {next : EngineProgram (EngineOutcome Unit)} {g : Standing}
    (hfail : forall m, (abandon fields (.io m)).Follows supervision
      BootEnds g)
    (hnext : next.Follows supervision BootEnds g) :
    (createParent fields dir next).Follows supervision BootEnds g := by
  cases dir with
  | none => exact hnext
  | some dir =>
      refine ⟨trivial, ?_⟩
      intro r _
      rcases r with e | _
      · exact hfail _
      · exact hnext

theorem acquireLock_follows {next : EngineProgram (EngineOutcome Unit)}
    (hnext : next.Follows supervision BootEnds .lockTaken) :
    (acquireLock parent config next).Follows supervision BootEnds .fresh := by
  refine createParent_follows ?_ ⟨rfl, ?_⟩
  · intro m
    exact abandon_follows ⟨trivial, trivial⟩ (Standing.fresh_givenUp rfl)
  · intro r _
    rcases r with e | _
    · rcases e with ⟨dbPath, pid⟩ | m
      · refine abandon_follows ⟨trivial, trivial⟩ ?_
        constructor <;> simp [supervision, EngineFailure.exitCode]
      · exact abandon_follows ⟨trivial, trivial⟩ (Standing.fresh_givenUp rfl)
    · exact hnext

theorem abandon_locked {e : EngineFailure} (h : e.exitCode = 1) :
    (abandon lockedFields e).Follows supervision BootEnds .lockTaken := by
  refine abandon_follows ?_ ?_
  · simp
  · constructor <;> simp [h]

theorem ensureSocketDir_follows {next : EngineProgram (EngineOutcome Unit)}
    (hnext : next.Follows supervision BootEnds .lockTaken) :
    (ensureSocketDir parent config next).Follows supervision BootEnds
      .lockTaken := by
  refine createParent_follows (fun m => abandon_locked rfl) ?_
  split
  · exact hnext
  · refine ⟨trivial, ?_⟩
    intro r _
    rcases r with e | _
    · exact abandon_locked rfl
    · exact hnext

theorem removeStaleSocket_follows {next : EngineProgram (EngineOutcome Unit)}
    (hnext : next.Follows supervision BootEnds .lockTaken) :
    (removeStaleSocket config next).Follows supervision BootEnds
      .lockTaken := by
  refine ⟨⟨rfl, rfl⟩, ?_⟩
  intro r _
  rcases r with e | _
  · rcases e with _ | e
    · exact hnext
    · exact abandon_locked rfl
  · exact hnext

theorem openDatabase_follows {next : EngineProgram (EngineOutcome Unit)}
    (hnext : next.Follows supervision BootEnds .databaseOpen) :
    (openDatabase config next).Follows supervision BootEnds .lockTaken := by
  refine ⟨⟨rfl, rfl⟩, ?_⟩
  intro r _
  rcases r with e | _
  · exact abandon_locked rfl
  · exact hnext

theorem abandon_open {fields : List Owned} {e : EngineFailure}
    (h : e.exitCode = 1)
    (hfields : fields = databaseOpenFields ∨
      fields = .listener :: databaseOpenFields ∨ fields = boundFields)
    {g : Standing} (hg : g = .databaseOpen ∨ g = .socketBound)
    (hlistener : g.listening = true -> .listener ∈ fields) :
    (abandon fields e).Follows supervision BootEnds g := by
  refine abandon_follows ?_ ?_
  · rcases hfields with rfl | rfl | rfl <;> rcases hg with rfl | rfl <;> simp
  · rcases hfields with rfl | rfl | rfl <;> rcases hg with rfl | rfl <;>
      constructor <;> simp_all

theorem bindSocket_follows {next : EngineProgram (EngineOutcome Unit)}
    (hnext : next.Follows supervision BootEnds .socketBound) :
    (bindSocket config next).Follows supervision BootEnds .databaseOpen := by
  refine ⟨⟨rfl, rfl, rfl⟩, ?_⟩
  intro r _
  rcases r with e | _
  · exact abandon_open rfl (Or.inl rfl) (Or.inl rfl) (fun h => by cases h)
  refine ⟨trivial, ?_⟩
  intro r _
  rcases r with e | _
  · exact abandon_open rfl (Or.inr (Or.inl rfl)) (Or.inr rfl) (fun _ => by simp)
  refine ⟨trivial, ?_⟩
  intro r _
  rcases r with e | _
  · exact abandon_open rfl (Or.inr (Or.inl rfl)) (Or.inr rfl) (fun _ => by simp)
  · exact hnext

theorem buildRuntime_follows {next : EngineProgram (EngineOutcome Unit)}
    (hnext : next.Follows supervision BootEnds .booted) :
    (buildRuntime next).Follows supervision BootEnds .socketBound := by
  refine ⟨⟨rfl, rfl, rfl⟩, ?_⟩
  intro r _
  rcases r with e | _
  · exact abandon_open rfl (Or.inr (Or.inr rfl)) (Or.inr rfl) (fun _ => by simp)
  · exact hnext

theorem boot_follows :
    (boot parent config).Follows supervision BootEnds .fresh :=
  acquireLock_follows
    (ensureSocketDir_follows
      (removeStaleSocket_follows
        (openDatabase_follows
          (bindSocket_follows
            (buildRuntime_follows rfl)))))

/-!
## Serving and teardown
-/

/-- The serve loop has come to its end through `Ready` and `Stopping`. -/
def Standing.drained : Standing :=
  { Standing.booted with
    lifecycle := .stopping
    visited := [.ready, .stopping]
    sent := ["READY=1", "STOPPING=1"]
    serving := true
    closed := true }

def Standing.stopping : Standing := { Standing.drained with closed := false }

def LoopEnds (g : Standing) : LifecycleState × EngineOutcome Unit -> Prop
  | (.starting, .error e) => g = .booted ∧ e.exitCode = 1
  | (.stopping, .ok _) => g = .drained
  | (.stopping, .error e) => g = .drained ∧ e.exitCode = 1
  | _ => False

def DrainEnds (g : Standing) : EngineOutcome Unit -> Prop
  | .ok _ => g = .drained
  | .error e => g = .drained ∧ e.exitCode = 1

theorem serverExitError_exitCode (exit : ServerExit) :
    (serverExitError exit).exitCode = 1 := by
  cases exit <;> rfl

theorem drainStorage_follows :
    (drainStorage (.ok ())).Follows supervision DrainEnds .stopping :=
  ⟨⟨rfl, rfl⟩, fun _ _ => ⟨trivial, fun _ _ => rfl⟩⟩

theorem gracefulShutdown_follows :
    gracefulShutdown.Follows supervision DrainEnds .stopping := by
  refine ⟨⟨rfl, rfl⟩, fun _ _ => ⟨trivial, ?_⟩⟩
  intro event _
  rcases event with kind | exit | _
  · exact ⟨⟨rfl, rfl⟩, fun _ _ => ⟨rfl, rfl⟩⟩
  · exact drainStorage_follows
  · exact ⟨trivial, fun _ _ => drainStorage_follows⟩

theorem stopServing_follows (wakeup : Wakeup) :
    (stopServing wakeup).Follows supervision DrainEnds .stopping := by
  rcases wakeup with kind | exit
  · exact gracefulShutdown_follows
  · exact ⟨⟨rfl, rfl⟩, fun _ _ => ⟨rfl, serverExitError_exitCode exit⟩⟩

theorem runLoop_follows :
    (runLoop config .starting).Follows supervision LoopEnds .booted := by
  -- the two signal handlers
  refine ⟨trivial, ?_⟩
  intro r _
  rcases r with e | _
  · exact ⟨rfl, rfl⟩
  refine ⟨trivial, ?_⟩
  intro r _
  rcases r with e | _
  · exact ⟨rfl, rfl⟩
  -- the server
  refine ⟨trivial, ?_⟩
  intro r _
  rcases r with e | _
  · exact ⟨rfl, rfl⟩
  refine ⟨⟨rfl, rfl⟩, fun _ _ => ?_⟩
  -- `Ready`, then `Stopping`, each with its message
  refine ⟨by simp [supervision, isValidTransition, Standing.MayEnter],
    fun _ _ => ?_⟩
  refine ⟨by simp [supervision, LifecycleState.notification], fun _ _ => ?_⟩
  refine ⟨⟨rfl, rfl⟩, ?_⟩
  intro wakeup _
  refine ⟨by simp [supervision, isValidTransition, Standing.MayEnter],
    fun _ _ => ?_⟩
  refine ⟨by simp [supervision, LifecycleState.notification], fun _ _ => ?_⟩
  refine Program.follows_bind (stopServing_follows wakeup) ?_
  intro g result hresult
  rcases result with e | _
  · exact hresult
  · exact hresult

structure RunEnds (g : Standing) (result : EngineOutcome Unit) : Prop where
  lifecycle : g.lifecycle =
    match result with
    | .ok _ => .stopped
    | .error _ => .failed
  walk : g.visited = [.failed] ∨ g.visited = [.ready, .stopping, g.lifecycle]
  sent : g.sent = g.visited.filterMap LifecycleState.notification
  released : g.locked = false ∧ g.opened = false ∧ g.listening = false
  drained : .ready ∈ g.visited -> g.closed = true ∧ g.socketFile = false
  runtime : forall e, result = .error e -> e.exitCode ≠ 2
  contended : g.contended = true <->
    exists e, result = .error e ∧ e.exitCode = 3

theorem Standing.GivenUp.runEnds {g : Standing} {e : EngineFailure}
    (h : g.GivenUp e) :
    RunEnds (g.advance (.publish .failed) ()) (.error e) where
  lifecycle := rfl
  walk := Or.inl (by simp [h.visited])
  sent := by simp [h.visited, h.sent, LifecycleState.notification]
  released := ⟨h.locked, h.opened, h.listening⟩
  drained := by simp [h.visited]
  runtime := by
    intro e' he
    cases he
    exact h.runtime
  contended := by
    constructor
    · intro hcontended
      exact ⟨e, rfl, h.contended.mp hcontended⟩
    · intro hresult
      rcases hresult with ⟨e', he, hcode⟩
      cases he
      exact h.contended.mpr hcode

theorem failed_follows {g : Standing} {e : EngineFailure} (h : g.GivenUp e) :
    (transition .starting .failed (fun _ =>
      (.done (.error e) : EngineProgram (EngineOutcome Unit)))).Follows
      supervision RunEnds g := by
  refine ⟨⟨?_, h.locked, h.opened, h.listening⟩, fun _ _ => h.runEnds⟩
  rw [h.lifecycle]
  rfl

theorem runEnds_of_failed {g : Standing} {e : EngineFailure}
    (hcode : e.exitCode = 1) (hcontended : g.contended = false)
    (hlifecycle : g.lifecycle = .failed)
    (hwalk : g.visited = [.failed] ∨ g.visited = [.ready, .stopping, .failed])
    (hsent : g.sent = g.visited.filterMap LifecycleState.notification)
    (hreleased : g.locked = false ∧ g.opened = false ∧ g.listening = false)
    (hdrained : .ready ∈ g.visited -> g.closed = true ∧ g.socketFile = false) :
    RunEnds g (.error e) where
  lifecycle := hlifecycle
  walk := by rwa [hlifecycle]
  sent := hsent
  released := hreleased
  drained := hdrained
  runtime := by
    intro e' he
    cases he
    simp [hcode]
  contended := by simp [hcontended, hcode]

/-- The lock goes last, under every answer of `into_engine`. -/
theorem reclaimStorage_follows {value : Type}
    {post : Standing -> value -> Prop} {next : EngineProgram value}
    {g : Standing} (hhalted : g.halted = true) (hlocked : g.locked = true)
    (hopened : g.opened = true)
    (hnext : next.Follows supervision post { g with opened := false }) :
    (reclaimStorage next).Follows supervision post g := by
  refine ⟨⟨hhalted, hlocked, hopened⟩, ?_⟩
  intro reclaimed _
  cases reclaimed with
  | true => exact ⟨⟨hhalted, hlocked⟩, fun _ _ => hnext⟩
  | false => exact ⟨trivial, fun _ _ => hnext⟩

theorem teardown_follows {g : Standing}
    {out : LifecycleState × EngineOutcome Unit} (h : LoopEnds g out) :
    (teardown config out.1 out.2).Follows supervision RunEnds g := by
  rcases out with ⟨lifecycle, result⟩
  cases lifecycle <;> cases result <;>
    try exact False.elim h
  case starting.error e =>
    rcases h with ⟨rfl, hcode⟩
    refine ⟨by simp [supervision], fun _ _ => ⟨⟨rfl, rfl⟩, fun _ _ => ?_⟩⟩
    refine reclaimStorage_follows rfl rfl rfl ?_
    refine ⟨⟨rfl, fun _ => ⟨rfl, rfl⟩⟩, fun _ _ => ?_⟩
    refine ⟨⟨rfl, rfl, rfl, rfl⟩, fun _ _ => ?_⟩
    exact runEnds_of_failed hcode rfl rfl (Or.inl rfl) rfl ⟨rfl, rfl, rfl⟩
      (fun h => by simp [supervision] at h)
  case stopping.error e =>
    rcases h with ⟨rfl, hcode⟩
    refine ⟨⟨rfl, fun _ => rfl⟩, fun _ _ => ⟨⟨rfl, rfl⟩, fun _ _ => ?_⟩⟩
    refine reclaimStorage_follows rfl rfl rfl ?_
    refine ⟨⟨rfl, fun _ => ⟨rfl, rfl⟩⟩, fun _ _ => ?_⟩
    refine ⟨⟨rfl, rfl, rfl, rfl⟩, fun _ _ => ?_⟩
    exact runEnds_of_failed hcode rfl rfl (Or.inr rfl) rfl ⟨rfl, rfl, rfl⟩
      (fun _ => ⟨rfl, rfl⟩)
  case stopping.ok result =>
    cases h
    refine ⟨⟨rfl, fun _ => rfl⟩, fun _ _ => ⟨⟨rfl, rfl⟩, fun _ _ => ?_⟩⟩
    refine reclaimStorage_follows rfl rfl rfl ?_
    refine ⟨⟨rfl, fun _ => ⟨rfl, rfl⟩⟩, fun _ _ => ?_⟩
    refine ⟨⟨rfl, rfl, rfl, rfl⟩, fun _ _ => ?_⟩
    constructor
    case lifecycle => rfl
    case walk => exact Or.inr rfl
    case sent => rfl
    case released => exact ⟨rfl, rfl, rfl⟩
    case drained => exact fun _ => ⟨rfl, rfl⟩
    case runtime => exact fun _ he => by cases he
    case contended => simp [supervision, Standing.drained]

theorem runEngine_follows :
    (runEngine parent config).Follows supervision RunEnds .fresh := by
  refine Program.follows_bind boot_follows ?_
  intro g out hboot
  rcases out with e | _
  · exact failed_follows hboot
  · cases hboot
    exact Program.follows_bind runLoop_follows
      (fun _ _ hloop => teardown_follows hloop)

/-!
## The process
-/

structure MainEnds (g : Standing) (code : Nat) : Prop where
  range : code <= 3
  clean : code = 0 <-> g.lifecycle = .stopped
  configuration : code = 2 <-> g.lifecycle = .starting
  contended : code = 3 <-> g.contended = true
  walk : g.visited = [] ∨ g.visited = [.failed] ∨
    g.visited = [.ready, .stopping, g.lifecycle]
  sent : g.sent = g.visited.filterMap LifecycleState.notification
  released : g.locked = false ∧ g.opened = false ∧ g.listening = false
  drained : .ready ∈ g.visited -> g.closed = true ∧ g.socketFile = false

theorem EngineFailure.exitCode_range (e : EngineFailure) :
    1 <= e.exitCode ∧ e.exitCode <= 3 := by
  unfold EngineFailure.exitCode
  split <;> decide

theorem RunEnds.mainEnds_ok {g : Standing} (h : RunEnds g (.ok ())) :
    MainEnds g 0 where
  range := by decide
  clean := by simp [h.lifecycle]
  configuration := by simp [h.lifecycle]
  contended := by simp [h.contended]
  walk := Or.inr h.walk
  sent := h.sent
  released := h.released
  drained := h.drained

theorem RunEnds.mainEnds_error {g : Standing} {e : EngineFailure}
    (h : RunEnds g (.error e)) : MainEnds g e.exitCode where
  range := e.exitCode_range.right
  clean := by
    have hpos := e.exitCode_range.left
    simp [h.lifecycle, Nat.ne_of_gt hpos]
  configuration := by simp [h.lifecycle, h.runtime e rfl]
  contended := by simp [h.contended]
  walk := Or.inr h.walk
  sent := h.sent
  released := h.released
  drained := h.drained

theorem mainEnds_configuration : MainEnds .fresh 2 := by
  constructor <;> simp

theorem engineMain_follows (argc : Nat) (env : Env)
    (dirs : Option ProjectDirs) :
    (engineMain parent argc env dirs).Follows supervision MainEnds .fresh := by
  unfold engineMain
  split
  · exact ⟨⟨rfl, rfl⟩, fun _ _ => mainEnds_configuration⟩
  · split
    · rename_i e hresolve
      have hcode : e.exitCode = 2 := EngineConfig.resolve_error hresolve
      refine ⟨⟨rfl, rfl⟩, fun _ _ => ?_⟩
      change MainEnds .fresh e.exitCode
      rw [hcode]
      exact mainEnds_configuration
    · refine Program.follows_bind runEngine_follows ?_
      intro g result hresult
      rcases result with e | _
      · exact ⟨⟨hresult.released.left, hresult.released.right.left⟩,
          fun _ _ => hresult.mainEnds_error⟩
      · exact hresult.mainEnds_ok

/--
Whatever the system answers, no transition of a process is refused, the process is
ready only while the main thread has the lock, the storage facade and the served
socket, it tells the service manager so once, the main thread has given these up in
its last state, and the exit code tells how the process ended.
-/
theorem engineMain_supervised {parent : String -> Option String} {argc : Nat}
    {env : Env} {dirs : Option ProjectDirs}
    {log : List (Exchange EngineCommand EngineResponse)} {code : Nat}
    (h : (engineMain parent argc env dirs).Converses log code) :
    (forall before c r rest, log = before ++ ⟨c, r⟩ :: rest ->
      (supervision.after .fresh before).Allows c) ∧
    MainEnds (supervision.after .fresh log) code := by
  have hlog := Program.follows_converses (engineMain_follows argc env dirs) h
    (fun _ _ => trivial)
  refine ⟨?_, hlog.right⟩
  intro before c r rest hsplit
  rw [hsplit] at hlog
  exact hlog.left.allowed_at

/-- A system on which everything works, until a SIGTERM arrives. -/
def obligingSystem (_ : Unit) :
    (c : EngineCommand) -> Unit × EngineResponse c
  | .awaitWakeup => ((), .signal .terminate)
  | .awaitDrain _ => ((), .joined .returned)
  | .waitIdle _ => ((), true)
  | .intoEngine => ((), true)
  | .createDirAll _ => ((), .ok ())
  | .acquireLock _ _ => ((), .ok ())
  | .setPermissions _ _ => ((), .ok ())
  | .removeFile _ => ((), .error .notFound)
  | .openStorage _ _ => ((), .ok ())
  | .bindListener _ => ((), .ok ())
  | .setNonblocking => ((), .ok ())
  | .buildRuntime => ((), .ok ())
  | .installHandler _ => ((), .ok ())
  | .registerListener => ((), .ok ())
  | .spawnServer => ((), ())
  | .publish _ => ((), ())
  | .logInvalid _ _ => ((), ())
  | .notify _ => ((), ())
  | .beginShutdown => ((), ())
  | .abortServer => ((), ())
  | .closeStorage => ((), ())
  | .shutdownRuntime _ => ((), ())
  | .drop _ => ((), ())
  | .printError _ => ((), ())

theorem engineMain_supervised_terminated :
    exists log, (forall before c r rest, log = before ++ ⟨c, r⟩ :: rest ->
        (supervision.after .fresh before).Allows c) ∧
      MainEnds (supervision.after .fresh log) 0 := by
  rcases Program.run_converses obligingSystem ()
    (engineMain (fun _ => some "/data") 1 (fun _ => some "/data/x") none) with
    ⟨log, hlog⟩
  exact ⟨log, engineMain_supervised hlog⟩

end Engine
end Valqeron
