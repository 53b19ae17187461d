import Valqeron.Foundation.Program
import Valqeron.Engine.Boot
import Valqeron.Engine.Config

/-!
# The life of an engine process

`main` resolves the configuration and drives `ValqeronEngine::run`: the boot
phases, the serve loop, the graceful shutdown and the teardown.  All of it is one
program of the main thread.  Whatever the operating system, the server task and
the signals do is a response to one of its commands.

The lifecycle cell belongs to the main thread, so its value is passed along; an
accepted transition publishes the new state and tells the service manager.
-/

namespace Valqeron
namespace Engine

open Foundation

/-!
## The transition table
-/

inductive LifecycleState where
  | starting
  | ready
  | stopping
  | stopped
  | failed
deriving DecidableEq, Repr

def LifecycleState.asStr : LifecycleState -> String
  | starting => "starting"
  | ready => "ready"
  | stopping => "stopping"
  | stopped => "stopped"
  | failed => "failed"

def isValidTransition : LifecycleState -> LifecycleState -> Bool
  | .starting, .ready => true
  | .starting, .failed => true
  | .ready, .stopping => true
  | .stopping, .stopped => true
  | .stopping, .failed => true
  | _, _ => false

/-!
## What the main thread asks for
-/

inductive SignalKind where
  | terminate
  | interrupt
deriving DecidableEq, Repr

def SignalKind.name : SignalKind -> String
  | terminate => "SIGTERM"
  | interrupt => "SIGINT"

/-- How the task of the gRPC server ended. -/
inductive ServerExit where
  | returned
  | failed (e : String)
  | taskFailed (e : String)
deriving DecidableEq, Repr

inductive Wakeup where
  | signal (kind : SignalKind)
  | joined (exit : ServerExit)
deriving DecidableEq, Repr

inductive DrainEvent where
  | signal (kind : SignalKind)
  | joined (exit : ServerExit)
  | deadline
deriving DecidableEq, Repr

inductive RemoveError where
  | notFound
  | other (e : String)
deriving DecidableEq, Repr

inductive EngineCommand where
  | createDirAll (dir : String)
  | acquireLock (dbPath lockPath : String)
  | setPermissions (path : String) (mode : Nat)
  | removeFile (path : String)
  | openStorage (dbPath : String) (synchronous : Synchronous)
  | bindListener (path : String)
  | setNonblocking
  | buildRuntime
  | installHandler (kind : SignalKind)
  | registerListener
  | spawnServer
  /-- The lifecycle cell takes a new value. -/
  | publish (state : LifecycleState)
  /-- The log line of a refused transition. -/
  | logInvalid (source target : LifecycleState)
  | notify (state : String)
  | awaitWakeup
  | beginShutdown
  | awaitDrain (timeoutSecs : Nat)
  | abortServer
  | closeStorage
  | waitIdle (deadlineSecs : Nat)
  | shutdownRuntime (timeoutSecs : Nat)
  | intoEngine
  /-- The owner of a value lets it go. -/
  | drop (value : Owned)
  | printError (text : String)
deriving DecidableEq, Repr

def EngineResponse : EngineCommand -> Type
  | .createDirAll _ => Except String Unit
  | .acquireLock _ _ => Except EngineError Unit
  | .setPermissions _ _ => Except String Unit
  | .removeFile _ => Except RemoveError Unit
  | .openStorage _ _ => Except String Unit
  | .bindListener _ => Except String Unit
  | .setNonblocking => Except String Unit
  | .buildRuntime => Except String Unit
  | .installHandler _ => Except String Unit
  | .registerListener => Except String Unit
  | .awaitWakeup => Wakeup
  | .awaitDrain _ => DrainEvent
  | .waitIdle _ => Bool
  | .intoEngine => Bool
  | _ => Unit

abbrev EngineProgram := Program EngineCommand EngineResponse

/-!
## `Lifecycle::transition`
-/

def LifecycleState.notification : LifecycleState -> Option String
  | ready => some "READY=1"
  | stopping => some "STOPPING=1"
  | _ => none

def sendNotification {value : Type} (next : EngineProgram value) :
    Option String -> EngineProgram value
  | none => next
  | some message => .call (.notify message) (fun _ => next)

/-- Every caller ignores the result, so only the new value of the cell is kept. -/
def transition {value : Type} (source target : LifecycleState)
    (next : LifecycleState -> EngineProgram value) : EngineProgram value :=
  if isValidTransition source target then
    .call (.publish target) (fun _ =>
      sendNotification (next target) target.notification)
  else
    .call (.logInvalid source target) (fun _ => next source)

/-!
## The boot sequence

A phase that fails drops its own struct, field by field, before the error reaches
`run`.
-/

def dropAll {value : Type} (next : EngineProgram value) :
    List Owned -> EngineProgram value
  | [] => next
  | x :: rest => .call (.drop x) (fun _ => dropAll next rest)

/-- `?` on an error inside a phase that owns these fields. -/
def abandon {value : Type} (fields : List Owned) (e : EngineFailure) :
    EngineProgram (EngineOutcome value) :=
  dropAll (.done (.error e)) (dropStruct fields)

def createParent {value : Type} (fields : List Owned) (dir : Option String)
    (next : EngineProgram (EngineOutcome value)) :
    EngineProgram (EngineOutcome value) :=
  match dir with
  | none => next
  | some dir =>
      .call (.createDirAll dir) (fun
        | .error e => abandon fields (.io s!"creating {dir}: {e}")
        | .ok _ => next)

variable {value : Type} (parent : String -> Option String)
  (config : EngineConfig)

/-- `Bootstrap::acquire_lock`; `parent` is `Path::parent`. -/
def acquireLock (next : EngineProgram (EngineOutcome value)) :
    EngineProgram (EngineOutcome value) :=
  createParent [.config] (parent config.dbPath)
    (.call (.acquireLock config.dbPath config.lockPath) (fun
      | .error e => abandon [.config] (.lock e)
      | .ok _ => next))

def ensureSocketDir (next : EngineProgram (EngineOutcome value)) :
    EngineProgram (EngineOutcome value) :=
  createParent lockedFields (parent config.socketPath)
    (match parent config.socketPath with
    | none => next
    | some dir =>
        .call (.setPermissions dir 0o700) (fun
          | .error e => abandon lockedFields (.io s!"restricting {dir}: {e}")
          | .ok _ => next))

def removeStaleSocket (next : EngineProgram (EngineOutcome value)) :
    EngineProgram (EngineOutcome value) :=
  .call (.removeFile config.socketPath) (fun
    | .error (.other e) => abandon lockedFields
        (.io s!"removing stale socket {config.socketPath}: {e}")
    | .error .notFound => next
    | .ok _ => next)

def openDatabase (next : EngineProgram (EngineOutcome value)) :
    EngineProgram (EngineOutcome value) :=
  .call (.openStorage config.dbPath config.synchronous) (fun
    | .error e => abandon socketReadyFields (.storage e)
    | .ok _ => next)

/-- `DatabaseOpen::bind_socket`; the bound listener is a local of the phase. -/
def bindSocket (next : EngineProgram (EngineOutcome value)) :
    EngineProgram (EngineOutcome value) :=
  .call (.bindListener config.socketPath) (fun
    | .error e => abandon databaseOpenFields
        (.io s!"binding socket {config.socketPath}: {e}")
    | .ok _ => .call .setNonblocking (fun
      | .error e => abandon (.listener :: databaseOpenFields)
          (.io s!"setting {config.socketPath} nonblocking: {e}")
      | .ok _ => .call (.setPermissions config.socketPath 0o600) (fun
        | .error e => abandon (.listener :: databaseOpenFields)
            (.io s!"restricting {config.socketPath}: {e}")
        | .ok _ => next)))

def buildRuntime (next : EngineProgram (EngineOutcome value)) :
    EngineProgram (EngineOutcome value) :=
  .call .buildRuntime (fun
    | .error e => abandon boundFields (.io s!"building tokio runtime: {e}")
    | .ok _ => next)

def boot : EngineProgram (EngineOutcome Unit) :=
  acquireLock parent config
    (ensureSocketDir parent config
      (removeStaleSocket config
        (openDatabase config
          (bindSocket config
            (buildRuntime (.done (.ok ())))))))

/-!
## The serve loop
-/

def drainTimeoutSecs : Nat := 10

def runtimeShutdownTimeoutSecs : Nat := 20

def installSignals (fail : EngineFailure -> EngineProgram value)
    (next : EngineProgram value) : EngineProgram value :=
  .call (.installHandler .terminate) (fun
    | .error e => fail (.io s!"installing SIGTERM handler: {e}")
    | .ok _ => .call (.installHandler .interrupt) (fun
      | .error e => fail (.io s!"installing SIGINT handler: {e}")
      | .ok _ => next))

def spawnServer (fail : EngineFailure -> EngineProgram value)
    (next : EngineProgram value) : EngineProgram value :=
  .call .registerListener (fun
    | .error e => fail (.io
        s!"registering socket {config.socketPath} with the runtime: {e}")
    | .ok _ => .call .spawnServer (fun _ => next))

def serverExitError : ServerExit -> EngineFailure
  | .returned => .io "gRPC server exited unexpectedly"
  | .failed e => .io s!"gRPC server failed: {e}"
  | .taskFailed e => .io s!"gRPC server task failed: {e}"

/-- The end of `graceful_shutdown`, once the server has drained or is aborted. -/
def drainStorage (result : value) : EngineProgram value :=
  .call .closeStorage (fun _ =>
    .call (.waitIdle drainTimeoutSecs) (fun _ => .done result))

/-- How the server ended during the drain is only logged. -/
def gracefulShutdown : EngineProgram (EngineOutcome Unit) :=
  .call .beginShutdown (fun _ =>
    .call (.awaitDrain drainTimeoutSecs) (fun
      | .signal _ => .call .closeStorage (fun _ =>
          .done (.error .forcedShutdown))
      | .joined _ => drainStorage (.ok ())
      | .deadline => .call .abortServer (fun _ => drainStorage (.ok ()))))

/-- What `run_loop` does once it is woken up and has left `Ready`. -/
def stopServing : Wakeup -> EngineProgram (EngineOutcome Unit)
  | .signal _ => gracefulShutdown
  | .joined exit => .call .closeStorage (fun _ =>
      .done (.error (serverExitError exit)))

/-- The lifecycle cell together with the result of the loop. -/
def runLoop (lifecycle : LifecycleState) :
    EngineProgram (LifecycleState × EngineOutcome Unit) :=
  let fail := fun e => .done (lifecycle, .error e)
  installSignals fail
    (spawnServer config fail
      (transition lifecycle .ready (fun lifecycle =>
        .call .awaitWakeup (fun wakeup =>
          transition lifecycle .stopping (fun lifecycle =>
            (stopServing wakeup).bind (fun result =>
              .done (lifecycle, result)))))))

/-!
## Teardown
-/

/-- The match on `storage.into_engine()`. -/
def reclaimStorage (next : EngineProgram value) : EngineProgram value :=
  .call .intoEngine (fun
    | true => .call (.drop .connections) (fun _ => next)
    | false => .call (.drop .storage) (fun _ => next))

/-- The statements of `serve` behind `run_loop`. -/
def teardown (lifecycle : LifecycleState) (result : EngineOutcome Unit) :
    EngineProgram (EngineOutcome Unit) :=
  .call (.shutdownRuntime runtimeShutdownTimeoutSecs) (fun _ =>
    .call (.removeFile config.socketPath) (fun _ =>
      reclaimStorage
        (.call (.drop .lock) (fun _ =>
          transition lifecycle
            (match result with
            | .ok _ => .stopped
            | .error _ => .failed)
            (fun _ => .done result)))))

def serve (lifecycle : LifecycleState) : EngineProgram (EngineOutcome Unit) :=
  (runLoop config lifecycle).bind (fun out => teardown config out.1 out.2)

def runEngine : EngineProgram (EngineOutcome Unit) :=
  (boot parent config).bind (fun
    | .ok _ => serve config .starting
    | .error e => transition .starting .failed (fun _ => .done (.error e)))

def noArgumentsError : String :=
  "error: valqeron-engine takes no arguments; configure it via VALQERON_* "
    ++ "environment variables in the service definition (see scripts/install/)"

/--
`main` without its logging, for a number of command-line arguments (the program's
own name included); the value is the exit code.
-/
def engineMain (argc : Nat) (env : Env) (dirs : Option ProjectDirs) :
    EngineProgram Nat :=
  if 1 < argc then
    .call (.printError noArgumentsError) (fun _ => .done 2)
  else
    match EngineConfig.resolve env dirs with
    | .error e =>
        .call (.printError s!"error: {e.message}") (fun _ => .done e.exitCode)
    | .ok config => (runEngine parent config).bind (fun
      | .ok _ => .done 0
      | .error e => .call (.printError s!"error: {e.message}") (fun _ =>
          .done e.exitCode))

end Engine
end Valqeron
