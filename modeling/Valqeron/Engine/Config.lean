import Valqeron.Foundation.Text
import Valqeron.Engine.Lock

/-!
# The configuration of the engine

Every setting comes from one environment variable, with the platform's data
directory as the default.  The resolution cores take the value and the directory as
arguments.  Values are taken to be UTF-8 here.
-/

namespace Valqeron
namespace Engine

open Foundation

/-- `EngineError` as a whole; `acquire` returns only the two errors in `lock`. -/
inductive EngineFailure where
  | config (message : String)
  | invalidDataDirectory (app envVar : String)
  | lock (e : EngineError)
  | storage (message : String)
  | forcedShutdown
deriving DecidableEq, Repr

namespace EngineFailure

abbrev io (message : String) : EngineFailure := .lock (.io message)

def exitCode : EngineFailure -> Nat
  | .config _ => 2
  | .invalidDataDirectory _ _ => 2
  | .lock (.alreadyRunning _ _) => 3
  | .lock (.io _) => 1
  | .storage _ => 1
  | .forcedShutdown => 1

def message : EngineFailure -> String
  | .config m => s!"configuration error: {m}"
  | .invalidDataDirectory app envVar =>
      s!"could not determine a data directory for {app}; set {envVar} or "
        ++ "pass an explicit path"
  | .lock (.alreadyRunning dbPath pid) =>
      s!"another engine instance already owns {dbPath} (pid {pid}); "
        ++ "stop it first or check \x60valqeron engine status\x60"
  | .lock (.io m) => s!"i/o error: {m}"
  | .storage m => s!"storage error: {m}"
  | .forcedShutdown =>
      "forced shutdown: second signal received before graceful shutdown finished"

end EngineFailure

/-- A phase ends with a value or with the error that `?` hands on. -/
abbrev EngineOutcome := Except EngineFailure

abbrev Env := String -> Option String

/-- What `directories` knows about the platform. -/
structure ProjectDirs where
  dataDir : String
  dataLocalDir : String
deriving DecidableEq, Repr

/-- `Path::join` with a relative file name. -/
def joinPath (dir name : String) : String :=
  if dir.isEmpty || dir.endsWith "/" then dir ++ name else dir ++ "/" ++ name

def osStrIsOff (value : String) : Bool :=
  let word := String.ofList ((trim value.toList).map Char.toLower)
  word == "off" || word == "false" || word == "0" || word == "none"

def dbPathEnv : String := "VALQERON_DB"

def engineLogFileEnv : String := "VALQERON_ENGINE_LOG_FILE"

def engineDurableEnv : String := "VALQERON_ENGINE_DURABLE"

def socketEnv : String := "VALQERON_SOCKET"

def defaultApp : String := "valqeron"

def defaultDbName : String := "valqeron.db"

def defaultLogFileName : String := "engine.log"

def defaultSocketFileName : String := "valqeron.sock"

/-- An empty `VALQERON_DB` is taken as it stands. -/
def resolveDatabasePath (envValue dataDir : Option String) :
    EngineOutcome String :=
  match envValue with
  | some path => .ok path
  | none =>
      match dataDir with
      | some dir => .ok (joinPath dir defaultDbName)
      | none => .error (.invalidDataDirectory defaultApp dbPathEnv)

def resolveSocketPath (envValue dataDir : Option String) :
    EngineOutcome String :=
  let fallback := match dataDir with
    | some dir => .ok (joinPath dir defaultSocketFileName)
    | none => .error (.config
        s!"could not determine socket path; set {socketEnv}")
  match envValue with
  | some value => if value.isEmpty then fallback else .ok value
  | none => fallback

def resolveLogFilePath (envValue dataDir : Option String) :
    EngineOutcome (Option String) :=
  let fallback := match dataDir with
    | some dir => .ok (some (joinPath dir defaultLogFileName))
    | none => .error (.invalidDataDirectory defaultApp engineLogFileEnv)
  match envValue with
  | some value =>
      if osStrIsOff value then
        .ok none
      else if value.isEmpty then
        -- set but empty falls through to the default, like unset
        fallback
      else
        .ok (some value)
  | none => fallback

def durableFrom : Option String -> Bool
  | none => false
  | some value => !value.isEmpty && !osStrIsOff value

inductive Synchronous where
  | full
  | normal
deriving DecidableEq, Repr

structure EngineConfig where
  dbPath : String
  socketPath : String
  /-- `none` stands for file logging disabled. -/
  logFile : Option String
  durable : Bool
deriving DecidableEq, Repr

namespace EngineConfig

def resolve (env : Env) (dirs : Option ProjectDirs) :
    EngineOutcome EngineConfig := do
  let dbPath ← resolveDatabasePath (env dbPathEnv)
    (dirs.map ProjectDirs.dataDir)
  let socketPath ← resolveSocketPath (env socketEnv)
    (dirs.map ProjectDirs.dataLocalDir)
  let logFile ← resolveLogFilePath (env engineLogFileEnv)
    (dirs.map ProjectDirs.dataDir)
  return {
    dbPath := dbPath
    socketPath := socketPath
    logFile := logFile
    durable := durableFrom (env engineDurableEnv) }

/-- `.lock` is appended to the whole path, the extension stays. -/
def lockPath (config : EngineConfig) : String := config.dbPath ++ ".lock"

def synchronous (config : EngineConfig) : Synchronous :=
  if config.durable then .full else .normal

end EngineConfig

/-- The errors of the configuration, which `main` answers with exit code 2. -/
def EngineFailure.IsConfiguration (e : EngineFailure) : Prop := e.exitCode = 2

theorem resolveDatabasePath_error {envValue dataDir : Option String}
    {e : EngineFailure} (h : resolveDatabasePath envValue dataDir = .error e) :
    e.IsConfiguration := by
  unfold resolveDatabasePath at h
  split at h
  · cases h
  · split at h
    · cases h
    · cases h
      rfl

theorem resolveSocketPath_error {envValue dataDir : Option String}
    {e : EngineFailure} (h : resolveSocketPath envValue dataDir = .error e) :
    e.IsConfiguration := by
  unfold resolveSocketPath at h
  rcases envValue with _ | value
  · rcases dataDir with _ | dir
    · cases h
      rfl
    · cases h
  · rcases dataDir with _ | dir
    · simp only at h
      split at h
      · cases h
        rfl
      · cases h
    · simp only at h
      split at h
      · cases h
      · cases h

theorem resolveLogFilePath_error {envValue dataDir : Option String}
    {e : EngineFailure} (h : resolveLogFilePath envValue dataDir = .error e) :
    e.IsConfiguration := by
  unfold resolveLogFilePath at h
  rcases envValue with _ | value
  · rcases dataDir with _ | dir
    · cases h
      rfl
    · cases h
  · simp only at h
    split at h
    · cases h
    · split at h
      · rcases dataDir with _ | dir
        · cases h
          rfl
        · cases h
      · cases h

theorem EngineConfig.resolve_error {env : Env} {dirs : Option ProjectDirs}
    {e : EngineFailure} (h : EngineConfig.resolve env dirs = .error e) :
    e.IsConfiguration := by
  unfold EngineConfig.resolve at h
  rcases bind_eq_error.mp h with hdb | ⟨dbPath, _, h⟩
  · exact resolveDatabasePath_error hdb
  rcases bind_eq_error.mp h with hsocket | ⟨socketPath, _, h⟩
  · exact resolveSocketPath_error hsocket
  rcases bind_eq_error.mp h with hlog | ⟨logFile, _, h⟩
  · exact resolveLogFilePath_error hlog
  · cases h

end Engine
end Valqeron
