import Valqeron.Engine.AdminService
import Valqeron.Engine.Config

/-!
# Opening a connection to the engine

Where the client looks for the socket, what it makes of a failed connection, and
the handshake: an engine of another protocol version is turned down.
-/

namespace Valqeron
namespace EngineClient

open Engine

/-- `ClientError` with all of its cases. -/
inductive ClientFailure where
  | notRunning (socket : String)
  | unreachable (socket message : String)
  | versionMismatch (clientProtocol engineProtocol : Nat)
      (clientVersion engineVersion : String)
  | rpc (code message : String)
  | config (message : String)
  | invalidResponse (message : String)
  | runtime (message : String)
deriving DecidableEq, Repr

def ClientFailure.message : ClientFailure -> String
  | notRunning socket =>
      s!"no engine is running on {socket}; install and start the engine "
        ++ "service (during development: \x60just engine-install\x60)"
  | unreachable socket message => s!"engine unreachable on {socket}: {message}"
  | versionMismatch clientProtocol engineProtocol clientVersion engineVersion =>
      s!"engine {engineVersion} speaks protocol v{engineProtocol}, but this "
        ++ s!"client (v{clientVersion}) requires protocol v{clientProtocol}; "
        ++ "upgrade the older side"
  | rpc code message => s!"rpc failed ({code}): {message}"
  | config message => s!"client configuration error: {message}"
  | invalidResponse message => s!"invalid response from engine: {message}"
  | runtime message => s!"failed to start the client runtime: {message}"

def SocketPath.resolveWith (envValue projectDataDir : Option String) :
    Except ClientFailure String :=
  let fallback := match projectDataDir with
    | some dir => .ok (joinPath dir defaultSocketFileName)
    | none => .error (.config
        s!"could not determine socket path; set {socketEnv}")
  match envValue with
  | some value => if value.isEmpty then fallback else .ok value
  | none => fallback

def SocketPath.resolve (env : Env) (dirs : Option ProjectDirs) :
    Except ClientFailure String :=
  SocketPath.resolveWith (env socketEnv) (dirs.map ProjectDirs.dataLocalDir)

/-- The path that `Inner::connect` dials; `ClientOptions::default` tries the
resolution once more without its error. -/
def socketToDial (given : Option String) (env : Env)
    (dirs : Option ProjectDirs) : Except ClientFailure String :=
  match given with
  | some path => .ok path
  | none =>
      match (SocketPath.resolve env dirs).toOption with
      | some path => .ok path
      | none => SocketPath.resolve env dirs

inductive IoErrorKind where
  | connectionRefused
  | notFound
  | other
deriving DecidableEq, Repr

inductive ErrorSource where
  | io (kind : IoErrorKind) (text : String)
  | other
deriving DecidableEq, Repr

/-- `tonic::transport::Error`, with the errors below it. -/
structure TransportError where
  text : String
  sources : List ErrorSource
deriving DecidableEq, Repr

/-- `classify_connect_error` from one of the errors on. -/
def classifySources (socket text : String) : List ErrorSource -> ClientFailure
  | [] => .unreachable socket text
  | .io .connectionRefused _ :: _ => .notRunning socket
  | .io .notFound _ :: _ => .notRunning socket
  | .io .other message :: _ => .unreachable socket message
  | .other :: rest => classifySources socket text rest

def classifyConnectError (socket : String) (err : TransportError) :
    ClientFailure :=
  classifySources socket err.text err.sources

structure EngineInfo where
  engineVersion : String
  protocolVersion : Nat
deriving DecidableEq, Repr

structure EngineStatus where
  engineVersion : String
  protocolVersion : Nat
  pid : Nat
deriving DecidableEq, Repr

def checkProtocol (version : String) (health : EngineInfo) :
    Except ClientFailure EngineInfo :=
  if health.protocolVersion ≠ protocolVersion then
    .error (.versionMismatch protocolVersion health.protocolVersion version
      health.engineVersion)
  else
    .ok health

theorem checkProtocol_eq_ok {version : String} {health info : EngineInfo} :
    checkProtocol version health = .ok info <->
      info = health ∧ health.protocolVersion = protocolVersion := by
  unfold checkProtocol
  split
  · rename_i h
    constructor
    · intro hok
      cases hok
    · intro hboth
      exact absurd hboth.right h
  · rename_i h
    rw [not_not] at h
    constructor
    · intro hok
      cases hok
      exact ⟨rfl, h⟩
    · intro hboth
      rw [hboth.left]

theorem resolveWith_of_engine {envValue dataDir : Option String}
    {path : String} (h : resolveSocketPath envValue dataDir = .ok path) :
    SocketPath.resolveWith envValue dataDir = .ok path := by
  unfold resolveSocketPath at h
  unfold SocketPath.resolveWith
  cases envValue with
  | none =>
      cases dataDir with
      | none => cases h
      | some dir =>
          cases h
          rfl
  | some value =>
      simp only at h ⊢
      split at h
      · rename_i hempty
        rw [if_pos hempty]
        cases dataDir with
        | none => cases h
        | some dir =>
            cases h
            rfl
      · rename_i hvalue
        cases h
        rw [if_neg hvalue]

/-- The engine and its clients resolve the same socket. -/
theorem resolve_of_engine {env : Env} {dirs : Option ProjectDirs}
    {config : EngineConfig} (h : EngineConfig.resolve env dirs = .ok config) :
    SocketPath.resolve env dirs = .ok config.socketPath := by
  unfold EngineConfig.resolve at h
  rcases Foundation.bind_eq_ok.mp h with ⟨dbPath, _, h⟩
  rcases Foundation.bind_eq_ok.mp h with ⟨socketPath, hsocket, h⟩
  rcases Foundation.bind_eq_ok.mp h with ⟨logFile, _, h⟩
  cases h
  exact resolveWith_of_engine hsocket

end EngineClient
end Valqeron
