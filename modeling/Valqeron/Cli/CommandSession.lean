import Valqeron.Cli.Commands
import Valqeron.EngineClient.IssuerSession

/-!
# Command lines on a running engine

Runs of the command line, one after another, on a machine whose engine serves the
socket.  What the user gets to see of every run is what the catalogue behind the
tables tells, and the tables hold the catalogue in the end.
-/

namespace Valqeron
namespace Cli

open Foundation
open Domain
open Sqlite
open Engine
open EngineClient

structure Host where
  socket : String
  engineVersion : String
  pid : Nat
  /-- What the engine tells about its background tasks. -/
  tasks : Option Uuid -> Nat ->
    Except ClientFailure (List BackgroundTaskDetail)

/-- No flag names another socket, and the argument parser takes no empty path. -/
def UsesEngineSocket (around : Surroundings) (line : CommandLine) : Prop :=
  line.socket = socketArg none around.env ∧ line.socket ≠ some ""

/-- One run: the parsed arguments of an issuer command, and what it meets. -/
structure Invocation (around : Surroundings) where
  line : CommandLine
  command : IssuerCommand
  isIssuer : line.command = .issuer command
  usesSocket : UsesEngineSocket around line
  /-- The id and the clock of the client's own builders. -/
  freshId : IssuerId
  now : DateTime
  /-- What the engine adds to a registration. -/
  moment : Moment
  files : InputSource -> Except InputFault Json
  logFile : Except String Unit

structure Desk where
  db : Db
  outputs : List (OutputDest × Json)
  errors : List Json

def Desk.clear (d : Db) : Desk where
  db := d
  outputs := []
  errors := []

/-- `ClientError` of a call on an open connection. -/
def callFailure : CallError -> ClientFailure
  | .rpc code message => .rpc code message
  | .invalidResponse message => .invalidResponse message

/-- A service replies to its own calls only. -/
def typedReply {reply : Type} (pick : CallReply -> Option reply)
    (r : Except CallError CallReply) : Except ClientFailure reply :=
  match r with
  | .error e => .error (callFailure e)
  | .ok v =>
      match pick v with
      | some typed => .ok typed
      | none => .error (.invalidResponse "reply to another call")

def CallReply.registered? : CallReply -> Option (Versioned HydratedIssuer)
  | .registered v => some v
  | _ => none

def CallReply.found? : CallReply -> Option (Option (Versioned HydratedIssuer))
  | .found v => some v
  | _ => none

def CallReply.listed? : CallReply -> Option (List (Versioned HydratedIssuer))
  | .listed v => some v
  | _ => none

section Runs

variable (text : UuidText) (detail : String)
variable (host : Host) {around : Surroundings}

def callDesk (v : Invocation around) (w : Desk) (call : IssuerCall) :
    Desk × Except CallError CallReply :=
  let r := callEngine text detail v.freshId v.now w.db (v.moment, call)
  ({ w with db := r.1 }, r.2)

/-- The responses to a run: files can be written, and the engine is up. -/
def serveDesk (v : Invocation around) (w : Desk) :
    (c : CliCommand) -> Desk × CliResponse c
  | .openLogFile _ => (w, v.logFile)
  | .warn _ => (w, ())
  | .buildRuntime => (w, .ok ())
  | .dial path =>
      if path = host.socket then
        (w, .ok ())
      else
        (w, .error { text := "transport error", sources := [.io .notFound ""] })
  | .health => (w, .ok
      { engineVersion := host.engineVersion
        protocolVersion := protocolVersion })
  | .status => (w, .ok
      { engineVersion := host.engineVersion
        protocolVersion := protocolVersion
        pid := host.pid })
  | .listBackgroundTasks after limit => (w, host.tasks after limit)
  | .register issuer dryRun =>
      let r := callDesk text detail v w (.register issuer dryRun)
      (r.1, typedReply CallReply.registered? r.2)
  | .get id =>
      let r := callDesk text detail v w (.get id)
      (r.1, typedReply CallReply.found? r.2)
  | .list after limit =>
      let r := callDesk text detail v w (.list after limit)
      (r.1, typedReply CallReply.listed? r.2)
  | .readInput source => (w, v.files source)
  | .writeOutput dest body _ =>
      ({ w with outputs := w.outputs ++ [(dest, body)] }, .ok ())
  | .printError body _ => ({ w with errors := w.errors ++ [body] }, ())

structure Ending where
  code : Nat
  outputs : List (OutputDest × Json)
  errors : List Json

def invoke (d : Db) (v : Invocation around) : Db × Ending :=
  let r := (main text v.freshId v.now around v.line).run
    (serveDesk text detail host v) (.clear d)
  (r.1.db, { code := r.2, outputs := r.1.outputs, errors := r.1.errors })

end Runs

/-!
## What the catalogue tells the user
-/

def Invocation.document {around : Surroundings} (v : Invocation around) :
    Except CliFailure (Option Json) :=
  match v.line.input with
  | none => .ok none
  | some arg =>
      match v.files (.fromArg arg) with
      | .error e => .error (.input (.fromArg arg) e)
      | .ok value => .ok (some value)

def Invocation.registerCall {around : Surroundings} (v : Invocation around)
    (args : RegisterArgs) (document : Option Json) :
    Except CliFailure IssuerCall :=
  match args.execute v.freshId v.now document with
  | .error e => .error (.register e)
  | .ok issuer => .ok (.register issuer v.line.dryRun)

/-- The call that the arguments amount to, or why there is none. -/
def Invocation.call {around : Surroundings} (text : UuidText)
    (v : Invocation around) : Except CliFailure IssuerCall :=
  match v.command with
  | .register args =>
      match v.document with
      | .error e => .error e
      | .ok document => v.registerCall args document
  | .list args =>
      match parseCursor text args.after with
      | none => .error (.issuerCursor (args.after.getD ""))
      | some after => .ok (.list (after.map IssuerId.mk) args.limit)
  | .info raw =>
      match text.parseStr raw with
      | none => .error (.issuerId raw)
      | some uuid => .ok (.get { uuid := uuid })

def replyPayload (text : UuidText) : CallReply -> Json
  | .registered v => registerPayload text v
  | .found v => infoPayload text v
  | .listed v => listPayload text v
  | .written _ => .null

def Ending.success (line : CommandLine) (payload : Json) : Ending where
  code := 0
  outputs := [(.fromArg line.output, successEnvelope line.dryRun payload)]
  errors := []

def Ending.failure (e : CliFailure) : Ending where
  code := 1
  outputs := []
  errors := [errorEnvelope e]

def Ending.ofReply (text : UuidText) (line : CommandLine) :
    Except CallError CallReply -> Ending
  | .ok reply => .success line (replyPayload text reply)
  | .error e => .failure (.client (callFailure e))

/-- The run knows where to log, or that it does not. -/
def Invocation.LogSettled {around : Surroundings} (v : Invocation around) :
    Prop :=
  exists logFile,
    resolveLogFile around v.line.logFile v.line.noLogFile = .ok logFile

/-- What a run may show for a catalogue, and the catalogue behind it. -/
inductive Shown {around : Surroundings} (text : UuidText) (c : Catalogue)
    (v : Invocation around) : Ending -> Catalogue -> Prop where
  | noLogFile (e : CliFailure)
      (h : resolveLogFile around v.line.logFile v.line.noLogFile = .error e) :
      Shown text c v (.failure e) c
  | refused (hlog : v.LogSettled) (e : CliFailure)
      (h : v.call text = .error e) :
      Shown text c v (.failure e) c
  | replied (hlog : v.LogSettled) (call : IssuerCall)
      (reply : Except CallError CallReply) (c' : Catalogue)
      (hcall : v.call text = .ok call)
      (h : OnCatalogue c v.moment call reply c') :
      Shown text c v (.ofReply text v.line reply) c'

/-!
## One run
-/

section Steps

variable {text : UuidText} {detail : String}
variable {host : Host} {around : Surroundings}

theorem dial_reaches {config : EngineConfig} {line : CommandLine}
    (hconfig : EngineConfig.resolve around.env around.dirs = .ok config)
    (hsocket : UsesEngineSocket around line) :
    socketToDial line.socket around.env around.dirs =
      .ok config.socketPath := by
  have hresolved := resolve_of_engine hconfig
  rcases hsocket with ⟨harg, hempty⟩
  have henv : line.socket = around.env socketEnv := harg
  cases hline : line.socket with
  | none =>
      unfold socketToDial
      simp only [hresolved, Except.toOption]
  | some path =>
      rw [hline] at henv hempty
      unfold SocketPath.resolve SocketPath.resolveWith at hresolved
      rw [← henv] at hresolved
      have hvalue : path.isEmpty = false := by
        cases hisEmpty : path.isEmpty with
        | false => rfl
        | true =>
            rw [String.isEmpty_iff] at hisEmpty
            exact absurd (congrArg some hisEmpty) hempty
      simp only [hvalue] at hresolved
      exact hresolved

theorem run_connect (text : UuidText) (detail : String)
    (v : Invocation around) (w : Desk)
    (hdial : socketToDial v.line.socket around.env around.dirs =
      .ok host.socket) :
    exists info, (connect around v.line.socket).run
        (serveDesk text detail host v) w =
      (w, .ok { socket := host.socket, engineInfo := info }) := by
  refine ⟨{ engineVersion := host.engineVersion
            protocolVersion := protocolVersion }, ?_⟩
  unfold connect
  rw [Program.run_call]
  simp only [serveDesk, hdial, Program.run_call, if_true, handshake]
  rfl

theorem run_answered {reply : Type} {payload : reply -> Json}
    {pick : CallReply -> Option reply} {v : Invocation around} {w : Desk}
    {r : Except CallError CallReply}
    (hkind : forall u, r = .ok u -> exists typed, pick u = some typed ∧
      payload typed = replyPayload text u) :
    (answered payload (typedReply pick r)).run (serveDesk text detail host v)
        w =
      (w, (r.map (replyPayload text)).mapError
        (fun e => .client (callFailure e))) := by
  cases r with
  | error e => rfl
  | ok u =>
      rcases hkind u rfl with ⟨typed, hpick, hpayload⟩
      unfold typedReply
      simp only [hpick]
      show (w, Except.ok (payload typed)) = _
      rw [hpayload]
      rfl

theorem registered_of_receive {freshId : IssuerId} {now : DateTime}
    {response : Except Status IssuerResponseProto} {reply : CallReply}
    (h : receiveRegistered text detail freshId now response = .ok reply) :
    exists typed, CallReply.registered? reply = some typed ∧
      registerPayload text typed = replyPayload text reply := by
  unfold receiveRegistered at h
  rcases bind_eq_ok.mp h with ⟨response, _, h⟩
  split at h
  · cases h
  · rename_i wire hwire
    cases hissuer : issuerFromProto text freshId now wire with
    | error e =>
        rw [hissuer] at h
        cases h
    | ok issuer =>
        rw [hissuer] at h
        cases h
        exact ⟨issuer, rfl, rfl⟩

theorem found_of_receive {freshId : IssuerId} {now : DateTime}
    {response : Except Status IssuerResponseProto} {reply : CallReply}
    (h : receiveFound text detail freshId now response = .ok reply) :
    exists typed, CallReply.found? reply = some typed ∧
      infoPayload text typed = replyPayload text reply := by
  unfold receiveFound at h
  rcases bind_eq_ok.mp h with ⟨response, _, h⟩
  split at h
  · cases h
    exact ⟨none, rfl, rfl⟩
  · rename_i wire hwire
    cases hissuer : issuerFromProto text freshId now wire with
    | error e =>
        rw [hissuer] at h
        cases h
    | ok issuer =>
        rw [hissuer] at h
        cases h
        exact ⟨some issuer, rfl, rfl⟩

theorem listed_of_receive {freshId : IssuerId} {now : DateTime}
    {response : Except Status ListIssuersResponseProto} {reply : CallReply}
    (h : receiveListed text detail freshId now response = .ok reply) :
    exists typed, CallReply.listed? reply = some typed ∧
      listPayload text typed = replyPayload text reply := by
  unfold receiveListed at h
  rcases bind_eq_ok.mp h with ⟨response, _, h⟩
  cases hissuers : response.issuers.mapM (issuerFromProto text freshId now) with
  | error e =>
      rw [hissuers] at h
      cases h
  | ok issuers =>
      rw [hissuers] at h
      cases h
      exact ⟨issuers, rfl, rfl⟩

def executed (text : UuidText) (detail : String) (v : Invocation around) (w : Desk) :
    Except CliFailure IssuerCall -> Desk × Except CliFailure Json
  | .error e => (w, .error e)
  | .ok call =>
      ((callDesk text detail v w call).1,
        ((callDesk text detail v w call).2.map (replyPayload text)).mapError
          (fun e => .client (callFailure e)))

theorem run_submit (v : Invocation around) (w : Desk) (args : RegisterArgs)
    (document : Option Json) :
    (submit text v.freshId v.now v.line.dryRun args document).run
        (serveDesk text detail host v) w =
      executed text detail v w (v.registerCall args document) := by
  unfold submit Invocation.registerCall
  cases args.execute v.freshId v.now document with
  | error e => rfl
  | ok issuer => exact run_answered (fun u hu => registered_of_receive hu)

theorem run_execute (v : Invocation around) (w : Desk) (client : Client) :
    (execute text v.freshId v.now v.line client).run
        (serveDesk text detail host v) w =
      executed text detail v w (v.call text) := by
  unfold execute Invocation.call
  rw [v.isIssuer]
  cases v.command with
  | info raw =>
      simp only [executeInfo]
      cases text.parseStr raw with
      | none => rfl
      | some uuid => exact run_answered (fun u hu => found_of_receive hu)
  | list args =>
      simp only [executeList]
      cases parseCursor text args.after with
      | none => rfl
      | some after => exact run_answered (fun u hu => listed_of_receive hu)
  | register args =>
      simp only [executeRegister, Invocation.document]
      cases v.line.input with
      | none => exact run_submit v w args none
      | some arg =>
          simp only [Program.run_call, serveDesk]
          cases v.files (.fromArg arg) with
          | error e => rfl
          | ok value => exact run_submit v w args (some value)

def documented (v : Invocation around) :
    Desk × Except CliFailure Json -> Desk × Except CliFailure Unit
  | (w, .error e) => (w, .error e)
  | (w, .ok payload) =>
      ({ w with
          outputs := w.outputs ++ [(.fromArg v.line.output,
            successEnvelope v.line.dryRun payload)] }, .ok ())

theorem run_dispatch (v : Invocation around) (w : Desk)
    (hdial : socketToDial v.line.socket around.env around.dirs =
      .ok host.socket) :
    (dispatch text v.freshId v.now around v.line).run
        (serveDesk text detail host v) w =
      documented v (executed text detail v w (v.call text)) := by
  rcases run_connect text detail v w hdial with ⟨info, hconnect⟩
  unfold dispatch
  show Program.run _ w (_ >>= _) = _
  rw [Program.run_bind, hconnect]
  show Program.run _ w (_ >>= _) = _
  rw [Program.run_bind, run_execute]
  rcases executed text detail v w (v.call text) with ⟨w', result⟩
  cases result with
  | error e => rfl
  | ok payload => rfl

theorem run_initLogging (v : Invocation around) (w : Desk) (logFile : Option String)
    (next : CliProgram (Except CliFailure Unit)) :
    (initLogging logFile next).run (serveDesk text detail host v) w =
      next.run (serveDesk text detail host v) w := by
  cases logFile with
  | none => rfl
  | some path =>
      unfold initLogging
      rw [Program.run_call]
      simp only [serveDesk]
      cases v.logFile with
      | error e => rfl
      | ok _ => rfl

theorem invoke_noLogFile (v : Invocation around) (d : Db) {e : CliFailure}
    (hlog : resolveLogFile around v.line.logFile v.line.noLogFile = .error e) :
    invoke text detail host d v = (d, .failure e) := by
  unfold invoke main run
  rw [hlog]
  rfl

def concluded : Desk × Except CliFailure Unit -> Desk × Nat
  | (w, .ok _) => (w, 0)
  | (w, .error e) => ({ w with errors := w.errors ++ [errorEnvelope e] }, 1)

theorem run_main (v : Invocation around) (w : Desk) {logFile : Option String}
    (hlog : resolveLogFile around v.line.logFile v.line.noLogFile =
      .ok logFile)
    (hdial : socketToDial v.line.socket around.env around.dirs =
      .ok host.socket) :
    (main text v.freshId v.now around v.line).run
        (serveDesk text detail host v) w =
      concluded (documented v (executed text detail v w (v.call text))) := by
  unfold main run
  rw [hlog]
  show Program.run _ w (_ >>= _) = _
  rw [Program.run_bind, run_initLogging, run_dispatch v w hdial]
  rcases documented v (executed text detail v w (v.call text)) with
    ⟨w', result⟩
  cases result with
  | error e => rfl
  | ok _ => rfl

theorem invoke_refused (v : Invocation around) (d : Db) {logFile : Option String}
    {e : CliFailure}
    (hlog : resolveLogFile around v.line.logFile v.line.noLogFile =
      .ok logFile)
    (hdial : socketToDial v.line.socket around.env around.dirs =
      .ok host.socket) (hcall : v.call text = .error e) :
    invoke text detail host d v = (d, .failure e) := by
  unfold invoke
  rw [run_main v (.clear d) hlog hdial, hcall]
  rfl

theorem invoke_replied (v : Invocation around) (d : Db) {logFile : Option String}
    {call : IssuerCall}
    (hlog : resolveLogFile around v.line.logFile v.line.noLogFile =
      .ok logFile)
    (hdial : socketToDial v.line.socket around.env around.dirs =
      .ok host.socket) (hcall : v.call text = .ok call) :
    invoke text detail host d v =
      ((callEngine text detail v.freshId v.now d (v.moment, call)).1,
        .ofReply text v.line
          (callEngine text detail v.freshId v.now d (v.moment, call)).2) := by
  unfold invoke
  rw [run_main v (.clear d) hlog hdial, hcall]
  unfold executed callDesk
  simp only [Desk.clear]
  cases (callEngine text detail v.freshId v.now d (v.moment, call)).2 with
  | error e => rfl
  | ok reply => rfl

theorem invoke_refines {d : Db} {c : Catalogue} (h : Shows d c)
    (v : Invocation around)
    (hdial : socketToDial v.line.socket around.env around.dirs =
      .ok host.socket) :
    exists c', Shown text c v (invoke text detail host d v).2 c' ∧
      Shows (invoke text detail host d v).1 c' := by
  cases hlog : resolveLogFile around v.line.logFile v.line.noLogFile with
  | error e =>
      rw [invoke_noLogFile v d hlog]
      exact ⟨c, .noLogFile e hlog, h⟩
  | ok logFile =>
      cases hcall : v.call text with
      | error e =>
          rw [invoke_refused v d hlog hdial hcall]
          exact ⟨c, .refused ⟨logFile, hlog⟩ e hcall, h⟩
      | ok call =>
          rw [invoke_replied v d hlog hdial hcall]
          rcases call_refines text detail v.freshId v.now h v.moment call with
            ⟨c', hreply, hshows⟩
          exact ⟨c', .replied ⟨logFile, hlog⟩ call _ c' hcall hreply, hshows⟩

end Steps

/--
An engine and its users share the environment, and no flag names another socket.
Then the runs of the command line, whatever they are asked for, show call by call
what a catalogue tells, and the tables hold it in the end.
-/
theorem commandLines_refine (text : UuidText) (detail : String)
    (around : Surroundings) (host : Host) {config : EngineConfig}
    (hconfig : EngineConfig.resolve around.env around.dirs = .ok config)
    (hhost : host.socket = config.socketPath) {d : Db} {c : Catalogue}
    (h : Shows d c) (runs : List (Invocation around)) :
    exists c', Answered (Shown text) c runs
        (answersFrom (invoke text detail host) d runs).2 c' ∧
      Shows (answersFrom (invoke text detail host) d runs).1 c' := by
  apply answered_of_refines (R := Shows) _ runs h
  intro d c v hshows
  have hdial := dial_reaches hconfig v.usesSocket
  rw [← hhost] at hdial
  exact invoke_refines hshows v hdial

def plainSurroundings : Surroundings where
  env name :=
    if name = socketEnv then some "/run/valqeron.sock"
    else if name = logFileEnv then some "off"
    else if name = engineLogFileEnv then some "off"
    else if name = dbPathEnv then some "/var/valqeron.db"
    else none
  dirs := none
  logDirs := none
  stdoutTerminal := true
  stderrTerminal := true
  version := "0.1.0"

def plainConfig : EngineConfig where
  dbPath := "/var/valqeron.db"
  socketPath := "/run/valqeron.sock"
  logFile := none
  durable := false

theorem resolve_plainSurroundings :
    EngineConfig.resolve plainSurroundings.env plainSurroundings.dirs =
      .ok plainConfig := by
  decide +kernel

def plainHost : Host where
  socket := "/run/valqeron.sock"
  engineVersion := "0.1.0"
  pid := 4711
  tasks _ _ := .ok []

def plainLine (command : IssuerCommand) : CommandLine where
  command := .issuer command
  output := none
  input := none
  dryRun := false
  pretty := false
  socket := some "/run/valqeron.sock"
  logFile := none
  noLogFile := false

theorem plainSurroundings_socket :
    plainSurroundings.env socketEnv = some "/run/valqeron.sock" := by
  decide +kernel

def plainRun (command : IssuerCommand) : Invocation plainSurroundings where
  line := plainLine command
  command := command
  isIssuer := rfl
  usesSocket := by
    constructor
    · exact plainSurroundings_socket.symm
    · show some "/run/valqeron.sock" ≠ some ""
      decide
  freshId := { uuid := 9 }
  now := newYearsClock
  moment := newYearsMoment
  files _ := .error .unreadable
  logFile := .ok ()

def twoRuns : List (Invocation plainSurroundings) :=
  [plainRun (.register RegisterArgs.none.parsed), plainRun (.info "none")]

theorem commandLines_refine_twoRuns :
    (answersFrom (invoke .hyphenated "" plainHost) .empty twoRuns).2.map
        Ending.code = [0, 1] ∧
      exists c', Answered (Shown .hyphenated) .empty twoRuns
          (answersFrom (invoke .hyphenated "" plainHost) .empty twoRuns).2 c' ∧
        Shows (answersFrom (invoke .hyphenated "" plainHost) .empty twoRuns).1
          c' :=
  ⟨by decide +kernel,
    commandLines_refine .hyphenated "" plainSurroundings plainHost
      resolve_plainSurroundings rfl shows_empty twoRuns⟩

end Cli
end Valqeron
