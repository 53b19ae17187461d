import Valqeron.Cli.Commands

/-!
# What a run of the command line may do when

The progress of a run is what its dialogue amounts to: the channel, the protocol
version that the engine told, the document that was read, the one request of the
command and what its reply amounts to.  The order says which commands fit which
progress, and every run keeps to it whatever it is answered.
-/

namespace Valqeron
namespace Cli

open Foundation
open Domain
open Sqlite
open Engine
open EngineClient

structure Progress where
  /-- The path of the open channel. -/
  channel : Option String
  /-- The engine has told the protocol version of the client. -/
  agreed : Bool
  /-- The document that was read. -/
  document : Option Json
  /-- The request of the command is out. -/
  asked : Bool
  /-- What the reply amounts to. -/
  payload : Option Json
  written : Bool
  complained : Bool

namespace Progress

def fresh : Progress where
  channel := none
  agreed := false
  document := none
  asked := false
  payload := none
  written := false
  complained := false

def dialled (socket : String) : Progress :=
  { fresh with channel := some socket }

def connected (socket : String) : Progress :=
  { dialled socket with agreed := true }

def Quiet (g : Progress) : Prop := g.written = false ∧ g.complained = false

def settle {reply : Type} (g : Progress) (payload : reply -> Json)
    (r : Except ClientFailure reply) : Progress :=
  { g with asked := true, payload := r.toOption.map payload }

end Progress

section Order

variable (text : UuidText) (freshId : IssuerId) (now : DateTime)
variable (around : Surroundings) (cli : CommandLine)

/-- The request that the command line stands for. -/
def Requests (document : Option Json) : CliCommand -> Prop
  | .health => cli.command = .engine .ping
  | .status => cli.command = .engine .status
  | .listBackgroundTasks after limit => exists args,
      cli.command = .engine (.listBackgroundTasks args) ∧
        parseCursor text args.after = some after ∧ limit = args.limit
  | .register issuer dryRun => dryRun = cli.dryRun ∧
      document.isSome = cli.input.isSome ∧
      exists args, cli.command = .issuer (.register args) ∧
        args.execute freshId now document = .ok issuer
  | .get id => exists raw, cli.command = .issuer (.info raw) ∧
      text.parseStr raw = some id.uuid
  | .list after limit => exists args, cli.command = .issuer (.list args) ∧
      parseCursor text args.after = some (after.map IssuerId.uuid) ∧
        limit = args.limit
  | _ => False

def Progress.Allows (g : Progress) : CliCommand -> Prop
  | .openLogFile path => g.channel = none ∧
      resolveLogFile around cli.logFile cli.noLogFile = .ok (some path)
  | .warn _ => g.channel = none
  | .buildRuntime => g.channel = none
  | .dial path => g.channel = none ∧
      socketToDial cli.socket around.env around.dirs = .ok path
  | .readInput source => g.agreed = true ∧ g.asked = false ∧
      g.document = none ∧ cli.input.map InputSource.fromArg = some source ∧
      exists args, cli.command = .issuer (.register args)
  | .writeOutput dest body _ => g.Quiet ∧ dest = .fromArg cli.output ∧
      exists payload, g.payload = some payload ∧
        body = successEnvelope cli.dryRun payload
  | .printError body _ => g.Quiet ∧ exists e, body = errorEnvelope e
  | .health => g.channel ≠ none ∧ (g.agreed = true ->
      g.asked = false ∧ Requests text freshId now cli g.document .health)
  | c => g.agreed = true ∧ g.asked = false ∧
      Requests text freshId now cli g.document c

def Progress.advance (g : Progress) :
    (c : CliCommand) -> CliResponse c -> Progress
  | .dial path, .ok _ => { g with channel := some path }
  | .health, r =>
      match g.agreed, r with
      | true, r => g.settle (pingPayload (g.channel.getD "")) r
      | false, .ok info =>
          { g with agreed := info.protocolVersion = protocolVersion }
      | false, .error _ => g
  | .status, r => g.settle (statusPayload (g.channel.getD "")) r
  | .listBackgroundTasks _ _, r => g.settle (tasksPayload text) r
  | .register _ _, r => g.settle (registerPayload text) r
  | .get _, r => g.settle (infoPayload text) r
  | .list _ _, r => g.settle (listPayload text) r
  | .readInput _, .ok value => { g with document := some value }
  | .writeOutput _ _ _, .ok _ => { g with written := true }
  | .printError _ _, _ => { g with complained := true }
  | _, _ => g

def commandOrder : Protocol CliCommand CliResponse Progress where
  allowed := Progress.Allows text freshId now around cli
  possible := fun _ _ => True
  advance := Progress.advance text

/-!
## How the pieces end
-/

def ConnectEnds (g : Progress) : Except ClientFailure Client -> Prop
  | .ok client => g = .connected client.socket
  | .error _ => g.Quiet

def ExecuteEnds (g : Progress) : Except CliFailure Json -> Prop
  | .ok payload => g.Quiet ∧ g.payload = some payload
  | .error _ => g.Quiet

def RunEnds (g : Progress) : Except CliFailure Unit -> Prop
  | .ok _ => g.written = true ∧ g.complained = false
  | .error _ => g.Quiet

/-- The exit code tells whether the document was written. -/
def MainEnds (g : Progress) (code : Nat) : Prop :=
  (code = 0 ∧ g.written = true ∧ g.complained = false) ∨
    (code = 1 ∧ g.written = false ∧ g.complained = true)

variable {text freshId now around cli}

theorem handshake_follows (socket : String) :
    (handshake around.version socket).Follows
      (commandOrder text freshId now around cli) ConnectEnds
      (.dialled socket) := by
  refine ⟨⟨Option.some_ne_none socket, fun h => by cases h⟩, ?_⟩
  intro r _
  rcases r with e | health
  · exact ⟨rfl, rfl⟩
  · show ConnectEnds _ ((checkProtocol around.version health).map _)
    cases hcheck : checkProtocol around.version health with
    | error e => exact ⟨rfl, rfl⟩
    | ok info =>
        have hversion := (checkProtocol_eq_ok.mp hcheck).right
        show Progress.advance text (.dialled socket) .health (.ok health) = _
        simp [Progress.advance, Progress.connected, Progress.dialled,
          Progress.fresh, hversion]

theorem connect_follows :
    (connect around cli.socket).Follows
      (commandOrder text freshId now around cli) ConnectEnds .fresh := by
  refine ⟨rfl, ?_⟩
  intro r _
  rcases r with e | _
  · exact ⟨rfl, rfl⟩
  show Program.Follows _ _ Progress.fresh _
  simp only
  split
  · exact ⟨rfl, rfl⟩
  · rename_i socket hsocket
    refine ⟨⟨rfl, hsocket⟩, ?_⟩
    intro r _
    rcases r with e | _
    · exact ⟨rfl, rfl⟩
    · exact handshake_follows socket

/-!
## The command
-/

theorem refused_follows {g : Progress} (h : g.Quiet) (e : CliFailure) :
    (refused e).Follows (commandOrder text freshId now around cli) ExecuteEnds
      g :=
  h

theorem answered_follows {reply : Type} {payload : reply -> Json}
    {g : Progress} (h : g.Quiet) (r : Except ClientFailure reply) :
    (answered payload r).Follows (commandOrder text freshId now around cli)
      ExecuteEnds (g.settle payload r) := by
  cases r with
  | error e => exact h
  | ok reply => exact ⟨h, rfl⟩

theorem submit_follows {socket : String} {args : RegisterArgs}
    {document : Option Json}
    (hcommand : cli.command = .issuer (.register args))
    (hdocument : document.isSome = cli.input.isSome) :
    (submit text freshId now cli.dryRun args document).Follows
      (commandOrder text freshId now around cli) ExecuteEnds
      { Progress.connected socket with document := document } := by
  unfold submit
  split
  · exact refused_follows ⟨rfl, rfl⟩ _
  · rename_i issuer hissuer
    refine ⟨⟨rfl, rfl, rfl, hdocument, args, hcommand, hissuer⟩, ?_⟩
    intro r _
    exact answered_follows ⟨rfl, rfl⟩ r

theorem executeRegister_follows {socket : String} {args : RegisterArgs}
    (hcommand : cli.command = .issuer (.register args)) :
    (executeRegister text freshId now cli args).Follows
      (commandOrder text freshId now around cli) ExecuteEnds
      (.connected socket) := by
  unfold executeRegister
  split
  · rename_i hinput
    exact submit_follows hcommand (by rw [hinput]; rfl)
  · rename_i arg hinput
    refine ⟨⟨rfl, rfl, rfl, by rw [hinput]; rfl, args, hcommand⟩, ?_⟩
    intro r _
    rcases r with e | value
    · exact refused_follows ⟨rfl, rfl⟩ _
    · exact submit_follows hcommand (by rw [hinput]; rfl)

theorem executeInfo_follows {socket raw : String}
    (hcommand : cli.command = .issuer (.info raw)) :
    (executeInfo text raw).Follows (commandOrder text freshId now around cli)
      ExecuteEnds (.connected socket) := by
  unfold executeInfo
  split
  · exact refused_follows ⟨rfl, rfl⟩ _
  · rename_i uuid huuid
    refine ⟨⟨rfl, rfl, raw, hcommand, huuid⟩, ?_⟩
    intro r _
    exact answered_follows ⟨rfl, rfl⟩ r

theorem map_uuid_mk (after : Option Uuid) :
    (after.map IssuerId.mk).map IssuerId.uuid = after := by
  cases after <;> rfl

theorem executeList_follows {socket : String} {args : ListArgs}
    (hcommand : cli.command = .issuer (.list args)) :
    (executeList text args).Follows (commandOrder text freshId now around cli)
      ExecuteEnds (.connected socket) := by
  unfold executeList
  split
  · exact refused_follows ⟨rfl, rfl⟩ _
  · rename_i after hafter
    refine ⟨⟨rfl, rfl, args, hcommand, ?_, rfl⟩, ?_⟩
    · rw [map_uuid_mk, hafter]
    · intro r _
      exact answered_follows ⟨rfl, rfl⟩ r

theorem executeListBackgroundTasks_follows {socket : String}
    {args : ListArgs}
    (hcommand : cli.command = .engine (.listBackgroundTasks args)) :
    (executeListBackgroundTasks text args).Follows
      (commandOrder text freshId now around cli) ExecuteEnds
      (.connected socket) := by
  unfold executeListBackgroundTasks
  split
  · exact refused_follows ⟨rfl, rfl⟩ _
  · rename_i after hafter
    refine ⟨⟨rfl, rfl, args, hcommand, hafter, rfl⟩, ?_⟩
    intro r _
    exact answered_follows ⟨rfl, rfl⟩ r

theorem execute_follows (client : Client) :
    (execute text freshId now cli client).Follows
      (commandOrder text freshId now around cli) ExecuteEnds
      (.connected client.socket) := by
  unfold execute
  split
  · rename_i args hcommand
    exact executeRegister_follows hcommand
  · rename_i args hcommand
    exact executeList_follows hcommand
  · rename_i raw hcommand
    exact executeInfo_follows hcommand
  · rename_i hcommand
    refine ⟨⟨Option.some_ne_none _, fun _ => ⟨rfl, hcommand⟩⟩, ?_⟩
    intro r _
    exact answered_follows ⟨rfl, rfl⟩ r
  · rename_i hcommand
    refine ⟨⟨rfl, rfl, hcommand⟩, ?_⟩
    intro r _
    exact answered_follows ⟨rfl, rfl⟩ r
  · rename_i args hcommand
    exact executeListBackgroundTasks_follows hcommand

/-!
## A whole run
-/

theorem writeSuccess_follows {g : Progress} {payload : Json} (hquiet : g.Quiet)
    (hpayload : g.payload = some payload) :
    (writeSuccess around cli payload).Follows
      (commandOrder text freshId now around cli) RunEnds g := by
  refine ⟨⟨hquiet, rfl, payload, hpayload, rfl⟩, ?_⟩
  intro r _
  rcases r with e | _
  · exact hquiet
  · exact ⟨rfl, hquiet.right⟩

theorem dispatch_follows :
    (dispatch text freshId now around cli).Follows
      (commandOrder text freshId now around cli) RunEnds .fresh := by
  refine Program.follows_bind connect_follows ?_
  intro g client hclient
  rcases client with e | client
  · exact hclient
  · rw [show g = .connected client.socket from hclient]
    refine Program.follows_bind (execute_follows client) ?_
    intro g payload hpayload
    rcases payload with e | payload
    · exact hpayload
    · exact writeSuccess_follows hpayload.left hpayload.right

theorem run_follows :
    (run text freshId now around cli).Follows
      (commandOrder text freshId now around cli) RunEnds .fresh := by
  unfold run
  split
  · exact ⟨rfl, rfl⟩
  · rename_i logFile hlogFile
    unfold initLogging
    split
    · exact dispatch_follows
    · refine ⟨⟨rfl, hlogFile⟩, ?_⟩
      intro r _
      rcases r with e | _
      · exact ⟨rfl, fun _ _ => dispatch_follows⟩
      · exact dispatch_follows

theorem main_follows :
    (main text freshId now around cli).Follows
      (commandOrder text freshId now around cli) MainEnds .fresh := by
  refine Program.follows_bind run_follows ?_
  intro g result hresult
  rcases result with e | _
  · exact ⟨⟨hresult, e, rfl⟩, fun _ _ => Or.inr ⟨rfl, hresult.left, rfl⟩⟩
  · exact Or.inl ⟨rfl, hresult⟩

end Order

/--
Every run keeps to the order, and its exit code is zero exactly when it has
written its document and printed no error.
-/
theorem main_orderly (text : UuidText) (freshId : IssuerId) (now : DateTime)
    (around : Surroundings) (cli : CommandLine)
    {log : List (Exchange CliCommand CliResponse)} {code : Nat}
    (h : (main text freshId now around cli).Converses log code) :
    (commandOrder text freshId now around cli).Kept .fresh log ∧
      MainEnds ((commandOrder text freshId now around cli).after .fresh log)
        code :=
  Program.follows_converses main_follows h (fun _ _ => trivial)

def statusLine : CommandLine where
  command := .engine .status
  output := none
  input := none
  dryRun := false
  pretty := true
  socket := some "/run/valqeron.sock"
  logFile := none
  noLogFile := true

def bareSurroundings : Surroundings where
  env _ := none
  dirs := none
  logDirs := none
  stdoutTerminal := false
  stderrTerminal := false
  version := "0.1.0"

def statusLog : List (Exchange CliCommand CliResponse) :=
  [⟨.buildRuntime, .ok ()⟩, ⟨.dial "/run/valqeron.sock", .ok ()⟩,
    ⟨.health, .ok { engineVersion := "0.1.0", protocolVersion := 1 }⟩,
    ⟨.status, .ok
      { engineVersion := "0.1.0", protocolVersion := 1, pid := 4711 }⟩,
    ⟨.writeOutput .stdout (successEnvelope false
      (statusPayload "/run/valqeron.sock"
        { engineVersion := "0.1.0", protocolVersion := 1, pid := 4711 }))
      true, .ok ()⟩]

theorem main_converses_status :
    (main .hyphenated { uuid := 0 } { seconds := 0, nanos := 0 }
      bareSurroundings statusLine).Converses statusLog 0 :=
  ⟨_, _, rfl, _, _, rfl, _, _, rfl, _, _, rfl, _, _, rfl, rfl, rfl⟩

theorem main_orderly_status :
    MainEnds ((commandOrder .hyphenated { uuid := 0 }
      { seconds := 0, nanos := 0 } bareSurroundings statusLine).after .fresh
        statusLog) 0 :=
  (main_orderly .hyphenated { uuid := 0 } { seconds := 0, nanos := 0 }
    bareSurroundings statusLine main_converses_status).right

end Cli
end Valqeron
