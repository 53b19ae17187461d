import Valqeron.Cli.BackgroundTaskView
import Valqeron.Cli.RegisterIssuer
import Valqeron.EngineClient.Connection
import Valqeron.Foundation.Dialogue

/-!
# The command line

One run of the command-line program: it resolves where it logs, connects to the
engine, executes its command and writes one JSON document, or else prints one
error and exits with one.  What the files, the terminal and the engine do is a
response to one of its commands.
-/

namespace Valqeron
namespace Cli

open Foundation
open Domain
open Sqlite
open Engine
open EngineClient

/-!
## Arguments
-/

/-- Bounds that the argument parser checks for `--limit`. -/
structure ListArgs where
  limit : Nat
  after : Option String
  limit_pos : 0 < limit
  limit_le : limit <= 1000

inductive IssuerCommand where
  | register (args : RegisterArgs)
  | list (args : ListArgs)
  | info (id : String)

/-- `enum EngineCommand` -/
inductive AdminCommand where
  | ping
  | status
  | listBackgroundTasks (args : ListArgs)

inductive Commands where
  | issuer (command : IssuerCommand)
  | engine (command : AdminCommand)

/-- `struct Cli`, as the argument parser fills it in. -/
structure CommandLine where
  command : Commands
  output : Option String
  input : Option String
  dryRun : Bool
  pretty : Bool
  socket : Option String
  /-- `log_file_arg`: a flag without a path is `some none`. -/
  logFile : Option (Option String)
  noLogFile : Bool

/-- The flag, or else the variable that the argument parser reads for it. -/
def socketArg (flag : Option String) (env : Env) : Option String :=
  flag <|> env socketEnv

/-- What `directories` knows about the log files of the command line. -/
structure LogDirs where
  stateDir : Option String
  dataDir : String

structure Surroundings where
  env : Env
  dirs : Option ProjectDirs
  logDirs : Option LogDirs
  stdoutTerminal : Bool
  stderrTerminal : Bool
  /-- `CARGO_PKG_VERSION` -/
  version : String

inductive InputSource where
  | file (path : String)
  | stdin
deriving DecidableEq, Repr

def InputSource.fromArg (arg : String) : InputSource :=
  if arg = "-" then stdin else file arg

inductive OutputDest where
  | stdout
  | file (path : String)
deriving DecidableEq, Repr

def OutputDest.fromArg : Option String -> OutputDest
  | some path => file path
  | none => stdout

/-!
## Errors
-/

inductive InputFault where
  | unreadable
  | notJson
deriving DecidableEq, Repr

def InputFault.message (source : InputSource) : InputFault -> String
  | unreadable =>
      match source with
      | .file path => s!"failed to read input file {path}"
      | .stdin => "failed to read JSON input from stdin"
  | notJson => "failed to parse JSON input"

inductive CliFailure where
  | noHome
  | client (e : ClientFailure)
  | issuerId (raw : String)
  | issuerCursor (raw : String)
  | taskCursor (raw : String)
  | input (source : InputSource) (e : InputFault)
  | register (e : RegisterError)
  | output (dest : OutputDest)
deriving DecidableEq, Repr

def RegisterError.message : RegisterError -> String
  | input _ => "invalid issuer input"
  | name e => e.message
  | status e => e.message
  | cnpj e => e.message
  | lei e => e.message
  | countryCode e => e.message
  | builder e => e.message

/-- The outermost context of the error. -/
def CliFailure.message : CliFailure -> String
  | noHome =>
      "could not determine a home directory for application files"
  | client e => e.message
  | issuerId raw => s!"invalid issuer id: {raw}"
  | issuerCursor raw => s!"invalid issuer pagination cursor: {raw}"
  | taskCursor raw => s!"invalid background tasks pagination cursor: {raw}"
  | input source e => e.message source
  | register e => e.message
  | output .stdout => "failed to write JSON output to stdout"
  | output (.file path) => s!"failed to write JSON output to {path}"

/-!
## What a run asks for
-/

inductive CliCommand where
  | openLogFile (path : String)
  | warn (text : String)
  | buildRuntime
  | dial (socket : String)
  | health
  | status
  | listBackgroundTasks (after : Option Uuid) (limit : Nat)
  | register (issuer : Issuer) (dryRun : Bool)
  | get (id : IssuerId)
  | list (after : Option IssuerId) (limit : Nat)
  | readInput (source : InputSource)
  | writeOutput (dest : OutputDest) (body : Json) (pretty : Bool)
  | printError (body : Json) (pretty : Bool)

/-- A service of the client answers with what it has made of the reply. -/
def CliResponse : CliCommand -> Type
  | .openLogFile _ => Except String Unit
  | .warn _ => Unit
  | .buildRuntime => Except String Unit
  | .dial _ => Except TransportError Unit
  | .health => Except ClientFailure EngineInfo
  | .status => Except ClientFailure EngineStatus
  | .listBackgroundTasks _ _ =>
      Except ClientFailure (List BackgroundTaskDetail)
  | .register _ _ => Except ClientFailure (Versioned HydratedIssuer)
  | .get _ => Except ClientFailure (Option (Versioned HydratedIssuer))
  | .list _ _ => Except ClientFailure (List (Versioned HydratedIssuer))
  | .readInput _ => Except InputFault Json
  | .writeOutput _ _ _ => Except String Unit
  | .printError _ _ => Unit

abbrev CliProgram := Program CliCommand CliResponse

/-!
## What is shown

The entries of an object stand in the order of their keys.
-/

structure IssuerView where
  id : String
  status : String
  createdAt : String
  version : Nat
  name : Option String
  cnpj : Option String
  lei : Option String
  countryCode : Option String
deriving DecidableEq, Repr

def numberJson (n : Nat) : Json := .number (toString n)

def optionalEntry (key : String) (text : Option String) :
    List (String × Json) :=
  (text.map (fun text => (key, Json.string text))).toList

namespace IssuerView

def new (text : UuidText) (issuer : Issuer) (version : Nat) : IssuerView where
  id := text.value issuer.id.uuid
  status := issuer.status.asStr
  createdAt := toRfc3339 issuer.createdAt
  version := version
  name := issuer.name.map IssuerName.asStr
  cnpj := issuer.cnpj.map Identifiers.Cnpj.asStr
  lei := issuer.lei.map Identifiers.Lei.asStr
  countryCode := issuer.countryCode.map Identifiers.CountryCode.asStr

/-- `From<&Versioned<Issuer>>` -/
def ofVersioned (text : UuidText) (v : Versioned HydratedIssuer) : IssuerView :=
  new text v.data.issuer v.version

def toJson (view : IssuerView) : Json :=
  .object (optionalEntry "cnpj" view.cnpj
    ++ optionalEntry "country_code" view.countryCode
    ++ [("created_at", .string view.createdAt), ("id", .string view.id)]
    ++ optionalEntry "lei" view.lei
    ++ optionalEntry "name" view.name
    ++ [("status", .string view.status), ("version", numberJson view.version)])

end IssuerView

def BackgroundTaskDefinitionView.toJson
    (view : BackgroundTaskDefinitionView) : Json :=
  .object [("created_at", .string view.createdAt), ("id", .string view.id),
    ("last_updated_at", .string view.lastUpdatedAt),
    ("name", .string view.name), ("version", numberJson view.version)]

section Payloads

variable (text : UuidText)

def issuerItems (found : List (Versioned HydratedIssuer)) : Json :=
  .array (found.map (fun v => (IssuerView.ofVersioned text v).toJson))

def infoPayload (found : Option (Versioned HydratedIssuer)) : Json :=
  .object [("count", numberJson found.toList.length),
    ("items", issuerItems text found.toList)]

/-- The cursor for the next page: the last id in this page, if any. -/
def nextAfter (found : List (Versioned HydratedIssuer)) : Option String :=
  found.getLast?.map (fun v => text.value v.data.issuer.id.uuid)

def listPayload (found : List (Versioned HydratedIssuer)) : Json :=
  .object [("count", numberJson found.length),
    ("items", issuerItems text found),
    ("next_after", ((nextAfter text found).map Json.string).getD .null)]

def registerPayload (registered : Versioned HydratedIssuer) : Json :=
  (IssuerView.ofVersioned text registered).toJson

def pingPayload (socket : String) (info : EngineInfo) : Json :=
  .object [("engine_version", .string info.engineVersion),
    ("protocol_version", numberJson info.protocolVersion),
    ("socket", .string socket)]

def statusPayload (socket : String) (status : EngineStatus) : Json :=
  .object [("engine_version", .string status.engineVersion),
    ("pid", numberJson status.pid),
    ("protocol_version", numberJson status.protocolVersion),
    ("socket", .string socket)]

def tasksPayload (found : List BackgroundTaskDetail) : Json :=
  .object [("background_tasks", .array (found.map (fun detail =>
    (BackgroundTaskDefinitionView.ofDetail text detail).toJson)))]

end Payloads

/-- The envelope of `AppContext::write_success`. -/
def successEnvelope (dryRun : Bool) (data : Json) : Json :=
  .object [("data", data), ("dry_run", .bool dryRun), ("success", .bool true)]

/-- The envelope of `print_error`. -/
def errorEnvelope (e : CliFailure) : Json :=
  .object [("error", .object [("message", .string e.message)]),
    ("success", .bool false)]

/-!
## Logging
-/

def logFileEnv : String := "VALQERON_LOG_FILE"

def logFileName : String := "valqeron-cli.log"

def defaultLogFile : Option LogDirs -> Except CliFailure String
  | none => .error .noHome
  | some dirs =>
      .ok (joinPath (dirs.stateDir.getD (joinPath dirs.dataDir "logs"))
        logFileName)

/-- `ValqeronConfig::resolve`; an empty variable is a path. -/
def resolveLogFile (around : Surroundings) (flag : Option (Option String))
    (noLogFile : Bool) : Except CliFailure (Option String) :=
  if noLogFile then
    .ok none
  else
    match flag with
    | some (some path) => .ok (some path)
    | some none => (defaultLogFile around.logDirs).map some
    | none =>
        match around.env logFileEnv with
        | some value => if osStrIsOff value then .ok none else .ok (some value)
        | none => (defaultLogFile around.logDirs).map some

/-- A log file that cannot be opened is only warned about. -/
def initLogging {value : Type} (logFile : Option String)
    (next : CliProgram value) : CliProgram value :=
  match logFile with
  | none => next
  | some path =>
      .call (.openLogFile path) (fun
        | .error e => .call (.warn s!"warning: file logging disabled: {e}")
            (fun _ => next)
        | .ok _ => next)

/-!
## Connecting
-/

/-- The open connection, by its socket. -/
structure Client where
  socket : String
  engineInfo : EngineInfo
deriving DecidableEq, Repr

/-- `Inner::handshake` -/
def handshake (version socket : String) :
    CliProgram (Except ClientFailure Client) :=
  .call .health (fun
    | .error e => .done (.error e)
    | .ok health => .done ((checkProtocol version health).map
        (fun info => { socket := socket, engineInfo := info })))

def connect (around : Surroundings) (given : Option String) :
    CliProgram (Except ClientFailure Client) :=
  .call .buildRuntime (fun
    | .error e => .done (.error (.runtime e))
    | .ok _ =>
        match socketToDial given around.env around.dirs with
        | .error e => .done (.error e)
        | .ok socket => .call (.dial socket) (fun
          | .error e => .done (.error (classifyConnectError socket e))
          | .ok _ => handshake around.version socket))

/-!
## Executing
-/

abbrev Executed := CliProgram (Except CliFailure Json)

def refused (e : CliFailure) : Executed := .done (.error e)

def answered {reply : Type} (payload : reply -> Json) :
    Except ClientFailure reply -> Executed
  | .error e => refused (.client e)
  | .ok reply => .done (.ok (payload reply))

def parseCursor (text : UuidText) : Option String -> Option (Option Uuid)
  | none => some none
  | some raw => (text.parseStr raw).map some

section Execute

variable (text : UuidText) (freshId : IssuerId) (now : DateTime)

/-- `RegisterArgs::execute` with the input that was read. -/
def submit (dryRun : Bool) (args : RegisterArgs) (input : Option Json) :
    Executed :=
  match args.execute freshId now input with
  | .error e => refused (.register e)
  | .ok issuer =>
      .call (.register issuer dryRun) (answered (registerPayload text))

def executeRegister (cli : CommandLine) (args : RegisterArgs) : Executed :=
  match cli.input with
  | none => submit text freshId now cli.dryRun args none
  | some arg =>
      .call (.readInput (.fromArg arg)) (fun
        | .error e => refused (.input (.fromArg arg) e)
        | .ok value => submit text freshId now cli.dryRun args (some value))

def executeInfo (raw : String) : Executed :=
  match text.parseStr raw with
  | none => refused (.issuerId raw)
  | some uuid => .call (.get { uuid := uuid }) (answered (infoPayload text))

def executeList (args : ListArgs) : Executed :=
  match parseCursor text args.after with
  | none => refused (.issuerCursor (args.after.getD ""))
  | some after =>
      .call (.list (after.map IssuerId.mk) args.limit)
        (answered (listPayload text))

def executeListBackgroundTasks (args : ListArgs) : Executed :=
  match parseCursor text args.after with
  | none => refused (.taskCursor (args.after.getD ""))
  | some after =>
      .call (.listBackgroundTasks after args.limit)
        (answered (tasksPayload text))

/-- `Commands::execute` -/
def execute (cli : CommandLine) (client : Client) : Executed :=
  match cli.command with
  | .issuer (.register args) => executeRegister text freshId now cli args
  | .issuer (.list args) => executeList text args
  | .issuer (.info raw) => executeInfo text raw
  | .engine .ping => .call .health (answered (pingPayload client.socket))
  | .engine .status => .call .status (answered (statusPayload client.socket))
  | .engine (.listBackgroundTasks args) => executeListBackgroundTasks text args

variable (around : Surroundings)

def writeSuccess (cli : CommandLine) (payload : Json) :
    CliProgram (Except CliFailure Unit) :=
  let dest := OutputDest.fromArg cli.output
  .call (.writeOutput dest (successEnvelope cli.dryRun payload)
      (cli.pretty || around.stdoutTerminal)) (fun
    | .error _ => .done (.error (.output dest))
    | .ok _ => .done (.ok ()))

def dispatchOn (cli : CommandLine) (client : Client) :
    CliProgram (Except CliFailure Unit) :=
  (execute text freshId now cli client).bind (fun
    | .error e => .done (.error e)
    | .ok payload => writeSuccess around cli payload)

def dispatch (cli : CommandLine) : CliProgram (Except CliFailure Unit) :=
  (connect around cli.socket).bind (fun
    | .error e => .done (.error (.client e))
    | .ok client => dispatchOn text freshId now around cli client)

def run (cli : CommandLine) : CliProgram (Except CliFailure Unit) :=
  match resolveLogFile around cli.logFile cli.noLogFile with
  | .error e => .done (.error e)
  | .ok logFile => initLogging logFile (dispatch text freshId now around cli)

/-- `main`; the value is the exit code. -/
def main (cli : CommandLine) : CliProgram Nat :=
  (run text freshId now around cli).bind (fun
    | .ok _ => .done 0
    | .error e => .call (.printError (errorEnvelope e) around.stderrTerminal)
        (fun _ => .done 1))

end Execute

end Cli
end Valqeron
