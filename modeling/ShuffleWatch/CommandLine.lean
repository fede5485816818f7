import ShuffleWatch.Json.Session
import ShuffleWatch.Json.Writer
import ShuffleWatch.Replay
import ShuffleWatch.Settings

/-!
# The command line

What a user asks for on the command line, and what the program answers: the
settings are read from a file, and then a recorded game is replayed, or the
chain is followed.
-/

namespace ShuffleWatch

/-- A run of the program: the file of its settings, and the file of the events
    to replay, if there is one. -/
structure CommandLine where
  settings : String
  events : Option String
  deriving DecidableEq

namespace CommandLine

/-! ## Arguments -/

/-- An option with a value. -/
inductive Setting
  | config
  | replay
  deriving DecidableEq

/-- The name of the option. -/
def Setting.name : Setting → String
  | config => "--config"
  | replay => "--replay"

/-- What is wrong with the arguments. -/
inductive Misuse
  | unexpected (argument : String)
  | missingValue (setting : Setting)
  | repeated (setting : Setting)
  | missing (setting : Setting)
  deriving DecidableEq

/-- The misuse in words. -/
def Misuse.message : Misuse → String
  | unexpected argument => "unexpected argument '" ++ argument ++ "' found"
  | missingValue setting => "a value is required for '" ++ setting.name ++ "' but none was supplied"
  | repeated setting => "the argument '" ++ setting.name ++ "' cannot be used multiple times"
  | missing setting => "the required argument '" ++ setting.name ++ "' was not provided"

/-- What the arguments mean, one after the other. -/
inductive Argument
  | help
  | version
  | given (setting : Setting) (value : String)
  | misuse (why : Misuse)
  deriving DecidableEq

/-- The text after this beginning, if the text begins with it. -/
def after? (beginning text : String) : Option String :=
  if beginning.toList.isPrefixOf text.toList then
    some (String.ofList (text.toList.drop beginning.length))
  else none

/-- The option that is named, and the value that is attached to it. -/
def setting? (text : String) : Option (Setting × Option String) :=
  [Setting.config, Setting.replay].findSome? fun s =>
    if text = s.name then some (s, none) else (after? (s.name ++ "=") text).map (s, some ·)

/-- The text is the value of an option, and not an option itself. -/
def isValue (text : String) : Bool := text == "-" || text.toList.head? != some '-'

/-- The option with this value, which must not be empty. -/
def Argument.ofValue (s : Setting) (value : String) : Argument :=
  if value = "" then .misuse (.missingValue s) else .given s value

/-- An argument without a value. Of several letters after one dash the first
    one counts. -/
def Argument.ofText (text : String) : Argument :=
  if text = "--help" ∨ (after? "-h" text).isSome then .help
  else if text = "--version" ∨ (after? "-V" text).isSome then .version
  else .misuse (.unexpected text)

/-- What the arguments mean, up to the first one that is misused. Nothing may
    follow two dashes. -/
def arguments : List String → List Argument
  | [] => []
  | text :: rest =>
    match setting? text, rest with
    | some (s, some value), rest => .ofValue s value :: arguments rest
    | some (s, none), value :: rest =>
      if isValue value then .ofValue s value :: arguments rest else [.misuse (.missingValue s)]
    | some (s, none), [] => [.misuse (.missingValue s)]
    | none, rest =>
      if text = "--" then rest.map fun other => .misuse (.unexpected other)
      else .ofText text :: arguments rest

/-- What the user asks for. -/
inductive Demand
  | help
  | version
  | run (c : CommandLine)
  | misuse (why : Misuse)
  deriving DecidableEq

/-- What is asked for by the arguments, after some options have been given.
    Help, the version and misuse count as soon as they are met. -/
def demandAfter (config replay : Option String) : List Argument → Demand
  | [] =>
    match config with
    | some settings => .run ⟨settings, replay⟩
    | none => .misuse (.missing .config)
  | .help :: _ => .help
  | .version :: _ => .version
  | .misuse why :: _ => .misuse why
  | .given .config value :: rest =>
    if config.isSome then .misuse (.repeated .config) else demandAfter (some value) replay rest
  | .given .replay value :: rest =>
    if replay.isSome then .misuse (.repeated .replay) else demandAfter config (some value) rest

/-- What is asked for by the arguments. -/
def demand (texts : List String) : Demand := demandAfter none none (arguments texts)

/-! ## Runs -/

/-- What ends a run early. -/
inductive Failure
  | settings (defect : Settings.Defect)
  | condition (condition : Condition)
  /-- There is no such file of events. -/
  | noEvents (file : String)
  | unreadableLine (line : UnreadableLine)
  | url (defect : Url.Defect)
  deriving DecidableEq

/-- The failure in words. -/
def Failure.message : Failure → String
  | settings defect => defect.message
  | condition c => c.message
  | noEvents file => "could not open event file " ++ file
  | unreadableLine line => line.message
  | url defect => "URL parse error: " ++ defect.message

/-- What a run comes to. -/
inductive Outcome
  /-- A game has been replayed. -/
  | replayed (r : Replay)
  /-- The session is to follow the contract. -/
  | follow (session : Session) (endpoint : Contract.Endpoint)
  deriving DecidableEq

/-- The session that the settings describe. -/
def session (s : Settings) : Except Failure Session := do
  let setup ← s.setup.mapError .settings
  setup.session.mapError .condition

/-- The contract that the settings describe, on a node whose URL is one. -/
def endpoint (s : Settings) : Except Failure Contract.Endpoint := do
  let endpoint ← s.endpoint.mapError .settings
  let _ ← (Url.parse endpoint.url).mapError .url
  return endpoint

/-- Runs the program on the contents of files. -/
def run (c : CommandLine) (contents : String → Option (List UInt8)) : Except Failure Outcome := do
  let settings ← (Settings.ofFile c.settings (contents c.settings)).mapError .settings
  -- Logging is set up before anything else.
  if !Settings.isLogLevel settings.logLevel then throw (.settings .badLogLevel)
  let session ← session settings
  match c.events with
  | some file =>
    match contents file with
    | none => throw (.noEvents file)
    | some bytes =>
      let initial := settings.initialStatus.getD .waitingForStart
      return .replayed (← (ShuffleWatch.replay session initial bytes).mapError .unreadableLine)
  | none => return .follow session (← endpoint settings)

/-! ## Reports -/

/-- What the program shows, and how it ends. -/
structure Report where
  code : Nat
  /-- The lines on standard output. -/
  output : List String
  /-- The line on standard error, if there is one. -/
  error : Option String
  deriving DecidableEq

/-- How the program is used. -/
def usage : String := "Usage: shuffle-observer [OPTIONS] --config <CONFIG>"

/-- The lines that help a user. -/
def helpLines : List String := [
  "Follow a shuffle game and report when the local player must shuffle",
  "",
  usage,
  "",
  "Options:",
  "      --config <CONFIG>  YAML config file",
  "      --replay <REPLAY>  Replay a JSON-lines event file instead of following the chain",
  "  -h, --help             Print help",
  "  -V, --version          Print version"]

/-- The version of the program. -/
def versionLine : String := "shuffle-observer 0.0.1"

/-- What is shown of a run. Following a chain is not part of the report. -/
def Report.ofRun : Except Failure Outcome → Report
  | .ok (.replayed r) => ⟨0, r.snapshots.map (·.toJson.render), none⟩
  | .ok (.follow _ _) => ⟨0, [], none⟩
  | .error failure => ⟨1, [], some ("Error: " ++ failure.message)⟩

/-- What the program shows for the arguments, given the contents of files. -/
def report (texts : List String) (contents : String → Option (List UInt8)) : Report :=
  match demand texts with
  | .help => ⟨0, helpLines, none⟩
  | .version => ⟨0, [versionLine], none⟩
  | .misuse why => ⟨2, [], some ("error: " ++ why.message)⟩
  | .run c => .ofRun (c.run contents)

/-- The files that the program reads for the arguments. -/
def files (texts : List String) : List String :=
  match demand texts with
  | .run c => c.settings :: c.events.toList
  | _ => []

end CommandLine

end ShuffleWatch
