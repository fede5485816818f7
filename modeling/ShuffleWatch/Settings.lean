import ShuffleWatch.Contract.Poll
import ShuffleWatch.Snapshot
import ShuffleWatch.Text.Lines
import ShuffleWatch.Url
import ShuffleWatch.Yaml.Reader

/-!
# Settings

What a user sets for a watch: the game, the players, the node that knows the
contract, and what is logged. Settings are read from a flat YAML document
(`Settings.parse?`), in which every setting may be left out; settings of other
names are ignored, and none of its own may be given twice.
-/

namespace ShuffleWatch

/-- What a user sets. Addresses are kept as they are written, and are read when
    they are needed. -/
structure Settings where
  rpcUrl : String := "http://127.0.0.1:8545"
  contract : Option String := none
  game : Option GameId := none
  creator : Option String := none
  joiner : Option String := none
  self : Option String := none
  startBlock : UInt64 := 0
  pollMillis : UInt64 := 2000
  logRange : UInt64 := 2000
  logLevel : String := "info"
  jsonLogs : Bool := false
  /-- The status a replay starts from, also after each rematch. -/
  initialStatus : Option Status := none
  deriving DecidableEq

namespace Settings

open Text
open Yaml (Value Entries)

/-! ## Values -/

/-- A plain text that stands for nothing. -/
def isNothing (text : String) : Bool := ["", "~", "null", "Null", "NULL"].contains text

/-- The text of a value. A plain text is taken as it is, also where it would
    otherwise stand for something else. -/
def text? : Value → Option String
  | .plain s => some s
  | .quoted s => some s
  | .collection => none

/-- The digits write a number in a base that their mark tells: `0x`, `0o` or
    `0b`. In base ten there is no mark, and no zero at the front. -/
def number? : List Char → Option Nat
  | '0' :: 'x' :: cs => Hex.inBase? 16 =<< nonempty? cs
  | '0' :: 'o' :: cs => Hex.inBase? 8 =<< nonempty? cs
  | '0' :: 'b' :: cs => Hex.inBase? 2 =<< nonempty? cs
  | '0' :: _ :: _ => none
  | cs => Decimal.natural? cs
where
  /-- The text, if there is any. -/
  nonempty? : List Char → Option (List Char)
    | [] => none
    | cs => some cs

/-- A number of 64 bits, perhaps after a plus sign. -/
def word? : Value → Option UInt64
  | .plain s => ((number? (GameId.withoutPlus s.toList)).filter (· < UInt64.size)).map UInt64.ofNat
  | _ => none

/-- A truth value. -/
def bool? : Value → Option Bool
  | .plain s =>
    if ["true", "True", "TRUE"].contains s then some true
    else if ["false", "False", "FALSE"].contains s then some false
    else none
  | _ => none

/-- A value that may stand for nothing. -/
def optional? {α : Type} (f : Value → Option α) (v : Value) : Option (Option α) :=
  match v with
  | .plain s => if isNothing s then some none else (f v).map some
  | _ => (f v).map some

/-! ## Reading -/

/-- The setting of this name as the document gives it, or else its default;
    `none` if it is given twice, or is given a value that it cannot have. -/
def get? {α : Type} (entries : Entries) (name : String) (f : Value → Option α) (default : α) :
    Option α :=
  match (entries.filter (·.1 == name)).map (·.2) with
  | [] => some default
  | [v] => f v
  | _ => none

/-- The settings in the entries of a document. -/
def ofEntries? (entries : Entries) : Option Settings := do
  let defaults : Settings := {}
  return {
    rpcUrl := ← get? entries "rpc_url" text? defaults.rpcUrl
    contract := ← get? entries "contract" (optional? text?) none
    game := ← get? entries "game_id" (optional? fun v => (word? v).map GameId.mk) none
    creator := ← get? entries "creator" (optional? text?) none
    joiner := ← get? entries "joiner" (optional? text?) none
    self := ← get? entries "local" (optional? text?) none
    startBlock := ← get? entries "start_block" word? defaults.startBlock
    pollMillis := ← get? entries "poll_interval_ms" word? defaults.pollMillis
    logRange := ← get? entries "log_range" word? defaults.logRange
    logLevel := ← get? entries "log_level" text? defaults.logLevel
    jsonLogs := ← get? entries "json_logs" bool? defaults.jsonLogs
    initialStatus :=
      ← get? entries "initial_status" (optional? fun v => (text? v).bind Status.ofName?) none }

/-- The settings in a document. -/
def parse? (document : String) : Option Settings := (Yaml.read? document).bind ofEntries?

/-! ## What cannot be used -/

/-- Why settings cannot be used. -/
inductive Defect
  /-- There is no such file, or it is no text. -/
  | unreadable (file : String)
  /-- The file is no document that holds settings. -/
  | unparsable
  /-- The setting of this name is no address. -/
  | badAddress (name : String) (error : Error)
  /-- The contract is needed, and is not set. -/
  | noContract
  /-- There is no such level of logging. -/
  | badLogLevel
  deriving DecidableEq

namespace Defect

/-- The defect in words. -/
def message : Defect → String
  | unreadable file => "could not read config file " ++ file
  | unparsable => "could not parse config file"
  | badAddress name _ => "invalid " ++ name ++ " address"
  | noContract => "contract address is required"
  | badLogLevel => "invalid log level"

/-- The defect in words, and then what caused it. -/
def explanation : Defect → String
  | badAddress name error => message (badAddress name error) ++ ": " ++ error.message
  | defect => defect.message

end Defect

/-- The settings in the contents of a file, if it exists. -/
def ofFile (file : String) (contents : Option (List UInt8)) : Except Defect Settings :=
  match contents.bind decode? with
  | none => .error (.unreadable file)
  | some document =>
    match parse? document with
    | none => .error .unparsable
    | some settings => .ok settings

/-! ## What settings are for -/

/-- The address that is set under this name, if there is one. -/
def address (name : String) (text : Option String) : Except Defect (Option Address) :=
  match text with
  | none => .ok none
  | some s => ((Address.parse s).map some).mapError (.badAddress name)

/-- What a session is set up from. -/
def setup (s : Settings) : Except Defect Setup := do
  let creator ← address "creator" s.creator
  let joiner ← address "joiner" s.joiner
  let self ← address "local" s.self
  return ⟨s.game, creator, joiner, self⟩

/-- Where and how the contract is watched, which has to be set. -/
def endpoint (s : Settings) : Except Defect Contract.Endpoint := do
  match ← address "contract" s.contract with
  | none => throw .noContract
  | some contract =>
    return {
      url := s.rpcUrl
      contract := contract
      startBlock := s.startBlock
      logRange := s.logRange
      pollMillis := s.pollMillis }

/-- A level of logging is named, in any case, or is given by a number from one,
    for errors alone, to five, for everything. -/
def isLogLevel (text : String) : Bool :=
  match Decimal.natural? (GameId.withoutPlus text.toList) with
  | some n => 1 ≤ n && n ≤ 5
  | none => ["error", "warn", "info", "debug", "trace"].contains text.toLower

end Settings

end ShuffleWatch
