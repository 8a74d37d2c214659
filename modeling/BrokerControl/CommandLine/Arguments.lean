import BrokerControl.CommandLine.Options
import BrokerControl.Listing.Users
import BrokerControl.Text.Digit

/-!
# Arguments

The commands and their options. Options that every command takes may stand before or behind its
name; behind it they count more, and both count more than the environment.
-/

namespace BrokerControl.CommandLine

/-- How much is logged. -/
inductive LogLevel where
  | off
  | error
  | warn
  | info
  | debug
  | trace
  deriving DecidableEq, Repr

namespace LogLevel

/-- The level with a name. -/
def ofName? (name : String) : Option LogLevel :=
  match name with
  | "off" => some off
  | "error" => some error
  | "warn" => some warn
  | "info" => some info
  | "debug" => some debug
  | "trace" => some trace
  | _ => none

end LogLevel

/-- What every command takes. -/
structure Globals where
  endpoint : Option String
  region : Option String
  token : Option String
  logLevel : LogLevel
  deriving DecidableEq, Repr

/-- What is brought to a goal, and how. -/
structure ApplyOptions where
  file : Option String
  name : Option String
  state : Option String
  dryRun : Bool
  strictUpdate : Bool
  deriving DecidableEq, Repr

/-- A command. -/
inductive Command where
  | apply (o : ApplyOptions)
  | describe (id name : Option String)
  | users (id : String) (query : UserQuery)
  | configure
  deriving DecidableEq, Repr

/-- The number that a text writes, if it fits 32 bits; a sign may stand in front. -/
def count? (text : String) : Option Nat :=
  let fits (n : Nat) : Option Nat := if n ≤ 0xFFFFFFFF then some n else none
  match text.toList with
  | '+' :: cs => (Digit.number? 10 cs).bind fits
  | '-' :: cs => (Digit.number? 10 cs).filter (· = 0)
  | cs => (Digit.number? 10 cs).bind fits

/-- The options of every command. -/
def globalRules : List OptionRule := [
  .text "endpoint", .text "region", .text "token",
  ⟨"log-level", none, some fun v ↦ (LogLevel.ofName? v).isSome⟩]

/-- The options of the command that brings a broker to a goal. -/
def applyRules : List OptionRule := [
  ⟨"file", some 'f', some fun v ↦ !v.isEmpty⟩,
  (OptionRule.text "name").withLetter 'n', (OptionRule.text "state").withLetter 's',
  .flag "dry-run", .flag "strict-update"]

/-- The options of the command that shows a broker. -/
def describeRules : List OptionRule := [.text "id", .text "name"]

/-- The options of the command that lists users. -/
def usersRules : List OptionRule := [
  .text "broker-id", ⟨"max-results", none, some fun v ↦ (count? v).isSome⟩,
  .flag "skip-pending-create", .flag "skip-pending-delete", .flag "as-map"]

/-- The names of the commands, with the options that each takes. -/
def commandRules : List (String × List OptionRule) := [
  ("apply", applyRules), ("describe", describeRules), ("users", usersRules), ("configure", [])]

/-- The command called `name` with these options. -/
def command? (name : String) (given : Given) : Option Command :=
  match name with
  | "apply" =>
    some (.apply ⟨given.value? "file", given.value? "name", given.value? "state",
      given.has "dry-run", given.has "strict-update"⟩)
  | "describe" => some (.describe (given.value? "id") (given.value? "name"))
  | "users" => do
    let id ← given.value? "broker-id"
    let pageSize := ((given.value? "max-results").bind count?).getD UserQuery.defaultPageSize
    return .users id ⟨pageSize, given.has "skip-pending-create", given.has "skip-pending-delete",
      given.has "as-map"⟩
  | "configure" => some .configure
  | _ => none

/-- What the environment gives in place of options. -/
structure Defaults where
  endpoint : Option String
  region : Option String
  token : Option String
  deriving DecidableEq, Repr

/-- The options of every command, from the nearest place where each was given. -/
def globals (env : Defaults) (inner outer : Given) : Globals :=
  let value (name : String) := (inner.value? name).or (outer.value? name)
  { endpoint := (value "endpoint").or env.endpoint
    region := (value "region").or env.region
    token := (value "token").or env.token
    logLevel := ((value "log-level").bind LogLevel.ofName?).getD .off }

/-- Help on a command; on nothing else there is any. -/
def helpOn (names : List String) : Stop :=
  match names with
  | [] => .help
  | [name] => if name = "help" || commandRules.any fun c ↦ c.1 == name then .help else .usage
  | _ => .usage

/-- The command that the arguments ask for. -/
def arguments (env : Defaults) (args : List String) : Except Stop (Globals × Command) := do
  match ← options globalRules true args with
  | (_, []) => .error .usage
  | (outer, name :: args) =>
    if name = "help" then .error (helpOn args)
    match commandRules.find? fun c ↦ c.1 == name with
    | none => .error .usage
    | some (_, rules) =>
      let (inner, extra) ← options (globalRules ++ rules) false args
      if !extra.isEmpty then .error .usage
      match command? name inner with
      | some command => return (globals env inner outer, command)
      | none => .error .usage

end BrokerControl.CommandLine
