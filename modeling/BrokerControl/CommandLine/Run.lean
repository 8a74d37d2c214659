import BrokerControl.CommandLine.Arguments
import BrokerControl.Declaration
import BrokerControl.Failure.Report
import BrokerControl.Http.Client
import BrokerControl.Settings

/-!
# Runs

A run of the program: its arguments are read, its settings loaded, its command carried out, and the
result or the failure written. All that a run needs of the world is in a `System`, so a run is a
function of it. Arguments that ask for help or the version end it before anything is touched.
-/

namespace BrokerControl.CommandLine

/-- The world of a run. -/
structure System (m : Type → Type) where
  /-- The value of a variable of the environment. -/
  environment : String → m (Option String)
  /-- The bytes of a file. -/
  read : String → m (Except FileError (List UInt8))
  /-- Writes a file. -/
  write : String → List UInt8 → m (Except FileError Unit)
  /-- Opens a file to add to it. -/
  touch : String → m (Except FileError Unit)
  /-- Makes a directory and those above it. -/
  makeDirectories : String → m (Except FileError Unit)
  /-- Exchanges messages. -/
  exchange : Http.Exchange m
  /-- An identifier that was never used. -/
  freshId : m String

/-- What a run leaves behind for its caller. -/
structure Report where
  exit : Nat
  output : String
  errors : String
  deriving DecidableEq, Repr

/-- The line that tells the version. -/
def versionLine : String := "mqctl 0.1.0\n"

/-- The lines that tell the commands. -/
def helpText : String :=
  "Usage: mqctl [OPTIONS] <COMMAND>\n\nCommands: apply, describe, users, configure, help\n"

/-- What is said of wrong arguments. -/
def usageText : String := "error: unexpected arguments\n\n" ++ helpText

variable {m : Type → Type} [Monad m] (system : System m)

/-! ## Places -/

/-- A path inside a directory. -/
def inDirectory (directory name : String) : String :=
  if directory.endsWith "/" then directory ++ name else directory ++ "/" ++ name

/-- The directory of settings: the one that is asked for, if its path is a full one, or else the
usual one in the user's home. -/
def settingsDirectory? : m (Option String) := do
  let asked := (← system.environment "XDG_CONFIG_HOME").filter fun d ↦ d.startsWith "/"
  let home := (← system.environment "HOME").filter fun d ↦ !d.isEmpty
  return (asked.or (home.map fun h ↦ inDirectory h ".config")).map fun d ↦ inDirectory d "mqctl"

/-- The file of settings in their directory. -/
def settingsFile (directory : String) : String := inDirectory directory "config.json"

/-- The file of the log. -/
def logFile (directory : Option String) : String :=
  match directory with
  | some d => inDirectory d "mqctl.log"
  | none => "mqctl.log"

/-! ## Settings -/

/-- The settings as they were kept. -/
def loadSettings : m Settings := do
  match ← settingsDirectory? system with
  | none => return Settings.empty
  | some directory =>
    match ← system.read (settingsFile directory) with
    | .ok bytes => return Settings.ofFile (some bytes)
    | .error _ => return Settings.ofFile none

/-- A failure of the file system. -/
def ofFileResult {α : Type} (r : Except FileError α) : Except Failure α :=
  r.mapError fun e ↦ .ofCause (.file e)

/-- Keeps the settings. -/
def saveSettings (s : Settings) : m (Except Failure Unit) := do
  match ← settingsDirectory? system with
  | none => return .ok ()
  | some directory =>
    match ← system.makeDirectories directory with
    | .error e => return ofFileResult (.error e)
    | .ok _ =>
      return ofFileResult (← system.write (settingsFile directory) (Utf8.encode s.text.toList))

/-! ## Connections -/

/-- The endpoint to speak to and the region to work in: what is given counts more than what is
kept. A given endpoint is taken as it is. -/
def connect (settings : Settings) (env : Settings.Surroundings) (g : Globals) :
    Except Failure (Endpoint × String) := do
  let region := g.region.getD (settings.effectiveRegion env)
  let address ←
    match g.endpoint with
    | some address => pure address
    | none => settings.effectiveEndpoint region
  return (Endpoint.ofText address (g.token.or settings.token), region)

/-- The regions that the environment names. -/
def surroundings : m Settings.Surroundings := do
  return ⟨← system.environment "AWS_REGION", ← system.environment "AWS_DEFAULT_REGION"⟩

/-- Runs a program against an endpoint. -/
def speak {α : Type} (e : Endpoint) (p : Program α) : m (Except Failure α) :=
  p.runM (Client.answer system.exchange e)

/-! ## Commands -/

/-- The declaration in a file, an empty one if no file is named. -/
def loadDeclaration (file : Option String) : m (Except Failure Declaration) := do
  match file with
  | none => return .ok []
  | some path =>
    let text : Except FileError String :=
      match ← system.read path with
      | .ok bytes => match Utf8.text? bytes with
        | some text => .ok text
        | none => .error .notUtf8
      | .error e => .error e
    return do Declaration.parse (← Failure.inContext s!"Failed to read {path}" (ofFileResult text))

/-- The goal that is given, or else the one that the declaration names in a text. -/
def goal (state : Option String) (declaration : Declaration) : Except Failure Goal :=
  match state.or ((Object.get? declaration "state").bind Json.string?) with
  | some word => (Goal.parse word).mapError .ofFault
  | none => .ok .present

/-- A declaration with the name that is given. -/
def withName (name : Option String) (declaration : Declaration) : Declaration :=
  match name with
  | some name => Object.insert declaration Table.nameKey (.string name)
  | none => declaration

/-- How a run of the command goes about its goal. -/
def runOptions (o : ApplyOptions) (region freshId : String) : RunOptions where
  dryRun := o.dryRun
  policy := if o.strictUpdate then .reject else .drop
  region := region
  placeholderId := "b-" ++ freshId

/-- Brings a broker to a goal. -/
def apply (settings : Settings) (g : Globals) (o : ApplyOptions) : m (Except Failure Json) := do
  match connect settings (← surroundings system) g with
  | .error f => return .error f
  | .ok (endpoint, region) =>
    match ← loadDeclaration system o.file with
    | .error f => return .error f
    | .ok declaration =>
      -- A name among the arguments counts more than the declared one.
      let declaration := withName o.name declaration
      match goal o.state declaration with
      | .error f => return .error f
      | .ok goal =>
        let options := runOptions o region (← system.freshId)
        let outcome ← speak system endpoint
          (Broker.converge Table.standard options goal declaration)
        return outcome.map Outcome.toJson

/-- Carries out a command. -/
def perform (g : Globals) (command : Command) : m (Except Failure Json) := do
  let settings ← loadSettings system
  match command with
  | .configure =>
    let settings := settings.update g.endpoint g.region g.token
    return (← saveSettings system settings).map fun _ ↦ settings.toJson
  | .apply o => apply system settings g o
  | .describe id name =>
    match connect settings (← surroundings system) g with
    | .error f => return .error f
    | .ok (endpoint, _) =>
      return (← speak system endpoint (Broker.describe id name)).map fun v ↦
        .object [("broker", v)]
  | .users id query =>
    match connect settings (← surroundings system) g with
    | .error f => return .error f
    | .ok (endpoint, _) =>
      return (← speak system endpoint (Listing.users id query)).map fun v ↦ .object [("users", v)]

/-! ## Runs -/

/-- Opens the log, if there is to be one; what is said if it cannot be opened. -/
def openLog (level : LogLevel) : m String := do
  if level = .off then return ""
  let directory ← settingsDirectory? system
  if let some d := directory then
    let _ ← system.makeDirectories d
  match ← system.touch (logFile directory) with
  | .ok _ => return ""
  | .error e => return s!"Cannot open log file {logFile directory}: {e.message}\n"

/-- What the environment gives in place of options. -/
def defaults : m Defaults := do
  return ⟨← system.environment "MQCTL_ENDPOINT", ← system.environment "MQCTL_REGION",
    ← system.environment "MQCTL_TOKEN"⟩

/-- What is left behind where reading the arguments stopped. -/
def stopReport : Stop → Report
  | .help => ⟨0, helpText, ""⟩
  | .version => ⟨0, versionLine, ""⟩
  | .usage => ⟨2, "", usageText⟩

/-- A run with the given arguments. -/
def run (args : List String) : m Report := do
  match arguments (← defaults system) args with
  | .error stop => return stopReport stop
  | .ok (g, command) =>
    let said ← openLog system g.logLevel
    match ← perform system g command with
    | .ok v => return ⟨0, v.indented ++ "\n", said⟩
    | .error f => return ⟨1, "", said ++ s!"Error: {f.report}\n"⟩

end BrokerControl.CommandLine
