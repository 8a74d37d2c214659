/-!
# Options

How a list of arguments is read against rules: long names behind two hyphens, letters behind one,
values behind an equals sign or in the next argument. Every option may be given once. Reading stops
at the first argument that is no option, and at once where help or the version is asked for.
-/

namespace BrokerControl.CommandLine

/-- An option. -/
structure OptionRule where
  name : String
  letter : Option Char
  /-- Which values it takes; none if it takes no value. -/
  accepts : Option (String → Bool)

/-- Why reading stopped. -/
inductive Stop where
  | help
  | version
  /-- The arguments are wrong. -/
  | usage
  deriving DecidableEq, Repr

namespace OptionRule

/-- An option without a value. -/
def flag (name : String) : OptionRule := ⟨name, none, none⟩

/-- An option with a value of any text. -/
def text (name : String) : OptionRule := ⟨name, none, some fun _ ↦ true⟩

/-- An option that can be given by a letter too. -/
def withLetter (r : OptionRule) (c : Char) : OptionRule := { r with letter := some c }

end OptionRule

/-- The options that were given, with their values. -/
abbrev Given := List (String × String)

/-- Whether an argument is read as options: a lone hyphen is not. -/
def looksLikeOption (arg : String) : Bool :=
  match arg.toList with
  | '-' :: _ :: _ => true
  | _ => false

/-- Notes an option; a second time is wrong. -/
def note (given : Given) (name value : String) : Except Stop Given :=
  if given.any fun g ↦ g.1 == name then .error .usage else .ok (given ++ [(name, value)])

/-- Notes an option with a value that its rule has to accept. -/
def noteValue (given : Given) (r : OptionRule) (value : String) : Except Stop Given :=
  if r.accepts.any fun p ↦ p value then note given r.name value else .error .usage

/-- Notes an option whose value may be the next argument. -/
def noteNext (given : Given) (r : OptionRule) (rest : List String) :
    Except Stop (Given × List String) :=
  match rest with
  | value :: rest =>
    if looksLikeOption value then .error .usage
    else (noteValue given r value).map fun given ↦ (given, rest)
  | [] => .error .usage

variable (rules : List OptionRule) (versioned : Bool)

/-- Reads an option by its name. -/
def readLong (given : Given) (name : String) (attached : Option String) (rest : List String) :
    Except Stop (Given × List String) :=
  let standing := attached.isNone
  if name = "help" then .error (if standing then .help else .usage)
  else if name = "version" && versioned then .error (if standing then .version else .usage)
  else match rules.find? fun r ↦ r.name == name with
    | none => .error .usage
    | some r =>
      match r.accepts, attached with
      | none, none => (note given r.name "").map fun given ↦ (given, rest)
      | none, some _ => .error .usage
      | some _, some value => (noteValue given r value).map fun given ↦ (given, rest)
      | some _, none => noteNext given r rest

/-- Reads options by their letters. The first one with a value takes all that follows it. -/
def readLetters (rest : List String) : Given → List Char → Except Stop (Given × List String)
  | given, [] => .ok (given, rest)
  | given, c :: cs =>
    if c = 'h' then .error .help
    else if c = 'V' && versioned then .error .version
    else match rules.find? fun r ↦ r.letter == some c with
      | none => .error .usage
      | some r =>
        if r.accepts.isNone then do readLetters rest (← note given r.name "") cs
        else match cs with
          | [] => noteNext given r rest
          | '=' :: value =>
            (noteValue given r (String.ofList value)).map fun given ↦ (given, rest)
          | value => (noteValue given r (String.ofList value)).map fun given ↦ (given, rest)

/-- The name in a long option, and the value behind its equals sign. -/
def splitLong (cs : List Char) : String × Option String :=
  let name := cs.takeWhile (· ≠ '=')
  match cs.drop name.length with
  | _ :: value => (String.ofList name, some (String.ofList value))
  | [] => (String.ofList name, none)

/-- Reads options up to the first other argument. Behind two lone hyphens there must be nothing. -/
def readOptions : Nat → Given → List String → Except Stop (Given × List String)
  | 0, _, _ => .error .usage
  | _ + 1, given, [] => .ok (given, [])
  | fuel + 1, given, arg :: rest =>
    match arg.toList with
    | ['-', '-'] => if rest.isEmpty then .ok (given, []) else .error .usage
    | '-' :: '-' :: cs => do
      let (name, attached) := splitLong cs
      let (given, rest) ← readLong rules versioned given name attached rest
      readOptions fuel given rest
    | '-' :: c :: cs => do
      let (given, rest) ← readLetters rules versioned rest given (c :: cs)
      readOptions fuel given rest
    | _ => .ok (given, arg :: rest)

/-- The options in front of the arguments, and the arguments behind them. -/
def options (args : List String) : Except Stop (Given × List String) :=
  readOptions rules versioned (args.length + 1) [] args

namespace Given

/-- The value of an option, if it was given. -/
def value? (given : Given) (name : String) : Option String :=
  (given.find? fun g ↦ g.1 == name).map (·.2)

/-- Whether an option was given. -/
def has (given : Given) (name : String) : Bool := (value? given name).isSome

end Given

end BrokerControl.CommandLine
