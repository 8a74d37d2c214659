import BrokerControl.Convergence
import BrokerControl.Failure
import BrokerControl.Json.Printer
import BrokerControl.Url.Parser

/-!
# Settings

What is kept between runs: an endpoint, a region and a token, each of which may be missing. They
are written as an object with one line for each. A text is read leniently in what it may hold
besides, and strictly in the three: a repeated or ill-typed one spoils the whole text.
-/

namespace BrokerControl

/-- What is kept between runs. -/
structure Settings where
  endpoint : Option String
  region : Option String
  token : Option String
  deriving DecidableEq, Repr

namespace Settings

/-- Nothing is kept. -/
def empty : Settings := ⟨none, none, none⟩

/-! ## Writing -/

/-- The settings as a value. -/
def toJson (s : Settings) : Json :=
  .object [("endpoint", Json.ofOption s.endpoint), ("region", Json.ofOption s.region),
    ("token", Json.ofOption s.token)]

/-- The text that is kept. -/
def text (s : Settings) : String := s.toJson.indented

/-! ## Reading -/

/-- A text or null in front of `s`. -/
def entry? (s : List Char) : Option (Option String × List Char) :=
  match Json.skipBlanks s with
  | 'n' :: rest => (Json.literal? ['u', 'l', 'l'] rest).map fun rest ↦ (none, rest)
  | s => (Json.string?At s).map fun (t, rest) ↦ (some t, rest)

/-- Gives the field called `key` a value, unless it has been given one. -/
def put? (seen : List String) (key : String) : Option (List String) :=
  if seen.contains key then none else some (key :: seen)

/-- A field in front of `s`: its key is looked at, and its value unless the key is unknown. `seen`
holds the known keys so far. -/
def field? (settings : Settings) (seen : List String) (s : List Char) :
    Option (Settings × List String × List Char) := do
  let (key, s) ← Json.string?At (Json.skipBlanks s)
  let s ←
    match Json.skipBlanks s with
    | ':' :: rest => some rest
    | _ => none
  if key = "endpoint" then
    let (v, s) ← entry? s
    return ({ settings with endpoint := v }, ← put? seen key, s)
  else if key = "region" then
    let (v, s) ← entry? s
    return ({ settings with region := v }, ← put? seen key, s)
  else if key = "token" then
    let (v, s) ← entry? s
    return ({ settings with token := v }, ← put? seen key, s)
  else return (settings, seen, ← Json.skip? (2 * s.length + 2) s)

/-- The further fields of an object and its end. -/
def fields? : Nat → Settings → List String → List Char → Option (Settings × List Char)
  | 0, _, _, _ => none
  | fuel + 1, settings, seen, s =>
    match Json.skipBlanks s with
    | '}' :: rest => some (settings, rest)
    | ',' :: s => do
      let (settings, seen, s) ← field? settings seen s
      fields? fuel settings seen s
    | _ => none

/-- The further values of a list and its end. -/
def values? : Nat → List Char → Option (List (Option String) × List Char)
  | 0, _ => none
  | fuel + 1, s =>
    match Json.skipBlanks s with
    | ']' :: rest => some ([], rest)
    | ',' :: s => do
      let (v, s) ← entry? s
      let (vs, rest) ← values? fuel s
      return (v :: vs, rest)
    | _ => none

/-- The settings that a list of up to three values stands for, in the order of the fields. -/
def ofValues? : List (Option String) → Option Settings
  | [] => some empty
  | [e] => some ⟨e, none, none⟩
  | [e, r] => some ⟨e, r, none⟩
  | [e, r, t] => some ⟨e, r, t⟩
  | _ => none

/-- The settings in front of `s`. -/
def value? (s : List Char) : Option (Settings × List Char) :=
  match Json.skipBlanks s with
  | '{' :: s =>
    match Json.skipBlanks s with
    | '}' :: rest => some (empty, rest)
    | s => do
      let (settings, seen, s) ← field? empty [] s
      fields? (s.length + 1) settings seen s
  | '[' :: s =>
    match Json.skipBlanks s with
    | ']' :: rest => some (empty, rest)
    | s => do
      let (v, s) ← entry? s
      let (vs, rest) ← values? (s.length + 1) s
      return (← ofValues? (v :: vs), rest)
  | _ => none

/-- The settings in a text. -/
def parse? (text : String) : Option Settings :=
  match value? text.toList with
  | some (settings, rest) => if (Json.skipBlanks rest).isEmpty then some settings else none
  | none => none

/-- The settings in a text, none at all if it holds no settings. -/
def ofText (text : String) : Settings := (parse? text).getD empty

/-- The settings in the bytes of a file, none at all if there is no file or it holds none. -/
def ofFile (bytes : Option (List UInt8)) : Settings :=
  match bytes.bind Utf8.text? with
  | some text => ofText text
  | none => empty

/-! ## Using -/

/-- Takes over the values that are given. -/
def update (s : Settings) (endpoint region token : Option String) : Settings :=
  ⟨endpoint.or s.endpoint, region.or s.region, token.or s.token⟩

/-- The regions that the environment names. -/
structure Surroundings where
  region : Option String
  defaultRegion : Option String
  deriving DecidableEq, Repr

/-- The region to work in: the kept one, or else one of the environment. If the first of them that
is there is empty, the usual region is meant. -/
def effectiveRegion (s : Settings) (env : Surroundings) : String :=
  (((s.region.or env.region).or env.defaultRegion).filter fun r ↦ !r.isEmpty).getD
    BrokerControl.defaultRegion

/-- The endpoint of a region. -/
def regionalEndpoint (region : String) : String := s!"https://mq.{region}.amazonaws.com"

/-- The endpoint to speak to: the kept one, or else that of the region. It has to be a URL. -/
def effectiveEndpoint (s : Settings) (region : String) : Except Failure String :=
  let endpoint := s.endpoint.getD (regionalEndpoint region)
  match Url.parse endpoint with
  | .ok _ => .ok endpoint
  | .error e => .error ⟨[s!"Invalid endpoint '{endpoint}'"], .url e⟩

end Settings

end BrokerControl
