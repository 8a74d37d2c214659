import BrokerControl.Text.Utf8
import BrokerControl.Url.International.Composition
import BrokerControl.Url.Punycode

/-!
# International domain names

Brings a domain name into ASCII: characters are mapped and composed, each label is checked and then
encoded if it holds more than ASCII. A name with a label that cannot be used is no domain name.
-/

namespace BrokerControl.International

/-- The tables that names are checked against. -/
structure Tables where
  mapping : List MappingRun
  composer : Composer
  marks : List PropertyRun
  directions : List PropertyRun
  joinings : List PropertyRun

/-- The tables of domain names. -/
def tables (_ : Unit) : Tables :=
  ⟨mapping (), Composer.standard (), propertyRuns markRuns, propertyRuns directionRuns,
    propertyRuns joiningRuns⟩

/-- What an encoded label starts with. -/
def encodedMark : List Char := ['x', 'n', '-', '-']

/-- Whether a text is ASCII. -/
def isAscii (cs : List Char) : Bool := cs.all fun c ↦ decide (c.toNat < 0x80)

variable (t : Tables)

/-! ## Joiners -/

/-- The character that keeps two others apart. -/
def nonJoiner : Char := '\u200c'

/-- The character that joins two others. -/
def joiner : Char := '\u200d'

/-- Whether a character carries the sign that drops a vowel. -/
def isVirama (c : Char) : Bool := t.composer.classOf c == 9

/-- How a character joins. -/
def joiningOf (c : Char) : List Char := (property? t.joinings c).getD []

/-- Whether the first character that is not joined through is one of the kinds. -/
def meets (kinds : List (List Char)) (cs : List Char) : Bool :=
  ((cs.dropWhile fun c ↦ joiningOf t c == ['T']).head?.map (joiningOf t)).any kinds.contains

/-- Whether every joiner stands where it has a meaning; `before` is what was passed, in reverse. -/
def joinersFit (before : List Char) : List Char → Bool
  | [] => true
  | c :: cs =>
    let afterVirama := before.head?.any (isVirama t)
    let fits :=
      if c = joiner then afterVirama
      else if c = nonJoiner then
        afterVirama || (meets t [['L'], ['D']] before && meets t [['R'], ['D']] cs)
      else true
    fits && joinersFit (c :: before) cs

/-! ## Directions -/

/-- The direction of a character: `L` where the table names none. -/
def directionOf (c : Char) : Char :=
  if c.toNat < 0x80 then
    if c.isDigit then 'E' else if c.isAlpha then 'L' else 'O'
  else (((property? t.directions c).bind List.head?).getD 'L')

/-- Whether a name holds characters that run from right to left. -/
def runsBack (cs : List Char) : Bool :=
  cs.any fun c ↦ directionOf t c == 'R' || directionOf t c == 'A'

/-- Whether the directions in a label agree: they have to in a name that runs back anywhere. -/
def directionsFit (label : List Char) : Bool :=
  let ds := label.map (directionOf t)
  let ending := (ds.reverse.dropWhile (· = 'N')).head?
  match ds with
  | [] => true
  | 'R' :: _ =>
    ds.all "RAEON".toList.contains && ending.any "REA".toList.contains &&
      !(ds.contains 'E' && ds.contains 'A')
  | 'L' :: _ => ds.all "LEON".toList.contains && ending.any "LE".toList.contains
  | _ => false

/-! ## Labels -/

/-- Whether a label that is no longer encoded can be used. -/
def isUsable (label : List Char) : Bool :=
  !(label.head?.any fun c ↦ (property? t.marks c).isSome) && joinersFit t [] label

/-- What an encoded label stands for, if it was encoded from a label that can be used. -/
def decoded? (label : List Char) : Option (List Char) := do
  if !isAscii label then none
  let cs ← Punycode.decode? (label.drop encodedMark.length)
  -- Only what mapping and composition leave alone can have been encoded.
  let stays := cs.all fun c ↦ mapped t.mapping c == some [c]
  if isAscii cs || !stays || encodedMark.isPrefixOf cs || t.composer.compose cs ≠ cs then none
  return cs

/-- A label in two forms: as it is read, and in ASCII. -/
def label? (label : List Char) : Option (List Char × List Char) := do
  let read ← if encodedMark.isPrefixOf label then decoded? t label else some label
  if !isUsable t read then none
  let ascii ←
    if isAscii read then some read
    else if encodedMark.isPrefixOf label then some label
    else (Punycode.encode? read).map (encodedMark ++ ·)
  return (read, ascii)

/-! ## Names -/

/-- Whether a name can be used as it is, but for capital letters. -/
def isPlain (cs : List Char) : Bool :=
  isAscii cs && !(Pieces.split '.' (cs.map Char.toLower)).any encodedMark.isPrefixOf

/-- A name in ASCII, where a character is `forbidden` in every name. -/
def fullToAscii? (forbidden : Char → Bool) (cs : List Char) : Option (List Char) := do
  let cs ← cs.mapM (mapped t.mapping)
  let labels ← (Pieces.split '.' (t.composer.compose cs.flatten)).mapM (label? t)
  let read := labels.map (·.1)
  if read.any fun l ↦ l.any forbidden then none
  if runsBack t read.flatten && !read.all (directionsFit t) then none
  return Pieces.join '.' (labels.map (·.2))

/-- The name that bytes write, in ASCII; a character is `forbidden` in every name. -/
def toAscii? (forbidden : Char → Bool) (bytes : List UInt8) : Option (List Char) := do
  let cs ← (Utf8.decode bytes).mapM id
  if isPlain cs then
    if cs.any forbidden then none else return cs.map Char.toLower
  else fullToAscii? (tables ()) forbidden cs

end BrokerControl.International
