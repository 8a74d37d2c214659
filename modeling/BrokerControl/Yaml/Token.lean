import BrokerControl.Yaml.Scalar

/-!
# Tokens

A YAML text as a list of tokens. Indentation becomes tokens for the start and end of blocks, and a
key that is recognised only by the colon behind it gets its token in front of what was read before.
`Token.scan?` gives all tokens of a text, or nothing if some place in it starts no token.
-/

namespace BrokerControl.Yaml

/-- A token. -/
inductive Token where
  | version (major minor : Nat)
  | tagHandle (handle address : String)
  | documentStart
  | documentEnd
  | blockSequenceStart
  | blockMappingStart
  | blockEnd
  | flowSequenceStart
  | flowSequenceEnd
  | flowMappingStart
  | flowMappingEnd
  | blockEntry
  | flowEntry
  | key
  | value
  | aliasOf (name : String)
  | anchor (name : String)
  | tag (t : WrittenTag)
  | scalar (plain : Bool) (text : String)
  deriving DecidableEq, Repr

/-- A place at which a key may have begun. -/
structure KeyStart where
  /-- Whether only a key can stand there. -/
  required : Bool
  /-- The number of the token that begins there. -/
  token : Nat
  index : Nat
  line : Nat
  column : Nat

/-- How far a key may be from its colon. -/
def keyReach : Nat := 1024

/-- The state of a scan. -/
structure Scan where
  source : Source
  /-- The tokens so far, the latest first. -/
  tokens : List Token
  /-- The column of the innermost block; before the first one it is -1. -/
  indent : Int
  /-- The columns of the blocks around it. -/
  outerIndents : List Int
  /-- Whether a key may begin here. -/
  keyAllowed : Bool
  /-- Where the innermost open key may have begun. -/
  keyStart : Option KeyStart
  /-- Where keys may have begun outside the brackets that are open; one entry for each bracket. -/
  outerKeys : List (Option KeyStart)

namespace Scan

/-- Before the first token. -/
def start (s : Source) : Scan := ⟨s, [], -1, [], true, none, []⟩

/-- Whether some bracket is open. -/
def inFlow (l : Scan) : Bool := !l.outerKeys.isEmpty

/-- Adds a token. -/
def emit (l : Scan) (t : Token) : Scan := { l with tokens := t :: l.tokens }

/-- Puts a token in front of token number `n`. -/
def insertAt (l : Scan) (n : Nat) (t : Token) : Scan :=
  let later := l.tokens.length - n
  { l with tokens := l.tokens.take later ++ t :: l.tokens.drop later }

/-- Moves on by characters of one line. -/
def advance (l : Scan) (n : Nat) : Scan := { l with source := l.source.advance n }

/-! ## Keys -/

/-- Gives up the open key; one that had to be a key is an error. -/
def dropKey? (l : Scan) : Option Scan :=
  if l.keyStart.any (·.required) then none else some { l with keyStart := none }

/-- Remembers that a key may begin here. -/
def noteKey? (l : Scan) : Option Scan :=
  if l.keyAllowed then do
    let l ← l.dropKey?
    let s := l.source
    let required := !l.inFlow && l.indent == s.column
    return { l with keyStart := some ⟨required, l.tokens.length, s.index, s.line, s.column⟩ }
  else some l

/-- Whether a key that began at `k` can no longer reach its colon: keys end with their line. -/
def isStale (s : Source) (k : KeyStart) : Bool :=
  decide (k.line < s.line) || decide (k.index + keyReach < s.index)

/-- Forgets the keys that can no longer be; one that had to be a key is an error. -/
def dropStale? (l : Scan) : Option Scan :=
  let stale := isStale l.source
  if (l.keyStart :: l.outerKeys).any fun k ↦ k.any fun k ↦ stale k && k.required then none
  else
    let fresh (k : Option KeyStart) := k.filter fun k ↦ !stale k
    some { l with keyStart := fresh l.keyStart, outerKeys := l.outerKeys.map fresh }

/-! ## Blocks -/

/-- Opens a block at a column further right than the innermost one; its token goes in front of
token number `n`. -/
def openBlock (l : Scan) (column : Nat) (n : Nat) (t : Token) : Scan :=
  if !l.inFlow && decide (l.indent < column) then
    { l.insertAt n t with indent := column, outerIndents := l.indent :: l.outerIndents }
  else l

/-- Closes the blocks that stand right of the column. -/
def closeBlocks (column : Int) (tokens : List Token) (indent : Int) :
    List Int → List Token × Int × List Int
  | [] => if column < indent then (.blockEnd :: tokens, -1, []) else (tokens, indent, [])
  | outer :: more =>
    if column < indent then closeBlocks column (.blockEnd :: tokens) outer more
    else (tokens, indent, outer :: more)

/-- Closes the blocks that stand right of the column; between brackets there are none. -/
def unindent (l : Scan) (column : Int) : Scan :=
  if l.inFlow then l
  else
    let (tokens, indent, outer) := closeBlocks column l.tokens l.indent l.outerIndents
    { l with tokens := tokens, indent := indent, outerIndents := outer }

/-! ## Between tokens -/

/-- What is left after blanks, comments and line breaks; a new line outside brackets may begin with
a key. Tabs count as blanks where no key may begin. -/
def skipGap : Nat → Scan → Scan
  | 0, l => l
  | fuel + 1, l =>
    let s := l.source
    let s := if s.index == 0 && s.startsWith byteOrderMark then s.advance 1 else s
    let s := s.skipWhile fun c ↦ c = ' ' || ((l.inFlow || !l.keyAllowed) && c = '\t')
    let s := if s.startsWith '#' then s.skipWhile fun c ↦ !isBreak c else s
    if s.startsIn isBreak then
      skipGap fuel { l with source := s.skipBreak, keyAllowed := l.keyAllowed || !l.inFlow }
    else { l with source := s }

/-! ## Directives -/

/-- What is left after a directive, a comment behind it and the end of the line. -/
def directiveEnd? (s : Source) : Option Source :=
  let s := s.skipWhile isBlank
  let s := if s.startsWith '#' then s.skipWhile fun c ↦ !isBreak c else s
  if s.isAtEnd then some s
  else if s.startsIn isBreak then some s.skipBreak
  else none

/-- A number of a version, of at most nine digits. -/
def versionNumber? (s : Source) : Option (Nat × Source) := do
  let digits := s.rest.takeWhile Char.isDigit
  if digits.length > 9 then none
  return (← Digit.number? 10 digits, s.advance digits.length)

/-- A directive; the source stands at its percent sign. -/
def directive? (s : Source) : Option (Token × Source) := do
  let s := s.advance 1
  let name := String.ofList (s.rest.takeWhile isWord)
  let s := s.advance name.length
  if name.isEmpty || !s.isGapAt 0 then none
  let (token, s) ←
    if name = "YAML" then do
      let (major, s) ← versionNumber? (s.skipWhile isBlank)
      if !s.startsWith '.' then none
      let (minor, s) ← versionNumber? (s.advance 1)
      pure (Token.version major minor, s)
    else if name = "TAG" then do
      let (handle, s) ← tagHandle? (s.skipWhile isBlank)
      if handle ≠ ['!'] && !(handle.length > 1 && handle.getLast? == some '!') then none
      if !s.startsIn isBlank then none
      let (address, s) ← tagAddress? true [] (s.skipWhile isBlank)
      if !s.isGapAt 0 then none
      pure (Token.tagHandle (String.ofList handle) address, s)
    else none
  return (token, ← directiveEnd? s)

/-! ## One token -/

/-- Leaves every block, as before a directive or a mark of a document. -/
def leaveBlocks? (l : Scan) : Option Scan := do
  let l ← (l.unindent (-1)).dropKey?
  return { l with keyAllowed := false }

/-- Opens a bracket. -/
def openFlow? (l : Scan) (t : Token) : Option Scan := do
  let l ← l.noteKey?
  return { (l.emit t).advance 1 with
    outerKeys := l.keyStart :: l.outerKeys, keyStart := none, keyAllowed := true }

/-- Closes a bracket. -/
def closeFlow? (l : Scan) (t : Token) : Option Scan := do
  let l ← l.dropKey?
  let l := (l.emit t).advance 1
  let l := match l.outerKeys with
    | k :: more => { l with keyStart := k, outerKeys := more }
    | [] => l
  return { l with keyAllowed := false }

/-- A comma between brackets. -/
def flowEntry? (l : Scan) : Option Scan := do
  let l ← l.dropKey?
  return { (l.emit .flowEntry).advance 1 with keyAllowed := true }

/-- A dash; outside brackets it may open a sequence. -/
def blockEntry? (l : Scan) : Option Scan := do
  if !l.inFlow && !l.keyAllowed then none
  let l := l.openBlock l.source.column l.tokens.length .blockSequenceStart
  let l ← l.dropKey?
  return { (l.emit .blockEntry).advance 1 with keyAllowed := true }

/-- A question mark; outside brackets it may open a mapping. -/
def explicitKey? (l : Scan) : Option Scan := do
  if !l.inFlow && !l.keyAllowed then none
  let l := l.openBlock l.source.column l.tokens.length .blockMappingStart
  let l ← l.dropKey?
  return { (l.emit .key).advance 1 with keyAllowed := !l.inFlow }

/-- A colon: what may have been a key is one, and may open a mapping. -/
def value? (l : Scan) : Option Scan := do
  let l ←
    match l.keyStart with
    | some k =>
      -- Only the colon shows that a key began at `k`: its token goes in front of what was read
      -- there, and the token of a block that it opens goes in front of that.
      let l := (l.insertAt k.token .key).openBlock k.column k.token .blockMappingStart
      pure { l with keyStart := none, keyAllowed := false }
    | none => do
      if !l.inFlow && !l.keyAllowed then none
      let l := l.openBlock l.source.column l.tokens.length .blockMappingStart
      pure { l with keyAllowed := !l.inFlow }
  return (l.emit .value).advance 1

/-- The name behind the indicator of an anchor or alias. -/
def name? (s : Source) : Option (String × Source) :=
  let name := (s.rest.drop 1).takeWhile isWord
  let s := s.advance (name.length + 1)
  let ends := s.isGapAt 0 || s.startsIn fun c ↦ "?:,]\x7d%@`".toList.contains c
  if name.isEmpty || !ends then none else some (String.ofList name, s)

/-- A token that may begin a key, read by `read`. -/
def keyedToken? (l : Scan) (read : Source → Option (Token × Source)) : Option Scan := do
  let l ← l.noteKey?
  let (t, s) ← read l.source
  return { l.emit t with source := s, keyAllowed := false }

/-- A plain scalar; after one that ended with a line a key may begin. -/
def plain? (l : Scan) : Option Scan := do
  let l ← l.noteKey?
  let (text, broken, s) ← plainScalar? l.inFlow (l.indent + 1) l.source
  return { l.emit (.scalar true (String.ofList text)) with source := s, keyAllowed := broken }

/-- A scalar in quotes. -/
def quoted? (l : Scan) (double : Bool) : Option Scan :=
  l.keyedToken? fun s ↦
    (quotedScalar? double s).map fun (text, s) ↦ (.scalar false (String.ofList text), s)

/-- A block of lines. -/
def block? (l : Scan) (literal : Bool) : Option Scan := do
  let l ← l.dropKey?
  let (text, s) ← blockScalar? literal l.indent l.source
  return { l.emit (.scalar false (String.ofList text)) with source := s, keyAllowed := true }

/-- Whether a plain scalar may begin with `c` here. -/
def startsPlain (l : Scan) (c : Char) : Bool :=
  let s := l.source
  if c = '-' then !(s.peek? 1).any isBlank
  else if c = '?' || c = ':' then !l.inFlow && !s.isGapAt 1
  else !isBlank c && !",[]\x7b\x7d#&*!|>'\"%@`".toList.contains c

/-- The token that begins with `c`. -/
def token? (l : Scan) (c : Char) : Option Scan :=
  let s := l.source
  if s.column == 0 && c = '%' then do
    let l ← l.leaveBlocks?
    let (t, s) ← directive? l.source
    return { l.emit t with source := s }
  else if s.isAtMark '-' then do return ((← l.leaveBlocks?).emit .documentStart).advance 3
  else if s.isAtMark '.' then do return ((← l.leaveBlocks?).emit .documentEnd).advance 3
  else if c = '[' then l.openFlow? .flowSequenceStart
  else if c = '{' then l.openFlow? .flowMappingStart
  else if c = ']' then l.closeFlow? .flowSequenceEnd
  else if c = '}' then l.closeFlow? .flowMappingEnd
  else if c = ',' then l.flowEntry?
  else if c = '-' && s.isGapAt 1 then l.blockEntry?
  else if c = '?' && (l.inFlow || s.isGapAt 1) then l.explicitKey?
  else if c = ':' && (l.inFlow || s.isGapAt 1) then l.value?
  else if c = '*' then l.keyedToken? fun s ↦ (name? s).map fun (n, s) ↦ (.aliasOf n, s)
  else if c = '&' then l.keyedToken? fun s ↦ (name? s).map fun (n, s) ↦ (.anchor n, s)
  else if c = '!' then
    l.keyedToken? fun s ↦ (writtenTag? l.inFlow s).map fun (t, s) ↦ (.tag t, s)
  else if c = '|' && !l.inFlow then l.block? true
  else if c = '>' && !l.inFlow then l.block? false
  else if c = '\'' then l.quoted? false
  else if c = '"' then l.quoted? true
  else if l.startsPlain c then l.plain?
  else none

/-- Reads token after token, and closes all blocks at the end. -/
def run? : Nat → Scan → Option (List Token)
  | 0, _ => none
  | fuel + 1, l => do
    let l := skipGap (l.source.rest.length + 1) l
    let l ← l.dropStale?
    let l := l.unindent l.source.column
    match l.source.rest with
    | [] => do
      let l ← l.leaveBlocks?
      return l.tokens.reverse
    | c :: _ => run? fuel (← l.token? c)

end Scan

/-- All tokens of a text. -/
def Token.scan? (text : String) : Option (List Token) :=
  let cs := text.toList
  let cs := match cs with
    | c :: rest => if c = byteOrderMark then rest else cs
    | [] => []
  if cs.all isAllowed then Scan.run? (cs.length + 2) (Scan.start (Source.ofList cs)) else none

end BrokerControl.Yaml
