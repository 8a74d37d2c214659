import BrokerControl.Text.Digit
import BrokerControl.Text.Utf8
import BrokerControl.Yaml.Source

/-!
# Scalars and tags as written

The four ways to write a scalar (plain, in single quotes, in double quotes, as a block of lines),
and the written form of a tag. Each function takes the source at the start of what it reads and
gives the text that it stands for and the source behind it.
-/

namespace BrokerControl.Yaml

/-! ## Plain scalars -/

/-- The characters that end a plain scalar between brackets. -/
def isFlowIndicator (c : Char) : Bool :=
  c = ',' || c = '[' || c = ']' || c = '{' || c = '}'

/-- The word in front of `cs`: up to a gap, a colon before a gap, or, inside brackets, an
indicator. A colon right before an indicator is an error inside brackets. -/
def plainWord? (inFlow : Bool) : List Char → Option (List Char)
  | [] => some []
  | c :: cs =>
    let gapNext := cs.head?.all fun d ↦ isBlank d || isBreak d
    if isBlank c || isBreak c then some []
    else if inFlow && c = ':' && cs.head?.any fun d ↦ isFlowIndicator d || d = '?' then none
    else if c = ':' && gapNext then some []
    else if inFlow && isFlowIndicator c then some []
    else (plainWord? inFlow cs).map (c :: ·)

/-- Reads words, each behind its gap; `g` is the gap in front of the first. The last gap is left
out; it says whether the scalar ended with a line. -/
def plainWords? (inFlow : Bool) (least : Int) :
    Nat → Gap → Source → Option (List Char × Bool × Source)
  | 0, _, _ => none
  | fuel + 1, g, s =>
    if s.isAtDocumentMark || s.startsWith '#' then some ([], g.broken, s)
    else do
      let word ← plainWord? inFlow s.rest
      if word.isEmpty then return ([], g.broken, s)
      let front := g.text ++ word
      let s := s.advance word.length
      if !s.startsIn fun c ↦ isBlank c || isBreak c then return (front, false, s)
      let (g, s) ← Gap.read? least false s
      -- A line that stands too far left belongs to what comes next.
      if !inFlow && decide ((s.column : Int) < least) then return (front, g.broken, s)
      let (back, broken, s) ← plainWords? inFlow least fuel g s
      return (front ++ back, broken, s)

/-- A plain scalar, whose lines stand at column `least` or further right; whether it ended with a
line comes second. -/
def plainScalar? (inFlow : Bool) (least : Int) (s : Source) : Option (List Char × Bool × Source) :=
  plainWords? inFlow least (s.rest.length + 1) (Gap.start false) s

/-! ## Quoted scalars -/

/-- The character that a backslash and one letter stand for. -/
def simpleEscape? (c : Char) : Option Char :=
  match c with
  | '0' => some '\x00'
  | 'a' => some '\x07'
  | 'b' => some '\x08'
  | 't' | '\t' => some '\t'
  | 'n' => some '\n'
  | 'v' => some '\x0b'
  | 'f' => some '\x0c'
  | 'r' => some '\r'
  | 'e' => some '\x1b'
  | ' ' => some ' '
  | '"' => some '"'
  | '/' => some '/'
  | '\\' => some '\\'
  | 'N' => some '\u0085'
  | '_' => some '\u00a0'
  | 'L' => some '\u2028'
  | 'P' => some '\u2029'
  | _ => none

/-- How many hexadecimal digits follow the letter of a numeric escape. -/
def escapeLength? (c : Char) : Option Nat :=
  match c with
  | 'x' => some 2
  | 'u' => some 4
  | 'U' => some 8
  | _ => none

/-- The character with a code, unless it is half a surrogate pair or too large. -/
def charOfCode? (n : Nat) : Option Char := if n.isValidChar then some (Char.ofNat n) else none

/-- What an escape stands for, behind its backslash, and how many characters it takes there. -/
def escape? : List Char → Option (Char × Nat)
  | [] => none
  | c :: cs =>
    match escapeLength? c with
    | some n => do
      if cs.length < n then none
      let code ← Digit.number? 16 (cs.take n)
      return (← charOfCode? code, n + 1)
    | none => (simpleEscape? c).map fun x ↦ (x, 1)

/-- How a run of characters between quotes ended. -/
inductive QuotedEnd where
  /-- At the closing quote, a gap or the end of the text. -/
  | plain
  /-- At a backslash before a line break. -/
  | escapedBreak

/-- Characters up to the closing quote, a gap or an escaped line break; what is left. -/
def quotedRun? (double : Bool) : Nat → Source → Option (List Char × QuotedEnd × Source)
  | 0, _ => none
  | fuel + 1, s =>
    let goOn (c : Char) (n : Nat) :=
      (quotedRun? double fuel (s.advance n)).map fun (text, ending, s) ↦ (c :: text, ending, s)
    match s.rest with
    | [] => some ([], .plain, s)
    | c :: cs =>
      if isBlank c || isBreak c then some ([], .plain, s)
      else if !double && c = '\'' then
        if cs.head? == some '\'' then goOn '\'' 2 else some ([], .plain, s)
      else if double && c = '"' then some ([], .plain, s)
      else if double && c = '\\' then
        if cs.head?.any isBreak then some ([], .escapedBreak, (s.advance 1).skipBreak)
        else (escape? cs).bind fun (x, n) ↦ goOn x (n + 1)
      else goOn c 1

/-- Reads runs of characters and the gaps between them, up to the closing quote. -/
def quotedWords? (double : Bool) : Nat → Source → Option (List Char × Source)
  | 0, _ => none
  | fuel + 1, s => do
    if s.isAtDocumentMark || s.isAtEnd then none
    let (run, ending, s) ← quotedRun? double (s.rest.length + 1) s
    if s.startsWith (if double then '"' else '\'') then return (run, s.advance 1)
    let (g, s) ← Gap.read? 0 (match ending with | .plain => false | .escapedBreak => true) s
    let (back, s) ← quotedWords? double fuel s
    return (run ++ g.text ++ back, s)

/-- A scalar in quotes; the source stands at the opening one. -/
def quotedScalar? (double : Bool) (s : Source) : Option (List Char × Source) :=
  quotedWords? double (s.rest.length + 1) (s.advance 1)

/-! ## Blocks of lines -/

/-- What becomes of the line breaks at the end of a block. -/
inductive Chomping where
  | strip
  | clip
  | keep

/-- The chomping that a sign asks for. -/
def chomping? : Char → Option Chomping
  | '+' => some .keep
  | '-' => some .strip
  | _ => none

/-- The indentation that a digit asks for; zero is an error. -/
def indentation? (c : Char) : Option (Option Nat) :=
  match Digit.decimal? c with
  | some 0 => none
  | some n => some (some n)
  | none => some none

/-- The sign and the digit behind the indicator of a block, in either order. -/
def blockHeader? (s : Source) : Option (Chomping × Option Nat × Source) := do
  match s.rest with
  | [] => return (.clip, none, s)
  | c :: cs =>
    match chomping? c with
    | some chomping =>
      let indentation ← ((cs.head?.map indentation?).getD (some none))
      return (chomping, indentation, s.advance (if indentation.isSome then 2 else 1))
    | none =>
      match ← indentation? c with
      | none => return (.clip, none, s)
      | some n =>
        match cs.head?.bind chomping? with
        | some chomping => return (chomping, some n, s.advance 2)
        | none => return (.clip, some n, s.advance 1)

/-- Empty lines before a line of a block. Spaces are taken up to column `indent`, or all of them as
long as the indentation is not known; `widest` is the furthest column seen. A tab there is an error.
-/
def blockBreaks? (indent : Option Nat) :
    Nat → Nat → List Char → Source → Option (Nat × List Char × Source)
  | 0, _, _, _ => none
  | fuel + 1, widest, breaks, s =>
    let spaces := (s.rest.takeWhile (· = ' ')).length
    let taken := match indent with
      | some n => min spaces (n - s.column)
      | none => spaces
    let s := s.advance taken
    let widest := max widest s.column
    if s.startsWith '\t' && indent.all fun n ↦ decide (s.column < n) then none
    else if s.startsIn isBreak then
      blockBreaks? indent fuel widest (breaks ++ s.breakText) s.skipBreak
    else some (widest, breaks, s)

/-- The lines of a block at column `indent`. `before` is the break after the line before, `empty`
the breaks of the empty lines after that, and `indented` says whether that line began with a blank:
between two lines that do not, one break is folded into a space unless the block is literal. -/
def blockLines? (literal : Bool) (indent : Nat) :
    Nat → List Char → List Char → Bool → Source →
      Option (List Char × List Char × List Char × Source)
  | 0, _, _, _, _ => none
  | fuel + 1, before, empty, indented, s =>
    if s.column = indent && !s.isAtEnd then do
      let blank := s.startsIn isBlank
      let folds := !literal && before == ['\n'] && !indented && !blank
      let joint := if folds then (if empty.isEmpty then [' '] else []) else before
      let line := s.rest.takeWhile fun c ↦ !isBreak c
      let front := joint ++ empty ++ line
      let s := s.advance line.length
      let before := s.breakText
      let s := if s.isAtEnd then s else s.skipBreak
      let (_, empty, s) ← blockBreaks? (some indent) (s.rest.length + 1) 0 [] s
      let (back, before, empty, s) ← blockLines? literal indent fuel before empty blank s
      return (front ++ back, before, empty, s)
    else some ([], before, empty, s)

/-- A block of lines inside a collection at column `outer`; the source stands at the indicator. -/
def blockScalar? (literal : Bool) (outer : Int) (s : Source) : Option (List Char × Source) := do
  let (chomping, asked, s) ← blockHeader? (s.advance 1)
  let s := s.skipWhile isBlank
  let s := if s.startsWith '#' then s.skipWhile fun c ↦ !isBreak c else s
  if !s.isAtLineEnd then none
  let s := if s.isAtEnd then s else s.skipBreak
  -- A given indentation counts from the collection, a found one from the margin.
  let given := asked.map fun n ↦ if 0 ≤ outer then outer.toNat + n else n
  let (widest, empty, s) ← blockBreaks? given (s.rest.length + 1) 0 [] s
  let indent := given.getD (max (max widest (outer + 1).toNat) 1)
  let (text, before, empty, s) ← blockLines? literal indent (s.rest.length + 1) [] empty false s
  return (match chomping with
    | .strip => text
    | .clip => text ++ before
    | .keep => text ++ before ++ empty, s)

/-! ## Tags -/

/-- The characters of the address in a tag; between angle brackets commas and brackets too. -/
def isTagChar (verbatim : Bool) (c : Char) : Bool :=
  isWord c || ";/?:@&=+$.!~*'()%".toList.contains c ||
    (verbatim && (c = ',' || c = '[' || c = ']'))

/-- How many bytes a character has that starts with byte `n`. -/
def widthOfLead? (n : Nat) : Option Nat :=
  if n < 0x80 then some 1
  else if 0xC0 ≤ n ∧ n < 0xE0 then some 2
  else if 0xE0 ≤ n ∧ n < 0xF0 then some 3
  else if 0xF0 ≤ n ∧ n < 0xF8 then some 4
  else none

/-- The byte that a triplet writes. -/
def tripletByte? : List Char → Option (Nat × List Char)
  | '%' :: a :: b :: rest => do
    return ((← Digit.hex? a) * 16 + (← Digit.hex? b), rest)
  | _ => none

/-- The bytes after the first of one character written in triplets. -/
def tripletTail? : Nat → List Char → Option (List UInt8 × List Char)
  | 0, cs => some ([], cs)
  | n + 1, cs => do
    let (b, cs) ← tripletByte? cs
    if b / 64 ≠ 2 then none
    let (bs, cs) ← tripletTail? n cs
    return (UInt8.ofNat b :: bs, cs)

/-- The bytes that the characters of an address stand for. -/
def tagBytes? : Nat → List Char → Option (List UInt8)
  | 0, _ => none
  | _ + 1, [] => some []
  | fuel + 1, c :: cs =>
    if c = '%' then do
      let (lead, rest) ← tripletByte? (c :: cs)
      let width ← widthOfLead? lead
      let (tail, rest) ← tripletTail? (width - 1) rest
      return UInt8.ofNat lead :: tail ++ (← tagBytes? fuel rest)
    else do return Utf8.encodeChar c ++ (← tagBytes? fuel cs)

/-- The address in front of `s`, behind `head`; without either it is an error. -/
def tagAddress? (verbatim : Bool) (head : List Char) (s : Source) : Option (String × Source) := do
  let written := s.rest.takeWhile (isTagChar verbatim)
  if head.isEmpty && written.isEmpty then none
  let bytes ← tagBytes? (written.length + 1) written
  return (Utf8.textWithMarks (Utf8.encode (head.drop 1) ++ bytes), s.advance written.length)

/-- The handle in front of `s`: an exclamation mark, a name, and a second mark if there is one. -/
def tagHandle? (s : Source) : Option (List Char × Source) :=
  match s.rest with
  | '!' :: cs =>
    let name := cs.takeWhile isWord
    let closed := if cs[name.length]? == some '!' then ['!'] else []
    let handle := '!' :: name ++ closed
    some (handle, s.advance handle.length)
  | _ => none

/-- A tag as written: its handle and the suffix behind it. -/
structure WrittenTag where
  handle : String
  suffix : String
  deriving DecidableEq, Repr

/-- The tag in front of `s`. A tag in angle brackets, and the lone exclamation mark, have an empty
handle. -/
def writtenTag? (inFlow : Bool) (s : Source) : Option (WrittenTag × Source) := do
  let (tag, s) ←
    if s.peek? 1 == some '<' then do
      let (suffix, s) ← tagAddress? true [] (s.advance 2)
      if !s.startsWith '>' then none
      pure (⟨"", suffix⟩, s.advance 1)
    else do
      let (handle, s) ← tagHandle? s
      if handle.length > 1 && handle.getLast? == some '!' then
        let (suffix, s) ← tagAddress? false [] s
        pure ((⟨String.ofList handle, suffix⟩ : WrittenTag), s)
      else
        let (suffix, s) ← tagAddress? false handle s
        pure (if suffix.isEmpty then ⟨"", "!"⟩ else ⟨"!", suffix⟩, s)
  if !(inFlow && s.startsWith ',') && !s.isGapAt 0 then none
  return (tag, s)

end BrokerControl.Yaml
