/-!
# Sources

What is left of a text, and the place in it where that begins. Places count characters; a carriage
return and a line feed end one line together. The character classes of YAML stand here too.
-/

namespace BrokerControl.Yaml

/-- The characters that a YAML text may hold. -/
def isAllowed (c : Char) : Bool :=
  let n := c.toNat
  n = 0x09 || n = 0x0A || n = 0x0D || decide (0x20 ≤ n ∧ n ≤ 0x7E) || n = 0x85 ||
    decide (0xA0 ≤ n ∧ n ≤ 0xD7FF) || decide (0xE000 ≤ n ∧ n ≤ 0xFFFD) || decide (0x10000 ≤ n)

/-- The mark that may stand in front of a text. -/
def byteOrderMark : Char := '\uFEFF'

/-- The line breaks that keep their shape when a line is folded. -/
def isSpecialBreak (c : Char) : Bool := c = '\u2028' || c = '\u2029'

/-- Whether `c` ends a line. -/
def isBreak (c : Char) : Bool := c = '\n' || c = '\r' || c = '\u0085' || isSpecialBreak c

/-- Whether `c` separates words on a line. -/
def isBlank (c : Char) : Bool := c = ' ' || c = '\t'

/-- Whether `c` may be part of a name. -/
def isWord (c : Char) : Bool := c.isAlphanum || c = '_' || c = '-'

/-- A place in a text, and what is left of the text there. -/
structure Source where
  rest : List Char
  index : Nat
  line : Nat
  column : Nat

namespace Source

/-- The start of a text. -/
def ofList (cs : List Char) : Source := ⟨cs, 0, 0, 0⟩

/-- The character `k` places ahead. -/
def peek? (s : Source) (k : Nat) : Option Char := s.rest[k]?

/-- Whether the next character is `c`. -/
def startsWith (s : Source) (c : Char) : Bool := s.rest.head? == some c

/-- Whether the text has ended. -/
def isAtEnd (s : Source) : Bool := s.rest.isEmpty

/-- Whether the next character is one of the class. -/
def startsIn (s : Source) (p : Char → Bool) : Bool := s.rest.head?.any p

/-- Whether a blank, a line break or the end stands `k` places ahead. -/
def isGapAt (s : Source) (k : Nat) : Bool := (s.peek? k).all fun c ↦ isBlank c || isBreak c

/-- Whether a line break or the end is next. -/
def isAtLineEnd (s : Source) : Bool := s.rest.head?.all isBreak

/-- What is left after `n` characters of one line. -/
def advance (s : Source) (n : Nat) : Source :=
  ⟨s.rest.drop n, s.index + n, s.line, s.column + n⟩

/-- What is left after the characters of the class; none of them ends a line. -/
def skipWhile (s : Source) (p : Char → Bool) : Source := s.advance (s.rest.takeWhile p).length

/-- What is left after the line break that is next. -/
def skipBreak (s : Source) : Source :=
  match s.rest with
  | '\r' :: '\n' :: rest => ⟨rest, s.index + 2, s.line + 1, 0⟩
  | _ :: rest => ⟨rest, s.index + 1, s.line + 1, 0⟩
  | [] => s

/-- The line break that is next, as it is kept: all but the special ones become a line feed. -/
def breakText (s : Source) : List Char :=
  match s.rest with
  | c :: _ => if isSpecialBreak c then [c] else if isBreak c then ['\n'] else []
  | [] => []

/-- Whether three times `c`, and then a gap, stand at the start of the line. -/
def isAtMark (s : Source) (c : Char) : Bool :=
  s.column == 0 && s.rest.take 3 == [c, c, c] && s.isGapAt 3

/-- Whether the mark of a document's start or end is next. -/
def isAtDocumentMark (s : Source) : Bool := s.isAtMark '-' || s.isAtMark '.'

end Source

/-! ## Gaps between words -/

/-- The blanks and line breaks between two words of a scalar. -/
structure Gap where
  /-- The blanks before the first break. -/
  blanks : List Char
  /-- Whether the line was broken. -/
  broken : Bool
  /-- The first break; none if it was escaped. -/
  first : List Char
  /-- The further breaks. -/
  further : List Char

namespace Gap

/-- The gap in which nothing was read, behind an escaped line break or not. -/
def start (escaped : Bool) : Gap := ⟨[], escaped, [], []⟩

/-- What a gap stands for: the blanks of a line, or a fold of its breaks. One break becomes a
space, of several the first is dropped. -/
def text (g : Gap) : List Char :=
  if !g.broken then g.blanks
  else if g.first = ['\n'] then (if g.further.isEmpty then [' '] else g.further)
  else g.first ++ g.further

/-- Reads a gap to its end. A tab left of column `least` on a new line is an error. -/
def read (least : Int) : Nat → Gap → Source → Option (Gap × Source)
  | 0, _, _ => none
  | fuel + 1, g, s =>
    match s.rest with
    | [] => some (g, s)
    | c :: _ =>
      if isBlank c then
        if g.broken && decide ((s.column : Int) < least) && c = '\t' then none
        else read least fuel (if g.broken then g else { g with blanks := g.blanks ++ [c] })
          (s.advance 1)
      else if isBreak c then
        read least fuel
          (if g.broken then { g with further := g.further ++ s.breakText }
            else ⟨[], true, s.breakText, []⟩) s.skipBreak
      else some (g, s)

/-- The gap in front of `s`. -/
def read? (least : Int) (escaped : Bool) (s : Source) : Option (Gap × Source) :=
  read least (s.rest.length + 1) (start escaped) s

end Gap

end BrokerControl.Yaml
