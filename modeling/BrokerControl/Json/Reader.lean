import BrokerControl.Decimal.Reading
import BrokerControl.Json.Value
import BrokerControl.Text.Digit

/-!
# Reading JSON

`Json.parse?` reads one value and nothing after it. Containers may nest to a given depth; the last
value of a repeated key stays; an integer that fits neither 64-bit range is read as a double, and
a double that overflows is no number. `Json.skip?` passes over a value whose content is not
wanted: it checks the grammar alone, to any depth.
-/

namespace BrokerControl

namespace Json

/-- The characters between tokens. -/
def isBlank (c : Char) : Bool := c = ' ' || c = '\n' || c = '\t' || c = '\r'

/-- What is left after the blanks in front. -/
def skipBlanks (s : List Char) : List Char := s.dropWhile isBlank

/-- What is left after the given literal, if `s` starts with it. -/
def literal? : List Char → List Char → Option (List Char)
  | [], s => some s
  | c :: cs, d :: s => if c = d then literal? cs s else none
  | _ :: _, [] => none

/-! ## Numbers -/

/-- The digits in front of `s`, and what is left. -/
def digits (s : List Char) : List Nat × List Char :=
  ((s.takeWhile Char.isDigit).filterMap Digit.decimal?, s.dropWhile Char.isDigit)

/-- The digits in front of `s`, at least one. -/
def digits? (s : List Char) : Option (List Nat × List Char) :=
  match digits s with
  | ([], _) => none
  | (d :: ds, rest) => some (d :: ds, rest)

/-- The digits of an integer part: one zero, or a run that starts with no zero. -/
def integerPart? (s : List Char) : Option (List Nat × List Char) :=
  match digits s with
  | ([], _) => none
  | ([d], rest) => some ([d], rest)
  | (d :: ds, rest) => if d = 0 then none else some (d :: ds, rest)

/-- The fraction behind a point, if there is a point. -/
def fraction? : List Char → Option (Option (List Nat) × List Char)
  | '.' :: s => (digits? s).map fun (ds, rest) ↦ (some ds, rest)
  | s => some (none, s)

/-- The digits of an exponent with an optional sign. -/
def signedDigits? : List Char → Option (Int × List Char)
  | '+' :: s => (digits? s).map fun (ds, rest) ↦ ((Digit.value 10 ds : Int), rest)
  | '-' :: s => (digits? s).map fun (ds, rest) ↦ (-(Digit.value 10 ds : Int), rest)
  | s => (digits? s).map fun (ds, rest) ↦ ((Digit.value 10 ds : Int), rest)

/-- The exponent behind its letter, if there is one. -/
def exponent? : List Char → Option (Option Int × List Char)
  | c :: s =>
    if c = 'e' ∨ c = 'E' then (signedDigits? s).map fun (e, rest) ↦ (some e, rest)
    else some (none, c :: s)
  | [] => some (none, [])

/-- The parts that a number is written in. -/
structure Numeral where
  negative : Bool
  whole : List Nat
  fraction : Option (List Nat)
  exponent : Option Int

/-- The parts of the number in front of `s`. -/
def numeral? (s : List Char) : Option (Numeral × List Char) := do
  let (negative, s) := match s with
    | '-' :: rest => (true, rest)
    | rest => (false, rest)
  let (whole, s) ← integerPart? s
  let (fraction, s) ← fraction? s
  let (exponent, s) ← exponent? s
  return (⟨negative, whole, fraction, exponent⟩, s)

namespace Numeral

/-- The number with these parts as a double. Digits are taken as long as they fit 64 bits; those of
the whole part that do not fit raise the exponent. -/
def toFloat? (n : Numeral) : Option Float := do
  let (significand, left) := Decimal.absorb 0 n.whole
  let fraction := n.fraction.getD []
  let (significand, unread) := Decimal.absorb significand fraction
  let point : Int := left.length - (fraction.length - unread.length : Nat)
  let f ← Decimal.quick significand (point + n.exponent.getD 0)
  return if n.negative then -f else f

/-- The number with these parts: an integer when it is written as one and fits 64 bits with or
without a sign. A negative zero is a double. -/
def number? (n : Numeral) : Option Number :=
  let value := Digit.value 10 n.whole
  if n.fraction.isSome || n.exponent.isSome then n.toFloat?.map .float
  else if n.negative then
    if 0 < value ∧ value ≤ 0x8000000000000000 then some (.int (-value)) else n.toFloat?.map .float
  else if value ≤ 0xFFFFFFFFFFFFFFFF then some (.int value)
  else n.toFloat?.map .float

end Numeral

/-! ## Strings -/

/-- The code that four hexadecimal digits write. -/
def hexFour? (a b c d : Char) : Option Nat := do
  return Digit.value 16 [← Digit.hex? a, ← Digit.hex? b, ← Digit.hex? c, ← Digit.hex? d]

/-- The character that a backslash and one letter stand for. -/
def unescape? (c : Char) : Option Char :=
  if c = '"' then some '"'
  else if c = '\\' then some '\\'
  else if c = '/' then some '/'
  else if c = 'b' then some '\x08'
  else if c = 'f' then some '\x0c'
  else if c = 'n' then some '\n'
  else if c = 'r' then some '\r'
  else if c = 't' then some '\t'
  else none

/-- The first half of a surrogate pair. -/
def isHighSurrogate (n : Nat) : Bool := decide (0xD800 ≤ n ∧ n < 0xDC00)

/-- The second half of a surrogate pair. -/
def isLowSurrogate (n : Nat) : Bool := decide (0xDC00 ≤ n ∧ n < 0xE000)

/-- The character of a pair of surrogates. -/
def pair (high low : Nat) : Char :=
  Char.ofNat (0x10000 + (high - 0xD800) * 0x400 + (low - 0xDC00))

/-- The characters up to the closing quote, and what follows it. A control character, an unknown
escape and half a surrogate pair are errors. -/
def stringBody? : List Char → Option (List Char × List Char)
  | [] => none
  | '"' :: rest => some ([], rest)
  | '\\' :: 'u' :: a :: b :: c :: d :: rest => do
    let n ← hexFour? a b c d
    if isLowSurrogate n then none
    else if isHighSurrogate n then
      -- The first half of a pair stands only right in front of a second one.
      match rest with
      | '\\' :: 'u' :: e :: f :: g :: h :: rest =>
        let m ← hexFour? e f g h
        if isLowSurrogate m then
          let (cs, rest) ← stringBody? rest
          return (pair n m :: cs, rest)
        else none
      | _ => none
    else
      let (cs, rest) ← stringBody? rest
      return (Char.ofNat n :: cs, rest)
  | '\\' :: c :: rest => do
    let x ← unescape? c
    let (cs, rest) ← stringBody? rest
    return (x :: cs, rest)
  | c :: rest =>
    if c = '\\' ∨ c.toNat < 0x20 then none
    else (stringBody? rest).map fun (cs, rest) ↦ (c :: cs, rest)

/-- The quoted string in front of `s`. -/
def string?At : List Char → Option (String × List Char)
  | '"' :: s => (stringBody? s).map fun (cs, rest) ↦ (String.ofList cs, rest)
  | _ => none

/-! ## Values -/

mutual

/-- The value in front of `s`; `depth` containers may be opened on the way. Every call takes a
character, so `fuel` at the length of the text is enough. -/
def value? (fuel depth : Nat) (s : List Char) : Option (Json × List Char) :=
  match fuel with
  | 0 => none
  | fuel + 1 =>
    match skipBlanks s with
    | [] => none
    | '"' :: s => (stringBody? s).map fun (cs, rest) ↦ (.string (String.ofList cs), rest)
    | '[' :: s =>
      match depth with
      | 0 => none
      | depth + 1 =>
        match skipBlanks s with
        | ']' :: rest => some (.array [], rest)
        | s => do
          let (x, s) ← value? fuel depth s
          let (xs, rest) ← items? fuel depth s
          return (.array (x :: xs), rest)
    | '{' :: s =>
      match depth with
      | 0 => none
      | depth + 1 =>
        match skipBlanks s with
        | '}' :: rest => some (.object [], rest)
        | s => do
          let (f, s) ← field?At fuel depth s
          let (fs, rest) ← fields? fuel depth s
          return (.object (Object.ofList (f :: fs)), rest)
    | 'n' :: s => (literal? ['u', 'l', 'l'] s).map fun rest ↦ (.null, rest)
    | 't' :: s => (literal? ['r', 'u', 'e'] s).map fun rest ↦ (.bool true, rest)
    | 'f' :: s => (literal? ['a', 'l', 's', 'e'] s).map fun rest ↦ (.bool false, rest)
    | s => do
      let (n, rest) ← numeral? s
      return (.number (← n.number?), rest)

/-- The further items of an array and its end. -/
def items? (fuel depth : Nat) (s : List Char) : Option (List Json × List Char) :=
  match fuel with
  | 0 => none
  | fuel + 1 =>
    match skipBlanks s with
    | ']' :: rest => some ([], rest)
    | ',' :: s => do
      let (x, s) ← value? fuel depth s
      let (xs, rest) ← items? fuel depth s
      return (x :: xs, rest)
    | _ => none

/-- A field: its key, a colon and its value. -/
def field?At (fuel depth : Nat) (s : List Char) : Option ((String × Json) × List Char) :=
  match fuel with
  | 0 => none
  | fuel + 1 => do
    let (key, s) ← string?At (skipBlanks s)
    match skipBlanks s with
    | ':' :: s =>
      let (x, rest) ← value? fuel depth s
      return ((key, x), rest)
    | _ => none

/-- The further fields of an object and its end. -/
def fields? (fuel depth : Nat) (s : List Char) : Option (List (String × Json) × List Char) :=
  match fuel with
  | 0 => none
  | fuel + 1 =>
    match skipBlanks s with
    | '}' :: rest => some ([], rest)
    | ',' :: s => do
      let (f, s) ← field?At fuel depth s
      let (fs, rest) ← fields? fuel depth s
      return (f :: fs, rest)
    | _ => none

end

/-- The deepest nesting of containers that is read. -/
def deepest : Nat := 127

/-- The value that `text` holds, with containers nested at most `depth` deep. -/
def parseWithin? (depth : Nat) (text : String) : Option Json :=
  let s := text.toList
  match value? (2 * s.length + 2) depth s with
  | some (v, rest) => if (skipBlanks rest).isEmpty then some v else none
  | none => none

/-- The value that `text` holds. -/
def parse? (text : String) : Option Json := parseWithin? deepest text

/-! ## Passing over a value -/

/-- What is left after the closing quote of a string whose text is not wanted; surrogates need no
partner here. -/
def skipString? : List Char → Option (List Char)
  | [] => none
  | '"' :: rest => some rest
  | '\\' :: 'u' :: a :: b :: c :: d :: rest =>
    if (hexFour? a b c d).isSome then skipString? rest else none
  | '\\' :: c :: rest => if (unescape? c).isSome then skipString? rest else none
  | c :: rest => if c = '\\' ∨ c.toNat < 0x20 then none else skipString? rest

mutual

/-- What is left after the value in front of `s`. -/
def skip? (fuel : Nat) (s : List Char) : Option (List Char) :=
  match fuel with
  | 0 => none
  | fuel + 1 =>
    match skipBlanks s with
    | [] => none
    | '"' :: s => skipString? s
    | '[' :: s =>
      match skipBlanks s with
      | ']' :: rest => some rest
      | s => (skip? fuel s).bind (skipItems? fuel)
    | '{' :: s =>
      match skipBlanks s with
      | '}' :: rest => some rest
      | s => (skipField? fuel s).bind (skipFields? fuel)
    | 'n' :: s => literal? ['u', 'l', 'l'] s
    | 't' :: s => literal? ['r', 'u', 'e'] s
    | 'f' :: s => literal? ['a', 'l', 's', 'e'] s
    | s => (numeral? s).map (·.2)

/-- What is left after the further items of an array. -/
def skipItems? (fuel : Nat) (s : List Char) : Option (List Char) :=
  match fuel with
  | 0 => none
  | fuel + 1 =>
    match skipBlanks s with
    | ']' :: rest => some rest
    | ',' :: s => (skip? fuel s).bind (skipItems? fuel)
    | _ => none

/-- What is left after a key, a colon and a value. -/
def skipField? (fuel : Nat) (s : List Char) : Option (List Char) :=
  match fuel with
  | 0 => none
  | fuel + 1 =>
    match skipBlanks s with
    | '"' :: s =>
      match (skipString? s).map skipBlanks with
      | some (':' :: s) => skip? fuel s
      | _ => none
    | _ => none

/-- What is left after the further fields of an object. -/
def skipFields? (fuel : Nat) (s : List Char) : Option (List Char) :=
  match fuel with
  | 0 => none
  | fuel + 1 =>
    match skipBlanks s with
    | '}' :: rest => some rest
    | ',' :: s => (skipField? fuel s).bind (skipFields? fuel)
    | _ => none

end

end Json

end BrokerControl
