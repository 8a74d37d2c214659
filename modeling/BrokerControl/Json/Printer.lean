import BrokerControl.Decimal.Shortest
import BrokerControl.Json.Value

/-!
# Writing JSON

Two layouts of one value: on one line, and with one item a line, indented by two spaces. Strings
are escaped as little as the format allows. A double is written with its shortest digits, with a
point or an exponent, so that it never reads as an integer.
-/

namespace BrokerControl

namespace Number

/-- Decimal exponents that are written positionally: `0.00001` and `1000000000000000.0` still are,
`1e-6` and `1e+16` no longer. -/
def isPositional (leading : Int) : Bool := decide (-5 ≤ leading ∧ leading ≤ 15)

/-- The text of a positive decimal whose digits are `ds` and whose last digit counts
`10^exponent`. -/
def decimalText (ds : List Char) (exponent : Int) : List Char :=
  let leading := (ds.length : Int) - 1 + exponent
  if isPositional leading then
    if 0 ≤ exponent then ds ++ List.replicate exponent.toNat '0' ++ ['.', '0']
    else if 0 ≤ leading then
      ds.take (leading.toNat + 1) ++ '.' :: ds.drop (leading.toNat + 1)
    else '0' :: '.' :: List.replicate (-leading - 1).toNat '0' ++ ds
  else
    let mantissa := match ds with
      | [] => []
      | [d] => [d]
      | d :: more => d :: '.' :: more
    let sign := if leading < 0 then '-' else '+'
    mantissa ++ 'e' :: sign :: Nat.toDigits 10 leading.natAbs

/-- The text of a double; infinities and NaN have none in JSON and are written `null`. -/
def floatText (x : Float) : List Char :=
  let negative := x.toBits.toNat / 0x8000000000000000 == 1
  let sign := if negative then ['-'] else []
  match Decimal.Binary.ofFloat? x with
  | some b =>
    let s := b.shortest
    sign ++ decimalText (Nat.toDigits 10 s.digits) s.exponent
  | none => if x == 0 then sign ++ ['0', '.', '0'] else ['n', 'u', 'l', 'l']

/-- The text of an integer. -/
def intText (n : Int) : List Char :=
  if n < 0 then '-' :: Nat.toDigits 10 n.natAbs else Nat.toDigits 10 n.natAbs

/-- The text of a number. -/
def text : Number → List Char
  | int n => intText n
  | float x => floatText x

end Number

namespace Json

/-- The four hexadecimal digits of a code below `2^16`, in lower case. -/
def hexFour (n : Nat) : List Char :=
  [n / 4096 % 16, n / 256 % 16, n / 16 % 16, n % 16].map Nat.digitChar

/-- One character inside a string: the two that end or escape, and the controls, are escaped. -/
def escape (c : Char) : List Char :=
  if c = '"' then ['\\', '"']
  else if c = '\\' then ['\\', '\\']
  else if c = '\x08' then ['\\', 'b']
  else if c = '\x0c' then ['\\', 'f']
  else if c = '\n' then ['\\', 'n']
  else if c = '\r' then ['\\', 'r']
  else if c = '\t' then ['\\', 't']
  else if c.toNat < 0x20 then '\\' :: 'u' :: hexFour c.toNat
  else [c]

/-- A string in its quotes. -/
def quote (s : String) : List Char := '"' :: s.toList.flatMap escape ++ ['"']

/-- A new line at the given depth. -/
def newline (depth : Nat) : List Char := '\n' :: List.replicate (2 * depth) ' '

mutual

/-- The characters of a value on one line. -/
def compactChars : Json → List Char
  | null => ['n', 'u', 'l', 'l']
  | bool true => ['t', 'r', 'u', 'e']
  | bool false => ['f', 'a', 'l', 's', 'e']
  | number n => n.text
  | string s => quote s
  | array [] => ['[', ']']
  | array (x :: xs) => '[' :: compactChars x ++ compactItems xs ++ [']']
  | object [] => ['{', '}']
  | object ((k, x) :: fs) => '{' :: quote k ++ ':' :: compactChars x ++ compactFields fs ++ ['}']

/-- Further items, each after a comma. -/
def compactItems : List Json → List Char
  | [] => []
  | x :: xs => ',' :: compactChars x ++ compactItems xs

/-- Further fields, each after a comma. -/
def compactFields : List (String × Json) → List Char
  | [] => []
  | (k, x) :: fs => ',' :: quote k ++ ':' :: compactChars x ++ compactFields fs

end

mutual

/-- The characters of a value with one item a line; `depth` counts the containers around it. -/
def indentedChars (depth : Nat) : Json → List Char
  | array (x :: xs) =>
    '[' :: newline (depth + 1) ++ indentedChars (depth + 1) x ++ indentedItems (depth + 1) xs
      ++ newline depth ++ [']']
  | object ((k, x) :: fs) =>
    '{' :: newline (depth + 1) ++ quote k ++ ':' :: ' ' :: indentedChars (depth + 1) x
      ++ indentedFields (depth + 1) fs ++ newline depth ++ ['}']
  | array [] => ['[', ']']
  | object [] => ['{', '}']
  | null => ['n', 'u', 'l', 'l']
  | bool true => ['t', 'r', 'u', 'e']
  | bool false => ['f', 'a', 'l', 's', 'e']
  | number n => n.text
  | string s => quote s

/-- Further items, each on a line of its own. -/
def indentedItems (depth : Nat) : List Json → List Char
  | [] => []
  | x :: xs => ',' :: newline depth ++ indentedChars depth x ++ indentedItems depth xs

/-- Further fields, each on a line of its own. -/
def indentedFields (depth : Nat) : List (String × Json) → List Char
  | [] => []
  | (k, x) :: fs =>
    ',' :: newline depth ++ quote k ++ ':' :: ' ' :: indentedChars depth x
      ++ indentedFields depth fs

end

/-- The value on one line. -/
def compact (v : Json) : String := String.ofList v.compactChars

/-- The value with one item a line, indented by two spaces. -/
def indented (v : Json) : String := String.ofList (v.indentedChars 0)

end Json

end BrokerControl
