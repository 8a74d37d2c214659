import BrokerControl.Url.International.Runs

/-!
# Composed form

Characters and their marks in the form in which no two of them could stand as one: every character
is taken apart, marks are put in the order of their classes, and what can be joined is joined.
Syllables of Hangul are composed by arithmetic, all other characters by a table of pairs.
-/

namespace BrokerControl.International

/-- What is known about the composition of characters. -/
structure Composer where
  pairs : List CharPair
  classes : List PropertyRun

namespace Composer

/-- The tables of composition. -/
def standard (_ : Unit) : Composer := ⟨International.pairs (), propertyRuns classRuns⟩

variable (t : Composer)

/-- The class of a character; zero for all that do not combine. -/
def classOf (c : Char) : Nat := ((property? t.classes c).map hex).getD 0

/-! ## Hangul -/

/-- The first syllable. -/
def syllableBase : Nat := 0xAC00

/-- The first leading consonant. -/
def leadBase : Nat := 0x1100

/-- The first vowel. -/
def vowelBase : Nat := 0x1161

/-- One before the first trailing consonant. -/
def tailBase : Nat := 0x11A7

/-- How many vowels there are. -/
def vowelCount : Nat := 21

/-- How many endings there are, counting none as one. -/
def tailCount : Nat := 28

/-- How many leading consonants there are. -/
def leadCount : Nat := 19

/-- How many syllables there are. -/
def syllableCount : Nat := leadCount * vowelCount * tailCount

/-- The parts of a syllable. -/
def syllableParts? (n : Nat) : Option (List Nat) :=
  if syllableBase ≤ n ∧ n < syllableBase + syllableCount then
    let i := n - syllableBase
    let front := [leadBase + i / (vowelCount * tailCount), vowelBase + i / tailCount % vowelCount]
    some (if i % tailCount = 0 then front else front ++ [tailBase + i % tailCount])
  else none

/-- The syllable that two parts make. -/
def syllable? (a b : Nat) : Option Nat :=
  if leadBase ≤ a ∧ a < leadBase + leadCount ∧ vowelBase ≤ b ∧ b < vowelBase + vowelCount then
    some (syllableBase + ((a - leadBase) * vowelCount + (b - vowelBase)) * tailCount)
  else if syllableBase ≤ a ∧ a < syllableBase + syllableCount ∧
      (a - syllableBase) % tailCount = 0 ∧ tailBase < b ∧ b < tailBase + tailCount then
    some (a + (b - tailBase))
  else none

/-! ## Taking apart and joining -/

/-- A character taken apart, at most `depth` times. -/
def apart : Nat → Nat → List Nat
  | 0, n => [n]
  | depth + 1, n =>
    match syllableParts? n with
    | some parts => parts
    | none =>
      match t.pairs.find? fun p ↦ p.both == n with
      | some p => apart depth p.first ++ [p.second]
      | none => [n]

/-- Puts a mark behind those of a run whose class is not greater; the run comes in reverse. -/
def settle (c : Char) : List Char → List Char
  | [] => [c]
  | d :: more =>
    if 0 < t.classOf c ∧ t.classOf c < t.classOf d then d :: settle c more else c :: d :: more

/-- Marks in the order of their classes. -/
def ordered (cs : List Char) : List Char := (cs.foldl (fun run c ↦ t.settle c run) []).reverse

/-- The character that two others make. -/
def joined? (a b : Char) : Option Char :=
  match syllable? a.toNat b.toNat with
  | some n => some (Char.ofNat n)
  | none =>
    (t.pairs.find? fun p ↦ p.first == a.toNat && p.second == b.toNat).map fun p ↦ Char.ofNat p.both

/-- Joins what follows `starter` with it as far as nothing stands between. `passed` are the marks
that could not be joined, the latest first. -/
def joinFrom (starter : Char) (passed : List Char) : List Char → List Char
  | [] => starter :: passed.reverse
  | c :: cs =>
    let free := match passed with
      | [] => true
      | d :: _ => decide (t.classOf d < t.classOf c)
    match if free then t.joined? starter c else none with
    | some x => joinFrom x passed cs
    | none =>
      if t.classOf c = 0 then starter :: passed.reverse ++ joinFrom c [] cs
      else joinFrom starter (c :: passed) cs

/-- The composed form of a text. -/
def compose (cs : List Char) : List Char :=
  match t.ordered ((cs.flatMap fun c ↦ t.apart 4 c.toNat).map Char.ofNat) with
  | [] => []
  | c :: cs => t.joinFrom c [] cs

end Composer

end BrokerControl.International
