import BrokerControl.Json.Printer
import BrokerControl.Json.Reader
import Mathlib.Tactic.SplitIfs

/-!
# Strings in JSON

A string that is written in quotes is read back, whatever characters it has
(`Json.string?At_quote`): each is read from what stands for it (`Json.stringBody?_escape`). So is an
object with a string in its only field (`Json.parse?_compact_field`).
-/

namespace BrokerControl

/-- A hexadecimal digit in lower case is read as its value. -/
theorem Digit.hex?_digitChar {n : Nat} (h : n < 16) : Digit.hex? (Nat.digitChar n) = some n := by
  revert n
  decide

namespace Json

/-- The four digits of a code are read as the code. -/
theorem hexFour?_digitChar {n : Nat} (h : n < 0x10000) :
    hexFour? (Nat.digitChar (n / 4096 % 16)) (Nat.digitChar (n / 256 % 16))
      (Nat.digitChar (n / 16 % 16)) (Nat.digitChar (n % 16)) = some n := by
  have hdigit (k : Nat) : Digit.hex? (Nat.digitChar (k % 16)) = some (k % 16) :=
    Digit.hex?_digitChar (Nat.mod_lt _ (by decide))
  have hvalue : Digit.value 16 [n / 4096 % 16, n / 256 % 16, n / 16 % 16, n % 16] = n := by
    simp only [Digit.value, List.foldl_cons, List.foldl_nil]
    omega
  simp only [hexFour?, hdigit]
  exact congrArg some hvalue

/-- A control character is read from its code. -/
theorem stringBody?_control {c : Char} (h : c.toNat < 0x20) (s : List Char) :
    stringBody? ('\\' :: 'u' :: hexFour c.toNat ++ s) =
      (stringBody? s).map fun (cs, rest) ↦ (c :: cs, rest) := by
  have hcode := hexFour?_digitChar (n := c.toNat) (by omega)
  have hlow : isLowSurrogate c.toNat = false := decide_eq_false (by omega)
  have hhigh : isHighSurrogate c.toNat = false := decide_eq_false (by omega)
  show stringBody? ('\\' :: 'u' :: Nat.digitChar _ :: Nat.digitChar _ :: Nat.digitChar _ ::
    Nat.digitChar _ :: s) = _
  rw [stringBody?, hcode]
  simp only [Option.bind_eq_bind, Option.bind_some, hlow, hhigh, Char.ofNat_toNat]
  cases stringBody? s <;> rfl

/-- A character is read from the letter that stands for it behind a backslash. -/
theorem stringBody?_letter {x c : Char} (h : unescape? x = some c) (s : List Char) :
    stringBody? ('\\' :: x :: s) = (stringBody? s).map fun (cs, rest) ↦ (c :: cs, rest) := by
  have hcode : x ≠ 'u' := by
    rintro rfl
    cases h
  rw [stringBody?.eq_4 x s fun _ _ _ _ _ hx _ ↦ hcode hx, h]
  cases stringBody? s <;> rfl

/-- Other characters stand for themselves. -/
theorem stringBody?_plain {c : Char} (hquote : c ≠ '"') (hback : c ≠ '\\') (h : ¬ c.toNat < 0x20)
    (s : List Char) :
    stringBody? (c :: s) = (stringBody? s).map fun (cs, rest) ↦ (c :: cs, rest) := by
  rw [stringBody?.eq_5 c s hquote (fun _ _ _ _ _ hc _ ↦ hback hc) fun _ _ hc _ ↦ hback hc,
    if_neg (not_or.mpr ⟨hback, h⟩)]

/-- A character is read from what stands for it inside a string. -/
theorem stringBody?_escape (c : Char) (s : List Char) :
    stringBody? (escape c ++ s) = (stringBody? s).map fun (cs, rest) ↦ (c :: cs, rest) := by
  rw [escape]
  split_ifs with hquote hback hb hf hn hr ht hcontrol
  -- The quote, the backslash and the five controls that have letters.
  case pos | pos | pos | pos | pos | pos | pos =>
    subst c
    exact stringBody?_letter (by decide) s
  · exact stringBody?_control hcontrol s
  · exact stringBody?_plain hquote hback hcontrol s

theorem stringBody?_flatMap (cs rest : List Char) :
    stringBody? (cs.flatMap escape ++ '"' :: rest) = some (cs, rest) := by
  induction cs with
  | nil => rfl
  | cons c cs ih =>
      rw [List.flatMap_cons, List.append_assoc, stringBody?_escape, ih, Option.map_some]

/-- A string is read back from its quotes. -/
theorem string?At_quote (t : String) (rest : List Char) :
    string?At (quote t ++ rest) = some (t, rest) := by
  have hquote : quote t ++ rest = '"' :: (t.toList.flatMap escape ++ '"' :: rest) := by
    simp [quote]
  rw [hquote, string?At, stringBody?_flatMap, Option.map_some]
  exact congrArg (fun t ↦ some (t, rest)) String.ofList_toList

theorem value?_quote (fuel depth : Nat) (t : String) (rest : List Char) :
    value? (fuel + 1) depth (quote t ++ rest) = some (.string t, rest) := by
  have hquote : quote t ++ rest = '"' :: (t.toList.flatMap escape ++ '"' :: rest) := by
    simp [quote]
  have hblank : skipBlanks ('"' :: (t.toList.flatMap escape ++ '"' :: rest)) =
      '"' :: (t.toList.flatMap escape ++ '"' :: rest) := rfl
  rw [hquote, value?, hblank]
  show (stringBody? _).map _ = _
  rw [stringBody?_flatMap, Option.map_some]
  exact congrArg (fun t ↦ some (string t, rest)) String.ofList_toList

theorem field?At_quote (fuel depth : Nat) (key t : String) (rest : List Char) :
    field?At (fuel + 2) depth (quote key ++ ':' :: (quote t ++ rest)) =
      some ((key, .string t), rest) := by
  have hblank : skipBlanks (quote key ++ ':' :: (quote t ++ rest)) =
      quote key ++ ':' :: (quote t ++ rest) := rfl
  rw [field?At, hblank, string?At_quote]
  show (value? (fuel + 1) depth (quote t ++ rest)).bind _ = _
  rw [value?_quote]
  rfl

/-- An object with a string in its only field is read back from its text. -/
theorem parse?_compact_field (key t : String) :
    parse? (compact (.object [(key, .string t)])) = some (.object [(key, .string t)]) := by
  let field : List Char := quote key ++ ':' :: (quote t ++ ['}'])
  have hchars : (compact (.object [(key, .string t)])).toList = '{' :: field := by
    rw [compact, String.toList_ofList]
    simp [compactChars, compactFields, field]
  -- The object, its field and its end take three steps.
  obtain ⟨n, hn⟩ : ∃ n, 2 * ('{' :: field).length + 2 = n + 3 := ⟨_, rfl⟩
  have hvalue : value? (n + 3) deepest ('{' :: field) = some (.object [(key, .string t)], []) := by
    rw [value?, deepest]
    show (field?At (n + 2) _ field).bind _ = _
    rw [field?At_quote]
    show (fields? (n + 2) _ ['}']).bind _ = _
    rw [fields?]
    rfl
  rw [parse?, parseWithin?, hchars]
  simp only [hn, hvalue]
  rfl

end Json

end BrokerControl
