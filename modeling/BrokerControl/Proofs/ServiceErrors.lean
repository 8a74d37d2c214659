import BrokerControl.Proofs.Excerpts
import BrokerControl.Proofs.Quotes
import BrokerControl.Service.Error
import Mathlib.Data.List.ReduceOption
import Mathlib.Data.List.TakeWhile
import Mathlib.Data.String.Basic

/-!
# The words of a service error

Where the code and the message of a service error come from (`ServiceError.words_exact`). A header
that has no code leaves it to the body, but a field of the body that is there decides, also if there
is no code or no message in it: the field behind it is not looked at. The line for a log has the
message that stands in the body as it is, and an excerpt of the body only where there is none
(`ServiceError.display_exact`).
-/

namespace BrokerControl

/-! ### The ends of a text -/

namespace Pieces

variable {separator : Char} {piece s : String}

/-- `Front separator piece s` says that `piece` is what `s` has before the first separator. -/
def Front (separator : Char) (piece s : String) : Prop :=
  separator ∉ piece.toList ∧
    (s = piece ∨ ∃ rest, s.toList = piece.toList ++ separator :: rest)

/-- `Back separator piece s` says that `piece` is what `s` has behind the last separator. -/
def Back (separator : Char) (piece s : String) : Prop :=
  separator ∉ piece.toList ∧
    (s = piece ∨ ∃ start, s.toList = start ++ separator :: piece.toList)

theorem takeWhile_eq_iff {cs start : List Char} : cs.takeWhile (· != separator) = start ↔
    separator ∉ start ∧ (cs = start ∨ ∃ rest, cs = start ++ separator :: rest) := by
  constructor
  · rintro rfl
    refine ⟨fun hmem ↦ by simpa using List.mem_takeWhile_imp hmem, ?_⟩
    have hsplit := List.takeWhile_append_dropWhile (p := (· != separator)) (l := cs)
    cases hrest : cs.dropWhile (· != separator) with
    | nil =>
        rw [hrest, List.append_nil] at hsplit
        exact .inl hsplit.symm
    | cons c rest =>
        -- What is not taken starts with a separator.
        have hne : cs.dropWhile (· != separator) ≠ [] := by simp [hrest]
        obtain rfl : c = separator := by
          simpa [hrest] using List.head_dropWhile_not (· != separator) hne
        exact .inr ⟨rest, by rw [← hrest, hsplit]⟩
  · rintro ⟨hmem, hcs⟩
    have hkept : ∀ c ∈ start, (c != separator) = true := by
      intro c hc
      rw [bne_iff_ne]
      rintro rfl
      exact hmem hc
    rcases hcs with rfl | ⟨rest, rfl⟩
    · exact List.takeWhile_eq_self_iff.mpr hkept
    · rw [List.takeWhile_append_of_pos hkept]
      simp

theorem beforeFirst_eq_iff : beforeFirst separator s = piece ↔ Front separator piece s := by
  rw [beforeFirst, ← String.toList_inj, String.toList_ofList, takeWhile_eq_iff, Front,
    String.toList_inj]

theorem afterLast_eq_iff : afterLast separator s = piece ↔ Back separator piece s := by
  rw [afterLast, ← String.toList_inj, String.toList_ofList, List.reverse_eq_iff, takeWhile_eq_iff,
    Back, List.mem_reverse, List.reverse_inj, String.toList_inj]
  refine and_congr_right fun _ ↦ or_congr_right ⟨?_, ?_⟩
  · rintro ⟨rest, h⟩
    exact ⟨rest.reverse, by simpa using congrArg List.reverse h⟩
  · rintro ⟨start, h⟩
    exact ⟨start.reverse, by simp [h]⟩

end Pieces

namespace ServiceError

variable {errorType : Option String} {body code : String} {v : Option Json}

/-! ### Texts in fields -/

theorem bind_string?_eq_some_iff {text : String} :
    v.bind Json.string? = some text ↔ v = some (.string text) := by
  simp only [Option.bind_eq_some_iff, Json.string?_eq_some_iff, exists_eq_right]

theorem bind_string?_eq_none_iff :
    v.bind Json.string? = none ↔ ∀ t, v ≠ some (.string t) := by
  simp only [Option.eq_none_iff_forall_ne_some, ne_eq, bind_string?_eq_some_iff]

/-! ### Codes and messages -/

/-- The field of a body that is an object in JSON. -/
def bodyField? (body key : String) : Option Json := (Json.parse? body).bind (·.field? key)

/-- What a field has behind the last `#` if it is a text. -/
def textBehind? (v : Option Json) : Option String :=
  (v.bind Json.string?).map (Pieces.afterLast '#')

/-- The field of a body that decides about the code: the first of two that is there. -/
def codeField? (body : String) : Option Json :=
  (bodyField? body "__type").or (bodyField? body "code")

/-- The field of a body that decides about the message: the first of two that is there. -/
def messageField? (body : String) : Option Json :=
  (bodyField? body "message").or (bodyField? body "Message")

/-- The places of a code, from the first to the last. -/
def codePlaces (errorType : Option String) (body : String) : List (Option String) :=
  [errorType.map (Pieces.beforeFirst ':'), textBehind? (bodyField? body "__type"),
    textBehind? (bodyField? body "code")]

/-- The places of a message, from the first to the last. -/
def messagePlaces (body : String) : List (Option String) :=
  [(bodyField? body "message").bind Json.string?, (bodyField? body "Message").bind Json.string?]

/-- `HeaderCode errorType code` says that the header has a code. -/
def HeaderCode (errorType : Option String) (code : String) : Prop :=
  code ≠ "" ∧ ∃ t, errorType = some t ∧ Pieces.Front ':' code t

/-- `FieldCode v code` says that a field is a text with `code` behind its last `#`. -/
def FieldCode (v : Option Json) (code : String) : Prop :=
  ∃ t, v = some (.string t) ∧ Pieces.Back '#' code t

theorem headerCode?_eq_some_iff :
    headerCode? errorType = some code ↔ HeaderCode errorType code := by
  rw [headerCode?, Option.filter_eq_some_iff, Option.map_eq_some_iff, HeaderCode, and_comm]
  simp only [Pieces.beforeFirst_eq_iff, Bool.not_eq_true', String.isEmpty_eq_false_iff]

theorem headerCode?_eq_none_iff :
    headerCode? errorType = none ↔ ¬ ∃ code, HeaderCode errorType code := by
  simp only [← headerCode?_eq_some_iff, Option.eq_none_iff_forall_ne_some, not_exists, ne_eq]

theorem textBehind?_eq_some_iff : textBehind? v = some code ↔ FieldCode v code := by
  simp only [textBehind?, Option.map_eq_some_iff, bind_string?_eq_some_iff,
    Pieces.afterLast_eq_iff, FieldCode]

/-- A header that has a code decides, and the body otherwise. -/
theorem code_ofResponse (status : Nat) (errorType : Option String) (body : String) :
    (ofResponse status errorType body).code =
      (headerCode? errorType).or (textBehind? (codeField? body)) := by
  show (headerCode? errorType).or ((Json.parse? body).bind bodyCode?) = _
  rw [codeField?, bodyField?, bodyField?]
  cases Json.parse? body <;> rfl

/-- The message is the text that the body has for it, or an excerpt of the body. -/
theorem message_ofResponse (status : Nat) (errorType : Option String) (body : String) :
    (ofResponse status errorType body).message =
      ((messageField? body).bind Json.string?).getD (Printable.excerpt body) := by
  show ((Json.parse? body).bind bodyMessage?).getD _ = _
  rw [messageField?, bodyField?, bodyField?]
  cases Json.parse? body <;> rfl

theorem code_eq_some_iff {status : Nat} : (ofResponse status errorType body).code = some code ↔
    HeaderCode errorType code ∨
      (¬ ∃ c, HeaderCode errorType c) ∧ FieldCode (codeField? body) code := by
  rw [code_ofResponse, Option.or_eq_some_iff, headerCode?_eq_some_iff, headerCode?_eq_none_iff,
    textBehind?_eq_some_iff]

theorem message_eq_iff {status : Nat} {text : String} :
    (ofResponse status errorType body).message = text ↔
      messageField? body = some (.string text) ∨
        (∀ t, messageField? body ≠ some (.string t)) ∧ text = Printable.excerpt body := by
  rw [message_ofResponse, ← bind_string?_eq_some_iff]
  simp only [ne_eq, ← bind_string?_eq_none_iff]
  cases (messageField? body).bind Json.string? <;> simp [eq_comm]

/-! ### Whether the first usable place is taken -/

/-- The first text with a property stands in the first source or else in those behind it. -/
theorem find?_reduceOption_cons (p : String → Bool) (source : Option String)
    (sources : List (Option String)) :
    (source :: sources).reduceOption.find? p =
      (source.filter p).or (sources.reduceOption.find? p) := by
  cases source with
  | none => rfl
  | some t =>
      rw [List.reduceOption_cons_of_some, List.find?_cons]
      by_cases ht : p t = true <;> simp [Option.filter, ht]

/-- The code of the header is what stands before the colon if that is not empty. -/
theorem headerCode?_eq (errorType : Option String) :
    headerCode? errorType = (errorType.map (Pieces.beforeFirst ':')).filter (· ≠ "") := by
  refine congrArg (fun p ↦ Option.filter p _) (funext fun c ↦ ?_)
  rw [Bool.eq_iff_iff, Bool.not_eq_true', String.isEmpty_eq_false_iff, decide_eq_true_eq]

/-- The first code that is not empty. -/
theorem firstCode_eq (errorType : Option String) (body : String) :
    (codePlaces errorType body).reduceOption.find? (· ≠ "") =
      (headerCode? errorType).or (((textBehind? (bodyField? body "__type")).filter (· ≠ "")).or
        ((textBehind? (bodyField? body "code")).filter (· ≠ ""))) := by
  rw [codePlaces, find?_reduceOption_cons, find?_reduceOption_cons, find?_reduceOption_cons,
    headerCode?_eq, List.reduceOption_nil, List.find?_nil, Option.or_none]

/-- A source that decides is the first that can be used, unless it holds the empty text, or nothing
while the other one can be used. -/
theorem eq_filter_or_iff (source other : Option String) :
    source = (source.filter (· ≠ "")).or (other.filter (· ≠ "")) ↔
      (∃ c, c ≠ "" ∧ source = some c) ∨ (source ≠ some "" ∧ ∀ c, other = some c → c = "") := by
  cases source with
  | none =>
      cases other with
      | none => simp
      | some c => by_cases hc : c = "" <;> simp [Option.filter, hc]
  | some t =>
      by_cases ht : t = ""
      · subst ht
        cases other with
        | none => simp [Option.filter]
        | some c => by_cases hc : c = "" <;> simp [Option.filter, hc, eq_comm]
      · simp [Option.filter, ht]

theorem textBehind?_codeField?_iff (body : String) :
    textBehind? (codeField? body) = ((textBehind? (bodyField? body "__type")).filter (· ≠ "")).or
        ((textBehind? (bodyField? body "code")).filter (· ≠ "")) ↔
      (∃ c, c ≠ "" ∧ FieldCode (codeField? body) c) ∨
        (¬ FieldCode (codeField? body) "" ∧
          ∀ c, FieldCode (bodyField? body "code") c → c = "") := by
  simp only [← textBehind?_eq_some_iff]
  rw [← ne_eq, ← eq_filter_or_iff, codeField?]
  cases bodyField? body "__type" with
  | none =>
      -- Then the other field decides, and is the only one that can be used.
      rw [Option.none_or, Option.or_self]
      rfl
  | some v => rw [Option.some_or]

/-- The field that decides about the message gives the first text, unless it is none and the other
one is. -/
theorem message_eq_first_iff (status : Nat) (errorType : Option String) (body : String) :
    (ofResponse status errorType body).message =
      (messagePlaces body).reduceOption.head?.getD (Printable.excerpt body) ↔
      ∀ v text, bodyField? body "message" = some v → (∀ t, v ≠ .string t) →
        bodyField? body "Message" = some (.string text) → text = Printable.excerpt body := by
  rw [message_ofResponse, messageField?, messagePlaces]
  simp only [← bind_string?_eq_some_iff]
  rcases bodyField? body "message" with _ | v
  · rw [Option.none_or]
    cases (bodyField? body "Message").bind Json.string? <;> simp
  · cases hv : v.string? with
    | some t =>
        obtain rfl := Json.string?_eq_some_iff.mp hv
        refine iff_of_true rfl ?_
        rintro _ text ⟨⟩ hno -
        exact absurd rfl (hno t)
    | none =>
        have hno : ∀ t, v ≠ .string t := by
          rintro t rfl
          cases hv
        cases (bodyField? body "Message").bind Json.string? <;> simp [hv, hno, eq_comm]

/-- The words of a service error, whatever the answer. Its code is that of the header, and without
one there what the first of two fields of the body that is there has behind its last `#`, if that
field is a text. Its message is the first of two fields of the body that is there if that one is a
text, and otherwise an excerpt of the body. So the code is the first one that is not empty exactly
if the header or the field that decides has one, or else that field has none at all and the other
one none that is not empty. The message is the first text exactly if no text but the excerpt itself
stands behind a field that is no text. -/
theorem words_exact (status : Nat) (errorType : Option String) (body : String) :
    let e := ofResponse status errorType body
    (∀ code, e.code = some code ↔ HeaderCode errorType code ∨
      (¬ ∃ c, HeaderCode errorType c) ∧ FieldCode (codeField? body) code) ∧
    (∀ text, e.message = text ↔ messageField? body = some (.string text) ∨
      (∀ t, messageField? body ≠ some (.string t)) ∧ text = Printable.excerpt body) ∧
    (e.code = (codePlaces errorType body).reduceOption.find? (· ≠ "") ↔
      (∃ c, HeaderCode errorType c) ∨ (∃ c, c ≠ "" ∧ FieldCode (codeField? body) c) ∨
        (¬ FieldCode (codeField? body) "" ∧
          ∀ c, FieldCode (bodyField? body "code") c → c = "")) ∧
    (e.message = (messagePlaces body).reduceOption.head?.getD (Printable.excerpt body) ↔
      ∀ v text, bodyField? body "message" = some v → (∀ t, v ≠ .string t) →
        bodyField? body "Message" = some (.string text) → text = Printable.excerpt body) := by
  intro e
  refine ⟨fun code ↦ code_eq_some_iff, fun text ↦ message_eq_iff, ?_,
    message_eq_first_iff status errorType body⟩
  rw [code_ofResponse, firstCode_eq, ← textBehind?_codeField?_iff]
  cases hheader : headerCode? errorType with
  | none => simp [headerCode?_eq_none_iff.mp hheader]
  | some c => simpa using .inl ⟨c, headerCode?_eq_some_iff.mp hheader⟩

/-- A field that is there and has no code, or no message, hides the one behind it, and a code that
is cut down to nothing is taken. -/
theorem unusable_field_hides_next :
    let untyped := "\x7b\"__type\":null,\"code\":\"Throttling\"\x7d"
    let cut := "\x7b\"__type\":\"com.amazon#\",\"code\":\"Throttling\"\x7d"
    let silent := "\x7b\"message\":null,\"Message\":\"bad\"\x7d"
    let first (body : String) := (codePlaces none body).reduceOption.find? (· ≠ "")
    ((ofResponse 400 none untyped).code = none ∧ first untyped = some "Throttling") ∧
    ((ofResponse 400 none cut).code = some "" ∧ first cut = some "Throttling") ∧
    (ofResponse 400 none silent).message = silent ∧
      (messagePlaces silent).reduceOption.head? = some "bad" := by
  decide +kernel

/-! ### The line for a log -/

open Printable (AllPrintable allPrintable_append)

/-- What the message of an error has of the body: the text that is there for it, or else the start
of the body. -/
def taken (body : String) : String :=
  ((messageField? body).bind Json.string?).getD (Printable.opening body)

theorem allPrintable_display_iff (e : ServiceError) :
    AllPrintable e.display ↔ AllPrintable e.shownCode ∧ AllPrintable e.message := by
  have hstart : AllPrintable "API request failed: " := by decide
  have hopen : AllPrintable " (" := by decide
  have hclose : AllPrintable "): " := by decide
  have hstatus := Printable.allPrintable_toString e.status
  show AllPrintable ("API request failed: " ++ toString e.status ++ " (" ++ e.shownCode ++ "): " ++
    e.message) ↔ _
  simp only [allPrintable_append, hstart, hstatus, hopen, hclose, true_and, and_true]

theorem allPrintable_shownCode_iff (e : ServiceError) :
    AllPrintable e.shownCode ↔ ∀ code, e.code = some code → AllPrintable code := by
  rw [shownCode]
  cases e.code with
  | none =>
      refine iff_of_true ?_ fun _ h ↦ by cases h
      show AllPrintable "Unknown"
      decide
  | some code => simp

/-- The message is the text that is taken, or the start of the body with a note on its size. -/
theorem taken_cases (status : Nat) (errorType : Option String) (body : String) :
    (∃ text, messageField? body = some (.string text) ∧ taken body = text ∧
        (ofResponse status errorType body).message = text) ∨
      ((∀ t, messageField? body ≠ some (.string t)) ∧ taken body = Printable.opening body ∧
        (ofResponse status errorType body).message =
          Printable.opening body ++ Printable.sizeNote body) := by
  rw [message_ofResponse, taken, Printable.excerpt_eq]
  cases htext : (messageField? body).bind Json.string? with
  | some t => exact .inl ⟨t, bind_string?_eq_some_iff.mp htext, rfl, rfl⟩
  | none => exact .inr ⟨bind_string?_eq_none_iff.mp htext, rfl, rfl⟩

/-- The line for a log, whatever the answer. It has the status, the code and the message. The
message is taken from the body as it stands there if it is a text, and is otherwise the printable
part of the start of the body with a note on the size of a long one. So the line is printable
exactly if the code and the text that is taken are, and the message has at most 200 characters of
the body exactly if that text has no more. -/
theorem display_exact (status : Nat) (errorType : Option String) (body : String) :
    let e := ofResponse status errorType body
    let start := String.ofList
      ((body.toList.take 200).filter fun c ↦ 0x20 ≤ c.toNat ∧ c.toNat ≤ 0x7E)
    let note := if body.length ≤ 200 then ""
      else s!"... [truncated, {Utf8.size body.toList} bytes total]"
    e.display = "API request failed: " ++ toString status ++ " (" ++ e.code.getD "Unknown" ++
      "): " ++ e.message ∧
    ((∃ text, messageField? body = some (.string text) ∧ taken body = text ∧ e.message = text) ∨
      ((∀ t, messageField? body ≠ some (.string t)) ∧ taken body = start ∧
        e.message = start ++ note)) ∧
    (AllPrintable e.display ↔ (∀ code, e.code = some code → AllPrintable code) ∧
      ∀ text, messageField? body = some (.string text) → AllPrintable text) ∧
    ((taken body).length ≤ 200 ↔
      ∀ text, messageField? body = some (.string text) → text.length ≤ 200) := by
  intro e start note
  have hcases := taken_cases status errorType body
  refine ⟨rfl, hcases, ?_, ?_⟩
  · rw [allPrintable_display_iff, allPrintable_shownCode_iff]
    refine and_congr_right fun _ ↦ ?_
    rcases hcases with ⟨text, hfield, -, hmessage⟩ | ⟨hfield, -, hmessage⟩
    · rw [hmessage]
      simp [hfield]
    · rw [hmessage, ← Printable.excerpt_eq]
      simp [hfield, Printable.allPrintable_excerpt]
  · rcases hcases with ⟨text, hfield, htaken, -⟩ | ⟨hfield, htaken, -⟩
    · rw [htaken]
      simp [hfield]
    · rw [htaken]
      simp only [hfield, false_implies, implies_true, iff_true]
      exact Printable.length_opening_le body

/-- A body can give any text for the message. -/
theorem ofResponse_compact (status : Nat) (text : String) :
    ofResponse status none (Json.compact (.object [("message", .string text)])) =
      ⟨status, none, text⟩ := by
  rw [ofResponse, Json.parse?_compact_field]
  rfl

/-- A message of two lines is logged on two lines, and a message of 201 characters is taken from a
body without losing any. -/
theorem server_text_is_logged :
    let quoting (text : String) := Json.compact (.object [("message", .string text)])
    let long := String.ofList (List.replicate 201 'x')
    ((ofResponse 500 none (quoting "one\ntwo")).display =
        "API request failed: 500 (Unknown): one\ntwo" ∧
      ¬ AllPrintable (ofResponse 500 none (quoting "one\ntwo")).display) ∧
    (ofResponse 500 none (quoting long)).message = long ∧ (taken (quoting long)).length = 201 := by
  refine ⟨?_, ?_, ?_⟩
  · rw [ofResponse_compact]
    decide +kernel
  · rw [ofResponse_compact]
  · rw [taken, messageField?, bodyField?, bodyField?, Json.parse?_compact_field]
    exact String.length_ofList.trans List.length_replicate

end ServiceError

end BrokerControl
