import BrokerControl.Http.Endpoint
import BrokerControl.Proofs.Encodings

/-!
# Queries that are read back

`Query.parameters?` reads the query of a URL as a server does: pieces between ampersands, each a
name and a value around its first equals sign, both percent-decoded. `Query.parameters?_page` says
that the query of a page gives back its limit and its token, whatever characters the token has.
-/

namespace BrokerControl

namespace Pieces

variable {separator : Char} {piece rest : List Char}

/-- A text without separators is one piece. -/
theorem split_of_notMem (h : separator ∉ piece) : split separator piece = [piece] := by
  rw [split_eq_splitOn, List.splitOn_eq_singleton h]

/-- The first separator ends the first piece. -/
theorem split_append_cons (h : separator ∉ piece) :
    split separator (piece ++ separator :: rest) = piece :: split separator rest := by
  rw [split_eq_splitOn, split_eq_splitOn, List.splitOn_append_cons_self_of_not_mem h]

end Pieces

namespace Query

/-- The parameter in a piece of a query: the name before the first equals sign and the value behind
it. -/
def parameter? (piece : List Char) : Option (String × String) := do
  let name ← Utf8.text? (Percent.decode (piece.takeWhile (· ≠ '=')))
  let value ← Utf8.text? (Percent.decode ((piece.dropWhile (· ≠ '=')).drop 1))
  return (name, value)

/-- The parameters in a query, in their order. -/
def parameters? (query : String) : Option (List (String × String)) :=
  (Pieces.split '&' query.toList).mapM parameter?

/-- A name is read up to the equals sign behind it. -/
theorem parameter?_append {name value : List Char} (h : '=' ∉ name) :
    parameter? (name ++ '=' :: value) = (do
      let name ← Utf8.text? (Percent.decode name)
      let value ← Utf8.text? (Percent.decode value)
      return (name, value)) := by
  have hname : ∀ c ∈ name, (decide (c ≠ '=')) = true := by
    rintro c hc
    simp only [ne_eq, decide_eq_true_eq]
    rintro rfl
    exact h hc
  rw [parameter?, List.takeWhile_append_of_pos hname, List.dropWhile_append_of_pos hname]
  simp

/-- A parameter that needs no encoding is read as it stands. -/
theorem parameter?_plain {name value : String} (hequals : '=' ∉ name.toList)
    (hname : '%' ∉ name.toList) (hvalue : '%' ∉ value.toList) :
    parameter? (name.toList ++ '=' :: value.toList) = some (name, value) := by
  rw [parameter?_append hequals, Percent.decode_of_notMem hname, Percent.decode_of_notMem hvalue,
    Utf8.text?_encode, Utf8.text?_encode, String.ofList_toList, String.ofList_toList]
  rfl

/-- A parameter whose value is encoded is read as that value. -/
theorem parameter?_encode {name : String} (hequals : '=' ∉ name.toList)
    (hname : '%' ∉ name.toList) (value : String) :
    parameter? (name.toList ++ '=' :: (Percent.encode value).toList) = some (name, value) := by
  have hread : Utf8.text? (Percent.decode (Percent.encode value).toList) = some value :=
    Percent.decode?_encode value
  rw [parameter?_append hequals, Percent.decode_of_notMem hname, Utf8.text?_encode, hread,
    String.ofList_toList]
  rfl

/-! ### Pages -/

/-- The query that asks for a page. -/
def page (limit : Nat) (token : Option String) : String :=
  "maxResults=" ++ toString limit ++
    match token with
    | none => ""
    | some t => "&nextToken=" ++ Percent.encode t

/-- What ends the URL of a page is its query. -/
theorem pageUrl_eq (url : String) (limit : Nat) (token : Option String) :
    Endpoint.pageUrl url limit token = url ++ "?" ++ page limit token := by
  cases token <;> simp [Endpoint.pageUrl, page, String.append_assoc] <;> rfl

/-- A number is written in decimal digits. -/
theorem isDigit_of_mem_toString {c : Char} {n : Nat} (h : c ∈ (toString n).toList) :
    c.isDigit = true := by
  rw [Nat.toString_eq_repr, Nat.repr_eq_ofList_toDigits, String.toList_ofList] at h
  exact Nat.isDigit_of_mem_toDigits (by decide) (by decide) h

theorem notMem_toString {c : Char} (h : c.isDigit = false) (n : Nat) : c ∉ (toString n).toList := by
  intro hc
  rw [isDigit_of_mem_toString hc] at h
  cases h

/-- A component of a URL holds no sign that ends it. -/
theorem notMem_encode {c : Char} (h : Percent.isUnreserved c = false) (hne : c ≠ '%') (s : String) :
    c ∉ (Percent.encode s).toList := by
  intro hc
  rcases Percent.mem_encode hc with rfl | hkeep
  · exact hne rfl
  · rw [h] at hkeep
    cases hkeep

/-- The query of a page is read as its limit and its token. -/
theorem parameters?_page (limit : Nat) (token : Option String) :
    parameters? (page limit token) = some (("maxResults", toString limit) ::
      (token.map fun t ↦ ("nextToken", t)).toList) := by
  let first := "maxResults".toList ++ '=' :: (toString limit).toList
  have hfirst : parameter? first = some ("maxResults", toString limit) :=
    parameter?_plain (by decide) (by decide) (notMem_toString (by decide) limit)
  have hnot : '&' ∉ first := by
    simpa [first] using notMem_toString (c := '&') (by decide) limit
  cases token with
  | none =>
      have hpage : (page limit none).toList = first := by simp [page, first]
      rw [parameters?, hpage, Pieces.split_of_notMem hnot]
      simp [hfirst]
  | some t =>
      let second := "nextToken".toList ++ '=' :: (Percent.encode t).toList
      have hsecond : parameter? second = some ("nextToken", t) :=
        parameter?_encode (by decide) (by decide) t
      have hnot' : '&' ∉ second := by
        simpa [second] using notMem_encode (c := '&') (by decide) (by decide) t
      have hpage : (page limit (some t)).toList = first ++ '&' :: second := by
        simp [page, first, second]
      rw [parameters?, hpage, Pieces.split_append_cons hnot, Pieces.split_of_notMem hnot']
      simp [hfirst, hsecond]

end Query

end BrokerControl
