import BrokerControl.Proofs.Encodings
import BrokerControl.Proofs.Reports

/-!
# The texts of reports

A report is made of one text. Of a service error it is the outermost context, so nothing that the
control plane said is told, unless the error comes without a context (`Failure.words_hidden_iff`).
Of any other failure it is the whole chain, shown as it is if it is short and printable and cut with
an ellipsis if it is not (`Failure.local_report_exact`). A text that was cut is not always shown as
it is again: the ellipsis can be what makes it too long (`Printable.abridge_abridge_eq_iff`).
-/

namespace BrokerControl

namespace Printable

variable {text : String}

/-- A text is plain if it is short enough for a message and printable throughout. -/
def Plain (text : String) : Prop :=
  text.length ≤ messageLimit ∧ ∀ c ∈ text.toList, isPrintable c = true

/-- The start of the printable characters of a text. -/
def shown (text : String) : List Char := (text.toList.filter isPrintable).take messageLimit

theorem length_shown_le (text : String) : (shown text).length ≤ messageLimit :=
  List.length_take_le _ _

theorem isPrintable_of_mem_shown {c : Char} (h : c ∈ shown text) : isPrintable c = true :=
  (List.mem_filter.mp (List.mem_of_mem_take h)).2

theorem shown_sublist (text : String) : (shown text).Sublist text.toList :=
  (List.take_sublist _ _).trans List.filter_sublist

/-- Of a printable text its start is shown. -/
theorem shown_of_printable (h : ∀ c ∈ text.toList, isPrintable c = true) :
    shown text = text.toList.take messageLimit := by
  rw [shown, List.filter_eq_self.mpr h]

/-- All of a text is shown exactly if it is plain. -/
theorem shown_eq_iff : shown text = text.toList ↔ Plain text := by
  constructor
  · intro h
    have hprintable : ∀ c ∈ text.toList, isPrintable c = true := by
      intro c hc
      rw [← h] at hc
      exact isPrintable_of_mem_shown hc
    have hlength := length_shown_le text
    rw [h, String.length_toList] at hlength
    exact ⟨hlength, hprintable⟩
  · rintro ⟨hlength, hprintable⟩
    rw [shown_of_printable hprintable, List.take_of_length_le]
    rwa [String.length_toList]

/-- A plain text is shown as it is. -/
theorem abridge_of_plain (h : Plain text) : abridge text = text := by
  have hascii : ∀ c ∈ text.toList, c.toNat < 0x80 := by
    intro c hc
    have hprintable : 0x20 ≤ c.toNat ∧ c.toNat ≤ 0x7E := of_decide_eq_true (h.2 c hc)
    omega
  show String.ofList (if (shown text).length < Utf8.size text.toList then _ else shown text) = text
  rw [shown_eq_iff.mpr h, Utf8.size_of_ascii hascii, if_neg (Nat.lt_irrefl _), String.ofList_toList]

/-- Any other text is cut: what is shown of it has fewer characters, so fewer bytes. -/
theorem abridge_of_not_plain (h : ¬ Plain text) :
    abridge text = String.ofList (shown text ++ ['.', '.', '.']) := by
  have hshorter : (shown text).length < text.toList.length := by
    refine lt_of_le_of_ne (shown_sublist text).length_le fun hlength ↦ h ?_
    exact shown_eq_iff.mp ((shown_sublist text).eq_of_length hlength)
  exact congrArg String.ofList (if_pos (hshorter.trans_le (Utf8.length_le_size _)))

theorem toList_abridge_of_not_plain (h : ¬ Plain text) :
    (abridge text).toList = shown text ++ ['.', '.', '.'] := by
  rw [abridge_of_not_plain h, String.toList_ofList]

/-- Of a printable text that is too long its start is shown. -/
theorem abridge_of_long (hprintable : ∀ c ∈ text.toList, isPrintable c = true)
    (hlong : messageLimit < text.length) :
    abridge text = String.ofList (text.toList.take messageLimit ++ ['.', '.', '.']) := by
  rw [abridge_of_not_plain, shown_of_printable hprintable]
  intro hplain
  exact absurd hplain.1 (Nat.not_le.mpr hlong)

/-- What is shown of a text is printable. -/
theorem isPrintable_of_mem_abridge {c : Char} (h : c ∈ (abridge text).toList) :
    isPrintable c = true := by
  by_cases hplain : Plain text
  · rw [abridge_of_plain hplain] at h
    exact hplain.2 c h
  · rw [toList_abridge_of_not_plain hplain] at h
    rcases List.mem_append.mp h with hc | hc
    · exact isPrintable_of_mem_shown hc
    · obtain rfl : c = '.' := by simpa using hc
      decide

/-- A text that was cut has the ellipsis and what was shown. -/
theorem length_abridge_of_not_plain (h : ¬ Plain text) :
    (abridge text).length = (shown text).length + 3 := by
  rw [← String.length_toList, toList_abridge_of_not_plain h]
  exact List.length_append

theorem length_abridge_le (text : String) : (abridge text).length ≤ messageLimit + 3 := by
  by_cases hplain : Plain text
  · rw [abridge_of_plain hplain]
    exact hplain.1.trans (Nat.le_add_right _ _)
  · rw [length_abridge_of_not_plain hplain]
    exact Nat.add_le_add_right (length_shown_le text) 3

/-- Whatever is missing is marked by an ellipsis. -/
theorem suffix_abridge (h : abridge text ≠ text) : ['.', '.', '.'] <:+ (abridge text).toList := by
  have hplain : ¬ Plain text := fun hplain ↦ h (abridge_of_plain hplain)
  rw [toList_abridge_of_not_plain hplain]
  exact List.suffix_append _ _

/-- A text that was cut is shown as it is again unless the ellipsis leads beyond the limit while
fewer characters than the limit were shown. -/
theorem abridge_abridge_eq_iff : abridge (abridge text) = abridge text ↔
    (abridge text).length ≤ messageLimit ∨ (abridge text).length = messageLimit + 3 := by
  have hprintable : ∀ c ∈ (abridge text).toList, isPrintable c = true :=
    fun c ↦ isPrintable_of_mem_abridge
  by_cases hshort : (abridge text).length ≤ messageLimit
  · simp only [hshort, true_or, iff_true]
    exact abridge_of_plain ⟨hshort, hprintable⟩
  · -- The first text was cut, and so is the second, at the limit.
    have hcut : ¬ Plain text := fun hplain ↦ hshort (by rw [abridge_of_plain hplain]; exact hplain.1)
    have hlong : messageLimit < (abridge text).length := Nat.not_le.mp hshort
    have hagain := abridge_of_long hprintable hlong
    constructor
    · intro hsame
      right
      have hlength : (abridge text).length = min messageLimit (abridge text).length + 3 := by
        conv_lhs => rw [← hsame, hagain]
        rw [String.length_ofList, List.length_append, List.length_take, String.length_toList]
        rfl
      omega
    · rintro (hle | hmax)
      · exact absurd hle hshort
      · have hall : (shown text).length = messageLimit := by
          rw [length_abridge_of_not_plain hcut] at hmax
          omega
        have hstart : (abridge text).toList.take messageLimit = shown text := by
          rw [toList_abridge_of_not_plain hcut]
          exact List.take_left' hall
        rw [hagain, hstart, abridge_of_not_plain hcut]

end Printable

namespace Failure

/-! ### Service errors -/

/-- A service error is told by the outermost sentence, which is its own only without a context. -/
theorem report_service (contexts : List String) (e : ServiceError) :
    report ⟨contexts, .service e⟩ =
      contexts.headD e.display ++ ": " ++ ServiceError.advice e.status := by
  cases contexts <;> rfl

/-- The report of a service error in which the code and the message are replaced by any others.
Inside a context it stays as it is: the outermost context and the sentence for the status. Without
one the error is told in its own words, so the report stays only if these are the same. -/
theorem words_hidden_iff (contexts : List String) (status : Nat) (code code' : Option String)
    (message message' : String) :
    let e : ServiceError := ⟨status, code, message⟩
    let other : ServiceError := ⟨status, code', message'⟩
    (∀ context more, contexts = context :: more →
      report ⟨contexts, .service e⟩ = context ++ ": " ++ ServiceError.advice status) ∧
    (contexts = [] →
      report ⟨contexts, .service e⟩ = e.display ++ ": " ++ ServiceError.advice status) ∧
    (report ⟨contexts, .service other⟩ = report ⟨contexts, .service e⟩ ↔
      contexts ≠ [] ∨ other.display = e.display) := by
  intro e other
  simp only [report_service]
  cases contexts with
  | nil =>
      refine ⟨by simp, fun _ ↦ rfl, ?_⟩
      rw [List.headD_nil, List.headD_nil, String.append_left_inj, String.append_left_inj]
      simp
  | cons context more =>
      simp [e, other]

/-- An error that comes without a context is told in the words of the control plane. -/
theorem bare_error_is_quoted :
    let told (code : Option String) (message : String) : String :=
      (ofCause (.service ⟨403, code, message⟩)).report
    told (some "AccessDeniedException") "ann may not list" =
      "API request failed: 403 (AccessDeniedException): ann may not list: " ++
        "Permission denied. Check your IAM permissions." ∧
    told (some "AccessDeniedException") "ann may not list" ≠ told none "" := by
  decide

/-! ### Other failures -/

/-- Any failure that is no service error is told in full. -/
theorem report_of_local {f : Failure} (h : f.status? = none) :
    f.report = Printable.abridge (": ".intercalate f.chain) := by
  obtain ⟨contexts, cause⟩ := f
  cases cause with
  | service e => cases h
  | _ => rfl

/-- The report of a failure that is no service error. Its sentences, from the outermost, are told as
they are if they make up a plain text, and otherwise by the start of their printable characters and
an ellipsis. So a report is printable, has at most 163 characters, and marks what it leaves out. A
failure that has a report for its only sentence is reported by it, unless the report has 161 or 162
characters: it ends in an ellipsis that leads beyond the limit of 160. -/
theorem local_report_exact {f : Failure} (h : f.status? = none) :
    let whole := ": ".intercalate f.chain
    let isPlain := whole.length ≤ 160 ∧ ∀ c ∈ whole.toList, 0x20 ≤ c.toNat ∧ c.toNat ≤ 0x7E
    let printable := whole.toList.filter fun c ↦ 0x20 ≤ c.toNat ∧ c.toNat ≤ 0x7E
    (isPlain → f.report = whole) ∧
    (¬ isPlain → f.report = String.ofList (printable.take 160 ++ "...".toList)) ∧
    (∀ c ∈ f.report.toList, 0x20 ≤ c.toNat ∧ c.toNat ≤ 0x7E) ∧
    f.report.length ≤ 163 ∧
    (f.report ≠ whole → "...".toList <:+ f.report.toList) ∧
    ∀ g : Failure, g.status? = none → g.chain = [f.report] →
      (g.report = f.report ↔ f.report.length ≠ 161 ∧ f.report.length ≠ 162) := by
  intro whole isPlain printable
  have hplain : Printable.Plain whole ↔ isPlain := by
    simp only [Printable.Plain, Printable.isPrintable, decide_eq_true_eq, Printable.messageLimit,
      isPlain]
  have hreport : f.report = Printable.abridge whole := report_of_local h
  rw [hreport, ← hplain]
  refine ⟨Printable.abridge_of_plain, Printable.abridge_of_not_plain, ?_,
    Printable.length_abridge_le whole, Printable.suffix_abridge, ?_⟩
  · intro c hc
    exact of_decide_eq_true (Printable.isPrintable_of_mem_abridge hc)
  · intro g hg hchain
    have hlength := Printable.length_abridge_le whole
    have hagain : g.report = Printable.abridge (Printable.abridge whole) := by
      rw [report_of_local hg, hchain, String.intercalate_singleton]
    rw [hagain, Printable.abridge_abridge_eq_iff]
    simp only [Printable.messageLimit] at hlength ⊢
    omega

/-- One letter that is not printable is enough for an ellipsis, and the report stays as it is when
it is told again. -/
theorem accented_report_is_marked :
    let f : Failure := ⟨["Failed to read café.yaml"], .plain "No such file"⟩
    f.report = "Failed to read caf.yaml: No such file..." ∧
    ∀ g : Failure, g.status? = none → g.chain = [f.report] → g.report = f.report := by
  intro f
  have hlocal : f.status? = none := rfl
  obtain ⟨-, hmarked, -, -, -, hagain⟩ := local_report_exact hlocal
  have htold : f.report = "Failed to read caf.yaml: No such file..." := by
    rw [hmarked]
    · decide
    · intro hplain
      exact absurd (hplain.2 'é' (by decide)) (by decide)
  refine ⟨htold, fun g hg hchain ↦ (hagain g hg hchain).mpr ?_⟩
  rw [htold]
  decide

/-- A report of 158 characters and an ellipsis loses one of its dots and gets an ellipsis again when
it is told again. -/
theorem marked_report_is_cut_again :
    let told (text : String) : String := (ofCause (.plain text)).report
    let start := List.replicate 158 'a'
    let first := told (String.ofList ('é' :: start))
    first = String.ofList (start ++ "...".toList) ∧
    told first = String.ofList (start ++ ".....".toList) ∧
    told first ≠ first := by
  intro told start first
  have htold (text : String) : told text = Printable.abridge text := by
    rw [show told text = _ from report_of_local rfl]
    exact congrArg Printable.abridge String.intercalate_singleton
  have hfirst : first = String.ofList (start ++ "...".toList) := by
    have hshown : Printable.shown (String.ofList ('é' :: start)) = start := by
      rw [Printable.shown, String.toList_ofList, List.filter_cons_of_neg (by decide),
        List.filter_replicate_of_pos (by decide), List.take_of_length_le]
      rw [List.length_replicate]
      decide
    rw [show first = _ from htold _, Printable.abridge_of_not_plain, hshown]
    · rfl
    · intro hplain
      exact absurd (hplain.2 'é' (by simp)) (by decide)
  have hsecond : told first = String.ofList (start ++ ".....".toList) := by
    have hlength : start.length = 158 := List.length_replicate
    have hprintable : ∀ c ∈ first.toList, Printable.isPrintable c = true := by
      rw [show first = _ from htold _]
      exact fun c ↦ Printable.isPrintable_of_mem_abridge
    have hlong : Printable.messageLimit < first.length := by
      rw [hfirst, String.length_ofList, List.length_append, hlength]
      decide
    have hcut : first.toList.take Printable.messageLimit = start ++ "..".toList := by
      rw [hfirst, String.toList_ofList, List.take_append, hlength, List.take_of_length_le]
      · rfl
      · rw [hlength]
        decide
    rw [htold, Printable.abridge_of_long hprintable hlong, hcut, List.append_assoc]
    rfl
  refine ⟨hfirst, hsecond, ?_⟩
  rw [hsecond, hfirst]
  intro hsame
  exact absurd (List.append_cancel_left (String.ofList_injective hsame)) (by decide)

end Failure

end BrokerControl
