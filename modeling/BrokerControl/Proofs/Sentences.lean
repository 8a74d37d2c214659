import BrokerControl.Proofs.Messages
import BrokerControl.Proofs.ServiceErrors

/-!
# The sentence and the class of a service error

The user is told a sentence for the status, while the class of an error, whether to slow down or to
try again, also goes by the code. `ServiceError.sentence_agrees_iff` says when the two agree:
always, but for a code that asks to slow down under a status that does not.
-/

namespace BrokerControl

namespace ServiceError

/-! ### Classes -/

theorem occurs_iff {part cs : List Char} : occurs part cs = true ↔ part <:+: cs := by
  induction cs with
  | nil => rw [occurs, List.isEmpty_iff, List.infix_nil]
  | cons c cs ih =>
      rw [occurs, Bool.or_eq_true, ih, List.isPrefixOf_iff_prefix, List.infix_cons_iff]

/-- `e.AsksToSlowDown` says that the code of an error asks to slow down. -/
def AsksToSlowDown (e : ServiceError) : Prop :=
  ∃ code, e.code = some code ∧
    ("Throttl".toList <:+: code.toList ∨ code = "TooManyRequestsException")

theorem any_isThrottlingCode_iff (e : ServiceError) :
    e.code.any isThrottlingCode = true ↔ e.AsksToSlowDown := by
  simp only [AsksToSlowDown, Option.any_eq_true, isThrottlingCode, Bool.or_eq_true, occurs_iff,
    beq_iff_eq]

theorem isThrottled_iff (e : ServiceError) :
    e.isThrottled = true ↔ e.status = 429 ∨ e.AsksToSlowDown := by
  rw [isThrottled, Bool.or_eq_true, beq_iff_eq, any_isThrottlingCode_iff]

theorem isRetryable_iff (e : ServiceError) :
    e.isRetryable = true ↔ e.isThrottled = true ∨ 500 ≤ e.status ∧ e.status ≤ 599 := by
  rw [isRetryable, Bool.or_eq_true, decide_eq_true_eq, Nat.lt_succ_iff]

/-! ### Sentences -/

/-- The sentence for a client that is to slow down. -/
def slowDown : String := "Rate limit exceeded. Please try again later."

/-- The sentence for a service that is not available. -/
def unavailable : String := "Broker service temporarily unavailable. Please try again."

theorem advice_eq_slowDown_iff {status : Nat} : advice status = slowDown ↔ status = 429 := by
  unfold advice slowDown
  split_ifs <;> simp_all

theorem advice_eq_unavailable_iff {status : Nat} :
    advice status = unavailable ↔ 500 ≤ status ∧ status ≤ 599 := by
  unfold advice unavailable
  split_ifs <;> simp_all

theorem colon_notMem_advice (status : Nat) : ':' ∉ (advice status).toList := by
  unfold advice
  split_ifs <;> decide +kernel

/-- `EndsIn report sentence` says that a report ends in a sentence, behind a colon. -/
def EndsIn (report sentence : String) : Prop := (": " ++ sentence).toList <:+ report.toList

/-- A sentence at the end of a text is what stands behind its last colon. -/
theorem afterLast_of_endsIn {report sentence : String} (h : EndsIn report sentence)
    (hcolon : ':' ∉ sentence.toList) : Pieces.afterLast ':' report = " " ++ sentence := by
  obtain ⟨start, hstart⟩ := h
  refine Pieces.afterLast_eq_iff.mpr ⟨?_, .inr ⟨start, ?_⟩⟩
  · simpa using hcolon
  · rw [← hstart]
    simp

/-- A report of a service error ends in the sentence for its status and in no other. -/
theorem endsIn_report_iff {contexts : List String} {e : ServiceError} {sentence : String}
    (hcolon : ':' ∉ sentence.toList) :
    EndsIn (Failure.report ⟨contexts, .service e⟩) sentence ↔ advice e.status = sentence := by
  have hends : EndsIn (Failure.report ⟨contexts, .service e⟩) (advice e.status) := by
    rw [Failure.report_service, EndsIn]
    refine ⟨(contexts.headD e.display).toList, ?_⟩
    simp
  constructor
  · intro h
    have hsame := (afterLast_of_endsIn hends (colon_notMem_advice _)).symm.trans
      (afterLast_of_endsIn h hcolon)
    exact (String.append_right_inj _).mp hsame
  · rintro rfl
    exact hends

/-- The class and the sentence of a service error, whatever the answer and whatever the contexts.
An error is throttled if its status is 429 or its code asks to slow down, and can be tried again if
it is throttled or its status is between 500 and 599; the sentence goes by the status alone. So the
sentence for a client that is to slow down is told exactly of throttled errors unless the code asks
to slow down under another status. The one for a service that is not available is told exactly of
the other errors that can be tried again unless the code does so under a status between 500 and
599. -/
theorem sentence_agrees_iff (contexts : List String) (status : Nat) (errorType : Option String)
    (body : String) :
    let e := ofResponse status errorType body
    let report := Failure.report ⟨contexts, .service e⟩
    let failing := 500 ≤ status ∧ status ≤ 599
    (e.isThrottled = true ↔ status = 429 ∨ e.AsksToSlowDown) ∧
    (e.isRetryable = true ↔ e.isThrottled = true ∨ failing) ∧
    (EndsIn report slowDown ↔ status = 429) ∧
    (EndsIn report unavailable ↔ failing) ∧
    ((EndsIn report slowDown ↔ e.isThrottled = true) ↔ (e.AsksToSlowDown → status = 429)) ∧
    ((EndsIn report unavailable ↔ e.isRetryable = true ∧ e.isThrottled ≠ true) ↔
      (e.AsksToSlowDown → ¬ failing)) := by
  intro e report failing
  have hthrottled : e.isThrottled = true ↔ status = 429 ∨ e.AsksToSlowDown := isThrottled_iff e
  have hretryable : e.isRetryable = true ↔ e.isThrottled = true ∨ failing := isRetryable_iff e
  have hslow : EndsIn report slowDown ↔ status = 429 :=
    (endsIn_report_iff (colon_notMem_advice 429)).trans advice_eq_slowDown_iff
  have hunavailable : EndsIn report unavailable ↔ failing :=
    (endsIn_report_iff (colon_notMem_advice 500)).trans advice_eq_unavailable_iff
  refine ⟨hthrottled, hretryable, hslow, hunavailable, ?_, ?_⟩
  · rw [hslow, hthrottled]
    exact iff_comm.trans or_iff_left_iff_imp
  · rw [hunavailable, hretryable, Ne, hthrottled]
    constructor
    · intro hsame hasks hfailing
      exact (hsame.mp hfailing).2 (.inr hasks)
    · intro hasks
      constructor
      · intro hfailing
        refine ⟨.inr hfailing, ?_⟩
        rintro (rfl | hcode)
        · exact absurd hfailing (by decide)
        · exact hasks hcode hfailing
      · rintro ⟨hclass, hnot⟩
        exact hclass.resolve_left hnot

/-- A client that is to slow down is told to check its parameters if the code says so under the
status 400, and that the service is not available under the status 503. -/
theorem throttled_call_is_told_otherwise :
    let limited (status : Nat) := ofResponse status (some "ThrottlingException") "\x7b\x7d"
    let told (status : Nat) := Failure.report ⟨["Couldn't list brokers"], .service (limited status)⟩
    ((limited 400).isThrottled = true ∧ (limited 503).isThrottled = true) ∧
    told 400 = "Couldn't list brokers: Invalid request. Check your parameters." ∧
    told 503 = "Couldn't list brokers: " ++ unavailable := by
  decide +kernel

end ServiceError

end BrokerControl
