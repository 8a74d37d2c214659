import BrokerControl.Convergence
import BrokerControl.Failure.Report
import BrokerControl.Listing.Users
import BrokerControl.Proofs.Runs
import BrokerControl.Service.Fixture

/-!
# What a report tells of a service error

A program is `Program.Framed` if each of its calls fails inside the fixed context of that call, and
nothing is done after the failure. All operations of the library are framed. Two control planes
whose answers differ in the words of service errors only cannot be told apart by a framed program
(`Program.alike_of_framed`), and neither can the user tell them apart by the reports
(`Program.reports_tell_status_only`).
-/

namespace BrokerControl

/-- What could not be done if a call fails. -/
def Call.context : Call → String
  | listBrokers .. => "Couldn't list brokers"
  | describe _ => "Couldn't get broker details"
  | create _ => "Couldn't create broker"
  | update .. => "Couldn't update broker"
  | delete _ => "Couldn't delete broker"
  | reboot _ => "Couldn't reboot broker"
  | listUsers .. => "Failed to describe users"

namespace Failure

/-- The status of the service error that a failure comes from, if it comes from one. -/
def status? (f : Failure) : Option Nat :=
  match f.cause with
  | .service e => some e.status
  | _ => none

/-- A service error inside a context is reported by the context and the sentence for its status. -/
theorem report_within {f : Failure} {status : Nat} (h : f.status? = some status)
    (context : String) :
    (f.within context).report = context ++ ": " ++ ServiceError.advice status := by
  obtain ⟨contexts, cause⟩ := f
  cases cause with
  | service e =>
      obtain rfl : e.status = status := Option.some.inj h
      rfl
  | _ => cases h

end Failure

namespace Program

variable {α β : Type}

/-! ### Framed programs -/

/-- `p.Framed` says that a failed call of `p` ends it with that failure, inside the context of the
call. -/
def Framed : Program α → Prop
  | done _ => True
  | ask c next =>
    (∀ f, next (.error f) = done (.error (f.within c.context))) ∧ ∀ a, (next (.ok a)).Framed

theorem framed_ofResult (result : Except Fault α) : (ofResult result).Framed := by
  cases result <;> trivial

theorem framed_call (c : Call) : (call c.context c).Framed :=
  ⟨fun _ ↦ rfl, fun _ ↦ trivial⟩

theorem Framed.bind {p : Program α} {f : α → Program β} (hp : p.Framed)
    (hf : ∀ a, (f a).Framed) : (p >>= f).Framed := by
  show (Program.bind p f).Framed
  induction p with
  | done result =>
      cases result with
      | ok a => exact hf a
      | error e => trivial
  | ask c next ih =>
      obtain ⟨hfail, hnext⟩ := hp
      exact ⟨fun e ↦ congrArg (Program.bind · f) (hfail e), fun a ↦ ih (.ok a) (hnext a)⟩

end Program

/-! ### The operations -/

namespace Listing

open Program

theorem framed_walk {α σ : Type} {ask : Option String → Program Page} {look : σ → Page → α ⊕ σ}
    {atEnd : σ → α} (hask : ∀ token, (ask token).Framed) (bound : Nat) (cursor : Cursor)
    (state : σ) : (walk ask look atEnd bound cursor state).Framed := by
  induction bound generalizing cursor state with
  | zero => trivial
  | succ bound ih =>
      refine (hask cursor.token).bind fun page ↦ ?_
      cases look state page with
      | inl result => trivial
      | inr state =>
          cases cursor.advance page.next with
          | error fault => trivial
          | ok cursor =>
              dsimp only
              split
              · exact ih cursor state
              · trivial

theorem framed_findBrokerWithin (bound : Nat) (name : String) :
    (findBrokerWithin bound name).Framed :=
  framed_walk (fun _ ↦ framed_call (.listBrokers ..)) bound .start ()

theorem framed_usersWithin (bound : Nat) (id : String) (q : UserQuery) :
    (usersWithin bound id q).Framed :=
  (framed_walk (fun _ ↦ framed_call (.listUsers ..)) bound .start []).bind fun _ ↦ trivial

end Listing

namespace Broker

open Program

variable (t : Table) (o : RunOptions)

theorem framed_create (name : String) (d : Declaration) : (create t o name d).Framed := by
  refine (framed_ofResult (t.creationBody d)).bind fun body ↦ ?_
  split
  · trivial
  · exact (framed_call (.create _)).bind fun _ ↦ trivial

theorem framed_update (id : String) (d : Declaration) : (update t o id d).Framed := by
  have hrest : Framed (do
      if o.dryRun then return Outcome.ofChange (.object [("BrokerId", .string id)])
      let request := Call.update id (.object (t.updateBody d))
      return .ofChange (← call "Couldn't update broker" request)) := by
    split
    · trivial
    · exact (framed_call (.update ..)).bind fun _ ↦ trivial
  rw [update]
  split
  · exact (framed_ofResult _).bind fun _ ↦ hrest
  · exact hrest

theorem framed_delete (id : String) : (delete o id).Framed := by
  refine (framed_call (.describe id)).bind fun description ↦ ?_
  split
  · trivial
  · exact (framed_call (.delete id)).bind fun _ ↦ trivial

theorem framed_reboot (id : String) : (reboot o id).Framed := by
  have hdetails : Framed (do return Outcome.ofChange (← details id)) :=
    (framed_call (.describe id)).bind fun _ ↦ trivial
  rw [reboot]
  split
  · exact hdetails
  · exact (framed_call (.reboot id)).bind fun _ ↦ hdetails

theorem framed_act (goal : Goal) (name : String) (d : Declaration) (found : Option String) :
    (act t o goal name d found).Framed := by
  cases found with
  | none =>
      cases goal with
      | present => exact framed_create t o name d
      | absent | restarted => trivial
  | some id =>
      cases goal with
      | present => exact framed_update t o id d
      | absent => exact framed_delete o id
      | restarted => exact framed_reboot o id

theorem framed_convergeWithin (bound : Nat) (goal : Goal) (d : Declaration) :
    (convergeWithin t o bound goal d).Framed := by
  rw [convergeWithin]
  split
  · trivial
  · exact (Listing.framed_findBrokerWithin bound _).bind fun _ ↦ framed_act ..

theorem framed_describeWithin (bound : Nat) (id name : Option String) :
    (describeWithin bound id name).Framed := by
  rw [describeWithin]
  split
  · exact framed_call (.describe _)
  · refine (Listing.framed_findBrokerWithin bound _).bind fun found ↦ ?_
    cases found with
    | none => trivial
    | some id => exact framed_call (.describe id)
  · trivial

end Broker

/-! ### Two control planes -/

namespace Program

variable {α : Type}

/-- `Reworded a b` says that two answers are the same, or fail with service errors of the same
status, whatever else there is to these. -/
def Reworded (a b : Except Failure α) : Prop :=
  a = b ∨ ∃ f g status, a = .error f ∧ b = .error g ∧ f.status? = some status ∧
    g.status? = some status

theorem Reworded.eq_ok {a : α} {b : Except Failure α} (h : Reworded (.ok a) b) : b = .ok a := by
  obtain rfl | ⟨_, _, _, h, -⟩ := h
  · rfl
  · cases h

/-- Where one answer is a failure, the other is one of the same status or the same failure. -/
theorem Reworded.eq_error {f : Failure} {b : Except Failure α} (h : Reworded (.error f) b) :
    ∃ g, b = .error g ∧ g.status? = f.status? ∧ (f.status? = none → g = f) := by
  obtain rfl | ⟨f', g, status, hf, rfl, hstatus, hg⟩ := h
  · exact ⟨f, rfl, rfl, fun _ ↦ rfl⟩
  · obtain rfl := Except.error.inj hf
    exact ⟨g, rfl, hg.trans hstatus.symm, fun hnone ↦ by rw [hnone] at hstatus; cases hstatus⟩

/-- `FailsAt transport past p c status` says that the last call of a run of `p` after the calls
`past` is `c`, and that it is answered with a service error of this status. -/
def FailsAt (transport : Transport) (past : List Call) (p : Program α) (c : Call)
    (status : Nat) : Prop :=
  ∃ before f, past <+: before ∧ (run transport past p).2 = before ++ [c] ∧
    transport before c = .error f ∧ f.status? = some status

/-- What two control planes cannot be told apart by: their runs of `p` after the calls `past`. -/
structure Alike (transport transport' : Transport) (past : List Call) (p : Program α) : Prop where
  /-- Both runs make the same calls. -/
  calls_eq : (run transport' past p).2 = (run transport past p).2
  /-- A run that no service error ends is the same. -/
  result_eq : (¬ ∃ c status, FailsAt transport past p c status) →
    (run transport' past p).1 = (run transport past p).1
  /-- Where a service error ends one run, one with the same status ends the other at the same call,
  and both are reported by what could not be done and the sentence for the status. -/
  report_eq {c : Call} {status : Nat} : FailsAt transport past p c status →
    FailsAt transport' past p c status ∧
    ∃ f f', (run transport past p).1 = .error f ∧ (run transport' past p).1 = .error f' ∧
      f.report = c.context ++ ": " ++ ServiceError.advice status ∧
      f'.report = c.context ++ ": " ++ ServiceError.advice status

variable {transport transport' : Transport} {past : List Call}

/-- A run goes on after the calls before it. -/
theorem prefix_run (transport : Transport) (past : List Call) (p : Program α) :
    past <+: (run transport past p).2 := by
  induction p generalizing past with
  | done result => exact List.prefix_rfl
  | ask c next ih => exact (List.prefix_append past [c]).trans (ih _ _)

variable {c c' : Call} {next : Except Failure c.Answer → Program α} {status : Nat}

theorem run_ask_ok {a : c.Answer} (h : transport past c = .ok a) :
    run transport past (ask c next) = run transport (past ++ [c]) (next (.ok a)) := by
  rw [run, h]

theorem run_ask_error (hframed : (ask c next).Framed) {f : Failure}
    (h : transport past c = .error f) :
    run transport past (ask c next) = (.error (f.within c.context), past ++ [c]) := by
  rw [run, h, hframed.1, run]

/-- A program that goes on after its first call fails where the rest of it does. -/
theorem failsAt_ask_ok_iff {a : c.Answer} (h : transport past c = .ok a) :
    FailsAt transport past (ask c next) c' status ↔
      FailsAt transport (past ++ [c]) (next (.ok a)) c' status := by
  rw [FailsAt, FailsAt, run_ask_ok h]
  constructor
  · rintro ⟨before, f, -, hcalls, hfail, hstatus⟩
    refine ⟨before, f, ?_, hcalls, hfail, hstatus⟩
    have hprefix := prefix_run transport (past ++ [c]) (next (.ok a))
    rw [hcalls] at hprefix
    rcases List.prefix_concat_iff.mp hprefix with heq | hprefix
    · -- The last call would be the first one, which does not fail.
      obtain ⟨rfl, hlast⟩ := List.append_inj' heq rfl
      obtain rfl := List.singleton_inj.mp hlast
      rw [h] at hfail
      cases hfail
    · exact hprefix
  · rintro ⟨before, f, hbefore, hcalls, hfail, hstatus⟩
    exact ⟨before, f, (List.prefix_append past [c]).trans hbefore, hcalls, hfail, hstatus⟩

/-- A framed program fails at its first call if that fails. -/
theorem failsAt_ask_error_iff (hframed : (ask c next).Framed) {f : Failure}
    (h : transport past c = .error f) :
    FailsAt transport past (ask c next) c' status ↔ c' = c ∧ f.status? = some status := by
  rw [FailsAt, run_ask_error hframed h]
  constructor
  · rintro ⟨before, f', -, hcalls, hfail, hstatus⟩
    obtain ⟨rfl, hlast⟩ := List.append_inj' hcalls rfl
    obtain rfl := List.singleton_inj.mp hlast
    obtain rfl := Except.error.inj (h.symm.trans hfail)
    exact ⟨rfl, hstatus⟩
  · rintro ⟨rfl, hstatus⟩
    exact ⟨past, f, List.prefix_rfl, rfl, h, hstatus⟩

/-- A framed program cannot tell control planes apart that differ in the words of service errors. -/
theorem alike_of_framed (h : ∀ past c, Reworded (transport past c) (transport' past c))
    {p : Program α} (hp : p.Framed) (past : List Call) : Alike transport transport' past p := by
  induction p generalizing past with
  | done result =>
      refine ⟨rfl, fun _ ↦ rfl, ?_⟩
      rintro c status ⟨before, f, hbefore, hcalls, -⟩
      have hlength := hbefore.length_le
      have hsame : past.length = before.length + 1 := by
        simpa [run] using congrArg List.length hcalls
      omega
  | ask c next ih =>
      cases hanswer : transport past c with
      | ok a =>
          have hanswer' : transport' past c = .ok a := (hanswer ▸ h past c).eq_ok
          obtain ⟨hcalls, hresult, hreport⟩ := ih (.ok a) (hp.2 a) (past ++ [c])
          constructor
          · rw [run_ask_ok hanswer, run_ask_ok hanswer', hcalls]
          · intro hnone
            rw [run_ask_ok hanswer, run_ask_ok hanswer']
            refine hresult ?_
            rintro ⟨c', status, hfails⟩
            exact hnone ⟨c', status, (failsAt_ask_ok_iff hanswer).mpr hfails⟩
          · intro c' status hfails
            rw [run_ask_ok hanswer, run_ask_ok hanswer', failsAt_ask_ok_iff hanswer']
            exact hreport ((failsAt_ask_ok_iff hanswer).mp hfails)
      | error f =>
          obtain ⟨g, hanswer', hstatus, hsame⟩ := (hanswer ▸ h past c).eq_error
          constructor
          · rw [run_ask_error hp hanswer, run_ask_error hp hanswer']
          · intro hnone
            rw [run_ask_error hp hanswer, run_ask_error hp hanswer', hsame]
            refine Option.eq_none_iff_forall_ne_some.mpr fun status hf ↦ hnone ⟨c, status, ?_⟩
            exact (failsAt_ask_error_iff hp hanswer).mpr ⟨rfl, hf⟩
          · intro c' status hfails
            obtain ⟨rfl, hf⟩ := (failsAt_ask_error_iff hp hanswer).mp hfails
            have hg : g.status? = some status := hstatus.trans hf
            rw [run_ask_error hp hanswer, run_ask_error hp hanswer',
              failsAt_ask_error_iff hp hanswer']
            exact ⟨⟨rfl, hg⟩, _, _, rfl, rfl, f.report_within hf _, g.report_within hg _⟩

/-- Two control planes that answer every call alike, or fail with service errors of the same status
and any code and message, against all operations: bringing a broker to a goal, describing it and
listing its users. Both are asked the same, and an operation ends alike unless a service error ends
it. Then it is reported by what could not be done and the sentence for the status, so nothing that
the control plane said is told. -/
theorem reports_tell_status_only {transport transport' : Transport}
    (h : ∀ past c, Reworded (transport past c) (transport' past c)) (past : List Call)
    (bound : Nat) :
    (∀ t o goal d,
      Alike transport transport' past (Broker.convergeWithin t o bound goal d)) ∧
    (∀ id name, Alike transport transport' past (Broker.describeWithin bound id name)) ∧
    ∀ id q, Alike transport transport' past (Listing.usersWithin bound id q) :=
  ⟨fun t o goal d ↦ alike_of_framed h (Broker.framed_convergeWithin t o bound goal d) past,
    fun id name ↦ alike_of_framed h (Broker.framed_describeWithin bound id name) past,
    fun id q ↦ alike_of_framed h (Listing.framed_usersWithin bound id q) past⟩

/-- A refusal to list brokers is reported without the words of the refusal. -/
theorem refused_search_is_reported :
    let refusal (message : String) : Failure :=
      .ofCause (.service ⟨403, some "AccessDeniedException", message⟩)
    let plane (message : String) : Transport := fun _ c ↦
      Fixture.answer { Fixture.empty with failures := [("list_brokers", refusal message)] } c
    let told (message : String) : Except Failure Json :=
      (run (plane message) [] (Broker.describeWithin 1 none (some "orders"))).1
    (∀ past c, Reworded (plane "host-7 refuses" past c) (plane "ann may not list" past c)) ∧
    ∃ f f', told "host-7 refuses" = .error f ∧ told "ann may not list" = .error f' ∧
      f.report = "Couldn't list brokers: Permission denied. Check your IAM permissions." ∧
      f'.report = "Couldn't list brokers: Permission denied. Check your IAM permissions." := by
  intro refusal plane told
  have hreworded : ∀ past c,
      Reworded (plane "host-7 refuses" past c) (plane "ann may not list" past c) := by
    intro past c
    cases c with
    | listBrokers limit token => exact .inr ⟨_, _, 403, rfl, rfl, rfl, rfl⟩
    | _ => exact .inl rfl
  have hfails : FailsAt (plane "host-7 refuses") []
      (Broker.describeWithin 1 none (some "orders")) (.listBrokers 100 none) 403 :=
    ⟨[], refusal "host-7 refuses", List.nil_prefix, rfl, rfl, rfl⟩
  exact ⟨hreworded, ((reports_tell_status_only hreworded [] 1).2.1 none (some "orders")).report_eq
    hfails |>.2⟩

end Program

end BrokerControl
