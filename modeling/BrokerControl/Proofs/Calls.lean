import BrokerControl.Proofs.Convergence

/-!
# The calls of a run

Once a run has looked for its broker, its goal and what was found bound the calls that it may still
make and the fault that says that there is no such broker (`Broker.run_act_bounded`), whether it
changes things or not and whatever it is answered.
-/

namespace BrokerControl

namespace Broker

open Program

/-- `MayCall goal found c` says that `c` is a call that a run may make for its goal once it has
looked for its broker. -/
def MayCall : Goal → Option String → Call → Prop
  | .present, none, c => ∃ body, c = .create body
  | .present, some id, c => ∃ body, c = .update id body
  | .absent, some id, c => c = .describe id ∨ c = .delete id
  | .restarted, some id, c => c = .reboot id ∨ c = .describe id
  | .absent, none, _ | .restarted, none, _ => False

variable {goal : Goal} {found : Option String}

/-- Brokers are listed only to look one up. -/
theorem not_mayCall_listBrokers (limit : Nat) (token : Option String) :
    ¬ MayCall goal found (.listBrokers limit token) := by
  cases goal <;> cases found <;> simp [MayCall]

/-- A broker is created only where none was found. -/
theorem eq_none_of_mayCall_create {body : Json} (h : MayCall goal found (.create body)) :
    found = none := by
  cases found with
  | none => rfl
  | some id => cases goal <;> simp [MayCall] at h

/-- A policy refuses a declaration for a parameter and for nothing else. -/
theorem guard_cases (t : Table) (d : Declaration) (policy : UpdatePolicy) :
    guard t d policy = .ok () ∨ ∃ key, guard t d policy = .error (.creationOnlyOnUpdate key) := by
  rw [guard]
  split
  · rcases Table.checkUpdate_cases t.creationOnly d with ⟨key, -, h⟩ | ⟨-, h⟩
    · exact .inr ⟨key, h⟩
    · exact .inl h
  · exact .inl rfl

/-- `Bounded goal found name calls rest` says that `rest` goes on after `calls` with calls that its
goal may make, and says that a broker cannot be found only where none was found, and only of the
one with the name. -/
def Bounded (goal : Goal) (found : Option String) (name : String) (calls : List Call)
    (rest : Except Failure Outcome × List Call) : Prop :=
  (∃ made, rest.2 = calls ++ made ∧ ∀ c ∈ made, MayCall goal found c) ∧
    ∀ n, rest.1 = .error (.ofFault (.notFound n)) → found = none ∧ n = name

variable (t : Table) (transport : Transport) (name : String) (d : Declaration) (calls : List Call)

/-- A run that ends without a further call is bounded if it does not say that a broker cannot be
found. -/
theorem bounded_of_no_call {result : Except Failure Outcome}
    (h : ∀ n, result ≠ .error (.ofFault (.notFound n))) :
    Bounded goal found name calls (result, calls) :=
  ⟨⟨[], (List.append_nil calls).symm, by simp⟩, fun n hn ↦ absurd hn (h n)⟩

/-- A creation is refused for other reasons than that there is no such broker. -/
theorem creationBody_ne_notFound {fault : Fault} (h : t.creationBody d = .error fault)
    (n : String) : fault ≠ .notFound n := by
  rcases Table.creationBody_error h with ⟨s, rfl⟩ | rfl <;> simp

theorem course_bounded (policy : UpdatePolicy) (goal : Goal) (found : Option String) :
    Bounded goal found name calls (course t transport name d calls policy goal found) := by
  cases found with
  | none =>
      cases goal with
      | present =>
          rw [course]
          cases hbody : t.creationBody d with
          | error fault =>
              exact bounded_of_no_call name calls (by simp [creationBody_ne_notFound t d hbody])
          | ok body =>
              dsimp only
              cases transport calls (.create (.object body)) with
              | error e => exact ⟨⟨[_], rfl, by simp [MayCall]⟩, by simp⟩
              | ok created => exact ⟨⟨[_], rfl, by simp [MayCall]⟩, by simp⟩
      | absent | restarted =>
          exact ⟨⟨[], (List.append_nil calls).symm, by simp⟩, by simp [course, eq_comm]⟩
  | some id =>
      cases goal with
      | present =>
          rw [course]
          rcases guard_cases t d policy with hguard | ⟨key, hguard⟩
          · simp only [hguard]
            cases transport calls (.update id (.object (t.updateBody d))) with
            | error e => exact ⟨⟨[_], rfl, by simp [MayCall]⟩, by simp⟩
            | ok updated => exact ⟨⟨[_], rfl, by simp [MayCall]⟩, by simp⟩
          · simp only [hguard]
            exact bounded_of_no_call name calls (by simp)
      | absent =>
          rw [course]
          cases transport calls (.describe id) with
          | error e => exact ⟨⟨[_], rfl, by simp [MayCall]⟩, by simp⟩
          | ok description =>
              dsimp only
              cases transport (calls ++ [.describe id]) (.delete id) with
              | error e => exact ⟨⟨[_, _], rfl, by simp [MayCall]⟩, by simp⟩
              | ok _ => exact ⟨⟨[_, _], rfl, by simp [MayCall]⟩, by simp⟩
      | restarted =>
          rw [course]
          cases transport calls (.reboot id) with
          | error e => exact ⟨⟨[_], rfl, by simp [MayCall]⟩, by simp⟩
          | ok _ =>
              dsimp only
              cases transport (calls ++ [.reboot id]) (.describe id) with
              | error e => exact ⟨⟨[_, _], rfl, by simp [MayCall]⟩, by simp⟩
              | ok description => exact ⟨⟨[_, _], rfl, by simp [MayCall]⟩, by simp⟩

theorem dryCourse_bounded (o : RunOptions) (goal : Goal) (found : Option String) :
    Bounded goal found name calls (dryCourse t transport name d calls o goal found) := by
  cases found with
  | none =>
      cases goal with
      | present =>
          rw [dryCourse]
          cases hbody : t.creationBody d with
          | error fault =>
              exact bounded_of_no_call name calls (by simp [creationBody_ne_notFound t d hbody])
          | ok body => exact bounded_of_no_call name calls (by simp)
      | absent | restarted =>
          exact ⟨⟨[], (List.append_nil calls).symm, by simp⟩, by simp [dryCourse, eq_comm]⟩
  | some id =>
      cases goal with
      | present =>
          rw [dryCourse]
          rcases guard_cases t d o.policy with hguard | ⟨key, hguard⟩
          · simp only [hguard]
            exact bounded_of_no_call name calls (by simp)
          · simp only [hguard]
            exact bounded_of_no_call name calls (by simp)
      | absent | restarted =>
          rw [dryCourse]
          cases transport calls (.describe id) with
          | error e => exact ⟨⟨[_], rfl, by simp [MayCall]⟩, by simp⟩
          | ok description => exact ⟨⟨[_], rfl, by simp [MayCall]⟩, by simp⟩

/-- What a run does once it has looked for its broker is bounded by its goal and what was found. -/
theorem run_act_bounded (o : RunOptions) (goal : Goal) (found : Option String) :
    Bounded goal found name calls (run transport calls (act t o goal name d found)) := by
  cases hdry : o.dryRun with
  | false =>
      rw [run_act hdry]
      exact course_bounded t transport name d calls o.policy goal found
  | true =>
      rw [run_act_dry hdry]
      exact dryCourse_bounded t transport name d calls o goal found

end Broker

end BrokerControl
