import BrokerControl.Convergence
import BrokerControl.Proofs.Listings
import BrokerControl.Proofs.Requests

/-!
# The course of a run

What a run does once it has looked for its broker, as two tables: `Broker.course` for runs that
change things and `Broker.dryCourse` for dry runs. Each cell gives the calls in their order, and a
call that fails ends the run. `Broker.run_act` and `Broker.run_act_dry` say that runs follow these
tables, `Broker.standard_run_exact` says how a whole run goes, whatever the control plane answers.
-/

namespace BrokerControl

namespace Broker

open Program

variable (t : Table) (transport : Transport) (name : String) (d : Declaration) (calls : List Call)

/-- Whether a policy lets a declaration update a broker. -/
def guard (policy : UpdatePolicy) : Except Fault Unit :=
  if policy = .reject then Table.checkUpdate t.creationOnly d else .ok ()

/-- How a run that changes things goes on after `calls`: its result, and all calls made by then. -/
def course (policy : UpdatePolicy) : Goal → Option String → Except Failure Outcome × List Call
  | .present, none =>
    match t.creationBody d with
    | .error fault => (.error (.ofFault fault), calls)
    | .ok body =>
      let request := Call.create (.object body)
      match transport calls request with
      | .error e => (.error (e.within "Couldn't create broker"), calls ++ [request])
      | .ok created => (.ok ⟨created, true⟩, calls ++ [request])
  | .present, some id =>
    match guard t d policy with
    | .error fault => (.error (.ofFault fault), calls)
    | .ok () =>
      let request := Call.update id (.object (t.updateBody d))
      match transport calls request with
      | .error e => (.error (e.within "Couldn't update broker"), calls ++ [request])
      | .ok updated => (.ok ⟨updated, true⟩, calls ++ [request])
  | .absent, some id =>
    match transport calls (.describe id) with
    | .error e => (.error (e.within "Couldn't get broker details"), calls ++ [.describe id])
    | .ok description =>
      match transport (calls ++ [.describe id]) (.delete id) with
      | .error e => (.error (e.within "Couldn't delete broker"),
          calls ++ [.describe id, .delete id])
      | .ok _ => (.ok ⟨description, true⟩, calls ++ [.describe id, .delete id])
  | .restarted, some id =>
    match transport calls (.reboot id) with
    | .error e => (.error (e.within "Couldn't reboot broker"), calls ++ [.reboot id])
    | .ok _ =>
      match transport (calls ++ [.reboot id]) (.describe id) with
      | .error e => (.error (e.within "Couldn't get broker details"),
          calls ++ [.reboot id, .describe id])
      | .ok description => (.ok ⟨description, true⟩, calls ++ [.reboot id, .describe id])
  | .absent, none | .restarted, none => (.error (.ofFault (.notFound name)), calls)

/-- How a dry run goes on after `calls`. -/
def dryCourse (o : RunOptions) : Goal → Option String → Except Failure Outcome × List Call
  | .present, none =>
    match t.creationBody d with
    | .error fault => (.error (.ofFault fault), calls)
    | .ok _ => (.ok ⟨o.placeholder name, true⟩, calls)
  | .present, some id =>
    match guard t d o.policy with
    | .error fault => (.error (.ofFault fault), calls)
    | .ok () => (.ok ⟨.object [("BrokerId", .string id)], true⟩, calls)
  | .absent, some id | .restarted, some id =>
    match transport calls (.describe id) with
    | .error e => (.error (e.within "Couldn't get broker details"), calls ++ [.describe id])
    | .ok description => (.ok ⟨description, true⟩, calls ++ [.describe id])
  | .absent, none | .restarted, none => (.error (.ofFault (.notFound name)), calls)

variable {t transport name d calls} {o : RunOptions}

/-! ### Runs that change things -/

theorem run_create (hdry : o.dryRun = false) : run transport calls (create t o name d) =
    course t transport name d calls o.policy .present none := by
  rw [create, course, run_bind, run_ofResult]
  cases t.creationBody d with
  | error fault => rfl
  | ok body =>
      simp only [Except.mapError, hdry, Bool.false_eq_true, if_false]
      rw [run_call_bind]
      cases transport calls (.create (.object body)) <;> rfl

theorem run_update (hdry : o.dryRun = false) (id : String) :
    run transport calls (update t o id d) =
      course t transport name d calls o.policy .present (some id) := by
  simp only [update, course, guard, hdry, Bool.false_eq_true, if_false]
  by_cases hpolicy : o.policy = .reject
  · simp only [hpolicy, if_true]
    rw [run_bind, run_ofResult]
    cases Table.checkUpdate t.creationOnly d with
    | error fault => rfl
    | ok _ =>
        simp only [Except.mapError]
        rw [run_call_bind]
        cases transport calls (.update id (.object (t.updateBody d))) <;> rfl
  · simp only [hpolicy, if_false]
    rw [run_call_bind]
    cases transport calls (.update id (.object (t.updateBody d))) <;> rfl

theorem run_delete (hdry : o.dryRun = false) (id : String) :
    run transport calls (delete o id) =
      course t transport name d calls o.policy .absent (some id) := by
  simp only [delete, details, course, hdry, Bool.false_eq_true, if_false]
  rw [run_call_bind]
  cases transport calls (.describe id) with
  | error e => rfl
  | ok description =>
      dsimp only
      rw [run_call_bind]
      cases transport (calls ++ [.describe id]) (.delete id) <;> simp [Outcome.ofChange]

theorem run_reboot (hdry : o.dryRun = false) (id : String) :
    run transport calls (reboot o id) =
      course t transport name d calls o.policy .restarted (some id) := by
  simp only [reboot, details, course, hdry, Bool.false_eq_true, if_false]
  rw [run_call_bind]
  cases transport calls (.reboot id) with
  | error e => rfl
  | ok _ =>
      dsimp only
      rw [run_call_bind]
      cases transport (calls ++ [.reboot id]) (.describe id) <;> simp [Outcome.ofChange]

/-- A run that changes things follows its table. -/
theorem run_act (hdry : o.dryRun = false) (goal : Goal) (found : Option String) :
    run transport calls (act t o goal name d found) =
      course t transport name d calls o.policy goal found := by
  cases found with
  | none =>
      cases goal with
      | present => exact run_create hdry
      | absent | restarted => rfl
  | some id =>
      cases goal with
      | present => exact run_update hdry id
      | absent => exact run_delete hdry id
      | restarted => exact run_reboot hdry id

/-! ### Dry runs -/

/-- A dry run follows its table. -/
theorem run_act_dry (hdry : o.dryRun = true) (goal : Goal) (found : Option String) :
    run transport calls (act t o goal name d found) =
      dryCourse t transport name d calls o goal found := by
  cases found with
  | none =>
      cases goal with
      | present =>
          simp only [act, create, dryCourse, hdry, if_true]
          rw [run_bind, run_ofResult]
          cases t.creationBody d <;> rfl
      | absent | restarted => rfl
  | some id =>
      cases goal with
      | present =>
          simp only [act, update, dryCourse, guard, hdry, if_true]
          by_cases hpolicy : o.policy = .reject
          · simp only [hpolicy, if_true]
            rw [run_bind, run_ofResult]
            cases Table.checkUpdate t.creationOnly d <;> rfl
          · simp only [hpolicy, if_false]
            rfl
      | absent =>
          simp only [act, delete, details, dryCourse, hdry, if_true]
          rw [run_call_bind]
          cases transport calls (.describe id) <;> rfl
      | restarted =>
          simp only [act, reboot, details, dryCourse, hdry, if_true]
          rw [run_call_bind]
          cases transport calls (.describe id) <;> rfl

/-! ### Whole runs -/

theorem name?_eq_some_iff : name? d = some name ↔
    Object.get? d "broker_name" = some (.string name) ∧ name ≠ "" := by
  rw [name?, Option.filter_eq_some_iff, Table.nameKey]
  refine and_congr ?_ (by simp)
  rw [Option.bind_eq_some_iff]
  simp only [Json.string?_eq_some_iff, exists_eq_right]

variable {past : List Call} {bound : Nat} {goal : Goal}

theorem name?_eq_none_iff : name? d = none ↔
    ∀ s, Object.get? d "broker_name" = some (.string s) → s = "" := by
  rw [Option.eq_none_iff_forall_ne_some]
  refine forall_congr' fun s ↦ ?_
  rw [ne_eq, name?_eq_some_iff, not_and, not_ne_iff]

/-- Without a name nothing is done. -/
theorem run_unnamed (hname : name? d = none) :
    run transport past (convergeWithin t o bound goal d) =
      (.error (.ofFault .missingBrokerName), past) := by
  rw [convergeWithin, hname]
  rfl

/-- A run ends where the search for its broker fails. -/
theorem run_search_error (hname : name? d = some name) {e : Failure}
    (hsearch : run transport past (Listing.findBrokerWithin bound name) = (.error e, calls)) :
    run transport past (convergeWithin t o bound goal d) = (.error e, calls) := by
  rw [convergeWithin, hname]
  exact run_bind_error transport past hsearch

/-- A run goes on with what the search for its broker found. -/
theorem run_search_ok (hname : name? d = some name) {found : Option String}
    (hsearch : run transport past (Listing.findBrokerWithin bound name) = (.ok found, calls)) :
    run transport past (convergeWithin t o bound goal d) =
      run transport calls (act t o goal name d found) := by
  rw [convergeWithin, hname]
  exact run_bind_ok transport past hsearch

/-- A run has no name to look for, or ends where the search for its broker fails, or goes on with
what that found. -/
theorem run_cases (t : Table) (o : RunOptions) (bound : Nat) (goal : Goal) (d : Declaration)
    (transport : Transport) (past : List Call) :
    (name? d = none ∧ run transport past (convergeWithin t o bound goal d) =
      (.error (.ofFault .missingBrokerName), past)) ∨
    ∃ name, name? d = some name ∧
      ((∃ e calls, run transport past (Listing.findBrokerWithin bound name) = (.error e, calls) ∧
          run transport past (convergeWithin t o bound goal d) = (.error e, calls)) ∨
        ∃ found calls,
          run transport past (Listing.findBrokerWithin bound name) = (.ok found, calls) ∧
          run transport past (convergeWithin t o bound goal d) =
            run transport calls (act t o goal name d found)) := by
  cases hname : name? d with
  | none => exact .inl ⟨rfl, run_unnamed hname⟩
  | some name =>
      refine .inr ⟨name, rfl, ?_⟩
      cases hsearch : run transport past (Listing.findBrokerWithin bound name) with
      | mk found calls =>
          cases found with
          | error e => exact .inl ⟨e, calls, rfl, run_search_error hname hsearch⟩
          | ok found => exact .inr ⟨found, calls, rfl, run_search_ok hname hsearch⟩

/-- The body of a creation has the name under which the broker was looked for. -/
theorem brokerName_of_creationBody (hname : name? d = some name) {body : Body}
    (hbody : Table.standard.creationBody d = .ok body) :
    Object.get? body "BrokerName" = some (.string name) := by
  obtain ⟨hget, -⟩ := name?_eq_some_iff.mp hname
  obtain rfl := Table.eq_of_creationBody hbody
  calc Path.read ⟨"BrokerName", []⟩ _
    _ = Path.read ⟨"BrokerName", []⟩ (Table.standard.body .creation d) :=
        Table.read_amended_of_apart d (by decide) (by decide)
    _ = Table.standard.value? .creation d Table.nameKey :=
        (Table.carries_body Table.standard_wellFormed .creation d).read_eq
          Table.standard_path?_nameKey
    _ = d.given? Table.nameKey := Table.value?_creation d (by decide)
    _ = some (.string name) := Declaration.given?_eq_some_iff.mpr ⟨hget, rfl⟩

/-- A run that is not cut off by its bound goes the same way if it may read more pages. -/
theorem run_of_le (hname : name? d = some name) {more : Nat} (hle : bound ≤ more)
    (hend : (run transport past (Listing.findBrokerWithin bound name)).1 ≠
      .error (.ofCause .tooManyPages)) :
    run transport past (convergeWithin t o more goal d) =
      run transport past (convergeWithin t o bound goal d) := by
  have hsame := Listing.findBrokerWithin_of_le hle name past hend
  cases hsearch : run transport past (Listing.findBrokerWithin bound name) with
  | mk found calls =>
      rw [hsearch] at hsame
      cases found with
      | error e => rw [run_search_error hname hsame, run_search_error hname hsearch]
      | ok found => rw [run_search_ok hname hsame, run_search_ok hname hsearch]

/-- A run that changes things, however long the listing of brokers is. Without a name it makes no
call. Otherwise it lists brokers to look its own up, ends with a failure of that search, and after
its success goes on as the table of `course` says. What it creates has the name that was looked
for, and an update carries what is given at parameters that are neither of creations nor the
name. The bound on the pages matters only if it cuts the search off. -/
theorem standard_run_exact (bound : Nat) (transport : Transport) (past : List Call)
    (policy : UpdatePolicy) (region placeholderId : String) (goal : Goal) (d : Declaration) :
    let o : RunOptions := ⟨false, policy, region, placeholderId⟩
    let whole := run transport past (convergeWithin .standard o bound goal d)
    ((∀ s, Object.get? d "broker_name" = some (.string s) → s = "") →
      whole = (.error (.ofFault .missingBrokerName), past)) ∧
    ∀ name, Object.get? d "broker_name" = some (.string name) → name ≠ "" →
      let search := run transport past (Listing.findBrokerWithin bound name)
      (∃ tokens : List (Option String),
        search.2 = past ++ tokens.map (Call.listBrokers Listing.brokerPageSize)) ∧
      (∀ e, search.1 = .error e → whole = (.error e, search.2)) ∧
      (∀ found, search.1 = .ok found →
        whole = course .standard transport name d search.2 policy goal found) ∧
      (∀ body, Table.standard.creationBody d = .ok body →
        Object.get? body "BrokerName" = some (.string name)) ∧
      Table.standard.Carries
        (fun key ↦ if key = "broker_name" ∨ Table.standard.isCreationOnly key then none
          else d.given? key)
        (Table.standard.updateBody d) ∧
      ∀ more, bound ≤ more → search.1 ≠ .error (.ofCause .tooManyPages) →
        run transport past (convergeWithin .standard o more goal d) = whole := by
  intro o whole
  refine ⟨fun h ↦ run_unnamed (name?_eq_none_iff.mpr h), ?_⟩
  intro name hget hne search
  have hname : name? d = some name := name?_eq_some_iff.mpr ⟨hget, hne⟩
  refine ⟨Listing.findBrokerWithin_calls transport bound name past, ?_, ?_,
    fun body hbody ↦ brokerName_of_creationBody hname hbody,
    Table.carries_updateBody Table.standard_wellFormed Table.standard_path?_nameKey d,
    fun _ hle hend ↦ run_of_le hname hle hend⟩
  · intro e he
    exact run_search_error hname (Prod.ext he rfl)
  · intro found hfound
    exact (run_search_ok hname (Prod.ext hfound rfl)).trans (run_act rfl goal found)

end Broker

end BrokerControl
