import BrokerControl.Proofs.Convergence

/-!
# Dry runs against real ones

`Broker.Rehearses` relates a dry run to the run that changes things: it makes the same calls but
for the one that changes something, and fails exactly as that one does. The relation holds cell by
cell of the two tables (`Broker.dryCourse_rehearses`), so it holds of whole runs
(`Broker.dry_run_simulates`), against any control plane whose answer to a call is fixed by the
call.
-/

namespace BrokerControl

namespace Broker

open Program

/-- `Rehearses answer dry real` says that `dry` changes nothing, that `real` changes something once
at most, and that, unless that change is what fails, both make the same calls otherwise and fail
alike. -/
structure Rehearses (answer : (c : Call) → Except Failure c.Answer)
    (dry real : Except Failure Outcome × List Call) : Prop where
  reads : ∀ c ∈ dry.2, c.mutates = false
  once : (real.2.filter Call.mutates).length ≤ 1
  calls_eq : (∀ c ∈ real.2, c.mutates = true → ∃ v, answer c = .ok v) →
    dry.2 = real.2.filter fun c ↦ !c.mutates
  error_iff : (∀ c ∈ real.2, c.mutates = true → ∃ v, answer c = .ok v) →
    ∀ e, dry.1 = .error e ↔ real.1 = .error e

variable {t : Table} {answer : (c : Call) → Except Failure c.Answer} {name : String}
  {d : Declaration} {calls : List Call} {o : RunOptions}

theorem filter_mutates_eq_nil (h : ∀ c ∈ calls, c.mutates = false) :
    calls.filter Call.mutates = [] := by
  rw [List.filter_eq_nil_iff]
  intro c hc
  simp [h c hc]

theorem filter_not_mutates_eq_self (h : ∀ c ∈ calls, c.mutates = false) :
    calls.filter (fun c ↦ !c.mutates) = calls := by
  rw [List.filter_eq_self]
  intro c hc
  simp [h c hc]

/-- A run that changes nothing rehearses itself. -/
theorem rehearses_refl (result : Except Failure Outcome) (h : ∀ c ∈ calls, c.mutates = false) :
    Rehearses answer (result, calls) (result, calls) where
  reads := h
  once := by simp [filter_mutates_eq_nil h]
  calls_eq _ := (filter_not_mutates_eq_self h).symm
  error_iff _ _ := Iff.rfl

/-- A run with one change is rehearsed by one that leaves it out, if after a success of that change
both go on alike. -/
theorem rehearses_of_change {change : Call} {before after made : List Call}
    {shown result : Except Failure Outcome} (hchange : change.mutates = true)
    (hbefore : ∀ c ∈ before, c.mutates = false) (hafter : ∀ c ∈ after, c.mutates = false)
    (hmade : ∀ c ∈ made, c.mutates = false)
    (halike : ∀ v, answer change = .ok v →
      made = before ++ after ∧ ∀ e, shown = .error e ↔ result = .error e) :
    Rehearses answer (shown, made) (result, before ++ change :: after) where
  reads := hmade
  once := by simp [hchange, filter_mutates_eq_nil hbefore, filter_mutates_eq_nil hafter]
  calls_eq hok := by
    obtain ⟨v, hv⟩ := hok change (by simp) hchange
    rw [List.filter_append, List.filter_cons_of_neg (by simp [hchange]),
      filter_not_mutates_eq_self hbefore, filter_not_mutates_eq_self hafter]
    exact (halike v hv).1
  error_iff hok := by
    obtain ⟨v, hv⟩ := hok change (by simp) hchange
    exact (halike v hv).2

/-- The search for a broker changes nothing. -/
theorem reads_of_search {transport : Transport} {bound : Nat}
    {found : Except Failure (Option String)}
    (hsearch : run transport [] (Listing.findBrokerWithin bound name) = (found, calls)) :
    ∀ c ∈ calls, c.mutates = false := by
  obtain ⟨tokens, htokens⟩ := Listing.findBrokerWithin_calls transport bound name []
  obtain rfl : calls = _ := (congrArg Prod.snd hsearch).symm.trans htokens
  intro c hc
  obtain ⟨token, -, rfl⟩ := List.mem_map.mp hc
  rfl

theorem reads_append_describe (h : ∀ c ∈ calls, c.mutates = false) (id : String) :
    ∀ c ∈ calls ++ [.describe id], c.mutates = false := by
  intro c hc
  rcases List.mem_append.mp hc with hc | hc
  · exact h c hc
  · rw [List.mem_singleton.mp hc]
    rfl

/-- In each cell of the tables the dry run rehearses the real one. -/
theorem dryCourse_rehearses (h : ∀ c ∈ calls, c.mutates = false) (goal : Goal)
    (found : Option String) :
    Rehearses answer (dryCourse t (fun _ c ↦ answer c) name d calls o goal found)
      (course t (fun _ c ↦ answer c) name d calls o.policy goal found) := by
  have hnil : ∀ c ∈ ([] : List Call), c.mutates = false := by simp
  cases found with
  | none =>
      cases goal with
      | present =>
          simp only [course, dryCourse]
          cases t.creationBody d with
          | error fault => exact rehearses_refl _ h
          | ok body =>
              dsimp only
              have hcreates : (Call.create (.object body)).mutates = true := rfl
              cases hcreate : answer (.create (.object body)) with
              | error e => exact rehearses_of_change hcreates h hnil h (by simp [hcreate])
              | ok created => exact rehearses_of_change hcreates h hnil h (by simp)
      | absent | restarted => exact rehearses_refl _ h
  | some id =>
      cases goal with
      | present =>
          simp only [course, dryCourse]
          cases guard t d o.policy with
          | error fault => exact rehearses_refl _ h
          | ok _ =>
              have hupdates : (Call.update id (.object (t.updateBody d))).mutates = true := rfl
              cases hupdate : answer (.update id (.object (t.updateBody d))) with
              | error e => exact rehearses_of_change hupdates h hnil h (by simp [hupdate])
              | ok updated => exact rehearses_of_change hupdates h hnil h (by simp)
      | absent =>
          have hdescribe := reads_append_describe h id
          have hdeletes : (Call.delete id).mutates = true := rfl
          have hcalls : calls ++ [.describe id, .delete id] =
            (calls ++ [.describe id]) ++ [.delete id] := by simp
          simp only [course, dryCourse, hcalls]
          cases answer (.describe id) with
          | error e => exact rehearses_refl _ hdescribe
          | ok description =>
              cases hdelete : answer (.delete id) with
              | error e =>
                  exact rehearses_of_change hdeletes hdescribe hnil hdescribe (by simp [hdelete])
              | ok _ => exact rehearses_of_change hdeletes hdescribe hnil hdescribe (by simp)
      | restarted =>
          have hdescribe := reads_append_describe h id
          have hreboots : (Call.reboot id).mutates = true := rfl
          have hafter : ∀ c ∈ [Call.describe id], c.mutates = false := by simp [Call.mutates]
          simp only [course, dryCourse]
          -- The dry run describes the broker where the real one stops at a failed reboot.
          cases hreboot : answer (.reboot id) with
          | error e =>
              cases answer (.describe id) <;>
                exact rehearses_of_change hreboots h hnil hdescribe (by simp [hreboot])
          | ok _ =>
              cases answer (.describe id) <;>
                exact rehearses_of_change hreboots h hafter hdescribe (by simp)

/-- What a dry run shows where the real run shows `made`: an identity in place of the answer to an
update or a creation, and otherwise the same. -/
def rehearsed (o : RunOptions) (name : String) (made : Outcome) : Goal → Option String → Outcome
  | .present, none => ⟨o.placeholder name, true⟩
  | .present, some id => ⟨.object [("BrokerId", .string id)], true⟩
  | .absent, _ | .restarted, _ => made

theorem dryCourse_outcome {goal : Goal} {found : Option String} {made shown : Outcome}
    (hreal : (course t (fun _ c ↦ answer c) name d calls o.policy goal found).1 = .ok made)
    (hdry : (dryCourse t (fun _ c ↦ answer c) name d calls o goal found).1 = .ok shown) :
    shown = rehearsed o name made goal found := by
  cases found with
  | none =>
      cases goal with
      | present =>
          cases hbody : t.creationBody d <;> simp [dryCourse, hbody] at hdry
          exact hdry.symm
      | absent | restarted => cases hdry
  | some id =>
      cases goal with
      | present =>
          cases hguard : guard t d o.policy <;> simp [dryCourse, hguard] at hdry
          exact hdry.symm
      | absent =>
          cases hdescribe : answer (.describe id) with
          | error e => simp [dryCourse, hdescribe] at hdry
          | ok description =>
              cases hdelete : answer (.delete id) <;>
                simp [course, dryCourse, hdescribe, hdelete] at hreal hdry
              exact hdry.symm.trans hreal
      | restarted =>
          cases hreboot : answer (.reboot id) with
          | error e => simp [course, hreboot] at hreal
          | ok _ =>
              cases hdescribe : answer (.describe id) <;>
                simp [course, dryCourse, hreboot, hdescribe] at hreal hdry
              exact hdry.symm.trans hreal

/-- A dry run changes nothing, against any control plane whose answer to a call is fixed by the
call. Unless the change fails that the real run makes, both make the same calls but for that change
and fail alike; and if both succeed, the dry run shows what the real one does, or the identifier of
the broker that would be updated, or a made-up identity of the broker that would be created. -/
theorem dry_run_simulates (t : Table) (bound : Nat)
    (answer : (c : Call) → Except Failure c.Answer) (policy : UpdatePolicy)
    (region placeholderId : String) (goal : Goal) (d : Declaration) :
    let transport : Transport := fun _ c ↦ answer c
    let attempt (dryRun : Bool) : Except Failure Outcome × List Call :=
      run transport [] (convergeWithin t ⟨dryRun, policy, region, placeholderId⟩ bound goal d)
    Rehearses answer (attempt true) (attempt false) ∧
    ∀ made shown, (attempt false).1 = .ok made → (attempt true).1 = .ok shown →
      ∃ name found, Object.get? d "broker_name" = some (.string name) ∧
        (run transport [] (Listing.findBrokerWithin bound name)).1 = .ok found ∧
        shown = match goal, found with
          | .present, none =>
            let place := if region.isEmpty then "us-east-1" else region
            ⟨.object [
              ("BrokerArn",
                .string s!"arn:aws:mq:{place}:000000000000:broker:{name}:{placeholderId}"),
              ("BrokerId", .string placeholderId)], true⟩
          | .present, some id => ⟨.object [("BrokerId", .string id)], true⟩
          | .absent, _ | .restarted, _ => made := by
  intro transport attempt
  cases hname : name? d with
  | none =>
      have hattempt (dryRun : Bool) : attempt dryRun = (.error (.ofFault .missingBrokerName), []) :=
        run_unnamed hname
      rw [hattempt, hattempt]
      refine ⟨rehearses_refl _ (by simp), ?_⟩
      intro made shown hmade
      cases hmade
  | some name =>
      cases hsearch : run transport [] (Listing.findBrokerWithin bound name) with
      | mk found calls =>
          have hreads := reads_of_search hsearch
          cases found with
          | error e =>
              have hattempt (dryRun : Bool) : attempt dryRun = (.error e, calls) :=
                run_search_error hname hsearch
              rw [hattempt, hattempt]
              refine ⟨rehearses_refl _ hreads, ?_⟩
              intro made shown hmade
              cases hmade
          | ok found =>
              have hdry : attempt true = _ := (run_search_ok hname hsearch).trans
                (run_act_dry rfl goal found)
              have hreal : attempt false = _ := (run_search_ok hname hsearch).trans
                (run_act rfl goal found)
              rw [hdry, hreal]
              refine ⟨dryCourse_rehearses hreads goal found, ?_⟩
              intro made shown hmade hshown
              have hout := dryCourse_outcome hmade hshown
              refine ⟨name, found, (name?_eq_some_iff.mp hname).1, congrArg Prod.fst hsearch,
                hout.trans ?_⟩
              cases goal <;> cases found <;> rfl

end Broker

end BrokerControl
