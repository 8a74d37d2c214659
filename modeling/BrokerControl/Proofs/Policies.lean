import BrokerControl.Proofs.Convergence

/-!
# Update policies against each other

The policy for parameters of creations is asked in one cell of the table of a run: where a broker
was found that is to be present. There the strict policy refuses a declaration that gives such a
parameter, and names the smallest; everywhere else both policies make the same run
(`Broker.policies_agree`). That a dry run makes up an identity shows only in the outcome of a
creation (`Broker.run_identity`).
-/

namespace BrokerControl

namespace Broker

open Program

variable {t : Table} {transport : Transport} {past calls : List Call} {name : String}
  {d : Declaration} {goal : Goal} {found : Option String} {bound : Nat} {o o' : RunOptions}

/-- The strict policy refuses a declaration that gives a parameter of creations, and names the
smallest. -/
theorem guard_reject_of_given (h : ∃ key ∈ t.creationOnly, (d.given? key).isSome) :
    ∃ key ∈ t.creationOnly, (d.given? key).isSome ∧
      (∀ other ∈ t.creationOnly, (d.given? other).isSome → key ≤ other) ∧
      guard t d .reject = .error (.creationOnlyOnUpdate key) := by
  rcases Table.checkUpdate_cases t.creationOnly d with ⟨key, hkey, hcheck⟩ | ⟨hnone, -⟩
  · obtain ⟨hmem, hgiven, hleast⟩ := Table.forbidden?_eq_some_iff.mp hkey
    exact ⟨key, hmem, hgiven, hleast, hcheck⟩
  · obtain ⟨key, hmem, hgiven⟩ := h
    rw [Table.forbidden?_eq_none_iff.mp hnone key hmem] at hgiven
    cases hgiven

/-- The strict policy lets every other declaration pass. -/
theorem guard_reject_of_not_given (h : ¬ ∃ key ∈ t.creationOnly, (d.given? key).isSome) :
    guard t d .reject = .ok () := by
  refine Table.checkUpdate_eq_ok_iff.mpr ?_
  intro key hkey
  by_contra hgiven
  exact h ⟨key, hkey, Option.isSome_iff_ne_none.mpr hgiven⟩

/-- A policy is asked only where a broker was found that is to be present. -/
theorem course_policy {policy policy' : UpdatePolicy}
    (hguard : goal = .present → found.isSome → guard t d policy = guard t d policy') :
    course t transport name d calls policy goal found =
      course t transport name d calls policy' goal found := by
  cases goal with
  | present =>
      cases found with
      | none => rfl
      | some id => simp only [course, hguard rfl rfl]
  | absent | restarted => cases found <;> rfl

/-- A dry run asks its policy there too, and makes up an identity only where no broker was found
that is to be present. -/
theorem dryCourse_options
    (hguard : goal = .present → found.isSome → guard t d o.policy = guard t d o'.policy)
    (hplace : goal = .present → found.isNone → o.placeholder name = o'.placeholder name) :
    dryCourse t transport name d calls o goal found =
      dryCourse t transport name d calls o' goal found := by
  cases goal with
  | present =>
      cases found with
      | none => simp only [dryCourse, hplace rfl rfl]
      | some id => simp only [dryCourse, hguard rfl rfl]
  | absent | restarted => cases found <;> rfl

/-- Two policies that agree on a declaration, or are not asked, go on alike. -/
theorem run_act_policy (dryRun : Bool) {policy policy' : UpdatePolicy}
    (region placeholderId : String)
    (hguard : goal = .present → found.isSome → guard t d policy = guard t d policy') :
    run transport calls (act t ⟨dryRun, policy, region, placeholderId⟩ goal name d found) =
      run transport calls (act t ⟨dryRun, policy', region, placeholderId⟩ goal name d found) := by
  cases dryRun with
  | false =>
      rw [run_act rfl, run_act rfl]
      exact course_policy hguard
  | true =>
      rw [run_act_dry rfl, run_act_dry rfl]
      exact dryCourse_options hguard fun _ _ ↦ rfl

/-- The identity that a run makes up changes no call, and no outcome but that of a dry run that
creates. -/
theorem run_act_identity (t : Table) (transport : Transport) (calls : List Call) (name : String)
    (d : Declaration) (goal : Goal) (found : Option String) (dryRun : Bool) (policy : UpdatePolicy)
    (region id id' : String) :
    let rest (id : String) :=
      run transport calls (act t ⟨dryRun, policy, region, id⟩ goal name d found)
    (rest id).2 = (rest id').2 ∧
    ((rest id).1 = (rest id').1 ∨ (dryRun = true ∧ goal = .present ∧ found = none ∧
      ∀ i, (rest i).1 = .ok ⟨RunOptions.placeholder ⟨dryRun, policy, region, i⟩ name, true⟩)) := by
  intro rest
  cases dryRun with
  | false =>
      have hrest (i : String) : rest i = course t transport name d calls policy goal found :=
        run_act rfl goal found
      rw [hrest, hrest]
      exact ⟨rfl, .inl rfl⟩
  | true =>
      have hrest (i : String) : rest i =
          dryCourse t transport name d calls ⟨true, policy, region, i⟩ goal found :=
        run_act_dry rfl goal found
      by_cases hcreates : goal = .present ∧ found = none
      · obtain ⟨rfl, rfl⟩ := hcreates
        cases hbody : t.creationBody d with
        | error fault =>
            have hfault (i : String) : rest i = (.error (.ofFault fault), calls) := by
              rw [hrest, dryCourse, hbody]
            rw [hfault, hfault]
            exact ⟨rfl, .inl rfl⟩
        | ok body =>
            have hplace (i : String) : rest i =
                (.ok ⟨RunOptions.placeholder ⟨true, policy, region, i⟩ name, true⟩, calls) := by
              rw [hrest, dryCourse, hbody]
            refine ⟨by rw [hplace, hplace], .inr ⟨rfl, rfl, rfl, ?_⟩⟩
            intro i
            rw [hplace]
      · have hsame : rest id = rest id' := by
          rw [hrest, hrest]
          refine dryCourse_options (fun _ _ ↦ rfl) ?_
          intro hgoal hnone
          exact absurd ⟨hgoal, Option.isNone_iff_eq_none.mp hnone⟩ hcreates
        rw [hsame]
        exact ⟨rfl, .inl rfl⟩

/-- The identity that a run makes up changes no call, and no result but that of a dry run that
creates the broker it did not find. -/
theorem run_identity (t : Table) (transport : Transport) (past : List Call) (bound : Nat)
    (dryRun : Bool) (policy : UpdatePolicy) (region id id' : String) (goal : Goal)
    (d : Declaration) :
    let whole (id : String) :=
      run transport past (convergeWithin t ⟨dryRun, policy, region, id⟩ bound goal d)
    (whole id).2 = (whole id').2 ∧
    ((whole id).1 = (whole id').1 ∨ (dryRun = true ∧ goal = .present ∧
      ∃ name, name? d = some name ∧
        (run transport past (Listing.findBrokerWithin bound name)).1 = .ok none ∧
        ∀ i, (whole i).1 =
          .ok ⟨RunOptions.placeholder ⟨dryRun, policy, region, i⟩ name, true⟩)) := by
  intro whole
  cases hname : name? d with
  | none =>
      have hwhole (i : String) : whole i = (.error (.ofFault .missingBrokerName), past) :=
        run_unnamed hname
      rw [hwhole, hwhole]
      exact ⟨rfl, .inl rfl⟩
  | some name =>
      cases hsearch : run transport past (Listing.findBrokerWithin bound name) with
      | mk found calls =>
          cases found with
          | error e =>
              have hwhole (i : String) : whole i = (.error e, calls) :=
                run_search_error hname hsearch
              rw [hwhole, hwhole]
              exact ⟨rfl, .inl rfl⟩
          | ok found =>
              have hwhole (i : String) : whole i = _ := run_search_ok hname hsearch
              simp only [hwhole]
              obtain ⟨hcalls, hresult⟩ :=
                run_act_identity t transport calls name d goal found dryRun policy region id id'
              refine ⟨hcalls, ?_⟩
              rcases hresult with hresult | ⟨hdry, hgoal, rfl, hplace⟩
              · exact .inl hresult
              · exact .inr ⟨hdry, hgoal, name, rfl, congrArg Prod.fst hsearch, hplace⟩

/-- The strict policy against the lenient one, in any run. Where the broker is to be present and was
found, and the declaration gives a parameter of creations, the strict run has made no calls but
those that list brokers and names the smallest such parameter in the order of keys. In every other
case both policies make the same calls and end alike; and two runs that make up different
identities differ only in the outcome of a dry run that creates. -/
theorem policies_agree (transport : Transport) (past : List Call) (bound : Nat) (dryRun : Bool)
    (region : String) (goal : Goal) (d : Declaration) :
    let search (name : String) := run transport past (Listing.findBrokerWithin bound name)
    let attempt (policy : UpdatePolicy) (id : String) := run transport past
      (convergeWithin .standard ⟨dryRun, policy, region, id⟩ bound goal d)
    let Updates (name id : String) (calls : List Call) : Prop := goal = .present ∧
      Object.get? d "broker_name" = some (.string name) ∧ name ≠ "" ∧
      search name = (.ok (some id), calls)
    let Gives (key : String) : Prop := key ∈ Table.standard.creationOnly ∧ (d.given? key).isSome
    (∀ name id calls, Updates name id calls → (∃ key, Gives key) →
      (∃ tokens : List (Option String),
        calls = past ++ tokens.map (Call.listBrokers Listing.brokerPageSize)) ∧
      ∃ key, Gives key ∧ (∀ other, Gives other → key ≤ other) ∧
        ∀ made, attempt .reject made = (.error (.ofFault (.creationOnlyOnUpdate key)), calls)) ∧
    (¬ ((∃ name id calls, Updates name id calls) ∧ ∃ key, Gives key) →
      ∀ made, attempt .reject made = attempt .drop made) ∧
    ∀ policy made made', (attempt policy made).2 = (attempt policy made').2 ∧
      ((attempt policy made).1 = (attempt policy made').1 ∨ (dryRun = true ∧ goal = .present ∧
        ∃ name, Object.get? d "broker_name" = some (.string name) ∧
          (search name).1 = .ok none ∧
          ∀ id, (attempt policy id).1 =
            .ok ⟨RunOptions.placeholder ⟨dryRun, policy, region, id⟩ name, true⟩)) := by
  intro search attempt Updates Gives
  refine ⟨?_, ?_, ?_⟩
  · rintro name id calls ⟨rfl, hget, hne, hsearch⟩ ⟨given, hmem, hgiven⟩
    have hname : name? d = some name := name?_eq_some_iff.mpr ⟨hget, hne⟩
    obtain ⟨tokens, htokens⟩ := Listing.findBrokerWithin_calls transport bound name past
    obtain ⟨key, hkey, hkeygiven, hleast, hguard⟩ := guard_reject_of_given ⟨given, hmem, hgiven⟩
    refine ⟨⟨tokens, (congrArg Prod.snd hsearch).symm.trans htokens⟩, key, ⟨hkey, hkeygiven⟩,
      fun other hother ↦ hleast other hother.1 hother.2, ?_⟩
    intro made
    refine (run_search_ok hname hsearch).trans ?_
    cases dryRun with
    | false => rw [run_act rfl, course, hguard]
    | true => rw [run_act_dry rfl, dryCourse, hguard]
  · intro hnot made
    rcases run_cases .standard ⟨dryRun, .reject, region, made⟩ bound goal d transport past with
      ⟨hname, hrun⟩ | ⟨name, hname, ⟨e, calls, hsearch, hrun⟩ | ⟨found, calls, hsearch, hrun⟩⟩
    · exact hrun.trans (run_unnamed hname).symm
    · exact hrun.trans (run_search_error hname hsearch).symm
    · refine (hrun.trans ?_).trans (run_search_ok hname hsearch).symm
      refine run_act_policy dryRun region made ?_
      rintro rfl hfound
      obtain ⟨id, rfl⟩ := Option.isSome_iff_exists.mp hfound
      obtain ⟨hget, hne⟩ := name?_eq_some_iff.mp hname
      have hupdates : ∃ name id calls, Updates name id calls :=
        ⟨name, id, calls, rfl, hget, hne, hsearch⟩
      exact guard_reject_of_not_given fun hgiven ↦ hnot ⟨hupdates, hgiven⟩
  · intro policy made made'
    obtain ⟨hcalls, hresult⟩ :=
      run_identity .standard transport past bound dryRun policy region made made' goal d
    refine ⟨hcalls, ?_⟩
    rcases hresult with hresult | ⟨hdry, hgoal, name, hname, hsearch, hplace⟩
    · exact .inl hresult
    · exact .inr ⟨hdry, hgoal, name, (name?_eq_some_iff.mp hname).1, hsearch, hplace⟩

end Broker

end BrokerControl
