import BrokerControl.Proofs.Policies
import BrokerControl.Service.Fixture

/-!
# What a run reads of its declaration

Two declarations are `Table.Alike` if they give the parameters of a table the same values. Nothing
else of a declaration is read: alike declarations have the same bodies, are refused alike and name
the same broker, so they are the same program of calls (`Broker.convergeWithin_congr`), and no
control plane can tell them apart (`Broker.only_given_parameters_matter`).
-/

namespace BrokerControl

/-- A text in a declaration is given: a null is no text. -/
theorem Declaration.given?_bind_string? (d : Declaration) (key : String) :
    (d.given? key).bind Json.string? = (Object.get? d key).bind Json.string? := by
  rw [Declaration.given?]
  cases Object.get? d key with
  | none => rfl
  | some v => cases v <;> rfl

namespace Table

variable {t : Table} {d e : Declaration}

/-- `t.Alike d e` says that two declarations give each parameter of a table the same value, or both
none. -/
def Alike (t : Table) (d e : Declaration) : Prop :=
  ∀ key, (t.path? key).isSome → d.given? key = e.given? key

/-- Alike declarations have the same body. -/
theorem body_congr (wf : t.WellFormed) (h : t.Alike d e) (rule : BodyRule) :
    t.body rule d = t.body rule e :=
  setAll_perm wf (admitted_perm rule h) (nodup_keys_admitted rule d) _

/-- Alike declarations are refused as creations for the same fault, or create the same. -/
theorem creationBody_congr (wf : t.WellFormed) (h : t.Alike d e) :
    t.creationBody d = t.creationBody e := by
  rw [creationBody, creationBody, body_congr wf h]

/-- Alike declarations update a broker alike. -/
theorem updateBody_congr (wf : t.WellFormed) (h : t.Alike d e) :
    t.updateBody d = t.updateBody e := by
  rw [updateBody, updateBody, body_congr wf h]

/-- What an update refuses depends on the values of the `names` only. -/
theorem checkUpdate_congr {names : List String} (h : ∀ key ∈ names, d.given? key = e.given? key) :
    checkUpdate names d = checkUpdate names e := by
  have hforbidden : forbidden? names d = forbidden? names e := by
    ext key
    simp only [forbidden?_eq_some_iff]
    refine and_congr_right fun hkey ↦ ?_
    rw [h key hkey]
    refine and_congr_right fun _ ↦ forall₂_congr fun other hother ↦ ?_
    rw [h other hother]
  rw [checkUpdate, checkUpdate, hforbidden]

end Table

namespace Broker

open Program

variable {t : Table} {d e : Declaration}

/-- Alike declarations name the same broker. -/
theorem name?_congr (hname : (t.path? Table.nameKey).isSome) (h : t.Alike d e) :
    name? d = name? e := by
  rw [name?, name?, ← d.given?_bind_string?, ← e.given?_bind_string?, h _ hname]

/-- Alike declarations leave the same to do once the broker was looked for. -/
theorem act_congr (wf : t.WellFormed) (honly : ∀ key ∈ t.creationOnly, (t.path? key).isSome)
    (h : t.Alike d e) (o : RunOptions) (goal : Goal) (name : String) (found : Option String) :
    act t o goal name d found = act t o goal name e found := by
  cases goal with
  | present =>
      cases found with
      | none => simp only [act, create, Table.creationBody_congr wf h]
      | some id =>
          have hcheck := Table.checkUpdate_congr fun key hkey ↦ h key (honly key hkey)
          simp only [act, update, hcheck]
          rw [Table.updateBody_congr wf h]
  | absent | restarted => cases found <;> rfl

/-- Alike declarations are the same program of calls. -/
theorem convergeWithin_congr (wf : t.WellFormed) (hname : (t.path? Table.nameKey).isSome)
    (honly : ∀ key ∈ t.creationOnly, (t.path? key).isSome) (h : t.Alike d e) (o : RunOptions)
    (bound : Nat) (goal : Goal) :
    convergeWithin t o bound goal d = convergeWithin t o bound goal e := by
  rw [convergeWithin, convergeWithin, name?_congr hname h]
  cases name? e with
  | none => rfl
  | some name => simp only [act_congr wf honly h]

/-- Two declarations that give the parameters of a broker the same values make the same run against
any control plane, towards any goal and under any options: whatever else stands in them, and whether
a parameter without a value is null or missing, both make the same calls with the same bodies and
end alike. Runs that make up different identities differ only in the outcome of a dry run that
creates the broker it did not find. -/
theorem only_given_parameters_matter {d e : Declaration}
    (h : ∀ key ∈ Object.keys Table.standard.paths, d.given? key = e.given? key)
    (transport : Transport) (past : List Call) (bound : Nat) (dryRun : Bool)
    (policy : UpdatePolicy) (region : String) (goal : Goal) :
    let attempt (declaration : Declaration) (made : String) := run transport past
      (convergeWithin .standard ⟨dryRun, policy, region, made⟩ bound goal declaration)
    (∀ made, attempt d made = attempt e made) ∧
    ∀ made made', (attempt d made).2 = (attempt e made').2 ∧
      ((attempt d made).1 = (attempt e made').1 ∨ (dryRun = true ∧ goal = .present ∧
        ∃ name, Object.get? d "broker_name" = some (.string name) ∧
          (run transport past (Listing.findBrokerWithin bound name)).1 = .ok none ∧
          ∀ id, (attempt d id).1 =
              .ok ⟨RunOptions.placeholder ⟨dryRun, policy, region, id⟩ name, true⟩ ∧
            (attempt e id).1 =
              .ok ⟨RunOptions.placeholder ⟨dryRun, policy, region, id⟩ name, true⟩)) := by
  intro attempt
  have halike : Table.standard.Alike d e := fun key hkey ↦ h key (Object.mem_keys_iff.mpr hkey)
  have hsame : ∀ made, attempt d made = attempt e made := by
    intro made
    exact congrArg (run transport past) (convergeWithin_congr Table.standard_wellFormed
      (by decide) (by decide) halike ⟨dryRun, policy, region, made⟩ bound goal)
  refine ⟨hsame, fun made made' ↦ ?_⟩
  obtain ⟨hcalls, hresult⟩ :=
    run_identity .standard transport past bound dryRun policy region made made' goal d
  rw [← hsame made']
  refine ⟨hcalls, ?_⟩
  rcases hresult with hresult | ⟨hdry, hgoal, name, hname, hsearch, hplace⟩
  · exact .inl hresult
  · refine .inr ⟨hdry, hgoal, name, (name?_eq_some_iff.mp hname).1, hsearch, fun id ↦ ?_⟩
    exact ⟨hplace id, (congrArg Prod.fst (hsame id)).symm.trans (hplace id)⟩

/-- A secret and a null in a declaration change nothing about the creation of its broker. -/
theorem secret_changes_no_run :
    let shown : Declaration :=
      [("broker_name", .string "orders"), ("security_groups", .array [.string "sg-1"])]
    let hidden : Declaration :=
      ("aws_secret_key", .string "hunter2") :: ("engine_version", .null) :: shown
    let attempt (d : Declaration) : Except Failure Outcome × List Call :=
      run (fun _ c ↦ Fixture.empty.answer c) []
        (convergeWithin .standard ⟨false, .reject, "", ""⟩ 1 .present d)
    (∀ key ∈ Object.keys Table.standard.paths, hidden.given? key = shown.given? key) ∧
    attempt hidden = attempt shown ∧ (attempt hidden).1 = .ok ⟨.null, true⟩ := by
  intro shown hidden attempt
  have hgiven : ∀ key ∈ Object.keys Table.standard.paths,
      hidden.given? key = shown.given? key := by
    intro key hkey
    have hforeign : ∀ k ∈ Object.keys Table.standard.paths, "aws_secret_key" ≠ k := by decide
    have hsecret := hforeign key hkey
    by_cases hversion : "engine_version" = key
    · subst hversion
      rfl
    · simp [hidden, Declaration.given?, Object.get?_cons, hsecret, hversion]
  refine ⟨hgiven, ?_, rfl⟩
  exact (only_given_parameters_matter hgiven _ [] 1 false .reject "" .present).1 ""

end Broker

end BrokerControl
