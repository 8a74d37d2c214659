import BrokerControl.Proofs.Convergence

/-!
# Declarations that are applied again

The body that creates a broker against the body that updates it from the same declaration. Both
carry what is given at the parameters that may be updated (`Table.read_creation_of_updatable`,
`Table.read_updateBody`), so the update repeats part of the creation and takes nothing of it back
(`Broker.reapplied_update_agrees`).
-/

namespace BrokerControl

namespace Table

variable {d : Declaration} {made : Body} {key : String} {p : Path}

/-- What an update carries at each parameter. -/
theorem read_updateBody (d : Declaration) (hp : standard.path? key = some p) :
    p.read (standard.updateBody d) =
      if key = nameKey ∨ standard.isCreationOnly key then none else d.given? key :=
  (carries_updateBody standard_wellFormed standard_path?_nameKey d).read_eq hp

/-- An update has a value at a parameter exactly if the parameter is given, is no parameter of
creations and is not the name. -/
theorem read_updateBody_eq_some_iff (hp : standard.path? key = some p) {v : Json} :
    p.read (standard.updateBody d) = some v ↔
      key ≠ nameKey ∧ standard.isCreationOnly key = false ∧ d.given? key = some v := by
  rw [read_updateBody d hp]
  by_cases hname : key = nameKey <;> by_cases honly : standard.isCreationOnly key <;>
    simp [hname, honly]

/-- A creation carries at each parameter that may be updated what is given, else the default: what
it sets of its own are parameters of creations. -/
theorem read_creation_of_updatable (hmade : standard.creationBody d = .ok made)
    (hp : standard.path? key = some p) (hkey : standard.isCreationOnly key = false) :
    p.read made = (d.given? key).or (Object.get? standard.defaults key) := by
  have husers : key ≠ "users" := by
    rintro rfl
    revert hkey
    decide
  have hflag : key ≠ "use_aws_owned_key" := by
    rintro rfl
    revert hkey
    decide
  obtain rfl := eq_of_creationBody hmade
  rw [read_amended d hp, (carries_body standard_wellFormed .creation d).read_eq hp]
  simp [husers, hflag, value?, BodyRule.creation]

end Table

namespace Broker

open Program

variable {d : Declaration} {name : String}

/-- A run that is to bring up its broker sends the body of a creation if it found none. -/
theorem run_creates {made : Body} (hmade : Table.standard.creationBody d = .ok made)
    (hname : name? d = some name) {transport : Transport} {past calls : List Call} {bound : Nat}
    {o : RunOptions} (hdry : o.dryRun = false)
    (hsearch : run transport past (Listing.findBrokerWithin bound name) = (.ok none, calls)) :
    (run transport past (convergeWithin .standard o bound .present d)).2 =
      calls ++ [.create (.object made)] := by
  rw [run_search_ok hname hsearch, run_act hdry, course, hmade]
  dsimp only
  cases transport calls (.create (.object made)) <;> rfl

/-- It sends the body of an update if it found one, unless its policy refuses the declaration. -/
theorem run_updates (hname : name? d = some name) {transport : Transport} {past calls : List Call}
    {bound : Nat} {o : RunOptions} (hdry : o.dryRun = false) {id : String}
    (hsearch : run transport past (Listing.findBrokerWithin bound name) = (.ok (some id), calls)) :
    (run transport past (convergeWithin .standard o bound .present d)).2 =
      match guard .standard d o.policy with
      | .ok () => calls ++ [.update id (.object (Table.standard.updateBody d))]
      | .error _ => calls := by
  rw [run_search_ok hname hsearch, run_act hdry, course]
  cases guard .standard d o.policy with
  | error fault => rfl
  | ok _ =>
      dsimp only
      cases transport calls (.update id (.object (Table.standard.updateBody d))) <;> rfl

/-- A declaration that creates a broker, applied again to update it. A run that finds no broker
sends the body of the creation, one that finds it sends that of the update, or nothing where the
strict policy refuses. Each parameter that the update carries has the same value in the creation.
The update carries no parameter of creations and no name, and what it leaves out otherwise was not
given, so that the creation had the default. -/
theorem reapplied_update_agrees {d : Declaration} {made : Body}
    (hmade : Table.standard.creationBody d = .ok made) :
    let sent := Table.standard.updateBody d
    (∀ (transport : Transport) (past calls : List Call) (bound : Nat) (policy : UpdatePolicy)
      (region placeholderId name : String) (found : Option String),
      Object.get? d "broker_name" = some (.string name) → name ≠ "" →
      run transport past (Listing.findBrokerWithin bound name) = (.ok found, calls) →
      let whole := run transport past
        (convergeWithin .standard ⟨false, policy, region, placeholderId⟩ bound .present d)
      match found with
      | none => whole.2 = calls ++ [.create (.object made)]
      | some id => whole.2 = calls ++ [.update id (.object sent)] ∨
          (policy = .reject ∧ whole.2 = calls)) ∧
    (∀ key p v, Table.standard.path? key = some p → p.read sent = some v →
      p.read made = some v) ∧
    (∀ key p, Table.standard.path? key = some p → Table.standard.isCreationOnly key = true →
      p.read sent = none) ∧
    Object.contains sent "BrokerName" = false ∧
    ∀ key p v, Table.standard.path? key = some p → p.read made = some v → p.read sent = none →
      Table.standard.isCreationOnly key = true ∨ key = "broker_name" ∨
        ((Object.get? d key = none ∨ Object.get? d key = some .null) ∧
          Object.get? Table.standard.defaults key = some v) := by
  intro sent
  refine ⟨?_, ?_, ?_, ?_, ?_⟩
  · intro transport past calls bound policy region placeholderId name found hget hne hsearch whole
    have hname : name? d = some name := name?_eq_some_iff.mpr ⟨hget, hne⟩
    cases found with
    | none => exact run_creates hmade hname rfl hsearch
    | some id =>
        have hcalls : whole.2 = _ := run_updates hname rfl hsearch
        cases hguard : guard .standard d policy with
        | ok _ => exact .inl (by rw [hcalls, hguard])
        | error fault =>
            refine .inr ⟨?_, by rw [hcalls, hguard]⟩
            cases policy with
            | reject => rfl
            | drop => cases hguard
  · intro key p v hp hsent
    obtain ⟨-, honly, hgiven⟩ := (Table.read_updateBody_eq_some_iff hp).mp hsent
    rw [Table.read_creation_of_updatable hmade hp honly, hgiven, Option.some_or]
  · intro key p hp honly
    rw [Table.read_updateBody d hp, if_pos (.inr honly)]
  · have hread := Table.read_updateBody d Table.standard_path?_nameKey
    rw [if_pos (.inl rfl)] at hread
    rw [Object.contains_eq_isSome]
    exact congrArg Option.isSome hread
  · intro key p v hp hv hnone
    rw [or_iff_not_imp_left, or_iff_not_imp_left]
    intro honly hname
    have hupdatable : ¬ (key = Table.nameKey ∨ Table.standard.isCreationOnly key = true) :=
      not_or.mpr ⟨hname, honly⟩
    rw [Table.read_updateBody d hp, if_neg hupdatable] at hnone
    rw [Table.read_creation_of_updatable hmade hp (Bool.eq_false_of_not_eq_true honly), hnone,
      Option.none_or] at hv
    exact ⟨Declaration.given?_eq_none_iff.mp hnone, hv⟩

/-- A declaration that gives a key of its own can still be applied again: the update repeats the
version, and neither the key nor the flag that it switched off. -/
theorem encrypted_broker_reapplied :
    let d : Declaration := [("broker_name", .string "orders"),
      ("security_groups", .array [.string "sg-1"]), ("kms_key_id", .string "key-1"),
      ("engine_version", .string "5.17.6"), ("host_instance_type", .null)]
    let sent := Table.standard.updateBody d
    ∃ made, Table.standard.creationBody d = .ok made ∧
      Path.read ⟨"EngineVersion", []⟩ made = some (.string "5.17.6") ∧
      Path.read ⟨"EncryptionOptions", ["UseAwsOwnedKey"]⟩ made = some (.bool false) ∧
      Path.read ⟨"EncryptionOptions", ["UseAwsOwnedKey"]⟩ sent = none := by
  intro d sent
  refine ⟨_, rfl, ?_, rfl, ?_⟩
  · exact (reapplied_update_agrees (d := d) rfl).2.1 "engine_version" _ _ rfl rfl
  · exact (reapplied_update_agrees (d := d) rfl).2.2.1 "use_aws_owned_key" _ rfl rfl

end Broker

end BrokerControl
