import BrokerControl.Proofs.Requests

/-!
# What the control plane asks of a creation

The control plane refuses a creation without users, without security groups, or with a strategy that
is not supported (`Table.Admissible`). The body of a creation always has security groups and a
strategy that is supported. It has users exactly if the declaration gives none, so that there is the
default user, or gives at least one (`Table.admissible_iff_users`): an empty list of users is taken
as it stands (`Table.empty_users_are_inadmissible`).
-/

namespace BrokerControl

/-- `Object.ListsSome o key` says that the field called `key` is an array with at least one item. -/
def Object.ListsSome (o : Object) (key : String) : Prop :=
  ∃ item items, Object.get? o key = some (.array (item :: items))

namespace Table

/-- What the control plane asks of the body of a creation. -/
structure Admissible (t : Table) (body : Body) : Prop where
  /-- There is at least one user. -/
  users : Object.ListsSome body "Users"
  /-- There is at least one security group. -/
  groups : Object.ListsSome body "SecurityGroups"
  /-- The strategy is supported. -/
  strategy : ∀ s ∈ t.refusedStrategies,
    Object.get? body "AuthenticationStrategy" ≠ some (.string s)

variable {d : Declaration} {made : Body}

/-- The users of a creation are those that are given, and otherwise the default user alone. -/
theorem users_of_creationBody (h : standard.creationBody d = .ok made) :
    Object.get? made "Users" =
      some ((d.given? "users").getD (.array [standard.defaultUser])) := by
  obtain rfl := eq_of_creationBody h
  show Path.read ⟨"Users", []⟩ _ = _
  rw [read_amended d standard_path?_users,
    (carries_body standard_wellFormed .creation d).read_eq standard_path?_users,
    value?_creation d (by decide)]
  cases d.given? "users" <;> simp

/-- A creation that succeeds has security groups. -/
theorem groups_of_creationBody (h : standard.creationBody d = .ok made) :
    Object.ListsSome made "SecurityGroups" := by
  obtain rfl := eq_of_creationBody h
  have hgroup : d.GivesGroup := ((creationBody_ok_iff d).mp ⟨_, h⟩).2
  exact hasSecurityGroup_iff.mp ((hasSecurityGroup_amended d).mpr hgroup)

/-- A creation that succeeds has no strategy that is refused. -/
theorem strategy_of_creationBody (h : standard.creationBody d = .ok made) :
    ∀ s ∈ standard.refusedStrategies,
      Object.get? made "AuthenticationStrategy" ≠ some (.string s) := by
  intro s hs hstrategy
  obtain rfl := eq_of_creationBody h
  have hplain : Object.get? (standard.body .creation d) "AuthenticationStrategy" =
      some (.string s) :=
    (read_amended_of_apart d (q := ⟨"AuthenticationStrategy", []⟩) (by decide)
      (by decide)).symm.trans hstrategy
  have hrefused : standard.refusedStrategy? (standard.body .creation d) = some s := by
    rw [refusedStrategy?, hplain]
    simp [Json.string?, hs]
  exact ((creationBody_ok_iff d).mp ⟨_, h⟩).1 s ((refusedStrategy?_body_iff d s).mp hrefused)

/-- A creation has users exactly if none are given or at least one is given. -/
theorem listsSome_users_iff (h : standard.creationBody d = .ok made) :
    Object.ListsSome made "Users" ↔ d.given? "users" = none ∨ Object.ListsSome d "users" := by
  unfold Object.ListsSome
  rw [users_of_creationBody h]
  cases hgiven : d.given? "users" with
  | none => simp
  | some v =>
      obtain ⟨hget, -⟩ := Declaration.given?_eq_some_iff.mp hgiven
      simp [hget]

/-- A creation that succeeds has security groups and a strategy that is supported, whatever is
declared. It is admissible exactly if its declaration gives no users, where absent and null are the
same, or gives a list with at least one. -/
theorem admissible_iff_users (h : standard.creationBody d = .ok made) :
    Object.ListsSome made "SecurityGroups" ∧
    (∀ s ∈ standard.refusedStrategies,
      Object.get? made "AuthenticationStrategy" ≠ some (.string s)) ∧
    (standard.Admissible made ↔ d.given? "users" = none ∨ Object.ListsSome d "users") := by
  have hgroups := groups_of_creationBody h
  have hstrategy := strategy_of_creationBody h
  refine ⟨hgroups, hstrategy, ?_⟩
  rw [← listsSome_users_iff h]
  exact ⟨Admissible.users, fun husers ↦ ⟨husers, hgroups, hstrategy⟩⟩

/-- Where users are null, the default user makes a creation admissible. -/
theorem default_user_is_admissible :
    let d : Declaration := [("security_groups", .array [.string "sg-1"]), ("users", .null)]
    ∃ made, standard.creationBody d = .ok made ∧ standard.Admissible made := by
  intro d
  refine ⟨_, rfl, ?_⟩
  exact (admissible_iff_users (d := d) rfl).2.2.mpr (.inl rfl)

/-- An empty list of users makes a creation that succeeds and is not admissible. -/
theorem empty_users_are_inadmissible :
    ∃ made, standard.creationBody [("security_groups", .array [.string "sg-1"]),
        ("users", .array [])] = .ok made ∧ ¬ standard.Admissible made := by
  refine ⟨_, rfl, ?_⟩
  intro hadmissible
  obtain ⟨user, users, husers⟩ := hadmissible.users
  have hempty : some (Json.array []) = some (.array (user :: users)) := husers
  cases hempty

end Table

end BrokerControl
