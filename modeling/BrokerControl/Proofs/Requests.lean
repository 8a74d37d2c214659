import BrokerControl.Proofs.Bodies

/-!
# Requests for creations and updates

`Table.settled_eq` says what a creation changes in the body of its declaration, and
`Table.standard_creation_exact` when a creation is refused and what it carries otherwise.
`Table.carries_updateBody` says what an update carries, and `Table.forbidden?_eq_some_iff` which
parameter a refused one names.
-/

namespace BrokerControl

/-- A given value is one that is found and no null. -/
theorem Declaration.given?_eq_some_iff {d : Declaration} {key : String} {v : Json} :
    d.given? key = some v ↔ Object.get? d key = some v ∧ v.isNull = false := by
  simp [Declaration.given?, Option.filter_eq_some_iff]

/-- What is not given is absent or null. -/
theorem Declaration.given?_eq_none_iff {d : Declaration} {key : String} :
    d.given? key = none ↔ Object.get? d key = none ∨ Object.get? d key = some .null := by
  rw [Declaration.given?]
  cases Object.get? d key with
  | none => simp
  | some v => cases v <;> simp [Json.isNull]

/-- `d.GivesGroup` says that a declaration lists at least one security group. -/
def Declaration.GivesGroup (d : Declaration) : Prop :=
  ∃ group groups, Object.get? d "security_groups" = some (.array (group :: groups))

namespace Table

/-- `t.Refuses d strategy` says that a declaration names a strategy that the table refuses. -/
def Refuses (t : Table) (d : Declaration) (strategy : String) : Prop :=
  Object.get? d "authentication_strategy" = some (.string strategy) ∧
    strategy ∈ t.refusedStrategies

variable {t : Table} {value : String → Option Json} {body : Body}

/-! ### Updates -/

/-- Dropping a key at the top of a body drops what is read below it. -/
theorem read_erase (q : Path) (root : String) (body : Body) :
    q.read (Object.erase body root) = if q.root = root then none else q.read body := by
  obtain ⟨key, below⟩ := q
  cases below with
  | nil => exact Object.get?_erase body root key
  | cons next below =>
      simp only [Path.read, Path.readAt, Object.get?_erase]
      split <;> rfl

/-- Dropping the key of a parameter takes its value away and no other. -/
theorem Carries.erase_root (wf : t.WellFormed) (h : t.Carries value body) {key root : String}
    (hp : t.path? key = some ⟨root, []⟩) :
    t.Carries (fun k ↦ if k = key then none else value k) (Object.erase body root) := by
  have hroot : ∀ k q, t.path? k = some q → q.root = root → k = key := by
    rintro k ⟨_, below⟩ hq rfl
    exact (wf.eq_of_prefix hp hq (List.prefix_append [_] below)).1.symm
  constructor
  · intro k q hq
    rw [read_erase]
    by_cases hk : k = key
    · subst hk
      obtain rfl := Option.some.inj (hp.symm.trans hq)
      rw [if_pos rfl, if_pos rfl]
    · rw [if_neg hk, if_neg fun hr ↦ hk (hroot k q hq hr)]
      exact h.read_eq hq
  · intro q hread
    rw [read_erase] at hread
    split at hread
    · cases hread
    · next hq =>
        obtain ⟨k, r, hr, hv, hway⟩ := h.only hread
        have hk : k ≠ key := by
          rintro rfl
          obtain rfl := Option.some.inj (hp.symm.trans hr)
          rcases hway with hway | hway
          · exact hq (List.cons_prefix_cons.mp hway).1
          · exact hq (List.cons_prefix_cons.mp hway).1.symm
        exact ⟨k, r, hr, by rwa [if_neg hk], hway⟩

/-- An update carries what is given, but for the parameters of creations and the name. -/
theorem carries_updateBody (wf : t.WellFormed) {root : String}
    (hname : t.path? nameKey = some ⟨root, []⟩) (d : Declaration) :
    t.Carries (fun key ↦ if key = nameKey ∨ t.isCreationOnly key then none else d.given? key)
      (t.updateBody d) := by
  rw [updateBody, hname]
  refine ((carries_body wf .update d).erase_root wf hname).congr fun key _ _ ↦ ?_
  by_cases hkey : key = nameKey
  · simp [hkey]
  · by_cases honly : t.isCreationOnly key <;> simp [hkey, honly, value?, BodyRule.update]

/-- An entry in order is one that an update refuses exactly if its key is among the `names` and is
given. -/
theorem refused_entry_iff {names : List String} {d : Declaration} {key : String} :
    (∃ v, (key, v) ∈ Object.ordered d ∧ (!v.isNull && names.contains key) = true) ↔
      key ∈ names ∧ (d.given? key).isSome := by
  simp only [Object.mem_ordered_iff, Bool.and_eq_true, Bool.not_eq_true', List.contains_iff_mem,
    Option.isSome_iff_exists, Declaration.given?_eq_some_iff]
  constructor
  · rintro ⟨v, hget, hnull, hkey⟩
    exact ⟨hkey, v, hget, hnull⟩
  · rintro ⟨hkey, v, hget, hnull⟩
    exact ⟨v, hget, hnull, hkey⟩

/-- What an update refuses is the smallest of the `names` that is given. -/
theorem forbidden?_eq_some_iff {names : List String} {d : Declaration} {key : String} :
    forbidden? names d = some key ↔ key ∈ names ∧ (d.given? key).isSome ∧
      ∀ other ∈ names, (d.given? other).isSome → key ≤ other := by
  have hfind (v : Json) := Object.find?_eq_some_iff (Object.pairwise_keys_ordered d)
    (p := fun f ↦ !f.2.isNull && names.contains f.1) (f := (key, v))
  rw [forbidden?, Option.map_eq_some_iff, ← and_assoc, ← refused_entry_iff]
  constructor
  · rintro ⟨⟨_, v⟩, hentry, rfl⟩
    obtain ⟨hmem, hrefused, hleast⟩ := (hfind v).mp hentry
    refine ⟨⟨v, hmem, hrefused⟩, ?_⟩
    intro other hother hgiven
    obtain ⟨w, hw, hrefused⟩ := refused_entry_iff.mpr ⟨hother, hgiven⟩
    exact hleast (other, w) hw hrefused
  · rintro ⟨⟨v, hmem, hrefused⟩, hleast⟩
    refine ⟨(key, v), (hfind v).mpr ⟨hmem, hrefused, ?_⟩, rfl⟩
    rintro ⟨other, w⟩ hw hrefused
    obtain ⟨hother, hgiven⟩ := refused_entry_iff.mp ⟨w, hw, hrefused⟩
    exact hleast other hother hgiven

/-- An update refuses nothing if none of the `names` is given. -/
theorem forbidden?_eq_none_iff {names : List String} {d : Declaration} :
    forbidden? names d = none ↔ ∀ key ∈ names, d.given? key = none := by
  rw [forbidden?, Option.map_eq_none_iff, List.find?_eq_none]
  constructor
  · intro h key hkey
    by_contra hgiven
    obtain ⟨v, hmem, hrefused⟩ :=
      refused_entry_iff.mpr ⟨hkey, Option.isSome_iff_ne_none.mpr hgiven⟩
    exact h (key, v) hmem hrefused
  · rintro h ⟨key, v⟩ hmem hrefused
    obtain ⟨hkey, hgiven⟩ := refused_entry_iff.mp ⟨v, hmem, hrefused⟩
    simp [h key hkey] at hgiven

/-- A check names what an update refuses, and passes if that is nothing. -/
theorem checkUpdate_cases (names : List String) (d : Declaration) :
    (∃ key, forbidden? names d = some key ∧
      checkUpdate names d = .error (.creationOnlyOnUpdate key)) ∨
    (forbidden? names d = none ∧ checkUpdate names d = .ok ()) := by
  rw [checkUpdate]
  cases forbidden? names d with
  | none => exact .inr ⟨rfl, rfl⟩
  | some key => exact .inl ⟨key, rfl, rfl⟩

/-- A check passes exactly if none of the `names` is given. -/
theorem checkUpdate_eq_ok_iff {names : List String} {d : Declaration} :
    checkUpdate names d = .ok () ↔ ∀ key ∈ names, d.given? key = none := by
  rw [← forbidden?_eq_none_iff]
  rcases checkUpdate_cases names d with ⟨key, hkey, hcheck⟩ | ⟨hnone, hcheck⟩
  · simp [hcheck, hkey]
  · simp [hcheck, hnone]

/-- A check fails exactly by naming what an update refuses. -/
theorem checkUpdate_eq_error_iff {names : List String} {d : Declaration} {fault : Fault} :
    checkUpdate names d = .error fault ↔
      ∃ key, fault = .creationOnlyOnUpdate key ∧ forbidden? names d = some key := by
  rcases checkUpdate_cases names d with ⟨key, hkey, hcheck⟩ | ⟨hnone, hcheck⟩
  · simp [hcheck, hkey, eq_comm]
  · simp [hcheck, hnone]

/-! ### Creations -/

/-- Without a default, a creation carries what is given. -/
theorem value?_creation (d : Declaration) {key : String} (h : Object.get? t.defaults key = none) :
    t.value? .creation d key = d.given? key := by
  simp [value?, BodyRule.creation, h]

/-- What a creation sets over the body of its declaration: the default user where no users are
given, and the provider's key switched off where a key is given. -/
def amendments (t : Table) (d : Declaration) : List (String × Json) :=
  (if (d.given? "users").isNone then [("users", .array [t.defaultUser])] else []) ++
    if (d.given? "kms_key_id").isSome then [("use_aws_owned_key", .bool false)] else []

theorem withUsers_eq (h : standard.Carries value body) : standard.withUsers body =
    if (value "users").isNone then standard.set body "users" (.array [standard.defaultUser])
    else body := by
  have husers : Object.get? body "Users" = value "users" := h.read_eq standard_path?_users
  rw [withUsers, Object.contains_eq_isSome, husers]
  cases value "users" <;> rfl

theorem settleKey_eq (h : standard.Carries value body) : settleKey body =
    if ((value "kms_key_id").filter fun v ↦ !v.isNull).isSome then
      standard.set body "use_aws_owned_key" (.bool false)
    else body := by
  have hkey := h.read_eq standard_path?_key
  rw [← hkey, set_of_path? standard_path?_flag, settleKey]
  cases hget : Object.get? body "EncryptionOptions" with
  | none => simp [Path.read, Path.readAt, hget]
  | some options =>
      cases options with
      | object fields =>
          simp [Path.read, Path.write, Path.readAt, Path.writeAt, Path.child, hget, Json.object?]
      | _ => simp [Path.read, Path.readAt, hget, Json.object?]

/-- A creation sets its amendments over the body of its declaration. -/
theorem settled_eq (d : Declaration) :
    settleKey (standard.withUsers (standard.body .creation d)) =
      standard.setAll (standard.body .creation d) (standard.amendments d) := by
  have hcarries := carries_body standard_wellFormed .creation d
  have husers : standard.value? .creation d "users" = d.given? "users" :=
    value?_creation d (by decide)
  have hkey : standard.value? .creation d "kms_key_id" = d.given? "kms_key_id" :=
    value?_creation d (by decide)
  have hgiven : (d.given? "kms_key_id").filter (fun v ↦ !v.isNull) = d.given? "kms_key_id" := by
    simp [Declaration.given?, Option.filter_filter]
  rw [withUsers_eq hcarries, husers, amendments]
  by_cases hnone : (d.given? "users").isNone
  · have hne : "kms_key_id" ≠ "users" := by decide
    rw [if_pos hnone, if_pos hnone, settleKey_eq (hcarries.set standard_wellFormed _ _)]
    simp only [hne, if_false, hkey, hgiven]
    split <;> simp
  · rw [if_neg hnone, if_neg hnone, settleKey_eq hcarries, hkey, hgiven]
    split <;> simp

theorem get?_amendments (d : Declaration) (key : String) :
    Object.get? (t.amendments d) key =
      if key = "users" ∧ (d.given? "users").isNone then some (.array [t.defaultUser])
      else if key = "use_aws_owned_key" ∧ (d.given? "kms_key_id").isSome then some (.bool false)
      else none := by
  unfold amendments
  by_cases husers : (d.given? "users").isNone <;> by_cases hkey : (d.given? "kms_key_id").isSome <;>
    simp [husers, hkey, Object.get?_cons, eq_comm]

theorem key_of_mem_amendments {d : Declaration} {f : String × Json} (h : f ∈ t.amendments d) :
    f.1 = "users" ∨ f.1 = "use_aws_owned_key" := by
  rcases List.mem_append.mp h with h | h <;> split at h <;> simp_all

theorem nodup_keys_amendments (d : Declaration) : (Object.keys (t.amendments d)).Nodup := by
  unfold amendments
  split <;> split <;> simp [Object.keys]

/-- What a creation carries: its amendments over what its declaration gives and the defaults. -/
theorem carries_amended (d : Declaration) :
    standard.Carries
      (fun key ↦ (Object.get? (standard.amendments d) key).or (standard.value? .creation d key))
      (standard.setAll (standard.body .creation d) (standard.amendments d)) :=
  (carries_body standard_wellFormed .creation d).setAll standard_wellFormed
    (nodup_keys_amendments d)

/-- Away from the two parameters that it may set itself, a creation carries the body of its
declaration. -/
theorem read_amended_of_apart (d : Declaration) {q : Path}
    (husers : (⟨"Users", []⟩ : Path).Apart q)
    (hflag : (⟨"EncryptionOptions", ["UseAwsOwnedKey"]⟩ : Path).Apart q) :
    q.read (standard.setAll (standard.body .creation d) (standard.amendments d)) =
      q.read (standard.body .creation d) := by
  refine read_setAll_of_apart (fun f hf p hp ↦ ?_) _
  rcases key_of_mem_amendments hf with hkey | hkey
  · rw [hkey, standard_path?_users] at hp
    exact Option.some.inj hp ▸ husers
  · rw [hkey, standard_path?_flag] at hp
    exact Option.some.inj hp ▸ hflag

/-- A creation looks at the strategy that its declaration names; the default is not refused. -/
theorem refusedStrategy?_body_iff (d : Declaration) (strategy : String) :
    standard.refusedStrategy? (standard.body .creation d) = some strategy ↔
      standard.Refuses d strategy := by
  have hread : Object.get? (standard.body .creation d) "AuthenticationStrategy" =
      standard.value? .creation d "authentication_strategy" :=
    (carries_body standard_wellFormed .creation d).read_eq standard_path?_strategy
  have hdefault : Object.get? standard.defaults "authentication_strategy" =
      some (.string "SIMPLE") := rfl
  have hsimple : "SIMPLE" ∉ standard.refusedStrategies := by decide
  rw [refusedStrategy?, hread, value?, Declaration.given?, Refuses, Option.filter_eq_some_iff,
    List.contains_iff_mem]
  refine and_congr_left fun hstrategy ↦ ?_
  have hne : "SIMPLE" ≠ strategy := by
    rintro rfl
    exact hsimple hstrategy
  simp only [BodyRule.creation, hdefault, Bool.false_and, if_true]
  cases hget : Object.get? d "authentication_strategy" with
  | none => simp [Option.filter, Json.string?, hne]
  | some v => cases v <;> simp [Option.filter, Json.isNull, Json.string?, hne]

theorem hasSecurityGroup_iff : hasSecurityGroup body = true ↔
    ∃ group groups, Object.get? body "SecurityGroups" = some (.array (group :: groups)) := by
  unfold hasSecurityGroup
  cases hget : Object.get? body "SecurityGroups" with
  | none => simp
  | some v =>
      cases v with
      | array items => cases items <;> simp [Json.array?]
      | _ => simp [Json.array?]

/-- A creation looks at the security groups that its declaration gives. -/
theorem hasSecurityGroup_amended (d : Declaration) :
    hasSecurityGroup (standard.setAll (standard.body .creation d) (standard.amendments d)) = true ↔
      d.GivesGroup := by
  have hvalue : standard.value? .creation d "security_groups" = d.given? "security_groups" :=
    value?_creation d (by decide)
  rw [hasSecurityGroup_iff, Declaration.GivesGroup]
  refine exists_congr fun group ↦ exists_congr fun groups ↦ ?_
  show Path.read ⟨"SecurityGroups", []⟩ _ = _ ↔ _
  rw [read_amended_of_apart d (by decide) (by decide),
    (carries_body standard_wellFormed .creation d).read_eq standard_path?_groups, hvalue,
    Declaration.given?_eq_some_iff]
  simp [Json.isNull]

/-- A creation fails of a refused strategy, or else of missing security groups, or else it sets its
amendments over the body of its declaration. -/
theorem creationBody_cases (d : Declaration) :
    (∃ s, standard.Refuses d s ∧ standard.creationBody d = .error (.unsupportedStrategy s)) ∨
    ((∀ s, ¬ standard.Refuses d s) ∧ ¬ d.GivesGroup ∧
      standard.creationBody d = .error .missingSecurityGroup) ∨
    ((∀ s, ¬ standard.Refuses d s) ∧ d.GivesGroup ∧ standard.creationBody d =
      .ok (standard.setAll (standard.body .creation d) (standard.amendments d))) := by
  cases hrefused : standard.refusedStrategy? (standard.body .creation d) with
  | some s =>
      refine .inl ⟨s, (refusedStrategy?_body_iff d s).mp hrefused, ?_⟩
      simp [creationBody, hrefused]
  | none =>
      have hnone : ∀ s, ¬ standard.Refuses d s := by
        intro s hs
        rw [(refusedStrategy?_body_iff d s).mpr hs] at hrefused
        cases hrefused
      right
      by_cases hgroup : d.GivesGroup
      · refine .inr ⟨hnone, hgroup, ?_⟩
        simp [creationBody, hrefused, settled_eq, (hasSecurityGroup_amended d).mpr hgroup]
      · refine .inl ⟨hnone, hgroup, ?_⟩
        rw [← hasSecurityGroup_amended] at hgroup
        simp [creationBody, hrefused, settled_eq, hgroup]

/-- A creation is refused for its strategy or its security groups and for nothing else. -/
theorem creationBody_error {d : Declaration} {fault : Fault}
    (h : t.creationBody d = .error fault) :
    (∃ s, fault = .unsupportedStrategy s) ∨ fault = .missingSecurityGroup := by
  rw [creationBody] at h
  cases hrefused : t.refusedStrategy? (t.body .creation d) with
  | some s =>
      simp only [hrefused] at h
      exact .inl ⟨s, (Except.error.inj h).symm⟩
  | none =>
      simp only [hrefused] at h
      split at h
      · cases h
      · exact .inr (Except.error.inj h).symm

/-- What is created is the body of the declaration with the amendments. -/
theorem eq_of_creationBody {d : Declaration} {made : Body}
    (h : standard.creationBody d = .ok made) :
    made = standard.setAll (standard.body .creation d) (standard.amendments d) := by
  rcases creationBody_cases d with ⟨s, _, hcase⟩ | ⟨_, _, hcase⟩ | ⟨_, _, hcase⟩
  · cases h.symm.trans hcase
  · cases h.symm.trans hcase
  · exact Except.ok.inj (h.symm.trans hcase)

/-- A creation fails of a strategy exactly if its declaration names a refused one. -/
theorem creationBody_eq_unsupported_iff (d : Declaration) (s : String) :
    standard.creationBody d = .error (.unsupportedStrategy s) ↔ standard.Refuses d s := by
  rcases creationBody_cases d with ⟨r, hr, h⟩ | ⟨hnone, -, h⟩ | ⟨hnone, -, h⟩
  · rw [h]
    constructor
    · intro heq
      cases heq
      exact hr
    · intro hs
      obtain ⟨⟩ := hr.1.symm.trans hs.1
      rfl
  · simp [h, hnone s]
  · simp [h, hnone s]

/-- A creation fails of security groups exactly if they are all that is wrong. -/
theorem creationBody_eq_missingGroup_iff (d : Declaration) :
    standard.creationBody d = .error .missingSecurityGroup ↔
      (∀ s, ¬ standard.Refuses d s) ∧ ¬ d.GivesGroup := by
  rcases creationBody_cases d with ⟨r, hr, h⟩ | ⟨hnone, hgroup, h⟩ | ⟨hnone, hgroup, h⟩
  · simpa [h] using fun hnone ↦ absurd hr (hnone r)
  · simp [h, hnone, hgroup]
  · simp [h, hgroup]

/-- A creation succeeds exactly if nothing is wrong. -/
theorem creationBody_ok_iff (d : Declaration) :
    (∃ made, standard.creationBody d = .ok made) ↔
      (∀ s, ¬ standard.Refuses d s) ∧ d.GivesGroup := by
  rcases creationBody_cases d with ⟨r, hr, h⟩ | ⟨hnone, hgroup, h⟩ | ⟨hnone, hgroup, h⟩
  · simpa [h] using fun hnone ↦ absurd hr (hnone r)
  · simp [h, hgroup]
  · simp [h, hnone, hgroup]

/-- What a creation carries at each parameter, the two that it may set itself among them. -/
theorem read_amended (d : Declaration) {key : String} {p : Path}
    (hp : standard.path? key = some p) :
    p.read (standard.setAll (standard.body .creation d) (standard.amendments d)) =
      if key = "users" ∧ (d.given? "users").isNone then some (.array [standard.defaultUser])
      else if key = "use_aws_owned_key" ∧ (d.given? "kms_key_id").isSome then some (.bool false)
      else p.read (standard.body .creation d) := by
  rw [(carries_amended d).read_eq hp, get?_amendments,
    (carries_body standard_wellFormed .creation d).read_eq hp]
  split
  · rfl
  · split <;> rfl

/-- A creation is refused for its strategy whatever else is wrong, and for missing security groups
exactly if that is all that is wrong. Otherwise its body is that of its declaration, but for the
default user where none are given and the provider's key that is off where a key is given. No body
has a key of one's own while the provider's key is not off. -/
theorem standard_creation_exact (d : Declaration) :
    (∀ s, standard.creationBody d = .error (.unsupportedStrategy s) ↔ standard.Refuses d s) ∧
    (standard.creationBody d = .error .missingSecurityGroup ↔
      (∀ s, ¬ standard.Refuses d s) ∧ ¬ d.GivesGroup) ∧
    ((∃ made, standard.creationBody d = .ok made) ↔
      (∀ s, ¬ standard.Refuses d s) ∧ d.GivesGroup) ∧
    ∀ made, standard.creationBody d = .ok made →
      let users : Path := ⟨"Users", []⟩
      let key : Path := ⟨"EncryptionOptions", ["KmsKeyId"]⟩
      let flag : Path := ⟨"EncryptionOptions", ["UseAwsOwnedKey"]⟩
      let plain := standard.body .creation d
      made = standard.setAll plain (standard.amendments d) ∧
      (∀ q : Path, users.Apart q → flag.Apart q → q.read made = q.read plain) ∧
      users.read made = (if (d.given? "users").isNone then some (.array [standard.defaultUser])
        else users.read plain) ∧
      flag.read made = (if (d.given? "kms_key_id").isSome then some (.bool false)
        else flag.read plain) ∧
      ∀ v, key.read made = some v → v.isNull = false → flag.read made = some (.bool false) := by
  refine ⟨creationBody_eq_unsupported_iff d, creationBody_eq_missingGroup_iff d,
    creationBody_ok_iff d, ?_⟩
  intro made hmade
  obtain rfl := eq_of_creationBody hmade
  have hflag := read_amended d standard_path?_flag
  simp only [show "use_aws_owned_key" ≠ "users" by decide, false_and, true_and, if_false] at hflag
  refine ⟨rfl, fun q ↦ read_amended_of_apart d, ?_, hflag, ?_⟩
  · rw [read_amended d standard_path?_users]
    simp
  · intro v hv _
    rw [read_amended_of_apart d (by decide) (by decide),
      (carries_body standard_wellFormed .creation d).read_eq standard_path?_key,
      value?_creation d (by decide)] at hv
    -- What can be read at the key was given there, so the flag has been set.
    rw [hflag, hv]
    rfl

end Table

end BrokerControl
