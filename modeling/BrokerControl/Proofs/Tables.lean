import BrokerControl.Parameter.Body
import BrokerControl.Proofs.Paths
import Mathlib.Data.List.Pairwise

/-!
# Well-formed tables

A table is `Table.WellFormed` if the paths of its parameters are apart and no default is listed
twice. Parameters of such a table can be set in any order (`Table.setAll_perm`). The table for
message brokers is well-formed.
-/

namespace BrokerControl

namespace Table

/-- No parameter stands on the way to another one, and none has two defaults. -/
structure WellFormed (t : Table) : Prop where
  apart : t.paths.Pairwise fun f g ↦ f.2.Apart g.2
  nodup_defaults : (Object.keys t.defaults).Nodup

theorem standard_wellFormed : standard.WellFormed := ⟨by decide, by decide⟩

/-! ### Parameters that creations and updates look at -/

theorem standard_path?_nameKey : standard.path? nameKey = some ⟨"BrokerName", []⟩ := by decide

theorem standard_path?_strategy :
    standard.path? "authentication_strategy" = some ⟨"AuthenticationStrategy", []⟩ := by decide

theorem standard_path?_groups :
    standard.path? "security_groups" = some ⟨"SecurityGroups", []⟩ := by decide

theorem standard_path?_users : standard.path? "users" = some ⟨"Users", []⟩ := by decide

theorem standard_path?_key :
    standard.path? "kms_key_id" = some ⟨"EncryptionOptions", ["KmsKeyId"]⟩ := by decide

theorem standard_path?_flag :
    standard.path? "use_aws_owned_key" = some ⟨"EncryptionOptions", ["UseAwsOwnedKey"]⟩ := by
  decide

/-! ### Paths that are apart -/

variable {t : Table}

/-- Different parameters have paths that are apart. -/
theorem WellFormed.apart_of_ne (wf : t.WellFormed) {j k : String} {p q : Path}
    (hp : t.path? j = some p) (hq : t.path? k = some q) (hne : j ≠ k) : p.Apart q := by
  have : Std.Symm fun f g : String × Path ↦ f.2.Apart g.2 := ⟨fun _ _ h ↦ h.symm⟩
  exact wf.apart.forall (Object.mem_of_get? hp) (Object.mem_of_get? hq)
    fun h ↦ hne (congrArg Prod.fst h)

/-- A parameter has one path. -/
theorem WellFormed.eq_of_prefix (wf : t.WellFormed) {j k : String} {p q : Path}
    (hp : t.path? j = some p) (hq : t.path? k = some q) (h : p.segments <+: q.segments) :
    j = k ∧ p = q := by
  by_cases hne : j = k
  · subst hne
    exact ⟨rfl, Option.some.inj (hp.symm.trans hq)⟩
  · exact absurd h (wf.apart_of_ne hp hq hne).1

/-- Where one parameter lies below a key, so do all with that key. -/
theorem WellFormed.below_ne_nil (wf : t.WellFormed) {j k root next : String} {below : List String}
    {q : Path} (hp : t.path? j = some ⟨root, next :: below⟩) (hq : t.path? k = some q)
    (hroot : q.root = root) : q.below ≠ [] := by
  obtain ⟨root', below'⟩ := q
  rintro rfl
  obtain rfl : root' = root := hroot
  obtain ⟨_, heq⟩ := wf.eq_of_prefix hq hp (List.prefix_append [root'] (next :: below))
  cases heq

/-! ### Setting parameters -/

theorem set_of_path? {key : String} {p : Path} (h : t.path? key = some p) (body : Body)
    (v : Json) : t.set body key v = p.write v body := by
  simp [set, set?, h]

theorem set_of_path?_eq_none {key : String} (h : t.path? key = none) (body : Body) (v : Json) :
    t.set body key v = body := by
  simp [set, set?, h]

@[simp] theorem setAll_nil (body : Body) : t.setAll body [] = body := rfl

@[simp] theorem setAll_cons (body : Body) (f : String × Json) (entries : List (String × Json)) :
    t.setAll body (f :: entries) = t.setAll (t.set body f.1 f.2) entries := rfl

/-- Different parameters can be set in either order. -/
theorem set_comm (wf : t.WellFormed) {j k : String} (hne : j ≠ k) (v w : Json) (body : Body) :
    t.set (t.set body j v) k w = t.set (t.set body k w) j v := by
  cases hp : t.path? j with
  | none => rw [set_of_path?_eq_none hp, set_of_path?_eq_none hp]
  | some p =>
      cases hq : t.path? k with
      | none => rw [set_of_path?_eq_none hq, set_of_path?_eq_none hq]
      | some q =>
          simp only [set_of_path? hp, set_of_path? hq]
          exact Path.write_comm (wf.apart_of_ne hp hq hne) v w body

/-- The order of entries does not matter if no parameter is set twice. -/
theorem setAll_perm (wf : t.WellFormed) {entries others : List (String × Json)}
    (hperm : entries.Perm others) (hnodup : (Object.keys entries).Nodup) (body : Body) :
    t.setAll body entries = t.setAll body others := by
  refine hperm.foldl_eq' ?_ body
  rintro ⟨j, v⟩ hj ⟨k, w⟩ hk b
  by_cases hne : j = k
  · subst hne
    have hv := Object.get?_of_mem hnodup hj
    rw [Object.get?_of_mem hnodup hk, Option.some.injEq] at hv
    rw [hv]
  · exact set_comm wf hne v w b

/-- Setting parameters is not seen at a path apart from theirs. -/
theorem read_setAll_of_apart {q : Path} {entries : List (String × Json)}
    (h : ∀ f ∈ entries, ∀ p, t.path? f.1 = some p → p.Apart q) (body : Body) :
    q.read (t.setAll body entries) = q.read body := by
  induction entries generalizing body with
  | nil => rfl
  | cons f entries ih =>
      rw [setAll_cons, ih fun g hg ↦ h g (List.mem_cons_of_mem f hg)]
      cases hp : t.path? f.1 with
      | none => rw [set_of_path?_eq_none hp]
      | some p => rw [set_of_path? hp, Path.read_write_of_apart (h f List.mem_cons_self p hp)]

/-! ### What goes into a body -/

/-- No entry of a declaration goes into a body twice. -/
theorem nodup_keys_admitted (rule : BodyRule) (d : Declaration) :
    (Object.keys (t.admitted rule d)).Nodup :=
  (Object.nodup_keys_ordered d).sublist (List.filter_sublist.map Prod.fst)

theorem WellFormed.nodup_keys_seeds (wf : t.WellFormed) (rule : BodyRule) :
    (Object.keys (t.seeds rule)).Nodup := by
  unfold seeds
  split
  · exact wf.nodup_defaults
  · exact List.nodup_nil

/-- What goes into a body is what is given at parameters of the table that the rule does not leave
out. -/
theorem mem_admitted_iff {rule : BodyRule} {d : Declaration} {key : String} {v : Json} :
    (key, v) ∈ t.admitted rule d ↔ d.given? key = some v ∧ (t.path? key).isSome ∧
      (rule.dropCreationOnly && t.isCreationOnly key) = false := by
  simp only [admitted, List.mem_filter, Object.mem_ordered_iff, admits, Declaration.given?,
    Option.filter_eq_some_iff, Bool.and_eq_true, Bool.not_eq_true', and_assoc]

/-- Only what is given at parameters of the table goes into a body. -/
theorem admitted_perm (rule : BodyRule) {d e : Declaration}
    (h : ∀ key, (t.path? key).isSome → d.given? key = e.given? key) :
    (t.admitted rule d).Perm (t.admitted rule e) := by
  refine (List.perm_ext_iff_of_nodup (.of_map _ (nodup_keys_admitted rule d))
    (.of_map _ (nodup_keys_admitted rule e))).mpr ?_
  rintro ⟨key, v⟩
  rw [mem_admitted_iff, mem_admitted_iff, and_left_comm, and_left_comm (a := e.given? key = some v)]
  refine and_congr_right fun hpath ↦ ?_
  rw [h key hpath]

/-- The entries that go into a body, by their keys. -/
theorem get?_admitted (rule : BodyRule) (d : Declaration) {key : String} {p : Path}
    (hp : t.path? key = some p) : Object.get? (t.admitted rule d) key =
      if rule.dropCreationOnly && t.isCreationOnly key then none else d.given? key := by
  rw [admitted, Object.get?_filter (Object.nodup_keys_ordered d), Object.get?_ordered]
  by_cases hdrop : rule.dropCreationOnly && t.isCreationOnly key
  · simp [admits, hdrop]
  · simp [admits, hdrop, hp, Declaration.given?]

end Table

end BrokerControl
