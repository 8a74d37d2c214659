import BrokerControl.Proofs.Tables

/-!
# What a body carries

`t.Carries value body` says that a body holds the values of some parameters, each at its path, and
nothing else. Setting parameters keeps a body of this form (`Table.Carries.setAll`), so the body of
a declaration carries what the declaration gives and, for the rest, the defaults
(`Table.carries_body`). `Table.standard_body_exact` spells this out for message brokers.
-/

namespace BrokerControl

namespace Table

variable (t : Table)

/-- The value that a body is to carry for a parameter: the one that is given, else the default. -/
def value? (rule : BodyRule) (declaration : Declaration) (key : String) : Option Json :=
  let dropped := rule.dropCreationOnly && t.isCreationOnly key
  let given := if dropped then none else declaration.given? key
  given.or (if rule.withDefaults then Object.get? t.defaults key else none)

/-- `t.Carries value body` says that `body` has, at the path of each parameter, the value that
`value` gives it, and that all it has lies on the way to such a value or inside it. -/
structure Carries (value : String → Option Json) (body : Body) : Prop where
  read_eq {key : String} {p : Path} : t.path? key = some p → p.read body = value key
  only {q : Path} : (q.read body).isSome → ∃ key p, t.path? key = some p ∧ (value key).isSome ∧
    (q.segments <+: p.segments ∨ p.segments <+: q.segments)

variable {t : Table} {value : String → Option Json} {body : Body}

/-! ### Setting parameters -/

/-- The empty body carries no values. -/
theorem carries_nil : t.Carries (fun _ ↦ none) [] := by
  constructor
  · intro key p _
    exact Path.readAt_nil p.root p.below
  · intro q hq
    simp [Path.read] at hq

/-- Only the values of parameters with a path count. -/
theorem Carries.congr (h : t.Carries value body) {other : String → Option Json}
    (heq : ∀ key p, t.path? key = some p → other key = value key) : t.Carries other body := by
  constructor
  · intro key p hp
    rw [heq key p hp]
    exact h.read_eq hp
  · intro q hq
    obtain ⟨key, p, hp, hv, hway⟩ := h.only hq
    exact ⟨key, p, hp, by rwa [heq key p hp], hway⟩

/-- Setting a parameter changes its value and no other. -/
theorem Carries.set (wf : t.WellFormed) (h : t.Carries value body) (key : String) (v : Json) :
    t.Carries (fun k ↦ if k = key then some v else value k) (t.set body key v) := by
  cases hp : t.path? key with
  | none =>
      rw [set_of_path?_eq_none hp]
      refine h.congr fun k q hq ↦ if_neg ?_
      rintro rfl
      rw [hp] at hq
      cases hq
  | some p =>
      rw [set_of_path? hp]
      constructor
      · intro k q hq
        by_cases hk : k = key
        · subst hk
          obtain rfl : p = q := Option.some.inj (hp.symm.trans hq)
          rw [if_pos rfl, Path.read_write]
        · rw [if_neg hk, Path.read_write_of_apart (wf.apart_of_ne hp hq (Ne.symm hk))]
          exact h.read_eq hq
      · intro q hread
        -- What is apart from the new path was there before; the rest is on its way or below it.
        by_cases hapart : p.Apart q
        · rw [Path.read_write_of_apart hapart] at hread
          obtain ⟨k, r, hr, hv, hway⟩ := h.only hread
          refine ⟨k, r, hr, ?_, hway⟩
          split
          · rfl
          · exact hv
        · refine ⟨key, p, hp, by simp, ?_⟩
          rw [Path.Apart, not_and_or, not_not, not_not] at hapart
          exact hapart.symm

/-- Setting several parameters, none of them twice, changes their values and no others. -/
theorem Carries.setAll (wf : t.WellFormed) (h : t.Carries value body)
    {entries : List (String × Json)} (hnodup : (Object.keys entries).Nodup) :
    t.Carries (fun k ↦ (Object.get? entries k).or (value k)) (t.setAll body entries) := by
  induction entries generalizing value body with
  | nil => exact h
  | cons f entries ih =>
      obtain ⟨hf, hrest⟩ := List.nodup_cons.mp hnodup
      refine (ih (h.set wf f.1 f.2) hrest).congr fun k p _ ↦ ?_
      rw [Object.get?_cons]
      by_cases hk : f.1 = k
      · subst hk
        rw [if_pos rfl, if_pos rfl, Object.get?_eq_none hf]
        rfl
      · rw [if_neg hk, if_neg (Ne.symm hk)]

/-- The body of a declaration carries what is given and, for the rest, the defaults. -/
theorem carries_body (wf : t.WellFormed) (rule : BodyRule) (d : Declaration) :
    t.Carries (t.value? rule d) (t.body rule d) := by
  have hseeds := carries_nil.setAll wf (wf.nodup_keys_seeds rule)
  refine (hseeds.setAll wf (nodup_keys_admitted rule d)).congr fun key p hp ↦ ?_
  rw [get?_admitted rule d hp, value?, seeds, Option.or_none]
  congr 1
  split <;> rfl

/-! ### What stands in a body -/

/-- At the top of a body stand the roots of the parameters that have a value. -/
theorem Carries.mem_keys_iff (h : t.Carries value body) {k : String} :
    k ∈ Object.keys body ↔
      ∃ key p, t.path? key = some p ∧ p.root = k ∧ (value key).isSome := by
  rw [Object.mem_keys_iff]
  constructor
  · intro hk
    obtain ⟨key, p, hp, hv, hway⟩ := h.only (q := ⟨k, []⟩) hk
    refine ⟨key, p, hp, ?_, hv⟩
    rcases hway with hway | hway
    · exact (List.cons_prefix_cons.mp hway).1.symm
    · exact (List.cons_prefix_cons.mp hway).1
  · rintro ⟨key, p, hp, rfl, hv⟩
    rw [← h.read_eq hp] at hv
    exact Path.isSome_readAt_of_append [] hv

/-- A key that parameters share holds an object. -/
theorem Carries.eq_object (wf : t.WellFormed) (h : t.Carries value body) {key root next : String}
    {below : List String} (hp : t.path? key = some ⟨root, next :: below⟩) {v : Json}
    (hv : Object.get? body root = some v) : ∃ fields, v = .object fields := by
  have hmem : root ∈ Object.keys body := by
    rw [Object.mem_keys_iff, hv]
    rfl
  obtain ⟨j, q, hq, hroot, hj⟩ := h.mem_keys_iff.mp hmem
  obtain ⟨child, more, hbelow⟩ := List.exists_cons_of_ne_nil (wf.below_ne_nil hp hq hroot)
  rw [← h.read_eq hq, Path.read, hroot, hbelow, Path.readAt, hv] at hj
  cases v with
  | object fields => exact ⟨fields, rfl⟩
  | _ => simp [Json.object?] at hj

/-- In the object under a shared key stand the parameters that have a value. -/
theorem Carries.shared (wf : t.WellFormed) (h : t.Carries value body) {key root next : String}
    {below : List String} (hp : t.path? key = some ⟨root, next :: below⟩) {v : Json}
    (hv : Object.get? body root = some v) : ∃ fields, v = .object fields ∧
      ∀ child, child ∈ Object.keys fields ↔
        ∃ j more, t.path? j = some ⟨root, child :: more⟩ ∧ (value j).isSome := by
  obtain ⟨fields, hfields⟩ := h.eq_object wf hp hv
  refine ⟨fields, hfields, fun child ↦ ?_⟩
  have hchild : (⟨root, [child]⟩ : Path).read body = Object.get? fields child := by
    simp [Path.read, Path.readAt, hv, hfields, Json.object?]
  rw [Object.mem_keys_iff, ← hchild]
  constructor
  · intro hread
    obtain ⟨j, q, hq, hj, hway⟩ := h.only hread
    obtain ⟨root', below'⟩ := q
    rcases hway with hway | hway
    · obtain ⟨more, hmore⟩ := hway
      cases hmore
      exact ⟨j, more, hq, hj⟩
    · obtain ⟨rfl, hbelow⟩ := List.cons_prefix_cons.mp hway
      cases below' with
      | nil => exact absurd rfl (wf.below_ne_nil hp hq rfl)
      | cons c more =>
          obtain ⟨rfl, hmore⟩ := List.cons_prefix_cons.mp hbelow
          obtain rfl := List.prefix_nil.mp hmore
          exact ⟨j, [], hq, hj⟩
  · rintro ⟨j, more, hq, hj⟩
    rw [← h.read_eq hq] at hj
    exact Path.isSome_readAt_of_append [child] hj

/-! ### The order of writing -/

/-- A body depends on a declaration through its look-ups, and on neither the order of the defaults
nor that of what is given. -/
theorem body_eq_of_perm (wf : t.WellFormed) (rule : BodyRule) {d e : Declaration}
    (hlook : ∀ key, Object.get? e key = Object.get? d key)
    {seeds entries : List (String × Json)} (hseeds : seeds.Perm (t.seeds rule))
    (hentries : entries.Perm (t.admitted rule e)) :
    t.setAll (t.setAll [] seeds) entries = t.body rule d := by
  have hsame (key : String) : e.given? key = d.given? key := by
    rw [Declaration.given?, Declaration.given?, hlook key]
  have hgiven := hentries.trans (admitted_perm rule fun key _ ↦ hsame key)
  rw [body, setAll_perm wf hseeds.symm (wf.nodup_keys_seeds rule),
    setAll_perm wf hgiven.symm (nodup_keys_admitted rule d)]

/-! ### Bodies for message brokers -/

/-- Every path of a message broker has one key or two. -/
theorem standard_depth {key root child : String} {more : List String}
    (h : standard.path? key = some ⟨root, child :: more⟩) : more = [] := by
  have hdepth : ∀ f ∈ standard.paths, f.2.below.length ≤ 1 := by decide
  have := hdepth _ (Object.mem_of_get? h)
  cases more with
  | nil => rfl
  | cons _ _ => simp at this

/-- The body of a message broker is fixed by what its parameters are given. Each parameter has its
value at its path; the top holds the roots of the parameters that have one, and the two shared
objects hold the children that have one; whatever can be read lies on the way to such a value or
inside it. Neither the order of the entries of a declaration or of the defaults, nor the order in
which they are written into the body, makes a difference. -/
theorem standard_body_exact (rule : BodyRule) (d : Declaration) :
    (∀ key p, standard.path? key = some p →
      p.read (standard.body rule d) = standard.value? rule d key) ∧
    (∀ root, root ∈ Object.keys (standard.body rule d) ↔
      ∃ key p, standard.path? key = some p ∧ p.root = root ∧
        (standard.value? rule d key).isSome) ∧
    (∀ root, root = "EncryptionOptions" ∨ root = "Logs" →
      ∀ v, Object.get? (standard.body rule d) root = some v →
        ∃ fields, v = .object fields ∧ ∀ child, child ∈ Object.keys fields ↔
          ∃ key, standard.path? key = some ⟨root, [child]⟩ ∧
            (standard.value? rule d key).isSome) ∧
    (∀ q : Path, (q.read (standard.body rule d)).isSome →
      ∃ key p, standard.path? key = some p ∧ (standard.value? rule d key).isSome ∧
        (q.segments <+: p.segments ∨ p.segments <+: q.segments)) ∧
    (∀ (e : Declaration) (defaults : Object), (∀ key, Object.get? e key = Object.get? d key) →
      defaults.Perm standard.defaults →
      { standard with defaults := defaults }.body rule e = standard.body rule d) ∧
    (∀ seeds entries : List (String × Json), seeds.Perm (standard.seeds rule) →
      entries.Perm (standard.admitted rule d) →
      standard.setAll (standard.setAll [] seeds) entries = standard.body rule d) := by
  have wf := standard_wellFormed
  have hcarries := carries_body wf rule d
  refine ⟨fun _ _ hp ↦ hcarries.read_eq hp, fun _ ↦ hcarries.mem_keys_iff, ?_,
    fun _ hq ↦ hcarries.only hq, ?_, ?_⟩
  · intro root hroot v hv
    obtain ⟨key, next, hp⟩ : ∃ key next, standard.path? key = some ⟨root, [next]⟩ := by
      rcases hroot with rfl | rfl
      · exact ⟨"kms_key_id", "KmsKeyId", standard_path?_key⟩
      · exact ⟨"enable_audit_log", "Audit", by decide⟩
    obtain ⟨fields, hfields, hmem⟩ := hcarries.shared wf hp hv
    refine ⟨fields, hfields, fun child ↦ (hmem child).trans ?_⟩
    constructor
    · rintro ⟨j, more, hj, hsome⟩
      obtain rfl := standard_depth hj
      exact ⟨j, hj, hsome⟩
    · rintro ⟨j, hj, hsome⟩
      exact ⟨j, [], hj, hsome⟩
  · intro e defaults hlook hdefaults
    refine body_eq_of_perm wf rule hlook ?_ (List.Perm.refl _)
    unfold seeds
    split
    · exact hdefaults
    · exact List.Perm.refl _
  · exact fun _ _ hseeds hentries ↦ body_eq_of_perm wf rule (fun _ ↦ rfl) hseeds hentries

end Table

end BrokerControl
