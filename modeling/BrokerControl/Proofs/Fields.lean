import BrokerControl.Json.Value
import Mathlib.Data.List.Nodup
import Mathlib.Data.String.Basic

/-!
# Laws of fields

How the fields of an object behave when several of them are set. `Object.insert_comm` and
`Object.insert_insert` say that the order in which different keys are set does not matter and that
of two values for one key the later stays; `Object.get?_ordered` and `Object.nodup_keys_ordered`
say that `Object.ordered` lists each key once, with the value that a look-up finds, and
`Object.pairwise_keys_ordered` that it lists them in their order. Fields in order that answer every
look-up alike are the same (`Object.eq_of_get?_eq`).
-/

namespace BrokerControl

namespace Object

variable {α : Type}

/-! ### Keys and look-ups -/

@[simp] theorem get?_nil (key : String) : get? ([] : List (String × α)) key = none := rfl

/-- The keys are those that have a value. -/
theorem mem_keys_iff {o : List (String × α)} {key : String} :
    key ∈ keys o ↔ (get? o key).isSome := by
  rw [← contains_eq_isSome]
  simp [keys, contains]

/-- A value that is found stands in a field. -/
theorem mem_of_get? {o : List (String × α)} {key : String} {v : α} (h : get? o key = some v) :
    (key, v) ∈ o := by
  induction o with
  | nil => simp [get?] at h
  | cons f o ih =>
      rw [get?_cons] at h
      by_cases hf : f.1 = key
      · rw [if_pos hf, Option.some.injEq] at h
        subst hf h
        exact List.mem_cons_self
      · rw [if_neg hf] at h
        exact List.mem_cons_of_mem f (ih h)

/-- Where no key repeats, every field is found. -/
theorem get?_of_mem {o : List (String × α)} (hnodup : (keys o).Nodup) {key : String} {v : α}
    (h : (key, v) ∈ o) : get? o key = some v := by
  induction o with
  | nil => cases h
  | cons f o ih =>
      obtain ⟨hf, hrest⟩ := List.nodup_cons.mp hnodup
      rw [get?_cons]
      rcases List.mem_cons.mp h with rfl | hmem
      · exact if_pos rfl
      · have hne : f.1 ≠ key := by
          rintro rfl
          exact hf (List.mem_map.mpr ⟨_, hmem, rfl⟩)
        rw [if_neg hne]
        exact ih hrest hmem

/-- Where no key repeats, a look-up does not depend on the direction in which it goes. -/
theorem get?_reverse {o : List (String × α)} (hnodup : (keys o).Nodup) (key : String) :
    get? o.reverse key = get? o key := by
  have hreverse : (keys o.reverse).Nodup := by
    rwa [keys, List.map_reverse, List.nodup_reverse]
  refine Option.ext fun v ↦ ?_
  constructor
  · intro h
    exact get?_of_mem hnodup (List.mem_reverse.mp (mem_of_get? h))
  · intro h
    exact get?_of_mem hreverse (List.mem_reverse.mpr (mem_of_get? h))

/-- A key that no field has is not found. -/
theorem get?_eq_none {o : List (String × α)} {key : String} (h : key ∉ keys o) :
    get? o key = none := by
  simpa [mem_keys_iff] using h

/-- A look-up goes through the first of two lists before the second. -/
theorem get?_append (o p : List (String × α)) (key : String) :
    get? (o ++ p) key = (get? o key).or (get? p key) := by
  induction o with
  | nil => rfl
  | cons f o ih =>
      rw [List.cons_append, get?_cons, get?_cons, ih]
      by_cases hf : f.1 = key <;> simp [hf]

/-- A look-up among some of the fields finds the value if its field is among them. -/
theorem get?_filter {o : List (String × α)} (hnodup : (keys o).Nodup) (p : String × α → Bool)
    (key : String) : get? (o.filter p) key = (get? o key).filter fun v ↦ p (key, v) := by
  induction o with
  | nil => rfl
  | cons f o ih =>
      obtain ⟨hf, hrest⟩ := List.nodup_cons.mp hnodup
      obtain ⟨k, v⟩ := f
      rw [List.filter_cons, get?_cons]
      by_cases hk : k = key
      · subst hk
        have ho : get? (o.filter p) k = none := by rw [ih hrest, get?_eq_none hf]; rfl
        by_cases hp : p (k, v) <;> simp [hp, ho, get?_cons, Option.filter]
      · by_cases hp : p (k, v) <;> simp [hp, hk, ih hrest, get?_cons]

/-! ### Setting several fields -/

/-- Replacing values keeps the keys. -/
theorem keys_replace (key : String) (value : α) (o : List (String × α)) :
    keys (replace key value o) = keys o := by
  induction o with
  | nil => rfl
  | cons f o ih =>
      by_cases hf : f.1 = key
      · simp [replace, keys, hf]
      · simp only [replace, beq_iff_eq, hf, if_false]
        exact congrArg (f.1 :: ·) ih

/-- Placing a field adds its key. -/
theorem keys_place_perm (key : String) (value : α) (o : List (String × α)) :
    (keys (place key value o)).Perm (key :: keys o) := by
  induction o with
  | nil => rfl
  | cons f o ih =>
      by_cases hlt : key < f.1
      · simp [place, keys, hlt]
      · simp only [place, hlt, if_false]
        exact (ih.cons f.1).trans (List.Perm.swap key f.1 (keys o))

/-- Placing a new field keeps the keys in their order. -/
theorem pairwise_keys_place {o : List (String × α)} (h : (keys o).Pairwise (· < ·)) {key : String}
    (hnew : key ∉ keys o) (value : α) : (keys (place key value o)).Pairwise (· < ·) := by
  induction o with
  | nil => simp [place, keys]
  | cons f o ih =>
      obtain ⟨hf, ho⟩ := List.pairwise_cons.mp h
      obtain ⟨hne, hkey⟩ : key ≠ f.1 ∧ key ∉ keys o := by simpa [keys] using hnew
      by_cases hlt : key < f.1
      · have hall : ∀ k ∈ keys (f :: o), key < k := by
          intro k hk
          rcases List.mem_cons.mp hk with rfl | hk
          · exact hlt
          · exact hlt.trans (hf k hk)
        rw [place, if_pos hlt]
        exact List.pairwise_cons.mpr ⟨hall, h⟩
      · have hall : ∀ k ∈ keys (place key value o), f.1 < k := by
          intro k hk
          rcases List.mem_cons.mp ((keys_place_perm key value o).mem_iff.mp hk) with rfl | hk
          · exact lt_of_le_of_ne (not_lt.mp hlt) (Ne.symm hne)
          · exact hf k hk
        rw [place, if_neg hlt]
        exact List.pairwise_cons.mpr ⟨hall, ih ho hkey⟩

/-- Setting a field keeps the keys in their order. -/
theorem pairwise_keys_insert {o : List (String × α)} (h : (keys o).Pairwise (· < ·))
    (key : String) (value : α) : (keys (insert o key value)).Pairwise (· < ·) := by
  unfold insert
  split
  · rwa [keys_replace]
  · next hc =>
      refine pairwise_keys_place h ?_ value
      rw [mem_keys_iff, ← contains_eq_isSome]
      exact hc

theorem replace_replace (key : String) (v w : α) (o : List (String × α)) :
    replace key w (replace key v o) = replace key w o := by
  induction o with
  | nil => rfl
  | cons f o ih => by_cases hf : f.1 = key <;> simp [replace, hf, ih]

theorem replace_place (key : String) (v w : α) (o : List (String × α))
    (h : contains o key = false) : replace key w (place key v o) = place key w o := by
  induction o with
  | nil => simp [place, replace]
  | cons f o ih =>
      obtain ⟨hf, ho⟩ : f.1 ≠ key ∧ contains o key = false := by simpa [contains] using h
      by_cases hlt : key < f.1
      · simp [place, replace, hlt]
      · simp [place, replace, hlt, hf, ih ho]

/-- Of two values for one key the later stays. -/
theorem insert_insert (o : List (String × α)) (key : String) (v w : α) :
    insert (insert o key v) key w = insert o key w := by
  have hset : contains (insert o key v) key = true := by simp [contains_eq_isSome]
  rw [insert, if_pos hset]
  unfold insert
  split
  · exact replace_replace key v w o
  · next hc => exact replace_place key v w o (by simpa using hc)

theorem replace_comm {j k : String} (h : j ≠ k) (v w : α) (o : List (String × α)) :
    replace k w (replace j v o) = replace j v (replace k w o) := by
  induction o with
  | nil => rfl
  | cons f o ih =>
      by_cases hj : f.1 = j
      · have hk : f.1 ≠ k := fun hk ↦ h (hj.symm.trans hk)
        simp [replace, hj, h]
      · by_cases hk : f.1 = k
        · simp [replace, hk, h.symm]
        · simp [replace, hj, hk, ih]

theorem place_replace {j k : String} (h : j ≠ k) (v w : α) (o : List (String × α)) :
    place k w (replace j v o) = replace j v (place k w o) := by
  induction o with
  | nil => simp [place, replace, h.symm]
  | cons f o ih =>
      by_cases hj : f.1 = j
      · by_cases hlt : k < j <;> simp [place, replace, hj, hlt, h.symm]
      · by_cases hlt : k < f.1 <;> simp [place, replace, hj, hlt, h.symm, ih]

theorem place_comm {j k : String} (h : j ≠ k) (v w : α) (o : List (String × α)) :
    place k w (place j v o) = place j v (place k w o) := by
  induction o with
  | nil =>
      rcases lt_or_gt_of_ne h with hlt | hlt <;> simp [place, hlt, hlt.not_gt]
  | cons f o ih =>
      by_cases hj : j < f.1
      · by_cases hk : k < f.1
        · rcases lt_or_gt_of_ne h with hlt | hlt <;> simp [place, hj, hk, hlt, hlt.not_gt]
        · have hkj : ¬ k < j := fun hkj ↦ hk (hkj.trans hj)
          simp [place, hj, hk, hkj]
      · by_cases hk : k < f.1
        · have hjk : ¬ j < k := fun hjk ↦ hj (hjk.trans hk)
          simp [place, hj, hk, hjk]
        · simp [place, hj, hk, ih]

/-- Different keys can be set in either order. -/
theorem insert_comm {j k : String} (h : j ≠ k) (v w : α) (o : List (String × α)) :
    insert (insert o j v) k w = insert (insert o k w) j v := by
  have hk : contains (insert o j v) k = contains o k := by
    rw [contains_eq_isSome, contains_eq_isSome, get?_insert_of_ne o v h.symm]
  have hj : contains (insert o k w) j = contains o j := by
    rw [contains_eq_isSome, contains_eq_isSome, get?_insert_of_ne o w h]
  rw [insert, hk, insert.eq_1 (insert o k w), hj]
  unfold insert
  by_cases hoj : contains o j <;> by_cases hok : contains o k
  · simpa [hoj, hok] using replace_comm h v w o
  · simpa [hoj, hok] using place_replace h v w o
  · simpa [hoj, hok] using (place_replace h.symm w v o).symm
  · simpa [hoj, hok] using place_comm h v w o

/-! ### The fields in order -/

theorem get?_insertAll (o fields : List (String × α)) (key : String) :
    get? (insertAll o fields) key = (get? fields.reverse key).or (get? o key) := by
  induction fields generalizing o with
  | nil => rfl
  | cons f fields ih =>
      show get? (insertAll (insert o f.1 f.2) fields) key = _
      rw [ih, List.reverse_cons, get?_append, get?_insert]
      cases get? fields.reverse key with
      | some v => rfl
      | none =>
          simp only [get?_cons, get?_nil, Option.none_or, eq_comm]
          split <;> rfl

theorem pairwise_keys_insertAll {o : List (String × α)} (h : (keys o).Pairwise (· < ·))
    (fields : List (String × α)) : (keys (insertAll o fields)).Pairwise (· < ·) := by
  induction fields generalizing o with
  | nil => exact h
  | cons f fields ih => exact ih (pairwise_keys_insert h f.1 f.2)

/-- Ordering fields changes no look-up. -/
@[simp] theorem get?_ordered (o : List (String × α)) (key : String) :
    get? (ordered o) key = get? o key := by
  simp [ordered, ofList, get?_insertAll]

/-- Ordered fields stand in the order of their keys. -/
theorem pairwise_keys_ordered (o : List (String × α)) : (keys (ordered o)).Pairwise (· < ·) :=
  pairwise_keys_insertAll (o := []) List.Pairwise.nil o.reverse

/-- Ordered fields repeat no key. -/
theorem nodup_keys_ordered (o : List (String × α)) : (keys (ordered o)).Nodup :=
  (pairwise_keys_ordered o).imp ne_of_lt

/-- Fields in order are told apart by look-ups. -/
theorem eq_of_get?_eq {o p : List (String × α)} (ho : (keys o).Pairwise (· < ·))
    (hp : (keys p).Pairwise (· < ·)) (h : ∀ key, get? o key = get? p key) : o = p := by
  have hnodup {q : List (String × α)} (hq : (keys q).Pairwise (· < ·)) : (keys q).Nodup :=
    hq.imp ne_of_lt
  have hmem (f : String × α) : f ∈ o ↔ f ∈ p := by
    obtain ⟨key, v⟩ := f
    constructor
    · intro hf
      exact mem_of_get? (h key ▸ get?_of_mem (hnodup ho) hf)
    · intro hf
      exact mem_of_get? ((h key).symm ▸ get?_of_mem (hnodup hp) hf)
  have hperm : o.Perm p :=
    (List.perm_ext_iff_of_nodup (hnodup ho).of_map (hnodup hp).of_map).mpr hmem
  refine hperm.eq_of_pairwise ?_ (List.pairwise_map.mp ho) (List.pairwise_map.mp hp)
  intro f g _ _ hfg hgf
  exact absurd hfg hgf.not_gt

/-- Among fields in order, the first with a property is the one with the smallest key. -/
theorem find?_eq_some_iff {o : List (String × α)} (h : (keys o).Pairwise (· < ·))
    {p : String × α → Bool} {f : String × α} :
    o.find? p = some f ↔ f ∈ o ∧ p f = true ∧ ∀ g ∈ o, p g = true → f.1 ≤ g.1 := by
  induction o with
  | nil => simp
  | cons g o ih =>
      obtain ⟨hg, ho⟩ := List.pairwise_cons.mp h
      have hfirst : ∀ k ∈ o, g.1 < k.1 := fun k hk ↦ hg k.1 (List.mem_map_of_mem hk)
      rw [List.find?_cons]
      cases hp : p g with
      | true =>
          constructor
          · rintro ⟨⟩
            refine ⟨List.mem_cons_self, hp, ?_⟩
            intro k hk _
            rcases List.mem_cons.mp hk with rfl | hk
            · exact le_rfl
            · exact (hfirst k hk).le
          · rintro ⟨hf, -, hle⟩
            rcases List.mem_cons.mp hf with rfl | hf
            · rfl
            · exact absurd (hfirst f hf) (hle g List.mem_cons_self hp).not_gt
      | false =>
          have hne : f ∈ g :: o ∧ p f = true ↔ f ∈ o ∧ p f = true := by
            constructor
            · rintro ⟨hf, hpf⟩
              rcases List.mem_cons.mp hf with rfl | hf
              · simp [hp] at hpf
              · exact ⟨hf, hpf⟩
            · rintro ⟨hf, hpf⟩
              exact ⟨List.mem_cons_of_mem g hf, hpf⟩
          simp only
          rw [ih ho, ← and_assoc, ← and_assoc, hne]
          simp [hp]

/-- The ordered fields are those that look-ups find. -/
theorem mem_ordered_iff {o : List (String × α)} {key : String} {v : α} :
    (key, v) ∈ ordered o ↔ get? o key = some v := by
  rw [← get?_ordered]
  exact ⟨get?_of_mem (nodup_keys_ordered o), mem_of_get?⟩

end Object

end BrokerControl
