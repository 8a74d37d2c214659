import BrokerControl.Listing.Records
import BrokerControl.Proofs.Fields

/-!
# Laws of records

A filter removes the records whose field is its text (`RecordFilter.rejects_iff`), so it does not
matter in which order filters come, or how often (`Records.sieve_eq_of_mem_iff`). Records by a field
are those that hold a text there: each text has the last record that holds it
(`Records.get?_keyBy_eq_some_iff`), and there are no other keys (`Records.mem_keys_keyBy_iff`).
`Records.sieve_and_key_laws` adds what becomes of lists that are joined.
-/

namespace BrokerControl

/-- A filter removes a record exactly if the record's field is the filter's text. -/
theorem RecordFilter.rejects_iff {f : RecordFilter} {record : Json} :
    f.rejects record = true ↔ record.field? f.field = some (.string f.value) := by
  rw [rejects, beq_iff_eq, Json.fieldString?_eq_some_iff]

namespace Records

variable {field key : String} {record : Json} {records : List Json} {F G : List RecordFilter}

/-! ### Sieving -/

/-- Some filter removes a record exactly if the record's field is the text of one. -/
theorem any_rejects_iff : (F.any fun f ↦ f.rejects record) = true ↔
    ∃ f ∈ F, record.field? f.field = some (.string f.value) := by
  simp only [List.any_eq_true, RecordFilter.rejects_iff]

/-- Filters of two lists can be applied one list after the other. -/
theorem sieve_filters_append (F G : List RecordFilter) (records : List Json) :
    sieve (F ++ G) records = sieve G (sieve F records) := by
  rw [sieve, sieve, sieve, List.filter_filter]
  refine List.filter_congr fun r _ ↦ ?_
  rw [List.any_append, Bool.not_or, Bool.and_comm]

/-- Only which filters there are matters. -/
theorem sieve_eq_of_mem_iff (h : ∀ f, f ∈ F ↔ f ∈ G) (records : List Json) :
    sieve F records = sieve G records := by
  refine List.filter_congr fun r _ ↦ congrArg Bool.not ?_
  rw [Bool.eq_iff_iff, any_rejects_iff, any_rejects_iff]
  simp only [h]

/-- Lists that are joined are sieved each on its own. -/
theorem sieve_append (F : List RecordFilter) (a b : List Json) :
    sieve F (a ++ b) = sieve F a ++ sieve F b :=
  List.filter_append a b

/-- Without filters every record stays. -/
theorem sieve_no_filters (records : List Json) : sieve [] records = records :=
  List.filter_eq_self.mpr fun _ _ ↦ rfl

theorem sieve_singleton_eq_nil_iff :
    sieve F [record] = [] ↔ ∃ f ∈ F, record.field? f.field = some (.string f.value) := by
  rw [← any_rejects_iff]
  simp [sieve]

theorem sieve_singleton_eq_self_iff :
    sieve F [record] = [record] ↔ ¬ ∃ f ∈ F, record.field? f.field = some (.string f.value) := by
  rw [← any_rejects_iff]
  simp [sieve]

/-! ### Keying -/

/-- `LastWith field key record records` says that `record` is the last of the records whose field is
the text `key`. -/
def LastWith (field key : String) (record : Json) (records : List Json) : Prop :=
  ∃ before after, records = before ++ record :: after ∧ record.field? field = some (.string key) ∧
    ∀ r ∈ after, r.field? field ≠ some (.string key)

/-- Looking up a text among the records that hold one finds the first that holds it. -/
theorem get?_filterMap (field key : String) (records : List Json) :
    Object.get? (records.filterMap fun r ↦ (r.fieldString? field).map fun k ↦ (k, r)) key =
      records.find? fun r ↦ r.fieldString? field == some key := by
  induction records with
  | nil => rfl
  | cons r records ih =>
      rw [List.filterMap_cons, List.find?_cons]
      cases hr : r.fieldString? field with
      | none => simpa using ih
      | some k =>
          by_cases hk : k = key
          · simp [Object.get?_cons, hk]
          · have hne : (some k == some key) = false := by simpa using hk
            rw [Option.map_some, Object.get?_cons, if_neg hk, ih, hne]

/-- A text is the key of the last record that holds it. -/
theorem get?_keyBy (field key : String) (records : List Json) :
    Object.get? (keyBy field records) key =
      records.reverse.find? fun r ↦ r.fieldString? field == some key := by
  rw [keyBy, Object.ofList, Object.get?_insertAll, ← List.filterMap_reverse, get?_filterMap,
    Object.get?_nil, Option.or_none]

theorem get?_keyBy_eq_some_iff : Object.get? (keyBy field records) key = some record ↔
    LastWith field key record records := by
  rw [get?_keyBy, List.find?_eq_some_iff_append]
  simp only [beq_iff_eq, Json.fieldString?_eq_some_iff, Bool.not_eq_true', beq_eq_false_iff_ne,
    ne_eq]
  constructor
  · rintro ⟨hkey, after, before, hsplit, hafter⟩
    refine ⟨before.reverse, after.reverse, ?_, hkey, ?_⟩
    · simpa using congrArg List.reverse hsplit
    · simpa using hafter
  · rintro ⟨before, after, rfl, hkey, hafter⟩
    exact ⟨hkey, after.reverse, before.reverse, by simp, by simpa using hafter⟩

/-- The keys are the texts that some record holds. -/
theorem mem_keys_keyBy_iff : key ∈ Object.keys (keyBy field records) ↔
    ∃ r ∈ records, r.field? field = some (.string key) := by
  rw [Object.mem_keys_iff, get?_keyBy, List.find?_isSome]
  simp [Json.fieldString?_eq_some_iff]

/-- The keys stand in their order, so that none repeats. -/
theorem pairwise_keys_keyBy (field : String) (records : List Json) :
    (Object.keys (keyBy field records)).Pairwise (· < ·) :=
  Object.pairwise_keys_insertAll (o := []) List.Pairwise.nil _

theorem get?_keyBy_append (field key : String) (a b : List Json) :
    Object.get? (keyBy field (a ++ b)) key =
      (Object.get? (keyBy field b) key).or (Object.get? (keyBy field a) key) := by
  rw [get?_keyBy, get?_keyBy, get?_keyBy, List.reverse_append, List.find?_append]

/-- Lists that are joined are keyed as the first one, overridden by the second. -/
theorem keyBy_append (field : String) (a b : List Json) :
    keyBy field (a ++ b) = Object.insertAll (keyBy field a) (keyBy field b) := by
  have hkeys := pairwise_keys_keyBy field
  refine Object.eq_of_get?_eq (hkeys _) (Object.pairwise_keys_insertAll (hkeys a) _) fun key ↦ ?_
  rw [get?_keyBy_append, Object.get?_insertAll, Object.get?_reverse ((hkeys b).imp ne_of_lt)]

/-- Sieving and keying, for records of any shape, any filters and any field. Filters of two lists
can be applied one list after the other, and only which filters there are matters, not their order
or a repetition; without filters every record stays. Lists that are joined are sieved each on its
own, and a record goes exactly if its field is the text of some filter. Lists that are joined are
keyed as the first one, overridden by the second. The keys are the texts of the field, each of them
once, and a key has the last record that holds it. -/
theorem sieve_and_key_laws (F G : List RecordFilter) (a b : List Json) (field : String) :
    let Removed (r : Json) : Prop := ∃ f ∈ F, r.field? f.field = some (.string f.value)
    sieve (F ++ G) a = sieve G (sieve F a) ∧
    ((∀ f, f ∈ F ↔ f ∈ G) → sieve F a = sieve G a) ∧
    sieve [] a = a ∧
    sieve F (a ++ b) = sieve F a ++ sieve F b ∧
    (∀ r, (sieve F [r] = [] ↔ Removed r) ∧ (sieve F [r] = [r] ↔ ¬ Removed r)) ∧
    keyBy field (a ++ b) = Object.insertAll (keyBy field a) (keyBy field b) ∧
    (∀ key, Object.get? (keyBy field (a ++ b)) key =
      (Object.get? (keyBy field b) key).or (Object.get? (keyBy field a) key)) ∧
    (Object.keys (keyBy field a)).Pairwise (· < ·) ∧
    (∀ key, key ∈ Object.keys (keyBy field a) ↔
      ∃ r ∈ a, r.field? field = some (.string key)) ∧
    ∀ key r, Object.get? (keyBy field a) key = some r ↔ LastWith field key r a := by
  intro Removed
  refine ⟨sieve_filters_append F G a, fun h ↦ sieve_eq_of_mem_iff h a, sieve_no_filters a,
    sieve_append F a b, ?_, keyBy_append field a b, fun key ↦ get?_keyBy_append field key a b,
    pairwise_keys_keyBy field a, fun key ↦ mem_keys_keyBy_iff,
    fun key r ↦ get?_keyBy_eq_some_iff⟩
  intro r
  exact ⟨sieve_singleton_eq_nil_iff, sieve_singleton_eq_self_iff⟩

end Records

end BrokerControl
