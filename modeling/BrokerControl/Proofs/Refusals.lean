import BrokerControl.Proofs.Encodings
import BrokerControl.Proofs.Requests

/-!
# What updates refuse and what they leave out

The strict policy refuses a declaration that gives a parameter of creations, the lenient one leaves
such parameters out of the body. Both look at the same parameters: leaving them out makes a
difference exactly if one of them is given (`Table.body_drop_eq_iff`), so the strict check passes
exactly where the lenient body loses nothing (`Table.refused_iff_left_out`).
-/

namespace BrokerControl

namespace Table

variable {t : Table} {d : Declaration}

/-- Where no parameter of creations is given, leaving them out makes no difference. -/
theorem admitted_drop_eq (h : ∀ key ∈ t.creationOnly, d.given? key = none) (withDefaults : Bool) :
    t.admitted ⟨withDefaults, true⟩ d = t.admitted ⟨withDefaults, false⟩ d := by
  refine List.filter_congr ?_
  intro f hf
  have hget : Object.get? d f.1 = some f.2 := Object.mem_ordered_iff.mp hf
  by_cases honly : t.isCreationOnly f.1 = true
  · -- What is found and not given is a null, which goes into no body.
    have hnone : d.given? f.1 = none := h f.1 (List.contains_iff_mem.mp honly)
    have hnull : f.2.isNull = true := by
      rw [Declaration.given?, hget] at hnone
      simpa using hnone
    simp [admits, hnull]
  · simp [admits, honly]

/-- Leaving out the parameters of creations changes a body without defaults exactly if one of them
is given. -/
theorem body_drop_eq_iff (wf : t.WellFormed)
    (hpaths : ∀ key ∈ t.creationOnly, (t.path? key).isSome) :
    t.body ⟨false, true⟩ d = t.body ⟨false, false⟩ d ↔
      ∀ key ∈ t.creationOnly, d.given? key = none := by
  constructor
  · intro hsame key hkey
    obtain ⟨p, hp⟩ := Option.isSome_iff_exists.mp (hpaths key hkey)
    have honly : t.isCreationOnly key = true := List.contains_iff_mem.mpr hkey
    have hdropped : p.read (t.body ⟨false, true⟩ d) = none := by
      rw [(carries_body wf _ d).read_eq hp]
      simp [value?, honly]
    have hkept : p.read (t.body ⟨false, false⟩ d) = d.given? key := by
      rw [(carries_body wf _ d).read_eq hp]
      simp [value?]
    rw [← hkept, ← hsame, hdropped]
  · intro hnone
    show t.setAll (t.setAll [] []) (t.admitted ⟨false, true⟩ d) =
      t.setAll (t.setAll [] []) (t.admitted ⟨false, false⟩ d)
    rw [admitted_drop_eq hnone]

theorem standard_creationOnly_paths :
    ∀ key ∈ standard.creationOnly, (standard.path? key).isSome := by decide

/-- The strict check passes a declaration exactly if the body of its update is the one that nothing
is left out of. A check for any `names` passes exactly if each of them is absent or null, and
otherwise names the one among them that is given and comes first in the order of bytes. -/
theorem refused_iff_left_out (d : Declaration) :
    (checkUpdate standard.creationOnly d = .ok () ↔
      standard.body ⟨false, true⟩ d = standard.body ⟨false, false⟩ d) ∧
    ∀ names : List String,
      (checkUpdate names d = .ok () ↔
        ∀ key ∈ names, Object.get? d key = none ∨ Object.get? d key = some .null) ∧
      ∀ fault, checkUpdate names d = .error fault ↔
        ∃ key, fault = .creationOnlyOnUpdate key ∧ key ∈ names ∧ (d.given? key).isSome ∧
          ∀ other ∈ names, (d.given? other).isSome →
            Utf8.encode key.toList ≤ Utf8.encode other.toList := by
  refine ⟨?_, fun names ↦ ⟨?_, fun fault ↦ ?_⟩⟩
  · rw [checkUpdate_eq_ok_iff]
    exact (body_drop_eq_iff standard_wellFormed standard_creationOnly_paths).symm
  · simp only [checkUpdate_eq_ok_iff, Declaration.given?_eq_none_iff]
  · simp only [checkUpdate_eq_error_iff, forbidden?_eq_some_iff, Utf8.encode_le_encode_iff]

end Table

end BrokerControl
