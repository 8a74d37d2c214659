import BrokerControl.Proofs.Queries
import BrokerControl.Text.Printable

/-!
# Excerpts of bodies

An excerpt has the printable characters of a short body, and of a long one those among its first 200
characters, with a note on the size of the body (`Printable.excerpt_eq`). Both parts are printable,
and so is the excerpt (`Printable.allPrintable_excerpt`).
-/

namespace BrokerControl.Printable

/-- A text is printable if all its characters are. -/
def AllPrintable (text : String) : Prop := ∀ c ∈ text.toList, 0x20 ≤ c.toNat ∧ c.toNat ≤ 0x7E

theorem all_isPrintable_iff {text : String} :
    text.toList.all isPrintable = true ↔ AllPrintable text := by
  simp only [AllPrintable, List.all_eq_true, isPrintable, decide_eq_true_eq]

instance (text : String) : Decidable (AllPrintable text) :=
  decidable_of_iff _ all_isPrintable_iff

/-- What an excerpt has of a body. -/
def opening (body : String) : String :=
  String.ofList ((body.toList.take excerptLimit).filter isPrintable)

/-- The note on the size of a long body. -/
def sizeNote (body : String) : String :=
  if body.length ≤ excerptLimit then ""
  else s!"... [truncated, {Utf8.size body.toList} bytes total]"

theorem length_opening_le (body : String) : (opening body).length ≤ excerptLimit := by
  rw [opening, String.length_ofList]
  exact (List.length_filter_le _ _).trans (List.length_take_le _ _)

theorem allPrintable_append {s t : String} :
    AllPrintable (s ++ t) ↔ AllPrintable s ∧ AllPrintable t := by
  simp only [AllPrintable, String.toList_append, List.forall_mem_append]

theorem filter_isPrintable_eq_self {text : String} (h : AllPrintable text) :
    text.toList.filter isPrintable = text.toList :=
  List.filter_eq_self.mpr fun c hc ↦ decide_eq_true (h c hc)

theorem allPrintable_opening (body : String) : AllPrintable (opening body) := by
  intro c hc
  rw [opening, String.toList_ofList] at hc
  exact of_decide_eq_true (List.mem_filter.mp hc).2

/-- A number is printable. -/
theorem allPrintable_toString (n : Nat) : AllPrintable (toString n) := by
  intro c hc
  have hdigit : 0x30 ≤ c.toNat ∧ c.toNat ≤ 0x39 := by
    simpa [Char.isDigit, UInt32.le_iff_toNat_le] using Query.isDigit_of_mem_toString hc
  omega

theorem allPrintable_sizeNote (body : String) : AllPrintable (sizeNote body) := by
  rw [sizeNote]
  split
  · exact List.forall_mem_nil _
  · rw [allPrintable_append, allPrintable_append]
    exact ⟨⟨by decide, allPrintable_toString _⟩, by decide⟩

/-- An excerpt has the start of the body and a note on its size. -/
theorem excerpt_eq (body : String) : excerpt body = opening body ++ sizeNote body := by
  rw [← String.toList_inj, String.toList_append,
    ← filter_isPrintable_eq_self (allPrintable_sizeNote body), opening, String.toList_ofList,
    ← List.filter_append, excerpt, String.toList_ofList, sizeNote]
  by_cases hshort : body.length ≤ excerptLimit
  · have hall : body.toList.length ≤ excerptLimit := String.length_toList ▸ hshort
    rw [if_neg (Nat.not_lt.mpr hall), if_pos hshort, List.take_of_length_le hall]
    exact congrArg _ (List.append_nil _).symm
  · have hlong : excerptLimit < body.toList.length := String.length_toList ▸ Nat.not_le.mp hshort
    rw [if_pos hlong, if_neg hshort]

theorem allPrintable_excerpt (body : String) : AllPrintable (excerpt body) := by
  rw [excerpt_eq, allPrintable_append]
  exact ⟨allPrintable_opening body, allPrintable_sizeNote body⟩

/-- The note tells the size in UTF-8. -/
theorem sizeNote_of_long {body : String} (h : excerptLimit < body.length) :
    sizeNote body = s!"... [truncated, {body.utf8ByteSize} bytes total]" := by
  rw [sizeNote, if_neg (Nat.not_le.mpr h), Utf8.size_toList]

theorem excerpt_of_short {body : String} (h : body.length ≤ excerptLimit) :
    excerpt body = String.ofList (body.toList.filter isPrintable) := by
  rw [excerpt_eq, sizeNote, if_pos h, String.append_empty, opening, List.take_of_length_le]
  rwa [String.length_toList]

theorem excerpt_of_long {body : String} (h : excerptLimit < body.length) :
    excerpt body = opening body ++ s!"... [truncated, {body.utf8ByteSize} bytes total]" := by
  rw [excerpt_eq, sizeNote_of_long h]

/-- Of a long body an excerpt depends on the start and the size only. -/
theorem excerpt_congr {body other : String} (hbody : excerptLimit < body.length)
    (hother : excerptLimit < other.length)
    (hstart : body.toList.take excerptLimit = other.toList.take excerptLimit)
    (hsize : body.utf8ByteSize = other.utf8ByteSize) : excerpt body = excerpt other := by
  rw [excerpt_of_long hbody, excerpt_of_long hother, opening, opening, hstart, hsize]

/-- The excerpt of every body. It is printable. Of a body of at most 200 characters it has the
printable ones; of a longer body it has the printable ones among the first 200 and a note on the
size in UTF-8, so nothing else behind them is told: two long bodies with the same start and the same
size have the same excerpt. The start that is taken ends between two characters of the body. -/
theorem excerpt_exact (body : String) :
    let printable (cs : List Char) :=
      String.ofList (cs.filter fun c ↦ 0x20 ≤ c.toNat ∧ c.toNat ≤ 0x7E)
    AllPrintable (excerpt body) ∧
    (body.length ≤ 200 → excerpt body = printable body.toList) ∧
    (200 < body.length → excerpt body = printable (body.toList.take 200) ++
      s!"... [truncated, {body.utf8ByteSize} bytes total]") ∧
    (∀ other : String, 200 < body.length → 200 < other.length →
      body.toList.take 200 = other.toList.take 200 → body.utf8ByteSize = other.utf8ByteSize →
      excerpt body = excerpt other) ∧
    (String.Pos.Raw.mk (Utf8.size (body.toList.take 200))).IsValid body := by
  intro printable
  exact ⟨allPrintable_excerpt body, excerpt_of_short, excerpt_of_long, fun other ↦ excerpt_congr,
    Utf8.isValid_size_take body 200⟩

/-- A line break and a letter with an accent are left out without a mark. -/
example : excerpt "no\nsuch café" = "nosuch caf" := by decide +kernel

end BrokerControl.Printable
