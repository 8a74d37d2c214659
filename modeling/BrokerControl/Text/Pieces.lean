/-!
# Splitting texts

The pieces of a text between occurrences of a separator: always at least one, and none with a
separator in it. They are those of the library (`Pieces.split_eq_splitOn`).
-/

namespace BrokerControl.Pieces

/-- The pieces of `cs` between separators. -/
def split (separator : Char) : List Char → List (List Char)
  | [] => [[]]
  | c :: cs =>
    if c = separator then [] :: split separator cs
    else match split separator cs with
      | [] => [[c]]
      | piece :: more => (c :: piece) :: more

/-- The pieces with a separator between each two. -/
def join (separator : Char) : List (List Char) → List Char
  | [] => []
  | [piece] => piece
  | piece :: more => piece ++ separator :: join separator more

/-- There is at least one piece. -/
theorem split_ne_nil (separator : Char) (cs : List Char) : split separator cs ≠ [] := by
  cases cs with
  | nil => simp [split]
  | cons c cs => simp only [split]; split <;> (try split) <;> simp

/-- No piece has a separator in it. -/
theorem notMem_of_mem_split {separator : Char} {piece cs : List Char}
    (h : piece ∈ split separator cs) : separator ∉ piece := by
  induction cs generalizing piece with
  | nil =>
      obtain rfl : piece = [] := List.mem_singleton.mp h
      exact List.not_mem_nil
  | cons c cs ih =>
      rw [split] at h
      split at h
      · rcases List.mem_cons.mp h with rfl | hmem
        · exact List.not_mem_nil
        · exact ih hmem
      · next hc =>
          obtain ⟨first, more, hsplit⟩ := List.exists_cons_of_ne_nil (split_ne_nil separator cs)
          rw [hsplit] at h ih
          rcases List.mem_cons.mp h with rfl | hmem
          · rw [List.mem_cons, not_or]
            exact ⟨Ne.symm hc, ih List.mem_cons_self⟩
          · exact ih (List.mem_cons_of_mem _ hmem)

theorem split_eq_splitOn (separator : Char) (cs : List Char) :
    split separator cs = cs.splitOn separator := by
  induction cs with
  | nil => rfl
  | cons c cs ih =>
      rw [List.splitOn_cons_eq_if_modifyHead, split, ih]
      by_cases h : c = separator
      · rw [if_pos h, if_pos (beq_iff_eq.mpr h)]
      · obtain ⟨piece, more, hsplit⟩ :=
          List.exists_cons_of_ne_nil (List.splitOn_ne_nil separator cs)
        rw [if_neg h, if_neg (mt beq_iff_eq.mp h), hsplit]
        rfl

theorem join_eq_intercalate (separator : Char) (pieces : List (List Char)) :
    join separator pieces = [separator].intercalate pieces := by
  induction pieces with
  | nil => rfl
  | cons piece more ih =>
      cases more with
      | nil => exact List.intercalate_singleton.symm
      | cons next more =>
          rw [List.intercalate_cons_cons, ← ih, List.append_assoc]
          rfl

/-- What stands before the first separator. -/
def beforeFirst (separator : Char) (s : String) : String :=
  String.ofList (s.toList.takeWhile (· != separator))

/-- What stands after the last separator; the whole text if there is none. -/
def afterLast (separator : Char) (s : String) : String :=
  String.ofList ((s.toList.reverse.takeWhile (· != separator)).reverse)

end BrokerControl.Pieces
