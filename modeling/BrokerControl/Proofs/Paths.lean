import BrokerControl.Parameter.Path
import BrokerControl.Proofs.Fields

/-!
# Laws of paths

A path is a lens into bodies. Two paths are `Path.Apart` if neither leads through the other:
writing at one of them is not seen by reading at the other (`Path.read_write_of_apart`), and the
order of two writes does not matter (`Path.write_comm`). A path that leads on from another one reads
in the object that stands there (`Path.read_of_append`). All of it holds whatever stands in the body
before; `Path.lens_laws` has the laws together.
-/

namespace BrokerControl

namespace Path

/-- Neither path leads to or through the other. -/
def Apart (p q : Path) : Prop := ¬ p.segments <+: q.segments ∧ ¬ q.segments <+: p.segments

instance (p q : Path) : Decidable (p.Apart q) := inferInstanceAs (Decidable (_ ∧ _))

theorem Apart.symm {p q : Path} (h : p.Apart q) : q.Apart p := ⟨h.2, h.1⟩

/-! ### The object under a key -/

@[simp] theorem readAt_nil (key : String) (below : List String) : readAt key below [] = none := by
  cases below <;> rfl

/-- Reading below a key is reading in the object under it. -/
theorem readAt_cons (key next : String) (below : List String) (body : Object) :
    readAt key (next :: below) body = readAt next below (child body key) := by
  rw [readAt, child]
  cases (Object.get? body key).bind Json.object? with
  | none => simp
  | some fields => rfl

@[simp] theorem child_insert_object (body : Object) (key : String) (fields : Object) :
    child (Object.insert body key (.object fields)) key = fields := by
  simp [child, Json.object?]

theorem child_insert_of_ne (body : Object) {key k : String} (v : Json) (h : k ≠ key) :
    child (Object.insert body key v) k = child body k := by
  rw [child, Object.get?_insert_of_ne body v h, ← child]

/-- Reading further on below a key is reading in the object that is found there. -/
theorem readAt_append (key : String) (below : List String) (next : String) (more : List String)
    (body : Object) :
    readAt key (below ++ next :: more) body =
      ((readAt key below body).bind Json.object?).bind (readAt next more) := by
  induction below generalizing key body with
  | nil => rfl
  | cons first below ih =>
      rw [List.cons_append, readAt_cons, readAt_cons]
      exact ih first (child body key)

/-- Where something is read below a key, every key on the way leads to something. -/
theorem isSome_readAt_of_append {key : String} (below : List String) {more : List String}
    {body : Object} (h : (readAt key (below ++ more) body).isSome) :
    (readAt key below body).isSome := by
  cases more with
  | nil => rwa [List.append_nil] at h
  | cons next more =>
      rw [readAt_append] at h
      exact Option.isSome_of_isSome_bind (Option.isSome_of_isSome_bind h)

/-! ### Writing and reading elsewhere -/

/-- Writing below `j` is not seen below `k` where the ways part. -/
theorem readAt_writeAt_of_apart (v : Json) {j k : String} {below other : List String}
    (hj : ¬ j :: below <+: k :: other) (hk : ¬ k :: other <+: j :: below) (body : Object) :
    readAt k other (writeAt v j below body) = readAt k other body := by
  induction below generalizing j k other body with
  | nil =>
      have hne : k ≠ j := by
        rintro rfl
        exact hj (List.prefix_append [k] other)
      cases other with
      | nil => simp [readAt, writeAt, Object.get?_insert_of_ne body _ hne]
      | cons next other => simp [readAt_cons, writeAt, child_insert_of_ne body _ hne]
  | cons next below ih =>
      by_cases hne : k = j
      · subst hne
        cases other with
        | nil => exact absurd (List.prefix_append [k] (next :: below)) hk
        | cons next' other =>
            -- The first keys agree, so the ways part in the object under them.
            rw [List.prefix_cons_inj] at hj hk
            rw [writeAt, readAt_cons, readAt_cons, child_insert_object]
            exact ih hj hk (child body k)
      · cases other with
        | nil => simp [readAt, writeAt, Object.get?_insert_of_ne body _ hne]
        | cons next' other => simp [readAt_cons, writeAt, child_insert_of_ne body _ hne]

/-- Writing at a path is not seen at a path apart from it. -/
theorem read_write_of_apart {p q : Path} (h : p.Apart q) (v : Json) (body : Object) :
    q.read (p.write v body) = q.read body :=
  readAt_writeAt_of_apart v h.1 h.2 body

/-! ### The order of writes -/

/-- The order of two writes does not matter where the ways part. -/
theorem writeAt_comm (v w : Json) {j k : String} {below other : List String}
    (hj : ¬ j :: below <+: k :: other) (hk : ¬ k :: other <+: j :: below) (body : Object) :
    writeAt w k other (writeAt v j below body) = writeAt v j below (writeAt w k other body) := by
  induction below generalizing j k other body with
  | nil =>
      have hne : j ≠ k := by
        rintro rfl
        exact hj (List.prefix_append [j] other)
      cases other with
      | nil => exact Object.insert_comm hne v w body
      | cons next other =>
          simp only [writeAt, child_insert_of_ne body v hne.symm]
          exact Object.insert_comm hne _ _ body
  | cons next below ih =>
      by_cases hne : j = k
      · subst hne
        cases other with
        | nil => exact absurd (List.prefix_append [j] (next :: below)) hk
        | cons next' other =>
            rw [List.prefix_cons_inj] at hj hk
            simp only [writeAt, child_insert_object, Object.insert_insert]
            rw [ih hj hk]
      · cases other with
        | nil =>
            simp only [writeAt, child_insert_of_ne body w hne]
            exact Object.insert_comm hne _ _ body
        | cons next' other =>
            simp only [writeAt, child_insert_of_ne body _ hne,
              child_insert_of_ne body _ (Ne.symm hne)]
            exact Object.insert_comm hne _ _ body

/-- Writes at paths that are apart can be made in either order. -/
theorem write_comm {p q : Path} (h : p.Apart q) (v w : Json) (body : Object) :
    q.write w (p.write v body) = p.write v (q.write w body) :=
  writeAt_comm v w h.1 h.2 body

/-! ### Writing again -/

/-- Of two writes at one place the second one stays. -/
theorem writeAt_writeAt (v w : Json) (key : String) (below : List String) (body : Object) :
    writeAt w key below (writeAt v key below body) = writeAt w key below body := by
  induction below generalizing key body with
  | nil => exact Object.insert_insert body key v w
  | cons next below ih =>
      simp only [writeAt, child_insert_object, Object.insert_insert]
      rw [ih]

/-- Of two writes at a path the second one stays. -/
theorem write_write (p : Path) (v w : Json) (body : Object) :
    p.write w (p.write v body) = p.write w body :=
  writeAt_writeAt v w p.root p.below body

/-- Writing what is read there already changes nothing. -/
theorem writeAt_of_readAt {key : String} {below : List String} {v : Json} {body : Object}
    (h : readAt key below body = some v) : writeAt v key below body = body := by
  induction below generalizing key body with
  | nil => exact Object.insert_of_get? h
  | cons next below ih =>
      -- The way goes on, so it is an object that stands under the key.
      obtain ⟨fields, hobject, hread⟩ := Option.bind_eq_some_iff.mp h
      obtain ⟨u, hget, hu⟩ := Option.bind_eq_some_iff.mp hobject
      obtain rfl := Json.object?_eq_some_iff.mp hu
      have hchild : child body key = fields := by rw [child, hobject, Option.getD_some]
      rw [writeAt, hchild, ih hread]
      exact Object.insert_of_get? hget

/-- Writing at a path what is read there already changes nothing. -/
theorem write_of_read {p : Path} {v : Json} {body : Object} (h : p.read body = some v) :
    p.write v body = body :=
  writeAt_of_readAt h

/-! ### Paths that lead on -/

/-- A path that leads on from another one reads in the object that the first one finds. -/
theorem read_of_append {p q r : Path} (h : q.segments = p.segments ++ r.segments)
    (body : Object) : q.read body = ((p.read body).bind Json.object?).bind r.read := by
  obtain ⟨root, below⟩ := q
  obtain ⟨hroot, hbelow⟩ := List.cons.inj h
  obtain rfl : root = p.root := hroot
  obtain rfl : below = p.below ++ r.segments := hbelow
  exact readAt_append p.root p.below r.root r.below body

/-- Below a written value, what is read is what is read in this value. -/
theorem read_write_of_append {p q r : Path} (h : q.segments = p.segments ++ r.segments) (v : Json)
    (body : Object) : q.read (p.write v body) = v.object?.bind r.read := by
  rw [read_of_append h, read_write, Option.bind_some]

/-- A path is a lens, whatever stands in the body before and however far the path goes. What is
written is read, the second of two writes stays, and writing what is read changes nothing. Where
another path is apart, a write is not seen there and the order of two writes does not matter. Where
another path leads on, it reads in what was written if that is an object, and otherwise nothing. -/
theorem lens_laws (p : Path) (v w : Json) (body : Object) :
    p.read (p.write v body) = some v ∧
    p.write w (p.write v body) = p.write w body ∧
    (p.read body = some v → p.write v body = body) ∧
    (∀ q : Path, p.Apart q → q.read (p.write v body) = q.read body ∧
      p.write v (q.write w body) = q.write w (p.write v body)) ∧
    ∀ q r : Path, q.segments = p.segments ++ r.segments →
      (∀ fields, v = .object fields → q.read (p.write v body) = r.read fields) ∧
      ((∀ fields, v ≠ .object fields) → q.read (p.write v body) = none) := by
  refine ⟨read_write p v body, write_write p v w body, write_of_read, ?_, ?_⟩
  · intro q hapart
    exact ⟨read_write_of_apart hapart v body, (write_comm hapart v w body).symm⟩
  · intro q r happend
    rw [read_write_of_append happend]
    constructor
    · rintro fields rfl
      rfl
    · intro hno
      cases v with
      | object fields => exact absurd rfl (hno fields)
      | _ => rfl

/-- A scalar on the way is replaced, and what is apart is absent before and after. -/
example :
    let audit : Path := ⟨"Logs", ["Audit"]⟩
    let body : Object := [("Logs", .bool true)]
    audit.write (.bool false) body = [("Logs", .object [("Audit", .bool false)])] ∧
      Path.read ⟨"Logs", ["General"]⟩ body = none := ⟨rfl, rfl⟩

end Path

end BrokerControl
