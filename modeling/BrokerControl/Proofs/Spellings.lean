import BrokerControl.Parameter.Table
import BrokerControl.Proofs.Paths
import Mathlib.Data.String.Basic

/-!
# Texts of paths

A text spells a path by its keys, with a slash between each two. The keys that can be spelled are
those without slashes, none of them empty and at least one (`Path.Spellable`), and a text spells one
list of them at most. Reading accepts exactly what is spelled (`Path.ofText_eq_ok_iff`), so it
refuses exactly the texts that have an empty key at one of their ends or inside
(`Path.spelling_exact`).
-/

namespace BrokerControl

namespace Path

variable {spec key : String} {keys : List String} {p : Path}

/-! ### Pieces -/

/-- What stands between the slashes of a text. -/
def pieces (spec : String) : List String :=
  (Pieces.split separator spec.toList).map String.ofList

theorem pieces_ne_nil (spec : String) : pieces spec ≠ [] :=
  mt List.map_eq_nil_iff.mp (Pieces.split_ne_nil separator spec.toList)

theorem notMem_of_mem_pieces (h : key ∈ pieces spec) : separator ∉ key.toList := by
  obtain ⟨piece, hpiece, rfl⟩ := List.mem_map.mp h
  rw [String.toList_ofList]
  exact Pieces.notMem_of_mem_split hpiece

theorem map_toList_pieces (spec : String) :
    (pieces spec).map String.toList = spec.toList.splitOn separator := by
  rw [pieces, List.map_map, ← Pieces.split_eq_splitOn]
  exact List.map_id'' (fun _ ↦ String.toList_ofList) _

/-- A text is put together again by its pieces. -/
theorem intercalate_pieces (spec : String) : "/".intercalate (pieces spec) = spec := by
  rw [← String.toList_inj, String.toList_intercalate, map_toList_pieces]
  exact List.intercalate_splitOn separator

/-- Keys without slashes are the pieces of the text that they make. -/
theorem pieces_intercalate (hne : keys ≠ []) (h : ∀ key ∈ keys, separator ∉ key.toList) :
    pieces ("/".intercalate keys) = keys := by
  refine List.map_injective_iff.mpr (fun s t hst ↦ String.toList_inj.mp hst) ?_
  show (pieces _).map String.toList = keys.map String.toList
  rw [map_toList_pieces, String.toList_intercalate]
  refine List.splitOn_intercalate separator ?_ (mt List.map_eq_nil_iff.mp hne)
  exact List.forall_mem_map.mpr h

theorem pieces_eq_iff : pieces spec = keys ↔
    keys ≠ [] ∧ (∀ key ∈ keys, separator ∉ key.toList) ∧ "/".intercalate keys = spec := by
  constructor
  · rintro rfl
    exact ⟨pieces_ne_nil spec, fun key ↦ notMem_of_mem_pieces, intercalate_pieces spec⟩
  · rintro ⟨hne, hkeys, rfl⟩
    exact pieces_intercalate hne hkeys

/-! ### Empty pieces -/

/-- A slash ends a piece, whatever stands on both sides of it. -/
theorem pieces_append (s t : String) : pieces (s ++ "/" ++ t) = pieces s ++ pieces t := by
  have hchars : (s ++ "/" ++ t).toList = s.toList ++ separator :: t.toList := by
    simp [separator]
  rw [pieces, pieces, pieces, Pieces.split_eq_splitOn, Pieces.split_eq_splitOn,
    Pieces.split_eq_splitOn, hchars, List.splitOn_append_cons_self, List.map_append]

theorem pieces_empty : pieces "" = [""] := rfl

/-- Between two slashes side by side there is nothing. -/
theorem append_slashes (s t : String) : s ++ "//" ++ t = s ++ "/" ++ ("" ++ "/" ++ t) := by
  simp [← String.toList_inj]

/-- `Gap spec` says that a text has nothing between its slashes somewhere: it is empty, it starts or
ends with a slash, or two slashes stand side by side in it. -/
def Gap (spec : String) : Prop :=
  spec = "" ∨ (∃ rest, spec = "/" ++ rest) ∨ (∃ start, spec = start ++ "/") ∨
    ∃ start rest, spec = start ++ "//" ++ rest

/-- A piece of a text is empty exactly if there is a gap. -/
theorem empty_mem_pieces_iff : "" ∈ pieces spec ↔ Gap spec := by
  constructor
  · intro h
    obtain ⟨before, after, hpieces⟩ := List.append_of_mem h
    have hspec := intercalate_pieces spec
    rw [hpieces] at hspec
    -- The pieces on both sides of the empty one tell where the slashes stand.
    rcases eq_or_ne before [] with rfl | hbefore <;> rcases eq_or_ne after [] with rfl | hafter
    · exact .inl hspec.symm
    · refine .inr (.inl ⟨"/".intercalate after, ?_⟩)
      rw [← hspec, List.nil_append, String.intercalate_cons_of_ne_nil hafter, String.empty_append]
    · refine .inr (.inr (.inl ⟨"/".intercalate before, ?_⟩))
      rw [← hspec, String.intercalate_append_of_ne_nil hbefore (List.cons_ne_nil _ _),
        String.intercalate_singleton, String.append_empty]
    · refine .inr (.inr (.inr ⟨"/".intercalate before, "/".intercalate after, ?_⟩))
      rw [← hspec, String.intercalate_append_of_ne_nil hbefore (List.cons_ne_nil _ _),
        String.intercalate_cons_of_ne_nil hafter, append_slashes]
  · rintro (rfl | ⟨rest, rfl⟩ | ⟨start, rfl⟩ | ⟨start, rest, rfl⟩)
    · exact List.mem_singleton.mpr rfl
    · have hpieces := pieces_append "" rest
      rw [String.empty_append] at hpieces
      rw [hpieces, pieces_empty]
      exact List.mem_cons_self
    · have hpieces := pieces_append start ""
      rw [String.append_empty] at hpieces
      rw [hpieces, pieces_empty]
      exact List.mem_append_right _ (List.mem_singleton.mpr rfl)
    · rw [append_slashes, pieces_append, pieces_append, pieces_empty]
      simp

/-! ### Reading -/

/-- Keys that a text can spell. -/
structure Spellable (keys : List String) : Prop where
  /-- There is one. -/
  ne_nil : keys ≠ []
  /-- None of them is empty. -/
  ne_empty : ∀ key ∈ keys, key ≠ ""
  /-- None of them has a slash in it. -/
  notMem : ∀ key ∈ keys, separator ∉ key.toList

/-- Keys are spelled by a text exactly if they are its pieces, none of them empty. -/
theorem spelled_iff : Spellable keys ∧ "/".intercalate keys = spec ↔
    pieces spec = keys ∧ "" ∉ keys := by
  rw [pieces_eq_iff]
  constructor
  · intro ⟨h, hspec⟩
    exact ⟨⟨h.ne_nil, h.notMem, hspec⟩, fun hempty ↦ h.ne_empty "" hempty rfl⟩
  · intro ⟨⟨hne, hkeys, hspec⟩, hempty⟩
    exact ⟨⟨hne, fun key hkey h ↦ hempty (h ▸ hkey), hkeys⟩, hspec⟩

theorem any_isEmpty_split_iff :
    (Pieces.split separator spec.toList).any List.isEmpty = true ↔ "" ∈ pieces spec := by
  simp only [List.any_eq_true, List.isEmpty_iff, pieces, List.mem_map]
  refine exists_congr fun piece ↦ and_congr_right fun _ ↦ ?_
  exact ⟨fun h ↦ h ▸ rfl, fun h ↦ String.ofList_injective h⟩

theorem parse?_of_empty (h : "" ∈ pieces spec) : parse? spec = none :=
  if_pos (any_isEmpty_split_iff.mpr h)

theorem parse?_of_pieces (h : "" ∉ pieces spec) (hp : pieces spec = p.segments) :
    parse? spec = some p := by
  unfold parse?
  rw [if_neg (any_isEmpty_split_iff.not.mpr h), ← pieces, hp]
  rfl

/-- Paths are told apart by their keys. -/
theorem segments_inj {q : Path} : p.segments = q.segments ↔ p = q := by
  cases p
  cases q
  simp [segments]

theorem exists_segments (hne : keys ≠ []) : ∃ p : Path, p.segments = keys := by
  cases keys with
  | nil => exact absurd rfl hne
  | cons root below => exact ⟨⟨root, below⟩, rfl⟩

theorem parse?_eq_some_iff : parse? spec = some p ↔
    Spellable p.segments ∧ "/".intercalate p.segments = spec := by
  rw [spelled_iff]
  by_cases hempty : "" ∈ pieces spec
  · rw [parse?_of_empty hempty]
    exact iff_of_false nofun fun ⟨hpieces, hnot⟩ ↦ hnot (hpieces ▸ hempty)
  · obtain ⟨q, hq⟩ := exists_segments (pieces_ne_nil spec)
    rw [parse?_of_pieces hempty hq.symm, Option.some.injEq, ← segments_inj, hq]
    exact ⟨fun h ↦ ⟨h, h ▸ hempty⟩, And.left⟩

theorem parse?_eq_none_iff : parse? spec = none ↔ Gap spec := by
  rw [← empty_mem_pieces_iff]
  refine ⟨fun hnone ↦ ?_, parse?_of_empty⟩
  by_contra hempty
  obtain ⟨p, hp⟩ := exists_segments (pieces_ne_nil spec)
  rw [parse?_of_pieces hempty hp.symm] at hnone
  cases hnone

/-- A text is read as a path exactly if it spells the keys of the path. -/
theorem ofText_eq_ok_iff : ofText spec = .ok p ↔
    Spellable p.segments ∧ "/".intercalate p.segments = spec := by
  rw [← parse?_eq_some_iff, ofText]
  cases parse? spec <;> simp

/-- A text is refused exactly if it has a gap, and then it is told in the refusal. -/
theorem ofText_eq_error_iff {message : String} :
    ofText spec = .error message ↔ Gap spec ∧ message = refusal spec := by
  rw [← parse?_eq_none_iff, ofText]
  cases parse? spec <;> simp [eq_comm]

theorem text_eq_intercalate (p : Path) : p.text = "/".intercalate p.segments := by
  rw [text, Pieces.join_eq_intercalate, ← String.toList_inj, String.toList_ofList,
    String.toList_intercalate]
  rfl

/-! ### Lists of keys -/

/-- Changes the object that keys lead to, making objects on the way. -/
def changeAt (change : Object → Object) : List String → Object → Object
  | [], body => change body
  | key :: keys, body => Object.insert body key (.object (changeAt change keys (child body key)))

/-- The object that keys lead to. -/
def objectAt? : List String → Object → Option Object
  | [], body => some body
  | key :: keys, body => ((Object.get? body key).bind Json.object?).bind (objectAt? keys)

/-- Sets a value under the last of some keys, in the object that the keys before it lead to. Where
there is no last key, nothing is set. -/
def writeAlong (keys : List String) (value : Json) (body : Object) : Object :=
  match keys.getLast? with
  | none => body
  | some leaf => changeAt (fun inner ↦ Object.insert inner leaf value) keys.dropLast body

/-- What stands under the last of some keys, in the object that the keys before it lead to. Where
there is no last key, nothing is found. -/
def readAlong (keys : List String) (body : Object) : Option Json :=
  match keys.getLast? with
  | none => none
  | some leaf => (objectAt? keys.dropLast body).bind (Object.get? · leaf)

theorem getLast?_segments (p : Path) : ∃ leaf, p.segments.getLast? = some leaf :=
  ⟨_, List.getLast?_eq_some_getLast (List.cons_ne_nil p.root p.below)⟩

theorem writeAlong_cons_cons (key next : String) (keys : List String) (value : Json)
    (body : Object) : writeAlong (key :: next :: keys) value body =
      Object.insert body key (.object (writeAlong (next :: keys) value (child body key))) := by
  obtain ⟨leaf, hleaf⟩ := getLast?_segments ⟨next, keys⟩
  have hleaf' : (next :: keys).getLast? = some leaf := hleaf
  rw [writeAlong, writeAlong, List.getLast?_cons_cons, hleaf', List.dropLast_cons_cons]
  rfl

theorem readAlong_cons_cons (key next : String) (keys : List String) (body : Object) :
    readAlong (key :: next :: keys) body =
      ((Object.get? body key).bind Json.object?).bind (readAlong (next :: keys)) := by
  obtain ⟨leaf, hleaf⟩ := getLast?_segments ⟨next, keys⟩
  have hleaf' : (next :: keys).getLast? = some leaf := hleaf
  unfold readAlong
  rw [List.getLast?_cons_cons, hleaf', List.dropLast_cons_cons]
  exact Option.bind_assoc _ _ _

/-- Writing at a path is writing along its keys. -/
theorem writeAlong_segments (p : Path) (value : Json) (body : Object) :
    writeAlong p.segments value body = p.write value body := by
  obtain ⟨root, below⟩ := p
  show writeAlong (root :: below) value body = writeAt value root below body
  induction below generalizing root body with
  | nil => rfl
  | cons next below ih => rw [writeAlong_cons_cons, ih, writeAt]

/-- Reading at a path is reading along its keys. -/
theorem readAlong_segments (p : Path) (body : Object) :
    readAlong p.segments body = p.read body := by
  obtain ⟨root, below⟩ := p
  show readAlong (root :: below) body = readAt root below body
  induction below generalizing root body with
  | nil => rfl
  | cons next below ih =>
      rw [readAlong_cons_cons, readAt]
      exact congrArg _ (funext fun fields ↦ ih fields next)

/-- Reading texts as paths, for every text. It is accepted exactly if it joins keys with slashes, at
least one key, none of them empty and none with a slash in it. The keys are then those of the path
and no others, so joining them gives the text back, and keys that are joined are read back. All
other texts have a gap and are refused. The keys of a path that was read have a first and a last one,
so writing and reading along them are never left without a key. -/
theorem spelling_exact (spec : String) :
    ((∃ p, ofText spec = .ok p) ↔ ∃ keys, Spellable keys ∧ "/".intercalate keys = spec) ∧
    (∀ p, ofText spec = .ok p →
      (Spellable p.segments ∧ "/".intercalate p.segments = spec ∧ p.text = spec) ∧
      (∀ keys, Spellable keys → "/".intercalate keys = spec → keys = p.segments) ∧
      (p.segments.head? = some p.root ∧ ∃ leaf, p.segments.getLast? = some leaf) ∧
      ∀ value body, writeAlong p.segments value body = p.write value body ∧
        readAlong p.segments body = p.read body ∧
        readAlong p.segments (writeAlong p.segments value body) = some value) ∧
    (∀ keys, Spellable keys → ∃ p, ofText ("/".intercalate keys) = .ok p ∧ p.segments = keys) ∧
    (∀ message, ofText spec = .error message ↔ Gap spec ∧ message = refusal spec) ∧
    ((∀ c ∈ spec.toList, c = separator) → Gap spec) := by
  refine ⟨?_, ?_, ?_, fun message ↦ ofText_eq_error_iff, ?_⟩
  · constructor
    · rintro ⟨p, hp⟩
      exact ⟨p.segments, ofText_eq_ok_iff.mp hp⟩
    · rintro ⟨keys, hkeys, hspec⟩
      obtain ⟨p, rfl⟩ := exists_segments hkeys.ne_nil
      exact ⟨p, ofText_eq_ok_iff.mpr ⟨hkeys, hspec⟩⟩
  · intro p hp
    have hspelled := ofText_eq_ok_iff.mp hp
    refine ⟨⟨hspelled.1, hspelled.2, ?_⟩, ?_, ⟨rfl, getLast?_segments p⟩, ?_⟩
    · rw [text_eq_intercalate, hspelled.2]
    · intro keys hkeys hspec
      -- Both lists are the pieces of the text.
      exact (spelled_iff.mp ⟨hkeys, hspec⟩).1.symm.trans (spelled_iff.mp hspelled).1
    · intro value body
      refine ⟨writeAlong_segments p value body, readAlong_segments p body, ?_⟩
      rw [writeAlong_segments, readAlong_segments, read_write]
  · intro keys hkeys
    obtain ⟨p, rfl⟩ := exists_segments hkeys.ne_nil
    exact ⟨p, ofText_eq_ok_iff.mpr ⟨hkeys, rfl⟩, rfl⟩
  · intro hslashes
    cases hchars : spec.toList with
    | nil => exact .inl (String.toList_eq_nil_iff.mp hchars)
    | cons c rest =>
        rw [hchars] at hslashes
        obtain rfl : c = separator := hslashes c List.mem_cons_self
        refine .inr (.inl ⟨String.ofList rest, ?_⟩)
        rw [← String.toList_inj, hchars, String.toList_append]
        exact congrArg (separator :: ·) String.toList_ofList.symm

end Path

/-- Every path of the standard table is the one that its text spells. -/
theorem Table.standard_ofText :
    ∀ entry ∈ Table.standard.paths, Path.ofText entry.2.text = .ok entry.2 := by
  have hkeys : ∀ entry ∈ Table.standard.paths, ∀ key ∈ entry.2.segments,
      key ≠ "" ∧ Path.separator ∉ key.toList := by decide +kernel
  intro entry hentry
  rw [Path.ofText_eq_ok_iff]
  refine ⟨⟨List.cons_ne_nil _ _, ?_, ?_⟩, (Path.text_eq_intercalate entry.2).symm⟩
  · exact fun key hkey ↦ (hkeys entry hentry key hkey).1
  · exact fun key hkey ↦ (hkeys entry hentry key hkey).2

end BrokerControl
