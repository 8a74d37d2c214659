import BrokerControl.Proofs.Routes

/-!
# Segments of a path

How the path of a URL comes from its segments: dot segments are resolved, and the others are kept
(`Url.resolve_of_isKept`). A path that ends in no slash goes on with further segments behind its own
(`Url.resolve_append`, `Url.stem_resolve`).
-/

namespace BrokerControl

namespace Pieces

/-- The last piece of a text ends as the text does. -/
theorem exists_concat {separator c : Char} (h : c ≠ separator) (cs : List Char) :
    ∃ front piece, split separator (cs ++ [c]) = front ++ [piece ++ [c]] := by
  induction cs with
  | nil => exact ⟨[], [], by simp [split, h]⟩
  | cons d cs ih =>
      obtain ⟨front, piece, hsplit⟩ := ih
      rw [List.cons_append, split, hsplit]
      by_cases hd : d = separator
      · exact ⟨[] :: front, piece, if_pos hd⟩
      · rw [if_neg hd]
        cases front with
        | nil => exact ⟨[], d :: piece, rfl⟩
        | cons first front => exact ⟨(d :: first) :: front, piece, rfl⟩

end Pieces

namespace Url

open Endpoint (IsSegment)

variable {before segments : List (List Char)} {s : List Char}

/-! ### Dot segments -/

theorem plainDots_eq_nil (h : plainDots s = []) : s = [] := by
  rw [plainDots.eq_def] at h
  split at h
  · cases h
  · cases h
  · cases h
  · rfl

/-- A dot in a segment is a dot in the text that the segment stands for. -/
theorem decode_of_plainDots {dots : List Char} (h : plainDots s = '.' :: dots) :
    ∃ rest, plainDots rest = dots ∧ Percent.decode s = 0x2E :: Percent.decode rest := by
  rw [plainDots.eq_def] at h
  split at h
  · exact ⟨_, (List.cons.inj h).2, rfl⟩
  · exact ⟨_, (List.cons.inj h).2, rfl⟩
  · obtain ⟨rfl, hdots⟩ := List.cons.inj h
    exact ⟨_, hdots, Percent.decode_cons_of_ne (by decide) _⟩
  · cases h

theorem decode_of_isSingleDot (h : isSingleDot s = true) :
    Percent.decode s = Utf8.encode ['.'] := by
  obtain ⟨rest, hrest, hdecode⟩ := decode_of_plainDots (beq_iff_eq.mp h)
  rw [hdecode, plainDots_eq_nil hrest]
  rfl

theorem decode_of_isDoubleDot (h : isDoubleDot s = true) :
    Percent.decode s = Utf8.encode ['.', '.'] := by
  obtain ⟨rest, hrest, hdecode⟩ := decode_of_plainDots (beq_iff_eq.mp h)
  obtain ⟨rest', hrest', hdecode'⟩ := decode_of_plainDots hrest
  rw [hdecode, hdecode', plainDots_eq_nil hrest']
  rfl

/-- `IsKept s` says that a path keeps the segment `s` as it stands. -/
structure IsKept (s : List Char) : Prop where
  single : isSingleDot s = false
  double : isDoubleDot s = false
  kept : ∀ c ∈ s, keptInPath c = true

theorem addSegment_of_isKept (h : IsKept s) (last : Bool) :
    addSegment false before s last = before ++ [s] := by
  rw [addSegment, h.double, h.single, Percent.encodeWith_of_kept h.kept]
  rfl

theorem resolve_of_isKept (h : ∀ s ∈ segments, IsKept s) :
    resolve false before segments = before ++ segments := by
  induction segments generalizing before with
  | nil => rw [resolve, List.append_nil]
  | cons s segments ih =>
      obtain ⟨hs, hsegments⟩ := List.forall_mem_cons.mp h
      cases segments with
      | nil => exact addSegment_of_isKept hs true
      | cons s' segments =>
          show resolve false (addSegment false before s false) (s' :: segments) = _
          rw [addSegment_of_isKept hs, ih hsegments, List.append_assoc, List.singleton_append]

/-- Whether a character stays as it is in a segment, wherever the segment is read. -/
def isStable (c : Char) : Bool := keptInPath c && c != '/' && c != '\\' && !isTrimmed c

theorem isSegment_of_isStable (h : ∀ c ∈ s, isStable c = true) : IsSegment s := by
  intro c hc
  refine ⟨?_, ?_, ?_⟩
  all_goals
    rintro rfl
    exact absurd (h _ hc) (by decide)

theorem keptInPath_of_isStable {c : Char} (h : isStable c = true) : keptInPath c = true := by
  rw [isStable, Bool.and_eq_true, Bool.and_eq_true, Bool.and_eq_true] at h
  exact h.1.1.1

theorem isTrimmed_of_isStable {c : Char} (h : isStable c = true) : isTrimmed c = false := by
  rw [isStable, Bool.and_eq_true, Bool.not_eq_true'] at h
  exact h.2

/-- A path of stable characters is cut at its slashes only. -/
theorem cut_segments (h : ∀ t ∈ s :: segments, ∀ c ∈ t, isStable c = true) :
    cut true (s ++ segments.flatMap ('/' :: ·)) = s :: segments := by
  have hslashes : ∀ c ∈ (s :: segments).flatMap ('/' :: ·), c ≠ '\\' := by
    intro c hc
    obtain ⟨t, ht, hc⟩ := List.mem_flatMap.mp hc
    rcases List.mem_cons.mp hc with rfl | hc
    · decide
    · rintro rfl
      exact absurd (h t ht _ hc) (by decide)
  have hmap : (s ++ segments.flatMap ('/' :: ·)).map (fun c ↦ if c = '\\' then '/' else c) =
      s ++ segments.flatMap ('/' :: ·) :=
    (List.map_congr_left fun c hc ↦ if_neg (hslashes c (List.mem_cons_of_mem '/' hc))).trans
      (List.map_id _)
  have hsplit := Endpoint.split_segments fun t ht ↦ isSegment_of_isStable (h t ht)
  rw [List.flatMap_cons, List.cons_append, Pieces.split, if_pos rfl] at hsplit
  rw [cut, if_pos rfl, hmap, (List.cons.inj hsplit).2]

/-! ### Paths that go on -/

/-- A slash ends a segment, whatever stands on both sides of it. -/
theorem cut_append (cs more : List Char) :
    cut true (cs ++ '/' :: more) = cut true cs ++ cut true more := by
  rw [cut, cut, cut, if_pos rfl, if_pos rfl, if_pos rfl, List.map_append, List.map_cons,
    if_neg (by decide), Pieces.split_eq_splitOn, Pieces.split_eq_splitOn, Pieces.split_eq_splitOn,
    List.splitOn_append_cons_self]

/-- The segments of a path with more segments behind it. -/
def stepped (before segments : List (List Char)) : List (List Char) :=
  segments.foldl (fun path s ↦ addSegment false path s false) before

theorem resolve_append (before segments more : List (List Char)) (s : List Char) :
    resolve false before (segments ++ s :: more) =
      resolve false (stepped before segments) (s :: more) := by
  induction segments generalizing before with
  | nil => rfl
  | cons t segments ih =>
      obtain ⟨next, others, hnext⟩ : ∃ next others, segments ++ s :: more = next :: others :=
        List.exists_cons_of_ne_nil (List.append_ne_nil_of_right_ne_nil _ (List.cons_ne_nil _ _))
      rw [List.cons_append, hnext]
      show resolve false (addSegment false before t false) (next :: others) = _
      rw [← hnext, ih]
      rfl

/-- A path without a slash at its end. -/
def stem (path : String) : String :=
  String.ofList (if path.toList.getLast? = some '/' then path.toList.dropLast else path.toList)

theorem stem_of_getLast? {path : String} (h : path.toList.getLast? ≠ some '/') :
    stem path = path := by
  rw [stem, if_neg h, String.ofList_toList]

theorem stem_append_slash (path : String) : stem (path ++ "/") = path := by
  have hchars : (path ++ "/").toList = path.toList ++ ['/'] := by simp
  rw [stem, hchars, List.getLast?_concat, if_pos rfl, List.dropLast_concat, String.ofList_toList]

theorem pathOf_append (before segments : List (List Char)) :
    pathOf (before ++ segments) = pathOf before ++ pathOf segments := by
  rw [pathOf, List.flatMap_append, String.ofList_append]
  rfl

theorem pathOf_concat (before : List (List Char)) (s : List Char) :
    pathOf (before ++ [s]) = pathOf before ++ String.ofList ('/' :: s) := by
  have hsegment : pathOf [s] = String.ofList ('/' :: s) :=
    congrArg String.ofList (List.flatMap_singleton _ s)
  rw [pathOf_append, hsegment]

theorem pathOf_eq_empty_iff : pathOf segments = "" ↔ segments = [] := by
  cases segments with
  | nil => exact iff_of_true rfl rfl
  | cons s segments =>
      refine iff_of_false (fun h ↦ ?_) (List.cons_ne_nil _ _)
      cases (String.ofList_eq_empty_iff.mp h : '/' :: (s ++ segments.flatMap ('/' :: ·)) = [])

theorem getLast?_pathOf (before : List (List Char)) (hne : s ≠ []) :
    (pathOf (before ++ [s])).toList.getLast? = s.getLast? := by
  obtain rfl | ⟨front, c, rfl⟩ := List.eq_nil_or_concat s
  · exact absurd rfl hne
  · rw [pathOf_concat, String.toList_append, String.toList_ofList, List.concat_eq_append,
      ← List.cons_append, ← List.append_assoc, List.getLast?_concat, List.getLast?_concat]

/-- A path goes on behind its segments. Only a slash that a dot segment left at its end gives
way. -/
theorem stem_resolve (before front : List (List Char)) {last : List Char} (hne : last ≠ [])
    (hslash : '/' ∉ last) : stem (pathOf (resolve false before (front ++ [last]))) =
      pathOf (stepped before (front ++ [last])) := by
  have hsteps : stepped before (front ++ [last]) =
      addSegment false (stepped before front) last false := List.foldl_concat _ _ _ _
  rw [resolve_append, hsteps]
  show stem (pathOf (addSegment false (stepped before front) last true)) = _
  rw [addSegment, addSegment]
  by_cases hdouble : isDoubleDot last = true
  · rw [if_pos hdouble, if_pos hdouble]
    exact (congrArg stem (pathOf_concat _ [])).trans (stem_append_slash _)
  · rw [if_neg hdouble, if_neg hdouble]
    by_cases hsingle : isSingleDot last = true
    · rw [if_pos hsingle, if_pos hsingle]
      exact (congrArg stem (pathOf_concat _ [])).trans (stem_append_slash _)
    · rw [if_neg hsingle, if_neg hsingle]
      -- The segment is kept up to its last character, and that is no slash.
      refine stem_of_getLast? ?_
      show (pathOf (_ ++ [Percent.encodeWith keptInPath last])).toList.getLast? ≠ some '/'
      rw [getLast?_pathOf _ (Percent.encodeWith_ne_nil hne)]
      intro hend
      exact Percent.notMem_encodeWith (by decide) (by decide) hslash (List.mem_of_getLast? hend)

/-- A text that ends in no slash is cut into segments of which the last is not empty. -/
theorem exists_cut_concat {c : Char} (h : isSlash true c = false) (cs : List Char) :
    ∃ front last, cut true (cs ++ [c]) = front ++ [last] ∧ last ≠ [] ∧ '/' ∉ last := by
  have hc : c ≠ '/' ∧ c ≠ '\\' := by simpa [isSlash] using h
  have hcut : cut true (cs ++ [c]) =
      Pieces.split '/' (cs.map (fun c ↦ if c = '\\' then '/' else c) ++ [c]) := by
    rw [cut, if_pos rfl, List.map_append, List.map_singleton, if_neg hc.2]
  obtain ⟨front, piece, hsplit⟩ := Pieces.exists_concat hc.1 (cs.map _)
  have hmem : piece ++ [c] ∈
      Pieces.split '/' (cs.map (fun c ↦ if c = '\\' then '/' else c) ++ [c]) := by
    rw [hsplit]
    exact List.mem_append_right _ (List.mem_singleton.mpr rfl)
  exact ⟨front, piece ++ [c], hcut.trans hsplit,
    List.append_ne_nil_of_right_ne_nil _ (List.cons_ne_nil _ _), Pieces.notMem_of_mem_split hmem⟩

end Url

end BrokerControl
