import BrokerControl.Listing.Cursor
import Mathlib.Data.List.Nodup

/-!
# Any calls to a cursor

A cursor that is moved in place, whatever it is given and whatever it answered before. What each
call shows is its turn, and the turns of a cursor are its history. After each turn the cursor knows
nothing but the history: it has followed the tokens that were accepted, and it shows the one of the
last successful call (`Cursor.Remembers`). So the history alone tells how every call is answered,
and calls that failed leave no trace in it (`Cursor.history_exact`).
-/

namespace BrokerControl

namespace Cursor

variable {c : Cursor} {given : Option String} {t : String}

/-! ### Single calls -/

theorem follow_of_mem (h : t ∈ c.followed) :
    c.follow (some t) = (.error (.repeatedToken t), c) := by
  simp [follow, h]

theorem follow_of_notMem (h : t ∉ c.followed) :
    c.follow (some t) = (.ok true, ⟨some t, t :: c.followed⟩) := by
  simp [follow, h]

/-- A call that fails leaves the cursor as it was. -/
theorem follow_error {fault : Fault} (h : (c.follow given).1 = .error fault) :
    (c.follow given).2 = c := by
  cases given with
  | none => cases h
  | some t =>
      by_cases hold : t ∈ c.followed
      · rw [follow_of_mem hold]
      · rw [follow_of_notMem hold] at h
        cases h

/-! ### Histories -/

/-- What a call to a cursor shows. -/
structure Turn where
  /-- What the cursor was given. -/
  given : Option String
  /-- What it answered. -/
  answer : Except Fault Bool
  /-- The token that it showed then. -/
  token : Option String

/-- Whether the call was answered without a fault. -/
def Turn.succeeded (turn : Turn) : Bool := turn.answer.isOk

/-- The turns whose calls succeeded. -/
def successful (turns : List Turn) : List Turn := turns.filter Turn.succeeded

/-- The tokens of successful calls. -/
def accepted (turns : List Turn) : List String := (successful turns).filterMap Turn.given

/-- What the last successful call was given; nothing if no call succeeded. -/
def lastGiven (turns : List Turn) : Option String :=
  (successful turns).getLast?.bind Turn.given

/-- The turn of a call. -/
def turn (c : Cursor) (given : Option String) : Turn :=
  ⟨given, (c.follow given).1, (c.follow given).2.token⟩

/-- The turns of calls that are made one after the other. -/
def history (c : Cursor) : List (Option String) → List Turn
  | [] => []
  | given :: calls => c.turn given :: history (c.follow given).2 calls

/-- The cursor behind these calls. -/
def replay (c : Cursor) (calls : List (Option String)) : Cursor :=
  calls.foldl (fun c given ↦ (c.follow given).2) c

theorem replay_concat (c : Cursor) (calls : List (Option String)) (given : Option String) :
    c.replay (calls ++ [given]) = ((c.replay calls).follow given).2 :=
  List.foldl_concat _ _ _ _

variable {turns : List Turn}

theorem map_given_history (c : Cursor) (calls : List (Option String)) :
    (c.history calls).map Turn.given = calls := by
  induction calls generalizing c with
  | nil => rfl
  | cons given calls ih => exact congrArg (given :: ·) (ih (c.follow given).2)

/-- A turn in a history is that of the cursor behind the calls before it. -/
theorem exists_of_history_eq {calls : List (Option String)} {before later : List Turn}
    {turn : Turn} (h : c.history calls = before ++ turn :: later) :
    ∃ earlier given, before = c.history earlier ∧ turn = (c.replay earlier).turn given := by
  induction before generalizing c calls with
  | nil =>
      cases calls with
      | nil => cases h
      | cons given calls => exact ⟨[], given, rfl, (List.cons.inj h).1.symm⟩
  | cons first before ih =>
      cases calls with
      | nil => cases h
      | cons given calls =>
          obtain ⟨rfl, hrest⟩ := List.cons.inj h
          obtain ⟨earlier, next, rfl, hturn⟩ := ih hrest
          exact ⟨given :: earlier, next, rfl, hturn⟩

/-! ### What a cursor remembers -/

theorem succeeded_of_error {turn : Turn} {fault : Fault} (h : turn.answer = .error fault) :
    ¬ turn.succeeded = true := by
  rw [Turn.succeeded, h]
  exact Bool.false_ne_true

theorem succeeded_of_ok {turn : Turn} {more : Bool} (h : turn.answer = .ok more) :
    turn.succeeded = true := by
  rw [Turn.succeeded, h]
  rfl

theorem successful_concat_of_error {turn : Turn} {fault : Fault} (h : turn.answer = .error fault) :
    successful (turns ++ [turn]) = successful turns := by
  rw [successful, List.filter_append, List.filter_cons_of_neg (succeeded_of_error h)]
  exact List.append_nil _

theorem successful_concat_of_ok {turn : Turn} {more : Bool} (h : turn.answer = .ok more) :
    successful (turns ++ [turn]) = successful turns ++ [turn] := by
  rw [successful, List.filter_append, List.filter_cons_of_pos (succeeded_of_ok h)]
  rfl

theorem accepted_concat_of_ok {turn : Turn} {more : Bool} (h : turn.answer = .ok more) :
    accepted (turns ++ [turn]) = accepted turns ++ turn.given.toList := by
  rw [accepted, successful_concat_of_ok h, List.filterMap_append, ← accepted]
  cases hgiven : turn.given <;> simp [hgiven]

theorem lastGiven_concat_of_ok {turn : Turn} {more : Bool} (h : turn.answer = .ok more) :
    lastGiven (turns ++ [turn]) = turn.given := by
  rw [lastGiven, successful_concat_of_ok h, List.getLast?_concat, Option.bind_some]

/-- `c.Remembers turns` says what a cursor has kept of its history. -/
structure Remembers (c : Cursor) (turns : List Turn) : Prop where
  /-- It has followed the accepted tokens, the latest first. -/
  followed_eq : c.followed = (accepted turns).reverse
  /-- It has accepted no token twice. -/
  nodup : (accepted turns).Nodup
  /-- It shows what the last successful call was given. -/
  token_eq : c.token = lastGiven turns

theorem Remembers.mem_followed_iff (h : c.Remembers turns) :
    t ∈ c.followed ↔ t ∈ accepted turns := by
  rw [h.followed_eq, List.mem_reverse]

/-- One more call is remembered as well. -/
theorem Remembers.follow (h : c.Remembers turns) (given : Option String) :
    (c.follow given).2.Remembers (turns ++ [c.turn given]) := by
  cases given with
  | none =>
      have hok : (c.turn none).answer = .ok false := rfl
      have haccepted : accepted (turns ++ [c.turn none]) = accepted turns :=
        (accepted_concat_of_ok hok).trans (List.append_nil _)
      refine ⟨?_, ?_, (lastGiven_concat_of_ok hok).symm⟩
      · rw [haccepted]
        exact h.followed_eq
      · rw [haccepted]
        exact h.nodup
  | some t =>
      by_cases hold : t ∈ c.followed
      · -- The token came back: neither the cursor nor the successful turns change.
        have hfollow := follow_of_mem hold
        have hsame : successful (turns ++ [c.turn (some t)]) = successful turns :=
          successful_concat_of_error (congrArg Prod.fst hfollow)
        rw [hfollow]
        refine ⟨?_, ?_, ?_⟩
        · rw [accepted, hsame]
          exact h.followed_eq
        · rw [accepted, hsame]
          exact h.nodup
        · rw [lastGiven, hsame]
          exact h.token_eq
      · have hfollow := follow_of_notMem hold
        have hok : (c.turn (some t)).answer = .ok true := congrArg Prod.fst hfollow
        have haccepted : accepted (turns ++ [c.turn (some t)]) = accepted turns ++ [t] :=
          accepted_concat_of_ok hok
        rw [hfollow]
        refine ⟨?_, ?_, (lastGiven_concat_of_ok hok).symm⟩
        · rw [haccepted, List.reverse_concat, ← h.followed_eq]
        · rw [haccepted, ← List.concat_eq_append]
          exact h.nodup.concat (h.mem_followed_iff.not.mp hold)

/-- Any number of further calls is remembered as well. -/
theorem Remembers.replay (h : c.Remembers turns) (calls : List (Option String)) :
    (c.replay calls).Remembers (turns ++ c.history calls) := by
  induction calls generalizing c turns with
  | nil =>
      rw [history, List.append_nil]
      exact h
  | cons given calls ih =>
      have hlater := ih (h.follow given)
      rwa [List.append_assoc] at hlater

theorem remembers_start : start.Remembers [] := ⟨rfl, List.nodup_nil, rfl⟩

/-- A cursor remembers its whole history. -/
theorem remembers_history (calls : List (Option String)) :
    (start.replay calls).Remembers (start.history calls) :=
  remembers_start.replay calls

/-! ### Answers -/

/-- A token is refused exactly if it was accepted before. -/
theorem Remembers.answer_error_iff (h : c.Remembers turns) :
    (c.turn (some t)).answer = .error (.repeatedToken t) ↔ t ∈ accepted turns := by
  show (c.follow (some t)).1 = _ ↔ _
  rw [← h.mem_followed_iff]
  by_cases hold : t ∈ c.followed
  · simp [follow_of_mem hold, hold]
  · simp [follow_of_notMem hold, hold]

/-- Any other token is followed. -/
theorem Remembers.answer_ok_iff (h : c.Remembers turns) :
    (c.turn (some t)).answer = .ok true ↔ t ∉ accepted turns := by
  show (c.follow (some t)).1 = _ ↔ _
  rw [← h.mem_followed_iff]
  by_cases hold : t ∈ c.followed
  · simp [follow_of_mem hold, hold]
  · simp [follow_of_notMem hold, hold]

/-- Without its failed calls a cursor has the same history but for their turns, and ends the same. -/
theorem history_successful (c : Cursor) (calls : List (Option String)) :
    c.history ((successful (c.history calls)).map Turn.given) = successful (c.history calls) ∧
      c.replay ((successful (c.history calls)).map Turn.given) = c.replay calls := by
  induction calls generalizing c with
  | nil => exact ⟨rfl, rfl⟩
  | cons given calls ih =>
      cases hanswer : (c.follow given).1 with
      | error fault =>
          -- The rest of the calls is made to the same cursor.
          have hsame := follow_error hanswer
          have hdrop : successful (c.history (given :: calls)) = successful (c.history calls) := by
            rw [history, hsame]
            exact List.filter_cons_of_neg (succeeded_of_error hanswer)
          have hend : c.replay (given :: calls) = c.replay calls := by
            show (c.follow given).2.replay calls = _
            rw [hsame]
          rw [hdrop, hend]
          exact ih c
      | ok more =>
          obtain ⟨hhistory, hreplay⟩ := ih (c.follow given).2
          have hkeep : successful (c.history (given :: calls)) =
              c.turn given :: successful ((c.follow given).2.history calls) :=
            List.filter_cons_of_pos (succeeded_of_ok hanswer)
          rw [hkeep]
          exact ⟨congrArg (c.turn given :: ·) hhistory, hreplay⟩

/-- The whole life of a cursor, whatever it is given. No token is accepted twice. A call with a
token fails, with the fault that names it, exactly if the token was accepted before, and otherwise
answers that there is a further page; a call without one answers that there is none. At any time
the cursor shows what the last successful call was given. A failed call leaves the cursor as it was,
and without its failed calls the cursor answers all others the same. -/
theorem history_exact (calls : List (Option String)) :
    (start.history calls).map Turn.given = calls ∧
    let turns := start.history calls
    (accepted turns).Nodup ∧
    (∀ before turn later, turns = before ++ turn :: later →
      (∀ t, turn.given = some t →
        (turn.answer = .error (.repeatedToken t) ↔ t ∈ accepted before) ∧
        (turn.answer = .ok true ↔ t ∉ accepted before)) ∧
      (turn.given = none → turn.answer = .ok false) ∧
      turn.token = lastGiven (before ++ [turn])) ∧
    (start.replay calls).token = lastGiven turns ∧
    (∀ earlier given later, calls = earlier ++ given :: later →
      ∀ fault, ((start.replay earlier).turn given).answer = .error fault →
        start.replay (earlier ++ [given]) = start.replay earlier) ∧
    start.history ((successful turns).map Turn.given) = successful turns ∧
    start.replay ((successful turns).map Turn.given) = start.replay calls := by
  have hremembers := remembers_history calls
  obtain ⟨hhistory, hreplay⟩ := history_successful start calls
  refine ⟨map_given_history start calls, hremembers.nodup, ?_, hremembers.token_eq, ?_,
    hhistory, hreplay⟩
  · intro before turn later hturns
    obtain ⟨earlier, given, rfl, rfl⟩ := exists_of_history_eq hturns
    have hearlier := remembers_history earlier
    refine ⟨?_, ?_, (hearlier.follow given).token_eq⟩
    · intro t hgiven
      obtain rfl : given = some t := hgiven
      exact ⟨hearlier.answer_error_iff, hearlier.answer_ok_iff⟩
    · intro hgiven
      obtain rfl : given = none := hgiven
      rfl
  · intro earlier given later _ fault hfault
    rw [replay_concat]
    exact follow_error hfault

/-- A token stays refused after the end of a listing. -/
example : (start.history [some "p2", some "p2", none, some "p2"]).map Turn.answer =
    [.ok true, .error (.repeatedToken "p2"), .ok false, .error (.repeatedToken "p2")] := by
  decide

end Cursor

end BrokerControl
