import BrokerControl.Fault

/-!
# Cursors

A cursor walks through the pages of a listing. It keeps the token of the page that comes next and
all tokens it has followed; a token that comes back would lead round in a circle and is refused.
-/

namespace BrokerControl

/-- Where a listing stands. -/
structure Cursor where
  /-- The token that asks for the next page; none before the first and after the last page. -/
  token : Option String
  /-- The tokens that were followed, the latest first. -/
  followed : List String
  deriving DecidableEq, Repr

namespace Cursor

/-- Before the first page. -/
def start : Cursor := ⟨none, []⟩

/-- Follows the token that a page ended with. A page without one ends the listing. -/
def advance (c : Cursor) : Option String → Except Fault Cursor
  | none => .ok { c with token := none }
  | some t =>
    if t ∈ c.followed then .error (.repeatedToken t) else .ok ⟨some t, t :: c.followed⟩

/-- Whether there is a further page to ask for. -/
def hasMore (c : Cursor) : Bool := c.token.isSome

/-- Moves a cursor in place: what is answered, whether there is a further page, and the cursor
behind the call. A token is put among the followed ones at once, also one that is refused. -/
def follow (c : Cursor) : Option String → Except Fault Bool × Cursor
  | none => (.ok false, { c with token := none })
  | some t =>
    let noted := { c with followed := c.followed.insert t }
    if t ∈ c.followed then (.error (.repeatedToken t), noted)
    else (.ok true, { noted with token := some t })

/-- A cursor that is moved in place goes where `advance` leads, and stays where it is refused. -/
theorem follow_eq (c : Cursor) (next : Option String) :
    c.follow next = match c.advance next with
      | .ok moved => (.ok moved.hasMore, moved)
      | .error fault => (.error fault, c) := by
  cases next with
  | none => rfl
  | some t =>
    -- A token that stands among the followed ones is not put there again.
    by_cases h : t ∈ c.followed <;> simp [follow, advance, hasMore, h]

end Cursor

end BrokerControl
