import BrokerControl.Listing.Cursor
import BrokerControl.Service.Program

/-!
# Walking through pages

What the search for a broker and the listing of users share: ask for a page, look at it, follow its
token. At most `pageBound` pages are read, more than any control plane has.
-/

namespace BrokerControl

namespace Listing

variable {α : Type}

/-- How many pages are read before a listing is given up. -/
def pageBound : Nat := 0x100000000

/-- Asks for page after page. A page either settles the result or leaves the state `σ` that is
handed on; `atEnd` gives the result after the last page. -/
def walk {σ : Type} (ask : Option String → Program Page) (look : σ → Page → α ⊕ σ)
    (atEnd : σ → α) : Nat → Cursor → σ → Program α
  | 0, _, _ => .fail (.ofCause .tooManyPages)
  | bound + 1, cursor, state => do
    let page ← ask cursor.token
    match look state page with
    | .inl result => pure result
    | .inr state =>
      match cursor.advance page.next with
      | .error fault => .refuse fault
      | .ok cursor =>
        if cursor.hasMore then walk ask look atEnd bound cursor state else pure (atEnd state)

end Listing

end BrokerControl
