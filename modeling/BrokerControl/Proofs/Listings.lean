import BrokerControl.Proofs.Trails

/-!
# Runs of listings

A walk through pages makes one call for each page that it asks for, and no other
(`Listing.walk_calls`), whatever it is answered. A walk that is not cut off by its bound goes the
same way under every greater one (`Listing.walk_of_le`), so what holds for all bounds holds of
listings of any length.
-/

namespace BrokerControl

namespace Listing

open Program

variable {α σ : Type} {transport : Transport} {feed : Feed} {context : String}
  {ask : Option String → Program Page}

/-- A walk asks for pages and does nothing else. -/
theorem walk_calls (hserves : feed.Serves transport context ask) (look : σ → Page → α ⊕ σ)
    (atEnd : σ → α) (bound : Nat) (past : List Call) (state : σ) :
    ∃ tokens : List (Option String),
      (run transport past (walk ask look atEnd bound Cursor.start state)).2 =
        past ++ tokens.map feed.request := by
  obtain ⟨_, _, _, _, _, ⟨_, _, hcalls⟩ | ⟨_, _, hcalls⟩⟩ :=
    (run_walk_iff hserves).mp (Prod.eta (run transport past
      (walk ask look atEnd bound Cursor.start state))).symm
  · exact ⟨_, hcalls⟩
  · exact ⟨_, hcalls⟩

/-- A walk that comes to its end goes the same way if it may read more pages. -/
theorem walk_of_le (hserves : feed.Serves transport context ask) (look : σ → Page → α ⊕ σ)
    (atEnd : σ → α) {bound more : Nat} (hle : bound ≤ more) (past : List Call) (state : σ)
    (hend : (run transport past (walk ask look atEnd bound Cursor.start state)).1 ≠
      .error (.ofCause .tooManyPages)) :
    run transport past (walk ask look atEnd more Cursor.start state) =
      run transport past (walk ask look atEnd bound Cursor.start state) := by
  obtain ⟨pages, tokens, kept, htrail, hkept, ⟨hlt, hends, hcalls⟩ | ⟨_, hcut, _⟩⟩ :=
    (run_walk_iff hserves).mp (Prod.eta (run transport past
      (walk ask look atEnd bound Cursor.start state))).symm
  · exact (run_walk_iff hserves).mpr
      ⟨pages, tokens, kept, htrail, hkept, .inl ⟨Nat.lt_of_lt_of_le hlt hle, hends, hcalls⟩⟩
  · exact absurd hcut hend

/-! ### Searches for a broker -/

/-- The search for a broker lists brokers and makes no other call. -/
theorem findBrokerWithin_calls (transport : Transport) (bound : Nat) (name : String)
    (past : List Call) : ∃ tokens : List (Option String),
      (run transport past (findBrokerWithin bound name)).2 =
        past ++ tokens.map (Call.listBrokers brokerPageSize) :=
  walk_calls (Feed.brokers_serves transport) (lookFor name) (fun _ ↦ none) bound past ()

/-- A search that comes to its end goes the same way if it may read more pages. -/
theorem findBrokerWithin_of_le {bound more : Nat} (hle : bound ≤ more) (name : String)
    (past : List Call) (hend : (run transport past (findBrokerWithin bound name)).1 ≠
      .error (.ofCause .tooManyPages)) :
    run transport past (findBrokerWithin more name) =
      run transport past (findBrokerWithin bound name) :=
  walk_of_le (Feed.brokers_serves transport) (lookFor name) (fun _ ↦ none) hle past () hend

/-! ### Listings of users -/

/-- A listing of users that comes to its end goes the same way if it may read more pages. -/
theorem allUsersWithin_of_le {bound more : Nat} (hle : bound ≤ more) (id : String) (pageSize : Nat)
    (past : List Call) (hend : (run transport past (allUsersWithin bound id pageSize)).1 ≠
      .error (.ofCause .tooManyPages)) :
    run transport past (allUsersWithin more id pageSize) =
      run transport past (allUsersWithin bound id pageSize) :=
  walk_of_le (Feed.users_serves transport id pageSize) gather (fun users ↦ users) hle past [] hend

end Listing

end BrokerControl
