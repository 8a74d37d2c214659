import BrokerControl.Proofs.Searches
import BrokerControl.Proofs.UserListings
import Mathlib.Data.Finset.Card

/-!
# Listings end and never ask twice

What holds of the calls of a listing against any control plane. `Listing.Feed.Trail.turn` says that
each call but the last is answered with a page whose token is new, and that this token is sent next;
so no token is sent twice, and a control plane with finitely many tokens can lead a listing through
no more pages than it has tokens. `Listing.Feed.Orderly` collects this for whole walks
(`Listing.walk_orderly`), `Listing.listings_never_ask_twice` says it of the search for a broker and
of the listing of users.
-/

namespace BrokerControl

namespace Listing

open Program

namespace Feed

variable {feed : Feed} {past : List Call} {pages : List Page} {tokens : List String}
  {known : Finset String}

/-- `feed.Offers known` says that all tokens in which the pages of a listing may end are `known`. -/
def Offers (feed : Feed) (known : Finset String) : Prop :=
  ∀ past token page next, feed.answer past token = .ok page → page.next = some next → next ∈ known

/-- What answers the last of the calls. -/
theorem reply_eq {before : List (Option String)} {token : Option String}
    (hsplit : none :: tokens.map some = before ++ [token]) :
    feed.reply past tokens = feed.answer (past ++ before.map feed.request) token := by
  have hlast : tokens.getLast? = token := by
    rcases List.eq_nil_or_concat tokens with rfl | ⟨front, last, rfl⟩
    · have hnone : [] ++ [none] = before ++ [token] := hsplit
      obtain ⟨rfl, hlast⟩ := List.append_inj' hnone rfl
      simpa using hlast
    · rw [List.concat_eq_append, List.map_append, ← List.cons_append] at hsplit
      simpa using (List.append_inj' hsplit rfl).2
  rw [reply, earlier, hsplit, List.dropLast_concat, hlast]

/-- Each call but the last is answered with a page whose token is sent next, and is new. -/
theorem Trail.turn (h : feed.Trail past pages tokens) {before after : List (Option String)}
    {token next : Option String}
    (hsplit : none :: tokens.map some = before ++ token :: next :: after) :
    ∃ page, feed.answer (past ++ before.map feed.request) token = .ok page ∧ page.next = next ∧
      next ∉ before ++ [token] := by
  induction h generalizing after with
  | start =>
      have hlength := congrArg List.length hsplit
      simp only [List.length_append, List.length_cons, List.map_nil, List.length_nil] at hlength
      omega
  | @follow pages tokens page last _ hreply hnext hnew ih =>
      rw [List.map_append, List.map_singleton, ← List.cons_append] at hsplit
      rcases List.eq_nil_or_concat after with rfl | ⟨front, final, rfl⟩
      · -- The last turn: it led to the page that the trail has just been extended by.
        rw [List.append_cons before token [next]] at hsplit
        obtain ⟨hall, hlast⟩ := List.append_inj' hsplit rfl
        obtain rfl := List.singleton_inj.mp hlast
        refine ⟨page, (reply_eq hall).symm.trans hreply, hnext, ?_⟩
        rw [← hall]
        simpa using hnew
      · rw [List.concat_eq_append, ← List.cons_append, ← List.cons_append,
          ← List.append_assoc] at hsplit
        exact ih (List.append_inj' hsplit rfl).1

/-- All tokens that are followed are known. -/
theorem Trail.mem_of_offers (h : feed.Trail past pages tokens) (hoffers : feed.Offers known) :
    ∀ token ∈ tokens, token ∈ known := by
  induction h with
  | start => simp
  | @follow pages tokens page token _ hreply hnext _ ih =>
      intro t ht
      rcases List.mem_append.mp ht with ht | ht
      · exact ih t ht
      · obtain rfl := List.mem_singleton.mp ht
        exact hoffers _ _ page t hreply hnext

/-- No more tokens are followed than are known. -/
theorem Trail.length_le_card (h : feed.Trail past pages tokens) (hoffers : feed.Offers known) :
    tokens.length ≤ known.card := by
  have hsubset : tokens.toFinset ⊆ known := by
    intro token htoken
    exact h.mem_of_offers hoffers token (List.mem_toFinset.mp htoken)
  calc tokens.length
    _ = tokens.toFinset.card := (List.toFinset_card_of_nodup h.nodup).symm
    _ ≤ known.card := Finset.card_le_card hsubset

/-- A page that is followed by another one does not end in a token that was sent by then. -/
theorem Trail.not_old (h : feed.Trail past pages tokens) {before after : List (Option String)}
    {token : Option String} {page : Page} {old : String}
    (hsplit : none :: tokens.map some = before ++ token :: after) (hafter : after ≠ [])
    (hanswer : feed.answer (past ++ before.map feed.request) token = .ok page)
    (hnext : page.next = some old) : some old ∉ before ++ [token] := by
  obtain ⟨next, rest, rfl⟩ := List.exists_cons_of_ne_nil hafter
  obtain ⟨page', hanswer', hnext', hnew⟩ := h.turn hsplit
  obtain rfl := Except.ok.inj (hanswer.symm.trans hanswer')
  rwa [← hnext, hnext']

/-! ### Orderly listings -/

/-- `feed.Orderly bound past goesOn whole sent` says that a listing that began after the calls
`past` and may read `bound` pages has sent the tokens `sent`, none of them twice; `goesOn` tells the
pages that do not settle what it is to find. -/
structure Orderly {α : Type} (feed : Feed) (bound : Nat) (past : List Call) (goesOn : Page → Prop)
    (whole : Except Failure α × List Call) (sent : List (Option String)) : Prop where
  /-- Every call asks for a page of the listing. -/
  calls_eq : whole.2 = past ++ sent.map feed.request
  /-- No two calls are alike. -/
  nodup : sent.Nodup
  /-- The first call, and no other, is made without a token. -/
  first_iff {before after : List (Option String)} {token : Option String} :
    sent = before ++ token :: after → (token = none ↔ before = [])
  /-- There is at most one call more than there are tokens. -/
  length_le {known : Finset String} : feed.Offers known → sent.length ≤ known.card + 1
  /-- A listing that may read more pages than there are tokens comes to its end. -/
  comes_to_end {known : Finset String} : feed.Offers known → known.card < bound →
    whole.1 ≠ .error (.ofCause .tooManyPages)
  /-- A token that was sent before is refused at once. -/
  refuses {before after : List (Option String)} {token : Option String} {page : Page}
      {old : String} :
    sent = before ++ token :: after →
    feed.answer (past ++ before.map feed.request) token = .ok page → goesOn page →
    page.next = some old → some old ∈ before ++ [token] →
    after = [] ∧ whole.1 = .error (.ofFault (.repeatedToken old))

/-- The tokens that are sent along a trail are all different, the missing one of the first call
among them. -/
theorem Trail.nodup_sent (h : feed.Trail past pages tokens) : (none :: tokens.map some).Nodup := by
  refine List.nodup_cons.mpr ⟨by simp, ?_⟩
  exact h.nodup.map (Option.some_injective String)

/-- The first of the tokens that are sent is none, and no other is. -/
theorem first_sent_iff {before after : List (Option String)} {token : Option String}
    (hsplit : none :: tokens.map some = before ++ token :: after) :
    token = none ↔ before = [] := by
  cases before with
  | nil => simpa using (List.cons.inj hsplit).1.symm
  | cons first before =>
      have hmem : token ∈ tokens.map some := by
        rw [(List.cons.inj hsplit).2]
        simp
      obtain ⟨t, -, rfl⟩ := List.mem_map.mp hmem
      simp

end Feed

variable {α σ : Type} {feed : Feed} {past : List Call} {pages : List Page} {tokens : List String}
  {context : String} {look : σ → Page → α ⊕ σ} {atEnd : σ → α} {kept : σ} {bound : Nat}
  {goesOn : Page → Prop} {result : Except Failure α}

/-- A walk that comes to its end is orderly. -/
theorem orderly_of_ends (htrail : feed.Trail past pages tokens)
    (hends : Ends feed past tokens context look atEnd kept result)
    (hgoes : ∀ page, goesOn page → ∀ state, ∃ following, look state page = .inr following) :
    feed.Orderly bound past goesOn (result, feed.sent past tokens) (none :: tokens.map some) where
  calls_eq := rfl
  nodup := htrail.nodup_sent
  first_iff := Feed.first_sent_iff
  length_le hoffers := by simpa using htrail.length_le_card hoffers
  comes_to_end _ _ := by cases hends <;> simp [Failure.within, Failure.ofFault, Failure.ofCause]
  refuses {before after token page old} hsplit hanswer hgoesOn hnext hold := by
    cases after with
    | cons next after => exact absurd hold (htrail.not_old hsplit (by simp) hanswer hnext)
    | nil =>
        have hlast := (Feed.reply_eq hsplit).trans hanswer
        obtain ⟨following, hlook⟩ := hgoes page hgoesOn kept
        refine ⟨rfl, ?_⟩
        cases hends with
        | failed hreply => cases hlast.symm.trans hreply
        | settled hreply hsettled =>
            obtain rfl := Except.ok.inj (hlast.symm.trans hreply)
            cases hlook.symm.trans hsettled
        | exhausted hreply _ hnone =>
            obtain rfl := Except.ok.inj (hlast.symm.trans hreply)
            cases hnext.symm.trans hnone
        | repeated hreply _ hagain _ =>
            obtain rfl := Except.ok.inj (hlast.symm.trans hreply)
            obtain rfl := Option.some.inj (hnext.symm.trans hagain)
            rfl

/-- A walk that is cut off is orderly. -/
theorem orderly_of_cut (htrail : feed.Trail past pages tokens) (hlength : pages.length = bound) :
    feed.Orderly (α := α) bound past goesOn
      (.error (.ofCause .tooManyPages), feed.earlier past tokens)
      (none :: tokens.map some).dropLast := by
  have hne : none :: tokens.map some ≠ [] := List.cons_ne_nil _ _
  have hall := List.dropLast_concat_getLast hne
  have hextend {before after : List (Option String)} {token : Option String}
      (hsplit : (none :: tokens.map some).dropLast = before ++ token :: after) :
      none :: tokens.map some =
        before ++ token :: (after ++ [(none :: tokens.map some).getLast hne]) := by
    rw [← List.cons_append, ← List.append_assoc, ← hsplit, hall]
  constructor
  · rfl
  · exact htrail.nodup_sent.sublist (List.dropLast_sublist _)
  · exact fun hsplit ↦ Feed.first_sent_iff (hextend hsplit)
  · intro known hoffers
    have := htrail.length_le_card hoffers
    simp only [List.length_dropLast, List.length_cons, List.length_map]
    omega
  · intro known hoffers hlt
    have hcount := congrArg List.length htrail.map_next
    have := htrail.length_le_card hoffers
    simp only [List.length_map] at hcount
    omega
  · intro before after token page old hsplit hanswer _ hnext hold
    exact absurd hold (htrail.not_old (hextend hsplit) (by simp) hanswer hnext)

/-- Every walk is orderly. -/
theorem walk_orderly {transport : Transport} {ask : Option String → Program Page}
    (hserves : feed.Serves transport context ask) (bound : Nat) (past : List Call) (state : σ)
    (hgoes : ∀ page, goesOn page → ∀ state, ∃ following, look state page = .inr following) :
    ∃ sent, feed.Orderly bound past goesOn
      (run transport past (walk ask look atEnd bound Cursor.start state)) sent := by
  cases hrun : run transport past (walk ask look atEnd bound Cursor.start state) with
  | mk result calls =>
      obtain ⟨pages, tokens, kept, htrail, -, ⟨-, hends, rfl⟩ | ⟨hlength, rfl, rfl⟩⟩ :=
        (run_walk_iff hserves).mp hrun
      · exact ⟨_, orderly_of_ends htrail hends hgoes⟩
      · exact ⟨_, orderly_of_cut htrail hlength⟩

/-- The search for a broker and the listing of users, against any control plane. Neither sends a
token twice, and only its first call is made without one. Where a page ends in a token that was
followed before, the listing of users is refused at once, and so is the search unless that page has
a match. Where all tokens are from a finite set, both come to their end after at most one call more
than the set has tokens. -/
theorem listings_never_ask_twice (transport : Transport) (past : List Call) (bound : Nat)
    (name id : String) (pageSize : Nat) :
    (∃ sent, (Feed.brokers transport).Orderly bound past (fun page ↦ NoMatch name page.items)
      (run transport past (findBrokerWithin bound name)) sent) ∧
    ∃ sent, (Feed.users transport id pageSize).Orderly bound past (fun _ ↦ True)
      (run transport past (allUsersWithin bound id pageSize)) sent := by
  constructor
  · refine walk_orderly (Feed.brokers_serves transport) bound past () ?_
    intro page hpage state
    exact ⟨(), lookFor_eq_inr_iff.mpr hpage⟩
  · refine walk_orderly (Feed.users_serves transport id pageSize) bound past [] ?_
    intro page _ users
    exact ⟨_, rfl⟩

end Listing

end BrokerControl
