import BrokerControl.Listing.Brokers
import BrokerControl.Listing.Users
import BrokerControl.Proofs.Runs

/-!
# Trails through listings

`Feed.Trail` relates a control plane to the pages that one is led through by following its tokens,
no token twice; it knows nothing of programs and their bounds. `Ends` says what a walk ends with at
the page that comes after a trail. `run_walk_iff` says that walks take exactly such trails: what a
walk ends with, and which calls it has made by then, is what `Ends` says after some trail, and only
a trail as long as the bound cuts a walk off.
-/

namespace BrokerControl

/-- The cursor that has followed `tokens`. -/
def Cursor.after (tokens : List String) : Cursor := ⟨tokens.getLast?, tokens.reverse⟩

/-- A cursor follows exactly the tokens that are new to it. -/
theorem Cursor.advance_after (tokens : List String) (token : String) :
    (Cursor.after tokens).advance (some token) =
      if token ∈ tokens then .error (.repeatedToken token)
      else .ok (Cursor.after (tokens ++ [token])) := by
  simp [Cursor.after, Cursor.advance]

namespace Listing

open Program

/-- A listing as a control plane serves it: the call for the page with a token, and what that call
is answered after other calls. -/
structure Feed where
  request : Option String → Call
  answer : List Call → Option String → Except Failure Page

namespace Feed

/-- The brokers that a control plane lists. -/
def brokers (transport : Transport) : Feed where
  request := .listBrokers brokerPageSize
  answer past token := transport past (.listBrokers brokerPageSize token)

/-- The users of a broker that a control plane lists. -/
def users (transport : Transport) (id : String) (pageSize : Nat) : Feed where
  request := .listUsers id pageSize
  answer past token := transport past (.listUsers id pageSize token)

variable (feed : Feed) (past : List Call) (tokens : List String)

/-- The calls made once `tokens` have been sent, each for a page; the first page is asked for
without a token. -/
def sent : List Call := past ++ (none :: tokens.map some).map feed.request

/-- The calls made before the last of `tokens` is sent. -/
def earlier : List Call := past ++ (none :: tokens.map some).dropLast.map feed.request

/-- The answer to the last of `tokens`, or to the first call if there are none. -/
def reply : Except Failure Page := feed.answer (feed.earlier past tokens) tokens.getLast?

@[simp] theorem earlier_nil : feed.earlier past [] = past := by simp [earlier]

@[simp] theorem earlier_concat (token : String) :
    feed.earlier past (tokens ++ [token]) = feed.sent past tokens := by
  have hlast : (none :: (tokens ++ [token]).map some).dropLast = none :: tokens.map some := by
    rw [List.map_append, ← List.cons_append, List.map_singleton, List.dropLast_concat]
  rw [earlier, hlast, sent]

/-- The last of the calls is the one with the last token. -/
theorem sent_eq : feed.sent past tokens =
    feed.earlier past tokens ++ [feed.request tokens.getLast?] := by
  rcases List.eq_nil_or_concat tokens with rfl | ⟨front, token, rfl⟩
  · simp [sent]
  · simp [sent]

/-- `feed.Trail past pages tokens` says that a control plane, asked for the first page after the
calls `past` and then with the token of each page, answers `pages`, and that these end in `tokens`,
no two of them alike. -/
inductive Trail : List Page → List String → Prop where
  | start : Trail [] []
  | follow {pages : List Page} {tokens : List String} {page : Page} {token : String} :
      Trail pages tokens → feed.reply past tokens = .ok page → page.next = some token →
      token ∉ tokens → Trail (pages ++ [page]) (tokens ++ [token])

variable {feed past tokens} {pages : List Page}

/-- Each page of a trail ends in a token of it. -/
theorem Trail.map_next (h : feed.Trail past pages tokens) :
    pages.map Page.next = tokens.map some := by
  induction h with
  | start => rfl
  | follow _ _ hnext _ ih => simp [ih, hnext]

/-- No token is followed twice. -/
theorem Trail.nodup (h : feed.Trail past pages tokens) : tokens.Nodup := by
  induction h with
  | start => exact List.nodup_nil
  | follow _ _ _ hnew ih =>
      refine List.nodup_append.mpr ⟨ih, by simp, ?_⟩
      rintro old hold _ hlast rfl
      exact hnew (List.mem_singleton.mp hlast ▸ hold)

/-- Each page that one is led to comes after a trail of its own. -/
theorem Trail.upTo (h : feed.Trail past pages tokens) {last page : Page} {before after : List Page}
    (hreply : feed.reply past tokens = .ok last)
    (hsplit : pages ++ [last] = before ++ page :: after) :
    ∃ first, feed.Trail past before first ∧ feed.reply past first = .ok page := by
  induction h generalizing last after with
  | start =>
      cases before with
      | nil =>
          obtain rfl : last = page := (List.cons.inj hsplit).1
          exact ⟨[], .start, hreply⟩
      | cons first before => simp at hsplit
  | @follow pages tokens previous token htrail hprevious hnext hnew ih =>
      rcases List.eq_nil_or_concat after with rfl | ⟨front, final, rfl⟩
      · obtain ⟨rfl, hlast⟩ := List.append_inj' hsplit rfl
        obtain rfl : last = page := by simpa using hlast
        exact ⟨_, htrail.follow hprevious hnext hnew, hreply⟩
      · rw [List.concat_eq_append, ← List.cons_append, ← List.append_assoc] at hsplit
        exact ih hprevious (List.append_inj' hsplit rfl).1

/-- `feed.Serves transport context ask` says that asking for a page is one call of the feed, whose
failure gets a context. -/
def Serves (feed : Feed) (transport : Transport) (context : String)
    (ask : Option String → Program Page) : Prop :=
  ∀ past token, run transport past (ask token) =
    (Failure.inContext context (feed.answer past token), past ++ [feed.request token])

theorem brokers_serves (transport : Transport) :
    (brokers transport).Serves transport "Couldn't list brokers" brokerPage :=
  fun _ _ ↦ rfl

theorem users_serves (transport : Transport) (id : String) (pageSize : Nat) :
    (users transport id pageSize).Serves transport "Failed to describe users"
      (userPage id pageSize) :=
  fun _ _ ↦ rfl

end Feed

variable {α σ : Type} {feed : Feed} {past : List Call} {pages : List Page} {tokens : List String}

/-- `Ends feed past tokens context look atEnd state result` says that a walk that has followed
`tokens` and keeps `state` ends with `result` at the answer to its next call. -/
inductive Ends (feed : Feed) (past : List Call) (tokens : List String) (context : String)
    (look : σ → Page → α ⊕ σ) (atEnd : σ → α) (state : σ) : Except Failure α → Prop where
  /-- The call fails. -/
  | failed {e : Failure} : feed.reply past tokens = .error e →
      Ends feed past tokens context look atEnd state (.error (e.within context))
  /-- The page settles the result. -/
  | settled {page : Page} {result : α} : feed.reply past tokens = .ok page →
      look state page = .inl result →
      Ends feed past tokens context look atEnd state (.ok result)
  /-- There is no page after it. -/
  | exhausted {page : Page} {kept : σ} : feed.reply past tokens = .ok page →
      look state page = .inr kept → page.next = none →
      Ends feed past tokens context look atEnd state (.ok (atEnd kept))
  /-- It leads back to a page that was read before. -/
  | repeated {page : Page} {kept : σ} {token : String} : feed.reply past tokens = .ok page →
      look state page = .inr kept → page.next = some token → token ∈ tokens →
      Ends feed past tokens context look atEnd state (.error (.ofFault (.repeatedToken token)))

/-- What a walk keeps after `pages`, if none of them settles its result. -/
def kept? (look : σ → Page → α ⊕ σ) (state : σ) (pages : List Page) : Option σ :=
  pages.foldlM (fun kept page ↦ (look kept page).getRight?) state

variable {look : σ → Page → α ⊕ σ} {atEnd : σ → α} {state kept following : σ} {page : Page}
  {token : String}

theorem kept?_concat_eq_some_iff : kept? look state (pages ++ [page]) = some following ↔
    ∃ kept, kept? look state pages = some kept ∧ look kept page = .inr following := by
  simp [kept?, List.foldlM_append, Option.bind_eq_some_iff, Sum.getRight?_eq_some_iff]

variable {transport : Transport} {context : String} {ask : Option String → Program Page}
  {result : Except Failure α} {bound : Nat}

/-! ### Single turns -/

/-- A walk asks with the last token that it followed. -/
theorem run_ask_after (hserves : feed.Serves transport context ask) (past : List Call)
    (tokens : List String) :
    run transport (feed.earlier past tokens) (ask (Cursor.after tokens).token) =
      (Failure.inContext context (feed.reply past tokens), feed.sent past tokens) := by
  rw [hserves, Feed.sent_eq]
  rfl

/-- A walk goes on with a token that is new to it. -/
theorem run_walk_turn (hserves : feed.Serves transport context ask)
    (hreply : feed.reply past tokens = .ok page) (hlook : look kept page = .inr following)
    (hnext : page.next = some token) (hnew : token ∉ tokens) :
    run transport (feed.earlier past tokens)
        (walk ask look atEnd (bound + 1) (Cursor.after tokens) kept) =
      run transport (feed.earlier past (tokens ++ [token]))
        (walk ask look atEnd bound (Cursor.after (tokens ++ [token])) following) := by
  have hask := run_ask_after hserves past tokens
  rw [hreply] at hask
  have hadvance := Cursor.advance_after tokens token
  rw [if_neg hnew] at hadvance
  have hmore : (Cursor.after (tokens ++ [token])).hasMore = true := by
    simp [Cursor.after, Cursor.hasMore]
  rw [walk, run_bind_ok _ _ hask, Feed.earlier_concat]
  simp only [hlook, hnext, hadvance, hmore, if_true]

/-- A walk stops where it ends. -/
theorem run_walk_of_ends (hserves : feed.Serves transport context ask)
    (hends : Ends feed past tokens context look atEnd kept result) :
    run transport (feed.earlier past tokens)
        (walk ask look atEnd (bound + 1) (Cursor.after tokens) kept) =
      (result, feed.sent past tokens) := by
  have hask := run_ask_after hserves past tokens
  cases hends with
  | failed hreply =>
      rw [hreply] at hask
      rw [walk, run_bind_error _ _ hask]
  | settled hreply hlook =>
      rw [hreply] at hask
      rw [walk, run_bind_ok _ _ hask]
      simp only [hlook, run_pure]
  | exhausted hreply hlook hnext =>
      rw [hreply] at hask
      rw [walk, run_bind_ok _ _ hask]
      simp [hlook, hnext, Cursor.advance, Cursor.hasMore]
  | @repeated _ _ token hreply hlook hnext hold =>
      rw [hreply] at hask
      have hadvance := Cursor.advance_after tokens token
      rw [if_pos hold] at hadvance
      rw [walk, run_bind_ok _ _ hask]
      simp only [hlook, hnext, hadvance, run_refuse]

/-- At each answer a walk ends or goes on with a new token. -/
theorem ends_or_turn (feed : Feed) (past : List Call) (tokens : List String) (context : String)
    (look : σ → Page → α ⊕ σ) (atEnd : σ → α) (kept : σ) :
    (∃ result, Ends feed past tokens context look atEnd kept result) ∨
    ∃ page following token, feed.reply past tokens = .ok page ∧
      look kept page = .inr following ∧ page.next = some token ∧ token ∉ tokens := by
  cases hreply : feed.reply past tokens with
  | error e => exact .inl ⟨_, .failed hreply⟩
  | ok page =>
      cases hlook : look kept page with
      | inl result => exact .inl ⟨_, .settled hreply hlook⟩
      | inr following =>
          cases hnext : page.next with
          | none => exact .inl ⟨_, .exhausted hreply hlook hnext⟩
          | some token =>
              by_cases hold : token ∈ tokens
              · exact .inl ⟨_, .repeated hreply hlook hnext hold⟩
              · exact .inr ⟨page, following, token, rfl, hlook, hnext, hold⟩

/-! ### Whole walks -/

/-- A walk follows a trail for as long as no page settles its result. -/
theorem run_walk_of_trail (hserves : feed.Serves transport context ask)
    (htrail : feed.Trail past pages tokens) (hkept : kept? look state pages = some kept)
    (bound : Nat) :
    run transport past (walk ask look atEnd (pages.length + bound) Cursor.start state) =
      run transport (feed.earlier past tokens)
        (walk ask look atEnd bound (Cursor.after tokens) kept) := by
  induction htrail generalizing kept bound with
  | start =>
      obtain rfl : state = kept := Option.some.inj hkept
      simp [Cursor.after, Cursor.start]
  | @follow pages tokens page token _ hreply hnext hnew ih =>
      obtain ⟨before, hbefore, hlook⟩ := kept?_concat_eq_some_iff.mp hkept
      rw [List.length_append, List.length_singleton, Nat.add_assoc, Nat.add_comm 1,
        ih hbefore (bound + 1)]
      exact run_walk_turn hserves hreply hlook hnext hnew

/-- A trail can be followed until the walk ends, or for as long as one likes. -/
theorem exists_trail (htrail : feed.Trail past pages tokens)
    (hkept : kept? look state pages = some kept) (context : String) (atEnd : σ → α) (more : Nat) :
    ∃ (pages' : List Page) (tokens' : List String) (kept' : σ),
      feed.Trail past pages' tokens' ∧ kept? look state pages' = some kept' ∧
      ((pages'.length < pages.length + more ∧
          ∃ result, Ends feed past tokens' context look atEnd kept' result) ∨
        pages'.length = pages.length + more) := by
  induction more generalizing pages tokens kept with
  | zero => exact ⟨pages, tokens, kept, htrail, hkept, .inr rfl⟩
  | succ more ih =>
      rcases ends_or_turn feed past tokens context look atEnd kept with
        hends | ⟨page, following, token, hreply, hlook, hnext, hnew⟩
      · exact ⟨pages, tokens, kept, htrail, hkept, .inl ⟨by omega, hends⟩⟩
      · obtain ⟨pages', tokens', kept', htrail', hkept', hlast⟩ :=
          ih (htrail.follow hreply hnext hnew) (kept?_concat_eq_some_iff.mpr ⟨kept, hkept, hlook⟩)
        have hlength : (pages ++ [page]).length + more = pages.length + (more + 1) := by
          rw [List.length_append, List.length_singleton]
          omega
        rw [hlength] at hlast
        exact ⟨pages', tokens', kept', htrail', hkept', hlast⟩

/-- What a walk ends with, and the calls that it has made by then: it follows a trail and ends at
the page that comes after, or is cut off where the trail is as long as its bound. -/
theorem run_walk_iff (hserves : feed.Serves transport context ask) {calls : List Call} :
    run transport past (walk ask look atEnd bound Cursor.start state) = (result, calls) ↔
      ∃ pages tokens kept, feed.Trail past pages tokens ∧ kept? look state pages = some kept ∧
        ((pages.length < bound ∧ Ends feed past tokens context look atEnd kept result ∧
            calls = feed.sent past tokens) ∨
          (pages.length = bound ∧ result = .error (.ofCause .tooManyPages) ∧
            calls = feed.earlier past tokens)) := by
  have hwalk {pages tokens kept result} (htrail : feed.Trail past pages tokens)
      (hkept : kept? look state pages = some kept) (hlt : pages.length < bound)
      (hends : Ends feed past tokens context look atEnd kept result) :
      run transport past (walk ask look atEnd bound Cursor.start state) =
        (result, feed.sent past tokens) := by
    obtain ⟨more, rfl⟩ := Nat.exists_eq_add_of_lt hlt
    rw [Nat.add_assoc, run_walk_of_trail hserves htrail hkept (more + 1)]
    exact run_walk_of_ends hserves hends
  have hcut {pages tokens kept} (htrail : feed.Trail past pages tokens)
      (hkept : kept? look state pages = some kept) (hlength : pages.length = bound) :
      run transport past (walk ask look atEnd bound Cursor.start state) =
        (.error (.ofCause .tooManyPages), feed.earlier past tokens) := by
    rw [← hlength]
    exact run_walk_of_trail hserves htrail hkept 0
  constructor
  · intro hrun
    obtain ⟨pages, tokens, kept, htrail, hkept, ⟨hlt, found, hends⟩ | hlength⟩ :=
      exists_trail (.start : feed.Trail past [] []) (rfl : kept? look state [] = some state)
        context atEnd bound
    · rw [List.length_nil, Nat.zero_add] at hlt
      obtain ⟨rfl, rfl⟩ := Prod.mk.inj (hrun.symm.trans (hwalk htrail hkept hlt hends))
      exact ⟨pages, tokens, kept, htrail, hkept, .inl ⟨hlt, hends, rfl⟩⟩
    · rw [List.length_nil, Nat.zero_add] at hlength
      obtain ⟨rfl, rfl⟩ := Prod.mk.inj (hrun.symm.trans (hcut htrail hkept hlength))
      exact ⟨pages, tokens, kept, htrail, hkept, .inr ⟨hlength, rfl, rfl⟩⟩
  · rintro ⟨pages, tokens, kept, htrail, hkept, ⟨hlt, hends, rfl⟩ | ⟨hlength, rfl, rfl⟩⟩
    · exact hwalk htrail hkept hlt hends
    · exact hcut htrail hkept hlength

/-- A walk fails of a call that fails or of a token that returns, or is cut off. -/
theorem run_walk_eq_error_iff (hserves : feed.Serves transport context ask) {calls : List Call}
    {e : Failure} :
    run transport past (walk ask look atEnd bound Cursor.start state) = (.error e, calls) ↔
      ∃ pages tokens kept, feed.Trail past pages tokens ∧ kept? look state pages = some kept ∧
        ((pages.length < bound ∧ calls = feed.sent past tokens ∧
            ((∃ cause, feed.reply past tokens = .error cause ∧ e = cause.within context) ∨
              ∃ page following token, feed.reply past tokens = .ok page ∧
                look kept page = .inr following ∧ page.next = some token ∧ token ∈ tokens ∧
                e = .ofFault (.repeatedToken token))) ∨
          (pages.length = bound ∧ calls = feed.earlier past tokens ∧
            e = .ofCause .tooManyPages)) := by
  rw [run_walk_iff hserves]
  constructor
  · rintro ⟨pages, tokens, kept, htrail, hkept, ⟨hlt, hends, hcalls⟩ | ⟨hlength, hcut, hcalls⟩⟩
    · refine ⟨pages, tokens, kept, htrail, hkept, .inl ⟨hlt, hcalls, ?_⟩⟩
      cases hends with
      | failed hreply => exact .inl ⟨_, hreply, rfl⟩
      | repeated hreply hlook hnext hold => exact .inr ⟨_, _, _, hreply, hlook, hnext, hold, rfl⟩
    · exact ⟨pages, tokens, kept, htrail, hkept, .inr ⟨hlength, hcalls, Except.error.inj hcut⟩⟩
  · rintro ⟨pages, tokens, kept, htrail, hkept, ⟨hlt, hcalls, hfail⟩ | ⟨hlength, hcalls, rfl⟩⟩
    · refine ⟨pages, tokens, kept, htrail, hkept, .inl ⟨hlt, ?_, hcalls⟩⟩
      obtain ⟨cause, hreply, rfl⟩ | ⟨_, _, _, hreply, hlook, hnext, hold, rfl⟩ := hfail
      · exact .failed hreply
      · exact .repeated hreply hlook hnext hold
    · exact ⟨pages, tokens, kept, htrail, hkept, .inr ⟨hlength, rfl, hcalls⟩⟩

end Listing

end BrokerControl
