import BrokerControl.Proofs.Listings
import BrokerControl.Proofs.Records
import Mathlib.Data.List.Induction

/-!
# Listings of users

What a listing of users ends with, said of the pages that a control plane leads it through: all
records of all pages in their order if the pages can be read to the last one, and no records at all
otherwise (`Listing.allUsersWithin_eq_ok_iff`, `Listing.allUsersWithin_eq_error_iff`).
`Listing.user_listing_exact` adds what a query leaves out and how it shows the others.
-/

namespace BrokerControl

namespace UserQuery

/-- `q.Omits user` says that a query leaves a user out for a change that is pending. -/
def Omits (q : UserQuery) (user : Json) : Prop :=
  (q.skipPendingCreation = true ∧ user.field? "PendingChange" = some (.string "CREATE")) ∨
    (q.skipPendingDeletion = true ∧ user.field? "PendingChange" = some (.string "DELETE"))

/-- Some filter of a query removes the users that it leaves out, and no others. -/
theorem rejects_iff (q : UserQuery) (user : Json) :
    (q.filters.any fun f ↦ f.rejects user) = true ↔ q.Omits user := by
  rw [filters, List.any_append, Bool.or_eq_true, Omits]
  refine or_congr ?_ ?_
  · cases q.skipPendingCreation <;> simp [RecordFilter.rejects_iff, RecordFilter.pendingCreation]
  · cases q.skipPendingDeletion <;> simp [RecordFilter.rejects_iff, RecordFilter.pendingDeletion]

instance (q : UserQuery) (user : Json) : Decidable (q.Omits user) :=
  decidable_of_iff _ (q.rejects_iff user)

/-- What is left of users are those that a query does not leave out, in their order. -/
theorem sieve_filters (q : UserQuery) (users : List Json) :
    Records.sieve q.filters users = users.filter fun user ↦ ¬ q.Omits user := by
  rw [Records.sieve]
  refine List.filter_congr fun user _ ↦ ?_
  rw [Bool.eq_iff_iff, Bool.not_eq_true', ← Bool.not_eq_true, q.rejects_iff, decide_eq_true_eq]

/-- `q.Shows users answer` says that a query is answered with `answer` if there are these users: the
list of those that it does not leave out, in their order, or the object of those by their names,
where of several with one name the last stands. -/
def Shows (q : UserQuery) (users : List Json) (answer : Json) : Prop :=
  let kept := users.filter fun user ↦ ¬ q.Omits user
  (q.byName = false → answer = .array kept) ∧
  (q.byName = true → ∃ named : Object, answer = .object named ∧
    (Object.keys named).Pairwise (· < ·) ∧
    (∀ name, name ∈ Object.keys named ↔
      ∃ user ∈ kept, user.field? "Username" = some (.string name)) ∧
    ∀ name user, Object.get? named name = some user ↔
      Records.LastWith "Username" name user kept)

theorem present_shows (q : UserQuery) (users : List Json) : q.Shows users (q.present users) := by
  rw [Shows, present, q.sieve_filters]
  constructor
  · intro hlist
    simp [hlist]
  · intro hnamed
    refine ⟨Records.keyBy "Username" (users.filter fun user ↦ ¬ q.Omits user), by simp [hnamed],
      Records.pairwise_keys_keyBy _ _, ?_, ?_⟩
    · intro name
      exact Records.mem_keys_keyBy_iff
    · intro name user
      exact Records.get?_keyBy_eq_some_iff

end UserQuery

namespace Listing

open Program

variable {transport : Transport} {past calls : List Call} {bound : Nat} {id : String}
  {pageSize : Nat} {gathered users kept : List Json} {pages : List Page}

/-- Users are gathered page after page. -/
theorem kept?_gather_iff : kept? gather gathered pages = some kept ↔
    kept = gathered ++ pages.flatMap Page.items := by
  induction pages using List.reverseRecOn generalizing kept with
  | nil => simp [kept?, eq_comm]
  | append_singleton pages page ih =>
      rw [kept?_concat_eq_some_iff]
      simp [ih, gather, eq_comm]

/-- A listing succeeds exactly where its pages can be read to the last one. -/
theorem allUsersWithin_eq_ok_iff :
    run transport past (allUsersWithin bound id pageSize) = (.ok users, calls) ↔
      ∃ pages tokens last, (Feed.users transport id pageSize).Trail past pages tokens ∧
        pages.length < bound ∧ (Feed.users transport id pageSize).reply past tokens = .ok last ∧
        last.next = none ∧ users = (pages ++ [last]).flatMap Page.items ∧
        calls = (Feed.users transport id pageSize).sent past tokens := by
  rw [allUsersWithin, run_walk_iff (Feed.users_serves transport id pageSize)]
  constructor
  · rintro ⟨pages, tokens, kept, htrail, hkept, ⟨hlt, hends, hcalls⟩ | ⟨_, hresult, _⟩⟩
    · cases hends with
      | settled hreply hlook => cases hlook
      | exhausted hreply hlook hnext =>
          have hall := kept?_gather_iff.mp (kept?_concat_eq_some_iff.mpr ⟨_, hkept, hlook⟩)
          exact ⟨pages, tokens, _, htrail, hlt, hreply, hnext, by simpa using hall, hcalls⟩
    · cases hresult
  · rintro ⟨pages, tokens, last, htrail, hlt, hreply, hnext, rfl, hcalls⟩
    have hall : (pages ++ [last]).flatMap Page.items = pages.flatMap Page.items ++ last.items := by
      simp
    rw [hall]
    exact ⟨pages, tokens, pages.flatMap Page.items, htrail, kept?_gather_iff.mpr rfl,
      .inl ⟨hlt, .exhausted hreply rfl hnext, hcalls⟩⟩

/-- A listing fails exactly where a call fails or a token returns, or where it is cut off. -/
theorem allUsersWithin_eq_error_iff {e : Failure} :
    run transport past (allUsersWithin bound id pageSize) = (.error e, calls) ↔
      ∃ pages tokens, (Feed.users transport id pageSize).Trail past pages tokens ∧
        ((pages.length < bound ∧ calls = (Feed.users transport id pageSize).sent past tokens ∧
            ((∃ cause, (Feed.users transport id pageSize).reply past tokens = .error cause ∧
                e = cause.within "Failed to describe users") ∨
              ∃ page token, (Feed.users transport id pageSize).reply past tokens = .ok page ∧
                page.next = some token ∧ token ∈ tokens ∧ e = .ofFault (.repeatedToken token))) ∨
          (pages.length = bound ∧ calls = (Feed.users transport id pageSize).earlier past tokens ∧
            e = .ofCause .tooManyPages)) := by
  rw [allUsersWithin, run_walk_eq_error_iff (Feed.users_serves transport id pageSize)]
  simp [kept?_gather_iff, gather]

/-! ### Queries -/

variable {q : UserQuery}

/-- A query is answered exactly where the listing of its users succeeds. -/
theorem usersWithin_eq_ok_iff {answer : Json} :
    run transport past (usersWithin bound id q) = (.ok answer, calls) ↔
      ∃ users, run transport past (allUsersWithin bound id q.pageSize) = (.ok users, calls) ∧
        answer = q.present users := by
  rw [usersWithin, run_bind]
  rcases run transport past (allUsersWithin bound id q.pageSize) with ⟨e | users, made⟩
  · simp
  · simp [and_comm, eq_comm]

/-- A query fails exactly as the listing of its users fails. -/
theorem usersWithin_eq_error_iff {e : Failure} :
    run transport past (usersWithin bound id q) = (.error e, calls) ↔
      run transport past (allUsersWithin bound id q.pageSize) = (.error e, calls) := by
  rw [usersWithin, run_bind]
  rcases run transport past (allUsersWithin bound id q.pageSize) with ⟨e' | users, made⟩ <;> simp

/-- A query for the users of a broker, against any control plane and however long its listing is.
Where one is led along a trail of pages, whose tokens are all different, to a last one, the query
makes one call for each page, the first without a token and each other with that of the page before
it, and shows the users of all these pages in their order. It is not answered otherwise, but fails
of the call that fails or of the first token that comes a second time. The bound on the pages
matters only if it cuts the listing off. -/
theorem user_listing_exact (transport : Transport) (past : List Call) (bound : Nat) (id : String)
    (q : UserQuery) :
    let users := Feed.users transport id q.pageSize
    let whole := run transport past (usersWithin bound id q)
    let asked (tokens : List String) : List Call :=
      past ++ (none :: tokens.map some).map (Call.listUsers id q.pageSize)
    let Complete (pages : List Page) (tokens : List String) (last : Page) : Prop :=
      users.Trail past pages tokens ∧ pages.length < bound ∧
        users.reply past tokens = .ok last ∧ last.next = none
    (∀ pages tokens, users.Trail past pages tokens →
      pages.map Page.next = tokens.map some ∧ tokens.Nodup) ∧
    (∀ pages tokens last, Complete pages tokens last → ∃ answer,
      whole = (.ok answer, asked tokens) ∧ q.Shows ((pages ++ [last]).flatMap Page.items) answer) ∧
    (∀ answer calls, whole = (.ok answer, calls) → ∃ pages tokens last,
      Complete pages tokens last) ∧
    (∀ e calls, whole = (.error e, calls) ↔ ∃ pages tokens, users.Trail past pages tokens ∧
      ((pages.length < bound ∧ calls = asked tokens ∧
          ((∃ cause, users.reply past tokens = .error cause ∧
              e = cause.within "Failed to describe users") ∨
            ∃ page token, users.reply past tokens = .ok page ∧ page.next = some token ∧
              token ∈ tokens ∧ e = .ofFault (.repeatedToken token))) ∨
        (pages.length = bound ∧ calls = users.earlier past tokens ∧
          e = .ofCause .tooManyPages))) ∧
    ∀ more, bound ≤ more → whole.1 ≠ .error (.ofCause .tooManyPages) →
      run transport past (usersWithin more id q) = whole := by
  intro users whole asked Complete
  refine ⟨fun _ _ htrail ↦ ⟨htrail.map_next, htrail.nodup⟩, ?_, ?_, ?_, ?_⟩
  · rintro pages tokens last ⟨htrail, hlt, hreply, hlast⟩
    have hall := allUsersWithin_eq_ok_iff.mpr ⟨pages, tokens, last, htrail, hlt, hreply, hlast,
      rfl, rfl⟩
    exact ⟨_, usersWithin_eq_ok_iff.mpr ⟨_, hall, rfl⟩, q.present_shows _⟩
  · intro answer calls hanswer
    obtain ⟨all, hall, -⟩ := usersWithin_eq_ok_iff.mp hanswer
    obtain ⟨pages, tokens, last, htrail, hlt, hreply, hlast, -⟩ := allUsersWithin_eq_ok_iff.mp hall
    exact ⟨pages, tokens, last, htrail, hlt, hreply, hlast⟩
  · intro e calls
    exact usersWithin_eq_error_iff.trans allUsersWithin_eq_error_iff
  · intro more hle hend
    have hall : (run transport past (allUsersWithin bound id q.pageSize)).1 ≠
        .error (.ofCause .tooManyPages) := by
      intro hcut
      exact hend (congrArg Prod.fst (usersWithin_eq_error_iff.mpr (Prod.ext hcut rfl)))
    show run transport past (usersWithin more id q) = run transport past (usersWithin bound id q)
    rw [usersWithin, run_bind, allUsersWithin_of_le hle id q.pageSize past hall, ← run_bind,
      usersWithin]

end Listing

end BrokerControl
