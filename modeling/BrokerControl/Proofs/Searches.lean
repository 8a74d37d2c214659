import BrokerControl.Proofs.Listings
import Mathlib.Data.List.Induction

/-!
# The search for a broker against its pages

What a search for a broker ends with, said of the pages that a control plane leads it through:
`Listing.FirstMatch` is the identifier that a list of summaries gives a name. A search stops at the
first page with a match, so that nothing after it matters, and where all pages can be read it finds
the first match among all summaries (`Listing.search_refines_scan`).
-/

namespace BrokerControl

namespace Listing

open Program

/-- `Identifies name id summary` says that a summary is of the broker called `name` and gives it the
identifier `id`. -/
def Identifies (name id : String) (summary : Json) : Prop :=
  summary.field? "BrokerName" = some (.string name) ∧
    summary.field? "BrokerId" = some (.string id)

/-- `NoMatch name summaries` says that no summary gives the broker called `name` an identifier. -/
def NoMatch (name : String) (summaries : List Json) : Prop :=
  ∀ summary ∈ summaries, ∀ id, ¬ Identifies name id summary

/-- `FirstMatch name id summaries` says that the first summary that gives the broker called `name`
an identifier gives it `id`. -/
def FirstMatch (name id : String) (summaries : List Json) : Prop :=
  ∃ before summary after, summaries = before ++ summary :: after ∧ Identifies name id summary ∧
    NoMatch name before

variable {name id : String} {summaries : List Json}

theorem identifier?_eq_some_iff {summary : Json} :
    identifier? name summary = some id ↔ Identifies name id summary := by
  rw [identifier?, Identifies, ← Json.fieldString?_eq_some_iff, ← Json.fieldString?_eq_some_iff]
  split
  · next h => simp [h]
  · next h => simp [h]

theorem identifier?_eq_none_iff {summary : Json} :
    identifier? name summary = none ↔ ∀ id, ¬ Identifies name id summary := by
  simp only [← identifier?_eq_some_iff, Option.eq_none_iff_forall_ne_some, ne_eq]

/-- What is found among summaries is their first match. -/
theorem findSome?_eq_some_iff :
    summaries.findSome? (identifier? name) = some id ↔ FirstMatch name id summaries := by
  simp only [List.findSome?_eq_some_iff, identifier?_eq_some_iff, identifier?_eq_none_iff,
    FirstMatch, NoMatch]

theorem findSome?_eq_none_iff :
    summaries.findSome? (identifier? name) = none ↔ NoMatch name summaries := by
  simp only [List.findSome?_eq_none_iff, identifier?_eq_none_iff, NoMatch]

/-! ### Pages with and without a match -/

theorem lookFor_eq_inl_iff {state : Unit} {page : Page} {found : Option String} :
    lookFor name state page = .inl found ↔
      ∃ id, found = some id ∧ FirstMatch name id page.items := by
  simp only [← findSome?_eq_some_iff, lookFor]
  cases page.items.findSome? (identifier? name) <;> simp [eq_comm]

theorem lookFor_eq_inr_iff {state following : Unit} {page : Page} :
    lookFor name state page = .inr following ↔ NoMatch name page.items := by
  rw [← findSome?_eq_none_iff, lookFor]
  cases page.items.findSome? (identifier? name) <;> simp

/-- A search goes on for as long as no page has a match. -/
theorem kept?_lookFor_iff {state kept : Unit} {pages : List Page} :
    kept? (lookFor name) state pages = some kept ↔ ∀ page ∈ pages, NoMatch name page.items := by
  induction pages using List.reverseRecOn with
  | nil => simp [kept?]
  | append_singleton pages page ih =>
      rw [kept?_concat_eq_some_iff]
      constructor
      · rintro ⟨_, hpages, hpage⟩
        rw [ih] at hpages
        rw [lookFor_eq_inr_iff] at hpage
        simpa [or_imp, forall_and] using ⟨hpages, hpage⟩
      · intro h
        exact ⟨(), ih.mpr fun p hp ↦ h p (by simp [hp]), lookFor_eq_inr_iff.mpr (h page (by simp))⟩

/-! ### What a search ends with -/

variable {transport : Transport} {past calls : List Call} {bound : Nat}

/-- A search ends with an identifier exactly at the first page that has a match. -/
theorem findBrokerWithin_eq_some_iff :
    run transport past (findBrokerWithin bound name) = (.ok (some id), calls) ↔
      ∃ pages tokens page, (Feed.brokers transport).Trail past pages tokens ∧
        pages.length < bound ∧ (∀ p ∈ pages, NoMatch name p.items) ∧
        (Feed.brokers transport).reply past tokens = .ok page ∧ FirstMatch name id page.items ∧
        calls = (Feed.brokers transport).sent past tokens := by
  rw [findBrokerWithin, run_walk_iff (Feed.brokers_serves transport)]
  constructor
  · rintro ⟨pages, tokens, _, htrail, hkept, ⟨hlt, hends, hcalls⟩ | ⟨_, hresult, _⟩⟩
    · cases hends with
      | settled hreply hlook =>
          obtain ⟨_, hfound, hmatch⟩ := lookFor_eq_inl_iff.mp hlook
          obtain rfl := Option.some.inj hfound
          exact ⟨pages, tokens, _, htrail, hlt, kept?_lookFor_iff.mp hkept, hreply, hmatch, hcalls⟩
    · cases hresult
  · rintro ⟨pages, tokens, page, htrail, hlt, hpages, hreply, hmatch, hcalls⟩
    exact ⟨pages, tokens, (), htrail, kept?_lookFor_iff.mpr hpages,
      .inl ⟨hlt, .settled hreply (lookFor_eq_inl_iff.mpr ⟨id, rfl, hmatch⟩), hcalls⟩⟩

/-- A search ends without an identifier exactly where the pages end and none has a match. -/
theorem findBrokerWithin_eq_none_iff :
    run transport past (findBrokerWithin bound name) = (.ok none, calls) ↔
      ∃ pages tokens page, (Feed.brokers transport).Trail past pages tokens ∧
        pages.length < bound ∧ (∀ p ∈ pages ++ [page], NoMatch name p.items) ∧
        (Feed.brokers transport).reply past tokens = .ok page ∧ page.next = none ∧
        calls = (Feed.brokers transport).sent past tokens := by
  rw [findBrokerWithin, run_walk_iff (Feed.brokers_serves transport)]
  constructor
  · rintro ⟨pages, tokens, _, htrail, hkept, ⟨hlt, hends, hcalls⟩ | ⟨_, hresult, _⟩⟩
    · cases hends with
      | settled hreply hlook =>
          obtain ⟨_, hfound, -⟩ := lookFor_eq_inl_iff.mp hlook
          cases hfound
      | exhausted hreply hlook hnext =>
          refine ⟨pages, tokens, _, htrail, hlt, ?_, hreply, hnext, hcalls⟩
          exact kept?_lookFor_iff.mp (kept?_concat_eq_some_iff.mpr ⟨_, hkept, hlook⟩)
    · cases hresult
  · rintro ⟨pages, tokens, page, htrail, hlt, hpages, hreply, hnext, hcalls⟩
    have hall : kept? (lookFor name) () (pages ++ [page]) = some () := kept?_lookFor_iff.mpr hpages
    obtain ⟨kept, hkept, hlook⟩ := kept?_concat_eq_some_iff.mp hall
    exact ⟨pages, tokens, kept, htrail, hkept, .inl ⟨hlt, .exhausted hreply hlook hnext, hcalls⟩⟩

/-- A search fails exactly where a call fails or a token returns before there was a match, or where
it is cut off. -/
theorem findBrokerWithin_eq_error_iff {e : Failure} :
    run transport past (findBrokerWithin bound name) = (.error e, calls) ↔
      ∃ pages tokens, (Feed.brokers transport).Trail past pages tokens ∧
        (∀ p ∈ pages, NoMatch name p.items) ∧
        ((pages.length < bound ∧ calls = (Feed.brokers transport).sent past tokens ∧
            ((∃ cause, (Feed.brokers transport).reply past tokens = .error cause ∧
                e = cause.within "Couldn't list brokers") ∨
              ∃ page token, (Feed.brokers transport).reply past tokens = .ok page ∧
                NoMatch name page.items ∧ page.next = some token ∧ token ∈ tokens ∧
                e = .ofFault (.repeatedToken token))) ∨
          (pages.length = bound ∧ calls = (Feed.brokers transport).earlier past tokens ∧
            e = .ofCause .tooManyPages)) := by
  rw [findBrokerWithin, run_walk_eq_error_iff (Feed.brokers_serves transport)]
  simp only [kept?_lookFor_iff, lookFor_eq_inr_iff, exists_const]

/-- The first match of all summaries is that of the first page that has one. -/
theorem findSome?_flatMap_items (name : String) (pages : List Page) :
    (pages.flatMap Page.items).findSome? (identifier? name) =
      pages.findSome? fun p ↦ p.items.findSome? (identifier? name) := by
  induction pages with
  | nil => rfl
  | cons page pages ih =>
      rw [List.flatMap_cons, List.findSome?_append, List.findSome?_cons, ih]
      cases page.items.findSome? (identifier? name) <;> rfl

/-- Where all pages can be read to the last one, a search finds what is found among all their
summaries. -/
theorem findBrokerWithin_of_scan {pages : List Page} {tokens : List String} {last : Page}
    (htrail : (Feed.brokers transport).Trail past pages tokens) (hlt : pages.length < bound)
    (hreply : (Feed.brokers transport).reply past tokens = .ok last) (hlast : last.next = none) :
    (run transport past (findBrokerWithin bound name)).1 =
      .ok (((pages ++ [last]).flatMap Page.items).findSome? (identifier? name)) := by
  rw [findSome?_flatMap_items]
  cases hfound : (pages ++ [last]).findSome? fun p ↦ p.items.findSome? (identifier? name) with
  | none =>
      rw [List.findSome?_eq_none_iff] at hfound
      have hpages : ∀ p ∈ pages ++ [last], NoMatch name p.items :=
        fun p hp ↦ findSome?_eq_none_iff.mp (hfound p hp)
      rw [findBrokerWithin_eq_none_iff.mpr ⟨pages, tokens, last, htrail, hlt, hpages, hreply,
        hlast, rfl⟩]
  | some id =>
      obtain ⟨before, page, after, hsplit, hmatch, hbefore⟩ := List.findSome?_eq_some_iff.mp hfound
      obtain ⟨first, hfirst, hpage⟩ := htrail.upTo hreply hsplit
      have hshort : before.length < bound := by
        have hlength := congrArg List.length hsplit
        simp only [List.length_append, List.length_cons, List.length_nil] at hlength
        omega
      have hnone : ∀ p ∈ before, NoMatch name p.items :=
        fun p hp ↦ findSome?_eq_none_iff.mp (hbefore p hp)
      rw [findBrokerWithin_eq_some_iff.mpr ⟨before, first, page, hfirst, hshort, hnone, hpage,
        findSome?_eq_some_iff.mp hmatch, rfl⟩]

/-- A search for a broker, against any control plane and however long its listing is. It is led
along a trail of pages without a match, whose tokens are all different. At the first page that has a
match it ends with the identifier of the first one, whatever else is on that page and whatever would
come after; after the last page it ends with none; and it fails of the call that fails or of the
first token that comes a second time. By then it has made one call for each page, the first without
a token and each other with that of the page before it. Where all pages can be read, it ends with
the first match of them all. The bound on the pages matters only if it cuts the search off. -/
theorem search_refines_scan (transport : Transport) (past : List Call) (bound : Nat)
    (name : String) :
    let brokers := Feed.brokers transport
    let search := run transport past (findBrokerWithin bound name)
    let asked (tokens : List String) : List Call :=
      past ++ (none :: tokens.map some).map (Call.listBrokers brokerPageSize)
    (∀ pages tokens, brokers.Trail past pages tokens →
      pages.map Page.next = tokens.map some ∧ tokens.Nodup) ∧
    (∀ id calls, search = (.ok (some id), calls) ↔ ∃ pages tokens page,
      brokers.Trail past pages tokens ∧ pages.length < bound ∧
      (∀ p ∈ pages, NoMatch name p.items) ∧ brokers.reply past tokens = .ok page ∧
      FirstMatch name id page.items ∧ calls = asked tokens) ∧
    (∀ calls, search = (.ok none, calls) ↔ ∃ pages tokens page,
      brokers.Trail past pages tokens ∧ pages.length < bound ∧
      (∀ p ∈ pages ++ [page], NoMatch name p.items) ∧ brokers.reply past tokens = .ok page ∧
      page.next = none ∧ calls = asked tokens) ∧
    (∀ e calls, search = (.error e, calls) ↔ ∃ pages tokens,
      brokers.Trail past pages tokens ∧ (∀ p ∈ pages, NoMatch name p.items) ∧
      ((pages.length < bound ∧ calls = asked tokens ∧
          ((∃ cause, brokers.reply past tokens = .error cause ∧
              e = cause.within "Couldn't list brokers") ∨
            ∃ page token, brokers.reply past tokens = .ok page ∧ NoMatch name page.items ∧
              page.next = some token ∧ token ∈ tokens ∧ e = .ofFault (.repeatedToken token))) ∨
        (pages.length = bound ∧ calls = brokers.earlier past tokens ∧
          e = .ofCause .tooManyPages))) ∧
    (∀ pages tokens last, brokers.Trail past pages tokens → pages.length < bound →
      brokers.reply past tokens = .ok last → last.next = none →
      ∃ found, search.1 = .ok found ∧
        ∀ id, found = some id ↔ FirstMatch name id ((pages ++ [last]).flatMap Page.items)) ∧
    ∀ more, bound ≤ more → search.1 ≠ .error (.ofCause .tooManyPages) →
      run transport past (findBrokerWithin more name) = search := by
  intro brokers search asked
  refine ⟨fun _ _ htrail ↦ ⟨htrail.map_next, htrail.nodup⟩,
    fun _ _ ↦ findBrokerWithin_eq_some_iff, fun _ ↦ findBrokerWithin_eq_none_iff,
    fun _ _ ↦ findBrokerWithin_eq_error_iff, ?_,
    fun _ hle hend ↦ findBrokerWithin_of_le hle name past hend⟩
  intro pages tokens last htrail hlt hreply hlast
  exact ⟨_, findBrokerWithin_of_scan htrail hlt hreply hlast, fun _ ↦ findSome?_eq_some_iff⟩

end Listing

end BrokerControl
