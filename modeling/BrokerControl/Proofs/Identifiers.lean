import BrokerControl.Proofs.ListedBrokers
import BrokerControl.Proofs.Routes

/-!
# The brokers that calls name

Once it has looked for its broker, a run calls for the one that it found and for no other
(`Broker.names_act_iff`). A description calls for the identifier that is given before it looks for
one (`Broker.names_describe_iff`). An empty identifier that is given counts as none, but one that is
listed is taken as it is: `Broker.named_brokers_exact` says where the identifiers in calls come
from, and `Broker.empty_identifier_is_named` lists a broker with an empty one.
-/

namespace BrokerControl

open Program

namespace Listing

/-- What a search finds is listed on a page that it fetched. -/
theorem fetched_of_search {transport : Transport} {past calls : List Call} {bound : Nat}
    {name id : String}
    (hsearch : run transport past (findBrokerWithin bound name) = (.ok (some id), calls)) :
    ∃ page, Fetched transport past calls page ∧ ∃ summary ∈ page.items,
      Identifies name id summary := by
  obtain ⟨pages, tokens, page, -, -, -, hreply, hfirst, rfl⟩ :=
    findBrokerWithin_eq_some_iff.mp hsearch
  obtain ⟨before, summary, after, hitems, hidentifies, -⟩ := hfirst
  have hmem : summary ∈ page.items := by
    rw [hitems]
    exact List.mem_append_right before List.mem_cons_self
  refine ⟨page, ⟨_, brokerPageSize, tokens.getLast?, [], ?_, hreply⟩, summary, hmem, hidentifies⟩
  rw [Feed.sent_eq]
  rfl

end Listing

namespace Broker

/-- `Names past calls id` says that one of the calls made after `past` names the broker `id`. -/
def Names (past calls : List Call) (id : String) : Prop :=
  ∃ made, calls = past ++ made ∧ ∃ c ∈ made, c.broker? = some id

variable {t : Table} {o : RunOptions} {transport : Transport} {past calls made : List Call}
  {name id : String} {d : Declaration} {goal : Goal} {found : Option String} {bound : Nat}

theorem names_append_iff : Names past (past ++ made) id ↔ ∃ c ∈ made, c.broker? = some id := by
  constructor
  · rintro ⟨made', hmade, hnames⟩
    rwa [List.append_cancel_left hmade]
  · intro hnames
    exact ⟨made, rfl, hnames⟩

/-- Where no call is made, no broker is named. -/
theorem not_names_self : ¬ Names past past id := by
  rintro ⟨made, hmade, c, hc, -⟩
  obtain rfl := List.self_eq_append_right.mp hmade
  exact absurd hc List.not_mem_nil

/-! ### Once a broker was looked for -/

/-- The calls for a goal name what was found. -/
theorem broker?_of_mayCall {c : Call} (h : MayCall goal found c) : c.broker? = found := by
  cases found with
  | none =>
      cases goal with
      | present =>
          obtain ⟨body, rfl⟩ := h
          rfl
      | absent | restarted => exact h.elim
  | some id =>
      cases goal with
      | present =>
          obtain ⟨body, rfl⟩ := h
          rfl
      | absent | restarted => rcases h with rfl | rfl <;> rfl

/-- An update that is only rehearsed, or that its policy refuses, makes no call. -/
theorem run_act_silent (h : ¬ (o.dryRun = false ∧ guard t d o.policy = .ok ())) (id : String) :
    (run transport calls (act t o .present name d (some id))).2 = calls := by
  cases hdry : o.dryRun with
  | false =>
      rw [run_act hdry, course]
      rcases guard_cases t d o.policy with hguard | ⟨key, hguard⟩
      · exact absurd ⟨hdry, hguard⟩ h
      · rw [hguard]
  | true =>
      rw [run_act_dry hdry, dryCourse]
      rcases guard_cases t d o.policy with hguard | ⟨key, hguard⟩
      · rw [hguard]
      · rw [hguard]

/-- Every other run that has found its broker makes a call. -/
theorem run_act_speaks (transport : Transport) (calls : List Call) (name : String)
    (h : goal = .present → o.dryRun = false ∧ guard t d o.policy = .ok ()) (id : String) :
    (run transport calls (act t o goal name d (some id))).2 ≠ calls := by
  cases hdry : o.dryRun with
  | false =>
      rw [run_act hdry]
      cases goal with
      | present =>
          rw [course, (h rfl).2]
          dsimp only
          cases transport calls (.update id (.object (t.updateBody d))) <;> simp
      | absent =>
          rw [course]
          cases transport calls (.describe id) with
          | error e => simp
          | ok description =>
              dsimp only
              cases transport (calls ++ [.describe id]) (.delete id) <;> simp
      | restarted =>
          rw [course]
          cases transport calls (.reboot id) with
          | error e => simp
          | ok _ =>
              dsimp only
              cases transport (calls ++ [.reboot id]) (.describe id) <;> simp
  | true =>
      rw [run_act_dry hdry]
      cases goal with
      | present => exact absurd (h rfl).1 (by simp [hdry])
      | absent | restarted =>
          rw [dryCourse]
          cases transport calls (.describe id) <;> simp

/-- Once a run has looked for its broker, it names the one that was found, unless it is to be
present and the update is only rehearsed or refused. -/
theorem names_act_iff : Names calls (run transport calls (act t o goal name d found)).2 id ↔
    found = some id ∧ (goal = .present → o.dryRun = false ∧ guard t d o.policy = .ok ()) := by
  obtain ⟨⟨made, hmade, hmay⟩, -⟩ := run_act_bounded t transport name d calls o goal found
  constructor
  · intro hnames
    rw [hmade] at hnames
    obtain ⟨c, hc, hid⟩ := names_append_iff.mp hnames
    obtain rfl : found = some id := (broker?_of_mayCall (hmay c hc)).symm.trans hid
    refine ⟨rfl, ?_⟩
    rintro rfl
    by_contra hstop
    rw [run_act_silent hstop, List.self_eq_append_right] at hmade
    subst hmade
    cases hc
  · rintro ⟨rfl, hgo⟩
    have hspeaks := run_act_speaks transport calls name hgo id
    rw [hmade] at hspeaks ⊢
    rw [names_append_iff]
    cases made with
    | nil => exact absurd (List.append_nil calls) hspeaks
    | cons c rest =>
        exact ⟨c, List.mem_cons_self, broker?_of_mayCall (hmay c List.mem_cons_self)⟩

/-! ### Whole runs -/

/-- The search for a broker names none. -/
theorem names_search_iff {result : Except Failure (Option String)}
    (hsearch : run transport past (Listing.findBrokerWithin bound name) = (result, calls)) :
    Names past (calls ++ made) id ↔ Names calls (calls ++ made) id := by
  obtain ⟨tokens, htokens⟩ := Listing.findBrokerWithin_calls transport bound name past
  rw [hsearch] at htokens
  obtain rfl : calls = _ := htokens
  rw [names_append_iff, List.append_assoc, names_append_iff]
  constructor
  · rintro ⟨c, hc, hid⟩
    rcases List.mem_append.mp hc with hc | hc
    · obtain ⟨token, -, rfl⟩ := List.mem_map.mp hc
      cases hid
    · exact ⟨c, hc, hid⟩
  · rintro ⟨c, hc, hid⟩
    exact ⟨c, List.mem_append_right _ hc, hid⟩

/-- A search that ends a run leaves every broker unnamed. -/
theorem not_names_search {result : Except Failure (Option String)}
    (hsearch : run transport past (Listing.findBrokerWithin bound name) = (result, calls)) :
    ¬ Names past calls id := by
  rw [← List.append_nil calls, names_search_iff hsearch, List.append_nil]
  exact not_names_self

/-- A run names exactly the broker that its search has found, unless it is to be present and the
update is only rehearsed or refused. -/
theorem names_converge_iff :
    Names past (run transport past (convergeWithin t o bound goal d)).2 id ↔
      ∃ name calls, name? d = some name ∧
        run transport past (Listing.findBrokerWithin bound name) = (.ok (some id), calls) ∧
        (goal = .present → o.dryRun = false ∧ guard t d o.policy = .ok ()) := by
  rcases run_cases t o bound goal d transport past with
    ⟨hname, hrun⟩ | ⟨name, hname, ⟨e, calls, hsearch, hrun⟩ | ⟨found, calls, hsearch, hrun⟩⟩
  · rw [hrun]
    refine iff_of_false not_names_self ?_
    rintro ⟨sought, calls, hsought, -⟩
    cases hname.symm.trans hsought
  · rw [hrun]
    refine iff_of_false (not_names_search hsearch) ?_
    rintro ⟨sought, calls', hsought, hfound, -⟩
    obtain rfl := Option.some.inj (hname.symm.trans hsought)
    cases hsearch.symm.trans hfound
  · obtain ⟨⟨made, hmade, -⟩, -⟩ := run_act_bounded t transport name d calls o goal found
    rw [hrun, hmade, names_search_iff hsearch, ← hmade, names_act_iff]
    constructor
    · rintro ⟨rfl, hgo⟩
      exact ⟨name, calls, hname, hsearch, hgo⟩
    · rintro ⟨sought, calls', hsought, hfound, hgo⟩
      obtain rfl := Option.some.inj (hname.symm.trans hsought)
      cases hsearch.symm.trans hfound
      exact ⟨rfl, hgo⟩

/-! ### Descriptions -/

/-- The description of a broker names that one. -/
theorem names_details_iff (sent : String) :
    Names past (run transport past (details sent)).2 id ↔ sent = id := by
  rw [details, run_call, names_append_iff]
  simp [Call.broker?]

theorem filter_eq_some_iff {given : Option String} {s : String} :
    given.filter (!·.isEmpty) = some s ↔ given = some s ∧ s ≠ "" := by
  simp [Option.filter_eq_some_iff]

theorem filter_eq_none_iff {given : Option String} :
    given.filter (!·.isEmpty) = none ↔ ∀ s, given = some s → s = "" := by
  simp [Option.filter_eq_none_iff]

/-- Where a search is followed by the description of what it finds, and by no call if it finds
nothing, what is found is named. -/
theorem names_bind_search_iff {next : Option String → Program Json}
    (hsome : ∀ sent, next (some sent) = details sent) {fault : Fault}
    (hnone : next none = .refuse fault) :
    Names past (run transport past (Listing.findBrokerWithin bound name >>= next)).2 id ↔
      ∃ calls, run transport past (Listing.findBrokerWithin bound name) = (.ok (some id), calls) := by
  cases hsearch : run transport past (Listing.findBrokerWithin bound name) with
  | mk result calls =>
      cases result with
      | error e =>
          rw [run_bind_error transport past hsearch]
          exact iff_of_false (not_names_search hsearch) (by simp)
      | ok found =>
          rw [run_bind_ok transport past hsearch]
          cases found with
          | none =>
              rw [hnone, run_refuse]
              exact iff_of_false (not_names_search hsearch) (by simp)
          | some sent =>
              rw [hsome, details, run_call, names_search_iff hsearch, names_append_iff]
              simp [Call.broker?]

/-- A description names the identifier that is given, unless it is empty, and otherwise the one that
the search for the given name has found. -/
theorem names_describe_iff {givenId givenName : Option String} :
    Names past (run transport past (describeWithin bound givenId givenName)).2 id ↔
      (givenId = some id ∧ id ≠ "") ∨
      ((∀ s, givenId = some s → s = "") ∧ ∃ name, givenName = some name ∧ name ≠ "" ∧
        ∃ calls,
          run transport past (Listing.findBrokerWithin bound name) = (.ok (some id), calls)) := by
  simp only [← and_assoc, ← filter_eq_some_iff, ← filter_eq_none_iff, describeWithin]
  cases hid : givenId.filter (!·.isEmpty) with
  | some sent => simp [names_details_iff]
  | none =>
      cases hname : givenName.filter (!·.isEmpty) with
      | none => simp [not_names_self]
      | some name =>
          simpa using names_bind_search_iff (fun _ ↦ rfl) rfl

/-- The brokers that calls name, whatever the control plane answers. A run names the broker that its
search has found, unless it is to be present and the update is only rehearsed or refused. A
description names the identifier that is given, unless it is empty, and otherwise what the search
for the given name has found. What is found is listed, with the name, on a page that was fetched. So
where no broker is listed with an empty identifier, none is named by one. -/
theorem named_brokers_exact (t : Table) (o : RunOptions) (transport : Transport)
    (past : List Call) (bound : Nat) (goal : Goal) (d : Declaration)
    (givenId givenName : Option String) :
    let search (name : String) := run transport past (Listing.findBrokerWithin bound name)
    let whole := run transport past (convergeWithin t o bound goal d)
    let shown := run transport past (describeWithin bound givenId givenName)
    (∀ id, Names past whole.2 id ↔ ∃ name calls, name? d = some name ∧
      search name = (.ok (some id), calls) ∧
      (goal = .present → o.dryRun = false ∧ guard t d o.policy = .ok ())) ∧
    (∀ id, Names past shown.2 id ↔ (givenId = some id ∧ id ≠ "") ∨
      ((∀ s, givenId = some s → s = "") ∧ ∃ name, givenName = some name ∧ name ≠ "" ∧
        ∃ calls, search name = (.ok (some id), calls))) ∧
    (∀ name id calls, search name = (.ok (some id), calls) →
      ∃ page, Listing.Fetched transport past calls page ∧
        ∃ summary ∈ page.items, Listing.Identifies name id summary) ∧
    ((∀ name page, Listing.Fetched transport past (search name).2 page →
        ∀ summary ∈ page.items, ¬ Listing.Identifies name "" summary) →
      ¬ Names past whole.2 "" ∧ ¬ Names past shown.2 "") := by
  intro search whole shown
  refine ⟨fun _ ↦ names_converge_iff, fun _ ↦ names_describe_iff,
    fun _ _ _ ↦ Listing.fetched_of_search, ?_⟩
  intro hlisted
  have hfinds (name : String) (calls : List Call) : search name ≠ (.ok (some ""), calls) := by
    intro hsearch
    obtain ⟨page, hpage, summary, hsummary, hidentifies⟩ := Listing.fetched_of_search hsearch
    have hcalls : (search name).2 = calls := congrArg Prod.snd hsearch
    rw [← hcalls] at hpage
    exact hlisted name page hpage summary hsummary hidentifies
  constructor
  · intro hnames
    obtain ⟨name, calls, -, hsearch, -⟩ := names_converge_iff.mp hnames
    exact hfinds name calls hsearch
  · intro hnames
    rcases names_describe_iff.mp hnames with ⟨-, hne⟩ | ⟨-, name, -, -, calls, hsearch⟩
    · exact hne rfl
    · exact hfinds name calls hsearch

/-- A control plane that lists a broker called `orders` with an empty identifier. -/
def emptyIdentifierListing : Fixture :=
  { Fixture.empty with
    brokerPages :=
      [(none, ⟨[.object [("BrokerId", .string ""), ("BrokerName", .string "orders")]], none⟩)]
    descriptions := [("", .string "all brokers")] }

/-- A broker that is listed with an empty identifier is described, updated, deleted and rebooted
under it. -/
theorem empty_identifier_is_named :
    let transport : Transport := fun _ c ↦ emptyIdentifierListing.answer c
    let d : Declaration := [("broker_name", .string "orders")]
    let calls (goal : Goal) :=
      (run transport [] (converge .standard ⟨false, .drop, "", ""⟩ goal d)).2
    let listing : Call := .listBrokers 100 none
    (run transport [] (describe (some "") (some "orders"))).2 = [listing, .describe ""] ∧
    calls .present = [listing, .update "" (.object [])] ∧
    calls .absent = [listing, .describe "", .delete ""] ∧
    calls .restarted = [listing, .reboot "", .describe ""] :=
  ⟨rfl, rfl, rfl, rfl⟩

end Broker

end BrokerControl
