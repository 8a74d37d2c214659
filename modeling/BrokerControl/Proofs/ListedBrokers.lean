import BrokerControl.Proofs.Calls
import BrokerControl.Proofs.Searches
import BrokerControl.Service.Fixture

/-!
# Brokers that are listed and not found

When a search says that there is no broker of a name, and so when a run creates one or says that it
cannot be found, no summary on any page that was fetched gives that name an identifier
(`Broker.not_found_only_without_identifier`). A summary that has the name and no identifier is
passed over as if it were of another broker: `Broker.listed_broker_is_not_found` is a run that
creates a broker whose name it has just read.
-/

namespace BrokerControl

open Program

namespace Listing

/-- `Fetched transport past calls page` says that one of the calls made after `past` lists brokers
and is answered with `page`. -/
def Fetched (transport : Transport) (past calls : List Call) (page : Page) : Prop :=
  ∃ made limit token rest, calls = past ++ made ++ .listBrokers limit token :: rest ∧
    transport (past ++ made) (.listBrokers limit token) = .ok page

variable {transport : Transport} {past calls : List Call} {pages : List Page}
  {tokens : List String} {last page : Page}

/-- Before the first call nothing is fetched. -/
theorem not_fetched_self : ¬ Fetched transport past past page := by
  rintro ⟨made, limit, token, rest, hcalls, -⟩
  have hlength := congrArg List.length hcalls
  simp only [List.length_append, List.length_cons] at hlength
  omega

/-- What was fetched was fetched by the last call or before it. -/
theorem Fetched.of_concat {c : Call} (h : Fetched transport past (calls ++ [c]) page) :
    Fetched transport past calls page ∨ ∃ limit token, c = .listBrokers limit token ∧
      transport calls (.listBrokers limit token) = .ok page := by
  obtain ⟨made, limit, token, rest, hcalls, hpage⟩ := h
  rcases List.eq_nil_or_concat rest with rfl | ⟨front, final, rfl⟩
  · obtain ⟨rfl, hlast⟩ := List.append_inj' hcalls rfl
    exact .inr ⟨limit, token, List.singleton_inj.mp hlast, hpage⟩
  · rw [List.concat_eq_append, ← List.cons_append, ← List.append_assoc] at hcalls
    exact .inl ⟨made, limit, token, front, (List.append_inj' hcalls rfl).1, hpage⟩

/-- Calls that list no brokers fetch no page of them. -/
theorem Fetched.of_append {made : List Call}
    (hmade : ∀ limit token, .listBrokers limit token ∉ made)
    (h : Fetched transport past (calls ++ made) page) : Fetched transport past calls page := by
  induction made using List.reverseRecOn with
  | nil => rwa [List.append_nil] at h
  | append_singleton made c ih =>
      rw [← List.append_assoc] at h
      rcases h.of_concat with h | ⟨limit, token, rfl, -⟩
      · exact ih (fun limit token hmem ↦ hmade limit token (List.mem_append_left _ hmem)) h
      · exact absurd (List.mem_append_right made (List.mem_singleton_self _)) (hmade limit token)

/-- The pages that a search fetches are those that it is led through. -/
theorem mem_of_fetched (htrail : (Feed.brokers transport).Trail past pages tokens)
    (hreply : (Feed.brokers transport).reply past tokens = .ok last)
    (h : Fetched transport past ((Feed.brokers transport).sent past tokens) page) :
    page ∈ pages ++ [last] := by
  -- The last call was answered with `last`; what was fetched before stands on the trail so far.
  induction htrail generalizing last with
  | start =>
      rw [Feed.sent_eq, Feed.earlier_nil] at h
      rcases h.of_concat with h | ⟨limit, token, hcall, hpage⟩
      · exact absurd h not_fetched_self
      · obtain ⟨rfl, rfl⟩ := Call.listBrokers.inj hcall
        rw [Feed.reply, Feed.earlier_nil] at hreply
        obtain rfl := Except.ok.inj (hreply.symm.trans hpage)
        exact List.mem_singleton_self _
  | @follow pages tokens previous token _ hprevious _ _ ih =>
      rw [Feed.sent_eq] at h
      rcases h.of_concat with h | ⟨limit, token, hcall, hpage⟩
      · rw [Feed.earlier_concat] at h
        exact List.mem_append_left _ (ih hprevious h)
      · obtain ⟨rfl, rfl⟩ := Call.listBrokers.inj hcall
        obtain rfl := Except.ok.inj (hreply.symm.trans hpage)
        exact List.mem_append_right _ (List.mem_singleton_self _)

/-- Where a search finds no identifier, no page that it fetched has one for the name. -/
theorem noMatch_of_fetched {bound : Nat} {name : String}
    (hsearch : run transport past (findBrokerWithin bound name) = (.ok none, calls))
    (h : Fetched transport past calls page) : NoMatch name page.items := by
  obtain ⟨pages, tokens, last, htrail, -, hpages, hreply, -, rfl⟩ :=
    findBrokerWithin_eq_none_iff.mp hsearch
  exact hpages page (mem_of_fetched htrail hreply h)

end Listing

namespace Broker

variable {t : Table} {o : RunOptions} {transport : Transport} {past calls : List Call}
  {name : String} {d : Declaration} {bound : Nat} {goal : Goal}

/-- `Unidentified transport past calls name` says that no summary of the broker called `name`, on no
page that was fetched, has a text as its identifier. -/
def Unidentified (transport : Transport) (past calls : List Call) (name : String) : Prop :=
  ∀ page, Listing.Fetched transport past calls page → ∀ summary ∈ page.items,
    summary.field? "BrokerName" = some (.string name) →
      ∀ id, summary.field? "BrokerId" ≠ some (.string id)

/-- Where a search finds no identifier there is none. -/
theorem unidentified_of_search
    (hsearch : run transport past (Listing.findBrokerWithin bound name) = (.ok none, calls)) :
    Unidentified transport past calls name := by
  intro page hpage summary hsummary hname id hid
  exact Listing.noMatch_of_fetched hsearch hpage summary hsummary id ⟨hname, hid⟩

/-- What a run calls once it has looked for its broker fetches no page of brokers. -/
theorem unidentified_of_run {found : Option String} {rest : Except Failure Outcome × List Call}
    (hrest : Bounded goal found name calls rest) (h : Unidentified transport past calls name) :
    Unidentified transport past rest.2 name := by
  obtain ⟨⟨made, hcalls, hmade⟩, -⟩ := hrest
  intro page hpage
  rw [hcalls] at hpage
  refine h page (hpage.of_append ?_)
  intro limit token hmem
  exact not_mayCall_listBrokers limit token (hmade _ hmem)

/-- A search creates no broker. -/
theorem create_notMem_search {found : Except Failure (Option String)}
    (hsearch : run transport past (Listing.findBrokerWithin bound name) = (found, calls)) :
    ∃ listed, calls = past ++ listed ∧ ∀ body, .create body ∉ listed := by
  obtain ⟨tokens, htokens⟩ := Listing.findBrokerWithin_calls transport bound name past
  exact ⟨_, (congrArg Prod.snd hsearch).symm.trans htokens, by simp⟩

/-- A search that fails does not say that a broker cannot be found. -/
theorem search_ne_notFound {e : Failure}
    (hsearch : run transport past (Listing.findBrokerWithin bound name) = (.error e, calls))
    (n : String) : e ≠ .ofFault (.notFound n) := by
  obtain ⟨_, _, _, _, ⟨_, _, hfail⟩ | ⟨_, _, rfl⟩⟩ :=
    Listing.findBrokerWithin_eq_error_iff.mp hsearch
  · obtain ⟨cause, _, rfl⟩ | ⟨_, _, _, _, _, _, rfl⟩ := hfail
    · exact Failure.within_ne_ofFault cause _ _
    · simp
  · simp [Failure.ofFault, Failure.ofCause]

/-- A run that creates a broker has looked for it and has found none. -/
theorem search_of_create {made : List Call} {body : Json}
    (hmade : (run transport past (convergeWithin t o bound goal d)).2 = past ++ made)
    (hcreate : .create body ∈ made) :
    ∃ name calls, name? d = some name ∧
      run transport past (Listing.findBrokerWithin bound name) = (.ok none, calls) ∧
      run transport past (convergeWithin t o bound goal d) =
        run transport calls (act t o goal name d none) := by
  rcases run_cases t o bound goal d transport past with
    ⟨-, hrun⟩ | ⟨name, hname, ⟨e, calls, hsearch, hrun⟩ | ⟨found, calls, hsearch, hrun⟩⟩
  · rw [hrun, List.self_eq_append_right] at hmade
    subst hmade
    cases hcreate
  · obtain ⟨listed, rfl, hlisted⟩ := create_notMem_search hsearch
    rw [hrun] at hmade
    obtain rfl := List.append_cancel_left hmade
    exact absurd hcreate (hlisted body)
  · obtain ⟨listed, rfl, hlisted⟩ := create_notMem_search hsearch
    obtain ⟨⟨rest, hrest, hmay⟩, -⟩ :=
      run_act_bounded t transport name d (past ++ listed) o goal found
    rw [hrun, hrest, List.append_assoc] at hmade
    obtain rfl := List.append_cancel_left hmade
    have hmem : .create body ∈ rest := (List.mem_append.mp hcreate).resolve_left (hlisted body)
    obtain rfl := eq_none_of_mayCall_create (hmay _ hmem)
    exact ⟨name, past ++ listed, hname, hsearch, hrun⟩

/-- A run that says that a broker cannot be found has looked for it and has found none. -/
theorem search_of_notFound
    (hresult : (run transport past (convergeWithin t o bound goal d)).1 =
      .error (.ofFault (.notFound name))) :
    ∃ calls, name? d = some name ∧
      run transport past (Listing.findBrokerWithin bound name) = (.ok none, calls) ∧
      run transport past (convergeWithin t o bound goal d) =
        run transport calls (act t o goal name d none) := by
  rcases run_cases t o bound goal d transport past with
    ⟨-, hrun⟩ | ⟨sought, hname, ⟨e, calls, hsearch, hrun⟩ | ⟨found, calls, hsearch, hrun⟩⟩
  · rw [hrun] at hresult
    simp at hresult
  · rw [hrun] at hresult
    exact absurd (Except.error.inj hresult) (search_ne_notFound hsearch name)
  · obtain ⟨-, hnotFound⟩ := run_act_bounded t transport sought d calls o goal found
    rw [hrun] at hresult
    obtain ⟨rfl, rfl⟩ := hnotFound name hresult
    exact ⟨calls, hname, hsearch, hrun⟩

/-- A search says that there is no broker of a name only if no summary that was fetched gives the
name an identifier. The same holds of a run that creates a broker, and of one that says that a
broker cannot be found, for the name that its declaration gives. -/
theorem not_found_only_without_identifier (t : Table) (o : RunOptions) (transport : Transport)
    (past : List Call) (bound : Nat) (goal : Goal) (d : Declaration) :
    let whole := run transport past (convergeWithin t o bound goal d)
    (∀ name calls, run transport past (Listing.findBrokerWithin bound name) = (.ok none, calls) →
      Unidentified transport past calls name) ∧
    (∀ made body, whole.2 = past ++ made → .create body ∈ made →
      ∃ name, Object.get? d "broker_name" = some (.string name) ∧
        Unidentified transport past whole.2 name) ∧
    ∀ name, whole.1 = .error (.ofFault (.notFound name)) →
      Object.get? d "broker_name" = some (.string name) ∧
        Unidentified transport past whole.2 name := by
  intro whole
  refine ⟨fun name calls hsearch ↦ unidentified_of_search hsearch, ?_, ?_⟩
  · intro made body hmade hcreate
    obtain ⟨name, calls, hname, hsearch, hrun⟩ := search_of_create hmade hcreate
    have hrest := run_act_bounded t transport name d calls o goal none
    refine ⟨name, (name?_eq_some_iff.mp hname).1, ?_⟩
    rw [← hrun] at hrest
    exact unidentified_of_run hrest (unidentified_of_search hsearch)
  · intro name hresult
    obtain ⟨calls, hname, hsearch, hrun⟩ := search_of_notFound hresult
    have hrest := run_act_bounded t transport name d calls o goal none
    refine ⟨(name?_eq_some_iff.mp hname).1, ?_⟩
    rw [← hrun] at hrest
    exact unidentified_of_run hrest (unidentified_of_search hsearch)

/-- A control plane that lists a broker called `orders` without an identifier. -/
def unidentifiedListing : Fixture :=
  { Fixture.empty with
    brokerPages := [(none, ⟨[.object [("BrokerName", .string "orders")]], none⟩)] }

/-- A broker that is listed under its name is not found, and is created a second time. -/
theorem listed_broker_is_not_found :
    let transport : Transport := fun _ c ↦ unidentifiedListing.answer c
    let d : Declaration :=
      [("broker_name", .string "orders"), ("security_groups", .array [.string "sg-1"])]
    let strict : RunOptions := ⟨false, .reject, "", ""⟩
    let page : Page := ⟨[.object [("BrokerName", .string "orders")]], none⟩
    let listing : List Call := [.listBrokers 100 none]
    run transport [] (Listing.findBroker "orders") = (.ok none, listing) ∧
    Listing.Fetched transport [] listing page ∧
    (∃ summary ∈ page.items, summary.field? "BrokerName" = some (.string "orders")) ∧
    (run transport [] (converge .standard strict .absent d)).1 =
      .error (.ofFault (.notFound "orders")) ∧
    ∃ body, (run transport [] (converge .standard strict .present d)).2 =
      listing ++ [.create body] := by
  intro transport d strict page listing
  refine ⟨rfl, ⟨[], 100, none, [], rfl, rfl⟩, ⟨_, List.mem_singleton_self _, rfl⟩, rfl, ?_⟩
  exact ⟨_, rfl⟩

end Broker

end BrokerControl
