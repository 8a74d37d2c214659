import Mathlib.Data.List.ReduceOption
import BrokerControl.CommandLine.Run
import BrokerControl.Proofs.Convergence

/-!
# The region of a connection

The region to work in can come from the arguments, the settings and two variables of the
environment. The first of them that is given counts, though it need not be the first that can be
used: an empty text stands in the way of those behind it (`Settings.place_eq_wanted_iff`). The usual
endpoint and the name that a dry run makes up belong to the region that was chosen, unless the
arguments give an empty one: then the endpoint belongs to no region and the name to the usual one
(`CommandLine.region_of_connection`).
-/

namespace BrokerControl

/-! ### The first text -/

namespace Settings

/-- The first text that is given comes from the first source or else from those behind it. -/
theorem head?_reduceOption_cons (source : Option String) (sources : List (Option String)) :
    (source :: sources).reduceOption.head? = source.or sources.reduceOption.head? := by
  cases source <;> rfl

/-- The region to work in is the first that is given, or the usual one if that is empty. -/
theorem effectiveRegion_eq (settings : Settings) (env : Surroundings) :
    settings.effectiveRegion env =
      ([settings.region, env.region, env.defaultRegion].reduceOption.head?.filter
        (· ≠ "")).getD "us-east-1" := by
  have hfirst : [settings.region, env.region, env.defaultRegion].reduceOption.head? =
      (settings.region.or env.region).or env.defaultRegion := by
    rw [head?_reduceOption_cons, head?_reduceOption_cons, head?_reduceOption_cons,
      List.reduceOption_nil, List.head?_nil, Option.or_none, Option.or_assoc]
  rw [hfirst, effectiveRegion, defaultRegion]
  congr 2
  funext text
  rw [Bool.eq_iff_iff]
  simp

/-- A text that is not empty, or else the usual one, is not empty. -/
theorem getD_ne_empty {v : Option String} (h : ∀ text, v = some text → text ≠ "") :
    v.getD "us-east-1" ≠ "" := by
  cases v with
  | none => decide
  | some text => exact h text rfl

/-- An empty text is passed over. -/
theorem place_ne_empty (first : Option String) : (first.filter (· ≠ "")).getD "us-east-1" ≠ "" :=
  getD_ne_empty fun _ h ↦ of_decide_eq_true (Option.filter_eq_some_iff.mp h).2

theorem wanted_ne_empty (given : List String) : (given.find? (· ≠ "")).getD "us-east-1" ≠ "" := by
  apply getD_ne_empty
  intro text hfound
  have hkept := List.find?_some hfound
  exact of_decide_eq_true hkept

/-- The text taken for the first one given is the first that can be used, unless the first one given
is empty and another one is not the usual one. -/
theorem place_eq_wanted_iff (given : List String) (usual : String) :
    (given.head?.filter (· ≠ "")).getD usual = (given.find? (· ≠ "")).getD usual ↔
      (given.head? = some "" → (given.find? (· ≠ "")).getD usual = usual) := by
  cases given with
  | nil => simp
  | cons text more =>
      by_cases hempty : text = ""
      · subst hempty
        simp only [List.head?_cons, Option.filter, forall_const]
        exact eq_comm
      · simp [hempty, Option.filter]

end Settings

/-! ### Endpoints -/

/-- An address that ends in no slash is taken as it is. -/
theorem Endpoint.base_ofText {address : String} (h : address.toList.getLast? ≠ some '/')
    (token : Option String) : (ofText address token).base = address := by
  have hkept : address.toList.reverse.dropWhile (· = '/') = address.toList.reverse := by
    rw [← List.head?_reverse] at h
    cases hreverse : address.toList.reverse with
    | nil => rfl
    | cons c cs =>
        have hc : c ≠ '/' := by
          intro hc
          exact h (by rw [hreverse, hc, List.head?_cons])
        rw [List.dropWhile_cons_of_neg (by simpa using hc)]
  show String.ofList (address.toList.reverse.dropWhile (· = '/')).reverse = address
  rw [hkept, List.reverse_reverse, String.ofList_toList]

/-- The usual endpoint is taken as it is. -/
theorem Endpoint.base_regional (region : String) (token : Option String) :
    (ofText (Settings.regionalEndpoint region) token).base =
      Settings.regionalEndpoint region := by
  apply base_ofText
  have hlast : ".amazonaws.com".toList.getLast? = some 'm' := by decide
  show ("https://mq." ++ region ++ ".amazonaws.com").toList.getLast? ≠ _
  rw [String.toList_append, List.getLast?_append, hlast, Option.some_or]
  decide

/-- A dry run that would create a broker makes up its identity. -/
theorem Broker.run_dry_creation {t : Table} {o : RunOptions} (hdry : o.dryRun = true)
    {transport : Program.Transport} {past : List Call} {bound : Nat} {d : Declaration}
    {name : String} {body : Body} (hname : name? d = some name)
    (hsearch : (Program.run transport past (Listing.findBrokerWithin bound name)).1 = .ok none)
    (hbody : t.creationBody d = .ok body) :
    (Program.run transport past (convergeWithin t o bound .present d)).1 =
      .ok ⟨o.placeholder name, true⟩ := by
  rw [run_search_ok hname (Prod.ext hsearch rfl), run_act_dry hdry, dryCourse, hbody]

namespace CommandLine

open Settings

variable {settings : Settings} {env : Surroundings} {g : Globals}

/-- The regions that are given; the first of them counts most. -/
def givenRegions (settings : Settings) (env : Surroundings) (g : Globals) : List String :=
  [g.region, settings.region, env.region, env.defaultRegion].reduceOption

/-- A connection is made to an endpoint among the arguments, or else to one that is a URL. -/
theorem connect_eq_ok_iff (settings : Settings) (env : Surroundings) (g : Globals)
    (endpoint : Endpoint) (region : String) :
    let chosen := g.region.getD (settings.effectiveRegion env)
    let address := (g.endpoint.or settings.endpoint).getD (regionalEndpoint chosen)
    connect settings env g = .ok (endpoint, region) ↔
      endpoint = Endpoint.ofText address (g.token.or settings.token) ∧ region = chosen ∧
        (g.endpoint.isSome = true ∨ ∃ url, Url.parse address = .ok url) := by
  intro chosen address
  cases hgiven : g.endpoint with
  | some given =>
      have haddress : address = given := by simp [address, hgiven]
      have hconnect : connect settings env g =
          .ok (Endpoint.ofText given (g.token.or settings.token), chosen) := by
        rw [connect, hgiven]
        rfl
      rw [hconnect, haddress]
      simp [eq_comm]
  | none =>
      have haddress : address = settings.endpoint.getD (regionalEndpoint chosen) := by
        simp [address, hgiven]
      have hconnect : connect settings env g = (settings.effectiveEndpoint chosen).map
          fun address ↦ (Endpoint.ofText address (g.token.or settings.token), chosen) := by
        rw [connect, hgiven]
        show (settings.effectiveEndpoint chosen >>= _) = _
        cases settings.effectiveEndpoint chosen <;> rfl
      rw [hconnect, effectiveEndpoint, ← haddress]
      cases hparse : Url.parse address <;> simp [Except.map, eq_comm]

/-- The region that is chosen is the first that is given, or the usual one if that is empty; only
an empty one among the arguments is taken as it is. -/
theorem chosen_eq : g.region.getD (settings.effectiveRegion env) =
    if g.region = some "" then ""
    else ((givenRegions settings env g).head?.filter (· ≠ "")).getD "us-east-1" := by
  rw [effectiveRegion_eq, givenRegions, head?_reduceOption_cons g.region]
  cases g.region with
  | none => rfl
  | some text =>
      by_cases hempty : text = ""
      · simp [hempty]
      · simp [hempty, Option.filter]

/-- The region that a dry run names: the one that is chosen, or the usual one for the empty one. -/
theorem named_region_eq :
    let chosen := g.region.getD (settings.effectiveRegion env)
    (if chosen.isEmpty then defaultRegion else chosen) =
      ((givenRegions settings env g).head?.filter (· ≠ "")).getD "us-east-1" := by
  intro chosen
  by_cases hempty : g.region = some ""
  · have hchosen : chosen = "" := chosen_eq.trans (if_pos hempty)
    rw [hchosen, givenRegions, hempty]
    rfl
  · have hchosen : chosen = _ := chosen_eq.trans (if_neg hempty)
    have hsome : chosen.isEmpty = false := by
      rw [hchosen]
      simpa only [String.isEmpty_eq_false_iff] using place_ne_empty _
    rw [if_neg (by simp [hsome]), hchosen]

/-- The region of a connection. A connection works in the first region that is given, or in the
usual one if that is empty; an empty one among the arguments is taken as it is. The usual endpoint
is that of the region, and a dry run that would create a broker names it there, or in the usual
region if the region is empty. So the region is the first one that can be used exactly if the
arguments do not give an empty one and no empty one stands in front of one that differs from the
usual one. -/
theorem region_of_connection (settings : Settings) (env : Surroundings) (g : Globals) :
    let given := [g.region, settings.region, env.region, env.defaultRegion].reduceOption
    let wanted := (given.find? (· ≠ "")).getD "us-east-1"
    let place := (given.head?.filter (· ≠ "")).getD "us-east-1"
    let chosen := if g.region = some "" then "" else place
    let usual := "https://mq." ++ chosen ++ ".amazonaws.com"
    let address := (g.endpoint.or settings.endpoint).getD usual
    (∀ endpoint region, connect settings env g = .ok (endpoint, region) ↔
      endpoint = Endpoint.ofText address (g.token.or settings.token) ∧ region = chosen ∧
        (g.endpoint.isSome = true ∨ ∃ url, Url.parse address = .ok url)) ∧
    (∀ token, (Endpoint.ofText usual token).base = usual) ∧
    (∀ (o : ApplyOptions) (freshId : String) (transport : Program.Transport) (past : List Call)
      (bound : Nat) (d : Declaration) (name : String) (body : Body),
      let id := "b-" ++ freshId
      o.dryRun = true → Broker.name? d = some name →
      (Program.run transport past (Listing.findBrokerWithin bound name)).1 = .ok none →
      Table.standard.creationBody d = .ok body →
      (Program.run transport past (Broker.convergeWithin .standard (runOptions o chosen freshId)
        bound .present d)).1 = .ok ⟨.object [
          ("BrokerArn", .string s!"arn:aws:mq:{place}:000000000000:broker:{name}:{id}"),
          ("BrokerId", .string id)], true⟩) ∧
    (place = wanted ↔ (given.head? = some "" → wanted = "us-east-1")) ∧
    (chosen = wanted ↔ g.region ≠ some "" ∧ place = wanted) := by
  intro given wanted place chosen usual address
  have hchosen : g.region.getD (settings.effectiveRegion env) = chosen := chosen_eq
  refine ⟨?_, ?_, ?_, ?_, ?_⟩
  · intro endpoint region
    have hconnect := connect_eq_ok_iff settings env g endpoint region
    rw [hchosen] at hconnect
    exact hconnect
  · exact Endpoint.base_regional chosen
  · intro o freshId transport past bound d name body id hdry hname hsearch hbody
    have hplace : (if chosen.isEmpty then defaultRegion else chosen) = place :=
      hchosen ▸ named_region_eq
    rw [Broker.run_dry_creation hdry hname hsearch hbody, ← hplace]
    rfl
  · exact place_eq_wanted_iff given "us-east-1"
  · have hwanted : wanted ≠ "" := wanted_ne_empty given
    by_cases hempty : g.region = some ""
    · have hchosen : chosen = "" := if_pos hempty
      simp [hchosen, hempty, hwanted.symm]
    · have hchosen : chosen = place := if_neg hempty
      simp [hchosen, hempty]

/-- A kept region that is empty hides the one of the environment. An empty one among the arguments
hides it from the endpoint, which belongs to no region, and the name that a dry run makes up is in
the usual region. -/
theorem empty_region_hides_others :
    let env : Surroundings := ⟨some "eu-west-1", none⟩
    let kept : Settings := ⟨none, some "", none⟩
    let asked : Globals := ⟨none, some "", none, .off⟩
    (connect kept env ⟨none, none, none, .off⟩).toOption =
      some (⟨"https://mq.us-east-1.amazonaws.com", none⟩, "us-east-1") ∧
    (connect Settings.empty env asked).toOption =
      some (⟨"https://mq..amazonaws.com", none⟩, "") ∧
    (RunOptions.mk true .drop "" "b-1").placeholder "web" =
      .object [("BrokerArn", .string "arn:aws:mq:us-east-1:000000000000:broker:web:b-1"),
        ("BrokerId", .string "b-1")] := by
  refine ⟨by decide +kernel, by decide +kernel, rfl⟩

end CommandLine

end BrokerControl
