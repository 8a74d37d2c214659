import BrokerControl.Proofs.Queries

/-!
# How calls are addressed

Behind the URL of all brokers, a call is addressed by segments of a path and perhaps a query
(`Endpoint.url_route`). Neither can run into the other, so a method and a URL tell the call but for
its body, and the identifier in the URL is read back (`Endpoint.routes_unambiguous`).
-/

namespace BrokerControl

namespace Percent

/-- Texts are told apart by their components. -/
theorem encode_inj {s s' : String} : encode s = encode s' ↔ s = s' := by
  refine ⟨fun h ↦ Option.some.inj ?_, congrArg encode⟩
  rw [← decode?_encode s, h, decode?_encode]

end Percent

namespace Query

/-- Pages are told apart by their queries; having no token is not having an empty one. -/
theorem page_inj {limit limit' : Nat} {token token' : Option String} :
    page limit token = page limit' token' ↔ limit = limit' ∧ token = token' := by
  constructor
  · intro h
    have hread := parameters?_page limit token
    rw [h, parameters?_page] at hread
    obtain ⟨hlimit, htoken⟩ := List.cons.inj (Option.some.inj hread)
    obtain ⟨-, hlimit⟩ := Prod.mk.inj hlimit
    refine ⟨(Digit.toString_inj.mp hlimit).symm, ?_⟩
    cases token <;> cases token' <;> simp_all
  · rintro ⟨rfl, rfl⟩
    rfl

end Query

namespace Call

/-- The broker that a call names. -/
def broker? : Call → Option String
  | listBrokers .. | create _ => none
  | describe id | update id _ | delete id | reboot id | listUsers id .. => some id

/-- What is left of a call without its body: the operation, and the identifier, the limit and the
token that it has. -/
def bare : Call → Call
  | create _ => create .null
  | update id _ => update id .null
  | c => c

end Call

namespace Endpoint

/-! ### Paths and queries -/

/-- Segments of a path, each behind a slash, and a query behind its question mark. -/
def written (segments : List (List Char)) (query : Option (List Char)) : List Char :=
  segments.flatMap ('/' :: ·) ++ (query.map ('?' :: ·)).getD []

/-- `IsSegment s` says that `s` ends at the next slash, question mark or number sign. -/
def IsSegment (s : List Char) : Prop := ∀ c ∈ s, c ≠ '/' ∧ c ≠ '?' ∧ c ≠ '#'

/-- Whether a text is a segment can be read off its characters. -/
theorem isSegment_of_all {s : List Char}
    (h : (s.all fun c ↦ c != '/' && c != '?' && c != '#') = true) : IsSegment s := by
  intro c hc
  simpa [and_assoc] using List.all_eq_true.mp h c hc

section

variable {segments segments' : List (List Char)} {query query' : Option (List Char)}

theorem split_segments (h : ∀ s ∈ segments, IsSegment s) :
    Pieces.split '/' (segments.flatMap ('/' :: ·)) = [] :: segments := by
  induction segments with
  | nil => rfl
  | cons s segments ih =>
      obtain ⟨hs, hsegments⟩ := List.forall_mem_cons.mp h
      have hslash : '/' ∉ s := fun hmem ↦ (hs _ hmem).1 rfl
      -- The slash in front of the next segment both ends this one and begins the rest.
      have hrest := ih hsegments
      rw [List.flatMap_cons, List.cons_append, Pieces.split, if_pos rfl]
      cases segments with
      | nil => rw [List.flatMap_nil, List.append_nil, Pieces.split_of_notMem hslash]
      | cons s' segments =>
          rw [List.flatMap_cons, List.cons_append] at hrest ⊢
          rw [Pieces.split, if_pos rfl] at hrest
          rw [Pieces.split_append_cons hslash, (List.cons.inj hrest).2]

/-- The path ends where the query begins. -/
theorem takeWhile_written (h : ∀ s ∈ segments, IsSegment s) :
    (written segments query).takeWhile (· ≠ '?') = segments.flatMap ('/' :: ·) := by
  have hpath : ∀ c ∈ segments.flatMap ('/' :: ·), (decide (c ≠ '?')) = true := by
    intro c hc
    obtain ⟨s, hs, hc⟩ := List.mem_flatMap.mp hc
    rcases List.mem_cons.mp hc with rfl | hc
    · decide
    · exact decide_eq_true (h s hs c hc).2.1
  rw [written, List.takeWhile_append_of_pos hpath]
  cases query <;> simp

/-- Paths with queries are told apart by their segments and their queries. -/
theorem written_inj (h : ∀ s ∈ segments, IsSegment s) (h' : ∀ s ∈ segments', IsSegment s) :
    written segments query = written segments' query' ↔ segments = segments' ∧ query = query' := by
  constructor
  · intro heq
    have hpath : segments.flatMap ('/' :: ·) = segments'.flatMap ('/' :: ·) := by
      have hfirst : (written segments query).takeWhile (· ≠ '?') = _ := takeWhile_written h
      rw [← hfirst, heq, takeWhile_written h']
    have hsegments : segments = segments' := by
      have hsplit := split_segments h
      rw [hpath, split_segments h'] at hsplit
      exact (List.cons.inj hsplit).2.symm
    rw [written, written, hpath] at heq
    have hquery := List.append_cancel_left heq
    refine ⟨hsegments, ?_⟩
    cases query <;> cases query' <;> simp_all
  · rintro ⟨rfl, rfl⟩
    rfl

end

/-! ### Routes -/

/-- The segments that address a call, behind the URL of all brokers. -/
def segments : Call → List (List Char)
  | .listBrokers .. | .create _ => []
  | .describe id | .update id _ | .delete id => [(Percent.encode id).toList]
  | .reboot id => [(Percent.encode id).toList, "reboot".toList]
  | .listUsers id .. => [(Percent.encode id).toList, "users".toList]

/-- The query of a call. -/
def query? : Call → Option String
  | .listBrokers limit token | .listUsers _ limit token => some (Query.page limit token)
  | _ => none

variable (e : Endpoint) (c : Call)

/-- A call is addressed by its segments and its query. -/
theorem url_route : (e.route c).url.toList =
    e.brokersUrl.toList ++ written (segments c) ((query? c).map String.toList) := by
  cases c <;> simp [route, written, segments, query?, brokerUrl, rebootUrl, usersUrl,
    Query.pageUrl_eq, String.append_assoc]

theorem isSegment_encode (id : String) : IsSegment (Percent.encode id).toList := by
  intro c hc
  refine ⟨?_, ?_, ?_⟩
  all_goals
    rintro rfl
    exact Query.notMem_encode (by decide) (by decide) id hc

/-- What holds of the identifier as a segment and of the fixed segments holds of all that address a
call. -/
theorem forall_mem_segments {p : List Char → Prop}
    (hid : ∀ id, c.broker? = some id → p (Percent.encode id).toList)
    (hreboot : p "reboot".toList) (husers : p "users".toList) : ∀ s ∈ segments c, p s := by
  cases c with
  | listBrokers | create => exact List.forall_mem_nil _
  | describe id | update id _ | delete id => exact List.forall_mem_singleton.mpr (hid id rfl)
  | reboot id =>
      exact List.forall_mem_cons.mpr ⟨hid id rfl, List.forall_mem_singleton.mpr hreboot⟩
  | listUsers id =>
      exact List.forall_mem_cons.mpr ⟨hid id rfl, List.forall_mem_singleton.mpr husers⟩

theorem isSegment_segments : ∀ s ∈ segments c, IsSegment s :=
  forall_mem_segments c (fun id _ ↦ isSegment_encode id) (isSegment_of_all (by decide))
    (isSegment_of_all (by decide))

theorem encode_toList_inj {id id' : String} :
    (Percent.encode id).toList = (Percent.encode id').toList ↔ id = id' :=
  String.toList_inj.trans Percent.encode_inj

/-- A method, segments and a query tell a call but for its body. -/
theorem bare_eq_of_address {c c' : Call} (hmethod : (e.route c).method = (e.route c').method)
    (hsegments : segments c = segments c') (hquery : query? c = query? c') : c.bare = c'.bare := by
  -- Different operations differ in one of the three; the same one keeps its arguments in them.
  cases c <;> cases c' <;>
    simp_all [route, segments, query?, Call.bare, encode_toList_inj, Query.page_inj]

/-- The body of a call does not show in its method and its URL. -/
theorem route_bare :
    (e.route c.bare).method = (e.route c).method ∧ (e.route c.bare).url = (e.route c).url := by
  cases c <;> exact ⟨rfl, rfl⟩

/-- The part of a URL that names a broker: the segment behind the URL of all brokers. -/
def brokerPart? (url : String) : Option String :=
  match url.toList.drop e.brokersUrl.toList.length with
  | '/' :: rest => some (String.ofList (rest.takeWhile fun c ↦ c ≠ '/' && c ≠ '?' && c ≠ '#'))
  | _ => none

theorem brokerPart?_of_written {url : String} {s : List Char} {more : List (List Char)}
    {query : Option (List Char)} (hs : IsSegment s)
    (hurl : url.toList = e.brokersUrl.toList ++ written (s :: more) query) :
    e.brokerPart? url = some (String.ofList s) := by
  have hkept : ∀ c ∈ s, (c ≠ '/' && c ≠ '?' && c ≠ '#') = true := by
    intro c hc
    simpa [and_assoc] using hs c hc
  have hend : ((more.flatMap ('/' :: ·) ++ (query.map ('?' :: ·)).getD []).takeWhile
      fun c ↦ c ≠ '/' && c ≠ '?' && c ≠ '#') = [] := by
    cases more with
    | nil => cases query <;> simp
    | cons s' more => simp
  rw [brokerPart?, hurl, List.drop_left, written, List.flatMap_cons, List.cons_append,
    List.cons_append, List.append_assoc]
  show some (String.ofList (List.takeWhile _ (s ++ _))) = _
  rw [List.takeWhile_append_of_pos hkept, hend, List.append_nil]

/-- The identifier of a call is read back from its URL. -/
theorem decode?_brokerPart? :
    (e.brokerPart? (e.route c).url).bind Percent.decode? = c.broker? := by
  have hurl := url_route e c
  have hread (id : String) :
      Percent.decode? (String.ofList (Percent.encode id).toList) = some id := by
    rw [String.ofList_toList, Percent.decode?_encode]
  cases c with
  | listBrokers limit token =>
      rw [brokerPart?, hurl, List.drop_left]
      rfl
  | create body =>
      rw [brokerPart?, hurl, List.drop_left]
      rfl
  | describe id | update id _ | delete id | reboot id | listUsers id =>
      rw [brokerPart?_of_written e (isSegment_encode id) hurl]
      exact hread id

/-- Slashes at the end of an address do not count. -/
theorem ofText_append_slashes (address : String) (token : Option String) (n : Nat) :
    ofText (address ++ String.ofList (List.replicate n '/')) token = ofText address token := by
  have hslash : ∀ c ∈ List.replicate n '/', (decide (c = '/')) = true := by
    intro c hc
    exact decide_eq_true (List.eq_of_mem_replicate hc)
  rw [ofText, ofText, String.toList_append, String.toList_ofList, List.reverse_append,
    List.reverse_replicate, List.dropWhile_append_of_pos hslash]

/-- Calls on the wire. At one endpoint, two calls have the same method and URL exactly if they are
the same operation with the same identifier, limit and token; the identifier is read back from the
URL. Endpoints whose addresses differ in the slashes at their end have the same URLs. -/
theorem routes_unambiguous :
    (∀ (e : Endpoint) (c c' : Call),
      (e.route c).method = (e.route c').method ∧ (e.route c).url = (e.route c').url ↔
        c.bare = c'.bare) ∧
    (∀ (e : Endpoint) (c : Call),
      (e.brokerPart? (e.route c).url).bind Percent.decode? = c.broker?) ∧
    ∀ (address : String) (token : Option String) (n m : Nat) (c : Call),
      (ofText (address ++ String.ofList (List.replicate n '/')) token).route c =
        (ofText (address ++ String.ofList (List.replicate m '/')) token).route c := by
  refine ⟨fun e c c' ↦ ⟨?_, ?_⟩, decode?_brokerPart?, fun address token n m c ↦ ?_⟩
  · rintro ⟨hmethod, hurl⟩
    have hwritten := congrArg String.toList hurl
    rw [url_route, url_route] at hwritten
    obtain ⟨hsegments, hquery⟩ := (written_inj (isSegment_segments c) (isSegment_segments c')).mp
      (List.append_cancel_left hwritten)
    refine bare_eq_of_address e hmethod hsegments ?_
    exact Option.map_injective (fun _ _ ↦ String.toList_injective) hquery
  · intro hbare
    obtain ⟨hmethod, hurl⟩ := route_bare e c
    obtain ⟨hmethod', hurl'⟩ := route_bare e c'
    exact ⟨by rw [← hmethod, hbare, hmethod'], by rw [← hurl, hbare, hurl']⟩
  · rw [ofText_append_slashes, ofText_append_slashes]

end Endpoint

end BrokerControl
