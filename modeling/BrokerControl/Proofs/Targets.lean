import BrokerControl.Proofs.LocalServers

/-!
# What the target of a request names

The target of a call about a broker should be one segment that stands for the identifier, behind the
path of all brokers (`Call.Reaches`). It is, unless the identifier is one dot or two: these need no
encoding, so the reading of the URL takes them for dot segments (`Client.target_names_broker`).
-/

namespace BrokerControl

namespace Call

/-- What a call about a broker addresses beneath the broker. -/
def beneath : Call → String
  | reboot _ => "reboot"
  | listUsers _ limit token => "users?" ++ Query.page limit token
  | _ => ""

/-- What follows the identifier in the target of a call about a broker. -/
def suffix (c : Call) : String :=
  match c with
  | reboot _ | listUsers .. => "/" ++ c.beneath
  | _ => ""

/-- `c.Reaches id target` says that `target` names the broker `id`, and there what `c` is about:
behind the path of all brokers stands one segment, which is not empty and stands for `id`. -/
def Reaches (c : Call) (id target : String) : Prop :=
  ∃ segment : String, segment ≠ "" ∧ Endpoint.IsSegment segment.toList ∧
    Percent.decode? segment = some id ∧ target = "/v1/brokers/" ++ segment ++ c.suffix

end Call

namespace Endpoint

variable {port : Nat} {c : Call} {id : String}

/-- The target of a call about a broker whose identifier is no dot segment. -/
theorem target_urlAt (hid : c.broker? = some id) (hdot : id ≠ ".") (hdots : id ≠ "..") :
    (urlAt port c).target = "/v1/brokers/" ++ Percent.encode id ++ c.suffix := by
  have hpath : (urlAt port c).path = _ :=
    path_urlAt port c (fun h ↦ hdot (Option.some.inj (hid.symm.trans h)))
      fun h ↦ hdots (Option.some.inj (hid.symm.trans h))
  rw [Url.target, hpath, ← String.toList_inj]
  cases c with
  | listBrokers | create => cases hid
  | describe _ | update _ _ | delete _ | reboot _ | listUsers _ =>
      obtain rfl := Option.some.inj hid
      simp [urlAt, Url.pathOf, pathSegments, segments, query?, Call.suffix, Call.beneath]

/-- One dot is the place of all brokers. -/
theorem target_urlAt_dot (hid : c.broker? = some ".") :
    (urlAt port c).target = "/v1/brokers/" ++ c.beneath := by
  cases c with
  | listBrokers | create => cases hid
  | describe _ | update _ _ | delete _ | reboot _ | listUsers _ =>
      obtain rfl := Option.some.inj hid
      rfl

/-- Two dots are the place above all brokers. -/
theorem target_urlAt_dots (hid : c.broker? = some "..") :
    (urlAt port c).target = "/v1/" ++ c.beneath := by
  cases c with
  | listBrokers | create => cases hid
  | describe _ | update _ _ | delete _ | reboot _ | listUsers _ =>
      obtain rfl := Option.some.inj hid
      rfl

theorem length_beneath_le (c : Call) : c.beneath.length ≤ c.suffix.length := by
  cases c <;> simp only [Call.suffix, Call.beneath, String.length_append] <;> omega

/-- A target that is too short names no broker. -/
theorem not_reaches_of_length {target : String}
    (h : target.length ≤ "/v1/brokers/".length + c.beneath.length) : ¬ c.Reaches id target := by
  rintro ⟨segment, hne, -, -, rfl⟩
  have hpos : 0 < segment.length := Nat.pos_of_ne_zero (mt String.length_eq_zero_iff.mp hne)
  have hsuffix := length_beneath_le c
  simp only [String.length_append] at h
  omega

/-- The target of a call names the broker that the call names, unless the identifier is one dot or
two. -/
theorem reaches_urlAt_iff (hid : c.broker? = some id) (hne : id ≠ "") :
    c.Reaches id (urlAt port c).target ↔ id ≠ "." ∧ id ≠ ".." := by
  constructor
  · -- Where dots are resolved, what is left is too short to have a segment for the broker.
    intro hreaches
    constructor
    · rintro rfl
      refine not_reaches_of_length ?_ hreaches
      rw [target_urlAt_dot hid, String.length_append]
    · rintro rfl
      refine not_reaches_of_length ?_ hreaches
      rw [target_urlAt_dots hid, String.length_append]
      exact Nat.add_le_add_right (by decide) _
  · rintro ⟨hdot, hdots⟩
    have hsegment : Percent.encode id ≠ "" := fun h ↦ hne (Percent.encode_inj.mp h)
    exact ⟨_, hsegment, isSegment_encode id, Percent.decode?_encode id,
      target_urlAt hid hdot hdots⟩

end Endpoint

namespace Client

/-- Requests at a port of the local machine. The URL of a call about a broker can be read, and its
target names the broker exactly if the identifier is neither one dot nor two. The request is sent
to this target, unless the token cannot be a header or the URL is too long. -/
theorem target_names_broker {port : Nat} (hport : port ≤ 65535) (token : Option String) {c : Call}
    {id : String} (hid : c.broker? = some id) (hne : id ≠ "") :
    ∃ u, Url.parse ((Endpoint.atPort port token).route c).url = .ok u ∧
      (c.Reaches id u.target ↔ id ≠ "." ∧ id ≠ "..") ∧
      request token ((Endpoint.atPort port token).route c) =
        if (token.map bearer).all isWritable = false then .error .badHeader
        else if longestUrl < u.text.utf8ByteSize then .error (.unwritable u.text)
        else .ok ⟨((Endpoint.atPort port token).route c).method, u, (token.map bearer).toList,
          ((Endpoint.atPort port token).route c).body⟩ :=
  ⟨Endpoint.urlAt port c, Endpoint.parse_route port token c hport,
    Endpoint.reaches_urlAt_iff hid hne, request_atPort token c hport⟩

/-- An identifier with a slash is one segment. -/
theorem slash_in_identifier_is_kept :
    ∃ u, Url.parse ((Endpoint.atPort 8080 none).route (.delete "a/b")).url = .ok u ∧
      (Call.delete "a/b").Reaches "a/b" u.target := by
  have hid : (Call.delete "a/b").broker? = some "a/b" := rfl
  obtain ⟨u, hparse, hreaches, -⟩ :=
    target_names_broker (by decide : 8080 ≤ 65535) none hid (by decide)
  exact ⟨u, hparse, hreaches.mpr ⟨by decide, by decide⟩⟩

/-- The target that the request of a call is sent to at a port of the local machine. -/
def targetAt? (port : Nat) (c : Call) : Option String :=
  (request none ((Endpoint.atPort port none).route c)).toOption.map (·.url.target)

/-- Deleting the broker `..` addresses what is above all brokers, deleting the broker `.` addresses
all brokers, and restarting it addresses the broker `reboot`. -/
theorem dots_name_no_broker :
    targetAt? 8080 (.delete "..") = some "/v1/" ∧ ¬ (Call.delete "..").Reaches ".." "/v1/" ∧
    targetAt? 8080 (.delete ".") = some "/v1/brokers/" ∧
    ¬ (Call.delete ".").Reaches "." "/v1/brokers/" ∧
    targetAt? 8080 (.reboot ".") = some "/v1/brokers/reboot" ∧
    ¬ (Call.reboot ".").Reaches "." "/v1/brokers/reboot" :=
  ⟨by decide +kernel, Endpoint.not_reaches_of_length (by decide),
    by decide +kernel, Endpoint.not_reaches_of_length (by decide),
    by decide +kernel, Endpoint.not_reaches_of_length (by decide)⟩

end Client

end BrokerControl
