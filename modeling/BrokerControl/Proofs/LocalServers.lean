import BrokerControl.Proofs.Endpoints

/-!
# URLs of a local server

What the reading of URLs comes to at a port of the local machine: its address is read as that port
(`Url.parse_local`), and the URL of a call as the segments and the query of the call behind it
(`Endpoint.parse_route`). The request of a call can be written unless the token cannot be a header
or the URL is too long (`Client.request_atPort`).
-/

namespace BrokerControl

namespace Url

variable {port : Nat}

theorem credentials?_of_none {u : Url} (hname : u.username = "") (hpassword : u.password = none) :
    u.credentials? = none := by
  have hempty : Percent.decode? "" = some "" := Percent.decode?_encode ""
  rw [credentials?, hname, hpassword, hempty]
  rfl

theorem withoutCredentials_of_none {u : Url} (h : u.credentials? = none) :
    u.withoutCredentials = u := by
  rw [withoutCredentials, h]

/-- The name of a host that is a number cannot be unfit for a message. -/
theorem isNameable_ipv4_iff {u : Url} {address : Nat} (h : u.host = some (.ipv4 address)) :
    u.IsNameable ↔ u.text.utf8ByteSize ≤ 65534 := by
  refine ⟨IsNameable.size_le, fun hsize ↦ ⟨hsize, fun name hname ↦ ?_⟩⟩
  rw [h] at hname
  cases hname

/-! ### Reading a local address -/

theorem ofWeb_local : Host.ofWeb "127.0.0.1".toList = .ok (.ipv4 0x7F000001) := by decide +kernel

/-- The port of a web address, unless it is the usual one. -/
def portOf? (port : Nat) : Option Nat := if port = 80 then none else some port

theorem toString_toList_ne_nil (port : Nat) : (toString port).toList ≠ [] := by
  rw [Nat.toString_eq_repr, Nat.repr_eq_ofList_toDigits, String.toList_ofList]
  exact Nat.toDigits_ne_nil

/-- The characters of a local address. -/
theorem forall_mem_local {p : Char → Bool}
    (hfront : "http://127.0.0.1:".toList.all p = true)
    (hdigit : ∀ c, Percent.isUnreserved c = true → p c = true) :
    ∀ c ∈ ("http://127.0.0.1:" ++ toString port).toList, p c = true := by
  intro c hc
  rw [String.toList_append] at hc
  rcases List.mem_append.mp hc with hc | hc
  · exact List.all_eq_true.mp hfront c hc
  · refine hdigit c ?_
    simp [Percent.isUnreserved, Char.isAlphanum, Query.isDigit_of_mem_toString hc]

theorem portBehind_local (hport : port ≤ 65535) :
    portBehind "http" (toString port).toList = .ok (portOf? port, []) := by
  have hdigits : (toString port).toList.takeWhile Char.isDigit = (toString port).toList :=
    List.takeWhile_eq_self_iff.mpr fun c hc ↦ Query.isDigit_of_mem_toString hc
  have hread : (toString port).toList = Nat.toDigits 10 port := String.toList_ofList
  have hsome : (toString port).toList.isEmpty = false :=
    List.isEmpty_eq_false_iff.mpr (toString_toList_ne_nil port)
  have husual : usualPort? "http" = some port ↔ port = 80 := by
    rw [show usualPort? "http" = some 80 by decide, Option.some.injEq, eq_comm]
  simp only [portBehind, hdigits, List.drop_length, hsome]
  rw [hread, Digit.value_toDigits, if_neg (by simp [hport])]
  by_cases husual' : port = 80
  · rw [portOf?, if_pos husual', if_pos (by simp [husual.mpr husual'])]
  · rw [portOf?, if_neg husual', if_neg (by simp [mt husual.mp husual'])]

theorem hostAndPort_local (hport : port ≤ 65535) :
    hostAndPort "http" ("127.0.0.1:".toList ++ (toString port).toList) =
      .ok (.ipv4 0x7F000001, portOf? port, []) := by
  have hweb : isWeb "http" = true := by decide
  have hchars : hostChars true false ("127.0.0.1:".toList ++ (toString port).toList) =
      "127.0.0.1".toList := rfl
  have hrest : ("127.0.0.1:".toList ++ (toString port).toList).drop "127.0.0.1".toList.length =
      ':' :: (toString port).toList := rfl
  rw [hostAndPort]
  simp only [hweb, hchars, hrest, ofWeb_local, portBehind_local hport]
  rfl

theorem userinfo_local (port : Nat) :
    userinfo (isWeb "http") ("127.0.0.1:".toList ++ (toString port).toList) =
      .ok ("", none, "127.0.0.1:".toList ++ (toString port).toList) := by
  have hat : '@' ∉ "127.0.0.1:".toList ++ (toString port).toList := by
    rw [List.mem_append, not_or]
    exact ⟨by decide, Query.notMem_toString (by decide) port⟩
  simp only [userinfo]
  refine if_neg fun hcontains ↦ hat ?_
  exact (List.takeWhile_prefix _).subset (List.contains_iff_mem.mp hcontains)

/-- The URL of a port of the local machine. -/
def ofPort (port : Nat) : Url :=
  ⟨"http", "", none, some (.ipv4 0x7F000001), portOf? port, "/", none, none⟩

theorem stem_ofPort (port : Nat) : stem (ofPort port).path = "" := (by decide : stem "/" = "")

/-- The address of a local server is read as its port. -/
theorem parse_local (hport : port ≤ 65535) :
    parse ("http://127.0.0.1:" ++ toString port) = .ok (ofPort port) := by
  have htext : "http://127.0.0.1:" ++ toString port =
      String.ofList ("http://127.0.0.1:".toList ++ (toString port).toList) := by
    rw [String.ofList_append, String.ofList_toList, String.ofList_toList]
  have hclean : ∀ c ∈ "http://127.0.0.1:".toList ++ (toString port).toList,
      isTrimmed c = false := by
    intro c hc
    rw [← String.toList_append] at hc
    refine (Bool.not_eq_true' _).mp (forall_mem_local (p := fun c ↦ !isTrimmed c) ?_ ?_ c hc)
    · decide
    · exact fun c ↦ Percent.of_isUnreserved (p := fun c ↦ !isTrimmed c) (by decide)
  rw [htext, parse, cleaned_of_untrimmed hclean (List.cons_ne_nil _ _)]
  show withAuthority "http" ("127.0.0.1:".toList ++ (toString port).toList) = _
  rw [withAuthority, userinfo_local]
  show (hostAndPort "http" ("127.0.0.1:".toList ++ (toString port).toList) >>= _) = _
  rw [hostAndPort_local hport]
  rfl

theorem isAddress_local (port : Nat) : IsAddress ("http://127.0.0.1:" ++ toString port) := by
  refine ⟨fun c hc ↦ ?_, fun c hc ↦ ?_, fun c hc ↦ ?_⟩
  · refine (Bool.not_eq_true' _).mp (forall_mem_local (p := fun c ↦ !isTrimmed c) ?_ ?_ c hc)
    · decide
    · exact fun c ↦ Percent.of_isUnreserved (p := fun c ↦ !isTrimmed c) (by decide)
  · have hsigns : (c != '?' && c != '#') = true := by
      refine forall_mem_local (p := fun c ↦ c != '?' && c != '#') ?_ ?_ c hc
      · decide
      · exact fun c ↦ Percent.of_isUnreserved (p := fun c ↦ c != '?' && c != '#') (by decide)
    simpa using hsigns
  · -- The last character is one of the port.
    rw [String.toList_append, List.getLast?_append_of_ne_nil _ (toString_toList_ne_nil port)] at hc
    have hdigit := Query.isDigit_of_mem_toString (List.mem_of_getLast? hc)
    refine (Bool.not_eq_true' _).mp
      (Percent.of_isUnreserved (p := fun c ↦ !isSlash true c) (by decide) ?_)
    simp [Percent.isUnreserved, Char.isAlphanum, hdigit]

end Url

namespace Endpoint

/-- The endpoint at a port of the local machine. -/
def atPort (port : Nat) (token : Option String) : Endpoint :=
  ofText ("http://127.0.0.1:" ++ toString port) token

/-- The URL of a call to the endpoint at a port of the local machine. -/
def urlAt (port : Nat) (c : Call) : Url :=
  ⟨"http", "", none, some (.ipv4 0x7F000001), Url.portOf? port,
    Url.pathOf (Url.resolve false [] (pathSegments c)), query? c, none⟩

variable (port : Nat) (token : Option String) (c : Call)

theorem atPort_eq : atPort port token = ⟨"http://127.0.0.1:" ++ toString port, token⟩ := by
  have hkept : ("http://127.0.0.1:" ++ toString port).toList.rdropWhile (· = '/') =
      ("http://127.0.0.1:" ++ toString port).toList := by
    refine List.rdropWhile_eq_self_iff.mpr fun hne hslash ↦ ?_
    have hlast := (Url.isAddress_local port).last _ (List.getLast?_eq_some_getLast hne)
    rw [of_decide_eq_true hslash] at hlast
    cases hlast
  have hbase := (congrArg String.ofList hkept).trans String.ofList_toList
  exact congrArg (Endpoint.mk · token) hbase

/-- A port of the local machine is an endpoint of the web. -/
theorem isAt_local {e : Endpoint} (hport : port ≤ 65535)
    (hbase : e.base = "http://127.0.0.1:" ++ toString port) : e.IsAt (Url.ofPort port) := by
  refine ⟨?_, .inl rfl, ?_⟩
  · rw [hbase, Url.parse_local hport]
  · rw [hbase]
    exact Url.isAddress_local port

/-- The path of a call is its segments, unless the identifier is one dot or two. -/
theorem path_urlAt (hdot : c.broker? ≠ some ".") (hdots : c.broker? ≠ some "..") :
    (urlAt port c).path = Url.pathOf (pathSegments c) :=
  congrArg Url.pathOf (resolve_pathSegments c [] hdot hdots)

/-- The URL of a call is read as what addresses the call. -/
theorem parse_route (hport : port ≤ 65535) :
    Url.parse ((atPort port token).route c).url = .ok (urlAt port c) := by
  have hbase : (atPort port token).base = "http://127.0.0.1:" ++ toString port := by
    rw [atPort_eq]
  obtain ⟨before, hstem, hparse⟩ := parse_route_of_isAt (isAt_local port hport hbase)
  obtain rfl : before = [] :=
    Url.pathOf_eq_empty_iff.mp (hstem.symm.trans (Url.stem_ofPort port))
  exact hparse c

end Endpoint

namespace Client

variable (token : Option String) (c : Call)

/-- The request of a call at a port of the local machine: it is written unless the token cannot be
a header or the URL is too long. -/
theorem request_atPort {port : Nat} (hport : port ≤ 65535) :
    request token ((Endpoint.atPort port token).route c) =
      if (token.map bearer).all isWritable = false then .error .badHeader
      else if longestUrl < (Endpoint.urlAt port c).text.utf8ByteSize then
        .error (.unwritable (Endpoint.urlAt port c).text)
      else .ok ⟨((Endpoint.atPort port token).route c).method, Endpoint.urlAt port c,
        (token.map bearer).toList, ((Endpoint.atPort port token).route c).body⟩ := by
  have hnone : (Endpoint.urlAt port c).credentials? = none := Url.credentials?_of_none rfl rfl
  have hheader : authorization (Endpoint.urlAt port c) token = (token.map bearer).toList := by
    rw [authorization, hnone]
    rfl
  have hwritable :
      (token.map bearer).toList.all isWritable = (token.map bearer).all isWritable := by
    cases token <;> simp
  have hspoken : isSpoken (Endpoint.urlAt port c).scheme = true :=
    (by decide : isSpoken "http" = true)
  have hname : isNameable (Endpoint.urlAt port c) = false ↔
      longestUrl < (Endpoint.urlAt port c).text.utf8ByteSize := by
    rw [← Bool.not_eq_true, isNameable_iff, Url.isNameable_ipv4_iff rfl, not_le]
    rfl
  rw [request_of_parse (Endpoint.parse_route port token c hport),
    Url.withoutCredentials_of_none hnone, hheader, hwritable]
  simp only [hname, hspoken]
  rfl

end Client

end BrokerControl
