import BrokerControl.Proofs.Addresses
import BrokerControl.Proofs.Segments

/-!
# Addresses that go on

How a URL is read that is an address of the web with segments and a query behind it: as the address,
but for the path, which goes on with the segments, and for the query (`Url.parse_append`).
-/

namespace BrokerControl

namespace Url

open Endpoint (IsSegment)

variable {before segments : List (List Char)} {s cs rest more : List Char}
  {query : Option (List Char)} {scheme : String}

/-! ### What goes on behind an address -/

/-- What stops at a character does so whatever follows it. -/
theorem takeWhile_append_stop {p : Char → Bool} {c : Char} (h : p c = false) (cs : List Char) :
    (cs ++ c :: more).takeWhile p = cs.takeWhile p := by
  induction cs with
  | nil => exact List.takeWhile_cons_of_neg (Bool.eq_false_iff.mp h)
  | cons d cs ih => rw [List.cons_append, List.takeWhile_cons, List.takeWhile_cons, ih]

theorem scheme?_append (h : scheme? cs = some (scheme, rest)) :
    scheme? (cs ++ more) = some (scheme, rest ++ more) := by
  simp only [scheme?] at h
  split at h
  · rename_i behind hbehind
    split at h
    · rename_i hletter
      obtain ⟨rfl, rfl⟩ := Prod.mk.inj (Option.some.inj h)
      -- The colon ends the name in both texts.
      have hcs := List.prefix_iff_eq_append.mp (List.takeWhile_prefix (l := cs)
        fun c ↦ c.isAlphanum || c = '+' || c = '-' || c = '.')
      rw [hbehind] at hcs
      have hname : (cs ++ more).takeWhile (fun c ↦ c.isAlphanum || c = '+' || c = '-' || c = '.') =
          cs.takeWhile fun c ↦ c.isAlphanum || c = '+' || c = '-' || c = '.' := by
        conv_rhs => rw [← hcs]
        conv_lhs => rw [← hcs, List.append_assoc, List.cons_append]
        rw [takeWhile_append_stop (by decide), takeWhile_append_stop (by decide)]
      rw [scheme?, hname, List.drop_append_of_le_length (List.takeWhile_prefix _).length_le,
        hbehind]
      exact if_pos hletter
    · cases h
  · cases h

theorem userinfo_append {name : String} {password : Option String}
    (h : userinfo true cs = .ok (name, password, rest)) (hne : rest ≠ []) :
    userinfo true (cs ++ '/' :: more) = .ok (name, password, rest ++ '/' :: more) := by
  have hauthority : (cs ++ '/' :: more).takeWhile (fun c ↦ !endsAuthority true c) =
      cs.takeWhile fun c ↦ !endsAuthority true c :=
    takeWhile_append_stop (by decide) cs
  simp only [userinfo, hauthority] at h ⊢
  split at h
  · rename_i hat
    rw [if_pos hat]
    split at h
    · cases h
    · rename_i hgap
      obtain ⟨rfl, rfl, rfl⟩ := by simpa only [Except.ok.injEq, Prod.mk.injEq] using h
      have hpos := List.length_pos_of_mem (List.contains_iff_mem.mp hat)
      have hle := (List.takeWhile_prefix (l := cs) fun c ↦ !endsAuthority true c).length_le
      rw [List.drop_append_of_le_length (by simp only [List.length_take]; omega),
        List.head?_append_of_ne_nil _ hne, if_neg hgap]
  · rename_i hat
    obtain ⟨rfl, rfl, rfl⟩ := by simpa only [Except.ok.injEq, Prod.mk.injEq] using h
    rw [if_neg hat]

theorem hostChars_append (inBrackets : Bool) (cs : List Char) :
    hostChars true inBrackets (cs ++ '/' :: more) = hostChars true inBrackets cs := by
  induction cs generalizing inBrackets with
  | nil => rfl
  | cons c cs ih => rw [List.cons_append, hostChars, hostChars, ih]

theorem portBehind_append {port : Option Nat} (h : portBehind scheme cs = .ok (port, rest)) :
    portBehind scheme (cs ++ '/' :: more) = .ok (port, rest ++ '/' :: more) := by
  have hdigits : (cs ++ '/' :: more).takeWhile Char.isDigit = cs.takeWhile Char.isDigit :=
    takeWhile_append_stop (by decide) cs
  have hdrop : (cs ++ '/' :: more).drop (cs.takeWhile Char.isDigit).length =
      cs.drop (cs.takeWhile Char.isDigit).length ++ '/' :: more :=
    List.drop_append_of_le_length (List.takeWhile_prefix _).length_le
  simp only [portBehind, hdigits, hdrop] at h ⊢
  generalize cs.drop (cs.takeWhile Char.isDigit).length = behind at h ⊢
  have hhead : behind.head?.all (endsAuthority true) = true →
      (behind ++ '/' :: more).head?.all (endsAuthority true) = true := by
    cases behind with
    | nil => exact fun _ ↦ rfl
    | cons c behind => exact id
  split at h
  · cases h
  · rename_i hvalid
    rw [Bool.or_eq_true, not_or, Bool.not_eq_true', Bool.not_eq_false] at hvalid
    rw [hhead hvalid.2, if_neg (by simpa using hvalid.1)]
    split at h
    · rename_i husual
      obtain ⟨rfl, rfl⟩ := by simpa only [Except.ok.injEq, Prod.mk.injEq] using h
      rw [if_pos husual]
    · rename_i husual
      obtain ⟨rfl, rfl⟩ := by simpa only [Except.ok.injEq, Prod.mk.injEq] using h
      rw [if_neg husual]

theorem hostAndPort_append (hweb : isWeb scheme = true) {host : Host} {port : Option Nat}
    (h : hostAndPort scheme cs = .ok (host, port, rest)) :
    hostAndPort scheme (cs ++ '/' :: more) = .ok (host, port, rest ++ '/' :: more) := by
  have hdrop : (cs ++ '/' :: more).drop (hostChars true false cs).length =
      cs.drop (hostChars true false cs).length ++ '/' :: more :=
    List.drop_append_of_le_length (hostChars_isPrefix false).length_le
  simp only [hostAndPort, hweb, hostChars_append, hdrop] at h ⊢
  obtain ⟨hgap, h⟩ := check_eq_ok h
  obtain ⟨found, hfound, h⟩ := bind_eq_ok h
  rw [if_neg hgap, if_pos trivial, hfound]
  cases hbehind : cs.drop (hostChars true false cs).length with
  | nil =>
      rw [hbehind] at h
      obtain ⟨rfl, rfl, rfl⟩ := by simpa using h
      rfl
  | cons c behind =>
      rw [hbehind] at h
      rw [List.cons_append]
      by_cases hc : c = ':'
      · subst hc
        obtain ⟨hname, h⟩ := check_eq_ok h
        obtain ⟨⟨port', rest'⟩, hport, h⟩ := bind_eq_ok h
        obtain ⟨rfl, rfl, rfl⟩ := by simpa using h
        show (if host.isEmptyName = true then _
          else portBehind scheme (behind ++ '/' :: more) >>= _) = _
        rw [if_neg hname, portBehind_append hport]
        rfl
      · obtain ⟨rfl, rfl, rfl⟩ := by simpa [hc] using h
        simp [hc]

/-! ### What an address leaves behind it -/

theorem scheme?_isSuffix (h : scheme? cs = some (scheme, rest)) : rest <:+ cs :=
  (List.suffix_cons ':' rest).trans (scheme?_rest h ▸ List.drop_suffix _ cs)

theorem userinfo_isSuffix {web : Bool} {name : String} {password : Option String}
    (h : userinfo web cs = .ok (name, password, rest)) : rest <:+ cs := by
  obtain ⟨n, -, rfl⟩ := userinfo_rest h
  exact List.drop_suffix n cs

theorem hostAndPort_isSuffix {host : Host} {port : Option Nat}
    (h : hostAndPort scheme cs = .ok (host, port, rest)) : rest <:+ cs := by
  have hdrop := List.drop_suffix (hostChars (isWeb scheme) false cs).length cs
  obtain rfl | ⟨behind, hbehind, hport⟩ := hostAndPort_rest h
  · exact hdrop
  · rw [hbehind] at hdrop
    rw [portBehind_rest hport]
    exact (List.drop_suffix _ behind).trans ((List.suffix_cons ':' behind).trans hdrop)

/-! ### Segments and a query -/

theorem splitPath_written (h : ∀ t ∈ segments, IsSegment t) :
    splitPath (Endpoint.written segments query) =
      (segments.flatMap ('/' :: ·), (query.map ('?' :: ·)).getD []) := by
  have hpath : ∀ c ∈ segments.flatMap ('/' :: ·), (c ≠ '?' && c ≠ '#') = true := by
    intro c hc
    obtain ⟨t, ht, hc⟩ := List.mem_flatMap.mp hc
    rcases List.mem_cons.mp hc with rfl | hc
    · decide
    · simpa using (h t ht c hc).2
  rw [splitPath, Endpoint.written, List.takeWhile_append_of_pos hpath,
    List.dropWhile_append_of_pos hpath]
  cases query <;> simp

/-- Nothing in a path and a query of this kind is trimmed. -/
theorem isTrimmed_written (hsegments : ∀ t ∈ segments, ∀ c ∈ t, isStable c = true)
    (hquery : ∀ q ∈ query, IsPlain q) :
    ∀ c ∈ Endpoint.written segments query, isTrimmed c = false := by
  intro c hc
  rcases List.mem_append.mp hc with hc | hc
  · obtain ⟨t, ht, hc⟩ := List.mem_flatMap.mp hc
    rcases List.mem_cons.mp hc with rfl | hc
    · decide
    · exact isTrimmed_of_isStable (hsegments t ht c hc)
  · cases query with
    | none => cases hc
    | some q =>
        rcases List.mem_cons.mp hc with rfl | hc
        · decide
        · exact isTrimmed_of_keptInQuery (hquery q rfl c hc)

/-! ### Reading an address that goes on -/

/-- `EndsInside cs` says that no slash ends a text and neither a query nor a fragment begins in
it. -/
structure EndsInside (cs : List Char) : Prop where
  inside : IsInside cs
  last : ∀ c, cs.getLast? = some c → isSlash true c = false

theorem EndsInside.of_isSuffix (h : EndsInside cs) (hsuffix : rest <:+ cs) : EndsInside rest := by
  obtain ⟨front, rfl⟩ := hsuffix
  refine ⟨fun c hc ↦ h.inside c (List.mem_append_right front hc), fun c hc ↦ h.last c ?_⟩
  rw [List.getLast?_append, hc]
  rfl

theorem EndsInside.exists_concat (h : EndsInside cs) (hne : cs ≠ []) :
    ∃ front c, cs = front ++ [c] ∧ isSlash true c = false := by
  obtain rfl | ⟨front, c, rfl⟩ := List.eq_nil_or_concat cs
  · exact absurd rfl hne
  · rw [List.concat_eq_append] at h ⊢
    exact ⟨front, c, rfl, h.last c List.getLast?_concat⟩

/-- The path behind a host goes on behind its segments. -/
theorem exists_hostPath_append (hweb : isWeb scheme = true) (hfile : isFile scheme = false)
    (hcs : EndsInside cs) : ∃ before, stem (hostPath scheme cs) = pathOf before ∧
      ∀ more, hostPath scheme (cs ++ '/' :: more) =
        pathOf (resolve false before (cut true more)) := by
  have hsome (more : List Char) : ∃ s segments, cut true more = s :: segments :=
    List.exists_cons_of_ne_nil (Pieces.split_ne_nil _ _)
  cases cs with
  | nil =>
      refine ⟨[], ?_, fun more ↦ ?_⟩
      · rw [hostPath, if_pos hweb]
        exact stem_append_slash ""
      · rw [List.nil_append, hostPath, segments, hweb, hfile]
        rfl
  | cons c tail =>
      -- What is cut into segments stands behind the slash and ends in none.
      obtain ⟨path, d, hpath, hd⟩ : ∃ path d,
          (if isSlash true c then tail else c :: tail) = path ++ [d] ∧ isSlash true d = false := by
        by_cases hc : isSlash true c = true
        · rw [if_pos hc]
          refine (hcs.of_isSuffix (List.suffix_cons c tail)).exists_concat ?_
          rintro rfl
          exact Bool.false_ne_true ((hcs.last c rfl).symm.trans hc)
        · rw [if_neg hc]
          exact hcs.exists_concat (List.cons_ne_nil c tail)
      obtain ⟨front, last, hcut, hne, hslash⟩ := exists_cut_concat hd path
      refine ⟨stepped [] (front ++ [last]), ?_, fun more ↦ ?_⟩
      · rw [hostPath, segments, hweb, hfile, hpath, hcut]
        exact stem_resolve [] front hne hslash
      · obtain ⟨s, segments, hmore⟩ := hsome more
        have hbehind :
            (if isSlash true c then tail ++ '/' :: more else c :: (tail ++ '/' :: more)) =
              path ++ [d] ++ '/' :: more := by
          rw [← hpath]
          split <;> rfl
        rw [List.cons_append, hostPath, Url.segments, hweb, hfile, hbehind, cut_append, hcut, hmore,
          resolve_append]

theorem splitPath_append (h : IsInside cs) (more : List Char) :
    splitPath (cs ++ more) = (cs ++ (splitPath more).1, (splitPath more).2) := by
  have hpath : ∀ c ∈ cs, (c ≠ '?' && c ≠ '#') = true := by
    intro c hc
    simpa using h c hc
  rw [splitPath, List.takeWhile_append_of_pos hpath, List.dropWhile_append_of_pos hpath]
  rfl

/-- The query and the fragment of a URL with segments and perhaps a query behind its address. -/
theorem tail_written (hquery : ∀ q ∈ query, IsPlain q) (web : Bool) :
    tail web ((query.map ('?' :: ·)).getD []) = (query.map String.ofList, none) := by
  cases query with
  | none => rfl
  | some q => exact tail_eq (hquery q rfl)

theorem hostAndPort_nil (hweb : isWeb scheme = true) :
    hostAndPort scheme [] = .error .emptyHost := by
  simp only [hostAndPort, hweb, hostChars]
  rfl

theorem withAuthority_nil (hweb : isWeb scheme = true) :
    withAuthority scheme [] = .error .emptyHost := by
  rw [withAuthority, hweb]
  show (hostAndPort scheme [] >>= _) = _
  rw [hostAndPort_nil hweb]
  rfl

/-- A URL that is read from behind its slashes goes on with segments and a query. -/
theorem withAuthority_append {u : Url} (hweb : isWeb scheme = true) (hfile : isFile scheme = false)
    (h : withAuthority scheme cs = .ok u) (hcs : EndsInside cs) :
    ∃ before, stem u.path = pathOf before ∧ ∀ s segments query,
      (∀ t ∈ s :: segments, ∀ c ∈ t, isStable c = true) → (∀ q ∈ query, IsPlain q) →
      withAuthority scheme (cs ++ Endpoint.written (s :: segments) query) =
        .ok { u with
          path := pathOf (resolve false before (s :: segments))
          query := query.map String.ofList } := by
  obtain ⟨⟨name, password, rest⟩, huser, h⟩ := bind_eq_ok h
  obtain ⟨⟨host, port, rest'⟩, hhost, h⟩ := bind_eq_ok h
  obtain ⟨hnamed, h⟩ := check_eq_ok h
  have hrest' : EndsInside rest' :=
    (hcs.of_isSuffix (userinfo_isSuffix huser)).of_isSuffix (hostAndPort_isSuffix hhost)
  have halone : splitPath rest' = (rest', []) := by
    have hsplit := splitPath_append hrest'.inside []
    rw [List.append_nil] at hsplit
    rw [hsplit]
    exact Prod.ext (List.append_nil rest') rfl
  obtain rfl : finish scheme name password (some host) port (hostPath scheme rest') [] = u := by
    have hfinish : finish scheme name password (some host) port
        (hostPath scheme (splitPath rest').1) (splitPath rest').2 = u := Except.ok.inj h
    rwa [halone] at hfinish
  obtain ⟨before, hstem, happend⟩ := exists_hostPath_append hweb hfile hrest'
  refine ⟨before, hstem, fun s segments query hsegments hquery ↦ ?_⟩
  have hne : rest ≠ [] := by
    rintro rfl
    rw [hostAndPort_nil hweb] at hhost
    cases hhost
  obtain ⟨more, hmore⟩ : ∃ more, Endpoint.written (s :: segments) query = '/' :: more := ⟨_, rfl⟩
  have hsplit : splitPath (rest' ++ '/' :: more) =
      (rest' ++ '/' :: (s ++ segments.flatMap ('/' :: ·)), (query.map ('?' :: ·)).getD []) := by
    rw [splitPath_append hrest'.inside, ← hmore,
      splitPath_written fun t ht ↦ isSegment_of_isStable (hsegments t ht)]
    rfl
  -- The stages of the reading, in their order: credentials, host and port, path and query.
  rw [hweb] at huser
  rw [hmore, withAuthority, hweb, userinfo_append huser hne]
  show (hostAndPort scheme (rest ++ '/' :: more) >>= _) = _
  rw [hostAndPort_append hweb hhost]
  show (if (host.isEmptyName && (!name.isEmpty || password.isSome)) = true then _ else
    Except.ok (finish scheme name password (some host) port
      (hostPath scheme (splitPath (rest' ++ '/' :: more)).1)
      (splitPath (rest' ++ '/' :: more)).2)) = _
  rw [if_neg hnamed, hsplit, happend, cut_segments hsegments, finish, tail_written hquery]
  rfl

variable {u : Url}

theorem scheme_withAuthority (h : withAuthority scheme cs = .ok u) : u.scheme = scheme := by
  obtain ⟨⟨name, password, rest⟩, -, h⟩ := bind_eq_ok h
  obtain ⟨⟨host, port, rest'⟩, -, h⟩ := bind_eq_ok h
  obtain rfl := Except.ok.inj (check_eq_ok h).2
  rfl

theorem scheme_ofFile (h : ofFile scheme cs = .ok u) : u.scheme = scheme := by
  rw [ofFile.eq_def] at h
  split at h
  · split at h
    · simp only at h
      split at h
      · obtain rfl := Except.ok.inj h
        rfl
      · obtain ⟨host, -, h⟩ := bind_eq_ok h
        obtain rfl := Except.ok.inj h
        rfl
    · obtain rfl := Except.ok.inj h
      rfl
  · obtain rfl := Except.ok.inj h
    rfl

theorem scheme_ofOther (h : ofOther scheme cs = .ok u) : u.scheme = scheme := by
  rw [ofOther.eq_def] at h
  split at h
  · exact scheme_withAuthority h
  all_goals
    obtain rfl := Except.ok.inj h
    rfl

theorem isWeb_of_spoken (h : scheme = "http" ∨ scheme = "https") : isWeb scheme = true := by
  rcases h with rfl | rfl <;> decide

theorem isFile_of_spoken (h : scheme = "http" ∨ scheme = "https") : isFile scheme = false := by
  rcases h with rfl | rfl <;> decide

/-- A URL that can be spoken is its scheme and what is read from behind the slashes. -/
theorem withAuthority_of_parse {text : String} (h : parse text = .ok u)
    (hscheme : u.scheme = "http" ∨ u.scheme = "https") :
    ∃ rest, scheme? (cleaned text) = some (u.scheme, rest) ∧
      withAuthority u.scheme (rest.dropWhile (isSlash true)) = .ok u := by
  have hfile := isFile_of_spoken hscheme
  have hweb := isWeb_of_spoken hscheme
  rw [parse] at h
  split at h
  · cases h
  · rename_i scheme rest hread
    split at h
    · rename_i hisFile
      rw [scheme_ofFile h, hisFile] at hfile
      cases hfile
    · split at h
      · obtain rfl := scheme_withAuthority h
        exact ⟨rest, hread, h⟩
      · rename_i hother
        rw [scheme_ofOther h] at hweb
        exact absurd hweb hother

/-- `IsAddress text` says that a path can follow a text as it stands. -/
structure IsAddress (text : String) : Prop where
  /-- It holds neither blanks nor controls. -/
  untrimmed : ∀ c ∈ text.toList, isTrimmed c = false
  /-- Neither a query nor a fragment begins in it. -/
  inside : IsInside text.toList
  /-- It ends in no slash. -/
  last : ∀ c, text.toList.getLast? = some c → isSlash true c = false

/-- A URL that can be spoken goes on with segments and a query: nothing changes but its path, which
goes on with the segments, and its query. -/
theorem parse_append {text : String} (h : parse text = .ok u)
    (hscheme : u.scheme = "http" ∨ u.scheme = "https") (htext : IsAddress text) :
    ∃ before, stem u.path = pathOf before ∧ ∀ s segments query,
      (∀ t ∈ s :: segments, ∀ c ∈ t, isStable c = true) → (∀ q ∈ query, IsPlain q) →
      parse (text ++ String.ofList (Endpoint.written (s :: segments) query)) =
        .ok { u with
          path := pathOf (resolve false before (s :: segments))
          query := query.map String.ofList } := by
  have hweb := isWeb_of_spoken hscheme
  have hfile := isFile_of_spoken hscheme
  have hne : text.toList ≠ [] := by
    intro hnil
    rw [String.toList_eq_nil_iff.mp hnil] at h
    cases h
  have hclean : cleaned text = text.toList := by
    have hcleaned := cleaned_of_untrimmed htext.untrimmed hne
    rwa [String.ofList_toList] at hcleaned
  obtain ⟨rest, hread, hauthority⟩ := withAuthority_of_parse h hscheme
  rw [hclean] at hread
  have htail : EndsInside rest :=
    EndsInside.of_isSuffix ⟨htext.inside, htext.last⟩ (scheme?_isSuffix hread)
  obtain ⟨before, hstem, happend⟩ := withAuthority_append hweb hfile hauthority
    (htail.of_isSuffix (List.dropWhile_suffix (isSlash true)))
  refine ⟨before, hstem, fun s segments query hsegments hquery ↦ ?_⟩
  have hbehind : (rest ++ Endpoint.written (s :: segments) query).dropWhile (isSlash true) =
      rest.dropWhile (isSlash true) ++ Endpoint.written (s :: segments) query := by
    rw [List.dropWhile_append, if_neg]
    intro hnil
    rw [List.isEmpty_iff.mp hnil, withAuthority_nil hweb] at hauthority
    cases hauthority
  have hcleaned : cleaned (text ++ String.ofList (Endpoint.written (s :: segments) query)) =
      text.toList ++ Endpoint.written (s :: segments) query := by
    have hall := cleaned_of_untrimmed
      (List.forall_mem_append.mpr ⟨htext.untrimmed, isTrimmed_written hsegments hquery⟩)
      (List.append_ne_nil_of_left_ne_nil hne _)
    rwa [String.ofList_append, String.ofList_toList] at hall
  rw [parse, hcleaned, scheme?_append hread]
  show (if isFile u.scheme then _ else if isWeb u.scheme then withAuthority u.scheme
    ((rest ++ Endpoint.written (s :: segments) query).dropWhile (isSlash true)) else _) = _
  rw [hfile, if_neg Bool.false_ne_true, if_pos hweb, hbehind]
  exact happend s segments query hsegments hquery

end Url

end BrokerControl
