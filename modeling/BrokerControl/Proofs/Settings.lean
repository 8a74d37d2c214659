import BrokerControl.CommandLine.Run
import BrokerControl.Proofs.Encodings
import BrokerControl.Proofs.Quotes

/-!
# Settings over runs

Settings are read back from the bytes that are kept of them (`Settings.ofFile_text`). In a world
whose file of settings works (`CommandLine.Keeps`), one run that configures takes over what it is
given and leaves the rest (`CommandLine.perform_configure`), so after any number of runs each of the
settings is the last that was given (`CommandLine.settings_after_runs`).
-/

namespace BrokerControl

namespace Settings

open Json (quote newline skipBlanks)

variable {settings settings' : Settings} {seen seen' : List String} {s s' rest : List Char}

/-! ### Reading back -/

/-- A value behind its colon is read back. -/
theorem entry?_ofOption (v : Option String) (rest : List Char) :
    entry? (' ' :: ((Json.ofOption v).indentedChars 1 ++ rest)) = some (v, rest) := by
  cases v with
  | none => rfl
  | some t =>
      show (Json.string?At (quote t ++ rest)).map _ = _
      rw [Json.string?At_quote, Option.map_some]

/-- The line of a field. -/
def line (key : String) (v : Option String) : List Char :=
  newline 1 ++ quote key ++ ':' :: ' ' :: (Json.ofOption v).indentedChars 1

/-- The text of settings has a line for each field. -/
theorem text_eq (s : Settings) :
    s.text.toList = '{' :: (line "endpoint" s.endpoint ++ ',' :: (line "region" s.region ++
      ',' :: (line "token" s.token ++ (newline 0 ++ ['}'])))) := by
  rw [text, toJson, Json.indented, String.toList_ofList, Json.indentedChars]
  simp [line, Json.indentedFields]

/-- The settings with one value changed. -/
def withField (settings : Settings) (key : String) (v : Option String) : Settings :=
  if key = "endpoint" then { settings with endpoint := v }
  else if key = "region" then { settings with region := v }
  else if key = "token" then { settings with token := v }
  else settings

/-- A field is read from its line. -/
theorem field?_line {key : String} (hkey : key = "endpoint" ∨ key = "region" ∨ key = "token")
    (hseen : put? seen key = some seen') (settings : Settings) (v : Option String)
    (rest : List Char) :
    field? settings seen (line key v ++ rest) = some (settings.withField key v, seen', rest) := by
  have hline : line key v ++ rest =
      newline 1 ++ (quote key ++ ':' :: ' ' :: ((Json.ofOption v).indentedChars 1 ++ rest)) := by
    simp [line]
  have hname : Json.string?At (skipBlanks (line key v ++ rest)) =
      some (key, ':' :: ' ' :: ((Json.ofOption v).indentedChars 1 ++ rest)) := by
    rw [hline]
    exact Json.string?At_quote key _
  have hcolon (cs : List Char) : skipBlanks (':' :: cs) = ':' :: cs := rfl
  rcases hkey with rfl | rfl | rfl
  all_goals simp [field?, hname, hcolon, entry?_ofOption, hseen, withField]

theorem fields?_comma (h : field? settings seen s = some (settings', seen', s')) (n : Nat) :
    fields? (n + 1) settings seen (',' :: s) = fields? n settings' seen' s' := by
  show (field? settings seen s >>= _) = _
  rw [h]
  rfl

/-- Settings are read back from their text. -/
theorem parse?_text (s : Settings) : parse? s.text = some s := by
  -- The text from each line on: reading one line leaves the next.
  let third := line "token" s.token ++ (newline 0 ++ ['}'])
  let second := line "region" s.region ++ ',' :: third
  let first := line "endpoint" s.endpoint ++ ',' :: second
  have hfirst : field? empty [] first =
      some (⟨s.endpoint, none, none⟩, ["endpoint"], ',' :: second) :=
    field?_line (.inl rfl) rfl empty s.endpoint _
  have hsecond : field? ⟨s.endpoint, none, none⟩ ["endpoint"] second =
      some (⟨s.endpoint, s.region, none⟩, ["region", "endpoint"], ',' :: third) :=
    field?_line (.inr (.inl rfl)) rfl _ s.region _
  have hthird : field? ⟨s.endpoint, s.region, none⟩ ["region", "endpoint"] third =
      some (s, ["token", "region", "endpoint"], newline 0 ++ ['}']) :=
    field?_line (.inr (.inr rfl)) rfl _ s.token _
  have hobject : value? ('{' :: first) = some (s, []) := by
    have hopen : value? ('{' :: first) = (field? empty [] first >>= fun r ↦
        fields? (r.2.2.length + 1) r.1 r.2.1 r.2.2) := rfl
    rw [hopen, hfirst]
    show fields? ((second.length + 1) + 1) _ _ (',' :: second) = _
    -- Three steps are left, and the lines that are still to be read have that many characters.
    obtain ⟨n, hn⟩ : ∃ n, second.length = n + 1 := ⟨_, rfl⟩
    rw [fields?_comma hsecond, fields?_comma hthird, hn]
    rfl
  rw [parse?, text_eq, hobject]
  rfl

/-- Settings are read back from the bytes that are kept of them. -/
theorem ofFile_text (s : Settings) : ofFile (some (Utf8.encode s.text.toList)) = s := by
  have hread : Utf8.text? (Utf8.encode s.text.toList) = some s.text := by
    rw [Utf8.text?_encode, String.ofList_toList]
  rw [ofFile, Option.bind_some, hread]
  exact congrArg (·.getD empty) (parse?_text s)

end Settings

namespace CommandLine

variable {σ : Type}

/-- `Keeps system directory works kept` says that the file of settings works in all states of the
world in which `works`, and that nothing done to it leads out of these: it belongs in `directory`,
what is read of it is what is kept, and writing it succeeds and keeps what is written. `kept` tells
the bytes that are kept, if there is a file that can be read. -/
structure Keeps (system : System (StateM σ)) (directory : String) (works : σ → Prop)
    (kept : σ → Option (List UInt8)) : Prop where
  place : ∀ w, works w → ∃ w', settingsDirectory? system w = (some directory, w') ∧ works w' ∧
    kept w' = kept w
  read : ∀ w, works w → ∃ r w', system.read (settingsFile directory) w = (r, w') ∧ works w' ∧
    r.toOption = kept w ∧ kept w' = kept w
  made : ∀ w, works w → ∃ w', system.makeDirectories directory w = (.ok (), w') ∧ works w'
  written : ∀ w, works w → ∀ bytes, ∃ w',
    system.write (settingsFile directory) bytes w = (.ok (), w') ∧ works w' ∧ kept w' = some bytes

variable {system : System (StateM σ)} {directory : String} {works : σ → Prop}
  {kept : σ → Option (List UInt8)} {w : σ}

/-- What follows a step goes on where the step ends. -/
theorem run_bind_of_eq {α β : Type} {x : StateM σ α} {f : α → StateM σ β} {w w' : σ} {a : α}
    (h : x w = (a, w')) : (x >>= f) w = f a w' := by
  show f (x w).1 (x w).2 = f a w'
  rw [h]

theorem loadSettings_eq (h : Keeps system directory works kept) (hw : works w) :
    ∃ w', loadSettings system w = (Settings.ofFile (kept w), w') ∧ works w' := by
  obtain ⟨w₁, hplace, hw₁, hkept⟩ := h.place w hw
  obtain ⟨r, w₂, hread, hw₂, hr, -⟩ := h.read w₁ hw₁
  refine ⟨w₂, ?_, hw₂⟩
  rw [loadSettings, run_bind_of_eq hplace]
  refine (run_bind_of_eq hread).trans ?_
  rw [← hkept, ← hr]
  cases r <;> rfl

theorem saveSettings_eq (h : Keeps system directory works kept) (hw : works w)
    (settings : Settings) :
    ∃ w', saveSettings system settings w = (.ok (), w') ∧ works w' ∧
      Settings.ofFile (kept w') = settings := by
  obtain ⟨w₁, hplace, hw₁, -⟩ := h.place w hw
  obtain ⟨w₂, hmade, hw₂⟩ := h.made w₁ hw₁
  obtain ⟨w₃, hwritten, hw₃, hkept⟩ := h.written w₂ hw₂ (Utf8.encode settings.text.toList)
  refine ⟨w₃, ?_, hw₃, by rw [hkept, Settings.ofFile_text]⟩
  rw [saveSettings, run_bind_of_eq hplace]
  refine (run_bind_of_eq hmade).trans ?_
  refine (run_bind_of_eq hwritten).trans ?_
  rfl

/-- The settings after a run that configures. -/
def configured (settings : Settings) (g : Globals) : Settings :=
  settings.update g.endpoint g.region g.token

/-- A run that configures takes over what it is given and leaves the rest. -/
theorem perform_configure (h : Keeps system directory works kept) (hw : works w) (g : Globals) :
    ∃ w', perform system g .configure w =
        (.ok (configured (Settings.ofFile (kept w)) g).toJson, w') ∧ works w' ∧
      Settings.ofFile (kept w') = configured (Settings.ofFile (kept w)) g := by
  obtain ⟨w₁, hload, hw₁⟩ := loadSettings_eq h hw
  obtain ⟨w₂, hsave, hw₂, hkept⟩ :=
    saveSettings_eq h hw₁ (configured (Settings.ofFile (kept w)) g)
  refine ⟨w₂, ?_, hw₂, hkept⟩
  rw [perform, run_bind_of_eq hload]
  exact run_bind_of_eq hsave

/-- Any number of runs that configure succeed, and take over what they are given in turn. -/
theorem mapM_configure (h : Keeps system directory works kept) (hw : works w) (gs : List Globals) :
    ∃ results w', (gs.mapM fun g ↦ perform system g .configure) w = (results, w') ∧ works w' ∧
      (∀ r ∈ results, r.isOk = true) ∧
      Settings.ofFile (kept w') = gs.foldl configured (Settings.ofFile (kept w)) := by
  induction gs generalizing w with
  | nil => exact ⟨[], w, rfl, hw, List.forall_mem_nil _, rfl⟩
  | cons g gs ih =>
      obtain ⟨w₁, hrun, hw₁, hsettings⟩ := perform_configure h hw g
      obtain ⟨results, w₂, hruns, hw₂, hok, hsettings'⟩ := ih hw₁
      refine ⟨.ok (configured (Settings.ofFile (kept w)) g).toJson :: results, w₂, ?_, hw₂,
        List.forall_mem_cons.mpr ⟨rfl, hok⟩, ?_⟩
      · rw [List.mapM_cons, run_bind_of_eq hrun, run_bind_of_eq hruns]
        rfl
      · rw [hsettings', hsettings, List.foldl_cons]

/-- The last of the values that are given, or else the first one of all. -/
def latest (given : List (Option String)) (first : Option String) : Option String :=
  (given.filterMap id).getLast?.or first

theorem latest_cons (v : Option String) (given : List (Option String)) (first : Option String) :
    latest (v :: given) first = latest given (v.or first) := by
  cases v with
  | none => rfl
  | some t =>
      show ((t :: given.filterMap id).getLast?).or first = _
      rw [List.getLast?_cons, latest]
      cases (given.filterMap id).getLast? <;> rfl

/-- The settings in which each is the last that was given. -/
def lastGiven (first : Settings) (gs : List Globals) : Settings where
  endpoint := latest (gs.map (·.endpoint)) first.endpoint
  region := latest (gs.map (·.region)) first.region
  token := latest (gs.map (·.token)) first.token

theorem foldl_configured (first : Settings) (gs : List Globals) :
    gs.foldl configured first = lastGiven first gs := by
  induction gs generalizing first with
  | nil => rfl
  | cons g gs ih =>
      rw [List.foldl_cons, ih]
      simp only [lastGiven, List.map_cons, latest_cons]
      rfl

/-- Runs that configure, in a world whose file of settings works. What is loaded first is what the
file holds, or nothing if it holds no settings. After any number of runs, none of which fails, each
of the settings is the last that was given, or else the one that was loaded first. Settings are
loaded as they were saved. -/
theorem settings_after_runs (h : Keeps system directory works kept) (hw : works w) :
    ∃ first w₀, loadSettings system w = (first, w₀) ∧
      first = (((kept w).bind Utf8.text?).bind Settings.parse?).getD Settings.empty ∧
      (∀ gs : List Globals, ∃ results w₁ w₂,
        (gs.mapM fun g ↦ perform system g .configure) w = (results, w₁) ∧
        (∀ r ∈ results, r.isOk = true) ∧ loadSettings system w₁ = (lastGiven first gs, w₂)) ∧
      ∀ settings : Settings, ∃ w₁ w₂, saveSettings system settings w = (.ok (), w₁) ∧
        loadSettings system w₁ = (settings, w₂) := by
  obtain ⟨w₀, hload, -⟩ := loadSettings_eq h hw
  refine ⟨_, w₀, hload, ?_, fun gs ↦ ?_, fun settings ↦ ?_⟩
  · rw [Settings.ofFile]
    cases (kept w).bind Utf8.text? <;> rfl
  · obtain ⟨results, w₁, hruns, hw₁, hok, hsettings⟩ := mapM_configure h hw gs
    obtain ⟨w₂, hload', -⟩ := loadSettings_eq h hw₁
    exact ⟨results, w₁, w₂, hruns, hok, by rw [hload', hsettings, foldl_configured]⟩
  · obtain ⟨w₁, hsave, hw₁, hsettings⟩ := saveSettings_eq h hw settings
    obtain ⟨w₂, hload', -⟩ := loadSettings_eq h hw₁
    exact ⟨w₁, w₂, hsave, by rw [hload', hsettings]⟩

/-- A world with nothing but files, which are never refused. -/
def memory : System (StateM (String → Option (List UInt8))) where
  environment name := return if name = "HOME" then some "/home" else none
  read path := return ((← get) path).elim (.error .notFound) .ok
  write path bytes := do
    modify fun files other ↦ if other = path then some bytes else files other
    return .ok ()
  touch _ := return .ok ()
  makeDirectories _ := return .ok ()
  exchange r := return .error (.dropped r.url.text)
  freshId := return ""

/-- The directory of settings in `memory`. -/
def memoryDirectory : String := inDirectory (inDirectory "/home" ".config") "mqctl"

theorem keeps_memory : Keeps memory memoryDirectory (fun _ ↦ True)
    fun files ↦ files (settingsFile memoryDirectory) where
  place w _ := ⟨w, rfl, trivial, rfl⟩
  read w _ := by
    refine ⟨_, w, rfl, trivial, ?_, rfl⟩
    cases w (settingsFile memoryDirectory) <;> rfl
  made w _ := ⟨w, rfl, trivial⟩
  written w _ bytes := ⟨_, rfl, trivial, if_pos rfl⟩

/-- What two runs give, the empty text included, is kept until it is given again. -/
theorem two_runs_are_kept :
    ∃ results w₁ w₂,
      ([⟨some "", none, some "first", .off⟩, ⟨none, some "eu-west-1", some "second", .off⟩].mapM
        fun g ↦ perform memory g .configure) (fun _ ↦ none) = (results, w₁) ∧
      (∀ r ∈ results, r.isOk = true) ∧
      loadSettings memory w₁ = (⟨some "", some "eu-west-1", some "second"⟩, w₂) := by
  let nothing (_ : String) : Option (List UInt8) := none
  obtain ⟨first, -, -, hfirst, hruns, -⟩ := settings_after_runs (w := nothing) keeps_memory trivial
  obtain ⟨results, w₁, w₂, hmapM, hok, hload⟩ :=
    hruns [⟨some "", none, some "first", .off⟩, ⟨none, some "eu-west-1", some "second", .off⟩]
  rw [hfirst] at hload
  exact ⟨results, w₁, w₂, hmapM, hok, hload⟩

end CommandLine

end BrokerControl
