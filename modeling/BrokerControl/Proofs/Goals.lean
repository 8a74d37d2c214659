import BrokerControl.Proofs.Declarations
import BrokerControl.Proofs.Servers
import BrokerControl.Proofs.Settings

/-!
# The goal of a run

A run that is ready (`CommandLine.Ready`) looks at one value to learn its goal
(`CommandLine.deciding`): the word among its arguments, or else the declared one. A text that names
no goal ends the run before anything is sent. A declared value that is no text is passed over, and
the broker is to be present (`CommandLine.state_decides_goal`), so a declaration that lists its
state creates the broker that it wants absent (`CommandLine.listed_state_creates`).
-/

namespace BrokerControl

namespace Goal

/-- A goal is named by its word. -/
@[simp] theorem parse_text (goal : Goal) : parse goal.text = .ok goal := by
  cases goal <;> rfl

/-- No other word names a goal. -/
theorem parse_of_ne {word : String} (h : ∀ goal : Goal, word ≠ goal.text) :
    parse word = .error (.invalidGoal word) := by
  have hpresent : word ≠ "present" := h .present
  have habsent : word ≠ "absent" := h .absent
  have hrestarted : word ≠ "restarted" := h .restarted
  unfold parse
  rw [if_neg hpresent, if_neg habsent, if_neg hrestarted]

end Goal

/-- A text is parsed as a declaration that passes a check. -/
theorem Declaration.exists_parse (text : String) (check : Declaration → Bool)
    (h : (parse text).toOption.any check = true) :
    ∃ d, parse text = .ok d ∧ check d = true := by
  cases hparse : parse text with
  | error f =>
      rw [hparse] at h
      cases h
  | ok d =>
      rw [hparse] at h
      exact ⟨d, rfl, h⟩

namespace CommandLine

/-- The value that decides on the goal of a run: the word among the arguments, or else the declared
value unless it is null. -/
def deciding (state : Option String) (d : Declaration) : Option Json :=
  (state.map Json.string).or (d.given? "state")

variable {state : Option String} {d : Declaration} {v : Json} {word : String}

/-- A name among the arguments leaves the value that decides as it is. -/
theorem deciding_withName (state name : Option String) (d : Declaration) :
    deciding state (withName name d) = deciding state d := by
  cases name with
  | none => rfl
  | some name =>
      have hne : "state" ≠ Table.nameKey := by decide
      unfold deciding withName Declaration.given?
      rw [Object.get?_insert_of_ne d _ hne]

/-- The value that decides is looked at if it is a text. -/
theorem goal_withName (state name : Option String) (d : Declaration) :
    goal state (withName name d) = match (deciding state d).bind Json.string? with
      | some word => (Goal.parse word).mapError .ofFault
      | none => .ok .present := by
  rw [← deciding_withName state name]
  unfold goal deciding
  rw [← Declaration.given?_bind_string?]
  cases state <;> rfl

theorem goal_of_text {goal : Goal} (h : deciding state d = some (.string goal.text))
    (name : Option String) : CommandLine.goal state (withName name d) = .ok goal := by
  rw [goal_withName, h, Option.bind_some, Json.string?]
  show (Goal.parse goal.text).mapError Failure.ofFault = _
  rw [Goal.parse_text]
  rfl

theorem goal_of_ne (h : deciding state d = some (.string word))
    (hne : ∀ goal : Goal, word ≠ goal.text) (name : Option String) :
    goal state (withName name d) = .error (.ofFault (.invalidGoal word)) := by
  rw [goal_withName, h, Option.bind_some, Json.string?]
  show (Goal.parse word).mapError Failure.ofFault = _
  rw [Goal.parse_of_ne hne]
  rfl

theorem goal_of_no_text (h : (deciding state d).bind Json.string? = none) (name : Option String) :
    goal state (withName name d) = .ok .present := by
  rw [goal_withName, h]

variable {σ : Type} {system : System (StateM σ)} {g : Globals} {o : ApplyOptions} {w w' : σ}
  {endpoint : Endpoint} {region : String}

/-- `Ready system g o w endpoint region d w'` says that a run that starts in the state `w` of the
world has an endpoint that can be used, and a region, and has read the declaration `d` when the
world is in the state `w'`. -/
def Ready (system : System (StateM σ)) (g : Globals) (o : ApplyOptions) (w : σ)
    (endpoint : Endpoint) (region : String) (d : Declaration) (w' : σ) : Prop :=
  ∃ settings env w₁ w₂, loadSettings system w = (settings, w₁) ∧
    surroundings system w₁ = (env, w₂) ∧ connect settings env g = .ok (endpoint, region) ∧
    loadDeclaration system o.file w₂ = (.ok d, w')

/-- What a run does once its goal is settled: it brings the declared broker to the goal. -/
def pursue (system : System (StateM σ)) (endpoint : Endpoint) (region : String)
    (o : ApplyOptions) (d : Declaration) (goal : Goal) : StateM σ (Except Failure Json) := do
  let options := runOptions o region (← system.freshId)
  let outcome ← speak system endpoint
    (Broker.converge Table.standard options goal (withName o.name d))
  return outcome.map Outcome.toJson

/-- A run that is ready pursues its goal, or ends where it is if it has none. -/
theorem perform_apply (h : Ready system g o w endpoint region d w') :
    perform system g (.apply o) w = match goal o.state (withName o.name d) with
      | .error f => (.error f, w')
      | .ok goal => pursue system endpoint region o d goal w' := by
  obtain ⟨settings, env, w₁, w₂, hsettings, henv, hconnect, hload⟩ := h
  rw [perform, run_bind_of_eq hsettings]
  show apply system settings g o w₁ = _
  rw [apply, run_bind_of_eq henv, hconnect]
  refine (run_bind_of_eq hload).trans ?_
  dsimp only
  cases goal o.state (withName o.name d) <;> rfl

/-! ### Runs against a server -/

/-- A world in which all files hold one text, and requests are kept and answered by a server. -/
def answering (server : Http.Server) (text : String) : System (StateM (List Http.Request)) where
  environment _ := return none
  read _ := return .ok (Utf8.encode text.toList)
  write _ _ := return .ok ()
  touch _ := return .ok ()
  makeDirectories _ := return .ok ()
  exchange := server.exchange
  freshId := return ""

/-- A server that answers every request with success and nothing else. -/
def silent : Http.Server := fun _ _ ↦ .ok ⟨200, [], []⟩

/-- A declaration is read in the text that the files hold. -/
theorem loadDeclaration_answering (server : Http.Server) (text file : String)
    (past : List Http.Request) :
    loadDeclaration (answering server text) (some file) past = (Declaration.parse text, past) := by
  have hread : Utf8.text? (Utf8.encode text.toList) = some text := by
    rw [Utf8.text?_encode, String.ofList_toList]
  show (Failure.inContext _ (ofFileResult (match Utf8.text? (Utf8.encode text.toList) with
    | some text => .ok text
    | none => .error .notUtf8)) >>= Declaration.parse, past) = _
  rw [hread]
  rfl

/-- A run in such a world is ready once it is given an address and a file. -/
theorem ready_answering (server : Http.Server) {text file address : String}
    (hparse : Declaration.parse text = .ok d) (hfile : o.file = some file)
    (haddress : g.endpoint = some address) (past : List Http.Request) :
    Ready (answering server text) g o past (Endpoint.ofText address g.token)
      (g.region.getD defaultRegion) d past := by
  refine ⟨Settings.empty, ⟨none, none⟩, past, past, rfl, rfl, ?_, ?_⟩
  · unfold connect
    rw [haddress, show g.token.or Settings.empty.token = g.token from Option.or_none]
    rfl
  · rw [hfile, loadDeclaration_answering, hparse]

/-! ### The value that decides -/

/-- The value that decides on the goal of a run that is ready, its flags and its declaration being
what they may. If it is the word for a goal, this goal is pursued, and if there is none, the broker
is to be present. Any other text ends the run where reading the declaration has left the world,
whatever an exchange of messages would do, so none takes place. A value that is no text can only be
declared, and counts as none. -/
theorem state_decides_goal (h : Ready system g o w endpoint region d w') :
    (∀ goal : Goal, deciding o.state d = some (.string goal.text) →
      perform system g (.apply o) w = pursue system endpoint region o d goal w') ∧
    (deciding o.state d = none →
      perform system g (.apply o) w = pursue system endpoint region o d .present w') ∧
    (∀ word, deciding o.state d = some (.string word) → (∀ goal : Goal, word ≠ goal.text) →
      ∀ exchange : Http.Exchange (StateM σ),
        perform { system with exchange := exchange } g (.apply o) w =
          (.error (.ofFault (.invalidGoal word)), w')) ∧
    ∀ v, deciding o.state d = some v → (∀ word, v ≠ .string word) →
      o.state = none ∧ Object.get? d "state" = some v ∧
        perform system g (.apply o) w = pursue system endpoint region o d .present w' := by
  refine ⟨?_, ?_, ?_, ?_⟩
  · intro goal hword
    rw [perform_apply h, goal_of_text hword]
  · intro hnone
    have hno : (deciding o.state d).bind Json.string? = none := by rw [hnone, Option.bind_none]
    rw [perform_apply h, goal_of_no_text hno]
  · intro word hword hne exchange
    have hready : Ready { system with exchange := exchange } g o w endpoint region d w' := h
    rw [perform_apply hready, goal_of_ne hword hne]
  · intro v hv hother
    have hno : (deciding o.state d).bind Json.string? = none := by
      rw [hv, Option.bind_some, Option.eq_none_iff_forall_ne_some]
      exact fun word hword ↦ hother word (Json.string?_eq_some_iff.mp hword)
    have hstate : o.state = none := by
      cases hstate : o.state with
      | none => rfl
      | some word =>
          rw [hstate] at hv
          exact absurd (Option.some.inj hv).symm (hother word)
    rw [hstate] at hv
    refine ⟨hstate, (Declaration.given?_eq_some_iff.mp hv).1, ?_⟩
    rw [perform_apply h, goal_of_no_text hno]

/-- A declared word that names no goal ends the run before a server hears of it. -/
theorem unknown_goal_is_refused :
    let text : String := "broker_name: orders\nstate: stopped\n"
    let g : Globals := ⟨some "http://127.0.0.1:8080", none, none, .off⟩
    let o : ApplyOptions := ⟨some "orders.yaml", none, none, false, false⟩
    (∃ endpoint region d, Ready (answering silent text) g o [] endpoint region d [] ∧
      deciding o.state d = some (.string "stopped")) ∧
    (∀ goal : Goal, "stopped" ≠ goal.text) ∧
    perform (answering silent text) g (.apply o) [] =
      (.error (.ofFault (.invalidGoal "stopped")), []) := by
  intro text g o
  obtain ⟨d, hparse, hd⟩ := Declaration.exists_parse text
    (fun d ↦ (deciding none d).bind Json.string? == some "stopped") (by decide +kernel)
  obtain ⟨v, hv, hword⟩ := Option.bind_eq_some_iff.mp (beq_iff_eq.mp hd)
  obtain rfl := Json.string?_eq_some_iff.mp hword
  have hready := ready_answering (g := g) (o := o) silent hparse rfl rfl []
  have hne : ∀ goal : Goal, "stopped" ≠ goal.text := by
    intro goal
    cases goal <;> decide
  have hrun := (state_decides_goal hready).2.2.1 "stopped" hv hne silent.exchange
  exact ⟨⟨_, _, d, hready, hv⟩, hne, hrun⟩

/-- A list is passed over: the broker is created that the declaration wants absent. -/
theorem listed_state_creates :
    let text : String := "broker_name: orders\nsecurity_groups: [sg-1]\nstate: [absent]\n"
    let g : Globals := ⟨some "http://127.0.0.1:8080", none, none, .off⟩
    let o : ApplyOptions := ⟨some "orders.yaml", none, none, false, false⟩
    let ended := perform (answering silent text) g (.apply o) []
    (∃ endpoint region d, Ready (answering silent text) g o [] endpoint region d [] ∧
      deciding o.state d = some (.array [.string "absent"])) ∧
    ended.1.isOk = true ∧ ended.2.map (·.method) = [.get, .post] := by
  intro text g o
  refine ⟨?_, by decide +kernel⟩
  obtain ⟨d, hparse, hd⟩ := Declaration.exists_parse text (fun d ↦
    ((deciding none d).bind Json.array?).map (·.map Json.string?) == some [some "absent"])
    (by decide +kernel)
  obtain ⟨items, hitems, hwords⟩ := Option.map_eq_some_iff.mp (beq_iff_eq.mp hd)
  obtain ⟨v, hv, hlisted⟩ := Option.bind_eq_some_iff.mp hitems
  obtain rfl := Json.array?_eq_some_iff.mp hlisted
  obtain ⟨item, rfl, hword⟩ := List.map_eq_singleton_iff.mp hwords
  obtain rfl := Json.string?_eq_some_iff.mp hword
  exact ⟨_, _, d, ready_answering (g := g) (o := o) silent hparse rfl rfl [], hv⟩

end CommandLine

end BrokerControl
