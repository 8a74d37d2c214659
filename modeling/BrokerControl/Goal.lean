import BrokerControl.Fault

/-!
# Goals

What a broker is to be brought to.
-/

namespace BrokerControl

/-- The condition that a broker is to be brought to. -/
inductive Goal where
  | present
  | absent
  | restarted
  deriving DecidableEq, Repr, Inhabited

namespace Goal

/-- The word for a goal. -/
def text : Goal → String
  | present => "present"
  | absent => "absent"
  | restarted => "restarted"

/-- The goal that a word names; words are compared exactly. -/
def parse (word : String) : Except Fault Goal :=
  if word = "present" then .ok present
  else if word = "absent" then .ok absent
  else if word = "restarted" then .ok restarted
  else .error (.invalidGoal word)

end Goal

end BrokerControl
