import BrokerControl.Fault
import BrokerControl.File.Error
import BrokerControl.Http.Error
import BrokerControl.Service.Error

/-!
# Failures

An operation fails with a cause and the contexts it went through on its way out. A cause is a fault
of the library, an answer of the control plane that is no success, or one of the errors that
reading, sending and saving can end in.
-/

namespace BrokerControl

/-- What an operation failed of. -/
inductive Cause where
  | fault (f : Fault)
  | service (e : ServiceError)
  /-- An error that has no more to it than its text. -/
  | plain (text : String)
  | url (e : UrlError)
  | json
  | yaml
  | exchange (e : ExchangeError)
  | file (e : FileError)
  /-- A listing went on past the number of pages that are read. -/
  | tooManyPages
  deriving DecidableEq, Repr

/-- A cause, and the contexts around it, the outermost first. -/
structure Failure where
  contexts : List String
  cause : Cause
  deriving DecidableEq, Repr

namespace Cause

/-- The sentences for the user, from the general to the particular. -/
def messages : Cause → List String
  | fault f => [f.message]
  | service e => [e.display]
  | plain text => [text]
  | url e => [e.message]
  | json => ["malformed JSON"]
  | yaml => ["malformed YAML"]
  | exchange e => e.messages
  | file e => [e.message]
  | tooManyPages => ["Listing has too many pages"]

end Cause

namespace Failure

/-- A failure without contexts. -/
def ofCause (c : Cause) : Failure := ⟨[], c⟩

/-- A fault as a failure. -/
def ofFault (f : Fault) : Failure := ofCause (.fault f)

/-- The failure inside one more context. -/
def within (context : String) (f : Failure) : Failure := ⟨context :: f.contexts, f.cause⟩

/-- Faults are told apart as failures. -/
@[simp] theorem ofFault_inj {f g : Fault} : ofFault f = ofFault g ↔ f = g := by
  simp [ofFault, ofCause]

/-- A failure with a context is no bare fault. -/
@[simp] theorem within_ne_ofFault (e : Failure) (context : String) (f : Fault) :
    e.within context ≠ ofFault f := by
  simp [within, ofFault, ofCause]

/-- Puts the failure of a result, if it is one, inside a context. -/
def inContext {α : Type} (context : String) : Except Failure α → Except Failure α
  | .ok a => .ok a
  | .error f => .error (f.within context)

/-- All sentences, from the outermost context to the last of the cause. -/
def chain (f : Failure) : List String := f.contexts ++ f.cause.messages

/-- The outermost sentence. -/
def outermost (f : Failure) : String := f.chain.headD ""

end Failure

end BrokerControl
