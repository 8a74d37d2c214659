import BrokerControl.Text.Utf8

/-!
# Printable text

What may be shown or logged of a text that came from elsewhere: its printable ASCII characters, up
to a limit, with a mark when something was left out.
-/

namespace BrokerControl.Printable

/-- The characters that are shown: printable ASCII and the space. -/
def isPrintable (c : Char) : Bool := decide (0x20 ≤ c.toNat ∧ c.toNat ≤ 0x7E)

/-- How many characters of a body an excerpt may hold. -/
def excerptLimit : Nat := 200

/-- The printable characters of a body. Of a long body only the start is taken, followed by a note
on its size in bytes. -/
def excerpt (body : String) : String :=
  let cs := body.toList
  let shown :=
    if excerptLimit < cs.length then
      cs.take excerptLimit ++ s!"... [truncated, {Utf8.size cs} bytes total]".toList
    else cs
  String.ofList (shown.filter isPrintable)

/-- How many characters of a local message are shown. -/
def messageLimit : Nat := 160

/-- The start of the printable characters of a message, and an ellipsis if anything is missing. -/
def abridge (message : String) : String :=
  let cs := message.toList
  let shown := (cs.filter isPrintable).take messageLimit
  String.ofList (if shown.length < Utf8.size cs then shown ++ ['.', '.', '.'] else shown)

end BrokerControl.Printable
