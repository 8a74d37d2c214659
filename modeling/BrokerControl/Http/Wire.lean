import BrokerControl.Http.Message
import BrokerControl.Json.Printer

/-!
# Messages on the wire

A request as the bytes that are sent, and a response in the bytes that arrived until the connection
ended. Every request asks for a connection of its own, so a body that tells no length ends where
the connection does. `Request.written` writes the one, `Response.ofBytes` reads the other.
-/

namespace BrokerControl.Http

/-- A line feed. -/
def lineFeed : UInt8 := 10

/-- A carriage return. -/
def carriageReturn : UInt8 := 13

/-! ## Requests -/

namespace Request

/-- The host that a request names, with its port unless it is the usual one. -/
def hostText (r : Request) : String :=
  let port := match r.url.port with
    | some p => ":" ++ toString p
    | none => ""
  ((r.url.host.map Host.text).getD "") ++ port

/-- The bytes of the body, if there is one. -/
def bodyBytes (r : Request) : Option (List UInt8) := r.body.map fun v ↦ Utf8.encode v.compactChars

/-- The request line and the headers. -/
def headLines (r : Request) : List String :=
  let named (name : String) (values : List String) : List String :=
    values.map fun v ↦ name ++ ": " ++ v
  [s!"{r.method.text} {r.url.target} HTTP/1.1"] ++ named "host" [r.hostText] ++
    named "user-agent" [userAgent] ++ named "accept" ["*/*"] ++
    named "authorization" r.authorization ++ named "content-type" r.contentType.toList ++
    named "content-length" (r.bodyBytes.map fun b ↦ toString b.length).toList ++
    named "connection" ["close"]

/-- The bytes of a request. -/
def written (r : Request) : List UInt8 :=
  let line (s : String) : List UInt8 := Utf8.encode s.toList ++ [carriageReturn, lineFeed]
  r.headLines.flatMap line ++ [carriageReturn, lineFeed] ++ r.bodyBytes.getD []

end Request

/-! ## Responses -/

namespace Response

/-- A line without the carriage return at its end. -/
def trimmedLine (line : List UInt8) : List UInt8 :=
  if line.getLast? == some carriageReturn then line.dropLast else line

/-- The lines up to an empty one, and what follows it; `line` is read so far, in reverse. -/
def head? : List UInt8 → List UInt8 → Option (List (List UInt8) × List UInt8)
  | _, [] => none
  | line, b :: bytes =>
    if b = lineFeed then
      let read := trimmedLine line.reverse
      if read.isEmpty then some ([], bytes)
      else (head? [] bytes).map fun (more, rest) ↦ (read :: more, rest)
    else head? (b :: line) bytes

/-- The status in the first line of a response: the number behind the version. -/
def status? (line : List UInt8) : Option Nat :=
  let cs := (Utf8.textWithMarks line).toList
  let number := ((cs.dropWhile (· ≠ ' ')).drop 1).takeWhile (· ≠ ' ')
  if "HTTP/".toList.isPrefixOf cs && number.length = 3 then Digit.number? 10 number else none

/-- The name and the value of a header. -/
def headerOf? (line : List UInt8) : Option (String × String) :=
  let cs := (Utf8.textWithMarks line).toList
  match cs.dropWhile (· ≠ ':') with
  | _ :: value =>
    some (String.ofList (cs.takeWhile (· ≠ ':')), (String.ofList value).trimAscii.toString)
  | [] => none

/-- How many bytes the chunk behind a line has. -/
def chunkSize? (line : List UInt8) : Option Nat :=
  Digit.number? 16 ((Utf8.textWithMarks (trimmedLine line)).toList.takeWhile
    fun c ↦ (Digit.hex? c).isSome)

/-- The chunks of a body up to the empty one, which has to be there. -/
def chunks? : Nat → List UInt8 → Option (List UInt8)
  | 0, _ => none
  | fuel + 1, bytes => do
    let line := bytes.takeWhile (· ≠ lineFeed)
    let size ← chunkSize? line
    let bytes := bytes.drop (line.length + 1)
    if size = 0 then return []
    if bytes.length < size then none
    let behind := (bytes.drop size).dropWhile fun b ↦ b = carriageReturn || b = lineFeed
    return bytes.take size ++ (← chunks? fuel behind)

/-- The body of a response whose head has been read; nothing if the connection ended inside it. -/
def body? (r : Response) (bytes : List UInt8) : Option (List UInt8) :=
  if r.isBodiless then some []
  else if (r.header? "transfer-encoding").any fun v ↦ v.toLower.endsWith "chunked" then
    chunks? (bytes.length + 1) bytes
  else match (r.header? "content-length").bind fun v ↦ Digit.number? 10 v.toList with
    | some length => if bytes.length < length then none else some (bytes.take length)
    | none => some bytes

/-- The response in the bytes that a connection to `url` gave. Notices that come before it are
passed over. -/
def ofBytes (url : String) : Nat → List UInt8 → Except ExchangeError Response
  | 0, _ => .error (.dropped url)
  | fuel + 1, bytes =>
    match head? [] bytes with
    | none => .error (.dropped url)
    | some (lines, rest) =>
      match (lines.head?.bind status?) with
      | none => .error (.dropped url)
      | some status =>
        -- A notice has a head but no body, and the response follows it.
        if status < 200 then ofBytes url fuel rest
        else
          let head : Response := ⟨status, lines.tail.filterMap headerOf?, []⟩
          match head.body? rest with
          | some body => .ok { head with body := body }
          | none => .error (.brokenBody url)

end Response

end BrokerControl.Http
