import BrokerControl.Url.Host

/-!
# URLs

Absolute URLs as browsers read them: blanks around a text and line breaks inside it do not count,
schemes of the web take backslashes for slashes and may do without slashes in front of the host,
dot segments are resolved, and characters that may not stand where they do become triplets.
`Url.parse` reads a text, `Url.text` writes the URL, and `Url.target` is the part of it that a
request names.
-/

namespace BrokerControl

/-- A URL. -/
structure Url where
  scheme : String
  username : String
  password : Option String
  host : Option Host
  /-- The port, unless it is the usual one of the scheme. -/
  port : Option Nat
  /-- The path, with its leading slash if it has one. -/
  path : String
  query : Option String
  fragment : Option String
  deriving DecidableEq, Repr

namespace Url

/-! ## Schemes -/

/-- The usual port of a scheme. -/
def usualPort? (scheme : String) : Option Nat :=
  if scheme = "http" || scheme = "ws" then some 80
  else if scheme = "https" || scheme = "wss" then some 443
  else if scheme = "ftp" then some 21
  else none

/-- Whether the scheme names files. -/
def isFile (scheme : String) : Bool := scheme = "file"

/-- Whether the scheme is one of the web, which read backslashes as slashes. -/
def isWeb (scheme : String) : Bool := (usualPort? scheme).isSome || isFile scheme

/-- Whether `c` separates the segments of a path. -/
def isSlash (web : Bool) (c : Char) : Bool := c = '/' || (web && c = '\\')

/-- Whether `c` ends the part of a URL that names the host. -/
def endsAuthority (web : Bool) (c : Char) : Bool := isSlash web c || c = '?' || c = '#'

/-- The scheme in front of a text, in lower case, and what follows its colon. -/
def scheme? (cs : List Char) : Option (String × List Char) :=
  let name := cs.takeWhile fun c ↦ c.isAlphanum || c = '+' || c = '-' || c = '.'
  match cs.drop name.length with
  | ':' :: rest =>
    if name.head?.any Char.isAlpha then some (String.ofList (name.map Char.toLower), rest) else none
  | _ => none

/-! ## Characters that are written as triplets -/

/-- The characters that are kept in a fragment. -/
def keptInFragment (c : Char) : Bool := !Host.isControl c && !" \"<>`".toList.contains c

/-- The characters that are kept in a path. -/
def keptInPath (c : Char) : Bool := keptInFragment c && !"#?^\x7b\x7d".toList.contains c

/-- The characters that are kept in a name or password. -/
def keptInUserinfo (c : Char) : Bool := keptInPath c && !"/:;=@[\\]^|".toList.contains c

/-- The characters that are kept in a query. -/
def keptInQuery (web : Bool) (c : Char) : Bool :=
  !Host.isControl c && !" \"#<>".toList.contains c && !(web && c = '\'')

/-- A part of a URL with triplets where they are needed. -/
def written (kept : Char → Bool) (cs : List Char) : String :=
  String.ofList (Percent.encodeWith kept cs)

/-! ## Paths -/

/-- A segment in lower case with its written dots read. -/
def plainDots : List Char → List Char
  | '%' :: '2' :: 'e' :: cs | '%' :: '2' :: 'E' :: cs => '.' :: plainDots cs
  | c :: cs => c :: plainDots cs
  | [] => []

/-- Whether a segment stands for the place itself. -/
def isSingleDot (segment : List Char) : Bool := plainDots segment == ['.']

/-- Whether a segment stands for the place above. -/
def isDoubleDot (segment : List Char) : Bool := plainDots segment == ['.', '.']

/-- Whether a segment names a drive: a letter and a colon or bar. -/
def isDrive (segment : List Char) : Bool :=
  match segment with
  | [c, d] => c.isAlpha && (d = ':' || d = '|')
  | _ => false

/-- The segments that are left when the last is given up; a drive stays. -/
def shorten (file : Bool) (path : List (List Char)) : List (List Char) :=
  match path with
  | [drive] => if file && isDrive drive then path else []
  | path => path.dropLast

/-- One more segment. A dot segment that ends the path leaves an empty one. -/
def addSegment (file : Bool) (path : List (List Char)) (segment : List Char) (last : Bool) :
    List (List Char) :=
  if isDoubleDot segment then
    let path := shorten file path
    if last then path ++ [[]] else path
  else if isSingleDot segment then if last then path ++ [[]] else path
  else if file && path.isEmpty && isDrive segment then path ++ [segment.take 1 ++ [':']]
  else path ++ [Percent.encodeWith keptInPath segment]

/-- The segments of a path, with the dot segments resolved. -/
def resolve (file : Bool) : List (List Char) → List (List Char) → List (List Char)
  | path, [] => path
  | path, [segment] => addSegment file path segment true
  | path, segment :: more => resolve file (addSegment file path segment false) more

/-- Cuts a text at the slashes. -/
def cut (web : Bool) (cs : List Char) : List (List Char) :=
  Pieces.split '/' (if web then cs.map fun c ↦ if c = '\\' then '/' else c else cs)

/-- The segments of a path behind its first slash. -/
def segments (scheme : String) (cs : List Char) : List (List Char) :=
  resolve (isFile scheme) [] (cut (isWeb scheme) cs)

/-- A path from its segments. -/
def pathOf (segments : List (List Char)) : String :=
  String.ofList (segments.flatMap fun s ↦ '/' :: s)

/-- The path in front of a text, and what follows it. -/
def splitPath (cs : List Char) : List Char × List Char :=
  (cs.takeWhile fun c ↦ c ≠ '?' && c ≠ '#', cs.dropWhile fun c ↦ c ≠ '?' && c ≠ '#')

/-- The query and the fragment at the end of a text. -/
def tail (web : Bool) (cs : List Char) : Option String × Option String :=
  let fragment (cs : List Char) : Option String :=
    match cs with
    | '#' :: rest => some (written keptInFragment rest)
    | _ => none
  match cs with
  | '?' :: rest =>
    let query := rest.takeWhile (· ≠ '#')
    (some (written (keptInQuery web) query), fragment (rest.drop query.length))
  | cs => (none, fragment cs)

/-! ## Hosts and ports -/

/-- The name and password in front of a host, and what follows the last at-sign. An at-sign at the
start of a web address must be followed by a host. -/
def userinfo (web : Bool) (cs : List Char) :
    Except UrlError (String × Option String × List Char) :=
  let authority := cs.takeWhile fun c ↦ !endsAuthority web c
  if authority.contains '@' then
    let host := (authority.reverse.takeWhile (· ≠ '@')).reverse
    let info := authority.take (authority.length - host.length - 1)
    let rest := cs.drop (info.length + 1)
    if info.isEmpty && rest.head?.any (endsAuthority web) then .error .emptyHost
    else
      let name := info.takeWhile (· ≠ ':')
      let password := info.drop (name.length + 1)
      .ok (written keptInUserinfo name,
        if password.isEmpty then none else some (written keptInUserinfo password), rest)
  else .ok ("", none, cs)

/-- The characters of the host in front of a text: a colon ends it unless a bracket is open. -/
def hostChars (web : Bool) : Bool → List Char → List Char
  | _, [] => []
  | inBrackets, c :: cs =>
    if endsAuthority web c || (c = ':' && !inBrackets) then []
    else c :: hostChars web (c = '[' || (inBrackets && c ≠ ']')) cs

/-- The port behind a colon, and what follows it. -/
def portBehind (scheme : String) (cs : List Char) : Except UrlError (Option Nat × List Char) :=
  let digits := cs.takeWhile Char.isDigit
  let rest := cs.drop digits.length
  let number := Digit.value 10 (digits.filterMap Digit.decimal?)
  if number > 65535 || !rest.head?.all (endsAuthority true) then .error .invalidPort
  else if digits.isEmpty || usualPort? scheme = some number then .ok (none, rest)
  else .ok (some number, rest)

/-- The host and port of a URL that has two slashes behind its scheme. -/
def hostAndPort (scheme : String) (cs : List Char) :
    Except UrlError (Host × Option Nat × List Char) := do
  let web := isWeb scheme
  let chars := hostChars web false cs
  let rest := cs.drop chars.length
  if web && chars.isEmpty then .error .emptyHost
  let host ← if web then Host.ofWeb chars else Host.ofOther chars
  match rest with
  | ':' :: behind =>
    if host.isEmptyName then .error .emptyHost
    let (port, rest) ← portBehind scheme behind
    return (host, port, rest)
  | rest => return (host, none, rest)

/-! ## The forms of a URL -/

/-- The URL with these parts behind its authority. -/
def finish (scheme username : String) (password : Option String) (host : Option Host)
    (port : Option Nat) (path : String) (rest : List Char) : Url :=
  let (query, fragment) := tail (isWeb scheme) rest
  ⟨scheme, username, password, host, port, path, query, fragment⟩

/-- The path of a URL with a host. Only a web address always has one. -/
def hostPath (scheme : String) (cs : List Char) : String :=
  match cs with
  | [] => if isWeb scheme then "/" else ""
  | c :: rest => pathOf (segments scheme (if isSlash (isWeb scheme) c then rest else cs))

/-- A URL with a host, from behind the two slashes. -/
def withAuthority (scheme : String) (cs : List Char) : Except UrlError Url := do
  let (username, password, rest) ← userinfo (isWeb scheme) cs
  let (host, port, rest) ← hostAndPort scheme rest
  let named := !username.isEmpty || password.isSome
  if host.isEmptyName && named then .error .emptyHost
  let (path, rest) := splitPath rest
  return finish scheme username password (some host) port (hostPath scheme path) rest

/-- A URL of a file, from behind the scheme. -/
def ofFile (scheme : String) (cs : List Char) : Except UrlError Url := do
  match cs with
  | c :: d :: rest =>
    if isSlash true c && isSlash true d then
      let chars := rest.takeWhile fun c ↦ !endsAuthority true c
      -- A drive is the start of the path and never a host.
      if chars.isEmpty || isDrive chars then
        let (path, rest) := splitPath rest
        let path := match path with
          | c :: more => if isSlash true c then more else path
          | [] => []
        return finish scheme "" none none none (pathOf (segments scheme path)) rest
      let host ← Host.ofWeb chars
      let host := if host = .domain "localhost" then none else some host
      let (path, rest) := splitPath (rest.drop chars.length)
      return finish scheme "" none host none (hostPath scheme path) rest
    else return hostless cs
  | cs => return hostless cs
where
  /-- A URL of a file without a host. -/
  hostless (cs : List Char) : Url :=
    let (path, rest) := splitPath cs
    finish scheme "" none none none (hostPath scheme path) rest

/-- A URL of any other scheme, from behind the scheme. -/
def ofOther (scheme : String) (cs : List Char) : Except UrlError Url :=
  match cs with
  | '/' :: '/' :: rest => withAuthority scheme rest
  | '/' :: _ =>
    let (path, rest) := splitPath cs
    let path := hostPath scheme path
    let path := if path.startsWith "//" then "/." ++ path else path
    .ok (finish scheme "" none none none path rest)
  | cs =>
    let (path, rest) := splitPath cs
    .ok (finish scheme "" none none none (written (fun c ↦ !Host.isControl c) path) rest)

/-- Whether `c` does not count at either end of a text. -/
def isTrimmed (c : Char) : Bool := decide (c.toNat ≤ 0x20)

/-- A text without what does not count in it. -/
def cleaned (text : String) : List Char :=
  let front := text.toList.dropWhile isTrimmed
  let both := (front.reverse.dropWhile isTrimmed).reverse
  both.filter fun c ↦ c ≠ '\t' && c ≠ '\n' && c ≠ '\r'

/-- The URL that a text writes. -/
def parse (text : String) : Except UrlError Url :=
  match scheme? (cleaned text) with
  | none => .error .relativeWithoutBase
  | some (scheme, rest) =>
    if isFile scheme then ofFile scheme rest
    else if isWeb scheme then withAuthority scheme (rest.dropWhile (isSlash true))
    else ofOther scheme rest

/-! ## Writing -/

/-- The name and password in front of the host. -/
def userinfoText (u : Url) : String :=
  let password := match u.password with
    | some p => ":" ++ p
    | none => ""
  if u.username.isEmpty && u.password.isNone then "" else u.username ++ password ++ "@"

/-- The name and the password that a URL holds, if there is one of them. A password that is no text
does not count, and a name that is none leaves both where they are. -/
def credentials? (u : Url) : Option (String × Option String) :=
  match Percent.decode? u.username with
  | some name =>
    let password := u.password.bind Percent.decode?
    if name.isEmpty && password.isNone then none else some (name, password)
  | none => none

/-- The URL without the name and the password that it holds. -/
def withoutCredentials (u : Url) : Url :=
  match u.credentials? with
  | some _ => { u with username := "", password := none }
  | none => u

/-- What stands between the scheme and the path. -/
def authorityText (u : Url) : String :=
  match u.host with
  | some host =>
    let port := match u.port with
      | some p => ":" ++ toString p
      | none => ""
    "//" ++ u.userinfoText ++ host.text ++ port
  | none => if isFile u.scheme then "//" else ""

/-- The path and the query, which a request names. -/
def target (u : Url) : String :=
  u.path ++ match u.query with
    | some q => "?" ++ q
    | none => ""

/-- The URL as a text. -/
def text (u : Url) : String :=
  u.scheme ++ ":" ++ u.authorityText ++ u.target ++ match u.fragment with
    | some f => "#" ++ f
    | none => ""

end Url

end BrokerControl
