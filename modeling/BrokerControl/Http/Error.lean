import BrokerControl.Url.Error

/-!
# Errors of exchanges

Why a request got no answer. Each cause has a general sentence, which names the URL if there is one,
and further ones that go into detail.
-/

namespace BrokerControl

/-- Why a request got no answer. -/
inductive ExchangeError where
  /-- The request's address is no URL. -/
  | badUrl (cause : UrlError)
  /-- The request's URL names no scheme that can be spoken. -/
  | badScheme (url : String)
  /-- The request's URL is too long or names a host that no message can name. -/
  | unwritable (url : String)
  /-- A header's value holds a character that no header may hold. -/
  | badHeader
  /-- The name of the host could not be looked up; why, in the words of the system. -/
  | unresolved (url sentence : String)
  /-- There is no connection to the host; why, in the words of the system. -/
  | unconnected (url sentence : String)
  /-- The connection broke before the answer; why, in the words of the system. -/
  | broken (url sentence : String)
  /-- The connection ended before the answer. -/
  | dropped (url : String)
  /-- The connection ended inside the answer's body. -/
  | brokenBody (url : String)
  deriving DecidableEq, Repr

namespace ExchangeError

/-- The sentences for the user, from the general to the particular. -/
def messages : ExchangeError → List String
  | badUrl cause => ["builder error", cause.message]
  | badScheme url => [s!"builder error for url ({url})", "URL scheme is not allowed"]
  | unwritable url => [s!"builder error for url ({url})", "Parsed Url is not a valid Uri"]
  | badHeader => ["builder error", "failed to parse header value"]
  | unresolved url sentence =>
    [s!"error sending request for url ({url})", "client error (Connect)", "dns error",
      s!"failed to lookup address information: {sentence}"]
  | unconnected url sentence =>
    [s!"error sending request for url ({url})", "client error (Connect)", "tcp connect error",
      sentence]
  | broken url sentence =>
    [s!"error sending request for url ({url})", "client error (SendRequest)", "connection error",
      sentence]
  | dropped url =>
    [s!"error sending request for url ({url})", "client error (SendRequest)",
      "connection closed before message completed"]
  | brokenBody url =>
    [s!"error decoding response body for url ({url})",
      "error reading a body from connection", "end of file before message length reached"]

end ExchangeError

end BrokerControl
