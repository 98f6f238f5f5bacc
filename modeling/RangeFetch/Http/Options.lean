import RangeFetch.Limits
import RangeFetch.Source.Error

namespace RangeFetch

structure HttpOptions where
  /-- In milliseconds. -/
  connectTimeout : Nat
  userAgent : String
  /-- A server that sends everything instead of a range is read up to the range. -/
  skipUnrangedPrefix : Bool
  deriving DecidableEq

inductive HttpFailure where
  | unreachable
  | timedOut
  | brokenOff
  | foreignScheme
  | unsendable
  | redirected
  deriving DecidableEq

inductive HttpError where
  | config (text : String)
  | exchange (failure : HttpFailure)
  deriving DecidableEq

namespace HttpFailure

def text : HttpFailure → String
  | unreachable => "no connection"
  | timedOut => "operation timed out"
  | brokenOff => "connection closed before the message was complete"
  | foreignScheme => "URL scheme is not allowed"
  | unsendable => "invalid host in URL"
  | redirected => "too many redirects"

def retryable : HttpFailure → Bool
  | unreachable => true
  | timedOut => true
  | _ => false

end HttpFailure

namespace HttpError

def message : HttpError → String
  | config text => s!"Configuration error: {text}"
  | exchange failure => s!"HTTP request failed: {failure.text}"

/-- A client that cannot be set up has no URL to complain about. -/
def toSource : HttpError → SourceError
  | config text => .invalidUrl "" text
  | exchange failure => .transport (exchange failure).message failure.retryable

end HttpError

namespace HttpOptions

def standard : HttpOptions := ⟨Limits.connectTimeout, Limits.userAgent, true⟩

def isHeaderValue (value : String) : Bool :=
  value.toList.all fun c => (0x20 ≤ c.toNat && c.toNat != 0x7f) || c == '\t'

def check (o : HttpOptions) : Except HttpError Unit :=
  if isHeaderValue o.userAgent then .ok () else .error (.config "invalid user agent")

end HttpOptions

end RangeFetch
