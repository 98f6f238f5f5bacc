namespace RangeFetch

inductive SourceError where
  | notFound (url : String)
  /-- Nobody is known to serve this hash. -/
  | unavailable (hash : String)
  | httpStatus (url : String) (status : Nat)
  /-- The content ends before the first byte asked for. -/
  | rangeNotSatisfiable (url : String) (start : Nat)
  /-- Stream after stream opened somewhere else than asked. -/
  | rangeNotHonored (start attempts : Nat)
  | transport (text : String) (retryable : Bool)
  | timeout (millis : Nat)
  | invalidUrl (url text : String)
  /-- The stream ended although a read still wanted bytes. -/
  | unexpectedEof (offset expected : Nat)
  deriving DecidableEq

namespace SourceError

def message : SourceError → String
  | notFound url => s!"Content not found at {url}"
  | unavailable hash => s!"No source available for {hash}"
  | httpStatus url status => s!"HTTP status {status} from {url}"
  | rangeNotSatisfiable url start => s!"Range starting at byte {start} not satisfiable by {url}"
  | rangeNotHonored start attempts =>
    s!"Source ignored byte range starting at {start} after {attempts} attempts"
  | transport text _ => s!"Transport error: {text}"
  | timeout millis => s!"Timed out after {millis}ms waiting for source data"
  | invalidUrl url text => s!"Invalid source URL {url}: {text}"
  | unexpectedEof offset expected => s!"Stream ended at byte {offset}, file size is {expected}"

/-- Statuses that tell of the server's condition and not of the request. -/
def retryableStatus (status : Nat) : Bool :=
  (500 ≤ status && status ≤ 599) || status == 408 || status == 429

def retryable : SourceError → Bool
  | transport _ r => r
  | timeout _ => true
  | unavailable _ => true
  | httpStatus _ status => retryableStatus status
  | _ => false

end SourceError

end RangeFetch
