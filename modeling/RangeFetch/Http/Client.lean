import RangeFetch.Http.Peer
import RangeFetch.Http.Redirect

namespace RangeFetch.Http

structure SentRequest where
  line : String
  range : Option String
  userAgent : Option String
  deriving DecidableEq

namespace SentRequest

/-- A header value is received without the blanks around it. -/
def receivedValue (value : String) : String :=
  String.ofList (ContentRange.trim value.toList)

def ofRequest (target : String) (r : Request) (userAgent : Option String) : SentRequest where
  line := s!"GET {target} HTTP/1.1"
  range := r.rangeStart.map fun start => s!"bytes={start}-"
  userAgent := userAgent.map receivedValue

end SentRequest

/-- What a request names at a server, or why it cannot be sent. -/
def target (r : Request) : Except SourceError String :=
  match Url.parse? r.url with
  | none => .error (.invalidUrl r.url "not an absolute URL")
  | some url =>
    if url.scheme ≠ "http" ∧ url.scheme ≠ "https" then
      .error (HttpError.exchange .foreignScheme).toSource
    else if url.isSendable then .ok url.target
    else .error (HttpError.exchange .unsendable).toSource

/-- The stream that an answer to a request for `target` gives. -/
def receive (skipPrefix : Bool) (r : Request) (target : String)
    (answer : Except HttpError Response) : Except SourceError OpenedStream :=
  match answer with
  | .error e => .error e.toSource
  | .ok response =>
    match response.destination? target with
    | some reference => .error (HttpError.exchange reference.failure).toSource
    | none => response.toStream skipPrefix r

/-- Asks a peer for a stream. Also gives the request as it arrived. -/
def exchange (skipPrefix : Bool) (userAgent : Option String) (peer : Peer) (r : Request) :
    Option SentRequest × Except SourceError OpenedStream :=
  match target r with
  | .error e => (none, .error e)
  | .ok target =>
    (if peer.listens then some (.ofRequest target r userAgent) else none,
      receive skipPrefix r target peer.answer)

def ContentServer.openStream (s : ContentServer) (skipPrefix : Bool) (r : Request) :
    Except SourceError OpenedStream :=
  match target r with
  | .error e => .error e
  | .ok target => receive skipPrefix r target (Peer.replying (s.reply target r.rangeStart)).answer

end RangeFetch.Http
