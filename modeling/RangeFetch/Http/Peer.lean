import RangeFetch.Http.Options
import RangeFetch.Http.Response
import RangeFetch.Http.Transfer

namespace RangeFetch.Http

/-- An answer as it is sent. -/
structure Reply where
  status : String
  headers : List Header
  body : Bytes
  /-- The length in the header, if it is not that of the body. -/
  claimedLength : Option Nat
  /-- The connection stays open after the body. -/
  hangs : Bool
  deriving DecidableEq

namespace Reply

def line (text : String) : Bytes := text.toUTF8.toList ++ [Head.cr, Head.lf]

def headerLine (h : Header) : Bytes := s!"{h.name}: ".toUTF8.toList ++ h.value ++ [Head.cr, Head.lf]

/-- The bytes on the connection: the head, which announces the length of the body, and the body. -/
def bytes (r : Reply) : Bytes :=
  line s!"HTTP/1.1 {r.status}" ++ r.headers.flatMap headerLine ++
    line s!"Content-Length: {r.claimedLength.getD r.body.length}" ++
    line "Connection: close" ++ line "" ++ r.body

/-- How waiting for more than is sent ends. -/
def failure (r : Reply) : HttpFailure := if r.hangs then .timedOut else .brokenOff

/-- The items of a body that has come so far. -/
def items (r : Reply) (a : Arrival) : List Item :=
  a.pieces.map .bytes ++
    match a.ending with
    | .found _ _ => []
    | .unfinished => [.failed (HttpError.exchange r.failure).toSource]
    | .malformed => [.failed (HttpError.exchange .brokenOff).toSource]

def response (r : Reply) : Except HttpError Response :=
  match Head.readFinal (r.bytes.length + 1) r.bytes with
  | .unfinished => .error (.exchange r.failure)
  | .malformed => .error (.exchange .brokenOff)
  | .found head rest =>
    match Framing.ofHead? head with
    | none => .error (.exchange .brokenOff)
    | some framing => .ok ⟨head.status, head.headers, r.items (framing.receive rest !r.hangs)⟩

end Reply

inductive Peer where
  /-- Nobody listens. -/
  | absent
  /-- Somebody listens and never answers. -/
  | mute
  | closing
  | replying (reply : Reply)
  deriving DecidableEq

def Peer.answer : Peer → Except HttpError Response
  | absent => .error (.exchange .unreachable)
  | mute => .error (.exchange .timedOut)
  | closing => .error (.exchange .brokenOff)
  | replying reply => reply.response

def Peer.listens : Peer → Bool
  | absent => false
  | _ => true

/-- What a content server makes of ranges. -/
inductive ServerMode where
  | honor
  | ignore
  /-- Everything is sent as if it were the range asked for. -/
  | lie
  | status (code : Nat)
  /-- Ranges are honored, and the connection closes after so many bytes. -/
  | truncate (count : Nat)
  deriving DecidableEq

structure ContentServer where
  contents : List (String × Bytes)
  mode : ServerMode
  deriving DecidableEq

namespace ContentServer

def content? (s : ContentServer) (target : String) : Option Bytes :=
  let path := target.toList.takeWhile (· != '?')
  s.contents.lookup (String.ofList (path.reverse.takeWhile (· != '/')).reverse)

def contentRange (start size : Nat) : Header :=
  ⟨"Content-Range", s!"bytes {start}-{size - 1}/{size}".toUTF8.toList⟩

def bare (status : Nat) : Reply := ⟨toString status, [], [], none, false⟩

def full (status : Nat) (headers : List Header) (content : Bytes) : Reply :=
  ⟨toString status, headers, content, none, false⟩

/-- The content from the first byte asked for on. -/
def honored (content : Bytes) (rangeStart : Option Nat) : Reply :=
  match rangeStart with
  | none => full Response.ok [] content
  | some start =>
    if content.length ≤ start then bare Response.rangeNotSatisfiable
    else full Response.partialContent [contentRange start content.length] (content.drop start)

def reply (s : ContentServer) (target : String) (rangeStart : Option Nat) : Reply :=
  match s.mode, s.content? target with
  | .status code, _ => bare code
  | _, none => bare Response.notFound
  | .honor, some content => honored content rangeStart
  | .ignore, some content => full Response.ok [] content
  | .lie, some content => full Response.partialContent [contentRange 0 content.length] content
  | .truncate count, some content =>
    let whole := honored content rangeStart
    { whole with body := whole.body.take count, claimedLength := some whole.body.length }

end ContentServer

end RangeFetch.Http
