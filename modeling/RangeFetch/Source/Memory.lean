import RangeFetch.Limits
import RangeFetch.Source.Resolver
import RangeFetch.Source.Supplier

namespace RangeFetch

@[ext]
structure Faults where
  ignoreRanges : Bool
  /-- Streams fall silent after this many bytes. -/
  stallAfter : Option Nat
  /-- Streams fail after this many bytes. -/
  failAfter : Option Nat
  failOpen : Option SourceError
  deriving DecidableEq

namespace Faults

def none : Faults := ⟨false, .none, .none, .none⟩

/-- The number of bytes after which a stream breaks off, the smaller one of the two limits. -/
def cutoff (f : Faults) : Option Nat :=
  match f.failAfter, f.stallAfter with
  | some a, some b => some (min a b)
  | some a, .none => some a
  | .none, b => b

inductive Switch where
  | ignoreRanges (on : Bool)
  | stallAfter (limit : Option Nat)
  | failAfter (limit : Option Nat)
  | failOpen (error : Option SourceError)

def set (f : Faults) : Switch → Faults
  | .ignoreRanges on => { f with ignoreRanges := on }
  | .stallAfter limit => { f with stallAfter := limit }
  | .failAfter limit => { f with failAfter := limit }
  | .failOpen error => { f with failOpen := error }

/-- What a failing stream fails with. -/
def breakage : SourceError := .transport "connection reset by peer" true

/-- The items of a stream over `data`, cut into deliveries. A limit that fails is passed on as an
error also where the data ends before it. -/
def deliveries (f : Faults) (deliverySize : Nat) (data : Bytes) : List Item :=
  let reached := match f.cutoff with
    | some limit => data.take limit
    | .none => data
  (Bytes.cut deliverySize reached).map .bytes ++
    if f.failAfter.isSome && f.failAfter == f.cutoff then [.failed breakage] else []

def ending (f : Faults) : Ending := if f.stallAfter.isSome then .silent else .eof

end Faults

structure MemoryStore where
  deliverySize : Nat
  contents : List (String × Bytes)
  faults : Faults
  requests : List Request

namespace MemoryStore

def empty (deliverySize : Nat) : MemoryStore := ⟨deliverySize, [], .none, []⟩

/-- Content under the same hash is replaced. -/
def insert (m : MemoryStore) (data : Bytes) : FileIdentity × MemoryStore :=
  let id := FileIdentity.ofContent data
  (id, { m with contents := (id.hash, data) :: m.contents })

def set (m : MemoryStore) (switch : Faults.Switch) : MemoryStore :=
  { m with faults := m.faults.set switch }

def content? (m : MemoryStore) (hash : String) : Option Bytes := m.contents.lookup hash

def resolve (m : MemoryStore) (id : FileIdentity) : Except SourceError String :=
  match m.content? id.hash with
  | some _ => .ok (Limits.memoryScheme ++ id.hash)
  | none => .error (.unavailable id.hash)

def hashOfUrl? (url : String) : Option String :=
  if Limits.memoryScheme.toList.isPrefixOf url.toList then
    some (String.ofList (url.toList.drop Limits.memoryScheme.length))
  else none

/-- The answer to a request, the request not yet recorded. -/
def answer (m : MemoryStore) (r : Request) : Except SourceError OpenedStream :=
  match m.faults.failOpen with
  | some e => .error e
  | none =>
    match hashOfUrl? r.url with
    | none => .error (.invalidUrl r.url s!"expected {Limits.memoryScheme} scheme")
    | some hash =>
      match m.content? hash with
      | none => .error (.notFound r.url)
      | some data =>
        let start := if m.faults.ignoreRanges then 0 else r.start
        if data.length < start then .error (.rangeNotSatisfiable r.url start)
        else
          .ok ⟨r.url, start, m.faults.deliveries m.deliverySize (data.drop start),
            m.faults.ending⟩

def openStream (m : MemoryStore) (r : Request) : Except SourceError OpenedStream × MemoryStore :=
  (m.answer r, { m with requests := m.requests ++ [r] })

def supplier : Supplier MemoryStore where
  resolve := fun m id => (m.resolve id, m)
  issue := fun m r => some (m.openStream r)

end MemoryStore

end RangeFetch
