import RangeFetch.Http.Client
import RangeFetch.Source.Memory

namespace RangeFetch

/-- A stream that was laid out beforehand. Without a start it starts where it is asked to. -/
structure ScriptedStream where
  start : Option Nat
  items : List Item
  ending : Ending
  deriving DecidableEq

inductive Origin where
  | store
  /-- Each request takes the next answer. -/
  | script (answers : List (Except SourceError ScriptedStream))
  | server (server : Http.ContentServer) (skipPrefix : Bool)

structure World where
  origin : Origin
  resolver : Resolver
  store : MemoryStore
  gateOpen : Bool
  requests : List Request

namespace World

def start (origin : Origin) (resolver : Resolver) (store : MemoryStore) : World :=
  ⟨origin, resolver, store, true, []⟩

def resolve (w : World) (id : FileIdentity) : Except SourceError String × World :=
  match w.resolver with
  | .base url => (.ok (contentUrl url id.hash), w)
  | .peers list =>
    let (answer, list') := list.resolve id
    (answer, { w with resolver := .peers list' })
  | .store => (w.store.resolve id, w)
  | .refusing e => (.error e, w)

def scriptExhausted : SourceError := .transport "script exhausted" false

def answer (w : World) (r : Request) : Except SourceError OpenedStream × World :=
  match w.origin with
  | .store =>
    let (opened, store) := w.store.openStream r
    (opened, { w with store := store })
  | .script [] => (.error scriptExhausted, w)
  | .script (next :: rest) =>
    (next.map fun s => ⟨r.url, s.start.getD r.start, s.items, s.ending⟩,
      { w with origin := .script rest })
  | .server server skipPrefix => (server.openStream skipPrefix r, w)

def issue (w : World) (r : Request) : Except SourceError OpenedStream × World :=
  { w with requests := w.requests ++ [r] }.answer r

/-- The streams of this world; requests are held back while the gate is shut. -/
def supplier : Supplier World where
  resolve := resolve
  issue := fun w r => if w.gateOpen then some (w.issue r) else none

def setFault (w : World) (switch : Faults.Switch) : World := { w with store := w.store.set switch }

def setMode (w : World) (mode : Http.ServerMode) : World :=
  match w.origin with
  | .server server skipPrefix =>
    { w with origin := .server { server with mode := mode } skipPrefix }
  | _ => w

end World

end RangeFetch
