import RangeFetch.Source.Memory

namespace RangeFetch

namespace Faults.Switch

def ignoreRanges? : Switch → Option Bool
  | ignoreRanges on => some on
  | _ => .none

def stallAfter? : Switch → Option (Option Nat)
  | stallAfter limit => some limit
  | _ => .none

def failAfter? : Switch → Option (Option Nat)
  | failAfter limit => some limit
  | _ => .none

def failOpen? : Switch → Option (Option SourceError)
  | failOpen error => some error
  | _ => .none

end Faults.Switch

namespace MemoryStore

def openContent (m : MemoryStore) (id : FileIdentity) (start : Nat) :
    Except SourceError OpenedStream × MemoryStore :=
  match m.resolve id with
  | .ok url => m.openStream (.starting url start)
  | .error e => (.error e, m)

theorem supplier_openContent (m : MemoryStore) (id : FileIdentity) (start : Nat) :
    supplier.openContent m id start = some (m.openContent id start) := by
  simp only [Supplier.openContent, Supplier.locate, supplier, openContent]
  cases m.resolve id <;> rfl

inductive Operation where
  | insert (data : Bytes)
  | set (switch : Faults.Switch)
  | resolve (id : FileIdentity)
  | openStream (r : Request)
  | openContent (id : FileIdentity) (start : Nat)

inductive Answer where
  | done
  | inserted (id : FileIdentity)
  | resolved (url : Except SourceError String)
  | opened (stream : Except SourceError OpenedStream)

def Answer.error? : Answer → Option SourceError
  | resolved (.error e) => some e
  | opened (.error e) => some e
  | _ => none

def perform (m : MemoryStore) : Operation → Answer × MemoryStore
  | .insert data => (.inserted (m.insert data).1, (m.insert data).2)
  | .set switch => (.done, m.set switch)
  | .resolve id => (.resolved (m.resolve id), m)
  | .openStream r => (.opened (m.openStream r).1, (m.openStream r).2)
  | .openContent id start => (.opened (m.openContent id start).1, (m.openContent id start).2)

def run (m : MemoryStore) : List Operation → MemoryStore
  | [] => m
  | x :: rest => (m.perform x).2.run rest

def insertedBy (xs : List Operation) : List Bytes :=
  xs.filterMap fun
    | .insert data => some data
    | _ => none

def switchedBy (xs : List Operation) : List Faults.Switch :=
  xs.filterMap fun
    | .set switch => some switch
    | _ => none

/-- The last position of a switch, `first` where it is never set. -/
def lastSet {α : Type} (position? : Faults.Switch → Option α) (first : α)
    (xs : List Operation) : α :=
  ((switchedBy xs).filterMap position?).getLastD first

/-- The requests that an operation makes after these contents have been inserted, whatever comes of
them. -/
def requestsOf (contents : List Bytes) : Operation → List Request
  | .openStream r => [r]
  | .openContent id start =>
    if ∃ data ∈ contents, (FileIdentity.ofContent data).hash = id.hash then
      [⟨Limits.memoryScheme ++ id.hash, if start = 0 then none else some start⟩]
    else []
  | _ => []

def requestedBy (contents : List Bytes) : List Operation → List Request
  | [] => []
  | x :: rest => requestsOf contents x ++ requestedBy (contents ++ insertedBy [x]) rest

end MemoryStore

end RangeFetch
