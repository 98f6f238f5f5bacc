import RangeFetch.Chunk.Completion
import RangeFetch.Source.Memory

namespace RangeFetch

inductive Plan where
  | done
  | set (switch : Faults.Switch) (next : Plan)
  | enqueue (label : String) (start limit : Nat) (inner next : Plan)

namespace Plan

def reads : Plan → Nat
  | done => 0
  | set _ next => next.reads
  | enqueue _ _ _ inner next => 1 + inner.reads + next.reads

end Plan

structure Ticket where
  /-- The name under which the result is reported, if it is. -/
  label : Option String
  handle : Nat
  plan : Plan
  result : Option Completion

namespace Ticket

def isOpen (t : Ticket) : Bool := t.result.isNone

/-- The number of signals that are still to fire because of this one, itself included. -/
def weight (t : Ticket) : Nat := if t.isOpen then 1 + t.plan.reads else 0

end Ticket

/-- Signals and what has come of them. -/
structure SignalBook where
  tickets : List Ticket
  unreported : List (String × Completion)

namespace SignalBook

def empty : SignalBook := ⟨[], []⟩

def issue (b : SignalBook) (label : Option String) (handle : Nat) (plan : Plan) :
    Nat × SignalBook :=
  (b.tickets.length, { b with tickets := b.tickets ++ [⟨label, handle, plan, none⟩] })

def record (b : SignalBook) (f : Firing) : SignalBook :=
  match b.tickets[f.signal]? with
  | none => b
  | some t =>
    { tickets := b.tickets.set f.signal { t with result := some f.result }
      unreported := b.unreported ++ (t.label.map fun label => (label, f.result)).toList }

def result? (b : SignalBook) (signal : Nat) : Option Completion :=
  (b.tickets[signal]?).bind (·.result)

def isSettled (b : SignalBook) : Bool := b.tickets.all fun t => !t.isOpen

def weight (b : SignalBook) : Nat := b.tickets.foldl (fun n t => n + t.weight) 0

def report (b : SignalBook) : List (String × Completion) × SignalBook :=
  (b.unreported, { b with unreported := [] })

def sortedReport (b : SignalBook) : List (String × Completion) :=
  b.unreported.mergeSort fun x y => x.1 ≤ y.1

end SignalBook

end RangeFetch
