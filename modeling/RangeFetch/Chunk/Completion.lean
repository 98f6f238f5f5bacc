import RangeFetch.Bytes
import RangeFetch.Source.Error

namespace RangeFetch

inductive ChunkError where
  | source (error : SourceError)
  | cancelled
  /-- The chunk went away without a result. -/
  | abandoned
  | invalidRange (start limit : Nat)
  deriving DecidableEq

namespace ChunkError

def message : ChunkError → String
  | source e => e.message
  | cancelled => "Download cancelled"
  | abandoned => "Chunk completion dropped without a result"
  | invalidRange start limit => s!"Invalid range: start {start} is past end {limit}"

end ChunkError

structure ChunkData where
  offset : Nat
  data : Bytes
  deriving DecidableEq

inductive Completion where
  | served (data : ChunkData)
  | failed (error : ChunkError)
  deriving DecidableEq

structure Firing where
  signal : Nat
  result : Completion
  deriving DecidableEq

def Firing.result? (signal : Nat) (fired : List Firing) : Option Completion :=
  (fired.find? (·.signal == signal)).map (·.result)

def Firing.times (signal : Nat) (fired : List Firing) : Nat := fired.countP (·.signal == signal)

namespace Firing

@[simp] theorem times_nil (n : Nat) : times n [] = 0 := rfl

@[simp] theorem times_cons (n : Nat) (x : Firing) (l : List Firing) :
    times n (x :: l) = times n l + (x.signal == n).toNat := by
  rw [times, List.countP_cons]
  cases x.signal == n <;> rfl

@[simp] theorem times_append (n : Nat) (l₁ l₂ : List Firing) :
    times n (l₁ ++ l₂) = times n l₁ + times n l₂ := List.countP_append

end Firing

end RangeFetch
