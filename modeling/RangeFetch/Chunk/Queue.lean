import RangeFetch.Chunk.Basic
import RangeFetch.Text.Record

/-!
The chunks that wait to be served, lowest cursor first, those with equal cursors in order of
arrival. A wait that finds none closes the queue in the same step, so no chunk gets in behind it.
-/

namespace RangeFetch

structure ChunkQueue where
  fileSize : Nat
  pending : List Chunk
  /-- Nobody will take a chunk out again. -/
  closed : Bool
  /-- Waits end at once. -/
  stopped : Bool
  deriving DecidableEq

inductive Dequeued where
  | chunk (c : Chunk)
  | timedOut
  | stopped
  deriving DecidableEq

def Dequeued.chunk? : Dequeued → Option Chunk
  | chunk c => some c
  | _ => none

namespace ChunkQueue

def empty (fileSize : Nat) : ChunkQueue := ⟨fileSize, [], false, false⟩

/-- Puts a chunk behind all whose cursor is not past its own. -/
def insert (c : Chunk) : List Chunk → List Chunk
  | [] => [c]
  | d :: rest => if d.cursor ≤ c.cursor then d :: insert c rest else c :: d :: rest

theorem insert_perm (c : Chunk) (l : List Chunk) : (insert c l).Perm (c :: l) := by
  induction l with
  | nil => exact .refl _
  | cons d rest ih =>
    unfold insert
    split
    · exact (ih.cons d).trans (.swap c d rest)
    · exact .refl _

def isClosed (q : ChunkQueue) : Bool := q.closed || q.stopped

/-- Queues the chunk, clamped to the file; or hands the clamped chunk back. -/
def enqueue (q : ChunkQueue) (c : Chunk) : Except Chunk ChunkQueue :=
  let clamped := c.clampTo q.fileSize
  if q.isClosed then .error clamped
  else .ok { q with pending := insert clamped q.pending }

section Enqueue

variable {q : ChunkQueue} (c : Chunk)

theorem enqueue_of_open (isOpen : q.isClosed = false) :
    q.enqueue c = .ok { q with pending := insert (c.clampTo q.fileSize) q.pending } := by
  simp [enqueue, isOpen]

theorem enqueue_of_closed (closed : q.isClosed = true) :
    q.enqueue c = .error (c.clampTo q.fileSize) := by
  simp [enqueue, closed]

end Enqueue

/-- A wait that nobody interrupts with another chunk: the first chunk if there is one. -/
def dequeue (q : ChunkQueue) : Dequeued × ChunkQueue :=
  if q.stopped then (.stopped, q)
  else match q.pending with
    | c :: rest => (.chunk c, { q with pending := rest })
    | [] => (.timedOut, q)

theorem dequeue_of_stopped {q : ChunkQueue} (h : q.stopped = true) :
    q.dequeue = (.stopped, q) := by
  rw [dequeue, if_pos h]

theorem dequeue_cons {q : ChunkQueue} {c : Chunk} {rest : List Chunk} (h : q.stopped = false)
    (hq : q.pending = c :: rest) : q.dequeue = (.chunk c, { q with pending := rest }) := by
  simp [dequeue, h, hq]

theorem dequeue_nil {q : ChunkQueue} (h : q.stopped = false) (hq : q.pending = []) :
    q.dequeue = (.timedOut, q) := by
  simp [dequeue, h, hq]

/-- The same, closing the queue if there is none. -/
def dequeueOrClose (q : ChunkQueue) : Dequeued × ChunkQueue :=
  if q.stopped then (.stopped, q)
  else match q.pending with
    | c :: rest => (.chunk c, { q with pending := rest })
    | [] => (.timedOut, { q with closed := true })

theorem dequeueOrClose_of_stopped {q : ChunkQueue} (h : q.stopped = true) :
    q.dequeueOrClose = (.stopped, q) := by
  rw [dequeueOrClose, if_pos h]

theorem dequeueOrClose_cons {q : ChunkQueue} {c : Chunk} {rest : List Chunk}
    (h : q.stopped = false) (hq : q.pending = c :: rest) :
    q.dequeueOrClose = (.chunk c, { q with pending := rest }) := by
  simp [dequeueOrClose, h, hq]

theorem dequeueOrClose_nil {q : ChunkQueue} (h : q.stopped = false) (hq : q.pending = []) :
    q.dequeueOrClose = (.timedOut, { q with closed := true }) := by
  simp [dequeueOrClose, h, hq]

theorem dequeueOrClose_cases (q : ChunkQueue) :
    (q.stopped = true ∧ q.dequeueOrClose = (.stopped, q)) ∨
      q.stopped = false ∧ q.pending = [] ∧
        q.dequeueOrClose = (.timedOut, { q with closed := true }) ∨
      ∃ c rest, q.stopped = false ∧ q.pending = c :: rest ∧
        q.dequeueOrClose = (.chunk c, { q with pending := rest }) := by
  by_cases stop : q.stopped = true
  · exact .inl ⟨stop, dequeueOrClose_of_stopped stop⟩
  · have running : q.stopped = false := by simpa using stop
    by_cases none : q.pending = []
    · exact .inr (.inl ⟨running, none, dequeueOrClose_nil running none⟩)
    · obtain ⟨c, rest, first⟩ := List.exists_cons_of_ne_nil none
      exact .inr (.inr ⟨c, rest, running, first, dequeueOrClose_cons running first⟩)

/-- Takes every chunk out and accepts no others. -/
def close (q : ChunkQueue) : List Chunk × ChunkQueue :=
  (q.pending, { q with pending := [], closed := true })

def stop (q : ChunkQueue) : ChunkQueue := { q with stopped := true }

def describe (q : ChunkQueue) : String :=
  Text.record "ChunkQueue"
    [("pending", toString q.pending.length), ("closed", toString q.closed),
     ("stopped", toString q.stopped), ("file_size", toString q.fileSize)] false

end ChunkQueue

def Chunk.refusal (c : Chunk) : String := s!"Closed({Text.span c.cursor c.limit})"

end RangeFetch
