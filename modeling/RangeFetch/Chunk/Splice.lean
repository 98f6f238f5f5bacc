import RangeFetch.Chunk.Queue

namespace RangeFetch

/-- The unread bytes of a delivery, and the offset of the first one. -/
structure Delivery where
  start : Nat
  unread : Bytes
  deriving DecidableEq

namespace Delivery

def limit (d : Delivery) : Nat := d.start + d.unread.length

def isEmpty (d : Delivery) : Bool := d.unread.isEmpty

def advance (d : Delivery) (count : Nat) : Delivery := ⟨d.start + count, d.unread.drop count⟩

@[simp] theorem start_advance (d : Delivery) (count : Nat) :
    (d.advance count).start = d.start + count := rfl

theorem limit_advance (d : Delivery) {count : Nat} (h : count ≤ d.unread.length) :
    (d.advance count).limit = d.limit := by
  simp only [limit, advance, List.length_drop]
  omega

end Delivery

/-- What one chunk makes of a delivery. -/
inductive Absorbed where
  | misaligned
  /-- The delivery is used up and the chunk wants more. -/
  | unfilled (chunk : Chunk)
  /-- The chunk has all its bytes; the rest of the delivery is for others. -/
  | filled (chunk : Chunk) (rest : Delivery)
  deriving DecidableEq

def Chunk.absorb (c : Chunk) (d : Delivery) : Absorbed :=
  if c.cursor ≠ d.start then .misaligned
  else
    let written := c.write d.unread
    if written.isFull then .filled written (d.advance (c.accepts d.unread)) else .unfilled written

theorem Chunk.absorb_cases (c : Chunk) (d : Delivery) :
    (c.cursor ≠ d.start ∧ c.absorb d = .misaligned) ∨
      (c.cursor = d.start ∧ d.unread.length < c.remaining ∧
        c.absorb d = .unfilled (c.write d.unread)) ∨
      (c.cursor = d.start ∧ c.remaining ≤ d.unread.length ∧
        c.absorb d = .filled (c.write d.unread) (d.advance c.remaining)) := by
  have hle := c.cursor_le_limit
  have full : (c.write d.unread).isFull = true ↔ c.remaining ≤ d.unread.length := by
    simp only [isFull, cursor_write, limit_write, accepts, remaining, beq_iff_eq]
    omega
  by_cases aligned : c.cursor = d.start
  · by_cases enough : c.remaining ≤ d.unread.length
    · right; right
      refine ⟨aligned, enough, ?_⟩
      have taken : c.accepts d.unread = c.remaining := Nat.min_eq_right enough
      rw [absorb, if_neg (not_not_intro aligned), if_pos (full.mpr enough), taken]
    · right; left
      refine ⟨aligned, Nat.lt_of_not_le enough, ?_⟩
      rw [absorb, if_neg (not_not_intro aligned), if_neg (mt full.mp enough)]
  · left
    exact ⟨aligned, if_pos aligned⟩

inductive SpliceOutcome where
  | wantMore
  /-- The delivery is used up and no chunk is current. -/
  | drained
  /-- The current chunk wants other bytes than the stream delivers. -/
  | seek
  /-- No next chunk came in time. -/
  | stalled
  | stopped
  deriving DecidableEq

structure Spliced where
  outcome : SpliceOutcome
  current : Option Chunk
  rest : Delivery
  /-- The answers that were not asked for. -/
  supply : List Dequeued
  pulls : Nat
  fired : List Firing
  bytesDelivered : Nat
  chunksCompleted : Nat
  deriving DecidableEq

namespace Spliced

/-- Adds a pull that came before. -/
def afterPull (s : Spliced) : Spliced := { s with pulls := s.pulls + 1 }

def afterFilling (s : Spliced) (c : Chunk) (taken : Nat) : Spliced :=
  { s with
    fired := c.complete :: s.fired
    bytesDelivered := taken + s.bytesDelivered
    chunksCompleted := s.chunksCompleted + 1 }

end Spliced

/-- Splices a delivery into the chunk `c` and, as chunks fill up, into those that `supply` gives.
A supply that has run out answers that no chunk came. -/
def Chunk.splice (c : Chunk) (d : Delivery) (supply : List Dequeued) : Spliced :=
  match c.absorb d with
  | .misaligned => ⟨.seek, some c, d, supply, 0, [], 0, 0⟩
  | .unfilled c' =>
    ⟨.wantMore, some c', d.advance d.unread.length, supply, 0, [], d.unread.length, 0⟩
  | .filled c' rest =>
    let taken := d.unread.length - rest.unread.length
    if rest.isEmpty then ⟨.drained, none, rest, supply, 0, [c'.complete], taken, 1⟩
    else match supply with
      | [] => ⟨.stalled, none, rest, [], 1, [c'.complete], taken, 1⟩
      | .timedOut :: more => ⟨.stalled, none, rest, more, 1, [c'.complete], taken, 1⟩
      | .stopped :: more => ⟨.stopped, none, rest, more, 1, [c'.complete], taken, 1⟩
      | .chunk next :: more => (next.splice rest more).afterPull.afterFilling c' taken
termination_by structural supply

def splice (current : Option Chunk) (d : Delivery) (supply : List Dequeued) : Spliced :=
  match current, supply with
  | some c, _ => c.splice d supply
  | none, [] => ⟨.stalled, none, d, [], 1, [], 0, 0⟩
  | none, .timedOut :: more => ⟨.stalled, none, d, more, 1, [], 0, 0⟩
  | none, .stopped :: more => ⟨.stopped, none, d, more, 1, [], 0, 0⟩
  | none, .chunk c :: more => (c.splice d more).afterPull

end RangeFetch
