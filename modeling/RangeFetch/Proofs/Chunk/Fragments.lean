import RangeFetch.Chunk.Splice

namespace RangeFetch

/-- The next delivery of the stream is wanted. -/
def SpliceOutcome.goesOn : SpliceOutcome → Bool
  | wantMore => true
  | drained => true
  | _ => false

namespace Spliced

/-- What two splices leave and did, one after the other. -/
def followedBy (first second : Spliced) : Spliced :=
  { second with
    pulls := first.pulls + second.pulls
    fired := first.fired ++ second.fired
    bytesDelivered := first.bytesDelivered + second.bytesDelivered
    chunksCompleted := first.chunksCompleted + second.chunksCompleted }

def leave (s : Spliced) (bytes : Bytes) : Spliced :=
  { s with rest := ⟨s.rest.start, s.rest.unread ++ bytes⟩ }

def next (s : Spliced) (bytes : Bytes) : Spliced :=
  if s.outcome.goesOn then s.followedBy (splice s.current ⟨s.rest.limit, bytes⟩ s.supply)
  else s.leave bytes

theorem next_of_goesOn {s : Spliced} (bytes : Bytes) (h : s.outcome.goesOn = true) :
    s.next bytes = s.followedBy (splice s.current ⟨s.rest.limit, bytes⟩ s.supply) := if_pos h

theorem next_of_given_up {s : Spliced} (bytes : Bytes) (h : s.outcome.goesOn = false) :
    s.next bytes = s.leave bytes := if_neg (by simp [h])

theorem next_afterPull (s : Spliced) (bytes : Bytes) :
    s.afterPull.next bytes = (s.next bytes).afterPull := by
  cases more : s.outcome.goesOn with
  | true =>
    rw [next_of_goesOn bytes more, next_of_goesOn (s := s.afterPull) bytes more]
    simp only [afterPull, followedBy, Nat.add_right_comm]
  | false =>
    rw [next_of_given_up bytes more, next_of_given_up (s := s.afterPull) bytes more]
    rfl

theorem next_afterFilling (s : Spliced) (c : Chunk) (taken : Nat) (bytes : Bytes) :
    (s.afterFilling c taken).next bytes = (s.next bytes).afterFilling c taken := by
  cases more : s.outcome.goesOn with
  | true =>
    rw [next_of_goesOn bytes more, next_of_goesOn (s := s.afterFilling c taken) bytes more]
    simp only [afterFilling, followedBy, List.cons_append, Nat.add_assoc, Nat.add_comm 1]
  | false =>
    rw [next_of_given_up bytes more, next_of_given_up (s := s.afterFilling c taken) bytes more]
    rfl

end Spliced

namespace Chunk

variable {c : Chunk} {d : Delivery} {supply : List Dequeued} {start : Nat} {a b : Bytes}

theorem splice_of_misaligned (elsewhere : c.cursor ≠ d.start) :
    c.splice d supply = ⟨.seek, some c, d, supply, 0, [], 0, 0⟩ := by
  rcases c.absorb_cases d with ⟨-, absorbs⟩ | ⟨aligned, -⟩ | ⟨aligned, -⟩
  · cases supply <;> rw [splice, absorbs]
  · exact absurd aligned elsewhere
  · exact absurd aligned elsewhere

theorem splice_of_short (aligned : c.cursor = d.start) (short : d.unread.length < c.remaining) :
    c.splice d supply =
      ⟨.wantMore, some (c.write d.unread), ⟨d.limit, []⟩, supply, 0, [], d.unread.length, 0⟩ := by
  have used : d.advance d.unread.length = ⟨d.limit, []⟩ := by
    rw [Delivery.advance, List.drop_length]
    rfl
  rcases c.absorb_cases d with ⟨elsewhere, -⟩ | ⟨-, -, absorbs⟩ | ⟨-, enough, -⟩
  · exact absurd aligned elsewhere
  · cases supply <;> rw [splice, absorbs, ← used]
  · omega

theorem splice_of_enough (aligned : c.cursor = d.start) (enough : c.remaining ≤ d.unread.length) :
    c.splice d supply =
      if d.unread.length = c.remaining then
        ⟨.drained, none, ⟨d.limit, []⟩, supply, 0, [(c.write d.unread).complete], c.remaining, 1⟩
      else (RangeFetch.splice none (d.advance c.remaining) supply).afterFilling
        (c.write d.unread) c.remaining := by
  have taken : d.unread.length - (d.advance c.remaining).unread.length = c.remaining := by
    simp only [Delivery.advance, List.length_drop]
    omega
  rcases c.absorb_cases d with ⟨elsewhere, -⟩ | ⟨-, short, -⟩ | ⟨-, -, absorbs⟩
  · exact absurd aligned elsewhere
  · omega
  · split
    · rename_i even
      have used : d.advance c.remaining = ⟨d.limit, []⟩ := by
        rw [← even, Delivery.advance, List.drop_length]
        rfl
      cases supply <;> simp [splice, absorbs, used, Delivery.isEmpty, even]
    · rename_i uneven
      have left : (d.advance c.remaining).isEmpty = false := by
        simp only [Delivery.isEmpty, Delivery.advance, List.isEmpty_eq_false_iff, ne_eq,
          List.drop_eq_nil_iff]
        omega
      unfold splice
      rw [absorbs]
      simp only [left, taken, Bool.false_eq_true, if_false]
      rcases supply with - | ⟨- | - | -, more⟩ <;> rfl

theorem splice_append_of_short (b : Bytes) (aligned : c.cursor = start)
    (short : a.length < c.remaining) :
    c.splice ⟨start, a ++ b⟩ supply = (c.splice ⟨start, a⟩ supply).next b := by
  have cursor : (c.write a).cursor = start + a.length := by
    rw [cursor_write, aligned, accepts, Nat.min_eq_left (Nat.le_of_lt short)]
  have remaining : a.length + (c.write a).remaining = c.remaining := by
    rw [remaining_write]
    omega
  rw [splice_of_short (d := ⟨start, a⟩) aligned short, Spliced.next_of_goesOn b rfl]
  change _ = Spliced.followedBy _ ((c.write a).splice ⟨start + a.length, b⟩ supply)
  by_cases still : a.length + b.length < c.remaining
  · rw [splice_of_short (d := ⟨start, a ++ b⟩) aligned (by simpa using still),
      splice_of_short (d := ⟨start + a.length, b⟩) cursor (by simp only; omega)]
    simp only [Spliced.followedBy, write_write, Delivery.limit, List.length_append,
      List.nil_append, Nat.add_assoc, Nat.add_zero]
  · have rest : (⟨start, a ++ b⟩ : Delivery).advance c.remaining =
        (⟨start + a.length, b⟩ : Delivery).advance (c.write a).remaining := by
      rw [Delivery.advance, Delivery.advance, ← remaining, List.drop_length_add_append,
        Nat.add_assoc]
    rw [splice_of_enough (d := ⟨start, a ++ b⟩) aligned (by simpa using still),
      splice_of_enough (d := ⟨start + a.length, b⟩) cursor (by simp only; omega), write_write]
    by_cases even : a.length + b.length = c.remaining
    · rw [if_pos (by simpa using even), if_pos (by simp only; omega)]
      simp only [Spliced.followedBy, Delivery.limit, List.length_append, List.nil_append,
        Nat.add_assoc, Nat.zero_add, remaining]
    · rw [if_neg (by simpa using even), if_neg (by simp only; omega), rest]
      simp only [Spliced.followedBy, Spliced.afterFilling, List.nil_append, ← Nat.add_assoc,
        Nat.zero_add, remaining]

/-- What comes after a filled chunk does not depend on the cut, if what is waited for does not. -/
theorem splice_append_of_enough (aligned : c.cursor = start) (enough : c.remaining ≤ a.length)
    (some : b ≠ []) (waits : ∀ start a, RangeFetch.splice none ⟨start, a ++ b⟩ supply =
      (RangeFetch.splice none ⟨start, a⟩ supply).next b) :
    c.splice ⟨start, a ++ b⟩ supply = (c.splice ⟨start, a⟩ supply).next b := by
  have more : 0 < b.length := List.length_pos_iff.mpr some
  have dropped : (⟨start, a ++ b⟩ : Delivery).advance c.remaining =
      ⟨start + c.remaining, a.drop c.remaining ++ b⟩ := by
    rw [Delivery.advance, List.drop_append_of_le_length enough]
  rw [splice_of_enough (d := ⟨start, a ++ b⟩) aligned (by simp; omega),
    if_neg (by simp; omega), dropped, c.write_append_of_le b enough,
    splice_of_enough (d := ⟨start, a⟩) aligned enough]
  by_cases even : a.length = c.remaining
  · -- the next chunk is waited for at once, or only when the next delivery is there
    rw [if_pos even, Spliced.next_of_goesOn b rfl, ← even, List.drop_length]
    change _ = Spliced.followedBy _ (RangeFetch.splice none ⟨start + a.length, b⟩ supply)
    simp only [Spliced.afterFilling, Spliced.followedBy, List.nil_append, List.cons_append,
      Nat.zero_add, Nat.add_comm 1]
  · rw [if_neg even, waits, Spliced.next_afterFilling]
    rfl

theorem splice_append (c : Chunk) (start : Nat) (a : Bytes) (some : b ≠ [])
    (waits : ∀ start a, RangeFetch.splice none ⟨start, a ++ b⟩ supply =
      (RangeFetch.splice none ⟨start, a⟩ supply).next b) :
    c.splice ⟨start, a ++ b⟩ supply = (c.splice ⟨start, a⟩ supply).next b := by
  by_cases aligned : c.cursor = start
  · by_cases short : a.length < c.remaining
    · exact splice_append_of_short b aligned short
    · exact splice_append_of_enough aligned (Nat.le_of_not_lt short) some waits
  · rw [splice_of_misaligned (d := ⟨start, a ++ b⟩) aligned,
      splice_of_misaligned (d := ⟨start, a⟩) aligned]
    rfl

theorem rest_splice (c : Chunk) (d : Delivery) (waits : ∀ d : Delivery,
      (RangeFetch.splice none d supply).outcome.goesOn = true →
        (RangeFetch.splice none d supply).rest = ⟨d.limit, []⟩)
    (more : (c.splice d supply).outcome.goesOn = true) :
    (c.splice d supply).rest = ⟨d.limit, []⟩ := by
  by_cases aligned : c.cursor = d.start
  · by_cases short : d.unread.length < c.remaining
    · rw [splice_of_short aligned short]
    · have enough := Nat.le_of_not_lt short
      rw [splice_of_enough aligned enough] at more ⊢
      by_cases even : d.unread.length = c.remaining
      · rw [if_pos even]
      · rw [if_neg even] at more ⊢
        rw [← d.limit_advance enough]
        exact waits _ more
  · rw [splice_of_misaligned aligned] at more
    cases more

end Chunk

variable {b : Bytes}

theorem splice_none_append (supply : List Dequeued) (start : Nat) (a : Bytes) (some : b ≠ []) :
    splice none ⟨start, a ++ b⟩ supply = (splice none ⟨start, a⟩ supply).next b := by
  induction supply generalizing start a with
  | nil => rfl
  | cons answer more ih =>
    cases answer with
    | timedOut => rfl
    | stopped => rfl
    | chunk c =>
      change (c.splice ⟨start, a ++ b⟩ more).afterPull = (c.splice ⟨start, a⟩ more).afterPull.next b
      rw [c.splice_append start a some ih, Spliced.next_afterPull]

theorem splice_append (current : Option Chunk) (start : Nat) (a : Bytes) (some : b ≠ [])
    (supply : List Dequeued) :
    splice current ⟨start, a ++ b⟩ supply = (splice current ⟨start, a⟩ supply).next b := by
  cases current with
  | none => exact splice_none_append supply start a some
  | some c => exact c.splice_append start a some fun start a => splice_none_append supply start a some

theorem rest_splice_none (supply : List Dequeued) (d : Delivery)
    (more : (splice none d supply).outcome.goesOn = true) :
    (splice none d supply).rest = ⟨d.limit, []⟩ := by
  induction supply generalizing d with
  | nil => cases more
  | cons answer rest ih =>
    cases answer with
    | timedOut => cases more
    | stopped => cases more
    | chunk c => exact c.rest_splice d ih more

theorem rest_splice (current : Option Chunk) (d : Delivery) (supply : List Dequeued)
    (more : (splice current d supply).outcome.goesOn = true) :
    (splice current d supply).rest = ⟨d.limit, []⟩ := by
  cases current with
  | none => exact rest_splice_none supply d more
  | some c => exact c.rest_splice d (rest_splice_none supply) more

/-- Splicing does not depend on the cut: splicing one delivery and then the next comes to what
splicing both at once does, in outcome, signals, chunk, pulls and counts. Once the stream is given
up, further bytes are left unread. -/
theorem splice_flatten (current : Option Chunk) (start : Nat) (supply : List Dequeued) :
    (∀ a b : Bytes, b ≠ [] →
      let first := splice current ⟨start, a⟩ supply
      let whole := splice current ⟨start, a ++ b⟩ supply
      (first.outcome.goesOn = true →
        whole = first.followedBy (splice first.current ⟨start + a.length, b⟩ first.supply)) ∧
        (first.outcome.goesOn = false → whole = first.leave b)) ∧
      ∀ (a : Bytes) (pieces : List Bytes), (∀ piece ∈ pieces, piece ≠ []) →
        splice current ⟨start, a ++ pieces.flatten⟩ supply =
          pieces.foldl Spliced.next (splice current ⟨start, a⟩ supply) := by
  refine ⟨?_, ?_⟩
  · intro a b some first whole
    have both : whole = first.next b := splice_append current start a some supply
    refine ⟨fun more => ?_, fun given_up => both.trans (first.next_of_given_up b given_up)⟩
    have reached : first.rest.limit = start + a.length :=
      congrArg Delivery.limit (rest_splice current ⟨start, a⟩ supply more)
    rw [both, Spliced.next_of_goesOn b more, reached]
  · intro a pieces some
    -- the first piece joins the bytes before it
    induction pieces generalizing a with
    | nil => rw [List.flatten_nil, List.append_nil, List.foldl_nil]
    | cons piece rest ih =>
      obtain ⟨first, others⟩ := List.forall_mem_cons.mp some
      rw [List.flatten_cons, ← List.append_assoc, ih (a ++ piece) others, List.foldl_cons,
        splice_append current start a first supply]

theorem splice_flatten_of_three :
    let c : Chunk := ⟨0, 4, 7, [3], by decide⟩
    let supply : List Dequeued := [.chunk ⟨1, 7, 7, [], by decide⟩, .chunk ⟨2, 7, 9, [], by decide⟩]
    let first := splice (some c) ⟨5, [1, 2]⟩ supply
    first.outcome = .drained ∧
      splice (some c) ⟨5, [1, 2] ++ [3]⟩ supply =
        first.followedBy (splice none ⟨7, [3]⟩ supply) ∧
      (splice none ⟨7, [3]⟩ supply).outcome = .wantMore ∧
      (splice (some c) ⟨6, [1]⟩ supply).outcome = .seek ∧
      splice (some c) ⟨6, [1] ++ [2]⟩ supply = (splice (some c) ⟨6, [1]⟩ supply).leave [2] ∧
      splice (some c) ⟨5, [1] ++ [[2, 3], [4, 5]].flatten⟩ supply =
        [[2, 3], [4, 5]].foldl Spliced.next (splice (some c) ⟨5, [1]⟩ supply) := by
  intro c supply first
  obtain ⟨two, cut⟩ := splice_flatten (some c) 5 supply
  obtain ⟨apart, -⟩ := splice_flatten (some c) 6 supply
  refine ⟨by decide, (two [1, 2] [3] (by decide)).1 (by decide), by decide, by decide,
    (apart [1] [2] (by decide)).2 (by decide), cut [1] [[2, 3], [4, 5]] (by decide)⟩

end RangeFetch
