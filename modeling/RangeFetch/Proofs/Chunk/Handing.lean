import RangeFetch.Proofs.Chunk.Fragments

namespace RangeFetch

/-- A chunk, and bytes that it was handed and still wanted. -/
structure Handing where
  chunk : Chunk
  bytes : Bytes
  wanted : bytes.length ≤ chunk.remaining

namespace Handing

def written (h : Handing) : Chunk :=
  { h.chunk with
    buffer := h.chunk.buffer ++ h.bytes
    offset_add_length_le_limit := by
      have fits := h.chunk.offset_add_length_le_limit
      have wanted := h.wanted
      simp only [List.length_append, Chunk.remaining, Chunk.cursor] at wanted ⊢
      omega }

theorem cursor_written (h : Handing) : h.written.cursor = h.chunk.cursor + h.bytes.length := by
  simp only [written, Chunk.cursor, List.length_append, Nat.add_assoc]

def nothing (c : Chunk) : Handing := ⟨c, [], Nat.zero_le _⟩

theorem written_nothing (c : Chunk) : (nothing c).written = c := by
  simp only [written, nothing, List.append_nil]

def ofOffer (c : Chunk) (offered : Bytes) : Handing :=
  ⟨c, offered.take c.remaining, List.length_take_le _ _⟩

theorem written_ofOffer (c : Chunk) (offered : Bytes) :
    (ofOffer c offered).written = c.write offered := by
  ext1
  case buffer =>
    rw [Chunk.buffer_write, Chunk.accepts, Nat.min_comm, ← List.take_eq_take_min]
    rfl
  all_goals rfl

/-- Each chunk stands where the bytes of those before it ended, and was handed all it wanted. -/
inductive InLine : Nat → List Handing → Prop
  | nil (start : Nat) : InLine start []
  | cons {start : Nat} {h : Handing} {rest : List Handing} (aligned : h.chunk.cursor = start)
      (full : h.written.isFull = true) (others : InLine (start + h.bytes.length) rest) :
      InLine start (h :: rest)

/-- All bytes that were handed out. -/
def joined (handings : List Handing) : Bytes := handings.flatMap Handing.bytes

theorem InLine.limit_le {start : Nat} {filled : List Handing} (line : InLine start filled) :
    ∀ h ∈ filled, h.chunk.limit ≤ start + (joined filled).length := by
  induction line with
  | nil => simp
  | @cons start h rest aligned full _ ih =>
    have reached : h.chunk.cursor + h.bytes.length = h.chunk.limit := by
      rw [← h.cursor_written]
      exact beq_iff_eq.mp full
    intro x hx
    rw [joined, List.flatMap_cons, List.length_append]
    rcases List.mem_cons.mp hx with rfl | among
    · omega
    · have within := ih x among
      rw [joined] at within
      omega

end Handing

/-- The first answers of the supply; after the last of them no chunk comes in time. -/
def answersOf (supply : List Dequeued) (pulls : Nat) : List Dequeued :=
  (supply ++ [Dequeued.timedOut]).take pulls

/-- The answer that ended the splicing, if one did. -/
def SpliceOutcome.lastAnswer : SpliceOutcome → List Dequeued
  | stalled => [.timedOut]
  | stopped => [.stopped]
  | _ => []

/-- What each outcome says of the rest of the delivery and of the chunk that is current last. -/
inductive SpliceOutcome.LeavesOff (rest : Delivery) : SpliceOutcome → Option Handing → Prop
  | wantMore (h : Handing) (used : rest.unread = []) (aligned : h.written.cursor = rest.start)
      (unfilled : h.written.isFull = false) : LeavesOff rest .wantMore (some h)
  | drained (used : rest.unread = []) : LeavesOff rest .drained none
  | seek (h : Handing) (untouched : h.bytes = []) (astray : h.chunk.cursor ≠ rest.start) :
      LeavesOff rest .seek (some h)
  | stalled : LeavesOff rest .stalled none
  | stopped : LeavesOff rest .stopped none

theorem SpliceOutcome.LeavesOff.tells {rest : Delivery} {outcome : SpliceOutcome}
    {last : Option Handing} (h : outcome.LeavesOff rest last) :
    (outcome = .wantMore ↔ rest.unread = [] ∧
      ∃ c, last.map Handing.written = some c ∧ c.cursor = rest.start ∧ c.isFull = false) ∧
    (outcome = .drained → rest.unread = [] ∧ last = none) ∧
    (outcome = .seek ↔ ∃ c, last.map Handing.written = some c ∧ c.cursor ≠ rest.start) ∧
    (outcome = .seek → ∃ h, last = some h ∧ h.written = h.chunk) ∧
    (outcome = .stalled ∨ outcome = .stopped → last = none) := by
  cases h with
  | wantMore h used aligned unfilled => simp [used, aligned, unfilled]
  | drained used => simp [used]
  | seek h untouched astray =>
    have same : h.written = h.chunk := by
      simp only [Handing.written, untouched, List.append_nil]
    simp [same, astray]
  | stalled => simp
  | stopped => simp

/-- Splicing that pulled the chunks `pulled`, filled those of `filled` and came to `last`. -/
structure Spliced.HandsOver (s : Spliced) (current : Option Chunk) (d : Delivery)
    (supply : List Dequeued) (pulled : List Chunk) (filled : List Handing)
    (last : Option Handing) : Prop where
  answers : answersOf supply s.pulls = pulled.map .chunk ++ s.outcome.lastAnswer
  pulls_eq : s.pulls = pulled.length + s.outcome.lastAnswer.length
  supply_eq : s.supply = supply.drop s.pulls
  chunks : current.toList ++ pulled = (filled ++ last.toList).map Handing.chunk
  inLine : Handing.InLine d.start filled
  fired_eq : s.fired = filled.map fun h =>
    ⟨h.chunk.signal, .served ⟨h.chunk.offset, h.chunk.buffer ++ h.bytes⟩⟩
  current_eq : s.current = last.map Handing.written
  bytes : Handing.joined (filled ++ last.toList) ++ s.rest.unread = d.unread
  rest_eq : s.rest = d.advance s.bytesDelivered
  bytesDelivered_eq : s.bytesDelivered = (Handing.joined (filled ++ last.toList)).length
  chunksCompleted_eq : s.chunksCompleted = filled.length
  leavesOff : s.outcome.LeavesOff s.rest last

namespace Spliced.HandsOver

variable {s : Spliced} {c : Chunk} {d : Delivery} {supply : List Dequeued} {pulled : List Chunk}
  {filled : List Handing} {last : Option Handing}

theorem of_unfilled (outcome : SpliceOutcome) (last : Option Handing) (d rest : Delivery)
    (supply : List Dequeued)
    (answers : answersOf supply outcome.lastAnswer.length = outcome.lastAnswer)
    (start : rest.start = d.start + (Handing.joined last.toList).length)
    (bytes : Handing.joined last.toList ++ rest.unread = d.unread)
    (leavesOff : outcome.LeavesOff rest last) :
    HandsOver ⟨outcome, last.map Handing.written, rest, supply.drop outcome.lastAnswer.length,
        outcome.lastAnswer.length, [], (Handing.joined last.toList).length, 0⟩
      (last.map Handing.chunk) d supply [] [] last where
  answers := answers
  pulls_eq := (Nat.zero_add _).symm
  supply_eq := rfl
  chunks := by cases last <;> rfl
  inLine := .nil _
  fired_eq := rfl
  current_eq := rfl
  bytes := bytes
  rest_eq := by
    have unread : rest.unread = d.unread.drop (Handing.joined last.toList).length := by
      rw [← bytes, List.drop_left]
    cases rest
    rw [Delivery.advance, ← start, ← unread]
  bytesDelivered_eq := rfl
  chunksCompleted_eq := rfl
  leavesOff := leavesOff

theorem afterPull (h : s.HandsOver (some c) d supply pulled filled last) :
    s.afterPull.HandsOver none d (.chunk c :: supply) (c :: pulled) filled last :=
  { h with
    answers := congrArg (Dequeued.chunk c :: ·) h.answers
    pulls_eq := by
      have pulls := h.pulls_eq
      simp only [Spliced.afterPull, List.length_cons]
      omega
    supply_eq := h.supply_eq
    chunks := h.chunks }

theorem afterFilling (aligned : c.cursor = d.start) (enough : c.remaining ≤ d.unread.length)
    (h : s.HandsOver none (d.advance c.remaining) supply pulled filled last) :
    (s.afterFilling (c.write d.unread) c.remaining).HandsOver (some c) d supply pulled
      (.ofOffer c d.unread :: filled) last := by
  have length : (Handing.ofOffer c d.unread).bytes.length = c.remaining :=
    List.length_take_of_le enough
  have full : (Handing.ofOffer c d.unread).written.isFull = true := by
    have within := c.cursor_le_limit
    rw [Chunk.isFull, Handing.cursor_written, length, beq_iff_eq]
    change c.cursor + (c.limit - c.cursor) = c.limit
    omega
  exact { h with
    chunks := congrArg (c :: ·) h.chunks
    inLine := .cons aligned full (by rw [length]; exact h.inLine)
    fired_eq := by
      rw [Spliced.afterFilling, h.fired_eq, ← Handing.written_ofOffer]
      rfl
    bytes := by
      have rest : Handing.joined (filled ++ last.toList) ++ s.rest.unread
          = d.unread.drop c.remaining := h.bytes
      rw [List.cons_append, Handing.joined, List.flatMap_cons, List.append_assoc]
      exact (congrArg (_ ++ ·) rest).trans (List.take_append_drop _ _)
    rest_eq := by
      rw [Spliced.afterFilling, h.rest_eq, Delivery.advance, Delivery.advance, Delivery.advance,
        List.drop_drop, Nat.add_assoc]
    bytesDelivered_eq := by
      rw [List.cons_append, Handing.joined, List.flatMap_cons, List.length_append, length]
      exact congrArg (c.remaining + ·) h.bytesDelivered_eq
    chunksCompleted_eq := congrArg (· + 1) h.chunksCompleted_eq }

variable {current : Option Chunk}

theorem pulled_eq (h : s.HandsOver current d supply pulled filled last) :
    pulled = (answersOf supply s.pulls).filterMap Dequeued.chunk? := by
  have chunks : (pulled.map Dequeued.chunk).filterMap Dequeued.chunk? = pulled := by
    rw [List.filterMap_map]
    exact List.filterMap_some
  have none : s.outcome.lastAnswer.filterMap Dequeued.chunk? = [] := by
    cases s.outcome <;> rfl
  rw [h.answers, List.filterMap_append, chunks, none, List.append_nil]

theorem pulls_le (h : s.HandsOver current d supply pulled filled last) :
    s.pulls ≤ (supply.filterMap Dequeued.chunk?).length + 1 := by
  have some : pulled.length ≤ (supply.filterMap Dequeued.chunk?).length := by
    have all : (supply ++ [Dequeued.timedOut]).filterMap Dequeued.chunk?
        = supply.filterMap Dequeued.chunk? := by
      rw [List.filterMap_append]
      exact List.append_nil _
    rw [h.pulled_eq, ← all, answersOf]
    exact ((List.take_sublist _ _).filterMap _).length_le
  have one : s.outcome.lastAnswer.length ≤ 1 := by
    cases s.outcome <;> decide
  have pulls := h.pulls_eq
  omega

theorem limit_le (h : s.HandsOver current d supply pulled filled last) :
    s.bytesDelivered ≤ d.unread.length ∧ ∀ x ∈ filled, x.chunk.limit ≤ d.limit := by
  have within : s.bytesDelivered ≤ d.unread.length := by
    rw [h.bytesDelivered_eq, ← h.bytes, List.length_append]
    exact Nat.le_add_right _ _
  refine ⟨within, fun x hx => ?_⟩
  have filled_within : (Handing.joined filled).length ≤ s.bytesDelivered := by
    rw [h.bytesDelivered_eq, Handing.joined, Handing.joined, List.flatMap_append,
      List.length_append]
    exact Nat.le_add_right _ _
  have limit := h.inLine.limit_le x hx
  simp only [Delivery.limit]
  omega

theorem getLast?_answers (h : s.HandsOver current d supply pulled filled last) {answer : Dequeued}
    (no_chunk : answer.chunk? = none) :
    (answersOf supply s.pulls).getLast? = some answer ↔
      s.outcome.lastAnswer = [answer] := by
  rw [h.answers]
  cases pulled.eq_nil_or_concat with
  | inl none => cases s.outcome <;> simp [none, SpliceOutcome.lastAnswer]
  | inr some =>
    obtain ⟨others, c, rfl⟩ := some
    have other : Dequeued.chunk c ≠ answer := fun same => by
      rw [← same] at no_chunk
      cases no_chunk
    cases s.outcome <;> simp [SpliceOutcome.lastAnswer, other]

end Spliced.HandsOver

namespace Chunk

variable {supply : List Dequeued}

theorem handsOver_of_misaligned (c : Chunk) {d : Delivery} (elsewhere : c.cursor ≠ d.start) :
    (c.splice d supply).HandsOver (some c) d supply [] [] (some (.nothing c)) := by
  have h := Spliced.HandsOver.of_unfilled .seek (some (.nothing c)) d d supply rfl rfl rfl
    (.seek _ rfl elsewhere)
  rw [Option.map_some, Handing.written_nothing] at h
  rw [splice_of_misaligned elsewhere]
  exact h

theorem handsOver_of_short (c : Chunk) {d : Delivery} (aligned : c.cursor = d.start)
    (short : d.unread.length < c.remaining) :
    (c.splice d supply).HandsOver (some c) d supply [] [] (some (.ofOffer c d.unread)) := by
  have bytes : Handing.joined (some (Handing.ofOffer c d.unread)).toList = d.unread := by
    rw [Option.toList_some, Handing.joined, List.flatMap_singleton]
    exact List.take_of_length_le (Nat.le_of_lt short)
  have cursor : (c.write d.unread).cursor = d.limit := by
    rw [cursor_write, accepts, Nat.min_eq_left (Nat.le_of_lt short), aligned, Delivery.limit]
  have unfilled : (c.write d.unread).isFull = false := by
    rw [isFull, cursor, limit_write, beq_eq_false_iff_ne]
    simp only [remaining, Delivery.limit] at short ⊢
    omega
  rw [← Handing.written_ofOffer] at cursor unfilled
  have h := Spliced.HandsOver.of_unfilled .wantMore (some (.ofOffer c d.unread)) d ⟨d.limit, []⟩
    supply rfl (by rw [bytes]; rfl) (by rw [bytes, List.append_nil])
    (.wantMore _ rfl cursor unfilled)
  rw [bytes, Option.map_some, Handing.written_ofOffer] at h
  rw [splice_of_short aligned short]
  exact h

/-- Splicing into a chunk hands over, if splicing that asks for one first does. -/
theorem splice_handsOver (c : Chunk) (d : Delivery)
    (waits : ∀ d, ∃ pulled filled last,
      (RangeFetch.splice none d supply).HandsOver none d supply pulled filled last) :
    ∃ pulled filled last,
      (c.splice d supply).HandsOver (some c) d supply pulled filled last := by
  by_cases aligned : c.cursor = d.start
  · by_cases short : d.unread.length < c.remaining
    · exact ⟨[], [], _, c.handsOver_of_short aligned short⟩
    · have enough := Nat.le_of_not_lt short
      rw [splice_of_enough aligned enough]
      by_cases even : d.unread.length = c.remaining
      · have used : d.advance c.remaining = ⟨d.limit, []⟩ := by
          rw [← even, Delivery.advance, List.drop_length]
          rfl
        have rest := Spliced.HandsOver.of_unfilled .drained none (d.advance c.remaining)
          (d.advance c.remaining) supply rfl rfl rfl (.drained (by rw [used]))
        rw [if_pos even, ← used]
        exact ⟨[], _, none, rest.afterFilling aligned enough⟩
      · obtain ⟨pulled, filled, last, h⟩ := waits (d.advance c.remaining)
        rw [if_neg even]
        exact ⟨pulled, _, last, h.afterFilling aligned enough⟩
  · exact ⟨[], [], _, c.handsOver_of_misaligned aligned⟩

end Chunk

theorem splice_none_handsOver (supply : List Dequeued) (d : Delivery) :
    ∃ pulled filled last, (splice none d supply).HandsOver none d supply pulled filled last := by
  induction supply generalizing d with
  | nil => exact ⟨[], [], none, .of_unfilled .stalled none d d [] rfl rfl rfl .stalled⟩
  | cons answer more ih =>
    cases answer with
    | timedOut =>
      exact ⟨[], [], none, .of_unfilled .stalled none d d (.timedOut :: more) rfl rfl rfl .stalled⟩
    | stopped =>
      exact ⟨[], [], none, .of_unfilled .stopped none d d (.stopped :: more) rfl rfl rfl .stopped⟩
    | chunk c =>
      obtain ⟨pulled, filled, last, h⟩ := c.splice_handsOver d ih
      exact ⟨c :: pulled, filled, last, h.afterPull⟩

theorem splice_handsOver (current : Option Chunk) (d : Delivery) (supply : List Dequeued) :
    ∃ pulled filled last,
      (splice current d supply).HandsOver current d supply pulled filled last := by
  cases current with
  | none => exact splice_none_handsOver supply d
  | some c => exact c.splice_handsOver d (splice_none_handsOver supply)

/-- Splicing loses no chunk and no byte. The chunks it filled and then the current one are those
that came in, in this order, each with the bytes of the delivery from where it stood; and the
outcome tells what is left. -/
theorem splice_hands_over (current : Option Chunk) (d : Delivery) (supply : List Dequeued) :
    let s := splice current d supply
    let answer := (answersOf supply s.pulls).getLast?
    ∃ pulled filled last, s.HandsOver current d supply pulled filled last ∧
      s.pulls ≤ (supply.filterMap Dequeued.chunk?).length + 1 ∧
      (s.bytesDelivered ≤ d.unread.length ∧ s.rest.limit = d.limit ∧
        ∀ h ∈ filled, h.chunk.limit ≤ d.limit) ∧
      (s.outcome = .wantMore ↔ s.rest.unread = [] ∧
        ∃ c, s.current = some c ∧ c.cursor = s.rest.start ∧ c.isFull = false) ∧
      (s.outcome = .drained → s.rest.unread = [] ∧ s.current = none) ∧
      (s.outcome = .seek ↔ ∃ c, s.current = some c ∧ c.cursor ≠ s.rest.start) ∧
      (s.outcome = .seek → s.current = (current.toList ++ pulled).getLast?) ∧
      (s.outcome = .stalled ↔ answer = some .timedOut) ∧
      (s.outcome = .stopped ↔ answer = some .stopped) ∧
      (s.outcome = .stalled ∨ s.outcome = .stopped → s.current = none) := by
  intro s answer
  obtain ⟨pulled, filled, last, h⟩ := splice_handsOver current d supply
  obtain ⟨within, limits⟩ := h.limit_le
  have limit : s.rest.limit = d.limit := by
    rw [h.rest_eq, d.limit_advance within]
  have stalled : s.outcome = .stalled ↔ answer = some .timedOut := by
    rw [h.getLast?_answers rfl]
    cases s.outcome <;> simp [SpliceOutcome.lastAnswer]
  have stopped : s.outcome = .stopped ↔ answer = some .stopped := by
    rw [h.getLast?_answers rfl]
    cases s.outcome <;> simp [SpliceOutcome.lastAnswer]
  obtain ⟨wantMore, drained, seek, untouched, ended⟩ := h.leavesOff.tells
  rw [← h.current_eq] at wantMore seek
  have last_came : s.outcome = .seek → s.current = (current.toList ++ pulled).getLast? := by
    intro out
    obtain ⟨x, rfl, same⟩ := untouched out
    rw [h.current_eq, h.chunks, Option.map_some, same, Option.toList_some, List.map_append,
      List.map_singleton, List.getLast?_concat]
  have no_current : last = none → s.current = none := fun none => by
    rw [h.current_eq, none, Option.map_none]
  exact ⟨pulled, filled, last, h, h.pulls_le, ⟨within, limit, limits⟩, wantMore,
    fun out => ⟨(drained out).1, no_current (drained out).2⟩, seek, last_came, stalled, stopped,
    fun out => no_current (ended out)⟩

theorem splice_hands_over_three :
    let c : Chunk := ⟨0, 4, 7, [3], by decide⟩
    let further : Chunk := ⟨2, 8, 9, [], by decide⟩
    let supply : List Dequeued := [.chunk ⟨1, 7, 7, [], by decide⟩, .chunk further, .stopped]
    let s := splice (some c) ⟨5, [1, 2, 3]⟩ supply
    s.outcome = .seek ∧ s.fired = [⟨0, .served ⟨4, [3, 1, 2]⟩⟩, ⟨1, .served ⟨7, []⟩⟩] ∧
      ∃ pulled filled last, s.HandsOver (some c) ⟨5, [1, 2, 3]⟩ supply pulled filled last ∧
        filled.length = 2 ∧ s.pulls ≤ 3 ∧ some further = ((some c).toList ++ pulled).getLast? := by
  intro c further supply s
  obtain ⟨pulled, filled, last, h, pulls, -, -, -, -, untouched, -⟩ :=
    splice_hands_over (some c) ⟨5, [1, 2, 3]⟩ supply
  have two : s.chunksCompleted = 2 := by decide
  have came : s.current = some further := by decide
  exact ⟨by decide, by decide, pulled, filled, last, h, h.chunksCompleted_eq.symm.trans two, pulls,
    came.symm.trans (untouched (by decide))⟩

end RangeFetch
