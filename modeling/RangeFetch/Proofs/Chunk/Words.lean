import RangeFetch.Chunk.Words

namespace RangeFetch

namespace Chunk

variable (c : Chunk)

theorem limit_apply_le (op : Operation) : (c.apply op).limit ≤ c.limit := by
  cases op with
  | clamp fileSize => exact Nat.min_le_left _ _
  | write bytes => exact Nat.le_refl _

theorem buffer_apply (op : Operation) : (c.apply op).buffer = c.buffer ++ c.takes op := by
  cases op with
  | clamp fileSize => exact (List.append_nil _).symm
  | write bytes => rfl

theorem run_keeps (ops : List Operation) :
    (c.run ops).signal = c.signal ∧ (c.run ops).offset = c.offset ∧
      (c.run ops).limit ≤ c.limit ∧ (c.run ops).buffer = c.buffer ++ (c.parts ops).flatten := by
  induction ops generalizing c with
  | nil => exact ⟨rfl, rfl, Nat.le_refl _, (List.append_nil _).symm⟩
  | cons op rest ih =>
    obtain ⟨signal, offset, limit, buffer⟩ := ih (c.apply op)
    have same : (c.apply op).signal = c.signal ∧ (c.apply op).offset = c.offset := by
      cases op <;> exact ⟨rfl, rfl⟩
    refine ⟨signal.trans same.1, offset.trans same.2, Nat.le_trans limit (c.limit_apply_le op), ?_⟩
    rw [run, buffer, buffer_apply, parts, List.flatten_cons, List.append_assoc]

theorem accepts_append (a b : Bytes) :
    c.accepts a + (c.write a).accepts b = c.accepts (a ++ b) := by
  unfold accepts
  rw [remaining_write, List.length_append]
  omega

theorem clampTo_min (x y : Nat) : (c.clampTo x).clampTo y = c.clampTo (min x y) := by
  ext1
  case limit =>
    simp only [limit_clampTo, cursor_clampTo]
    omega
  all_goals rfl

end Chunk

namespace ChunkWords

variable {w : ChunkWords} {c : Chunk}

theorem toNat_sum {a b sum : UInt64} (h : sum? a b = some sum) :
    sum.toNat = a.toNat + b.toNat := by
  unfold sum? at h
  split at h
  · rename_i small
    cases h
    rw [UInt64.toNat_add]
    exact Nat.mod_eq_of_lt small
  · cases h

theorem toNat_max (a b : UInt64) : (max a b).toNat = max a.toNat b.toNat := by
  change (if a ≤ b then b else a).toNat = _
  by_cases h : a ≤ b
  · rw [if_pos h, Nat.max_eq_right (UInt64.le_iff_toNat_le.mp h)]
  · rw [UInt64.le_iff_toNat_le, Nat.not_le] at h
    rw [if_neg (by rwa [UInt64.le_iff_toNat_le, Nat.not_le]), Nat.max_eq_left (Nat.le_of_lt h)]

/-- The words stand for the chunk. -/
structure Holds (w : ChunkWords) (c : Chunk) : Prop where
  offset : w.offset.toNat = c.offset
  cursor : w.cursor.toNat = c.cursor
  limit : w.limit.toNat = c.limit
  buffer : w.buffer = c.buffer

theorem Holds.remaining (h : w.Holds c) :
    ∃ wanted, w.remaining? = some wanted ∧ wanted.toNat = c.remaining := by
  have ordered : w.cursor ≤ w.limit := by
    rw [UInt64.le_iff_toNat_le, h.cursor, h.limit]
    exact c.cursor_le_limit
  refine ⟨w.limit - w.cursor, if_pos ordered, ?_⟩
  rw [UInt64.toNat_sub_of_le _ _ ordered, h.cursor, h.limit]
  rfl

theorem Holds.clampTo (h : w.Holds c) (fileSize : UInt64) :
    ∃ w', w.clampTo? fileSize = some w' ∧ w'.Holds (c.clampTo fileSize.toNat) := by
  let clamped : ChunkWords :=
    if fileSize < w.limit then { w with limit := max fileSize w.cursor } else w
  have holds : clamped.Holds (c.clampTo fileSize.toNat) := by
    have below := c.cursor_le_limit
    by_cases lower : fileSize < w.limit
    · have sizes := UInt64.lt_iff_toNat_lt.mp lower
      rw [h.limit] at sizes
      have highest : (max fileSize w.cursor).toNat = max fileSize.toNat c.cursor := by
        rw [← h.cursor]
        exact toNat_max fileSize w.cursor
      rw [show clamped = { w with limit := max fileSize w.cursor } from if_pos lower]
      refine ⟨h.offset, h.cursor, ?_, h.buffer⟩
      rw [highest, Chunk.limit_clampTo]
      omega
    · have sizes : ¬ fileSize.toNat < c.limit := by
        rwa [UInt64.lt_iff_toNat_lt, h.limit] at lower
      rw [show clamped = w from if_neg lower]
      refine ⟨h.offset, h.cursor, ?_, h.buffer⟩
      rw [h.limit, Chunk.limit_clampTo]
      omega
  obtain ⟨wanted, fits, -⟩ := holds.remaining
  refine ⟨clamped, ?_, holds⟩
  rw [clampTo?, fits]
  rfl

theorem Holds.write (h : w.Holds c) {sizeMax : Nat} {bytes : Bytes}
    (fits : bytes.length ≤ sizeMax) :
    ∃ w', w.write? sizeMax bytes = some (c.accepts bytes, w') ∧ w'.Holds (c.write bytes) := by
  obtain ⟨wanted, some_wanted, remaining⟩ := h.remaining
  have count : min (min wanted.toNat sizeMax) bytes.length = c.accepts bytes := by
    rw [remaining, Chunk.accepts]
    omega
  have bound : c.cursor + c.accepts bytes < Limits.offsetBound := by
    have small : w.limit.toNat < Limits.offsetBound := w.limit.toNat_lt
    have below := (c.write bytes).cursor_le_limit
    rw [c.cursor_write, c.limit_write, ← h.limit] at below
    omega
  have word : (UInt64.ofNat (c.accepts bytes)).toNat = c.accepts bytes := by
    refine Nat.mod_eq_of_lt ?_
    change _ < Limits.offsetBound
    omega
  have sum : sum? w.cursor (.ofNat (c.accepts bytes)) =
      some (w.cursor + .ofNat (c.accepts bytes)) := by
    apply if_pos
    rw [word, h.cursor]
    exact bound
  let written : ChunkWords :=
    { w with
      cursor := w.cursor + .ofNat (c.accepts bytes)
      buffer := w.buffer ++ bytes.take (c.accepts bytes) }
  refine ⟨written, ?_, h.offset, ?_, h.limit, ?_⟩
  · rw [write?, some_wanted, Option.bind_some]
    dsimp only
    rw [count, sum]
    rfl
  · rw [toNat_sum sum, word, h.cursor, c.cursor_write]
  · exact congrArg (· ++ bytes.take (c.accepts bytes)) h.buffer

theorem Holds.apply (h : w.Holds c) {sizeMax : Nat} {op : Chunk.Operation}
    (fits : op.length ≤ sizeMax) :
    ∃ w', w.perform? sizeMax op = some w' ∧ w'.Holds (c.apply op) := by
  cases op with
  | clamp fileSize => exact h.clampTo fileSize
  | write bytes =>
    obtain ⟨w', wrote, holds⟩ := h.write fits
    refine ⟨w', ?_, holds⟩
    rw [perform?, wrote]
    rfl

theorem Holds.run (h : w.Holds c) {sizeMax : Nat} (ops : List Chunk.Operation)
    (fits : ∀ op ∈ ops, op.length ≤ sizeMax) :
    ∃ w', w.run? sizeMax ops = some w' ∧ w'.Holds (c.run ops) := by
  induction ops generalizing w c with
  | nil => exact ⟨w, rfl, h⟩
  | cons op rest ih =>
    obtain ⟨first, later⟩ := List.forall_mem_cons.mp fits
    obtain ⟨w₁, done, holds⟩ := h.apply first
    obtain ⟨w₂, rest_done, holds'⟩ := ih holds later
    refine ⟨w₂, ?_, holds'⟩
    rw [run?, done]
    exact rest_done

theorem holds_request (signal : Nat) {start limit : UInt64} (ordered : start ≤ limit)
    (used : Bytes) :
    ∃ c w, Chunk.request signal start.toNat limit.toNat = .ok c ∧
      request? start limit used = some w ∧ w.Holds c := by
  have sizes := UInt64.le_iff_toNat_le.mp ordered
  refine ⟨⟨signal, start.toNat, limit.toNat, [], sizes⟩, ⟨start, start, limit, []⟩, dif_pos sizes,
    ?_, rfl, rfl, rfl, rfl⟩
  rw [request?, if_neg (by rwa [UInt64.lt_iff_toNat_lt, Nat.not_lt]), List.take_zero]

/-- A chunk keeps to its range: in words of 64 bits no operation goes out of range, the cursor never
passes the limit, nor the limit the one that was asked for, and the bytes are the parts that were
taken, in turn. -/
theorem chunk_keeps_to_range (signal : Nat) (start limit : UInt64) (ordered : start ≤ limit)
    (used : Bytes) (sizeMax : Nat) (ops : List Chunk.Operation)
    (fits : ∀ op ∈ ops, op.length ≤ sizeMax) :
    ∃ fresh w, Chunk.request signal start.toNat limit.toNat = .ok fresh ∧
      (request? start limit used).bind (·.run? sizeMax ops) = some w ∧
      let c := fresh.run ops
      w.Holds c ∧
        (w.offset = start ∧ w.offset.toNat + w.buffer.length = w.cursor.toNat ∧
          w.cursor ≤ w.limit ∧ w.limit ≤ limit) ∧
        c.buffer = (fresh.parts ops).flatten ∧
        c.complete = ⟨signal, .served ⟨start.toNat, c.buffer⟩⟩ ∧
        (∀ a, a.length ≤ sizeMax →
          ∃ w', w.write? sizeMax a = some (min a.length c.remaining, w') ∧
            w'.Holds (c.write a) ∧ w'.buffer = w.buffer ++ a.take (min a.length c.remaining)) ∧
        (∀ a b, (c.write a).write b = c.write (a ++ b) ∧
          c.accepts a + (c.write a).accepts b = c.accepts (a ++ b)) ∧
        ∀ x y, (c.clampTo x).buffer = c.buffer ∧
          c.cursor ≤ (c.clampTo x).limit ∧ (c.clampTo x).limit ≤ c.limit ∧
          (c.clampTo x).clampTo y = c.clampTo (min x y) ∧
          (c.clampTo x).clampTo y = (c.clampTo y).clampTo x ∧
          (c.clampTo x).clampTo x = c.clampTo x := by
  obtain ⟨fresh, w₀, made, begun, holds₀⟩ := holds_request signal ordered used
  obtain ⟨w, ran, holds⟩ := holds₀.run ops fits
  obtain ⟨own, offset, asked, -⟩ := Chunk.of_request made
  obtain ⟨signal_run, offset_run, limit_run, buffer_run⟩ := fresh.run_keeps ops
  have empty := (Chunk.of_request made).2.2.2.1
  refine ⟨fresh, w, made, by rw [begun]; exact ran, holds, ⟨?_, ?_, ?_, ?_⟩, ?_, ?_, ?_,
    ?_, ?_⟩
  · apply UInt64.toNat_inj.mp
    rw [holds.offset, offset_run, offset]
  · rw [holds.offset, holds.buffer, holds.cursor]
    rfl
  · rw [UInt64.le_iff_toNat_le, holds.cursor, holds.limit]
    exact (fresh.run ops).cursor_le_limit
  · rw [UInt64.le_iff_toNat_le, holds.limit, ← asked]
    exact limit_run
  · rw [buffer_run, empty, List.nil_append]
  · rw [Chunk.complete, signal_run, own, offset_run, offset]
  · intro a small
    obtain ⟨w', wrote, holds'⟩ := holds.write small
    refine ⟨w', wrote, holds', ?_⟩
    rw [holds'.buffer, holds.buffer]
    rfl
  · intro a b
    exact ⟨Chunk.write_write _ a b, Chunk.accepts_append _ a b⟩
  · intro x y
    have smaller := (fresh.run ops).clampTo_min
    refine ⟨rfl, (Chunk.clampTo _ x).cursor_le_limit, Nat.min_le_left _ _, smaller x y, ?_, ?_⟩
    · rw [smaller, smaller, Nat.min_comm]
    · rw [smaller, Nat.min_self]

theorem chunk_keeps_to_range_at_end :
    let last : UInt64 := 18446744073709551615
    let ops : List Chunk.Operation := [.write [1, 2], .clamp 7, .write [3], .clamp last]
    last - 3 ≤ last ∧ (∀ op ∈ ops, op.length ≤ 2) ∧
      (request? (last - 3) last [9]).bind (·.run? 2 ops) =
        some ⟨last - 3, last - 1, last - 1, [1, 2]⟩ ∧
      ∃ fresh, Chunk.request 0 (last - 3).toNat last.toNat = .ok fresh ∧
        (fresh.run ops).complete = ⟨0, .served ⟨(last - 3).toNat, [1, 2]⟩⟩ := by
  intro last ops
  have ordered : last - 3 ≤ last := by decide
  have fits : ∀ op ∈ ops, op.length ≤ 2 := by decide
  obtain ⟨fresh, w, made, ran, holds, -, -, complete, -⟩ :=
    chunk_keeps_to_range 0 (last - 3) last ordered [9] 2 ops fits
  have words : (request? (last - 3) last [9]).bind (·.run? 2 ops) =
      some ⟨last - 3, last - 1, last - 1, [1, 2]⟩ := by decide +kernel
  rw [← holds.buffer, Option.some.inj (ran.symm.trans words)] at complete
  exact ⟨ordered, fits, words, fresh, made, complete⟩

end ChunkWords

end RangeFetch
