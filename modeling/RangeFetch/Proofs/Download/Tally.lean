import RangeFetch.File.Observed
import RangeFetch.Proofs.Download.Expiry

namespace RangeFetch

theorem Chunk.held_append (l m : List Chunk) : held (l ++ m) = held l + held m := by
  simp [held, sumOf]

theorem Chunk.held_cons (c : Chunk) (l : List Chunk) :
    held (c :: l) = c.buffer.length + held l := rfl

@[simp] theorem Chunk.held_nil : held [] = 0 := rfl

theorem Chunk.held_perm {l m : List Chunk} (perm : l.Perm m) : held l = held m :=
  (perm.map _).sum_nat

theorem Firing.delivered_append (l m : List Firing) :
    delivered (l ++ m) = delivered l + delivered m := by
  simp [delivered, sumOf]

@[simp] theorem Firing.delivered_nil : delivered [] = 0 := rfl

theorem Firing.delivered_complete (c : Chunk) : delivered [c.complete] = c.buffer.length := rfl

theorem Firing.delivered_fail (c : Chunk) (e : ChunkError) : delivered [c.fail e] = 0 := rfl

theorem Firing.delivered_of_failed {fired : List Firing} (h : ∀ x ∈ fired, x.isServed = false) :
    delivered fired = 0 := by
  rw [delivered, sumOf, List.sum_eq_zero_iff_forall_eq_nat, List.forall_mem_map]
  intro x mem
  have failed := h x mem
  unfold isServed at failed
  unfold length
  cases result : x.result with
  | served data =>
    rw [result] at failed
    cases failed
  | failed e => rfl

theorem Chunk.length_buffer_write (c : Chunk) (bytes : Bytes) :
    (c.write bytes).buffer.length = c.buffer.length + c.accepts bytes := by
  have := c.accepts_le_length bytes
  rw [buffer_write, List.length_append, List.length_take]
  omega

namespace Downloader

variable {d d' d₀ : Downloader} {e : Event} {c : Chunk} {error : ChunkError}
  {fired : List Firing} {lost picked : List Chunk}

/-- The counters before and after, with what has come in and gone out in between. What is still to
be failed has been counted. -/
structure Tally (d d' : Downloader) (fired : List Firing) (lost picked : List Chunk) : Prop where
  started : d'.stats.downloadersStarted = d.stats.downloadersStarted
  completed : d'.stats.chunksCompleted = d.stats.chunksCompleted + fired.countP (·.isServed)
  failed : d'.stats.chunksFailed + d.phase.dues.length =
    d.stats.chunksFailed + d'.phase.dues.length + fired.countP (!·.isServed)
  bytes : d'.stats.bytesDelivered + Chunk.held d.outstanding =
    d.stats.bytesDelivered + Chunk.held d'.outstanding + Firing.delivered fired + Chunk.held lost
  requests : d'.stats.requests + d.stats.seeks = d.stats.requests + d'.stats.seeks + picked.length

/-- A move that fails no chunk. Each request that it counts is for a stream given up, or for one of
the chunks picked up. -/
theorem tally_of_stats (pickups seeks count : Nat) (picks : picked.length = pickups)
    (stats : d'.stats = { d.stats with
      requests := d.stats.requests + (pickups + seeks)
      seeks := d.stats.seeks + seeks
      chunksCompleted := d.stats.chunksCompleted + fired.countP (·.isServed)
      bytesDelivered := d.stats.bytesDelivered + count })
    (served : fired.countP (!·.isServed) = 0) (dues : d'.phase.dues = d.phase.dues)
    (held : count + Chunk.held d.outstanding =
      Chunk.held d'.outstanding + Firing.delivered fired) :
    Tally d d' fired [] picked := by
  refine ⟨?_, ?_, ?_, ?_, ?_⟩
  · rw [stats]
  · rw [stats]
  · rw [stats, served, dues]
    rfl
  · rw [stats]
    simp only [Chunk.held_nil]
    omega
  · rw [stats]
    dsimp only
    omega

theorem Fills.tally {b : Downloader} {delivery : Delivery} {stream : Stream}
    (h : Fills d c delivery stream d' fired) (stats : d.stats = b.stats)
    (busy : b.phase.dues = [])
    (held : Chunk.held b.outstanding = Chunk.held d.queue.pending + c.buffer.length) :
    Tally b d' fired [] [] := by
  have written := c.length_buffer_write delivery.unread
  cases h with
  | seeks elsewhere =>
    have after : Chunk.held (d.seek c).outstanding = Chunk.held b.outstanding := by
      rw [held, outstanding, Chunk.held_append]
      rfl
    refine tally_of_stats 0 1 0 rfl (by rw [← stats]; rfl) rfl busy.symm ?_
    rw [after, Nat.zero_add]
    rfl
  | unfilled aligned short =>
    have all : c.accepts delivery.unread = delivery.unread.length :=
      Nat.min_eq_left (Nat.le_of_lt short)
    refine tally_of_stats 0 0 delivery.unread.length rfl (by rw [← stats]; rfl) rfl busy.symm ?_
    rw [held, outstanding, Chunk.held_append, Phase.chunks, Chunk.held_cons, written, all]
    simp only [Chunk.held_nil, Firing.delivered_nil]
    omega
  | filled aligned enough counted atEnd =>
    have taken : c.accepts delivery.unread = c.remaining := Nat.min_eq_right enough
    refine tally_of_stats 0 0 c.remaining rfl (by rw [counted, ← stats]; rfl) rfl busy.symm ?_
    rw [held, outstanding, Chunk.held_append, Firing.delivered_complete, written, taken]
    simp only [Phase.chunks, Chunk.held_nil]
    omega
  | leaves aligned enough counted more =>
    have taken : c.accepts delivery.unread = c.remaining := Nat.min_eq_right enough
    refine tally_of_stats 0 0 c.remaining rfl (by rw [counted, ← stats]; rfl) rfl busy.symm ?_
    rw [held, outstanding, Chunk.held_append, Firing.delivered_complete, written, taken]
    simp only [Phase.chunks, Chunk.held_nil]
    omega

theorem Ends.tally (h : Ends d e d₀ error) : Tally d (d₀.finish error) [] [] [] := by
  have busy : d.phase.dues = [] := by
    cases h with
    | stopped phase stop =>
      rcases phase with phase | ⟨leftover, stream, phase⟩ <;> rw [phase] <;> rfl
    | noticed phase stop => rcases phase with phase | ⟨stream, phase⟩ <;> rw [phase] <;> rfl
    | _ => simp [*, Phase.dues]
  have dues : (d₀.finish error).phase.dues.length = d₀.outstanding.length := by
    simp [finish, Phase.dues]
  have same : d₀.stats.downloadersStarted = d.stats.downloadersStarted ∧
      d₀.stats.chunksCompleted = d.stats.chunksCompleted ∧
      d₀.stats.chunksFailed = d.stats.chunksFailed ∧
      d₀.stats.bytesDelivered = d.stats.bytesDelivered := by
    cases h <;> exact ⟨rfl, rfl, rfl, rfl⟩
  -- all that is outstanding counts as failed now, and is due
  obtain ⟨started, completed, failed, bytes⟩ := same
  obtain ⟨requests, seeks⟩ := h.same_requests
  refine ⟨started, completed, ?_, ?_, ?_⟩
  · rw [dues, busy, ← failed]
    rfl
  · rw [outstanding_finish, h.outstanding, ← bytes]
    rfl
  · change d₀.stats.requests + _ = _ + d₀.stats.seeks + 0
    rw [requests, seeks, Nat.add_zero]

theorem tally_of_still (stats : d'.stats = d.stats) (dues : d'.phase.dues = d.phase.dues)
    (perm : d.outstanding.Perm d'.outstanding) : Tally d d' [] [] [] := by
  refine tally_of_stats 0 0 0 rfl stats rfl dues ?_
  rw [Chunk.held_perm perm, Nat.zero_add]
  rfl

theorem pickedUp?_of_untaken (untaken : d.taken? e = none) : d.pickedUp? e = none := by
  unfold pickedUp?
  split
  · exact untaken
  · rfl

theorem pickedUp?_of_between {leftover : Delivery} {stream : Stream}
    (phase : d.phase = .between leftover stream) : d.pickedUp? e = none := by
  rw [pickedUp?, phase]

theorem Moves.tally (h : Moves d e d' fired) (other : e ≠ .failNext) :
    Tally d d' fired [] (d.pickedUp? e).toList := by
  cases h with
  | stays idle unanswered =>
    rw [pickedUp?_of_untaken idle]
    exact tally_of_still rfl rfl (.refl _)
  | ends why =>
    rw [pickedUp?_of_untaken why.taken?]
    exact why.tally
  | @wakes c rest phase running first =>
    have picks : d.pickedUp? .take = some c := by
      rw [pickedUp?, phase, taken?_take running first (.inl phase)]
    rw [picks]
    refine tally_of_stats 1 0 0 rfl rfl rfl (by rw [phase]; rfl) ?_
    simp only [outstanding, first, phase, Phase.chunks, shift, request, Chunk.held_append,
      Chunk.held_cons, Chunk.held_nil, Firing.delivered_nil]
    omega
  | @continues c rest leftover stream phase running first aligned used =>
    rw [pickedUp?_of_between phase]
    refine tally_of_still rfl (by rw [phase]; rfl) ?_
    simp only [outstanding, first, phase, Phase.chunks, shift, List.append_nil]
    exact (List.perm_append_singleton c rest).symm
  | follows phase running first apart fills =>
    rw [pickedUp?_of_between phase]
    refine fills.tally rfl (by rw [phase]; rfl) ?_
    simp only [outstanding, first, phase, Phase.chunks, shift, Chunk.held_append, Chunk.held_cons,
      Chunk.held_nil]
    omega
  | connects phase aligned =>
    rw [pickedUp?_of_untaken rfl]
    exact tally_of_still rfl (by rw [phase]; rfl) (by simp [outstanding, phase, Phase.chunks])
  | misconnects phase elsewhere seldom =>
    rw [pickedUp?_of_untaken rfl]
    exact tally_of_still rfl (by rw [phase]; rfl) (by simp [outstanding, phase, Phase.chunks])
  | skips phase next =>
    rw [pickedUp?_of_untaken rfl]
    exact tally_of_still rfl (by rw [phase]; rfl) (by simp [outstanding, phase, Phase.chunks])
  | delivers phase next some fills =>
    rw [pickedUp?_of_untaken rfl]
    refine fills.tally rfl (by rw [phase]; rfl) ?_
    rw [outstanding, phase, Phase.chunks, Chunk.held_append, Chunk.held_cons]
    rfl
  | fails phase => exact absurd rfl other
  | stops phase => exact absurd rfl other

theorem failNext_tally (d : Downloader) :
    Tally d d.failNext.1 d.failNext.2 (d.failed? .failNext).toList [] := by
  unfold failNext failed?
  cases phase : d.phase with
  | failing shown error rest =>
    cases rest with
    | nil =>
      exact tally_of_still rfl (by rw [phase]; rfl) (by simp [outstanding, phase, Phase.chunks])
    | cons c rest =>
      refine ⟨rfl, rfl, ?_, ?_, rfl⟩
      · rw [phase]
        rfl
      · simp only [outstanding, phase, Phase.chunks, Chunk.held_append, Chunk.held_cons,
          Chunk.held_nil, Option.toList_some, Firing.delivered_fail]
        omega
  | _ => exact tally_of_still rfl rfl (.refl _)

theorem step_tally (d : Downloader) (e : Event) :
    Tally d (d.step e).1 (d.step e).2 (d.failed? e).toList (d.pickedUp? e).toList := by
  by_cases other : e = .failNext
  · subst other
    rw [pickedUp?_of_untaken rfl]
    exact d.failNext_tally
  · -- no other move fails a chunk
    have none : d.failed? e = none := by
      cases e <;> first | rfl | exact absurd rfl other
    rw [none]
    exact (d.step_moves e).tally other

theorem Enqueues.tally (h : Enqueues d c (.ok (d', fired))) (fresh : c.buffer = []) :
    Tally d d' fired [] [] := by
  have empty : c.buffer.length = 0 := by rw [fresh]; rfl
  cases h with
  | completes past =>
    refine tally_of_stats 0 0 0 rfl rfl rfl rfl ?_
    rw [Firing.delivered_complete, empty, Nat.zero_add]
    rfl
  | queues within closed =>
    refine tally_of_stats 0 0 0 rfl rfl rfl rfl ?_
    have perm := ChunkQueue.insert_perm (c.clampTo d.queue.fileSize) d.queue.pending
    simp only [outstanding, Chunk.held_append, Chunk.held_perm perm, Chunk.held_cons,
      Chunk.buffer_clampTo, empty, Firing.delivered_nil]
    omega

/-- A wait for a chunk that expires is the last thing of all. -/
def ExpiresOnce (d : Downloader) : Prop := d.expired = 0 ∨ d.phase.isOver = true ∧ d.expired ≤ 1

theorem ExpiresOnce.expired_le (h : d.ExpiresOnce) : d.expired ≤ 1 := by
  rcases h with none | ⟨-, once⟩
  · omega
  · exact once

theorem Ends.expired_le (h : Ends d e d₀ error) :
    d₀.expired ≤ d.expired + 1 ∧ d.phase.isOver = false := by
  cases h with
  | idle phase running none => exact ⟨Nat.le_of_eq (Nat.add_right_comm _ _ _), by rw [phase]; rfl⟩
  | stall phase running none => exact ⟨Nat.le_refl _, by rw [phase]; rfl⟩
  | stopped phase stop =>
    refine ⟨Nat.le_succ _, ?_⟩
    rcases phase with phase | ⟨leftover, stream, phase⟩ <;> rw [phase] <;> rfl
  | noticed phase stop =>
    refine ⟨Nat.le_succ _, ?_⟩
    rcases phase with phase | ⟨stream, phase⟩ <;> rw [phase] <;> rfl
  | notOpened phase => exact ⟨Nat.le_succ _, by rw [phase]; rfl⟩
  | notHonored phase elsewhere often => exact ⟨Nat.le_succ _, by rw [phase]; rfl⟩
  | broken phase next => exact ⟨Nat.le_succ _, by rw [phase]; rfl⟩
  | short phase next => exact ⟨Nat.le_succ _, by rw [phase]; rfl⟩
  | silent phase => exact ⟨Nat.le_succ _, by rw [phase]; rfl⟩

theorem ExpiresOnce.of_busy (inv : d.ExpiresOnce) (busy : d.phase.isOver = false) :
    d.expired = 0 := by
  rcases inv with none | ⟨gone, -⟩
  · exact none
  · rw [busy] at gone
    cases gone

theorem Moves.expiresOnce (h : Moves d e d' fired) (inv : d.ExpiresOnce) : d'.ExpiresOnce := by
  have goesOn (busy : d.phase.isOver = false) (same : d'.expired = d.expired) : d'.ExpiresOnce :=
    .inl (same.trans (inv.of_busy busy))
  cases h with
  | stays idle unanswered => exact inv
  | @ends _ d₀ _ why =>
    obtain ⟨once, busy⟩ := why.expired_le
    rw [inv.of_busy busy] at once
    exact .inr ⟨rfl, once⟩
  | wakes phase running first => exact goesOn (by rw [phase]; rfl) rfl
  | continues phase running first aligned used => exact goesOn (by rw [phase]; rfl) rfl
  | follows phase running first apart fills => exact goesOn (by rw [phase]; rfl) fills.expired
  | connects phase aligned => exact goesOn (by rw [phase]; rfl) rfl
  | misconnects phase elsewhere seldom => exact goesOn (by rw [phase]; rfl) rfl
  | skips phase next => exact goesOn (by rw [phase]; rfl) rfl
  | delivers phase next some fills => exact goesOn (by rw [phase]; rfl) fills.expired
  | fails phase => exact inv.imp_right fun once => ⟨rfl, once.2⟩
  | stops phase => exact inv.imp_right fun once => ⟨rfl, once.2⟩

theorem Enqueues.expiresOnce (h : Enqueues d c (.ok (d', fired))) (inv : d.ExpiresOnce) :
    d'.ExpiresOnce := by
  cases h <;> exact inv

end Downloader

end RangeFetch
