import RangeFetch.Proofs.Download.Restarts

namespace RangeFetch

structure Chunk.IsWithin (size : Nat) (c : Chunk) : Prop where
  cursor : c.cursor < size
  limit : c.limit ≤ size

namespace Downloader

variable {d d' d₀ : Downloader} {e : Event} {c : Chunk} {error : ChunkError}
  {fired : List Firing}

/-- No chunk that is outstanding goes past the end of the file. -/
def Bounded (d : Downloader) : Prop := ∀ c ∈ d.outstanding, c.IsWithin d.identity.size

theorem Bounded.keep (h : d.Bounded) (identity : d'.identity = d.identity)
    (known : ∀ c ∈ d'.outstanding, c ∈ d.outstanding) : d'.Bounded := by
  intro c there
  rw [identity]
  exact h c (known c there)

theorem Fills.bounded {delivery : Delivery} {stream : Stream}
    (h : Fills d c delivery stream d' fired)
    (pending : ∀ b ∈ d.queue.pending, b.IsWithin d.identity.size)
    (own : c.IsWithin d.identity.size) : d'.Bounded := by
  cases h with
  | seeks elsewhere => simpa [Bounded, mem_outstanding, seek, request, Phase.chunks, or_imp,
      forall_and] using ⟨pending, own⟩
  | unfilled aligned short =>
    have reached : (c.write delivery.unread).IsWithin d.identity.size := by
      have limit := own.limit
      refine ⟨?_, limit⟩
      rw [Chunk.cursor_write, Chunk.accepts, Nat.min_eq_left (Nat.le_of_lt short)]
      rw [Chunk.remaining] at short
      omega
    simpa [Bounded, mem_outstanding, Phase.chunks, or_imp, forall_and] using ⟨pending, reached⟩
  | filled aligned enough counted atEnd =>
    simpa [Bounded, mem_outstanding, Phase.chunks] using pending
  | leaves aligned enough counted more =>
    simpa [Bounded, mem_outstanding, Phase.chunks] using pending

theorem Moves.bounded (h : Moves d e d' fired) (inv : d.Bounded) : d'.Bounded := by
  cases h with
  | stays idle unanswered => exact inv
  | ends why =>
    refine inv.keep why.same.1 ?_
    rw [outstanding_finish, why.outstanding]
    exact fun _ => id
  | wakes phase running first =>
    refine inv.keep rfl ?_
    simp only [mem_outstanding, request, shift, first, Phase.chunks, List.mem_cons]
    grind
  | continues phase running first aligned used =>
    refine inv.keep rfl ?_
    simp only [mem_outstanding, shift, first, Phase.chunks, List.mem_cons]
    grind
  | follows phase running first apart fills =>
    refine fills.bounded (fun b later => ?_) ?_
    · exact inv b (mem_outstanding.mpr (.inl (by rw [first]; exact List.mem_cons_of_mem _ later)))
    · exact inv _ (mem_outstanding.mpr (.inl (by rw [first]; exact List.mem_cons_self)))
  | delivers phase next some fills =>
    refine fills.bounded (fun b waits => inv b (mem_outstanding.mpr (.inl waits))) ?_
    exact inv _ (mem_outstanding_of_streaming phase)
  | connects phase aligned => exact inv.keep rfl (by simp [mem_outstanding, phase, Phase.chunks])
  | misconnects phase elsewhere seldom =>
    exact inv.keep rfl (by simp [mem_outstanding, phase, Phase.chunks])
  | skips phase next => exact inv.keep rfl (by simp [mem_outstanding, phase, Phase.chunks])
  | fails phase =>
    refine inv.keep rfl ?_
    simp only [mem_outstanding, phase, Phase.chunks, List.mem_cons]
    grind
  | stops phase => exact inv.keep rfl (by simp [mem_outstanding, phase, Phase.chunks])

theorem Enqueues.bounded (h : Enqueues d c (.ok (d', fired))) (sound : d.Sound)
    (inv : d.Bounded) : d'.Bounded := by
  cases h with
  | completes past => exact inv
  | queues within closed =>
    have clamped : (c.clampTo d.queue.fileSize).IsWithin d.identity.size := by
      refine ⟨within, ?_⟩
      rw [Chunk.limit_clampTo, sound.fileSize]
      omega
    intro b there
    rcases mem_outstanding.mp there with waits | busy
    · rcases List.mem_cons.mp ((ChunkQueue.insert_perm _ _).mem_iff.mp waits) with rfl | old
      · exact clamped
      · exact inv b (mem_outstanding.mpr (.inl old))
    · exact inv b (mem_outstanding.mpr (.inr busy))

theorem of_taken? (h : d.taken? e = some c) :
    e = .take ∧ d.queue.stopped = false ∧ (∃ rest, d.queue.pending = c :: rest) ∧
      (d.phase = .idle ∨ ∃ leftover stream, d.phase = .between leftover stream) := by
  have waits (dequeued : d.queue.dequeueOrClose.1 = .chunk c) :
      d.queue.stopped = false ∧ ∃ rest, d.queue.pending = c :: rest := by
    rcases d.queue.dequeueOrClose_cases with ⟨-, ends⟩ | ⟨-, -, ends⟩ |
      ⟨c', rest, running, first, ends⟩
    · rw [ends] at dequeued
      cases dequeued
    · rw [ends] at dequeued
      cases dequeued
    · rw [ends] at dequeued
      cases dequeued
      exact ⟨running, rest, first⟩
  unfold taken? at h
  split at h
  · split at h
    · rename_i phase dequeued
      cases h
      obtain ⟨running, first⟩ := waits (by rw [dequeued])
      exact ⟨rfl, running, first, .inl phase⟩
    · rename_i phase dequeued
      cases h
      obtain ⟨running, first⟩ := waits (by rw [dequeued])
      exact ⟨rfl, running, first, .inr ⟨_, _, phase⟩⟩
    · cases h
  · cases h

theorem wants_of_taken? (h : d.taken? e = some c) : d.wants = .ready .take := by
  obtain ⟨-, running, ⟨rest, first⟩, phase | ⟨leftover, stream, phase⟩⟩ := of_taken? h <;>
    simp [wants, awaitChunk, phase, first]

theorem rangeRestarts_take (d : Downloader) : (d.step .take).1.rangeRestarts = d.rangeRestarts := by
  have moves := d.step_moves .take
  generalize (d.step .take).1 = d', (d.step .take).2 = fired at moves
  cases moves with
  | ends why => cases why <;> rfl
  | follows phase running first apart fills => exact fills.stream.1
  | _ => rfl

theorem Moves.pending_subset (h : Moves d e d' fired) :
    ∀ b ∈ d'.queue.pending, b ∈ d.queue.pending := by
  intro b waits
  cases h with
  | ends why => cases waits
  | wakes phase running first =>
    rw [first]
    exact List.mem_cons_of_mem _ waits
  | continues phase running first aligned used =>
    rw [first]
    exact List.mem_cons_of_mem _ waits
  | follows phase running first apart fills =>
    rw [fills.same.2.2] at waits
    rw [first]
    exact List.mem_cons_of_mem _ waits
  | delivers phase next some fills =>
    rw [fills.same.2.2] at waits
    exact waits
  | _ => exact waits

end Downloader

namespace History

open Downloader (Happening)

theorem bounded_run (xs : List Happening) (identity : FileIdentity) (options : DownloadOptions) :
    ((start identity options).run xs).downloader.Bounded := by
  have both : ((start identity options).run xs).downloader.Sound ∧
      ((start identity options).run xs).downloader.Bounded := by
    refine downloader_induction (P := fun d => d.Sound ∧ d.Bounded) ?_ ?_ ?_ xs _ ?_
    · exact fun d c d' fired takes inv => ⟨takes.sound inv.1, takes.bounded inv.1 inv.2⟩
    · exact fun d inv => ⟨inv.1.stop, inv.2⟩
    · exact fun d e inv => ⟨(d.step_moves e).sound inv.1, (d.step_moves e).bounded inv.2⟩
    · refine ⟨Downloader.sound_start identity options, ?_⟩
      intro c none
      cases none
  exact both.2

theorem pending_isFor_run (xs : List Happening) (identity : FileIdentity)
    (options : DownloadOptions) :
    ∀ b ∈ ((start identity options).run xs).downloader.queue.pending,
      b.IsFor ((start identity options).run xs).asked identity.size := by
  have anything : Along (fun _ _ => True) (start identity options) xs :=
    along_of_forall xs _ fun _ _ _ => trivial
  refine (run_induction (P := fun h => h.downloader.Sound ∧ h.downloader.identity = identity ∧
    ∀ b ∈ h.downloader.queue.pending, b.IsFor h.asked identity.size) ?_ xs _ ?_ anything).2.2
  · rintro h x ⟨sound, same, queued⟩ -
    have sound' : (h.step x).downloader.Sound := sound_run [x] h sound
    have same' : (h.step x).downloader.identity = identity := (identity_step h x).trans same
    refine ⟨sound', same', ?_⟩
    cases x with
    | stop => exact queued
    | move e =>
      intro b waits
      exact queued b ((h.downloader.step_moves e).pending_subset b waits)
    | ask start limit =>
      have asks := h.ask_asks start limit
      change ∀ b ∈ (h.ask start limit).downloader.queue.pending,
        b.IsFor (h.ask start limit).asked identity.size
      generalize h.ask start limit = h' at asks
      have old (b : Chunk) (waits : b ∈ h.downloader.queue.pending) :
          b.IsFor (h.asked ++ [(start, limit)]) identity.size := (queued b waits).append _
      cases asks with
      | backwards fresh => exact old
      | handsBack fresh refuses => exact old
      | accepts fresh takes =>
        cases takes with
        | completes past => exact old
        | queues within closed =>
          intro b waits
          rw [same] at within
          rcases List.mem_cons.mp ((ChunkQueue.insert_perm _ _).mem_iff.mp waits) with rfl | earlier
          · rw [sound.fileSize, same]
            exact Chunk.IsFor.of_request fresh within
          · exact old b earlier
  · refine ⟨Downloader.sound_start identity options, rfl, ?_⟩
    intro b none
    cases none

/-- Of what was asked for by now, nothing comes into the queue any more. -/
theorem pending_run {n : Nat} (xs : List Happening) (h : History) (asked : n < h.asked.length) :
    n < (h.run xs).asked.length ∧
      Chunk.times n (h.run xs).downloader.queue.pending ≤
        Chunk.times n h.downloader.queue.pending := by
  induction xs generalizing h with
  | nil => exact ⟨asked, Nat.le_refl _⟩
  | cons x rest ih =>
    cases x with
    | stop => exact ih _ asked
    | move e =>
      obtain ⟨known, fewer⟩ := ih (h.move e) asked
      have pending := (h.downloader.step_moves e).pending n
      exact ⟨known, Nat.le_trans fewer (Nat.le_trans (Nat.le_add_left _ _) pending)⟩
    | ask start limit =>
      have asks := h.ask_asks start limit
      have later : n < (h.ask start limit).asked.length := by
        rw [asks.asked, List.length_append]
        omega
      obtain ⟨known, fewer⟩ := ih (h.ask start limit) later
      have pending := asks.pending n
      rw [beq_false_of_ne (Nat.ne_of_gt asked), Bool.toNat_false] at pending
      exact ⟨known, Nat.le_trans fewer pending⟩

end History

end RangeFetch
