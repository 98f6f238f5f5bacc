import RangeFetch.Download.Downloader

namespace RangeFetch

namespace Downloader

/-- The chunk stands where the stream does. -/
def isAligned (c : Chunk) (stream : Stream) : Bool := c.cursor == stream.offset

/-- How far a phase is from firing or waiting: first by what it is at. -/
def stage : Phase → Nat
  | .idle => 4
  | .between _ _ => 4
  | .requesting _ => 3
  | .streaming c stream => if isAligned c stream then 2 else 3
  | .failing _ _ _ => 1
  | .stopped => 0

def restartsLeft (d : Downloader) : Nat :=
  if stage d.phase = 3 then d.options.maxRangeRestarts + 1 - d.rangeRestarts else 0

def itemsLeft : Phase → Nat
  | .streaming _ stream => stream.items.length + 1
  | _ => 0

/-- One downloader is nearer to firing or waiting than another. -/
abbrev Nearer (a b : Downloader) : Prop :=
  Prod.Lex (· < ·) (Prod.Lex (· < ·) (· < ·))
    (stage a.phase, a.restartsLeft, itemsLeft a.phase)
    (stage b.phase, b.restartsLeft, itemsLeft b.phase)

theorem wellFounded_nearer : WellFounded Nearer :=
  InvImage.wf (fun d : Downloader => (stage d.phase, d.restartsLeft, itemsLeft d.phase))
    (Prod.lex Nat.lt_wfRel (Prod.lex Nat.lt_wfRel Nat.lt_wfRel)).wf

theorem Nearer.congr {a b b' : Downloader} (h : Nearer a b') (phase : b'.phase = b.phase)
    (options : b'.options = b.options) (restarts : b'.rangeRestarts = b.rangeRestarts) :
    Nearer a b := by
  unfold Nearer restartsLeft at *
  rw [phase, options, restarts] at h
  exact h

theorem nearer_of_stage {a b : Downloader} (h : stage a.phase < stage b.phase) : Nearer a b :=
  .left _ _ h

theorem nearer_of_restarts {a b : Downloader} (h : stage a.phase = stage b.phase)
    (hr : a.restartsLeft < b.restartsLeft) : Nearer a b := by
  unfold Nearer
  rw [h]
  exact .right _ (.left _ _ hr)

theorem nearer_of_items {a b : Downloader} (h : stage a.phase = stage b.phase)
    (hr : a.restartsLeft = b.restartsLeft) (hi : itemsLeft a.phase < itemsLeft b.phase) :
    Nearer a b := by
  unfold Nearer
  rw [h, hr]
  exact .right _ (.right _ hi)

theorem two_le_stage_streaming (c : Chunk) (stream : Stream) :
    2 ≤ stage (.streaming c stream) := by
  simp only [stage]
  split <;> omega

theorem stage_streaming_le (c : Chunk) (stream : Stream) : stage (.streaming c stream) ≤ 3 := by
  simp only [stage]
  split <;> omega

theorem stage_finish (d : Downloader) (e : ChunkError) : stage (d.finish e).phase = 1 := rfl

theorem finish_nearer (d : Downloader) (e : ChunkError) (b : Downloader)
    (h : 1 < stage b.phase) : Nearer (d.finish e) b :=
  nearer_of_stage (by rw [stage_finish]; exact h)

theorem stage_fill (d : Downloader) (c : Chunk) (delivery : Delivery) (stream : Stream)
    (quiet : (d.fill c delivery stream).2 = []) :
    stage (d.fill c delivery stream).1.phase ≤ 3 := by
  revert quiet
  unfold fill
  split
  · intro _; simp [seek, request, stage]
  · intro _; exact stage_streaming_le _ _
  · intro quiet; simp at quiet

theorem stage_take (d : Downloader) (h : stage d.phase = 4) (quiet : d.take.2 = []) :
    stage d.take.1.phase ≤ 3 := by
  unfold take at *
  cases hp : d.phase with
  | idle =>
    simp only [wake]
    split <;> simp [request, finish, stage]
  | between leftover stream =>
    simp only [hp, proceed] at quiet ⊢
    split at quiet
    · unfold follow at *
      split
      · simp [seek, request, stage]
      · split
        · exact stage_streaming_le _ _
        · simp_all [stage_fill]
    · simp [finish, stage]
    · simp [finish, stage]
  | requesting c => simp [hp, stage] at h
  | streaming c stream =>
    have := stage_streaming_le c stream
    rw [hp] at h
    omega
  | failing shown e rest => simp [hp, stage] at h
  | stopped => simp [hp, stage] at h

/-- What stream a request is answered with, the restarts run down until one fits. -/
theorem connect_nearer (d : Downloader) (c : Chunk) (stream : Stream)
    (hp : d.phase = .requesting c) : Nearer (d.connect c stream) d := by
  unfold connect
  split
  · rename_i aligned
    apply nearer_of_stage
    simp [stage, hp, isAligned, aligned]
  · rename_i misaligned
    simp only
    split
    · exact finish_nearer _ _ d (by simp [hp, stage])
    · rename_i left
      have hm : (c.cursor == stream.offset) = false := by
        simpa using fun h => misaligned h.symm
      apply nearer_of_restarts
      · simp [stage, hp, isAligned, hm]
      · simp [restartsLeft, stage, hp, isAligned, hm]
        omega

theorem opened_nearer (d : Downloader) (c : Chunk) (answer : Except SourceError Stream)
    (hp : d.phase = .requesting c) : Nearer (d.opened answer) d := by
  cases answer with
  | error e =>
    simp only [opened, hp]
    exact finish_nearer d _ d (by simp [hp, stage])
  | ok stream =>
    simp only [opened, hp]
    exact connect_nearer d c stream hp

theorem deliver_nearer (d : Downloader) (c : Chunk) (stream : Stream)
    (hp : d.phase = .streaming c stream) (more : stream.next ≠ .waiting)
    (quiet : d.deliver.2 = []) : Nearer d.deliver.1 d := by
  have fails : ∀ e : SourceError, Nearer (d.failAll e) d := by
    intro e
    have := two_le_stage_streaming c stream
    exact finish_nearer d _ d (by rw [hp]; omega)
  obtain ⟨offset, items, ending⟩ := stream
  have used : ∀ (c' : Chunk) (rest : Stream) (a : Downloader), a.phase = .streaming c' rest →
      a.options = d.options → a.rangeRestarts = d.rangeRestarts →
      isAligned c' rest = isAligned c ⟨offset, items, ending⟩ →
      rest.items.length < items.length → Nearer a d := by
    intro c' rest a ha ho hr hal hl
    have hs : stage a.phase = stage d.phase := by simp [ha, hp, stage, hal]
    apply nearer_of_items hs
    · simp [restartsLeft, hs, ho, hr]
    · simp [ha, hp, itemsLeft, hl]
  unfold deliver at *
  simp only [hp] at quiet ⊢
  cases items with
  | nil =>
    cases ending with
    | eof => exact fails _
    | silent => simp [Stream.next] at more
  | cons item rest =>
    cases item with
    | failed e => exact fails e
    | bytes delivered =>
      cases delivered with
      | nil =>
        simp only [Stream.next]
        exact used c _ _ rfl rfl rfl (by simp [isAligned]) (by simp)
      | cons b bs =>
        simp only [Stream.next] at quiet ⊢
        unfold fill at *
        simp only [Chunk.absorb] at quiet ⊢
        by_cases hal : c.cursor = offset
        · simp only [hal, ne_eq, not_true_eq_false, ↓reduceIte] at quiet ⊢
          cases hf : (c.write (b :: bs)).isFull with
          | true => simp [hf] at quiet
          | false =>
            simp only [Bool.false_eq_true, ↓reduceIte]
            refine used (c.write (b :: bs)) _ _ rfl rfl rfl ?_ (by simp)
            have hw := (c.write (b :: bs)).cursor_le_limit
            simp only [Chunk.isFull, beq_eq_false_iff_ne, ne_eq] at hf
            have hc := c.offset_add_length_le_limit
            simp only [Chunk.cursor, Chunk.write, Chunk.accepts, Chunk.remaining,
              List.length_append, List.length_take] at hf hw hal
            simp only [isAligned, Chunk.cursor, Chunk.write, Chunk.accepts, Chunk.remaining,
              List.length_append, List.length_take, hal]
            simp only [beq_iff_eq, beq_self_eq_true]
            omega
        · simp only [hal, ne_eq, not_false_eq_true, ↓reduceIte]
          have hm : isAligned c ⟨offset, .bytes (b :: bs) :: rest, ending⟩ = false := by
            simpa [isAligned] using hal
          have hs : stage (d.seek c).phase = stage d.phase := by
            simp [seek, request, stage, hp, hm]
          apply nearer_of_items hs
          · simp [restartsLeft, hs]
            simp [seek, request]
          · simp [seek, request, itemsLeft, hp]

theorem notice_nearer (d : Downloader) (hs : d.queue.stopped = true)
    (hp : 1 < stage d.phase) (hn : stage d.phase ≠ 4) : Nearer d.notice d := by
  unfold notice
  rw [if_pos hs]
  cases hq : d.phase with
  | requesting c => exact finish_nearer d _ d hp
  | streaming c stream => exact finish_nearer d _ d hp
  | idle => simp [hq, stage] at hn
  | between leftover stream => simp [hq, stage] at hn
  | failing shown e rest => simp [hq, stage] at hp
  | stopped => simp [hq, stage] at hp

theorem failNext_nearer (d : Downloader) (shown : DownloadState) (e : ChunkError)
    (rest : List Chunk) (hp : d.phase = .failing shown e rest) (quiet : d.failNext.2 = []) :
    Nearer d.failNext.1 d := by
  cases rest with
  | cons c rest => simp [failNext, hp] at quiet
  | nil =>
    apply nearer_of_stage
    simp [failNext, hp, stage]

theorem eq_take_of_awaitChunk {d : Downloader} {millis : Nat} {e : Event}
    (h : d.awaitChunk millis = .ready e) : e = .take := by
  unfold awaitChunk at h
  split at h
  · cases h
  · cases h
    rfl

theorem step_nearer (d : Downloader) (e : Event) (h : d.wants = .ready e)
    (quiet : (d.step e).2 = []) : Nearer (d.step e).1 d := by
  unfold wants at h
  have taken : stage d.phase = 4 → e = .take → Nearer (d.step e).1 d := by
    intro hs he
    subst he
    have := stage_take d hs quiet
    apply nearer_of_stage
    rw [hs]
    exact Nat.lt_succ_of_le this
  have noticed : d.queue.stopped = true → 1 < stage d.phase → stage d.phase ≠ 4 →
      Want.ready .notice = Want.ready e → Nearer (d.step e).1 d := by
    intro hs h1 h4 he
    cases he
    exact notice_nearer d hs h1 h4
  cases hp : d.phase with
  | idle =>
    rw [hp] at h
    exact taken (by simp [hp, stage]) (eq_take_of_awaitChunk h)
  | between leftover stream =>
    rw [hp] at h
    exact taken (by simp [hp, stage]) (eq_take_of_awaitChunk h)
  | requesting c =>
    simp only [hp] at h
    split at h
    · rename_i hs
      exact noticed hs (by simp [hp, stage]) (by simp [hp, stage]) h
    · cases h
  | streaming c stream =>
    simp only [hp] at h
    split at h
    · rename_i hs
      have low := two_le_stage_streaming c stream
      have high := stage_streaming_le c stream
      exact noticed hs (by rw [hp]; omega) (by rw [hp]; omega) h
    · split at h
      · cases h
      · rename_i more
        cases h
        exact deliver_nearer d c stream hp more quiet
  | failing shown e' rest =>
    simp only [hp] at h
    cases h
    exact failNext_nearer d shown e' rest hp quiet
  | stopped => simp [hp] at h

theorem requesting_of_wants (d : Downloader) (start : Nat) (h : d.wants = .stream start) :
    ∃ c, d.phase = .requesting c := by
  have waits : ∀ millis, d.awaitChunk millis ≠ .stream start := by
    intro millis
    unfold awaitChunk
    split <;> simp
  unfold wants at h
  cases hp : d.phase with
  | requesting c => exact ⟨c, rfl⟩
  | idle => exact absurd (by simpa [hp] using h) (waits d.options.idleTimeout)
  | between leftover stream => exact absurd (by simpa [hp] using h) (waits d.options.stallTimeout)
  | streaming c stream =>
    simp only [hp] at h
    split at h
    · cases h
    · split at h <;> cases h
  | failing shown e rest => simp [hp] at h
  | stopped => simp [hp] at h

theorem answer_nearer (d : Downloader) (start : Nat) (answer : Except SourceError Stream)
    (h : d.wants = .stream start) : Nearer (d.opened answer) d := by
  obtain ⟨c, hp⟩ := requesting_of_wants d start h
  exact opened_nearer d c answer hp

end Downloader

end RangeFetch
