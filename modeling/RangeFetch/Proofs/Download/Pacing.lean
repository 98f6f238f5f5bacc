import RangeFetch.Proofs.Download.Connections
import RangeFetch.Proofs.Download.Custody

namespace RangeFetch

namespace Downloader

/-- How the count of restarts goes with what a downloader is at. The chunk stands where the stream
does, or the stream has opened elsewhere and none of it has been used. -/
structure Paced (d : Downloader) : Prop where
  free : d.phase = .idle ∨ (∃ leftover stream, d.phase = .between leftover stream) →
    d.rangeRestarts = 0
  requesting : ∀ c, d.phase = .requesting c → d.rangeRestarts ≤ d.options.maxRangeRestarts
  streaming : ∀ c stream, d.phase = .streaming c stream →
    c.cursor = stream.offset ∧ d.rangeRestarts = 0 ∨
      c.cursor ≠ stream.offset ∧ 0 < d.rangeRestarts ∧
        d.rangeRestarts ≤ d.options.maxRangeRestarts
  most : d.rangeRestarts ≤ d.options.maxRangeRestarts + 1

variable {d d' d₀ : Downloader} {e : Event} {c : Chunk} {error : ChunkError}
  {fired : List Firing}

theorem paced_start (identity : FileIdentity) (options : DownloadOptions) :
    (start identity options).Paced := by
  refine ⟨fun _ => rfl, ?_, ?_, Nat.zero_le _⟩ <;> simp [start]

theorem Paced.keep (h : d.Paced) (options : d'.options = d.options) (phase : d'.phase = d.phase)
    (restarts : d'.rangeRestarts = d.rangeRestarts) : d'.Paced := by
  obtain ⟨free, requesting, streaming, most⟩ := h
  refine ⟨?_, ?_, ?_, ?_⟩
  · rw [phase, restarts]
    exact free
  · rw [phase, restarts, options]
    exact requesting
  · rw [phase, restarts, options]
    exact streaming
  · rw [restarts, options]
    exact most

theorem paced_of_over (ended : d.phase.isOver = true)
    (most : d.rangeRestarts ≤ d.options.maxRangeRestarts + 1) : d.Paced := by
  refine ⟨?_, ?_, ?_, most⟩
  · rintro (phase | ⟨leftover, stream, phase⟩) <;> simp [phase, Phase.isOver] at ended
  · intro c phase
    simp [phase, Phase.isOver] at ended
  · intro c stream phase
    simp [phase, Phase.isOver] at ended

theorem Fills.paced {delivery : Delivery} {stream : Stream}
    (h : Fills d c delivery stream d' fired) (reaches : delivery.limit = stream.offset)
    (few : d.rangeRestarts ≤ d.options.maxRangeRestarts)
    (fits : c.cursor = delivery.start → d.rangeRestarts = 0) : d'.Paced := by
  cases h with
  | seeks elsewhere =>
    refine ⟨?_, fun _ _ => few, ?_, Nat.le_succ_of_le few⟩ <;> simp [seek, request]
  | unfilled aligned short =>
    refine ⟨by simp, by simp, ?_, Nat.le_succ_of_le few⟩
    intro c' stream' phase
    cases phase
    left
    refine ⟨?_, fits aligned⟩
    rw [Chunk.cursor_write, Chunk.accepts, Nat.min_eq_left (Nat.le_of_lt short), aligned]
    exact reaches
  | filled aligned enough counted atEnd =>
    refine ⟨fun _ => fits aligned, ?_, ?_, Nat.le_succ_of_le few⟩ <;> simp
  | leaves aligned enough counted more =>
    refine ⟨fun _ => fits aligned, ?_, ?_, Nat.le_succ_of_le few⟩ <;> simp

theorem Ends.paced (h : Ends d e d₀ error) (inv : d.Paced) : (d₀.finish error).Paced := by
  refine paced_of_over rfl ?_
  cases h with
  | notHonored phase elsewhere often => exact Nat.succ_le_succ (inv.requesting _ phase)
  | _ => exact inv.most

theorem Moves.paced (h : Moves d e d' fired) (sound : d.Sound) (inv : d.Paced) : d'.Paced := by
  cases h with
  | stays idle unanswered => exact inv
  | ends why => exact why.paced inv
  | wakes phase running first =>
    have none := inv.free (.inl phase)
    refine ⟨?_, ?_, ?_, ?_⟩ <;> simp [request, shift, none]
  | continues phase running first aligned used =>
    have none := inv.free (.inr ⟨_, _, phase⟩)
    refine ⟨by simp, by simp, ?_, by simp [shift, none]⟩
    intro c' stream' same
    cases same
    left
    refine ⟨?_, none⟩
    -- with nothing left over, the stream stands where the last chunk ended
    have reaches := (sound.between _ _ phase).1
    rw [Delivery.limit, used] at reaches
    exact aligned.trans reaches
  | follows phase running first apart fills =>
    have none := inv.free (.inr ⟨_, _, phase⟩)
    exact fills.paced (sound.between _ _ phase).1 (by simp [shift, none]) fun _ => none
  | connects phase aligned =>
    refine ⟨fun _ => rfl, by simp, ?_, Nat.zero_le _⟩
    intro c' stream' same
    cases same
    exact .inl ⟨aligned.symm, rfl⟩
  | misconnects phase elsewhere seldom =>
    refine ⟨by simp, by simp, ?_, Nat.le_succ_of_le seldom⟩
    intro c' stream' same
    cases same
    exact .inr ⟨fun same => elsewhere same.symm, Nat.succ_pos _, seldom⟩
  | skips phase next =>
    have offset := (Stream.of_next_bytes next).2.1
    refine ⟨by simp, by simp, ?_, inv.most⟩
    intro c' stream' same
    cases same
    rw [offset]
    exact inv.streaming _ _ phase
  | delivers phase next some fills =>
    have reaches := (Stream.of_next_bytes next).2.1.symm
    rcases inv.streaming _ _ phase with ⟨-, none⟩ | ⟨elsewhere, -, few⟩
    · exact fills.paced reaches (by rw [none]; exact Nat.zero_le _) fun _ => none
    · exact fills.paced reaches few fun fits => absurd fits elsewhere
  | fails phase => exact paced_of_over rfl inv.most
  | stops phase => exact paced_of_over rfl inv.most

theorem Fills.of_elsewhere {delivery : Delivery} {stream : Stream}
    (h : Fills d c delivery stream d' fired) (elsewhere : c.cursor ≠ delivery.start) :
    d' = d.seek c ∧ fired = [] := by
  cases h with
  | seeks _ => exact ⟨rfl, rfl⟩
  | unfilled aligned _ => exact absurd aligned elsewhere
  | filled aligned _ _ _ => exact absurd aligned elsewhere
  | leaves aligned _ _ _ => exact absurd aligned elsewhere

theorem Moves.unfilled (h : Moves d e d' fired) (inv : d.Paced) (astray : 0 < d.rangeRestarts) :
    (∀ c ∈ d'.outstanding, c ∈ d.outstanding) ∧
      (∀ x ∈ fired, ∃ error, x.result = .failed error) ∧
      d'.stats.bytesDelivered = d.stats.bytesDelivered ∧
      d'.stats.chunksCompleted = d.stats.chunksCompleted := by
  cases h with
  | stays idle unanswered => exact ⟨fun _ => id, by simp, rfl, rfl⟩
  | ends why =>
    rw [outstanding_finish, why.outstanding]
    refine ⟨fun _ => id, by simp, ?_⟩
    cases why <;> exact ⟨rfl, rfl⟩
  -- a chunk is taken only after a stream that opened where it was asked to, or before the first
  | wakes phase running first =>
    rw [inv.free (.inl phase)] at astray
    cases astray
  | continues phase running first aligned used =>
    rw [inv.free (.inr ⟨_, _, phase⟩)] at astray
    cases astray
  | follows phase running first apart fills =>
    rw [inv.free (.inr ⟨_, _, phase⟩)] at astray
    cases astray
  | delivers phase next some fills =>
    rcases inv.streaming _ _ phase with ⟨-, none⟩ | ⟨elsewhere, -, -⟩
    · rw [none] at astray
      cases astray
    · obtain ⟨rfl, rfl⟩ := fills.of_elsewhere elsewhere
      refine ⟨?_, by simp, rfl, rfl⟩
      simp [mem_outstanding, seek, request, phase, Phase.chunks]
  | fails phase =>
    refine ⟨?_, by simp [Chunk.fail], rfl, rfl⟩
    simp only [mem_outstanding, phase, Phase.chunks, List.mem_cons]
    intro c
    rintro (waits | rest)
    · exact .inl waits
    · exact .inr (.inr rest)
  | connects phase aligned => simp [mem_outstanding, phase, Phase.chunks]
  | misconnects phase elsewhere seldom => simp [mem_outstanding, phase, Phase.chunks]
  | skips phase next => simp [mem_outstanding, phase, Phase.chunks]
  | stops phase => simp [mem_outstanding, phase, Phase.chunks]

variable {connections : List Connection}

theorem ends_of_reported {error : SourceError} (h : d.reported? e = some error) :
    Ends d e d (.source error) := by
  unfold reported? at h
  split at h
  · obtain ⟨start, wanted, rfl⟩ := Option.map_eq_some_iff.mp h
    obtain ⟨c, phase, -⟩ := requesting_of_wanted? wanted
    exact .notOpened phase
  · split at h
    · rename_i phase
      split at h
      · rename_i next
        cases h
        exact .broken phase next
      · cases h
    · cases h
  · cases h

theorem notHonored_iff (inv : d.Paced) (attached : d.Attached connections)
    (busy : d.phase.isOver = false) (e : Event) (start attempts : Nat) :
    (∃ shown rest, (d.step e).1.phase =
        .failing shown (.source (.rangeNotHonored start attempts)) rest) ↔
      d.reported? e = some (.rangeNotHonored start attempts) ∨
      ∃ last, d.connection? e = some last ∧ last.requested = start ∧
        Connection.astrayInARow (connections ++ [last]) = d.options.maxRangeRestarts + 1 ∧
        attempts = d.options.maxRangeRestarts + 1 := by
  constructor
  · rintro ⟨shown, rest, failing⟩
    obtain ⟨d₀, error, why, same⟩ :=
      (d.step_moves e).ends_of_over busy (by rw [failing]; rfl)
    rw [same] at failing
    obtain ⟨-, blame, -⟩ := Phase.failing.inj failing
    cases why with
    | notOpened phase =>
      left
      cases blame
      rw [reported?, wanted?_of_requesting phase]
      rfl
    | broken phase next =>
      left
      cases blame
      simp [reported?, phase, next]
    | @notHonored c stream phase elsewhere often =>
      right
      cases blame
      -- the count was within the limit before, so it goes past it by one
      have few := inv.requesting c phase
      have all : d.rangeRestarts = d.options.maxRangeRestarts := by omega
      refine ⟨_, connection?_opened phase, rfl, ?_, by rw [all]⟩
      rw [Connection.astrayInARow_concat, ← attached.restarts, all]
      simp [Connection.isAstray, elsewhere]
    | _ => cases blame
  · rintro (reported | ⟨last, answered, rfl, long, rfl⟩)
    · exact ⟨_, _, by rw [(ends_of_reported reported).step]; rfl⟩
    · obtain ⟨c, phase, rfl, requested⟩ := of_connection? answered
      rw [Connection.astrayInARow_concat, ← attached.restarts] at long
      split at long
      · rename_i astray
        have elsewhere : last.stream.offset ≠ c.cursor := by
          simpa [Connection.isAstray, requested] using astray
        have why := Ends.notHonored phase elsewhere (by omega)
        exact ⟨_, _, by rw [why.step, requested, ← long]; rfl⟩
      · cases long

end Downloader

end RangeFetch
