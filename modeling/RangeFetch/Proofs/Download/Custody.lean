import RangeFetch.Proofs.Download.Moves

namespace RangeFetch

/-- Nothing is downloaded any more. -/
def Phase.isOver : Phase → Bool
  | .failing _ _ _ => true
  | .stopped => true
  | _ => false

theorem Phase.cases_of_isOver {p : Phase} (ended : p.isOver = true) :
    (∃ shown error rest, p = .failing shown error rest) ∨ p = .stopped := by
  cases p with
  | failing shown error rest => exact .inl ⟨shown, error, rest, rfl⟩
  | stopped => exact .inr rfl
  | _ => cases ended

namespace Downloader

/-- What holds of every downloader that has come about. -/
structure Sound (d : Downloader) : Prop where
  fileSize : d.queue.fileSize = d.identity.size
  closed_of_over : d.phase.isOver = true → d.queue.closed = true
  empty_of_closed : d.queue.closed = true → d.queue.pending = []
  reason : ∀ shown error rest, d.phase = .failing shown error rest → error ≠ .abandoned
  /-- The stream goes on where the leftover ends, and is not kept at the end of the file. -/
  between : ∀ leftover stream, d.phase = .between leftover stream →
    leftover.limit = stream.offset ∧ (leftover.unread = [] → leftover.start < d.identity.size)

variable {d d' d₀ : Downloader} {e : Event} {c : Chunk} {error : ChunkError}
  {fired : List Firing}

theorem sound_start (identity : FileIdentity) (options : DownloadOptions) :
    (start identity options).Sound := by
  refine ⟨rfl, ?_, ?_, ?_, ?_⟩ <;> simp [start, Phase.isOver, ChunkQueue.empty]

theorem Sound.stop (h : d.Sound) : d.stop.Sound :=
  ⟨h.fileSize, h.closed_of_over, h.empty_of_closed, h.reason, h.between⟩

theorem Sound.finish (h : d.Sound) (other : error ≠ .abandoned) : (d.finish error).Sound := by
  refine ⟨h.fileSize, fun _ => rfl, fun _ => rfl, ?_, ?_⟩
  · intro shown error' rest same
    cases same
    exact other
  · intro leftover stream same
    cases same

theorem Sound.continue (h : d.Sound) (identity : d'.identity = d.identity)
    (fileSize : d'.queue.fileSize = d.queue.fileSize) (closed : d'.queue.closed = d.queue.closed)
    (pending : d.queue.pending = [] → d'.queue.pending = []) (busy : d'.phase.isOver = false)
    (between : ∀ leftover stream, d'.phase = .between leftover stream →
      leftover.limit = stream.offset ∧ (leftover.unread = [] → leftover.start < d.identity.size)) :
    d'.Sound := by
  refine ⟨?_, ?_, ?_, ?_, ?_⟩
  · rw [fileSize, identity, h.fileSize]
  · intro ended
    rw [busy] at ended
    cases ended
  · intro shut
    exact pending (h.empty_of_closed (by rw [← closed, shut]))
  · intro shown error rest same
    rw [same] at busy
    cases busy
  · rw [identity]
    exact between

theorem Fills.isOver {delivery : Delivery} {stream : Stream}
    (h : Fills d c delivery stream d' fired) : d'.phase.isOver = false := by
  cases h <;> rfl

theorem Moves.ends_of_over (h : Moves d e d' fired) (busy : d.phase.isOver = false)
    (ended : d'.phase.isOver = true) : ∃ d₀ error, Ends d e d₀ error ∧ d' = d₀.finish error := by
  cases h with
  | ends why => exact ⟨_, _, why, rfl⟩
  | stays idle unanswered => simp [busy] at ended
  | follows phase running first apart fills => simp [fills.isOver] at ended
  | delivers phase next some fills => simp [fills.isOver] at ended
  | fails phase => simp [phase, Phase.isOver] at busy
  | stops phase => simp [phase, Phase.isOver] at busy
  | _ => simp [request, Phase.isOver] at ended

theorem Ends.reason (h : Ends d e d₀ error) : error ≠ .abandoned := by
  cases h <;> simp

theorem Ends.sound (h : Ends d e d₀ error) (inv : d.Sound) : d₀.Sound := by
  obtain ⟨identity, -, queue, phase⟩ := h.same
  obtain ⟨fileSize, closed_of_over, empty_of_closed, reason, between⟩ := inv
  rw [← queue, ← identity] at fileSize
  rw [← queue, ← phase] at closed_of_over
  rw [← queue] at empty_of_closed
  rw [← phase] at reason
  rw [← phase, ← identity] at between
  exact ⟨fileSize, closed_of_over, empty_of_closed, reason, between⟩

theorem Fills.sound {delivery : Delivery} {stream : Stream}
    (h : Fills d c delivery stream d' fired) (inv : d.Sound)
    (reaches : delivery.limit = stream.offset) : d'.Sound := by
  have cursor := c.cursor_le_limit
  cases h with
  | seeks elsewhere => exact inv.continue rfl rfl rfl id rfl (by simp [seek, request])
  | unfilled aligned short => exact inv.continue rfl rfl rfl id rfl (by simp)
  | filled aligned enough counted atEnd => exact inv.continue rfl rfl rfl id rfl (by simp)
  | leaves aligned enough counted more =>
    refine inv.continue rfl rfl rfl id rfl ?_
    intro leftover stream' same
    cases same
    -- with nothing left over, the stream would have been given up at the end of the file
    refine ⟨(delivery.limit_advance enough).trans reaches, fun used => ?_⟩
    have length := congrArg List.length used
    simp only [Delivery.advance, List.length_drop, List.length_nil] at length
    rw [Delivery.start_advance, ← aligned, Chunk.remaining]
    rw [Chunk.remaining] at more length
    omega

theorem Sound.shift {rest : List Chunk} (h : d.Sound) (first : d.queue.pending = c :: rest) :
    (d.shift rest).Sound := by
  refine ⟨h.fileSize, h.closed_of_over, ?_, h.reason, h.between⟩
  intro shut
  have empty := h.empty_of_closed shut
  rw [first] at empty
  cases empty

theorem Moves.sound (h : Moves d e d' fired) (inv : d.Sound) : d'.Sound := by
  cases h with
  | stays none => exact inv
  | ends why =>
    -- what waited is handed over to the failing phase, so the closed queue is empty
    exact (why.sound inv).finish why.reason
  | wakes at_ running first =>
    exact (inv.shift first).continue rfl rfl rfl id rfl (by simp [request])
  | continues at_ running first aligned used =>
    exact (inv.shift first).continue rfl rfl rfl id rfl (by simp)
  | follows at_ running first apart fills =>
    exact fills.sound (inv.shift first) (inv.between _ _ at_).1
  | connects at_ aligned => exact inv.continue rfl rfl rfl id rfl (by simp)
  | misconnects at_ elsewhere seldom => exact inv.continue rfl rfl rfl id rfl (by simp)
  | skips at_ next => exact inv.continue rfl rfl rfl id rfl (by simp)
  | delivers at_ next some fills => exact fills.sound inv (Stream.of_next_bytes next).2.1.symm
  | fails at_ =>
    refine ⟨inv.fileSize, fun _ => inv.closed_of_over (by rw [at_]; rfl), inv.empty_of_closed, ?_,
      by simp⟩
    intro shown error rest same
    cases same
    exact inv.reason _ _ _ at_
  | stops at_ =>
    exact ⟨inv.fileSize, fun _ => inv.closed_of_over (by rw [at_]; rfl), inv.empty_of_closed,
      by simp, by simp⟩

theorem Enqueues.sound (h : Enqueues d c (.ok (d', fired))) (inv : d.Sound) : d'.Sound := by
  cases h with
  | completes past =>
    exact ⟨inv.fileSize, inv.closed_of_over, inv.empty_of_closed, inv.reason, inv.between⟩
  | queues within closed =>
    refine ⟨inv.fileSize, inv.closed_of_over, ?_, inv.reason, inv.between⟩
    intro shut
    have shut' : d.queue.closed = true := shut
    simp [ChunkQueue.isClosed, shut'] at closed

theorem Sound.outstanding_of_stopped (h : d.Sound) (stopped : d.phase = .stopped) :
    d.outstanding = [] := by
  rw [outstanding, h.empty_of_closed (h.closed_of_over (by rw [stopped]; rfl)), stopped]
  rfl

theorem Moves.stopped (h : Moves d e d' fired) (stopped : d.phase = .stopped) :
    d'.phase = .stopped := by
  cases h with
  | stays _ => exact stopped
  | ends why =>
    -- each reason to end has a phase of its own, and that is another one
    cases why <;> simp_all
  | _ => simp_all

theorem Moves.told (h : Moves d e d' fired) (inv : d.Sound) :
    ∀ x ∈ fired, x.result ≠ .failed .abandoned := by
  have completes : ∀ c : Chunk, c.complete.result ≠ .failed .abandoned := by simp [Chunk.complete]
  have fills {b : Downloader} {c : Chunk} {delivery : Delivery} {stream : Stream}
      (h : Fills b c delivery stream d' fired) : ∀ x ∈ fired, x.result ≠ .failed .abandoned := by
    cases h <;> simp [completes]
  cases h with
  | follows _ _ _ _ h => exact fills h
  | delivers _ _ _ h => exact fills h
  | fails at_ => simpa [Chunk.fail] using inv.reason _ _ _ at_
  | _ => simp

theorem Enqueues.told (h : Enqueues d c (.ok (d', fired))) :
    ∀ x ∈ fired, x.result ≠ .failed .abandoned := by
  cases h <;> simp [Chunk.complete]

theorem Fills.custody {delivery : Delivery} {stream : Stream}
    (h : Fills d c delivery stream d' fired) (n : Nat) :
    Chunk.times n d'.outstanding + Firing.times n fired =
      Chunk.times n d.queue.pending + Chunk.times n [c] := by
  cases h <;> simp [outstanding, seek, request, Phase.chunks]

theorem Moves.custody (h : Moves d e d' fired) (n : Nat) :
    Chunk.times n d'.outstanding + Firing.times n fired = Chunk.times n d.outstanding := by
  cases h with
  | stays none => rfl
  | ends why =>
    rw [outstanding_finish, why.outstanding]
    rfl
  | wakes at_ running first =>
    simp only [outstanding, shift, request, at_, first, Phase.chunks, Chunk.times_append,
      Chunk.times_cons, Chunk.times_nil, Firing.times_nil]
    omega
  | continues at_ running first aligned used =>
    simp only [outstanding, shift, at_, first, Phase.chunks, Chunk.times_append,
      Chunk.times_cons, Chunk.times_nil, Firing.times_nil]
    omega
  | follows at_ running first apart fills =>
    rw [fills.custody]
    simp only [outstanding, shift, at_, first, Phase.chunks, Chunk.times_append,
      Chunk.times_cons, Chunk.times_nil]
    omega
  | delivers at_ next some fills =>
    rw [fills.custody]
    simp [outstanding, at_, Phase.chunks]
  | fails at_ =>
    simp only [outstanding, at_, Phase.chunks, Chunk.times_append, Chunk.times_cons,
      Firing.times_cons, Firing.times_nil, Chunk.signal_fail]
    omega
  | connects at_ _ => simp [outstanding, at_, Phase.chunks]
  | misconnects at_ _ _ => simp [outstanding, at_, Phase.chunks]
  | skips at_ _ => simp [outstanding, at_, Phase.chunks]
  | stops at_ => simp [outstanding, at_, Phase.chunks]

theorem times_insert (n : Nat) (c : Chunk) (l : List Chunk) :
    Chunk.times n (ChunkQueue.insert c l) = Chunk.times n (c :: l) :=
  (ChunkQueue.insert_perm c l).countP_eq _

theorem Enqueues.custody (h : Enqueues d c (.ok (d', fired))) (n : Nat) :
    Chunk.times n d'.outstanding + Firing.times n fired =
      Chunk.times n d.outstanding + Chunk.times n [c] := by
  cases h with
  | completes past => simp [outstanding]
  | queues within closed =>
    simp only [outstanding, Chunk.times_append, times_insert, Chunk.times_cons, Chunk.times_nil,
      Chunk.signal_clampTo, Firing.times_nil]
    omega

theorem Moves.outstanding_nil (h : Moves d e d' fired) (none : d.outstanding = []) :
    d'.outstanding = [] := by
  cases found : d'.outstanding with
  | nil => rfl
  | cons c rest =>
    have custody := h.custody c.signal
    rw [none, found, Chunk.times_cons, Chunk.times_nil, beq_self_eq_true, Bool.toNat_true]
      at custody
    omega

end Downloader

end RangeFetch
