import RangeFetch.Proofs.Download.Ending

namespace RangeFetch

open Downloader (Happening Event)

namespace Downloader

/-- How many waits for a chunk have expired. -/
def expired (d : Downloader) : Nat := d.stats.idleTimeouts + d.stats.stalls

/-- A chunk is waited for, though not for ever. -/
def Lingers (d : Downloader) : Prop := ∃ millis, d.wants = .expiring millis .take

variable {d d' d₀ : Downloader} {e : Event} {c : Chunk} {error : ChunkError}
  {fired : List Firing}

theorem lingers_iff : d.Lingers ↔ d.queue.stopped = false ∧ d.queue.pending = [] ∧
    (d.phase = .idle ∨ ∃ leftover stream, d.phase = .between leftover stream) := by
  have await (millis : Nat) : (∃ m, d.awaitChunk millis = .expiring m .take) ↔
      d.queue.stopped = false ∧ d.queue.pending = [] := by
    cases stop : d.queue.stopped <;> cases waiting : d.queue.pending <;>
      simp [awaitChunk, stop, waiting]
  unfold Lingers wants
  cases phase : d.phase with
  | idle => simpa using await _
  | between leftover stream => simpa using await _
  | requesting c =>
    dsimp only
    split <;> simp
  | streaming c stream =>
    dsimp only
    split
    · simp
    · cases stream.next <;> simp
  | failing shown error rest => simp
  | stopped => simp

theorem Lingers.ends (h : d.Lingers) : d.outstanding = [] ∧ ∃ d₀, Ends d .take d₀ .cancelled ∧
    d₀.expired = d.expired + 1 ∧ d₀.stats.chunksFailed = d.stats.chunksFailed := by
  obtain ⟨running, none, phase | ⟨leftover, stream, phase⟩⟩ := lingers_iff.mp h
  · refine ⟨by simp [outstanding, none, phase, Phase.chunks], _, .idle phase running none, ?_, rfl⟩
    exact Nat.add_right_comm _ _ _
  · refine ⟨by simp [outstanding, none, phase, Phase.chunks], _, .stall phase running none, ?_, rfl⟩
    rfl

theorem Fills.expired {delivery : Delivery} {stream : Stream}
    (h : Fills d c delivery stream d' fired) : d'.expired = d.expired := by
  cases h with
  | seeks elsewhere => rfl
  | unfilled aligned short => rfl
  | filled aligned enough counted atEnd => rw [Downloader.expired, counted]; rfl
  | leaves aligned enough counted more => rw [Downloader.expired, counted]; rfl

theorem Moves.expired (h : Moves d e d' fired) :
    d'.expired = d.expired ∨ e = .take ∧ d.Lingers := by
  cases h with
  | ends why =>
    cases why with
    | idle phase running none => exact .inr ⟨rfl, lingers_iff.mpr ⟨running, none, .inl phase⟩⟩
    | stall phase running none =>
      exact .inr ⟨rfl, lingers_iff.mpr ⟨running, none, .inr ⟨_, _, phase⟩⟩⟩
    | _ => exact .inl rfl
  | follows phase running first apart fills => exact .inl fills.expired
  | delivers phase next some fills => exact .inl fills.expired
  | _ => exact .inl rfl

theorem expired_step (d : Downloader) (e : Event) :
    d.expired < (d.step e).1.expired ↔ e = .take ∧ d.Lingers := by
  constructor
  · intro rises
    rcases (d.step_moves e).expired with same | expires
    · omega
    · exact expires
  · rintro ⟨rfl, lingers⟩
    obtain ⟨-, d₀, why, rises, -⟩ := lingers.ends
    rw [why.step]
    change d.expired < d₀.expired
    omega

theorem Lingers.refuses (h : d.Lingers) (sound : d.Sound) (within : c.cursor < d.identity.size) :
    (d.step .take).1.enqueue c = .error (c.clampTo d.identity.size) := by
  obtain ⟨-, d₀, why, -, -⟩ := h.ends
  have ended : (d.step .take).1 = d₀.finish .cancelled := congrArg Prod.fst why.step
  obtain ⟨identity, -, queue, -⟩ := why.same
  have past : ¬ d₀.identity.size ≤ c.cursor := by
    rw [identity]
    omega
  simp [ended, enqueue, finish, ChunkQueue.enqueue, ChunkQueue.isClosed, ChunkQueue.close, past,
    queue, sound.fileSize]

/-- What keeps a downloader from cancelling chunks by itself. -/
structure Guarded (d : Downloader) : Prop where
  stopped_of_cancelling : ∀ shown c rest, d.phase = .failing shown .cancelled (c :: rest) →
    d.queue.stopped = true
  over_of_closed : d.queue.closed = true → d.phase.isOver = true

theorem Guarded.continue (h : d.Guarded) (closed : d'.queue.closed = d.queue.closed)
    (waiting : d.phase.isOver = false) (busy : d'.phase.isOver = false) : d'.Guarded := by
  refine ⟨fun shown c rest phase => ?_, fun shut => ?_⟩
  · rw [phase] at busy
    cases busy
  · have ended := h.over_of_closed (closed.symm.trans shut)
    rw [waiting] at ended
    cases ended

/-- Only a stop stops the queue. -/
theorem Moves.queue_stopped (h : Moves d e d' fired) : d'.queue.stopped = d.queue.stopped := by
  cases h with
  | ends why =>
    have same := congrArg ChunkQueue.stopped why.same.2.2.1
    exact same
  | follows phase running first apart fills =>
    have same := congrArg ChunkQueue.stopped fills.same.2.2
    exact same
  | delivers phase next some fills =>
    have same := congrArg ChunkQueue.stopped fills.same.2.2
    exact same
  | _ => rfl

theorem Ends.guarded (h : Ends d e d₀ error) : (d₀.finish error).Guarded := by
  refine ⟨fun shown c rest phase => ?_, fun _ => rfl⟩
  obtain ⟨-, other, left⟩ := Phase.failing.inj phase
  rw [h.outstanding] at left
  have stopped : (d₀.finish error).queue.stopped = d.queue.stopped := (Moves.ends h).queue_stopped
  rw [stopped]
  -- a wait expires only where no chunk is left to be cancelled
  cases h with
  | stopped phase stop => exact stop
  | noticed phase stop => exact stop
  | idle free running none => simp [Downloader.outstanding, none, free, Phase.chunks] at left
  | stall free running none => simp [Downloader.outstanding, none, free, Phase.chunks] at left
  | _ => cases other

theorem Moves.guarded (h : Moves d e d' fired) (inv : d.Guarded) : d'.Guarded := by
  cases h with
  | stays idle unanswered => exact inv
  | ends why => exact why.guarded
  | wakes phase running first => exact inv.continue rfl (by rw [phase]; rfl) rfl
  | continues phase running first aligned used => exact inv.continue rfl (by rw [phase]; rfl) rfl
  | connects phase aligned => exact inv.continue rfl (by rw [phase]; rfl) rfl
  | misconnects phase elsewhere seldom => exact inv.continue rfl (by rw [phase]; rfl) rfl
  | skips phase next => exact inv.continue rfl (by rw [phase]; rfl) rfl
  | follows phase running first apart fills =>
    have closed := congrArg ChunkQueue.closed fills.same.2.2
    exact inv.continue closed (by rw [phase]; rfl) fills.isOver
  | delivers phase next some fills =>
    have closed := congrArg ChunkQueue.closed fills.same.2.2
    exact inv.continue closed (by rw [phase]; rfl) fills.isOver
  | fails phase =>
    refine ⟨fun shown c rest same => ?_, fun _ => rfl⟩
    cases same
    exact inv.stopped_of_cancelling _ _ _ phase
  | stops phase => exact ⟨fun shown c rest same => (by cases same), fun _ => rfl⟩

theorem Enqueues.guarded (h : Enqueues d c (.ok (d', fired))) (inv : d.Guarded) : d'.Guarded := by
  cases h with
  | completes past => exact ⟨inv.stopped_of_cancelling, inv.over_of_closed⟩
  | queues within closed => exact ⟨inv.stopped_of_cancelling, inv.over_of_closed⟩

theorem Guarded.stop (h : d.Guarded) : d.stop.Guarded :=
  ⟨fun _ _ _ _ => rfl, h.over_of_closed⟩

theorem guarded_start (identity : FileIdentity) (options : DownloadOptions) :
    (start identity options).Guarded :=
  ⟨fun _ _ _ phase => (by cases phase), fun closed => (by cases closed)⟩

theorem Guarded.open_of_lingers (h : d.Guarded) (lingers : d.Lingers) : d.queue.closed = false := by
  cases closed : d.queue.closed with
  | false => rfl
  | true =>
    have ended := h.over_of_closed closed
    obtain ⟨-, -, phase | ⟨leftover, stream, phase⟩⟩ := lingers_iff.mp lingers
    · simp [phase, Phase.isOver] at ended
    · simp [phase, Phase.isOver] at ended

theorem Lingers.accepts (h : d.Lingers) (sound : d.Sound) (guarded : d.Guarded)
    (within : c.cursor < d.identity.size) :
    d.enqueue c = .ok ({ d with
      queue := { d.queue with pending := [c.clampTo d.identity.size] } }, []) := by
  obtain ⟨running, none, -⟩ := lingers_iff.mp h
  have open_ := guarded.open_of_lingers h
  simp [enqueue, Nat.not_le.mpr within, ChunkQueue.enqueue, ChunkQueue.isClosed, open_, running,
    none, ChunkQueue.insert, sound.fileSize]

theorem Moves.cancelled (h : Moves d e d' fired) (inv : d.Guarded) :
    ∀ x ∈ fired, x.result = .failed .cancelled → d.queue.stopped = true := by
  have fills {b : Downloader} {c : Chunk} {delivery : Delivery} {stream : Stream}
      (h : Fills b c delivery stream d' fired) : ∀ x ∈ fired, x.result ≠ .failed .cancelled := by
    cases h <;> simp [Chunk.complete]
  intro x mem cancelled
  cases h with
  | follows phase running first apart h => exact absurd cancelled (fills h x mem)
  | delivers phase next some h => exact absurd cancelled (fills h x mem)
  | fails phase =>
    rw [List.mem_singleton] at mem
    rw [mem] at cancelled
    cases cancelled
    exact inv.stopped_of_cancelling _ _ _ phase
  | _ => cases mem

end Downloader

namespace History

open Downloader (Lingers)

theorem guarded_run (xs : List Happening) (identity : FileIdentity) (options : DownloadOptions) :
    ((start identity options).run xs).downloader.Guarded :=
  downloader_induction (fun _ _ _ _ takes => takes.guarded) (fun _ => Downloader.Guarded.stop)
    (fun d e => (d.step_moves e).guarded) xs _ (Downloader.guarded_start identity options)

theorem stop_mem_of_stopped (xs : List Happening) (h : History)
    (running : h.downloader.queue.stopped = false)
    (stopped : (h.run xs).downloader.queue.stopped = true) : Happening.stop ∈ xs := by
  by_cases asked : Happening.stop ∈ xs
  · exact asked
  · -- nothing else stops the queue
    have others : Along (fun _ x => x ≠ .stop) h xs :=
      along_of_forall xs h fun x mem _ same => asked (same ▸ mem)
    have still : (h.run xs).downloader.queue.stopped = false := by
      refine run_induction (P := fun h => h.downloader.queue.stopped = false) ?_ xs h running others
      intro h x running other
      cases x with
      | stop => exact absurd rfl other
      | move e => exact (h.downloader.step_moves e).queue_stopped.trans running
      | ask start limit =>
        have asks := h.ask_asks start limit
        change (h.ask start limit).downloader.queue.stopped = false
        generalize h.ask start limit = h' at asks
        cases asks with
        | backwards fresh => exact running
        | handsBack fresh refuses => exact running
        | accepts fresh takes => cases takes <;> exact running
    rw [still] at stopped
    cases stopped

variable {h : History} {first limit : Nat}

theorem taken_or_handedBack (lingers : h.downloader.Lingers) (sound : h.downloader.Sound)
    (guarded : h.downloader.Guarded) (ordered : first ≤ limit)
    (within : first < h.downloader.identity.size) :
    ∃ c, c.signal = h.asked.length ∧
      ((h.ask first limit).move .take).taken = h.taken ++ [c] ∧
      ((h.move .take).ask first limit).handedBack = h.handedBack ++ [c] := by
  obtain ⟨fresh, request⟩ : ∃ c, Chunk.request h.asked.length first limit = .ok c :=
    ⟨_, dif_pos ordered⟩
  obtain ⟨signal, offset, -, buffer, -⟩ := Chunk.of_request request
  have cursor : fresh.cursor = first := (Chunk.cursor_of_fresh buffer).trans offset
  obtain ⟨running, none, waits⟩ := Downloader.lingers_iff.mp lingers
  rw [← cursor] at within
  refine ⟨fresh.clampTo h.downloader.identity.size, signal, ?_, ?_⟩
  · have accepts := lingers.accepts sound guarded within
    have asked : (h.ask first limit).downloader = { h.downloader with
        queue := { h.downloader.queue with
          pending := [fresh.clampTo h.downloader.identity.size] } } := by
      simp only [ask, request, accepts]
    have took : (h.ask first limit).taken = h.taken := by simp only [ask, request, accepts]
    have takes : (h.ask first limit).downloader.taken? .take =
        some (fresh.clampTo h.downloader.identity.size) := by
      rw [asked]
      exact Downloader.taken?_take running rfl waits
    rw [move, took, takes]
    rfl
  · have refuses := lingers.refuses sound within
    simp only [ask, move, request, refuses]

/-- A wait that expires cancels nothing: no chunk is left then, nothing fires, and a chunk that
comes on either side of it is taken or handed back. What is cancelled is so after a stop. -/
theorem expiry_cancels_nothing (identity : FileIdentity) (options : DownloadOptions)
    (xs : List Happening) :
    let h := (start identity options).run xs
    (∀ e, h.downloader.expired < (h.move e).downloader.expired ↔
        e = .take ∧ h.downloader.Lingers) ∧
      (h.downloader.Lingers → ∀ ys,
        let later := (h.move .take).run ys
        (h.downloader.step .take).2 = [] ∧ (h.move .take).firedByMoves ys = [] ∧
          h.downloader.outstanding = [] ∧ later.downloader.outstanding = [] ∧
          later.downloader.stats.chunksFailed = h.downloader.stats.chunksFailed ∧
          (turns ys ≠ 0 → later.downloader.phase = .stopped) ∧
          (∀ c, later.downloader.queue.enqueue c = .error (c.clampTo identity.size)) ∧
          ∀ n < later.asked.length,
            Firing.times n later.fired + Chunk.times n later.handedBack = 1) ∧
      (h.downloader.Lingers → ∀ first limit, first ≤ limit → first < identity.size →
        ∃ c, c.signal = h.asked.length ∧
          ((h.ask first limit).move .take).taken = h.taken ++ [c] ∧
          ((h.move .take).ask first limit).handedBack = h.handedBack ++ [c]) ∧
      ∀ e, ∀ x ∈ (h.downloader.step e).2, x.result = .failed .cancelled → .stop ∈ xs := by
  intro h
  have sound := sound_run xs (start identity options) (Downloader.sound_start identity options)
  have placed := placed_run xs _ (placed_start identity options)
  have guarded := guarded_run xs identity options
  have size : h.downloader.identity = identity := identity_run xs _
  refine ⟨h.downloader.expired_step, ?_, ?_, ?_⟩
  · intro lingers ys later
    obtain ⟨none, d₀, why, -, failed⟩ := lingers.ends
    have givesUp := gives_up why sound placed ys
    have left : later.downloader.outstanding = [] := by
      rw [outstanding_run_of_ends why ys, none, List.drop_nil]
    obtain ⟨-, -, quiet⟩ := run_of_ends why ys
    refine ⟨givesUp.silent, ?_, none, left, ?_, ?_, ?_, ?_⟩
    · rw [givesUp.fired, none, List.map_nil, List.take_nil]
    · rw [quiet.stats, move, why.step, ← failed]
      simp [Downloader.finish, why.outstanding, none]
    · intro turn
      rw [givesUp.phase, none, List.length_nil, if_pos (Nat.pos_of_ne_zero turn)]
    · rw [← size]
      exact givesUp.handsBack
    · intro n asked
      have place : later.times n = 1 :=
        (placed_run (.move .take :: ys) h placed n).trans (if_pos asked)
      rw [times, left, Chunk.times_nil] at place
      exact place
  · intro lingers first limit ordered within
    rw [← size] at within
    exact taken_or_handedBack lingers sound guarded ordered within
  · intro e x mem cancelled
    have stopped := (h.downloader.step_moves e).cancelled guarded x mem cancelled
    exact stop_mem_of_stopped xs _ rfl stopped

def stalling : List Happening :=
  [.ask 0 2, .move .take, .move (.opened (.ok ⟨0, [.bytes [0, 1, 2, 3]], .silent⟩)),
    .move .deliver]

def tooLate : List Happening := [.ask 2 4, .move .failNext, .ask 7 8]

def stopping : List Happening := [.ask 0 2, .move .take, .stop, .move .notice]

theorem stalling_cancels_nothing :
    let h := (start ⟨"", 6⟩ .standard).run stalling
    let later := (h.move .take).run tooLate
    let stopped := (start ⟨"", 6⟩ .standard).run stopping
    h.downloader.Lingers ∧ h.downloader.expired < (h.move .take).downloader.expired ∧
      later.downloader.outstanding = [] ∧ later.downloader.phase = .stopped ∧
      Firing.times 1 later.fired + Chunk.times 1 later.handedBack = 1 ∧
      (∃ c, c.signal = 1 ∧ ((h.ask 2 4).move .take).taken = h.taken ++ [c] ∧
        ((h.move .take).ask 2 4).handedBack = h.handedBack ++ [c]) ∧
      ⟨0, .failed .cancelled⟩ ∈ (stopped.downloader.step .failNext).2 ∧
      .stop ∈ stopping := by
  intro h later stopped
  obtain ⟨expires, benign, race, -⟩ := expiry_cancels_nothing ⟨"", 6⟩ .standard stalling
  obtain ⟨-, -, -, cancelled⟩ := expiry_cancels_nothing ⟨"", 6⟩ .standard stopping
  have lingers : h.downloader.Lingers := ⟨_, rfl⟩
  obtain ⟨-, -, -, left, -, ends, -, settled⟩ := benign lingers tooLate
  have fails : ⟨0, .failed .cancelled⟩ ∈ (stopped.downloader.step .failNext).2 := by decide
  exact ⟨lingers, (expires .take).mpr ⟨rfl, lingers⟩, left, ends (by decide),
    settled 1 (by decide), race lingers 2 4 (by decide) (by decide), fails,
    cancelled .failNext _ fails rfl⟩

end History

end RangeFetch
