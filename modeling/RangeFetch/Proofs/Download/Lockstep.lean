import RangeFetch.Download.RequestLoop
import RangeFetch.Proofs.Download.Placement

namespace RangeFetch

open RequestLoop (Place)

namespace RequestLoop

/-- The loop waits for a chunk with a stream open. -/
def Pauses (l : RequestLoop) : Prop :=
  (∃ body, l.place = .pausing body) ∨ ∃ buffer body, l.place = .splicing buffer body

theorem Pauses.still {l : RequestLoop} (waits : l.Pauses) :
    (∀ answer, l.opened answer = l) ∧ l.deliver = (l, []) ∧ l.readTimedOut = l ∧ l.notice = l ∧
      l.failNext = (l, []) := by
  rcases waits with ⟨body, at_⟩ | ⟨buffer, body, at_⟩ <;>
    simp [opened, deliver, readTimedOut, notice, failNext, at_]

end RequestLoop

namespace Phase

def current? : Phase → Option Chunk
  | requesting c => some c
  | streaming c _ => some c
  | _ => none

/-- The offset register. Where no delivery is to come next, it may hold anything. -/
def offset (stale : Nat) : Phase → Nat
  | streaming _ stream => stream.offset
  | between leftover _ => if leftover.isEmpty then leftover.start else stale
  | _ => stale

def place : Phase → Place
  | idle => .idle
  | requesting c => .requesting c.cursor
  | streaming _ stream => .reading stream.body
  | between leftover stream =>
    if leftover.isEmpty then .pausing stream.body else .splicing leftover stream.body
  | failing _ error rest => .failing error rest
  | stopped => .stopped

end Phase

namespace Downloader

variable {d d' : Downloader} {c : Chunk} {p : Phase} {stale : Nat}

/-- The loop with a downloader's queue and counts, and with registers of its own. -/
def loop (d : Downloader) (state : DownloadState) (current : Option Chunk) (offset : Nat)
    (place : Place) : RequestLoop where
  identity := d.identity
  options := d.options
  queue := d.queue
  state := state
  current := current
  downloadOffset := offset
  rangeRestarts := d.rangeRestarts
  stats := d.stats
  place := place
  fallbacks := []

/-- The registers of a downloader. -/
def registers (d : Downloader) (stale : Nat) : RequestLoop :=
  d.loop d.phase.state d.phase.current? (d.phase.offset stale) d.phase.place

def RunsAs (d : Downloader) (l : RequestLoop) : Prop := ∃ stale, l = d.registers stale

theorem registers_of (phase : d.phase = p) :
    d.registers stale = d.loop p.state p.current? (p.offset stale) p.place := by
  rw [registers, phase]

theorem pauses_of_between (stale : Nat) {leftover : Delivery} {stream : Stream}
    (phase : d.phase = .between leftover stream) : (d.registers stale).Pauses := by
  rw [registers_of phase]
  cases empty : leftover.isEmpty <;> simp [RequestLoop.Pauses, loop, Phase.place, empty]

/-- A step of the loop comes to the same as that of the downloader, and fires the same. -/
def MovesAs (outcome : Downloader × List Firing) (looped : RequestLoop × List Firing) : Prop :=
  outcome.1.RunsAs looped.1 ∧ looped.2 = outcome.2

@[simp] theorem queue_loop (d : Downloader) (state : DownloadState) (current : Option Chunk)
    (offset : Nat) (place : Place) : (d.loop state current offset place).queue = d.queue := rfl

theorem runsAs_finish (e : ChunkError) (offset : Nat) (place : Place) (phase : d.phase = p)
    (held : p.chunks = p.current?.toList) :
    (d.finish e).RunsAs ((d.loop p.state p.current? offset place).finish e) := by
  refine ⟨offset, ?_⟩
  simp only [RequestLoop.finish, loop, registers, finish, outstanding, phase, held]
  rfl

theorem movesAs_splice {delivery : Delivery} {stream : Stream} (offset : Nat) (place : Place)
    (reaches : delivery.limit = stream.offset) :
    MovesAs (d.fill c delivery stream)
      ((d.loop .streaming (some c) offset place).splice delivery stream.body) := by
  -- the loop writes first and then looks at the chunk, the downloader compares the lengths
  have full : (c.write delivery.unread).isFull = decide (c.remaining ≤ delivery.unread.length) := by
    have hle := c.cursor_le_limit
    rw [Bool.eq_iff_iff, Chunk.isFull, beq_iff_eq, Chunk.cursor_write, decide_eq_true_iff]
    simp only [Chunk.limit_write, Chunk.accepts, Chunk.remaining]
    omega
  have reached : c.cursor + c.remaining = c.limit := Nat.add_sub_of_le c.cursor_le_limit
  have fills := fill_fills d c delivery stream
  generalize d.fill c delivery stream = filled at fills
  obtain ⟨d', fired⟩ := filled
  dsimp only at fills
  cases fills with
  | seeks elsewhere =>
    simp only [RequestLoop.splice, loop, if_pos elsewhere]
    exact ⟨⟨delivery.start, rfl⟩, rfl⟩
  | unfilled aligned short =>
    have all : c.accepts delivery.unread = delivery.unread.length :=
      Nat.min_eq_left (Nat.le_of_lt short)
    have more : (!(c.write delivery.unread).isFull) = true := by simpa [full] using short
    simp only [RequestLoop.splice, loop, aligned, ne_eq, not_true_eq_false, if_false, more, if_true,
      all, RequestLoop.stream, Delivery.start_advance]
    -- where a chunk is current the register follows the stream, so what it held does not matter
    refine ⟨⟨0, ?_⟩, rfl⟩
    simp only [registers, loop, Phase.offset, ← reaches]
    rfl
  | filled aligned enough counted atEnd =>
    have taken : c.accepts delivery.unread = c.remaining := Nat.min_eq_right enough
    have done : (!(c.write delivery.unread).isFull) = false := by simpa [full] using enough
    have used : (delivery.advance c.remaining).isEmpty = true := by
      simp [Delivery.isEmpty, Delivery.advance, atEnd.1]
    have last : d.identity.size ≤ delivery.start + c.remaining := by omega
    simp only [RequestLoop.splice, loop, aligned, ne_eq, not_true_eq_false, if_false, done, taken,
      Bool.false_eq_true, used, if_true, RequestLoop.stream, Delivery.start_advance, last, counted]
    exact ⟨⟨delivery.start + c.remaining, rfl⟩, rfl⟩
  | leaves aligned enough counted more =>
    have taken : c.accepts delivery.unread = c.remaining := Nat.min_eq_right enough
    have done : (!(c.write delivery.unread).isFull) = false := by simpa [full] using enough
    simp only [RequestLoop.splice, loop, aligned, ne_eq, not_true_eq_false, if_false, done, taken,
      Bool.false_eq_true, counted]
    by_cases used : (delivery.advance c.remaining).isEmpty = true
    · have notLast : ¬d.identity.size ≤ delivery.start + c.remaining := by
        simp only [Delivery.isEmpty, Delivery.advance, List.isEmpty_iff,
          List.drop_eq_nil_iff] at used
        omega
      simp only [used, if_true, RequestLoop.stream, Delivery.start_advance, notLast, if_false]
      refine ⟨⟨0, ?_⟩, rfl⟩
      simp only [registers, loop, Phase.offset, Phase.place, used, if_true]
      rfl
    · simp only [used, Bool.false_eq_true, if_false]
      refine ⟨⟨offset, ?_⟩, rfl⟩
      simp only [registers, loop, Phase.offset, Phase.place, used, Bool.false_eq_true, if_false]
      rfl

theorem runsAs_wake (phase : d.phase = .idle) (offset : Nat) :
    d.wake.RunsAs (d.loop .idle none offset .idle).wake := by
  unfold wake RequestLoop.wake
  rw [queue_loop]
  rcases d.queue.dequeueOrClose_cases with
    ⟨stop, got⟩ | ⟨running, none, got⟩ | ⟨c, rest, running, first, got⟩
  · rw [got]
    exact runsAs_finish .cancelled offset .idle phase rfl
  · rw [got]
    have gone := runsAs_finish (d := { d with
      queue := { d.queue with closed := true }
      stats := { d.stats with idleTimeouts := d.stats.idleTimeouts + 1 } })
      .cancelled offset .idle phase rfl
    exact gone
  · rw [got]
    exact ⟨c.cursor, rfl⟩

theorem follow_of_unread {leftover : Delivery} {stream : Stream}
    (unread : leftover.isEmpty = false) :
    d.follow c leftover stream = d.fill c leftover stream := by
  unfold follow
  by_cases elsewhere : c.cursor ≠ leftover.start
  · rw [if_pos elsewhere, fill, Chunk.absorb, if_pos elsewhere]
  · rw [if_neg elsewhere, unread]
    rfl

/-- Between two deliveries, the offset register is where the next chunk has to start. -/
theorem movesAs_proceed {leftover : Delivery} {stream : Stream}
    (phase : d.phase = .between leftover stream) (used : leftover.isEmpty = true)
    (reaches : leftover.limit = stream.offset) (place : Place) :
    MovesAs (d.proceed leftover stream)
      ((d.loop .streaming none leftover.start place).proceed stream.body, []) := by
  unfold proceed RequestLoop.proceed
  rw [queue_loop]
  rcases d.queue.dequeueOrClose_cases with
    ⟨stop, got⟩ | ⟨running, none, got⟩ | ⟨c, rest, running, first, got⟩
  · rw [got]
    exact ⟨runsAs_finish .cancelled leftover.start place phase rfl, rfl⟩
  · rw [got]
    have gone := runsAs_finish (d := { d with
      queue := { d.queue with closed := true }
      stats := { d.stats with stalls := d.stats.stalls + 1 } })
      .cancelled leftover.start place phase rfl
    exact ⟨gone, rfl⟩
  · rw [got]
    dsimp only
    by_cases aligned : c.cursor = leftover.start
    · have stands : stream.offset = leftover.start := by
        rw [← reaches, Delivery.limit, List.isEmpty_iff.mp used]
        rfl
      simp only [follow, loop, aligned, ne_eq, not_true_eq_false, if_false, used, if_true]
      refine ⟨⟨0, ?_⟩, rfl⟩
      simp only [registers, loop, Phase.offset, stands]
      rfl
    · simp only [follow, loop, aligned, ne_eq, not_false_eq_true, if_false, if_true]
      exact ⟨⟨leftover.start, rfl⟩, rfl⟩

theorem movesAs_spliceNext {leftover : Delivery} {stream : Stream}
    (phase : d.phase = .between leftover stream) (unread : leftover.isEmpty = false)
    (reaches : leftover.limit = stream.offset) (offset : Nat) (place : Place) :
    MovesAs (d.proceed leftover stream)
      ((d.loop .streaming none offset place).spliceNext leftover stream.body) := by
  unfold proceed RequestLoop.spliceNext
  rw [queue_loop]
  rcases d.queue.dequeueOrClose_cases with
    ⟨stop, got⟩ | ⟨running, none, got⟩ | ⟨c, rest, running, first, got⟩
  · rw [got]
    exact ⟨runsAs_finish .cancelled leftover.start place phase rfl, rfl⟩
  · rw [got]
    have gone := runsAs_finish (d := { d with
      queue := { d.queue with closed := true }
      stats := { d.stats with stalls := d.stats.stalls + 1 } })
      .cancelled leftover.start place phase rfl
    exact ⟨gone, rfl⟩
  · rw [got]
    dsimp only
    rw [follow_of_unread unread]
    exact movesAs_splice (d := { d with queue := { d.queue with pending := rest } }) offset place
      reaches

theorem runsAs_self (phase : d.phase = p) :
    d.RunsAs (d.loop p.state p.current? (p.offset stale) p.place) :=
  ⟨stale, (registers_of phase).symm⟩

theorem movesAs_take (sound : d.Sound) : MovesAs d.take (d.registers stale).take := by
  unfold take
  rw [registers]
  cases phase : d.phase with
  | idle => exact ⟨runsAs_wake phase stale, rfl⟩
  | between leftover stream =>
    obtain ⟨reaches, -⟩ := sound.between _ _ phase
    cases empty : leftover.isEmpty with
    | true =>
      simp only [RequestLoop.take, loop, Phase.place, Phase.offset, empty, if_true]
      exact movesAs_proceed phase empty reaches _
    | false =>
      simp only [RequestLoop.take, loop, Phase.place, Phase.offset, empty, Bool.false_eq_true,
        if_false]
      exact movesAs_spliceNext phase empty reaches stale _
  | _ => exact ⟨runsAs_self phase, rfl⟩

theorem runsAs_opened (answer : Except SourceError Stream) :
    (d.opened answer).RunsAs ((d.registers stale).opened answer) := by
  unfold opened
  cases phase : d.phase with
  | requesting c =>
    rw [registers_of phase]
    cases answer with
    | error e => exact runsAs_finish (.source e) stale _ phase rfl
    | ok stream =>
      change (d.connect c stream).RunsAs
        ((d.loop .requesting (some c) stale (.requesting c.cursor)).beginStream c.cursor stream)
      by_cases aligned : stream.offset = c.cursor
      · simp only [connect, RequestLoop.beginStream, aligned, if_true]
        exact ⟨0, by simp only [registers, Phase.offset, aligned]; rfl⟩
      · by_cases often : d.options.maxRangeRestarts < d.rangeRestarts + 1
        · simp only [connect, RequestLoop.beginStream, loop, aligned, if_false, often, if_true]
          exact runsAs_finish (d := { d with rangeRestarts := d.rangeRestarts + 1 })
            (.source (.rangeNotHonored c.cursor (d.rangeRestarts + 1))) stale _ phase rfl
        · simp only [connect, RequestLoop.beginStream, loop, aligned, if_false, often]
          exact ⟨0, rfl⟩
  | between leftover stream =>
    rw [(pauses_of_between stale phase).still.1]
    exact ⟨stale, rfl⟩
  | _ =>
    rw [registers_of phase]
    exact runsAs_self phase

theorem movesAs_deliver : MovesAs d.deliver (d.registers stale).deliver := by
  unfold deliver
  cases phase : d.phase with
  | streaming c stream =>
    rw [registers_of phase]
    obtain ⟨offset, items, ending⟩ := stream
    cases items with
    | nil =>
      cases ending with
      | eof =>
        exact
          ⟨runsAs_finish (.source (.unexpectedEof offset d.identity.size)) offset _ phase rfl, rfl⟩
      | silent => exact ⟨runsAs_self phase, rfl⟩
    | cons item rest =>
      cases item with
      | failed e => exact ⟨runsAs_finish (.source e) offset _ phase rfl, rfl⟩
      | bytes delivered =>
        cases delivered with
        | nil => exact ⟨⟨0, rfl⟩, rfl⟩
        | cons b bs => exact movesAs_splice offset _ rfl
  | between leftover stream =>
    rw [(pauses_of_between stale phase).still.2.1]
    exact ⟨⟨stale, rfl⟩, rfl⟩
  | _ =>
    rw [registers_of phase]
    exact ⟨runsAs_self phase, rfl⟩

theorem runsAs_readTimedOut : d.readTimedOut.RunsAs (d.registers stale).readTimedOut := by
  unfold readTimedOut
  cases phase : d.phase with
  | streaming c stream =>
    rw [registers_of phase]
    exact runsAs_finish (.source (.timeout d.options.readTimeout)) stream.offset _ phase rfl
  | between leftover stream =>
    rw [(pauses_of_between stale phase).still.2.2.1]
    exact ⟨stale, rfl⟩
  | _ =>
    rw [registers_of phase]
    exact runsAs_self phase

theorem runsAs_notice : d.notice.RunsAs (d.registers stale).notice := by
  unfold notice
  by_cases stop : d.queue.stopped = true
  · rw [if_pos stop]
    cases phase : d.phase with
    | between leftover stream =>
      rw [(pauses_of_between stale phase).still.2.2.2.1]
      exact ⟨stale, rfl⟩
    | requesting c =>
      rw [registers_of phase, RequestLoop.notice, queue_loop, if_pos stop]
      exact runsAs_finish .cancelled stale _ phase rfl
    | streaming c stream =>
      rw [registers_of phase, RequestLoop.notice, queue_loop, if_pos stop]
      exact runsAs_finish .cancelled stream.offset _ phase rfl
    | _ =>
      rw [registers_of phase, RequestLoop.notice, queue_loop, if_pos stop]
      exact runsAs_self phase
  · have running : ¬(d.registers stale).queue.stopped = true := stop
    rw [if_neg stop, RequestLoop.notice, if_neg running]
    exact ⟨stale, rfl⟩

theorem movesAs_failNext : MovesAs d.failNext (d.registers stale).failNext := by
  unfold failNext
  cases phase : d.phase with
  | failing shown e rest =>
    rw [registers_of phase]
    cases rest with
    | nil => exact ⟨⟨stale, rfl⟩, rfl⟩
    | cons c rest => exact ⟨⟨stale, rfl⟩, rfl⟩
  | between leftover stream =>
    rw [(pauses_of_between stale phase).still.2.2.2.2]
    exact ⟨⟨stale, rfl⟩, rfl⟩
  | _ =>
    rw [registers_of phase]
    exact ⟨runsAs_self phase, rfl⟩

theorem movesAs_step (sound : d.Sound) (stale : Nat) (e : Event) :
    MovesAs (d.step e) ((d.registers stale).step e) := by
  cases e with
  | take => exact movesAs_take sound
  | opened answer => exact ⟨runsAs_opened answer, rfl⟩
  | deliver => exact movesAs_deliver
  | readTimedOut => exact ⟨runsAs_readTimedOut, rfl⟩
  | notice => exact ⟨runsAs_notice, rfl⟩
  | failNext => exact movesAs_failNext

theorem enqueue_registers (d : Downloader) (stale : Nat) (c : Chunk) :
    (d.registers stale).enqueue c =
      (d.enqueue c).map fun accepted => (accepted.1.registers stale, accepted.2) := by
  unfold RequestLoop.enqueue enqueue
  by_cases past : d.identity.size ≤ c.cursor
  · simp only [registers, loop, past, if_true]
    rfl
  · simp only [registers, loop, past, if_false]
    cases d.queue.enqueue c <;> rfl

theorem connection?_registers (d : Downloader) (stale : Nat) (e : Event) :
    (d.registers stale).connection? e = d.connection? e := by
  unfold RequestLoop.connection? connection? wanted?
  cases e with
  | opened answer =>
    cases answer with
    | error e => rfl
    | ok stream =>
      cases phase : d.phase with
      | between leftover s =>
        rcases pauses_of_between stale phase with ⟨body, at_⟩ | ⟨buffer, body, at_⟩ <;>
          simp [at_]
      | _ =>
        rw [registers_of phase]
        rfl
  | _ => rfl

end Downloader

namespace LoopHistory

open Downloader (Happening Event)

variable {t : LoopHistory} {h : History}

/-- The loop has come the same way as the downloader. -/
structure Mirrors (t : LoopHistory) (h : History) : Prop where
  loop : h.downloader.RunsAs t.loop
  asked : t.asked = h.asked
  handedBack : t.handedBack = h.handedBack
  fired : t.fired = h.fired

theorem mirrors_start (identity : FileIdentity) (options : DownloadOptions) :
    (start identity options).Mirrors (.start identity options) := ⟨⟨0, rfl⟩, rfl, rfl, rfl⟩

theorem Mirrors.ask (inv : t.Mirrors h) (first limit : Nat) :
    (t.ask first limit).Mirrors (h.ask first limit) ∧
      (t.ask first limit).connections = t.connections := by
  obtain ⟨⟨stale, loop⟩, asked, handedBack, fired⟩ := inv
  unfold LoopHistory.ask History.ask
  rw [asked, loop, handedBack, fired]
  cases Chunk.request h.asked.length first limit with
  | error x => exact ⟨⟨⟨stale, rfl⟩, rfl, rfl, rfl⟩, rfl⟩
  | ok c =>
    dsimp only
    rw [h.downloader.enqueue_registers]
    cases h.downloader.enqueue c <;> exact ⟨⟨⟨stale, rfl⟩, rfl, rfl, rfl⟩, rfl⟩

theorem Mirrors.move (inv : t.Mirrors h) (sound : h.downloader.Sound) (e : Event) :
    (t.move e).Mirrors (h.move e) ∧
      (t.move e).connections = t.connections ++ (h.downloader.connection? e).toList := by
  obtain ⟨⟨stale, loop⟩, asked, handedBack, fired⟩ := inv
  obtain ⟨runs, fires⟩ := Downloader.movesAs_step sound stale e
  unfold LoopHistory.move History.move
  rw [loop, fired, fires, h.downloader.connection?_registers]
  exact ⟨⟨runs, asked, handedBack, rfl⟩, rfl⟩

theorem mirrors_run (xs : List Happening) (t : LoopHistory) (h : History) (inv : t.Mirrors h)
    (sound : h.downloader.Sound) :
    (t.run xs).Mirrors (h.run xs) ∧
      (t.run xs).connections = t.connections ++ h.connections xs := by
  induction xs generalizing t h with
  | nil => exact ⟨inv, (List.append_nil _).symm⟩
  | cons x rest ih =>
    have later : (h.step x).downloader.Sound := History.sound_run [x] h sound
    cases x with
    | ask first limit =>
      obtain ⟨asks, same⟩ := inv.ask first limit
      rw [← same]
      exact ih (t.ask first limit) (h.ask first limit) asks later
    | stop =>
      obtain ⟨⟨stale, loop⟩, asked, handedBack, fired⟩ := inv
      have stops : (t.step .stop).Mirrors (h.step .stop) :=
        ⟨⟨stale, congrArg RequestLoop.stop loop⟩, asked, handedBack, fired⟩
      exact ih (t.step .stop) (h.step .stop) stops later
    | move e =>
      obtain ⟨moves, answered⟩ := inv.move sound e
      obtain ⟨mirrors, connections⟩ := ih (t.move e) (h.move e) moves later
      refine ⟨mirrors, connections.trans ?_⟩
      rw [answered, List.append_assoc]
      rfl

end LoopHistory

end RangeFetch
