import RangeFetch.Download.Observed

namespace RangeFetch.Downloader

def shift (d : Downloader) (rest : List Chunk) : Downloader :=
  { d with queue := { d.queue with pending := rest } }

/-- What a delivery does to a downloader whose chunk it is for. -/
inductive Fills (d : Downloader) (c : Chunk) (delivery : Delivery) (stream : Stream) :
    Downloader → List Firing → Prop where
  | seeks (elsewhere : c.cursor ≠ delivery.start) : Fills d c delivery stream (d.seek c) []
  | unfilled (aligned : c.cursor = delivery.start)
      (short : delivery.unread.length < c.remaining) :
      Fills d c delivery stream
        { d with
          phase := .streaming (c.write delivery.unread) stream
          stats := { d.stats with
            bytesDelivered := d.stats.bytesDelivered + delivery.unread.length } } []
  | filled {stats : DownloadStats} (aligned : c.cursor = delivery.start)
      (enough : c.remaining ≤ delivery.unread.length)
      (counted : stats = { d.stats with
        bytesDelivered := d.stats.bytesDelivered + c.remaining
        chunksCompleted := d.stats.chunksCompleted + 1 })
      (atEnd : delivery.unread.length = c.remaining ∧ d.identity.size ≤ c.limit) :
      Fills d c delivery stream { d with phase := .idle, stats := stats }
        [(c.write delivery.unread).complete]
  | leaves {stats : DownloadStats} (aligned : c.cursor = delivery.start)
      (enough : c.remaining ≤ delivery.unread.length)
      (counted : stats = { d.stats with
        bytesDelivered := d.stats.bytesDelivered + c.remaining
        chunksCompleted := d.stats.chunksCompleted + 1 })
      (more : c.remaining < delivery.unread.length ∨ c.limit < d.identity.size) :
      Fills d c delivery stream
        { d with phase := .between (delivery.advance c.remaining) stream, stats := stats }
        [(c.write delivery.unread).complete]

theorem fill_fills (d : Downloader) (c : Chunk) (delivery : Delivery) (stream : Stream) :
    Fills d c delivery stream (d.fill c delivery stream).1 (d.fill c delivery stream).2 := by
  have hle := c.cursor_le_limit
  rcases c.absorb_cases delivery with ⟨elsewhere, h⟩ | ⟨aligned, short, h⟩ | ⟨aligned, enough, h⟩
  · unfold fill
    rw [h]
    exact .seeks elsewhere
  · unfold fill
    rw [h]
    exact .unfilled aligned short
  · have reached : delivery.start + c.remaining = c.limit := by
      rw [← aligned, Chunk.remaining]
      omega
    have taken : delivery.unread.length - (delivery.advance c.remaining).unread.length =
        c.remaining := by
      simp only [Delivery.advance, List.length_drop]
      omega
    have atEnd : ((delivery.advance c.remaining).isEmpty &&
        decide (d.identity.size ≤ (delivery.advance c.remaining).start)) = true ↔
        delivery.unread.length = c.remaining ∧ d.identity.size ≤ c.limit := by
      simp only [Delivery.isEmpty, Delivery.advance, reached, List.isEmpty_iff,
        List.drop_eq_nil_iff, Bool.and_eq_true, decide_eq_true_eq]
      omega
    unfold fill
    rw [h]
    simp only [taken]
    by_cases last : delivery.unread.length = c.remaining ∧ d.identity.size ≤ c.limit
    · rw [if_pos (atEnd.mpr last)]
      exact .filled aligned enough rfl last
    · rw [if_neg (mt atEnd.mp last)]
      exact .leaves aligned enough rfl (by omega)

/-- Why a downloader gives up: what it does so upon, what is counted before, and the error that
its chunks fail with. -/
inductive Ends (d : Downloader) : Event → Downloader → ChunkError → Prop where
  | idle (phase : d.phase = .idle) (running : d.queue.stopped = false)
      (none : d.queue.pending = []) :
      Ends d .take
        { d with stats := { d.stats with idleTimeouts := d.stats.idleTimeouts + 1 } } .cancelled
  | stall {leftover : Delivery} {stream : Stream} (phase : d.phase = .between leftover stream)
      (running : d.queue.stopped = false) (none : d.queue.pending = []) :
      Ends d .take { d with stats := { d.stats with stalls := d.stats.stalls + 1 } } .cancelled
  | stopped (phase : d.phase = .idle ∨ ∃ leftover stream, d.phase = .between leftover stream)
      (stop : d.queue.stopped = true) : Ends d .take d .cancelled
  | noticed {c : Chunk}
      (phase : d.phase = .requesting c ∨ ∃ stream, d.phase = .streaming c stream)
      (stop : d.queue.stopped = true) : Ends d .notice d .cancelled
  | notOpened {c : Chunk} {e : SourceError} (phase : d.phase = .requesting c) :
      Ends d (.opened (.error e)) d (.source e)
  | notHonored {c : Chunk} {stream : Stream} (phase : d.phase = .requesting c)
      (elsewhere : stream.offset ≠ c.cursor)
      (often : d.options.maxRangeRestarts < d.rangeRestarts + 1) :
      Ends d (.opened (.ok stream)) { d with rangeRestarts := d.rangeRestarts + 1 }
        (.source (.rangeNotHonored c.cursor (d.rangeRestarts + 1)))
  | broken {c : Chunk} {stream : Stream} {e : SourceError} (phase : d.phase = .streaming c stream)
      (next : stream.next = .failed e) : Ends d .deliver d (.source e)
  | short {c : Chunk} {stream : Stream} (phase : d.phase = .streaming c stream)
      (next : stream.next = .ended) :
      Ends d .deliver d (.source (.unexpectedEof stream.offset d.identity.size))
  | silent {c : Chunk} {stream : Stream} (phase : d.phase = .streaming c stream) :
      Ends d .readTimedOut d (.source (.timeout d.options.readTimeout))

/-- What a move can do. -/
inductive Moves (d : Downloader) : Event → Downloader → List Firing → Prop where
  | stays {e : Event} (idle : d.taken? e = none) (unanswered : d.connection? e = none) :
      Moves d e d []
  | ends {e : Event} {d₀ : Downloader} {error : ChunkError} (why : Ends d e d₀ error) :
      Moves d e (d₀.finish error) []
  | wakes {c : Chunk} {rest : List Chunk} (phase : d.phase = .idle)
      (running : d.queue.stopped = false) (first : d.queue.pending = c :: rest) :
      Moves d .take ((d.shift rest).request c) []
  | continues {c : Chunk} {rest : List Chunk} {leftover : Delivery} {stream : Stream}
      (phase : d.phase = .between leftover stream) (running : d.queue.stopped = false)
      (first : d.queue.pending = c :: rest) (aligned : c.cursor = leftover.start)
      (used : leftover.unread = []) :
      Moves d .take { d.shift rest with phase := .streaming c stream } []
  | follows {c : Chunk} {rest : List Chunk} {leftover : Delivery} {stream : Stream}
      {d' : Downloader} {fired : List Firing} (phase : d.phase = .between leftover stream)
      (running : d.queue.stopped = false) (first : d.queue.pending = c :: rest)
      (apart : c.cursor ≠ leftover.start ∨ leftover.unread ≠ [])
      (fills : Fills (d.shift rest) c leftover stream d' fired) : Moves d .take d' fired
  | connects {c : Chunk} {stream : Stream} (phase : d.phase = .requesting c)
      (aligned : stream.offset = c.cursor) :
      Moves d (.opened (.ok stream)) { d with phase := .streaming c stream, rangeRestarts := 0 } []
  | misconnects {c : Chunk} {stream : Stream} (phase : d.phase = .requesting c)
      (elsewhere : stream.offset ≠ c.cursor)
      (seldom : d.rangeRestarts + 1 ≤ d.options.maxRangeRestarts) :
      Moves d (.opened (.ok stream))
        { d with phase := .streaming c stream, rangeRestarts := d.rangeRestarts + 1 } []
  | skips {c : Chunk} {stream rest : Stream} (phase : d.phase = .streaming c stream)
      (next : stream.next = .bytes [] rest) :
      Moves d .deliver { d with phase := .streaming c rest } []
  | delivers {c : Chunk} {stream rest : Stream} {delivered : Bytes} {d' : Downloader}
      {fired : List Firing} (phase : d.phase = .streaming c stream)
      (next : stream.next = .bytes delivered rest) (some : delivered ≠ [])
      (fills : Fills d c ⟨stream.offset, delivered⟩ rest d' fired) : Moves d .deliver d' fired
  | fails {shown : DownloadState} {error : ChunkError} {c : Chunk} {rest : List Chunk}
      (phase : d.phase = .failing shown error (c :: rest)) :
      Moves d .failNext { d with phase := .failing shown error rest } [c.fail error]
  | stops {shown : DownloadState} {error : ChunkError} (phase : d.phase = .failing shown error []) :
      Moves d .failNext { d with phase := .stopped } []

variable {d d' d₀ : Downloader} {e : Event} {error : ChunkError} {fired : List Firing}

theorem wake_moves (phase : d.phase = .idle) : Moves d .take d.wake [] := by
  unfold wake
  by_cases stop : d.queue.stopped = true
  · rw [ChunkQueue.dequeueOrClose_of_stopped stop]
    exact .ends (.stopped (.inl phase) stop)
  · have running : d.queue.stopped = false := by simpa using stop
    cases first : d.queue.pending with
    | nil =>
      rw [ChunkQueue.dequeueOrClose_nil running first]
      have ends := Moves.ends (Ends.idle phase running first)
      exact ends
    | cons c rest =>
      rw [ChunkQueue.dequeueOrClose_cons running first]
      exact .wakes phase running first

theorem proceed_moves {leftover : Delivery} {stream : Stream}
    (phase : d.phase = .between leftover stream) :
    Moves d .take (d.proceed leftover stream).1 (d.proceed leftover stream).2 := by
  unfold proceed
  by_cases stop : d.queue.stopped = true
  · rw [ChunkQueue.dequeueOrClose_of_stopped stop]
    exact .ends (.stopped (.inr ⟨_, _, phase⟩) stop)
  · have running : d.queue.stopped = false := by simpa using stop
    cases first : d.queue.pending with
    | nil =>
      rw [ChunkQueue.dequeueOrClose_nil running first]
      have ends := Moves.ends (Ends.stall phase running first)
      exact ends
    | cons c rest =>
      rw [ChunkQueue.dequeueOrClose_cons running first]
      simp only [follow]
      -- a chunk that begins elsewhere is sought for before anything is spliced into it
      by_cases aligned : c.cursor = leftover.start
      · rw [if_neg (not_not_intro aligned)]
        by_cases used : leftover.unread = []
        · rw [if_pos (by simp [Delivery.isEmpty, used])]
          exact .continues phase running first aligned used
        · rw [if_neg (by simp [Delivery.isEmpty, used])]
          have fills := fill_fills (d.shift rest) c leftover stream
          exact .follows phase running first (.inr used) fills
      · rw [if_pos aligned]
        exact .follows phase running first (.inl aligned) (.seeks aligned)

theorem take_moves (d : Downloader) : Moves d .take d.take.1 d.take.2 := by
  unfold take
  cases phase : d.phase with
  | idle => exact wake_moves phase
  | between leftover stream => exact proceed_moves phase
  | _ => exact .stays (by simp [taken?, phase]) rfl

theorem opened_moves (d : Downloader) (answer : Except SourceError Stream) :
    Moves d (.opened answer) (d.opened answer) [] := by
  unfold opened
  cases phase : d.phase with
  | requesting c =>
    cases answer with
    | error error => exact .ends (.notOpened phase)
    | ok stream =>
      simp only [connect]
      by_cases aligned : stream.offset = c.cursor
      · rw [if_pos aligned]
        exact .connects phase aligned
      · rw [if_neg aligned]
        by_cases often : d.options.maxRangeRestarts < d.rangeRestarts + 1
        · rw [if_pos often]
          exact .ends (.notHonored phase aligned often)
        · rw [if_neg often]
          exact .misconnects phase aligned (by omega)
  | _ =>
    have unanswered : d.wanted? = none := wanted?_eq_none (by simp [phase])
    exact .stays rfl (by cases answer <;> simp [connection?, unanswered])

theorem deliver_moves (d : Downloader) : Moves d .deliver d.deliver.1 d.deliver.2 := by
  unfold deliver
  cases phase : d.phase with
  | streaming c stream =>
    dsimp only
    cases next : stream.next with
    | bytes delivered rest =>
      cases delivered with
      | nil => exact .skips phase next
      | cons b bs => exact .delivers phase next (by simp) (fill_fills d c _ rest)
    | failed error => exact .ends (.broken phase next)
    | ended => exact .ends (.short phase next)
    | waiting => exact .stays rfl rfl
  | _ => exact .stays rfl rfl

theorem readTimedOut_moves (d : Downloader) : Moves d .readTimedOut d.readTimedOut [] := by
  unfold readTimedOut
  cases phase : d.phase with
  | streaming c stream => exact .ends (.silent phase)
  | _ => exact .stays rfl rfl

theorem notice_moves (d : Downloader) : Moves d .notice d.notice [] := by
  unfold notice
  by_cases stop : d.queue.stopped = true
  · rw [if_pos stop]
    cases phase : d.phase with
    | requesting c => exact .ends (.noticed (.inl phase) stop)
    | streaming c stream => exact .ends (.noticed (.inr ⟨stream, phase⟩) stop)
    | _ => exact .stays rfl rfl
  · rw [if_neg stop]
    exact .stays rfl rfl

theorem failNext_moves (d : Downloader) : Moves d .failNext d.failNext.1 d.failNext.2 := by
  unfold failNext
  cases phase : d.phase with
  | failing shown error rest =>
    cases rest with
    | nil => exact .stops phase
    | cons c rest => exact .fails phase
  | _ => exact .stays rfl rfl

theorem Ends.same (h : Ends d e d₀ error) :
    d₀.identity = d.identity ∧ d₀.options = d.options ∧ d₀.queue = d.queue ∧
      d₀.phase = d.phase := by
  cases h <;> exact ⟨rfl, rfl, rfl, rfl⟩

theorem Ends.same_requests (h : Ends d e d₀ error) :
    d₀.stats.requests = d.stats.requests ∧ d₀.stats.seeks = d.stats.seeks := by
  cases h <;> exact ⟨rfl, rfl⟩

theorem Ends.outstanding (h : Ends d e d₀ error) : d₀.outstanding = d.outstanding := by
  obtain ⟨-, -, queue, phase⟩ := h.same
  rw [Downloader.outstanding, Downloader.outstanding, queue, phase]

theorem Ends.taken? (h : Ends d e d₀ error) : d.taken? e = none := by
  cases h with
  | idle phase running none => simp [Downloader.taken?, ChunkQueue.dequeueOrClose_nil running none]
  | stall phase running none => simp [Downloader.taken?, ChunkQueue.dequeueOrClose_nil running none]
  | stopped _ stop => simp [Downloader.taken?, ChunkQueue.dequeueOrClose_of_stopped stop]
  | _ => rfl

theorem Ends.step (h : Ends d e d₀ error) : d.step e = (d₀.finish error, []) := by
  cases h with
  | idle phase running none =>
    simp only [Downloader.step, take, wake, phase, ChunkQueue.dequeueOrClose_nil running none]
    rfl
  | stall phase running none =>
    simp only [Downloader.step, take, proceed, phase, ChunkQueue.dequeueOrClose_nil running none]
    rfl
  | stopped phase stop =>
    rcases phase with phase | ⟨leftover, stream, phase⟩
    · simp [Downloader.step, take, wake, phase, ChunkQueue.dequeueOrClose_of_stopped stop]
    · simp [Downloader.step, take, proceed, phase, ChunkQueue.dequeueOrClose_of_stopped stop]
  | noticed phase stop =>
    rcases phase with phase | ⟨stream, phase⟩ <;> simp [Downloader.step, notice, phase, stop]
  | notOpened phase => simp [Downloader.step, opened, phase, failAll]
  | notHonored phase elsewhere often =>
    simp [Downloader.step, opened, connect, phase, elsewhere, often, failAll]
  | broken phase next => simp [Downloader.step, deliver, phase, next, failAll]
  | short phase next => simp [Downloader.step, deliver, phase, next, failAll]
  | silent phase => simp [Downloader.step, readTimedOut, phase, failAll]

theorem step_moves (d : Downloader) (e : Event) : Moves d e (d.step e).1 (d.step e).2 := by
  cases e with
  | take => exact take_moves d
  | opened answer => exact opened_moves d answer
  | deliver => exact deliver_moves d
  | readTimedOut => exact readTimedOut_moves d
  | notice => exact notice_moves d
  | failNext => exact failNext_moves d

theorem Fills.same {c : Chunk} {delivery : Delivery} {stream : Stream}
    (h : Fills d c delivery stream d' fired) :
    d'.identity = d.identity ∧ d'.options = d.options ∧ d'.queue = d.queue := by
  cases h <;> exact ⟨rfl, rfl, rfl⟩

theorem Moves.same (h : Moves d e d' fired) :
    d'.identity = d.identity ∧ d'.options = d.options ∧ d'.queue.fileSize = d.queue.fileSize := by
  cases h with
  | ends why =>
    obtain ⟨identity, options, queue, -⟩ := why.same
    have fileSize := congrArg ChunkQueue.fileSize queue
    exact ⟨identity, options, fileSize⟩
  | follows _ _ _ _ fills =>
    obtain ⟨identity, options, queue⟩ := fills.same
    have fileSize := congrArg ChunkQueue.fileSize queue
    exact ⟨identity, options, fileSize⟩
  | delivers _ _ _ fills =>
    obtain ⟨identity, options, queue⟩ := fills.same
    have fileSize := congrArg ChunkQueue.fileSize queue
    exact ⟨identity, options, fileSize⟩
  | _ => exact ⟨rfl, rfl, rfl⟩

theorem step_same (d : Downloader) (e : Event) :
    (d.step e).1.identity = d.identity ∧ (d.step e).1.options = d.options ∧
      (d.step e).1.queue.fileSize = d.queue.fileSize := (step_moves d e).same

/-- What becomes of a chunk that is offered. -/
inductive Enqueues (d : Downloader) (c : Chunk) :
    Except Chunk (Downloader × List Firing) → Prop where
  | completes (past : d.identity.size ≤ c.cursor) :
      Enqueues d c (.ok ({ d with
        stats := { d.stats with chunksCompleted := d.stats.chunksCompleted + 1 } }, [c.complete]))
  | queues (within : c.cursor < d.identity.size) (closed : d.queue.isClosed = false) :
      Enqueues d c (.ok ({ d with
        queue := { d.queue with
          pending := ChunkQueue.insert (c.clampTo d.queue.fileSize) d.queue.pending } }, []))
  | refuses (within : c.cursor < d.identity.size) (closed : d.queue.isClosed = true) :
      Enqueues d c (.error (c.clampTo d.queue.fileSize))

theorem enqueue_enqueues (d : Downloader) (c : Chunk) : Enqueues d c (d.enqueue c) := by
  unfold enqueue ChunkQueue.enqueue
  by_cases past : d.identity.size ≤ c.cursor
  · rw [if_pos past]
    exact .completes past
  · rw [if_neg past]
    have within := Nat.lt_of_not_le past
    cases closed : d.queue.isClosed with
    | false => exact .queues within closed
    | true => exact .refuses within closed

theorem Enqueues.signal_of_error {c c' : Chunk} (h : Enqueues d c (.error c')) :
    c'.signal = c.signal := by
  cases h
  rfl

end RangeFetch.Downloader

namespace RangeFetch.History

open Downloader (Happening Event Enqueues)

inductive Asks (h : History) (start limit : Nat) : History → Prop where
  | backwards {x : Firing} (fresh : Chunk.request h.asked.length start limit = .error x) :
      Asks h start limit { h with
        asked := h.asked ++ [(start, limit)]
        fired := h.fired ++ [x] }
  | accepts {c : Chunk} {d : Downloader} {fired : List Firing}
      (fresh : Chunk.request h.asked.length start limit = .ok c)
      (takes : Enqueues h.downloader c (.ok (d, fired))) :
      Asks h start limit { h with
        downloader := d
        asked := h.asked ++ [(start, limit)]
        fired := h.fired ++ fired }
  | handsBack {c c' : Chunk} (fresh : Chunk.request h.asked.length start limit = .ok c)
      (refuses : Enqueues h.downloader c (.error c')) :
      Asks h start limit { h with
        asked := h.asked ++ [(start, limit)]
        handedBack := h.handedBack ++ [c'] }

variable {h h' : History} {start limit : Nat}

theorem ask_asks (h : History) (start limit : Nat) : Asks h start limit (h.ask start limit) := by
  unfold ask
  cases fresh : Chunk.request h.asked.length start limit with
  | error x => exact .backwards fresh
  | ok c =>
    have enqueues := h.downloader.enqueue_enqueues c
    dsimp only
    cases outcome : h.downloader.enqueue c with
    | error c' =>
      rw [outcome] at enqueues
      exact .handsBack fresh enqueues
    | ok accepted =>
      rw [outcome] at enqueues
      exact .accepts fresh enqueues

theorem Asks.same (asks : Asks h start limit h') :
    h'.downloader.identity = h.downloader.identity := by
  cases asks with
  | backwards fresh => rfl
  | accepts fresh takes => cases takes <;> rfl
  | handsBack fresh refuses => rfl

theorem identity_step (h : History) (x : Happening) :
    (h.step x).downloader.identity = h.downloader.identity := by
  cases x with
  | ask start limit => exact (h.ask_asks start limit).same
  | stop => rfl
  | move e => exact (h.downloader.step_same e).1

theorem identity_run (xs : List Happening) (h : History) :
    (h.run xs).downloader.identity = h.downloader.identity := by
  induction xs generalizing h with
  | nil => rfl
  | cons x rest ih => rw [run, ih, identity_step]

theorem collect_downloader_induction {α : Type} (see : Downloader → Event → List α)
    {P : Downloader → List α → Prop}
    (offers : ∀ d c d' fired seen, Enqueues d c (.ok (d', fired)) → P d seen → P d' seen)
    (stops : ∀ d seen, P d seen → P d.stop seen)
    (moves : ∀ d e seen, P d seen → P (d.step e).1 (seen ++ see d e)) (xs : List Happening)
    (h : History) (seen : List α) (hp : P h.downloader seen) :
    P (h.run xs).downloader (seen ++ h.collect see xs) := by
  have asks (h : History) (seen : List α) (start limit : Nat) (hp : P h.downloader seen) :
      P (h.ask start limit).downloader seen := by
    have asks := h.ask_asks start limit
    generalize h.ask start limit = h' at asks
    cases asks with
    | backwards fresh => exact hp
    | accepts fresh takes => exact offers _ _ _ _ _ takes hp
    | handsBack fresh refuses => exact hp
  have stops (h : History) (seen : List α) : P h.downloader seen → P (h.step .stop).downloader seen :=
    stops h.downloader seen
  have moves (h : History) (seen : List α) (e : Event) :
      P h.downloader seen → P (h.move e).downloader (seen ++ see h.downloader e) :=
    moves h.downloader e seen
  exact collect_induction asks stops moves xs h seen hp

theorem downloader_induction {P : Downloader → Prop}
    (offers : ∀ d c d' fired, Enqueues d c (.ok (d', fired)) → P d → P d')
    (stops : ∀ d, P d → P d.stop) (moves : ∀ d e, P d → P (d.step e).1) (xs : List Happening)
    (h : History) (hp : P h.downloader) : P (h.run xs).downloader :=
  collect_downloader_induction (fun _ _ => ([] : List Unit)) (P := fun d _ => P d)
    (fun d c d' fired _ => offers d c d' fired) (fun d _ => stops d) (fun d e _ => moves d e) xs h
    [] hp

end RangeFetch.History
