import RangeFetch.Proofs.Download.Peers

namespace RangeFetch

open Downloader (Ends Nearer)

variable {ε : Type} {issue : ε → Request → Option (Except SourceError OpenedStream × ε)}
  {identity : FileIdentity} {options : DownloadOptions} {content : Bytes}
  {honours : String → Bool} {Ready : ε → Prop} {peers : List String}

/-- A chunk for which the peers are asked in turn, and the number of those that are asked in vain
before the one with which it is decided. -/
structure Quest where
  list : PeerList
  identity : FileIdentity
  content : Bytes
  honours : String → Bool
  chunk : Chunk
  last : Nat

namespace Quest

/-- The requests to the first `n` peers. -/
def requests (q : Quest) (n : Nat) : List Request :=
  q.list.requests q.identity q.chunk.offset n

/-- The chunk has no bytes yet and does not begin at the first byte of the content. All peers before
the last one ignore ranges, and the last one does not or is the last that may be asked. -/
structure Decided (q : Quest) (most : Nat) : Prop where
  fresh : q.chunk.buffer = []
  inside : 0 < q.chunk.offset
  within : q.chunk.IsWithin q.content.length
  few : q.last ≤ most
  vain : ∀ i < q.last, q.honours (q.list.peer i) = false
  decided : q.honours (q.list.peer q.last) = true ∨
    q.honours (q.list.peer q.last) = false ∧ q.last = most

/-- What the downloader is at while the chunk has no result. -/
inductive Seeking (q : Quest) (u : Underway (PeerList × ε)) : Prop where
  | asking (i : Nat) (few : i ≤ q.last) (phase : u.downloader.phase = .requesting q.chunk)
      (restarts : u.downloader.rangeRestarts = i) (turn : u.world.1 = q.list.skip i)
      (opened : u.openedFor q.chunk.signal = q.requests i)
  /-- The stream is the `i`-th that begins at the first byte, and has not shown it yet. -/
  | misled (i : Nat) (stream : Stream) (few : i ≤ q.last)
      (phase : u.downloader.phase = .streaming q.chunk stream)
      (restarts : u.downloader.rangeRestarts = i) (turn : u.world.1 = q.list.skip i)
      (opened : u.openedFor q.chunk.signal = q.requests i) (atFirst : stream.offset = 0)
      (plain : stream.IsPlain) (more : joinedBytes stream.items ≠ [])
  | fed (c : Chunk) (stream : Stream) (honoured : q.honours (q.list.peer q.last) = true)
      (phase : u.downloader.phase = .streaming c stream)
      (opened : u.openedFor q.chunk.signal = q.requests (q.last + 1))
      (feeds : c.IsFedBy q.content stream) (same : c.served q.content = q.chunk.served q.content)

/-- What the chunk's signal fires with unless the downloader is stopped. -/
def result (q : Quest) : Firing :=
  if q.honours (q.list.peer q.last) then q.chunk.served q.content
  else q.chunk.fail (.source (.rangeNotHonored q.chunk.offset (q.last + 1)))

/-- How the downloader's own turn ends the search. -/
inductive Concludes (q : Quest) (u u' : Underway (PeerList × ε)) : Prop where
  | serves (honoured : q.honours (q.list.peer q.last) = true)
      (settles : u'.Settling (q.requests (q.last + 1)) (q.chunk.served q.content))
  | fails {stream : Stream} {d₀ : Downloader}
      (ignored : q.honours (q.list.peer q.last) = false)
      (phase : u.downloader.phase = .requesting q.chunk)
      (why : Ends u.downloader (.opened (.ok stream)) d₀
        (.source (.rangeNotHonored q.chunk.offset (q.last + 1))))
      (history : u'.history = u.history.move (.opened (.ok stream)))
      (opened : u'.openedFor q.chunk.signal = q.requests (q.last + 1))
  | cancels (stopped : u.downloader.queue.stopped = true) (i : Nat) (few : i ≤ q.last + 1)
      (settles : u'.Settling (q.requests i) (q.chunk.fail .cancelled))

inductive Advances (q : Quest) (u u' : Underway (PeerList × ε)) : Prop where
  | nearer (seeks : q.Seeking u') (nearer : Nearer u'.downloader u.downloader)
  | ends (concludes : q.Concludes u u')

variable {q : Quest} {u u' : Underway (PeerList × ε)} {source : Supplier (PeerList × ε)}

theorem requests_succ (n : Nat) : q.requests (n + 1) = q.requests n ++
    [.starting (contentUrl (q.list.peer n) q.identity.hash) q.chunk.offset] :=
  q.list.requests_succ q.identity q.chunk.offset n

section Decided

variable {most i : Nat} {stream : Stream}

theorem Decided.eq_last (h : q.Decided most) (few : i ≤ q.last)
    (honoured : q.honours (q.list.peer i) = true) : i = q.last := by
  rcases Nat.lt_or_eq_of_le few with earlier | last
  · rw [h.vain i earlier] at honoured
    cases honoured
  · exact last

theorem Decided.inside_content (h : q.Decided most) : q.chunk.offset < q.content.length := by
  have within := h.within.cursor
  rw [Chunk.cursor_of_fresh h.fresh] at within
  exact within

theorem Decided.isFedBy (h : q.Decided most) (offset : stream.offset = q.chunk.cursor)
    (delivers : stream.Delivers q.content) : q.chunk.IsFedBy q.content stream := by
  refine ⟨offset.symm, delivers.plain, ?_, h.within.cursor, h.within.limit⟩
  rw [h.fresh, delivers.bytes, offset, Chunk.cursor_of_fresh h.fresh]
  rfl

theorem Decided.more (h : q.Decided most) (offset : stream.offset = 0)
    (delivers : stream.Delivers q.content) : joinedBytes stream.items ≠ [] := by
  intro none
  have inside := h.inside_content
  have length := congrArg List.length delivers.bytes
  rw [none, offset, List.length_drop, List.length_nil] at length
  omega

end Decided

theorem Seeking.opened (h : q.Seeking u) :
    ∃ i, i ≤ q.last + 1 ∧ u.openedFor q.chunk.signal = q.requests i := by
  cases h with
  | asking i few _ _ _ opened => exact ⟨i, Nat.le_succ_of_le few, opened⟩
  | misled i _ few _ _ _ opened => exact ⟨i, Nat.le_succ_of_le few, opened⟩
  | fed _ _ _ _ opened => exact ⟨q.last + 1, Nat.le_refl _, opened⟩

theorem Seeking.current (h : q.Seeking u) :
    ∃ b, b.signal = q.chunk.signal ∧
      (u.downloader.phase = .requesting b ∨ ∃ stream, u.downloader.phase = .streaming b stream) := by
  cases h with
  | asking _ _ phase => exact ⟨_, rfl, .inl phase⟩
  | misled _ stream _ phase => exact ⟨_, rfl, .inr ⟨stream, phase⟩⟩
  | fed c stream _ phase _ _ same => exact ⟨c, congrArg Firing.signal same, .inr ⟨stream, phase⟩⟩

theorem Seeking.outstanding (h : q.Seeking u) :
    ∃ b ∈ u.downloader.outstanding, b.signal = q.chunk.signal := by
  obtain ⟨b, signal, phase | ⟨stream, phase⟩⟩ := h.current
  · exact ⟨b, Downloader.mem_outstanding_of_requesting phase, signal⟩
  · exact ⟨b, Downloader.mem_outstanding_of_streaming phase, signal⟩

theorem Seeking.wants (h : q.Seeking u) (running : u.downloader.queue.stopped = false) :
    (u.downloader.phase = .requesting q.chunk ∧
        u.downloader.wants = .stream q.chunk.cursor) ∨ u.downloader.wants = .ready .deliver := by
  cases h with
  | asking _ _ phase => exact .inl ⟨phase, by simp [Downloader.wants, phase, running]⟩
  | misled _ stream _ phase _ _ _ _ plain more =>
    obtain ⟨delivered, rest, next⟩ := plain.next more
    exact .inr (Downloader.wants_of_streaming phase running next)
  | fed c stream _ phase _ feeds =>
    obtain ⟨delivered, rest, next⟩ := feeds.next
    exact .inr (Downloader.wants_of_streaming phase running next)

theorem Seeking.wants_of_stopped (h : q.Seeking u) (stopped : u.downloader.queue.stopped = true) :
    u.downloader.wants = .ready .notice := by
  obtain ⟨b, -, phase | ⟨stream, phase⟩⟩ := h.current <;> simp [Downloader.wants, phase, stopped]

theorem Seeking.congr (h : q.Seeking u) (phase : u'.downloader.phase = u.downloader.phase)
    (restarts : u'.downloader.rangeRestarts = u.downloader.rangeRestarts)
    (world : u'.world = u.world) (openings : u'.openings = u.openings) : q.Seeking u' := by
  have same : u'.openedFor q.chunk.signal = u.openedFor q.chunk.signal := by
    rw [Underway.openedFor, Underway.openedFor, openings]
  cases h with
  | asking i few phase' restarts' turn opened =>
    exact .asking i few (phase.trans phase') (restarts.trans restarts')
      ((congrArg Prod.fst world).trans turn) (same.trans opened)
  | misled i stream few phase' restarts' turn opened atFirst plain more =>
    exact .misled i stream few (phase.trans phase') (restarts.trans restarts')
      ((congrArg Prod.fst world).trans turn) (same.trans opened) atFirst plain more
  | fed c stream honoured phase' opened feeds alike =>
    exact .fed c stream honoured (phase.trans phase') (same.trans opened) feeds alike

theorem Seeking.go_of_stopped (h : q.Seeking u) (stopped : u.downloader.queue.stopped = true) :
    q.Advances u (u.go source) := by
  obtain ⟨b, signal, phase⟩ := h.current
  obtain ⟨i, few, opened⟩ := h.opened
  rw [Underway.go_of_ready (h.wants_of_stopped stopped)]
  have there : b ∈ u.downloader.outstanding := by
    rcases phase with phase | ⟨stream, phase⟩
    · exact Downloader.mem_outstanding_of_requesting phase
    · exact Downloader.mem_outstanding_of_streaming phase
  rw [← signal] at opened
  have settles : (u.move .notice).Settling (q.requests i) (b.fail .cancelled) :=
    Underway.settling_of_ends (.noticed phase stopped) rfl there opened
  rw [Chunk.fail, signal] at settles
  exact .ends (.cancels stopped i few settles)

theorem go_of_asking {i : Nat} (few : i ≤ q.last)
    (phase : u.downloader.phase = .requesting q.chunk) (restarts : u.downloader.rangeRestarts = i)
    (turn : u.world.1 = q.list.skip i) (opened : u.openedFor q.chunk.signal = q.requests i)
    (running : u.downloader.queue.stopped = false)
    (tended : Tended q.identity options peers Ready u)
    (serve : PeersServe issue peers q.identity q.content q.honours Ready)
    (decided : q.Decided options.maxRangeRestarts) :
    q.Advances u (u.go (PeerList.supplier issue)) := by
  have cursor := Chunk.cursor_of_fresh decided.fresh
  have wants : u.downloader.wants = .stream q.chunk.cursor := by
    simp [Downloader.wants, phase, running]
  obtain ⟨stream, answered⟩ := tended.request serve phase
  have goes : u.go (PeerList.supplier issue) =
      u.request (PeerList.supplier issue) q.chunk.cursor := by rw [Underway.go, wants]
  have nearer := Downloader.answer_nearer u.downloader _ (.ok stream) wants
  rw [goes]
  generalize u.request (PeerList.supplier issue) q.chunk.cursor = u' at answered
  have after := answered.connects phase
  have most := congrArg DownloadOptions.maxRangeRestarts tended.same.2
  obtain ⟨history, -, turn', -, openings, offset, delivers⟩ := answered
  rw [turn, PeerList.peer_skip] at openings offset
  rw [cursor] at openings
  have opened' : u'.openedFor q.chunk.signal = q.requests (i + 1) := by
    rw [requests_succ, ← opened]
    exact Underway.openedFor_concat openings
  have nearer' : Nearer u'.downloader u.downloader := by
    rw [Underway.downloader, history]
    exact nearer
  have later : u'.world.1 = q.list.skip (i + 1) := by
    rw [turn', turn]
    rfl
  by_cases honoured : q.honours (q.list.peer i) = true
  · obtain rfl := decided.eq_last few honoured
    rw [if_pos honoured] at offset
    rw [Downloader.connect, if_pos offset] at after
    exact .nearer (.fed q.chunk stream honoured (by rw [after]) opened'
      (decided.isFedBy offset delivers) rfl) nearer'
  · rw [if_neg honoured] at offset
    have inside := decided.inside
    have elsewhere : stream.offset ≠ q.chunk.cursor := by omega
    rcases Nat.lt_or_eq_of_le few with earlier | rfl
    · have seldom : ¬ u.downloader.options.maxRangeRestarts < u.downloader.rangeRestarts + 1 := by
        have few := decided.few
        omega
      simp only [Downloader.connect, if_neg elsewhere, if_neg seldom] at after
      exact .nearer (.misled (i + 1) stream earlier (by rw [after]) (by rw [after, restarts])
        later opened' offset delivers.plain (decided.more offset delivers)) nearer'
    · obtain ⟨ignored, last⟩ := decided.decided.resolve_left honoured
      have why := Ends.notHonored phase elsewhere (by omega)
      rw [restarts, cursor] at why
      exact .ends (.fails ignored phase why history opened')

theorem go_of_misled {i : Nat} {stream : Stream} (few : i ≤ q.last)
    (phase : u.downloader.phase = .streaming q.chunk stream)
    (restarts : u.downloader.rangeRestarts = i) (turn : u.world.1 = q.list.skip i)
    (opened : u.openedFor q.chunk.signal = q.requests i) (atFirst : stream.offset = 0)
    (plain : stream.IsPlain) (more : joinedBytes stream.items ≠ [])
    (running : u.downloader.queue.stopped = false)
    (decided : q.Decided options.maxRangeRestarts) : q.Advances u (u.go source) := by
  obtain ⟨delivered, rest, next⟩ := plain.next more
  obtain ⟨items, offset, -⟩ := Stream.of_next_bytes next
  have wants := Downloader.wants_of_streaming phase running next
  have nearer := Downloader.step_nearer u.downloader .deliver wants
  rw [Underway.go_of_ready wants]
  by_cases some : delivered = []
  · subst some
    have step : u.downloader.step .deliver = _ := Downloader.deliver_of_empty phase next
    have after : (u.move .deliver).downloader = (u.downloader.step .deliver).1 := rfl
    refine .nearer ?_ (nearer (by rw [step]))
    rw [step] at after
    refine .misled i rest few (by rw [after]) (by rw [after, restarts]) turn opened ?_
      (plain.rest next) ?_
    · rw [offset, atFirst]
      rfl
    · rw [items] at more
      exact more
  · have elsewhere : q.chunk.cursor ≠ stream.offset := by
      have inside := decided.inside
      rw [Chunk.cursor_of_fresh decided.fresh]
      omega
    have fills := Downloader.fill_fills u.downloader q.chunk ⟨stream.offset, delivered⟩ rest
    rw [← Downloader.deliver_of_bytes phase next some] at fills
    obtain ⟨seeks, quiet⟩ := fills.of_elsewhere elsewhere
    have after : (u.move .deliver).downloader = u.downloader.seek q.chunk := seeks
    refine .nearer (.asking i few (by rw [after]; rfl) ?_ turn opened) (nearer quiet)
    rw [after]
    exact restarts

theorem go_of_fed {c : Chunk} {stream : Stream}
    (honoured : q.honours (q.list.peer q.last) = true)
    (phase : u.downloader.phase = .streaming c stream)
    (opened : u.openedFor q.chunk.signal = q.requests (q.last + 1))
    (feeds : c.IsFedBy q.content stream) (same : c.served q.content = q.chunk.served q.content)
    (running : u.downloader.queue.stopped = false) (placed : u.history.Placed) :
    q.Advances u (u.go source) := by
  obtain ⟨delivered, rest, next⟩ := feeds.next
  obtain ⟨items, offset, -⟩ := Stream.of_next_bytes next
  have wants := Downloader.wants_of_streaming phase running next
  have nearer := Downloader.step_nearer u.downloader .deliver wants
  rw [Underway.go_of_ready wants]
  by_cases some : delivered = []
  · subst some
    have step : u.downloader.step .deliver = _ := Downloader.deliver_of_empty phase next
    have after : (u.move .deliver).downloader = (u.downloader.step .deliver).1 := rfl
    refine .nearer ?_ (nearer (by rw [step]))
    rw [step] at after
    exact .fed c rest honoured (by rw [after]) opened (feeds.pass next) same
  · have fills := Downloader.fill_fills u.downloader c ⟨stream.offset, delivered⟩ rest
    rw [← Downloader.deliver_of_bytes phase next some] at fills
    have bytes : c.buffer ++ (delivered ++ joinedBytes rest.items) = q.content.drop c.offset := by
      rw [← feeds.bytes, items]
      rfl
    rcases fills.feeds feeds.aligned offset.symm (feeds.plain.rest next) bytes feeds.limit with
      ⟨quiet, after, fed⟩ | ⟨fires, -⟩
    · exact .nearer (.fed (c.write delivered) rest honoured after opened fed same) (nearer quiet)
    · have there := Downloader.mem_outstanding_of_streaming phase
      rw [same] at fires
      have settled : (u.history.move .deliver).Settled (q.chunk.served q.content) :=
        placed.settled_of_fires there fires (congrArg Firing.signal same.symm)
      exact .ends (.serves honoured ⟨opened, .inr settled⟩)

theorem Seeking.go (h : q.Seeking u) (tended : Tended q.identity options peers Ready u)
    (serve : PeersServe issue peers q.identity q.content q.honours Ready)
    (decided : q.Decided options.maxRangeRestarts) :
    q.Advances u (u.go (PeerList.supplier issue)) := by
  cases running : u.downloader.queue.stopped with
  | true => exact h.go_of_stopped running
  | false =>
    cases h with
    | asking i few phase restarts turn opened =>
      exact go_of_asking few phase restarts turn opened running tended serve decided
    | misled i stream few phase restarts turn opened atFirst plain more =>
      exact go_of_misled few phase restarts turn opened atFirst plain more running decided
    | fed c stream honoured phase opened feeds same =>
      exact go_of_fed honoured phase opened feeds same running tended.placed

theorem Seeking.still (h : q.Seeking u) (source : Supplier (PeerList × ε)) {t : Turn}
    (other : t ≠ .go) :
    q.Seeking (u.step source t) ∧
      (u.step source t).downloader.phase = u.downloader.phase ∧
      (u.step source t).downloader.options = u.downloader.options ∧
      (u.step source t).downloader.rangeRestarts = u.downloader.rangeRestarts := by
  cases t with
  | go => exact absurd rfl other
  | stop => exact ⟨h.congr rfl rfl rfl rfl, rfl, rfl, rfl⟩
  | ask start limit =>
    obtain ⟨phase, options, restarts, -⟩ := (u.history.ask_asks start limit).keeps
    exact ⟨h.congr phase restarts rfl rfl, phase, options, restarts⟩
  | expire =>
    have alone : u.step source .expire = u := by
      rw [Underway.step, Underway.expire]
      cases running : u.downloader.queue.stopped with
      | true => rw [h.wants_of_stopped running]
      | false =>
        rcases h.wants running with ⟨-, wants⟩ | wants <;> rw [wants]
    rw [alone]
    exact ⟨h, rfl, rfl, rfl⟩

theorem Concludes.settling (h : q.Concludes u u') :
    u'.Settling (q.requests (q.last + 1)) q.result ∨ (u.downloader.queue.stopped = true ∧
      ∃ i, i ≤ q.last + 1 ∧ u'.Settling (q.requests i) (q.chunk.fail .cancelled)) := by
  cases h with
  | serves honoured settles =>
    left
    rw [result, if_pos honoured]
    exact settles
  | fails ignored phase why history opened =>
    left
    rw [result, if_neg (by rw [ignored]; simp)]
    exact Underway.settling_of_ends why history (Downloader.mem_outstanding_of_requesting phase)
      opened
  | cancels stopped i few settles => exact .inr ⟨stopped, i, few, settles⟩

end Quest

end RangeFetch
