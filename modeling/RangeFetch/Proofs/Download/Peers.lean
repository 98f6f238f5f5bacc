import RangeFetch.Source.Peers
import RangeFetch.Proofs.Download.Registers
import RangeFetch.Proofs.Download.Service
import RangeFetch.Proofs.Download.Turns

namespace RangeFetch

variable {ε : Type} {issue : ε → Request → Option (Except SourceError OpenedStream × ε)}
  {identity : FileIdentity} {options : DownloadOptions} {content : Bytes}
  {honours : String → Bool} {Ready : ε → Prop} {peers : List String}

/-- All peers of the list serve the content to its end, as long as the world is ready: one that
honours ranges gives out streams from where it is asked to, and any other from the first byte on. -/
structure PeersServe (issue : ε → Request → Option (Except SourceError OpenedStream × ε))
    (peers : List String) (identity : FileIdentity) (content : Bytes) (honours : String → Bool)
    (Ready : ε → Prop) : Prop where
  nonempty : peers ≠ []
  size : identity.size = content.length
  opens : ∀ base ∈ peers, ∀ w start, Ready w → start < content.length →
    ∃ opened w', issue w (.starting (contentUrl base identity.hash) start) = some (.ok opened, w') ∧
      opened.stream.offset = (if honours base then start else 0) ∧
      opened.stream.Delivers content ∧ Ready w'

namespace Downloader

variable {d : Downloader} {start : Nat}

theorem requesting_of_wants_stream (h : d.wants = .stream start) :
    ∃ c, d.phase = .requesting c ∧ c.cursor = start ∧ d.queue.stopped = false := by
  obtain ⟨c, phase⟩ := requesting_of_wants d start h
  simp only [wants, phase] at h
  split at h
  · cases h
  · rename_i running
    cases h
    exact ⟨c, phase, rfl, by simpa using running⟩

end Downloader

/-- A downloader that has been at work with the peers of the list for its source. -/
structure Tended (identity : FileIdentity) (options : DownloadOptions) (peers : List String)
    (Ready : ε → Prop) (u : Underway (PeerList × ε)) : Prop where
  history : ∃ xs, u.history = (History.start identity options).run xs
  recorded : u.Recorded
  held : u.held = none
  peers : u.world.1.peers = peers
  ready : Ready u.world.2

structure Answered (identity : FileIdentity) (content : Bytes) (honours : String → Bool)
    (Ready : ε → Prop) (c : Chunk) (u u' : Underway (PeerList × ε)) (stream : Stream) : Prop where
  history : u'.history = u.history.move (.opened (.ok stream))
  held : u'.held = none
  turn : u'.world.1 = u.world.1.skip 1
  ready : Ready u'.world.2
  openings : u'.openings = u.openings ++
    [⟨c.signal, .starting (contentUrl (u.world.1.peer 0) identity.hash) c.cursor⟩]
  offset : stream.offset = if honours (u.world.1.peer 0) then c.cursor else 0
  delivers : stream.Delivers content

theorem Answered.connects {c : Chunk} {u u' : Underway (PeerList × ε)} {stream : Stream}
    (h : Answered identity content honours Ready c u u' stream)
    (phase : u.downloader.phase = .requesting c) :
    u'.downloader = u.downloader.connect c stream := by
  rw [Underway.downloader, h.history]
  simp [History.move, Downloader.step, Downloader.opened, phase]

namespace Tended

variable {u : Underway (PeerList × ε)} {c : Chunk}

theorem start {turn : Nat} {w : ε} (ready : Ready w) :
    Tended identity options peers Ready (.start identity options (⟨peers, turn⟩, w)) := by
  refine ⟨⟨[], rfl⟩, ?_, rfl, rfl, ready⟩
  intro o mem
  cases mem

theorem placed (h : Tended identity options peers Ready u) : u.history.Placed := by
  obtain ⟨xs, history⟩ := h.history
  rw [history]
  exact History.placed_run xs _ (History.placed_start identity options)

theorem paced (h : Tended identity options peers Ready u) : u.downloader.Paced := by
  obtain ⟨xs, history⟩ := h.history
  rw [Underway.downloader, history]
  exact (History.metered_run xs identity options).paced

theorem fresh (h : Tended identity options peers Ready u) : u.downloader.Fresh := by
  obtain ⟨xs, history⟩ := h.history
  rw [Underway.downloader, history]
  exact (History.steady_run xs identity options).fresh

theorem same (h : Tended identity options peers Ready u) :
    u.downloader.identity = identity ∧ u.downloader.options = options := by
  obtain ⟨xs, history⟩ := h.history
  rw [Underway.downloader, history]
  exact ⟨History.identity_run xs _, History.options_run xs identity options⟩

theorem isWithin (h : Tended identity options peers Ready u)
    (size : identity.size = content.length) (there : c ∈ u.downloader.outstanding) :
    c.IsWithin content.length := by
  obtain ⟨xs, history⟩ := h.history
  have bounded := History.bounded_run xs identity options
  rw [← history] at bounded
  rw [← size, ← h.same.1]
  exact bounded c there

theorem request (h : Tended identity options peers Ready u)
    (serve : PeersServe issue peers identity content honours Ready)
    (phase : u.downloader.phase = .requesting c) :
    ∃ stream, Answered identity content honours Ready c u
      (u.request (PeerList.supplier issue) c.cursor) stream := by
  have within :=
    (h.isWithin serve.size (Downloader.mem_outstanding_of_requesting phase)).cursor
  have nonempty : u.world.1.peers ≠ [] := by rw [h.peers]; exact serve.nonempty
  have listed : u.world.1.peer 0 ∈ peers := by
    rw [← h.peers]
    exact PeerList.peer_mem nonempty 0
  obtain ⟨opened, w', issued, offset, delivers, ready⟩ := serve.opens _ listed _ _ h.ready within
  have asks : u.downloader.nextRequest (PeerList.supplier issue) u.held u.world c.cursor =
      (.ok (.starting (contentUrl (u.world.1.peer 0) identity.hash) c.cursor),
        (u.world.1.skip 1, u.world.2)) := by
    simp only [Downloader.nextRequest, h.held, h.same.1, Supplier.locate, PeerList.supplier,
      PeerList.resolve_of_ne_nil nonempty]
  have answers : (PeerList.supplier issue).issue (u.world.1.skip 1, u.world.2)
      (.starting (contentUrl (u.world.1.peer 0) identity.hash) c.cursor) =
        some (.ok opened, (u.world.1.skip 1, w')) := by
    simp only [PeerList.supplier, issued]
    rfl
  refine ⟨opened.stream, ?_⟩
  simp only [Underway.request, asks, answers, phase]
  exact ⟨rfl, rfl, rfl, ready, rfl, offset, delivers⟩

theorem step (h : Tended identity options peers Ready u)
    (serve : PeersServe issue peers identity content honours Ready) (t : Turn) :
    Tended identity options peers Ready (u.step (PeerList.supplier issue) t) := by
  have recorded := h.recorded.step h.placed (PeerList.supplier issue) t
  have history : ∃ xs, (u.step (PeerList.supplier issue) t).history =
      (History.start identity options).run xs := by
    obtain ⟨xs, before⟩ := h.history
    obtain ⟨ys, now, -⟩ := Underway.history_step (PeerList.supplier issue) u t
    exact ⟨xs ++ ys, by rw [now, before, History.run_append]⟩
  suffices rest : (u.step (PeerList.supplier issue) t).held = none ∧
      (u.step (PeerList.supplier issue) t).world.1.peers = peers ∧
      Ready (u.step (PeerList.supplier issue) t).world.2 from
    ⟨history, recorded, rest.1, rest.2.1, rest.2.2⟩
  cases t with
  | ask start limit => exact ⟨h.held, h.peers, h.ready⟩
  | stop => exact ⟨h.held, h.peers, h.ready⟩
  | expire =>
    simp only [Underway.step, Underway.expire]
    split
    · exact ⟨rfl, h.peers, h.ready⟩
    · exact ⟨h.held, h.peers, h.ready⟩
  | go =>
    simp only [Underway.step, Underway.go]
    split
    · exact ⟨rfl, h.peers, h.ready⟩
    · rename_i wants
      obtain ⟨c, phase, rfl, -⟩ := Downloader.requesting_of_wants_stream wants
      obtain ⟨stream, answered⟩ := h.request serve phase
      refine ⟨answered.held, ?_, answered.ready⟩
      rw [answered.turn]
      exact h.peers
    · exact ⟨h.held, h.peers, h.ready⟩

theorem run (h : Tended identity options peers Ready u)
    (serve : PeersServe issue peers identity content honours Ready) (ts : List Turn) :
    Tended identity options peers Ready (u.run (PeerList.supplier issue) ts) := by
  induction ts generalizing u with
  | nil => exact h
  | cons t rest ih => exact ih (h.step serve t)

end Tended

end RangeFetch
