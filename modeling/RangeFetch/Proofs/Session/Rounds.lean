import RangeFetch.Proofs.Session.Seats

namespace RangeFetch

namespace Session

/-- The file under a handle is not released; the place of its downloader in use. -/
def Keeps (s : Session) (handle : Nat) (identity : FileIdentity) (use : Option Nat) : Prop :=
  ∃ f, s.table.file? handle = some f ∧ f.identity = identity ∧ f.released = false ∧ f.inUse = use

/-- No chunk is outstanding anywhere, and what is open of the file delivers the content. -/
structure Calm (handle : Nat) (identity : FileIdentity) (content : Bytes) (Ready : World → Prop)
    (s : Session) : Prop where
  held : s.held = []
  ready : Ready s.world
  file : ∃ use, s.Keeps handle identity use ∧ ∀ k ∈ use,
    ∃ d, s.downloader? (.file handle k) = some d ∧ d.identity = identity ∧ d.Rests content
  free : ∀ seat d, s.downloader? seat = some d → d.IsFree

/-- A chunk waits at the file's downloader in use, for a signal that nothing follows. -/
structure Awaits (handle : Nat) (identity : FileIdentity) (content : Bytes) (Ready : World → Prop)
    (k : Nat) (c : Chunk) (s : Session) : Prop where
  held : s.held = []
  ready : Ready s.world
  file : s.Keeps handle identity (some k)
  chunk : ∃ d, s.downloader? (.file handle k) = some d ∧ d.identity = identity ∧
    d.Waiting content c
  free : ∀ seat, seat ≠ .file handle k → ∀ d, s.downloader? seat = some d → d.IsFree
  ticket : ∃ t, s.book.tickets[c.signal]? = some t ∧ t.plan = .done ∧ t.result = none

variable {handle k : Nat} {identity : FileIdentity} {content : Bytes} {Ready : World → Prop}
  {c : Chunk} {s : Session} {seat : Seat} {d d' : Downloader} {use : Option Nat}

theorem Keeps.setDownloader (h : s.Keeps handle identity use) (seat : Seat) (d : Downloader) :
    (s.setDownloader seat d).Keeps handle identity use := by
  obtain ⟨f, found, same, released, place⟩ := h
  obtain ⟨f', found', same', released', place'⟩ := file?_setDownloader found seat d
  exact ⟨f', found', same'.trans same, released'.trans released, place'.trans place⟩

theorem Calm.setDownloader (h : s.Calm handle identity content Ready)
    (found : s.downloader? seat = some d) (idles : d.Idles d') :
    (s.setDownloader seat d').Calm handle identity content Ready := by
  obtain ⟨world, held, -⟩ := s.same_setDownloader seat d'
  obtain ⟨use, keeps, rests⟩ := h.file
  refine ⟨held.trans h.held, by rw [world]; exact h.ready,
    ⟨use, keeps.setDownloader seat d', ?_⟩, ?_⟩
  · intro k mem
    obtain ⟨b, there, same, rest⟩ := rests k mem
    by_cases own : .file handle k = seat
    · subst own
      rw [found] at there
      cases there
      exact ⟨d', downloader?_setDownloader found d', idles.identity.trans same,
        idles.rests content rest⟩
    · exact ⟨b, (downloader?_setDownloader_ne own d').trans there, same, rest⟩
  · intro other b there
    rcases of_setDownloader found there with ⟨-, rfl⟩ | ⟨-, old⟩
    · exact idles.free
    · exact h.free other b old

theorem move_of_none (found : s.downloader? seat = none) : s.move seat = (s, false) := by
  simp [move, moveOnce, failingCount, found, moveOn]

theorem Calm.move (h : s.Calm handle identity content Ready) (seat : Seat) :
    (s.move seat).2 = false ∧ (s.move seat).1.Calm handle identity content Ready ∧
      (s.move seat).1.book = s.book := by
  cases found : s.downloader? seat with
  | none =>
    rw [move_of_none found]
    exact ⟨rfl, h, rfl⟩
  | some d =>
    obtain ⟨d', moves, idles⟩ := move_of_free h.held found (h.free seat d found)
    obtain ⟨-, -, book⟩ := s.same_setDownloader seat d'
    rw [moves]
    exact ⟨rfl, h.setDownloader found idles, book⟩

theorem Awaits.move_ne (h : s.Awaits handle identity content Ready k c)
    (apart : seat ≠ .file handle k) :
    (s.move seat).1.Awaits handle identity content Ready k c ∧
      (s.move seat).1.book = s.book := by
  cases found : s.downloader? seat with
  | none =>
    rw [move_of_none found]
    exact ⟨h, rfl⟩
  | some d =>
    obtain ⟨d', moves, idles⟩ := move_of_free h.held found (h.free seat apart d found)
    obtain ⟨world, held, book⟩ := s.same_setDownloader seat d'
    obtain ⟨b, there, waits⟩ := h.chunk
    rw [moves]
    refine ⟨⟨held.trans h.held, by rw [world]; exact h.ready, h.file.setDownloader seat d',
      ⟨b, (downloader?_setDownloader_ne apart.symm d').trans there, waits⟩, ?_,
      by rw [book]; exact h.ticket⟩, book⟩
    intro other other_ne b there
    rcases of_setDownloader found there with ⟨-, rfl⟩ | ⟨-, old⟩
    · exact idles.free
    · exact h.free other other_ne b old

theorem fire_of_done {x : Firing} {t : Ticket} (ticket : s.book.tickets[x.signal]? = some t)
    (plan : t.plan = .done) : s.fire x = { s with book := s.book.record x } := by
  simp only [fire, ticket, plan, follow, record]

theorem Awaits.served (h : s.Awaits handle identity content Ready k c) {w : World} (ready : Ready w)
    (same : d.identity = identity) (rests : d.Rests content) (book : SignalBook) :
    Session.Calm handle identity content Ready
      { Session.setDownloader { s with world := w } (.file handle k) d with book := book } := by
  obtain ⟨b, found, -⟩ := h.chunk
  have target : Session.downloader? { s with world := w } (.file handle k) = some b := found
  have now := downloader?_setDownloader target d
  obtain ⟨world, held, -⟩ := same_setDownloader { s with world := w } (.file handle k) d
  have keeps : Session.Keeps { s with world := w } handle identity (some k) := h.file
  refine ⟨held.trans h.held, ?_, ⟨some k, keeps.setDownloader _ d, ?_⟩, ?_⟩
  · rw [world]
    exact ready
  · intro j mem
    cases mem
    exact ⟨d, now, same, rests⟩
  · intro other b' there
    rcases of_setDownloader target there with ⟨-, rfl⟩ | ⟨own, old⟩
    · exact ⟨rests.sound, rests.outstanding⟩
    · exact h.free other own b' old

theorem Awaits.move (h : s.Awaits handle identity content Ready k c)
    (serves : World.supplier.Serves content identity Ready) :
    (s.move (.file handle k)).2 = true ∧
      (s.move (.file handle k)).1.Calm handle identity content Ready ∧
      (s.move (.file handle k)).1.book = s.book.record (c.served content) := by
  obtain ⟨d, found, same, waits⟩ := h.chunk
  obtain ⟨t, ticket, plan, -⟩ := h.ticket
  rw [← same] at serves
  obtain ⟨d', w', drive, rests, same', ready⟩ := waits.willServe h.ready serves
  have calm := h.served ready (same'.trans same) rests (s.book.record (c.served content))
  obtain ⟨-, held, book⟩ := same_setDownloader { s with world := w' } (.file handle k) d'
  have target : Session.downloader? { s with world := w' } (.file handle k) = some d := found
  have now := downloader?_setDownloader target d'
  generalize set : Session.setDownloader { s with world := w' } (.file handle k) d' = moved
    at calm held book now
  have fire : moved.fire (c.served content) =
      { moved with book := s.book.record (c.served content) } := by
    rw [← book] at ticket ⊢
    exact fire_of_done ticket plan
  have moves : s.moveOnce (.file handle k) =
      ({ moved with book := s.book.record (c.served content) }, true) := by
    have lookup : s.held.lookup (.file handle k) = none := by rw [h.held]; rfl
    simp only [moveOnce, found, lookup, drive, set]
    rw [setHeld_none (held.trans h.held), fireAll, List.foldl_cons, List.foldl_nil, fire]
    rfl
  have count : failingCount { moved with book := s.book.record (c.served content) }
      (.file handle k) = 0 := failingCount_of_free now ⟨rests.sound, rests.outstanding⟩
  rw [Session.move, moves]
  simp only [count]
  exact ⟨trivial, calm, rfl⟩

def visit (acc : Session × Bool) (seat : Seat) : Session × Bool :=
  ((acc.1.move seat).1, acc.2 || (acc.1.move seat).2)

theorem round_eq (s : Session) : s.round = s.seats.foldl visit (s, false) := rfl

theorem Calm.visits (h : s.Calm handle identity content Ready) (fired : Bool) (seats : List Seat) :
    (seats.foldl visit (s, fired)).2 = fired ∧
      (seats.foldl visit (s, fired)).1.Calm handle identity content Ready ∧
      (seats.foldl visit (s, fired)).1.book = s.book := by
  induction seats generalizing s with
  | nil => exact ⟨rfl, h, rfl⟩
  | cons seat rest ih =>
    obtain ⟨quiet, calm, book⟩ := h.move seat
    obtain ⟨same, calm', book'⟩ := ih calm
    rw [List.foldl_cons, visit, quiet, Bool.or_false]
    exact ⟨same, calm', book'.trans book⟩

theorem Awaits.visits (h : s.Awaits handle identity content Ready k c)
    (serves : World.supplier.Serves content identity Ready) (fired : Bool) (seats : List Seat)
    (among : .file handle k ∈ seats) :
    (seats.foldl visit (s, fired)).2 = true ∧
      (seats.foldl visit (s, fired)).1.Calm handle identity content Ready ∧
      (seats.foldl visit (s, fired)).1.book = s.book.record (c.served content) := by
  induction seats generalizing s fired with
  | nil => cases among
  | cons seat rest ih =>
    rw [List.foldl_cons, visit]
    by_cases own : seat = .file handle k
    · subst own
      obtain ⟨fires, calm, book⟩ := h.move serves
      rw [fires, Bool.or_true]
      obtain ⟨same, calm', book'⟩ := calm.visits true rest
      exact ⟨same, calm', book'.trans book⟩
    · obtain ⟨waits, book⟩ := h.move_ne own
      have later : .file handle k ∈ rest := (List.mem_cons.mp among).resolve_left (Ne.symm own)
      obtain ⟨fires, calm, book'⟩ := ih waits _ later
      rw [book] at book'
      exact ⟨fires, calm, book'⟩

theorem Calm.round (h : s.Calm handle identity content Ready) :
    s.round.2 = false ∧ s.round.1.Calm handle identity content Ready ∧
      s.round.1.book = s.book := by
  rw [round_eq]
  exact h.visits false s.seats

theorem Awaits.round (h : s.Awaits handle identity content Ready k c)
    (serves : World.supplier.Serves content identity Ready) :
    s.round.2 = true ∧ s.round.1.Calm handle identity content Ready ∧
      s.round.1.book = s.book.record (c.served content) := by
  obtain ⟨d, found, -⟩ := h.chunk
  rw [round_eq]
  exact h.visits serves false s.seats (mem_seats found)

theorem Calm.rounds (h : s.Calm handle identity content Ready) (count : Nat) :
    (rounds (count + 1) s).Calm handle identity content Ready ∧
      (rounds (count + 1) s).book = s.book := by
  obtain ⟨quiet, calm, book⟩ := h.round
  rw [Session.rounds, quiet]
  exact ⟨calm, book⟩

theorem Calm.settle (h : s.Calm handle identity content Ready) :
    s.settle.Calm handle identity content Ready ∧ s.settle.book = s.book :=
  h.rounds s.book.weight

theorem weight_pos {b : SignalBook} {n : Nat} {t : Ticket} (ticket : b.tickets[n]? = some t)
    (waits : t.result = none) : 0 < b.weight := by
  have sum : b.weight = (b.tickets.map Ticket.weight).sum := by
    rw [List.sum_eq_foldl, List.foldl_map]
    rfl
  rw [sum, List.sum_pos_iff_exists_pos_nat]
  refine ⟨t.weight, List.mem_map_of_mem (List.mem_of_getElem? ticket), ?_⟩
  rw [Ticket.weight, if_pos (by rw [Ticket.isOpen, waits]; rfl)]
  omega

theorem Awaits.settle (h : s.Awaits handle identity content Ready k c)
    (serves : World.supplier.Serves content identity Ready) :
    s.settle.Calm handle identity content Ready ∧
      s.settle.book = s.book.record (c.served content) := by
  obtain ⟨fires, calm, book⟩ := h.round serves
  obtain ⟨t, ticket, -, waits⟩ := h.ticket
  obtain ⟨count, more⟩ := Nat.exists_eq_succ_of_ne_zero (Nat.ne_of_gt (weight_pos ticket waits))
  have rest : Session.rounds (count + 1 + 1) s = Session.rounds (count + 1) s.round.1 := by
    rw [Session.rounds, fires, if_pos rfl]
  obtain ⟨calm', book'⟩ := calm.rounds count
  rw [Session.settle, more, rest]
  exact ⟨calm', book'.trans book⟩

end Session

end RangeFetch
