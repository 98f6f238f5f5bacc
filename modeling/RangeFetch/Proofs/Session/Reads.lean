import RangeFetch.Proofs.File.Slices
import RangeFetch.Proofs.Session.Rounds
import RangeFetch.Session.Operations

namespace RangeFetch

namespace StreamingFile

variable {f : StreamingFile} {c : Chunk} {j : Nat} {d : Downloader}

theorem mem_of_renew (there : f.renew.downloaders[j]? = some d) (other : f.renew.inUse ≠ some j) :
    d ∈ f.downloaders := by
  unfold renew at there other
  split at there
  · exact List.mem_of_getElem? there
  · rename_i served
    rw [if_neg served] at other
    have older : j < f.downloaders.length := by
      have short := (List.getElem?_eq_some_iff.mp there).1
      have apart : f.downloaders.length ≠ j := fun same => other (congrArg some same)
      simp only [launch, List.length_append, List.length_singleton] at short
      omega
    rw [launch, List.getElem?_append_left older] at there
    exact List.mem_of_getElem? there

theorem mem_of_accept (there : (f.accept c).1.downloaders[j]? = some d)
    (other : (f.accept c).1.inUse ≠ some j) : ∃ b ∈ f.downloaders, d = b ∨ d = b.stop := by
  have before : ∃ b, f.renew.downloaders[j]? = some b ∧ (d = b ∨ d = b.stop) := by
    unfold accept at there other
    rcases f.renew.offer_cases c with ⟨c', -, offer⟩ | ⟨k, b, b', fired, use, -, -, offer⟩
    · rw [offer] at there
      obtain ⟨b, old, rfl⟩ := Option.map_eq_some_iff.mp ((getElem?_stopAll ..).symm.trans there)
      exact ⟨b, old, by split <;> simp⟩
    · rw [offer] at there other
      have apart : k ≠ j := fun same => other (use.trans (congrArg some same))
      obtain ⟨b, old, rfl⟩ := Option.map_eq_some_iff.mp ((getElem?_stopAll ..).symm.trans there)
      rw [List.getElem?_set_ne apart] at old
      exact ⟨b, old, by split <;> simp⟩
  obtain ⟨b, there', same⟩ := before
  refine ⟨b, mem_of_renew there' ?_, same⟩
  intro use
  apply other
  unfold accept
  rcases f.renew.offer_cases c with ⟨c', -, offer⟩ | ⟨k, b, b', fired, -, -, -, offer⟩ <;>
    rw [offer] <;> exact use

end StreamingFile

namespace World

/-- All requests are answered by a store that has the content and no faults. -/
def Stored (identity : FileIdentity) (content : Bytes) (w : World) : Prop :=
  w.origin = .store ∧ w.resolver = .store ∧ w.gateOpen = true ∧ w.store.faults = .none ∧
    w.store.content? identity.hash = some content

theorem supplier_serves (content : Bytes) (identity : FileIdentity) :
    supplier.Serves content identity (Stored identity content) := by
  intro w start ready within
  obtain ⟨origin, resolver, gate, store⟩ := ready
  obtain ⟨opened, m, opens, offset, delivers, ready'⟩ :=
    MemoryStore.supplier_serves content identity w.store start store within
  unfold Supplier.openContent Supplier.locate at opens ⊢
  simp only [MemoryStore.supplier, supplier, resolve, resolver] at opens ⊢
  cases found : w.store.resolve identity with
  | error e =>
    rw [found] at opens
    cases opens
  | ok url =>
    rw [found] at opens
    simp only [Option.some.injEq] at opens
    refine ⟨opened, { w with
      requests := w.requests ++ [.starting url start]
      store := m }, ?_, offset, delivers, origin, resolver, gate, ready'⟩
    simp [gate, issue, answer, origin, opens]

end World

namespace Session

variable {handle : Nat} {identity : FileIdentity} {content : Bytes} {Ready : World → Prop}
  {c : Chunk} {s : Session} {seat : Seat} {f : StreamingFile}

theorem downloader?_setFile (found : s.table.file? handle = some f) (f' : StreamingFile)
    (book : SignalBook) (k : Nat) :
    Session.downloader? { s with table := s.table.setFile handle f', book := book }
      (.file handle k) = f'.downloaders[k]? := by
  rw [downloader?, FileTable.file?_setFile found, Option.bind_some]

theorem downloader?_setFile_ne (apart : ∀ k, seat ≠ .file handle k) (f' : StreamingFile)
    (book : SignalBook) :
    Session.downloader? { s with table := s.table.setFile handle f', book := book } seat =
      s.downloader? seat := by
  cases seat with
  | single k => rfl
  | file other k =>
    have away : other ≠ handle := fun same => apart k (by rw [same])
    rw [downloader?, downloader?, FileTable.file?_setFile_ne away]

theorem Calm.isReady (h : s.Calm handle identity content Ready)
    (size : identity.size = content.length) :
    ∃ f, s.table.file? handle = some f ∧ f.identity = identity ∧ f.IsReady content ∧
      ∀ d ∈ f.downloaders, d.IsFree := by
  obtain ⟨use, ⟨f, found, same, released, place⟩, rests⟩ := h.file
  have seated : ∀ k, s.downloader? (.file handle k) = f.downloaders[k]? := by
    intro k
    rw [downloader?, found, Option.bind_some]
  refine ⟨f, found, same, ⟨released, by rw [same, size], ?_, ?_⟩, ?_⟩
  · intro k inUse
    obtain ⟨d, there, -⟩ := rests k (place.symm.trans inUse)
    rw [seated] at there
    exact (List.getElem?_eq_some_iff.mp there).1
  · intro d current
    obtain ⟨k, inUse, there⟩ := Option.bind_eq_some_iff.mp current
    obtain ⟨d', there', same', rest⟩ := rests k (place.symm.trans inUse)
    rw [seated, there] at there'
    cases there'
    exact ⟨rest, same'.trans same.symm⟩
  · intro d mem
    obtain ⟨k, there⟩ := List.mem_iff_getElem?.mp mem
    exact h.free (.file handle k) d ((seated k).trans there)

theorem Calm.setFile (h : s.Calm handle identity content Ready)
    (found : s.table.file? handle = some f) (f' : StreamingFile) (same : f'.identity = identity)
    (ready : f'.IsReady content) (free : ∀ d ∈ f'.downloaders, d.IsFree) (book : SignalBook) :
    Session.Calm handle identity content Ready
      { s with table := s.table.setFile handle f', book := book } := by
  refine ⟨h.held, h.ready,
    ⟨f'.inUse, ⟨f', FileTable.file?_setFile found f', same, ready.released, rfl⟩, ?_⟩, ?_⟩
  · intro k inUse
    have short := ready.place k inUse
    have there := List.getElem?_eq_getElem short
    obtain ⟨rest, same'⟩ := ready.current _ (Option.bind_eq_some_iff.mpr ⟨k, inUse, there⟩)
    exact ⟨_, (downloader?_setFile found f' book k).trans there, same'.trans same, rest⟩
  · intro seat d there
    by_cases own : ∃ k, seat = .file handle k
    · obtain ⟨k, rfl⟩ := own
      rw [downloader?_setFile found] at there
      exact free d (List.mem_of_getElem? there)
    · rw [downloader?_setFile_ne (fun k same => own ⟨k, same⟩)] at there
      exact h.free seat d there

theorem Calm.accept (h : s.Calm handle identity content Ready)
    (size : identity.size = content.length) (found : s.table.file? handle = some f)
    (fresh : c.buffer = []) (within : c.offset < content.length) {book : SignalBook} {t : Ticket}
    (ticket : book.tickets[c.signal]? = some t) (plan : t.plan = .done) (waits : t.result = none) :
    ∃ k, Session.Awaits handle identity content Ready k (c.clampTo content.length)
      { s with table := s.table.setFile handle (f.accept c).1, book := book } := by
  obtain ⟨f', found', same, ready, free⟩ := h.isReady size
  rw [found] at found'
  cases found'
  obtain ⟨k, d, use, there, -, released, identity', same', waiting⟩ := ready.accept fresh within
  refine ⟨k, h.held, h.ready, ⟨_, FileTable.file?_setFile found _, identity'.trans same,
    released.trans ready.released, use⟩, ⟨d, ?_, same'.trans same, waiting⟩, ?_,
    t, ticket, plan, waits⟩
  · rw [downloader?_setFile found]
    exact there
  · intro seat apart b place
    by_cases own : ∃ j, seat = .file handle j
    · obtain ⟨j, rfl⟩ := own
      rw [downloader?_setFile found] at place
      have other : (f.accept c).1.inUse ≠ some j := by
        rw [use]
        intro same
        cases same
        exact apart rfl
      obtain ⟨a, mem, rfl | rfl⟩ := StreamingFile.mem_of_accept place other
      · exact free b mem
      · exact ⟨(free a mem).sound.stop, (free a mem).outstanding⟩
    · rw [downloader?_setFile_ne (fun j same => own ⟨j, same⟩)] at place
      exact h.free seat b place

theorem result?_record {b : SignalBook} {x : Firing} {t : Ticket}
    (ticket : b.tickets[x.signal]? = some t) : (b.record x).result? x.signal = some x.result := by
  have short := (List.getElem?_eq_some_iff.mp ticket).1
  simp [SignalBook.record, SignalBook.result?, ticket, List.getElem?_set_self short]

theorem Awaits.served_settle {k : Nat} (h : s.Awaits handle identity content Ready k c)
    (serves : World.supplier.Serves content identity Ready) :
    s.settle.Calm handle identity content Ready ∧
      s.settle.book.result? c.signal = some (c.served content).result := by
  obtain ⟨t, ticket, -⟩ := h.ticket
  obtain ⟨settled, book⟩ := h.settle serves
  rw [book]
  exact ⟨settled, result?_record (x := c.served content) ticket⟩

theorem await_of_done {isDone : Session → Bool} (done : isDone s = true) : s.await isDone = s := by
  rw [await, awaitWithin, if_pos done]

theorem readFile_of_served {s' : Session} {signal offset size : Nat} {fired : List Firing}
    {data : ChunkData}
    (asked : s.enqueueOn handle none offset (StreamingFile.readLimit offset size) .done =
      (.ok signal, s', fired))
    (served : (s'.fireAll fired).settle.book.result? signal = some (.served data)) :
    s.readFile handle offset size = (.data data.data, (s'.fireAll fired).settle) := by
  have done : ((s'.fireAll fired).settle.book.result? signal).isSome = true := by
    rw [served]
    rfl
  have waited : (s'.fireAll fired).settle.await (fun s => (s.book.result? signal).isSome) =
      (s'.fireAll fired).settle := await_of_done done
  simp only [readFile, asked, waited, served]
  rfl

theorem Calm.fire (h : s.Calm handle identity content Ready) {x : Firing} {t : Ticket}
    (ticket : s.book.tickets[x.signal]? = some t) (plan : t.plan = .done) :
    (s.fireAll [x]).settle.Calm handle identity content Ready ∧
      (s.fireAll [x]).settle.book.result? x.signal = some x.result := by
  have calm : Session.Calm handle identity content Ready { s with book := s.book.record x } :=
    ⟨h.held, h.ready, h.file, h.free⟩
  obtain ⟨settled, book⟩ := calm.settle
  rw [fireAll, List.foldl_cons, List.foldl_nil, fire_of_done ticket plan, book]
  exact ⟨settled, result?_record ticket⟩

section Reads

variable {offset : Nat}

theorem ticket_issue (b : SignalBook) (handle : Nat) :
    (b.issue none handle .done).2.tickets[b.tickets.length]? =
      some ⟨none, handle, .done, none⟩ := by
  simp [SignalBook.issue]

theorem Calm.readFile_of_past (h : s.Calm handle identity content Ready)
    (size : identity.size = content.length) (within : offset < Limits.offsetBound)
    (past : content.length ≤ offset) (count : Nat) :
    ∃ s', s.readFile handle offset count = (.data [], s') ∧
      s'.Calm handle identity content Ready := by
  obtain ⟨f, found, same, ready, free⟩ := h.isReady size
  have ordered := StreamingFile.le_readLimit within count
  have beyond : f.identity.size ≤ offset := by rw [same, size]; exact past
  have asked : s.enqueueOn handle none offset (StreamingFile.readLimit offset count) .done =
      (.ok s.book.tickets.length,
        { s with
          table := s.table.setFile handle f.countComplete
          book := (s.book.issue none handle .done).2 },
        [⟨s.book.tickets.length, .served ⟨offset, []⟩⟩]) := by
    simp [enqueueOn, found, SignalBook.issue, StreamingFile.enqueue, Chunk.request, ordered,
      ready.released, beyond, Chunk.complete, Except.map]
  have calm := h.setFile found f.countComplete same
    ⟨ready.released, ready.size, ready.place, ready.current⟩ free
    (s.book.issue none handle .done).2
  obtain ⟨settled, served⟩ := calm.fire (x := ⟨s.book.tickets.length, .served ⟨offset, []⟩⟩)
    (ticket_issue s.book handle) rfl
  exact ⟨_, readFile_of_served asked served, settled⟩

theorem Calm.readFile_of_within (h : s.Calm handle identity content Ready)
    (size : identity.size = content.length) (bound : content.length < Limits.offsetBound)
    (serves : World.supplier.Serves content identity Ready) (within : offset < content.length)
    (count : Nat) :
    ∃ s', s.readFile handle offset count = (.data ((content.drop offset).take count), s') ∧
      s'.Calm handle identity content Ready := by
  obtain ⟨f, found, same, ready, free⟩ := h.isReady size
  have ordered := StreamingFile.le_readLimit (Nat.lt_trans within bound) count
  have inside : ¬ f.identity.size ≤ offset := by rw [same, size]; omega
  obtain ⟨c, request⟩ : ∃ c, Chunk.request s.book.tickets.length offset
      (StreamingFile.readLimit offset count) = .ok c := ⟨_, dif_pos ordered⟩
  obtain ⟨signal, rfl, limit, fresh, -⟩ := Chunk.of_request request
  obtain ⟨-, -, -, -, silent, -⟩ := ready.accept fresh within
  have asked : s.enqueueOn handle none c.offset (StreamingFile.readLimit c.offset count) .done =
      (.ok s.book.tickets.length,
        { s with
          table := s.table.setFile handle (f.accept c).1
          book := (s.book.issue none handle .done).2 }, []) := by
    simp [enqueueOn, found, SignalBook.issue, StreamingFile.enqueue, request, ready.released,
      inside, silent, Except.map]
  have ticket := ticket_issue s.book handle
  rw [← signal] at ticket
  obtain ⟨k, awaits⟩ := h.accept size found fresh within ticket rfl rfl
  obtain ⟨settled, served⟩ := awaits.served_settle serves
  rw [StreamingFile.served_read fresh limit within bound, Chunk.signal_clampTo, signal] at served
  exact ⟨_, readFile_of_served asked served, settled⟩

theorem Calm.readFile (h : s.Calm handle identity content Ready)
    (size : identity.size = content.length) (bound : content.length < Limits.offsetBound)
    (serves : World.supplier.Serves content identity Ready) (within : offset < Limits.offsetBound)
    (count : Nat) :
    ∃ s', s.readFile handle offset count = (.data ((content.drop offset).take count), s') ∧
      s'.Calm handle identity content Ready := by
  by_cases past : content.length ≤ offset
  · rw [List.drop_eq_nil_of_le past, List.take_nil]
    exact h.readFile_of_past size within past count
  · exact h.readFile_of_within size bound serves (Nat.lt_of_not_le past) count

theorem Calm.runAll (h : s.Calm handle identity content Ready)
    (size : identity.size = content.length) (bound : content.length < Limits.offsetBound)
    (serves : World.supplier.Serves content identity Ready) (reads : List (Nat × Nat))
    (within : ∀ r ∈ reads, r.1 < Limits.offsetBound) :
    (s.runAll (reads.map fun r => .fileRead handle r.1 r.2)).1 =
      reads.map fun r => .data ((content.drop r.1).take r.2) := by
  induction reads generalizing s with
  | nil => rfl
  | cons r rest ih =>
    obtain ⟨first, later⟩ := List.forall_mem_cons.mp within
    obtain ⟨s', answer, calm⟩ := h.readFile size bound serves first r.2
    have run : s.run (.fileRead handle r.1 r.2) = s.readFile handle r.1 r.2 := rfl
    simp only [List.map_cons, Session.runAll, run, answer]
    rw [ih calm later]

end Reads

theorem calm_openFile (w : World) (options : DownloadOptions) (ready : Ready w) :
    ((start w options).run (.openFile identity)).2.Calm 1 identity content Ready := by
  refine ⟨rfl, ready, ⟨none, ⟨.new identity options, rfl, rfl, rfl, rfl⟩, ?_⟩, ?_⟩
  · intro k mem
    cases mem
  · intro seat d there
    -- no downloader has been started
    rcases seat with ⟨_ | _ | n, k⟩ | k <;> cases there

/-- A session over a store that has no faults opens a file and reads it, anywhere and any number of
times: the answers are the bytes at their place. -/
theorem runAll_openFile (w : World) (options : DownloadOptions)
    (stored : World.Stored identity content w) (size : identity.size = content.length)
    (bound : content.length < Limits.offsetBound) (reads : List (Nat × Nat))
    (within : ∀ r ∈ reads, r.1 < Limits.offsetBound) :
    ((start w options).runAll
        (.openFile identity :: reads.map fun r => .fileRead 1 r.1 r.2)).1 =
      .number 1 :: reads.map fun r => .data ((content.drop r.1).take r.2) := by
  have calm : ((start w options).run (.openFile identity)).2.Calm 1 identity content
      (World.Stored identity content) := calm_openFile w options stored
  have answers := calm.runAll size bound (World.supplier_serves content identity) reads within
  rw [← answers]
  rfl

end Session

end RangeFetch
