import RangeFetch.Proofs.Download.Moves

namespace RangeFetch

/-- Each chunk with the one after it. -/
def neighbours (l : List Chunk) : List (Chunk × Chunk) := l.zip l.tail

/-- The second chunk does not begin where the first one ends. -/
def isApart (p : Chunk × Chunk) : Bool := p.2.offset != p.1.limit

/-- The offsets at which reading the chunks in this order has to begin anew. -/
def openings (l : List Chunk) : List Nat :=
  (l.head?.map (·.offset)).toList ++ ((neighbours l).filter isApart).map (·.2.offset)

/-- How often reading begins anew although the file went on after the chunk before. -/
def breakOffs (size : Nat) (l : List Chunk) : Nat :=
  (neighbours l).countP fun p => isApart p && p.1.limit != size

/-- The stream delivers nothing past the end of the file. -/
def Stream.Within (size : Nat) (s : Stream) : Prop :=
  s.offset + (joinedBytes s.items).length ≤ size

instance (size : Nat) (s : Stream) : Decidable (s.Within size) :=
  inferInstanceAs (Decidable (_ ≤ _))

/-- A request is answered, if at all, by a stream from the offset asked for that stays within the
file. -/
def Downloader.Exact (d : Downloader) (x : Downloader.Happening) : Prop :=
  ∀ stream ∈ x.opened?, ∀ start ∈ d.wanted?,
    stream.offset = start ∧ stream.Within d.identity.size

instance (d : Downloader) (x : Downloader.Happening) : Decidable (d.Exact x) :=
  inferInstanceAs (Decidable (∀ _ ∈ _, _))

/-- Where the last chunk that was taken ends, and where the open stream stands. -/
def Phase.Follows (size : Nat) (taken : List Chunk) : Phase → Prop
  | .idle => ∀ last ∈ taken.getLast?, last.limit = size
  | .requesting c => ∃ last ∈ taken.getLast?, last.limit = c.limit
  | .streaming c stream =>
    c.cursor = stream.offset ∧ stream.Within size ∧ ∃ last ∈ taken.getLast?, last.limit = c.limit
  | .between leftover stream =>
    leftover.start < size ∧ leftover.limit = stream.offset ∧ stream.Within size ∧
      ∃ last ∈ taken.getLast?, last.limit = leftover.start
  | _ => True

namespace Downloader

/-- The requests so far are those that the chunks taken so far call for. -/
structure Counted (d : Downloader) (asked : List (Nat × Nat)) (taken : List Chunk)
    (requested : List Nat) : Prop where
  fileSize : d.queue.fileSize = d.identity.size
  pending : ∀ c ∈ d.queue.pending,
    c.IsFor asked d.identity.size ∧ c.buffer = [] ∧ c.offset < d.identity.size
  chunks : ∀ c ∈ taken, c.IsFor asked d.identity.size
  offsets : requested = openings taken
  requests : d.stats.requests = requested.length
  seeks : d.stats.seeks = breakOffs d.identity.size taken

end Downloader

section Lists

variable {l : List Chunk} {last c : Chunk} {size : Nat}

theorem neighbours_concat (h : l.getLast? = some last) :
    neighbours (l ++ [c]) = neighbours l ++ [(last, c)] := by
  induction l with
  | nil => cases h
  | cons a rest ih =>
    cases rest with
    | nil =>
      cases h
      rfl
    | cons b more =>
      have rest := ih (by simpa [List.getLast?_cons_cons] using h)
      simpa [neighbours] using rest

theorem openings_concat (h : l.getLast? = some last) :
    openings (l ++ [c]) = openings l ++ if c.offset = last.limit then [] else [c.offset] := by
  have head : (l ++ [c]).head? = l.head? := by
    cases l with
    | nil => cases h
    | cons a rest => rfl
  rw [openings, openings, head, neighbours_concat h, List.filter_append, List.map_append,
    List.append_assoc]
  by_cases together : c.offset = last.limit <;> simp [isApart, List.filter_cons, together]

theorem breakOffs_concat (h : l.getLast? = some last) :
    breakOffs size (l ++ [c]) =
      breakOffs size l + if c.offset ≠ last.limit ∧ last.limit ≠ size then 1 else 0 := by
  rw [breakOffs, neighbours_concat h, List.countP_append]
  simp [breakOffs, isApart, List.countP_singleton]

theorem openings_of_contiguous (some : l ≠ []) (h : ∀ p ∈ neighbours l, p.2.offset = p.1.limit) :
    (openings l).length = 1 := by
  have none : (neighbours l).filter isApart = [] := by
    rw [List.filter_eq_nil_iff]
    intro p hp
    simp [isApart, h p hp]
  obtain ⟨a, rest, rfl⟩ := List.exists_cons_of_ne_nil some
  simp [openings, none]

theorem breakOffs_of_contiguous (h : ∀ p ∈ neighbours l, p.2.offset = p.1.limit) :
    breakOffs size l = 0 := by
  rw [breakOffs, List.countP_eq_zero]
  intro p hp
  simp [isApart, h p hp]

end Lists

theorem Stream.Within.of_next {size : Nat} {s rest : Stream} {delivered : Bytes}
    (h : s.Within size) (next : s.next = .bytes delivered rest) :
    s.offset + delivered.length = rest.offset ∧ rest.Within size := by
  obtain ⟨items, offset, -⟩ := Stream.of_next_bytes next
  rw [Stream.Within, items, joinedBytes_cons_bytes, List.length_append] at h
  refine ⟨offset.symm, ?_⟩
  rw [Stream.Within, offset]
  omega

theorem Chunk.IsFor.limit_le {asked : List (Nat × Nat)} {size : Nat} {c : Chunk}
    (h : c.IsFor asked size) : c.limit ≤ size := by
  obtain ⟨limit, -, clamped⟩ := h
  rw [clamped]
  exact Nat.min_le_right _ _

namespace Downloader

variable {d d' : Downloader} {e : Event} {fired : List Firing} {asked : List (Nat × Nat)}
  {taken rest : List Chunk} {requested : List Nat} {last c : Chunk}

namespace Counted

theorem keep (h : d.Counted asked taken requested) (identity : d'.identity = d.identity)
    (queue : d'.queue = d.queue) (requests : d'.stats.requests = d.stats.requests)
    (seeks : d'.stats.seeks = d.stats.seeks) : d'.Counted asked taken requested := by
  obtain ⟨fileSize, pending, chunks, offsets, count, breaks⟩ := h
  refine ⟨?_, ?_, ?_, offsets, ?_, ?_⟩
  · rw [queue, identity, fileSize]
  · rw [queue, identity]
    exact pending
  · rw [identity]
    exact chunks
  · rw [requests, count]
  · rw [seeks, identity, breaks]

theorem finish (h : d.Counted asked taken requested) (error : ChunkError) :
    (d.finish error).Counted asked taken requested := by
  refine ⟨h.fileSize, ?_, h.chunks, h.offsets, h.requests, h.seeks⟩
  intro c hc
  cases hc

theorem fresh (h : d.Counted asked taken requested) (first : d.queue.pending = c :: rest) :
    c.cursor = c.offset ∧ c.offset < d.identity.size ∧ c.limit ≤ d.identity.size := by
  obtain ⟨isFor, empty, within⟩ := h.pending c (by simp [first])
  exact ⟨Chunk.cursor_of_fresh empty, within, isFor.limit_le⟩

theorem take (h : d.Counted asked taken requested) (first : d.queue.pending = c :: rest) :
    (∀ b ∈ rest, b.IsFor asked d.identity.size ∧ b.buffer = [] ∧ b.offset < d.identity.size) ∧
      ∀ b ∈ taken ++ [c], b.IsFor asked d.identity.size := by
  have pending := h.pending
  rw [first] at pending
  obtain ⟨⟨isFor, -⟩, others⟩ := List.forall_mem_cons.mp pending
  refine ⟨others, ?_⟩
  simpa [or_imp, forall_and] using ⟨h.chunks, isFor⟩

theorem wake (h : d.Counted asked taken requested) (first : d.queue.pending = c :: rest)
    (atEnd : ∀ last ∈ taken.getLast?, last.limit = d.identity.size) :
    ((d.shift rest).request c).Counted asked (taken ++ [c]) (requested ++ [c.offset]) := by
  obtain ⟨pending, chunks⟩ := h.take first
  obtain ⟨-, within, -⟩ := h.fresh first
  obtain ⟨fileSize, -, -, offsets, requests, seeks⟩ := h
  refine ⟨fileSize, pending, chunks, ?_, ?_, ?_⟩
  · cases found : taken.getLast? with
    | none =>
      rw [offsets, List.getLast?_eq_none_iff.mp found]
      rfl
    | some last =>
      -- the chunk begins before the end of the file, where the last one ended
      have limit := atEnd last found
      rw [openings_concat found, if_neg (by omega), offsets]
  · rw [List.length_append, ← requests]
    rfl
  · change d.stats.seeks = breakOffs d.identity.size (taken ++ [c])
    cases found : taken.getLast? with
    | none =>
      rw [seeks, List.getLast?_eq_none_iff.mp found]
      rfl
    | some last =>
      have limit := atEnd last found
      rw [breakOffs_concat found, if_neg (by omega), seeks, Nat.add_zero]

theorem next (h : d.Counted asked taken requested) (first : d.queue.pending = c :: rest)
    (found : taken.getLast? = some last) (together : c.offset = last.limit) :
    (d.shift rest).Counted asked (taken ++ [c]) requested := by
  obtain ⟨pending, chunks⟩ := h.take first
  obtain ⟨fileSize, -, -, offsets, requests, seeks⟩ := h
  refine ⟨fileSize, pending, chunks, ?_, requests, ?_⟩
  · rw [openings_concat found, if_pos together, List.append_nil, offsets]
  · change d.stats.seeks = breakOffs d.identity.size (taken ++ [c])
    rw [breakOffs_concat found, if_neg (by omega), seeks, Nat.add_zero]

theorem elsewhere (h : d.Counted asked taken requested) (first : d.queue.pending = c :: rest)
    (found : taken.getLast? = some last) (apart : c.offset ≠ last.limit)
    (more : last.limit < d.identity.size) :
    ((d.shift rest).seek c).Counted asked (taken ++ [c]) (requested ++ [c.offset]) := by
  obtain ⟨pending, chunks⟩ := h.take first
  obtain ⟨fileSize, -, -, offsets, requests, seeks⟩ := h
  refine ⟨fileSize, pending, chunks, ?_, ?_, ?_⟩
  · rw [openings_concat found, if_neg apart, offsets]
  · rw [List.length_append, ← requests]
    rfl
  · change d.stats.seeks + 1 = breakOffs d.identity.size (taken ++ [c])
    rw [breakOffs_concat found, if_pos ⟨apart, by omega⟩, seeks]

end Counted

theorem Fills.follows {delivery : Delivery} {stream : Stream}
    (h : Fills d c delivery stream d' fired) (aligned : c.cursor = delivery.start)
    (reaches : delivery.limit = stream.offset) (within : stream.Within d.identity.size)
    (found : taken.getLast? = some last) (ends : last.limit = c.limit)
    (limit : c.limit ≤ d.identity.size) :
    d'.phase.Follows d.identity.size taken ∧ (∀ b, d'.phase ≠ .requesting b) ∧
      d'.stats.requests = d.stats.requests ∧ d'.stats.seeks = d.stats.seeks := by
  have cursor := c.cursor_le_limit
  cases h with
  | seeks elsewhere => exact absurd aligned elsewhere
  | unfilled _ short =>
    refine ⟨⟨?_, within, last, found, ends⟩, by simp, rfl, rfl⟩
    rw [Chunk.cursor_write, Chunk.accepts, aligned, ← reaches, Delivery.limit]
    omega
  | filled _ enough counted atEnd =>
    refine ⟨?_, by simp, by rw [counted], by rw [counted]⟩
    intro last' found'
    rw [found] at found'
    cases found'
    omega
  | leaves _ enough counted more =>
    have start : (delivery.advance c.remaining).start = c.limit := by
      rw [Delivery.start_advance, ← aligned, Chunk.remaining]
      omega
    refine ⟨⟨?_, (delivery.limit_advance enough).trans reaches, within, last, found,
      ends.trans start.symm⟩, by simp, by rw [counted], by rw [counted]⟩
    rw [start]
    unfold Stream.Within at within
    rw [Delivery.limit] at reaches
    rw [Chunk.remaining] at more enough
    omega

/-- What holds of a downloader over an exact source. -/
structure Punctual (d : Downloader) (asked : List (Nat × Nat)) (taken : List Chunk)
    (requested : List Nat) : Prop where
  counted : d.Counted asked taken requested
  phase : d.phase.Follows d.identity.size taken

theorem Punctual.follow {leftover : Delivery} {stream : Stream}
    (inv : d.Punctual asked taken requested) (at_ : d.phase = .between leftover stream)
    (first : d.queue.pending = c :: rest)
    (fills : Fills (d.shift rest) c leftover stream d' fired) :
    d'.Punctual asked (taken ++ [c]) (requested ++ (d.requested? d').toList) := by
  obtain ⟨counted, phase⟩ := inv
  rw [at_] at phase
  obtain ⟨more, reaches, inside, last, found, ends⟩ := phase
  obtain ⟨cursor, within, limit⟩ := counted.fresh first
  -- the leftover starts where the last chunk ended
  by_cases aligned : c.cursor = leftover.start
  · have latest : (taken ++ [c]).getLast? = some c := by simp
    obtain ⟨phase, quiet, requests, seeks⟩ := fills.follows aligned reaches inside latest rfl limit
    obtain ⟨identity, -, queue⟩ := fills.same
    have next := (counted.next first found (by omega)).keep identity queue requests seeks
    rw [requested?_eq_none quiet, Option.toList_none, List.append_nil]
    refine ⟨next, ?_⟩
    rw [identity]
    exact phase
  · cases fills with
    | seeks _ =>
      rw [requested?_eq_some (by simp [at_]) rfl, cursor]
      exact ⟨counted.elsewhere first found (by omega) (by omega), c, by simp, rfl⟩
    -- nothing is spliced into a chunk that begins elsewhere
    | unfilled together => exact absurd together aligned
    | filled together => exact absurd together aligned
    | leaves together => exact absurd together aligned

theorem Punctual.deliver {stream rest : Stream} {delivered : Bytes}
    (inv : d.Punctual asked taken requested) (at_ : d.phase = .streaming c stream)
    (next : stream.next = .bytes delivered rest)
    (fills : Fills d c ⟨stream.offset, delivered⟩ rest d' fired) :
    d'.Punctual asked taken (requested ++ (d.requested? d').toList) := by
  obtain ⟨counted, phase⟩ := inv
  rw [at_] at phase
  obtain ⟨aligned, inside, last, found, ends⟩ := phase
  obtain ⟨reaches, within⟩ := inside.of_next next
  have limit := (counted.chunks last (List.mem_of_getLast? found)).limit_le
  obtain ⟨phase, quiet, requests, seeks⟩ :=
    fills.follows aligned reaches within found ends (by omega)
  obtain ⟨identity, -, queue⟩ := fills.same
  rw [requested?_eq_none quiet, Option.toList_none, List.append_nil]
  refine ⟨counted.keep identity queue requests seeks, ?_⟩
  rw [identity]
  exact phase

theorem Moves.punctual (h : Moves d e d' fired) (inv : d.Punctual asked taken requested)
    (source : d.Exact (.move e)) :
    d'.Punctual asked (taken ++ (d.taken? e).toList)
      (requested ++ (d.requested? d').toList) := by
  have counted := inv.counted
  have phase := inv.phase
  cases h with
  | stays none =>
    have same : d.requested? d = .none := by simp [requested?]
    simpa [none, same] using inv
  | ends why =>
    obtain ⟨identity, -, queue, -⟩ := why.same
    obtain ⟨requests, seeks⟩ := why.same_requests
    rw [why.taken?, requested?_eq_none (by simp [Downloader.finish])]
    simpa using ⟨(counted.keep identity queue requests seeks).finish _, trivial⟩
  | wakes at_ running first =>
    obtain ⟨cursor, -, -⟩ := counted.fresh first
    rw [at_] at phase
    rw [taken?_take running first (.inl at_), requested?_eq_some (by simp [at_]) rfl, cursor]
    exact ⟨counted.wake first phase, _, by simp, rfl⟩
  | continues at_ running first aligned used =>
    obtain ⟨cursor, -, -⟩ := counted.fresh first
    rw [at_] at phase
    obtain ⟨-, reaches, inside, last, found, ends⟩ := phase
    rw [taken?_take running first (.inr ⟨_, _, at_⟩), requested?_eq_none (by simp)]
    have next := counted.next first found (by omega)
    simp only [Option.toList_some, Option.toList_none, List.append_nil]
    refine ⟨next.keep rfl rfl rfl rfl, ?_, inside, _, by simp, rfl⟩
    rw [aligned, ← reaches, Delivery.limit, used]
    rfl
  | follows at_ running first apart fills =>
    rw [taken?_take running first (.inr ⟨_, _, at_⟩)]
    exact inv.follow at_ first fills
  | connects at_ aligned =>
    rw [at_] at phase
    obtain ⟨last, found, ends⟩ := phase
    obtain ⟨-, inside⟩ := source _ rfl _ (wanted?_of_requesting at_)
    rw [requested?_eq_none (by simp)]
    simpa [taken?] using
      ⟨counted.keep rfl rfl rfl rfl, aligned.symm, inside, last, found, ends⟩
  | misconnects at_ elsewhere seldom =>
    -- the source opens no stream elsewhere
    exact absurd (source _ rfl _ (wanted?_of_requesting at_)).1 elsewhere
  | skips at_ next =>
    rw [at_] at phase
    obtain ⟨aligned, inside, last, found, ends⟩ := phase
    obtain ⟨reaches, within⟩ := inside.of_next next
    rw [requested?_eq_none (by simp)]
    simpa [taken?] using
      ⟨counted.keep rfl rfl rfl rfl, aligned.trans reaches, within, last, found, ends⟩
  | delivers at_ next some fills =>
    simpa [taken?] using inv.deliver at_ next fills
  | fails at_ =>
    rw [requested?_eq_none (by simp)]
    simpa [taken?] using ⟨counted.keep rfl rfl rfl rfl, trivial⟩
  | stops at_ =>
    rw [requested?_eq_none (by simp)]
    simpa [taken?] using ⟨counted.keep rfl rfl rfl rfl, trivial⟩

end Downloader

namespace History

open Downloader (Happening)

def Punctual (h : History) : Prop := h.downloader.Punctual h.asked h.taken h.requested

theorem Asks.punctual {h h' : History} {first limit : Nat} (asks : Asks h first limit h')
    (inv : h.Punctual) : h'.Punctual := by
  obtain ⟨⟨fileSize, pending, chunks, offsets, requests, seeks⟩, phase⟩ := inv
  have waiting : ∀ c ∈ h.downloader.queue.pending,
      c.IsFor (h.asked ++ [(first, limit)]) h.downloader.identity.size ∧ c.buffer = [] ∧
        c.offset < h.downloader.identity.size :=
    fun c hc => ⟨(pending c hc).1.append _, (pending c hc).2⟩
  have took : ∀ c ∈ h.taken,
      c.IsFor (h.asked ++ [(first, limit)]) h.downloader.identity.size :=
    fun c hc => (chunks c hc).append _
  cases asks with
  | backwards fresh => exact ⟨⟨fileSize, waiting, took, offsets, requests, seeks⟩, phase⟩
  | @accepts c d fired fresh takes =>
    cases takes with
    | completes past => exact ⟨⟨fileSize, waiting, took, offsets, requests, seeks⟩, phase⟩
    | queues within closed =>
      refine ⟨⟨fileSize, ?_, took, offsets, requests, seeks⟩, phase⟩
      intro b hb
      rw [(ChunkQueue.insert_perm _ _).mem_iff, List.mem_cons, fileSize] at hb
      rcases hb with rfl | old
      · obtain ⟨-, offset, -, buffer, -⟩ := Chunk.of_request fresh
        have start := Chunk.cursor_of_fresh buffer
        exact ⟨.of_request fresh within, buffer, by simpa [start] using within⟩
      · exact waiting b old
  | handsBack fresh refuses => exact ⟨⟨fileSize, waiting, took, offsets, requests, seeks⟩, phase⟩

theorem Punctual.step {h : History} (x : Happening) (inv : h.Punctual)
    (source : h.downloader.Exact x) : (h.step x).Punctual := by
  cases x with
  | ask first limit => exact (h.ask_asks first limit).punctual inv
  | stop =>
    obtain ⟨⟨fileSize, pending, chunks, offsets, requests, seeks⟩, phase⟩ := inv
    exact ⟨⟨fileSize, pending, chunks, offsets, requests, seeks⟩, phase⟩
  | move e => exact (h.downloader.step_moves e).punctual inv source

theorem punctual_start (identity : FileIdentity) (options : DownloadOptions) :
    (start identity options).Punctual := by
  refine ⟨⟨rfl, ?_, ?_, rfl, rfl, rfl⟩, ?_⟩
  · intro c hc
    cases hc
  · intro c hc
    cases hc
  · intro last found
    cases found

/-- Over an exact source there is one request for the first chunk taken and one for each that does
not begin where the last one ended, however the streams were cut. A stream is given up for each of
the latter unless the file had ended. -/
theorem requested_eq_openings (identity : FileIdentity) (options : DownloadOptions)
    (xs : List Happening) (source : Along Downloader.Exact (start identity options) xs) :
    let h := (start identity options).run xs
    h.requested = openings h.taken ∧
      h.downloader.stats.requests = h.requested.length ∧
      h.downloader.stats.seeks = breakOffs identity.size h.taken ∧
      (∀ c ∈ h.taken, c.IsFor h.asked identity.size) ∧
      (h.taken ≠ [] → (∀ p ∈ neighbours h.taken, p.2.offset = p.1.limit) →
        h.downloader.stats.requests = 1 ∧ h.downloader.stats.seeks = 0) := by
  intro h
  have inv : h.Punctual := run_induction (fun h x => Punctual.step (h := h) x) xs _
    (punctual_start identity options) source
  obtain ⟨-, -, chunks, offsets, requests, seeks⟩ := inv.counted
  rw [identity_run xs (start identity options)] at chunks seeks
  refine ⟨offsets, requests, seeks, chunks, ?_⟩
  intro some contiguous
  rw [requests, offsets, seeks]
  exact ⟨openings_of_contiguous some contiguous, breakOffs_of_contiguous contiguous⟩

def rereading : List Happening :=
  [.ask 0 2, .ask 2 2, .ask 2 9, .move .take,
    .move (.opened (.ok ⟨0, [.bytes [0, 1, 2], .bytes [3, 4, 5]], .eof⟩)), .move .deliver,
    .move .take, .move .take, .move .deliver, .ask 3 4, .move .take,
    .move (.opened (.ok ⟨3, [.bytes [3], .bytes [4, 5]], .eof⟩)), .move .deliver, .ask 5 6,
    .move .take]

theorem rereading_requested :
    Along Downloader.Exact (start ⟨"", 6⟩ .standard) rereading ∧
      ((start ⟨"", 6⟩ .standard).run rereading).taken.map (·.offset) = [0, 2, 2, 3, 5] ∧
      openings ((start ⟨"", 6⟩ .standard).run rereading).taken = [0, 3, 5] ∧
      ((start ⟨"", 6⟩ .standard).run rereading).requested = [0, 3, 5] ∧
      ((start ⟨"", 6⟩ .standard).run rereading).downloader.stats.seeks = 1 := by
  have source : Along Downloader.Exact (start ⟨"", 6⟩ .standard) rereading := by decide
  obtain ⟨offsets, -, seeks, -⟩ := requested_eq_openings ⟨"", 6⟩ .standard rereading source
  exact ⟨source, by decide, by decide, offsets.trans (by decide), seeks.trans (by decide)⟩

end History

end RangeFetch
