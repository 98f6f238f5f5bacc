import RangeFetch.Download.History
import RangeFetch.Proofs.Download.Moves

namespace RangeFetch

/-- The byte at each offset of a file. -/
abbrev Content := Nat → UInt8

namespace Content

/-- So many bytes from an offset on. -/
def slice (f : Content) (start count : Nat) : Bytes := (List.range' start count).map f

variable (f : Content) (start m n : Nat)

@[simp] theorem length_slice : (f.slice start n).length = n := by
  simp [slice]

theorem slice_add : f.slice start (m + n) = f.slice start m ++ f.slice (start + m) n := by
  simp only [slice, ← List.map_append, List.range'_append_1]

theorem take_slice (h : m ≤ n) : (f.slice start n).take m = f.slice start m := by
  obtain ⟨k, rfl⟩ := Nat.exists_eq_add_of_le h
  rw [slice_add, List.take_left' (f.length_slice start m)]

theorem drop_slice : (f.slice start n).drop m = f.slice (start + m) (n - m) := by
  by_cases h : m ≤ n
  · obtain ⟨k, rfl⟩ := Nat.exists_eq_add_of_le h
    rw [slice_add, List.drop_left' (f.length_slice start m), Nat.add_sub_cancel_left]
  · rw [List.drop_eq_nil_of_le (by rw [length_slice]; omega), Nat.sub_eq_zero_of_le (by omega)]
    rfl

end Content

/-- The items deliver the bytes of the file from the stream's offset on. -/
def Stream.Truthful (f : Content) (s : Stream) : Prop :=
  joinedBytes s.items = f.slice s.offset (joinedBytes s.items).length

instance (f : Content) (s : Stream) : Decidable (s.Truthful f) :=
  inferInstanceAs (Decidable (_ = _))

def Delivery.Truthful (f : Content) (d : Delivery) : Prop :=
  d.unread = f.slice d.start d.unread.length

def Phase.Truthful (f : Content) : Phase → Prop
  | .streaming _ stream => stream.Truthful f
  | .between leftover stream => leftover.Truthful f ∧ stream.Truthful f
  | _ => True

/-- The chunk has the bytes of the file from its start to its cursor. -/
structure Chunk.Faithful (f : Content) (asked : List (Nat × Nat)) (size : Nat) (c : Chunk) :
    Prop where
  asked : c.IsFor asked size
  buffer : c.buffer = f.slice c.offset c.buffer.length

/-- If bytes are served, they are those that were asked for and that the file has. -/
def Firing.Faithful (f : Content) (asked : List (Nat × Nat)) (size : Nat) (x : Firing) : Prop :=
  ∀ data, x.result = .served data → ∃ start limit, asked[x.signal]? = some (start, limit) ∧
    data.offset = start ∧ data.data = f.slice start (min limit size - start)

structure Downloader.Faithful (f : Content) (asked : List (Nat × Nat)) (d : Downloader) : Prop where
  fileSize : d.queue.fileSize = d.identity.size
  chunks : ∀ c ∈ d.outstanding, c.Faithful f asked d.identity.size
  phase : d.phase.Truthful f

structure History.Faithful (f : Content) (h : History) : Prop where
  downloader : h.downloader.Faithful f h.asked
  fired : ∀ x ∈ h.fired, x.Faithful f h.asked h.downloader.identity.size

open Downloader (Happening Event)

variable {f : Content} {asked : List (Nat × Nat)} {size : Nat}

theorem Stream.Truthful.of_next {s rest : Stream} {delivered : Bytes} (h : s.Truthful f)
    (next : s.next = .bytes delivered rest) :
    Delivery.Truthful f ⟨s.offset, delivered⟩ ∧ rest.Truthful f := by
  obtain ⟨items, offset, -⟩ := Stream.of_next_bytes next
  unfold Stream.Truthful at h
  rw [items, joinedBytes_cons_bytes, List.length_append, Content.slice_add] at h
  -- both sides are cut at the end of the delivery
  obtain ⟨first, others⟩ := List.append_inj h (by simp)
  refine ⟨first, ?_⟩
  rw [Stream.Truthful, offset]
  exact others

theorem Delivery.Truthful.advance {d : Delivery} (h : d.Truthful f) (n : Nat) :
    (d.advance n).Truthful f := by
  have rest := congrArg (List.drop n) h
  rw [f.drop_slice d.start n] at rest
  rw [Delivery.Truthful, Delivery.advance, List.length_drop]
  exact rest

namespace Chunk.Faithful

theorem append {c : Chunk} (h : c.Faithful f asked size) (more : List (Nat × Nat)) :
    c.Faithful f (asked ++ more) size := ⟨h.asked.append more, h.buffer⟩

theorem write {c : Chunk} {d : Delivery} (h : c.Faithful f asked size)
    (aligned : c.cursor = d.start) (truthful : d.Truthful f) :
    (c.write d.unread).Faithful f asked size := by
  refine ⟨h.asked, ?_⟩
  have fits := c.accepts_le_length d.unread
  have taken : d.unread.take (c.accepts d.unread) = f.slice c.cursor (c.accepts d.unread) := by
    have := congrArg (List.take (c.accepts d.unread)) truthful
    rw [f.take_slice d.start _ _ fits, ← aligned] at this
    exact this
  rw [Chunk.offset_write, Chunk.buffer_write, taken, List.length_append, Content.length_slice,
    Content.slice_add, ← h.buffer]
  rfl

theorem complete {c : Chunk} (h : c.Faithful f asked size) (full : c.cursor = c.limit) :
    c.complete.Faithful f asked size := by
  intro data served
  obtain ⟨limit, found, clamped⟩ := h.asked
  cases served
  refine ⟨c.offset, limit, found, rfl, ?_⟩
  have count : c.buffer.length = min limit size - c.offset := by
    rw [← clamped, ← full, Chunk.cursor]
    omega
  rw [← count]
  exact h.buffer

end Chunk.Faithful

namespace Firing.Faithful

theorem append {x : Firing} (h : x.Faithful f asked size) (more : List (Nat × Nat)) :
    x.Faithful f (asked ++ more) size := by
  intro data served
  obtain ⟨start, limit, found, result⟩ := h data served
  refine ⟨start, limit, ?_, result⟩
  rw [List.getElem?_append_left (List.getElem?_eq_some_iff.mp found).1, found]

theorem of_failed (signal : Nat) (e : ChunkError) :
    Firing.Faithful f asked size ⟨signal, .failed e⟩ := by
  intro data served
  cases served

end Firing.Faithful

namespace Downloader

variable {d d' : Downloader} {fired : List Firing}

theorem Fills.faithful {c : Chunk} {delivery : Delivery} {stream : Stream}
    (h : Fills d c delivery stream d' fired) (fileSize : d.queue.fileSize = d.identity.size)
    (pending : ∀ c ∈ d.queue.pending, c.Faithful f asked d.identity.size)
    (chunk : c.Faithful f asked d.identity.size) (unread : delivery.Truthful f)
    (rest : stream.Truthful f) :
    d'.Faithful f asked ∧ ∀ x ∈ fired, x.Faithful f asked d.identity.size := by
  have reaches (aligned : c.cursor = delivery.start)
      (enough : c.remaining ≤ delivery.unread.length) :
      (c.write delivery.unread).complete.Faithful f asked d.identity.size := by
    apply (chunk.write aligned unread).complete
    have := c.cursor_le_limit
    rw [Chunk.cursor_write, Chunk.limit_write, Chunk.accepts, Chunk.remaining] at *
    omega
  -- only a chunk that the delivery is aligned with takes bytes from it
  cases h with
  | seeks elsewhere =>
    refine ⟨⟨fileSize, ?_, trivial⟩, by simp⟩
    intro b hb
    obtain old | rfl : b ∈ d.queue.pending ∨ b = c := by
      simpa [outstanding, seek, request, Phase.chunks] using hb
    · exact pending b old
    · exact chunk
  | unfilled aligned short =>
    refine ⟨⟨fileSize, ?_, rest⟩, by simp⟩
    intro b hb
    obtain old | rfl : b ∈ d.queue.pending ∨ b = c.write delivery.unread := by
      simpa [outstanding, Phase.chunks] using hb
    · exact pending b old
    · exact chunk.write aligned unread
  | filled aligned enough counted atEnd =>
    refine ⟨⟨fileSize, ?_, trivial⟩, ?_⟩
    · intro b hb
      exact pending b (by simpa [outstanding, Phase.chunks] using hb)
    · simpa using reaches aligned enough
  | leaves aligned enough counted more =>
    refine ⟨⟨fileSize, ?_, unread.advance _, rest⟩, ?_⟩
    · intro b hb
      exact pending b (by simpa [outstanding, Phase.chunks] using hb)
    · simpa using reaches aligned enough

theorem Moves.faithful {e : Event} (h : Moves d e d' fired) (inv : d.Faithful f asked)
    (truthful : ∀ stream ∈ (Happening.move e).opened?, stream.Truthful f) :
    d'.Faithful f asked ∧ ∀ x ∈ fired, x.Faithful f asked d.identity.size := by
  obtain ⟨fileSize, chunks, phase⟩ := inv
  have pending : ∀ c ∈ d.queue.pending, c.Faithful f asked d.identity.size :=
    fun c hc => chunks c (List.mem_append_left _ hc)
  cases h with
  | stays => exact ⟨⟨fileSize, chunks, phase⟩, by simp⟩
  | ends why =>
    obtain ⟨identity, -, queue, -⟩ := why.same
    refine ⟨⟨?_, ?_, trivial⟩, by simp⟩
    · rw [← queue, ← identity] at fileSize
      exact fileSize
    · rw [← why.outstanding, ← identity] at chunks
      intro c hc
      exact chunks c (by simpa [finish, outstanding, Phase.chunks, ChunkQueue.close] using hc)
  | wakes at_ running first =>
    refine ⟨⟨fileSize, ?_, trivial⟩, by simp⟩
    intro c hc
    apply pending c
    rw [first]
    simpa [shift, request, outstanding, Phase.chunks, or_comm] using hc
  | continues at_ running first aligned used =>
    rw [at_] at phase
    refine ⟨⟨fileSize, ?_, phase.2⟩, by simp⟩
    intro c hc
    apply pending c
    rw [first]
    simpa [shift, outstanding, Phase.chunks, or_comm] using hc
  | follows at_ running first apart fills =>
    rw [at_] at phase
    rw [first] at pending
    exact fills.faithful fileSize (fun c hc => pending c (List.mem_cons_of_mem _ hc))
      (pending _ List.mem_cons_self) phase.1 phase.2
  | connects at_ aligned =>
    refine ⟨⟨fileSize, ?_, truthful _ rfl⟩, by simp⟩
    simpa [outstanding, at_, Phase.chunks] using chunks
  | misconnects at_ elsewhere seldom =>
    refine ⟨⟨fileSize, ?_, truthful _ rfl⟩, by simp⟩
    simpa [outstanding, at_, Phase.chunks] using chunks
  | skips at_ next =>
    rw [at_] at phase
    refine ⟨⟨fileSize, ?_, (phase.of_next next).2⟩, by simp⟩
    simpa [outstanding, at_, Phase.chunks] using chunks
  | delivers at_ next some fills =>
    rw [at_] at phase
    obtain ⟨unread, rest⟩ := phase.of_next next
    exact fills.faithful fileSize pending (chunks _ (by simp [outstanding, at_, Phase.chunks]))
      unread rest
  | fails at_ =>
    refine ⟨⟨fileSize, ?_, trivial⟩, ?_⟩
    · intro c hc
      apply chunks c
      rw [mem_outstanding, at_]
      exact (mem_outstanding.mp hc).imp_right (List.mem_cons_of_mem _)
    · intro x hx
      rw [List.mem_singleton.mp hx]
      exact .of_failed _ _
  | stops at_ =>
    refine ⟨⟨fileSize, ?_, trivial⟩, by simp⟩
    simpa [outstanding, at_, Phase.chunks] using chunks

end Downloader

theorem Chunk.Faithful.of_request {start limit : Nat} {c : Chunk}
    (fresh : Chunk.request asked.length start limit = .ok c) (within : c.cursor < size) :
    (c.clampTo size).Faithful f (asked ++ [(start, limit)]) size := by
  refine ⟨.of_request fresh within, ?_⟩
  obtain ⟨-, -, -, buffer, -⟩ := Chunk.of_request fresh
  rw [Chunk.buffer_clampTo, buffer]
  rfl

theorem Firing.Faithful.of_past {start limit : Nat} {c : Chunk}
    (fresh : Chunk.request asked.length start limit = .ok c) (past : size ≤ c.cursor) :
    c.complete.Faithful f (asked ++ [(start, limit)]) size := by
  obtain ⟨signal, offset, -, buffer, -⟩ := Chunk.of_request fresh
  have beyond : size ≤ start := by simpa [Chunk.cursor, offset, buffer] using past
  intro data served
  cases served
  refine ⟨start, limit, ?_, offset, ?_⟩
  · rw [Chunk.complete, signal]
    simp
  · rw [buffer, Nat.sub_eq_zero_of_le (Nat.le_trans (Nat.min_le_right _ _) beyond)]
    rfl

namespace History

theorem Asks.faithful {h h' : History} {start limit : Nat} (asks : Asks h start limit h')
    (inv : h.Faithful f) : h'.Faithful f := by
  obtain ⟨⟨fileSize, chunks, phase⟩, fired⟩ := inv
  have known : ∀ c ∈ h.downloader.outstanding,
      c.Faithful f (h.asked ++ [(start, limit)]) h.downloader.identity.size :=
    fun c hc => (chunks c hc).append _
  have seen : ∀ x ∈ h.fired,
      x.Faithful f (h.asked ++ [(start, limit)]) h.downloader.identity.size :=
    fun x hx => (fired x hx).append _
  cases asks with
  | backwards fresh =>
    refine ⟨⟨fileSize, known, phase⟩, ?_⟩
    simp only [List.forall_mem_append, List.forall_mem_singleton]
    rw [Chunk.of_request_error fresh]
    exact ⟨seen, .of_failed _ _⟩
  | accepts fresh takes =>
    cases takes with
    | completes past =>
      refine ⟨⟨fileSize, known, phase⟩, ?_⟩
      simp only [List.forall_mem_append, List.forall_mem_singleton]
      exact ⟨seen, .of_past fresh past⟩
    | queues within closed =>
      refine ⟨⟨fileSize, ?_, phase⟩, by simpa using seen⟩
      intro b hb
      rw [Downloader.mem_outstanding, (ChunkQueue.insert_perm _ _).mem_iff, List.mem_cons,
        or_assoc, ← Downloader.mem_outstanding, fileSize] at hb
      rcases hb with rfl | old
      · exact .of_request fresh within
      · exact known b old
  | handsBack fresh refuses => exact ⟨⟨fileSize, known, phase⟩, seen⟩

theorem Faithful.move {h : History} (inv : h.Faithful f) (e : Event)
    (truthful : ∀ stream ∈ (Happening.move e).opened?, stream.Truthful f) :
    (h.move e).Faithful f := by
  obtain ⟨kept, served⟩ := (h.downloader.step_moves e).faithful inv.downloader truthful
  refine ⟨kept, ?_⟩
  have identity := (h.downloader.step_same e).1
  intro x hx
  simp only [History.move, identity] at hx ⊢
  exact (List.mem_append.mp hx).elim (inv.fired x) (served x)

theorem Faithful.step {h : History} (inv : h.Faithful f) (x : Happening)
    (truthful : ∀ stream ∈ x.opened?, stream.Truthful f) : (h.step x).Faithful f := by
  cases x with
  | ask start limit => exact (h.ask_asks start limit).faithful inv
  | stop =>
    obtain ⟨⟨fileSize, chunks, phase⟩, fired⟩ := inv
    exact ⟨⟨fileSize, chunks, phase⟩, fired⟩
  | move e => exact inv.move e truthful

theorem faithful_start (f : Content) (identity : FileIdentity) (options : DownloadOptions) :
    (start identity options).Faithful f := by
  refine ⟨⟨rfl, ?_, trivial⟩, ?_⟩
  · intro c hc
    cases hc
  · intro x hx
    cases hx

/-- Whatever happens around a downloader whose source does not lie: a chunk that is served starts
where it was asked to, and has all the bytes of the file from there up to its end or the end of the
file, and no others. -/
theorem served_eq_slice (f : Content) (identity : FileIdentity) (options : DownloadOptions)
    (xs : List Happening) (truthful : ∀ x ∈ xs, ∀ stream ∈ x.opened?, stream.Truthful f) :
    ∀ x ∈ ((start identity options).run xs).fired, ∀ data, x.result = .served data →
      ∃ first limit, ((start identity options).run xs).asked[x.signal]? = some (first, limit) ∧
        data.offset = first ∧ data.data = f.slice first (min limit identity.size - first) := by
  have inv := run_induction (P := History.Faithful f) (fun h x => Faithful.step (x := x)) xs _
    (faithful_start f identity options) (along_of_forall xs _ fun x hx _ => truthful x hx)
  have fired := inv.fired
  rw [identity_run] at fired
  exact fired

def reopening : List Happening :=
  [.ask 1 9, .move .take,
    .move (.opened (.ok ⟨0, [.bytes [10, 11]], .silent⟩)), .move .deliver,
    .move (.opened (.ok ⟨1, [.bytes [11], .bytes [], .bytes [12, 13]], .eof⟩)), .move .deliver,
    .move .deliver, .move .deliver]

theorem reopening_served_eq_slice :
    (∀ x ∈ reopening, ∀ stream ∈ x.opened?, stream.Truthful fun n => 10 + n.toUInt8) ∧
      ⟨0, .served ⟨1, [11, 12, 13]⟩⟩ ∈ ((start ⟨"", 4⟩ .standard).run reopening).fired ∧
      ∃ first limit,
        ((start ⟨"", 4⟩ .standard).run reopening).asked[0]? = some (first, limit) ∧
        1 = first ∧ [11, 12, 13] = Content.slice (fun n => 10 + n.toUInt8) first
          (min limit 4 - first) := by
  have truthful : ∀ x ∈ reopening, ∀ stream ∈ x.opened?,
      stream.Truthful fun n => 10 + n.toUInt8 := by decide
  have served : ⟨0, .served ⟨1, [11, 12, 13]⟩⟩ ∈
      ((start ⟨"", 4⟩ .standard).run reopening).fired := by decide
  exact ⟨truthful, served, served_eq_slice _ ⟨"", 4⟩ .standard reopening truthful _ served _ rfl⟩

end History

end RangeFetch
