import RangeFetch.Download.Drive
import RangeFetch.Proofs.Download.Custody

namespace RangeFetch

def Item.isBytes : Item → Bool
  | bytes _ => true
  | failed _ => false

/-- All items are bytes. -/
def Stream.IsPlain (s : Stream) : Prop := ∀ item ∈ s.items, item.isBytes = true

instance (s : Stream) : Decidable s.IsPlain := inferInstanceAs (Decidable (∀ _ ∈ _, _))

theorem Stream.IsPlain.next {s : Stream} (plain : s.IsPlain) (more : joinedBytes s.items ≠ []) :
    ∃ delivered rest, s.next = .bytes delivered rest := by
  obtain ⟨offset, items, ending⟩ := s
  rcases items with - | ⟨item, rest⟩
  case nil => exact absurd rfl more
  case cons =>
    have isBytes := plain item List.mem_cons_self
    cases item with
    | bytes delivered => exact ⟨delivered, _, rfl⟩
    | failed e => cases isBytes

theorem Stream.IsPlain.rest {s rest : Stream} {delivered : Bytes} (plain : s.IsPlain)
    (next : s.next = .bytes delivered rest) : rest.IsPlain := by
  obtain ⟨items, -⟩ := of_next_bytes next
  intro item mem
  exact plain item (by rw [items]; exact List.mem_cons_of_mem _ mem)

/-- The items are all bytes of the content from the stream's offset on. -/
structure Stream.Delivers (content : Bytes) (s : Stream) : Prop where
  plain : s.IsPlain
  bytes : joinedBytes s.items = content.drop s.offset

def Phase.Delivers (content : Bytes) : Phase → Prop
  | .between leftover stream =>
    stream.IsPlain ∧ leftover.unread ++ joinedBytes stream.items = content.drop leftover.start
  | _ => True

instance (content : Bytes) : (p : Phase) → Decidable (p.Delivers content)
  | .between _ _ => inferInstanceAs (Decidable (_ ∧ _))
  | .idle | .requesting _ | .streaming _ _ | .failing _ _ _ | .stopped =>
    inferInstanceAs (Decidable True)

/-- As long as the world is ready, every stream that is asked for opens where it was asked to and
delivers the content, and leaves the world ready. -/
def Supplier.Serves {ε : Type} (source : Supplier ε) (content : Bytes) (identity : FileIdentity)
    (Ready : ε → Prop) : Prop :=
  ∀ w start, Ready w → start < content.length →
    ∃ opened w', source.openContent w identity start = some (.ok opened, w') ∧
      opened.stream.offset = start ∧ opened.stream.Delivers content ∧ Ready w'

/-- The chunk's signal fires with all bytes of the content from its start to its limit. -/
def Chunk.served (content : Bytes) (c : Chunk) : Firing :=
  ⟨c.signal, .served ⟨c.offset, (content.drop c.offset).take (c.limit - c.offset)⟩⟩

/-- The chunk goes on where the stream stands, and the stream delivers the content from there to its
end, with the chunk's own end not past it. -/
structure Chunk.IsFedBy (content : Bytes) (stream : Stream) (c : Chunk) : Prop where
  aligned : c.cursor = stream.offset
  plain : stream.IsPlain
  bytes : c.buffer ++ joinedBytes stream.items = content.drop c.offset
  within : c.cursor < content.length
  limit : c.limit ≤ content.length

namespace Chunk.IsFedBy

variable {content : Bytes} {stream rest : Stream} {c : Chunk}

theorem next (h : c.IsFedBy content stream) :
    ∃ delivered rest, stream.next = .bytes delivered rest := by
  refine h.plain.next fun none => ?_
  -- all of the content would have come, so the cursor would be at its end
  have length := congrArg List.length h.bytes
  have within := h.within
  rw [cursor] at within
  rw [none, List.append_nil, List.length_drop] at length
  omega

theorem pass (h : c.IsFedBy content stream) (next : stream.next = .bytes [] rest) :
    c.IsFedBy content rest := by
  obtain ⟨items, offset, -⟩ := Stream.of_next_bytes next
  refine ⟨?_, h.plain.rest next, ?_, h.within, h.limit⟩
  · rw [offset, h.aligned]
    rfl
  · rw [← h.bytes, items]
    rfl

end Chunk.IsFedBy

namespace Downloader

/-- No chunk is outstanding, and what is open delivers the content. -/
structure Rests (content : Bytes) (d : Downloader) : Prop where
  sound : d.Sound
  size : d.identity.size = content.length
  outstanding : d.outstanding = []
  phase : d.phase.Delivers content

/-- The only outstanding chunk is being filled. -/
structure Filling (content : Bytes) (c : Chunk) (stream : Stream) (d : Downloader) : Prop where
  sound : d.Sound
  size : d.identity.size = content.length
  pending : d.queue.pending = []
  running : d.queue.stopped = false
  phase : d.phase = .streaming c stream
  aligned : c.cursor = stream.offset
  plain : stream.IsPlain
  bytes : c.buffer ++ joinedBytes stream.items = content.drop c.offset
  within : c.cursor < content.length
  limit : c.limit ≤ content.length

variable {ε : Type} {source : Supplier ε} {Ready : ε → Prop} {content : Bytes} {d d' : Downloader}
  {c : Chunk} {stream rest : Stream} {delivered : Bytes} {fired : List Firing}
  {held : Option Request} {w : ε}

def WillServe (d : Downloader) (source : Supplier ε) (held : Option Request) (w : ε)
    (Ready : ε → Prop) (content : Bytes) (c : Chunk) : Prop :=
  ∃ d' w', d.drive source held w = ⟨d', none, w', [c.served content]⟩ ∧ d'.Rests content ∧
    d'.identity = d.identity ∧ Ready w'

namespace WillServe

variable {e : Event}

theorem of_quiet (wants : d.wants = .ready e) (quiet : (d.step e).2 = [])
    (rest : (d.step e).1.WillServe source none w Ready content c) :
    d.WillServe source held w Ready content c := by
  obtain ⟨d', w', drive, rests, same, ready⟩ := rest
  refine ⟨d', w', ?_, rests, same.trans (d.step_same e).1, ready⟩
  rw [drive_of_quiet wants quiet, drive]

theorem of_fires (wants : d.wants = .ready e) (fires : (d.step e).2 = [c.served content])
    (rests : (d.step e).1.Rests content) (ready : Ready w) :
    d.WillServe source held w Ready content c := by
  refine ⟨(d.step e).1, w, ?_, rests, (d.step_same e).1, ready⟩
  rw [drive_of_fires wants (by rw [fires]; simp), fires]

end WillServe

theorem Fills.feeds {delivery : Delivery} (h : Fills d c delivery stream d' fired)
    (aligned : c.cursor = delivery.start) (reaches : delivery.limit = stream.offset)
    (plain : stream.IsPlain)
    (bytes : c.buffer ++ (delivery.unread ++ joinedBytes stream.items) = content.drop c.offset)
    (limit : c.limit ≤ content.length) :
    (fired = [] ∧ d'.phase = .streaming (c.write delivery.unread) stream ∧
        (c.write delivery.unread).IsFedBy content stream) ∨
      (fired = [c.served content] ∧ d'.phase.chunks = [] ∧ d'.phase.Delivers content) := by
  have hle := c.cursor_le_limit
  have count : c.buffer.length + c.remaining = c.limit - c.offset := by
    rw [Chunk.remaining]
    rw [Chunk.cursor] at hle ⊢
    omega
  -- the first bytes of the delivery complete those of the chunk
  have done (enough : c.remaining ≤ delivery.unread.length) :
      (c.write delivery.unread).complete = c.served content := by
    have taken : c.accepts delivery.unread = c.remaining := Nat.min_eq_right enough
    have all : c.buffer ++ delivery.unread.take c.remaining =
        (content.drop c.offset).take (c.limit - c.offset) := by
      rw [← bytes, ← count, List.take_length_add_append, List.take_append_of_le_length enough]
    rw [Chunk.complete, Chunk.served, Chunk.buffer_write, taken, all]
    rfl
  cases h with
  | seeks elsewhere => exact absurd aligned elsewhere
  | unfilled _ short =>
    -- all that was delivered is taken, so the cursor goes on to the stream
    left
    have taken : c.accepts delivery.unread = delivery.unread.length :=
      Nat.min_eq_left (Nat.le_of_lt short)
    refine ⟨rfl, rfl, ?_, plain, ?_, ?_, limit⟩
    · rw [Chunk.cursor_write, taken, aligned, ← reaches]
      rfl
    · rw [Chunk.buffer_write, taken, List.take_length, List.append_assoc]
      exact bytes
    · rw [Chunk.cursor_write, taken]
      rw [Chunk.remaining] at short
      omega
  | filled _ enough counted atEnd => exact .inr ⟨by rw [done enough], rfl, trivial⟩
  | leaves _ enough counted more =>
    right
    refine ⟨by rw [done enough], rfl, plain, ?_⟩
    have dropped := congrArg (List.drop (c.buffer.length + c.remaining)) bytes
    rw [List.drop_length_add_append, List.drop_append_of_le_length enough, List.drop_drop]
      at dropped
    have start : (delivery.advance c.remaining).start =
        c.offset + (c.buffer.length + c.remaining) := by
      rw [Delivery.start_advance, ← aligned, Chunk.cursor]
      omega
    rw [start, ← dropped]
    rfl

theorem Fills.serves {delivery : Delivery} (h : Fills d c delivery stream d' fired)
    (sound : d.Sound) (size : d.identity.size = content.length) (pending : d.queue.pending = [])
    (running : d.queue.stopped = false) (aligned : c.cursor = delivery.start)
    (reaches : delivery.limit = stream.offset) (plain : stream.IsPlain)
    (bytes : c.buffer ++ (delivery.unread ++ joinedBytes stream.items) = content.drop c.offset)
    (limit : c.limit ≤ content.length) :
    (fired = [] ∧ d'.Filling content (c.write delivery.unread) stream) ∨
      (fired = [c.served content] ∧ d'.Rests content) := by
  have sound' := h.sound sound reaches
  obtain ⟨identity, -, queue⟩ := h.same
  rw [← identity] at size
  rw [← queue] at pending running
  rcases h.feeds aligned reaches plain bytes limit with ⟨quiet, phase, fed⟩ | ⟨fires, free, rest⟩
  · exact .inl ⟨quiet, sound', size, pending, running, phase, fed.aligned, fed.plain, fed.bytes,
      fed.within, fed.limit⟩
  · refine .inr ⟨fires, sound', size, ?_, rest⟩
    rw [outstanding, pending, free]
    rfl

theorem wants_of_streaming (at_ : d.phase = .streaming c stream)
    (running : d.queue.stopped = false) (next : stream.next = .bytes delivered rest) :
    d.wants = .ready .deliver := by
  simp [wants, at_, running, next]

theorem deliver_of_bytes (at_ : d.phase = .streaming c stream)
    (next : stream.next = .bytes delivered rest) (some : delivered ≠ []) :
    d.deliver = d.fill c ⟨stream.offset, delivered⟩ rest := by
  cases delivered with
  | nil => exact absurd rfl some
  | cons b more => simp [deliver, at_, next]

theorem deliver_of_empty (at_ : d.phase = .streaming c stream)
    (next : stream.next = .bytes [] rest) :
    d.deliver = ({ d with phase := .streaming c rest }, []) := by
  simp [deliver, at_, next]

theorem Filling.fed (h : d.Filling content c stream) : c.IsFedBy content stream :=
  ⟨h.aligned, h.plain, h.bytes, h.within, h.limit⟩

theorem Filling.pass (h : d.Filling content c stream) (next : stream.next = .bytes [] rest) :
    Filling content c rest { d with phase := .streaming c rest } := by
  have moves := deliver_moves d
  rw [deliver_of_empty h.phase next] at moves
  obtain ⟨aligned, plain, bytes, within, limit⟩ := h.fed.pass next
  exact ⟨moves.sound h.sound, h.size, h.pending, h.running, rfl, aligned, plain, bytes, within,
    limit⟩

theorem Filling.deliver (h : d.Filling content c stream)
    (next : stream.next = .bytes delivered rest) (some : delivered ≠ []) :
    (d.deliver.2 = [] ∧ d.deliver.1.Filling content (c.write delivered) rest) ∨
      (d.deliver.2 = [c.served content] ∧ d.deliver.1.Rests content) := by
  obtain ⟨items, offset, -⟩ := Stream.of_next_bytes next
  rw [deliver_of_bytes h.phase next some]
  refine (fill_fills d c ⟨stream.offset, delivered⟩ rest).serves h.sound h.size h.pending h.running
    h.aligned offset.symm (h.plain.rest next) ?_ h.limit
  rw [← h.bytes, items]
  rfl

/-- A stream that delivers the content to its end fills the chunk before it ends. -/
theorem Filling.willServe (h : d.Filling content c stream) (ready : Ready w) :
    d.WillServe source held w Ready content c := by
  obtain ⟨offset, items, ending⟩ := stream
  -- each item is either empty, or taken whole, or fills the chunk
  induction items generalizing d c offset held with
  | nil =>
    obtain ⟨delivered, rest, next⟩ := h.fed.next
    cases ending <;> cases next
  | cons item more ih =>
    have isBytes := h.plain item List.mem_cons_self
    rcases item with delivered | e
    case failed => cases isBytes
    have next : Stream.next ⟨offset, .bytes delivered :: more, ending⟩ =
      .bytes delivered ⟨offset + delivered.length, more, ending⟩ := rfl
    have wants := wants_of_streaming h.phase h.running next
    by_cases some : delivered = []
    · subst some
      have step : d.step .deliver = _ := deliver_of_empty h.phase next
      apply WillServe.of_quiet wants (by rw [step])
      rw [step]
      exact ih _ (h.pass next)
    · rcases h.deliver next some with ⟨quiet, filling⟩ | ⟨fires, rests⟩
      · have rest : d.deliver.1.WillServe source none w Ready content (c.write delivered) :=
          ih _ filling
        exact .of_quiet wants quiet rest
      · exact .of_fires wants fires rests ready

structure Asking (content : Bytes) (c : Chunk) (d : Downloader) : Prop where
  sound : d.Sound
  size : d.identity.size = content.length
  pending : d.queue.pending = []
  running : d.queue.stopped = false
  phase : d.phase = .requesting c
  fresh : c.buffer = []
  within : c.cursor < content.length
  limit : c.limit ≤ content.length

theorem openContent_ok {identity : FileIdentity} {start : Nat} {opened : OpenedStream} {w' : ε}
    (h : source.openContent w identity start = some (.ok opened, w')) :
    ∃ r w₀, source.locate w identity start = (.ok r, w₀) ∧
      source.issue w₀ r = some (.ok opened, w') := by
  unfold Supplier.openContent at h
  split at h
  · cases h
  · rename_i r w₀ located
    exact ⟨r, w₀, located, h⟩

theorem Asking.willServe (h : d.Asking content c) (ready : Ready w)
    (serves : source.Serves content d.identity Ready) :
    d.WillServe source none w Ready content c := by
  obtain ⟨opened, w', opens, offset, delivers, ready'⟩ := serves w c.cursor ready h.within
  obtain ⟨r, w₀, located, issued⟩ := openContent_ok opens
  have wants : d.wants = .stream c.cursor := by simp [Downloader.wants, h.phase, h.running]
  have connected : d.opened (.ok opened.stream) =
      { d with phase := .streaming c opened.stream, rangeRestarts := 0 } := by
    simp [Downloader.opened, h.phase, connect, offset]
  have filling : (d.opened (.ok opened.stream)).Filling content c opened.stream := by
    have moves := opened_moves d (.ok opened.stream)
    rw [connected] at moves ⊢
    refine ⟨moves.sound h.sound, h.size, h.pending, h.running, rfl, offset.symm, delivers.plain, ?_,
      h.within, h.limit⟩
    rw [h.fresh, delivers.bytes, offset, Chunk.cursor, h.fresh]
    rfl
  have serves' : (d.opened (.ok opened.stream)).WillServe source none w' Ready content c :=
    filling.willServe ready'
  obtain ⟨d', w'', drive, rests, same, ready''⟩ := serves'
  refine ⟨d', w'', ?_, rests, same.trans (by rw [connected]), ready''⟩
  have asks : d.nextRequest source none w c.cursor = (.ok r, w₀) := located
  rw [drive_of_answer wants asks issued]
  exact drive

/-- A fresh chunk has been queued, and no other is outstanding. -/
structure Waiting (content : Bytes) (c : Chunk) (d : Downloader) : Prop where
  sound : d.Sound
  size : d.identity.size = content.length
  pending : d.queue.pending = [c]
  running : d.queue.stopped = false
  free : d.phase = .idle ∨ ∃ leftover stream, d.phase = .between leftover stream
  delivers : d.phase.Delivers content
  fresh : c.buffer = []
  within : c.cursor < content.length
  limit : c.limit ≤ content.length

theorem Waiting.wants (h : d.Waiting content c) : d.wants = .ready .take := by
  rcases h.free with at_ | ⟨leftover, stream, at_⟩ <;>
    simp [Downloader.wants, awaitChunk, at_, h.pending]

theorem Waiting.asks (h : d.Waiting content c) (at_ : d.phase = .idle) :
    d.take.2 = [] ∧ d.take.1.Asking content c := by
  have take : d.take = ((d.shift []).request c, []) := by
    simp [Downloader.take, at_, wake, ChunkQueue.dequeueOrClose_cons h.running h.pending, shift]
  have sound := (take_moves d).sound h.sound
  rw [take] at sound ⊢
  exact ⟨rfl, sound, h.size, rfl, h.running, rfl, h.fresh, h.within, h.limit⟩

theorem Waiting.goesOn {leftover : Delivery} (h : d.Waiting content c)
    (at_ : d.phase = .between leftover stream) :
    (d.take.2 = [] ∧ (d.take.1.Asking content c ∨
        ∃ delivered rest, d.take.1.Filling content (c.write delivered) rest)) ∨
      (d.take.2 = [c.served content] ∧ d.take.1.Rests content) := by
  have take : d.take = (d.shift []).follow c leftover stream := by
    simp [Downloader.take, at_, proceed, ChunkQueue.dequeueOrClose_cons h.running h.pending, shift]
  have sound := (take_moves d).sound h.sound
  obtain ⟨reaches, -⟩ := h.sound.between leftover stream at_
  have delivers := h.delivers
  rw [at_] at delivers
  obtain ⟨plain, bytes⟩ := delivers
  by_cases aligned : c.cursor = leftover.start
  · have all : c.buffer ++ (leftover.unread ++ joinedBytes stream.items) =
        content.drop c.offset := by
      rw [h.fresh, bytes, ← aligned, Chunk.cursor_of_fresh h.fresh]
      rfl
    by_cases used : leftover.unread = []
    · -- the chunk waits for the next item of the stream
      have follow : d.take = ({ d.shift [] with phase := .streaming c stream }, []) := by
        simp [take, Downloader.follow, aligned, Delivery.isEmpty, used]
      rw [follow] at sound ⊢
      rw [used] at all
      left
      refine ⟨rfl, .inr ⟨[], stream, ?_⟩⟩
      rw [Chunk.write_nil]
      refine ⟨sound, h.size, rfl, h.running, rfl, ?_, plain, all, h.within, h.limit⟩
      rw [aligned, ← reaches, Delivery.limit, used]
      rfl
    · have follow : d.take = (d.shift []).fill c leftover stream := by
        simp [take, Downloader.follow, aligned, Delivery.isEmpty, used]
      rw [follow]
      have fills := fill_fills (d.shift []) c leftover stream
      rcases fills.serves (h.sound.shift h.pending) h.size rfl h.running aligned reaches plain all
        h.limit with ⟨quiet, filling⟩ | served
      · exact .inl ⟨quiet, .inr ⟨_, _, filling⟩⟩
      · exact .inr served
  · have follow : d.take = ((d.shift []).seek c, []) := by
      simp [take, Downloader.follow, aligned]
    rw [follow] at sound ⊢
    left
    exact ⟨rfl, .inl ⟨sound, h.size, rfl, h.running, rfl, h.fresh, h.within, h.limit⟩⟩

theorem Waiting.willServe (h : d.Waiting content c) (ready : Ready w)
    (serves : source.Serves content d.identity Ready) :
    d.WillServe source none w Ready content c := by
  have identity : d.take.1.identity = d.identity := (step_same d .take).1
  rw [← identity] at serves
  rcases h.free with at_ | ⟨leftover, stream, at_⟩
  · obtain ⟨quiet, asking⟩ := h.asks at_
    exact .of_quiet h.wants quiet (asking.willServe ready serves)
  · rcases h.goesOn at_ with ⟨quiet, asking | ⟨delivered, rest, filling⟩⟩ | ⟨fires, rests⟩
    · exact .of_quiet h.wants quiet (asking.willServe ready serves)
    · have served : d.take.1.WillServe source none w Ready content (c.write delivered) :=
        filling.willServe ready
      exact .of_quiet h.wants quiet served
    · exact .of_fires h.wants fires rests ready

theorem Rests.step (h : d.Rests content) (e : Event) : (d.step e).1.Rests content := by
  have moves := d.step_moves e
  obtain ⟨identity, -⟩ := d.step_same e
  obtain ⟨empty, free⟩ := List.append_eq_nil_iff.mp h.outstanding
  refine ⟨moves.sound h.sound, by rw [identity, h.size], moves.outstanding_nil h.outstanding, ?_⟩
  generalize (d.step e).1 = d', (d.step e).2 = fired at moves
  cases moves with
  | stays none => exact h.phase
  | ends why => exact trivial
  | stops at_ => exact trivial
  | wakes _ _ first => simp [empty] at first
  | continues _ _ first => simp [empty] at first
  | follows _ _ first => simp [empty] at first
  | _ at_ => simp [at_, Phase.chunks] at free

theorem Rests.free (h : d.Rests content)
    (running : d.isStopped = false) :
    d.phase = .idle ∨ ∃ leftover stream, d.phase = .between leftover stream := by
  obtain ⟨-, chunks⟩ := List.append_eq_nil_iff.mp h.outstanding
  have open_ : d.queue.closed = false := by
    simp only [isStopped, ChunkQueue.isClosed, Bool.or_eq_false_iff] at running
    exact running.1.1
  cases at_ : d.phase with
  | idle => exact .inl rfl
  | between leftover stream => exact .inr ⟨leftover, stream, rfl⟩
  | requesting c => simp [at_, Phase.chunks] at chunks
  | streaming c stream => simp [at_, Phase.chunks] at chunks
  | failing shown error rest =>
    have closed := h.sound.closed_of_over (by rw [at_]; rfl)
    rw [open_] at closed
    cases closed
  | stopped =>
    have closed := h.sound.closed_of_over (by rw [at_]; rfl)
    rw [open_] at closed
    cases closed

theorem Rests.enqueue (h : d.Rests content) (running : d.isStopped = false) (fresh : c.buffer = [])
    (within : c.offset < content.length) :
    ∃ d', d.enqueue c = .ok (d', []) ∧ d'.identity = d.identity ∧
      d'.Waiting content (c.clampTo content.length) := by
  have cursor := Chunk.cursor_of_fresh fresh
  obtain ⟨empty, -⟩ := List.append_eq_nil_iff.mp h.outstanding
  have shut : d.queue.isClosed = false := by
    simp only [isStopped, Bool.or_eq_false_iff] at running
    exact running.1
  have stop : d.queue.stopped = false := by
    simp only [ChunkQueue.isClosed, Bool.or_eq_false_iff] at shut
    exact shut.2
  have enqueues := d.enqueue_enqueues c
  generalize outcome : d.enqueue c = answer at enqueues
  have sound := fun d' fired (same : answer = .ok (d', fired)) =>
    Enqueues.sound (same ▸ enqueues) h.sound
  cases enqueues with
  | completes past =>
    rw [h.size, cursor] at past
    omega
  | refuses _ closed =>
    rw [shut] at closed
    cases closed
  | queues _ _ =>
    refine ⟨_, rfl, rfl, sound _ _ rfl, h.size, ?_, stop, h.free running, h.phase, fresh, ?_, ?_⟩
    · rw [empty, h.sound.fileSize, h.size]
      rfl
    · rw [Chunk.cursor_clampTo, cursor]
      exact within
    · rw [Chunk.limit_clampTo, cursor]
      omega

end Downloader

end RangeFetch
