import RangeFetch.Chunk.QueueHistory

namespace RangeFetch

namespace ChunkQueue

variable (q : ChunkQueue)

theorem enqueue_clampTo (c : Chunk) : q.enqueue (c.clampTo q.fileSize) = q.enqueue c := by
  simp only [enqueue, Chunk.clampTo_clampTo]

theorem exists_enqueue_iff (c : Chunk) :
    (∃ q', q.enqueue c = .ok q') ↔ q.closed = false ∧ q.stopped = false := by
  rw [← Bool.or_eq_false_iff]
  change _ ↔ q.isClosed = false
  cases shut : q.isClosed with
  | false => simp [enqueue_of_open c shut]
  | true => simp [enqueue_of_closed c shut]

theorem eq_clampTo_of_enqueue {c c' : Chunk} (refused : q.enqueue c = .error c') :
    c' = c.clampTo q.fileSize := by
  cases shut : q.isClosed with
  | false =>
    rw [enqueue_of_open c shut] at refused
    cases refused
  | true =>
    rw [enqueue_of_closed c shut] at refused
    exact (Except.error.inj refused).symm

theorem dequeue_of_timedOut (h : q.dequeue.1 = .timedOut) : q.dequeue.2 = q := by
  unfold dequeue at h ⊢
  split
  · rfl
  · cases first : q.pending with
    | nil => rfl
    | cons c rest => simp [*] at h

end ChunkQueue

namespace QueueHistory

open ChunkQueue (Operation)

variable {h h' : QueueHistory} {x : Operation}

/-- What goes in and out, and what closing leaves. -/
structure Whole (h : QueueHistory) : Prop where
  accepted : h.accepted.Perm (h.dequeued ++ h.drained ++ h.queue.pending)
  empty_of_closed : h.queue.closed = true → h.queue.pending = []

theorem whole_start (fileSize : Nat) : (start fileSize).Whole := ⟨.nil, fun _ => rfl⟩

theorem Steps.whole (steps : Steps h x h') (inv : h.Whole) : h'.Whole := by
  obtain ⟨accepted, empty⟩ := inv
  cases steps with
  | @accepts c isOpen =>
    refine ⟨?_, fun closed => ?_⟩
    · have inserted := (ChunkQueue.insert_perm (c.clampTo h.queue.fileSize) h.queue.pending).symm
      calc h.accepted ++ [c.clampTo h.queue.fileSize]
        _ |>.Perm (h.dequeued ++ h.drained ++ h.queue.pending ++ [c.clampTo h.queue.fileSize]) :=
          accepted.append_right _
        _ |>.Perm (h.dequeued ++ h.drained ++ (c.clampTo h.queue.fileSize :: h.queue.pending)) := by
          rw [List.append_assoc]
          exact (List.perm_append_singleton _ _).append_left _
        _ |>.Perm _ := inserted.append_left _
    · simp [ChunkQueue.isClosed] at isOpen
      simp [isOpen.1] at closed
  | refuses closed => exact ⟨accepted, empty⟩
  | takes waits running first =>
    rw [first] at accepted empty
    refine ⟨accepted.trans ?_, fun closed => ?_⟩
    · simp only [List.append_assoc, List.singleton_append]
      exact List.perm_middle.append_left _
    · cases empty closed
  | misses waits why => exact ⟨accepted, empty⟩
  | expires running none => exact ⟨accepted, fun _ => none⟩
  | closes =>
    refine ⟨?_, fun _ => rfl⟩
    simpa using accepted
  | stops => exact ⟨accepted, empty⟩

theorem whole_run (xs : List Operation) (inv : h.Whole) : (h.run xs).Whole :=
  run_induction (fun _ _ _ steps => steps.whole) xs inv

/-- What has come about and stays so. -/
structure Lasts (h h' : QueueHistory) : Prop where
  closed : h.queue.closed = true → h'.queue.closed = true
  stopped : h.queue.stopped = true → h'.queue.stopped = true
  accepted : h.queue.isClosed = true → h'.accepted = h.accepted
  dequeued : h.queue.stopped = true → h'.dequeued = h.dequeued

theorem Lasts.refl (h : QueueHistory) : h.Lasts h := ⟨id, id, fun _ => rfl, fun _ => rfl⟩

theorem Lasts.trans {h'' : QueueHistory} (first : h.Lasts h') (second : h'.Lasts h'') :
    h.Lasts h'' := by
  refine ⟨second.closed ∘ first.closed, second.stopped ∘ first.stopped, fun shut => ?_,
    fun stop => (second.dequeued (first.stopped stop)).trans (first.dequeued stop)⟩
  -- shut by either flag, it is still shut by that flag
  have still : h'.queue.isClosed = true := by
    simp only [ChunkQueue.isClosed, Bool.or_eq_true] at shut ⊢
    exact shut.imp first.closed first.stopped
  exact (second.accepted still).trans (first.accepted shut)

theorem Steps.lasts (steps : Steps h x h') : h.Lasts h' := by
  cases steps with
  | accepts isOpen =>
    refine ⟨id, id, fun closed => ?_, fun _ => rfl⟩
    rw [isOpen] at closed
    cases closed
  | refuses closed => exact ⟨id, id, fun _ => rfl, fun _ => rfl⟩
  | takes waits running first =>
    refine ⟨id, id, fun _ => rfl, fun stop => ?_⟩
    rw [running] at stop
    cases stop
  | misses waits why => exact .refl h
  | expires running none => exact ⟨fun _ => rfl, id, fun _ => rfl, fun _ => rfl⟩
  | closes => exact ⟨fun _ => rfl, id, fun _ => rfl, fun _ => rfl⟩
  | stops => exact ⟨id, fun _ => rfl, fun _ => rfl, fun _ => rfl⟩

theorem lasts_run (xs : List Operation) (h : QueueHistory) : h.Lasts (h.run xs) :=
  run_induction (P := fun h' => h.Lasts h') (fun _ _ _ steps lasts => lasts.trans steps.lasts) xs
    (.refl h)

theorem Steps.offers (steps : Steps h x h') :
    (h'.accepted = h.accepted ∧ h'.handedBack = h.handedBack ∧ offers [x] = []) ∨
      ∃ c, offers [x] = [c] ∧
        (h'.accepted = h.accepted ++ [c.clampTo h.queue.fileSize] ∧
            h'.handedBack = h.handedBack ∨
          h'.accepted = h.accepted ∧
            h'.handedBack = h.handedBack ++ [c.clampTo h.queue.fileSize]) := by
  cases steps with
  | accepts isOpen => exact .inr ⟨_, rfl, .inl ⟨rfl, rfl⟩⟩
  | refuses closed => exact .inr ⟨_, rfl, .inr ⟨rfl, rfl⟩⟩
  | takes waits _ _ => rcases waits with rfl | rfl <;> exact .inl ⟨rfl, rfl, rfl⟩
  | misses waits _ => rcases waits with rfl | rfl <;> exact .inl ⟨rfl, rfl, rfl⟩
  | expires _ _ => exact .inl ⟨rfl, rfl, rfl⟩
  | closes => exact .inl ⟨rfl, rfl, rfl⟩
  | stops => exact .inl ⟨rfl, rfl, rfl⟩

theorem offers_cons (x : Operation) (xs : List Operation) :
    QueueHistory.offers (x :: xs) = QueueHistory.offers [x] ++ QueueHistory.offers xs :=
  List.filterMap_append (l := [x])

theorem offers_run (xs : List Operation) (h : QueueHistory) :
    ((h.accepted ++ h.handedBack) ++ (offers xs).map (·.clampTo h.queue.fileSize)).Perm
      ((h.run xs).accepted ++ (h.run xs).handedBack) := by
  induction xs generalizing h with
  | nil => simp [QueueHistory.offers, run]
  | cons x rest ih =>
    have steps := h.step_steps x
    have size : (h.step x).queue.fileSize = h.queue.fileSize := fileSize_run [x]
    refine .trans ?_ (ih (h.step x))
    rw [size, offers_cons, List.map_append, ← List.append_assoc]
    refine List.Perm.append_right _ ?_
    obtain ⟨accepted, handedBack, none⟩ |
        ⟨c, one, ⟨accepted, handedBack⟩ | ⟨accepted, handedBack⟩⟩ :=
      steps.offers
    · rw [accepted, handedBack, none, List.map_nil, List.append_nil]
    · rw [accepted, handedBack, one, List.map_singleton, List.append_assoc, List.append_assoc]
      exact List.perm_append_comm.append_left _
    · rw [accepted, handedBack, one, List.map_singleton, List.append_assoc]

/-- Closed and stopped are for good, and no chunk waits in a closed queue. What was offered was
accepted or handed back; what was accepted has come out once or is pending; and what was handed back
can be queued elsewhere as it is. -/
theorem no_chunk_stranded (fileSize : Nat) (xs : List Operation) :
    let h := (start fileSize).run xs
    let q := h.queue
    (∀ ys, h.Lasts (h.run ys)) ∧
      (q.closed = true → q.pending = []) ∧
      (∀ c, (∃ q', q.enqueue c = .ok q') ↔ q.closed = false ∧ q.stopped = false) ∧
      (q.stopped = true → q.dequeue = (.stopped, q) ∧ q.dequeueOrClose = (.stopped, q)) ∧
      (q.dequeue.1 = .timedOut → q.dequeue.2 = q) ∧
      (h.accepted ++ h.handedBack).Perm ((offers xs).map (·.clampTo fileSize)) ∧
      h.accepted.Perm (h.dequeued ++ h.drained ++ q.pending) ∧
      ∀ c c', q.enqueue c = .error c' →
        c' = c.clampTo fileSize ∧
          ∀ other : ChunkQueue, other.fileSize = fileSize → other.enqueue c' = other.enqueue c := by
  intro h q
  have size : q.fileSize = fileSize := fileSize_run xs
  have whole : h.Whole := whole_run xs (whole_start fileSize)
  refine ⟨fun ys => lasts_run ys h, whole.empty_of_closed, q.exists_enqueue_iff, fun stop => ?_,
    q.dequeue_of_timedOut, (offers_run xs (start fileSize)).symm, whole.accepted,
    fun c c' refused => ?_⟩
  · exact ⟨ChunkQueue.dequeue_of_stopped stop, ChunkQueue.dequeueOrClose_of_stopped stop⟩
  · have clamped : c' = c.clampTo fileSize := size ▸ q.eq_clampTo_of_enqueue refused
    refine ⟨clamped, fun other same => ?_⟩
    rw [clamped, ← same]
    exact other.enqueue_clampTo c

theorem closing_strands_no_chunk :
    let h := (start 5).run
      [.enqueue ⟨0, 2, 9, [], by decide⟩, .enqueue ⟨1, 0, 4, [], by decide⟩, .dequeueOrClose,
        .close,
        .enqueue ⟨2, 1, 8, [], by decide⟩]
    (h.queue.closed = true ∧ h.queue.pending = []) ∧
      h.dequeued = [⟨1, 0, 4, [], by decide⟩] ∧ h.drained = [⟨0, 2, 5, [], by decide⟩] ∧
      h.accepted.Perm (h.dequeued ++ h.drained ++ h.queue.pending) ∧
      h.Lasts (h.run [.stop, .dequeue]) ∧
      (h.run [.stop]).queue.dequeue = (.stopped, (h.run [.stop]).queue) ∧
      (ChunkQueue.empty 5).enqueue ⟨2, 1, 5, [], by decide⟩ =
        (ChunkQueue.empty 5).enqueue ⟨2, 1, 8, [], by decide⟩ := by
  intro h
  let xs : List Operation :=
    [.enqueue ⟨0, 2, 9, [], by decide⟩, .enqueue ⟨1, 0, 4, [], by decide⟩, .dequeueOrClose, .close,
      .enqueue ⟨2, 1, 8, [], by decide⟩]
  have closed : h.queue.closed = true := by decide
  obtain ⟨lasts, empty, -, -, -, -, out, back⟩ := no_chunk_stranded 5 xs
  obtain ⟨-, -, -, stopped, -⟩ := no_chunk_stranded 5 (xs ++ [.stop])
  obtain ⟨-, again⟩ := back ⟨2, 1, 8, [], by decide⟩ ⟨2, 1, 5, [], by decide⟩ rfl
  exact ⟨⟨closed, empty closed⟩, by decide, by decide, out, lasts [.stop, .dequeue],
    (stopped (by decide)).1, again (.empty 5) rfl⟩

end QueueHistory

end RangeFetch
