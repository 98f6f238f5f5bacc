import Mathlib.Data.List.Perm.Subperm
import RangeFetch.Proofs.Chunk.Turnover

namespace RangeFetch

/-- The chunks in order of cursor; those with equal cursors stay in the order that they have. -/
def byCursor (l : List Chunk) : List Chunk := l.mergeSort fun c d => decide (c.cursor ≤ d.cursor)

def Ascending (l : List Chunk) : Prop := l.Pairwise fun c d => c.cursor ≤ d.cursor

/-- The chunks that stand at an offset. -/
def standingAt (n : Nat) (l : List Chunk) : List Chunk := l.filter (·.cursor == n)

section Sorting

variable {l m : List Chunk} {c : Chunk}

theorem standingAt_append (n : Nat) (l m : List Chunk) :
    standingAt n (l ++ m) = standingAt n l ++ standingAt n m := List.filter_append l m

theorem standingAt_cons_self (c : Chunk) (l : List Chunk) :
    standingAt c.cursor (c :: l) = c :: standingAt c.cursor l :=
  List.filter_cons_of_pos (beq_self_eq_true c.cursor)

theorem standingAt_cons_of_ne {n : Nat} (l : List Chunk) (h : c.cursor ≠ n) :
    standingAt n (c :: l) = standingAt n l :=
  List.filter_cons_of_neg (by simpa using h)

theorem mem_standingAt {n : Nat} {d : Chunk} : d ∈ standingAt n l ↔ d ∈ l ∧ d.cursor = n := by
  simp [standingAt]

theorem standingAt_erase (n : Nat) (l : List Chunk) (c : Chunk) :
    standingAt n (l.erase c) = (standingAt n l).erase c := (List.erase_filter ..).symm

@[simp] theorem byCursor_nil : byCursor [] = [] := List.mergeSort_nil

theorem byCursor_perm (l : List Chunk) : (byCursor l).Perm l := List.mergeSort_perm l _

theorem ascending_byCursor (l : List Chunk) : Ascending (byCursor l) := by
  have sorted : (byCursor l).Pairwise fun c d => decide (c.cursor ≤ d.cursor) = true :=
    List.pairwise_mergeSort (fun a b c => by simpa using Nat.le_trans)
      (fun a b => by simpa using Nat.le_total _ _) l
  exact sorted.imp of_decide_eq_true

theorem standingAt_byCursor (n : Nat) (l : List Chunk) :
    standingAt n (byCursor l) = standingAt n l := by
  have equal : (standingAt n l).Pairwise fun c d => decide (c.cursor ≤ d.cursor) = true := by
    refine List.pairwise_of_forall_mem_list fun c hc d hd => ?_
    rw [mem_standingAt] at hc hd
    simp [hc.2, hd.2]
  have kept : (standingAt n l).Sublist (byCursor l) :=
    List.sublist_mergeSort (fun a b c => by simpa using Nat.le_trans)
      (fun a b => by simpa using Nat.le_total _ _) equal List.filter_sublist
  have within : (standingAt n l).Sublist (standingAt n (byCursor l)) := by
    have twice := kept.filter (·.cursor == n)
    simpa only [standingAt, List.filter_filter, Bool.and_self] using twice
  exact (within.eq_of_length ((byCursor_perm l).filter _).length_eq.symm).symm

theorem cursor_le_of_standingAt (hm : Ascending (c :: m)) {d : Chunk}
    (same : standingAt d.cursor l = standingAt d.cursor (c :: m)) (hd : d ∈ l) :
    c.cursor ≤ d.cursor := by
  have there : d ∈ c :: m := (mem_standingAt.mp (same ▸ mem_standingAt.mpr ⟨hd, rfl⟩)).1
  rcases List.mem_cons.mp there with rfl | later
  · exact Nat.le_refl _
  · exact List.rel_of_pairwise_cons hm later

/-- Ascending lists are determined by the chunks at each offset. -/
theorem eq_of_standingAt (hl : Ascending l) (hm : Ascending m)
    (same : ∀ n, standingAt n l = standingAt n m) : l = m := by
  induction l generalizing m with
  | nil =>
    cases m with
    | nil => rfl
    | cons d m =>
      have := same d.cursor
      rw [standingAt_cons_self] at this
      cases this
  | cons c l ih =>
    cases m with
    | nil =>
      have := same c.cursor
      rw [standingAt_cons_self] at this
      cases this
    | cons d m =>
      have cursors : c.cursor = d.cursor :=
        Nat.le_antisymm (cursor_le_of_standingAt hl (same d.cursor).symm List.mem_cons_self)
          (cursor_le_of_standingAt hm (same c.cursor) List.mem_cons_self)
      have heads := same c.cursor
      rw [standingAt_cons_self, cursors, standingAt_cons_self] at heads
      obtain ⟨rfl, tails⟩ := List.cons.inj heads
      rw [ih hl.of_cons hm.of_cons fun n => ?_]
      by_cases here : c.cursor = n
      · rw [← here]
        exact tails
      · rw [← standingAt_cons_of_ne l here, same n, standingAt_cons_of_ne m here]

theorem eq_byCursor (hl : Ascending l) (same : ∀ n, standingAt n l = standingAt n m) :
    l = byCursor m :=
  eq_of_standingAt hl (ascending_byCursor m) fun n => (same n).trans (standingAt_byCursor n m).symm

theorem ascending_insert (hl : Ascending l) (c : Chunk) : Ascending (ChunkQueue.insert c l) := by
  induction l with
  | nil => exact List.pairwise_singleton _ _
  | cons d rest ih =>
    obtain ⟨first, others⟩ := List.pairwise_cons.mp hl
    unfold ChunkQueue.insert
    split
    · rename_i le
      refine List.pairwise_cons.mpr ⟨fun e he => ?_, ih others⟩
      rcases List.mem_cons.mp ((ChunkQueue.insert_perm c rest).mem_iff.mp he) with rfl | there
      · exact le
      · exact first e there
    · rename_i gt
      refine List.pairwise_cons.mpr ⟨fun e he => ?_, hl⟩
      rcases List.mem_cons.mp he with rfl | there
      · exact Nat.le_of_not_le gt
      · exact Nat.le_trans (Nat.le_of_not_le gt) (first e there)

/-- A chunk goes behind all that stand where it stands. -/
theorem standingAt_insert (hl : Ascending l) (c : Chunk) (n : Nat) :
    standingAt n (ChunkQueue.insert c l) = standingAt n (l ++ [c]) := by
  induction l with
  | nil => rfl
  | cons d rest ih =>
    obtain ⟨first, others⟩ := List.pairwise_cons.mp hl
    unfold ChunkQueue.insert
    split
    · simp only [standingAt, List.cons_append, List.filter_cons] at ih ⊢
      rw [ih others]
    · rename_i gt
      by_cases here : c.cursor = n
      · -- all that follow stand further on
        have none : standingAt n (d :: rest) = [] := by
          refine List.filter_eq_nil_iff.mpr fun e he => ?_
          rcases List.mem_cons.mp he with rfl | there
          · simp; omega
          · have := first e there
            simp; omega
        rw [standingAt_append, none, ← here, standingAt_cons_self, here, none]
        simp [standingAt, here]
      · rw [standingAt_cons_of_ne _ here, standingAt_append, standingAt_cons_of_ne [] here]
        simp [standingAt]

/-- To insert into the sorted list is to sort with the chunk as the last to arrive. -/
theorem insert_byCursor (c : Chunk) (l : List Chunk) :
    ChunkQueue.insert c (byCursor l) = byCursor (l ++ [c]) := by
  refine eq_byCursor (ascending_insert (ascending_byCursor l) c) fun n => ?_
  rw [standingAt_insert (ascending_byCursor l), standingAt_append, standingAt_append,
    standingAt_byCursor]

theorem eq_byCursor_erase (first : byCursor l = c :: m) : m = byCursor (l.erase c) := by
  have sorted := ascending_byCursor l
  rw [first] at sorted
  refine eq_byCursor sorted.of_cons fun n => ?_
  calc standingAt n m
    _ = standingAt n ((c :: m).erase c) := by rw [List.erase_cons_head]
    _ = (standingAt n (byCursor l)).erase c := by rw [standingAt_erase, first]
    _ = standingAt n (l.erase c) := by rw [standingAt_byCursor, standingAt_erase]

/-- The first of the sorted list is the earliest of those with the least cursor. -/
theorem exists_earliest (first : byCursor l = c :: m) :
    ∃ before after, l = before ++ c :: after ∧ l.erase c = before ++ after ∧
      (∀ d ∈ before, c.cursor < d.cursor) ∧ ∀ d ∈ after, c.cursor ≤ d.cursor := by
  have perm := byCursor_perm l
  have sorted := ascending_byCursor l
  rw [first] at perm sorted
  have least : ∀ d ∈ l, c.cursor ≤ d.cursor := by
    intro d hd
    rcases List.mem_cons.mp (perm.mem_iff.mpr hd) with rfl | there
    · exact Nat.le_refl _
    · exact List.rel_of_pairwise_cons sorted there
  obtain ⟨before, after, fresh, split, erased⟩ :=
    List.exists_erase_eq (perm.mem_iff.mp List.mem_cons_self)
  refine ⟨before, after, split, erased, fun d hd => ?_, fun d hd => ?_⟩
  · refine Nat.lt_of_le_of_ne (least d (by simp [split, hd])) fun same => fresh ?_
    -- the chunks at that cursor begin with the chunk itself
    have heads := standingAt_byCursor c.cursor l
    rw [first, standingAt_cons_self, split, standingAt_append] at heads
    cases here : standingAt c.cursor before with
    | nil => simpa [here] using mem_standingAt.mpr ⟨hd, same.symm⟩
    | cons e others =>
      rw [here] at heads
      obtain ⟨rfl, -⟩ := List.cons.inj heads
      exact (mem_standingAt.mp (here ▸ List.mem_cons_self)).1
  · exact least d (by simp [split, hd])

def reachedBy (c : Chunk) (l : List Chunk) : Nat := l.countP (·.cursor ≤ c.cursor)

theorem reachedBy_cons_of_le {d : Chunk} (le : d.cursor ≤ c.cursor) (l : List Chunk) :
    reachedBy c (d :: l) = reachedBy c l + 1 := List.countP_cons_of_pos (by simpa using le)

theorem reachedBy_eq_zero {d : Chunk} (hl : Ascending (d :: l)) (gt : ¬d.cursor ≤ c.cursor) :
    reachedBy c (d :: l) = 0 := by
  refine List.countP_eq_zero.mpr fun e he => ?_
  rcases List.mem_cons.mp he with rfl | there
  · simpa using gt
  · have := List.rel_of_pairwise_cons hl there
    simp; omega

theorem cursor_le_iff_lt_reachedBy (hl : Ascending l) (c : Chunk) {j : Nat} {d : Chunk}
    (there : l[j]? = some d) : d.cursor ≤ c.cursor ↔ j < reachedBy c l := by
  induction l generalizing j with
  | nil => simp at there
  | cons e rest ih =>
    by_cases le : e.cursor ≤ c.cursor
    · rw [reachedBy_cons_of_le le]
      cases j with
      | zero =>
        cases Option.some.inj there
        simpa using le
      | succ j => simpa using ih hl.of_cons (by simpa using there)
    · have none := reachedBy_eq_zero hl le
      rw [none]
      simpa using List.countP_eq_zero.mp none d (List.mem_of_getElem? there)

theorem insert_eq_insertIdx (hl : Ascending l) (c : Chunk) :
    ChunkQueue.insert c l = l.insertIdx (reachedBy c l) c := by
  induction l with
  | nil => rfl
  | cons e rest ih =>
    unfold ChunkQueue.insert
    by_cases le : e.cursor ≤ c.cursor
    · rw [if_pos le, reachedBy_cons_of_le le, List.insertIdx_succ_cons, ih hl.of_cons]
    · rw [if_neg le, reachedBy_eq_zero hl le, List.insertIdx_zero]

theorem byCursor_append_eq {cs cs' : List Chunk} (l : List Chunk) (perm : cs.Perm cs')
    (apart : cs.Pairwise fun c d => c.cursor ≠ d.cursor) :
    byCursor (l ++ cs) = byCursor (l ++ cs') := by
  refine eq_byCursor (ascending_byCursor _) fun n => ?_
  rw [standingAt_byCursor, standingAt_append, standingAt_append]
  have perm : (standingAt n cs).Perm (standingAt n cs') := perm.filter _
  have apart := apart.filter (·.cursor == n)
  congr 1
  -- at each offset there is at most one of them, and one has no order
  cases one : standingAt n cs with
  | nil => exact (List.nil_perm.mp (one ▸ perm)).symm
  | cons c others =>
    cases others with
    | nil => exact List.singleton_perm.mp (one ▸ perm)
    | cons d others =>
      have hc : c ∈ standingAt n cs := by simp [one]
      have hd : d ∈ standingAt n cs := by simp [one]
      change (standingAt n cs).Pairwise _ at apart
      rw [one] at apart
      exact absurd ((mem_standingAt.mp hc).2.trans (mem_standingAt.mp hd).2.symm)
        (List.rel_of_pairwise_cons apart List.mem_cons_self)

end Sorting

theorem diff_append_of_subperm {α : Type} [DecidableEq α] {l out : List α} (m : List α)
    (within : out.Subperm l) : (l ++ m).diff out = l.diff out ++ m := by
  induction out generalizing l with
  | nil => rfl
  | cons a out ih =>
    have ha : a ∈ l := within.subset List.mem_cons_self
    rw [List.diff_cons, List.diff_cons, List.erase_append_left m ha]
    refine ih ?_
    have := within.erase a
    rwa [List.erase_cons_head] at this

theorem diff_eq_nil_of_perm {α : Type} [DecidableEq α] {l m : List α} (perm : l.Perm m) :
    l.diff m = [] := by
  induction m generalizing l with
  | nil => exact perm.eq_nil
  | cons a m ih =>
    rw [List.diff_cons]
    exact ih (by simpa using perm.erase a)

namespace QueueHistory

open ChunkQueue (Operation)

variable {h h' : QueueHistory} {x : Operation}

/-- The chunks that have come out, by a wait or by closing. -/
def out (h : QueueHistory) : List Chunk := h.dequeued ++ h.drained

/-- The chunks that were accepted and have not come out, in the order of their arrival. -/
def waiting (h : QueueHistory) : List Chunk := h.accepted.diff h.out

theorem out_subperm (whole : h.Whole) : h.out.Subperm h.accepted :=
  (List.sublist_append_left h.out h.queue.pending).subperm.trans whole.accepted.symm.subperm

theorem Steps.ordered (steps : Steps h x h') (whole : h.Whole)
    (sorted : h.queue.pending = byCursor h.waiting) : h'.queue.pending = byCursor h'.waiting := by
  cases steps with
  | @accepts c isOpen =>
    change ChunkQueue.insert _ h.queue.pending = byCursor ((h.accepted ++ [_]).diff h.out)
    rw [diff_append_of_subperm _ (out_subperm whole), sorted, insert_byCursor]
    rfl
  | refuses closed => exact sorted
  | @takes _ c rest waits running first =>
    have reordered : (h.dequeued ++ [c] ++ h.drained).Perm (h.out ++ [c]) := by
      rw [List.append_assoc, out, List.append_assoc]
      exact List.perm_append_comm.append_left _
    change rest = byCursor (h.accepted.diff (h.dequeued ++ [c] ++ h.drained))
    rw [reordered.diff_left, List.diff_append, List.diff_cons, List.diff_nil]
    exact eq_byCursor_erase (sorted.symm.trans first)
  | misses waits why => exact sorted
  | expires running none => exact sorted
  | closes =>
    change [] = byCursor (h.accepted.diff (h.dequeued ++ (h.drained ++ h.queue.pending)))
    rw [← List.append_assoc, diff_eq_nil_of_perm whole.accepted, byCursor_nil]
  | stops => exact sorted

theorem ordered_run (xs : List Operation) (whole : h.Whole)
    (sorted : h.queue.pending = byCursor h.waiting) :
    (h.run xs).queue.pending = byCursor (h.run xs).waiting := by
  have both := run_induction (P := fun h => h.Whole ∧ h.queue.pending = byCursor h.waiting)
    (fun _ _ _ steps inv => ⟨steps.whole inv.1, steps.ordered inv.1 inv.2⟩) xs ⟨whole, sorted⟩
  exact both.2

theorem ordered_start (fileSize : Nat) :
    (start fileSize).queue.pending = byCursor (start fileSize).waiting := byCursor_nil.symm

theorem accepted_run (xs : List Operation) (h : QueueHistory) :
    ∃ taken, (h.run xs).accepted = h.accepted ++ taken ∧
      taken.Sublist ((offers xs).map (·.clampTo h.queue.fileSize)) := by
  induction xs generalizing h with
  | nil => exact ⟨[], (List.append_nil _).symm, .slnil⟩
  | cons x rest ih =>
    have steps := h.step_steps x
    have size : (h.step x).queue.fileSize = h.queue.fileSize := fileSize_run [x]
    obtain ⟨taken, later, among⟩ := ih (h.step x)
    rw [size] at among
    rw [run, offers_cons, List.map_append]
    obtain ⟨accepted, -, none⟩ | ⟨c, one, ⟨accepted, -⟩ | ⟨accepted, -⟩⟩ := steps.offers
    · exact ⟨taken, by rw [later, accepted], by simpa [none] using among⟩
    · refine ⟨c.clampTo h.queue.fileSize :: taken, ?_, ?_⟩
      · rw [later, accepted, List.append_assoc, List.singleton_append]
      · simpa [one] using among
    · exact ⟨taken, by rw [later, accepted], by simpa [one] using among.cons _⟩

section Offering

variable (cs : List Chunk)

theorem out_run_enqueue (h : QueueHistory) : (h.run (cs.map .enqueue)).out = h.out := by
  induction cs generalizing h with
  | nil => rfl
  | cons c rest ih =>
    have here : (h.enqueue c).out = h.out := by
      unfold enqueue
      split <;> rfl
    exact (ih (h.enqueue c)).trans here

theorem accepted_run_enqueue (isOpen : h.queue.isClosed = false) :
    (h.run (cs.map .enqueue)).accepted =
      h.accepted ++ cs.map (·.clampTo h.queue.fileSize) := by
  induction cs generalizing h with
  | nil => exact (List.append_nil _).symm
  | cons c rest ih =>
    have here : h.step (.enqueue c) = { h with
        queue := { h.queue with
          pending := ChunkQueue.insert (c.clampTo h.queue.fileSize) h.queue.pending }
        accepted := h.accepted ++ [c.clampTo h.queue.fileSize] } := by
      simp only [step, enqueue, ChunkQueue.enqueue_of_open c isOpen]
    rw [List.map_cons, run, ih (by rw [here]; exact isOpen), here, List.map_cons]
    simp

end Offering

theorem pending_run_enqueue (whole : h.Whole) (sorted : h.queue.pending = byCursor h.waiting)
    {cs cs' : List Chunk} (perm : cs.Perm cs')
    (apart : cs.Pairwise fun c d => c.cursor ≠ d.cursor) :
    (h.run (cs.map .enqueue)).queue.pending = (h.run (cs'.map .enqueue)).queue.pending := by
  rw [ordered_run _ whole sorted, ordered_run _ whole sorted]
  unfold waiting
  rw [out_run_enqueue, out_run_enqueue]
  cases shut : h.queue.isClosed with
  | true => rw [(lasts_run _ h).accepted shut, (lasts_run _ h).accepted shut]
  | false =>
    have within := out_subperm whole
    rw [accepted_run_enqueue cs shut, accepted_run_enqueue cs' shut,
      diff_append_of_subperm _ within, diff_append_of_subperm _ within]
    refine byCursor_append_eq _ (perm.map _) (List.pairwise_map.mpr ?_)
    exact apart.imp fun apart => by simpa using apart

theorem limit_le_of_pending (fileSize : Nat) (xs : List Operation) {c : Chunk}
    (pending : c ∈ ((start fileSize).run xs).queue.pending) : c.limit ≤ max c.cursor fileSize := by
  obtain ⟨taken, accepted, among⟩ := accepted_run xs (start fileSize)
  have whole := whole_run xs (whole_start fileSize)
  have hc : c ∈ taken := by
    have := whole.accepted.symm.subset (List.mem_append_right _ pending)
    rwa [accepted] at this
  obtain ⟨c', -, rfl⟩ := List.mem_map.mp (among.subset hc)
  rw [Chunk.limit_clampTo, Chunk.cursor_clampTo]
  change min _ (max fileSize _) ≤ _
  omega

theorem pending_of_dequeue {q q' : ChunkQueue} {c : Chunk}
    (h : q.dequeue = (.chunk c, q') ∨ q.dequeueOrClose = (.chunk c, q')) :
    q.pending = c :: q'.pending := by
  unfold ChunkQueue.dequeue ChunkQueue.dequeueOrClose at h
  split at h
  · simp at h
  · split at h
    · rename_i first
      simp only [Prod.mk.injEq, Dequeued.chunk.injEq, or_self] at h
      obtain ⟨rfl, rfl⟩ := h
      exact first
    · simp at h

/-- A queue is a stable priority queue: what is pending is the stable sort by cursor of the chunks
that were accepted and have not come out, and a wait takes the earliest of those with the least
cursor. -/
theorem pending_eq_byCursor (fileSize : Nat) (xs : List Operation) :
    let h := (start fileSize).run xs
    let q := h.queue
    q.pending = byCursor h.waiting ∧
      h.waiting.Perm q.pending ∧
      h.accepted.Perm (h.dequeued ++ h.drained ++ q.pending) ∧
      h.accepted.Sublist ((offers xs).map (·.clampTo fileSize)) ∧
      (∀ c q', q.dequeue = (.chunk c, q') ∨ q.dequeueOrClose = (.chunk c, q') →
        ∃ before after, h.waiting = before ++ c :: after ∧ q'.pending = byCursor (before ++ after) ∧
          (∀ d ∈ before, c.cursor < d.cursor) ∧ ∀ d ∈ after, c.cursor ≤ d.cursor) ∧
      q.close.1 = byCursor h.waiting ∧
      (∀ c : Chunk, (∀ j d, q.pending[j]? = some d →
          (d.cursor ≤ c.cursor ↔ j < reachedBy c q.pending)) ∧
        ChunkQueue.insert c q.pending = q.pending.insertIdx (reachedBy c q.pending) c) ∧
      (∀ cs cs' : List Chunk, cs.Perm cs' → (cs.Pairwise fun c d => c.cursor ≠ d.cursor) →
        (h.run (cs.map .enqueue)).queue.pending = (h.run (cs'.map .enqueue)).queue.pending) ∧
      ∀ c ∈ q.pending, c.cursor ≤ c.limit ∧ c.limit ≤ max c.cursor fileSize := by
  intro h q
  have whole : h.Whole := whole_run xs (whole_start fileSize)
  have sorted : q.pending = byCursor h.waiting :=
    ordered_run xs (whole_start fileSize) (ordered_start fileSize)
  have ascending : Ascending q.pending := sorted ▸ ascending_byCursor h.waiting
  obtain ⟨taken, accepted, among⟩ := accepted_run xs (start fileSize)
  refine ⟨sorted, sorted ▸ (byCursor_perm h.waiting).symm, whole.accepted, ?_, fun c q' got => ?_,
    sorted,
    fun c => ⟨fun j d => cursor_le_iff_lt_reachedBy ascending c, insert_eq_insertIdx ascending c⟩,
    fun cs cs' => pending_run_enqueue whole sorted,
    fun c pending => ⟨c.cursor_le_limit, limit_le_of_pending fileSize xs pending⟩⟩
  · have : h.accepted = taken := accepted
    exact this ▸ among
  · have first : byCursor h.waiting = c :: q'.pending := sorted.symm.trans (pending_of_dequeue got)
    obtain ⟨before, after, split, erased, less, least⟩ := exists_earliest first
    exact ⟨before, after, split, erased ▸ eq_byCursor_erase first, less, least⟩

theorem overtaking_pending :
    let c : Chunk := ⟨0, 4, 6, [], by decide⟩
    let d : Chunk := ⟨1, 2, 20, [], by decide⟩
    let e : Chunk := ⟨2, 1, 4, [7], by decide⟩
    let f : Chunk := ⟨3, 0, 3, [], by decide⟩
    let h := (start 9).run ([c, d, e, f].map .enqueue ++ [.dequeue])
    h.dequeued = [f] ∧ h.waiting = [c, d.clampTo 9, e] ∧
      h.queue.pending = byCursor [c, d.clampTo 9, e] ∧
      (∃ before after, h.waiting = before ++ d.clampTo 9 :: after ∧
        (∀ g ∈ before, 2 < g.cursor) ∧ ∀ g ∈ after, 2 ≤ g.cursor) ∧
      (h.run ([c, f].map .enqueue)).queue.pending =
        (h.run ([f, c].map .enqueue)).queue.pending := by
  intro c d e f h
  obtain ⟨sorted, -, -, -, took, -, -, anyOrder, -⟩ :=
    pending_eq_byCursor 9 ([c, d, e, f].map .enqueue ++ [.dequeue])
  have waiting : h.waiting = [c, d.clampTo 9, e] := by decide
  obtain ⟨before, after, split, -, less, least⟩ := took (d.clampTo 9) h.queue.dequeue.2 (by decide)
  exact ⟨by decide, waiting, waiting ▸ sorted, ⟨before, after, split, less, least⟩,
    anyOrder [c, f] [f, c] (.swap f c []) (by decide)⟩

end QueueHistory

end RangeFetch
