import RangeFetch.Proofs.Download.Ending

namespace RangeFetch

theorem Phase.failing_of_mem_dues {p : Phase} {x : Firing} (due : x ∈ p.dues) :
    ∃ shown error rest, p = .failing shown error rest := by
  cases p with
  | failing shown error rest => exact ⟨shown, error, rest, rfl⟩
  | _ => cases due

theorem Phase.isOver_of_mem_dues {p : Phase} {x : Firing} (due : x ∈ p.dues) :
    p.isOver = true := by
  obtain ⟨shown, error, rest, rfl⟩ := failing_of_mem_dues due
  rfl

namespace History

open Downloader (Happening Event)

variable {h : History} {x : Firing} {c : Chunk}

theorem fired_of_firedByMoves (xs : List Happening) (h : History) :
    ∀ x ∈ h.firedByMoves xs, x ∈ (h.run xs).fired := by
  induction xs generalizing h with
  | nil =>
    intro x none
    cases none
  | cons y rest ih =>
    intro x mem
    cases y with
    | ask start limit => exact ih (h.ask start limit) x mem
    | stop => exact ih (h.step .stop) x mem
    | move e =>
      rcases List.mem_append.mp mem with now | later
      · have fired := (fired_prefix_run rest (h.move e)).subset
        exact fired (List.mem_append_right _ now)
      · exact ih (h.move e) x later

/-- The signal has fired with this result, and cannot fire again. -/
structure Settled (h : History) (x : Firing) : Prop where
  gone : Chunk.times x.signal h.downloader.outstanding = 0
  fired : x ∈ h.fired
  only : ∀ y ∈ h.fired, y.signal = x.signal → y = x

theorem Placed.not_fired (placed : h.Placed) (there : c ∈ h.downloader.outstanding) :
    ∀ y ∈ h.fired, y.signal ≠ c.signal := by
  have none := (placed.times_of_outstanding there).2.1
  rw [Firing.times, List.countP_eq_zero] at none
  intro y mem same
  exact none y mem (by simp [same])

theorem all_fired_of_current {e : Event} {d₀ : Downloader} {error : ChunkError}
    (why : h.downloader.Ends e d₀ error) (placed : h.Placed)
    (current : h.downloader.phase.chunks = [c]) (xs : List Happening)
    (fired : c.fail error ∈ ((h.move e).run xs).fired) :
    ∀ b ∈ h.downloader.outstanding, b.fail error ∈ ((h.move e).run xs).fired := by
  obtain ⟨-, fires, -⟩ := run_of_ends why xs
  have left := outstanding_run_of_ends why xs
  have enough : h.downloader.outstanding.length ≤ turns xs := by
    have all : h.downloader.outstanding = h.downloader.queue.pending ++ [c] := by
      rw [Downloader.outstanding, current]
    rw [all] at left ⊢
    rw [List.length_append, List.length_singleton]
    rcases Nat.lt_or_ge h.downloader.queue.pending.length (turns xs) with more | few
    · exact more
    · -- otherwise the chunk would still be outstanding
      rw [List.drop_append_of_le_length few] at left
      have waits : c ∈ ((h.move e).run xs).downloader.outstanding := by
        rw [left]
        exact List.mem_append_right _ List.mem_cons_self
      have placed' : ((h.move e).run xs).Placed := placed_run (.move e :: xs) h placed
      exact absurd rfl (placed'.not_fired waits _ fired)
  intro b there
  apply fired_of_firedByMoves
  rw [fires, List.take_of_length_le (by rw [List.length_map]; exact enough)]
  exact List.mem_map_of_mem there

theorem Placed.settled_of_fires {e : Event} (placed : h.Placed)
    (there : c ∈ h.downloader.outstanding) (fires : (h.downloader.step e).2 = [x])
    (same : x.signal = c.signal) : (h.move e).Settled x := by
  have fired : (h.move e).fired = h.fired ++ [x] := by rw [move, fires]
  have before := placed.not_fired there
  refine ⟨?_, by simp [fired], ?_⟩
  · have place := (h.times_move e x.signal).trans (placed x.signal)
    have asked := (placed.times_of_outstanding there).1
    rw [← same] at asked
    rw [if_pos asked, times, fired, Firing.times_append, Firing.times_cons, beq_self_eq_true,
      Bool.toNat_true] at place
    omega
  · intro y mem alike
    rw [fired] at mem
    rcases List.mem_append.mp mem with earlier | now
    · exact absurd (alike.trans same) (before y earlier)
    · exact List.mem_singleton.mp now

theorem Settled.run (settled : h.Settled x) (placed : h.Placed) (xs : List Happening) :
    (h.run xs).Settled x := by
  obtain ⟨gone, fired, only⟩ := settled
  obtain ⟨later, same⟩ := fired_prefix_run xs h
  have once : 0 < Firing.times x.signal h.fired :=
    List.countP_pos_iff.mpr ⟨x, fired, by simp⟩
  have asked : x.signal < h.asked.length := by
    have place := placed x.signal
    rw [times] at place
    split at place <;> omega
  have nomore := times_fired_run xs h asked gone
  obtain ⟨total, handedBack⟩ := times_run_of_lt xs h asked
  refine ⟨?_, ?_, ?_⟩
  · simp only [times] at total
    omega
  · rw [← same]
    exact List.mem_append_left later fired
  · rw [← same, Firing.times_append] at nomore
    have none : Firing.times x.signal later = 0 := by omega
    rw [Firing.times, List.countP_eq_zero] at none
    intro y mem alike
    rw [← same] at mem
    rcases List.mem_append.mp mem with earlier | new
    · exact only y earlier alike
    · exact absurd (by simp [alike]) (none y new)

end History

end RangeFetch
