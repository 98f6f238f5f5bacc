import RangeFetch.Download.Drive
import RangeFetch.Download.History
import RangeFetch.Proofs.Download.Custody

namespace RangeFetch

open Downloader (Event Happening)

variable {ε : Type}

theorem History.run_drive (source : Supplier ε) (held : Option Request) (w : ε) {d : Downloader}
    (h : History) (now : h.downloader = d) :
    ∃ es : List Event,
      (h.run (es.map .move)).downloader = (d.drive source held w).downloader ∧
        (h.run (es.map .move)).fired = h.fired ++ (d.drive source held w).fired := by
  fun_induction Downloader.drive d source held w generalizing h with
  | case1 d held w e wants quiet _ ih =>
    obtain ⟨es, downloader, fired⟩ := ih (h.move e) (by rw [← now]; rfl)
    refine ⟨e :: es, downloader, fired.trans ?_⟩
    rw [History.move, now, quiet, List.append_nil]
  | case2 d held w e wants fires =>
    refine ⟨[e], ?_, ?_⟩
    · rw [← now]
      rfl
    · rw [← now]
      rfl
  | case3 d held w start wants error w' locates _ ih =>
    obtain ⟨es, downloader, fired⟩ := ih (h.move (.opened (.error error))) (by rw [← now]; rfl)
    refine ⟨.opened (.error error) :: es, downloader, fired.trans ?_⟩
    exact congrArg (· ++ _) (List.append_nil _)
  | case4 => exact ⟨[], now, (List.append_nil _).symm⟩
  | case5 d held w start wants r w' locates answer w'' issues _ ih =>
    generalize answer.map (·.stream) = stream at ih ⊢
    obtain ⟨es, downloader, fired⟩ := ih (h.move (.opened stream)) (by rw [← now]; rfl)
    refine ⟨.opened stream :: es, downloader, fired.trans ?_⟩
    exact congrArg (· ++ _) (List.append_nil _)
  | case6 => exact ⟨[], now, (List.append_nil _).symm⟩

namespace Downloader

variable {d : Downloader} {e : Event} {start : Nat}

theorem fires_nothing (none : d.outstanding = []) : (d.step e).2 = [] := by
  cases fired : (d.step e).2 with
  | nil => rfl
  | cons x rest =>
    have custody := (step_moves d e).custody x.signal
    rw [none, fired, Firing.times_cons, beq_self_eq_true, Bool.toNat_true, Chunk.times_nil]
      at custody
    omega

theorem outstanding_of_wants (wants : d.wants = .stream start) : d.outstanding ≠ [] := by
  obtain ⟨c, at_⟩ := requesting_of_wants d start wants
  simp [outstanding, at_, Phase.chunks]

theorem drive_induction {P : Downloader → Prop} (source : Supplier ε) (held : Option Request)
    (w : ε) (none : ∀ d, P d → d.outstanding = []) (keep : ∀ d e, P d → P (d.step e).1) (h : P d) :
    ∃ d', d.drive source held w = ⟨d', .none, w, []⟩ ∧ P d' := by
  fun_induction Downloader.drive d source held w with
  | case1 d held w e wants quiet _ ih => exact ih (keep d e h)
  | case2 d held w e wants fires => exact absurd (fires_nothing (none d h)) fires
  | case3 d held w start wants => exact absurd (none d h) (outstanding_of_wants wants)
  | case4 d held w start wants => exact absurd (none d h) (outstanding_of_wants wants)
  | case5 d held w start wants => exact absurd (none d h) (outstanding_of_wants wants)
  | case6 d held w => exact ⟨d, rfl, h⟩

end Downloader

end RangeFetch
