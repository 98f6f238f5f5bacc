import RangeFetch.Download.Underway
import RangeFetch.Proofs.Download.Bounds
import RangeFetch.Proofs.Download.Expiry
import RangeFetch.Proofs.Download.Settled

namespace RangeFetch

namespace Underway

open Downloader (Happening Event)

variable {ε : Type} {source : Supplier ε} {u : Underway ε}

theorem go_of_ready {e : Event} (wants : u.downloader.wants = .ready e) :
    u.go source = u.move e := by
  rw [go, wants]

theorem history_step (source : Supplier ε) (u : Underway ε) (t : Turn) :
    ∃ xs, (u.step source t).history = u.history.run xs ∧ (Happening.stop ∈ xs → t = .stop) := by
  have moved (e : Event) : ∃ xs, u.history.move e = u.history.run xs ∧
      (Happening.stop ∈ xs → t = .stop) := ⟨[.move e], rfl, by simp⟩
  have still : ∃ xs, u.history = u.history.run xs ∧ (Happening.stop ∈ xs → t = .stop) :=
    ⟨[], rfl, by simp⟩
  cases t with
  | ask start limit => exact ⟨[.ask start limit], rfl, by simp⟩
  | stop => exact ⟨[.stop], rfl, fun _ => rfl⟩
  | expire =>
    simp only [step, expire]
    split
    · exact moved _
    · exact still
  | go =>
    simp only [step, go]
    split
    · exact moved _
    · simp only [request]
      split
      · exact moved _
      · split
        · exact still
        · exact moved _
        · exact moved _
    · exact still

theorem openings_step (source : Supplier ε) (u : Underway ε) (t : Turn) :
    (u.step source t).openings = u.openings ∨
      ∃ r, (u.step source t).openings =
        u.openings ++ u.downloader.phase.chunks.map fun c => ⟨c.signal, r⟩ := by
  cases t with
  | ask start limit => exact .inl rfl
  | stop => exact .inl rfl
  | expire =>
    left
    simp only [step, expire]
    split <;> rfl
  | go =>
    simp only [step, go]
    split
    · exact .inl rfl
    · simp only [request]
      split
      · exact .inl rfl
      · rename_i r _ _
        split
        · exact .inl rfl
        · exact .inl rfl
        · exact .inr ⟨r, rfl⟩
    · exact .inl rfl

theorem openedFor_step_of_gone {n : Nat} (source : Supplier ε) (t : Turn)
    (gone : Chunk.times n u.downloader.outstanding = 0) :
    (u.step source t).openedFor n = u.openedFor n := by
  rw [Downloader.outstanding, Chunk.times_append] at gone
  have others : Chunk.times n u.downloader.phase.chunks = 0 := by omega
  rw [Chunk.times, List.countP_eq_zero] at others
  rcases openings_step source u t with same | ⟨r, more⟩
  · rw [openedFor, openedFor, same]
  · have none : (u.downloader.phase.chunks.map fun c => (⟨c.signal, r⟩ : Opening)).filter
        (·.signal == n) = [] := by
      rw [List.filter_eq_nil_iff]
      intro o mem
      obtain ⟨c, there, rfl⟩ := List.mem_map.mp mem
      exact others c there
    rw [openedFor, openedFor, more, List.filter_append, none, List.append_nil]

theorem openedFor_concat {u' : Underway ε} {n : Nat} {r : Request}
    (openings : u'.openings = u.openings ++ [⟨n, r⟩]) :
    u'.openedFor n = u.openedFor n ++ [r] := by
  simp [openedFor, openings]

/-- Streams have been opened only for chunks that have left the queue. -/
def Recorded (u : Underway ε) : Prop :=
  ∀ o ∈ u.openings, o.signal < u.history.asked.length ∧
    Chunk.times o.signal u.downloader.queue.pending = 0

theorem Recorded.step (recorded : u.Recorded) (placed : u.history.Placed) (source : Supplier ε)
    (t : Turn) : (u.step source t).Recorded := by
  obtain ⟨xs, history, -⟩ := history_step source u t
  -- what is known of a signal before the turn holds after it
  have keep {n : Nat} (asked : n < u.history.asked.length)
      (gone : Chunk.times n u.downloader.queue.pending = 0) :
      n < (u.step source t).history.asked.length ∧
        Chunk.times n (u.step source t).downloader.queue.pending = 0 := by
    obtain ⟨known, fewer⟩ := History.pending_run xs u.history asked
    rw [← history] at known fewer
    exact ⟨known, Nat.le_zero.mp (Nat.le_trans fewer (Nat.le_of_eq gone))⟩
  intro o mem
  rcases openings_step source u t with same | ⟨r, more⟩
  · rw [same] at mem
    obtain ⟨asked, gone⟩ := recorded o mem
    exact keep asked gone
  · rw [more] at mem
    rcases List.mem_append.mp mem with old | new
    · obtain ⟨asked, gone⟩ := recorded o old
      exact keep asked gone
    · obtain ⟨c, there, rfl⟩ := List.mem_map.mp new
      have asked := (placed.times_of_outstanding
        (Downloader.mem_outstanding.mpr (.inr there))).1
      have place := placed c.signal
      have one : 0 < Chunk.times c.signal u.downloader.phase.chunks :=
        List.countP_pos_iff.mpr ⟨c, there, by simp⟩
      rw [if_pos asked, History.times, Downloader.outstanding, Chunk.times_append] at place
      refine keep asked ?_
      simp only [downloader] at one ⊢
      omega

theorem Recorded.openedFor_of_pending {c : Chunk} (recorded : u.Recorded)
    (waits : c ∈ u.downloader.queue.pending) : u.openedFor c.signal = [] := by
  have some : 0 < Chunk.times c.signal u.downloader.queue.pending :=
    List.countP_pos_iff.mpr ⟨c, waits, by simp⟩
  rw [openedFor, List.map_eq_nil_iff, List.filter_eq_nil_iff]
  intro o mem same
  have gone := (recorded o mem).2
  rw [eq_of_beq same] at gone
  omega

theorem history_run (source : Supplier ε) (u : Underway ε) (ts : List Turn) :
    ∃ xs, (u.run source ts).history = u.history.run xs ∧ (Happening.stop ∈ xs → Turn.stop ∈ ts) := by
  induction ts generalizing u with
  | nil => exact ⟨[], rfl, by simp⟩
  | cons t rest ih =>
    obtain ⟨xs, first, stop⟩ := history_step source u t
    obtain ⟨ys, later, stops⟩ := ih (u.step source t)
    refine ⟨xs ++ ys, ?_, ?_⟩
    · rw [History.run_append, ← first, ← later]
      rfl
    · intro stopped
      rcases List.mem_append.mp stopped with now | then_
      · rw [stop now]
        exact List.mem_cons_self
      · exact List.mem_cons_of_mem t (stops then_)

theorem stop_mem_of_stopped (ts : List Turn) (running : u.downloader.queue.stopped = false)
    (stopped : (u.run source ts).downloader.queue.stopped = true) : Turn.stop ∈ ts := by
  obtain ⟨xs, history, stop⟩ := history_run source u ts
  rw [downloader, history] at stopped
  exact stop (History.stop_mem_of_stopped xs u.history running stopped)

theorem running_step (source : Supplier ε) {t : Turn}
    (running : u.downloader.queue.stopped = false)
    (other : t ≠ .stop) : (u.step source t).downloader.queue.stopped = false := by
  cases stopped : (u.step source t).downloader.queue.stopped with
  | false => rfl
  | true =>
    have asked : Turn.stop ∈ [t] := stop_mem_of_stopped [t] running stopped
    exact absurd (List.mem_singleton.mp asked).symm other

/-- A schedule without a stop in which the downloader's turn comes again and again. -/
structure Fair (schedule : Nat → Turn) : Prop where
  unstopped : ∀ n, schedule n ≠ .stop
  goes : ∀ n, ∃ m, n ≤ m ∧ schedule m = .go

/-- Sooner or later it is so, whoever is next. -/
def Eventually (u : Underway ε) (source : Supplier ε) (P : Underway ε → Prop) : Prop :=
  ∀ schedule, Fair schedule → ∃ n, P (u.run source ((List.range n).map schedule))

variable {P Q : Underway ε → Prop}

theorem Fair.tail {schedule : Nat → Turn} (fair : Fair schedule) :
    Fair fun n => schedule (n + 1) := by
  refine ⟨fun n => fair.unstopped (n + 1), fun n => ?_⟩
  obtain ⟨m, le, goes⟩ := fair.goes (n + 1)
  obtain ⟨k, rfl⟩ := Nat.exists_eq_add_of_le le
  exact ⟨n + k, Nat.le_add_right _ _, by rw [← goes]; congr 1; omega⟩

theorem run_range_succ (u : Underway ε) (source : Supplier ε) (schedule : Nat → Turn) (n : Nat) :
    u.run source ((List.range (n + 1)).map schedule) =
      (u.step source (schedule 0)).run source
        ((List.range n).map fun m => schedule (m + 1)) := by
  rw [List.range_succ_eq_map, List.map_cons, List.map_map]
  rfl

theorem Eventually.now (h : P u) : u.Eventually source P := fun _ _ => ⟨0, h⟩

theorem Eventually.of_go (at_ : Q u)
    (still : ∀ v t, Q v → t ≠ .go → t ≠ .stop → Q (v.step source t))
    (next : ∀ v, Q v → (v.step source .go).Eventually source P) : u.Eventually source P := by
  have waits (n : Nat) : ∀ (v : Underway ε) (schedule : Nat → Turn), Fair schedule →
      schedule n = .go → Q v → ∃ m, P (v.run source ((List.range m).map schedule)) := by
    induction n with
    | zero =>
      intro v schedule fair goes at_
      obtain ⟨m, reached⟩ := next v at_ _ fair.tail
      exact ⟨m + 1, by rw [run_range_succ, goes]; exact reached⟩
    | succ n ih =>
      intro v schedule fair goes at_
      by_cases first : schedule 0 = .go
      · obtain ⟨m, reached⟩ := next v at_ _ fair.tail
        exact ⟨m + 1, by rw [run_range_succ, first]; exact reached⟩
      · have later := still v _ at_ first (fair.unstopped 0)
        obtain ⟨m, reached⟩ := ih _ _ fair.tail goes later
        exact ⟨m + 1, by rw [run_range_succ]; exact reached⟩
  intro schedule fair
  obtain ⟨n, -, goes⟩ := fair.goes 0
  exact waits n u schedule fair goes at_

/-- These are the streams that were opened for the signal, and it has fired with this result or is
about to. -/
structure Settling (u : Underway ε) (requests : List Request) (x : Firing) : Prop where
  opened : u.openedFor x.signal = requests
  fate : x ∈ u.downloader.phase.dues ∨ u.history.Settled x

theorem settling_of_ends {u' : Underway ε} {e : Event} {d₀ : Downloader} {error : ChunkError}
    {c : Chunk} {requests : List Request} (why : u.downloader.Ends e d₀ error)
    (history : u'.history = u.history.move e) (there : c ∈ u.downloader.outstanding)
    (opened : u'.openedFor c.signal = requests) : u'.Settling requests (c.fail error) := by
  refine ⟨opened, .inl ?_⟩
  have phase : u'.downloader.phase = .failing d₀.phase.state error u.downloader.outstanding := by
    rw [downloader, history, History.move, why.step, ← why.outstanding]
    rfl
  rw [phase]
  exact List.mem_map_of_mem there

theorem Settling.eq_of_fired {x y : Firing} {requests : List Request}
    (h : u.Settling requests x) (placed : u.history.Placed) (fired : y ∈ u.history.fired)
    (same : y.signal = x.signal) : y = x := by
  rcases h.fate with due | settled
  · obtain ⟨shown, error, rest, phase⟩ := Phase.failing_of_mem_dues due
    rw [phase] at due
    obtain ⟨c, there, rfl⟩ := List.mem_map.mp due
    have waits : c ∈ u.downloader.outstanding :=
      Downloader.mem_outstanding.mpr (.inr (by rw [phase]; exact there))
    exact absurd same (placed.not_fired waits y fired)
  · exact settled.only y fired same

theorem placed_step (placed : u.history.Placed) (source : Supplier ε) (t : Turn) :
    (u.step source t).history.Placed := by
  obtain ⟨xs, history, -⟩ := history_step source u t
  rw [history]
  exact History.placed_run xs _ placed

variable {x : Firing} {requests : List Request}

theorem step_of_over (source : Supplier ε) {t : Turn} (ended : u.downloader.phase.isOver = true)
    (other : t ≠ .go) : (u.step source t).downloader.phase = u.downloader.phase ∧
      (u.step source t).openings = u.openings := by
  cases t with
  | ask start limit => exact ⟨(u.history.ask_asks start limit).keeps.1, rfl⟩
  | stop => exact ⟨rfl, rfl⟩
  | go => exact absurd rfl other
  | expire =>
    have alone : u.expire = u := by
      rcases Phase.cases_of_isOver ended with ⟨shown, error, rest, phase⟩ | phase <;>
        simp [expire, Downloader.wants, phase]
    exact ⟨by rw [step, alone], by rw [step, alone]⟩

theorem go_of_due (source : Supplier ε) (due : x ∈ u.downloader.phase.dues)
    (placed : u.history.Placed) :
    u.go source = u.move .failNext ∧ (u.move .failNext).downloader.phase.dues =
        u.downloader.phase.dues.drop 1 ∧
      (x ∈ u.downloader.phase.dues.drop 1 ∨ (u.move .failNext).history.Settled x) := by
  obtain ⟨shown, error, rest, phase⟩ := Phase.failing_of_mem_dues due
  obtain ⟨after, fires, -⟩ := History.move_of_turn (Phase.isOver_of_mem_dues due)
  refine ⟨go_of_ready (by rw [Downloader.wants, phase]), ?_, ?_⟩
  · rw [← Phase.dues_after_one, ← after]
    rfl
  · rw [phase, Phase.dues] at due fires ⊢
    obtain ⟨c, there, rfl⟩ := List.mem_map.mp due
    have waits : c ∈ u.downloader.outstanding :=
      Downloader.mem_outstanding.mpr (.inr (by rw [phase]; exact there))
    rcases rest with - | ⟨b, more⟩
    case nil => cases there
    case cons =>
      rcases List.mem_cons.mp there with rfl | later
      · exact .inr (placed.settled_of_fires waits fires rfl)
      · exact .inl (List.mem_map_of_mem later)

theorem Settling.step (h : u.Settling requests x) (placed : u.history.Placed)
    (source : Supplier ε) (t : Turn) : (u.step source t).Settling requests x := by
  obtain ⟨opened, due | settled⟩ := h
  · by_cases next : t = .go
    · subst next
      obtain ⟨goes, dues, fate⟩ := go_of_due source due placed
      rw [Underway.step, goes]
      rw [← dues] at fate
      exact ⟨opened, fate⟩
    · obtain ⟨phase, openings⟩ := step_of_over source (Phase.isOver_of_mem_dues due) next
      refine ⟨?_, .inl (by rw [phase]; exact due)⟩
      rw [openedFor, openings]
      exact opened
  · obtain ⟨xs, history, -⟩ := history_step source u t
    refine ⟨(openedFor_step_of_gone source t settled.gone).trans opened, .inr ?_⟩
    rw [history]
    exact settled.run placed xs

theorem Settling.run (h : u.Settling requests x) (placed : u.history.Placed)
    (source : Supplier ε) (ts : List Turn) : (u.run source ts).Settling requests x := by
  induction ts generalizing u with
  | nil => exact h
  | cons t rest ih => exact ih (h.step placed source t) (placed_step placed source t)

theorem eventually_of_due (n : Nat) (u : Underway ε) (placed : u.history.Placed)
    (due : x ∈ u.downloader.phase.dues) (length : u.downloader.phase.dues.length = n) :
    u.Eventually source fun v => x ∈ v.history.fired := by
  induction n generalizing u with
  | zero =>
    rw [List.eq_nil_of_length_eq_zero length] at due
    cases due
  | succ n ih =>
    refine .of_go (Q := fun v => v.history.Placed ∧ x ∈ v.downloader.phase.dues ∧
      v.downloader.phase.dues.length = n + 1) ⟨placed, due, length⟩ ?_ ?_
    · rintro v t ⟨placed, due, length⟩ other -
      obtain ⟨phase, -⟩ := step_of_over source (Phase.isOver_of_mem_dues due) other
      exact ⟨placed_step placed source t, by rw [phase]; exact due, by rw [phase]; exact length⟩
    · rintro v ⟨placed, due, length⟩
      obtain ⟨goes, dues, fate⟩ := go_of_due source due placed
      have placed' := placed_step placed source .go
      rw [Underway.step, goes] at placed' ⊢
      rcases fate with later | settled
      · refine ih _ placed' (by rw [dues]; exact later) ?_
        rw [dues, List.length_drop, length]
        rfl
      · exact .now settled.fired

theorem Settling.eventually (h : u.Settling requests x) (placed : u.history.Placed) :
    u.Eventually source fun v => x ∈ v.history.fired := by
  rcases h.fate with due | settled
  · exact eventually_of_due _ u placed due rfl
  · exact .now settled.fired

end Underway

end RangeFetch
