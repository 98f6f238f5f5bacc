import RangeFetch.Proofs.Download.Placement

namespace RangeFetch

def Downloader.Happening.failsNext : Downloader.Happening → Bool
  | .move .failNext => true
  | _ => false

namespace Phase

/-- What a downloader that has given up has still to fire. -/
def dues : Phase → List Firing
  | failing _ error rest => rest.map (·.fail error)
  | _ => []

def after (turns : Nat) : Phase → Phase
  | failing shown error rest =>
    if rest.length < turns then stopped else failing shown error (rest.drop turns)
  | p => p

theorem after_zero (p : Phase) : p.after 0 = p := by
  cases p <;> rfl

theorem after_succ (p : Phase) (turns : Nat) : p.after (turns + 1) = (p.after 1).after turns := by
  cases p with
  | failing shown error rest => cases rest <;> simp [after]
  | _ => rfl

theorem dues_after_one (p : Phase) : (p.after 1).dues = p.dues.drop 1 := by
  cases p with
  | failing shown error rest => cases rest <;> simp [after, dues]
  | _ => rfl

theorem isOver_after {p : Phase} (turns : Nat) (ended : p.isOver = true) :
    (p.after turns).isOver = true := by
  rcases cases_of_isOver ended with ⟨shown, error, rest, rfl⟩ | rfl
  · rw [after]
    split <;> rfl
  · rfl

end Phase

open Downloader (Happening Event)

def turns (xs : List Happening) : Nat := xs.countP Happening.failsNext

theorem turns_cons (x : Happening) (rest : List Happening) :
    turns (x :: rest) = turns rest + x.failsNext.toNat := by
  rw [turns, List.countP_cons]
  cases x.failsNext <;> rfl

namespace Downloader

variable {d : Downloader} {e : Event}

theorem step_of_over (ended : d.phase.isOver = true) (other : e ≠ .failNext) :
    d.step e = (d, []) := by
  have still : d.take = (d, []) ∧ (∀ answer, d.opened answer = d) ∧ d.deliver = (d, []) ∧
      d.readTimedOut = d ∧ d.notice = d := by
    rcases Phase.cases_of_isOver ended with ⟨shown, error, rest, phase⟩ | phase <;>
      simp [take, opened, deliver, readTimedOut, notice, phase]
  obtain ⟨take, opened, deliver, readTimedOut, notice⟩ := still
  cases e with
  | failNext => exact absurd rfl other
  | _ => simp only [step, take, opened, deliver, readTimedOut, notice]

theorem step_failNext_of_over (ended : d.phase.isOver = true) :
    d.step .failNext = ({ d with phase := d.phase.after 1 }, d.phase.dues.take 1) := by
  rcases Phase.cases_of_isOver ended with ⟨shown, error, rest, phase⟩ | phase
  · cases rest <;> simp [step, failNext, phase, Phase.after, Phase.dues]
  · have same : { d with phase := .stopped } = d := by rw [← phase]
    simp [step, failNext, phase, Phase.after, Phase.dues, same]

theorem taken?_of_over (ended : d.phase.isOver = true) : d.taken? e = none := by
  cases e with
  | take =>
    rcases Phase.cases_of_isOver ended with ⟨shown, error, rest, phase⟩ | phase <;>
      simp [taken?, phase]
  | _ => rfl

end Downloader

namespace History

/-- Chunks may have been offered in between, but none was accepted into the queue, and the
downloader took none, requested nothing and counted nothing but reads past the end of the file. -/
structure Quiet (h h' : History) : Prop where
  closed : h'.downloader.queue.closed = h.downloader.queue.closed
  pending : h'.downloader.queue.pending = h.downloader.queue.pending
  stats : h'.downloader.stats = { h.downloader.stats with
    chunksCompleted := h'.downloader.stats.chunksCompleted }
  taken : h'.taken = h.taken
  requested : h'.requested = h.requested

variable {h h' h'' : History} {shown : DownloadState} {error : ChunkError} {e : Event}

theorem Quiet.refl (h : History) : Quiet h h := ⟨rfl, rfl, rfl, rfl, rfl⟩

theorem Quiet.trans (first : Quiet h h') (second : Quiet h' h'') : Quiet h h'' := by
  refine ⟨second.closed.trans first.closed, second.pending.trans first.pending, ?_,
    second.taken.trans first.taken, second.requested.trans first.requested⟩
  rw [second.stats, first.stats]

theorem Asks.quiet {start limit : Nat} (asks : Asks h start limit h')
    (closed : h.downloader.queue.closed = true) :
    Quiet h h' ∧ h'.downloader.phase = h.downloader.phase := by
  cases asks with
  | backwards fresh => exact ⟨⟨rfl, rfl, rfl, rfl, rfl⟩, rfl⟩
  | handsBack fresh refuses => exact ⟨⟨rfl, rfl, rfl, rfl, rfl⟩, rfl⟩
  | accepts fresh takes =>
    cases takes with
    | completes past => exact ⟨⟨rfl, rfl, rfl, rfl, rfl⟩, rfl⟩
    | queues within open_ => simp [ChunkQueue.isClosed, closed] at open_

theorem move_of_over (ended : h.downloader.phase.isOver = true) (other : e ≠ .failNext) :
    h.move e = h ∧ (h.downloader.step e).2 = [] := by
  have step := Downloader.step_of_over ended other
  have requested : h.downloader.requested? h.downloader = none := by simp [Downloader.requested?]
  refine ⟨?_, by rw [step]⟩
  rw [move, step, Downloader.taken?_of_over ended, requested]
  simp

theorem move_of_turn (ended : h.downloader.phase.isOver = true) :
    (h.move .failNext).downloader.phase = h.downloader.phase.after 1 ∧
      (h.downloader.step .failNext).2 = h.downloader.phase.dues.take 1 ∧
      Quiet h (h.move .failNext) := by
  have step := Downloader.step_failNext_of_over ended
  have free (c : Chunk) : h.downloader.phase.after 1 ≠ .requesting c := by
    intro requests
    have still := Phase.isOver_after 1 ended
    rw [requests] at still
    cases still
  have requested : h.downloader.requested?
      { h.downloader with phase := h.downloader.phase.after 1 } = none :=
    Downloader.requested?_eq_none free
  refine ⟨by rw [move, step], by rw [step], ?_⟩
  constructor <;> simp [move, step, requested, Downloader.taken?]

/-- What a downloader that has given up fires and what it is at depends only on how many turns it
has had. -/
theorem run_of_over (xs : List Happening) (h : History)
    (ended : h.downloader.phase.isOver = true) (closed : h.downloader.queue.closed = true) :
    (h.run xs).downloader.phase = h.downloader.phase.after (turns xs) ∧
      h.firedByMoves xs = h.downloader.phase.dues.take (turns xs) ∧ Quiet h (h.run xs) := by
  induction xs generalizing h with
  | nil => exact ⟨(Phase.after_zero _).symm, rfl, .refl h⟩
  | cons x rest ih =>
    cases x with
    | ask start limit =>
      obtain ⟨quiet, same⟩ := (h.ask_asks start limit).quiet closed
      obtain ⟨phase, fired, later⟩ := ih (h.ask start limit) (by rw [same, ended])
        (quiet.closed.trans closed)
      rw [same] at phase fired
      exact ⟨phase, fired, quiet.trans later⟩
    | stop =>
      obtain ⟨phase, fired, later⟩ := ih (h.step .stop) ended closed
      have quiet : Quiet h (h.step .stop) := ⟨rfl, rfl, rfl, rfl, rfl⟩
      exact ⟨phase, fired, quiet.trans later⟩
    | move e =>
      by_cases next : e = .failNext
      · -- the first chunk fires now, and the others in the turns that are left
        subst next
        have turn : turns (.move .failNext :: rest) = turns rest + 1 := turns_cons _ rest
        obtain ⟨next, first, quiet⟩ := move_of_turn ended
        have still := Phase.isOver_after 1 ended
        rw [← next] at still
        obtain ⟨phase, fired, later⟩ := ih (h.move .failNext) still (quiet.closed.trans closed)
        rw [next] at phase fired
        refine ⟨?_, ?_, quiet.trans later⟩
        · rw [turn, Phase.after_succ]
          exact phase
        · rw [Phase.dues_after_one] at fired
          rw [turn, Nat.add_comm, List.take_add, ← first, ← fired]
          rfl
      · have others : turns (.move e :: rest) = turns rest := by
          cases e <;> first | rfl | exact absurd rfl next
        obtain ⟨same, silent⟩ := move_of_over ended next
        have later := ih h ended closed
        rw [run, step, firedByMoves, collect, same, silent, others]
        exact later

/-- What comes of a downloader's giving up upon `e`, with `ys` happening afterwards. -/
structure GivesUp (h : History) (e : Event) (error : ChunkError) (ys : List Happening) : Prop where
  silent : (h.downloader.step e).2 = []
  /-- The chunks that were outstanding fire with the error, those of the queue first and in its
  order, one at each turn. Nothing else fires. -/
  fired : (h.move e).firedByMoves ys =
    (h.downloader.outstanding.map (·.fail error)).take (turns ys)
  phase : ((h.move e).run ys).downloader.phase =
    if h.downloader.outstanding.length < turns ys then .stopped
    else .failing h.downloader.phase.state error (h.downloader.outstanding.drop (turns ys))
  wants : ((h.move e).run ys).downloader.phase ≠ .stopped →
    ((h.move e).run ys).downloader.wants = .ready .failNext
  once : ∀ c ∈ h.downloader.outstanding, Firing.times c.signal h.fired = 0 ∧
    (h.downloader.outstanding.length ≤ turns ys →
      Firing.times c.signal ((h.move e).run ys).fired = 1)
  earlier : h.fired <+: ((h.move e).run ys).fired ∧
    ∀ n < h.asked.length, (∀ c ∈ h.downloader.outstanding, c.signal ≠ n) →
      Firing.times n ((h.move e).run ys).fired = Firing.times n h.fired
  pending : ((h.move e).run ys).downloader.queue.pending = []
  handsBack : ∀ c, ((h.move e).run ys).downloader.queue.enqueue c =
    .error (c.clampTo h.downloader.identity.size)
  /-- A read that comes later is answered at once or handed back. -/
  late : ∀ n, h.asked.length ≤ n → n < ((h.move e).run ys).asked.length →
    Firing.times n ((h.move e).run ys).fired + Chunk.times n ((h.move e).run ys).handedBack = 1
  taken : ((h.move e).run ys).taken = h.taken
  requested : ((h.move e).run ys).requested = h.requested

theorem run_of_ends {d₀ : Downloader} (why : h.downloader.Ends e d₀ error) (ys : List Happening) :
    ((h.move e).run ys).downloader.phase =
        (if h.downloader.outstanding.length < turns ys then .stopped
        else .failing h.downloader.phase.state error (h.downloader.outstanding.drop (turns ys))) ∧
      (h.move e).firedByMoves ys = (h.downloader.outstanding.map (·.fail error)).take (turns ys) ∧
      Quiet (h.move e) ((h.move e).run ys) := by
  have after : (h.move e).downloader = d₀.finish error := by rw [move, why.step]
  obtain ⟨-, -, -, same⟩ := why.same
  have failing : (h.move e).downloader.phase =
      .failing h.downloader.phase.state error h.downloader.outstanding := by
    rw [after, ← same, ← why.outstanding]
    rfl
  have run := run_of_over ys (h.move e) (by rw [failing]; rfl) (by rw [after]; rfl)
  rw [failing] at run
  exact run

theorem outstanding_run_of_ends {d₀ : Downloader} (why : h.downloader.Ends e d₀ error)
    (ys : List Happening) : ((h.move e).run ys).downloader.outstanding =
      h.downloader.outstanding.drop (turns ys) := by
  obtain ⟨phase, -, quiet⟩ := run_of_ends why ys
  have empty : (h.move e).downloader.queue.pending = [] := by
    rw [move, why.step]
    rfl
  rw [Downloader.outstanding, quiet.pending, empty, phase, List.nil_append]
  split
  · rename_i ended
    rw [List.drop_eq_nil_of_le (Nat.le_of_lt ended)]
    rfl
  · rfl

theorem gives_up {d₀ : Downloader} (why : h.downloader.Ends e d₀ error)
    (sound : h.downloader.Sound) (placed : h.Placed) (ys : List Happening) :
    h.GivesUp e error ys := by
  obtain ⟨phase, fired, quiet⟩ := run_of_ends why ys
  have outstanding := outstanding_run_of_ends why ys
  have after : h.downloader.step e = (d₀.finish error, []) := why.step
  have closed : ((h.move e).run ys).downloader.queue.closed = true := by
    rw [quiet.closed, move, after]
    rfl
  refine ⟨by rw [after], fired, phase, ?wants, ?once, ?earlier, ?pending, ?handsBack, ?late,
    ?taken, ?requested⟩
  case wants =>
    intro going
    rw [phase] at going
    rw [Downloader.wants, phase]
    split at going
    · exact absurd rfl going
    · rename_i more
      rw [if_neg more]
  case once =>
    intro c there
    obtain ⟨-, before, once⟩ := placed.times_of_outstanding there
    refine ⟨before, fun enough => once (.move e :: ys) ?_⟩
    rw [run, step, outstanding, List.drop_eq_nil_of_le enough]
    rfl
  case earlier =>
    refine ⟨fired_prefix_run (.move e :: ys) h, fun n asked none => ?_⟩
    apply times_fired_run (.move e :: ys) h asked
    rw [Chunk.times, List.countP_eq_zero]
    intro c there
    simpa using none c there
  case pending =>
    rw [quiet.pending, move, after]
    rfl
  case handsBack =>
    intro c
    have fileSize := (sound_run (.move e :: ys) h sound).fileSize
    rw [identity_run, run, step] at fileSize
    simp only [ChunkQueue.enqueue, ChunkQueue.isClosed, closed, Bool.true_or, if_true, fileSize]
  case late =>
    intro n new asked
    have before : h.times n = 0 := (placed n).trans (if_neg (Nat.not_lt.mpr new))
    have there : ((h.move e).run ys).times n = 1 :=
      (placed_run (.move e :: ys) h placed n).trans (if_pos asked)
    have left : Chunk.times n (h.downloader.outstanding.drop (turns ys)) ≤
        Chunk.times n h.downloader.outstanding := (List.drop_sublist _ _).countP_le
    rw [times, outstanding] at there
    rw [times] at before
    omega
  case taken =>
    rw [quiet.taken, move, why.taken?]
    simp
  case requested =>
    have none : h.downloader.requested? (d₀.finish error) = none :=
      Downloader.requested?_eq_none (by simp [Downloader.finish])
    rw [quiet.requested, move, after, none]
    simp

end History

end RangeFetch
