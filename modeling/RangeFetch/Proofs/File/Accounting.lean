import Mathlib.Algebra.Order.BigOperators.Group.List
import Mathlib.Algebra.Order.Group.Nat
import Mathlib.Data.List.Nodup
import RangeFetch.Proofs.File.Answers
import RangeFetch.Proofs.File.ExactlyOnce

namespace RangeFetch

/-- Entries that answer to each other by keys, each of which stands once, are as many. -/
theorem countP_eq_of_keys {α β : Type} {l : List α} {m : List β} {f : α → Nat} {g : β → Nat}
    {p : α → Bool} {q : β → Bool} (once : (l.map f).Nodup) (once' : (m.map g).Nodup)
    (there : ∀ x ∈ l, p x = true → ∃ y ∈ m, q y = true ∧ g y = f x)
    (back : ∀ y ∈ m, q y = true → ∃ x ∈ l, p x = true ∧ f x = g y) : l.countP p = m.countP q := by
  have keys : ((l.filter p).map f).Perm ((m.filter q).map g) := by
    refine (List.perm_ext_iff_of_nodup (once.sublist (List.filter_sublist.map f))
      (once'.sublist (List.filter_sublist.map g))).mpr fun n => ?_
    simp only [List.mem_map, List.mem_filter]
    constructor
    · rintro ⟨x, ⟨mem, holds⟩, rfl⟩
      obtain ⟨y, mem', holds', same⟩ := there x mem holds
      exact ⟨y, ⟨mem', holds'⟩, same⟩
    · rintro ⟨y, ⟨mem, holds⟩, rfl⟩
      obtain ⟨x, mem', holds', same⟩ := back y mem holds
      exact ⟨x, ⟨mem', holds'⟩, same⟩
  rw [List.countP_eq_length_filter, List.countP_eq_length_filter, ← List.length_map f,
    ← List.length_map g, keys.length_eq]

theorem Downloader.Fresh.held_outstanding {d : Downloader} (fresh : d.Fresh)
    (rested : d.phase.dues = []) :
    Chunk.held d.outstanding = Chunk.held d.phase.current?.toList := by
  have pending : Chunk.held d.queue.pending = 0 := by
    rw [Chunk.held, sumOf, List.sum_eq_zero_iff_forall_eq_nat, List.forall_mem_map]
    intro c mem
    rw [fresh.pending c mem, List.length_nil]
  rw [outstanding, Chunk.held_append, pending, Nat.zero_add]
  cases phase : d.phase with
  | failing shown error rest =>
    rw [phase] at rested
    rw [List.map_eq_nil_iff.mp rested]
    rfl
  | _ => rfl

namespace SharedFile

variable {s : SharedFile}

theorem calls_of_rest (h : s.isAtRest = true) : s.calls = [] := by
  rw [isAtRest, Bool.and_eq_true] at h
  exact List.isEmpty_iff.mp h.1

theorem dues_of_rest (h : s.isAtRest = true) : ∀ d ∈ s.file.downloaders, d.phase.dues = [] := by
  rw [isAtRest, Bool.and_eq_true, List.all_eq_true] at h
  intro d mem
  have rested := h.2 d mem
  cases phase : d.phase with
  | failing shown error rest =>
    rw [phase] at rested
    cases rest with
    | nil => rfl
    | cons c rest => cases rested
  | _ => rfl

theorem Placed.timesFired_le_one (inv : s.Placed) (n : Nat) : s.timesFired n ≤ 1 := by
  have place := inv n
  have most : (if n < s.asked.length then 1 else 0) ≤ 1 := by split <;> omega
  rw [times] at place
  omega

theorem Placed.asked_of_fired (inv : s.Placed) {x : Firing} (mem : x ∈ s.fired) :
    x.signal < s.asked.length := by
  have place := inv x.signal
  have fired : 0 < s.timesFired x.signal := List.countP_pos_iff.mpr ⟨x, mem, by simp⟩
  by_cases asked : x.signal < s.asked.length
  · exact asked
  · rw [times, if_neg asked] at place
    omega

theorem Placed.nodup_fired (inv : s.Placed) : (s.fired.map (·.signal)).Nodup := by
  rw [List.nodup_iff_count]
  intro n
  rw [List.count_eq_countP, List.countP_map]
  exact inv.timesFired_le_one n

theorem AnsweredOnce.nodup_answers (once : s.AnsweredOnce) : (s.answers.map (·.1)).Nodup := by
  rw [List.nodup_iff_count]
  intro n
  have total := once n
  have most : (if n < s.asked.length then 1 else 0) ≤ 1 := by split <;> omega
  have answered : s.timesAnswered n ≤ 1 := by omega
  rw [List.count_eq_countP, List.countP_map]
  exact answered

section Rest

variable (placed : s.Placed) (once : s.AnsweredOnce) (calls : s.calls = [])

include placed once calls

theorem countP_fired (p : Firing → Bool) :
    s.fired.countP p =
      s.answers.countP fun answer => s.fired.any fun x => x.signal == answer.1 && p x := by
  -- signals and answers go together by the number of the read
  refine countP_eq_of_keys placed.nodup_fired once.nodup_answers ?_ ?_
  · intro x mem holds
    have total := once x.signal
    have called : s.timesCalled x.signal = 0 := by
      rw [timesCalled, calls]
      rfl
    rw [if_pos (placed.asked_of_fired mem), called, Nat.add_zero] at total
    obtain ⟨answer, told, own⟩ := List.countP_pos_iff.mp (Nat.lt_of_lt_of_eq Nat.one_pos total.symm)
    have same : answer.1 = x.signal := by simpa using own
    refine ⟨answer, told, List.any_eq_true.mpr ⟨x, mem, ?_⟩, same⟩
    simp [same, holds]
  · intro answer told holds
    obtain ⟨x, mem, both⟩ := List.any_eq_true.mp holds
    obtain ⟨same, holds⟩ : x.signal = answer.1 ∧ p x = true := by simpa using both
    exact ⟨x, mem, holds, same⟩

theorem countP_fired_eq_add (p : Firing → Bool) :
    s.fired.countP p = s.returned p + s.answers.countP fun answer =>
      (s.fired.any fun x => x.signal == answer.1 && p x) && !answer.2.isOk := by
  rw [countP_fired placed once calls, List.countP_eq_countP_filter_add _ _ (·.2.isOk),
    List.countP_filter, List.countP_filter, returned]
  simp only [Bool.and_comm]

variable (refused : s.Refused)

include refused

theorem countP_served : s.fired.countP (·.isServed) = s.returned (·.isServed) := by
  rw [countP_fired_eq_add placed once calls, Nat.add_eq_left, List.countP_eq_zero]
  rintro ⟨n, answer⟩ told both
  cases answer with
  | ok => simp [Except.isOk, Except.toBool] at both
  | error e =>
    -- the signal would have fired twice
    obtain ⟨y, mem', same', failed⟩ := refused n e told
    obtain ⟨x, mem, same, served⟩ : ∃ x ∈ s.fired, x.signal = n ∧ x.isServed = true := by
      simpa [Except.isOk, Except.toBool] using both
    have one := List.inj_on_of_nodup_map placed.nodup_fired mem mem' (same.trans same'.symm)
    rw [one, failed] at served
    cases served

theorem countP_unserved : s.fired.countP (!·.isServed) =
    s.returned (!·.isServed) + s.answers.countP (!·.2.isOk) := by
  rw [countP_fired_eq_add placed once calls, Nat.add_right_inj]
  refine List.countP_congr ?_
  rintro ⟨n, answer⟩ told
  cases answer with
  | ok => simp [Except.isOk, Except.toBool]
  | error e =>
    obtain ⟨y, mem, same, failed⟩ := refused n e told
    have fired : s.fired.any (fun x => x.signal == n && !x.isServed) = true :=
      List.any_eq_true.mpr ⟨y, mem, by simp [same, failed]⟩
    simp [fired]

end Rest

theorem total_dues_of_rest (rest : s.isAtRest = true) :
    s.file.total (·.phase.dues.length) = 0 := by
  rw [StreamingFile.total, sumOf, List.sum_eq_zero_iff_forall_eq_nat, List.forall_mem_map]
  intro d mem
  rw [dues_of_rest rest d mem, List.length_nil]

theorem Tidy.total_held_of_rest (inv : s.Tidy) (rest : s.isAtRest = true) :
    s.file.total (Chunk.held ·.outstanding) =
      s.file.total (Chunk.held ·.phase.current?.toList) :=
  congrArg List.sum (List.map_congr_left fun d mem =>
    (inv.downloaders d mem).fresh.held_outstanding (dues_of_rest rest d mem))

theorem Tidy.expired_le (inv : s.Tidy) :
    s.file.stats.stalls + s.file.stats.idleTimeouts ≤ s.file.downloaders.length := by
  have additive (a b : DownloadStats) : (a + b).stalls + (a + b).idleTimeouts =
      a.stalls + a.idleTimeouts + (b.stalls + b.idleTimeouts) :=
    Nat.add_add_add_comm _ _ _ _
  rw [s.file.stats_eq_total (p := fun t => t.stalls + t.idleTimeouts) additive]
  have most : ∀ n ∈ s.file.downloaders.map fun d => d.stats.stalls + d.stats.idleTimeouts,
      n ≤ 1 := by
    rw [List.forall_mem_map]
    intro d mem
    rw [Nat.add_comm]
    exact (inv.downloaders d mem).once.expired_le
  have sum := List.sum_le_card_nsmul _ 1 most
  rw [List.length_map] at sum
  exact sum.trans_eq (Nat.mul_one _)

/-- With no call in progress and no chunk left to fail, the counters are what the answered reads and
their signals tell; those of requests, starts and expired waits are right at all times. A call that
answers with an error counts nothing but downloaders that it has started in vain. -/
theorem counters_balance (identity : FileIdentity) (options : DownloadOptions)
    (xs : List Happening) :
    let s := (start identity options).run xs
    (s.isAtRest = true →
      s.file.stats.chunksCompleted = s.returned (·.isServed) ∧
        s.file.stats.chunksFailed = s.returned (!·.isServed) ∧
        s.file.stats.bytesDelivered =
          Firing.delivered s.fired + s.file.total (Chunk.held ·.phase.current?.toList) +
            Chunk.held ((start identity options).failed xs)) ∧
      s.file.stats.requests =
        ((start identity options).pickedUp xs).length + s.file.stats.seeks ∧
      (∀ d ∈ s.file.downloaders, d.stats.stalls + d.stats.idleTimeouts ≤ 1) ∧
      s.file.stats.downloadersStarted = s.file.downloaders.length ∧
      s.file.stats.stalls + s.file.stats.idleTimeouts ≤ s.file.stats.downloadersStarted ∧
      ∀ before x after n e, xs = before ++ x :: after →
        ((start identity options).run before).signalOf? x = some n → (n, .error e) ∈ s.answers →
          let s₀ := (start identity options).run before
          (s₀.step x).file.stats = s₀.file.stats ∨
            (∃ text, e = .notStarted text) ∧ (s₀.step x).file.stats = { s₀.file.stats with
              downloadersStarted := s₀.file.stats.downloadersStarted + 1 } := by
  intro s
  have inv : s.Kept := run_induction (fun _ _ h => h.kept) xs (kept_start identity options)
  have once : s.AnsweredOnce := answeredOnce_run xs identity options
  have refused : s.Refused := refused_run xs identity options
  obtain ⟨tidy₀, balanced₀⟩ := balanced_start identity options
  obtain ⟨tidy, balanced⟩ : s.Tidy ∧ s.Balanced ((start identity options).failed xs)
      ((start identity options).pickedUp xs) := balanced_run xs tidy₀ balanced₀
  refine ⟨fun rest => ?_, ?_, ?_, balanced.started, ?_, ?_⟩
  · have calls := calls_of_rest rest
    have dues := total_dues_of_rest rest
    refine ⟨?_, ?_, ?_⟩
    · rw [balanced.completed]
      exact countP_served inv.placed once calls refused
    · have failed := balanced.failed
      have unserved := countP_unserved inv.placed once calls refused
      omega
    · rw [balanced.bytes, tidy.total_held_of_rest rest]
  · rw [balanced.requests, Nat.add_comm]
  · intro d mem
    have least := (tidy.downloaders d mem).once.expired_le
    rw [Downloader.expired] at least
    omega
  · rw [balanced.started]
    exact tidy.expired_le
  · rintro before x after n e rfl own told s₀
    -- the answer that is there in the end is the one that this call will give
    refine stats_of_refused (answeredOnce_run before identity options) own after ?_
    rw [← run, ← run_append]
    exact told

/-- Reads a range, in as many steps as that takes where a downloader need not be waited for. -/
def reading (first limit : Nat) : List Happening :=
  .ask none first limit :: List.replicate 5 (.advance 0)

def mixed : List Happening :=
  reading 0 2 ++
    [.move 0 .take,
      .move 0 (.opened (.ok ⟨0, [.bytes [0, 1, 2, 3], .failed (.timeout 9)], .silent⟩)),
      .move 0 .deliver] ++
    reading 2 6 ++ [.move 0 .take, .move 0 .deliver, .move 0 .failNext, .move 0 .failNext] ++
    reading 0 4 ++
    [.move 1 .take, .move 1 (.opened (.ok ⟨0, [.bytes [0, 1, 2]], .silent⟩)), .move 1 .deliver]

theorem mixed_counters :
    let s := (start ⟨"", 6⟩ .standard).run (mixed ++ [.ask none 4 2])
    s.isAtRest = true ∧ s.file.stats.chunksCompleted = 1 ∧ s.file.stats.chunksFailed = 1 ∧
      s.file.stats.bytesDelivered = 2 + 3 + 2 ∧ s.file.stats.requests = 2 ∧
      s.file.stats = ((start ⟨"", 6⟩ .standard).run mixed).file.stats := by
  intro s
  obtain ⟨atRest, requests, -, -, -, refused⟩ :=
    counters_balance ⟨"", 6⟩ .standard (mixed ++ [.ask none 4 2])
  have rest : s.isAtRest = true := by decide
  obtain ⟨completed, failed, bytes⟩ := atRest rest
  have served : s.returned (·.isServed) = 1 := by decide
  have unserved : s.returned (!·.isServed) = 1 := by decide
  have told : (3, .error (.invalidRange 4 2)) ∈ s.answers := List.mem_of_getElem? (i := 3) rfl
  have same := refused mixed (.ask none 4 2) [] 3 _ rfl rfl told
  refine ⟨rest, completed.trans served, failed.trans unserved, bytes, requests, ?_⟩
  rcases same with same | ⟨⟨text, other⟩, -⟩
  · rw [← same]
    exact congrArg (·.file.stats) (run_append _ mixed [.ask none 4 2])
  · cases other

/-- The downloader that is started for a read closes before it is offered the chunk, and no other
can be started. The read is refused, and the one that was started stays counted. -/
theorem notStarted_counted :
    let s := (start ⟨"", 6⟩ .standard).run [.ask none 0 2, .advance 0]
    let s' := s.run [.advance 0, .move 0 .take, .move 0 .failNext, .advance 0,
      .launchFails 0 "no thread", .advance 0, .advance 0]
    s.signalOf? (.advance 0) = some 0 ∧
      s.file.stats.downloadersStarted = 0 ∧
      (s.step (.advance 0)).file.stats.downloadersStarted = 1 ∧
      s'.answers = [(0, .error (.notStarted "no thread"))] ∧ s'.calls = [] ∧
      s'.file.stats.downloadersStarted = 1 := by
  intro s s'
  have returned : s'.calls = [] := List.length_eq_zero_iff.mp (by decide)
  exact ⟨by decide, by decide, by decide, by decide, returned, by decide⟩

end SharedFile

end RangeFetch
