import RangeFetch.Proofs.File.Acts
import RangeFetch.Proofs.File.Balance

namespace RangeFetch

section Lists

variable {α : Type} {p : α → Bool} {l : List α} {i : Nat} {x y : α}

theorem countP_concat (l : List α) (x : α) :
    (l ++ [x]).countP p = l.countP p + (p x).toNat := by
  rw [List.countP_append, List.countP_singleton]
  cases p x <;> rfl

theorem countP_set_of_eq (found : l[i]? = some x) (same : p y = p x) :
    (l.set i y).countP p = l.countP p := by
  have exchange := countP_set (p := p) found y
  rw [same] at exchange
  exact Nat.add_right_cancel exchange

end Lists

theorem Errand.countP_answers (errand : Errand) (n : Nat) :
    errand.answers.countP (·.1 == n) = (errand.signal? == some n).toNat := by
  cases errand with
  | queued signal =>
    rw [answers, signal?, List.countP_singleton, Option.some_beq_some]
    cases signal == n <;> rfl
  | refused c e =>
    rw [answers, signal?, List.countP_singleton, Option.some_beq_some]
    cases c.signal == n <;> rfl
  | release => rfl

theorem Errand.signal?_of_answers {errand : Errand} {n : Nat} {answer : Except FileError Unit}
    (mem : (n, answer) ∈ errand.answers) : errand.signal? = some n := by
  cases errand with
  | release => cases mem
  | _ =>
    cases List.mem_singleton.mp mem
    rfl

namespace SharedFile

variable {s s' : SharedFile} {x : Happening} {n : Nat}

def timesAnswered (s : SharedFile) (n : Nat) : Nat := s.answers.countP (·.1 == n)

def timesCalled (s : SharedFile) (n : Nat) : Nat := s.calls.countP (·.stage.signal? == some n)

/-- Each signal has an answer or a call, and no other signals have. -/
def AnsweredOnce (s : SharedFile) : Prop :=
  ∀ n, s.timesAnswered n + s.timesCalled n = if n < s.asked.length then 1 else 0

theorem AnsweredOnce.keep (inv : s.AnsweredOnce) (asked : s'.asked = s.asked)
    (answers : s'.answers = s.answers) (calls : ∀ n, s'.timesCalled n = s.timesCalled n) :
    s'.AnsweredOnce := by
  intro n
  rw [timesAnswered, answers, calls, asked]
  exact inv n

theorem AnsweredOnce.add {y : Nat × Nat} (inv : s.AnsweredOnce) (asked : s'.asked = s.asked ++ [y])
    (more : ∀ n, s'.timesAnswered n + s'.timesCalled n =
      s.timesAnswered n + s.timesCalled n + (s.asked.length == n).toNat) : s'.AnsweredOnce := by
  rw [AnsweredOnce, asked, List.length_append]
  exact once_add inv more

theorem timesCalled_setCall {i : Nat} {call call' : Call} (found : s.calls[i]? = some call)
    (signal : call'.stage.signal? = call.stage.signal?) (n : Nat) :
    (s.setCall i call').timesCalled n = s.timesCalled n :=
  countP_set_of_eq found (by rw [signal])

theorem AnsweredOnce.answer {y : Nat × Nat} {answer : Except FileError Unit}
    (inv : s.AnsweredOnce) (asked : s'.asked = s.asked ++ [y])
    (answers : s'.answers = s.answers ++ [(s.asked.length, answer)]) (calls : s'.calls = s.calls) :
    s'.AnsweredOnce := by
  refine inv.add asked fun n => ?_
  rw [timesAnswered, answers, countP_concat, timesCalled, calls]
  exact Nat.add_right_comm _ _ _

theorem Acts.answeredOnce (h : Acts s x s') (inv : s.AnsweredOnce) : s'.AnsweredOnce := by
  cases h with
  | stays => exact inv
  | fails signal failed => exact inv.answer rfl rfl rfl
  | completes signal empty => exact inv.answer rfl rfl rfl
  | enters signal empty =>
    refine inv.add rfl fun n => ?_
    rw [← signal, timesCalled, countP_concat]
    exact (Nat.add_assoc _ _ _).symm
  | withdraws =>
    -- a release is for no signal
    refine inv.keep rfl rfl fun n => ?_
    rw [timesCalled, countP_concat]
    rfl
  | turns unseen found signal => exact inv.keep rfl rfl (timesCalled_setCall found signal)
  | launches found stage =>
    exact inv.keep rfl rfl (timesCalled_setCall found (by rw [stage]; rfl))
  | offers found stage =>
    exact inv.keep rfl rfl (timesCalled_setCall found (by rw [stage]; rfl))
  | leaves found stage =>
    exact inv.keep rfl rfl (timesCalled_setCall found (by rw [stage]; rfl))
  | @returns i call errand found stage =>
    intro n
    have before := inv n
    have gone : _ + _ = s.timesCalled n :=
      countP_eraseIdx (p := fun call : Call => call.stage.signal? == some n) found
    have told := errand.countP_answers n
    rw [stage] at gone
    change (s.answers ++ errand.answers).countP _ + (s.calls.eraseIdx i).countP _ = _
    rw [List.countP_append, told]
    change _ + (errand.signal? == some n).toNat = _ at gone
    change _ = if n < s.asked.length then 1 else 0
    rw [← before, ← gone, timesAnswered]
    omega
  | moves found => exact inv

/-- A read that is answered with an error has its signal fired with one. -/
def Refused (s : SharedFile) : Prop :=
  ∀ n e, (n, .error e) ∈ s.answers → ∃ x ∈ s.fired, x.signal = n ∧ x.isServed = false

theorem Refused.keep {fired : List Firing} (inv : s.Refused) (answers : s'.answers = s.answers)
    (fires : s'.fired = s.fired ++ fired) : s'.Refused := by
  intro n e mem
  rw [answers] at mem
  obtain ⟨x, old, same⟩ := inv n e mem
  exact ⟨x, by rw [fires]; exact List.mem_append_left _ old, same⟩

theorem Refused.add {fired : List Firing} {answers : List (Nat × Except FileError Unit)}
    (inv : s.Refused) (tells : s'.answers = s.answers ++ answers)
    (fires : s'.fired = s.fired ++ fired)
    (new : ∀ n e, (n, .error e) ∈ answers → ∃ x ∈ fired, x.signal = n ∧ x.isServed = false) :
    s'.Refused := by
  intro n e mem
  rw [tells] at mem
  rw [fires]
  rcases List.mem_append.mp mem with old | latest
  · obtain ⟨x, before, same⟩ := inv n e old
    exact ⟨x, List.mem_append_left _ before, same⟩
  · obtain ⟨x, now, same⟩ := new n e latest
    exact ⟨x, List.mem_append_right _ now, same⟩

theorem Acts.refused (h : Acts s x s') (inv : s.Refused) : s'.Refused := by
  cases h with
  | fails signal failed =>
    refine inv.add rfl rfl fun n e mem => ?_
    cases List.mem_singleton.mp mem
    exact ⟨_, List.mem_singleton_self _, signal, failed⟩
  | completes signal empty =>
    refine inv.add rfl rfl fun n e mem => ?_
    cases List.mem_singleton.mp mem
  | offers found stage use takes => exact inv.keep rfl rfl
  | @returns i call errand found stage =>
    refine inv.add rfl rfl fun n e mem => ?_
    cases errand with
    | refused c error =>
      cases List.mem_singleton.mp mem
      exact ⟨_, List.mem_singleton_self _, rfl, rfl⟩
    | queued signal => cases List.mem_singleton.mp mem
    | release => cases mem
  | moves found => exact inv.keep rfl rfl
  | _ => exact inv

/-- The answer to a read, whenever it comes, is among these. -/
structure Confined (s : SharedFile) (n : Nat) (P : Except FileError Unit → Prop) : Prop where
  asked : n < s.asked.length
  answers : ∀ answer, (n, answer) ∈ s.answers → P answer
  calls : ∀ call ∈ s.calls, call.stage.signal? = some n →
    ∀ answer, call.stage.mayAnswer answer → P answer

section Confined

variable {P : Except FileError Unit → Prop}

theorem Confined.setCall {i : Nat} {call call' : Call} {file : StreamingFile}
    {accepted : List (Nat × Nat)} {fired : List Firing} (inv : s.Confined n P)
    (found : s.calls[i]? = some call) (signal : call'.stage.signal? = call.stage.signal?)
    (narrows : ∀ answer, call'.stage.mayAnswer answer → call.stage.mayAnswer answer) :
    Confined { s.setCall i call' with file := file, accepted := accepted, fired := fired } n P := by
  refine ⟨inv.asked, inv.answers, forall_setCall inv.calls ?_⟩
  intro own answer may
  exact inv.calls call (List.mem_of_getElem? found) (signal ▸ own) answer (narrows answer may)

theorem Acts.confined (h : Acts s x s') (inv : s.Confined n P) : s'.Confined n P := by
  obtain ⟨asked, answers, calls⟩ := inv
  have more {y : Nat × Nat} : n < (s.asked ++ [y]).length := by
    rw [List.length_append]
    exact Nat.lt_add_right _ asked
  -- an answer that is given at once is for another signal
  have others {answer : Except FileError Unit} :
      ∀ a, (n, a) ∈ s.answers ++ [(s.asked.length, answer)] → P a := by
    intro a mem
    rcases List.mem_append.mp mem with old | new
    · exact answers a old
    · cases List.mem_singleton.mp new
      exact absurd asked (Nat.lt_irrefl _)
  cases h with
  | stays => exact ⟨asked, answers, calls⟩
  | fails signal failed => exact ⟨more, others, calls⟩
  | completes signal empty => exact ⟨more, others, calls⟩
  | enters signal empty =>
    refine ⟨more, answers, ?_⟩
    simp only [List.forall_mem_append, List.forall_mem_singleton]
    refine ⟨calls, fun own => ?_⟩
    cases signal.symm.trans (Option.some.inj own)
    exact absurd asked (Nat.lt_irrefl _)
  | withdraws =>
    refine ⟨asked, answers, ?_⟩
    simp only [List.forall_mem_append, List.forall_mem_singleton]
    refine ⟨calls, fun own => ?_⟩
    cases own
  | turns unseen found signal hand narrows same counted =>
    exact Confined.setCall ⟨asked, answers, calls⟩ found signal narrows
  | launches found stage =>
    exact Confined.setCall ⟨asked, answers, calls⟩ found (by rw [stage]; rfl)
      (by rw [stage]; exact fun _ => id)
  | offers found stage use takes =>
    refine Confined.setCall ⟨asked, answers, calls⟩ found (by rw [stage]; rfl) ?_
    rintro answer ⟨signal, mem⟩
    cases List.mem_singleton.mp mem
    rw [stage]
    exact .inl rfl
  | leaves found stage =>
    exact Confined.setCall ⟨asked, answers, calls⟩ found (by rw [stage]; rfl)
      (by rw [stage]; exact fun _ => id)
  | @returns i call errand found stage =>
    have own := calls call (List.mem_of_getElem? found)
    rw [stage] at own
    refine ⟨asked, fun a mem => ?_, forall_leave calls⟩
    rcases List.mem_append.mp mem with old | new
    · exact answers a old
    · exact own (Errand.signal?_of_answers new) a ⟨n, new⟩
  | moves found => exact ⟨asked, answers, calls⟩

theorem confined_run (xs : List Happening) (inv : s.Confined n P) : (s.run xs).Confined n P :=
  acts_induction (fun _ _ _ h => h.confined) xs inv

theorem AnsweredOnce.of_call (once : s.AnsweredOnce) {i : Nat} {call : Call}
    (found : s.calls[i]? = some call) (own : call.stage.signal? = some n) :
    n < s.asked.length ∧ (∀ answer, (n, answer) ∉ s.answers) ∧
      ∀ other ∈ s.calls.eraseIdx i, other.stage.signal? ≠ some n := by
  have total := once n
  have split : _ + _ = s.timesCalled n :=
    countP_eraseIdx (p := fun call : Call => call.stage.signal? == some n) found
  rw [own, beq_self_eq_true, Bool.toNat_true] at split
  have asked : n < s.asked.length := by
    by_cases asked : n < s.asked.length
    · exact asked
    · rw [if_neg asked] at total
      omega
  rw [if_pos asked] at total
  -- the call takes the one place of its signal, so an answer or another call would be a second
  refine ⟨asked, fun answer mem => ?_, fun other mem same => ?_⟩
  · have answered : 0 < s.timesAnswered n := List.countP_pos_iff.mpr ⟨_, mem, by simp⟩
    omega
  · have called : 0 < (s.calls.eraseIdx i).countP (·.stage.signal? == some n) :=
      List.countP_pos_iff.mpr ⟨other, mem, by simp [same]⟩
    omega

theorem AnsweredOnce.confined {i : Nat} {call call' : Call} {file : StreamingFile}
    {accepted : List (Nat × Nat)} {fired : List Firing} (once : s.AnsweredOnce)
    (found : s.calls[i]? = some call) (own : call.stage.signal? = some n)
    (binds : ∀ answer, call'.stage.mayAnswer answer → P answer) :
    Confined { s.setCall i call' with file := file, accepted := accepted, fired := fired } n P := by
  obtain ⟨asked, unanswered, others⟩ := once.of_call found own
  refine ⟨asked, fun answer mem => absurd mem (unanswered answer), ?_⟩
  intro b mem same
  obtain ⟨j, there⟩ := List.mem_iff_getElem?.mp mem
  by_cases this : i = j
  · subst this
    have short := (List.getElem?_eq_some_iff.mp found).1
    rw [setCall, List.getElem?_set_self short] at there
    cases there
    exact binds
  · rw [setCall, List.getElem?_set_ne this] at there
    have other := List.mem_eraseIdx_iff_getElem?.mpr ⟨j, Ne.symm this, there⟩
    exact absurd same (others b other)

/-- A step of a call that changes a counter starts a downloader, or binds the call to answer
without an error. -/
theorem Acts.binds (h : Acts s x s') (once : s.AnsweredOnce) (own : s.signalOf? x = some n) :
    s'.file.stats = s.file.stats ∨ s'.Confined n (· = .ok ()) ∨
      s'.file.stats =
          { s.file.stats with downloadersStarted := s.file.stats.downloadersStarted + 1 } ∧
        s'.Confined n fun answer =>
          answer = .ok () ∨ ∃ text, answer = .error (.notStarted text) := by
  cases h with
  | completes signal empty =>
    -- nothing is known of the new signal before this answer
    cases own
    have fresh := once s.asked.length
    rw [if_neg (Nat.lt_irrefl _)] at fresh
    refine .inr (.inl ⟨by simp, fun answer mem => ?_, fun call mem same => ?_⟩)
    · rcases List.mem_append.mp mem with old | new
      · have answered : 0 < s.timesAnswered s.asked.length :=
          List.countP_pos_iff.mpr ⟨_, old, by simp⟩
        omega
      · cases List.mem_singleton.mp new
        rfl
    · have called : 0 < s.timesCalled s.asked.length :=
        List.countP_pos_iff.mpr ⟨call, mem, by simp [same]⟩
      omega
  | launches found stage =>
    rw [signalOf?, found] at own
    exact .inr (.inr ⟨s.file.stats_launch, once.confined found own fun _ => id⟩)
  | offers found stage use takes =>
    rw [signalOf?, found] at own
    refine .inr (.inl (once.confined found own ?_))
    rintro answer ⟨signal, mem⟩
    cases List.mem_singleton.mp mem
    rfl
  | turns unseen found signal hand narrows same counted =>
    exact .inl (StreamingFile.stats_congr same counted)
  | leaves found stage => exact .inl (s.file.stats_stopAll _)
  | moves found => cases own
  | _ => exact .inl rfl

theorem stats_of_refused (once : s.AnsweredOnce) (own : s.signalOf? x = some n)
    (after : List Happening) {e : FileError}
    (refused : (n, .error e) ∈ ((s.step x).run after).answers) :
    (s.step x).file.stats = s.file.stats ∨
      (∃ text, e = .notStarted text) ∧ (s.step x).file.stats =
        { s.file.stats with downloadersStarted := s.file.stats.downloadersStarted + 1 } := by
  rcases (s.step_acts x).binds once own with same | ok | ⟨started, fate⟩
  · exact .inl same
  · cases (confined_run after ok).answers _ refused
  · rcases (confined_run after fate).answers _ refused with ok | ⟨text, notStarted⟩
    · cases ok
    · cases notStarted
      exact .inr ⟨⟨text, rfl⟩, started⟩

end Confined

theorem answeredOnce_run (xs : List Happening) (identity : FileIdentity)
    (options : DownloadOptions) : ((start identity options).run xs).AnsweredOnce :=
  acts_induction (fun _ _ _ h => h.answeredOnce) xs fun _ => rfl

theorem refused_run (xs : List Happening) (identity : FileIdentity) (options : DownloadOptions) :
    ((start identity options).run xs).Refused := by
  refine acts_induction (fun _ _ _ h => h.refused) xs ?_
  intro n e mem
  cases mem

end SharedFile

end RangeFetch
