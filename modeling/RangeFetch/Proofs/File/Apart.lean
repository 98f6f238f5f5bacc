import RangeFetch.File.Asking
import RangeFetch.Proofs.File.Answers
import RangeFetch.Proofs.File.Entries
import RangeFetch.Proofs.File.Slices

namespace RangeFetch

section Lists

variable {α : Type} {p : α → Bool} {l : List α} {i : Nat} {x y z : α}

theorem split_at_entry (found : l[i]? = some x) :
    ∃ l₁ l₂, l = l₁ ++ x :: l₂ ∧ (∀ y, l.set i y = l₁ ++ y :: l₂) ∧ l.eraseIdx i = l₁ ++ l₂ := by
  induction l generalizing i with
  | nil => cases found
  | cons a rest ih =>
    cases i with
    | zero =>
      cases found
      exact ⟨[], rest, rfl, fun _ => rfl, rfl⟩
    | succ i =>
      obtain ⟨l₁, l₂, whole, set, erase⟩ := ih (i := i) (by simpa using found)
      refine ⟨a :: l₁, l₂, by rw [whole]; rfl, fun y => ?_, ?_⟩
      · rw [List.set_cons_succ, set, List.cons_append]
      · rw [List.eraseIdx_cons_succ, erase, List.cons_append]

theorem filter_set_of_not (found : l[i]? = some x) (old : p x = false) (new : p y = false) :
    (l.set i y).filter p = l.filter p := by
  obtain ⟨l₁, l₂, whole, set, -⟩ := split_at_entry found
  rw [set, whole]
  simp [old, new]

theorem filter_eraseIdx_of_not (found : l[i]? = some x) (old : p x = false) :
    (l.eraseIdx i).filter p = l.filter p := by
  obtain ⟨l₁, l₂, whole, -, erase⟩ := split_at_entry found
  rw [erase, whole]
  simp [old]

theorem split_at_only (found : l[i]? = some x) (old : p x = true) (only : l.filter p = [z]) :
    x = z ∧ (∀ y, p y = true → (l.set i y).filter p = [y]) ∧ (l.eraseIdx i).filter p = [] := by
  obtain ⟨l₁, l₂, whole, set, erase⟩ := split_at_entry found
  rw [whole, List.filter_append, List.filter_cons_of_pos old, List.append_eq_singleton_iff] at only
  obtain ⟨before, same⟩ | ⟨-, other⟩ := only
  · obtain ⟨rfl, behind⟩ := List.cons_eq_cons.mp same
    refine ⟨rfl, fun y new => ?_, ?_⟩
    · rw [set, List.filter_append, List.filter_cons_of_pos new, before, behind]
      rfl
    · rw [erase, List.filter_append, before, behind]
      rfl
  · cases other

end Lists

namespace SharedFile

variable {s s' : SharedFile} {x : Happening} {i n : Nat}

section AtOnce

variable (caller : Option Nat) {first limit : Nat}

theorem ask_of_backwards (backwards : limit < first) :
    s.ask caller first limit =
      s.answered first limit (.failed (.invalidRange first limit))
        (.error (.invalidRange first limit)) := by
  rw [ask, Chunk.request, dif_neg (Nat.not_le.mpr backwards)]
  rfl

theorem ask_of_released (ordered : first ≤ limit) (released : s.file.released = true) :
    s.ask caller first limit =
      s.answered first limit (.failed .cancelled) (.error .released) := by
  rw [ask, Chunk.request, dif_pos ordered]
  exact if_pos released

theorem ask_of_past (ordered : first ≤ limit) (open_ : s.file.released = false)
    (past : s.file.identity.size ≤ first) :
    s.ask caller first limit =
      { s.answered first limit (.served ⟨first, []⟩) (.ok ()) with
        file := s.file.countComplete } := by
  rw [ask, Chunk.request, dif_pos ordered]
  dsimp only
  rw [if_neg (Bool.eq_false_iff.mp open_), if_pos past]
  rfl

theorem ask_of_within (ordered : first ≤ limit) (open_ : s.file.released = false)
    (within : first < s.file.identity.size) :
    s.ask caller first limit =
      { s with
        asked := s.asked ++ [(first, limit)]
        calls := s.calls ++
          [⟨caller, .entering ⟨s.asked.length, first, limit, [], ordered⟩, []⟩] } := by
  rw [ask, Chunk.request, dif_pos ordered]
  dsimp only
  rw [if_neg (Bool.eq_false_iff.mp open_), if_neg (Nat.not_le.mpr within)]

theorem ask_cases (s : SharedFile) (caller : Option Nat) (first limit : Nat) :
    (∃ result answer, ∃ file, (file = s.file ∨ file = s.file.countComplete) ∧
        (∀ e, answer = .error e → result = .failed e.told) ∧
        s.ask caller first limit = { s.answered first limit result answer with file := file }) ∨
      ∃ c : Chunk, c.signal = s.asked.length ∧ s.ask caller first limit =
        { s with
          asked := s.asked ++ [(first, limit)]
          calls := s.calls ++ [⟨caller, .entering c, []⟩] } := by
  by_cases ordered : first ≤ limit
  · cases released : s.file.released with
    | true =>
      refine .inl ⟨_, _, s.file, .inl rfl, ?_, ask_of_released caller ordered released⟩
      rintro e ⟨⟩
      rfl
    | false =>
      by_cases past : s.file.identity.size ≤ first
      · refine .inl ⟨_, _, _, .inr rfl, ?_, ask_of_past caller ordered released past⟩
        rintro e ⟨⟩
      · exact .inr ⟨_, rfl, ask_of_within caller ordered released (Nat.lt_of_not_le past)⟩
  · refine .inl ⟨_, _, s.file, .inl rfl, ?_, ask_of_backwards caller (Nat.lt_of_not_le ordered)⟩
    rintro e ⟨⟩
    rfl

end AtOnce

/-- What one call can change by a step. -/
inductive Proceeds (s : SharedFile) (i : Nat) : SharedFile → Prop where
  | stays : Proceeds s i s
  | sets {call call' : Call} {file : StreamingFile} {accepted : List (Nat × Nat)}
      {fired : List Firing} (found : s.calls[i]? = some call)
      (signal : call'.stage.signal? = call.stage.signal?)
      (taken : ∀ n, call.stage.signal? ≠ some n →
        accepted.filter (·.2 == n) = s.accepted.filter (·.2 == n))
      (fires : s.fired ⊆ fired)
      (turn : call'.stage.hasTurn = true → call.stage.hasTurn = true ∨ s.isFree = true)
      (slot : call.stage.hasTurn = false → file.inUse = s.file.inUse)
      (same : file.released = s.file.released) :
      Proceeds s i { s.setCall i call' with file := file, accepted := accepted, fired := fired }
  | returns {call : Call} {errand : Errand} (found : s.calls[i]? = some call)
      (stage : call.stage = .joining errand) : Proceeds s i (s.leave i call errand)

theorem Proceeds.quiet {call call' : Call} {file : StreamingFile} (found : s.calls[i]? = some call)
    (signal : call'.stage.signal? = call.stage.signal?)
    (turn : call'.stage.hasTurn = true → call.stage.hasTurn = true ∨ s.isFree = true)
    (slot : call.stage.hasTurn = false → file.inUse = s.file.inUse)
    (same : file.released = s.file.released) :
    Proceeds s i { s.setCall i call' with file := file } :=
  .sets found signal (fun _ _ => rfl) (List.Subset.refl _) turn slot same

theorem offer_proceeds {call : Call} {c : Chunk} (found : s.calls[i]? = some call)
    (stage : call.stage = .offering c) : Proceeds s i (s.offer i call c) := by
  have turn : call.stage.hasTurn = true := by rw [stage]; rfl
  unfold offer
  rcases s.file.offer_cases c with ⟨c', signal, h⟩ | ⟨k, d, d', fired, use, there, takes, h⟩
  · rw [h]
    exact .quiet found (by simp [stage, CallStage.signal?, signal]) (fun _ => .inl turn)
      (fun none => absurd turn (by simp [none])) rfl
  · rw [h]
    refine .sets found (by rw [stage]; rfl) (fun n other => ?_) (List.subset_append_left _ _)
      (fun has => by cases has) (fun _ => rfl) rfl
    have apart : c.signal ≠ n := by simpa [stage, CallStage.signal?] using other
    simp [use, apart]

theorem advance_proceeds (s : SharedFile) (i : Nat) : Proceeds s i (s.advance i) := by
  unfold advance
  cases found : s.calls[i]? with
  | none => exact .stays
  | some call =>
    dsimp only
    cases stage : call.stage with
    | entering c =>
      dsimp only
      by_cases free : s.isFree = true
      · rw [if_neg (by simp [free])]
        split
        · exact .quiet found (by rw [stage]; rfl) (fun _ => .inr free) (fun _ => rfl) rfl
        · exact .quiet found (by rw [stage]; rfl) (fun _ => .inr free) (fun _ => rfl) rfl
      · rw [if_pos (by simpa using free)]
        exact .stays
    | choosing c =>
      have turn : call.stage.hasTurn = true := by rw [stage]; rfl
      exact .quiet found (by rw [stage]; rfl) (fun _ => .inl turn)
        (fun none => absurd turn (by simp [none])) s.file.renew_same.2
    | offering c => exact offer_proceeds found stage
    | leaving errand =>
      exact .quiet found (by rw [stage]; rfl) (fun has => by cases has) (fun _ => rfl) rfl
    | joining errand =>
      dsimp only
      split
      · exact .returns found stage
      · exact .stays

theorem launchFails_proceeds (s : SharedFile) (i : Nat) (text : String) :
    Proceeds s i (s.launchFails i text) := by
  unfold launchFails
  cases found : s.calls[i]? with
  | none => exact .stays
  | some call =>
    dsimp only
    cases stage : call.stage with
    | choosing c =>
      have turn : call.stage.hasTurn = true := by rw [stage]; rfl
      dsimp only
      split
      · exact .stays
      · exact .quiet found (by rw [stage]; rfl) (fun has => by cases has)
          (fun none => absurd turn (by simp [none])) rfl
    | _ => exact .stays

/-- What is there of a read is as it was. -/
structure Apart (n : Nat) (s s' : SharedFile) : Prop where
  calls : s'.callsOf n = s.callsOf n
  takers : s'.takersOf n = s.takersOf n
  answers : s'.answersOf n = s.answersOf n

theorem Proceeds.apart (h : Proceeds s i s')
    (other : s.calls[i]?.bind (·.stage.signal?) ≠ some n) : Apart n s s' := by
  cases h with
  | stays => exact ⟨rfl, rfl, rfl⟩
  | sets found signal taken fires turn slot same =>
    rw [found, Option.bind_some] at other
    refine ⟨?_, ?_, rfl⟩
    · exact filter_set_of_not found (by simp [other]) (by simp [signal, other])
    · exact congrArg (List.map _) (taken n other)
  | @returns call errand found stage =>
    rw [found, Option.bind_some] at other
    refine ⟨?_, rfl, ?_⟩
    · exact filter_eraseIdx_of_not found (by simp [other])
    · have none : errand.answers.filter (·.1 == n) = [] := by
        rw [List.filter_eq_nil_iff]
        rintro ⟨m, answer⟩ mem same
        have signal := Errand.signal?_of_answers mem
        rw [stage, CallStage.signal?, signal] at other
        exact other (by simpa using same)
      rw [answersOf, leave, List.filter_append, none, List.append_nil]
      rfl

theorem apart_ask (caller : Option Nat) (first limit : Nat) (other : s.asked.length ≠ n) :
    Apart n s (s.ask caller first limit) := by
  rcases s.ask_cases caller first limit with ⟨result, answer, file, -, -, h⟩ | ⟨c, signal, h⟩
  · rw [h]
    exact ⟨rfl, rfl, by simp [answersOf, answered, other]⟩
  · rw [h]
    exact ⟨by simp [callsOf, CallStage.signal?, signal, other], rfl, rfl⟩

theorem apart_release (caller : Option Nat) : Apart n s (s.release caller) := by
  unfold release
  split
  · exact ⟨by simp [callsOf, CallStage.signal?, Errand.signal?], rfl, rfl⟩
  · exact ⟨rfl, rfl, rfl⟩

theorem apart_step (other : s.signalOf? x ≠ some n) : Apart n s (s.step x) := by
  cases x with
  | ask caller first limit =>
    exact apart_ask caller first limit fun same => other (by rw [signalOf?, same])
  | release caller => exact apart_release caller
  | advance i => exact (s.advance_proceeds i).apart other
  | launchFails i text => exact (s.launchFails_proceeds i text).apart other
  | move k e => exact ⟨rfl, rfl, rfl⟩

theorem Proceeds.released (h : Proceeds s i s') : s'.file.released = s.file.released := by
  cases h with
  | stays => rfl
  | sets found signal taken fires turn slot same => exact same
  | returns found stage => rfl

theorem released_of_harmless (harmless : x.isHarmless = true) :
    (s.step x).file.released = s.file.released := by
  cases x with
  | ask caller first limit =>
    rw [step]
    rcases s.ask_cases caller first limit with ⟨result, answer, file, counted, -, h⟩ | ⟨c, -, h⟩
    · rw [h]
      exact (StreamingFile.same_of_counted counted).2.2.2
    · rw [h]
  | advance i => exact (s.advance_proceeds i).released
  | move k e => exact (s.file.step_keeps k e).1
  | release caller => cases harmless
  | launchFails i text => cases harmless

/-- How many calls have the turn. -/
def turns (s : SharedFile) : Nat := s.calls.countP (·.stage.hasTurn)

theorem turns_of_free (free : s.isFree = true) : s.turns = 0 := by
  rw [turns, List.countP_eq_zero]
  intro call mem
  simpa using List.all_eq_true.mp free call mem

theorem turns_setCall {call : Call} (found : s.calls[i]? = some call) (call' : Call) :
    (s.setCall i call').turns + call.stage.hasTurn.toNat =
      s.turns + call'.stage.hasTurn.toNat :=
  countP_set found call'

theorem Proceeds.turns_le_one (h : Proceeds s i s') (one : s.turns ≤ 1) : s'.turns ≤ 1 := by
  cases h with
  | stays => exact one
  | @sets call call' file accepted fired found signal taken fires turn slot same =>
    have exchange := turns_setCall found call'
    change (s.setCall i call').turns ≤ 1
    cases has : call'.stage.hasTurn with
    | false =>
      rw [has, Bool.toNat_false] at exchange
      omega
    | true =>
      rcases turn has with had | free
      · rw [has, had] at exchange
        omega
      · have none := turns_of_free free
        have most := call'.stage.hasTurn.toNat_le
        omega
  | returns found stage =>
    have gone : _ + _ = s.turns := countP_eraseIdx (p := fun call : Call => call.stage.hasTurn) found
    change (s.calls.eraseIdx i).countP _ ≤ 1
    omega

theorem turns_le_one_step (one : s.turns ≤ 1) (x : Happening) : (s.step x).turns ≤ 1 := by
  cases x with
  | ask caller first limit =>
    rw [step]
    rcases s.ask_cases caller first limit with ⟨result, answer, file, -, -, h⟩ | ⟨c, signal, h⟩
    · rw [h]
      exact one
    · rw [h, turns, countP_concat]
      exact one
  | release caller =>
    rw [step, release]
    split
    · rw [turns, countP_concat]
      exact one
    · exact one
  | advance i => exact (s.advance_proceeds i).turns_le_one one
  | launchFails i text => exact (s.launchFails_proceeds i text).turns_le_one one
  | move k e => exact one

theorem turns_le_one_run (xs : List Happening) (one : s.turns ≤ 1) : (s.run xs).turns ≤ 1 := by
  induction xs generalizing s with
  | nil => exact one
  | cons x rest ih => exact ih (turns_le_one_step one x)

theorem Proceeds.inUse_of_turn (h : Proceeds s i s') (one : s.turns ≤ 1) {call : Call}
    (mem : call ∈ s.callsOf n) (turn : call.stage.hasTurn = true)
    (other : s.calls[i]?.bind (·.stage.signal?) ≠ some n) : s'.file.inUse = s.file.inUse := by
  cases h with
  | stays => rfl
  | @sets mover call' file accepted fired found signal taken fires _ slot same =>
    cases has : mover.stage.hasTurn with
    | false => exact slot has
    | true =>
      -- then there are two turns, that of the call and that of the one that moves
      obtain ⟨here, own⟩ := List.mem_filter.mp mem
      obtain ⟨j, there⟩ := List.mem_iff_getElem?.mp here
      have apart : j ≠ i := by
        rintro rfl
        rw [there, Option.bind_some] at other
        exact other (by simpa using own)
      have still : call ∈ s.calls.eraseIdx i := List.mem_eraseIdx_iff_getElem?.mpr ⟨j, apart, there⟩
      have more : 0 < (s.calls.eraseIdx i).countP (·.stage.hasTurn) :=
        List.countP_pos_iff.mpr ⟨call, still, turn⟩
      have gone : _ + _ = s.turns :=
        countP_eraseIdx (p := fun call : Call => call.stage.hasTurn) found
      rw [has, Bool.toNat_true] at gone
      omega
  | returns found stage => rfl

/-- The downloader in use stays so while a call has the turn, whatever others do. -/
theorem inUse_of_turn (one : s.turns ≤ 1) {call : Call} (mem : call ∈ s.callsOf n)
    (turn : call.stage.hasTurn = true) (other : s.signalOf? x ≠ some n) :
    (s.step x).file.inUse = s.file.inUse := by
  cases x with
  | ask caller first limit =>
    rw [step]
    rcases s.ask_cases caller first limit with ⟨result, answer, file, counted, -, h⟩ | ⟨c, -, h⟩
    · rw [h]
      exact (StreamingFile.same_of_counted counted).2.2.1
    · rw [h]
  | release caller =>
    have taken : s.isFree ≠ true := by
      intro free
      have none := List.all_eq_true.mp free call (List.mem_filter.mp mem).1
      simp [turn] at none
    rw [step, release, if_neg taken]
  | advance i => exact (s.advance_proceeds i).inUse_of_turn one mem turn other
  | launchFails i text => exact (s.launchFails_proceeds i text).inUse_of_turn one mem turn other
  | move k e => exact (s.file.step_keeps k e).2

end SharedFile

end RangeFetch
