import RangeFetch.Proofs.File.Custody

namespace RangeFetch

namespace StreamingFile

theorem hasEnded_stopAll (f : StreamingFile) (places : List Nat) (k : Nat) :
    (f.stopAll places).hasEnded k = f.hasEnded k := by
  unfold hasEnded
  rw [getElem?_stopAll]
  cases f.downloaders[k]? with
  | none => rfl
  | some d =>
    simp only [Option.map_some, Option.all_some]
    split <;> rfl

theorem hasEnded_set {f : StreamingFile} {k j : Nat} {d d' : Downloader}
    (found : f.downloaders[k]? = some d) (kept : d.phase = .stopped → d'.phase = .stopped)
    (ended : f.hasEnded j = true) :
    hasEnded { f with downloaders := f.downloaders.set k d' } j = true := by
  unfold hasEnded at ended ⊢
  by_cases same : k = j
  · subst same
    rw [List.getElem?_set_self (List.getElem?_eq_some_iff.mp found).1]
    rw [found] at ended
    simp only [Option.all_some, beq_iff_eq] at ended ⊢
    exact kept ended
  · rw [List.getElem?_set_ne same]
    exact ended

end StreamingFile

namespace SharedFile

variable {s s' : SharedFile}

/-- A call returns only what is so. -/
structure Answered (s : SharedFile) : Prop where
  queued : ∀ call ∈ s.calls, ∀ n, call.stage.errand? = some (.queued n) → ∃ k, (k, n) ∈ s.accepted
  answers : ∀ n answer, (n, answer) ∈ s.answers →
    1 ≤ s.timesFired n ∨ ∃ k, (k, n) ∈ s.accepted

/-- Only a call that has failed to start a downloader drops its chunk. -/
structure Told (s : SharedFile) : Prop where
  refused : ∀ call ∈ s.calls, ∀ c e, call.stage.errand? = some (.refused c e) →
    e = .released ∨ ∃ text, e = .notStarted text
  abandoned : ∀ x ∈ s.fired, x.result = .failed .abandoned →
    ∃ text, (x.signal, .error (.notStarted text)) ∈ s.answers

/-- A downloader is in use, has ended, is waited for, or was left to itself. -/
def IsKnown (s : SharedFile) (k : Nat) : Prop :=
  s.file.inUse = some k ∨ s.file.hasEnded k = true ∨ (∃ call ∈ s.calls, k ∈ call.stale) ∨
    k ∈ s.unattended

/-- No downloader is forgotten, and none is in use once the file is released. -/
structure Attended (s : SharedFile) : Prop where
  released : s.file.released = true →
    s.file.inUse = none ∧ ∀ call ∈ s.calls, call.stage.hasTurn = false
  known : ∀ k < s.file.downloaders.length, s.IsKnown k

theorem forall_setCall {P : Call → Prop} {i : Nat} {call : Call} (inv : ∀ call ∈ s.calls, P call)
    (new : P call) : ∀ call' ∈ (s.setCall i call).calls, P call' := by
  intro call' mem
  rcases List.mem_or_eq_of_mem_set mem with old | rfl
  · exact inv call' old
  · exact new

theorem forall_leave {P : Call → Prop} {i : Nat} {call : Call} {errand : Errand}
    (inv : ∀ call ∈ s.calls, P call) : ∀ call' ∈ (s.leave i call errand).calls, P call' :=
  fun call' mem => inv call' (List.mem_of_mem_eraseIdx mem)

theorem Happens.answered (h : Happens s s') (inv : s.Answered) : s'.Answered := by
  obtain ⟨queued, answers⟩ := inv
  cases h with
  | stays => exact ⟨queued, answers⟩
  | answers _ signal _ =>
    refine ⟨queued, ?_⟩
    intro n answer mem
    simp only [timesFired, Firing.times_append, Firing.times_cons, Firing.times_nil, signal]
    rcases List.mem_append.mp mem with old | new
    · exact (answers n answer old).imp_left fun h => Nat.le_trans h (Nat.le_add_right _ _)
    · cases List.mem_singleton.mp new
      left
      simp
  | enters signal =>
    refine ⟨?_, answers⟩
    simp only [List.forall_mem_append, List.forall_mem_singleton]
    exact ⟨queued, by simp [CallStage.errand?]⟩
  | withdraws free =>
    refine ⟨?_, answers⟩
    simp only [List.forall_mem_append, List.forall_mem_singleton]
    exact ⟨queued, by simp [CallStage.errand?]⟩
  | @offers i k call c d d' fired found stage use takes =>
    have kept : ∀ n, (∃ k, (k, n) ∈ s.accepted) → ∃ j, (j, n) ∈ s.accepted ++ [(k, c.signal)] := by
      intro n accepted
      obtain ⟨j, old⟩ := accepted
      exact ⟨j, List.mem_append_left _ old⟩
    refine ⟨forall_setCall (fun b mem n has => kept n (queued b mem n has)) ?_, ?_⟩
    · intro n has
      cases has
      exact ⟨k, by simp⟩
    · intro n answer mem
      simp only [timesFired, Firing.times_append]
      exact (answers n answer mem).imp (fun h => Nat.le_trans h (Nat.le_add_right _ _)) (kept n)
  | @leaves i call errand found stage =>
    have own := queued call (List.mem_of_getElem? found)
    rw [stage] at own
    exact ⟨forall_setCall queued own, answers⟩
  | @returns i call errand found stage =>
    have own := queued call (List.mem_of_getElem? found)
    rw [stage] at own
    refine ⟨forall_leave queued, ?_⟩
    intro n answer mem
    simp only [timesFired, leave, Firing.times_append]
    rcases List.mem_append.mp mem with old | new
    · exact (answers n answer old).imp_left fun h => Nat.le_trans h (Nat.le_add_right _ _)
    · cases errand with
      | queued signal =>
        cases List.mem_singleton.mp new
        exact .inr (own n rfl)
      | refused c e =>
        cases List.mem_singleton.mp new
        left
        simp [Errand.fires]
      | release => cases new
  | moves found move =>
    refine ⟨queued, ?_⟩
    intro n answer mem
    simp only [timesFired, Firing.times_append]
    exact (answers n answer mem).imp_left fun h => Nat.le_trans h (Nat.le_add_right _ _)
  | _ => exact ⟨forall_setCall queued (by simp [CallStage.errand?]), answers⟩

theorem Happens.told (h : Happens s s') (sound : s.Sound) (inv : s.Told) : s'.Told := by
  obtain ⟨refused, abandoned⟩ := inv
  have more {fired : List Firing} (told : ∀ x ∈ fired, x.result ≠ .failed .abandoned) :
      ∀ x ∈ s.fired ++ fired, x.result = .failed .abandoned →
        ∃ text, (x.signal, .error (.notStarted text)) ∈ s.answers := by
    intro x mem drops
    rcases List.mem_append.mp mem with old | new
    · exact abandoned x old drops
    · exact absurd drops (told x new)
  cases h with
  | stays => exact ⟨refused, abandoned⟩
  | answers _ _ told =>
    refine ⟨refused, ?_⟩
    intro x mem drops
    obtain ⟨text, old⟩ := more (by simpa using told) x mem drops
    exact ⟨text, List.mem_append_left _ old⟩
  | enters signal =>
    refine ⟨?_, abandoned⟩
    simp only [List.forall_mem_append, List.forall_mem_singleton]
    exact ⟨refused, by simp [CallStage.errand?]⟩
  | withdraws free =>
    refine ⟨?_, abandoned⟩
    simp only [List.forall_mem_append, List.forall_mem_singleton]
    exact ⟨refused, by simp [CallStage.errand?]⟩
  | offers found stage use takes =>
    exact ⟨forall_setCall refused (by simp [CallStage.errand?]), more takes.told⟩
  | @leaves i call errand found stage =>
    have own := refused call (List.mem_of_getElem? found)
    rw [stage] at own
    exact ⟨forall_setCall refused own, abandoned⟩
  | @returns i call errand found stage =>
    have own := refused call (List.mem_of_getElem? found)
    rw [stage] at own
    refine ⟨forall_leave refused, ?_⟩
    intro x mem drops
    rcases List.mem_append.mp mem with old | new
    · obtain ⟨text, told⟩ := abandoned x old drops
      exact ⟨text, List.mem_append_left _ told⟩
    · cases errand with
      | refused c e =>
        cases List.mem_singleton.mp new
        rcases own c e rfl with rfl | ⟨text, rfl⟩
        · simp [Chunk.fail, FileError.forChunk] at drops
        · exact ⟨text, by simp [leave, Errand.answers]⟩
      | queued signal => cases new
      | release => cases new
  | moves found move =>
    exact ⟨refused, more (move.told (sound _ (List.mem_of_getElem? found)))⟩
  | _ => exact ⟨forall_setCall refused (by simp [CallStage.errand?]), abandoned⟩

section Calls

variable {i k : Nat} {call call' : Call}

theorem Attended.open_of_turn (inv : s.Attended) (found : s.calls[i]? = some call)
    (turn : call.stage.hasTurn = true) : s.file.released ≠ true := by
  intro released
  have without := (inv.released released).2 call (List.mem_of_getElem? found)
  rw [turn] at without
  cases without

theorem IsKnown.setCall {file : StreamingFile} (inv : s.IsKnown k)
    (found : s.calls[i]? = some call) (more : ∀ k ∈ call.stale, k ∈ call'.stale)
    (use : s.file.inUse = some k → file.inUse = some k ∨ k ∈ call'.stale)
    (ended : s.file.hasEnded k = true → file.hasEnded k = true) :
    IsKnown { s.setCall i call' with file := file } k := by
  have short := (List.getElem?_eq_some_iff.mp found).1
  have own : call' ∈ (s.setCall i call').calls :=
    List.mem_of_getElem? (List.getElem?_set_self short)
  rcases inv with now | gone | ⟨b, mem, stale⟩ | left
  · exact (use now).imp_right fun stale => .inr (.inl ⟨call', own, stale⟩)
  · exact .inr (.inl (ended gone))
  · right; right; left
    obtain ⟨j, there⟩ := List.mem_iff_getElem?.mp mem
    by_cases same : i = j
    · subst same
      rw [found] at there
      cases there
      exact ⟨call', own, more k stale⟩
    · exact ⟨b, List.mem_of_getElem? ((List.getElem?_set_ne same).trans there), stale⟩
  · exact .inr (.inr (.inr left))

theorem IsKnown.leave {errand : Errand} (inv : s.IsKnown k) (found : s.calls[i]? = some call) :
    (s.leave i call errand).IsKnown k := by
  rcases inv with now | gone | ⟨b, mem, stale⟩ | left
  · exact .inl now
  · exact .inr (.inl gone)
  · by_cases gone : s.hasEnded k = true
    · exact .inr (.inl gone)
    · right; right
      obtain ⟨j, there⟩ := List.mem_iff_getElem?.mp mem
      by_cases same : j = i
      · subst same
        rw [found] at there
        cases there
        right
        simp [SharedFile.leave, stale, gone]
      · exact .inl ⟨b, List.mem_eraseIdx_iff_getElem?.mpr ⟨j, same, there⟩, stale⟩
  · exact .inr (.inr (.inr (List.mem_append_left _ left)))

theorem IsKnown.append {file : StreamingFile} (inv : s.IsKnown k)
    (use : s.file.inUse = some k → file.inUse = some k ∨ k ∈ call.stale)
    (ended : s.file.hasEnded k = true → file.hasEnded k = true) :
    IsKnown { s with file := file, calls := s.calls ++ [call] } k := by
  rcases inv with now | gone | ⟨b, mem, stale⟩ | left
  · exact (use now).imp_right fun stale => .inr (.inl ⟨call, by simp, stale⟩)
  · exact .inr (.inl (ended gone))
  · exact .inr (.inr (.inl ⟨b, List.mem_append_left _ mem, stale⟩))
  · exact .inr (.inr (.inr left))

end Calls

theorem Happens.attended (h : Happens s s') (inv : s.Attended) : s'.Attended := by
  have released := inv.released
  have known := inv.known
  -- a call that has the turn holds a release back, so it may bring a downloader into use
  cases h with
  | stays => exact inv
  | answers counted _ _ =>
    obtain ⟨-, same, use, open_⟩ := StreamingFile.same_of_counted counted
    refine ⟨fun now => ?_, fun k hk => ?_⟩
    · simpa [use] using released (by simpa [open_] using now)
    · have old := known k (by simpa [same] using hk)
      simpa [IsKnown, StreamingFile.hasEnded, same, use] using old
  | enters signal =>
    refine ⟨fun now => ⟨(released now).1, ?_⟩, fun k hk => ?_⟩
    · simp only [List.forall_mem_append, List.forall_mem_singleton]
      exact ⟨(released now).2, rfl⟩
    · exact (known k hk).append .inl id
  | withdraws free =>
    refine ⟨fun _ => ⟨rfl, ?_⟩, fun k hk => ?_⟩
    · simp only [List.forall_mem_append, List.forall_mem_singleton]
      refine ⟨fun call mem => ?_, rfl⟩
      simpa using List.all_eq_true.mp free call mem
    · exact (known k hk).append (fun use => .inr (by simp [use])) id
  | refuses found stage =>
    refine ⟨fun now => ⟨(released now).1, forall_setCall (released now).2 rfl⟩, fun k hk => ?_⟩
    exact (known k hk).setCall found (by simp) .inl id
  | chooses found stage open_ =>
    refine ⟨fun now => absurd now (by simp [setCall, open_]), fun k hk => ?_⟩
    exact (known k hk).setCall found (by simp) .inl id
  | keeps found stage =>
    have open_ := inv.open_of_turn found (by rw [stage]; rfl)
    refine ⟨fun now => absurd now open_, fun k hk => ?_⟩
    exact (known k hk).setCall found (by simp) .inl id
  | launches found stage =>
    have open_ := inv.open_of_turn found (by rw [stage]; rfl)
    refine ⟨fun now => absurd now open_, fun k hk => ?_⟩
    by_cases newest : k = s.file.downloaders.length
    · exact .inl (by rw [newest]; rfl)
    · have old : k < s.file.downloaders.length := by
        simp only [StreamingFile.launch, List.length_append, List.length_singleton] at hk
        omega
      refine (known k old).setCall found (fun _ => List.mem_append_left _)
        (fun use => .inr (by simp [use])) fun ended => ?_
      rw [StreamingFile.hasEnded, StreamingFile.launch, List.getElem?_append_left old]
      exact ended
  | launchFails found stage =>
    have open_ := inv.open_of_turn found (by rw [stage]; rfl)
    refine ⟨fun now => absurd now open_, fun k hk => ?_⟩
    exact (known k hk).setCall found (fun _ => List.mem_append_left _)
      (fun use => .inr (by simp [use])) id
  | offers found stage use takes =>
    refine ⟨fun now => ⟨(released now).1, forall_setCall (released now).2 rfl⟩, fun k hk => ?_⟩
    have old : k < s.file.downloaders.length := by simpa using hk
    refine (known k old).setCall found (by simp) .inl (StreamingFile.hasEnded_set use ?_)
    intro stopped
    cases takes <;> exact stopped
  | handsBack found stage signal =>
    have open_ := inv.open_of_turn found (by rw [stage]; rfl)
    refine ⟨fun now => absurd now open_, fun k hk => ?_⟩
    exact (known k hk).setCall found (by simp) .inl id
  | leaves found stage =>
    refine ⟨fun now => ⟨(released now).1, forall_setCall (released now).2 rfl⟩, fun k hk => ?_⟩
    have old : k < s.file.downloaders.length := by simpa [StreamingFile.stopAll] using hk
    refine (known k old).setCall found (by simp) .inl fun ended => ?_
    rw [StreamingFile.hasEnded_stopAll, ended]
  | returns found stage =>
    exact ⟨fun now => ⟨(released now).1, forall_leave (released now).2⟩,
      fun k hk => (known k hk).leave found⟩
  | moves found move =>
    refine ⟨released, fun k hk => ?_⟩
    have old : k < s.file.downloaders.length := by simpa using hk
    exact (known k old).imp_right (Or.imp_left (StreamingFile.hasEnded_set found move.stopped))

/-- Calls from within signals are made by known downloaders, and no others are left to themselves. -/
structure CalledBy (known : Nat → Prop) (s : SharedFile) : Prop where
  calls : ∀ call ∈ s.calls, ∀ k, call.caller = some k → known k
  unattended : ∀ k ∈ s.unattended, known k

section Callers

variable {known : Nat → Prop} {i : Nat} {call : Call}

theorem CalledBy.keep (h : s.CalledBy known) (calls : s'.calls = s.calls)
    (unattended : s'.unattended = s.unattended) : s'.CalledBy known := by
  refine ⟨?_, ?_⟩
  · rw [calls]
    exact h.calls
  · rw [unattended]
    exact h.unattended

theorem CalledBy.set (h : s.CalledBy known) (found : s.calls[i]? = some call) {call' : Call}
    (calls : s'.calls = s.calls.set i call') (unattended : s'.unattended = s.unattended)
    (same : call'.caller = call.caller) : s'.CalledBy known := by
  have new : ∀ k, call'.caller = some k → known k := by
    rw [same]
    exact h.calls call (List.mem_of_getElem? found)
  have set : (s.setCall i call').CalledBy known := ⟨forall_setCall h.calls new, h.unattended⟩
  exact set.keep calls unattended

/-- A call does not return before the downloaders that it waits for have ended. It waits for all
but the one that has made it. -/
theorem CalledBy.leave (h : s.CalledBy known) (found : s.calls[i]? = some call) (errand : Errand)
    (waited : ∀ k ∈ call.stale, s.hasEnded k = true ∨ call.caller = some k) :
    (s.leave i call errand).CalledBy known := by
  refine ⟨forall_leave h.calls, ?_⟩
  intro k mem
  rcases List.mem_append.mp mem with old | new
  · exact h.unattended k old
  · obtain ⟨stale, running⟩ := List.mem_filter.mp new
    rcases waited k stale with ended | own
    · simp [ended] at running
    · exact h.calls call (List.mem_of_getElem? found) k own

theorem CalledBy.append (h : s.CalledBy known) (calls : s'.calls = s.calls ++ [call])
    (unattended : s'.unattended = s.unattended) (who : ∀ k, call.caller = some k → known k) :
    s'.CalledBy known := by
  refine ⟨?_, ?_⟩
  · rw [calls]
    simp only [List.forall_mem_append, List.forall_mem_singleton]
    exact ⟨h.calls, who⟩
  · rw [unattended]
    exact h.unattended

theorem CalledBy.offer (h : s.CalledBy known) (found : s.calls[i]? = some call) (c : Chunk) :
    (s.offer i call c).CalledBy known := by
  unfold SharedFile.offer
  cases s.file.offer c with
  | error c' => exact h.set found rfl rfl rfl
  | ok accepted => exact h.set found rfl rfl rfl

theorem CalledBy.advance (h : s.CalledBy known) (i : Nat) : (s.advance i).CalledBy known := by
  unfold SharedFile.advance
  cases found : s.calls[i]? with
  | none => exact h
  | some call =>
    dsimp only
    cases stage : call.stage with
    | entering c =>
      dsimp only
      split
      · exact h
      · split <;> exact h.set found rfl rfl rfl
    | choosing c => exact h.set found rfl rfl rfl
    | offering c => exact h.offer found c
    | leaving errand => exact h.set found rfl rfl rfl
    | joining errand =>
      dsimp only
      split
      · rename_i waited
        apply h.leave found errand
        intro k stale
        simpa using List.all_eq_true.mp waited k stale
      · exact h

theorem CalledBy.ask (h : s.CalledBy known) {caller : Option Nat} (first limit : Nat)
    (who : ∀ k, caller = some k → known k) : (s.ask caller first limit).CalledBy known := by
  unfold SharedFile.ask
  dsimp only
  split
  · exact h.keep rfl rfl
  · split
    · exact h.keep rfl rfl
    · split
      · exact h.keep rfl rfl
      · exact h.append rfl rfl who

theorem CalledBy.launchFails (h : s.CalledBy known) (i : Nat) (text : String) :
    (s.launchFails i text).CalledBy known := by
  unfold SharedFile.launchFails
  cases found : s.calls[i]? with
  | none => exact h
  | some call =>
    dsimp only
    split
    · split
      · exact h
      · exact h.set found rfl rfl rfl
    · exact h

theorem CalledBy.step (h : s.CalledBy known) (x : Happening)
    (who : ∀ k, x.caller? = some k → known k) : (s.step x).CalledBy known := by
  cases x with
  | ask caller first limit => exact h.ask first limit who
  | release caller =>
    simp only [SharedFile.step, SharedFile.release]
    split
    · exact h.append rfl rfl who
    · exact h
  | advance i => exact h.advance i
  | launchFails i text => exact h.launchFails i text
  | move k e => exact h.keep rfl rfl

theorem calledBy_run (xs : List Happening) (h : s.CalledBy known)
    (who : ∀ x ∈ xs, ∀ k, x.caller? = some k → known k) : (s.run xs).CalledBy known := by
  induction xs generalizing s with
  | nil => exact h
  | cons x rest ih =>
    obtain ⟨first, later⟩ := List.forall_mem_cons.mp who
    exact ih (h.step x first) later

end Callers

end SharedFile

end RangeFetch
