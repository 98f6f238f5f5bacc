import RangeFetch.Proofs.File.Apart
import RangeFetch.Proofs.File.ExactlyOnce

namespace RangeFetch

section Offers

variable {f : StreamingFile} {c : Chunk} {d : Downloader} {k : Nat}

theorem StreamingFile.offer_of_accepting (use : f.inUse = some k)
    (there : f.downloaders[k]? = some d) (within : c.cursor < d.identity.size)
    (accepting : d.queue.isClosed = false) :
    f.offer c = .ok ({ f with
      downloaders := f.downloaders.set k { d with
        queue := { d.queue with
          pending := ChunkQueue.insert (c.clampTo d.queue.fileSize) d.queue.pending } } }, []) := by
  have inside := Nat.not_le.mpr within
  simp [offer, use, there, Downloader.enqueue, inside, ChunkQueue.enqueue_of_open c accepting]

theorem StreamingFile.offer_of_closed (use : f.inUse = some k)
    (there : f.downloaders[k]? = some d) (within : c.cursor < d.identity.size)
    (closed : d.queue.isClosed = true) : f.offer c = .error (c.clampTo d.queue.fileSize) := by
  have inside := Nat.not_le.mpr within
  simp [offer, use, there, Downloader.enqueue, inside, ChunkQueue.enqueue_of_closed c closed]

end Offers

theorem CallStage.unqueued?_of_errand {stage : CallStage} {errand : Errand}
    (h : stage.errand? = some errand) : stage.unqueued? = none := by
  cases stage with
  | leaving errand => rfl
  | joining errand => rfl
  | _ => cases h

theorem CallStage.signal?_of_unqueued {stage : CallStage} {c : Chunk}
    (h : stage.unqueued? = some c) : stage.signal? = some c.signal := by
  cases stage with
  | leaving errand => cases h
  | joining errand => cases h
  | _ =>
    cases h
    rfl

theorem CallStage.ahead_pos (stage : CallStage) : 0 < stage.ahead := by
  cases stage <;> exact Nat.succ_pos _

namespace SharedFile

variable {s s' : SharedFile} {c : Chunk} {i n : Nat} {x : Happening} {call : Call}

theorem mem_callsOf (found : s.calls[i]? = some call) (own : call.stage.signal? = some n) :
    call ∈ s.callsOf n :=
  List.mem_filter.mpr ⟨List.mem_of_getElem? found, by simp [own]⟩

section OnlyCall

variable {z : Call} (found : s.calls[i]? = some call) (own : call.stage.signal? = some n)
  (only : s.callsOf n = [z])

include found own only

theorem callsOf_setCall {call' : Call} (signal : call'.stage.signal? = some n) :
    (s.setCall i call').callsOf n = [call'] :=
  (split_at_only found (by simp [own]) only).2.1 call' (by simp [signal])

theorem callsOf_leave (errand : Errand) : (s.leave i call errand).callsOf n = [] :=
  (split_at_only found (by simp [own]) only).2.2

end OnlyCall

section Standing

variable (stands : s.Stands c) (found : s.calls[i]? = some call)
  (own : call.stage.signal? = some c.signal)

include stands found own

theorem Stands.of_unqueued {c' : Chunk} (hand : call.stage.unqueued? = some c') :
    s.callsOf c.signal = [call] ∧ c'.clampTo s.file.identity.size = c ∧
      (call.stage = .offering c' → s.file.inUse ≠ none) ∧
      s.takersOf c.signal = [] ∧ s.answersOf c.signal = [] := by
  have mem := mem_callsOf found own
  cases stands with
  | inHand calls hand' clamped offered takers answers =>
    rw [calls] at mem
    cases List.mem_singleton.mp mem
    cases hand.symm.trans hand'
    exact ⟨calls, clamped, offered, takers, answers⟩
  | queued calls errand takers answers =>
    rw [calls] at mem
    cases List.mem_singleton.mp mem
    rw [CallStage.unqueued?_of_errand errand] at hand
    cases hand
  | returned calls takers answers =>
    rw [calls] at mem
    cases mem

theorem Stands.of_errand {errand : Errand} (has : call.stage.errand? = some errand) :
    errand = .queued c.signal ∧ s.callsOf c.signal = [call] ∧
      (∃ k, s.takersOf c.signal = [k]) ∧ s.answersOf c.signal = [] := by
  have mem := mem_callsOf found own
  cases stands with
  | inHand calls hand clamped offered takers answers =>
    rw [calls] at mem
    cases List.mem_singleton.mp mem
    rw [CallStage.unqueued?_of_errand has] at hand
    cases hand
  | queued calls has' takers answers =>
    rw [calls] at mem
    cases List.mem_singleton.mp mem
    cases has.symm.trans has'
    exact ⟨rfl, calls, ⟨_, takers⟩, answers⟩
  | returned calls takers answers =>
    rw [calls] at mem
    cases mem

end Standing

/-- What holds while the call for a chunk goes on. -/
structure Pursued (identity : FileIdentity) (c : Chunk) (s : SharedFile) : Prop where
  kept : s.Kept
  once : s.AnsweredOnce
  housed : s.Housed identity
  turns : s.turns ≤ 1
  released : s.file.released = false
  within : c.cursor < identity.size
  stands : s.Stands c

variable {identity : FileIdentity}

theorem attends_choosing {c' : Chunk} (found : s.calls[i]? = some call)
    (stage : call.stage = .choosing c') :
    Attends s c i { s.setCall i
        { call with stage := .offering c', stale := call.stale ++ s.file.stale?.toList } with
      file := s.file.renew } := by
  unfold StreamingFile.stale? StreamingFile.renew
  by_cases served : s.file.isServed = true
  · rw [if_pos served, if_pos served]
    obtain ⟨d, current, running⟩ := (Option.any_eq_true _ _).mp served
    obtain ⟨k, use, there⟩ := Option.bind_eq_some_iff.mp current
    simpa [setCall] using Attends.keeps (c := c) found stage use there (by simpa using running)
  · rw [if_neg served, if_neg served]
    refine .launches found stage fun d current => ?_
    simpa [StreamingFile.isServed, current] using served

section Steps

variable (inv : s.Pursued identity c) (found : s.calls[i]? = some call)
  (own : call.stage.signal? = some c.signal)

include inv found own

theorem Pursued.attends_offering {c' : Chunk} (stage : call.stage = .offering c') :
    Attends s c i (s.offer i call c') := by
  obtain ⟨-, clamped, offered, -⟩ := inv.stands.of_unqueued found own (by rw [stage]; rfl)
  obtain ⟨k, use⟩ := Option.ne_none_iff_exists'.mp (offered stage)
  obtain ⟨d, there⟩ : ∃ d, s.file.downloaders[k]? = some d :=
    ⟨_, List.getElem?_eq_getElem (inv.housed.place k use)⟩
  have mem := List.mem_of_getElem? there
  have house : d.identity = s.file.identity :=
    (inv.housed.downloaders d mem).trans inv.housed.file.symm
  have size : d.queue.fileSize = s.file.identity.size := by
    rw [(inv.kept.sound d mem).fileSize, house]
  have within : c'.cursor < d.identity.size := by
    rw [← c'.cursor_clampTo, clamped, inv.housed.downloaders d mem]
    exact inv.within
  have signal : c'.signal = c.signal := by rw [← clamped]; rfl
  cases closed : d.queue.isClosed with
  | false =>
    have place : s.file.inUse.toList.map (·, c'.signal) = [(k, c.signal)] := by
      rw [use, signal]
      rfl
    rw [offer, StreamingFile.offer_of_accepting use there within closed, size, clamped]
    dsimp only
    rw [place, signal, List.append_nil]
    exact .queues found stage use there closed
  | true =>
    rw [offer, StreamingFile.offer_of_closed use there within closed, size, clamped]
    exact .handedBack found stage use there closed

theorem Pursued.attends : Attends s c i (s.advance i) := by
  unfold advance
  rw [found]
  dsimp only
  cases stage : call.stage with
  | entering c' =>
    dsimp only
    by_cases free : s.isFree = true
    · rw [if_neg (by simp [free]), if_neg (by simp [inv.released])]
      exact .enters found stage free
    · rw [if_pos (by simpa using free)]
      exact .waits found (by simpa [isHeldUp, stage] using free)
  | choosing c' => exact attends_choosing found stage
  | offering c' => exact inv.attends_offering found own stage
  | leaving errand =>
    obtain ⟨rfl, -⟩ := inv.stands.of_errand found own (by rw [stage]; rfl)
    exact .leaves found stage
  | joining errand =>
    obtain ⟨rfl, -⟩ := inv.stands.of_errand found own (by rw [stage]; rfl)
    dsimp only
    split
    · rename_i ended
      exact .returns found stage (by simpa [isHeldUp, stage] using ended)
    · rename_i running
      exact .waits found (by simpa [isHeldUp, stage] using running)

end Steps

theorem Attends.fired (h : Attends s c i s') : s'.fired = s.fired := by
  cases h with
  | returns found stage ended => exact List.append_nil _
  | _ => rfl

theorem Stands.inHand_setCall {c' c'' : Chunk} {call' : Call} {file : StreamingFile}
    (stands : s.Stands c) (found : s.calls[i]? = some call)
    (own : call.stage.signal? = some c.signal) (hand : call.stage.unqueued? = some c')
    (hand' : call'.stage.unqueued? = some c'') (clamped : c''.clampTo s.file.identity.size = c)
    (offered : call'.stage = .offering c'' → file.inUse ≠ none)
    (same : file.identity = s.file.identity) :
    Stands { s.setCall i call' with file := file } c := by
  obtain ⟨only, -, -, takers, answers⟩ := stands.of_unqueued found own hand
  have own' : call'.stage.signal? = some c.signal := by
    rw [CallStage.signal?_of_unqueued hand', ← clamped]
    rfl
  exact .inHand (callsOf_setCall found own only own') hand' (by rw [same, clamped]) offered takers
    answers

theorem Attends.stands (h : Attends s c i s') (stands : s.Stands c)
    (own : ∀ call, s.calls[i]? = some call → call.stage.signal? = some c.signal) :
    s'.Stands c := by
  cases h with
  | waits => exact stands
  | enters found stage free =>
    have hand := congrArg CallStage.unqueued? stage
    obtain ⟨-, clamped, -⟩ := stands.of_unqueued found (own _ found) hand
    exact stands.inHand_setCall found (own _ found) hand rfl clamped (fun other => by cases other) rfl
  | keeps found stage use there running =>
    have hand := congrArg CallStage.unqueued? stage
    obtain ⟨-, clamped, -⟩ := stands.of_unqueued found (own _ found) hand
    exact stands.inHand_setCall found (own _ found) hand rfl clamped (fun _ => by simp [use]) rfl
  | launches found stage unserved =>
    have hand := congrArg CallStage.unqueued? stage
    obtain ⟨-, clamped, -⟩ := stands.of_unqueued found (own _ found) hand
    exact stands.inHand_setCall found (own _ found) hand rfl clamped (fun _ => nofun) rfl
  | @queues k call c' d found stage use there accepting =>
    obtain ⟨only, -, -, takers, answers⟩ :=
      stands.of_unqueued found (own _ found) (congrArg CallStage.unqueued? stage)
    refine .queued (callsOf_setCall found (own _ found) only rfl) rfl (k := k) ?_ answers
    rw [takersOf, List.map_eq_nil_iff] at takers
    rw [takersOf, List.filter_append, takers]
    simp
  | handedBack found stage use there closed =>
    -- the chunk comes back clamped, and a second clamp changes nothing
    have hand := congrArg CallStage.unqueued? stage
    obtain ⟨-, clamped, -⟩ := stands.of_unqueued found (own _ found) hand
    refine stands.inHand_setCall found (own _ found) hand rfl ?_ (fun other => by cases other) rfl
    rw [← clamped, Chunk.clampTo_clampTo]
  | leaves found stage =>
    obtain ⟨-, only, ⟨k, takers⟩, answers⟩ :=
      stands.of_errand found (own _ found) (congrArg CallStage.errand? stage)
    exact .queued (callsOf_setCall found (own _ found) only rfl) rfl takers answers
  | returns found stage ended =>
    obtain ⟨-, only, ⟨k, takers⟩, answers⟩ :=
      stands.of_errand found (own _ found) (congrArg CallStage.errand? stage)
    refine .returned (callsOf_leave found (own _ found) only _) takers ?_
    rw [answersOf, List.map_eq_nil_iff] at answers
    rw [answersOf, leave, List.filter_append, answers]
    simp [Errand.answers]

section Ahead

theorem isHandedBack_of_unoffered (found : s.calls[i]? = some call)
    (unoffered : ∀ c, call.stage ≠ .offering c) : isHandedBack n s (.advance i) = false := by
  rw [isHandedBack, found, Option.any_some]
  split
  · rename_i stage
    exact absurd stage (unoffered _)
  · rfl

variable {z : Call} (found : s.calls[i]? = some call) (own : call.stage.signal? = some n)

include found own

theorem isHandedBack_of_offering {c : Chunk} {k : Nat} {d : Downloader}
    (stage : call.stage = .offering c) (use : s.file.inUse = some k)
    (there : s.file.downloaders[k]? = some d) :
    isHandedBack n s (.advance i) = d.queue.isClosed := by
  have signal : c.signal = n := by simpa [stage, CallStage.signal?] using own
  simp [isHandedBack, found, stage, signal, StreamingFile.current?, use, there]

theorem goesOn_advance : goesOn n s (.advance i) = !s.isHeldUp call := by
  simp [goesOn, found, own]

variable (only : s.callsOf n = [z])

include only

theorem aheadOf_setCall {call' : Call} {handed : Bool} (signal : call'.stage.signal? = some n)
    (free : s.isHeldUp call = false) (back : isHandedBack n s (.advance i) = handed)
    (steps : 1 + call'.stage.ahead = call.stage.ahead + 2 * handed.toNat) :
    (goesOn n s (.advance i)).toNat + (s.setCall i call').aheadOf n =
      s.aheadOf n + 2 * (isHandedBack n s (.advance i)).toNat := by
  obtain ⟨rfl, -⟩ := split_at_only found (by simp [own]) only
  rw [goesOn_advance found own, free, back, aheadOf, aheadOf, callsOf_setCall found own only signal,
    only]
  exact steps

theorem aheadOf_leave (errand : Errand) (stage : call.stage = .joining errand)
    (free : s.isHeldUp call = false) :
    (goesOn n s (.advance i)).toNat + (s.leave i call errand).aheadOf n =
      s.aheadOf n + 2 * (isHandedBack n s (.advance i)).toNat := by
  obtain ⟨rfl, -⟩ := split_at_only found (by simp [own]) only
  rw [goesOn_advance found own, free, isHandedBack_of_unoffered found (by simp [stage]), aheadOf,
    aheadOf, callsOf_leave found own only, only]
  simp only [sumOf_nil, sumOf_cons, stage]
  rfl

end Ahead

/-- A step that is not held up brings the call one step further, or one back where the chunk is
handed back. -/
theorem Attends.aheadOf (h : Attends s c i s') (stands : s.Stands c)
    (own : ∀ call, s.calls[i]? = some call → call.stage.signal? = some c.signal) :
    (goesOn c.signal s (.advance i)).toNat + s'.aheadOf c.signal =
      s.aheadOf c.signal + 2 * (isHandedBack c.signal s (.advance i)).toNat := by
  cases h with
  | @waits call found held =>
    have unoffered : ∀ c, call.stage ≠ .offering c := by
      intro c stage
      simp [isHeldUp, stage] at held
    rw [goesOn_advance found (own _ found), held, isHandedBack_of_unoffered found unoffered]
    exact Nat.zero_add _
  | @enters call c' found stage free =>
    have mine := own call found
    obtain ⟨only, -⟩ := stands.of_unqueued found mine (congrArg CallStage.unqueued? stage)
    refine aheadOf_setCall found mine only (by rw [← mine, stage]; rfl) ?_
      (isHandedBack_of_unoffered found (by simp [stage])) (by rw [stage]; rfl)
    simp [isHeldUp, stage, free]
  | @keeps k call c' d found stage use there running =>
    have mine := own call found
    obtain ⟨only, -⟩ := stands.of_unqueued found mine (congrArg CallStage.unqueued? stage)
    exact aheadOf_setCall found mine only (by rw [← mine, stage]; rfl) (by rw [isHeldUp, stage])
      (isHandedBack_of_unoffered found (by simp [stage])) (by rw [stage]; rfl)
  | @launches call c' found stage unserved =>
    have mine := own call found
    obtain ⟨only, -⟩ := stands.of_unqueued found mine (congrArg CallStage.unqueued? stage)
    exact aheadOf_setCall found mine only (by rw [← mine, stage]; rfl) (by rw [isHeldUp, stage])
      (isHandedBack_of_unoffered found (by simp [stage])) (by rw [stage]; rfl)
  | @queues k call c' d found stage use there accepting =>
    have mine := own call found
    obtain ⟨only, -⟩ := stands.of_unqueued found mine (congrArg CallStage.unqueued? stage)
    exact aheadOf_setCall found mine only rfl (by rw [isHeldUp, stage])
      ((isHandedBack_of_offering found mine stage use there).trans accepting) (by rw [stage]; rfl)
  | @handedBack k call c' d found stage use there closed =>
    have mine := own call found
    obtain ⟨only, -⟩ := stands.of_unqueued found mine (congrArg CallStage.unqueued? stage)
    exact aheadOf_setCall found mine only rfl (by rw [isHeldUp, stage])
      ((isHandedBack_of_offering found mine stage use there).trans closed) (by rw [stage]; rfl)
  | @leaves call found stage =>
    have mine := own call found
    obtain ⟨-, only, -⟩ := stands.of_errand found mine (congrArg CallStage.errand? stage)
    exact aheadOf_setCall found mine only rfl (by rw [isHeldUp, stage])
      (isHandedBack_of_unoffered found (by simp [stage])) (by rw [stage]; rfl)
  | @returns call found stage ended =>
    have mine := own call found
    obtain ⟨-, only, -⟩ := stands.of_errand found mine (congrArg CallStage.errand? stage)
    exact aheadOf_leave found mine only _ stage ended

theorem timesCalled_eq (s : SharedFile) (n : Nat) : s.timesCalled n = (s.callsOf n).length :=
  List.countP_eq_length_filter

theorem timesAnswered_eq (s : SharedFile) (n : Nat) :
    s.timesAnswered n = (s.answersOf n).length := by
  rw [answersOf, List.length_map]
  exact List.countP_eq_length_filter

theorem Stands.asked (stands : s.Stands c) (once : s.AnsweredOnce) :
    c.signal < s.asked.length := by
  have total := once c.signal
  rw [timesAnswered_eq, timesCalled_eq] at total
  by_cases asked : c.signal < s.asked.length
  · exact asked
  · rw [if_neg asked] at total
    cases stands with
    | inHand calls hand clamped offered takers answers => simp [calls] at total
    | queued calls errand takers answers => simp [calls] at total
    | returned calls takers answers => simp [answers] at total

theorem Pursued.attends_of_own (inv : s.Pursued identity c) (harmless : x.isHarmless = true)
    (own : s.signalOf? x = some c.signal) :
    ∃ i, x = .advance i ∧
      (∀ call, s.calls[i]? = some call → call.stage.signal? = some c.signal) ∧
      Attends s c i (s.step x) := by
  cases x with
  | ask caller first limit =>
    have asked := inv.stands.asked inv.once
    rw [← Option.some.inj own] at asked
    exact absurd asked (Nat.lt_irrefl _)
  | release caller => cases own
  | advance i =>
    obtain ⟨call, found, mine⟩ := Option.bind_eq_some_iff.mp own
    refine ⟨i, rfl, fun call' found' => ?_, inv.attends found mine⟩
    cases found.symm.trans found'
    exact mine
  | launchFails i text => cases harmless
  | move k e => cases own

theorem Stands.of_apart (stands : s.Stands c) (apart : Apart c.signal s s')
    (same : s'.file.identity = s.file.identity)
    (slot : ∀ call ∈ s.callsOf c.signal, call.stage.hasTurn = true →
      s'.file.inUse = s.file.inUse) : s'.Stands c := by
  obtain ⟨calls, takers, answers⟩ := apart
  cases stands with
  | @inHand call c' calls' hand clamped offered takers' answers' =>
    refine .inHand (calls.trans calls') hand (by rw [same, clamped]) (fun stage => ?_)
      (takers.trans takers') (answers.trans answers')
    have mem : call ∈ s.callsOf c.signal := by rw [calls']; exact List.mem_singleton_self _
    rw [slot call mem (by rw [stage]; rfl)]
    exact offered stage
  | queued calls' errand takers' answers' =>
    exact .queued (calls.trans calls') errand (takers.trans takers') (answers.trans answers')
  | returned calls' takers' answers' =>
    exact .returned (calls.trans calls') (takers.trans takers') (answers.trans answers')

theorem goesOn_of_other (other : s.signalOf? x ≠ some n) : goesOn n s x = false := by
  cases x with
  | advance i =>
    rw [signalOf?] at other
    cases found : s.calls[i]? with
    | none => simp [goesOn, found]
    | some call => simp_all [goesOn]
  | _ => rfl

theorem isHandedBack_of_other (other : s.signalOf? x ≠ some n) : isHandedBack n s x = false := by
  cases x with
  | advance i =>
    rw [signalOf?] at other
    cases found : s.calls[i]? with
    | none => simp [isHandedBack, found]
    | some call =>
      rw [found, Option.bind_some] at other
      cases stage : call.stage with
      | offering c =>
        have apart : c.signal ≠ n := by simpa [stage, CallStage.signal?] using other
        simp [isHandedBack, found, stage, apart]
      | _ => simp [isHandedBack, found, stage]
  | _ => rfl

theorem Pursued.step (inv : s.Pursued identity c) (harmless : x.isHarmless = true) :
    (s.step x).Pursued identity c ∧
      (goesOn c.signal s x).toNat + (s.step x).aheadOf c.signal =
        s.aheadOf c.signal + 2 * (isHandedBack c.signal s x).toNat := by
  have housed := (s.step_happens x).housed inv.housed
  have keep (stands : (s.step x).Stands c) : (s.step x).Pursued identity c :=
    ⟨(s.step_happens x).kept inv.kept, (s.step_acts x).answeredOnce inv.once, housed,
      turns_le_one_step inv.turns x, (released_of_harmless harmless).trans inv.released, inv.within,
      stands⟩
  by_cases own : s.signalOf? x = some c.signal
  · obtain ⟨i, rfl, mine, attends⟩ := inv.attends_of_own harmless own
    exact ⟨keep (attends.stands inv.stands mine), attends.aheadOf inv.stands mine⟩
  · have apart := apart_step own
    refine ⟨keep (inv.stands.of_apart apart (housed.file.trans inv.housed.file.symm) ?_), ?_⟩
    · intro call mem turn
      exact inUse_of_turn inv.turns mem turn own
    · rw [goesOn_of_other own, isHandedBack_of_other own, SharedFile.aheadOf, apart.calls]
      exact Nat.zero_add _

/-- Over a run, the steps that are not held up and those still ahead make up for the ones to begin
with and for the hand-backs, each of which costs two. -/
theorem Pursued.run (xs : List Happening) (inv : s.Pursued identity c)
    (harmless : ∀ x ∈ xs, x.isHarmless = true) :
    (s.run xs).Pursued identity c ∧
      s.howMany (goesOn c.signal) xs + (s.run xs).aheadOf c.signal =
        s.aheadOf c.signal + 2 * s.howMany (isHandedBack c.signal) xs := by
  induction xs generalizing s with
  | nil => exact ⟨inv, Nat.zero_add _⟩
  | cons x rest ih =>
    obtain ⟨first, later⟩ := List.forall_mem_cons.mp harmless
    obtain ⟨inv', now⟩ := inv.step first
    obtain ⟨inv'', rest'⟩ := ih inv' later
    refine ⟨inv'', ?_⟩
    rw [howMany, howMany, SharedFile.run]
    omega

theorem Stands.answersOf_eq_iff (stands : s.Stands c) :
    s.answersOf c.signal = [.ok ()] ↔ s.aheadOf c.signal = 0 := by
  cases stands with
  | @inHand call c' calls hand clamped offered takers answers =>
    have pos := call.stage.ahead_pos
    simp only [answers, aheadOf, calls, sumOf_nil, sumOf_cons]
    constructor
    · rintro ⟨⟩
    · omega
  | @queued call k calls errand takers answers =>
    have pos := call.stage.ahead_pos
    simp only [answers, aheadOf, calls, sumOf_nil, sumOf_cons]
    constructor
    · rintro ⟨⟩
    · omega
  | returned calls takers answers => simp [answers, aheadOf, calls]

end SharedFile

end RangeFetch
