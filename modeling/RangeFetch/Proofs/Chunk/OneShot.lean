import RangeFetch.Chunk.OneShot

namespace RangeFetch

open Handover (Answer)

namespace CompletionSignal

theorem fire_eq (result : Completion) (ch : Channel) :
    (⟨true⟩ : CompletionSignal).fire result ch = ch.send result := rfl

end CompletionSignal

namespace Channel

open OneShot (told due)

/-- Nothing has been seen, or first what was fired with and then only that there is no more. -/
def Once (fired : Option Completion) (seen : List Completion) : Prop :=
  seen = [] ∨ ∃ r n, fired = some r ∧ seen = r :: List.replicate n (.failed .abandoned)

/-- How a channel stands, by what was fired with and what its receiver has asked and seen. -/
inductive Stands : Option Completion → List Observation → List Completion → Channel → Prop where
  | held {fired : Option Completion} {asked : List Observation} (outside : .wait ∉ asked) :
      Stands fired asked [] ⟨fired.isNone, fired, .held⟩
  | waiting {fired : Option Completion} {asked : List Observation} (inside : .wait ∈ asked) :
      Stands fired asked [] ⟨fired.isNone, fired, .waiting⟩
  | finished {r : Completion} {asked : List Observation} (n : Nat) :
      Stands (some r) asked (r :: List.replicate n (.failed .abandoned)) ⟨false, none, .finished⟩
  | gone {fired : Option Completion} {asked : List Observation} {seen : List Completion}
      (left : .drop ∈ asked ∨ .wait ∈ asked ∧ seen ≠ []) (once : Once fired seen) :
      Stands fired asked seen ⟨fired.isNone, none, .gone⟩

variable {fired : Option Completion} {asked : List Observation} {seen : List Completion}
  {ch : Channel}

theorem Stands.once (stands : Stands fired asked seen ch) : Once fired seen := by
  cases stands with
  | held _ => exact .inl rfl
  | waiting _ => exact .inl rfl
  | finished n => exact .inr ⟨_, n, rfl, rfl⟩
  | gone _ once => exact once

theorem Stands.send (stands : Stands none asked seen ch) (r : Completion) :
    Stands (some r) asked seen (ch.send r) := by
  cases stands with
  | held outside => exact .held outside
  | waiting inside => exact .waiting inside
  | gone left once =>
    -- without a firing nothing can have been seen
    obtain rfl | ⟨_, _, fired, -⟩ := once
    · exact .gone left (.inl rfl)
    · cases fired

theorem Stands.ask (stands : Stands fired asked seen ch) {act : Observation}
    (other : ch.receiver = .held → act ≠ .wait) : Stands fired (asked ++ [act]) seen ch := by
  cases stands with
  | held outside =>
    refine .held fun mem => ?_
    obtain early | last := List.mem_append.mp mem
    · exact outside early
    · exact other rfl (List.mem_singleton.mp last).symm
  | waiting inside => exact .waiting (List.mem_append_left _ inside)
  | finished n => exact .finished n
  | gone left once =>
    exact .gone (left.imp (List.mem_append_left _) (And.imp_left (List.mem_append_left _))) once

theorem Stands.observe (stands : Stands fired asked seen ch) (act : Observation) :
    Stands fired (asked ++ [act]) (seen ++ (told (ch.observe act).1).toList)
      (ch.observe act).2 := by
  have now : act ∈ asked ++ [act] := List.mem_append_right _ List.mem_cons_self
  -- most acts show no result and leave the channel as it is
  have same (nothing : told (ch.observe act).1 = none) (stays : (ch.observe act).2 = ch)
      (other : ch.receiver = .held → act ≠ .wait) :
      Stands fired (asked ++ [act]) (seen ++ (told (ch.observe act).1).toList)
        (ch.observe act).2 := by
    rw [nothing, stays, Option.toList_none, List.append_nil]
    exact stands.ask other
  cases stands with
  | held outside =>
    cases act with
    | tryResult =>
      cases fired with
      | none => exact same rfl rfl nofun
      | some r => exact .finished 0
    | poll =>
      cases fired with
      | none => exact same rfl rfl nofun
      | some r => exact .finished 0
    | wait =>
      cases fired with
      | none => exact .waiting now
      | some r => exact .gone (.inr ⟨now, nofun⟩) (.inr ⟨r, 0, rfl, rfl⟩)
    | wake => exact same rfl rfl nofun
    | drop => exact .gone (.inl now) (.inl rfl)
  | waiting inside =>
    cases act with
    | wake =>
      cases fired with
      | none => exact same rfl rfl nofun
      | some r =>
        exact .gone (.inr ⟨List.mem_append_left _ inside, nofun⟩) (.inr ⟨r, 0, rfl, rfl⟩)
    | _ => exact same rfl rfl nofun
  | @finished r _ n =>
    cases act with
    | tryResult =>
      have more : r :: List.replicate n (.failed .abandoned) ++ [.failed .abandoned] =
          r :: List.replicate (n + 1) (.failed .abandoned) := by
        rw [List.cons_append, ← List.replicate_succ']
      change Stands _ _ (r :: List.replicate n (.failed .abandoned) ++ [.failed .abandoned]) _
      rw [more]
      exact .finished (n + 1)
    | drop =>
      change Stands _ _ (r :: List.replicate n (.failed .abandoned) ++ []) _
      rw [List.append_nil]
      exact .gone (.inl now) (.inr ⟨r, n, rfl, rfl⟩)
    | _ => exact same rfl rfl nofun
  | gone left once => cases act <;> exact same rfl rfl nofun

theorem Stands.tryResult (stands : Stands fired asked seen ch) (kept : .drop ∉ asked)
    (outside : .wait ∉ asked) : (ch.observe .tryResult).1 = due fired seen := by
  cases stands with
  | held _ => cases fired <;> rfl
  | waiting inside => exact absurd inside outside
  | finished n => rfl
  | gone left _ => exact (left.elim kept fun waited => outside waited.1).elim

theorem Stands.poll (stands : Stands fired asked [] ch) (kept : .drop ∉ asked)
    (outside : .wait ∉ asked) :
    (ch.observe .poll).1 = due fired [] ∧ (ch.observe .wait).1 = due fired [] := by
  cases stands with
  | held _ => cases fired <;> exact ⟨rfl, rfl⟩
  | waiting inside => exact absurd inside outside
  | gone left _ => exact (left.elim kept fun waited => outside waited.1).elim

theorem Stands.wake (stands : Stands fired asked [] ch) (kept : .drop ∉ asked)
    (inside : .wait ∈ asked) : (ch.observe .wake).1 = due fired [] := by
  cases stands with
  | held outside => exact absurd inside outside
  | waiting _ => cases fired <;> rfl
  | gone left _ => exact (left.elim kept fun waited => waited.2 rfl).elim

end Channel

namespace OneShot

variable {start limit : Nat} {worked : List (Chunk.Work × Answer)} {s : OneShot}

/-- What the chunk's side has left, by what was done to it. -/
inductive Tells (start limit : Nat) (worked : List (Chunk.Work × Answer)) :
    Option (Chunk × CompletionSignal) → Prop where
  | alive {c : Chunk} (begins : c.offset = start) (holds : c.buffer = written worked)
      (unfired : fate start limit worked = none) : Tells start limit worked (some (c, ⟨true⟩))
  | usedUp {r : Completion} (fired : fate start limit worked = some r) :
      Tells start limit worked none

theorem Tells.isSome_eq {left : Option (Chunk × CompletionSignal)}
    (tells : Tells start limit worked left) :
    left.isSome = (fate start limit worked).isNone := by
  cases tells with
  | alive _ _ unfired => rw [unfired]; rfl
  | usedUp fired => rw [fired]; rfl

theorem written_snoc (x : Chunk.Work × Answer) :
    written (worked ++ [x]) = written worked ++ written [x] :=
  List.flatMap_append

theorem written_snoc_of_nil {x : Chunk.Work × Answer} (nothing : written [x] = []) :
    written (worked ++ [x]) = written worked := by
  rw [written_snoc, nothing, List.append_nil]

/-- Which acts fire does not depend on the bytes. -/
theorem firedBy_eq_none {offset : Nat} {data : Bytes} (data' : Bytes) {x : Chunk.Work × Answer}
    (nothing : firedBy offset data x = none) : firedBy offset data' x = none := by
  obtain ⟨act, answer⟩ := x
  cases act with
  | clamp _ => rfl
  | write _ => rfl
  | _ => cases nothing

theorem fate_snoc_of_none (unfired : fate start limit worked = none) (x : Chunk.Work × Answer) :
    fate start limit (worked ++ [x]) = firedBy start (written (worked ++ [x])) x := by
  unfold fate at unfired ⊢
  split at unfired
  · cases unfired
  · rename_i ordered
    -- `x` may add bytes, but the acts before it fire with none
    have still : worked.findSome? (firedBy start (written (worked ++ [x]))) = none :=
      List.findSome?_eq_none_iff.mpr fun y mem =>
        firedBy_eq_none _ (List.findSome?_eq_none_iff.mp unfired y mem)
    rw [if_neg ordered, List.findSome?_append, still, Option.none_or, List.findSome?_singleton]

theorem fate_snoc_refused {r : Completion} (fired : fate start limit worked = some r)
    (act : Chunk.Work) : fate start limit (worked ++ [(act, .notApplicable)]) = some r := by
  unfold fate at fired ⊢
  split at fired
  · rename_i backwards
    rw [if_pos backwards, ← fired]
  · rename_i ordered
    have nothing : written [(act, .notApplicable)] = [] := by
      cases act <;> rfl
    rw [if_neg ordered, written_snoc_of_nil nothing, List.findSome?_append, fired, Option.some_or]

/-- What the channel takes part in an act of the chunk's side. -/
inductive Passes (start limit : Nat) (worked worked' : List (Chunk.Work × Answer))
    (ch : Channel) : Channel → Prop where
  | nothing (same : fate start limit worked' = fate start limit worked) :
      Passes start limit worked worked' ch ch
  | fires {r : Completion} (unfired : fate start limit worked = none)
      (fired : fate start limit worked' = some r) : Passes start limit worked worked' ch (ch.send r)

theorem Passes.stands {worked' : List (Chunk.Work × Answer)} {ch ch' : Channel}
    {asked : List Channel.Observation} {seen : List Completion}
    (passes : Passes start limit worked worked' ch ch')
    (stands : ch.Stands (fate start limit worked) asked seen) :
    ch'.Stands (fate start limit worked') asked seen := by
  cases passes with
  | nothing same => rwa [same]
  | fires unfired fired =>
    rw [unfired] at stands
    rw [fired]
    exact stands.send _

theorem of_fired {x : Chunk.Work × Answer} {r : Completion} {ch : Channel}
    (unfired : fate start limit worked = none)
    (fires : firedBy start (written (worked ++ [x])) x = some r) :
    Tells start limit (worked ++ [x]) none ∧
      Passes start limit worked (worked ++ [x]) ch ((⟨true⟩ : CompletionSignal).fire r ch) := by
  have fired : fate start limit (worked ++ [x]) = some r :=
    (fate_snoc_of_none unfired x).trans fires
  rw [CompletionSignal.fire_eq]
  exact ⟨.usedUp fired, .fires unfired fired⟩

theorem Tells.work (tells : Tells start limit s.worked s.chunk) (act : Chunk.Work) :
    Tells start limit (s.step (.work act)).worked (s.step (.work act)).chunk ∧
      Passes start limit s.worked (s.step (.work act)).worked s.channel
        (s.step (.work act)).channel := by
  obtain ⟨chunk, ch, worked, observed⟩ := s
  cases tells with
  | @alive c begins holds unfired =>
    cases act with
    | clamp fileSize =>
      have still : fate start limit (worked ++ [(.clamp fileSize, .done)]) = none :=
        fate_snoc_of_none unfired _
      exact ⟨.alive begins (holds.trans (written_snoc_of_nil rfl).symm) still,
        .nothing (still.trans unfired.symm)⟩
    | write bytes =>
      have still : fate start limit (worked ++ [(.write bytes, .taken (c.accepts bytes))]) = none :=
        fate_snoc_of_none unfired _
      have taken : written [(.write bytes, .taken (c.accepts bytes))] =
          bytes.take (c.accepts bytes) := List.append_nil _
      have more : (c.write bytes).buffer =
          written (worked ++ [(.write bytes, .taken (c.accepts bytes))]) := by
        rw [c.buffer_write, holds, written_snoc, taken]
      exact ⟨.alive begins more still, .nothing (still.trans unfired.symm)⟩
    | complete =>
      have whole : c.complete.result =
          .served ⟨start, written (worked ++ [(.complete, .done)])⟩ := by
        rw [written_snoc_of_nil rfl, ← holds, ← begins]
        rfl
      exact of_fired unfired (congrArg some whole.symm)
    | fail e => exact of_fired unfired rfl
    | drop => exact of_fired unfired rfl
  | usedUp fired =>
    have still := fate_snoc_refused fired act
    exact ⟨.usedUp still, .nothing (still.trans fired.symm)⟩

structure Sound (start limit : Nat) (s : OneShot) : Prop where
  tells : Tells start limit s.worked s.chunk
  stands : s.channel.Stands (fate start limit s.worked) (s.observed.map (·.1)) s.seen

theorem sound_new (start limit : Nat) : Sound start limit (new start limit) := by
  have before : Channel.fresh.Stands none [] [] := .held nofun
  rcases Nat.lt_or_ge limit start with backwards | ordered
  · have refused : Chunk.request 0 start limit = .error ⟨0, .failed (.invalidRange start limit)⟩ :=
      dif_neg (Nat.not_le_of_lt backwards)
    have fired : fate start limit [] = some (.failed (.invalidRange start limit)) :=
      if_pos backwards
    have made : new start limit =
        ⟨none, Channel.fresh.send (.failed (.invalidRange start limit)), [], []⟩ := by
      rw [new, refused]
      rfl
    rw [made]
    exact ⟨.usedUp fired, fired ▸ before.send _⟩
  · have granted : Chunk.request 0 start limit = .ok ⟨0, start, limit, [], ordered⟩ :=
      dif_pos ordered
    have unfired : fate start limit [] = none := if_neg (Nat.not_lt_of_le ordered)
    have made : new start limit =
        ⟨some (⟨0, start, limit, [], ordered⟩, ⟨true⟩), .fresh, [], []⟩ := by
      rw [new, granted]
    rw [made]
    exact ⟨.alive rfl rfl unfired, unfired ▸ before⟩

theorem seen_observe (s : OneShot) (act : Channel.Observation) :
    (s.step (.observe act)).seen = s.seen ++ (told (s.channel.observe act).1).toList := by
  change (s.observed ++ [(act, (s.channel.observe act).1)]).filterMap (fun x => told x.2) = _
  rw [List.filterMap_append, List.filterMap_cons, List.filterMap_nil]
  cases told (s.channel.observe act).1 <;> rfl

theorem Sound.step (sound : Sound start limit s) (x : Act) : Sound start limit (s.step x) := by
  cases x with
  | work act =>
    obtain ⟨tells, passes⟩ := sound.tells.work act
    exact ⟨tells, passes.stands sound.stands⟩
  | observe act =>
    have asked : (s.step (.observe act)).observed.map (·.1) = s.observed.map (·.1) ++ [act] :=
      List.map_append
    refine ⟨sound.tells, ?_⟩
    rw [asked, seen_observe]
    exact sound.stands.observe act

theorem sound_run (sound : Sound start limit s) (acts : List Act) :
    Sound start limit (s.run acts) := by
  induction acts generalizing s with
  | nil => exact sound
  | cons x rest ih => exact ih (sound.step x)

theorem asked_run (s : OneShot) (acts : List Act) :
    (s.run acts).worked.map (·.1) = s.worked.map (·.1) ++ acts.filterMap Act.work? ∧
      (s.run acts).observed.map (·.1) =
        s.observed.map (·.1) ++ acts.filterMap Act.observation? := by
  induction acts generalizing s with
  | nil => exact ⟨(List.append_nil _).symm, (List.append_nil _).symm⟩
  | cons x rest ih =>
    obtain ⟨works, looks⟩ := ih (s.step x)
    cases x with
    | work act =>
      refine ⟨works.trans ?_, looks⟩
      rw [step, List.map_append, List.append_assoc]
      rfl
    | observe act =>
      refine ⟨works, looks.trans ?_⟩
      rw [step, List.map_append, List.append_assoc]
      rfl

theorem work_of_same_chunk {s' : OneShot} (same : s.chunk = s'.chunk) (act : Chunk.Work) :
    (s.work act).1 = (s'.work act).1 ∧ (s.work act).2.1 = (s'.work act).2.1 := by
  rw [work, work, ← same]
  cases s.chunk with
  | none => exact ⟨rfl, rfl⟩
  | some held => cases act <;> exact ⟨rfl, rfl⟩

theorem run_of_same_chunk {s' : OneShot} (chunk : s.chunk = s'.chunk)
    (worked : s.worked = s'.worked) (acts : List Act) :
    (s.run acts).chunk = (s'.run ((acts.filterMap Act.work?).map .work)).chunk ∧
      (s.run acts).worked = (s'.run ((acts.filterMap Act.work?).map .work)).worked := by
  induction acts generalizing s s' with
  | nil => exact ⟨chunk, worked⟩
  | cons x rest ih =>
    cases x with
    | work act =>
      obtain ⟨answer, left⟩ := work_of_same_chunk chunk act
      refine ih left ?_
      change s.worked ++ [(act, (s.work act).1)] = s'.worked ++ [(act, (s'.work act).1)]
      rw [worked, answer]
    | observe act => exact ih chunk worked

theorem untouched_new (start limit : Nat) :
    (new start limit).worked = [] ∧ (new start limit).observed = [] := by
  unfold new
  split <;> exact ⟨rfl, rfl⟩

/-- A handover as it looks from the two sides, whatever they have been answered. -/
inductive Mirrors : Handover → OneShot → Prop where
  | pending {c : Chunk} {worked observed} :
      Mirrors ⟨some c, .channel, some .waiting, false⟩
        ⟨some (c, ⟨true⟩), ⟨true, none, .held⟩, worked, observed⟩
  | unheard {c : Chunk} {taken worked observed} :
      Mirrors ⟨some c, .channel, none, taken⟩
        ⟨some (c, ⟨true⟩), ⟨true, none, .gone⟩, worked, observed⟩
  | arrived {r : Completion} {worked observed} :
      Mirrors ⟨none, .channel, some (.holding r), false⟩
        ⟨none, ⟨false, some r, .held⟩, worked, observed⟩
  | emptied {worked observed} :
      Mirrors ⟨none, .channel, some .emptied, true⟩
        ⟨none, ⟨false, none, .finished⟩, worked, observed⟩
  | lost {taken worked observed} :
      Mirrors ⟨none, .channel, none, taken⟩ ⟨none, ⟨false, none, .gone⟩, worked, observed⟩

theorem Mirrors.work {h : Handover} (mirrors : Mirrors h s) {x : Handover.Operation}
    {act : Chunk.Work} (works : x.work? = some act) :
    Mirrors (h.step x).2.1 (s.step (.work act)) ∧ (h.step x).1 = (s.work act).1 ∧
      (h.step x).1.isLook = false := by
  cases x <;> cases works <;> cases mirrors <;> exact ⟨by constructor, rfl, rfl⟩

theorem looked_observe (s : OneShot) (act : Channel.Observation) :
    (s.step (.observe act)).looked =
      s.looked ++ [(s.channel.observe act).1].filter (·.isLook) := by
  change ((s.observed ++ [(act, (s.channel.observe act).1)]).map (·.2)).filter _ = _
  rw [List.map_append, List.filter_append]
  rfl

theorem Mirrors.asks {h : Handover} (mirrors : Mirrors h s) {x : Handover.Operation}
    (rests : x.work? = none) :
    Mirrors (h.step x).2.1 (s.run ((h.asks x).map .observe)) ∧
      (s.run ((h.asks x).map .observe)).worked = s.worked ∧
      (s.run ((h.asks x).map .observe)).looked =
        s.looked ++ [(h.step x).1].filter (·.isLook) := by
  cases x with
  | tryResult => cases mirrors <;> exact ⟨by constructor, rfl, looked_observe _ _⟩
  | poll =>
    cases mirrors with
    | pending => exact ⟨.pending, rfl, looked_observe _ _⟩
    | @unheard _ taken =>
      cases taken <;> exact ⟨.unheard, rfl, looked_observe _ _⟩
    | arrived =>
      -- two acts here: after the poll the receiver is dropped
      refine ⟨.lost, rfl, (looked_observe _ _).trans ?_⟩
      rw [looked_observe, List.append_assoc]
      rfl
    | emptied => exact ⟨.emptied, rfl, looked_observe _ _⟩
    | @lost taken =>
      cases taken <;> exact ⟨.lost, rfl, looked_observe _ _⟩
  | wait =>
    cases mirrors with
    | pending => exact ⟨.pending, rfl, (List.append_nil _).symm⟩
    | @unheard _ taken =>
      cases taken <;> exact ⟨.unheard, rfl, (List.append_nil _).symm⟩
    | arrived => exact ⟨.lost, rfl, looked_observe _ _⟩
    | emptied => exact ⟨.emptied, rfl, looked_observe _ _⟩
    | @lost taken =>
      cases taken <;> exact ⟨.lost, rfl, looked_observe _ _⟩
  | dropReceiver => cases mirrors <;> exact ⟨by constructor, rfl, looked_observe _ _⟩
  | _ => cases rests

theorem run_append (s : OneShot) (xs ys : List Act) : s.run (xs ++ ys) = (s.run xs).run ys := by
  induction xs generalizing s with
  | nil => rfl
  | cons x rest ih => exact ih (s.step x)

theorem mirrors_new (start limit : Nat) :
    Mirrors (Handover.start .channel start limit).1 (new start limit) := by
  unfold Handover.start new
  cases Chunk.request 0 start limit with
  | ok c => exact .pending
  | error refused => exact .arrived

theorem Mirrors.step {h : Handover} (mirrors : Mirrors h s) (x : Handover.Operation) :
    Mirrors (h.step x).2.1 (s.run (h.actsOf x)) ∧
      (s.run (h.actsOf x)).worked = s.worked ++ Handover.worked [(x, (h.step x).1)] ∧
      (s.run (h.actsOf x)).looked = s.looked ++ [(h.step x).1].filter (·.isLook) := by
  unfold Handover.actsOf Handover.worked
  rw [List.filterMap_cons]
  cases works : x.work? with
  | none =>
    change _ ∧ _ = s.worked ++ [] ∧ _
    rw [List.append_nil]
    exact mirrors.asks works
  | some act =>
    obtain ⟨left, answer, quiet⟩ := mirrors.work works
    have unlooked : [(h.step x).1].filter (·.isLook) = [] :=
      List.filter_cons_of_neg (Bool.not_eq_true _ ▸ quiet)
    rw [answer] at unlooked ⊢
    rw [unlooked, List.append_nil]
    exact ⟨left, rfl, rfl⟩

theorem Mirrors.run {h : Handover} (mirrors : Mirrors h s) (ops : List Handover.Operation) :
    (s.run (h.acts ops)).worked = s.worked ++ Handover.worked (h.answers ops) ∧
      (s.run (h.acts ops)).looked =
        s.looked ++ ((h.answers ops).map (·.2)).filter (·.isLook) := by
  induction ops generalizing h s with
  | nil => exact ⟨(List.append_nil _).symm, (List.append_nil _).symm⟩
  | cons x rest ih =>
    obtain ⟨left, worked, looked⟩ := mirrors.step x
    obtain ⟨works, looks⟩ := ih left
    rw [Handover.acts, run_append, works, looks, worked, looked, List.append_assoc,
      List.append_assoc, Handover.answers]
    exact ⟨congrArg _ (List.filterMap_append (l := [(x, (h.step x).1)])).symm,
      congrArg _ (List.filter_append [(h.step x).1] _).symm⟩

theorem answers_of_handover (start limit : Nat) (ops : List Handover.Operation) :
    let h := (Handover.start .channel start limit).1
    let s := (new start limit).run (h.acts ops)
    s.worked = Handover.worked (h.answers ops) ∧
      s.looked = ((h.answers ops).map (·.2)).filter (·.isLook) := by
  intro h s
  obtain ⟨worked, looked⟩ := (mirrors_new start limit).run ops
  obtain ⟨unworked, unobserved⟩ := untouched_new start limit
  have unlooked : (new start limit).looked = [] := by
    rw [OneShot.looked, unobserved]
    rfl
  rw [unworked, List.nil_append] at worked
  rw [unlooked, List.nil_append] at looked
  exact ⟨worked, looked⟩

/-- In any interleaving of the two sides, what the chunk fires with is received once, by the first
look after it, and every later look finds the channel closed. The chunk's side does not depend on
the receiver. -/
theorem handed_over_once (start limit : Nat) (acts : List Act) :
    let s := (new start limit).run acts
    let alone := (new start limit).run ((acts.filterMap Act.work?).map .work)
    let fired := fate start limit s.worked
    let asked := acts.filterMap Act.observation?
    (s.worked.map (·.1) = acts.filterMap Act.work? ∧ s.observed.map (·.1) = asked) ∧
      s.chunk.isSome = fired.isNone ∧
      (s.seen = [] ∨ ∃ r n, fired = some r ∧ s.seen = r :: List.replicate n (.failed .abandoned)) ∧
      (.drop ∉ asked → .wait ∉ asked →
        (s.channel.observe .tryResult).1 = due fired s.seen ∧
          (s.seen = [] → (s.channel.observe .poll).1 = due fired [] ∧
            (s.channel.observe .wait).1 = due fired [])) ∧
      (.drop ∉ asked → .wait ∈ asked → s.seen = [] →
        (s.channel.observe .wake).1 = due fired []) ∧
      (s.chunk = alone.chunk ∧ s.worked = alone.worked) ∧
      ∀ ops, acts = (Handover.start .channel start limit).1.acts ops →
        let answers := (Handover.start .channel start limit).1.answers ops
        s.worked = Handover.worked answers ∧
          s.looked = (answers.map (·.2)).filter (·.isLook) := by
  intro s alone fired asked
  have sound : Sound start limit s := sound_run (sound_new start limit) acts
  obtain ⟨unworked, unobserved⟩ := untouched_new start limit
  obtain ⟨works, looks⟩ := asked_run (new start limit) acts
  rw [unworked, List.map_nil, List.nil_append] at works
  rw [unobserved, List.map_nil, List.nil_append] at looks
  have stands : s.channel.Stands fired asked s.seen := by
    have stands := sound.stands
    rwa [looks] at stands
  refine ⟨⟨works, looks⟩, sound.tells.isSome_eq, stands.once,
    fun kept outside => ⟨stands.tryResult kept outside, ?_⟩, ?_, run_of_same_chunk rfl rfl acts, ?_⟩
  · intro unseen
    exact (unseen ▸ stands).poll kept outside
  · intro kept inside unseen
    exact (unseen ▸ stands).wake kept inside
  · rintro ops rfl
    exact answers_of_handover start limit ops

theorem handed_over_to_trial_and_wait :
    let read : List Act := [.work (.write [1, 2]), .observe .tryResult, .work .complete]
    let s := (new 3 6).run read
    let s' := s.run [.observe .tryResult]
    let waiting := (new 3 6).run (.observe .wait :: read)
    let answers := (Handover.start .channel 3 6).1.answers [.write [1, 2], .tryResult, .complete]
    ((s.channel.observe .tryResult).1 = .result (.served ⟨3, [1, 2]⟩) ∧
      (s.channel.observe .poll).1 = .result (.served ⟨3, [1, 2]⟩) ∧
      (s.channel.observe .wait).1 = .result (.served ⟨3, [1, 2]⟩)) ∧
      (s'.channel.observe .tryResult).1 = .result (.failed .abandoned) ∧
      (waiting.channel.observe .wake).1 = .result (.served ⟨3, [1, 2]⟩) ∧
      ((new 9 3).channel.observe .tryResult).1 = .result (.failed (.invalidRange 9 3)) ∧
      (s.worked = Handover.worked answers ∧
        s.looked = (answers.map (·.2)).filter (·.isLook)) := by
  intro read s s' waiting answers
  obtain ⟨-, -, -, look, -, -, handover⟩ := handed_over_once 3 6 read
  obtain ⟨-, -, -, again, -⟩ := handed_over_once 3 6 (read ++ [.observe .tryResult])
  obtain ⟨-, -, -, -, wake, -⟩ := handed_over_once 3 6 (.observe .wait :: read)
  obtain ⟨-, -, -, refused, -⟩ := handed_over_once 9 3 []
  obtain ⟨first, instead⟩ := look (by decide) (by decide)
  exact ⟨⟨first, instead rfl⟩, (again (by decide) (by decide)).1,
    wake (by decide) (by decide) rfl, (refused (by decide) (by decide)).1, handover _ rfl⟩

end OneShot

end RangeFetch
