import RangeFetch.Proofs.Download.Custody
import RangeFetch.Proofs.File.Happens
import RangeFetch.Sums

namespace RangeFetch

section Lists

variable {α : Type} (f : α → List Chunk) {l : List α} {i : Nat} {x : α}

theorem times_flatMap (n : Nat) (l : List α) :
    Chunk.times n (l.flatMap f) = sumOf (fun x => Chunk.times n (f x)) l := by
  induction l with
  | nil => rfl
  | cons x rest ih => rw [List.flatMap_cons, Chunk.times_append, sumOf_cons, ih]

theorem times_flatMap_set (n : Nat) (found : l[i]? = some x) (y : α) :
    Chunk.times n ((l.set i y).flatMap f) + Chunk.times n (f x) =
      Chunk.times n (l.flatMap f) + Chunk.times n (f y) := by
  rw [times_flatMap, times_flatMap]
  exact sumOf_set found y

theorem times_flatMap_eraseIdx (n : Nat) (found : l[i]? = some x) :
    Chunk.times n ((l.eraseIdx i).flatMap f) + Chunk.times n (f x) =
      Chunk.times n (l.flatMap f) := by
  rw [times_flatMap, times_flatMap]
  exact sumOf_eraseIdx found

end Lists

theorem once_add {count count' : Nat → Nat} {m : Nat}
    (inv : ∀ n, count n = if n < m then 1 else 0)
    (more : ∀ n, count' n = count n + (m == n).toNat) :
    ∀ n, count' n = if n < m + 1 then 1 else 0 := by
  intro n
  rw [more, inv]
  by_cases latest : m = n
  · simp [latest]
  · have other : n < m + 1 ↔ n < m := by omega
    simp [other, latest]

namespace StreamingFile

theorem map_stopAll {α : Type} (f : StreamingFile) (g : Downloader → α)
    (kept : ∀ d, g d.stop = g d) (places : List Nat) :
    (f.stopAll places).downloaders.map g = f.downloaders.map g := by
  apply List.ext_getElem?
  intro k
  rw [List.getElem?_map, List.getElem?_map, getElem?_stopAll, Option.map_map]
  congr 1
  funext d
  simp only [Function.comp_apply]
  split
  · exact kept d
  · rfl

theorem outstanding_stopAll (f : StreamingFile) (places : List Nat) :
    (f.stopAll places).downloaders.flatMap (·.outstanding) =
      f.downloaders.flatMap (·.outstanding) := by
  rw [List.flatMap_def, List.flatMap_def, f.map_stopAll (·.outstanding) fun _ => rfl]

end StreamingFile

theorem Errand.times_fires (errand : Errand) (n : Nat) :
    Firing.times n errand.fires = Chunk.times n (CallStage.joining errand).chunks := by
  cases errand <;> simp [Errand.fires, CallStage.chunks]

namespace SharedFile

variable {s s' : SharedFile}

def Sound (s : SharedFile) : Prop := ∀ d ∈ s.file.downloaders, d.Sound

theorem Happens.sound (h : Happens s s') (inv : s.Sound) : s'.Sound := by
  cases h with
  | answers counted _ _ =>
    obtain ⟨-, same, -⟩ := StreamingFile.same_of_counted counted
    intro d hd
    exact inv d (by simpa [same] using hd)
  | launches found stage =>
    intro d hd
    obtain old | rfl : d ∈ s.file.downloaders ∨
        d = Downloader.start s.file.identity s.file.options := by
      simpa [StreamingFile.launch] using hd
    · exact inv d old
    · exact Downloader.sound_start _ _
  | offers found stage use takes =>
    intro d hd
    rcases List.mem_or_eq_of_mem_set hd with old | rfl
    · exact inv d old
    · exact takes.sound (inv _ (List.mem_of_getElem? use))
  | leaves found stage =>
    intro d hd
    obtain ⟨k, there⟩ := List.mem_iff_getElem?.mp hd
    rw [StreamingFile.getElem?_stopAll] at there
    obtain ⟨d₀, before, rfl⟩ := Option.map_eq_some_iff.mp there
    have sound := inv d₀ (List.mem_of_getElem? before)
    split
    · exact sound.stop
    · exact sound
  | moves found move =>
    intro d hd
    rcases List.mem_or_eq_of_mem_set hd with old | rfl
    · exact inv d old
    · exact move.sound (inv _ (List.mem_of_getElem? found))
  | _ => exact inv

def times (s : SharedFile) (n : Nat) : Nat :=
  s.timesFired n + s.timesOutstanding n + s.timesInHand n

/-- Each signal is in one place, and no other signals are. -/
def Placed (s : SharedFile) : Prop := ∀ n, s.times n = if n < s.asked.length then 1 else 0

theorem Placed.keep (inv : s.Placed) (asked : s'.asked = s.asked)
    (same : ∀ n, s'.times n = s.times n) : s'.Placed := by
  intro n
  rw [same, asked, inv n]

theorem Placed.add {x : Nat × Nat} (inv : s.Placed) (asked : s'.asked = s.asked ++ [x])
    (more : ∀ n, s'.times n = s.times n + (s.asked.length == n).toNat) : s'.Placed := by
  rw [Placed, asked, List.length_append]
  exact once_add inv more

section Calls

variable {i : Nat} {call : Call} {stage : CallStage}

theorem timesInHand_setCall (found : s.calls[i]? = some call) (at_ : call.stage = stage)
    (call' : Call) (n : Nat) :
    (s.setCall i call').timesInHand n + Chunk.times n stage.chunks =
      s.timesInHand n + Chunk.times n call'.stage.chunks := by
  rw [← at_]
  exact times_flatMap_set (fun call : Call => call.stage.chunks) n found call'

theorem timesInHand_leave (found : s.calls[i]? = some call) (at_ : call.stage = stage)
    (errand : Errand) (n : Nat) :
    (s.leave i call errand).timesInHand n + Chunk.times n stage.chunks = s.timesInHand n := by
  rw [← at_]
  exact times_flatMap_eraseIdx (fun call : Call => call.stage.chunks) n found

theorem times_setCall (found : s.calls[i]? = some call) (at_ : call.stage = stage)
    (call' : Call) (n : Nat)
    (same : Chunk.times n call'.stage.chunks = Chunk.times n stage.chunks) :
    (s.setCall i call').times n = s.times n := by
  have hand := timesInHand_setCall found at_ call' n
  have fired : (s.setCall i call').timesFired n = s.timesFired n := rfl
  have outstanding : (s.setCall i call').timesOutstanding n = s.timesOutstanding n := rfl
  rw [times, times, fired, outstanding]
  omega

end Calls

theorem timesOutstanding_set {k : Nat} {d : Downloader} (found : s.file.downloaders[k]? = some d)
    (d' : Downloader) (n : Nat) :
    Chunk.times n ((s.file.downloaders.set k d').flatMap (·.outstanding)) +
        Chunk.times n d.outstanding =
      s.timesOutstanding n + Chunk.times n d'.outstanding :=
  times_flatMap_set (fun d : Downloader => d.outstanding) n found d'

theorem Happens.placed (h : Happens s s') (inv : s.Placed) : s'.Placed := by
  -- a new signal is answered or taken in hand at once; after that it only changes its place
  cases h with
  | stays => exact inv
  | answers counted signal _ =>
    obtain ⟨-, same, -⟩ := StreamingFile.same_of_counted counted
    refine inv.add rfl ?_
    intro n
    simp only [times, timesFired, timesOutstanding, timesInHand, same, Firing.times_append,
      Firing.times_cons, Firing.times_nil, signal]
    omega
  | @enters caller start limit c signal =>
    refine inv.add rfl ?_
    intro n
    have hand : Chunk.times n (CallStage.entering c).chunks = (s.asked.length == n).toNat := by
      rw [← signal]
      simp [CallStage.chunks]
    simp only [times, timesFired, timesOutstanding, timesInHand, List.flatMap_append,
      List.flatMap_cons, List.flatMap_nil, List.append_nil, Chunk.times_append, hand]
    omega
  | withdraws free =>
    refine inv.keep rfl ?_
    intro n
    have hand : Chunk.times n (CallStage.leaving .release).chunks = 0 := rfl
    simp only [times, timesFired, timesOutstanding, timesInHand, StreamingFile.withdraw,
      List.flatMap_append, List.flatMap_cons, List.flatMap_nil, List.append_nil,
      Chunk.times_append, hand]
    omega
  | refuses found stage => exact inv.keep rfl fun n => times_setCall found stage _ n rfl
  | chooses found stage _ => exact inv.keep rfl fun n => times_setCall found stage _ n rfl
  | keeps found stage => exact inv.keep rfl fun n => times_setCall found stage _ n rfl
  | @launches i call c found stage =>
    refine inv.keep rfl ?_
    intro n
    have same := times_setCall found stage
      { call with stage := .offering c, stale := call.stale ++ s.file.inUse.toList } n rfl
    rw [← same]
    simp [times, timesFired, timesOutstanding, timesInHand, setCall, StreamingFile.launch,
      Downloader.start, Downloader.outstanding, ChunkQueue.empty, Phase.chunks]
  | launchFails found stage => exact inv.keep rfl fun n => times_setCall found stage _ n rfl
  | @offers i k call c d d' fired found stage use takes =>
    refine inv.keep rfl ?_
    intro n
    have hand : _ + Chunk.times n [c] = s.timesInHand n + 0 := timesInHand_setCall found stage
      { call with stage := .leaving (.queued c.signal) } n
    have outstanding := timesOutstanding_set use d' n
    have custody := takes.custody n
    change Firing.times n (s.fired ++ fired) + Chunk.times n (_ : List Chunk) +
      (s.setCall i _).timesInHand n = s.timesFired n + s.timesOutstanding n + s.timesInHand n
    rw [Firing.times_append]
    simp only [timesFired]
    omega
  | handsBack found stage signal =>
    refine inv.keep rfl ?_
    intro n
    apply times_setCall found stage
    simp [CallStage.chunks, signal]
  | @leaves i call errand found stage =>
    refine inv.keep rfl ?_
    intro n
    have same := times_setCall found stage { call with stage := .joining errand } n
      (by cases errand <;> rfl)
    rw [← same]
    simp [times, timesFired, timesOutstanding, timesInHand, setCall,
      StreamingFile.outstanding_stopAll]
  | @returns i call errand found stage =>
    refine inv.keep rfl ?_
    intro n
    have hand := timesInHand_leave found stage errand n
    have fires := Errand.times_fires errand n
    change Firing.times n (s.fired ++ errand.fires) + s.timesOutstanding n +
      (s.leave i call errand).timesInHand n =
        s.timesFired n + s.timesOutstanding n + s.timesInHand n
    rw [Firing.times_append]
    simp only [timesFired]
    omega
  | @moves k d d' e fired found move =>
    refine inv.keep rfl ?_
    intro n
    have outstanding := timesOutstanding_set found d' n
    have custody := move.custody n
    change Firing.times n (s.fired ++ fired) + Chunk.times n (_ : List Chunk) + s.timesInHand n =
      s.timesFired n + s.timesOutstanding n + s.timesInHand n
    rw [Firing.times_append]
    simp only [timesFired]
    omega

/-- A chunk that a downloader has accepted is there or has fired. -/
def Accepted (s : SharedFile) : Prop :=
  ∀ k n, (k, n) ∈ s.accepted →
    ∃ d, s.file.downloaders[k]? = some d ∧ 1 ≤ s.timesFired n + Chunk.times n d.outstanding

theorem Accepted.keep (inv : s.Accepted) (accepted : s'.accepted = s.accepted)
    (kept : ∀ (k : Nat) (d : Downloader) (n : Nat), s.file.downloaders[k]? = some d →
      ∃ d' : Downloader, s'.file.downloaders[k]? = some d' ∧
        s.timesFired n + Chunk.times n d.outstanding ≤
          s'.timesFired n + Chunk.times n d'.outstanding) : s'.Accepted := by
  intro k n old
  rw [accepted] at old
  obtain ⟨d, there, held⟩ := inv k n old
  obtain ⟨d', there', held'⟩ := kept k d n there
  exact ⟨d', there', Nat.le_trans held held'⟩

theorem held_set {k : Nat} {d d' : Downloader} {fired : List Firing}
    (found : s.file.downloaders[k]? = some d)
    (custody : ∀ n, Chunk.times n d.outstanding ≤
      Chunk.times n d'.outstanding + Firing.times n fired) (j : Nat) (b : Downloader) (n : Nat)
    (there : s.file.downloaders[j]? = some b) :
    ∃ b', (s.file.downloaders.set k d')[j]? = some b' ∧
      s.timesFired n + Chunk.times n b.outstanding ≤
        Firing.times n (s.fired ++ fired) + Chunk.times n b'.outstanding := by
  have count := custody n
  rw [Firing.times_append]
  simp only [timesFired]
  by_cases same : k = j
  · subst same
    rw [found] at there
    cases there
    refine ⟨d', ?_, by omega⟩
    rw [List.getElem?_set_self (List.getElem?_eq_some_iff.mp found).1]
  · refine ⟨b, ?_, by omega⟩
    rw [List.getElem?_set_ne same, there]

theorem Happens.accepted (h : Happens s s') (inv : s.Accepted) : s'.Accepted := by
  cases h with
  | answers counted _ _ =>
    obtain ⟨-, same, -⟩ := StreamingFile.same_of_counted counted
    refine inv.keep rfl fun k d n there => ⟨d, by rw [same, there], ?_⟩
    simp only [timesFired, Firing.times_append]
    omega
  | launches found stage =>
    refine inv.keep rfl fun k d n there => ⟨d, ?_, Nat.le_refl _⟩
    have old := (List.getElem?_eq_some_iff.mp there).1
    rw [StreamingFile.launch, List.getElem?_append_left old, there]
  | @offers i k call c d d' fired found stage use takes =>
    have custody := takes.custody
    have kept : ∀ n, Chunk.times n d.outstanding ≤
        Chunk.times n d'.outstanding + Firing.times n fired := by
      intro n
      have count := custody n
      omega
    have held := held_set use kept
    intro j n old
    obtain old | new : (j, n) ∈ s.accepted ∨ (j, n) = (k, c.signal) := by simpa using old
    · obtain ⟨b, there, before⟩ := inv j n old
      obtain ⟨b', there', after⟩ := held j b n there
      exact ⟨b', there', Nat.le_trans before after⟩
    · -- the chunk that is accepted now
      cases new
      refine ⟨d', ?_, ?_⟩
      · exact List.getElem?_set_self (List.getElem?_eq_some_iff.mp use).1
      · have own := custody c.signal
        simp only [Chunk.times_cons, Chunk.times_nil, beq_self_eq_true, Bool.toNat_true] at own
        simp only [timesFired, Firing.times_append]
        omega
  | @leaves i call errand found stage =>
    refine inv.keep rfl fun k d n there => ⟨if k ∈ call.stale then d.stop else d, ?_, ?_⟩
    · rw [StreamingFile.getElem?_stopAll, there]
      rfl
    · split <;> exact Nat.le_refl _
  | returns found stage =>
    refine inv.keep rfl fun k d n there => ⟨d, there, ?_⟩
    simp only [timesFired, leave, Firing.times_append]
    omega
  | @moves k d d' e fired found move =>
    have kept : ∀ n, Chunk.times n d.outstanding ≤
        Chunk.times n d'.outstanding + Firing.times n fired := by
      intro n
      have count := move.custody n
      omega
    exact inv.keep rfl (held_set found kept)
  | _ => exact inv

end SharedFile

end RangeFetch
