import RangeFetch.Proofs.Download.Registers
import RangeFetch.Proofs.Download.Tally
import RangeFetch.Proofs.File.Acts
import RangeFetch.Proofs.File.Calls

namespace RangeFetch

namespace StreamingFile

variable (f : StreamingFile) {k : Nat} {d : Downloader}

theorem total_stopAll (g : Downloader → Nat) (kept : ∀ d, g d.stop = g d) (places : List Nat) :
    (f.stopAll places).total g = f.total g :=
  congrArg List.sum (f.map_stopAll g kept places)

theorem total_launch (g : Downloader → Nat) :
    f.launch.total g = f.total g + g (.start f.identity f.options) := by
  rw [total, sumOf, launch, List.map_append, List.sum_append_nat]
  rfl

theorem total_set {f f' : StreamingFile} {d' : Downloader} (g : Downloader → Nat)
    (found : f.downloaders[k]? = some d) (set : f'.downloaders = f.downloaders.set k d') :
    f'.total g + g d = f.total g + g d' := by
  rw [total, set]
  exact sumOf_set found d'

theorem stats_eq_total {p : DownloadStats → Nat} (additive : ∀ a b, p (a + b) = p a + p b) :
    p f.stats = f.total (fun d => p d.stats) +
      p { DownloadStats.zero with chunksCompleted := f.completeAtOnce } := by
  unfold stats total
  induction f.downloaders with
  | nil => exact (Nat.zero_add _).symm
  | cons d rest ih => rw [List.foldr_cons, additive, ih, sumOf_cons, Nat.add_assoc]

theorem stats_set {f f' : StreamingFile} {d' : Downloader} {p : DownloadStats → Nat}
    (additive : ∀ a b, p (a + b) = p a + p b) (found : f.downloaders[k]? = some d)
    (set : f'.downloaders = f.downloaders.set k d')
    (counted : f'.completeAtOnce = f.completeAtOnce) :
    p f'.stats + p d.stats = p f.stats + p d'.stats := by
  have exchange := total_set (fun d => p d.stats) found set
  rw [f.stats_eq_total additive, f'.stats_eq_total additive, counted]
  omega

theorem stats_congr {f f' : StreamingFile} (same : f'.downloaders = f.downloaders)
    (counted : f'.completeAtOnce = f.completeAtOnce) : f'.stats = f.stats := by
  rw [stats, stats, same, counted]

theorem stats_stopAll (places : List Nat) : (f.stopAll places).stats = f.stats := by
  have same := f.map_stopAll (·.stats) (fun _ => rfl) places
  have folded (l : List Downloader) (z : DownloadStats) :
      l.foldr (fun d s => d.stats + s) z = (l.map (·.stats)).foldr (· + ·) z := by
    rw [List.foldr_map]
  rw [stats, stats, folded, folded, same]
  rfl

theorem stats_countComplete :
    f.countComplete.stats = { f.stats with chunksCompleted := f.stats.chunksCompleted + 1 } := by
  unfold stats countComplete
  dsimp only
  induction f.downloaders with
  | nil => rfl
  | cons d rest ih =>
    rw [List.foldr_cons, List.foldr_cons, ih]
    rfl

theorem stats_start_add (identity : FileIdentity) (options : DownloadOptions) (z : DownloadStats) :
    (Downloader.start identity options).stats + z =
      { z with downloadersStarted := z.downloadersStarted + 1 } := by
  change DownloadStats.add _ z = _
  simp [DownloadStats.add, Downloader.start, DownloadStats.zero, Nat.add_comm]

theorem stats_launch :
    f.launch.stats = { f.stats with downloadersStarted := f.stats.downloadersStarted + 1 } := by
  unfold stats launch
  rw [List.foldr_append, List.foldr_cons, List.foldr_nil, stats_start_add]
  dsimp only
  induction f.downloaders with
  | nil => rfl
  | cons d rest ih =>
    rw [List.foldr_cons, List.foldr_cons, ih]
    rfl

end StreamingFile

/-- What a downloader keeps to wherever it is. -/
structure Downloader.Tidy (d : Downloader) : Prop where
  sound : d.Sound
  fresh : d.Fresh
  once : d.ExpiresOnce

namespace Downloader.Tidy

variable {d d' : Downloader} {c : Chunk} {fired : List Firing}

theorem start (identity : FileIdentity) (options : DownloadOptions) :
    (Downloader.start identity options).Tidy :=
  ⟨sound_start identity options, fresh_start identity options, .inl rfl⟩

theorem stop (h : d.Tidy) : d.stop.Tidy := ⟨h.sound.stop, h.fresh.stop, h.once⟩

theorem step (h : d.Tidy) (e : Event) : (d.step e).1.Tidy :=
  have moves := d.step_moves e
  ⟨moves.sound h.sound, moves.fresh h.sound h.fresh, moves.expiresOnce h.once⟩

theorem enqueue (h : d.Tidy) (takes : Enqueues d c (.ok (d', fired))) (empty : c.buffer = []) :
    d'.Tidy :=
  ⟨takes.sound h.sound, takes.fresh empty h.fresh, takes.expiresOnce h.once⟩

end Downloader.Tidy

namespace SharedFile

variable {s s' : SharedFile} {x : Happening} {lost picked : List Chunk}

structure Tidy (s : SharedFile) : Prop where
  hands : ∀ call ∈ s.calls, ∀ c ∈ call.stage.chunks, c.buffer = []
  downloaders : ∀ d ∈ s.file.downloaders, d.Tidy

theorem Tidy.hand (inv : s.Tidy) {i : Nat} {call : Call} {stage : CallStage}
    (found : s.calls[i]? = some call) (at_ : call.stage = stage) :
    ∀ c ∈ stage.chunks, c.buffer = [] := by
  rw [← at_]
  exact inv.hands call (List.mem_of_getElem? found)

theorem forall_exchange {P : Downloader → Prop} {k : Nat} {d : Downloader} {l : List Downloader}
    (inv : ∀ d ∈ l, P d) (new : P d) : ∀ b ∈ l.set k d, P b := by
  intro b mem
  rcases List.mem_or_eq_of_mem_set mem with old | rfl
  · exact inv b old
  · exact new

theorem Acts.tidy (h : Acts s x s') (inv : s.Tidy) : s'.Tidy := by
  obtain ⟨hands, downloaders⟩ := inv
  cases h with
  | stays => exact ⟨hands, downloaders⟩
  | fails signal failed => exact ⟨hands, downloaders⟩
  | completes signal empty => exact ⟨hands, downloaders⟩
  | enters signal empty =>
    refine ⟨?_, downloaders⟩
    simp only [List.forall_mem_append, List.forall_mem_singleton]
    refine ⟨hands, ?_⟩
    simpa [CallStage.chunks] using empty
  | withdraws =>
    refine ⟨?_, downloaders⟩
    simp only [List.forall_mem_append, List.forall_mem_singleton]
    exact ⟨hands, by simp [CallStage.chunks]⟩
  | turns unseen found signal hand narrows same counted =>
    refine ⟨forall_setCall hands ?_, by rw [same]; exact downloaders⟩
    intro c' mem
    obtain ⟨c, old, kept⟩ := hand c' mem
    rw [kept]
    exact hands _ (List.mem_of_getElem? found) c old
  | launches found stage =>
    have own := Tidy.hand ⟨hands, downloaders⟩ found stage
    refine ⟨forall_setCall hands own, ?_⟩
    simp only [StreamingFile.launch, List.forall_mem_append, List.forall_mem_singleton]
    exact ⟨downloaders, .start _ _⟩
  | offers found stage use takes =>
    -- the chunk has been in hand until now
    have empty := Tidy.hand ⟨hands, downloaders⟩ found stage _ (List.mem_singleton_self _)
    refine ⟨forall_setCall hands (by simp [CallStage.chunks]), ?_⟩
    exact forall_exchange downloaders
      ((downloaders _ (List.mem_of_getElem? use)).enqueue takes empty)
  | @leaves i call errand found stage =>
    have own := Tidy.hand ⟨hands, downloaders⟩ found stage
    refine ⟨forall_setCall hands (by cases errand <;> exact own), ?_⟩
    intro d hd
    obtain ⟨k, there⟩ := List.mem_iff_getElem?.mp hd
    rw [StreamingFile.getElem?_stopAll] at there
    obtain ⟨d₀, before, rfl⟩ := Option.map_eq_some_iff.mp there
    have tidy := downloaders d₀ (List.mem_of_getElem? before)
    split
    · exact tidy.stop
    · exact tidy
  | returns found stage => exact ⟨forall_leave hands, downloaders⟩
  | moves found =>
    exact ⟨hands, forall_exchange downloaders ((downloaders _ (List.mem_of_getElem? found)).step _)⟩

/-- The counters against what has fired, what calls have returned, and what downloaders hold and
have failed and picked up. -/
structure Balanced (s : SharedFile) (lost picked : List Chunk) : Prop where
  started : s.file.stats.downloadersStarted = s.file.downloaders.length
  completed : s.file.stats.chunksCompleted = s.fired.countP (·.isServed)
  failed : s.file.stats.chunksFailed + s.answers.countP (!·.2.isOk) =
    s.fired.countP (!·.isServed) + s.file.total (·.phase.dues.length)
  bytes : s.file.stats.bytesDelivered =
    Firing.delivered s.fired + s.file.total (Chunk.held ·.outstanding) + Chunk.held lost
  requests : s.file.stats.requests = s.file.stats.seeks + picked.length

theorem Balanced.keep (inv : s.Balanced lost picked)
    (same : s'.file.downloaders = s.file.downloaders) (stats : s'.file.stats = s.file.stats)
    (fired : s'.fired = s.fired) (answers : s'.answers = s.answers) : s'.Balanced lost picked := by
  obtain ⟨started, completed, failed, bytes, requests⟩ := inv
  refine ⟨?_, ?_, ?_, ?_, ?_⟩
  · rw [stats, same, started]
  · rw [stats, fired, completed]
  · rw [stats, fired, answers, StreamingFile.total, same]
    exact failed
  · rw [stats, fired, StreamingFile.total, same]
    exact bytes
  · rw [stats, requests]

theorem Balanced.exchange {k : Nat} {d d' : Downloader} {fired : List Firing}
    {lost' picked' : List Chunk} (inv : s.Balanced lost picked)
    (found : s.file.downloaders[k]? = some d) (tally : Downloader.Tally d d' fired lost' picked')
    (set : s'.file.downloaders = s.file.downloaders.set k d')
    (counted : s'.file.completeAtOnce = s.file.completeAtOnce)
    (fires : s'.fired = s.fired ++ fired) (answers : s'.answers = s.answers) :
    s'.Balanced (lost ++ lost') (picked ++ picked') := by
  obtain ⟨started, completed, failed, bytes, requests⟩ := inv
  -- a counter of the file grows by what that of the one downloader grows by
  have count {p : DownloadStats → Nat} (additive : ∀ a b, p (a + b) = p a + p b) :
      p s'.file.stats + p d.stats = p s.file.stats + p d'.stats :=
    StreamingFile.stats_set additive found set counted
  refine ⟨?_, ?_, ?_, ?_, ?_⟩
  · have sum := count (p := (·.downloadersStarted)) fun _ _ => rfl
    have own := tally.started
    rw [set, List.length_set]
    omega
  · have sum := count (p := (·.chunksCompleted)) fun _ _ => rfl
    have own := tally.completed
    rw [fires, List.countP_append]
    omega
  · have sum := count (p := (·.chunksFailed)) fun _ _ => rfl
    have dues := StreamingFile.total_set (·.phase.dues.length) found set
    have own := tally.failed
    rw [fires, answers, List.countP_append]
    omega
  · have sum := count (p := (·.bytesDelivered)) fun _ _ => rfl
    have held := StreamingFile.total_set (Chunk.held ·.outstanding) found set
    have own := tally.bytes
    rw [fires, Firing.delivered_append, Chunk.held_append]
    omega
  · have sum := count (p := (·.requests)) fun _ _ => rfl
    have gone := count (p := (·.seeks)) fun _ _ => rfl
    have own := tally.requests
    rw [List.length_append]
    omega

theorem Balanced.refuse {fired : List Firing} {answers : List (Nat × Except FileError Unit)}
    (inv : s.Balanced lost picked) (file : s'.file = s.file) (fires : s'.fired = s.fired ++ fired)
    (tells : s'.answers = s.answers ++ answers) (failed : ∀ x ∈ fired, x.isServed = false)
    (each : answers.countP (!·.2.isOk) = fired.length) : s'.Balanced lost picked := by
  have served : fired.countP (·.isServed) = 0 := by
    rw [List.countP_eq_zero]
    intro x mem
    simp [failed x mem]
  have unserved : fired.countP (!·.isServed) = fired.length := by
    rw [List.countP_eq_length]
    intro x mem
    simp [failed x mem]
  obtain ⟨started, completed, refused, bytes, requests⟩ := inv
  refine ⟨?_, ?_, ?_, ?_, ?_⟩
  · rw [file, started]
  · rw [file, fires, List.countP_append, served, completed]
    rfl
  · rw [file, fires, tells, List.countP_append, List.countP_append, unserved, each]
    omega
  · rw [file, fires, Firing.delivered_append, Firing.delivered_of_failed failed, bytes]
    rfl
  · rw [file, requests]

theorem Acts.balanced (h : Acts s x s') (tidy : s.Tidy) (inv : s.Balanced lost picked) :
    s'.Balanced (lost ++ s.seen (fun d e => (d.failed? e).toList) x)
      (picked ++ s.seen (fun d e => (d.pickedUp? e).toList) x) := by
  cases h with
  | stays unseen =>
    rw [unseen, unseen, List.append_nil, List.append_nil]
    exact inv
  | fails signal failed =>
    simp only [seen, List.append_nil]
    exact inv.refuse rfl rfl rfl (by simpa using failed) rfl
  | @completes caller start limit c signal empty =>
    simp only [seen, List.append_nil]
    obtain ⟨started, completed, failed, bytes, requests⟩ := inv
    have none : Firing.delivered [c.complete] = 0 := by
      rw [Firing.delivered_complete, empty]
      rfl
    refine ⟨?_, ?_, ?_, ?_, ?_⟩
    · rw [StreamingFile.stats_countComplete]
      exact started
    · rw [StreamingFile.stats_countComplete, List.countP_append, ← completed]
      rfl
    · rw [StreamingFile.stats_countComplete, List.countP_append, List.countP_append]
      exact failed
    · rw [StreamingFile.stats_countComplete, Firing.delivered_append, none]
      exact bytes
    · rw [StreamingFile.stats_countComplete]
      exact requests
  | enters signal empty =>
    simp only [seen, List.append_nil]
    exact inv.keep rfl rfl rfl rfl
  | withdraws =>
    simp only [seen, List.append_nil]
    exact inv.keep rfl rfl rfl rfl
  | turns unseen found signal hand narrows same counted =>
    rw [unseen, unseen, List.append_nil, List.append_nil]
    exact inv.keep same (StreamingFile.stats_congr same counted) rfl rfl
  | launches found stage =>
    -- the new downloader has counted its start, holds nothing and owes nothing
    simp only [seen, List.append_nil]
    obtain ⟨started, completed, failed, bytes, requests⟩ := inv
    refine ⟨?_, ?_, ?_, ?_, ?_⟩
    · rw [StreamingFile.stats_launch]
      dsimp only
      rw [started, StreamingFile.launch, List.length_append]
      rfl
    · rw [StreamingFile.stats_launch]
      exact completed
    · rw [StreamingFile.stats_launch, StreamingFile.total_launch]
      exact failed
    · rw [StreamingFile.stats_launch, StreamingFile.total_launch]
      exact bytes
    · rw [StreamingFile.stats_launch]
      exact requests
  | offers found stage use takes =>
    have empty := tidy.hand found stage _ (List.mem_singleton_self _)
    exact inv.exchange use (takes.tally empty) rfl rfl rfl rfl
  | leaves found stage =>
    simp only [seen, List.append_nil]
    obtain ⟨started, completed, failed, bytes, requests⟩ := inv
    refine ⟨?_, ?_, ?_, ?_, ?_⟩
    · rw [StreamingFile.stats_stopAll, started]
      simp [StreamingFile.stopAll]
    · rw [StreamingFile.stats_stopAll]
      exact completed
    · rw [StreamingFile.stats_stopAll, StreamingFile.total_stopAll _ _ fun _ => rfl]
      exact failed
    · rw [StreamingFile.stats_stopAll, StreamingFile.total_stopAll _ _ fun _ => rfl]
      exact bytes
    · rw [StreamingFile.stats_stopAll]
      exact requests
  | @returns i call errand found stage =>
    simp only [seen, List.append_nil]
    refine inv.refuse rfl rfl rfl ?_ ?_
    · cases errand <;> simp [Errand.fires, Chunk.fail, Firing.isServed]
    · cases errand <;> rfl
  | @moves k d e found =>
    simp only [seen, found, Option.toList_some, List.flatMap_cons, List.flatMap_nil,
      List.append_nil]
    exact inv.exchange found (d.step_tally e) rfl rfl rfl rfl

theorem balanced_run (xs : List Happening) (tidy : s.Tidy) (inv : s.Balanced lost picked) :
    (s.run xs).Tidy ∧ (s.run xs).Balanced (lost ++ s.failed xs) (picked ++ s.pickedUp xs) := by
  induction xs generalizing s lost picked with
  | nil => simpa [failed, pickedUp, collect, run] using ⟨tidy, inv⟩
  | cons x rest ih =>
    have acts := s.step_acts x
    have later := ih (acts.tidy tidy) (acts.balanced tidy inv)
    rw [List.append_assoc, List.append_assoc] at later
    exact later

theorem balanced_start (identity : FileIdentity) (options : DownloadOptions) :
    (start identity options).Tidy ∧ (start identity options).Balanced [] [] := by
  refine ⟨⟨?_, ?_⟩, rfl, rfl, rfl, rfl, rfl⟩
  · intro call mem
    cases mem
  · intro d mem
    cases mem

end SharedFile

end RangeFetch
