import RangeFetch.Proofs.File.Calls

namespace RangeFetch

namespace SharedFile

variable {s : SharedFile}

/-- What holds at all times. -/
structure Kept (s : SharedFile) : Prop where
  sound : s.Sound
  placed : s.Placed
  accepted : s.Accepted
  answered : s.Answered
  told : s.Told
  attended : s.Attended

theorem Happens.kept {s' : SharedFile} (h : Happens s s') (inv : s.Kept) : s'.Kept :=
  ⟨h.sound inv.sound, h.placed inv.placed, h.accepted inv.accepted, h.answered inv.answered,
    h.told inv.sound inv.told, h.attended inv.attended⟩

theorem kept_start (identity : FileIdentity) (options : DownloadOptions) :
    (start identity options).Kept := by
  refine ⟨?_, ?_, ?_, ⟨?_, ?_⟩, ⟨?_, ?_⟩, ⟨?_, ?_⟩⟩
  · intro d mem
    cases mem
  · intro n
    rfl
  · intro k n mem
    cases mem
  · intro call mem
    cases mem
  · intro n answer mem
    cases mem
  · intro call mem
    cases mem
  · intro x mem
    cases mem
  · intro released
    cases released
  · intro k hk
    cases hk

theorem calledBy_start (known : Nat → Prop) (identity : FileIdentity) (options : DownloadOptions) :
    (start identity options).CalledBy known := by
  refine ⟨?_, ?_⟩
  · intro call mem
    cases mem
  · intro k mem
    cases mem

theorem Accepted.outstanding_or_fired (inv : s.Accepted) {k n : Nat}
    (accepted : (k, n) ∈ s.accepted) : 1 ≤ s.timesOutstanding n + s.timesFired n := by
  obtain ⟨d, there, held⟩ := inv k n accepted
  have among := times_flatMap_eraseIdx (fun d : Downloader => d.outstanding) n there
  rw [timesOutstanding]
  omega

theorem Kept.timesInHand_eq_zero (inv : s.Kept) {n : Nat} {answer : Except FileError Unit}
    (returned : (n, answer) ∈ s.answers) : s.timesInHand n = 0 := by
  -- the signal is in one place at most, and it has fired or is at a downloader
  have place := inv.placed n
  rw [times] at place
  have most : (if n < s.asked.length then 1 else 0) ≤ 1 := by split <;> omega
  rcases inv.answered.answers n answer returned with fired | ⟨k, accepted⟩
  · omega
  · have held := inv.accepted.outstanding_or_fired accepted
    omega

theorem Kept.timesFired_of_stopped (inv : s.Kept) {k n : Nat} {d : Downloader}
    (there : s.file.downloaders[k]? = some d) (stopped : d.phase = .stopped)
    (accepted : (k, n) ∈ s.accepted) : s.timesFired n = 1 := by
  have place := inv.placed n
  rw [times] at place
  have most : (if n < s.asked.length then 1 else 0) ≤ 1 := by split <;> omega
  obtain ⟨d', there', held⟩ := inv.accepted k n accepted
  rw [there] at there'
  cases there'
  rw [(inv.sound d (List.mem_of_getElem? there)).outstanding_of_stopped stopped,
    Chunk.times_nil] at held
  omega

theorem Kept.timesFired_of_ended (inv : s.Kept) (calls : s.calls = [])
    (ended : ∀ k < s.file.downloaders.length, s.hasEnded k = true) {n : Nat}
    (asked : n < s.asked.length) : s.timesFired n = 1 := by
  have none : s.file.downloaders.flatMap (·.outstanding) = [] := by
    rw [List.flatMap_eq_nil_iff]
    intro d mem
    obtain ⟨k, there⟩ := List.mem_iff_getElem?.mp mem
    have stopped := ended k (List.getElem?_eq_some_iff.mp there).1
    rw [hasEnded, StreamingFile.hasEnded, there, Option.all_some, beq_iff_eq] at stopped
    exact (inv.sound d mem).outstanding_of_stopped stopped
  have outstanding : s.timesOutstanding n = 0 := by
    rw [timesOutstanding, none]
    rfl
  have hand : s.timesInHand n = 0 := by
    rw [timesInHand, calls]
    rfl
  have place := inv.placed n
  rw [if_pos asked, times] at place
  omega

theorem Attended.hasEnded (inv : s.Attended) (released : s.file.released = true)
    (calls : s.calls = []) (left : ∀ k ∈ s.unattended, s.hasEnded k = true) {k : Nat}
    (hk : k < s.file.downloaders.length) : s.hasEnded k = true := by
  rcases inv.known k hk with use | ended | ⟨b, mem, -⟩ | alone
  · rw [(inv.released released).1] at use
    cases use
  · exact ended
  · rw [calls] at mem
    cases mem
  · exact left k alone

/-- Whatever happens around a file, each signal fires once, and until then its chunk is in exactly
one place. After a release all have fired when no call is in progress and no downloader is left at
work that went out of use from within a signal of its own. -/
theorem timesFired_eq_one (identity : FileIdentity) (options : DownloadOptions)
    (xs : List Happening) :
    let s := (start identity options).run xs
    (∀ n < s.asked.length, s.timesFired n + s.timesOutstanding n + s.timesInHand n = 1) ∧
      (∀ x ∈ s.fired, x.signal < s.asked.length) ∧
      (∀ n answer, (n, answer) ∈ s.answers → s.timesInHand n = 0) ∧
      (∀ k d, s.file.downloaders[k]? = some d → d.phase = .stopped →
        ∀ n, (k, n) ∈ s.accepted → s.timesFired n = 1) ∧
      (s.file.released = true → s.calls = [] → (∀ k ∈ s.unattended, s.hasEnded k = true) →
        ∀ n < s.asked.length, s.timesFired n = 1) ∧
      (∀ k ∈ s.unattended, ∃ x ∈ xs, x.caller? = some k) ∧
      ∀ x ∈ s.fired, x.result = .failed .abandoned →
        ∃ text, (x.signal, .error (.notStarted text)) ∈ s.answers := by
  intro s
  have inv : s.Kept := run_induction (fun _ _ h => h.kept) xs (kept_start identity options)
  refine ⟨?_, ?_, fun n answer => inv.timesInHand_eq_zero, ?_, ?_, ?_, inv.told.abandoned⟩
  · intro n asked
    have place := inv.placed n
    rw [if_pos asked] at place
    exact place
  · intro x mem
    have place := inv.placed x.signal
    have fired : 0 < s.timesFired x.signal :=
      List.countP_pos_iff.mpr ⟨x, mem, by simp⟩
    rw [times] at place
    by_cases asked : x.signal < s.asked.length
    · exact asked
    · rw [if_neg asked] at place
      omega
  · intro k d there stopped n accepted
    exact inv.timesFired_of_stopped there stopped accepted
  · intro released calls left n asked
    exact inv.timesFired_of_ended calls
      (fun k hk => inv.attended.hasEnded released calls left hk) asked
  · have callers : s.CalledBy fun k => ∃ x ∈ xs, x.caller? = some k :=
      calledBy_run xs (calledBy_start _ identity options) fun x mem k own => ⟨x, mem, own⟩
    exact callers.unattended

/-- Two reads, of which the second is still outstanding when the file is released. -/
def releasing : List Happening :=
  [.ask none 0 2, .advance 0, .advance 0, .advance 0, .advance 0, .advance 0, .move 0 .take,
    .ask none 2 4, .advance 0, .advance 0, .advance 0, .advance 0, .advance 0,
    .move 0 (.opened (.ok ⟨0, [.bytes [0, 1]], .silent⟩)), .move 0 .deliver, .move 0 .take,
    .release none, .advance 0, .move 0 .notice, .move 0 .failNext, .move 0 .failNext, .advance 0]

theorem releasing_timesFired :
    let s := (start ⟨"", 6⟩ .standard).run releasing
    s.file.released = true ∧ s.calls = [] ∧ s.unattended = [] ∧ s.asked.length = 2 ∧
      s.timesFired 0 = 1 ∧ s.timesFired 1 = 1 := by
  intro s
  have released : s.file.released = true := by decide
  have asked : s.asked.length = 2 := by decide
  obtain ⟨-, -, -, -, all, -⟩ := timesFired_eq_one ⟨"", 6⟩ .standard releasing
  have once := all released rfl (by decide)
  exact ⟨released, rfl, rfl, asked, once 0 (by decide), once 1 (by decide)⟩

/-- Two reads are to be failed, and the signal that fires first releases the file. -/
def releasingWithin : List Happening :=
  [.ask none 0 2, .advance 0, .advance 0, .advance 0, .advance 0, .advance 0, .move 0 .take,
    .ask none 2 4, .advance 0, .advance 0, .advance 0, .advance 0, .advance 0,
    .move 0 (.opened (.error (.timeout 9))), .move 0 .failNext,
    .release (some 0), .advance 0, .advance 0]

/-- That release does not wait for the other signal, and neither does a later one from outside:
the downloader is nobody's any more. -/
theorem releasingWithin_unfired :
    let s := (start ⟨"", 6⟩ .standard).run releasingWithin
    let s' := s.run [.release none, .advance 0, .advance 0]
    s.asked.length = 2 ∧ s.timesFired 1 = 1 ∧
      s.file.released = true ∧ s.calls = [] ∧ s.timesFired 0 = 0 ∧
      s'.calls = [] ∧ s'.timesFired 0 = 0 := by
  decide

end SharedFile

end RangeFetch
