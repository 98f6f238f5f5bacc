import RangeFetch.Proofs.File.Happens

namespace RangeFetch

theorem Downloader.enqueue_of_running {d : Downloader} (running : d.isStopped = false) (c : Chunk) :
    ∃ accepted, d.enqueue c = .ok accepted := by
  have enqueues := d.enqueue_enqueues c
  generalize d.enqueue c = answer at enqueues
  cases enqueues with
  | completes past => exact ⟨_, rfl⟩
  | queues within closed => exact ⟨_, rfl⟩
  | refuses within closed => simp [isStopped, closed] at running

theorem StreamingFile.offer_renew (f : StreamingFile) (c : Chunk) :
    ∃ accepted, f.renew.offer c = .ok accepted := by
  obtain ⟨k, d, use, there, running, -⟩ := f.renew_cases
  obtain ⟨accepted, took⟩ := Downloader.enqueue_of_running running c
  simp [offer, use, there, took]

namespace SharedFile

variable {s : SharedFile}

/-- A call for a read that is alone asks the file as `StreamingFile.enqueue` does, and then waits
for the downloader that it has replaced. -/
theorem run_call (alone : s.calls = []) (caller : Option Nat) (first limit : Nat) :
    let s' := s.run [.ask caller first limit, .advance 0, .advance 0, .advance 0, .advance 0]
    s'.file = (s.file.enqueue s.asked.length first limit).2.1 ∧
      s'.fired = s.fired ++ (s.file.enqueue s.asked.length first limit).2.2 := by
  simp only [run, step, ask, StreamingFile.enqueue]
  cases request : Chunk.request s.asked.length first limit with
  | error firing => simp [advance, alone]
  | ok c =>
    by_cases released : s.file.released = true
    · simp [released, advance, alone]
    · by_cases past : s.file.identity.size ≤ first
      · simp [released, past, advance, alone]
      · obtain ⟨⟨f, fired⟩, took⟩ := s.file.offer_renew c
        simp [released, past, advance, alone, isFree, CallStage.hasTurn, setCall, offer, took,
          StreamingFile.accept]

theorem run_release (alone : s.calls = []) (caller : Option Nat) :
    (s.run [.release caller, .advance 0]).file = s.file.release := by
  simp [run, step, release, isFree, alone, advance, setCall, StreamingFile.release]

end SharedFile

end RangeFetch
