import RangeFetch.File.Sharing
import RangeFetch.Proofs.Download.Moves

namespace RangeFetch

theorem StreamingFile.offer_cases (f : StreamingFile) (c : Chunk) :
    (∃ c', c'.signal = c.signal ∧ f.offer c = .error c') ∨
      ∃ k d d' fired, f.inUse = some k ∧ f.downloaders[k]? = some d ∧
        Downloader.Enqueues d c (.ok (d', fired)) ∧
        f.offer c = .ok ({ f with downloaders := f.downloaders.set k d' }, fired) := by
  unfold offer
  cases use : f.inUse with
  | none => exact .inl ⟨c, rfl, rfl⟩
  | some k =>
    dsimp only
    cases there : f.downloaders[k]? with
    | none => exact .inl ⟨c, rfl, rfl⟩
    | some d =>
      have enqueues := d.enqueue_enqueues c
      cases outcome : d.enqueue c with
      | error c' =>
        rw [outcome] at enqueues
        left
        refine ⟨c', enqueues.signal_of_error, ?_⟩
        simp [outcome]
      | ok accepted =>
        rw [outcome] at enqueues
        right
        refine ⟨k, d, accepted.1, accepted.2, rfl, there, enqueues, ?_⟩
        simp [outcome]

theorem StreamingFile.same_of_counted {f f' : StreamingFile}
    (counted : f' = f ∨ f' = f.countComplete) :
    f'.identity = f.identity ∧ f'.downloaders = f.downloaders ∧ f'.inUse = f.inUse ∧
      f'.released = f.released := by
  rcases counted with rfl | rfl <;> exact ⟨rfl, rfl, rfl, rfl⟩

namespace SharedFile

inductive Happens (s : SharedFile) : SharedFile → Prop where
  | stays : Happens s s
  | answers {start limit : Nat} {file : StreamingFile} {firing : Firing}
      {answer : Except FileError Unit} (counted : file = s.file ∨ file = s.file.countComplete)
      (signal : firing.signal = s.asked.length) (told : firing.result ≠ .failed .abandoned) :
      Happens s { s with
        file := file
        asked := s.asked ++ [(start, limit)]
        answers := s.answers ++ [(s.asked.length, answer)]
        fired := s.fired ++ [firing] }
  | enters {caller : Option Nat} {start limit : Nat} {c : Chunk}
      (signal : c.signal = s.asked.length) :
      Happens s { s with
        asked := s.asked ++ [(start, limit)]
        calls := s.calls ++ [⟨caller, .entering c, []⟩] }
  | withdraws {caller : Option Nat} (free : s.isFree = true) :
      Happens s { s with
        file := s.file.withdraw
        calls := s.calls ++ [⟨caller, .leaving .release, s.file.inUse.toList⟩] }
  | refuses {i : Nat} {call : Call} {c : Chunk} (found : s.calls[i]? = some call)
      (stage : call.stage = .entering c) :
      Happens s (s.setCall i { call with stage := .leaving (.refused c .released) })
  | chooses {i : Nat} {call : Call} {c : Chunk} (found : s.calls[i]? = some call)
      (stage : call.stage = .entering c) (open_ : s.file.released = false) :
      Happens s (s.setCall i { call with stage := .choosing c })
  | keeps {i : Nat} {call : Call} {c : Chunk} (found : s.calls[i]? = some call)
      (stage : call.stage = .choosing c) :
      Happens s (s.setCall i { call with stage := .offering c })
  | launches {i : Nat} {call : Call} {c : Chunk} (found : s.calls[i]? = some call)
      (stage : call.stage = .choosing c) :
      Happens s { s.setCall i
          { call with stage := .offering c, stale := call.stale ++ s.file.inUse.toList } with
        file := s.file.launch }
  | launchFails {i : Nat} {call : Call} {c : Chunk} {text : String}
      (found : s.calls[i]? = some call) (stage : call.stage = .choosing c) :
      Happens s { s.setCall i
          { call with
            stage := .leaving (.refused c (.notStarted text))
            stale := call.stale ++ s.file.inUse.toList } with
        file := { s.file with inUse := none } }
  | offers {i k : Nat} {call : Call} {c : Chunk} {d d' : Downloader} {fired : List Firing}
      (found : s.calls[i]? = some call) (stage : call.stage = .offering c)
      (use : s.file.downloaders[k]? = some d) (takes : Downloader.Enqueues d c (.ok (d', fired))) :
      Happens s { s.setCall i { call with stage := .leaving (.queued c.signal) } with
        file := { s.file with downloaders := s.file.downloaders.set k d' }
        accepted := s.accepted ++ [(k, c.signal)]
        fired := s.fired ++ fired }
  | handsBack {i : Nat} {call : Call} {c c' : Chunk} (found : s.calls[i]? = some call)
      (stage : call.stage = .offering c) (signal : c'.signal = c.signal) :
      Happens s (s.setCall i { call with stage := .choosing c' })
  | leaves {i : Nat} {call : Call} {errand : Errand} (found : s.calls[i]? = some call)
      (stage : call.stage = .leaving errand) :
      Happens s { s.setCall i { call with stage := .joining errand } with
        file := s.file.stopAll call.stale }
  | returns {i : Nat} {call : Call} {errand : Errand} (found : s.calls[i]? = some call)
      (stage : call.stage = .joining errand) :
      Happens s (s.leave i call errand)
  | moves {k : Nat} {d d' : Downloader} {e : Downloader.Event} {fired : List Firing}
      (found : s.file.downloaders[k]? = some d) (move : Downloader.Moves d e d' fired) :
      Happens s { s with
        file := { s.file with downloaders := s.file.downloaders.set k d' }
        fired := s.fired ++ fired }

variable (s : SharedFile)

theorem ask_happens (caller : Option Nat) (start limit : Nat) :
    Happens s (s.ask caller start limit) := by
  unfold ask
  dsimp only
  cases fresh : Chunk.request s.asked.length start limit with
  | error firing =>
    rw [Chunk.of_request_error fresh]
    exact .answers (.inl rfl) rfl (by simp)
  | ok c =>
    have signal := (Chunk.of_request fresh).1
    dsimp only
    by_cases released : s.file.released = true
    · rw [if_pos released]
      exact .answers (.inl rfl) signal (by simp [Chunk.fail])
    · rw [if_neg released]
      by_cases past : s.file.identity.size ≤ start
      · rw [if_pos past]
        exact .answers (.inr rfl) signal (by simp [Chunk.complete])
      · rw [if_neg past]
        exact .enters signal

theorem release_happens (caller : Option Nat) : Happens s (s.release caller) := by
  unfold release
  by_cases free : s.isFree = true
  · rw [if_pos free]
    exact .withdraws free
  · rw [if_neg free]
    exact .stays

variable {s}

theorem offer_happens {i : Nat} {call : Call} {c : Chunk} (found : s.calls[i]? = some call)
    (stage : call.stage = .offering c) : Happens s (s.offer i call c) := by
  unfold offer
  rcases s.file.offer_cases c with ⟨c', signal, h⟩ | ⟨k, d, d', fired, use, there, enqueues, h⟩
  · rw [h]
    exact .handsBack found stage signal
  · have place : s.file.inUse.toList.map (·, c.signal) = [(k, c.signal)] := by
      rw [use]
      rfl
    rw [h]
    dsimp only
    rw [place]
    exact .offers found stage there enqueues

theorem renew_happens {i : Nat} {call : Call} {c : Chunk} (found : s.calls[i]? = some call)
    (stage : call.stage = .choosing c) :
    Happens s { s.setCall i
        { call with stage := .offering c, stale := call.stale ++ s.file.stale?.toList } with
      file := s.file.renew } := by
  unfold StreamingFile.stale? StreamingFile.renew
  by_cases served : s.file.isServed = true
  · rw [if_pos served, if_pos served]
    simpa [setCall] using Happens.keeps found stage
  · rw [if_neg served, if_neg served]
    exact .launches found stage

theorem advance_happens (s : SharedFile) (i : Nat) : Happens s (s.advance i) := by
  unfold advance
  cases found : s.calls[i]? with
  | none => exact .stays
  | some call =>
    dsimp only
    cases stage : call.stage with
    | entering c =>
      dsimp only
      split
      · exact .stays
      · split
        · exact .refuses found stage
        · rename_i open_
          exact .chooses found stage (by simpa using open_)
    | choosing c => exact renew_happens found stage
    | offering c => exact offer_happens found stage
    | leaving errand => exact .leaves found stage
    | joining errand =>
      dsimp only
      split
      · exact .returns found stage
      · exact .stays

theorem launchFails_happens (s : SharedFile) (i : Nat) (text : String) :
    Happens s (s.launchFails i text) := by
  unfold launchFails
  cases found : s.calls[i]? with
  | none => exact .stays
  | some call =>
    dsimp only
    cases stage : call.stage with
    | choosing c =>
      dsimp only
      split
      · exact .stays
      · exact .launchFails found stage
    | _ => exact .stays

theorem move_happens (s : SharedFile) (k : Nat) (e : Downloader.Event) :
    Happens s (s.move k e) := by
  unfold move StreamingFile.step
  cases found : s.file.downloaders[k]? with
  | none => simpa using Happens.stays
  | some d => exact .moves found (d.step_moves e)

theorem step_happens (s : SharedFile) (x : Happening) : Happens s (s.step x) := by
  cases x with
  | ask caller start limit => exact ask_happens s caller start limit
  | release caller => exact release_happens s caller
  | advance i => exact advance_happens s i
  | launchFails i text => exact launchFails_happens s i text
  | move k e => exact move_happens s k e

theorem run_induction {P : SharedFile → Prop} (keep : ∀ s s', Happens s s' → P s → P s')
    (xs : List Happening) {s : SharedFile} (h : P s) : P (s.run xs) := by
  induction xs generalizing s with
  | nil => exact h
  | cons x rest ih => exact ih (keep s (s.step x) (s.step_happens x) h)

end SharedFile

end RangeFetch
