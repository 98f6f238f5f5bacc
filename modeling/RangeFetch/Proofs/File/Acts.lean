import RangeFetch.File.Observed
import RangeFetch.Proofs.File.Happens

namespace RangeFetch

/-- What a call may still answer. From its turn on, it is refused only if no downloader starts. -/
def CallStage.mayAnswer : CallStage → Except FileError Unit → Prop
  | entering _, _ => True
  | choosing _, answer => answer = .ok () ∨ ∃ text, answer = .error (.notStarted text)
  | offering _, answer => answer = .ok () ∨ ∃ text, answer = .error (.notStarted text)
  | leaving errand, answer => ∃ signal, (signal, answer) ∈ errand.answers
  | joining errand, answer => ∃ signal, (signal, answer) ∈ errand.answers

theorem StreamingFile.buffer_of_offer {f : StreamingFile} {c c' : Chunk}
    (h : f.offer c = .error c') : c'.buffer = c.buffer := by
  unfold offer at h
  split at h
  · cases h
    rfl
  · split at h
    · cases h
      rfl
    · rename_i d _
      have enqueues := d.enqueue_enqueues c
      split at h
      · cases h
      · rename_i outcome
        rw [outcome] at enqueues
        cases h
        cases enqueues
        rfl

namespace SharedFile

/-- What a happening does. -/
inductive Acts (s : SharedFile) : Happening → SharedFile → Prop where
  | stays {x : Happening}
      (unseen : ∀ {α : Type} (see : Downloader → Downloader.Event → List α), s.seen see x = []) :
      Acts s x s
  | fails {caller : Option Nat} {start limit : Nat} {firing : Firing} {e : FileError}
      (signal : firing.signal = s.asked.length) (failed : firing.isServed = false) :
      Acts s (.ask caller start limit) { s with
        asked := s.asked ++ [(start, limit)]
        fired := s.fired ++ [firing]
        answers := s.answers ++ [(s.asked.length, .error e)] }
  | completes {caller : Option Nat} {start limit : Nat} {c : Chunk}
      (signal : c.signal = s.asked.length) (empty : c.buffer = []) :
      Acts s (.ask caller start limit) { s with
        file := s.file.countComplete
        asked := s.asked ++ [(start, limit)]
        fired := s.fired ++ [c.complete]
        answers := s.answers ++ [(s.asked.length, .ok ())] }
  | enters {caller : Option Nat} {start limit : Nat} {c : Chunk}
      (signal : c.signal = s.asked.length) (empty : c.buffer = []) :
      Acts s (.ask caller start limit) { s with
        asked := s.asked ++ [(start, limit)]
        calls := s.calls ++ [⟨caller, .entering c, []⟩] }
  | withdraws {caller : Option Nat} :
      Acts s (.release caller) { s with
        file := s.file.withdraw
        calls := s.calls ++ [⟨caller, .leaving .release, s.file.inUse.toList⟩] }
  | turns {x : Happening} {i : Nat} {call call' : Call} {file : StreamingFile}
      (unseen : ∀ {α : Type} (see : Downloader → Downloader.Event → List α), s.seen see x = [])
      (found : s.calls[i]? = some call) (signal : call'.stage.signal? = call.stage.signal?)
      (hand : ∀ c' ∈ call'.stage.chunks, ∃ c ∈ call.stage.chunks, c'.buffer = c.buffer)
      (narrows : ∀ answer, call'.stage.mayAnswer answer → call.stage.mayAnswer answer)
      (same : file.downloaders = s.file.downloaders)
      (counted : file.completeAtOnce = s.file.completeAtOnce) :
      Acts s x { s.setCall i call' with file := file }
  | launches {i : Nat} {call : Call} {c : Chunk} (found : s.calls[i]? = some call)
      (stage : call.stage = .choosing c) :
      Acts s (.advance i) { s.setCall i
          { call with stage := .offering c, stale := call.stale ++ s.file.inUse.toList } with
        file := s.file.launch }
  | offers {i k : Nat} {call : Call} {c : Chunk} {d d' : Downloader} {fired : List Firing}
      (found : s.calls[i]? = some call) (stage : call.stage = .offering c)
      (use : s.file.downloaders[k]? = some d) (takes : Downloader.Enqueues d c (.ok (d', fired))) :
      Acts s (.advance i) { s.setCall i { call with stage := .leaving (.queued c.signal) } with
        file := { s.file with downloaders := s.file.downloaders.set k d' }
        accepted := s.accepted ++ [(k, c.signal)]
        fired := s.fired ++ fired }
  | leaves {i : Nat} {call : Call} {errand : Errand} (found : s.calls[i]? = some call)
      (stage : call.stage = .leaving errand) :
      Acts s (.advance i) { s.setCall i { call with stage := .joining errand } with
        file := s.file.stopAll call.stale }
  | returns {i : Nat} {call : Call} {errand : Errand} (found : s.calls[i]? = some call)
      (stage : call.stage = .joining errand) :
      Acts s (.advance i) (s.leave i call errand)
  | moves {k : Nat} {d : Downloader} {e : Downloader.Event}
      (found : s.file.downloaders[k]? = some d) :
      Acts s (.move k e) { s with
        file := { s.file with downloaders := s.file.downloaders.set k (d.step e).1 }
        fired := s.fired ++ (d.step e).2 }

variable (s : SharedFile)

theorem ask_acts (caller : Option Nat) (start limit : Nat) :
    Acts s (.ask caller start limit) (s.ask caller start limit) := by
  unfold ask
  dsimp only
  cases fresh : Chunk.request s.asked.length start limit with
  | error firing =>
    rw [Chunk.of_request_error fresh]
    exact .fails rfl rfl
  | ok c =>
    obtain ⟨signal, -, -, empty, -⟩ := Chunk.of_request fresh
    dsimp only
    by_cases released : s.file.released = true
    · rw [if_pos released]
      exact .fails signal rfl
    · rw [if_neg released]
      by_cases past : s.file.identity.size ≤ start
      · rw [if_pos past]
        exact .completes signal empty
      · rw [if_neg past]
        exact .enters signal empty

theorem release_acts (caller : Option Nat) : Acts s (.release caller) (s.release caller) := by
  unfold release
  by_cases free : s.isFree = true
  · rw [if_pos free]
    exact .withdraws
  · rw [if_neg free]
    exact .stays fun _ => rfl

variable {s}

theorem offer_acts {i : Nat} {call : Call} {c : Chunk} (found : s.calls[i]? = some call)
    (stage : call.stage = .offering c) : Acts s (.advance i) (s.offer i call c) := by
  unfold offer
  rcases s.file.offer_cases c with ⟨c', signal, h⟩ | ⟨k, d, d', fired, use, there, takes, h⟩
  · have same := StreamingFile.buffer_of_offer h
    rw [h]
    refine .turns (fun _ => rfl) found ?_ ?_ ?_ rfl rfl
    · simp [stage, CallStage.signal?, signal]
    · simp [stage, CallStage.chunks, same]
    · simp [stage, CallStage.mayAnswer]
  · have place : s.file.inUse.toList.map (·, c.signal) = [(k, c.signal)] := by
      rw [use]
      rfl
    rw [h]
    dsimp only
    rw [place]
    exact .offers found stage there takes

theorem renew_acts {i : Nat} {call : Call} {c : Chunk} (found : s.calls[i]? = some call)
    (stage : call.stage = .choosing c) :
    Acts s (.advance i) { s.setCall i
        { call with stage := .offering c, stale := call.stale ++ s.file.stale?.toList } with
      file := s.file.renew } := by
  unfold StreamingFile.stale? StreamingFile.renew
  by_cases served : s.file.isServed = true
  · rw [if_pos served, if_pos served]
    refine .turns (fun _ => rfl) found ?_ ?_ ?_ rfl rfl
    · simp [stage, CallStage.signal?]
    · simp [stage, CallStage.chunks]
    · simp [stage, CallStage.mayAnswer]
  · rw [if_neg served, if_neg served]
    exact .launches found stage

theorem advance_acts (s : SharedFile) (i : Nat) : Acts s (.advance i) (s.advance i) := by
  unfold advance
  cases found : s.calls[i]? with
  | none => exact .stays fun _ => rfl
  | some call =>
    dsimp only
    cases stage : call.stage with
    | entering c =>
      dsimp only
      split
      · exact .stays fun _ => rfl
      · split
        all_goals
          refine .turns (fun _ => rfl) found ?_ ?_ ?_ rfl rfl
          · simp [stage, CallStage.signal?, Errand.signal?]
          · simp [stage, CallStage.chunks]
          · simp [stage, CallStage.mayAnswer]
    | choosing c => exact renew_acts found stage
    | offering c => exact offer_acts found stage
    | leaving errand => exact .leaves found stage
    | joining errand =>
      dsimp only
      split
      · exact .returns found stage
      · exact .stays fun _ => rfl

theorem launchFails_acts (s : SharedFile) (i : Nat) (text : String) :
    Acts s (.launchFails i text) (s.launchFails i text) := by
  unfold launchFails
  cases found : s.calls[i]? with
  | none => exact .stays fun _ => rfl
  | some call =>
    dsimp only
    cases stage : call.stage with
    | choosing c =>
      dsimp only
      split
      · exact .stays fun _ => rfl
      · refine .turns (fun _ => rfl) found ?_ ?_ ?_ rfl rfl
        · simp [stage, CallStage.signal?, Errand.signal?]
        · simp [stage, CallStage.chunks]
        · simp [stage, CallStage.mayAnswer, Errand.answers]
    | _ => exact .stays fun _ => rfl

theorem move_acts (s : SharedFile) (k : Nat) (e : Downloader.Event) :
    Acts s (.move k e) (s.move k e) := by
  unfold move StreamingFile.step
  cases found : s.file.downloaders[k]? with
  | none =>
    have unseen {α : Type} (see : Downloader → Downloader.Event → List α) :
        s.seen see (.move k e) = [] := by
      rw [seen, found]
      rfl
    simpa using Acts.stays unseen
  | some d => exact .moves found

theorem step_acts (s : SharedFile) (x : Happening) : Acts s x (s.step x) := by
  cases x with
  | ask caller start limit => exact ask_acts s caller start limit
  | release caller => exact release_acts s caller
  | advance i => exact advance_acts s i
  | launchFails i text => exact launchFails_acts s i text
  | move k e => exact move_acts s k e

theorem run_append (s : SharedFile) (xs ys : List Happening) :
    s.run (xs ++ ys) = (s.run xs).run ys := by
  induction xs generalizing s with
  | nil => rfl
  | cons x rest ih => exact ih (s.step x)

theorem acts_induction {P : SharedFile → Prop} (keep : ∀ s x s', Acts s x s' → P s → P s')
    (xs : List Happening) {s : SharedFile} (h : P s) : P (s.run xs) := by
  induction xs generalizing s with
  | nil => exact h
  | cons x rest ih => exact ih (keep s x (s.step x) (s.step_acts x) h)

end SharedFile

end RangeFetch
