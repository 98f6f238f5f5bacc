import RangeFetch.Download.Downloader
import RangeFetch.File.Error

namespace RangeFetch

structure StreamingFile where
  identity : FileIdentity
  options : DownloadOptions
  /-- Every downloader that was started, the oldest first. -/
  downloaders : List Downloader
  /-- The place of the one in use. -/
  inUse : Option Nat
  released : Bool
  /-- How many reads were complete without a downloader. -/
  completeAtOnce : Nat
  deriving DecidableEq

namespace StreamingFile

def new (identity : FileIdentity) (options : DownloadOptions) : StreamingFile :=
  ⟨identity, options, [], none, false, 0⟩

/-- Counted over all downloaders of the file. -/
def stats (f : StreamingFile) : DownloadStats :=
  f.downloaders.foldr (fun d s => d.stats + s)
    { DownloadStats.zero with chunksCompleted := f.completeAtOnce }

/-- A downloader has stopped and fired all its chunks. -/
def hasEnded (f : StreamingFile) (k : Nat) : Bool :=
  f.downloaders[k]?.all fun d => d.phase == .stopped

def current? (f : StreamingFile) : Option Downloader := f.inUse.bind fun k => f.downloaders[k]?

def isServed (f : StreamingFile) : Bool := f.current?.any fun d => !d.isStopped

def stale? (f : StreamingFile) : Option Nat := if f.isServed then none else f.inUse

def launch (f : StreamingFile) : StreamingFile :=
  { f with
    downloaders := f.downloaders ++ [Downloader.start f.identity f.options]
    inUse := some f.downloaders.length }

def renew (f : StreamingFile) : StreamingFile := if f.isServed then f else f.launch

theorem renew_cases (f : StreamingFile) :
    ∃ k d, f.renew.inUse = some k ∧ f.renew.downloaders[k]? = some d ∧ d.isStopped = false ∧
      (f.current? = some d ∧ f.stale? = none ∨
        d = .start f.identity f.options ∧ k = f.downloaders.length ∧ f.stale? = f.inUse) := by
  unfold renew stale?
  by_cases served : f.isServed = true
  · rw [if_pos served, if_pos served]
    obtain ⟨d, current, running⟩ := (Option.any_eq_true _ _).mp served
    obtain ⟨k, use, there⟩ := Option.bind_eq_some_iff.mp current
    exact ⟨k, d, use, there, by simpa using running, .inl ⟨current, rfl⟩⟩
  · rw [if_neg served, if_neg served]
    exact ⟨f.downloaders.length, .start f.identity f.options, rfl, by simp [launch], rfl,
      .inr ⟨rfl, rfl, rfl⟩⟩

def offer (f : StreamingFile) (c : Chunk) : Except Chunk (StreamingFile × List Firing) :=
  match f.inUse with
  | none => .error c
  | some k =>
    match f.downloaders[k]? with
    | none => .error c
    | some d =>
      match d.enqueue c with
      | .ok (d', fired) => .ok ({ f with downloaders := f.downloaders.set k d' }, fired)
      | .error handedBack => .error handedBack

def stopAll (f : StreamingFile) (places : List Nat) : StreamingFile :=
  { f with downloaders := f.downloaders.mapIdx fun k d => if k ∈ places then d.stop else d }

theorem getElem?_stopAll (f : StreamingFile) (places : List Nat) (k : Nat) :
    (f.stopAll places).downloaders[k]? =
      f.downloaders[k]?.map fun d => if k ∈ places then d.stop else d :=
  List.getElem?_mapIdx

/-- Puts a chunk into the queue of a downloader that runs. A running downloader hands nothing back.
-/
def accept (f : StreamingFile) (c : Chunk) : StreamingFile × List Firing :=
  let (f', fired) := match f.renew.offer c with
    | .ok accepted => accepted
    | .error handedBack => (f.renew, [handedBack.abandon])
  (f'.stopAll f.stale?.toList, fired)

def countComplete (f : StreamingFile) : StreamingFile :=
  { f with completeAtOnce := f.completeAtOnce + 1 }

/-- Asks for the bytes from `start` up to `limit`. A backwards range is refused, then everything
on a released file; a read past the end of the file is complete at once. -/
def enqueue (f : StreamingFile) (signal start limit : Nat) :
    Except FileError Unit × StreamingFile × List Firing :=
  match Chunk.request signal start limit with
  | .error firing => (.error (.invalidRange start limit), f, [firing])
  | .ok c =>
    if f.released then (.error .released, f, [c.fail .cancelled])
    else if f.identity.size ≤ start then (.ok (), f.countComplete, [c.complete])
    else (.ok (), f.accept c)

/-- The end of a read of `size` bytes; it stays within what an offset can say. -/
def readLimit (offset size : Nat) : Nat := min (offset + size) Limits.maxOffset

def withdraw (f : StreamingFile) : StreamingFile := { f with released := true, inUse := none }

/-- Refuses further reads and asks the downloader to stop. -/
def release (f : StreamingFile) : StreamingFile := f.withdraw.stopAll f.inUse.toList

def step (f : StreamingFile) (k : Nat) (e : Downloader.Event) : StreamingFile × List Firing :=
  match f.downloaders[k]? with
  | none => (f, [])
  | some d =>
    let (moved, fired) := d.step e
    ({ f with downloaders := f.downloaders.set k moved }, fired)

def describe (f : StreamingFile) : String :=
  Text.record "StreamingFile"
    [("identity", f.identity.record), ("released", toString f.released)] true

end StreamingFile

end RangeFetch
