import RangeFetch.Download.Downloader

namespace RangeFetch

namespace Downloader

def taken? (d : Downloader) : Event → Option Chunk
  | .take =>
    match d.phase, d.queue.dequeueOrClose with
    | .idle, (.chunk c, _) => some c
    | .between _ _, (.chunk c, _) => some c
    | _, _ => none
  | _ => none

theorem taken?_take {d : Downloader} {c : Chunk} {rest : List Chunk}
    (running : d.queue.stopped = false) (first : d.queue.pending = c :: rest)
    (waits : d.phase = .idle ∨ ∃ leftover stream, d.phase = .between leftover stream) :
    d.taken? .take = some c := by
  rcases waits with at_ | ⟨leftover, stream, at_⟩ <;>
    simp [taken?, at_, ChunkQueue.dequeueOrClose_cons running first]

def wanted? (d : Downloader) : Option Nat :=
  match d.phase with
  | .requesting c => some c.cursor
  | _ => none

theorem wanted?_of_requesting {d : Downloader} {c : Chunk} (h : d.phase = .requesting c) :
    d.wanted? = some c.cursor := by
  rw [wanted?, h]

theorem wanted?_eq_none {d : Downloader} (h : ∀ c, d.phase ≠ .requesting c) : d.wanted? = none := by
  unfold wanted?
  split
  · rename_i c at_
    exact absurd at_ (h c)
  · rfl

theorem requesting_of_wanted? {d : Downloader} {start : Nat} (h : d.wanted? = some start) :
    ∃ c, d.phase = .requesting c ∧ c.cursor = start := by
  unfold wanted? at h
  split at h
  · rename_i c phase
    exact ⟨c, phase, Option.some.inj h⟩
  · cases h

def requested? (before after : Downloader) : Option Nat :=
  if before.wanted? = none then after.wanted? else none

theorem requested?_eq_none {d d' : Downloader} (h : ∀ c, d'.phase ≠ .requesting c) :
    d.requested? d' = none := by
  rw [requested?, wanted?_eq_none h, ite_self]

theorem requested?_eq_some {d d' : Downloader} {c : Chunk} (before : ∀ c, d.phase ≠ .requesting c)
    (after : d'.phase = .requesting c) : d.requested? d' = some c.cursor := by
  rw [requested?, if_pos (wanted?_eq_none before), wanted?_of_requesting after]

inductive Happening where
  | ask (start limit : Nat)
  | stop
  | move (event : Event)

def Happening.opened? : Happening → Option Stream
  | .move (.opened (.ok stream)) => some stream
  | _ => none

end Downloader

/-- The chunk is for a range that was asked for under its signal, clamped to the file. -/
def Chunk.IsFor (asked : List (Nat × Nat)) (size : Nat) (c : Chunk) : Prop :=
  ∃ limit, asked[c.signal]? = some (c.offset, limit) ∧ c.limit = min limit size

namespace Chunk.IsFor

variable {asked : List (Nat × Nat)} {size : Nat} {c : Chunk}

theorem append (h : c.IsFor asked size) (more : List (Nat × Nat)) :
    c.IsFor (asked ++ more) size := by
  obtain ⟨limit, found, clamped⟩ := h
  refine ⟨limit, ?_, clamped⟩
  rw [List.getElem?_append_left (List.getElem?_eq_some_iff.mp found).1, found]

theorem of_request {start limit : Nat} (fresh : Chunk.request asked.length start limit = .ok c)
    (within : c.cursor < size) : (c.clampTo size).IsFor (asked ++ [(start, limit)]) size := by
  obtain ⟨signal, offset, range, -⟩ := Chunk.of_request fresh
  refine ⟨limit, ?_, ?_⟩
  · rw [Chunk.signal_clampTo, Chunk.offset_clampTo, signal, offset]
    simp
  · rw [Chunk.limit_clampTo, range, Nat.max_eq_left (Nat.le_of_lt within)]

end Chunk.IsFor

open Downloader (Happening Event)

structure History where
  downloader : Downloader
  /-- The ranges asked for so far. The signal of each is its place. -/
  asked : List (Nat × Nat)
  handedBack : List Chunk
  /-- The chunks in the order in which they were taken from the queue. -/
  taken : List Chunk
  requested : List Nat
  fired : List Firing

namespace History

def start (identity : FileIdentity) (options : DownloadOptions) : History :=
  ⟨.start identity options, [], [], [], [], []⟩

/-- Offers a fresh chunk. A backwards range fires its signal and reaches no downloader. -/
def ask (h : History) (start limit : Nat) : History :=
  let noted := { h with asked := h.asked ++ [(start, limit)] }
  match Chunk.request h.asked.length start limit with
  | .error firing => { noted with fired := h.fired ++ [firing] }
  | .ok c =>
    match h.downloader.enqueue c with
    | .ok (d, fired) => { noted with downloader := d, fired := h.fired ++ fired }
    | .error c' => { noted with handedBack := h.handedBack ++ [c'] }

def move (h : History) (e : Event) : History :=
  { h with
    downloader := (h.downloader.step e).1
    taken := h.taken ++ (h.downloader.taken? e).toList
    requested := h.requested ++ (h.downloader.requested? (h.downloader.step e).1).toList
    fired := h.fired ++ (h.downloader.step e).2 }

def step (h : History) : Happening → History
  | .ask start limit => h.ask start limit
  | .stop => { h with downloader := h.downloader.stop }
  | .move e => h.move e

def run (h : History) : List Happening → History
  | [] => h
  | x :: rest => (h.step x).run rest

theorem run_append (xs ys : List Happening) (h : History) :
    h.run (xs ++ ys) = (h.run xs).run ys := by
  induction xs generalizing h with
  | nil => rfl
  | cons x rest ih => exact ih (h.step x)

/-- Every happening meets a condition on the downloader that it happens to. -/
def Along (allowed : Downloader → Happening → Prop) : History → List Happening → Prop
  | _, [] => True
  | h, x :: rest => allowed h.downloader x ∧ Along allowed (h.step x) rest

instance instDecidableAlong (allowed : Downloader → Happening → Prop)
    [∀ d x, Decidable (allowed d x)] :
    (h : History) → (xs : List Happening) → Decidable (Along allowed h xs)
  | _, [] => isTrue trivial
  | h, x :: rest =>
    have := instDecidableAlong allowed (h.step x) rest
    inferInstanceAs (Decidable (allowed h.downloader x ∧ Along allowed (h.step x) rest))

theorem run_induction {P : History → Prop} {allowed : Downloader → Happening → Prop}
    (keep : ∀ h x, P h → allowed h.downloader x → P (h.step x)) :
    ∀ (xs : List Happening) (h : History), P h → Along allowed h xs → P (h.run xs) := by
  intro xs
  induction xs with
  | nil =>
    intro h hp _
    exact hp
  | cons x rest ih =>
    intro h hp ha
    exact ih (h.step x) (keep h x hp ha.1) ha.2

theorem along_of_forall {allowed : Downloader → Happening → Prop} :
    ∀ (xs : List Happening) (h : History), (∀ x ∈ xs, ∀ d, allowed d x) → Along allowed h xs := by
  intro xs
  induction xs with
  | nil =>
    intro h _
    trivial
  | cons x rest ih =>
    intro h hx
    refine ⟨hx x (by simp) h.downloader, ih (h.step x) ?_⟩
    intro y hy
    exact hx y (by simp [hy])

end History

end RangeFetch
