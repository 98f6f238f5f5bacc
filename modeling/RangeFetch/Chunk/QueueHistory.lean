import RangeFetch.Chunk.Queue

namespace RangeFetch

/-- What is done to a queue. Each of these is one step for everybody else; a wait is so when it
ends. -/
inductive ChunkQueue.Operation where
  | enqueue (c : Chunk)
  | dequeue
  | dequeueOrClose
  | close
  | stop

structure QueueHistory where
  queue : ChunkQueue
  accepted : List Chunk
  handedBack : List Chunk
  dequeued : List Chunk
  /-- The chunks that were taken out when the queue was closed. -/
  drained : List Chunk

namespace QueueHistory

open ChunkQueue (Operation)

def start (fileSize : Nat) : QueueHistory := ⟨.empty fileSize, [], [], [], []⟩

def enqueue (h : QueueHistory) (c : Chunk) : QueueHistory :=
  match h.queue.enqueue c with
  | .ok queue =>
    { h with
      queue := queue
      accepted := h.accepted ++ [c.clampTo h.queue.fileSize] }
  | .error c' => { h with handedBack := h.handedBack ++ [c'] }

def await (h : QueueHistory) (outcome : Dequeued × ChunkQueue) : QueueHistory :=
  { h with
    queue := outcome.2
    dequeued := h.dequeued ++ outcome.1.chunk?.toList }

def step (h : QueueHistory) : Operation → QueueHistory
  | .enqueue c => h.enqueue c
  | .dequeue => h.await h.queue.dequeue
  | .dequeueOrClose => h.await h.queue.dequeueOrClose
  | .close => { h with queue := h.queue.close.2, drained := h.drained ++ h.queue.close.1 }
  | .stop => { h with queue := h.queue.stop }

def run (h : QueueHistory) : List Operation → QueueHistory
  | [] => h
  | x :: rest => (h.step x).run rest

def offers (xs : List Operation) : List Chunk :=
  xs.filterMap fun
    | .enqueue c => some c
    | _ => none

/-- What an operation can do. -/
inductive Steps (h : QueueHistory) : Operation → QueueHistory → Prop where
  | accepts {c : Chunk} (isOpen : h.queue.isClosed = false) :
      Steps h (.enqueue c) { h with
        queue := { h.queue with
          pending := ChunkQueue.insert (c.clampTo h.queue.fileSize) h.queue.pending }
        accepted := h.accepted ++ [c.clampTo h.queue.fileSize] }
  | refuses {c : Chunk} (closed : h.queue.isClosed = true) :
      Steps h (.enqueue c) { h with handedBack := h.handedBack ++ [c.clampTo h.queue.fileSize] }
  | takes {x : Operation} {c : Chunk} {rest : List Chunk}
      (waits : x = .dequeue ∨ x = .dequeueOrClose) (running : h.queue.stopped = false)
      (first : h.queue.pending = c :: rest) :
      Steps h x { h with
        queue := { h.queue with pending := rest }
        dequeued := h.dequeued ++ [c] }
  | misses {x : Operation} (waits : x = .dequeue ∨ x = .dequeueOrClose)
      (why : h.queue.stopped = true ∨ x = .dequeue ∧ h.queue.pending = []) : Steps h x h
  | expires (running : h.queue.stopped = false) (none : h.queue.pending = []) :
      Steps h .dequeueOrClose { h with queue := { h.queue with closed := true } }
  | closes :
      Steps h .close { h with
        queue := { h.queue with pending := [], closed := true }
        drained := h.drained ++ h.queue.pending }
  | stops : Steps h .stop { h with queue := { h.queue with stopped := true } }

variable (h : QueueHistory)

theorem enqueue_steps (c : Chunk) : Steps h (.enqueue c) (h.enqueue c) := by
  unfold enqueue
  cases closed : h.queue.isClosed with
  | false =>
    rw [ChunkQueue.enqueue_of_open c closed]
    exact .accepts closed
  | true =>
    rw [ChunkQueue.enqueue_of_closed c closed]
    exact .refuses closed

theorem dequeue_steps : Steps h .dequeue (h.await h.queue.dequeue) := by
  unfold await
  cases stop : h.queue.stopped with
  | true =>
    rw [ChunkQueue.dequeue_of_stopped stop]
    simpa [Dequeued.chunk?] using Steps.misses (.inl rfl) (.inl stop)
  | false =>
    cases first : h.queue.pending with
    | nil =>
      rw [ChunkQueue.dequeue_nil stop first]
      simpa [Dequeued.chunk?] using Steps.misses (.inl rfl) (.inr ⟨rfl, first⟩)
    | cons c rest =>
      rw [ChunkQueue.dequeue_cons stop first]
      exact .takes (.inl rfl) stop first

theorem dequeueOrClose_steps : Steps h .dequeueOrClose (h.await h.queue.dequeueOrClose) := by
  unfold await
  cases stop : h.queue.stopped with
  | true =>
    rw [ChunkQueue.dequeueOrClose_of_stopped stop]
    simpa [Dequeued.chunk?] using Steps.misses (.inr rfl) (.inl stop)
  | false =>
    cases first : h.queue.pending with
    | nil =>
      rw [ChunkQueue.dequeueOrClose_nil stop first]
      simpa [Dequeued.chunk?, first] using Steps.expires stop first
    | cons c rest =>
      rw [ChunkQueue.dequeueOrClose_cons stop first]
      exact .takes (.inr rfl) stop first

theorem step_steps (x : Operation) : Steps h x (h.step x) := by
  cases x with
  | enqueue c => exact h.enqueue_steps c
  | dequeue => exact h.dequeue_steps
  | dequeueOrClose => exact h.dequeueOrClose_steps
  | close => exact .closes
  | stop => exact .stops

variable {h}

theorem run_induction {P : QueueHistory → Prop}
    (keep : ∀ h x h', Steps h x h' → P h → P h') (xs : List Operation) (hp : P h) :
    P (h.run xs) := by
  induction xs generalizing h with
  | nil => exact hp
  | cons x rest ih => exact ih (keep h x (h.step x) (h.step_steps x) hp)

theorem fileSize_run (xs : List Operation) : (h.run xs).queue.fileSize = h.queue.fileSize := by
  refine run_induction (P := fun h' => h'.queue.fileSize = h.queue.fileSize) ?_ xs rfl
  intro h' x h'' steps same
  cases steps <;> exact same

end QueueHistory

end RangeFetch
