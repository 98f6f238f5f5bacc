import RangeFetch.Chunk.Completion

namespace RangeFetch

@[ext]
structure Chunk where
  signal : Nat
  offset : Nat
  limit : Nat
  buffer : Bytes
  offset_add_length_le_limit : offset + buffer.length ≤ limit
  deriving DecidableEq

namespace Chunk

/-- A chunk that has no bytes yet, or what its signal fires with if the range is backwards. -/
def request (signal start limit : Nat) : Except Firing Chunk :=
  if h : start ≤ limit then .ok ⟨signal, start, limit, [], h⟩
  else .error ⟨signal, .failed (.invalidRange start limit)⟩

def cursor (c : Chunk) : Nat := c.offset + c.buffer.length

def remaining (c : Chunk) : Nat := c.limit - c.cursor

def isFull (c : Chunk) : Bool := c.cursor == c.limit

theorem cursor_le_limit (c : Chunk) : c.cursor ≤ c.limit := c.offset_add_length_le_limit

theorem cursor_of_fresh {c : Chunk} (fresh : c.buffer = []) : c.cursor = c.offset := by
  rw [cursor, fresh]
  rfl

theorem of_request {signal start limit : Nat} {c : Chunk} (h : request signal start limit = .ok c) :
    c.signal = signal ∧ c.offset = start ∧ c.limit = limit ∧ c.buffer = [] ∧ start ≤ limit := by
  unfold request at h
  split at h
  · rename_i ordered
    cases h
    exact ⟨rfl, rfl, rfl, rfl, ordered⟩
  · cases h

theorem of_request_error {signal start limit : Nat} {firing : Firing}
    (h : request signal start limit = .error firing) :
    firing = ⟨signal, .failed (.invalidRange start limit)⟩ := by
  unfold request at h
  split at h
  · cases h
  · cases h
    rfl

/-- Lowers the limit to the size of the file, though not below the cursor. -/
def clampTo (c : Chunk) (fileSize : Nat) : Chunk :=
  { c with
    limit := min c.limit (max fileSize c.cursor)
    offset_add_length_le_limit := by
      have := c.offset_add_length_le_limit
      simp only [cursor]
      omega }

@[simp] theorem signal_clampTo (c : Chunk) (n : Nat) : (c.clampTo n).signal = c.signal := rfl

@[simp] theorem offset_clampTo (c : Chunk) (n : Nat) : (c.clampTo n).offset = c.offset := rfl

@[simp] theorem buffer_clampTo (c : Chunk) (n : Nat) : (c.clampTo n).buffer = c.buffer := rfl

@[simp] theorem cursor_clampTo (c : Chunk) (n : Nat) : (c.clampTo n).cursor = c.cursor := rfl

theorem limit_clampTo (c : Chunk) (n : Nat) : (c.clampTo n).limit = min c.limit (max n c.cursor) :=
  rfl

theorem clampTo_clampTo (c : Chunk) (n : Nat) : (c.clampTo n).clampTo n = c.clampTo n := by
  ext1
  case limit =>
    rw [limit_clampTo, limit_clampTo, cursor_clampTo]
    omega
  all_goals rfl

def accepts (c : Chunk) (bytes : Bytes) : Nat := min bytes.length c.remaining

/-- Takes the first bytes, as many as the chunk still wants. -/
def write (c : Chunk) (bytes : Bytes) : Chunk :=
  { c with
    buffer := c.buffer ++ bytes.take (c.accepts bytes)
    offset_add_length_le_limit := by
      have := c.offset_add_length_le_limit
      simp only [List.length_append, List.length_take, accepts, remaining, cursor]
      omega }

@[simp] theorem signal_write (c : Chunk) (bytes : Bytes) : (c.write bytes).signal = c.signal := rfl

@[simp] theorem offset_write (c : Chunk) (bytes : Bytes) : (c.write bytes).offset = c.offset := rfl

@[simp] theorem limit_write (c : Chunk) (bytes : Bytes) : (c.write bytes).limit = c.limit := rfl

theorem buffer_write (c : Chunk) (bytes : Bytes) :
    (c.write bytes).buffer = c.buffer ++ bytes.take (c.accepts bytes) := rfl

theorem write_nil (c : Chunk) : c.write [] = c := by
  simp [write]

theorem accepts_le_length (c : Chunk) (bytes : Bytes) : c.accepts bytes ≤ bytes.length :=
  Nat.min_le_left _ _

theorem cursor_write (c : Chunk) (bytes : Bytes) :
    (c.write bytes).cursor = c.cursor + c.accepts bytes := by
  have := c.accepts_le_length bytes
  simp only [cursor, buffer_write, offset_write, List.length_append, List.length_take]
  omega

theorem remaining_write (c : Chunk) (bytes : Bytes) :
    (c.write bytes).remaining = c.remaining - bytes.length := by
  simp only [remaining, limit_write, cursor_write, accepts]
  omega

theorem write_append_of_le (c : Chunk) {a : Bytes} (b : Bytes) (h : c.remaining ≤ a.length) :
    c.write (a ++ b) = c.write a := by
  have taken : c.accepts (a ++ b) = c.accepts a := by
    simp only [accepts, List.length_append]
    omega
  simp only [write, taken, List.take_append_of_le_length (c.accepts_le_length a)]

theorem write_write (c : Chunk) (a b : Bytes) : (c.write a).write b = c.write (a ++ b) := by
  ext1
  case buffer =>
    by_cases short : a.length < c.remaining
    · have whole : c.accepts a = a.length := Nat.min_eq_left (Nat.le_of_lt short)
      have taken : c.accepts (a ++ b) = a.length + (c.write a).accepts b := by
        simp only [accepts, remaining_write, List.length_append]
        omega
      rw [buffer_write, buffer_write, buffer_write, taken, whole, List.take_length_add_append,
        List.take_length, List.append_assoc]
    · have none : (c.write a).accepts b = 0 := by
        simp only [accepts, remaining_write]
        omega
      rw [c.write_append_of_le b (Nat.le_of_not_lt short), buffer_write, none, List.take_zero,
        List.append_nil]
  all_goals rfl

def times (signal : Nat) (chunks : List Chunk) : Nat := chunks.countP (·.signal == signal)

@[simp] theorem times_nil (n : Nat) : times n [] = 0 := rfl

@[simp] theorem times_cons (n : Nat) (c : Chunk) (l : List Chunk) :
    times n (c :: l) = times n l + (c.signal == n).toNat := by
  rw [times, List.countP_cons]
  cases c.signal == n <;> rfl

@[simp] theorem times_append (n : Nat) (l₁ l₂ : List Chunk) :
    times n (l₁ ++ l₂) = times n l₁ + times n l₂ := List.countP_append

def complete (c : Chunk) : Firing := ⟨c.signal, .served ⟨c.offset, c.buffer⟩⟩

def fail (c : Chunk) (e : ChunkError) : Firing := ⟨c.signal, .failed e⟩

def abandon (c : Chunk) : Firing := c.fail .abandoned

@[simp] theorem signal_complete (c : Chunk) : c.complete.signal = c.signal := rfl

@[simp] theorem signal_fail (c : Chunk) (e : ChunkError) : (c.fail e).signal = c.signal := rfl

end Chunk

end RangeFetch
