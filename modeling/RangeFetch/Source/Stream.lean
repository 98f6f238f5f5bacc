import RangeFetch.Bytes
import RangeFetch.Source.Error

namespace RangeFetch

/-- One delivery, or the error that stands in its place. -/
inductive Item where
  | bytes (delivered : Bytes)
  | failed (error : SourceError)
  deriving DecidableEq

/-- The bytes of an item; an error has none. -/
def Item.content : Item → Bytes
  | bytes delivered => delivered
  | failed _ => []

def Item.error? : Item → Option SourceError
  | bytes _ => none
  | failed e => some e

/-- What follows the last item of a stream. -/
inductive Ending where
  | eof
  | silent
  deriving DecidableEq

structure Stream where
  offset : Nat
  items : List Item
  ending : Ending
  deriving DecidableEq

namespace Stream

inductive Next where
  | bytes (delivered : Bytes) (rest : Stream)
  | failed (error : SourceError)
  | ended
  /-- Nothing is there, and the stream is not at its end. -/
  | waiting
  deriving DecidableEq

/-- Bytes move the offset forward by their number. -/
def next (s : Stream) : Next :=
  match s.items with
  | .bytes delivered :: rest => .bytes delivered ⟨s.offset + delivered.length, rest, s.ending⟩
  | .failed e :: _ => .failed e
  | [] => match s.ending with
    | .eof => .ended
    | .silent => .waiting

theorem of_next_bytes {s rest : Stream} {delivered : Bytes} (h : s.next = .bytes delivered rest) :
    s.items = .bytes delivered :: rest.items ∧ rest.offset = s.offset + delivered.length ∧
      rest.ending = s.ending := by
  obtain ⟨offset, items, ending⟩ := s
  cases items with
  | nil => cases ending <;> simp [next] at h
  | cons item more =>
    cases item with
    | failed e => simp [next] at h
    | bytes b =>
      simp only [next, Next.bytes.injEq] at h
      obtain ⟨rfl, rfl⟩ := h
      exact ⟨rfl, rfl, rfl⟩

theorem of_next_failed {s : Stream} {e : SourceError} (h : s.next = .failed e) :
    ∃ rest, s.items = .failed e :: rest := by
  obtain ⟨offset, items, ending⟩ := s
  cases items with
  | nil => cases ending <;> simp [next] at h
  | cons item more =>
    cases item with
    | bytes b => simp [next] at h
    | failed e' =>
      cases h
      exact ⟨more, rfl⟩

theorem of_next_ended {s : Stream} (h : s.next = .ended) : s.items = [] ∧ s.ending = .eof := by
  obtain ⟨offset, items, ending⟩ := s
  cases items with
  | nil =>
    cases ending with
    | eof => exact ⟨rfl, rfl⟩
    | silent => simp [next] at h
  | cons item more => cases item <;> simp [next] at h

end Stream

/-- All bytes that the items deliver. -/
def joinedBytes (items : List Item) : Bytes := items.flatMap Item.content

@[simp] theorem joinedBytes_cons_bytes (delivered : Bytes) (rest : List Item) :
    joinedBytes (.bytes delivered :: rest) = delivered ++ joinedBytes rest := rfl

@[simp] theorem joinedBytes_append (a b : List Item) :
    joinedBytes (a ++ b) = joinedBytes a ++ joinedBytes b := List.flatMap_append

theorem joinedBytes_map_bytes (pieces : List Bytes) :
    joinedBytes (pieces.map .bytes) = pieces.flatten := by
  induction pieces with
  | nil => rfl
  | cons piece rest ih => rw [List.map_cons, joinedBytes_cons_bytes, ih, List.flatten_cons]

def errorsOf (items : List Item) : List SourceError := items.filterMap Item.error?

theorem errorsOf_append (a b : List Item) : errorsOf (a ++ b) = errorsOf a ++ errorsOf b :=
  List.filterMap_append

structure OpenedStream where
  url : String
  stream : Stream
  deriving DecidableEq

/-- One request for a stream: the address, and the first byte if it is not the first of the
content. -/
structure Request where
  url : String
  rangeStart : Option Nat
  deriving DecidableEq

/-- A range is asked for only where it leaves something out. -/
def Request.starting (url : String) (start : Nat) : Request :=
  ⟨url, if start = 0 then none else some start⟩

/-- The first byte that a request asks for. -/
def Request.start (r : Request) : Nat := r.rangeStart.getD 0

theorem Request.start_starting (url : String) (start : Nat) :
    (Request.starting url start).start = start := by
  unfold Request.starting Request.start
  split
  · rename_i zero
    exact zero.symm
  · rfl

end RangeFetch
