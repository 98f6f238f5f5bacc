import RangeFetch.Http.Body

namespace RangeFetch.Http.Body

theorem content_dropFrom (count : Nat) (item : Item) :
    (dropFrom count item).2.content = item.content.drop count ∧
      (dropFrom count item).1 = count - item.content.length := by
  cases item with
  | failed e => exact ⟨List.drop_nil.symm, rfl⟩
  | bytes delivered =>
    refine ⟨?_, by simp only [dropFrom, Item.content]; omega⟩
    simp only [dropFrom, Item.content]
    rcases Nat.le_total count delivered.length with within | past
    · rw [Nat.min_eq_left within]
    · rw [Nat.min_eq_right past, List.drop_length, List.drop_eq_nil_of_le past]

theorem remainingAfter_eq (count : Nat) (items : List Item) :
    remainingAfter count items = count - (joinedBytes items).length := by
  induction items generalizing count with
  | nil => rfl
  | cons item rest ih =>
    rw [remainingAfter, ih, (content_dropFrom count item).2, joinedBytes, joinedBytes,
      List.flatMap_cons, List.length_append, Nat.sub_sub]

theorem dropAlong_append (count : Nat) (a b : List Item) :
    dropAlong count (a ++ b) = dropAlong count a ++ dropAlong (remainingAfter count a) b := by
  induction a generalizing count with
  | nil => rfl
  | cons item rest ih => rw [List.cons_append, dropAlong, ih, dropAlong, remainingAfter,
      List.cons_append]

theorem skip_append (count : Nat) (a b : List Item) :
    skip count (a ++ b) = skip count a ++ skip (count - (joinedBytes a).length) b := by
  rw [skip, dropAlong_append, List.filter_append, remainingAfter_eq]
  rfl

theorem joinedBytes_filter (items : List Item) :
    joinedBytes (items.filter (· != .bytes [])) = joinedBytes items := by
  induction items with
  | nil => rfl
  | cons item rest ih =>
    by_cases empty : item = .bytes []
    · rw [empty, List.filter_cons_of_neg (by decide), ih, joinedBytes_cons_bytes, List.nil_append]
    · rw [List.filter_cons_of_pos (by simpa using empty), joinedBytes, List.flatMap_cons,
        ← joinedBytes, ih, joinedBytes, joinedBytes, List.flatMap_cons]

theorem joinedBytes_skip (count : Nat) (items : List Item) :
    joinedBytes (skip count items) = (joinedBytes items).drop count := by
  rw [skip, joinedBytes_filter]
  induction items generalizing count with
  | nil => exact List.drop_nil.symm
  | cons item rest ih =>
    obtain ⟨content, left⟩ := content_dropFrom count item
    rw [dropAlong, joinedBytes, List.flatMap_cons, content, ← joinedBytes, ih, left, joinedBytes,
      joinedBytes, List.flatMap_cons, List.drop_append]

theorem skip_failed (count : Nat) (e : SourceError) : skip count [.failed e] = [.failed e] := rfl

theorem skip_bytes (count : Nat) (delivered : Bytes) :
    skip count [.bytes delivered] = whole (delivered.drop count) := by
  have left : (dropFrom count (.bytes delivered)).2 = .bytes (delivered.drop count) :=
    congrArg Item.bytes (content_dropFrom count (.bytes delivered)).1
  rw [skip, dropAlong, left, dropAlong, whole]
  by_cases empty : delivered.drop count = [] <;> simp [empty]

theorem skip_whole (count : Nat) (bytes : Bytes) :
    skip count (whole bytes) = whole (bytes.drop count) := by
  by_cases empty : bytes = []
  · rw [empty, List.drop_nil]
    rfl
  · rw [whole, if_neg (by simpa using empty), skip_bytes]

theorem skip_cons (count : Nat) (item : Item) (rest : List Item) :
    skip count (item :: rest) =
      skip count [item] ++ skip (count - item.content.length) rest := by
  have cut := skip_append count [item] rest
  simpa [joinedBytes] using cut

theorem skip_skip (count more : Nat) (items : List Item) :
    skip more (skip count items) = skip (count + more) items := by
  induction items generalizing count more with
  | nil => rfl
  | cons item rest ih =>
    have first : skip more (skip count [item]) = skip (count + more) [item] := by
      cases item with
      | failed e => rfl
      | bytes delivered => rw [skip_bytes, skip_whole, List.drop_drop, skip_bytes]
    have left : (joinedBytes (skip count [item])).length = item.content.length - count := by
      rw [joinedBytes_skip, List.length_drop, joinedBytes, List.flatMap_singleton]
    -- what the first pass leaves of the item is what the second has to take off its own count
    have counts : count - item.content.length + (more - (item.content.length - count)) =
        count + more - item.content.length := by omega
    rw [skip_cons, skip_append, first, left, ih, counts, ← skip_cons]

theorem errorsOf_skip (count : Nat) (items : List Item) :
    errorsOf (skip count items) = errorsOf items := by
  induction items generalizing count with
  | nil => rfl
  | cons item rest ih =>
    have first : errorsOf (skip count [item]) = errorsOf [item] := by
      cases item with
      | failed e => rfl
      | bytes delivered =>
        rw [skip_bytes, whole]
        split <;> rfl
    rw [skip_cons, errorsOf_append, first, ih, ← errorsOf_append, List.singleton_append]

theorem skip_pieces (count : Nat) (pieces : List Bytes) :
    ∃ left : List Bytes, skip count (pieces.map .bytes) = left.map .bytes := by
  induction pieces generalizing count with
  | nil => exact ⟨[], rfl⟩
  | cons piece rest ih =>
    obtain ⟨left, same⟩ := ih (count - min count piece.length)
    rw [skip] at same
    by_cases empty : piece.drop (min count piece.length) = []
    · refine ⟨left, ?_⟩
      rw [← same, List.map_cons, skip, dropAlong, List.filter_cons_of_neg (by simp [dropFrom, empty])]
      rfl
    · refine ⟨piece.drop (min count piece.length) :: left, ?_⟩
      rw [List.map_cons, List.map_cons, ← same, skip, dropAlong,
        List.filter_cons_of_pos (by simpa [dropFrom] using empty)]
      rfl

/-- The body comes in pieces that make up `sent`, and with the error that cut it short, if one
did. -/
def Brings (sent : Bytes) (broken : Option SourceError) (body : List Item) : Prop :=
  ∃ pieces : List Bytes, pieces.flatten = sent ∧
    body = pieces.map .bytes ++ broken.toList.map .failed

theorem Brings.skip {sent : Bytes} {broken : Option SourceError} {body : List Item}
    (brings : Brings sent broken body) (count : Nat) :
    Brings (sent.drop count) broken (skip count body) := by
  obtain ⟨pieces, rfl, rfl⟩ := brings
  obtain ⟨left, same⟩ := skip_pieces count pieces
  refine ⟨left, ?_, ?_⟩
  · rw [← joinedBytes_map_bytes, ← same, joinedBytes_skip, joinedBytes_map_bytes]
  · rw [skip_append, same]
    cases broken <;> rfl

theorem Brings.joinedBytes_eq {sent : Bytes} {broken : Option SourceError} {body : List Item}
    (brings : Brings sent broken body) : joinedBytes body = sent := by
  obtain ⟨pieces, rfl, rfl⟩ := brings
  rw [joinedBytes_append, joinedBytes_map_bytes]
  cases broken <;> exact List.append_nil _

/-- Skipping drops the first bytes and nothing else: errors stay in their place, no empty item is
left, and to skip twice is to skip the sum. -/
theorem skip_drops_first (count more : Nat) (items after : List Item) (e : SourceError) :
    skip count (items ++ after) = skip count items ++ skip (remainingAfter count items) after ∧
      joinedBytes (skip count items) = (joinedBytes items).drop count ∧
      .bytes [] ∉ skip count items ∧
      errorsOf (skip count items) = errorsOf items ∧
      skip count (items ++ .failed e :: after) =
        skip count items ++ .failed e :: skip (remainingAfter count items) after ∧
      remainingAfter count items + min count (joinedBytes items).length = count ∧
      skip more (skip count items) = skip (count + more) items := by
  have cut (rest : List Item) :
      skip count (items ++ rest) = skip count items ++ skip (remainingAfter count items) rest := by
    rw [skip_append, remainingAfter_eq]
  refine ⟨cut after, joinedBytes_skip count items, ?_, errorsOf_skip count items, ?_, ?_,
    skip_skip count more items⟩
  · intro mem
    have kept := (List.mem_filter.mp mem).2
    exact absurd kept (by decide)
  · rw [cut, skip_cons, skip_failed]
    rfl
  · rw [remainingAfter_eq]
    omega

end RangeFetch.Http.Body
