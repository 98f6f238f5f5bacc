import RangeFetch.Proofs.Source.Memory
import RangeFetch.Source.Cutting

namespace RangeFetch

namespace Bytes

theorem slice?_of_le {data : Bytes} {first length : Nat} (within : first + length ≤ data.length) :
    data.slice? first (first + length) = some ((data.drop first).take length) := by
  rw [slice?, if_pos ⟨Nat.le_add_right _ _, within⟩, Nat.add_sub_cancel_left]

theorem cut_of_ne_nil {data : Bytes} (some : data ≠ []) (size : Nat) :
    cut size data = data.take (max size 1) :: cut size (data.drop (max size 1)) := by
  obtain ⟨b, rest, rfl⟩ := List.exists_cons_of_ne_nil some
  have one : max size 1 = (size - 1) + 1 := by omega
  rw [cut, one, List.take_succ_cons, List.drop_succ_cons]

theorem cut_max_one (size : Nat) (data : Bytes) : cut (max size 1) data = cut size data := by
  fun_induction cut size data with
  | case1 => rw [cut]
  | case2 b rest ih =>
    have one : max size 1 - 1 = size - 1 := by omega
    rw [cut, one, ih]

theorem mem_cut {size : Nat} {data piece : Bytes} (mem : piece ∈ cut size data) :
    piece ≠ [] ∧ piece.length ≤ max size 1 := by
  fun_induction cut size data with
  | case1 => cases mem
  | case2 b rest ih =>
    rcases List.mem_cons.mp mem with rfl | later
    · refine ⟨List.cons_ne_nil _ _, ?_⟩
      simp only [List.length_cons, List.length_take]
      omega
    · exact ih later

theorem length_of_mem_dropLast_cut {size : Nat} {data piece : Bytes}
    (mem : piece ∈ (cut size data).dropLast) : piece.length = max size 1 := by
  fun_induction cut size data with
  | case1 => cases mem
  | case2 b rest ih =>
    by_cases last : rest.drop (size - 1) = []
    · rw [last, cut, List.dropLast_singleton] at mem
      cases mem
    · -- the first piece is full, since something comes after it
      have more : cut size (rest.drop (size - 1)) ≠ [] := by
        rw [cut_of_ne_nil last]
        exact List.cons_ne_nil _ _
      rw [List.dropLast_cons_of_ne_nil more] at mem
      rcases List.mem_cons.mp mem with rfl | later
      · have long : size - 1 < rest.length := by
          rw [← Nat.not_le, ← List.drop_eq_nil_iff]
          exact last
        simp only [List.length_cons, List.length_take]
        omega
      · exact ih later

end Bytes

namespace Cutting

variable {limit : Option Nat} {data : Bytes} {c : Cutting}

/-- What is still to be cut. -/
def rest (limit : Option Nat) (data : Bytes) (c : Cutting) : Bytes :=
  (data.drop c.position).take ((limit.map (· - c.sent)).getD (data.length - c.position))

def move (length : Nat) (data : Bytes) (c : Cutting) : Cutting :=
  ⟨c.position + length, c.sent + length, c.pieces ++ [(data.drop c.position).take length]⟩

theorem length_rest_le : (c.rest limit data).length ≤ data.length - c.position := by
  rw [rest, List.length_take, List.length_drop]
  exact Nat.min_le_right _ _

theorem pieceLength_eq (size : Nat) :
    c.pieceLength size limit data = min size (c.rest limit data).length := by
  unfold pieceLength rest
  rw [List.length_take, List.length_drop]
  cases limit with
  | none => simp only [Option.map_none, Option.getD_none, Nat.min_self]
  | some limit =>
    simp only [Option.map_some, Option.getD_some]
    omega

theorem rest_move (length : Nat) :
    (c.move length data).rest limit data = (c.rest limit data).drop length := by
  simp only [rest, move, List.drop_take, List.drop_drop]
  congr 1
  cases limit with
  | none =>
    simp only [Option.map_none, Option.getD_none]
    omega
  | some limit =>
    simp only [Option.map_some, Option.getD_some]
    omega

theorem take_rest (length : Nat) :
    (data.drop c.position).take (min length (c.rest limit data).length) =
      (c.rest limit data).take length := by
  rw [rest, List.take_take, List.take_eq_take_iff, List.length_take]
  omega

theorem push?_of_le {length : Nat} (fits : data.length < Limits.offsetBound)
    (counted : c.sent ≤ c.position) (within : c.position + length ≤ data.length) :
    c.push? data length = some (c.move length data) := by
  have position : sum? c.position length = some (c.position + length) := if_pos (by omega)
  have sent : sum? c.sent length = some (c.sent + length) := if_pos (by omega)
  rw [push?, position, sent, Option.bind_some, Bytes.slice?_of_le within]
  rfl

/-- Before the end of the data there is something left to cut, unless the limit has been reached. -/
theorem isSome_of_rest_eq_nil (before : c.position < data.length) (none : c.rest limit data = []) :
    limit.isSome = true := by
  cases limit with
  | some limit => rfl
  | none =>
    have left := congrArg List.length none
    rw [rest, List.length_take, List.length_drop, List.length_nil, Option.map_none,
      Option.getD_none, Nat.min_self] at left
    omega

theorem turn_eq {size : Nat} (pos : 0 < size) (fits : data.length < Limits.offsetBound)
    (counted : c.sent ≤ c.position) :
    c.turn size limit data =
      if c.rest limit data = [] then .done
      else .again (c.move (min size (c.rest limit data).length) data) := by
  unfold turn
  by_cases before : c.position < data.length
  · have within : c.position + min size (c.rest limit data).length ≤ data.length := by
      have left : (c.rest limit data).length ≤ data.length - c.position := c.length_rest_le
      omega
    rw [if_pos before, pieceLength_eq]
    dsimp only
    rw [push?_of_le fits counted within]
    by_cases none : c.rest limit data = []
    · have empty : min size (c.rest limit data).length = 0 := by
        rw [none]
        exact Nat.min_zero _
      rw [if_pos none, if_pos ⟨isSome_of_rest_eq_nil before none, empty⟩]
    · have more := List.length_pos_iff.mpr none
      rw [if_neg none, if_neg (by omega)]
  · have none : c.rest limit data = [] := by
      rw [rest, List.drop_eq_nil_of_le (Nat.le_of_not_lt before), List.take_nil]
    rw [if_neg before, if_pos none]

/-- The loop ends within as many turns as there are bytes left, and one. It has then cut what was
left. -/
theorem run?_eq {size : Nat} (pos : 0 < size) (fits : data.length < Limits.offsetBound)
    (within : c.position ≤ data.length) (counted : c.sent ≤ c.position) {turns : Nat}
    (enough : data.length - c.position < turns) :
    run? size limit data turns c = some (c.pieces ++ Bytes.cut size (c.rest limit data)) := by
  induction turns generalizing c with
  | zero => exact absurd enough (Nat.not_lt_zero _)
  | succ turns ih =>
    rw [run?, turn_eq pos fits counted]
    by_cases none : c.rest limit data = []
    · rw [if_pos none, none, Bytes.cut, List.append_nil]
    · have more := List.length_pos_iff.mpr none
      have left : (c.rest limit data).length ≤ data.length - c.position := c.length_rest_le
      let length := min size (c.rest limit data).length
      -- a turn that goes on moves by at least one byte, so the turns left are still enough
      have next : run? size limit data turns (c.move length data) =
          some ((c.move length data).pieces ++
            Bytes.cut size ((c.move length data).rest limit data)) := by
        apply ih
        · change c.position + length ≤ data.length
          omega
        · change c.sent + length ≤ c.position + length
          omega
        · change data.length - (c.position + length) < turns
          omega
      have size_pos : max size 1 = size := Nat.max_eq_left pos
      rw [if_neg none]
      dsimp only
      rw [next, rest_move, ← List.drop_eq_drop_min, Bytes.cut_of_ne_nil none, size_pos, move,
        take_rest, List.append_assoc, List.singleton_append]

end Cutting

namespace Faults

variable (f : Faults)

def limits : List Nat := f.failAfter.toList ++ f.stallAfter.toList

theorem deliveries?_eq (deliverySize : Nat) {data : Bytes} {start turns : Nat}
    (within : start ≤ data.length) (fits : data.length < Limits.offsetBound)
    (enough : data.length - start < turns) :
    f.deliveries? deliverySize data start turns =
      some (f.deliveries deliverySize (data.drop start)) := by
  have pieces : Cutting.run? (max deliverySize 1) f.cutoff data turns ⟨start, 0, []⟩ =
      some (Bytes.cut deliverySize (Cutting.rest f.cutoff data ⟨start, 0, []⟩)) := by
    rw [Cutting.run?_eq (by omega) fits within (Nat.zero_le _) enough, Bytes.cut_max_one,
      List.nil_append]
  rw [deliveries?, pieces, Option.map_some, deliveries, Cutting.rest]
  cases f.cutoff with
  | none =>
    rw [Option.map_none, Option.getD_none, ← List.length_drop, List.take_length]
  | some limit => rfl

theorem elim_cutoff (data : Bytes) :
    f.cutoff.elim data data.take = data.take (f.limits.foldl min data.length) := by
  unfold limits cutoff
  cases f.failAfter with
  | none =>
    cases f.stallAfter with
    | none => exact List.take_length.symm
    | some b =>
      refine List.take_eq_take_iff.mpr ?_
      simp only [Option.toList_none, Option.toList_some, List.nil_append, List.foldl_cons,
        List.foldl_nil]
      omega
  | some a =>
    cases f.stallAfter with
    | none =>
      refine List.take_eq_take_iff.mpr ?_
      simp only [Option.toList_none, Option.toList_some, List.append_nil, List.foldl_cons,
        List.foldl_nil]
      omega
    | some b =>
      refine List.take_eq_take_iff.mpr ?_
      simp only [Option.toList_some, List.singleton_append, List.foldl_cons, List.foldl_nil]
      omega

theorem fails_iff :
    (f.failAfter.isSome && f.failAfter == f.cutoff) = true ↔
      ∃ a ∈ f.failAfter, ∀ b ∈ f.stallAfter, a ≤ b := by
  unfold cutoff
  cases f.failAfter with
  | none => simp
  | some a =>
    cases f.stallAfter with
    | none => simp
    | some b =>
      simp only [Option.isSome_some, Option.mem_def, Option.some.injEq, exists_eq_left',
        forall_eq', Bool.true_and, beq_iff_eq]
      omega

theorem deliveries_eq (deliverySize : Nat) (data : Bytes) :
    f.deliveries deliverySize data =
      (Bytes.cut deliverySize (data.take (f.limits.foldl min data.length))).map .bytes ++
        if ∃ a ∈ f.failAfter, ∀ b ∈ f.stallAfter, a ≤ b then [.failed breakage] else [] := by
  have items : f.deliveries deliverySize data =
      (Bytes.cut deliverySize (f.cutoff.elim data data.take)).map .bytes ++
        if f.failAfter.isSome && f.failAfter == f.cutoff then [.failed breakage] else [] := by
    unfold deliveries
    cases f.cutoff <;> rfl
  rw [items, elim_cutoff]
  simp only [fails_iff]

end Faults

namespace MemoryStore

/-- A stream of a store has the content from its start up to the first limit, in full deliveries and
perhaps a shorter one, and then fails, falls silent or ends as the limits say. The loop that cuts
the pieces comes to the same, and no turn of it fails. -/
theorem opened_in_pieces {m : MemoryStore} {r : Request} {hash : String} {content : Bytes}
    {start : Nat} (names : r.url = Limits.memoryScheme ++ hash)
    (holds : m.content? hash = some content) (opens : m.faults.failOpen = none)
    (begins : start = if m.faults.ignoreRanges then 0 else r.start)
    (within : start ≤ content.length) (fits : content.length < Limits.offsetBound) :
    ∃ (pieces : List Bytes) (items : List Item),
      (m.openStream r).1 =
        .ok ⟨r.url, start, items, if m.faults.stallAfter = none then .eof else .silent⟩ ∧
      items = pieces.map .bytes ++
        (if ∃ a ∈ m.faults.failAfter, ∀ b ∈ m.faults.stallAfter, a ≤ b then
          [.failed Faults.breakage] else []) ∧
      pieces.flatten =
        (content.drop start).take (m.faults.limits.foldl min (content.length - start)) ∧
      (∀ piece ∈ pieces, piece ≠ [] ∧ piece.length ≤ max m.deliverySize 1) ∧
      (∀ piece ∈ pieces.dropLast, piece.length = max m.deliverySize 1) ∧
      ∀ turns, content.length - start < turns →
        m.faults.deliveries? m.deliverySize content start turns = some items := by
  let reached := (content.drop start).take (m.faults.limits.foldl min (content.length - start))
  have items := m.faults.deliveries_eq m.deliverySize (content.drop start)
  rw [List.length_drop] at items
  have answer : m.answer r = .ok ⟨r.url, start,
      m.faults.deliveries m.deliverySize (content.drop start), m.faults.ending⟩ := by
    rw [answer_of_held names holds opens, ← begins, if_neg (Nat.not_lt.mpr within)]
  have ending : m.faults.ending = if m.faults.stallAfter = none then .eof else .silent := by
    unfold Faults.ending
    cases m.faults.stallAfter <;> rfl
  refine ⟨Bytes.cut m.deliverySize reached, _, ?_, items, Bytes.flatten_cut _ _,
    fun piece => Bytes.mem_cut, fun piece => Bytes.length_of_mem_dropLast_cut,
    fun turns enough => ?_⟩
  · rw [openStream, answer, ending]
  · exact m.faults.deliveries?_eq m.deliverySize within fits enough

theorem failing_opened_in_pieces :
    let content : Bytes := [1, 2, 3, 4, 5, 6, 7]
    let m : MemoryStore := ⟨3, [("h", content)], ⟨false, some 9, some 5, none⟩, []⟩
    let r : Request := ⟨"memory://h", some 1⟩
    r.url = Limits.memoryScheme ++ "h" ∧ m.content? "h" = some content ∧
      m.faults.failOpen = none ∧ 1 = (if m.faults.ignoreRanges then 0 else r.start) ∧
      1 ≤ content.length ∧ content.length < Limits.offsetBound ∧
      ∃ (pieces : List Bytes) (items : List Item),
        (m.openStream r).1 = .ok ⟨r.url, 1, items, .silent⟩ ∧
        items = pieces.map .bytes ++ [.failed Faults.breakage] ∧
        pieces.flatten = [2, 3, 4, 5, 6] ∧
        (∀ piece ∈ pieces.dropLast, piece.length = 3) ∧
        m.faults.deliveries? m.deliverySize content 1 7 = some items := by
  intro content m r
  have url : r.url = Limits.memoryScheme ++ "h" := by decide
  have holds : m.content? "h" = some content := by decide
  have begins : 1 = if m.faults.ignoreRanges then 0 else r.start := rfl
  obtain ⟨pieces, items, opened, shape, joined, -, whole, cut⟩ :=
    opened_in_pieces url holds rfl begins (by decide) (by decide)
  exact ⟨url, holds, rfl, rfl, by decide, by decide, pieces, items, opened, shape, joined, whole,
    cut 7 (by decide)⟩

end MemoryStore

end RangeFetch
