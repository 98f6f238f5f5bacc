import RangeFetch.Http.ContentRange

namespace RangeFetch

theorem byteArray_toList_loop (bytes : ByteArray) (i : Nat) (read : List UInt8) :
    ByteArray.toList.loop bytes i read = read.reverse ++ bytes.data.toList.drop i := by
  fun_induction ByteArray.toList.loop bytes i read with
  | case1 i read inside ih =>
    have within : i < bytes.data.toList.length := by
      simpa only [Array.length_toList, ByteArray.size_data] using inside
    have this_one : bytes.get! i = bytes.data.toList.get ⟨i, within⟩ := by
      obtain ⟨data⟩ := bytes
      exact getElem!_pos data i inside
    rw [ih, List.drop_eq_getElem_cons within, this_one, List.reverse_cons, List.append_assoc,
      List.singleton_append]
    rfl
  | case2 i read outside =>
    rw [List.drop_eq_nil_of_le (by simpa using outside), List.append_nil]

theorem byteArray_toList (bytes : ByteArray) : bytes.toList = bytes.data.toList := by
  rw [ByteArray.toList, byteArray_toList_loop]
  rfl

namespace Http.ContentRange

def isPlain (c : Char) : Bool := c.toNat < 128 && isVisible (UInt8.ofNat c.toNat)

section Text

variable {text : List Char} (plain : ∀ c ∈ text, isPlain c = true)

include plain

theorem toUTF8_of_plain :
    (String.ofList text).toUTF8.toList = text.map fun c => UInt8.ofNat c.toNat := by
  have bytes : text.flatMap String.utf8EncodeChar = text.map fun c => UInt8.ofNat c.toNat := by
    rw [List.map_eq_flatMap, List.flatMap, List.flatMap]
    refine congrArg List.flatten (List.map_congr_left fun c mem => if_pos ?_)
    have ascii := plain c mem
    simp only [isPlain, Bool.and_eq_true, decide_eq_true_eq] at ascii
    exact Nat.le_of_lt_succ ascii.1
  rw [byteArray_toList, String.toUTF8_eq_toByteArray, ← String.utf8Encode_toList,
    String.toList_ofList, List.utf8Encode, List.toList_data_toByteArray, bytes]

theorem text?_of_plain : text? (String.ofList text).toUTF8.toList = some text := by
  have visible : (text.map fun c => UInt8.ofNat c.toNat).all isVisible = true := by
    rw [List.all_map, List.all_eq_true]
    intro c mem
    have shown := plain c mem
    simp only [isPlain, Bool.and_eq_true] at shown
    exact shown.2
  have same : ∀ c ∈ text, Char.ofNat (UInt8.ofNat c.toNat).toNat = c := by
    intro c mem
    have ascii := plain c mem
    simp only [isPlain, Bool.and_eq_true, decide_eq_true_eq] at ascii
    rw [UInt8.toNat_ofNat', Nat.mod_eq_of_lt (by omega), Char.ofNat_toNat]
  rw [toUTF8_of_plain plain, text?, if_pos visible, List.map_map]
  exact congrArg some ((List.map_congr_left same).trans (List.map_id _))

end Text

theorem dropWhile_isBlank {text : List Char} (first : ∀ c ∈ text.head?, isBlank c = false) :
    text.dropWhile isBlank = text := by
  cases text with
  | nil => rfl
  | cons c rest => rw [List.dropWhile_cons, first c rfl, if_neg Bool.false_ne_true]

theorem trim_eq_self {text : List Char} (first : ∀ c ∈ text.head?, isBlank c = false)
    (last : ∀ c ∈ text.getLast?, isBlank c = false) : trim text = text := by
  rw [trim, dropWhile_isBlank first, dropWhile_isBlank (by rwa [List.head?_reverse]),
    List.reverse_reverse]

theorem beforeDash?_append {text : List Char} (rest : List Char) (none : ∀ c ∈ text, c ≠ '-') :
    beforeDash? (text ++ '-' :: rest) = some text := by
  have all : ∀ c ∈ text, (c != '-') = true := fun c mem => bne_iff_ne.mpr (none c mem)
  rw [beforeDash?, if_pos (by simp), List.takeWhile_append_of_pos all, List.takeWhile_cons_of_neg,
    List.append_nil]
  decide

theorem of_isDigit {c : Char} (digit : c.isDigit = true) :
    isPlain c = true ∧ isBlank c = false ∧ c ≠ '-' ∧ c ≠ '+' := by
  have all : ∀ n < 58, 48 ≤ n → isPlain (Char.ofNat n) = true ∧ isBlank (Char.ofNat n) = false ∧
      Char.ofNat n ≠ '-' ∧ Char.ofNat n ≠ '+' := by decide
  obtain ⟨low, high⟩ := Char.isDigit_iff_toNat.mp digit
  rw [← Char.ofNat_toNat c]
  exact all c.toNat (Nat.lt_succ_of_le high) low

section Number

variable {n : Nat} {c : Char}

theorem of_mem_toDigits (mem : c ∈ Nat.toDigits 10 n) :
    isPlain c = true ∧ isBlank c = false ∧ c ≠ '-' ∧ c ≠ '+' :=
  of_isDigit (Nat.isDigit_of_mem_toDigits (by decide) (by decide) mem)

theorem offset?_of_digits {text : List Char} (nonempty : text ≠ [])
    (digits : ∀ c ∈ text, c.isDigit = true) :
    offset? text = if decimal text < Limits.offsetBound then some (decimal text) else none := by
  have some_digits : text.isEmpty = false := List.isEmpty_eq_false_iff.mpr nonempty
  have all_digits : text.all Char.isDigit = true := List.all_eq_true.mpr digits
  unfold offset?
  split
  · exact absurd rfl (of_isDigit (digits '+' List.mem_cons_self)).2.2.2
  · simp only [some_digits, all_digits, Bool.not_true, Bool.or_self, Bool.false_eq_true, if_false]

theorem decimal_toDigits : decimal (Nat.toDigits 10 n) = n :=
  Nat.ofDigitChars_eq_foldl.symm.trans Nat.ofDigitChars_ten_toDigits

end Number

/-- The value of a header states a first position in bytes: the unit, in letters of any case, a
blank, and decimal digits up to a dash. -/
structure States (value : Bytes) (unit digits : List Char) : Prop where
  text : ∃ text rest, text? value = some text ∧
    trim text = unit ++ ' ' :: (digits ++ '-' :: rest)
  inBytes : unit.map Char.toLower = "bytes".toList
  nonempty : digits ≠ []
  digits : ∀ c ∈ digits, c.isDigit = true

theorem afterUnit?_of_inBytes {unit : List Char} (rest : List Char)
    (inBytes : unit.map Char.toLower = "bytes".toList) :
    afterUnit? "bytes".toList (unit ++ rest) = if unit = "bytes".toList then some rest else none := by
  have five : "bytes".toList.length = unit.length := by rw [← inBytes, List.length_map]
  unfold afterUnit?
  by_cases small : unit = "bytes".toList
  · rw [if_pos small, small, List.drop_left, if_pos (by simp)]
  · rw [if_neg small, if_neg]
    intro starts
    have first := List.prefix_iff_eq_take.mp (List.isPrefixOf_iff_prefix.mp starts)
    rw [five, List.take_left] at first
    exact small first.symm

theorem start?_of_states {value : Bytes} {unit digits : List Char}
    (states : States value unit digits) :
    start? value =
      if unit = "bytes".toList ∧ decimal digits < Limits.offsetBound then some (decimal digits)
      else none := by
  obtain ⟨text, rest, readable, trimmed⟩ := states.text
  have plain : ∀ c ∈ digits, isBlank c = false ∧ c ≠ '-' := fun c mem =>
    ⟨(of_isDigit (states.digits c mem)).2.1, (of_isDigit (states.digits c mem)).2.2.1⟩
  have blank : List.dropWhile isBlank (' ' :: (digits ++ '-' :: rest)) = digits ++ '-' :: rest := by
    rw [List.dropWhile_cons_of_pos rfl, dropWhile_isBlank]
    intro c mem
    rw [List.head?_append, List.head?_eq_some_head states.nonempty] at mem
    exact (plain c (Option.some.inj mem ▸ List.head_mem _)).1
  have number : trim digits = digits :=
    trim_eq_self (fun c mem => (plain c (List.mem_of_head? mem)).1)
      (fun c mem => (plain c (List.mem_of_getLast? mem)).1)
  rw [start?, readable]
  dsimp only
  rw [trimmed, afterUnit?_of_inBytes _ states.inBytes]
  by_cases small : unit = "bytes".toList
  · rw [if_pos small]
    dsimp only
    rw [blank, beforeDash?_append _ fun c mem => (plain c mem).2]
    dsimp only
    rw [number, offset?_of_digits states.nonempty states.digits]
    simp only [small, true_and]
  · rw [if_neg small, if_neg fun both => small both.1]

def written (first last size : Nat) : List Char :=
  ['b', 'y', 't', 'e', 's', ' '] ++ (Nat.toDigits 10 first ++ '-' :: (Nat.toDigits 10 last ++
    '/' :: Nat.toDigits 10 size))

theorem ofList_written (first last size : Nat) :
    String.ofList (written first last size) = s!"bytes {first}-{last}/{size}" := by
  have same : ∀ text : String, toString text = text := fun _ => rfl
  rw [← String.toList_inj]
  simp only [written, same, Nat.toString_eq_ofList_toDigits, String.toList_append,
    String.toList_ofList, List.append_assoc]
  rfl

theorem isPlain_written {first last size : Nat} :
    ∀ c ∈ written first last size, isPlain c = true := by
  intro c mem
  have unit : ∀ c ∈ ['b', 'y', 't', 'e', 's', ' ', '-', '/'], isPlain c = true :=
    List.all_eq_true.mp (by decide)
  rcases List.mem_append.mp mem with known | mem
  · exact unit c (List.mem_append_left ['-', '/'] known)
  rcases List.mem_append.mp mem with digit | mem
  · exact (of_mem_toDigits digit).1
  rcases List.mem_cons.mp mem with rfl | mem
  · exact unit '-' (by decide)
  rcases List.mem_append.mp mem with digit | mem
  · exact (of_mem_toDigits digit).1
  rcases List.mem_cons.mp mem with rfl | digit
  · exact unit '/' (by decide)
  · exact (of_mem_toDigits digit).1

theorem start?_eq {first last size : Nat} (small : first < Limits.offsetBound) :
    start? s!"bytes {first}-{last}/{size}".toUTF8.toList = some first := by
  have last_digit : ∀ c ∈ (written first last size).getLast?, isBlank c = false := by
    intro c mem
    have split : written first last size = (['b', 'y', 't', 'e', 's', ' '] ++ (Nat.toDigits 10 first ++
        '-' :: (Nat.toDigits 10 last ++ ['/']))) ++ Nat.toDigits 10 size := by simp [written]
    rw [split, List.getLast?_append, List.getLast?_eq_some_getLast Nat.toDigits_ne_nil] at mem
    exact (of_mem_toDigits (Option.some.inj mem ▸ List.getLast_mem _)).2.1
  have trimmed : trim (written first last size) = written first last size :=
    trim_eq_self (by simp [written, isBlank]) last_digit
  have states : States (String.ofList (written first last size)).toUTF8.toList "bytes".toList
      (Nat.toDigits 10 first) := by
    refine ⟨⟨_, Nat.toDigits 10 last ++ '/' :: Nat.toDigits 10 size, text?_of_plain isPlain_written,
      trimmed⟩, by decide, Nat.toDigits_ne_nil, fun c mem => ?_⟩
    exact Nat.isDigit_of_mem_toDigits (by decide) (by decide) mem
  rw [← ofList_written, start?_of_states states, decimal_toDigits, if_pos ⟨rfl, small⟩]

end Http.ContentRange

end RangeFetch
