import RangeFetch.Proofs.Http.Values

namespace RangeFetch.Http.ContentRange

/-- Spaces and tabs. -/
def Blanks (text : List Char) : Prop := ∀ c ∈ text, c = ' ' ∨ c = '\t'

structure Trimmed (text core : List Char) : Prop where
  inside : ∃ lead trail, text = lead ++ core ++ trail ∧ Blanks lead ∧ Blanks trail
  first : ∀ c ∈ core.head?, ¬ (c = ' ' ∨ c = '\t')
  last : ∀ c ∈ core.getLast?, ¬ (c = ' ' ∨ c = '\t')

/-- A number below the bound of offsets in decimal digits, perhaps behind a plus. -/
structure Numeral (text : List Char) (n : Nat) : Prop where
  digits : ∃ sign digits, text = sign ++ digits ∧ (sign = [] ∨ sign = ['+']) ∧ digits ≠ [] ∧
    (∀ c ∈ digits, c.isDigit = true) ∧ Nat.ofDigitChars 10 digits 0 = n
  small : n < Limits.offsetBound

/-- The unit, the number and a dash, with blanks around the number, and then anything. -/
def Begins (text : List Char) (n : Nat) : Prop :=
  ∃ gap number gap' rest, text = "bytes".toList ++ gap ++ number ++ gap' ++ '-' :: rest ∧
    Blanks gap ∧ Numeral number n ∧ Blanks gap'

/-- The value of a header in visible characters and blanks. -/
structure Readable (value : Bytes) (text : List Char) : Prop where
  visible : ∀ b ∈ value, 0x20 ≤ b ∧ b ≤ 0x7e ∨ b = 0x09
  text : text = value.map fun b => Char.ofNat b.toNat

theorem isBlank_iff {c : Char} : isBlank c = true ↔ c = ' ' ∨ c = '\t' := by
  rw [isBlank, Bool.or_eq_true, beq_iff_eq, beq_iff_eq]

theorem isBlank_eq_false_iff {c : Char} : isBlank c = false ↔ ¬ (c = ' ' ∨ c = '\t') := by
  rw [← isBlank_iff, Bool.not_eq_true]

theorem Blanks.isBlank {text : List Char} (blanks : Blanks text) :
    ∀ c ∈ text, isBlank c = true := fun c mem => isBlank_iff.mpr (blanks c mem)

theorem blanks_takeWhile (text : List Char) : Blanks (text.takeWhile isBlank) :=
  fun c mem => isBlank_iff.mp (List.all_eq_true.mp List.all_takeWhile c mem)

theorem not_blank_head?_dropWhile (text : List Char) :
    ∀ c ∈ (text.dropWhile isBlank).head?, ¬ (c = ' ' ∨ c = '\t') := by
  intro c mem
  have first := List.head?_dropWhile_not isBlank text
  rw [mem] at first
  exact isBlank_eq_false_iff.mp first

theorem Blanks.reverse {text : List Char} (blanks : Blanks text) : Blanks text.reverse :=
  fun c mem => blanks c (List.mem_reverse.mp mem)

theorem Blanks.append {a b : List Char} (first : Blanks a) (second : Blanks b) : Blanks (a ++ b) :=
  fun c mem => (List.mem_append.mp mem).elim (first c) (second c)

theorem dropWhile_blanks {lead core : List Char} (blanks : Blanks lead)
    (first : ∀ c ∈ core.head?, ¬ (c = ' ' ∨ c = '\t')) :
    (lead ++ core).dropWhile isBlank = core := by
  rw [List.dropWhile_append_of_pos blanks.isBlank]
  exact dropWhile_isBlank fun c mem => isBlank_eq_false_iff.mpr (first c mem)

section Trim

variable {text core : List Char}

theorem trim_of_trimmed (trimmed : Trimmed text core) : trim text = core := by
  obtain ⟨⟨lead, trail, rfl, before, after⟩, first, last⟩ := trimmed
  by_cases empty : core = []
  · have blank : (lead ++ trail ++ []).dropWhile isBlank = [] :=
      dropWhile_blanks (before.append after) nofun
    rw [List.append_nil] at blank
    rw [trim, empty, List.append_nil, blank]
    rfl
  · have first' : ∀ c ∈ (core ++ trail).head?, ¬ (c = ' ' ∨ c = '\t') := by
      obtain ⟨c, rest, rfl⟩ := List.exists_cons_of_ne_nil empty
      exact first
    have last' : ∀ c ∈ core.reverse.head?, ¬ (c = ' ' ∨ c = '\t') := by
      rwa [List.head?_reverse]
    rw [trim, List.append_assoc, dropWhile_blanks before first', List.reverse_append,
      dropWhile_blanks after.reverse last', List.reverse_reverse]

theorem trimmed_trim (text : List Char) : Trimmed text (trim text) := by
  let rest := text.dropWhile isBlank
  have split : rest = trim text ++ (rest.reverse.takeWhile isBlank).reverse := by
    rw [trim, ← List.reverse_append, List.takeWhile_append_dropWhile, List.reverse_reverse]
  refine ⟨⟨text.takeWhile isBlank, (rest.reverse.takeWhile isBlank).reverse, ?_,
    blanks_takeWhile text, (blanks_takeWhile _).reverse⟩, ?_, ?_⟩
  · rw [List.append_assoc, ← split, List.takeWhile_append_dropWhile]
  · intro c mem
    refine not_blank_head?_dropWhile text c ?_
    change c ∈ rest.head?
    rw [split, List.head?_append, mem]
    rfl
  · intro c mem
    rw [trim, List.getLast?_reverse] at mem
    exact not_blank_head?_dropWhile _ c mem

end Trim

theorem offset?_eq_some_iff {text : List Char} {n : Nat} :
    offset? text = some n ↔ Numeral text n := by
  have value (digits : List Char) : Nat.ofDigitChars 10 digits 0 = decimal digits :=
    Nat.ofDigitChars_eq_foldl
  constructor
  · intro read
    obtain ⟨sign, digits, rfl, signed, read⟩ : ∃ sign digits, text = sign ++ digits ∧
        (sign = [] ∨ sign = ['+']) ∧
        (if digits.isEmpty || !digits.all Char.isDigit then none
          else if decimal digits < Limits.offsetBound then some (decimal digits) else none) =
            some n := by
      unfold offset? at read
      split at read
      · exact ⟨['+'], _, rfl, .inr rfl, read⟩
      · exact ⟨[], _, rfl, .inl rfl, read⟩
    split at read
    · cases read
    · rename_i digital
      rw [Bool.or_eq_true, not_or, Bool.not_eq_true, List.isEmpty_eq_false_iff,
        Bool.not_eq_true', Bool.not_eq_false, List.all_eq_true] at digital
      split at read
      · rename_i small
        obtain rfl := Option.some.inj read
        exact ⟨⟨sign, digits, rfl, signed, digital.1, digital.2, value digits⟩, small⟩
      · cases read
  · rintro ⟨⟨sign, digits, rfl, signed, nonempty, digital, rfl⟩, small⟩
    have read := offset?_of_digits nonempty digital
    rw [value] at small ⊢
    rw [if_pos small] at read
    rcases signed with rfl | rfl
    · exact read
    · have some_digits : digits.isEmpty = false := List.isEmpty_eq_false_iff.mpr nonempty
      have all_digits : digits.all Char.isDigit = true := List.all_eq_true.mpr digital
      simp only [offset?, List.singleton_append, some_digits, all_digits, Bool.not_true,
        Bool.or_self, Bool.false_eq_true, if_false, if_pos small]

theorem afterUnit?_eq_some_iff {unit text rest : List Char} :
    afterUnit? unit text = some rest ↔ text = unit ++ rest := by
  unfold afterUnit?
  constructor
  · intro read
    split at read
    · rename_i starts
      obtain ⟨rest', rfl⟩ := List.isPrefixOf_iff_prefix.mp starts
      rw [List.drop_left] at read
      rw [Option.some.inj read]
    · cases read
  · rintro rfl
    rw [if_pos (by simp), List.drop_left]

theorem beforeDash?_eq_some_iff {text first : List Char} :
    beforeDash? text = some first ↔ '-' ∉ first ∧ ∃ rest, text = first ++ '-' :: rest := by
  constructor
  · intro read
    have dashed : '-' ∈ text := by
      by_cases there : '-' ∈ text
      · exact there
      · rw [beforeDash?, if_neg (by simpa using there)] at read
        cases read
    obtain ⟨before, rest, rfl, none⟩ := List.eq_append_cons_of_mem dashed
    rw [beforeDash?_append rest fun c mem same => none (same ▸ mem)] at read
    obtain rfl := Option.some.inj read
    exact ⟨none, rest, rfl⟩
  · rintro ⟨none, rest, rfl⟩
    exact beforeDash?_append rest fun c mem same => none (same ▸ mem)

theorem text?_eq_some_iff {value : Bytes} {text : List Char} :
    text? value = some text ↔ Readable value text := by
  have visible : value.all isVisible = true ↔ ∀ b ∈ value, 0x20 ≤ b ∧ b ≤ 0x7e ∨ b = 0x09 := by
    rw [List.all_eq_true]
    have same (b : UInt8) : isVisible b = true ↔ 0x20 ≤ b ∧ b ≤ 0x7e ∨ b = 0x09 := by
      simp only [isVisible, Bool.or_eq_true, Bool.and_eq_true, decide_eq_true_eq, beq_iff_eq,
        UInt8.le_iff_toNat_le, UInt8.lt_iff_toNat_lt, UInt8.reduceToNat]
      exact or_congr_left (and_congr_right fun _ => Nat.lt_succ_iff)
    simp only [same]
  unfold text?
  constructor
  · intro read
    split at read
    · rename_i all
      exact ⟨visible.mp all, (Option.some.inj read).symm⟩
    · cases read
  · rintro ⟨all, rfl⟩
    exact if_pos (visible.mpr all)

namespace Numeral

variable {text : List Char} {n : Nat}

theorem ne_nil (numeral : Numeral text n) : text ≠ [] := by
  obtain ⟨⟨sign, digits, rfl, -, nonempty, -, -⟩, -⟩ := numeral
  exact List.append_ne_nil_of_right_ne_nil _ nonempty

theorem solid (numeral : Numeral text n) : ∀ c ∈ text, ¬ (c = ' ' ∨ c = '\t') ∧ c ≠ '-' := by
  obtain ⟨⟨sign, digits, rfl, signed, -, digital, -⟩, -⟩ := numeral
  intro c mem
  rcases List.mem_append.mp mem with plus | digit
  · rcases signed with rfl | rfl
    · cases plus
    · rw [List.mem_singleton.mp plus]
      decide
  · obtain ⟨-, blank, dash, -⟩ := of_isDigit (digital c digit)
    exact ⟨isBlank_eq_false_iff.mp blank, dash⟩

end Numeral

theorem start?_of_text {value : Bytes} {text : List Char} (readable : text? value = some text) :
    start? value =
      ((afterUnit? "bytes".toList (trim text)).bind fun rest =>
        (beforeDash? (rest.dropWhile isBlank)).bind fun first => offset? (trim first)) := by
  rw [start?, readable]
  dsimp only
  cases afterUnit? "bytes".toList (trim text) with
  | none => rfl
  | some rest =>
    dsimp only [Option.bind_some]
    cases beforeDash? (rest.dropWhile isBlank) <;> rfl

theorem begins_of_read {core rest first : List Char} {n : Nat}
    (unit : afterUnit? "bytes".toList core = some rest)
    (dash : beforeDash? (rest.dropWhile isBlank) = some first)
    (read : offset? (trim first) = some n) : Begins core n := by
  obtain rfl := afterUnit?_eq_some_iff.mp unit
  obtain ⟨-, after, split⟩ := beforeDash?_eq_some_iff.mp dash
  obtain ⟨⟨lead, trail, inside, before, behind⟩, -, -⟩ := trimmed_trim first
  refine ⟨rest.takeWhile isBlank ++ lead, trim first, trail, after, ?_,
    (blanks_takeWhile rest).append before, offset?_eq_some_iff.mp read, behind⟩
  calc "bytes".toList ++ rest
    _ = "bytes".toList ++ (rest.takeWhile isBlank ++ (first ++ '-' :: after)) := by
      rw [← split, List.takeWhile_append_dropWhile]
    _ = "bytes".toList ++
        (rest.takeWhile isBlank ++ (lead ++ trim first ++ trail ++ '-' :: after)) := by
      rw [← inside]
    _ = _ := by simp only [List.append_assoc]

theorem read_of_begins {core : List Char} {n : Nat} (begins : Begins core n) :
    ((afterUnit? "bytes".toList core).bind fun rest =>
      (beforeDash? (rest.dropWhile isBlank)).bind fun first => offset? (trim first)) = some n := by
  obtain ⟨gap, number, gap', rest, rfl, blank, numeral, blank'⟩ := begins
  have unit : afterUnit? "bytes".toList ("bytes".toList ++ gap ++ number ++ gap' ++ '-' :: rest) =
      some (gap ++ (number ++ gap' ++ '-' :: rest)) :=
    afterUnit?_eq_some_iff.mpr (by simp only [List.append_assoc])
  have first : ∀ c ∈ (number ++ gap' ++ '-' :: rest).head?, ¬ (c = ' ' ∨ c = '\t') := by
    obtain ⟨c, more, rfl⟩ := List.exists_cons_of_ne_nil numeral.ne_nil
    rintro _ ⟨⟩
    exact (numeral.solid c List.mem_cons_self).1
  -- a number has no dash, so the first one is where the grammar has it
  have undashed : '-' ∉ number ++ gap' := by
    rw [List.mem_append, not_or]
    refine ⟨fun mem => (numeral.solid _ mem).2 rfl, fun mem => ?_⟩
    exact absurd (blank' _ mem) (by decide)
  have dash : beforeDash? (number ++ gap' ++ '-' :: rest) = some (number ++ gap') :=
    beforeDash?_eq_some_iff.mpr ⟨undashed, rest, rfl⟩
  have trimmed : trim (number ++ gap') = number :=
    trim_of_trimmed ⟨⟨[], gap', rfl, nofun, blank'⟩,
      fun c mem => (numeral.solid c (List.mem_of_head? mem)).1,
      fun c mem => (numeral.solid c (List.mem_of_getLast? mem)).1⟩
  rw [unit, Option.bind_some, dropWhile_blanks blank first, dash, Option.bind_some, trimmed]
  exact offset?_eq_some_iff.mpr numeral

theorem start?_eq_some_iff {value : Bytes} {n : Nat} :
    start? value = some n ↔
      ∃ text core, Readable value text ∧ Trimmed text core ∧ Begins core n := by
  constructor
  · intro read
    cases readable : text? value with
    | none =>
      rw [start?, readable] at read
      cases read
    | some text =>
      rw [start?_of_text readable] at read
      obtain ⟨rest, unit, read⟩ := Option.bind_eq_some_iff.mp read
      obtain ⟨first, dash, read⟩ := Option.bind_eq_some_iff.mp read
      exact ⟨text, trim text, text?_eq_some_iff.mp readable, trimmed_trim text,
        begins_of_read unit dash read⟩
  · rintro ⟨text, core, readable, trimmed, begins⟩
    rw [start?_of_text (text?_eq_some_iff.mpr readable), trim_of_trimmed trimmed]
    exact read_of_begins begins

/-- The header by which the position is told: the first one of its name, in letters of any case. -/
structure FirstNamed (headers : List Header) (header : Header) : Prop where
  named : header.name.map Char.toLower = "content-range"
  first : ∃ before after, headers = before ++ header :: after ∧
    ∀ other ∈ before, other.name.map Char.toLower ≠ "content-range"

theorem value?_eq_some_iff {headers : List Header} {value : Bytes} :
    value? headers = some value ↔ ∃ header, FirstNamed headers header ∧ header.value = value := by
  rw [value?, Header.first?, Option.map_eq_some_iff]
  refine exists_congr fun header => and_congr_left fun _ => ?_
  rw [List.find?_eq_some_iff_append]
  constructor
  · rintro ⟨named, before, after, split, others⟩
    exact ⟨beq_iff_eq.mp named, before, after, split, fun other mem => by
      simpa [name] using others other mem⟩
  · rintro ⟨named, before, after, split, others⟩
    exact ⟨beq_iff_eq.mpr named, before, after, split, fun other mem => by
      simpa [name] using others other mem⟩

/-- A position is read from the headers of an answer exactly if the value of the first one of that
name, without the blanks at its ends, is the unit, a number and a dash, and then anything. The
number is an offset in decimal digits, perhaps behind a plus. -/
theorem startOf_eq_some_iff :
    (∀ (headers : List Header) (n : Nat), startOf headers = some n ↔
      ∃ header text core, FirstNamed headers header ∧ Readable header.value text ∧
        Trimmed text core ∧ Begins core n) ∧
    ∀ (first : UInt64) (last size : Nat),
      startOf [⟨"Content-Range", s!"bytes {first.toNat}-{last}/{size}".toUTF8.toList⟩] =
        some first.toNat := by
  refine ⟨fun headers n => ?_, fun first last size => ?_⟩
  · constructor
    · intro read
      cases found : value? headers with
      | none =>
        rw [startOf, found] at read
        cases read
      | some value =>
        rw [startOf, found] at read
        obtain ⟨header, named, rfl⟩ := value?_eq_some_iff.mp found
        obtain ⟨text, core, states⟩ := start?_eq_some_iff.mp read
        exact ⟨header, text, core, named, states⟩
    · rintro ⟨header, text, core, named, states⟩
      rw [startOf, value?_eq_some_iff.mpr ⟨header, named, rfl⟩]
      exact start?_eq_some_iff.mpr ⟨text, core, states⟩
  · have named : "Content-Range".map Char.toLower = "content-range" := by decide +kernel
    have found (value : Bytes) : value? [⟨"Content-Range", value⟩] = some value :=
      value?_eq_some_iff.mpr ⟨_, ⟨named, [], [], rfl, nofun⟩, rfl⟩
    rw [startOf, found]
    exact start?_eq first.toNat_lt

example : start? "\tbytes  +007 -rest".toUTF8.toList = some 7 := by decide +kernel

end RangeFetch.Http.ContentRange
