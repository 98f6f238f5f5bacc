import RangeFetch.Proofs.File.Entries

namespace RangeFetch

namespace FileTable

variable {t : FileTable} {handle other : Nat} {e : FileEntry}

theorem length_setEntry (t : FileTable) (handle : Nat) (e : FileEntry) :
    (t.setEntry handle e).entries.length = t.entries.length := List.length_set

theorem length_setFile (t : FileTable) (handle : Nat) (f : StreamingFile) :
    (t.setFile handle f).entries.length = t.entries.length ∧
      (t.setFile handle f).options = t.options := by
  unfold setFile
  split
  · exact ⟨t.length_setEntry handle _, rfl⟩
  · exact ⟨rfl, rfl⟩

theorem length_step (t : FileTable) (x : Happening) :
    (t.step x).entries.length = t.entries.length + x.isOpening.toNat ∧
      (t.step x).options = t.options := by
  cases x with
  | openFile identity => exact ⟨List.length_append, rfl⟩
  | get handle => exact ⟨rfl, rfl⟩
  | read handle signal offset size =>
    rw [step, read]
    cases t.get handle with
    | error e => exact ⟨rfl, rfl⟩
    | ok f => exact t.length_setFile handle _
  | release handle =>
    rw [step]
    cases released : t.release handle with
    | error e => exact ⟨rfl, rfl⟩
    | ok t' =>
      obtain ⟨e, -, -, rfl⟩ := of_release released
      exact ⟨t.length_setEntry handle _, rfl⟩
  | held handle operation =>
    rw [step]
    cases t.file? handle with
    | none => exact ⟨rfl, rfl⟩
    | some f => exact t.length_setFile handle _

theorem length_run (t : FileTable) (xs : List Happening) :
    (t.run xs).entries.length = t.entries.length + xs.countP Happening.isOpening ∧
      (t.run xs).options = t.options := by
  induction xs generalizing t with
  | nil => exact ⟨rfl, rfl⟩
  | cons x rest ih =>
    obtain ⟨more, options⟩ := ih (t.step x)
    obtain ⟨one, same⟩ := t.length_step x
    refine ⟨?_, options.trans same⟩
    rw [run, List.foldl_cons, ← run, more, one, List.countP_cons]
    cases x.isOpening
    · simp
    · simp
      omega

theorem issued_eq (t : FileTable) (xs : List Happening) :
    t.issued xs = List.range' (t.entries.length + 1) (xs.countP Happening.isOpening) := by
  induction xs generalizing t with
  | nil => rfl
  | cons x rest ih =>
    have length := (t.length_step x).1
    have issues := ih (t.step x)
    rw [length] at issues
    cases x with
    | openFile identity =>
      rw [List.countP_cons_of_pos rfl, List.range'_succ]
      exact congrArg ((t.entries.length + 1) :: ·) issues
    | _ =>
      rw [List.countP_cons_of_neg Bool.false_ne_true]
      exact issues

theorem exists_opening {xs : List Happening} (before : t.entries.length < handle)
    (found : entry? (t.run xs) handle = some e) :
    ∃ earlier identity later, xs = earlier ++ .openFile identity :: later ∧
      ((t.run earlier).openFile identity).1 = handle := by
  induction xs generalizing t with
  | nil =>
    obtain ⟨-, within⟩ := le_of_entry? found
    exact absurd within (Nat.not_le.mpr before)
  | cons x rest ih =>
    by_cases now : ∃ identity, x = .openFile identity ∧ t.entries.length + 1 = handle
    · obtain ⟨identity, rfl, same⟩ := now
      exact ⟨[], identity, rest, rfl, same⟩
    · have still : (t.step x).entries.length < handle := by
        rw [(t.length_step x).1]
        cases x with
        | openFile identity =>
          have other : t.entries.length + 1 ≠ handle := fun same => now ⟨identity, rfl, same⟩
          simp only [Happening.isOpening, Bool.toNat_true]
          omega
        | _ => exact before
      obtain ⟨earlier, identity, later, rfl, same⟩ := ih still found
      exact ⟨x :: earlier, identity, later, rfl, same⟩

theorem run_append (t : FileTable) (xs ys : List Happening) :
    t.run (xs ++ ys) = (t.run xs).run ys := List.foldl_append

theorem any_closes (xs : List Happening) :
    xs.any (Happening.closes handle) = false ↔ .release handle ∉ xs := by
  have closes : ∀ x : Happening, x.closes handle = true ↔ x = .release handle := by
    intro x
    cases x with
    | release other => simp [Happening.closes]
    | _ => simp [Happening.closes]
  rw [List.any_eq_false]
  refine ⟨fun none mem => none _ mem ((closes _).mpr rfl), fun absent x mem closing => ?_⟩
  exact absent ((closes x).mp closing ▸ mem)

theorem entry?_of_opening (t : FileTable) (earlier later : List Happening)
    (identity : FileIdentity) :
    let handle := ((t.run earlier).openFile identity).1
    entry? (t.run (earlier ++ .openFile identity :: later)) handle =
      some ⟨(operationsOn handle later).foldl StreamingFile.apply (.new identity t.options),
        !later.any (Happening.closes handle)⟩ := by
  intro handle
  have options := (t.length_run earlier).2
  have opened : entry? ((t.run earlier).openFile identity).2 handle =
      some ⟨.new identity t.options, true⟩ := by
    rw [← options]
    exact List.getElem?_concat_length
  rw [run_append]
  exact entry?_run opened nofun later

theorem get_eq_ok_iff {f : StreamingFile} :
    t.get handle = .ok f ↔ ∃ e, t.entry? handle = some e ∧ e.isOpen = true ∧ e.file = f := by
  cases found : t.entry? handle with
  | none => simp [get, found]
  | some e =>
    cases is_open : e.isOpen with
    | true => simp [get_of_open found is_open, is_open]
    | false => simp [get_of_closed found is_open, is_open]

theorem refused_of_get (closed : ∀ f, t.get handle ≠ .ok f) :
    t.get handle = .error (.badHandle handle) ∧ t.release handle = .error (.badHandle handle) ∧
      ∀ signal offset size,
        t.read handle signal offset size = (.error (.badHandle handle), t, []) := by
  have refused : t.get handle = .error (.badHandle handle) ∧
      t.release handle = .error (.badHandle handle) := by
    cases found : t.entry? handle with
    | none => exact ⟨by rw [get, found], by rw [release, found]⟩
    | some e =>
      cases is_open : e.isOpen with
      | true => exact absurd (get_of_open found is_open) (closed e.file)
      | false => exact ⟨get_of_closed found is_open, release_of_closed found is_open⟩
  refine ⟨refused.1, refused.2, fun signal offset size => ?_⟩
  rw [read, refused.1]

theorem countP_range' {α : Type} {p : α → Bool} {q : Nat → Bool} (l : List α) (start : Nat)
    (same : ∀ i a, l[i]? = some a → q (start + i) = p a) :
    (List.range' start l.length).countP q = l.countP p := by
  induction l generalizing start with
  | nil => rfl
  | cons a rest ih =>
    have first : q start = p a := same 0 a rfl
    have others : ∀ i b, rest[i]? = some b → q (start + 1 + i) = p b := fun i b there => by
      rw [Nat.add_assoc, Nat.add_comm 1]
      exact same (i + 1) b there
    rw [List.length_cons, List.range'_succ, List.countP_cons, List.countP_cons, first,
      ih (start + 1) others]

theorem openCount_eq (t : FileTable) :
    t.openCount = ((List.range' 1 t.entries.length).filter fun h => (t.get h).isOk).length := by
  rw [← List.countP_eq_length_filter, openCount]
  refine (countP_range' t.entries 1 fun i e there => ?_).symm
  have found : t.entry? (1 + i) = some e := by
    rw [Nat.add_comm]
    exact there
  cases is_open : e.isOpen with
  | true => rw [get_of_open found is_open]; rfl
  | false => rw [get_of_closed found is_open]; rfl

/-- Whoever holds on to a released file is refused. -/
structure Rejects (f : StreamingFile) : Prop where
  released : f.released = true
  enqueue (signal : Nat) {offset : Nat} (size : Nat) (within : offset < Limits.offsetBound) :
    f.enqueue signal offset (StreamingFile.readLimit offset size) =
      (.error .released, f, [⟨signal, .failed .cancelled⟩])
  read {ε : Type} (source : Supplier ε) (signal : Nat) {offset : Nat} (size : Nat) (w : ε)
    (within : offset < Limits.offsetBound) :
    f.read source signal offset size w = (some (.error .released), f, w)

theorem rejects_of_released {f : StreamingFile} (released : f.released = true) : Rejects f := by
  have ordered : ∀ offset size, offset < Limits.offsetBound →
      offset ≤ StreamingFile.readLimit offset size := by
    intro offset size within
    have last : Limits.maxOffset + 1 = Limits.offsetBound := rfl
    rw [StreamingFile.readLimit]
    omega
  refine ⟨released, fun signal offset size within =>
    StreamingFile.enqueue_of_released released signal (ordered offset size within), ?_⟩
  intro ε source signal offset size w within
  rw [StreamingFile.read,
    StreamingFile.enqueue_of_released released signal (ordered offset size within)]

/-- The file of a released handle is refused to all who hold on to it, whatever comes later. -/
theorem rejects_after_release {f : StreamingFile} (is_open : t.get handle = .ok f)
    (later : List Happening) :
    ∃ f', (t.run (.release handle :: later)).file? handle = some f' ∧ Rejects f' := by
  obtain ⟨e, found, opened, -⟩ := get_eq_ok_iff.mp is_open
  have settled : Settled e := fun closed => absurd (opened.symm.trans closed) (by decide)
  have closes : (Happening.release handle).closes handle = true := beq_self_eq_true handle
  have closed := entry?_step found settled (.release handle)
  rw [entryAfter_of_closes closes] at closed
  have withdrawn := e.file.isWithdrawn_release
  have after := entry?_run closed (fun _ => withdrawn) later
  exact ⟨_, congrArg (Option.map FileEntry.file) after,
    rejects_of_released (withdrawn.foldl _).released⟩

/-- Handles come in ascending order, each once, and lead to the file that was opened under them,
with what was done to it since, until they are released. No other handle is accepted anywhere, and a
file whose handle is released refuses all who hold on to it. -/
theorem handles_stand_for_files (options : DownloadOptions) (xs : List Happening)
    (few : xs.countP Happening.isOpening < Limits.offsetBound - 1) :
    let start := empty options
    let t := start.run xs
    let issued := start.issued xs
    (issued.Pairwise (· < ·) ∧ ∀ h ∈ issued, h < Limits.offsetBound) ∧
    (∀ earlier identity later, xs = earlier ++ .openFile identity :: later →
      let h := ((start.run earlier).openFile identity).1
      h ∈ issued ∧ t.file? h =
        some ((operationsOn h later).foldl StreamingFile.apply (.new identity options))) ∧
    (∀ h f, t.get h = .ok f ↔ ∃ earlier identity later,
      xs = earlier ++ .openFile identity :: later ∧
        ((start.run earlier).openFile identity).1 = h ∧ .release h ∉ later ∧
        f = (operationsOn h later).foldl StreamingFile.apply (.new identity options)) ∧
    t.openCount = (issued.filter fun h => (t.get h).isOk).length ∧
    (∀ h, (∀ f, t.get h ≠ .ok f) →
      t.get h = .error (.badHandle h) ∧ t.release h = .error (.badHandle h) ∧
        ∀ signal offset size, t.read h signal offset size = (.error (.badHandle h), t, [])) ∧
    (∀ h other, other ≠ h →
      (∀ t', t.release h = .ok t' → t'.entry? other = t.entry? other) ∧
        ∀ signal offset size,
          entry? (t.read h signal offset size).2.1 other = t.entry? other) ∧
    ∀ earlier h later, xs = earlier ++ .release h :: later →
      (∃ f, (start.run earlier).get h = .ok f) → ∃ f, t.file? h = some f ∧ Rejects f := by
  intro start t issued
  have handles : issued = List.range' 1 (xs.countP Happening.isOpening) := start.issued_eq xs
  have length : t.entries.length = xs.countP Happening.isOpening :=
    (start.length_run xs).1.trans (Nat.zero_add _)
  have undergone : ∀ earlier identity later, xs = earlier ++ .openFile identity :: later →
      t.entry? ((start.run earlier).openFile identity).1 = some
        ⟨(operationsOn ((start.run earlier).openFile identity).1 later).foldl StreamingFile.apply
          (.new identity options),
        !later.any (Happening.closes ((start.run earlier).openFile identity).1)⟩ := by
    rintro earlier identity later rfl
    exact start.entry?_of_opening earlier later identity
  refine ⟨⟨?_, ?_⟩, ?_, ?_, ?_, fun h => refused_of_get, ?_, ?_⟩
  · rw [handles]
    exact List.pairwise_lt_range'
  · intro h mem
    rw [handles, List.mem_range'_1] at mem
    omega
  · intro earlier identity later split h
    have found := undergone earlier identity later split
    obtain ⟨positive, within⟩ := le_of_entry? found
    refine ⟨?_, congrArg (Option.map FileEntry.file) found⟩
    rw [handles, List.mem_range'_1]
    omega
  · intro h f
    rw [get_eq_ok_iff]
    refine ⟨?_, ?_⟩
    · rintro ⟨e, found, is_open, rfl⟩
      obtain ⟨positive, -⟩ := le_of_entry? found
      obtain ⟨earlier, identity, later, split, rfl⟩ := exists_opening positive found
      obtain rfl := Option.some.inj (found.symm.trans (undergone earlier identity later split))
      refine ⟨earlier, identity, later, split, rfl, (any_closes later).mp ?_, rfl⟩
      simpa using is_open
    · rintro ⟨earlier, identity, later, split, rfl, kept, rfl⟩
      refine ⟨_, undergone earlier identity later split, ?_, rfl⟩
      rw [(any_closes later).mpr kept]
      rfl
  · rw [openCount_eq, length, handles]
  · exact fun h other apart => ⟨fun t' => entry?_release_ne apart, entry?_read_ne apart⟩
  · rintro earlier h later rfl ⟨f, is_open⟩
    have split : t = (start.run earlier).run (.release h :: later) := run_append start _ _
    rw [split]
    exact rejects_after_release is_open later

/-- Two opens of one identity, the first of them read and released; a handle that never was is
released as well, and a third file is opened. -/
def reopening : List Happening :=
  [.openFile ⟨"ab", 4⟩, .openFile ⟨"ab", 4⟩, .read 1 0 2 2, .release 1, .release 7,
    .openFile ⟨"cd", 9⟩, .held 1 (.enqueue 1 0 2), .get 1]

theorem reopening_handles :
    let start := empty DownloadOptions.standard
    let t := start.run reopening
    reopening.countP Happening.isOpening < Limits.offsetBound - 1 ∧
      (start.issued reopening).Pairwise (· < ·) ∧ t.openCount = 2 ∧
      t.get 2 = .ok (.new ⟨"ab", 4⟩ .standard) ∧
      (t.get 1 = .error (.badHandle 1) ∧ t.release 1 = .error (.badHandle 1)) ∧
      ∃ f, t.file? 1 = some f ∧ Rejects f := by
  intro start t
  have few : reopening.countP Happening.isOpening < Limits.offsetBound - 1 := by decide
  obtain ⟨⟨ascending, -⟩, -, get, count, refused, -, rejects⟩ :=
    handles_stand_for_files .standard reopening few
  have second : t.get 2 = .ok (.new ⟨"ab", 4⟩ .standard) :=
    (get 2 _).mpr ⟨reopening.take 1, _, reopening.drop 2, rfl, rfl, by simp [reopening], rfl⟩
  have first : ∀ f, t.get 1 ≠ .ok f := by
    intro f is_open
    have closed : t.get 1 = .error (.badHandle 1) := rfl
    cases closed.symm.trans is_open
  exact ⟨few, ascending, count.trans (by decide), second, ⟨(refused 1 first).1, (refused 1 first).2.1⟩,
    rejects (reopening.take 3) 1 (reopening.drop 4) rfl ⟨_, rfl⟩⟩

end FileTable

end RangeFetch
