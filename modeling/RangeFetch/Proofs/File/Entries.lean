import RangeFetch.File.Reading
import RangeFetch.File.TableHistory

namespace RangeFetch

namespace StreamingFile

structure IsWithdrawn (f : StreamingFile) : Prop where
  released : f.released = true
  unused : f.inUse = none

variable {f : StreamingFile}

theorem isWithdrawn_release (f : StreamingFile) : f.release.IsWithdrawn := ⟨rfl, rfl⟩

theorem stopAll_nil (f : StreamingFile) : f.stopAll [] = f := by
  have same : (f.stopAll []).downloaders = f.downloaders := by
    refine List.ext_getElem? fun k => ?_
    rw [getElem?_stopAll]
    simp
  calc f.stopAll [] = { f with downloaders := (f.stopAll []).downloaders } := rfl
    _ = f := by rw [same]

theorem enqueue_of_released (released : f.released = true) (signal : Nat) {start limit : Nat}
    (ordered : start ≤ limit) :
    f.enqueue signal start limit = (.error .released, f, [⟨signal, .failed .cancelled⟩]) := by
  rw [enqueue, Chunk.request, dif_pos ordered]
  exact if_pos released

theorem apply_enqueue_of_released (released : f.released = true) (signal start limit : Nat) :
    f.apply (.enqueue signal start limit) = f := by
  by_cases ordered : start ≤ limit
  · rw [apply, enqueue_of_released released signal ordered]
  · rw [apply, enqueue, Chunk.request, dif_neg ordered]

theorem release_of_isWithdrawn (withdrawn : f.IsWithdrawn) : f.release = f := by
  have same : f.withdraw = f := by
    rw [withdraw, ← withdrawn.released, ← withdrawn.unused]
  rw [release, same, withdrawn.unused]
  exact f.stopAll_nil

theorem step_keeps (f : StreamingFile) (k : Nat) (e : Downloader.Event) :
    (f.step k e).1.released = f.released ∧ (f.step k e).1.inUse = f.inUse := by
  unfold step
  split <;> exact ⟨rfl, rfl⟩

theorem IsWithdrawn.apply (withdrawn : f.IsWithdrawn) (operation : Operation) :
    (f.apply operation).IsWithdrawn := by
  cases operation with
  | enqueue signal start limit =>
    rw [apply_enqueue_of_released withdrawn.released]
    exact withdrawn
  | release => exact f.isWithdrawn_release
  | step k e =>
    obtain ⟨released, unused⟩ := f.step_keeps k e
    exact ⟨released.trans withdrawn.released, unused.trans withdrawn.unused⟩

theorem IsWithdrawn.foldl (withdrawn : f.IsWithdrawn) (operations : List Operation) :
    (operations.foldl StreamingFile.apply f).IsWithdrawn := by
  induction operations generalizing f with
  | nil => exact withdrawn
  | cons operation rest ih => exact ih (withdrawn.apply operation)

end StreamingFile

namespace FileTable

variable {t : FileTable} {handle other : Nat} {e : FileEntry}

theorem entry?_setEntry (found : t.entry? handle = some e) (e' : FileEntry) :
    entry? (t.setEntry handle e') handle = some e' := by
  obtain ⟨n, rfl, there⟩ := handle_of_entry? found
  have short := (List.getElem?_eq_some_iff.mp there).1
  exact List.getElem?_set_self short

theorem entry?_setEntry_ne (found : t.entry? handle = some e) (apart : other ≠ handle)
    (e' : FileEntry) : entry? (t.setEntry handle e') other = t.entry? other := by
  obtain ⟨n, rfl, -⟩ := handle_of_entry? found
  cases other with
  | zero => rfl
  | succ m => exact List.getElem?_set_ne (by omega)

theorem entry?_setFile (found : t.entry? handle = some e) (f : StreamingFile) :
    entry? (t.setFile handle f) handle = some { e with file := f } := by
  rw [setFile, found]
  exact entry?_setEntry found _

theorem entry?_setFile_ne (apart : other ≠ handle) (f : StreamingFile) :
    entry? (t.setFile handle f) other = t.entry? other := by
  unfold setFile
  cases found : t.entry? handle with
  | none => rfl
  | some e => exact entry?_setEntry_ne found apart _

theorem le_of_entry? (found : t.entry? handle = some e) :
    0 < handle ∧ handle ≤ t.entries.length := by
  obtain ⟨n, rfl, there⟩ := handle_of_entry? found
  exact ⟨Nat.succ_pos n, (List.getElem?_eq_some_iff.mp there).1⟩

theorem entry?_read_ne (apart : other ≠ handle) (signal offset size : Nat) :
    entry? (t.read handle signal offset size).2.1 other = t.entry? other := by
  unfold read
  cases t.get handle with
  | error e => rfl
  | ok f => exact entry?_setFile_ne apart _

theorem get_of_open (found : t.entry? handle = some e) (is_open : e.isOpen = true) :
    t.get handle = .ok e.file := by
  rw [get, found]
  exact if_pos is_open

theorem get_of_closed (found : t.entry? handle = some e) (closed : e.isOpen = false) :
    t.get handle = .error (.badHandle handle) := by
  rw [get, found]
  exact if_neg (Bool.eq_false_iff.mp closed)

theorem release_of_open (found : t.entry? handle = some e) (is_open : e.isOpen = true) :
    t.release handle = .ok (t.setEntry handle ⟨e.file.release, false⟩) := by
  rw [release, found]
  exact if_pos is_open

theorem release_of_closed (found : t.entry? handle = some e) (closed : e.isOpen = false) :
    t.release handle = .error (.badHandle handle) := by
  rw [release, found]
  exact if_neg (Bool.eq_false_iff.mp closed)

theorem of_release {t' : FileTable} (released : t.release handle = .ok t') :
    ∃ e, t.entry? handle = some e ∧ e.isOpen = true ∧
      t' = t.setEntry handle ⟨e.file.release, false⟩ := by
  cases found : t.entry? handle with
  | none =>
    rw [release, found] at released
    cases released
  | some e =>
    cases is_open : e.isOpen with
    | true =>
      rw [release_of_open found is_open] at released
      cases released
      exact ⟨e, rfl, is_open, rfl⟩
    | false =>
      rw [release_of_closed found is_open] at released
      cases released

theorem entry?_release_ne {t' : FileTable} (apart : other ≠ handle)
    (released : t.release handle = .ok t') : t'.entry? other = t.entry? other := by
  obtain ⟨e, found, -, rfl⟩ := of_release released
  exact entry?_setEntry_ne found apart _

theorem entry?_openFile (found : t.entry? handle = some e) (identity : FileIdentity) :
    entry? (t.openFile identity).2 handle = some e := by
  obtain ⟨n, rfl, there⟩ := handle_of_entry? found
  exact (List.getElem?_append_left (List.getElem?_eq_some_iff.mp there).1).trans there

theorem Happening.operation?_of_closes {x : Happening} (closes : x.closes handle = true) :
    x.operation? handle = some .release := by
  cases x with
  | release other => exact if_pos (beq_iff_eq.mp closes)
  | openFile identity => cases closes
  | get other => cases closes
  | read other signal offset size => cases closes
  | held other operation => cases closes

/-- A file whose handle is closed has been released. -/
def Settled (e : FileEntry) : Prop := e.isOpen = false → e.file.IsWithdrawn

def entryAfter (handle : Nat) (x : Happening) (e : FileEntry) : FileEntry where
  file := (x.operation? handle).elim e.file e.file.apply
  isOpen := e.isOpen && !x.closes handle

section EntryAfter

variable {x : Happening}

theorem entryAfter_of_elsewhere (elsewhere : x.operation? handle = none)
    (stays : x.closes handle = false) : entryAfter handle x e = e := by
  rw [entryAfter, elsewhere, stays, Bool.not_false, Bool.and_true]
  rfl

theorem entryAfter_of_operation {operation : StreamingFile.Operation}
    (here : x.operation? handle = some operation) (stays : x.closes handle = false) :
    entryAfter handle x e = { e with file := e.file.apply operation } := by
  rw [entryAfter, here, stays, Bool.not_false, Bool.and_true]
  rfl

theorem entryAfter_of_closes (closes : x.closes handle = true) :
    entryAfter handle x e = ⟨e.file.release, false⟩ := by
  rw [entryAfter, Happening.operation?_of_closes closes, closes, Bool.not_true, Bool.and_false]
  rfl

theorem settled_entryAfter (settled : Settled e) (x : Happening) :
    Settled (entryAfter handle x e) := by
  cases closes : x.closes handle with
  | true =>
    rw [entryAfter_of_closes closes]
    exact fun _ => e.file.isWithdrawn_release
  | false =>
    cases operation : x.operation? handle with
    | none =>
      rw [entryAfter_of_elsewhere operation closes]
      exact settled
    | some op =>
      rw [entryAfter_of_operation operation closes]
      exact fun closed => (settled closed).apply op

end EntryAfter

theorem entry?_step (found : t.entry? handle = some e) (settled : Settled e) (x : Happening) :
    entry? (t.step x) handle = some (entryAfter handle x e) := by
  cases x with
  | openFile identity =>
    rw [entryAfter_of_elsewhere rfl rfl]
    exact entry?_openFile found identity
  | get other =>
    rw [entryAfter_of_elsewhere rfl rfl]
    exact found
  | read other signal offset size =>
    by_cases same : other = handle
    · subst same
      have here : (Happening.read other signal offset size).operation? other =
        some (.enqueue signal offset (StreamingFile.readLimit offset size)) := if_pos rfl
      rw [entryAfter_of_operation here rfl, step, read]
      cases is_open : e.isOpen with
      | true =>
        rw [get_of_open found is_open]
        exact (entry?_setFile found _).trans (by rw [is_open]; rfl)
      | false =>
        have stays := StreamingFile.apply_enqueue_of_released (settled is_open).released signal
          offset (StreamingFile.readLimit offset size)
        rw [get_of_closed found is_open, stays, ← is_open]
        exact found
    · have elsewhere : (Happening.read other signal offset size).operation? handle = none :=
        if_neg same
      rw [entryAfter_of_elsewhere elsewhere rfl]
      exact (entry?_read_ne (Ne.symm same) signal offset size).trans found
  | release other =>
    by_cases same : other = handle
    · subst same
      have closes : (Happening.release other).closes other = true := beq_self_eq_true other
      rw [entryAfter_of_closes closes, step]
      cases is_open : e.isOpen with
      | true =>
        rw [release_of_open found is_open]
        exact entry?_setEntry found _
      | false =>
        rw [release_of_closed found is_open,
          StreamingFile.release_of_isWithdrawn (settled is_open), ← is_open]
        exact found
    · have elsewhere : (Happening.release other).operation? handle = none := if_neg same
      have stays : (Happening.release other).closes handle = false := beq_false_of_ne same
      rw [entryAfter_of_elsewhere elsewhere stays, step]
      cases released : t.release other with
      | error e => exact found
      | ok t' => exact (entry?_release_ne (Ne.symm same) released).trans found
  | held other operation =>
    by_cases same : other = handle
    · subst same
      have file : t.file? other = some e.file := congrArg (Option.map FileEntry.file) found
      have here : (Happening.held other operation).operation? other = some operation := if_pos rfl
      rw [entryAfter_of_operation here rfl, step, file]
      exact entry?_setFile found _
    · have elsewhere : (Happening.held other operation).operation? handle = none := if_neg same
      rw [entryAfter_of_elsewhere elsewhere rfl, step]
      cases t.file? other with
      | none => exact found
      | some f => exact (entry?_setFile_ne (Ne.symm same) _).trans found

/-- Over a run the file of a handle undergoes what is done to it, and is closed by a release. -/
theorem entry?_run (found : t.entry? handle = some e) (settled : Settled e) (xs : List Happening) :
    entry? (t.run xs) handle =
      some ⟨(operationsOn handle xs).foldl StreamingFile.apply e.file,
        e.isOpen && !xs.any (Happening.closes handle)⟩ := by
  induction xs generalizing t e with
  | nil =>
    rw [List.any_nil, Bool.not_false, Bool.and_true]
    exact found
  | cons x rest ih =>
    have undergone : (operationsOn handle rest).foldl StreamingFile.apply (entryAfter handle x e).file
        = (operationsOn handle (x :: rest)).foldl StreamingFile.apply e.file := by
      cases operation : x.operation? handle with
      | none => simp only [entryAfter, operationsOn, List.filterMap_cons, operation, Option.elim_none]
      | some op =>
        simp only [entryAfter, operationsOn, List.filterMap_cons, operation, Option.elim_some,
          List.foldl_cons]
    have closed : ((entryAfter handle x e).isOpen && !rest.any (Happening.closes handle)) =
        (e.isOpen && !(x :: rest).any (Happening.closes handle)) := by
      rw [entryAfter, List.any_cons, Bool.not_or, Bool.and_assoc]
    rw [← undergone, ← closed]
    exact ih (entry?_step found settled x) (settled_entryAfter settled x)

end FileTable

end RangeFetch
