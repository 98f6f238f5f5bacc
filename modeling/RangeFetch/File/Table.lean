import RangeFetch.File.Streaming

namespace RangeFetch

structure FileEntry where
  file : StreamingFile
  isOpen : Bool
  deriving DecidableEq

structure FileTable where
  options : DownloadOptions
  /-- Every file so far. The handle of the first one is 1. -/
  entries : List FileEntry
  deriving DecidableEq

namespace FileTable

def empty (options : DownloadOptions) : FileTable := ⟨options, []⟩

def openFile (t : FileTable) (identity : FileIdentity) : Nat × FileTable :=
  (t.entries.length + 1,
    { t with entries := t.entries ++ [⟨.new identity t.options, true⟩] })

def entry? (t : FileTable) (handle : Nat) : Option FileEntry :=
  match handle with
  | 0 => none
  | n + 1 => t.entries[n]?

/-- The file that was opened under a handle, whether or not the handle has been released. -/
def file? (t : FileTable) (handle : Nat) : Option StreamingFile := (t.entry? handle).map (·.file)

def get (t : FileTable) (handle : Nat) : Except FileError StreamingFile :=
  match t.entry? handle with
  | some e => if e.isOpen then .ok e.file else .error (.badHandle handle)
  | none => .error (.badHandle handle)

def openCount (t : FileTable) : Nat := t.entries.countP (·.isOpen)

def setEntry (t : FileTable) (handle : Nat) (e : FileEntry) : FileTable :=
  { t with entries := t.entries.set (handle - 1) e }

def setFile (t : FileTable) (handle : Nat) (file : StreamingFile) : FileTable :=
  match t.entry? handle with
  | some e => t.setEntry handle { e with file := file }
  | none => t

section Files

variable {t : FileTable} {handle other : Nat} {e : FileEntry}

theorem handle_of_entry? (found : t.entry? handle = some e) :
    ∃ n, handle = n + 1 ∧ t.entries[n]? = some e := by
  cases handle with
  | zero => cases found
  | succ n => exact ⟨n, rfl, found⟩

theorem file?_setFile {f : StreamingFile} (found : t.file? handle = some f) (f' : StreamingFile) :
    (t.setFile handle f').file? handle = some f' := by
  obtain ⟨e, entry, -⟩ := Option.map_eq_some_iff.mp found
  obtain ⟨n, rfl, there⟩ := handle_of_entry? entry
  have short := (List.getElem?_eq_some_iff.mp there).1
  rw [setFile, entry]
  simp [file?, setEntry, entry?, List.getElem?_set_self short]

theorem file?_setFile_ne (apart : other ≠ handle) (f : StreamingFile) :
    (t.setFile handle f).file? other = t.file? other := by
  unfold setFile
  cases entry : t.entry? handle with
  | none => rfl
  | some e =>
    obtain ⟨n, rfl, -⟩ := handle_of_entry? entry
    cases other with
    | zero => rfl
    | succ m =>
      have away : n ≠ m := by omega
      simp [file?, setEntry, entry?, List.getElem?_set_ne away]

end Files

def release (t : FileTable) (handle : Nat) : Except FileError FileTable :=
  match t.entry? handle with
  | some e =>
    if e.isOpen then .ok (t.setEntry handle ⟨e.file.release, false⟩)
    else .error (.badHandle handle)
  | none => .error (.badHandle handle)

end FileTable

end RangeFetch
