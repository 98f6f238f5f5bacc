import RangeFetch.Proofs.Download.Driving
import RangeFetch.Proofs.Download.Service
import RangeFetch.Session.Basic

namespace RangeFetch

open Downloader (Event)

structure Downloader.IsFree (d : Downloader) : Prop where
  sound : d.Sound
  outstanding : d.outstanding = []

structure Downloader.Idles (d d' : Downloader) : Prop where
  free : d'.IsFree
  identity : d'.identity = d.identity
  rests : ∀ content, d.Rests content → d'.Rests content

theorem Downloader.Idles.step {d d' : Downloader} (h : d.Idles d') (e : Event) :
    d.Idles (d'.step e).1 := by
  have moves := d'.step_moves e
  obtain ⟨⟨sound, none⟩, identity, rests⟩ := h
  refine ⟨⟨moves.sound sound, moves.outstanding_nil none⟩, moves.same.1.trans identity, ?_⟩
  intro content rest
  exact (rests content rest).step e

namespace Session

variable {s : Session} {seat other : Seat} {d : Downloader} {handle k : Nat} {f : StreamingFile}

theorem setDownloader_file (file : s.table.file? handle = some f) (d : Downloader) :
    s.setDownloader (.file handle k) d =
      { s with
        table := s.table.setFile handle { f with downloaders := f.downloaders.set k d } } := by
  rw [setDownloader]
  simp only [file]

theorem setDownloader_of_none (file : s.table.file? handle = none) (d : Downloader) :
    s.setDownloader (.file handle k) d = s := by
  rw [setDownloader]
  simp only [file]

theorem downloader?_setDownloader (found : s.downloader? seat = some d) (d' : Downloader) :
    (s.setDownloader seat d').downloader? seat = some d' := by
  cases seat with
  | file handle k =>
    obtain ⟨f, file, there⟩ := Option.bind_eq_some_iff.mp found
    have short := (List.getElem?_eq_some_iff.mp there).1
    rw [setDownloader_file file]
    simp [downloader?, FileTable.file?_setFile file, List.getElem?_set_self short]
  | single k =>
    have short := (List.getElem?_eq_some_iff.mp found).1
    exact List.getElem?_set_self short

theorem downloader?_setDownloader_ne (apart : other ≠ seat) (d' : Downloader) :
    (s.setDownloader seat d').downloader? other = s.downloader? other := by
  cases seat with
  | file handle k =>
    cases file : s.table.file? handle with
    | none => rw [setDownloader_of_none file]
    | some f =>
      rw [setDownloader_file file]
      cases other with
      | single j => rfl
      | file handle' j =>
        by_cases same : handle' = handle
        · subst same
          have away : k ≠ j := by simpa [eq_comm] using apart
          simp [downloader?, FileTable.file?_setFile file, file, List.getElem?_set_ne away]
        · simp [downloader?, FileTable.file?_setFile_ne same]
  | single k =>
    cases other with
    | file handle' j => rfl
    | single j =>
      have away : k ≠ j := by simpa [eq_comm] using apart
      exact List.getElem?_set_ne away

theorem of_setDownloader {b d' : Downloader} (found : s.downloader? seat = some d)
    (there : (s.setDownloader seat d').downloader? other = some b) :
    (other = seat ∧ b = d') ∨ (other ≠ seat ∧ s.downloader? other = some b) := by
  by_cases own : other = seat
  · subst own
    rw [downloader?_setDownloader found d'] at there
    cases there
    exact .inl ⟨rfl, rfl⟩
  · rw [downloader?_setDownloader_ne own d'] at there
    exact .inr ⟨own, there⟩

theorem file?_setDownloader (found : s.table.file? handle = some f) (seat : Seat)
    (d' : Downloader) :
    ∃ f', (s.setDownloader seat d').table.file? handle = some f' ∧ f'.identity = f.identity ∧
      f'.released = f.released ∧ f'.inUse = f.inUse := by
  cases seat with
  | single k => exact ⟨f, found, rfl, rfl, rfl⟩
  | file handle' k =>
    cases file : s.table.file? handle' with
    | none =>
      rw [setDownloader_of_none file]
      exact ⟨f, found, rfl, rfl, rfl⟩
    | some f₀ =>
      rw [setDownloader_file file]
      by_cases same : handle' = handle
      · subst same
        rw [found] at file
        cases file
        exact ⟨_, FileTable.file?_setFile found _, rfl, rfl, rfl⟩
      · exact ⟨f, (FileTable.file?_setFile_ne (Ne.symm same) _).trans found, rfl, rfl, rfl⟩

theorem same_setDownloader (s : Session) (seat : Seat) (d' : Downloader) :
    (s.setDownloader seat d').world = s.world ∧ (s.setDownloader seat d').held = s.held ∧
      (s.setDownloader seat d').book = s.book := by
  cases seat with
  | single k => exact ⟨rfl, rfl, rfl⟩
  | file handle k =>
    cases file : s.table.file? handle with
    | none =>
      rw [setDownloader_of_none file]
      exact ⟨rfl, rfl, rfl⟩
    | some f =>
      rw [setDownloader_file file]
      exact ⟨rfl, rfl, rfl⟩

theorem mem_seats (found : s.downloader? seat = some d) : seat ∈ s.seats := by
  unfold seats
  cases seat with
  | single k =>
    have short := (List.getElem?_eq_some_iff.mp found).1
    simpa using Or.inr short
  | file handle k =>
    obtain ⟨f, file, there⟩ := Option.bind_eq_some_iff.mp found
    obtain ⟨e, entry, -⟩ := Option.map_eq_some_iff.mp file
    obtain ⟨n, rfl, place⟩ := FileTable.handle_of_entry? entry
    have short := (List.getElem?_eq_some_iff.mp there).1
    have known := (List.getElem?_eq_some_iff.mp place).1
    apply List.mem_append_left
    rw [List.mem_flatMap]
    refine ⟨n + 1, ?_, ?_⟩
    · simpa [handles] using known
    · simpa [fileSeats, file] using short

theorem setHeld_none (held : s.held = []) (seat : Seat) : s.setHeld seat none = s := by
  obtain ⟨world, table, singles, requests, book⟩ := s
  cases held
  rfl

theorem failingCount_of_free (found : s.downloader? seat = some d) (free : d.IsFree) :
    s.failingCount seat = 0 := by
  obtain ⟨-, none⟩ := List.append_eq_nil_iff.mp free.outstanding
  rw [failingCount, found, Option.map_some]
  cases at_ : d.phase with
  | failing shown error rest =>
    rw [at_] at none
    exact congrArg List.length none
  | _ => rfl

theorem move_of_free (held : s.held = []) (found : s.downloader? seat = some d) (free : d.IsFree) :
    ∃ d', s.move seat = (s.setDownloader seat d', false) ∧ d.Idles d' := by
  have now : d.Idles d := ⟨free, rfl, fun _ rest => rest⟩
  obtain ⟨d', drive, idles⟩ := Downloader.drive_induction World.supplier none s.world
    (fun _ h => h.free.outstanding) (fun _ e h => h.step e) now
  obtain ⟨-, held', -⟩ := s.same_setDownloader seat d'
  have moves : s.moveOnce seat = (s.setDownloader seat d', false) := by
    have lookup : s.held.lookup seat = none := by rw [held]; rfl
    simp only [moveOnce, found, lookup, drive]
    change ((s.setDownloader seat d').setHeld seat none, false) = _
    rw [setHeld_none (held'.trans held)]
  refine ⟨d', ?_, idles⟩
  rw [move, moves]
  simp only [failingCount_of_free (downloader?_setDownloader found d') idles.free]
  rfl

end Session

end RangeFetch
