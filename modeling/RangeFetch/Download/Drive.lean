import RangeFetch.Download.Progress
import RangeFetch.Source.Supplier

namespace RangeFetch

structure Driven (ε : Type) where
  downloader : Downloader
  held : Option Request
  world : ε
  fired : List Firing

namespace Downloader

variable {ε : Type}

/-- What to ask for; a request that was held back is asked again as it is. -/
def nextRequest (d : Downloader) (source : Supplier ε) (held : Option Request) (w : ε)
    (start : Nat) : Except SourceError Request × ε :=
  match held with
  | some r => (.ok r, w)
  | none => source.locate w d.identity start

/-- Moves a downloader until it fires, or waits for something that is not there. -/
def drive (d : Downloader) (source : Supplier ε) (held : Option Request) (w : ε) : Driven ε :=
  match hw : d.wants with
  | .ready e =>
    if quiet : (d.step e).2 = [] then
      have := step_nearer d e hw quiet
      drive (d.step e).1 source none w
    else ⟨(d.step e).1, none, w, (d.step e).2⟩
  | .stream start =>
    match d.nextRequest source held w start with
    | (.error e, w') =>
      have := answer_nearer d start (.error e) hw
      drive (d.opened (.error e)) source none w'
    | (.ok r, w') =>
      match source.issue w' r with
      | none => ⟨d, some r, w', []⟩
      | some (answer, w'') =>
        have := answer_nearer d start (answer.map (·.stream)) hw
        drive (d.opened (answer.map (·.stream))) source none w''
  | _ => ⟨d, none, w, []⟩
termination_by (stage d.phase, d.restartsLeft, itemsLeft d.phase)
decreasing_by all_goals exact this

section Equations

variable {d : Downloader} {source : Supplier ε} {held : Option Request} {w w' w'' : ε} {e : Event}
  {start : Nat} {r : Request} {answer : Except SourceError OpenedStream}

theorem drive_of_quiet (wants : d.wants = .ready e) (quiet : (d.step e).2 = []) :
    d.drive source held w = (d.step e).1.drive source none w := by
  rw [drive]
  split
  · rename_i e' h
    rw [wants] at h
    cases h
    rw [dif_pos quiet]
  · rename_i h
    rw [wants] at h
    cases h
  · rename_i h _
    exact absurd wants (h e)

theorem drive_of_fires (wants : d.wants = .ready e) (fires : (d.step e).2 ≠ []) :
    d.drive source held w = ⟨(d.step e).1, none, w, (d.step e).2⟩ := by
  rw [drive]
  split
  · rename_i e' h
    rw [wants] at h
    cases h
    rw [dif_neg fires]
  · rename_i h
    rw [wants] at h
    cases h
  · rename_i h _
    exact absurd wants (h e)

theorem drive_of_answer (wants : d.wants = .stream start)
    (asks : d.nextRequest source held w start = (.ok r, w'))
    (issued : source.issue w' r = some (answer, w'')) :
    d.drive source held w = (d.opened (answer.map (·.stream))).drive source none w'' := by
  rw [drive]
  split
  · rename_i h
    rw [wants] at h
    cases h
  · rename_i start' h
    rw [wants] at h
    cases h
    simp only [asks, issued]
  · rename_i h
    exact absurd wants (h start)

end Equations

end Downloader

end RangeFetch
