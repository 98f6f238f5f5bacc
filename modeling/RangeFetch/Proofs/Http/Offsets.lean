import RangeFetch.Http.Client
import RangeFetch.Proofs.Http.Skipping
import RangeFetch.Proofs.Http.Values

namespace RangeFetch.Http

open Body

/-- A body that carries `sent`, in whatever pieces: all of `whole`, or as much of it as came before
an error. -/
structure Body.Carries (whole sent : Bytes) (broken : Option SourceError) (body : List Item) :
    Prop where
  brings : Brings sent broken body
  begins : sent <+: whole
  complete : broken = none → sent = whole

namespace Body.Carries

variable {whole sent : Bytes} {broken : Option SourceError} {body : List Item}

theorem skip (carries : Carries whole sent broken body) (count : Nat) :
    Carries (whole.drop count) (sent.drop count) broken (Body.skip count body) where
  brings := carries.brings.skip count
  begins := by
    obtain ⟨rest, rfl⟩ := carries.begins
    exact ⟨rest.drop (count - sent.length), List.drop_append.symm⟩
  complete clean := congrArg (List.drop count) (carries.complete clean)

theorem joinedBytes_eq (carries : Carries whole sent none body) : joinedBytes body = whole := by
  rw [carries.brings.joinedBytes_eq, carries.complete rfl]

end Body.Carries

namespace Response

/-- Answers that tell the truth: a full one, or a part that says where it begins. -/
inductive Honest (content : Bytes) (response : Response) :
    (part : Option Nat) → (sent : Bytes) → (broken : Option SourceError) → Prop
  | full {sent : Bytes} {broken : Option SourceError} (status : response.status = ok)
      (body : Carries content sent broken response.body) : Honest content response none sent broken
  | part {sent : Bytes} {broken : Option SourceError} (first last size : Nat)
      (status : response.status = partialContent)
      (header : ContentRange.value? response.headers =
        some s!"bytes {first}-{last}/{size}".toUTF8.toList)
      (offset : first < Limits.offsetBound)
      (body : Carries (content.drop first) sent broken response.body) :
      Honest content response (some first) sent broken

theorem Honest.destination?_eq_none {content : Bytes} {response : Response} {part : Option Nat}
    {sent : Bytes} {broken : Option SourceError} (honest : response.Honest content part sent broken)
    (target : String) : response.destination? target = none := by
  have stays : sendsAway response.status = false := by
    cases honest with
    | full status => rw [status]; rfl
    | part first last size status => rw [status]; rfl
  rw [destination?, stays]
  rfl

end Response

/-- How many bytes are skipped of an answer: those before the first one that was asked for, if it
has them and skipping is on. -/
def skippedOf (skipPrefix : Bool) (r : Request) : Option Nat → Nat
  | none => if skipPrefix then r.start else 0
  | some _ => 0

theorem receive_of_honest {content : Bytes} {response : Response} {part : Option Nat} {sent : Bytes}
    {broken : Option SourceError} (honest : response.Honest content part sent broken)
    (skipPrefix : Bool) (r : Request) (target : String) :
    ∃ items, receive skipPrefix r target (.ok response) =
        .ok ⟨r.url, part.getD 0 + skippedOf skipPrefix r part, items, .eof⟩ ∧
      Carries (content.drop (part.getD 0 + skippedOf skipPrefix r part))
        (sent.drop (skippedOf skipPrefix r part)) broken items := by
  have stays := honest.destination?_eq_none target
  cases honest with
  | full status body =>
    have not_part : response.status ≠ Response.partialContent := by rw [status]; decide
    by_cases skips : 0 < r.start ∧ skipPrefix = true
    · have skipped : skippedOf skipPrefix r none = r.start := if_pos skips.2
      refine ⟨Body.skip r.start response.body, ?_, ?_⟩
      · simp only [receive, stays, Response.toStream, if_neg not_part, if_pos status, if_pos skips,
          skipped, Option.getD_none, Nat.zero_add]
      · rw [skipped, Option.getD_none, Nat.zero_add]
        exact body.skip r.start
    · have skipped : skippedOf skipPrefix r none = 0 := by
        rw [skippedOf]
        split
        · rename_i on
          exact Nat.eq_zero_of_not_pos fun some => skips ⟨some, on⟩
        · rfl
      refine ⟨response.body, ?_, ?_⟩
      · simp only [receive, stays, Response.toStream, if_neg not_part, if_pos status, if_neg skips,
          skipped, Option.getD_none, Nat.zero_add]
      · rw [skipped]
        exact body
  | part first last size status header offset body =>
    have begins : ContentRange.startOf response.headers = some first := by
      rw [ContentRange.startOf, header]
      exact ContentRange.start?_eq offset
    refine ⟨response.body, ?_, body⟩
    simp only [receive, stays, Response.toStream, if_pos status, begins]
    rfl

/-- An honest answer, full or a part, cut and broken off anywhere, becomes a stream with the bytes
of the content from the offset on that it reports. With skipping, a full answer comes to the same as
the part that was asked for. -/
theorem receive_tells_offset (content : Bytes) (r : Request) (target : String) :
    (∀ skipPrefix response part sent broken, response.Honest content part sent broken →
      let offset := match part with
        | some first => first
        | none => if skipPrefix then r.start else 0
      ∃ items, receive skipPrefix r target (.ok response) = .ok ⟨r.url, offset, items, .eof⟩ ∧
        Carries (content.drop offset) (sent.drop (skippedOf skipPrefix r part)) broken items ∧
        (broken = none → joinedBytes items = content.drop offset)) ∧
    (∀ full part sent sent', full.Honest content none sent none →
      part.Honest content (some r.start) sent' none →
      ∃ items items', receive true r target (.ok full) = .ok ⟨r.url, r.start, items, .eof⟩ ∧
        receive true r target (.ok part) = .ok ⟨r.url, r.start, items', .eof⟩ ∧
        joinedBytes items = joinedBytes items') := by
  have offsets : ∀ skipPrefix response part sent broken,
      response.Honest content part sent broken →
      let offset := match part with
        | some first => first
        | none => if skipPrefix then r.start else 0
      ∃ items, receive skipPrefix r target (.ok response) = .ok ⟨r.url, offset, items, .eof⟩ ∧
        Carries (content.drop offset) (sent.drop (skippedOf skipPrefix r part)) broken items ∧
        (broken = none → joinedBytes items = content.drop offset) := by
    intro skipPrefix response part sent broken honest offset
    obtain ⟨items, opened, carries⟩ := receive_of_honest honest skipPrefix r target
    have reported : part.getD 0 + skippedOf skipPrefix r part = offset := by
      cases part with
      | none => exact Nat.zero_add _
      | some first => rfl
    rw [reported] at opened carries
    refine ⟨items, opened, carries, fun clean => ?_⟩
    subst clean
    exact carries.joinedBytes_eq
  refine ⟨offsets, fun full part sent sent' whole asked => ?_⟩
  obtain ⟨items, opened, -, bytes⟩ := offsets true full none sent none whole
  obtain ⟨items', opened', -, bytes'⟩ := offsets true part (some r.start) sent' none asked
  exact ⟨items, items', opened, opened', (bytes rfl).trans (bytes' rfl).symm⟩

theorem receive_tells_offset_two :
    let r : Request := ⟨"http://h/c", some 2⟩
    let e : SourceError := (HttpError.exchange .brokenOff).toSource
    let broken : Response := ⟨200, [], [.bytes [1], .bytes [], .bytes [2, 3], .failed e]⟩
    let full : Response := ⟨200, [], [.bytes [1, 2, 3], .bytes [4, 5]]⟩
    let part : Response := ⟨206, [ContentServer.contentRange 2 5], [.bytes [], .bytes [3, 4, 5]]⟩
    (∃ items, receive true r "/c" (.ok broken) = .ok ⟨r.url, 2, items, .eof⟩ ∧
      Carries [3, 4, 5] [3] (some e) items) ∧
    ∃ items items', receive true r "/c" (.ok full) = .ok ⟨r.url, 2, items, .eof⟩ ∧
      receive true r "/c" (.ok part) = .ok ⟨r.url, 2, items', .eof⟩ ∧
      joinedBytes items = joinedBytes items' := by
  intro r e broken full part
  obtain ⟨offsets, alike⟩ := receive_tells_offset [1, 2, 3, 4, 5] r "/c"
  have broken_honest : broken.Honest [1, 2, 3, 4, 5] none [1, 2, 3] (some e) :=
    .full rfl ⟨⟨[[1], [], [2, 3]], rfl, rfl⟩, ⟨[4, 5], rfl⟩, nofun⟩
  have full_honest : full.Honest [1, 2, 3, 4, 5] none [1, 2, 3, 4, 5] none :=
    .full rfl ⟨⟨[[1, 2, 3], [4, 5]], rfl, rfl⟩, List.prefix_refl _, fun _ => rfl⟩
  have header : ContentRange.value? part.headers = some s!"bytes {2}-{4}/{5}".toUTF8.toList := by
    decide +kernel
  have part_honest : part.Honest [1, 2, 3, 4, 5] (some r.start) [3, 4, 5] none :=
    .part 2 4 5 rfl header (by decide)
      ⟨⟨[[], [3, 4, 5]], rfl, rfl⟩, List.prefix_refl _, fun _ => rfl⟩
  obtain ⟨items, opened, carries, -⟩ := offsets true broken none _ _ broken_honest
  exact ⟨⟨items, opened, carries⟩, alike full part _ _ full_honest part_honest⟩

end RangeFetch.Http
