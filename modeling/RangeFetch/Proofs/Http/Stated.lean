import RangeFetch.Http.Client
import RangeFetch.Proofs.Http.Values

namespace RangeFetch.Http

theorem receive_of_partial {response : Response} (status : response.status = Response.partialContent)
    (skipPrefix : Bool) (r : Request) (target : String) :
    receive skipPrefix r target (.ok response) =
      .ok ⟨r.url, (ContentRange.startOf response.headers).getD r.start, response.body, .eof⟩ := by
  have stays : response.destination? target = none := by
    rw [Response.destination?, status]
    rfl
  simp only [receive, stays, Response.toStream, if_pos status]

open ContentRange

/-- A partial answer is reported to start at the first position that its header states, if the unit
is in small letters, and else where it was asked to. -/
theorem partial_answer_starts {response : Response}
    (status : response.status = Response.partialContent) {value : Bytes}
    (header : value? response.headers = some value) (skipPrefix : Bool) (r : Request)
    (target : String) :
    ∃ offset, receive skipPrefix r target (.ok response) =
        .ok ⟨r.url, offset, response.body, .eof⟩ ∧
      (∀ unit digits, States value unit digits →
        offset = if unit = "bytes".toList ∧ decimal digits < Limits.offsetBound then decimal digits
          else r.start) ∧
      (start? value = none → offset = r.start) := by
  refine ⟨_, receive_of_partial status skipPrefix r target, ?_, ?_⟩
  · intro unit digits states
    rw [startOf, header]
    dsimp only
    rw [start?_of_states states]
    split <;> rfl
  · intro unread
    rw [startOf, header]
    dsimp only
    rw [unread, Option.getD_none]

def statingFive (unit : String) : Response :=
  ⟨206, [⟨"Content-Range", (unit ++ " 5-9/20").toUTF8.toList⟩], [.bytes [5, 6, 7, 8, 9]]⟩

theorem partial_answer_starts_five :
    ∃ offset, receive true ⟨"http://peer/c", some 3⟩ "/c" (.ok (statingFive "bytes")) =
      .ok ⟨"http://peer/c", offset, [.bytes [5, 6, 7, 8, 9]], .eof⟩ ∧ offset = 5 := by
  have header : value? (statingFive "bytes").headers = some "bytes 5-9/20".toUTF8.toList := by
    decide +kernel
  have states : States "bytes 5-9/20".toUTF8.toList "bytes".toList ['5'] :=
    ⟨⟨"bytes 5-9/20".toList, "9/20".toList, by decide +kernel, by decide +kernel⟩, by decide,
      by decide, List.forall_mem_singleton.mpr (by decide)⟩
  have status : (statingFive "bytes").status = Response.partialContent := rfl
  obtain ⟨offset, opened, stated, -⟩ :=
    partial_answer_starts status header true ⟨"http://peer/c", some 3⟩ "/c"
  exact ⟨offset, opened, stated _ _ states⟩

/-- In large letters the same position is passed over: the bytes from 5 on are reported to start
at 3. -/
theorem large_letters_passed_over :
    (∃ value, value? (statingFive "Bytes").headers = some value ∧ States value "Bytes".toList ['5']) ∧
      receive true ⟨"http://peer/c", some 3⟩ "/c" (.ok (statingFive "Bytes")) =
        .ok ⟨"http://peer/c", 3, [.bytes [5, 6, 7, 8, 9]], .eof⟩ := by
  refine ⟨⟨"Bytes 5-9/20".toUTF8.toList, by decide +kernel, ?_⟩, ?_⟩
  · exact ⟨⟨"Bytes 5-9/20".toList, "9/20".toList, by decide +kernel, by decide +kernel⟩, by decide,
      by decide, List.forall_mem_singleton.mpr (by decide)⟩
  · have unread : startOf (statingFive "Bytes").headers = none := by decide +kernel
    rw [receive_of_partial rfl, unread]
    rfl

end RangeFetch.Http
