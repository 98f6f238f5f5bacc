import RangeFetch.Http.Body
import RangeFetch.Http.ContentRange

namespace RangeFetch.Http

structure Response where
  status : Nat
  headers : List Header
  /-- The body, as it came in, with the error that cut it short, if one did. -/
  body : List Item
  deriving DecidableEq

namespace Response

def ok : Nat := 200
def partialContent : Nat := 206
def notFound : Nat := 404
def rangeNotSatisfiable : Nat := 416

def toStream (response : Response) (skipPrefix : Bool) (r : Request) :
    Except SourceError OpenedStream :=
  if response.status = partialContent then
    .ok ⟨r.url, (ContentRange.startOf response.headers).getD r.start, response.body, .eof⟩
  else if response.status = ok then
    if 0 < r.start ∧ skipPrefix then
      .ok ⟨r.url, r.start, Body.skip r.start response.body, .eof⟩
    else .ok ⟨r.url, 0, response.body, .eof⟩
  else if response.status = notFound then .error (.notFound r.url)
  else if response.status = rangeNotSatisfiable then .error (.rangeNotSatisfiable r.url r.start)
  else .error (.httpStatus r.url response.status)

end Response

end RangeFetch.Http
