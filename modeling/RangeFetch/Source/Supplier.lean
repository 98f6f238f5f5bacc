import RangeFetch.Identity
import RangeFetch.Source.Stream

namespace RangeFetch

structure Supplier (ε : Type) where
  resolve : ε → FileIdentity → Except SourceError String × ε
  /-- The answer to a request, or nothing while the request is held back. -/
  issue : ε → Request → Option (Except SourceError OpenedStream × ε)

namespace Supplier

variable {ε : Type}

def locate (s : Supplier ε) (w : ε) (id : FileIdentity) (start : Nat) :
    Except SourceError Request × ε :=
  match s.resolve w id with
  | (.error e, w') => (.error e, w')
  | (.ok url, w') => (.ok (.starting url start), w')

def openContent (s : Supplier ε) (w : ε) (id : FileIdentity) (start : Nat) :
    Option (Except SourceError OpenedStream × ε) :=
  match s.locate w id start with
  | (.error e, w') => some (.error e, w')
  | (.ok r, w') => s.issue w' r

end Supplier

end RangeFetch
