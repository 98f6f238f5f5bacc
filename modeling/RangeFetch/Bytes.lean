namespace RangeFetch

abbrev Bytes := List UInt8

namespace Bytes

/-- Pieces of `size` bytes, the last one shorter if need be. Size 0 counts as 1. -/
def cut (size : Nat) : Bytes → List Bytes
  | [] => []
  | b :: rest => (b :: rest.take (size - 1)) :: cut size (rest.drop (size - 1))
termination_by bytes => bytes.length
decreasing_by simp only [List.length_drop, List.length_cons]; omega

end Bytes

end RangeFetch
