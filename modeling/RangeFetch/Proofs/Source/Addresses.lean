import Mathlib.Data.List.DropRight
import RangeFetch.Source.Resolver

namespace RangeFetch

def slashes (k : Nat) : String := .ofList (.replicate k '/')

def EndsInSlash (s : String) : Prop := ∃ front, s = front ++ "/"

theorem endsInSlash_iff (s : String) : EndsInSlash s ↔ s.toList.getLast? = some '/' := by
  rw [List.getLast?_eq_some_iff]
  constructor
  · rintro ⟨front, rfl⟩
    exact ⟨front.toList, String.toList_append⟩
  · rintro ⟨front, chars⟩
    refine ⟨.ofList front, String.toList_inj.mp ?_⟩
    rw [chars, String.toList_append, String.toList_ofList]
    rfl

theorem toList_slashes (k : Nat) : (slashes k).toList = List.replicate k '/' :=
  String.toList_ofList

theorem toList_contentUrl (base hash : String) :
    (contentUrl base hash).toList = base.toList.rdropWhile (· == '/') ++ '/' :: hash.toList :=
  String.toList_ofList

theorem contentUrl_append_slashes (base hash : String) (k : Nat) :
    contentUrl (base ++ slashes k) hash = contentUrl base hash := by
  have dropped : (base.toList ++ List.replicate k '/').rdropWhile (· == '/') =
      base.toList.rdropWhile (· == '/') := by
    rw [List.rdropWhile, List.reverse_append, List.reverse_replicate,
      List.dropWhile_append_of_pos fun c mem => by rw [List.eq_of_mem_replicate mem]; rfl]
    rfl
  apply String.toList_inj.mp
  rw [toList_contentUrl, toList_contentUrl, String.toList_append, toList_slashes, dropped]

theorem contentUrl_of_not_endsInSlash {front : String} (bare : ¬ EndsInSlash front)
    (hash : String) : contentUrl front hash = front ++ "/" ++ hash := by
  have kept : front.toList.rdropWhile (· == '/') = front.toList := by
    rw [List.rdropWhile_eq_self_iff]
    intro some last
    rw [endsInSlash_iff, List.getLast?_eq_some_getLast some] at bare
    exact bare (congrArg _ (beq_iff_eq.mp last))
  apply String.toList_inj.mp
  rw [toList_contentUrl, kept, String.toList_append, String.toList_append, List.append_assoc]
  rfl

theorem exists_front (base : String) :
    ∃ front k, base = front ++ slashes k ∧ ¬ EndsInSlash front := by
  let front := base.toList.rdropWhile (· == '/')
  let last := base.toList.rtakeWhile (· == '/')
  refine ⟨.ofList front, last.length, ?_, ?_⟩
  · have all : last = List.replicate last.length '/' := by
      refine List.eq_replicate_iff.mpr ⟨rfl, fun c mem => ?_⟩
      exact beq_iff_eq.mp (List.mem_rtakeWhile_imp (p := (· == '/')) mem)
    apply String.toList_inj.mp
    rw [String.toList_append, String.toList_ofList, toList_slashes, ← all]
    exact List.rdropWhile_append_rtakeWhile.symm
  · rw [endsInSlash_iff, String.toList_ofList]
    intro ends
    have some : front ≠ [] := by
      intro none
      rw [none] at ends
      cases ends
    rw [List.getLast?_eq_some_getLast some] at ends
    exact List.rdropWhile_last_not _ _ some (beq_iff_eq.mpr (Option.some.inj ends))

theorem contentUrl_injective (base : String) : Function.Injective (contentUrl base) := by
  intro hash other same
  have chars := congrArg String.toList same
  rw [toList_contentUrl, toList_contentUrl] at chars
  exact String.toList_inj.mp (List.cons.inj (List.append_cancel_left chars)).2

end RangeFetch
