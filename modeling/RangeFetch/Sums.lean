import Mathlib.Algebra.Ring.Nat
import Mathlib.Data.List.Perm.Basic

namespace RangeFetch

variable {α : Type} {g : α → Nat} {p : α → Bool} {l : List α} {i : Nat} {x : α}

def sumOf (g : α → Nat) (l : List α) : Nat := (l.map g).sum

@[simp] theorem sumOf_nil : sumOf g [] = 0 := rfl

@[simp] theorem sumOf_cons (x : α) (l : List α) : sumOf g (x :: l) = g x + sumOf g l :=
  List.sum_cons

theorem sumOf_eraseIdx (found : l[i]? = some x) : sumOf g (l.eraseIdx i) + g x = sumOf g l := by
  obtain ⟨within, rfl⟩ := List.getElem?_eq_some_iff.mp found
  have split := ((List.getElem_cons_eraseIdx_perm within).map g).sum_nat
  rw [List.map_cons, List.sum_cons] at split
  rw [sumOf, sumOf, ← split, Nat.add_comm]

theorem sumOf_set (found : l[i]? = some x) (y : α) :
    sumOf g (l.set i y) + g x = sumOf g l + g y := by
  have within := (List.getElem?_eq_some_iff.mp found).1
  have split := ((List.set_perm_cons_eraseIdx within y).map g).sum_nat
  rw [List.map_cons, List.sum_cons] at split
  rw [sumOf, split, ← sumOf, Nat.add_assoc, sumOf_eraseIdx found, Nat.add_comm]

theorem countP_eraseIdx (found : l[i]? = some x) :
    (l.eraseIdx i).countP p + (p x).toNat = l.countP p := by
  obtain ⟨within, rfl⟩ := List.getElem?_eq_some_iff.mp found
  rw [← (List.getElem_cons_eraseIdx_perm within).countP_eq p, List.countP_cons]
  cases p l[i] <;> rfl

theorem countP_set (found : l[i]? = some x) (y : α) :
    (l.set i y).countP p + (p x).toNat = l.countP p + (p y).toNat := by
  have within := (List.getElem?_eq_some_iff.mp found).1
  rw [(List.set_perm_cons_eraseIdx within y).countP_eq p, List.countP_cons,
    ← countP_eraseIdx found, Nat.add_right_comm]
  cases p y <;> rfl

end RangeFetch
