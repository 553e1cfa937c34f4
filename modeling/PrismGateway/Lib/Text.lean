import Mathlib

namespace PrismGateway.Lib

theorem split_at_last {α : Type} {x : α} {a b d e : List α} (hd : x ∉ d) (he : x ∉ e)
    (h : a ++ x :: d = b ++ x :: e) : a = b ∧ d = e := by
  induction a generalizing b with
  | nil =>
    cases b with
    | nil => simpa using h
    | cons y b =>
      simp only [List.nil_append,List.cons_append,List.cons.injEq] at h
      exact absurd (h.2 ▸ by simp : x ∈ d) hd
  | cons z a ih =>
    cases b with
    | nil =>
      simp only [List.nil_append,List.cons_append,List.cons.injEq] at h
      exact absurd (h.2 ▸ by simp : x ∈ e) he
    | cons y b =>
      simp only [List.cons_append,List.cons.injEq] at h
      obtain ⟨hab,hde⟩ := ih h.2
      exact ⟨by rw [h.1,hab],hde⟩

theorem mem_toString_int {n : Int} {c : Char} (h : c ∈ (toString n).toList) :
    c = '-' ∨ c.isDigit := by
  have digits (m : Nat) (hc : c ∈ m.repr.toList) : c.isDigit := by
    rw [Nat.toList_repr] at hc
    exact Nat.isDigit_of_mem_toDigits (by decide) (by decide) hc
  change c ∈ (Int.repr n).toList at h
  cases n with
  | ofNat m => exact .inr (digits m h)
  | negSucc m =>
    simp only [Int.repr,String.toList_append] at h
    rcases List.mem_append.mp h with h | h
    · exact .inl (by simpa using h)
    · exact .inr (digits _ h)

theorem toString_int_injective {m n : Int} (h : toString m = toString n) : m = n :=
  Int.repr_injective h

end PrismGateway.Lib
