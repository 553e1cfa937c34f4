import Mathlib.Data.List.Basic

namespace PrismGateway.Lib

section Tally

variable {α : Type} {f g : α → ℕ} {l : List α} {i : ℕ} {a : α}

def tally (f : α → ℕ) : List α → ℕ
  | [] => 0
  | a :: l => f a + tally f l

theorem tally_append (l m : List α) : tally f (l ++ m) = tally f l + tally f m := by
  induction l with
  | nil => simp [tally]
  | cons a l ih =>
    rw [List.cons_append,tally,tally,ih]
    omega

theorem tally_set (h : l[i]? = some a) (b : α) :
    tally f (l.set i b) + f a = tally f l + f b := by
  induction l generalizing i with
  | nil => simp at h
  | cons c l ih =>
    cases i with
    | zero =>
      obtain rfl : c = a := by simpa using h
      rw [List.set_cons_zero,tally,tally]
      omega
    | succ i =>
      have htail := ih (by simpa using h)
      rw [List.set_cons_succ,tally,tally]
      omega

theorem le_tally (h : l[i]? = some a) : f a ≤ tally f l := by
  induction l generalizing i with
  | nil => simp at h
  | cons c l ih =>
    rw [tally]
    cases i with
    | zero =>
      obtain rfl : c = a := by simpa using h
      omega
    | succ i =>
      have htail := ih (by simpa using h)
      omega

theorem tally_mono (h : ∀ a, f a ≤ g a) (l : List α) : tally f l ≤ tally g l := by
  induction l with
  | nil => exact Nat.le_refl 0
  | cons a l ih => exact Nat.add_le_add (h a) ih

theorem exists_pos_of_tally_pos (h : 0 < tally f l) : ∃ (i : ℕ) (a : α), l[i]? = some a ∧ 0 < f a := by
  induction l with
  | nil => exact absurd h (Nat.lt_irrefl 0)
  | cons c l ih =>
    rcases Nat.eq_zero_or_pos (f c) with hc | hc
    · rw [tally,hc,Nat.zero_add] at h
      obtain ⟨i,a,hi,ha⟩ := ih h
      exact ⟨i + 1,a,by simpa using hi,ha⟩
    · exact ⟨0,c,rfl,hc⟩

theorem exists_zero_of_tally_lt (h : tally f l < l.length) :
    ∃ (i : ℕ) (a : α), l[i]? = some a ∧ f a = 0 := by
  induction l with
  | nil => exact absurd h (Nat.not_lt_zero _)
  | cons c l ih =>
    rcases Nat.eq_zero_or_pos (f c) with hc | hc
    · exact ⟨0,c,rfl,hc⟩
    · rw [tally,List.length_cons] at h
      obtain ⟨i,a,hi,ha⟩ := ih (by omega)
      exact ⟨i + 1,a,by simpa using hi,ha⟩

theorem tally_le_length (h : ∀ a, f a ≤ 1) (l : List α) : tally f l ≤ l.length := by
  induction l with
  | nil => exact Nat.le_refl 0
  | cons a l ih =>
    have ha := h a
    rw [tally,List.length_cons]
    omega

theorem eq_one_of_tally (h : ∀ a, f a ≤ 1) (hl : tally f l = l.length) (hi : l[i]? = some a) :
    f a = 1 := by
  induction l generalizing i with
  | nil => simp at hi
  | cons c l ih =>
    have hc := h c
    have htail := tally_le_length h l
    rw [tally,List.length_cons] at hl
    cases i with
    | zero =>
      obtain rfl : c = a := by simpa using hi
      omega
    | succ i => exact ih (by omega) (by simpa using hi)

theorem tally_lt_length (h : ∀ a, f a ≤ 1) (hi : l[i]? = some a) (ha : f a = 0) :
    tally f l < l.length := by
  rcases Nat.lt_or_eq_of_le (tally_le_length h l) with hlt | heq
  · exact hlt
  · have hone := eq_one_of_tally h heq hi
    omega

end Tally

end PrismGateway.Lib
