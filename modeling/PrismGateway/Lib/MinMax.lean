import Mathlib.Algebra.Order.Field.Basic
import Mathlib.Order.OrderDual

namespace PrismGateway.Lib

section Order

variable {K : Type} [LinearOrder K]

def smallestOf (first : K) (values : List K) : K :=
  values.foldl (fun min v => if v < min then v else min) first

def largestOf (first : K) (values : List K) : K :=
  values.foldl (fun max v => if v > max then v else max) first

theorem smallestOf_le (values : List K) : ∀ first : K,
    smallestOf first values ≤ first ∧ ∀ v ∈ values, smallestOf first values ≤ v := by
  induction values with
  | nil => exact fun first => ⟨le_refl first,fun _ h => absurd h List.not_mem_nil⟩
  | cons v rest ih =>
    intro first
    obtain ⟨hkept,hrest⟩ := ih (if v < first then v else first)
    have hkept : smallestOf first (v :: rest) ≤ if v < first then v else first := hkept
    refine ⟨?_,List.forall_mem_cons.mpr ⟨?_,hrest⟩⟩
    · refine hkept.trans ?_
      split_ifs with h
      · exact h.le
      · exact le_refl first
    · refine hkept.trans ?_
      split_ifs with h
      · exact le_refl v
      · exact not_lt.mp h

theorem le_largestOf (values : List K) (first : K) :
    first ≤ largestOf first values ∧ ∀ v ∈ values, v ≤ largestOf first values :=
  @smallestOf_le Kᵒᵈ _ values first

end Order

section Normalized

variable {K : Type} [Field K] [LinearOrder K]

def normalized (values : List K) (v : K) : K :=
  match values with
  | [] => 0
  | first :: rest =>
    (v - smallestOf first rest) / (largestOf first rest - smallestOf first rest)

variable [IsStrictOrderedRing K]

theorem normalized_le_iff {values : List K} {x y : K} (hx : x ∈ values) (hy : y ∈ values) :
    normalized values x ≤ normalized values y ↔ x ≤ y := by
  obtain ⟨first,rest,rfl⟩ := List.exists_cons_of_ne_nil (List.ne_nil_of_mem hx)
  have hlow : ∀ v ∈ first :: rest, smallestOf first rest ≤ v :=
    List.forall_mem_cons.mpr (smallestOf_le rest first)
  have hhigh : ∀ v ∈ first :: rest, v ≤ largestOf first rest :=
    List.forall_mem_cons.mpr (le_largestOf rest first)
  simp only [normalized]
  rcases ((hlow x hx).trans (hhigh x hx)).eq_or_lt with hsame | hlt
  · -- all values are the same and all places 0
    have heq (v : K) (hv : v ∈ first :: rest) : v = smallestOf first rest :=
      le_antisymm (hsame ▸ hhigh v hv) (hlow v hv)
    rw [← hsame,sub_self,div_zero,div_zero,heq x hx,← heq y hy]
    exact iff_of_true le_rfl le_rfl
  · rw [div_le_div_iff_of_pos_right (sub_pos.mpr hlt),sub_le_sub_iff_right]

end Normalized

end PrismGateway.Lib
