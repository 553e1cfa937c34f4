import Mathlib.Algebra.Order.Field.Rat
import Mathlib.Data.Prod.Lex
import Mathlib.Order.Compare

namespace PrismGateway.Lib

open Float.Model Prod.Lex

def unpackedKey : UnpackedFloat → ℤ ×ₗ ℤ ×ₗ ℤ
  | .infinity .negative => toLex (-2,toLex (0,0))
  | .finite .negative m e _ => toLex (-1,toLex (-e,-m))
  | .notANumber => toLex (0,toLex (0,0))
  | .zero _ => toLex (0,toLex (0,0))
  | .finite .positive m e _ => toLex (1,toLex (e,m))
  | .infinity .positive => toLex (2,toLex (0,0))

theorem then_eq_lt {e₁ e₂ : ℤ} {m₁ m₂ : ℕ} :
    (compare e₁ e₂).then (compare m₁ m₂) = .lt ↔ e₁ < e₂ ∨ e₁ = e₂ ∧ m₁ < m₂ := by
  rw [Ordering.then_eq_lt,compare_lt_iff_lt,compare_eq_iff_eq,compare_lt_iff_lt]

theorem then_eq_gt {e₁ e₂ : ℤ} {m₁ m₂ : ℕ} :
    (compare e₁ e₂).then (compare m₁ m₂) = .gt ↔ e₂ < e₁ ∨ e₁ = e₂ ∧ m₂ < m₁ := by
  rw [Ordering.then_eq_gt,compare_gt_iff_gt,compare_eq_iff_eq,compare_gt_iff_gt]

theorem lt_iff_of_compare {a b : UnpackedFloat} {o : Ordering} {x y : ℤ} {u v : ℤ ×ₗ ℤ}
    (ho : a.compare b = some o) (hx : unpackedKey a = toLex (x,u)) (hy : unpackedKey b = toLex (y,v))
    (h : o = .lt ↔ x < y ∨ x = y ∧ u < v) : a.lt b = true ↔ unpackedKey a < unpackedKey b := by
  change (a.compare b == some .lt) = true ↔ _
  rw [ho,hx,hy,toLex_lt_toLex,beq_iff_eq,Option.some_inj]
  exact h

theorem unpacked_lt_iff {a b : UnpackedFloat} (ha : a.isNaN = false) (hb : b.isNaN = false) :
    a.lt b = true ↔ unpackedKey a < unpackedKey b := by
  cases a with
  | notANumber => cases ha
  | infinity s =>
    cases b with
    | notANumber => cases hb
    | infinity t => cases s <;> cases t <;> decide
    | zero t => cases s <;> exact lt_iff_of_compare rfl rfl rfl (by simp)
    | finite t m e hp => cases s <;> cases t <;> exact lt_iff_of_compare rfl rfl rfl (by simp)
  | zero s =>
    cases b with
    | notANumber => cases hb
    | infinity t => cases t <;> exact lt_iff_of_compare rfl rfl rfl (by simp)
    | zero t => exact lt_iff_of_compare rfl rfl rfl (by simp)
    | finite t m e hp => cases t <;> exact lt_iff_of_compare rfl rfl rfl (by simp)
  | finite s m e hp =>
    cases b with
    | notANumber => cases hb
    | infinity t => cases s <;> cases t <;> exact lt_iff_of_compare rfl rfl rfl (by simp)
    | zero t => cases s <;> exact lt_iff_of_compare rfl rfl rfl (by simp)
    | finite t m' e' hp' =>
      cases s <;> cases t <;>
        exact lt_iff_of_compare rfl rfl rfl (by simp [toLex_lt_toLex,then_eq_lt,then_eq_gt])

def floatKey (x : Float) : ℤ ×ₗ ℤ ×ₗ ℤ := unpackedKey x.toModel.unpack

def unpackedValue : UnpackedFloat → ℚ
  | .finite .positive m e _ => m * 2 ^ e
  | .finite .negative m e _ => -(m * 2 ^ e)
  | _ => 0

def floatValue (x : Float) : ℚ := unpackedValue x.toModel.unpack

theorem float_lt_iff {x y : Float} (hx : x.isNaN = false) (hy : y.isNaN = false) :
    x < y ↔ floatKey x < floatKey y :=
  decide_eq_true_iff.trans (unpacked_lt_iff hx hy)

theorem compare_swapped (a b : UnpackedFloat) :
    b.compare a = (a.compare b).map Ordering.swap := by
  cases a with
  | notANumber => cases b <;> rfl
  | infinity s =>
    cases b with
    | notANumber => cases s <;> rfl
    | _ t => cases s <;> cases t <;> rfl
  | zero s =>
    cases b with
    | infinity t => cases t <;> rfl
    | finite t m e hp => cases t <;> rfl
    | _ => rfl
  | finite s m e hp =>
    cases b with
    | notANumber => cases s <;> rfl
    | zero t => cases s <;> rfl
    | infinity t => cases s <;> cases t <;> rfl
    | finite t m' e' hp' =>
      have hswap : (compare e' e).then (compare m' m) = ((compare e e').then (compare m m')).swap := by
        rw [Ordering.swap_then,Int.compare_swap,Nat.compare_swap]
      cases s <;> cases t
      case negative.negative => exact congrArg (fun o => some (Ordering.swap o)) hswap
      case positive.positive => exact congrArg some hswap
      all_goals rfl

theorem numbers_compare {a b : UnpackedFloat} (ha : a.isNaN = false) (hb : b.isNaN = false) :
    ∃ o, a.compare b = some o := by
  cases a with
  | notANumber => cases ha
  | _ s =>
    cases b with
    | notANumber => cases hb
    | _ t => cases s <;> cases t <;> exact ⟨_,rfl⟩

theorem unpacked_le_iff {a b : UnpackedFloat} (ha : a.isNaN = false) (hb : b.isNaN = false) :
    a.le b = true ↔ unpackedKey a ≤ unpackedKey b := by
  have hle : a.le b = true ↔ ¬b.lt a = true := by
    obtain ⟨o,ho⟩ := numbers_compare ha hb
    unfold UnpackedFloat.le UnpackedFloat.lt
    rw [compare_swapped a b,ho]
    cases o <;> decide
  rw [hle,unpacked_lt_iff hb ha,not_lt]

theorem float_le_iff {x y : Float} (hx : x.isNaN = false) (hy : y.isNaN = false) :
    x ≤ y ↔ floatKey x ≤ floatKey y :=
  decide_eq_true_iff.trans (unpacked_le_iff hx hy)

end PrismGateway.Lib
