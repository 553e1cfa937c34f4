import Mathlib.Algebra.Order.Floor.Ring
import Mathlib.Algebra.Ring.Int.Parity
import Mathlib.Tactic.NormNum

namespace PrismGateway.Lib

variable {K : Type} [Field K] [LinearOrder K] [IsStrictOrderedRing K] [FloorRing K]

def nearestEven (x : K) : ℤ :=
  if Int.fract x < 1 / 2 ∨ Int.fract x = 1 / 2 ∧ Even ⌊x⌋ then ⌊x⌋ else ⌊x⌋ + 1

def fixedPoint (decimals : ℕ) (x : K) : K :=
  nearestEven (x * 10 ^ decimals) / 10 ^ decimals

theorem nearestEven_intCast (n : ℤ) : nearestEven (n : K) = n := by
  have hhalf : Int.fract (n : K) < 1 / 2 := by
    rw [Int.fract_intCast]
    norm_num
  rw [nearestEven,if_pos (.inl hhalf),Int.floor_intCast]

theorem fixedPoint_eq_self_iff (decimals : ℕ) (x : K) :
    fixedPoint decimals x = x ↔ ∃ n : ℤ, x = n / 10 ^ decimals := by
  have hne : (10 : K) ^ decimals ≠ 0 := pow_ne_zero _ (by norm_num)
  constructor
  · exact fun h => ⟨_,h.symm⟩
  · rintro ⟨n,rfl⟩
    rw [fixedPoint,div_mul_cancel₀ _ hne,nearestEven_intCast]

end PrismGateway.Lib
