import Mathlib.Algebra.BigOperators.Group.Multiset.Basic
import Mathlib.Algebra.Order.BigOperators.Group.Finset
import Mathlib.Tactic.Linarith
import PrismGateway.Lib.Averages

namespace PrismGateway.Lib

section Squares

variable {K : Type} [Field K]

theorem sum_square_sub (l : List K) (c : K) : (l.map (fun x => (x - c) * (x - c))).sum =
    (l.map (fun x => x * x)).sum - 2 * c * l.sum + l.length * (c * c) := by
  induction l with
  | nil => simp
  | cons x rest ih =>
    simp only [List.map_cons,List.sum_cons,List.length_cons,ih]
    push_cast
    ring

variable [LinearOrder K] [IsStrictOrderedRing K]

theorem sum_square_mean_le (l : List K) (c : K) :
    (l.map (fun x => (x - l.sum / l.length) * (x - l.sum / l.length))).sum ≤
      (l.map (fun x => (x - c) * (x - c))).sum := by
  rcases l.eq_nil_or_concat' with rfl | ⟨rest,x,rfl⟩
  · exact le_rfl
  · generalize hl : rest ++ [x] = l
    have hn : (0 : K) < l.length := by
      rw [← hl,List.length_append]
      exact Nat.cast_pos.mpr (Nat.succ_pos _)
    have hsum : l.sum = l.sum / l.length * l.length := (div_mul_cancel₀ _ hn.ne').symm
    rw [sum_square_sub,sum_square_sub,← sub_nonneg]
    generalize l.sum / l.length = m at hsum
    rw [hsum]
    have hsquare : 0 ≤ l.length * ((c - m) * (c - m)) := mul_nonneg hn.le (mul_self_nonneg _)
    linarith

end Squares

section Distance

variable {ι K : Type} [Fintype ι] [Field K]

def distSq (x y : ι → K) : K := ∑ i, (x i - y i) * (x i - y i)

def centre (points : List (ι → K)) : ι → K := fun i => (points.map (· i)).sum / points.length

theorem sum_distSq (points : List (ι → K)) (c : ι → K) : (points.map (distSq · c)).sum =
    ∑ i, ((points.map (· i)).map (fun x => (x - c i) * (x - c i))).sum := by
  induction points with
  | nil => simp
  | cons x rest ih =>
    rw [List.map_cons,List.sum_cons,ih,distSq,← Finset.sum_add_distrib]
    rfl

variable [LinearOrder K] [IsStrictOrderedRing K]

theorem sum_distSq_centre_le (points : List (ι → K)) (c : ι → K) :
    (points.map (distSq · (centre points))).sum ≤ (points.map (distSq · c)).sum := by
  rw [sum_distSq,sum_distSq]
  refine Finset.sum_le_sum fun i _ => ?_
  have hmean := sum_square_mean_le (points.map (· i)) (c i)
  rw [List.length_map] at hmean
  exact hmean

end Distance

section Groups

variable {ι κ : Type} [DecidableEq κ]

theorem flatMap_groups_perm {key : ι → κ} {keys : List κ} (hkeys : keys.Nodup) {l : List ι}
    (h : ∀ x ∈ l, key x ∈ keys) : (keys.flatMap (fun k => l.filter (fun x => key x = k))).Perm l := by
  have single (l : List ι) : (l.map (fun x => ({x} : Multiset ι))).sum = l := by
    induction l with
    | nil => rfl
    | cons x rest ih =>
      rw [List.map_cons,List.sum_cons,ih]
      rfl
  have hmem : ∀ x ∈ l, key x ∈ keys.toFinset := fun x hx => List.mem_toFinset.mpr (h x hx)
  have hgroups := sum_eq_sum_groups key (fun x => ({x} : Multiset ι)) hmem
  simp only [single] at hgroups
  rw [← Multiset.coe_eq_coe,hgroups,List.sum_toFinset _ hkeys]
  clear hgroups hmem h hkeys
  induction keys with
  | nil => rfl
  | cons k rest ih =>
    rw [List.flatMap_cons,← Multiset.coe_add,ih,List.map_cons,List.sum_cons]

variable {K : Type} [AddCommMonoid K] [PartialOrder K] [IsOrderedAddMonoid K]

theorem sum_le_sum_of_groups {key : ι → κ} {amount amount' : ι → K} {l : List ι}
    (h : ∀ k, ((l.filter (fun x => key x = k)).map amount).sum ≤
      ((l.filter (fun x => key x = k)).map amount').sum) :
    (l.map amount).sum ≤ (l.map amount').sum := by
  have hkeys : ∀ x ∈ l, key x ∈ (l.map key).toFinset :=
    fun x hx => List.mem_toFinset.mpr (List.mem_map_of_mem hx)
  rw [sum_eq_sum_groups key amount hkeys,sum_eq_sum_groups key amount' hkeys]
  exact Finset.sum_le_sum fun k _ => h k

end Groups

end PrismGateway.Lib
