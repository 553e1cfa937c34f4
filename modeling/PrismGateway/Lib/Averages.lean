import Mathlib.Algebra.BigOperators.Field
import Mathlib.Algebra.BigOperators.Ring.List
import Mathlib.Algebra.Order.BigOperators.Group.List
import Mathlib.Algebra.Order.Field.Basic
import Mathlib.Data.Nat.Cast.Order.Field
import Mathlib.Tactic.Ring

namespace PrismGateway.Lib

section Grouped

variable {ι κ σ : Type} [DecidableEq κ]

def foldGrouped (key : ι → κ) (add : σ → ι → σ) (held : κ → σ) (l : List ι) : κ → σ :=
  l.foldl (fun held x => Function.update held (key x) (add (held (key x)) x)) held

theorem read_foldl {α β τ : Type} {inv : σ → Prop} {step : σ → α → σ} {read : σ → τ} {add : τ → β → τ}
    (pick : α → Option β) (hinv : ∀ s x, inv s → inv (step s x))
    (hother : ∀ s x, inv s → pick x = none → read (step s x) = read s)
    (hown : ∀ s x b, inv s → pick x = some b → read (step s x) = add (read s) b) (l : List α) :
    ∀ s, inv s → read (l.foldl step s) = (l.filterMap pick).foldl add (read s) := by
  induction l with
  | nil =>
    intro s _
    rfl
  | cons x rest ih =>
    intro s hs
    rw [List.foldl_cons,ih _ (hinv s x hs)]
    cases hx : pick x with
    | none => rw [hother s x hs hx,List.filterMap_cons_none hx]
    | some b => rw [hown s x b hs hx,List.filterMap_cons_some hx,List.foldl_cons]

theorem foldGrouped_apply (key : ι → κ) (add : σ → ι → σ) (k : κ) (l : List ι) (held : κ → σ) :
    foldGrouped key add held l k = (l.filter (fun x => key x = k)).foldl add (held k) := by
  rw [← List.filterMap_eq_filter]
  refine @read_foldl _ ι ι _ (fun _ => True) _ (fun held : κ → σ => held k) add _ ?_ ?_ ?_ l held trivial
  · exact fun _ _ _ => trivial
  · intro held x _ hx
    have hne : key x ≠ k := by simpa [Option.guard] using hx
    exact Function.update_of_ne (Ne.symm hne) _ _
  · intro held x b _ hx
    obtain ⟨rfl,hkey⟩ := Option.guard_eq_some_iff.mp hx
    rw [← of_decide_eq_true hkey]
    exact Function.update_self _ _ _

theorem foldl_additive {α σ M : Type} [AddMonoid M] {step : σ → α → σ} {measure : σ → M} {added : α → M}
    (h : ∀ s a, measure (step s a) = measure s + added a) (l : List α) : ∀ s,
      measure (l.foldl step s) = measure s + (l.map added).sum := by
  induction l with
  | nil =>
    intro s
    rw [List.foldl_nil,List.map_nil,List.sum_nil,add_zero]
  | cons a rest ih =>
    intro s
    rw [List.foldl_cons,ih,h,List.map_cons,List.sum_cons,add_assoc]

theorem sum_eq_sum_groups {M : Type} [AddCommMonoid M] (key : ι → κ) (amount : ι → M) {keys : Finset κ} :
    ∀ {l : List ι}, (∀ x ∈ l, key x ∈ keys) →
      (l.map amount).sum = ∑ k ∈ keys, ((l.filter (fun x => key x = k)).map amount).sum
  | [],_ => by simp
  | x :: rest,h => by
    have split (k : κ) : (((x :: rest).filter (fun x => key x = k)).map amount).sum =
        (if key x = k then amount x else 0) + ((rest.filter (fun x => key x = k)).map amount).sum := by
      rw [List.filter_cons]
      by_cases hk : key x = k
      · rw [if_pos (decide_eq_true hk),if_pos hk,List.map_cons,List.sum_cons]
      · rw [if_neg (by simpa using hk),if_neg hk,zero_add]
    rw [Finset.sum_congr rfl fun k _ => split k,Finset.sum_add_distrib,Finset.sum_ite_eq,
      if_pos (h x List.mem_cons_self),List.map_cons,List.sum_cons,
      sum_eq_sum_groups key amount fun y hy => h y (List.mem_cons_of_mem x hy)]

end Grouped

section Mean

variable {ι K : Type} [Field K]

def total (weight : ι → ℕ) (l : List ι) : ℕ :=
  (l.map weight).sum

def weightedSum (weight : ι → ℕ) (value : ι → K) (l : List ι) : K :=
  (l.map (fun x => value x * weight x)).sum

def weightedMean (weight : ι → ℕ) (value : ι → K) (l : List ι) : K :=
  weightedSum weight value l / total weight l

variable {weight : ι → ℕ} {value : ι → K} {l l' : List ι}

theorem total_perm (h : l.Perm l') : total weight l = total weight l' :=
  (h.map weight).sum_nat

theorem weightedSum_perm (h : l.Perm l') : weightedSum weight value l = weightedSum weight value l' :=
  (h.map _).sum_eq

theorem total_cons (x : ι) (l : List ι) : total weight (x :: l) = weight x + total weight l :=
  List.sum_cons

theorem weightedSum_cons (x : ι) (l : List ι) :
    weightedSum weight value (x :: l) = value x * weight x + weightedSum weight value l :=
  List.sum_cons

theorem total_pos (hl : l ≠ []) (hw : ∀ x ∈ l, 0 < weight x) : 0 < total weight l := by
  obtain ⟨x,rest,rfl⟩ := List.exists_cons_of_ne_nil hl
  rw [total_cons]
  have hx : 0 < weight x := hw x List.mem_cons_self
  omega

theorem weightedSum_add (first second : ι → ℕ) (value : ι → K) (l : List ι) :
    weightedSum (fun x => first x + second x) value l =
      weightedSum first value l + weightedSum second value l := by
  induction l with
  | nil => exact (add_zero 0).symm
  | cons x rest ih =>
    rw [weightedSum_cons,weightedSum_cons,weightedSum_cons,ih]
    push_cast
    ring

theorem weightedSum_eq_zero (h : ∀ x ∈ l, value x * weight x = 0) : weightedSum weight value l = 0 :=
  List.sum_eq_zero fun y hy => by
    obtain ⟨x,hx,rfl⟩ := List.mem_map.mp hy
    exact h x hx

theorem mul_total (c : K) (l : List ι) :
    c * total weight l = (l.map (fun x => c * (weight x : K))).sum := by
  rw [List.sum_map_mul_left,total,Nat.cast_list_sum,List.map_map]
  rfl

section Order

variable [LinearOrder K] [IsStrictOrderedRing K]

theorem weightedMean_mul_total (hl : l ≠ []) (hw : ∀ x ∈ l, 0 < weight x) :
    weightedMean weight value l * total weight l = weightedSum weight value l := by
  have hpos : (total weight l : K) ≠ 0 := Nat.cast_ne_zero.mpr (total_pos hl hw).ne'
  exact div_mul_cancel₀ _ hpos

theorem exists_le_weightedMean (hl : l ≠ []) (hw : ∀ x ∈ l, 0 < weight x) :
    ∃ x ∈ l, value x ≤ weightedMean weight value l := by
  by_contra hno
  push Not at hno
  have hlt : (l.map (fun x => weightedMean weight value l * (weight x : K))).sum <
      weightedSum weight value l := by
    refine List.sum_lt_sum_of_ne_nil hl _ _ fun x hx => ?_
    exact mul_lt_mul_of_pos_right (hno x hx) (Nat.cast_pos.mpr (hw x hx))
  rw [← mul_total,weightedMean_mul_total hl hw] at hlt
  exact lt_irrefl _ hlt

theorem exists_weightedMean_le (hl : l ≠ []) (hw : ∀ x ∈ l, 0 < weight x) :
    ∃ x ∈ l, weightedMean weight value l ≤ value x := by
  by_contra hno
  push Not at hno
  have hlt : weightedSum weight value l <
      (l.map (fun x => weightedMean weight value l * (weight x : K))).sum := by
    refine List.sum_lt_sum_of_ne_nil hl _ _ fun x hx => ?_
    exact mul_lt_mul_of_pos_right (hno x hx) (Nat.cast_pos.mpr (hw x hx))
  rw [← mul_total,weightedMean_mul_total hl hw] at hlt
  exact lt_irrefl _ hlt

end Order

end Mean

end PrismGateway.Lib
