import Mathlib.Algebra.Order.Field.Basic
import Mathlib.Tactic.Linarith
import Mathlib.Tactic.Ring

namespace PrismGateway.Lib.TokenBucket

variable {F : Type} [Field F]

structure Take (F : Type) where
  time : F
  level : F
  taken : Bool

def Take.cost (x : Take F) : F := if x.taken then 1 else 0

def takenIn (p : F → Bool) (xs : List (Take F)) : F :=
  ((xs.filter (fun x => p x.time)).map Take.cost).sum

theorem takenIn_cons (p : F → Bool) (x : Take F) (xs : List (Take F)) :
    takenIn p (x :: xs) = (if p x.time then x.cost else 0) + takenIn p xs := by
  by_cases h : p x.time = true
  · simp [takenIn,h]
  · simp [takenIn,h]

theorem takenIn_congr {p q : F → Bool} {xs : List (Take F)}
    (h : ∀ x ∈ xs, p x.time = q x.time) : takenIn p xs = takenIn q xs := by
  rw [takenIn,takenIn,List.filter_congr h]

variable [LinearOrder F]

/-- Every take finds at most `cap` tokens, at most what the one before it left and the refill
since, and takes no token that is not there. -/
def Metered (cap rate : F) : F → F → List (Take F) → Prop
  | _, _, [] => True
  | left, since, x :: xs =>
    since ≤ x.time ∧ x.level ≤ cap ∧ x.level ≤ left + rate * (x.time - since) ∧
      x.cost ≤ x.level ∧ Metered cap rate (x.level - x.cost) x.time xs

variable {cap rate : F}

theorem Metered.since_le {xs : List (Take F)} : ∀ {left since : F},
    Metered cap rate left since xs → ∀ x ∈ xs, since ≤ x.time := by
  induction xs with
  | nil => simp
  | cons y xs ih =>
    intro left since h x hx
    obtain ⟨hy,_,_,_,hxs⟩ := h
    rcases List.mem_cons.mp hx with rfl | hx
    · exact hy
    · exact hy.trans (ih hxs x hx)

variable [IsStrictOrderedRing F]

theorem Metered.taken_until_le (hrate : 0 ≤ rate) (stop : F) {xs : List (Take F)} :
    ∀ {left since : F}, 0 ≤ left → since ≤ stop → Metered cap rate left since xs →
      takenIn (· ≤ stop) xs ≤ left + rate * (stop - since) := by
  induction xs with
  | nil =>
    intro left since hleft hstop _
    have hrefill := mul_nonneg hrate (sub_nonneg.mpr hstop)
    simp only [takenIn,List.filter_nil,List.map_nil,List.sum_nil]
    linarith
  | cons x xs ih =>
    intro left since hleft hstop h
    obtain ⟨hsince,_,hlevel,hcost,hxs⟩ := h
    rw [takenIn_cons]
    by_cases hx : x.time ≤ stop
    · have hrest := ih (sub_nonneg.mpr hcost) hx hxs
      have hsplit : rate * (x.time - since) + rate * (stop - x.time) = rate * (stop - since) := by
        rw [← mul_add]
        congr 1
        ring
      rw [if_pos (decide_eq_true hx)]
      linarith
    · have hnone : takenIn (· ≤ stop) xs = 0 := by
        have hlate : ∀ y ∈ xs, decide (y.time ≤ stop) = false := by
          intro y hy
          have hxy := hxs.since_le y hy
          exact decide_eq_false fun hle => hx (hxy.trans hle)
        rw [takenIn,List.filter_eq_nil_iff.mpr fun y hy => by simp [hlate y hy]]
        rfl
      have hrefill := mul_nonneg hrate (sub_nonneg.mpr hstop)
      rw [if_neg (by simpa using hx),hnone]
      linarith

theorem Metered.taken_between_le (hcap : 0 ≤ cap) (hrate : 0 ≤ rate) {start stop : F}
    (hstop : start ≤ stop) {xs : List (Take F)} : ∀ {left since : F},
    Metered cap rate left since xs →
      takenIn (fun t => start ≤ t && t ≤ stop) xs ≤ cap + rate * (stop - start) := by
  have hrefill := mul_nonneg hrate (sub_nonneg.mpr hstop)
  induction xs with
  | nil =>
    intro left since _
    simp only [takenIn,List.filter_nil,List.map_nil,List.sum_nil]
    linarith
  | cons x xs ih =>
    intro left since h
    obtain ⟨_,hcapped,_,hcost,hxs⟩ := h
    by_cases hx : start ≤ x.time
    · -- the first take of the interval finds at most a full bucket
      have hall : ∀ y ∈ x :: xs, (decide (start ≤ y.time) && decide (y.time ≤ stop)) =
          decide (y.time ≤ stop) := by
        intro y hy
        rcases List.mem_cons.mp hy with rfl | hy
        · simp [hx]
        · simp [hx.trans (hxs.since_le y hy)]
      have heq : takenIn (fun t => start ≤ t && t ≤ stop) (x :: xs) =
          takenIn (· ≤ stop) (x :: xs) := takenIn_congr hall
      by_cases hle : x.time ≤ stop
      · have hrest := hxs.taken_until_le hrate stop (sub_nonneg.mpr hcost) hle
        have hmono : rate * (stop - x.time) ≤ rate * (stop - start) :=
          mul_le_mul_of_nonneg_left (by linarith) hrate
        rw [heq,takenIn_cons,if_pos (decide_eq_true hle)]
        linarith
      · have hlate : ∀ y ∈ x :: xs, decide (y.time ≤ stop) = false := by
          intro y hy
          rcases List.mem_cons.mp hy with rfl | hy
          · exact decide_eq_false hle
          · exact decide_eq_false fun h => hle ((hxs.since_le y hy).trans h)
        rw [heq,takenIn,
          List.filter_eq_nil_iff.mpr fun y hy => by simp [hlate y hy]]
        simp only [List.map_nil,List.sum_nil]
        linarith
    · rw [takenIn_cons,if_neg (by simp [hx]),zero_add]
      exact ih hxs

end PrismGateway.Lib.TokenBucket
