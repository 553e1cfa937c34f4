import PrismGateway.Lib.Json

namespace PrismGateway.Lib.Json

open Float.Model

theorem unpacked_beq {a b : UnpackedFloat} (h : a.beq b = true) :
    (∃ s t, a = .infinity s ∧ b = .infinity t) ∨ (∃ s t, a = .zero s ∧ b = .zero t) ∨
      ∃ s m e hm hm', a = .finite s m e hm ∧ b = .finite s m e hm' := by
  cases a with
  | notANumber => cases h
  | infinity s =>
    cases b with
    | infinity t => exact .inl ⟨s,t,rfl,rfl⟩
    | notANumber => cases s <;> cases h
    | zero t => cases s <;> cases h
    | finite t m e hm => cases s <;> cases h
  | zero s =>
    cases b with
    | zero t => exact .inr (.inl ⟨s,t,rfl,rfl⟩)
    | notANumber => cases h
    | infinity t => cases t <;> cases h
    | finite t m e hm => cases t <;> cases h
  | finite s m e hm =>
    cases b with
    | notANumber => cases s <;> cases h
    | infinity t => cases s <;> cases t <;> cases h
    | zero t => cases s <;> cases h
    | finite t m' e' hm' =>
      have hsame : s = t ∧ e = e' ∧ m = m' := by
        cases s <;> cases t
        case negative.negative =>
          change (some ((compare e e').then (compare m m')).swap == some .eq) = true at h
          simpa [Ordering.then_eq_eq] using h
        case positive.positive =>
          change (some ((compare e e').then (compare m m')) == some .eq) = true at h
          simpa [Ordering.then_eq_eq] using h
        all_goals cases h
      obtain ⟨rfl,rfl,rfl⟩ := hsame
      exact .inr (.inr ⟨s,m,e,hm,hm',rfl,rfl⟩)

theorem integerValue_of_beq {x y : Float} (h : (x == y) = true) : integerValue x = integerValue y := by
  have hbeq : x.toModel.unpack.beq y.toModel.unpack = true := h
  rw [integerValue,integerValue]
  rcases unpacked_beq hbeq with ⟨s,t,hx,hy⟩ | ⟨s,t,hx,hy⟩ | ⟨s,m,e,hm,hm',hx,hy⟩
  · rw [hx,hy]
  · rw [hx,hy]
  · rw [hx,hy]

theorem shortestAt_eq_some {n m : ℤ} {k : ℕ} (h : shortestAt n k = some m) :
    (m = n / 10 ^ k * 10 ^ k ∨ m = n / 10 ^ k * 10 ^ k + 10 ^ k) ∧
      integerValue (Float.ofInt m) = integerValue (Float.ofInt n) := by
  have hmem := List.mem_of_find?_eq_some h
  refine ⟨?_,integerValue_of_beq (by simpa using List.find?_some h)⟩
  split_ifs at hmem
  · simpa using hmem
  · exact (by simpa using hmem : m = _ ∨ m = _).symm

theorem exactInt_of_apart {n : ℤ} (hn : integerValue (Float.ofInt n) = some n)
    (hapart : ∀ k < 22, ∀ m, (m = n / 10 ^ k * 10 ^ k ∨ m = n / 10 ^ k * 10 ^ k + 10 ^ k) →
      integerValue (Float.ofInt m) = some n → m = n)
    (hbound : n.natAbs < 10 ^ 21) (hrange : -2 ^ 63 ≤ n ∧ n < 2 ^ 63) : ExactInt n := by
  have hshortest : shortestInteger n = n := by
    rw [shortestInteger]
    cases hfind : (List.range 22).reverse.findSome? (shortestAt n) with
    | none => rfl
    | some m =>
      obtain ⟨k,hk,hm⟩ := List.exists_of_findSome?_eq_some hfind
      obtain ⟨hplace,hvalue⟩ := shortestAt_eq_some hm
      exact hapart k (by simpa using hk) m hplace (hvalue.trans hn)
  rw [ExactInt,parseInt,hn]
  simp only [Option.bind_eq_bind,Option.bind_some,hshortest]
  rw [if_pos ⟨hbound,hrange⟩]

theorem integerValue_small : ∀ i : Fin 501, integerValue (Float.ofInt (100 + i.val)) =
    some ((100 : ℤ) + i.val) := by decide +kernel

theorem integerValue_power : ∀ i : Fin 19,
    (integerValue (Float.ofInt (10 ^ (i.val + 3)))).any (fun x => 600 ≤ x) = true := by
  decide

theorem exactInt_status {n : ℤ} (hlow : 100 ≤ n) (hhigh : n ≤ 599) : ExactInt n := by
  have hsmall : ∀ m : ℤ, 100 ≤ m → m ≤ 600 → integerValue (Float.ofInt m) = some m := by
    intro m hm hm'
    have htable := integerValue_small ⟨(m - 100).toNat,by omega⟩
    have heq : (100 : ℤ) + ((m - 100).toNat : ℕ) = m := by omega
    rwa [heq] at htable
  refine exactInt_of_apart (hsmall n hlow (by omega)) ?_ (by omega) ⟨by omega,by omega⟩
  intro k hk m hm hvalue
  by_cases hcase : 100 ≤ m ∧ m ≤ 600
  · rw [hsmall m hcase.1 hcase.2] at hvalue
    exact Option.some.inj hvalue
  · exfalso
    -- three digits at most are dropped inside the table, more leave zero or a power of ten
    obtain hk | ⟨i,rfl⟩ : k < 3 ∨ ∃ i, k = i + 3 := by
      by_cases h : k < 3
      · exact .inl h
      · exact .inr ⟨k - 3,by omega⟩
    · obtain rfl | rfl | rfl : k = 0 ∨ k = 1 ∨ k = 2 := by omega
      all_goals omega
    · have hpow : (1000 : ℤ) ≤ 10 ^ (i + 3) := by
        have hpos : (0 : ℤ) < 10 ^ i := Int.pow_pos (by decide)
        rw [Int.pow_succ,Int.pow_succ,Int.pow_succ]
        omega
      have hzero : n / 10 ^ (i + 3) = 0 := Int.ediv_eq_zero_of_lt (by omega) (by omega)
      rw [hzero,Int.zero_mul,Int.zero_add] at hm
      rcases hm with rfl | rfl
      · have hnone : integerValue (Float.ofInt 0) = some 0 := by decide
        rw [hnone] at hvalue
        have := Option.some.inj hvalue
        omega
      · have hlarge := integerValue_power ⟨i,by omega⟩
        rw [hvalue] at hlarge
        have : 600 ≤ n := by simpa using hlarge
        omega

end PrismGateway.Lib.Json
