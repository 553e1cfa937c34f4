import PrismGateway.Lib.JsonParse

namespace PrismGateway.Lib.NumberText

theorem head_toDigits (n : ℕ) : ∃ c l, Nat.toDigits 10 n = c :: l ∧ (c = '0' → l = []) := by
  induction n using Nat.strongRecOn with
  | ind n ih =>
    rw [Nat.toDigits_eq_if (by decide)]
    split_ifs with h
    · exact ⟨_,_,rfl,fun _ => rfl⟩
    · obtain ⟨c,l,hl,hc⟩ := ih (n / 10) (by omega)
      refine ⟨c,l ++ [(n % 10).digitChar],by rw [hl,List.cons_append],fun hzero => ?_⟩
      -- a quotient that starts with a zero is zero
      have hquotient : Nat.toDigits 10 (n / 10) = Nat.toDigits 10 0 := by rw [hl,hzero,hc hzero]; rfl
      have heq := Nat.repr_injective
        (show (n / 10).repr = (0 : ℕ).repr by rw [Nat.repr_eq_ofList_toDigits,hquotient]; rfl)
      omega

theorem isUnsigned_repr (n : ℕ) : Doc.isUnsigned n.repr.toList = true := by
  rw [Nat.toList_repr]
  obtain ⟨c,l,hl,hzero⟩ := head_toDigits n
  have hdigits : ∀ d ∈ c :: l, d.isDigit = true := by
    intro d hd
    rw [← hl] at hd
    exact Nat.isDigit_of_mem_toDigits (by decide) (by decide) hd
  rw [hl,Doc.isUnsigned]
  split_ifs with hc
  · rw [hzero hc]
    rfl
  · have hrest : l.dropWhile Char.isDigit = [] :=
      List.dropWhile_eq_nil_iff.mpr (fun d hd => hdigits d (List.mem_cons_of_mem _ hd))
    rw [hrest,hdigits c List.mem_cons_self]
    rfl

theorem head_repr_ne (n : ℕ) : n.repr.toList.head? ≠ some '-' := by
  intro h
  have hdigit := Nat.isDigit_of_mem_toDigits (b := 10) (n := n) (by decide) (by decide)
    (by rw [← Nat.toList_repr]; exact List.mem_of_head? h)
  exact absurd hdigit (by decide)

theorem isNumber_toString (n : ℤ) : Doc.isNumber (toString n).toList = true := by
  change Doc.isNumber (Int.repr n).toList = true
  rw [Doc.isNumber]
  cases n with
  | ofNat m =>
    rw [Int.repr,if_neg (head_repr_ne m)]
    exact isUnsigned_repr m
  | negSucc m =>
    rw [Int.repr,String.toList_append]
    exact isUnsigned_repr (m + 1)

theorem valid_ofInt (n : ℤ) : (ofInt n).Valid = true := by
  rw [Valid,Bool.and_eq_true]
  refine ⟨List.all_eq_true.mpr fun c hc => ?_,isNumber_toString n⟩
  rcases mem_toString_int hc with rfl | hdigit
  · rfl
  · simp [Doc.isNumberChar,hdigit]

end PrismGateway.Lib.NumberText
