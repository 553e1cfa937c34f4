import Mathlib.Data.List.Basic

namespace PrismGateway.Lib

section Run

variable {σ ε : Type} (step : σ → ε → Option σ)

def exec : σ → List ε → Option σ
  | s, [] => some s
  | s, e :: es => (step s e).bind (fun t => exec t es)

def EveryStep (C : σ → ε → Prop) : σ → List ε → Prop
  | _, [] => True
  | s, e :: es => C s e ∧ match step s e with
    | none => True
    | some t => EveryStep C t es

def decideEveryStep (C : σ → ε → Prop) [∀ s e, Decidable (C s e)] :
    ∀ (s : σ) (es : List ε), Decidable (EveryStep step C s es)
  | _, [] => .isTrue trivial
  | s, e :: es =>
    have : Decidable (match step s e with
        | none => True
        | some t => EveryStep step C t es) :=
      match step s e with
      | none => .isTrue trivial
      | some t => decideEveryStep C t es
    inferInstanceAs (Decidable (_ ∧ _))

instance (C : σ → ε → Prop) [∀ s e, Decidable (C s e)] (s : σ) (es : List ε) :
    Decidable (EveryStep step C s es) := decideEveryStep step C s es

variable {step} in
theorem EveryStep.head {C : σ → ε → Prop} {s : σ} {e : ε} {es : List ε}
    (h : EveryStep step C s (e :: es)) : C s e := h.1

variable {step} in
theorem EveryStep.tail {C : σ → ε → Prop} {s t : σ} {e : ε} {es : List ε}
    (h : EveryStep step C s (e :: es)) (ht : step s e = some t) : EveryStep step C t es := by
  have h2 := h.2
  rw [ht] at h2
  exact h2

variable {step} in
theorem exec_cons {s t : σ} {e : ε} (h : step s e = some t) (es : List ε) :
    exec step s (e :: es) = exec step t es := by
  rw [exec,h]
  rfl

theorem everyStep_append {C : σ → ε → Prop} {s t : σ} {es fs : List ε}
    (h : exec step s es = some t) (hc : EveryStep step C s (es ++ fs)) :
    EveryStep step C s es ∧ EveryStep step C t fs := by
  induction es generalizing s with
  | nil =>
    simp only [exec,Option.some.injEq] at h
    subst h
    exact ⟨trivial,hc⟩
  | cons e es ih =>
    obtain ⟨v,hv,hx⟩ := Option.bind_eq_some_iff.mp h
    have hsplit := ih hx (EveryStep.tail hc hv)
    refine ⟨⟨hc.1,?_⟩,hsplit.2⟩
    rw [hv]
    exact hsplit.1

theorem exec_invariant_of_steps {I : σ → Prop} {C : σ → ε → Prop}
    (hstep : ∀ s e t, I s → C s e → step s e = some t → I t)
    {s t : σ} {es : List ε} (hs : I s) (hc : EveryStep step C s es)
    (h : exec step s es = some t) : I t := by
  induction es generalizing s with
  | nil =>
    simp only [exec,Option.some.injEq] at h
    exact h ▸ hs
  | cons e es ih =>
    obtain ⟨v,hv,hx⟩ := Option.bind_eq_some_iff.mp h
    exact ih (hstep s e v hs hc.head hv) (hc.tail hv) hx

theorem EveryStep.transfer {I : σ → Prop} {C C' : σ → ε → Prop}
    (hstep : ∀ s e t, I s → C s e → step s e = some t → I t) (himp : ∀ s e, I s → C s e → C' s e)
    {s : σ} {es : List ε} (hs : I s) (h : EveryStep step C s es) : EveryStep step C' s es := by
  induction es generalizing s with
  | nil => exact trivial
  | cons e es ih =>
    refine ⟨himp s e hs h.1,?_⟩
    cases ht : step s e with
    | none => exact trivial
    | some t => exact ih (hstep s e t hs h.1 ht) (EveryStep.tail h ht)

theorem exec_invariant {I : σ → Prop} (hstep : ∀ s e t, I s → step s e = some t → I t)
    {s t : σ} {es : List ε} (hs : I s) (h : exec step s es = some t) : I t := by
  induction es generalizing s with
  | nil =>
    simp only [exec,Option.some.injEq] at h
    exact h ▸ hs
  | cons e es ih =>
    obtain ⟨v,hv,hx⟩ := Option.bind_eq_some_iff.mp h
    exact ih (hstep s e v hs hv) hx

end Run

theorem reaches {σ : Type} {o : Option σ} {P : σ → Prop} [DecidablePred P]
    (h : o.any (fun t => decide (P t)) = true) : ∃ t, o = some t ∧ P t := by
  cases o with
  | none => cases h
  | some t => exact ⟨t,rfl,by simpa using h⟩

def Entered {α : Type} (goesOn : ℕ → α → Prop) (l : List α) (i : ℕ) : Prop :=
  ∀ j x, j < i → l[j]? = some x → goesOn j x

theorem entered_zero {α : Type} (goesOn : ℕ → α → Prop) (l : List α) : Entered goesOn l 0 :=
  fun _ _ hj => absurd hj (by omega)

theorem entered_succ_iff {α : Type} {goesOn : ℕ → α → Prop} {a : α} {l : List α} {i : ℕ} :
    Entered goesOn (a :: l) (i + 1) ↔ goesOn 0 a ∧ Entered (fun j => goesOn (j + 1)) l i := by
  constructor
  · intro h
    refine ⟨h 0 a (by omega) rfl,?_⟩
    intro j x hj hx
    exact h (j + 1) x (by omega) (by simpa using hx)
  · rintro ⟨h0,h⟩ j x hj hx
    cases j with
    | zero =>
      simp only [List.getElem?_cons_zero,Option.some.injEq] at hx
      exact hx ▸ h0
    | succ j => exact h j x (by omega) (by simpa using hx)

def EveryEntered {α : Type} (goesOn : ℕ → α → Prop) (P : ℕ → α → Prop) (l : List α) : Prop :=
  ∀ i x, l[i]? = some x → Entered goesOn l i → P i x

theorem everyEntered_nil {α : Type} (goesOn P : ℕ → α → Prop) : EveryEntered goesOn P [] := by
  intro i x hx
  simp at hx

theorem everyEntered_cons {α : Type} {goesOn P : ℕ → α → Prop} {a : α} {l : List α} :
    EveryEntered goesOn P (a :: l) ↔ P 0 a ∧
      (goesOn 0 a → EveryEntered (fun j => goesOn (j + 1)) (fun j => P (j + 1)) l) := by
  constructor
  · intro h
    refine ⟨h 0 a rfl (entered_zero _ _),?_⟩
    intro ha i x hx hi
    exact h (i + 1) x (by simpa using hx) (entered_succ_iff.mpr ⟨ha,hi⟩)
  · rintro ⟨h0,h⟩ i x hx hi
    cases i with
    | zero =>
      simp only [List.getElem?_cons_zero,Option.some.injEq] at hx
      exact hx ▸ h0
    | succ i =>
      obtain ⟨ha,hl⟩ := entered_succ_iff.mp hi
      exact h ha i x (by simpa using hx) hl

end PrismGateway.Lib
