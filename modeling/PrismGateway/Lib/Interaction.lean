import Mathlib.Data.List.Basic

namespace PrismGateway.Lib

variable {κ κ' ρ ρ' α β : Type}

inductive Interaction (κ ρ α : Type) where
  | done (a : α)
  | call (c : κ) (next : ρ → Interaction κ ρ α)

namespace Interaction

def bind : Interaction κ ρ α → (α → Interaction κ ρ β) → Interaction κ ρ β
  | .done a, f => f a
  | .call c next, f => .call c (fun r => (next r).bind f)

instance : Monad (Interaction κ ρ) where
  pure := .done
  bind := bind

def trace (answer : List κ → κ → ρ) : List κ → Interaction κ ρ α → List κ
  | _, .done _ => []
  | made, .call c next => c :: trace answer (made ++ [c]) (next (answer made c))

def Every (P : κ → Prop) : Interaction κ ρ α → Prop
  | .done _ => True
  | .call c next => P c ∧ ∀ r, Every P (next r)

def opening : Interaction κ ρ α → Option κ
  | .done _ => none
  | .call c _ => some c

def interpret (send : κ → Interaction κ' ρ' ρ) : Interaction κ ρ α → Interaction κ' ρ' α
  | .done a => .done a
  | .call c next => (send c).bind (fun r => (next r).interpret send)

theorem every_bind {P : κ → Prop} {p : Interaction κ ρ α} {f : α → Interaction κ ρ β}
    (hp : p.Every P) (hf : ∀ a, (f a).Every P) : (p.bind f).Every P := by
  induction p with
  | done a => exact hf a
  | call c next ih => exact ⟨hp.1,fun r => ih r (hp.2 r)⟩

theorem every_interpret {Q : κ → Prop} {P : κ' → Prop} {send : κ → Interaction κ' ρ' ρ}
    (hsend : ∀ c, Q c → (send c).Every P) {p : Interaction κ ρ α} (hp : p.Every Q) :
    (p.interpret send).Every P := by
  induction p with
  | done a => exact trivial
  | call c next ih => exact every_bind (hsend c hp.1) (fun r => ih r (hp.2 r))

theorem every_true (p : Interaction κ ρ α) : p.Every (fun _ => True) := by
  induction p with
  | done a => exact trivial
  | call c next ih => exact ⟨trivial,ih⟩

theorem Every.mem_trace {P : κ → Prop} {answer : List κ → κ → ρ} {p : Interaction κ ρ α}
    (h : p.Every P) {made : List κ} {c : κ} (hc : c ∈ p.trace answer made) : P c := by
  induction p generalizing made with
  | done a => simp [trace] at hc
  | call d next ih =>
    rw [trace,List.mem_cons] at hc
    rcases hc with rfl | hc
    · exact h.1
    · exact ih _ (h.2 _) hc

theorem opening_bind {p : Interaction κ ρ α} {f : α → Interaction κ ρ β} {c : κ}
    (h : p.opening = some c) : (p.bind f).opening = some c := by
  cases p with
  | done a => simp [opening] at h
  | call d next => exact h

theorem opening_interpret {send : κ → Interaction κ' ρ' ρ} {p : Interaction κ ρ α} {c : κ}
    {c' : κ'} (h : p.opening = some c) (hc : (send c).opening = some c') :
    (p.interpret send).opening = some c' := by
  cases p with
  | done a => simp [opening] at h
  | call d next =>
    obtain rfl : d = c := by simpa [opening] using h
    exact opening_bind hc

theorem mem_trace_of_opening {answer : List κ → κ → ρ} {p : Interaction κ ρ α} {made : List κ}
    {c : κ} (h : p.opening = some c) : c ∈ p.trace answer made := by
  cases p with
  | done a => simp [opening] at h
  | call d next =>
    obtain rfl : d = c := by simpa [opening] using h
    simp [trace]

end Interaction

end PrismGateway.Lib
