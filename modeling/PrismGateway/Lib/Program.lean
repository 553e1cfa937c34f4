import Mathlib.Data.List.Basic

namespace PrismGateway.Lib

structure Prog (ε ρ α : Type) where
  effects : List ε
  result : Except ρ α

namespace Prog

section Programs

variable {ε ρ α β : Type}

def andThen (p : Prog ε ρ α) (f : α → Prog ε ρ β) : Prog ε ρ β :=
  match p.result with
  | .error r => ⟨p.effects,.error r⟩
  | .ok a => ⟨p.effects ++ (f a).effects,(f a).result⟩

instance : Monad (Prog ε ρ) where
  pure a := ⟨[],.ok a⟩
  bind := andThen

def emit (e : ε) : Prog ε ρ Unit := ⟨[e],.ok ()⟩

def emits (es : List ε) : Prog ε ρ Unit := ⟨es,.ok ()⟩

def ret (r : ρ) : Prog ε ρ α := ⟨[],.error r⟩

def deferring (es : List ε) (p : Prog ε ρ α) : Prog ε ρ α := ⟨p.effects ++ es,p.result⟩

@[simp] theorem pure_effects (a : α) : (pure a : Prog ε ρ α).effects = [] := rfl

@[simp] theorem pure_result (a : α) : (pure a : Prog ε ρ α).result = .ok a := rfl

@[simp] theorem emit_effects (e : ε) : (emit e : Prog ε ρ Unit).effects = [e] := rfl

@[simp] theorem emits_effects (es : List ε) : (emits es : Prog ε ρ Unit).effects = es := rfl

theorem emit_bind (e : ε) (f : Unit → Prog ε ρ β) :
    emit e >>= f = ⟨e :: (f ()).effects,(f ()).result⟩ := rfl

theorem emits_bind (es : List ε) (f : Unit → Prog ε ρ β) :
    emits es >>= f = ⟨es ++ (f ()).effects,(f ()).result⟩ := rfl

theorem mk_bind (es : List ε) (a : α) (f : α → Prog ε ρ β) :
    (⟨es,.ok a⟩ : Prog ε ρ α) >>= f = ⟨es ++ (f a).effects,(f a).result⟩ := rfl

@[simp] theorem ret_effects (r : ρ) : (ret r : Prog ε ρ α).effects = [] := rfl

@[simp] theorem ret_result (r : ρ) : (ret r : Prog ε ρ α).result = .error r := rfl

theorem bind_ok {p : Prog ε ρ α} {a : α} (h : p.result = .ok a) (f : α → Prog ε ρ β) :
    p >>= f = ⟨p.effects ++ (f a).effects,(f a).result⟩ := by
  change andThen p f = _
  unfold andThen
  rw [h]

theorem bind_error {p : Prog ε ρ α} {r : ρ} (h : p.result = .error r) (f : α → Prog ε ρ β) :
    p >>= f = ⟨p.effects,.error r⟩ := by
  change andThen p f = _
  unfold andThen
  rw [h]

end Programs

end Prog

end PrismGateway.Lib
