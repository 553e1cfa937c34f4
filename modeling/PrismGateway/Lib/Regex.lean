import Mathlib.Data.List.Basic

namespace PrismGateway.Lib

inductive Regex (α : Type) where
  | empty
  | one (p : α → Bool)
  | many (p : α → Bool)
  | maybe (p : α → Bool)
  | boundary (word : α → Bool)
  | seq (first second : Regex α)

namespace Regex

variable {α β : Type}

def all : List (Regex α) → Regex α
  | [] => .empty
  | r :: rest => .seq r (all rest)

def times (n : ℕ) (p : α → Bool) : Regex α := all (List.replicate n (.one p))

def before (prev : Option α) (s : List α) (n : ℕ) : Option α := (s.take n).getLast?.or prev

def ends : Regex α → Option α → List α → List ℕ
  | .empty, _, _ => [0]
  | .one p, _, s => if s.head?.any p then [1] else []
  | .many p, _, s => (List.range ((s.takeWhile p).length + 1)).reverse
  | .maybe p, _, s => if s.head?.any p then [1,0] else [0]
  | .boundary word, prev, s => if prev.any word != s.head?.any word then [0] else []
  | .seq r r', prev, s =>
    (r.ends prev s).flatMap fun n => (r'.ends (before prev s n) (s.drop n)).map (n + ·)

def matchLength (r : Regex α) (prev : Option α) (s : List α) : ℕ := (r.ends prev s).head?.getD 0

/-- Every match from left to right gives way to `marker`; `skip` letters of the last one are still to be left
out. -/
def replaceAll (r : Regex α) (marker : List α) : Option α → ℕ → List α → List α
  | _, _, [] => []
  | _, skip + 1, c :: s => r.replaceAll marker (some c) skip s
  | prev, 0, c :: s => match r.matchLength prev (c :: s) with
    | 0 => c :: r.replaceAll marker (some c) 0 s
    | n + 1 => marker ++ r.replaceAll marker (some c) n s

def comap (f : β → α) : Regex α → Regex β
  | .empty => .empty
  | .one p => .one (p ∘ f)
  | .many p => .many (p ∘ f)
  | .maybe p => .maybe (p ∘ f)
  | .boundary word => .boundary (word ∘ f)
  | .seq r r' => .seq (r.comap f) (r'.comap f)

theorem before_map (f : β → α) (prev : Option β) (s : List β) (n : ℕ) :
    (before prev s n).map f = before (prev.map f) (s.map f) n := by
  rw [before,before,← List.map_take,List.getLast?_map]
  cases (s.take n).getLast? with
  | none => rfl
  | some c => rfl

theorem head?_any_comp (f : β → α) (p : α → Bool) (s : List β) :
    s.head?.any (p ∘ f) = (s.map f).head?.any p := by
  cases s with
  | nil => rfl
  | cons c s => rfl

theorem ends_comap (f : β → α) (r : Regex α) : ∀ (prev : Option β) (s : List β),
    (r.comap f).ends prev s = r.ends (prev.map f) (s.map f) := by
  induction r with
  | empty => exact fun _ _ => rfl
  | one p =>
    intro prev s
    simp only [comap,ends,head?_any_comp]
  | many p =>
    intro prev s
    simp only [comap,ends,List.takeWhile_map,List.length_map]
  | maybe p =>
    intro prev s
    simp only [comap,ends,head?_any_comp]
  | boundary word =>
    intro prev s
    have hprev : prev.any (word ∘ f) = (prev.map f).any word := by cases prev <;> rfl
    simp only [comap,ends,head?_any_comp,hprev]
  | seq r r' ih ih' =>
    intro prev s
    simp only [comap,ends,ih,ih',before_map,List.map_drop]

theorem matchLength_comap (f : β → α) (r : Regex α) (prev : Option β) (s : List β) :
    (r.comap f).matchLength prev s = r.matchLength (prev.map f) (s.map f) := by
  rw [matchLength,matchLength,ends_comap]

theorem replaceAll_comap (f : β → α) (r : Regex α) (marker : List β) (s : List β) :
    ∀ (prev : Option β) (skip : ℕ), ((r.comap f).replaceAll marker prev skip s).map f =
      r.replaceAll (marker.map f) (prev.map f) skip (s.map f) := by
  induction s with
  | nil =>
    intro prev skip
    cases skip <;> rfl
  | cons c s ih =>
    intro prev skip
    cases skip with
    | succ skip => exact ih (some c) skip
    | zero =>
      simp only [List.map_cons,replaceAll,matchLength_comap]
      split
      · rw [List.map_cons,ih (some c) 0,Option.map_some]
      · rw [List.map_append,ih (some c) _,Option.map_some]

theorem ends_one_of_not {p : α → Bool} {prev : Option α} {c : α} {s : List α} (h : p c = false) :
    (one p).ends prev (c :: s) = [] := by
  rw [ends,List.head?_cons,Option.any_some,h]
  rfl

theorem ends_seq_of_nil {r : Regex α} {prev : Option α} {s : List α} (h : r.ends prev s = []) (r' : Regex α) :
    (seq r r').ends prev s = [] := by
  rw [ends,h,List.flatMap_nil]

theorem ends_boundary_of_nil {r : Regex α} {prev : Option α} {s : List α} (h : r.ends prev s = [])
    (word : α → Bool) : (seq (boundary word) r).ends prev s = [] := by
  rw [ends,ends]
  split_ifs
  · rw [List.flatMap_singleton,List.drop_zero,before,List.take_zero,List.getLast?_nil,Option.none_or,h,
      List.map_nil]
  · rfl

theorem matchLength_of_nil {r : Regex α} {prev : Option α} {s : List α} (h : r.ends prev s = []) :
    r.matchLength prev s = 0 := by
  rw [matchLength,h]
  rfl

theorem replaceAll_append {r : Regex α} (marker : List α) {pad : List α}
    (hpad : ∀ c ∈ pad, ∀ prev s, r.ends prev (c :: s) = []) (s : List α) : ∀ prev : Option α,
    r.replaceAll marker prev 0 (pad ++ s) = pad ++ r.replaceAll marker (pad.getLast?.or prev) 0 s := by
  induction pad with
  | nil => exact fun _ => rfl
  | cons c pad ih =>
    intro prev
    have hlast : ((c :: pad).getLast?).or prev = pad.getLast?.or (some c) := by
      cases hpad : pad.getLast? <;> simp [List.getLast?_cons,hpad]
    rw [List.cons_append,replaceAll,matchLength_of_nil (hpad c List.mem_cons_self prev _),hlast,List.cons_append,
      ← ih (fun c' hc' => hpad c' (List.mem_cons_of_mem c hc')) (some c)]

end Regex

end PrismGateway.Lib
