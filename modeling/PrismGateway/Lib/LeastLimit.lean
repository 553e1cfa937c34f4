import PrismGateway.Lib.FloatOrder

namespace PrismGateway.Lib

open Float.Model

theorem unpacked_lt_numbers {a b : UnpackedFloat} (h : a.lt b = true) :
    a.isNaN = false ∧ b.isNaN = false := by
  cases a with
  | notANumber => cases b <;> cases h
  | infinity s =>
    cases b with
    | notANumber => cases h
    | _ => exact ⟨rfl,rfl⟩
  | zero s =>
    cases b with
    | notANumber => cases h
    | _ => exact ⟨rfl,rfl⟩
  | finite s m e hp =>
    cases b with
    | notANumber => cases h
    | _ => exact ⟨rfl,rfl⟩

theorem numbers_of_lt {x y : Float} (h : x < y) : x.isNaN = false ∧ y.isNaN = false :=
  unpacked_lt_numbers (decide_eq_true_iff.mp h)

theorem float_lt_irrefl (x : Float) : ¬x < x := by
  intro h
  have hx : x.isNaN = false := (numbers_of_lt h).1
  exact lt_irrefl _ ((float_lt_iff hx hx).mp h)

theorem float_lt_trans {x y z : Float} (hxy : x < y) (hyz : y < z) : x < z := by
  obtain ⟨hx,hy⟩ := numbers_of_lt hxy
  have hz : z.isNaN = false := (numbers_of_lt hyz).2
  exact (float_lt_iff hx hz).mpr
    (((float_lt_iff hx hy).mp hxy).trans ((float_lt_iff hy hz).mp hyz))

theorem float_lt_of_not_lt {x y z : Float} (hz : z.isNaN = false) (hyz : ¬y < z) (hyx : y < x) :
    z < x := by
  obtain ⟨hy,hx⟩ := numbers_of_lt hyx
  have hle : floatKey z ≤ floatKey y := not_lt.mp fun h => hyz ((float_lt_iff hy hz).mpr h)
  exact (float_lt_iff hz hx).mpr (hle.trans_lt ((float_lt_iff hy hx).mp hyx))

structure Least (limits : List Float) (l : Float) : Prop where
  mem : l ∈ limits
  least : ∀ k ∈ limits, ¬k < l

def Within (limits : List Float) (x : Float) : Prop :=
  ∀ l, Least limits l → ¬x > l

def lowest (first : Float) (rest : List Float) : Float :=
  rest.foldl (fun kept l => if l < kept then l else kept) first

theorem lowest_mem (rest : List Float) : ∀ first, lowest first rest ∈ first :: rest := by
  induction rest with
  | nil =>
    intro first
    exact List.mem_cons_self
  | cons l rest ih =>
    intro first
    change lowest (if l < first then l else first) rest ∈ first :: l :: rest
    split_ifs
    · exact List.mem_cons_of_mem _ (ih l)
    · rcases List.mem_cons.mp (ih first) with heq | hmem
      · rw [heq]
        exact List.mem_cons_self
      · exact List.mem_cons_of_mem _ (List.mem_cons_of_mem _ hmem)

theorem lowest_of_nan {first : Float} (h : first.isNaN = true) (rest : List Float) :
    lowest first rest = first := by
  induction rest with
  | nil => rfl
  | cons l rest ih =>
    have hnot : ¬l < first := fun hl => by
      rw [(numbers_of_lt hl).2] at h
      cases h
    change lowest (if l < first then l else first) rest = first
    rw [if_neg hnot]
    exact ih

theorem not_above_lowest_iff {x : Float} (rest : List Float) : ∀ first, first.isNaN = false →
    (¬x > lowest first rest ↔ ∀ l ∈ first :: rest, ¬x > l) := by
  induction rest with
  | nil =>
    intro first _
    rw [List.forall_mem_singleton]
    rfl
  | cons l rest ih =>
    intro first hfirst
    change ¬x > lowest (if l < first then l else first) rest ↔ _
    rw [List.forall_mem_cons,List.forall_mem_cons]
    split_ifs with hlow
    · rw [ih l (numbers_of_lt hlow).1,List.forall_mem_cons]
      constructor
      · rintro ⟨hl,hrest⟩
        exact ⟨fun hx => hl (float_lt_trans hlow hx),hl,hrest⟩
      · rintro ⟨-,hl,hrest⟩
        exact ⟨hl,hrest⟩
    · rw [ih first hfirst,List.forall_mem_cons]
      constructor
      · rintro ⟨hf,hrest⟩
        exact ⟨hf,fun hx => hf (float_lt_of_not_lt hfirst hlow hx),hrest⟩
      · rintro ⟨hf,-,hrest⟩
        exact ⟨hf,hrest⟩

theorem not_above_nan {x l : Float} (h : l.isNaN = true) : ¬x > l := by
  intro hx
  rw [(numbers_of_lt hx).1] at h
  cases h

theorem lowest_least {first : Float} (hfirst : first.isNaN = false) (rest : List Float) :
    Least (first :: rest) (lowest first rest) :=
  ⟨lowest_mem rest first,(not_above_lowest_iff rest first hfirst).mp (float_lt_irrefl _)⟩

theorem within_iff {limits : List Float} {x : Float} :
    Within limits x ↔ ∀ l ∈ limits, ¬x > l := by
  constructor
  · intro h l hl hx
    have hnumber : l.isNaN = false := (numbers_of_lt hx).1
    obtain ⟨hmem,hleast⟩ := lowest_least hnumber limits
    have hin : lowest l limits ∈ limits := by
      rcases List.mem_cons.mp hmem with heq | hmem
      · rw [heq]
        exact hl
      · exact hmem
    have hnot : ¬x > lowest l limits :=
      h _ ⟨hin,fun k hk => hleast k (List.mem_cons_of_mem _ hk)⟩
    exact (not_above_lowest_iff limits l hnumber).mp hnot l List.mem_cons_self hx
  · intro h l hl
    exact h l hl.mem

end PrismGateway.Lib
