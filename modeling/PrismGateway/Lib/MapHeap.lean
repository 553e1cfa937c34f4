import Mathlib.Data.List.Forall2
import PrismGateway.Lib.MergePatch

namespace PrismGateway.Lib.MapHeap

inductive Val where
  | leaf (j : Json)
  | map (a : ℕ)

abbrev Cell := List (String × Val)

-- a map lives under its address; a new one gets the next
abbrev Heap := List Cell

/-- The order in which `range` visits a map. -/
structure RangeOrder where
  iter : Cell → Cell
  perm : ∀ l, (iter l).Perm l

theorem listed_cell (l : Cell) : l.Perm l := .refl l

mutual

def Holds (live : ℕ → Prop) (h : Heap) (v : Val) : Json → Prop
  | .obj es => ∃ a cell, v = .map a ∧ live a ∧ h[a]? = some cell ∧ HoldsAll live h cell es
  | j => v = .leaf j

def HoldsAll (live : ℕ → Prop) (h : Heap) (cell : Cell) : Json.Entries → Prop
  | [] => cell = []
  | (k,j) :: es => ∃ v rest, cell = (k,v) :: rest ∧ Holds live h v j ∧ HoldsAll live h rest es

end

section Holds

variable {live live' : ℕ → Prop} {h g : Heap} {v : Val} {cell : Cell} {es : Json.Entries}

theorem holds_obj {a : ℕ} : Holds live h (.map a) (.obj es) ↔
    live a ∧ ∃ cell, h[a]? = some cell ∧ HoldsAll live h cell es := by
  rw [Holds]
  constructor
  · rintro ⟨_,cell,hv,hlive,hcell,hes⟩
    cases hv
    exact ⟨hlive,cell,hcell,hes⟩
  · rintro ⟨hlive,cell,hcell,hes⟩
    exact ⟨a,cell,rfl,hlive,hcell,hes⟩

theorem holds_leaf {j : Json} (hj : ∀ es, j ≠ .obj es) : Holds live h v j ↔ v = .leaf j := by
  cases j with
  | obj es => exact absurd rfl (hj es)
  | _ => rw [Holds]; exact fun _ hes => by cases hes

mutual

theorem Holds.frame (hlive : ∀ a, live a → live' a) (hsame : ∀ a, live a → g[a]? = h[a]?) :
    (j : Json) → (v : Val) → Holds live h v j → Holds live' g v j
  | .obj es, v, hv => by
    rw [Holds] at hv ⊢
    obtain ⟨a,cell,hva,ha,hcell,hes⟩ := hv
    exact ⟨a,cell,hva,hlive a ha,(hsame a ha).trans hcell,HoldsAll.frame hlive hsame es cell hes⟩
  | .null, _, hv => by
    rw [holds_leaf (fun _ hes => by cases hes)] at hv ⊢
    exact hv
  | .bool _, _, hv => by
    rw [holds_leaf (fun _ hes => by cases hes)] at hv ⊢
    exact hv
  | .num _, _, hv => by
    rw [holds_leaf (fun _ hes => by cases hes)] at hv ⊢
    exact hv
  | .str _, _, hv => by
    rw [holds_leaf (fun _ hes => by cases hes)] at hv ⊢
    exact hv
  | .arr _, _, hv => by
    rw [holds_leaf (fun _ hes => by cases hes)] at hv ⊢
    exact hv

theorem HoldsAll.frame (hlive : ∀ a, live a → live' a) (hsame : ∀ a, live a → g[a]? = h[a]?) :
    (es : Json.Entries) → (cell : Cell) → HoldsAll live h cell es → HoldsAll live' g cell es
  | [], _, hes => hes
  | (k,j) :: es, cell, hes => by
    rw [HoldsAll] at hes ⊢
    obtain ⟨v,rest,hcell,hv,hrest⟩ := hes
    exact ⟨v,rest,hcell,Holds.frame hlive hsame j v hv,HoldsAll.frame hlive hsame es rest hrest⟩

end

def Member (live : ℕ → Prop) (h : Heap) (e : String × Val) (e' : String × Json) : Prop :=
  e.1 = e'.1 ∧ Holds live h e.2 e'.2

theorem holdsAll_iff : HoldsAll live h cell es ↔ cell.Forall₂ (Member live h) es := by
  induction es generalizing cell with
  | nil => rw [HoldsAll,List.forall₂_nil_right_iff]
  | cons e es ih =>
    obtain ⟨k,j⟩ := e
    rw [HoldsAll,List.forall₂_cons_right_iff]
    constructor
    · rintro ⟨v,rest,rfl,hv,hrest⟩
      exact ⟨(k,v),rest,⟨rfl,hv⟩,ih.mp hrest,rfl⟩
    · rintro ⟨⟨_,v⟩,rest,⟨rfl,hv⟩,hrest,rfl⟩
      exact ⟨v,rest,rfl,hv,ih.mpr hrest⟩

theorem HoldsAll.keys (hes : HoldsAll live h cell es) : cell.map Prod.fst = es.map Prod.fst := by
  rw [holdsAll_iff] at hes
  induction hes with
  | nil => rfl
  | cons hmember _ ih => rw [List.map_cons,List.map_cons,hmember.1,ih]

theorem HoldsAll.lookup_none (hes : HoldsAll live h cell es) {x : String} :
    cell.lookup x = none ↔ es.lookup x = none := by
  rw [← Option.not_isSome_iff_eq_none,← Option.not_isSome_iff_eq_none,GoMap.isSome_lookup_iff,
    GoMap.isSome_lookup_iff,hes.keys]

theorem HoldsAll.lookup (hes : HoldsAll live h cell es) {x : String} {j : Json}
    (hx : es.lookup x = some j) : ∃ v, cell.lookup x = some v ∧ Holds live h v j := by
  rw [holdsAll_iff] at hes
  induction hes with
  | nil => cases hx
  | @cons e e' cell es hmember _ ih =>
    obtain ⟨k,v⟩ := e
    obtain ⟨_,i⟩ := e'
    obtain ⟨rfl,hv⟩ := hmember
    rw [GoMap.lookup_cons_eq] at hx ⊢
    split_ifs at hx ⊢ with hk
    · cases hx
      exact ⟨v,rfl,hv⟩
    · exact ih hx

theorem HoldsAll.member (hes : HoldsAll live h cell es) (hnodup : (es.map Prod.fst).Nodup)
    {e : String × Val} (he : e ∈ cell) :
    ∃ j, es.lookup e.1 = some j ∧ Holds live h e.2 j := by
  have hcell : cell.lookup e.1 = some e.2 := GoMap.lookup_of_mem (hes.keys ▸ hnodup) he
  cases hj : es.lookup e.1 with
  | none =>
    rw [hes.lookup_none.mpr hj] at hcell
    cases hcell
  | some j =>
    obtain ⟨v,hv,hheld⟩ := hes.lookup hj
    obtain rfl := Option.some.inj (hv.symm.trans hcell)
    exact ⟨j,rfl,hheld⟩

theorem obj_of_map {a : ℕ} {j : Json} (hv : Holds live h (.map a) j) : ∃ es, j = .obj es := by
  cases j with
  | obj es => exact ⟨es,rfl⟩
  | _ => exact absurd ((holds_leaf fun _ hes => by cases hes).mp hv) (by simp)

theorem map_of_obj (hv : Holds live h v (.obj es)) : ∃ a, v = .map a := by
  rw [Holds] at hv
  obtain ⟨a,_,hva,_⟩ := hv
  exact ⟨a,hva⟩

theorem HoldsAll.obj_of_lookup (hes : HoldsAll live h cell es) {x : String} {a : ℕ}
    (hx : cell.lookup x = some (.map a)) : ∃ entries, es.lookup x = some (.obj entries) := by
  cases hj : es.lookup x with
  | none =>
    rw [hes.lookup_none.mpr hj] at hx
    cases hx
  | some j =>
    obtain ⟨v,hv,hheld⟩ := hes.lookup hj
    obtain rfl := Option.some.inj (hv.symm.trans hx)
    obtain ⟨entries,rfl⟩ := obj_of_map hheld
    exact ⟨entries,rfl⟩

theorem HoldsAll.erase (hes : HoldsAll live h cell es) (x : String) :
    HoldsAll live h (GoMap.erase x cell) (GoMap.erase x es) := by
  rw [holdsAll_iff] at hes ⊢
  induction hes with
  | nil => exact .nil
  | @cons e e' cell es hmember _ ih =>
    by_cases hk : e'.1 = x
    · rw [GoMap.erase,GoMap.erase,List.filter_cons_of_neg (by simp [hmember.1,hk]),
        List.filter_cons_of_neg (by simp [hk])]
      exact ih
    · rw [GoMap.erase,GoMap.erase,List.filter_cons_of_pos (by simp [hmember.1,hk]),
        List.filter_cons_of_pos (by simp [hk])]
      exact .cons hmember ih

theorem HoldsAll.insert (hes : HoldsAll live h cell es) {x : String} {u : Val} {i : Json}
    (hu : Holds live h u i) : HoldsAll live h (GoMap.insert x u cell) (GoMap.insert x i es) := by
  rw [holdsAll_iff] at hes ⊢
  induction hes with
  | nil => exact .cons ⟨rfl,hu⟩ .nil
  | @cons e e' cell es hmember hes ih =>
    simp only [GoMap.insert,hmember.1]
    split_ifs
    · exact .cons ⟨rfl,hu⟩ (.cons hmember hes)
    · exact .cons ⟨rfl,hu⟩ hes
    · exact .cons hmember ih

end Holds

end PrismGateway.Lib.MapHeap
