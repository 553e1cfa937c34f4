import Mathlib.Data.Option.Basic
import Mathlib.Data.List.Basic

namespace PrismGateway.Lib

def Table (κ ρ : Type*) := κ → Option ρ

namespace Table

variable {κ ρ σ : Type*}

def empty : Table κ ρ := fun _ => none

def deleteWhere (p : κ → ρ → Bool) (t : Table κ ρ) : Table κ ρ := fun k => (t k).filter (fun r => !p k r)

def updateWhere (p : κ → ρ → Bool) (f : ρ → ρ) (t : Table κ ρ) : Table κ ρ :=
  fun k => (t k).map (fun r => if p k r then f r else r)

def Every (P : κ → ρ → Prop) (t : Table κ ρ) : Prop := ∀ k r, t k = some r → P k r

section Where

variable {t : Table κ ρ} {P : κ → ρ → Prop} {p : κ → ρ → Bool} {f : ρ → ρ}

theorem updateWhere_eq_self_iff (hf : ∀ k r, p k r = true → f r ≠ r) :
    updateWhere p f t = t ↔ t.Every (fun k r => p k r = false) := by
  constructor
  · intro h k r hr
    by_contra hp
    rw [Bool.not_eq_false] at hp
    have hk : (t k).map (fun r => if p k r then f r else r) = t k := congrFun h k
    simp only [hr,Option.map_some,hp,if_true,Option.some.injEq] at hk
    exact hf k r hp hk
  · intro h
    funext k
    cases hr : t k with
    | none => simp [updateWhere,hr]
    | some r => simp [updateWhere,hr,h k r hr]

theorem every_empty : (empty : Table κ ρ).Every P := by
  intro k r h
  cases h

theorem Every.mono {Q : κ → ρ → Prop} (h : t.Every P) (hPQ : ∀ k r, P k r → Q k r) : t.Every Q :=
  fun k r hr => hPQ k r (h k r hr)

end Where

variable [BEq κ]

def put (k : κ) (r : ρ) (t : Table κ ρ) : Table κ ρ := fun k' => if k' == k then some r else t k'

def remove (k : κ) (t : Table κ ρ) : Table κ ρ := fun k' => if k' == k then none else t k'

def adjust (k : κ) (f : ρ → ρ) (t : Table κ ρ) : Table κ ρ :=
  fun k' => if k' == k then (t k').map f else t k'

def insertNew (rows : List (κ × ρ)) (t : Table κ ρ) : Table κ ρ := fun k => (t k).or (rows.lookup k)

def upsert (rows : List (κ × σ)) (insert : σ → ρ) (update : σ → ρ → ρ) (t : Table κ ρ) : Table κ ρ :=
  fun k => match rows.lookup k with
    | none => t k
    | some s => some (((t k).map (update s)).getD (insert s))

variable {t : Table κ ρ} {k : κ}

theorem insertNew_eq_self_iff {rows : List (κ × ρ)} :
    insertNew rows t = t ↔ ∀ k r, rows.lookup k = some r → (t k).isSome = true := by
  constructor
  · intro h k r hr
    have hk : (t k).or (rows.lookup k) = t k := congrFun h k
    cases ht : t k with
    | some r' => rfl
    | none => simp [ht,hr] at hk
  · intro h
    funext k
    cases hr : rows.lookup k with
    | none => simp [insertNew,hr]
    | some r =>
      obtain ⟨r',hr'⟩ := Option.isSome_iff_exists.mp (h k r hr)
      simp [insertNew,hr']

theorem upsert_of_none {rows : List (κ × σ)} {insert : σ → ρ} {update : σ → ρ → ρ}
    (h : rows.lookup k = none) : upsert rows insert update t k = t k := by
  simp [upsert,h]

theorem upsert_of_some {rows : List (κ × σ)} {insert : σ → ρ} {update : σ → ρ → ρ} {s : σ}
    (h : rows.lookup k = some s) :
    upsert rows insert update t k = some (((t k).map (update s)).getD (insert s)) := by
  simp [upsert,h]

section Every

variable {P : κ → ρ → Prop}

theorem Every.remove (h : t.Every P) : (t.remove k).Every P := by
  intro k' r' hr'
  simp only [Table.remove] at hr'
  split_ifs at hr'
  exact h k' r' hr'

theorem Every.adjust [LawfulBEq κ] {f : ρ → ρ} (h : t.Every P) (hf : ∀ r, P k r → P k (f r)) :
    (t.adjust k f).Every P := by
  intro k' r' hr'
  simp only [Table.adjust] at hr'
  split_ifs at hr' with hk
  · obtain ⟨r,hr,rfl⟩ := Option.map_eq_some_iff.mp hr'
    obtain rfl := eq_of_beq hk
    exact hf r (h k' r hr)
  · exact h k' r' hr'

theorem Every.insertNew {r : ρ} [LawfulBEq κ] (h : t.Every P) (hr : P k r) :
    (t.insertNew [(k,r)]).Every P := by
  intro k' r' hr'
  rcases Option.or_eq_some_iff.mp hr' with hold | ⟨-,hnew⟩
  · exact h k' r' hold
  · rw [List.lookup_cons] at hnew
    split at hnew
    · next hk =>
      cases hnew
      exact eq_of_beq hk ▸ hr
    · cases hnew

end Every

end Table

theorem lookup_map_snd {κ α β : Type*} [BEq κ] (f : α → β) (k : κ) (rows : List (κ × α)) :
    (rows.map (fun row => (row.1,f row.2))).lookup k = (rows.lookup k).map f := by
  induction rows with
  | nil => rfl
  | cons row rows ih =>
    rw [List.map_cons,List.lookup_cons,List.lookup_cons,ih]
    split <;> rfl

end PrismGateway.Lib
