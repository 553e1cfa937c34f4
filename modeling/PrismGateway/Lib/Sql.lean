import Mathlib.Algebra.BigOperators.Group.List.Basic
import Mathlib.Data.List.Dedup
import Mathlib.Data.List.Pairwise

namespace PrismGateway.Lib.Sql

inductive SqlType where
  | uuid
  | text
  | timestamptz
  | integer
  | numeric
  | boolean
  | jsonb
  deriving DecidableEq, Repr

namespace SqlType

def name : SqlType → String
  | uuid => "uuid"
  | text => "text"
  | timestamptz => "timestamp with time zone"
  | integer => "integer"
  | numeric => "numeric"
  | boolean => "boolean"
  | jsonb => "jsonb"

def isNumber : SqlType → Bool
  | integer | numeric => true
  | _ => false

def hasEquality (a b : SqlType) : Bool := a = b || a.isNumber && b.isNumber

end SqlType

abbrev Columns := List (String × SqlType)

abbrev Schema := List (String × Columns)

namespace Schema

def typeOf (s : Schema) (table column : String) : Option SqlType :=
  (s.lookup table).bind (fun columns => columns.lookup column)

def onTable (s : Schema) (table : String) (f : Columns → Columns) : Schema :=
  s.map (fun t => if t.1 = table then (t.1,f t.2) else t)

end Schema

/-- `CREATE TABLE IF NOT EXISTS`, `ADD COLUMN IF NOT EXISTS` and `ALTER COLUMN ... TYPE`. -/
inductive Ddl where
  | createTable (table : String) (columns : Columns)
  | addColumn (table column : String) (type : SqlType)
  | alterType (table column : String) (type : SqlType)

def Ddl.run (s : Schema) : Ddl → Schema
  | .createTable table columns => if (s.lookup table).isSome then s else s ++ [(table,columns)]
  | .addColumn table column type =>
      s.onTable table (fun cs => if (cs.lookup column).isSome then cs else cs ++ [(column,type)])
  | .alterType table column type =>
      s.onTable table (fun cs => cs.map (fun c => if c.1 = column then (c.1,type) else c))

def migrate (ddl : List Ddl) (s : Schema) : Schema := ddl.foldl Ddl.run s

inductive SqlError where
  | undefinedColumn (table column : String)
  | undefinedOperator (left right : SqlType)
  deriving DecidableEq, Repr

def SqlError.message : SqlError → String
  | .undefinedColumn table column =>
      "ERROR: column " ++ table ++ "." ++ column ++ " does not exist (SQLSTATE 42703)"
  | .undefinedOperator left right =>
      "ERROR: operator does not exist: " ++ left.name ++ " = " ++ right.name ++ " (SQLSTATE 42883)"

def analyzeEquality (s : Schema) (l r : String × String) : Except SqlError Unit :=
  match s.typeOf l.1 l.2, s.typeOf r.1 r.2 with
  | none, _ => .error (.undefinedColumn l.1 l.2)
  | some _, none => .error (.undefinedColumn r.1 r.2)
  | some a, some b => if a.hasEquality b then .ok () else .error (.undefinedOperator a b)

section Rows

variable {κ ρ : Type*} [DecidableEq κ]

def insertRow (rows : List (κ × ρ)) (row : κ × ρ) : List (κ × ρ) :=
  if rows.any (fun r => r.1 = row.1) then rows else rows ++ [row]

theorem mem_of_mem_insertRow {rows : List (κ × ρ)} {row a : κ × ρ} (h : a ∈ insertRow rows row) :
    a ∈ rows ∨ a = row := by
  unfold insertRow at h
  split_ifs at h with hkey
  · exact .inl h
  · simpa using h

theorem filter_insertRow {p : κ × ρ → Bool} (rows : List (κ × ρ)) (row : κ × ρ)
    (h : p row = true → ∀ a ∈ rows, a.1 ≠ row.1) :
    (insertRow rows row).filter p = rows.filter p ++ [row].filter p := by
  unfold insertRow
  split_ifs with hkey
  · obtain ⟨a,ha,heq⟩ := List.any_eq_true.mp hkey
    have hp : p row = false := by
      by_contra hp
      exact h (by simpa using hp) a ha (by simpa using heq)
    simp [hp]
  · rw [List.filter_append]

theorem filter_foldl_insertRow {p : κ × ρ → Bool} (ws rows : List (κ × ρ))
    (hrows : ∀ a ∈ rows, ∀ b ∈ ws, p b = true → a.1 ≠ b.1)
    (hws : ws.Pairwise (fun a b => p b = true → a.1 ≠ b.1)) :
    (ws.foldl insertRow rows).filter p = rows.filter p ++ ws.filter p := by
  induction ws generalizing rows with
  | nil => simp
  | cons w ws ih =>
    obtain ⟨hw,hws⟩ := List.pairwise_cons.mp hws
    have hstep := filter_insertRow (p := p) rows w
      (fun hp a ha => hrows a ha w List.mem_cons_self hp)
    have hnext : ∀ a ∈ insertRow rows w, ∀ b ∈ ws, p b = true → a.1 ≠ b.1 := by
      intro a ha b hb
      rcases mem_of_mem_insertRow ha with ha | rfl
      · exact hrows a ha b (List.mem_cons_of_mem _ hb)
      · exact hw b hb
    rw [List.foldl_cons,ih _ hnext hws,hstep,List.append_assoc,← List.filter_append,
      List.singleton_append]

end Rows

section Queries

variable {α β κ M : Type*}

def matched (a : α) : List β → List (α × Option β)
  | [] => [(a,none)]
  | bs => bs.map (fun b => (a,some b))

def leftJoin (on : α → β → Bool) (l : List α) (r : List β) : List (α × Option β) :=
  l.flatMap (fun a => matched a (r.filter (on a)))

def groupBy [DecidableEq κ] (key : α → κ) (rows : List α) : List (κ × List α) :=
  (rows.map key).dedup.map (fun k => (k,rows.filter (fun row => key row = k)))

theorem countP_flatMap_of_pairwise {R : α → α → Prop} {f : α → List β} {p : β → Bool} {l : List α}
    {a : α} (hl : l.Pairwise R) (ha : a ∈ l)
    (h : ∀ b, R a b ∨ R b a → ∀ x ∈ f b, ¬p x = true) :
    (l.flatMap f).countP p = (f a).countP p := by
  obtain ⟨s,t,rfl⟩ := List.append_of_mem ha
  obtain ⟨-,ht,hs⟩ := List.pairwise_append.mp hl
  have hpre : (s.flatMap f).countP p = 0 := by
    refine List.countP_eq_zero.mpr fun x hx => ?_
    obtain ⟨b,hb,hx⟩ := List.mem_flatMap.mp hx
    exact h b (.inr (hs b hb a List.mem_cons_self)) x hx
  have hpost : (t.flatMap f).countP p = 0 := by
    refine List.countP_eq_zero.mpr fun x hx => ?_
    obtain ⟨b,hb,hx⟩ := List.mem_flatMap.mp hx
    exact h b (.inl ((List.pairwise_cons.mp ht).1 b hb)) x hx
  rw [List.flatMap_append,List.flatMap_cons,List.countP_append,List.countP_append,hpre,hpost]
  omega

theorem filter_leftJoin (on : α → β → Bool) (w : α → Bool) (l : List α) (r : List β) :
    (leftJoin on l r).filter (fun row => w row.1) = leftJoin on (l.filter w) r := by
  have hmatched : ∀ (a : α) (bs : List β),
      (matched a bs).filter (fun row => w row.1) = if w a then matched a bs else [] := by
    intro a bs
    cases bs <;> by_cases h : w a <;> simp [matched,h]
  induction l with
  | nil => rfl
  | cons a l ih =>
    simp only [leftJoin,List.flatMap_cons,List.filter_append,hmatched] at ih ⊢
    by_cases h : w a <;> simp [h,ih]

variable [AddCommMonoid M]

def rightValue (f : β → M) (row : α × Option β) : M :=
  match row.2 with
  | none => 0
  | some b => f b

theorem sum_matched (f : β → M) (a : α) (bs : List β) :
    ((matched a bs).map (rightValue f)).sum = (bs.map f).sum := by
  cases bs with
  | nil => simp [matched,rightValue]
  | cons b bs => simp [matched,rightValue,Function.comp_def]

theorem sum_filter_map (p : β → Bool) (f : β → M) (r : List β) :
    ((r.filter p).map f).sum = (r.map (fun b => if p b then f b else 0)).sum := by
  induction r with
  | nil => rfl
  | cons b r ih => by_cases h : p b <;> simp [h,ih]

theorem sum_leftJoin (on : α → β → Bool) (f : β → M) (l : List α) (r : List β) :
    ((leftJoin on l r).map (rightValue f)).sum =
      (r.map (fun b => l.countP (fun a => on a b) • f b)).sum := by
  induction l with
  | nil => simp [leftJoin]
  | cons a l ih =>
    have hcons : leftJoin on (a :: l) r = matched a (r.filter (on a)) ++ leftJoin on l r := rfl
    rw [hcons,List.map_append,List.sum_append,ih,sum_matched,sum_filter_map,← List.sum_map_add]
    congr 1
    refine List.map_congr_left fun b _ => ?_
    by_cases h : on a b
    · simp [h,succ_nsmul']
    · simp [h]

end Queries

end PrismGateway.Lib.Sql
