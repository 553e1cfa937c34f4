import Mathlib.Data.List.Basic
import Mathlib.Data.List.Induction

namespace PrismGateway.Lib.Sql

/-- `INSERT INTO ... (columns) VALUES (placeholders)`, with parameters numbered from 1. -/
structure Insert where
  columns : List String
  placeholders : List ℕ

inductive InsertError where
  | moreExpressions
  | moreTargetColumns
  | parameters (supplied required : ℕ)
  | uniqueViolation (column : String)
  deriving DecidableEq

def numbered (n : ℕ) : List ℕ := (List.range n).map (· + 1)

namespace Insert

variable {V : Type} [DecidableEq V] (s : Insert)

abbrev Row (V : Type) := List (String × V)

def required : ℕ := s.placeholders.foldr max 0

def row (args : List V) : Row V := s.columns.zip (s.placeholders.filterMap (fun n => args[n - 1]?))

def run (key : String) (args : List V) (rows : List (Row V)) : Except InsertError (List (Row V)) :=
  if s.columns.length < s.placeholders.length then .error .moreExpressions
  else if s.placeholders.length < s.columns.length then .error .moreTargetColumns
  else if args.length ≠ s.required then .error (.parameters args.length s.required)
  else if rows.any (fun r => r.lookup key = (s.row args).lookup key) then
    .error (.uniqueViolation key)
  else .ok (rows ++ [s.row args])

end Insert

theorem numbered_succ (n : ℕ) : numbered (n + 1) = numbered n ++ [n + 1] := by
  simp [numbered,List.range_succ]

theorem foldr_max_append (l : List ℕ) (n : ℕ) :
    (l ++ [n]).foldr max 0 = max (l.foldr max 0) n := by
  induction l with
  | nil => simp
  | cons a l ih => simp only [List.cons_append,List.foldr_cons,ih,Nat.max_assoc]

theorem required_numbered (columns : List String) (n : ℕ) :
    (Insert.mk columns (numbered n)).required = n := by
  unfold Insert.required
  induction n with
  | zero => rfl
  | succ n ih =>
    simp only at ih ⊢
    rw [numbered_succ,foldr_max_append,ih]
    omega

theorem filterMap_range_getElem? {V : Type} (args : List V) :
    (List.range args.length).filterMap (fun i => args[i]?) = args := by
  induction args using List.reverseRecOn with
  | nil => rfl
  | append_singleton args a ih =>
    have hearlier : ∀ i ∈ List.range args.length, (args ++ [a])[i]? = args[i]? :=
      fun i hi => List.getElem?_append_left (List.mem_range.mp hi)
    rw [List.length_append,List.length_singleton,List.range_succ,List.filterMap_append,
      List.filterMap_congr hearlier,ih]
    simp

theorem filterMap_numbered {V : Type} (args : List V) :
    (numbered args.length).filterMap (fun n => args[n - 1]?) = args := by
  unfold numbered
  rw [List.filterMap_map]
  exact filterMap_range_getElem? args

namespace Insert

variable {V : Type} [DecidableEq V] {columns : List String} {key : String} {args : List V}
  {rows : List (Row V)}

omit [DecidableEq V] in
theorem row_numbered (h : args.length = columns.length) :
    (Insert.mk columns (numbered columns.length)).row args = columns.zip args := by
  unfold row
  rw [← h]
  exact congrArg columns.zip (filterMap_numbered args)

theorem run_numbered (h : args.length = columns.length) :
    (Insert.mk columns (numbered columns.length)).run key args rows =
      if rows.any (fun r => r.lookup key = (columns.zip args).lookup key) then
        .error (.uniqueViolation key)
      else .ok (rows ++ [columns.zip args]) := by
  have hlen : (numbered columns.length).length = columns.length := by simp [numbered]
  unfold run
  rw [row_numbered h,required_numbered]
  simp only [hlen,Nat.lt_irrefl,if_false,h,ne_eq,not_true_eq_false]

theorem run_moreExpressions {s : Insert} (h : s.columns.length < s.placeholders.length) :
    s.run key args rows = .error .moreExpressions := if_pos h

end Insert

end PrismGateway.Lib.Sql
