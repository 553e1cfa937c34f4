import Mathlib.Data.List.MinMax
import Mathlib.Data.Rat.Defs
import Mathlib.Algebra.Order.Ring.Rat
import PrismGateway.Providers.Replies

namespace PrismGateway.Storage

open Providers

inductive SemanticCacheScope where
  | model
  | routeGroup
  deriving DecidableEq, Repr

structure SemanticCacheRow where
  tenantID : String
  model : String
  routeGroup : String
  embedding : List Float
  requestText : String
  response : ChatBody
  expiresAt : Int
  deriving DecidableEq

/-- `dist` is the cosine distance of pgvector. -/
structure SemanticCacheQuery where
  dist : List Float → List Float → ℚ
  tenantID : String
  queryVector : List Float
  scope : SemanticCacheScope
  model : String
  routeGroup : String
  threshold : ℚ
  now : Int

namespace SemanticCacheQuery

variable (q : SemanticCacheQuery)

def inScope (row : SemanticCacheRow) : Bool :=
  match q.scope with
  | .routeGroup => row.routeGroup = q.routeGroup
  | .model => row.model = q.model

def accepts (row : SemanticCacheRow) : Bool :=
  row.tenantID = q.tenantID && q.inScope row && q.now < row.expiresAt &&
    q.dist row.embedding q.queryVector ≤ 1 - q.threshold

def findNearestSemanticCache (rows : List SemanticCacheRow) : Option SemanticCacheRow :=
  if q.queryVector = [] then none
  else if q.threshold ≤ 0 then none
  else (rows.filter q.accepts).argmin (fun row => q.dist row.embedding q.queryVector)

variable {q}

theorem find_isSome_iff {rows : List SemanticCacheRow} :
    (q.findNearestSemanticCache rows).isSome = true ↔
      q.queryVector ≠ [] ∧ 0 < q.threshold ∧ ∃ row ∈ rows, q.accepts row = true := by
  unfold findNearestSemanticCache
  by_cases hv : q.queryVector = []
  · simp [hv]
  · by_cases ht : q.threshold ≤ 0
    · simp [hv,ht]
    · rw [if_neg hv,if_neg ht,Option.isSome_iff_ne_none]
      simp [List.argmin_eq_none,hv,lt_of_not_ge ht]

end SemanticCacheQuery

end PrismGateway.Storage
