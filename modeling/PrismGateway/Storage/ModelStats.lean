import PrismGateway.Lib.Averages

namespace PrismGateway.Storage

open Lib

structure ModelStatDaily (K : Type) where
  model : String
  requestCount : ℕ
  successCount : ℕ
  errorCount : ℕ
  avgLatencyMs : K
  deriving DecidableEq

namespace ModelStatDaily

variable {K : Type}

def succeeded (stat : ModelStatDaily K) : ℕ :=
  if 0 < stat.successCount then 1 else 0

def failed (stat : ModelStatDaily K) : ℕ :=
  if 0 < stat.successCount then 0 else 1

theorem succeeded_add_failed (stat : ModelStatDaily K) : stat.succeeded + stat.failed = 1 := by
  rw [succeeded,failed]
  split_ifs <;> rfl

variable [Field K]

def upsert (row : Option (ModelStatDaily K)) (stat : ModelStatDaily K) : ModelStatDaily K :=
  match row with
  | none =>
    { model := stat.model
      requestCount := 1
      successCount := stat.succeeded
      errorCount := stat.failed
      avgLatencyMs := stat.avgLatencyMs }
  | some row =>
    { row with
      requestCount := row.requestCount + 1
      successCount := row.successCount + stat.succeeded
      errorCount := row.errorCount + stat.failed
      avgLatencyMs :=
        (row.avgLatencyMs * row.requestCount + stat.avgLatencyMs) / (row.requestCount + 1 : ℕ) }

structure Recorded (row : ModelStatDaily K) : Prop where
  counted : row.requestCount = row.successCount + row.errorCount
  requested : 0 < row.requestCount

def written (stats : List (ModelStatDaily K)) : Option (ModelStatDaily K) :=
  stats.foldl (fun row stat => some (upsert row stat)) none

theorem upsert_recorded {row : Option (ModelStatDaily K)} (h : ∀ r, row = some r → Recorded r)
    (stat : ModelStatDaily K) : Recorded (upsert row stat) := by
  have hone : stat.succeeded + stat.failed = 1 := stat.succeeded_add_failed
  cases row with
  | none => exact ⟨hone.symm,Nat.one_pos⟩
  | some row =>
    have hcounted : row.requestCount = row.successCount + row.errorCount := (h row rfl).counted
    refine ⟨?_,Nat.succ_pos _⟩
    change row.requestCount + 1 =
      row.successCount + stat.succeeded + (row.errorCount + stat.failed)
    omega

theorem written_recorded (stats : List (ModelStatDaily K)) :
    ∀ row, written stats = some row → Recorded row := by
  induction stats using List.reverseRecOn with
  | nil =>
    intro row h
    cases h
  | append_singleton stats stat ih =>
    intro row h
    rw [written,List.foldl_append] at h
    cases h
    exact upsert_recorded ih stat

variable [CharZero K]

theorem written_latency (stats : List (ModelStatDaily K)) : ∀ row, written stats = some row →
    row.avgLatencyMs * row.requestCount = (stats.map (·.avgLatencyMs)).sum := by
  induction stats using List.reverseRecOn with
  | nil =>
    intro row h
    cases h
  | append_singleton stats stat ih =>
    intro row h
    rw [written,List.foldl_append] at h
    change some (upsert (written stats) stat) = some row at h
    rw [List.map_append,List.sum_append]
    cases hrow : written stats with
    | none =>
      have hnil : stats = [] := by
        cases stats using List.reverseRecOn with
        | nil => rfl
        | append_singleton stats last =>
          rw [written,List.foldl_append] at hrow
          cases hrow
      rw [hrow] at h
      cases h
      rw [hnil]
      change stat.avgLatencyMs * ((1 : ℕ) : K) = 0 + (stat.avgLatencyMs + 0)
      rw [Nat.cast_one,mul_one,add_zero,zero_add]
    | some kept =>
      rw [hrow] at h
      cases h
      have hne : ((kept.requestCount + 1 : ℕ) : K) ≠ 0 := Nat.cast_ne_zero.mpr (Nat.succ_ne_zero _)
      change (kept.avgLatencyMs * kept.requestCount + stat.avgLatencyMs) /
          ((kept.requestCount + 1 : ℕ) : K) * ((kept.requestCount + 1 : ℕ) : K) = _
      rw [div_mul_cancel₀ _ hne,ih kept hrow]
      change _ = _ + (stat.avgLatencyMs + 0)
      rw [add_zero]

end ModelStatDaily

end PrismGateway.Storage
