import Mathlib.Algebra.Group.Prod
import PrismGateway.Storage.ModelStats

namespace PrismGateway.Storage

open Lib

structure DailyStat (K : Type) extends ModelStatDaily K where
  date : ℤ
  tenantID : String
  totalCostUSD : K

namespace DailyStat

variable {K : Type}

def key (stat : DailyStat K) : ℤ × String × String :=
  (stat.date,stat.tenantID,stat.model)

abbrev Table (K : Type) := ℤ × String × String → Option (DailyStat K)

variable [Field K]

def merged (row : Option (DailyStat K)) (stat : DailyStat K) : DailyStat K :=
  match row with
  | none => { stat with toModelStatDaily := .upsert none stat.toModelStatDaily }
  | some row =>
    { row with
      toModelStatDaily := .upsert (some row.toModelStatDaily) stat.toModelStatDaily
      totalCostUSD := row.totalCostUSD + stat.totalCostUSD }

def UpsertModelStatDaily (table : Table K) (stat : DailyStat K) : Table K :=
  Function.update table stat.key (some (merged (table stat.key) stat))

def totals (row : Option (DailyStat K)) : (ℕ × ℕ × ℕ) × K × K :=
  match row with
  | none => 0
  | some row =>
    ((row.requestCount,row.successCount,row.errorCount),row.avgLatencyMs * row.requestCount,
      row.totalCostUSD)

def sampled (stat : DailyStat K) : (ℕ × ℕ × ℕ) × K × K :=
  ((1,stat.succeeded,stat.failed),stat.avgLatencyMs,stat.totalCostUSD)

section Totals

variable [CharZero K]

theorem totals_merged (row : Option (DailyStat K)) (stat : DailyStat K) :
    totals (some (merged row stat)) = totals row + stat.sampled := by
  cases row with
  | none =>
    change ((1,stat.succeeded,stat.failed),stat.avgLatencyMs * ((1 : ℕ) : K),stat.totalCostUSD) =
      0 + stat.sampled
    rw [Nat.cast_one,mul_one,zero_add]
    rfl
  | some row =>
    have hne : ((row.requestCount + 1 : ℕ) : K) ≠ 0 := Nat.cast_ne_zero.mpr (Nat.succ_ne_zero _)
    change ((row.requestCount + 1,row.successCount + stat.succeeded,row.errorCount + stat.failed),
        (row.avgLatencyMs * row.requestCount + stat.avgLatencyMs) / ((row.requestCount + 1 : ℕ) : K) *
          ((row.requestCount + 1 : ℕ) : K),row.totalCostUSD + stat.totalCostUSD) = _
    rw [div_mul_cancel₀ _ hne]
    rfl

theorem totals_upserts (samples : List (DailyStat K)) (row : Option (DailyStat K)) :
    totals (samples.foldl (fun row stat => some (merged row stat)) row) =
      totals row + (samples.map sampled).sum :=
  foldl_additive totals_merged samples row

theorem eq_of_totals {row row' : DailyStat K} (hkey : row.key = row'.key)
    (hpos : 0 < row.requestCount) (h : totals (some row) = totals (some row')) : row = row' := by
  obtain ⟨⟨model,requests,successes,errors,latency⟩,date,tenantID,cost⟩ := row
  obtain ⟨⟨model',requests',successes',errors',latency'⟩,date',tenantID',cost'⟩ := row'
  simp only [key,Prod.mk.injEq] at hkey
  simp only [totals,Prod.mk.injEq] at h
  obtain ⟨rfl,rfl,rfl⟩ := hkey
  obtain ⟨⟨rfl,rfl,rfl⟩,hlatency,rfl⟩ := h
  have hne : (requests : K) ≠ 0 := Nat.cast_ne_zero.mpr hpos.ne'
  rw [mul_right_cancel₀ hne hlatency]

omit [CharZero K] in
theorem row_of_upserts {k : ℤ × String × String} (samples : List (DailyStat K)) :
    ∀ row : Option (DailyStat K), samples ≠ [] → (∀ stat ∈ samples, stat.key = k) → ∃ row',
      samples.foldl (fun row stat => some (merged row stat)) row = some row' ∧
        row'.key = (row.map key).getD k ∧ 0 < row'.requestCount := by
  induction samples using List.reverseRecOn with
  | nil => exact fun _ hne => absurd rfl hne
  | append_singleton samples stat ih =>
    intro row _ hkeys
    rw [List.foldl_append]
    refine ⟨_,rfl,?_,?_⟩
    · by_cases hnil : samples = []
      · rw [hnil]
        cases row with
        | none => exact hkeys stat (List.mem_append_right _ (List.mem_singleton_self _))
        | some row => rfl
      · obtain ⟨row',hrow,hkey,-⟩ := ih row hnil fun s hs => hkeys s (List.mem_append_left _ hs)
        rw [hrow,← hkey]
        rfl
    · cases samples.foldl (fun row stat => some (merged row stat)) row with
      | none => exact Nat.one_pos
      | some row' => exact Nat.succ_pos _

def ofKey (k : ℤ × String × String) (samples : List (DailyStat K)) : List (DailyStat K) :=
  samples.filter (fun stat => stat.key = k)

omit [CharZero K] in
theorem upserts_apply (table : Table K) (samples : List (DailyStat K)) (k : ℤ × String × String) :
    samples.foldl UpsertModelStatDaily table k =
      (ofKey k samples).foldl (fun row stat => some (merged row stat)) (table k) :=
  foldGrouped_apply key (fun row stat => some (merged row stat)) k samples table

omit [CharZero K] [Field K] in
theorem key_of_mem {k : ℤ × String × String} {samples : List (DailyStat K)} {stat : DailyStat K}
    (h : stat ∈ ofKey k samples) : stat.key = k :=
  of_decide_eq_true (List.mem_filter.mp h).2

theorem upserts_perm {samples samples' : List (DailyStat K)} (h : samples'.Perm samples)
    (table : Table K) :
    samples'.foldl UpsertModelStatDaily table = samples.foldl UpsertModelStatDaily table := by
  funext k
  rw [upserts_apply,upserts_apply]
  have hperm : (ofKey k samples').Perm (ofKey k samples) := h.filter _
  by_cases hnil : ofKey k samples = []
  · rw [hnil] at hperm ⊢
    rw [hperm.eq_nil]
  · have hnil' : ofKey k samples' ≠ [] := fun hn => hnil (List.nil_perm.mp (hn ▸ hperm))
    obtain ⟨row,hrow,hkey,-⟩ := row_of_upserts (ofKey k samples) (table k) hnil fun _ => key_of_mem
    obtain ⟨row',hrow',hkey',hpos⟩ := row_of_upserts (ofKey k samples') (table k) hnil'
      fun _ => key_of_mem
    rw [hrow,hrow',Option.some.injEq]
    refine eq_of_totals (hkey'.trans hkey.symm) hpos ?_
    rw [← hrow,← hrow',totals_upserts,totals_upserts,(hperm.map sampled).sum_eq]

end Totals

/-- The row of a key tells the requests, successes and errors of the samples, the mean of their latencies
and the sum of their costs. -/
structure Summarises (row : DailyStat K) (samples : List (DailyStat K)) : Prop where
  requests : row.requestCount = samples.length
  successes : row.successCount = samples.countP (fun stat => 0 < stat.successCount)
  errors : row.errorCount = samples.countP (fun stat => ¬0 < stat.successCount)
  counted : row.successCount + row.errorCount = row.requestCount
  latency : row.avgLatencyMs = (samples.map (·.avgLatencyMs)).sum / samples.length
  cost : row.totalCostUSD = (samples.map (·.totalCostUSD)).sum

theorem sum_sampled (samples : List (DailyStat K)) : (samples.map sampled).sum =
    ((samples.length,samples.countP (fun stat => 0 < stat.successCount),
      samples.countP (fun stat => ¬0 < stat.successCount)),
      (samples.map (·.avgLatencyMs)).sum,(samples.map (·.totalCostUSD)).sum) := by
  induction samples with
  | nil => rfl
  | cons stat rest ih =>
    rw [List.map_cons,List.sum_cons,ih,List.length_cons,List.countP_cons,List.countP_cons,List.map_cons,
      List.map_cons,List.sum_cons,List.sum_cons]
    simp only [sampled,ModelStatDaily.succeeded,ModelStatDaily.failed,Prod.mk_add_mk]
    by_cases hsuccess : 0 < stat.successCount
    · simp only [hsuccess,if_true,not_true_eq_false,decide_false,decide_true,Bool.false_eq_true,if_false]
      simp only [Nat.add_comm]
    · simp only [hsuccess,if_true,not_false_eq_true,decide_false,decide_true,Bool.false_eq_true,if_false]
      simp only [Nat.add_comm]

theorem daily_upserts [CharZero K] (table : Table K) (samples samples' : List (DailyStat K))
    (h : samples'.Perm samples) :
    samples'.foldl UpsertModelStatDaily table = samples.foldl UpsertModelStatDaily table ∧
      ∀ k, table k = none → ofKey k samples ≠ [] → ∃ row,
        samples'.foldl UpsertModelStatDaily table k = some row ∧ row.key = k ∧
          Summarises row (ofKey k samples) := by
  refine ⟨upserts_perm h table,fun k hnone hne => ?_⟩
  obtain ⟨row,hrow,hkey,-⟩ := row_of_upserts (ofKey k samples) (table k) hne fun _ => key_of_mem
  have htotals : totals (some row) = ((ofKey k samples).map sampled).sum := by
    rw [← hrow,totals_upserts,hnone]
    exact zero_add _
  rw [sum_sampled] at htotals
  simp only [totals,Prod.mk.injEq] at htotals
  obtain ⟨⟨hrequests,hsuccesses,herrors⟩,hlatency,hcost⟩ := htotals
  rw [upserts_perm h table,upserts_apply]
  refine ⟨row,hrow,by rw [hkey,hnone]; rfl,hrequests,hsuccesses,herrors,?_,?_,hcost⟩
  · rw [hsuccesses,herrors,hrequests,List.length_eq_countP_add_countP (fun stat : DailyStat K =>
      decide (0 < stat.successCount))]
    simp only [decide_not,Bool.not_eq_true,decide_eq_false_iff_not]
  · have hpos : ((ofKey k samples).length : K) ≠ 0 :=
      Nat.cast_ne_zero.mpr (List.length_pos_iff.mpr hne).ne'
    rw [eq_div_iff hpos,← hlatency,hrequests]

def sample (successes : ℕ) (latency cost : ℚ) : DailyStat ℚ :=
  { date := 0,tenantID := "acme",model := "mini",requestCount := 1,successCount := successes
    errorCount := 1 - successes,avgLatencyMs := latency,totalCostUSD := cost }

theorem sample_upserts :
    [sample 0 100 0,sample 1 40 2].foldl UpsertModelStatDaily (fun _ => none) =
        [sample 1 40 2,sample 0 100 0].foldl UpsertModelStatDaily (fun _ => none) ∧
      ∃ row, [sample 0 100 0,sample 1 40 2].foldl UpsertModelStatDaily (fun _ => none)
          (0,"acme","mini") = some row ∧
        row.key = (0,"acme","mini") ∧ row.avgLatencyMs = 70 := by
  obtain ⟨horder,hrow⟩ := daily_upserts (fun _ => none) [sample 1 40 2,sample 0 100 0]
    [sample 0 100 0,sample 1 40 2] (List.Perm.swap _ _ _)
  have hof : ofKey (0,"acme","mini") [sample 1 40 2,sample 0 100 0] =
      [sample 1 40 2,sample 0 100 0] :=
    List.filter_eq_self.mpr (by simp [sample,key])
  obtain ⟨row,hfound,hkey,hsum⟩ := hrow (0,"acme","mini") rfl (by rw [hof]; exact List.cons_ne_nil _ _)
  refine ⟨horder,row,hfound,hkey,?_⟩
  rw [hsum.latency,hof]
  norm_num [sample]

end DailyStat

end PrismGateway.Storage
