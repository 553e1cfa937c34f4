import Mathlib.Algebra.BigOperators.Ring.Finset
import Mathlib.Data.Rat.Cast.Order
import PrismGateway.Lib.Averages

namespace PrismGateway.Admin.Monetization

open Lib

structure ModelConfig where
  name : String
  infrastructureMonthlyUSD : ℚ
  markupPercentage : ℚ

structure APIKeyModelUsageRow where
  model : String
  requests : ℤ
  spend : ℚ

structure MonetizationResult where
  totalRequests : ℤ := 0
  totalEffectiveCost : ℚ := 0
  avgCostPerRequest : ℚ := 0
  totalPrice : ℚ := 0
  avgPricePerRequest : ℚ := 0
  margin : ℚ := 0
  marginPct : ℚ := 0
  deriving DecidableEq

/-- The map `modelCfg` of the source: of two models with one name the later stays. -/
def modelCfg (allModels : List ModelConfig) : String → Option ModelConfig :=
  allModels.foldl (fun cfg m => Function.update cfg m.name (some m)) (fun _ => none)

section Rows

variable (tenantModelReqs : String → ℤ) (allModels : List ModelConfig)

def effectiveTotalCost (row : APIKeyModelUsageRow) : ℚ :=
  match modelCfg allModels row.model with
  | none => row.spend
  | some m =>
    if m.infrastructureMonthlyUSD > 0 then
      let tenantTotal := tenantModelReqs row.model
      if tenantTotal > 0 then row.spend + m.infrastructureMonthlyUSD / tenantTotal * row.requests else row.spend
    else row.spend

def markup (model : String) : ℚ :=
  match modelCfg allModels model with
  | none => 0
  | some m => m.markupPercentage

structure Tally where
  totalEffectiveCost : ℚ := 0
  totalPrice : ℚ := 0
  totalRequests : ℤ := 0

def Tally.add (t : Tally) (row : APIKeyModelUsageRow) : Tally :=
  let effective := effectiveTotalCost tenantModelReqs allModels row
  { totalEffectiveCost := t.totalEffectiveCost + effective
    totalPrice := t.totalPrice + effective * (1 + markup allModels row.model / 100)
    totalRequests := t.totalRequests + row.requests }

def tally (modelBreakdown : List APIKeyModelUsageRow) : Tally :=
  modelBreakdown.foldl (Tally.add tenantModelReqs allModels) {}

def computeMonetization (modelBreakdown : List APIKeyModelUsageRow) : MonetizationResult :=
  if modelBreakdown.isEmpty then {}
  else
    let t := tally tenantModelReqs allModels modelBreakdown
    if t.totalRequests = 0 then {}
    else
      let margin := t.totalPrice - t.totalEffectiveCost
      { totalRequests := t.totalRequests
        totalEffectiveCost := t.totalEffectiveCost
        avgCostPerRequest := t.totalEffectiveCost / t.totalRequests
        totalPrice := t.totalPrice
        avgPricePerRequest := t.totalPrice / t.totalRequests
        margin := margin
        marginPct := if t.totalPrice > 0 then margin / t.totalPrice else 0 }

end Rows

section Usage

def requestsFor (rows : List APIKeyModelUsageRow) (model : String) : ℤ :=
  ((rows.filter (fun row => row.model = model)).map (·.requests)).sum

def spendOn (rows : List APIKeyModelUsageRow) (model : String) : ℚ :=
  ((rows.filter (fun row => row.model = model)).map (·.spend)).sum

def usedModels (rows : List APIKeyModelUsageRow) : Finset String := (rows.map (·.model)).toFinset

def infrastructureOf (infrastructure : ModelConfig → ℚ) (allModels : List ModelConfig) (model : String) : ℚ :=
  ((modelCfg allModels model).map infrastructure).getD 0

def charged (m : ModelConfig) : ℚ := max 0 m.infrastructureMonthlyUSD

def keyMonetization (allModels : List ModelConfig) (keys : List (List APIKeyModelUsageRow))
    (rows : List APIKeyModelUsageRow) : MonetizationResult :=
  computeMonetization (requestsFor keys.flatten) allModels rows

structure Conserves (infrastructure : ModelConfig → ℚ) (allModels : List ModelConfig)
    (keys : List (List APIKeyModelUsageRow)) : Prop where
  cost : (keys.map (fun rows => (keyMonetization allModels keys rows).totalEffectiveCost)).sum =
    (keys.flatten.map (·.spend)).sum +
      ∑ model ∈ usedModels keys.flatten, infrastructureOf infrastructure allModels model
  price : (keys.map (fun rows => (keyMonetization allModels keys rows).totalPrice)).sum =
    ∑ model ∈ usedModels keys.flatten,
      (spendOn keys.flatten model + infrastructureOf infrastructure allModels model) *
        (1 + markup allModels model / 100)
  margin : ∀ rows ∈ keys, (keyMonetization allModels keys rows).margin =
    (keyMonetization allModels keys rows).totalPrice - (keyMonetization allModels keys rows).totalEffectiveCost
  order : ∀ rows ∈ keys, ∀ rows', rows.Perm rows' →
    keyMonetization allModels keys rows' = keyMonetization allModels keys rows

end Usage

section Totals

variable {tenantModelReqs : String → ℤ} {allModels : List ModelConfig} {rows rows' : List APIKeyModelUsageRow}

def priceOf (tenantModelReqs : String → ℤ) (allModels : List ModelConfig) (row : APIKeyModelUsageRow) : ℚ :=
  effectiveTotalCost tenantModelReqs allModels row * (1 + markup allModels row.model / 100)

theorem cost_add (t : Tally) (row : APIKeyModelUsageRow) : (t.add tenantModelReqs allModels row).totalEffectiveCost =
    t.totalEffectiveCost + effectiveTotalCost tenantModelReqs allModels row := rfl

theorem price_add (t : Tally) (row : APIKeyModelUsageRow) : (t.add tenantModelReqs allModels row).totalPrice =
    t.totalPrice + priceOf tenantModelReqs allModels row := rfl

theorem requests_add (t : Tally) (row : APIKeyModelUsageRow) :
    (t.add tenantModelReqs allModels row).totalRequests = t.totalRequests + row.requests := rfl

theorem tally_eq (rows : List APIKeyModelUsageRow) : tally tenantModelReqs allModels rows =
    { totalEffectiveCost := (rows.map (effectiveTotalCost tenantModelReqs allModels)).sum
      totalPrice := (rows.map (priceOf tenantModelReqs allModels)).sum
      totalRequests := (rows.map (·.requests)).sum } := by
  have hcost := foldl_additive (@cost_add tenantModelReqs allModels) rows {}
  have hprice := foldl_additive (@price_add tenantModelReqs allModels) rows {}
  have hrequests := foldl_additive (@requests_add tenantModelReqs allModels) rows {}
  rw [zero_add] at hcost hprice hrequests
  rw [← hcost,← hprice,← hrequests]
  rfl

theorem tally_perm (h : rows.Perm rows') :
    tally tenantModelReqs allModels rows' = tally tenantModelReqs allModels rows := by
  rw [tally_eq,tally_eq,(h.map _).sum_eq,(h.map _).sum_eq,(h.map _).sum_eq]

theorem computeMonetization_perm (h : rows.Perm rows') :
    computeMonetization tenantModelReqs allModels rows' = computeMonetization tenantModelReqs allModels rows := by
  rw [computeMonetization,computeMonetization,tally_perm h,h.isEmpty_eq]

theorem margin_eq (rows : List APIKeyModelUsageRow) :
    (computeMonetization tenantModelReqs allModels rows).margin =
      (computeMonetization tenantModelReqs allModels rows).totalPrice -
        (computeMonetization tenantModelReqs allModels rows).totalEffectiveCost := by
  rw [computeMonetization]
  by_cases hrows : rows.isEmpty = true
  · rw [if_pos hrows]
    exact (sub_zero 0).symm
  · by_cases hrequests : (tally tenantModelReqs allModels rows).totalRequests = 0
    · rw [if_neg hrows,if_pos hrequests]
      exact (sub_zero 0).symm
    · rw [if_neg hrows,if_neg hrequests]

theorem requests_pos (hne : rows ≠ []) (h : ∀ row ∈ rows, 1 ≤ row.requests) : 0 < (rows.map (·.requests)).sum := by
  refine List.sum_pos _ ?_ (by simpa using hne)
  intro n hn
  obtain ⟨row,hrow,rfl⟩ := List.mem_map.mp hn
  exact h row hrow

theorem amounts_eq (h : ∀ row ∈ rows, 1 ≤ row.requests) :
    (computeMonetization tenantModelReqs allModels rows).totalEffectiveCost =
        (rows.map (effectiveTotalCost tenantModelReqs allModels)).sum ∧
      (computeMonetization tenantModelReqs allModels rows).totalPrice =
        (rows.map (priceOf tenantModelReqs allModels)).sum := by
  cases rows with
  | nil => exact ⟨rfl,rfl⟩
  | cons row rest =>
    have hpos := requests_pos (List.cons_ne_nil row rest) h
    rw [computeMonetization,if_neg (by simp),tally_eq,if_neg hpos.ne']
    exact ⟨rfl,rfl⟩

end Totals

section Allocation

variable {allModels : List ModelConfig} {rows : List APIKeyModelUsageRow}

theorem requestsFor_pos (h : ∀ row ∈ rows, 1 ≤ row.requests) {row : APIKeyModelUsageRow} (hrow : row ∈ rows) :
    0 < requestsFor rows row.model := by
  refine requests_pos (List.ne_nil_of_mem (List.mem_filter.mpr ⟨hrow,decide_eq_true rfl⟩)) ?_
  exact fun row' hrow' => h row' (List.mem_of_mem_filter hrow')

theorem effectiveTotalCost_eq (h : ∀ row ∈ rows, 1 ≤ row.requests) {row : APIKeyModelUsageRow}
    (hrow : row ∈ rows) : effectiveTotalCost (requestsFor rows) allModels row =
      row.spend + infrastructureOf charged allModels row.model / requestsFor rows row.model * row.requests := by
  have hpos := requestsFor_pos h hrow
  rw [effectiveTotalCost,infrastructureOf]
  cases modelCfg allModels row.model with
  | none => simp
  | some m =>
    simp only [Option.map_some,Option.getD_some,charged]
    by_cases hm : m.infrastructureMonthlyUSD > 0
    · rw [if_pos hm,if_pos hpos,max_eq_right hm.le]
    · rw [if_neg hm,max_eq_left (not_lt.mp hm),zero_div,zero_mul,add_zero]

theorem model_cost (h : ∀ row ∈ rows, 1 ≤ row.requests) {model : String} (hmodel : model ∈ usedModels rows) :
    ((rows.filter (fun row => row.model = model)).map (effectiveTotalCost (requestsFor rows) allModels)).sum =
      spendOn rows model + infrastructureOf charged allModels model := by
  obtain ⟨used,hused,rfl⟩ := List.mem_map.mp (List.mem_toFinset.mp hmodel)
  have hne : (requestsFor rows used.model : ℚ) ≠ 0 := Int.cast_ne_zero.mpr (requestsFor_pos h hused).ne'
  have hshare (row : APIKeyModelUsageRow) (hrow : row ∈ rows.filter (fun row => row.model = used.model)) :
      effectiveTotalCost (requestsFor rows) allModels row = row.spend +
        infrastructureOf charged allModels used.model / requestsFor rows used.model * row.requests := by
    obtain ⟨hmem,hname⟩ := List.mem_filter.mp hrow
    rw [effectiveTotalCost_eq h hmem,of_decide_eq_true hname]
  rw [List.map_congr_left hshare,List.sum_map_add,List.sum_map_mul_left]
  have hrequests : ((rows.filter (fun row => row.model = used.model)).map (fun row => (row.requests : ℚ))).sum =
      requestsFor rows used.model := by
    rw [requestsFor,Int.cast_list_sum,List.map_map]
    rfl
  rw [hrequests,div_mul_cancel₀ _ hne]
  rfl

theorem total_cost (h : ∀ row ∈ rows, 1 ≤ row.requests) :
    (rows.map (effectiveTotalCost (requestsFor rows) allModels)).sum = (rows.map (·.spend)).sum +
      ∑ model ∈ usedModels rows, infrastructureOf charged allModels model := by
  have hkeys : ∀ row ∈ rows, row.model ∈ usedModels rows :=
    fun row hrow => List.mem_toFinset.mpr (List.mem_map_of_mem hrow)
  rw [sum_eq_sum_groups (·.model) (effectiveTotalCost _ _) hkeys,
    sum_eq_sum_groups (·.model) APIKeyModelUsageRow.spend hkeys,← Finset.sum_add_distrib]
  exact Finset.sum_congr rfl fun model hmodel => model_cost h hmodel

theorem total_price (h : ∀ row ∈ rows, 1 ≤ row.requests) :
    (rows.map (priceOf (requestsFor rows) allModels)).sum = ∑ model ∈ usedModels rows,
      (spendOn rows model + infrastructureOf charged allModels model) * (1 + markup allModels model / 100) := by
  have hkeys : ∀ row ∈ rows, row.model ∈ usedModels rows :=
    fun row hrow => List.mem_toFinset.mpr (List.mem_map_of_mem hrow)
  rw [sum_eq_sum_groups (·.model) _ hkeys]
  refine Finset.sum_congr rfl fun model hmodel => ?_
  have hmarkup (row : APIKeyModelUsageRow) (hrow : row ∈ rows.filter (fun row => row.model = model)) :
      priceOf (requestsFor rows) allModels row =
        effectiveTotalCost (requestsFor rows) allModels row * (1 + markup allModels model / 100) := by
    rw [priceOf,of_decide_eq_true (List.mem_filter.mp hrow).2]
  rw [List.map_congr_left hmarkup,List.sum_map_mul_right,model_cost h hmodel]

end Allocation

theorem sum_keys {keys : List (List APIKeyModelUsageRow)} {result : List APIKeyModelUsageRow → ℚ}
    {amount : APIKeyModelUsageRow → ℚ} (h : ∀ rows ∈ keys, result rows = (rows.map amount).sum) :
    (keys.map result).sum = (keys.flatten.map amount).sum := by
  rw [List.map_congr_left h,List.map_flatten,List.sum_flatten,List.map_map]
  rfl

theorem monetization_conserves (allModels : List ModelConfig) (keys : List (List APIKeyModelUsageRow))
    (h : ∀ row ∈ keys.flatten, 1 ≤ row.requests) : Conserves charged allModels keys := by
  have hkey {rows : List APIKeyModelUsageRow} (hrows : rows ∈ keys) : ∀ row ∈ rows, 1 ≤ row.requests :=
    fun row hrow => h row (List.mem_flatten.mpr ⟨rows,hrows,hrow⟩)
  constructor
  · rw [← total_cost h]
    exact sum_keys fun rows hrows => (amounts_eq (hkey hrows)).1
  · rw [← total_price h]
    exact sum_keys fun rows hrows => (amounts_eq (hkey hrows)).2
  · exact fun rows _ => margin_eq rows
  · exact fun rows _ rows' hperm => computeMonetization_perm hperm

theorem shared_model_conserves : Conserves charged [⟨"fraud-v1",100,50⟩]
    [[⟨"fraud-v1",200,0⟩],[⟨"fraud-v1",800,1⟩,⟨"gpt-4o",1,2⟩]] :=
  monetization_conserves _ _ (by decide)

theorem negative_not_charged :
    ¬ Conserves ModelConfig.infrastructureMonthlyUSD [⟨"fraud-v1",-5,0⟩] [[⟨"fraud-v1",1,0⟩]] := by
  intro h
  have hcost := h.cost
  revert hcost
  decide +kernel

end PrismGateway.Admin.Monetization
