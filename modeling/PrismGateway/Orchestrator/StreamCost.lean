import PrismGateway.Lib.GoStrings
import PrismGateway.Orchestrator.Cost
import Mathlib.Algebra.BigOperators.Group.List.Basic
import Mathlib.Tactic.Linarith

namespace PrismGateway.Orchestrator.Cost

open Lib

def estimateStreamingTokens (text : String) : ℤ :=
  if GoStrings.trimSpace text = "" then 0 else ((text.utf8ByteSize + 3) / 4 : ℕ)

def streamUsage (inputTokens : ℤ) (streamOutput : String) : Option Usage → Usage
  | some u =>
    { promptTokens := u.promptTokens
      completionTokens := u.completionTokens
      totalTokens := u.totalTokens
      cachedInputTokens := u.cachedInputTokens
      toolCallsUsed := u.toolCallsUsed }
  | none =>
    { promptTokens := inputTokens
      completionTokens := estimateStreamingTokens streamOutput
      totalTokens := inputTokens + estimateStreamingTokens streamOutput }

/-- `for _, entry := range toolPricing` runs anew for each tool, each time in an order of its own. -/
structure ToolOrder {R : Type} (entries : List (ToolPricingEntry R)) where
  order : String → List (ToolPricingEntry R)
  perm : ∀ toolType, (order toolType).Perm entries

structure UsageReport where
  usage : Usage
  tools_nodup : (usage.toolCallsUsed.map Prod.fst).Nodup

variable {entries : List ToolPricingEntry}

def ToolOrder.price (o : ToolOrder entries) (call : String × ℤ) : ℚ :=
  match (o.order call.1).find? (fun entry => entry.toolType = call.1) with
  | none => 0
  | some entry => call.2 * entry.pricePerUnit

def ToolOrder.cost (o : ToolOrder entries) (usage : Usage) : ℚ :=
  (usage.toolCallsUsed.map o.price).sum

def tokenBill (pricing : Pricing) (usage : Usage) : ℚ :=
  if geoApplies pricing usage then tokenCost pricing usage * pricing.geoMultiplierUS
  else tokenCost pricing usage

def computeCostIn (pricing : Pricing) (usage : Usage) (o : ToolOrder entries) : ℚ :=
  tokenBill pricing usage + o.cost usage

def bufferedCost (pricing : Pricing) (r : UsageReport) (o : ToolOrder entries) : ℚ :=
  computeCostIn pricing r.usage o

def streamedCost (pricing : Pricing) (inputTokens : ℤ) (streamOutput : String) (r : UsageReport)
    (o : ToolOrder entries) : ℚ :=
  computeCostIn pricing (streamUsage inputTokens streamOutput (some r.usage)) o

def promptRate (pricing : Pricing) (usage : Usage) : ℚ :=
  if isLongContext pricing usage then pricing.longContextPromptPer1M else pricing.promptPer1M

def geoSurcharge (pricing : Pricing) (usage : Usage) : ℚ :=
  if geoApplies pricing usage then tokenCost pricing usage * (pricing.geoMultiplierUS - 1) else 0

def cacheWriteCharge (pricing : Pricing) (usage : Usage) : ℚ :=
  usage.cacheWrite5mTokens * pricing.cacheWrite5mPer1M / 1000000 +
    usage.cacheWrite1hTokens * pricing.cacheWrite1hPer1M / 1000000

def plainUsage (usage : Usage) : Usage :=
  { usage with cacheWrite5mTokens := 0, cacheWrite1hTokens := 0, inferenceGeo := "" }

def promptCharge (pricing : Pricing) (usage : Usage) : ℚ :=
  (nonCachedPrompt (plainUsage usage) - nonCachedPrompt usage) * promptRate pricing usage / 1000000

def OnePrice (entries : List ToolPricingEntry) (toolType : String) : Prop :=
  ∀ e ∈ entries, ∀ e' ∈ entries, e.toolType = toolType → e'.toolType = toolType →
    e.pricePerUnit = e'.pricePerUnit

theorem streamUsage_some (inputTokens : ℤ) (streamOutput : String) (u : Usage) :
    streamUsage inputTokens streamOutput (some u) = plainUsage u := rfl

theorem tokenCost_plainUsage (pricing : Pricing) (u : Usage) :
    tokenCost pricing u = tokenCost pricing (plainUsage u) +
      (cacheWriteCharge pricing u - promptCharge pricing u) := by
  have hlong : isLongContext pricing (plainUsage u) = isLongContext pricing u := rfl
  simp only [tokenCost,cacheWriteCharge,promptCharge,promptRate,hlong]
  generalize nonCachedPrompt (plainUsage u) = n
  generalize isLongContext pricing u = long
  simp only [plainUsage]
  push_cast
  ring

theorem tokenBill_plainUsage (pricing : Pricing) (u : Usage) :
    tokenBill pricing u = tokenBill pricing (plainUsage u) +
      (geoSurcharge pricing u + cacheWriteCharge pricing u - promptCharge pricing u) := by
  have hgeo : geoApplies pricing (plainUsage u) = false := by simp [geoApplies,plainUsage]
  have hbill : tokenBill pricing u = tokenCost pricing u + geoSurcharge pricing u := by
    simp only [tokenBill,geoSurcharge]
    split_ifs
    · ring
    · ring
  rw [hbill,tokenBill,hgeo,tokenCost_plainUsage pricing u]
  simp only [Bool.false_eq_true,if_false]
  ring

theorem price_eq_of_onePrice (o o' : ToolOrder entries) {call : String × ℤ}
    (h : call.2 ≠ 0 → OnePrice entries call.1) : o.price call = o'.price call := by
  simp only [ToolOrder.price]
  have hsome : ((o.order call.1).find? (fun entry => entry.toolType = call.1)).isSome =
      ((o'.order call.1).find? (fun entry => entry.toolType = call.1)).isSome := by
    rw [Bool.eq_iff_iff,List.find?_isSome,List.find?_isSome]
    simp only [((o.perm call.1).trans (o'.perm call.1).symm).mem_iff]
  cases hfind : (o.order call.1).find? (fun entry => entry.toolType = call.1) with
  | none =>
    rw [hfind] at hsome
    have hnone : (o'.order call.1).find? (fun entry => entry.toolType = call.1) = none :=
      Option.not_isSome_iff_eq_none.mp (by rw [← hsome]; simp)
    rw [hnone]
  | some e =>
    rw [hfind] at hsome
    obtain ⟨e',hfind'⟩ := Option.isSome_iff_exists.mp hsome.symm
    rw [hfind']
    by_cases hcount : call.2 = 0
    · simp [hcount]
    · have he := List.mem_of_find?_eq_some hfind
      have he' := List.mem_of_find?_eq_some hfind'
      have hprice := h hcount e ((o.perm call.1).mem_iff.mp he) e' ((o'.perm call.1).mem_iff.mp he')
        (by simpa using List.find?_some hfind) (by simpa using List.find?_some hfind')
      simp only [hprice]

theorem cost_eq_of_onePrice (o o' : ToolOrder entries) {usage : Usage}
    (h : ∀ call ∈ usage.toolCallsUsed, call.2 ≠ 0 → OnePrice entries call.1) :
    o.cost usage = o'.cost usage :=
  congrArg List.sum (List.map_congr_left fun call hcall => price_eq_of_onePrice o o' (h call hcall))

theorem exists_order_first {e : ToolPricingEntry} (he : e ∈ entries) :
    ∃ o : ToolOrder entries, (∀ toolType ≠ e.toolType, o.order toolType = entries) ∧
      ∀ n : ℤ, o.price (e.toolType,n) = n * e.pricePerUnit := by
  obtain ⟨before,after,hentries⟩ := List.append_of_mem he
  have hperm : (e :: (before ++ after)).Perm entries := by
    rw [hentries]
    exact List.perm_middle.symm
  refine ⟨⟨fun toolType => if toolType = e.toolType then e :: (before ++ after) else entries,?_⟩,?_,?_⟩
  · intro toolType
    split_ifs
    · exact hperm
    · exact List.Perm.refl _
  · intro toolType hne
    exact if_neg hne
  · intro n
    simp [ToolOrder.price]

theorem onePrice_of_cost_eq {usage : Usage} (hnodup : (usage.toolCallsUsed.map Prod.fst).Nodup)
    (h : ∀ o o' : ToolOrder entries, o.cost usage = o'.cost usage) :
    ∀ call ∈ usage.toolCallsUsed, call.2 ≠ 0 → OnePrice entries call.1 := by
  rintro ⟨toolType,n⟩ hcall hn e he e' he' rfl htype
  obtain ⟨o,hrest,hfirst⟩ := exists_order_first he
  obtain ⟨o',hrest',hfirst'⟩ := exists_order_first he'
  rw [htype] at hrest' hfirst'
  simp only at hn htype hrest' hfirst'
  obtain ⟨before,after,hcalls⟩ := List.append_of_mem hcall
  rw [hcalls,List.map_append,List.map_cons,List.perm_middle.nodup_iff] at hnodup
  have hsame : ∀ call ∈ before ++ after, o.price call = o'.price call := by
    intro call hmem
    have hne : call.1 ≠ e.toolType := by
      intro heq
      have hnot := (List.nodup_cons.mp hnodup).1
      rw [← List.map_append] at hnot
      exact hnot (List.mem_map.mpr ⟨call,hmem,heq⟩)
    simp only [ToolOrder.price,hrest _ hne,hrest' _ hne]
  have hbefore : before.map o.price = before.map o'.price :=
    List.map_congr_left fun call hmem => hsame call (List.mem_append_left _ hmem)
  have hafter : after.map o.price = after.map o'.price :=
    List.map_congr_left fun call hmem => hsame call (List.mem_append_right _ hmem)
  have hcost := h o o'
  simp only [ToolOrder.cost,hcalls,List.map_append,List.map_cons,List.sum_append,List.sum_cons,
    hbefore,hafter,hfirst,hfirst'] at hcost
  have hprice : (n : ℚ) * e.pricePerUnit = n * e'.pricePerUnit := by linarith
  exact mul_left_cancel₀ (by exact_mod_cast hn) hprice

def cacheWrites : UsageReport where
  usage :=
    { promptTokens := 1000, completionTokens := 200, totalTokens := 1200, cacheWrite5mTokens := 400 }
  tools_nodup := List.nodup_nil

end PrismGateway.Orchestrator.Cost
