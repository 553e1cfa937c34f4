import Mathlib.Algebra.Order.Field.Rat
import Mathlib.Tactic.NormNum
import Mathlib.Tactic.Ring

namespace PrismGateway.Orchestrator.Cost

structure Pricing where
  promptPer1M : ℚ := 0
  cachedInputPer1M : ℚ := 0
  completionPer1M : ℚ := 0
  longContext : Bool := false
  longContextStartTokens : ℤ := 0
  longContextPromptPer1M : ℚ := 0
  longContextCachedInputPer1M : ℚ := 0
  longContextCompletionPer1M : ℚ := 0
  cacheWrite5mPer1M : ℚ := 0
  cacheWrite1hPer1M : ℚ := 0
  geoMultiplierUS : ℚ := 0

structure Usage where
  promptTokens : ℤ
  completionTokens : ℤ
  totalTokens : ℤ
  cachedInputTokens : ℤ := 0
  toolCallsUsed : List (String × ℤ) := []
  cacheWrite5mTokens : ℤ := 0
  cacheWrite1hTokens : ℤ := 0
  inferenceGeo : String := ""

structure ToolPricingEntry (R : Type := ℚ) where
  toolType : String
  pricePerUnit : R

structure AnthropicUsage where
  inputTokens : ℤ
  outputTokens : ℤ
  cacheReadInputTokens : ℤ := 0
  ephemeral5mInputTokens : ℤ := 0
  ephemeral1hInputTokens : ℤ := 0
  inferenceGeo : String := ""

def translateUsage (u : AnthropicUsage) : Usage where
  promptTokens := u.inputTokens
  completionTokens := u.outputTokens
  totalTokens := u.inputTokens + u.outputTokens
  cachedInputTokens := u.cacheReadInputTokens
  cacheWrite5mTokens := u.ephemeral5mInputTokens
  cacheWrite1hTokens := u.ephemeral1hInputTokens
  inferenceGeo := u.inferenceGeo

def computeToolCost (usage : Usage) (toolPricing : List ToolPricingEntry) : ℚ :=
  (usage.toolCallsUsed.map (fun call =>
    match toolPricing.find? (fun entry => entry.toolType = call.1) with
    | none => 0
    | some entry => call.2 * entry.pricePerUnit)).sum

def nonCachedPrompt (usage : Usage) : ℤ :=
  let cacheWriteTotal := usage.cacheWrite5mTokens + usage.cacheWrite1hTokens
  let n := usage.promptTokens - usage.cachedInputTokens - cacheWriteTotal
  if n < 0 then 0 else n

def isLongContext (pricing : Pricing) (usage : Usage) : Bool :=
  pricing.longContext && pricing.longContextStartTokens ≤ usage.promptTokens

def tokenCost (pricing : Pricing) (usage : Usage) : ℚ :=
  let long := isLongContext pricing usage
  let promptRate := if long then pricing.longContextPromptPer1M else pricing.promptPer1M
  let cachedRate := if long then pricing.longContextCachedInputPer1M else pricing.cachedInputPer1M
  let completionRate := if long then pricing.longContextCompletionPer1M else pricing.completionPer1M
  nonCachedPrompt usage * promptRate / 1000000 +
    usage.cachedInputTokens * cachedRate / 1000000 +
    usage.cacheWrite5mTokens * pricing.cacheWrite5mPer1M / 1000000 +
    usage.cacheWrite1hTokens * pricing.cacheWrite1hPer1M / 1000000 +
    usage.completionTokens * completionRate / 1000000

def geoApplies (pricing : Pricing) (usage : Usage) : Bool :=
  usage.inferenceGeo = "us" && 1 < pricing.geoMultiplierUS

def computeCost (pricing : Pricing) (usage : Usage) (toolPricing : List ToolPricingEntry) : ℚ :=
  let cost := tokenCost pricing usage
  (if geoApplies pricing usage then cost * pricing.geoMultiplierUS else cost) +
    computeToolCost usage toolPricing

def billedOnce (pricing : Pricing) (u : AnthropicUsage) : ℚ :=
  (u.inputTokens * pricing.promptPer1M + u.cacheReadInputTokens * pricing.cachedInputPer1M +
    u.ephemeral5mInputTokens * pricing.cacheWrite5mPer1M +
    u.ephemeral1hInputTokens * pricing.cacheWrite1hPer1M +
    u.outputTokens * pricing.completionPer1M) / 1000000

variable {pricing : Pricing} {u : AnthropicUsage}

def cacheTokens (u : AnthropicUsage) : ℤ :=
  u.cacheReadInputTokens + u.ephemeral5mInputTokens + u.ephemeral1hInputTokens

theorem computeToolCost_translateUsage (toolPricing : List ToolPricingEntry) :
    computeToolCost (translateUsage u) toolPricing = 0 := rfl

theorem computeCost_translateUsage (toolPricing : List ToolPricingEntry)
    (hlong : isLongContext pricing (translateUsage u) = false)
    (hgeo : geoApplies pricing (translateUsage u) = false) :
    computeCost pricing (translateUsage u) toolPricing =
      billedOnce pricing u +
        (nonCachedPrompt (translateUsage u) - u.inputTokens) * pricing.promptPer1M / 1000000 := by
  simp only [computeCost,hgeo,computeToolCost_translateUsage,tokenCost,hlong,billedOnce,
    Bool.false_eq_true,if_false]
  simp only [translateUsage]
  ring

theorem nonCachedPrompt_eq_iff :
    nonCachedPrompt (translateUsage u) = u.inputTokens ↔
      (cacheTokens u = 0 ∧ 0 ≤ u.inputTokens) ∨ (u.inputTokens = 0 ∧ 0 ≤ cacheTokens u) := by
  simp only [nonCachedPrompt,translateUsage,cacheTokens]
  split_ifs <;> omega

theorem anthropic_tokens_billed_once_iff (pricing : Pricing) (u : AnthropicUsage)
    (toolPricing : List ToolPricingEntry)
    (hlong : isLongContext pricing (translateUsage u) = false)
    (hgeo : geoApplies pricing (translateUsage u) = false) :
    computeCost pricing (translateUsage u) toolPricing = billedOnce pricing u ↔
      pricing.promptPer1M = 0 ∨ (cacheTokens u = 0 ∧ 0 ≤ u.inputTokens) ∨
        (u.inputTokens = 0 ∧ 0 ≤ cacheTokens u) := by
  rw [computeCost_translateUsage toolPricing hlong hgeo,← nonCachedPrompt_eq_iff]
  rw [add_eq_left,div_eq_zero_iff,mul_eq_zero,sub_eq_zero]
  constructor
  · rintro ((hcount | hprice) | hmillion)
    · exact .inr (by exact_mod_cast hcount)
    · exact .inl hprice
    · norm_num at hmillion
  · rintro (hprice | hcount)
    · exact .inl (.inr hprice)
    · exact .inl (.inl (by exact_mod_cast hcount))

def sonnet : Pricing where
  promptPer1M := 3
  cachedInputPer1M := 3 / 10
  completionPer1M := 15
  cacheWrite5mPer1M := 15 / 4
  cacheWrite1hPer1M := 6

theorem uncached_tokens_billed_once :
    computeCost sonnet (translateUsage { inputTokens := 1000, outputTokens := 200 }) [] =
      billedOnce sonnet { inputTokens := 1000, outputTokens := 200 } :=
  (anthropic_tokens_billed_once_iff sonnet _ [] (by decide) (by decide)).mpr
    (.inr (.inl ⟨by decide,by decide⟩))

theorem cache_reads_hide_input :
    computeCost sonnet (translateUsage
        { inputTokens := 1000, outputTokens := 200, cacheReadInputTokens := 900 }) [] ≠
      billedOnce sonnet { inputTokens := 1000, outputTokens := 200, cacheReadInputTokens := 900 } := by
  decide +kernel

end PrismGateway.Orchestrator.Cost
