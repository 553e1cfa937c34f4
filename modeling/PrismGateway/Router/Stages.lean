import Mathlib.Algebra.GroupWithZero.Nat
import PrismGateway.Config.Types

namespace PrismGateway.Router
open Lib Config

structure SemanticAnchorResult where
  name : String
  routeGroup : String := ""
  preferredModels : List String := []
  distance : Float
  deriving DecidableEq, Repr

-- none stands for an error of the call, a nil embedding and a lookup that finds no anchor
structure SemanticDeps where
  embeddingFunc : String → Option (List Float)
  semanticLookup : String → List Float → Option SemanticAnchorResult

structure SmartConstraintsResult where
  maxCostPer1M : Option Float := none
  maxLatencyMs : Option Float := none
  deriving DecidableEq, Repr

structure SmartStageResult where
  blocked : Bool := false
  blockReason : String := ""
  preferredModels : List String := []
  bannedModels : List String := []
  constraints : SmartConstraintsResult := {}
  stagesEvaluated : List String := []
  legacyExclusive : Bool := false
  promptLength : ℕ := 0
  promptLengthBlock : Bool := false
  promptLengthCustomReason : Bool := false
  semanticAnchor : String := ""
  semanticSimilarity : Float := 0
  semanticDistance : Float := 0
  anchorRouteGroup : String := ""
  costOptimizerApplied : Bool := false
  deriving DecidableEq, Repr

def toLower (s : String) : String :=
  s.map Char.toLower

structure Prompt where
  estimatedTokens : ℕ
  combinedText : String
  totalChars : ℕ

def prompt (messages : List String) : Prompt :=
  let totalChars := (messages.map String.utf8ByteSize).sum
  { estimatedTokens := totalChars / 4
    combinedText := toLower (String.join (messages.map (· ++ " ")))
    totalChars := totalChars }

def promptLengthHolds (pl : PromptLengthCondition) (promptLen : Int) : Bool :=
  pl.gt.all (fun n => promptLen > n) && pl.gte.all (fun n => promptLen ≥ n) &&
    pl.lt.all (fun n => promptLen < n) && pl.lte.all (fun n => promptLen ≤ n)

def evaluateCondition (p : Prompt) (cond : SmartRuleCondition) : Bool :=
  cond.maxPromptTokens.all (fun n : Int => p.estimatedTokens ≤ n) &&
    (cond.contains.isEmpty ||
      cond.contains.any (fun keyword => GoStrings.contains p.combinedText (toLower keyword))) &&
    cond.promptLength.all (promptLengthHolds · p.totalChars)

def promptLengthBlockReason (pl : PromptLengthCondition) : String :=
  match pl.gt, pl.gte, pl.lt, pl.lte with
  | some n, _, _, _ => "prompt_length_gt_" ++ toString n
  | none, some n, _, _ => "prompt_length_gte_" ++ toString n
  | none, none, some n, _ => "prompt_length_lt_" ++ toString n
  | none, none, none, some n => "prompt_length_lte_" ++ toString n
  | none, none, none, none => "prompt_length_exceeded"

def defaultSemanticThreshold : Float := 0.60

structure StageEvaluator where
  config : SmartConfig
  messages : List String
  tenantID : String
  deps : Option SemanticDeps := none
  semanticThresholdDefault : Float := 0

namespace StageEvaluator

def threshold (se : StageEvaluator) (cond : SemanticSimilarityCondition) : Float :=
  if cond.threshold ≤ 0 then
    if 0 < se.semanticThresholdDefault then se.semanticThresholdDefault
    else defaultSemanticThreshold
  else cond.threshold

def evaluateSemantic (se : StageEvaluator) (threshold : Float) : Option SemanticAnchorResult := do
  let deps ← se.deps
  let embedding ← deps.embeddingFunc (" ".intercalate se.messages)
  let anchor ← deps.semanticLookup se.tenantID embedding
  let similarity := 1.0 - anchor.distance
  if similarity.isNaN || similarity.isInf then none
  else if similarity ≥ threshold then some anchor
  else none

def applyAnchor (stage : String) (action : SmartAction) (anchor : SemanticAnchorResult)
    (r : SmartStageResult) : SmartStageResult :=
  { r with
    stagesEvaluated := r.stagesEvaluated ++ [stage]
    semanticAnchor := anchor.name
    semanticSimilarity := 1.0 - anchor.distance
    semanticDistance := anchor.distance
    anchorRouteGroup :=
      if action.useAnchor && anchor.routeGroup ≠ "" then anchor.routeGroup else r.anchorRouteGroup
    preferredModels :=
      if action.useAnchor then r.preferredModels ++ anchor.preferredModels else r.preferredModels }

def semanticRule (se : StageEvaluator) (stage : String) (rule : SmartStageRule)
    (cond : SemanticSimilarityCondition) (r : SmartStageResult) : SmartStageResult :=
  if r.blocked || !r.preferredModels.isEmpty || r.anchorRouteGroup ≠ "" then r
  else
    match se.evaluateSemantic (se.threshold cond) with
    | none => r
    | some anchor => applyAnchor stage rule.action anchor r

end StageEvaluator

def tighten (acc limit : Option Float) : Option Float :=
  match limit, acc with
  | none, _ => acc
  | some l, none => some l
  | some l, some a => if l < a then some l else some a

def blockBy (rule : SmartStageRule) (r : SmartStageResult) : SmartStageResult :=
  { r with
    blocked := true
    blockReason :=
      if rule.action.reason = "" then (rule.when.promptLength.map promptLengthBlockReason).getD ""
      else rule.action.reason
    promptLengthBlock := rule.when.promptLength.isSome
    promptLengthCustomReason := rule.when.promptLength.isSome && rule.action.reason ≠ "" }

def applyAction (action : SmartAction) (r : SmartStageResult) : SmartStageResult :=
  { r with
    preferredModels := r.preferredModels ++ action.preferModels
    bannedModels := r.bannedModels ++ action.banModels
    constraints :=
      { maxCostPer1M :=
          tighten r.constraints.maxCostPer1M (action.setConstraints.bind (·.maxCostPer1M))
        maxLatencyMs :=
          tighten r.constraints.maxLatencyMs (action.setConstraints.bind (·.maxLatencyMs)) } }

namespace StageEvaluator

def stageRules (se : StageEvaluator) : List (String × SmartStageRule) :=
  se.config.stages.flatMap (fun stage => stage.rules.map (fun rule => (stage.name,rule)))

def evaluateRules (se : StageEvaluator) : List (String × SmartStageRule) → SmartStageResult →
    SmartStageResult
  | [], r => r
  | (stage,rule) :: rest, r =>
    match rule.when.semanticSimilarity with
    | some cond => se.evaluateRules rest (se.semanticRule stage rule cond r)
    | none =>
      if evaluateCondition (prompt se.messages) rule.when then
        let r := { r with stagesEvaluated := r.stagesEvaluated ++ [stage] }
        if rule.action.block then blockBy rule r
        else se.evaluateRules rest (applyAction rule.action r)
      else se.evaluateRules rest r

def legacyMatch (se : StageEvaluator) : Option SmartRule :=
  se.config.rules.find? (fun rule =>
    evaluateCondition (prompt se.messages) rule.when && !rule.preferModels.isEmpty)

def evaluateLegacyRules (se : StageEvaluator) : SmartStageResult :=
  match se.legacyMatch with
  | none => {}
  | some rule =>
    { preferredModels := rule.preferModels
      stagesEvaluated := ["legacy:" ++ rule.name]
      legacyExclusive := true }

def usesLegacyRules (se : StageEvaluator) : Bool :=
  se.config.stages.isEmpty && !se.config.rules.isEmpty

def evaluate (se : StageEvaluator) : SmartStageResult :=
  if se.usesLegacyRules then se.evaluateLegacyRules
  else se.evaluateRules se.stageRules { promptLength := (prompt se.messages).totalChars }

end StageEvaluator

def combinedRate (m : ModelConfig) : Float :=
  m.pricing.promptPer1M + m.pricing.completionPer1M

def applyStageResult (candidates : List ModelConfig) (r : SmartStageResult) : List ModelConfig :=
  if r.blocked then []
  else
    let filtered := candidates.filter (fun c => !r.bannedModels.contains c.name)
    let filtered := filtered.filter (fun c =>
      r.constraints.maxCostPer1M.all (fun max => !(combinedRate c > max)))
    if r.preferredModels.isEmpty then filtered
    else
      let preferred := filtered.filter (fun c => r.preferredModels.contains c.name)
      let rest := filtered.filter (fun c => !r.preferredModels.contains c.name)
      if r.legacyExclusive then preferred else preferred ++ rest

end PrismGateway.Router
