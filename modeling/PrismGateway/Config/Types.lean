import PrismGateway.Lib.GoStrings

namespace PrismGateway.Config

structure Pricing where
  promptPer1M : Float := 0
  completionPer1M : Float := 0
  deriving DecidableEq, Repr

structure MockConfig where
  enabled : Bool := false
  deriving DecidableEq, Repr

structure ModelConfig where
  name : String
  provider : String
  providerModelID : String := ""
  type : String := ""
  pricing : Pricing := {}
  mock : MockConfig := {}
  enabled : Option Bool := none
  deriving DecidableEq, Repr

def ModelConfig.isEnabled (m : ModelConfig) : Bool :=
  m.enabled.getD true

structure ProviderConfig where
  type : String
  deriving DecidableEq, Repr

structure FallbackConfig where
  enabled : Bool := false
  maxAttempts : Int := 0
  deriving DecidableEq, Repr

structure SmartWeights where
  cost : Float := 0
  latency : Float := 0
  errors : Float := 0
  deriving DecidableEq, Repr

structure PromptLengthCondition where
  gt : Option Int := none
  gte : Option Int := none
  lt : Option Int := none
  lte : Option Int := none
  deriving DecidableEq, Repr

structure SemanticSimilarityCondition where
  threshold : Float := 0
  deriving DecidableEq, Repr

structure SmartRuleCondition where
  maxPromptTokens : Option Int := none
  contains : List String := []
  promptLength : Option PromptLengthCondition := none
  semanticSimilarity : Option SemanticSimilarityCondition := none
  deriving DecidableEq, Repr

structure SmartRule where
  name : String
  «when» : SmartRuleCondition := {}
  preferModels : List String := []
  deriving DecidableEq, Repr

structure SmartConstraints where
  maxCostPer1M : Option Float := none
  maxLatencyMs : Option Float := none
  deriving DecidableEq, Repr

structure SmartAction where
  block : Bool := false
  reason : String := ""
  preferModels : List String := []
  banModels : List String := []
  setConstraints : Option SmartConstraints := none
  useAnchor : Bool := false
  deriving DecidableEq, Repr

structure SmartStageRule where
  «when» : SmartRuleCondition := {}
  action : SmartAction := {}
  deriving DecidableEq, Repr

structure SmartStage where
  name : String
  rules : List SmartStageRule := []
  deriving DecidableEq, Repr

structure CostOptimizerConfig where
  defaultCompletionTokensEst : Int := 0
  deriving DecidableEq, Repr

structure SmartConfig where
  weights : SmartWeights := {}
  rules : List SmartRule := []
  stages : List SmartStage := []
  costOptimizer : CostOptimizerConfig := {}
  deriving DecidableEq, Repr

structure GlobalConfig where
  models : List ModelConfig
  providers : Option (String → Option ProviderConfig)

def GlobalConfig.modelByName (gc : GlobalConfig) (name : String) : Option ModelConfig :=
  gc.models.find? (·.name = name)

def effectiveMaxOutputTokens (maxOutputTokens : Option Int) : Int :=
  match maxOutputTokens with
  | none => 0
  | some n => if n ≤ 0 then 0 else n

end PrismGateway.Config
