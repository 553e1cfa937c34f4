import PrismGateway.Lib.StableSort
import PrismGateway.Router.Stages

namespace PrismGateway
open Lib Config

structure Router.ErrorStats where
  requestCount : Int
  errorRate : Float

structure Router.AggregatedStats where
  errorRate : Float
  avgLatencyMs : Float
  requestCount : Int

structure Router where
  rrIndex : String → ℕ
  latencyEWMA : String → String → Option Float
  errorStats : String → String → Option Router.ErrorStats
  dbStats : String → String → Option Router.AggregatedStats

namespace Router

structure Request where
  tenantID : String
  strategy : String
  candidates : List ModelConfig
  forcedModel : String := ""
  routeGroup : String := ""
  defaultRouteGroup : String := ""
  failModels : String → Bool := fun _ => false
  routeGroups : Option (List (String × List String)) := none
  smartConfig : Option SmartConfig := none
  messages : List String := []
  semanticDeps : Option SemanticDeps := none
  semanticThresholdDefault : Float := 0
  budgetPressure : Float := 0
  maxTokens : Option Int := none

structure Result where
  selected : String
  candidates : List String
  smartResult : Option SmartStageResult := none
  deriving DecidableEq, Repr

inductive SelectError where
  | defaultRouteGroupEmpty (routeGroup : String)
  | modelNotAvailable (model : String)
  | allUnavailable
  | noCandidates
  | blockedBySmartStage (reason stage : String) (isPromptLength : Bool) (promptLength : ℕ)
      (hasCustomReason : Bool) (smartResult : SmartStageResult)
  | noCandidatesAfterSmartStages (preferredModels bannedModels : List String)
      (constraintsUsed : Bool) (smartResult : SmartStageResult)
  | nilSmartConfig
  deriving DecidableEq, Repr

def modelNames (models : List ModelConfig) : List String :=
  models.map (·.name)

def filterByNames (models : List ModelConfig) (names : List String) : List ModelConfig :=
  models.filter (fun m => names.contains m.name)

def removeFailModels (ordered : List String) (fail : String → Bool) : List String :=
  ordered.filter (fun m => !fail m)

structure Entry where
  name : String
  key : Float
  deriving DecidableEq, Repr

def costBased (candidates : List ModelConfig) : List String :=
  (sliceStable (fun a b => decide (a.key < b.key))
    (candidates.map (fun c => (⟨c.name,combinedRate c⟩ : Entry)))).map (·.name)

def maxFloat64 : Float := 1.7976931348623157e308

def roundRobin (rt : Router) (tenantID : String) (candidates : List ModelConfig) :
    List String × Router :=
  let idx := rt.rrIndex tenantID % candidates.length
  ((List.range candidates.length).map (fun i =>
      (modelNames candidates).getD ((idx + i) % candidates.length) ""),
    { rt with rrIndex := Function.update rt.rrIndex tenantID (idx + 1) })

def latencyEstimate (rt : Router) (tenantID model : String) : Float :=
  (rt.latencyEWMA tenantID model).getD maxFloat64

def latencyBased (rt : Router) (tenantID : String) (candidates : List ModelConfig) : List String :=
  (sliceStable (fun a b => decide (a.key < b.key))
    (candidates.map (fun c => (⟨c.name,rt.latencyEstimate tenantID c.name⟩ : Entry)))).map (·.name)

def estimateTokens (text : String) : ℕ :=
  if text.utf8ByteSize / 4 = 0 ∧ 0 < text.utf8ByteSize then 1 else text.utf8ByteSize / 4

def normalizeMetrics : List Float → List Float
  | [] => []
  | [_] => [0]
  | v :: w :: rest =>
    let values := v :: w :: rest
    let min := values.foldl (fun min v => if v < min then v else min) v
    let max := values.foldl (fun max v => if v > max then v else max) v
    if max == min then values.map (fun _ => 0)
    else values.map (fun v => (v - min) / (max - min))

def budgetPressureMultiplier (pressure : Float) : Float :=
  if pressure ≥ 0.80 then 2.0 else if pressure ≥ 0.50 then 1.5 else 1.0

def estimateRequestCostUSD (p : Pricing) (promptTokens : ℕ) (completionTokens : Int) : Float :=
  Float.ofNat promptTokens / 1000000 * p.promptPer1M +
    Float.ofInt completionTokens / 1000000 * p.completionPer1M

namespace Request

def completionEst (req : Request) (cfg : SmartConfig) : Int :=
  match req.maxTokens with
  | some n => if 0 < n then n else configured
  | none => configured
where
  configured : Int :=
    if 0 < cfg.costOptimizer.defaultCompletionTokensEst then
      cfg.costOptimizer.defaultCompletionTokensEst
    else 300

def estimate (req : Request) (cfg : SmartConfig) (c : ModelConfig) : Float :=
  estimateRequestCostUSD c.pricing (estimateTokens (" ".intercalate req.messages))
    (req.completionEst cfg)

-- estimatedCostsUSD is keyed by name: of two candidates with one name the later is read
def estimatedCost (req : Request) (cfg : SmartConfig) (candidates : List ModelConfig)
    (c : ModelConfig) : Float :=
  req.estimate cfg (((candidates.filter (·.name = c.name)).getLast?).getD c)

def metricCost (req : Request) (cfg : SmartConfig) (candidates : List ModelConfig)
    (c : ModelConfig) : Float :=
  if req.estimatedCost cfg candidates c == 0 then combinedRate c
  else req.estimatedCost cfg candidates c

end Request

def dbStatsFor (rt : Router) (tenantID model : String) : Option AggregatedStats :=
  (rt.dbStats tenantID model).filter (fun stat => 0 < stat.requestCount)

def metricLatency (rt : Router) (tenantID model : String) : Float :=
  match rt.dbStatsFor tenantID model with
  | some stat => if 0 < stat.avgLatencyMs then stat.avgLatencyMs else 2000
  | none => (rt.latencyEWMA tenantID model).getD 2000

def metricErrors (rt : Router) (tenantID model : String) : Float :=
  match rt.dbStatsFor tenantID model with
  | some stat => stat.errorRate
  | none =>
    match (rt.errorStats tenantID model).filter (fun es => 0 < es.requestCount) with
    | some es => es.errorRate
    | none => 0

def score (weights : SmartWeights) (costWeight costNorm latencyNorm errorNorm : Float) : Float :=
  (1.0 - costNorm) * costWeight + (1.0 - latencyNorm) * weights.latency +
    (1.0 - errorNorm) * weights.errors

def scored (rt : Router) (req : Request) (cfg : SmartConfig) (candidates : List ModelConfig) :
    List Entry :=
  let costs := normalizeMetrics (candidates.map (req.metricCost cfg candidates))
  let latencies :=
    normalizeMetrics (candidates.map (fun c => rt.metricLatency req.tenantID c.name))
  let errors := normalizeMetrics (candidates.map (fun c => rt.metricErrors req.tenantID c.name))
  let costWeight := cfg.weights.cost * budgetPressureMultiplier req.budgetPressure
  candidates.mapIdx (fun i c =>
    ⟨c.name,score cfg.weights costWeight (costs.getD i 0) (latencies.getD i 0) (errors.getD i 0)⟩)

def preferredFirst (preferred : List String) (names : List String) : List String :=
  if preferred.isEmpty then names
  else names.filter (preferred.contains ·) ++ names.filter (fun n => !preferred.contains n)

def rank (rt : Router) (req : Request) (cfg : SmartConfig) (preferred : List String)
    (candidates : List ModelConfig) : List String :=
  preferredFirst preferred
    ((sliceStable (fun a b => decide (a.key > b.key)) (rt.scored req cfg candidates)).map (·.name))

structure SmartFlags where
  blockReason : String := ""
  blockStage : String := ""
  blockIsPromptLength : Bool := false
  blockPromptLength : ℕ := 0
  blockHasCustomReason : Bool := false
  filteredAll : Bool := false
  filterContext : SmartStageResult := {}
  defaultGroupBlocked : Bool := false

def getFirstStage (stages : List String) : String :=
  stages.head?.getD "unknown"

namespace Request

def evaluator (req : Request) (cfg : SmartConfig) : StageEvaluator where
  config := cfg
  messages := req.messages
  tenantID := req.tenantID
  deps := req.semanticDeps
  semanticThresholdDefault := req.semanticThresholdDefault

def group (req : Request) (name : String) : Option (List String) :=
  req.routeGroups.bind (·.lookup name)

def defaultGroup (req : Request) : List String :=
  (req.group req.defaultRouteGroup).getD []

end Request

def restrict (candidates : List ModelConfig) : Option (List String) → List ModelConfig
  | none => candidates
  | some groupModels => filterByNames candidates groupModels

def smartPool (req : Request) (stageResult : SmartStageResult) : Option (List ModelConfig) :=
  if stageResult.anchorRouteGroup ≠ "" ∧ req.routeGroup = "" ∧ req.routeGroups.isSome then
    some (restrict req.candidates (req.group stageResult.anchorRouteGroup))
  else if stageResult.semanticAnchor = "" ∧ req.defaultRouteGroup ≠ "" ∧ req.routeGroup = "" ∧
      req.routeGroups.isSome then
    let filtered := filterByNames req.candidates req.defaultGroup
    if filtered.isEmpty then none else some filtered
  else some req.candidates

def smartBased (rt : Router) (req : Request) (cfg : SmartConfig) : List String × SmartFlags :=
  let stageResult := (req.evaluator cfg).evaluate
  if stageResult.blocked then
    ([],{ filterContext := stageResult
          blockReason := stageResult.blockReason
          blockStage := getFirstStage stageResult.stagesEvaluated
          blockIsPromptLength := stageResult.promptLengthBlock
          blockPromptLength := stageResult.promptLength
          blockHasCustomReason := stageResult.promptLengthCustomReason })
  else
    match smartPool req stageResult with
    | none => ([],{ filterContext := stageResult, defaultGroupBlocked := true })
    | some pool =>
      match applyStageResult pool stageResult with
      | [] => ([],{ filterContext := stageResult, filteredAll := !pool.isEmpty })
      | [c] => ([c.name],{ filterContext := stageResult })
      | c :: d :: rest =>
        (rt.rank req cfg stageResult.preferredModels (c :: d :: rest),
          { filterContext :=
              { stageResult with
                costOptimizerApplied :=
                  (c :: d :: rest).any (fun c => req.estimate cfg c > 0) } })

namespace Request

def preStage (req : Request) : Option SmartStageResult :=
  if req.strategy ≠ "smart" ∧ req.semanticDeps.isSome ∧ req.routeGroup = "" then
    req.smartConfig.map (fun cfg => (req.evaluator cfg).evaluate)
  else none

def explicitGroup (req : Request) : Option (List String) :=
  if req.routeGroup ≠ "" then req.group req.routeGroup else none

def anchorGroup (req : Request) : Option (List String) :=
  req.preStage.bind (fun r => if r.anchorRouteGroup ≠ "" then req.group r.anchorRouteGroup else none)

def appliesDefault (req : Request) : Bool :=
  req.routeGroup = "" && (req.preStage.all (·.semanticAnchor = "")) &&
    req.defaultRouteGroup ≠ "" && req.routeGroups.isSome && req.strategy ≠ "smart"

def pool (req : Request) : Except SelectError (List ModelConfig) :=
  let candidates := restrict (restrict req.candidates req.explicitGroup) req.anchorGroup
  if req.appliesDefault then
    let filtered := filterByNames candidates req.defaultGroup
    if filtered.isEmpty then .error (.defaultRouteGroupEmpty req.defaultRouteGroup)
    else .ok filtered
  else .ok candidates

end Request

def forced (model : String) (candidates : List ModelConfig) (fail : String → Bool) :
    Except SelectError Result :=
  if !(modelNames candidates).contains model then .error (.modelNotAvailable model)
  else
    match removeFailModels (model :: (modelNames candidates).filter (· ≠ model)) fail with
    | [] => .error .allUnavailable
    | selected :: rest => .ok { selected := selected, candidates := selected :: rest }

def unavailable (req : Request) (flags : SmartFlags) : SelectError :=
  if flags.defaultGroupBlocked then .defaultRouteGroupEmpty req.defaultRouteGroup
  else if flags.blockReason ≠ "" then
    .blockedBySmartStage flags.blockReason flags.blockStage flags.blockIsPromptLength
      flags.blockPromptLength flags.blockHasCustomReason flags.filterContext
  else if flags.filteredAll then
    .noCandidatesAfterSmartStages flags.filterContext.preferredModels
      flags.filterContext.bannedModels
      (flags.filterContext.constraints.maxCostPer1M.isSome ||
        flags.filterContext.constraints.maxLatencyMs.isSome)
      flags.filterContext
  else .allUnavailable

def smartResult (strategy : String) (context : SmartStageResult) : Option SmartStageResult :=
  if (strategy = "smart" && (!context.stagesEvaluated.isEmpty || context.costOptimizerApplied)) ||
      context.semanticAnchor ≠ "" then some context
  else none

def dispatch (rt : Router) (req : Request) (candidates : List ModelConfig) :
    Except SelectError (List String × SmartFlags) × Router :=
  let flags : SmartFlags := { filterContext := req.preStage.getD {} }
  if req.strategy = "round_robin" then
    let (ordered,rt) := rt.roundRobin req.tenantID candidates
    (.ok (ordered,flags),rt)
  else if req.strategy = "latency" then (.ok (rt.latencyBased req.tenantID candidates,flags),rt)
  else if req.strategy = "cost" then (.ok (costBased candidates,flags),rt)
  else if req.strategy = "smart" then
    match req.smartConfig with
    | none => (.error .nilSmartConfig,rt)
    | some cfg => (.ok (rt.smartBased { req with candidates := candidates } cfg),rt)
  else if req.strategy = "header" then (.ok (modelNames candidates,flags),rt)
  else (.ok (modelNames candidates,flags),rt)

def finish (req : Request) : List String × SmartFlags → Except SelectError Result
  | (ordered,flags) =>
    match removeFailModels ordered req.failModels with
    | [] => .error (unavailable req flags)
    | selected :: rest =>
      .ok { selected := selected
            candidates := selected :: rest
            smartResult := smartResult req.strategy flags.filterContext }

def select (rt : Router) (req : Request) : Except SelectError Result × Router :=
  match req.pool with
  | .error err => (.error err,rt)
  | .ok candidates =>
    if req.forcedModel ≠ "" then (forced req.forcedModel candidates req.failModels,rt)
    else if candidates.isEmpty then (.error .noCandidates,rt)
    else
      let (ordered,rt) := rt.dispatch req candidates
      (ordered.bind (finish req),rt)

end Router

end PrismGateway
