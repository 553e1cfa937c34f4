import PrismGateway.Config.Tenant
import PrismGateway.Config.TenantSchema

namespace PrismGateway.Config.Schemas

def promptLengthOf : promptLengthCondition.Val → PromptLengthCondition
  | (gt,gte,lt,lte,_) => ⟨gt,gte,lt,lte⟩

def similarityOf : semanticSimilarityCondition.Val → SemanticSimilarityCondition
  | (threshold,_) => ⟨threshold.val⟩

def conditionOf : smartRuleCondition.Val → SmartRuleCondition
  | (maxPromptTokens,contains,promptLength,similarity,_) =>
    ⟨maxPromptTokens,contains,Option.map promptLengthOf promptLength,
      Option.map similarityOf similarity⟩

def ruleOf : smartRule.Val → SmartRule
  | (name,condition,preferModels,_) => ⟨name,conditionOf condition,Option.getD preferModels []⟩

def constraintsOf : smartConstraints.Val → SmartConstraints
  | (maxCostPer1M,maxLatencyMs,_) =>
    ⟨Option.map Subtype.val maxCostPer1M,Option.map Subtype.val maxLatencyMs⟩

def actionOf : smartAction.Val → SmartAction
  | (block,reason,preferModels,banModels,setConstraints,useAnchor,_) =>
    ⟨block,reason,preferModels,banModels,Option.map constraintsOf setConstraints,useAnchor⟩

def stageRuleOf : smartStageRule.Val → SmartStageRule
  | (condition,action,_) => ⟨conditionOf condition,actionOf action⟩

def stageOf : smartStage.Val → SmartStage
  | (name,rules,_) => ⟨name,List.map stageRuleOf (Option.getD rules [])⟩

def smartOf : smartConfig.Val → SmartConfig
  | ((cost,latency,errors,_),rules,stages,(tokens,_),_) =>
    ⟨⟨cost.val,latency.val,errors.val⟩,List.map ruleOf (Option.getD rules []),
      List.map stageOf (Option.getD stages []),⟨tokens⟩⟩

def routingOf : routingConfig.Val → RoutingConfig
  | (strategy,routeGroup,smart,(enabled,_,maxAttempts,_),(thresholdDefault,_),_) =>
    ⟨strategy,routeGroup,smartOf smart,⟨enabled,maxAttempts⟩,⟨thresholdDefault.val⟩⟩

def virtualModelOf : virtualModelConfig.Val → VirtualModelConfig
  | (enabled,routeGroup,_) => ⟨enabled,routeGroup⟩

def routeGroupsOf (groups : (table (list .str)).Val) : Option (List (String × List String)) :=
  Option.map (fun m => m.val.map (fun e => (e.1,Option.getD e.2 []))) groups

def selectionOf : selectionConfig.Val → SelectionConfig
  | (modelKey,routeKey,groups,(model,conflictPolicy,_),virtualModels,allowModel,allowGroup,_) =>
    ⟨modelKey,routeKey,routeGroupsOf groups,⟨model,conflictPolicy⟩,
      virtualModels.val.map (fun e => (e.1,virtualModelOf e.2)),allowModel,allowGroup⟩

def trafficSplitOf (entries : (list trafficSplitEntry).Val) : List TrafficSplitEntry :=
  List.map (fun | (model,weight,_) => ⟨model,weight⟩) (Option.getD entries [])

def tenantOf : tenantConfig.Val → TenantConfig
  | (id,_,_,allowedModels,routing,selection,_,_,_,(monthlyUSD,timezone,_),_,(rpm,burst,_),
      (retentionDays,logMode,_),_,_,_,trafficSplit,maxOutputTokens,_) =>
    ⟨id,Option.getD allowedModels [],routingOf routing,selectionOf selection,
      ⟨monthlyUSD.val,timezone⟩,⟨rpm,burst⟩,⟨retentionDays,logMode⟩,
      trafficSplit.val.map (fun e => (e.1,trafficSplitOf e.2)),maxOutputTokens⟩

end PrismGateway.Config.Schemas
