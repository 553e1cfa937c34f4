import PrismGateway.Config.Tenant
import PrismGateway.Router.Select

namespace PrismGateway.Router
open Lib Config

inductive RequestedSource where
  | none
  | body
  | header
  deriving DecidableEq, Repr

def RequestedSource.text : RequestedSource → String
  | .none => "none"
  | .body => "body"
  | .header => "header"

inductive TargetType where
  | chat
  | embedding
  deriving DecidableEq, Repr

structure PrecedenceResult where
  forcedModel : String := ""
  candidates : List ModelConfig := []
  decisionReason : String := ""
  requestedSource : RequestedSource := .none
  requestedModel : String := ""
  routeGroupUsed : String := ""
  deriving DecidableEq, Repr

inductive PrecedenceError where
  | noAllowedModels (tenantID : String)
  | routeGroupNotFound (routeGroup : String)
  | modelNotInRouteGroup (model routeGroup : String)
  | invalidConflictPolicy (policy : String)
  | emptyRouteGroup (routeGroup : String)
  | modelNotAllowed (model tenantID : String)
  deriving DecidableEq, Repr

structure PrecedenceResolver where
  tenantConfig : TenantConfig
  globalModels : List ModelConfig
  targetType : TargetType := .chat

namespace PrecedenceResolver

def routable : TargetType → ModelConfig → Bool
  | .embedding, m => m.type = "embedding"
  | .chat, m => m.type = "" || m.type = "chat" || m.type = "llm"

def allowed (pr : PrecedenceResolver) : List ModelConfig :=
  pr.globalModels.filter (fun m =>
    pr.tenantConfig.allowedModels.contains m.name && routable pr.targetType m)

def prefers (first second : String × RequestedSource) : String × RequestedSource :=
  if first.1 ≠ "" then first else if second.1 ≠ "" then second else ("",.none)

def requested (pr : PrecedenceResolver) (bodyModel headerModel : String) :
    String × RequestedSource :=
  let mode := pr.tenantConfig.selection.precedence.model
  if mode = "" ∨ mode = "header" then prefers (headerModel,.header) (bodyModel,.body)
  else prefers (bodyModel,.body) (headerModel,.header)

def conflictPolicy (pr : PrecedenceResolver) : String :=
  if pr.tenantConfig.selection.precedence.conflictPolicy = "" then "error"
  else pr.tenantConfig.selection.precedence.conflictPolicy

def group (pr : PrecedenceResolver) (routeGroup : String) : Option (List String) :=
  pr.tenantConfig.selection.routeGroups.bind (·.lookup routeGroup)

def conflict (pr : PrecedenceResolver) (model : String) (source : RequestedSource)
    (routeGroup : String) (filtered : List ModelConfig) : Except PrecedenceError PrecedenceResult :=
  if pr.conflictPolicy = "error" then .error (.modelNotInRouteGroup model routeGroup)
  else if pr.conflictPolicy = "ignore_group" then
    .ok { forcedModel := model
          candidates := pr.allowed
          decisionReason := "explicit_" ++ source.text ++ "|group_ignored"
          requestedSource := source
          requestedModel := model
          routeGroupUsed := routeGroup }
  else if pr.conflictPolicy = "ignore_model" then
    .ok { candidates := filtered
          decisionReason := "group:" ++ routeGroup ++ "|model_ignored"
          routeGroupUsed := routeGroup }
  else .error (.invalidConflictPolicy pr.conflictPolicy)

def explicitReason (source : RequestedSource) (routeGroup : String) : String :=
  if routeGroup ≠ "" then "explicit_" ++ source.text ++ "|group:" ++ routeGroup
  else "explicit_" ++ source.text

def strategyReason (routeGroup : String) : String :=
  if routeGroup ≠ "" then "group:" ++ routeGroup ++ "|strategy" else "strategy"

def settle (pr : PrecedenceResolver) (model : String) (source : RequestedSource)
    (routeGroup : String) (candidates : List ModelConfig) :
    Except PrecedenceError PrecedenceResult :=
  if model ≠ "" then
    if !(modelNames candidates).contains model then
      .error (.modelNotAllowed model pr.tenantConfig.id)
    else
      .ok { forcedModel := model
            candidates := candidates
            decisionReason := explicitReason source routeGroup
            requestedSource := source
            requestedModel := model
            routeGroupUsed := routeGroup }
  else
    .ok { candidates := candidates
          decisionReason := strategyReason routeGroup
          requestedSource := source
          routeGroupUsed := routeGroup }

def resolve (pr : PrecedenceResolver) (bodyModel headerModel routeGroup : String) :
    Except PrecedenceError PrecedenceResult :=
  if pr.allowed.isEmpty then .error (.noAllowedModels pr.tenantConfig.id)
  else
    let model := (pr.requested bodyModel headerModel).1
    let source := (pr.requested bodyModel headerModel).2
    if routeGroup = "" then pr.settle model source routeGroup pr.allowed
    else
      match pr.group routeGroup with
      | none => .error (.routeGroupNotFound routeGroup)
      | some groupModels =>
        let filtered := pr.allowed.filter (fun c => groupModels.contains c.name)
        if model ≠ "" ∧ !groupModels.contains model then
          pr.conflict model source routeGroup filtered
        else if filtered.isEmpty then .error (.emptyRouteGroup routeGroup)
        else pr.settle model source routeGroup filtered

theorem settle_forced {pr : PrecedenceResolver} {model : String} {source : RequestedSource}
    {routeGroup : String} {candidates : List ModelConfig} {r : PrecedenceResult}
    (h : pr.settle model source routeGroup candidates = .ok r) (hne : r.forcedModel ≠ "") :
    r.forcedModel ∈ modelNames r.candidates := by
  unfold settle at h
  split_ifs at h with hm hc
  · cases h
    simpa using hc
  · cases h
    exact absurd rfl hne

theorem conflict_forced {pr : PrecedenceResolver} {model : String} {source : RequestedSource}
    {routeGroup : String} {filtered : List ModelConfig} {r : PrecedenceResult}
    (h : pr.conflict model source routeGroup filtered = .ok r) (hne : r.forcedModel ≠ "") :
    r.forcedModel = model := by
  unfold conflict at h
  split_ifs at h
  · cases h
    rfl
  · cases h
    exact absurd rfl hne

-- under ignore_group the forced model is outside the group and was never checked against the pool
theorem resolve_forced {pr : PrecedenceResolver} {bodyModel headerModel routeGroup : String}
    {r : PrecedenceResult} (h : pr.resolve bodyModel headerModel routeGroup = .ok r)
    (hne : r.forcedModel ≠ "") :
    r.forcedModel ∈ modelNames r.candidates ∨
      routeGroup ≠ "" ∧ ∃ g, pr.group routeGroup = some g ∧ r.forcedModel ∉ g := by
  simp only [resolve] at h
  split_ifs at h with ha hr
  · exact .inl (settle_forced h hne)
  · cases hg : pr.group routeGroup with
    | none =>
      rw [hg] at h
      cases h
    | some g =>
      simp only [hg] at h
      split_ifs at h with hc hf
      · refine .inr ⟨hr,g,rfl,?_⟩
        rw [conflict_forced h hne]
        simpa using hc.2
      · exact .inl (settle_forced h hne)

end PrecedenceResolver

end PrismGateway.Router
