import PrismGateway.Router.Precedence
import PrismGateway.Router.Selection

namespace PrismGateway.Orchestrator
open Lib Config Router

structure RouteInput where
  bodyModel : String
  headers : String → String
  adminToken : Bool := false
  messages : List String := []
  maxTokens : Option Int := none
  budgetPressure : Float := 0
  semanticDeps : Option SemanticDeps := none
  -- rand.Intn
  intn : Int → Int := fun _ => 0

def orDefault (key fallback : String) : String :=
  if key = "" then fallback else key

def weightedSelectModel (intn : Int → Int) (entries : List TrafficSplitEntry) : Option String :=
  let total := (entries.map (·.weight)).sum
  if entries.isEmpty || entries.any (fun e => e.model = "" || e.weight ≤ 0) || total ≤ 0 then none
  else pick (intn total + 1) 0 entries
where
  pick (r cumulative : Int) : List TrafficSplitEntry → Option String
    | [] => entries.getLast?.map (·.model)
    | e :: rest => if r ≤ cumulative + e.weight then some e.model else pick r (cumulative + e.weight) rest

structure Target where
  bodyModel : String
  routeGroup : String
  virtualAlias : Option String := none
  deriving DecidableEq, Repr

section Target

variable (tenant : TenantConfig) (gc : GlobalConfig) (req : RouteInput)

def headerModel : String :=
  if tenant.selection.allowModelOverride then
    req.headers (orDefault tenant.selection.headerModelKey "X-Model")
  else ""

def headerRouteGroup : String :=
  if tenant.selection.allowRouteGroupOverride then
    req.headers (orDefault tenant.selection.headerRouteKey "X-Route-Group")
  else ""

def resolveAlias (bodyModel routeGroup : String) : Target :=
  match (if bodyModel = "" then none else tenant.selection.virtualModels.lookup bodyModel) with
  | none => ⟨bodyModel,routeGroup,none⟩
  | some aliasCfg =>
    if aliasCfg.enabled && (gc.modelByName bodyModel).isNone then
      ⟨"",if routeGroup = "" then aliasCfg.routeGroup else routeGroup,some bodyModel⟩
    else ⟨bodyModel,routeGroup,none⟩

def splitTraffic (t : Target) : Target :=
  let splitKey := t.virtualAlias.getD t.bodyModel
  if splitKey = "" then t
  else
    match (tenant.trafficSplit.lookup splitKey).bind (weightedSelectModel req.intn) with
    | none => t
    | some selected => { t with bodyModel := selected, virtualAlias := none }

def target : Target :=
  splitTraffic tenant req (resolveAlias tenant gc req.bodyModel (headerRouteGroup tenant req))

def resolution : Except PrecedenceError PrecedenceResult :=
  PrecedenceResolver.resolve ⟨tenant,gc.models,.chat⟩ (target tenant gc req).bodyModel
    (headerModel tenant req) (target tenant gc req).routeGroup

def failModels (m : String) : Bool :=
  req.adminToken && req.headers "X-Debug-Fail-Model" ≠ "" && m = req.headers "X-Debug-Fail-Model"

def hasSemanticRule (cfg : SmartConfig) : Bool :=
  cfg.stages.any (fun stage => stage.rules.any (fun rule => rule.when.semanticSimilarity.isSome))

def routeReq (r : PrecedenceResult) : Request where
  tenantID := tenant.id
  strategy := tenant.routing.strategy
  candidates := r.candidates
  forcedModel := r.forcedModel
  routeGroup := (target tenant gc req).routeGroup
  defaultRouteGroup := tenant.routing.routeGroup
  failModels := failModels req
  routeGroups := tenant.selection.routeGroups
  smartConfig := some tenant.routing.smart
  messages := req.messages
  semanticDeps := if hasSemanticRule tenant.routing.smart then req.semanticDeps else none
  semanticThresholdDefault := tenant.routing.semantic.thresholdDefault
  budgetPressure := req.budgetPressure
  maxTokens := req.maxTokens

end Target

section Forced

variable {rt : Router} {q : Request}

theorem select_forced (hf : q.forcedModel ≠ "") (hfail : q.failModels q.forcedModel = false) :
    (∃ res, (rt.select q).1 = .ok res ∧ res.selected = q.forcedModel) ↔
      ∃ cs, q.pool = .ok cs ∧ q.forcedModel ∈ modelNames cs := by
  constructor
  · rintro ⟨res,hsel,-⟩
    obtain ⟨cs,hp,⟨-,hforced⟩ | ⟨hnone,-⟩⟩ := select_ok hsel
    · exact ⟨cs,hp,(forced_ok hforced).1⟩
    · exact absurd hnone hf
  · rintro ⟨cs,hp,hm⟩
    have hhead : removeFailModels (q.forcedModel ::
        (modelNames cs).filter (· ≠ q.forcedModel)) q.failModels = q.forcedModel ::
          removeFailModels ((modelNames cs).filter (· ≠ q.forcedModel)) q.failModels := by
      simp [removeFailModels,hfail]
    have hin : (!(modelNames cs).contains q.forcedModel) = false := by simpa using hm
    have hok : forced q.forcedModel cs q.failModels = .ok
        { selected := q.forcedModel
          candidates := q.forcedModel ::
            removeFailModels ((modelNames cs).filter (· ≠ q.forcedModel)) q.failModels } := by
      rw [forced,hin,if_neg (by decide),hhead]
    have hsel : (rt.select q).1 = forced q.forcedModel cs q.failModels := by
      simp only [select,hp,hf,ne_eq,not_false_eq_true,if_true]
    exact ⟨_,hsel.trans hok,rfl⟩

theorem pool_contains_forced (hcand : q.forcedModel ∈ modelNames q.candidates) :
    (∃ cs, q.pool = .ok cs ∧ q.forcedModel ∈ modelNames cs) ↔
      ∀ g ∈ q.poolGroups, q.forcedModel ∈ g := by
  obtain ⟨m,hm,hname⟩ := mem_modelNames.mp hcand
  constructor
  · rintro ⟨cs,hp,hin⟩
    obtain ⟨x,hx,hxname⟩ := mem_modelNames.mp hin
    exact hxname ▸ ((mem_pool hp x).mp hx).2
  · intro h
    have hmem : m ∈ q.candidates.filter (inAll q.poolGroups) :=
      List.mem_filter.mpr ⟨hm,inAll_iff.mpr (hname ▸ h)⟩
    exact ⟨_,pool_of_mem hmem,mem_modelNames.mpr ⟨m,hmem,hname⟩⟩

end Forced

theorem forced_model_survives_iff {rt : Router} {tenant : TenantConfig} {gc : GlobalConfig}
    {req : RouteInput} {r : PrecedenceResult} (hr : resolution tenant gc req = .ok r)
    (hf : r.forcedModel ≠ "") (hfail : failModels req r.forcedModel = false) :
    (∃ res, (rt.select (routeReq tenant gc req r)).1 = .ok res ∧ res.selected = r.forcedModel) ↔
      ∀ g ∈ (routeReq tenant gc req r).poolGroups, r.forcedModel ∈ g := by
  refine (select_forced (q := routeReq tenant gc req r) hf hfail).trans ?_
  rcases PrecedenceResolver.resolve_forced hr hf with hcand | ⟨hne,g,hg,hout⟩
  · exact pool_contains_forced (q := routeReq tenant gc req r) hcand
  · have hgroup : g ∈ (routeReq tenant gc req r).poolGroups := by
      have hexp : (routeReq tenant gc req r).explicitGroup = some g := by
        simp only [Request.explicitGroup]
        exact (if_pos hne).trans hg
      simp [Request.poolGroups,hexp]
    constructor
    · rintro ⟨cs,hp,hin⟩
      obtain ⟨x,hx,hxname⟩ := mem_modelNames.mp hin
      have hxg := ((mem_pool hp x).mp hx).2 g hgroup
      rw [hxname] at hxg
      exact absurd hxg hout
    · intro h
      exact absurd (h g hgroup) hout

def twoModels : GlobalConfig :=
  ⟨[{ name := "opus", provider := "anthropic" },{ name := "mini", provider := "openai" }],none⟩

def ignoresGroup : TenantConfig where
  id := "acme"
  allowedModels := ["opus","mini"]
  routing := { strategy := "round_robin" }
  selection :=
    { routeGroups := some [("cheap",["mini"])]
      precedence := { conflictPolicy := "ignore_group" }
      allowRouteGroupOverride := true }
  rateLimit := ⟨60,10⟩
  compliance := ⟨90,"full"⟩

def asksForOpus (group : String) : RouteInput where
  bodyModel := "opus"
  headers := fun key => if key = "X-Route-Group" then group else ""

theorem forced_model_survives_without_group :
    ∃ r, resolution ignoresGroup twoModels (asksForOpus "") = .ok r ∧ r.forcedModel = "opus" ∧
      ∃ res, (idleRouter.select (routeReq ignoresGroup twoModels (asksForOpus "") r)).1 = .ok res ∧
        res.selected = "opus" := by
  let r : PrecedenceResult :=
    { forcedModel := "opus"
      candidates := twoModels.models
      decisionReason := "explicit_body"
      requestedSource := .body
      requestedModel := "opus" }
  have hr : resolution ignoresGroup twoModels (asksForOpus "") = .ok r := by decide
  refine ⟨r,hr,rfl,(forced_model_survives_iff hr (by decide) (by decide)).mpr ?_⟩
  have hgroups : (routeReq ignoresGroup twoModels (asksForOpus "") r).poolGroups = [] := by
    decide
  simp [hgroups]

theorem ignored_group_still_applied :
    ∃ r, resolution ignoresGroup twoModels (asksForOpus "cheap") = .ok r ∧ r.forcedModel = "opus" ∧
      failModels (asksForOpus "cheap") "opus" = false ∧
      (idleRouter.select (routeReq ignoresGroup twoModels (asksForOpus "cheap") r)).1 =
        .error (.modelNotAvailable "opus") := by
  refine ⟨{ forcedModel := "opus"
            candidates := twoModels.models
            decisionReason := "explicit_body|group_ignored"
            requestedSource := .body
            requestedModel := "opus"
            routeGroupUsed := "cheap" },?_,rfl,?_,?_⟩ <;> decide

end PrismGateway.Orchestrator
