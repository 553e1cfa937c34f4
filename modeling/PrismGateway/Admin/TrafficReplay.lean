import PrismGateway.Config.Tenant
import PrismGateway.Orchestrator.Cost
import PrismGateway.Router.LiveStats

namespace PrismGateway.Admin.TrafficReplay

open Config Orchestrator Router Live

structure TrafficReplayRequest where
  tenantID : String := ""
  dataset : String := ""
  limit : ℤ := 0

structure TrafficReplayResponse where
  requestsReplayed : ℕ := 0
  changedRoutes : ℕ := 0
  changedModels : ℕ := 0
  costDeltaUSD : ℚ := 0
  modelChanges : String → ℕ := fun _ => 0

inductive Refusal where
  | invalidBody
  | tenantRequired
  | datasetRequired
  | accessDenied
  | unsupportedDataset (dataset : String)
  | fetchFailed
  | resolveFailed
  deriving DecidableEq

structure RoutingSnapshot where
  routeGroup : String := ""
  candidateModels : List String := []

/-- A row of `request_log` beside its usage; the snapshot is missing where it cannot be parsed. -/
structure ReplayRow where
  model : String
  promptTokens : ℤ
  completionTokens : ℤ
  costUSD : ℚ
  routingSnapshot : Option RoutingSnapshot

/-- A row with the usage that the provider reported and the prices that `computeCost` put on it. -/
structure ServedRow extends ReplayRow where
  pricing : Cost.Pricing
  usage : Cost.Usage
  toolPricing : List Cost.ToolPricingEntry
  prompt_recorded : promptTokens = usage.promptTokens
  completion_recorded : completionTokens = usage.completionTokens
  cost_recorded : costUSD = Cost.computeCost pricing usage toolPricing

structure Model where
  config : ModelConfig
  pricing : Cost.Pricing

structure Caller where
  authType : String
  tenantID : String

structure Clock where
  moment : ℕ → Moment
  stop : ℤ
  done : ∀ i, (moment i).later ≤ stop

structure Gateway where
  router : LiveRouter
  clock : Clock
  models : List Model
  resolveTenantConfig : String → Option TenantConfig
  getReplayRequests : String → ℤ → ℤ → ℤ → Option (List ServedRow)
  now : ℤ

def hour : ℤ := 3600

def datasetWindow (now : ℤ) (dataset : String) : Except Refusal (ℤ × ℤ) :=
  if dataset = "last_1h" then .ok (now - hour,now)
  else if dataset = "last_24h" then .ok (now - 24 * hour,now)
  else if dataset = "last_7_days" then .ok (now - 7 * 24 * hour,now)
  else if dataset = "last_30_days" then .ok (now - 30 * 24 * hour,now)
  else .error (.unsupportedDataset dataset)

def clampLimit (limit : ℤ) : ℤ :=
  let limit := if limit ≤ 0 then 1000 else limit
  if 5000 < limit then 5000 else limit

namespace Gateway

def resolveModelByName (g : Gateway) (name : String) : Option Model :=
  g.models.find? (·.config.name = name)

def timed (g : Gateway) (rows : List ServedRow) : List (ServedRow × Moment) :=
  rows.mapIdx (fun i row => (row,g.clock.moment i))

end Gateway

structure Setup where
  tenantID : String
  tenant : TenantConfig
  resolveModelByName : String → Option Model

structure Replay where
  router : LiveRouter
  resp : TrafficReplayResponse := {}

namespace Setup

variable (s : Setup)

def routeReq (row : ReplayRow) : Option Request :=
  row.routingSnapshot.bind fun snap =>
    let currentCandidates := snap.candidateModels.filterMap s.resolveModelByName
    if currentCandidates = [] then none
    else some
      { tenantID := s.tenantID
        strategy := s.tenant.routing.strategy
        candidates := currentCandidates.map Model.config
        routeGroup := snap.routeGroup
        routeGroups := s.tenant.selection.routeGroups
        smartConfig := some s.tenant.routing.smart }

def newCost (pricing : Cost.Pricing) (row : ReplayRow) : ℚ :=
  Cost.computeCost pricing
    { promptTokens := row.promptTokens, completionTokens := row.completionTokens, totalTokens := 0 } []

def record (row : ReplayRow) (result : Result) (resp : TrafficReplayResponse) :
    TrafficReplayResponse :=
  let changed := result.selected ≠ row.model
  let reordered := result.candidates ≠ [] ∧ result.candidates.headD "" ≠ row.model
  let key := row.model ++ " -> " ++ result.selected
  { requestsReplayed := resp.requestsReplayed + 1
    changedModels := if changed then resp.changedModels + 1 else resp.changedModels
    changedRoutes := if changed ∨ reordered then resp.changedRoutes + 1 else resp.changedRoutes
    modelChanges :=
      if changed then Function.update resp.modelChanges key (resp.modelChanges key + 1)
      else resp.modelChanges
    costDeltaUSD := match s.resolveModelByName result.selected with
      | none => resp.costDeltaUSD
      | some newModelCfg => resp.costDeltaUSD + (newCost newModelCfg.pricing row - row.costUSD) }

def replayRow (st : Replay) (row : ReplayRow) (m : Moment) : Replay :=
  match s.routeReq row with
  | none => st
  | some req =>
    match st.router.select m req with
    | (.error _,router) => ⟨router,st.resp⟩
    | (.ok result,router) => ⟨router,s.record row result st.resp⟩

def replay (st : Replay) (rows : List (ServedRow × Moment)) : Replay :=
  rows.foldl (fun st x => s.replayRow st x.1.toReplayRow x.2) st

end Setup

namespace Gateway

variable (g : Gateway)

def setup (caller : Caller) : Option TrafficReplayRequest → Except Refusal (Setup × List ServedRow)
  | none => .error .invalidBody
  | some req =>
    if req.tenantID = "" then .error .tenantRequired
    else if req.dataset = "" then .error .datasetRequired
    else if caller.authType = "api_key" ∧ caller.tenantID ≠ req.tenantID then .error .accessDenied
    else match datasetWindow g.now req.dataset with
      | .error err => .error err
      | .ok (start,stop) =>
        match g.getReplayRequests req.tenantID start stop (clampLimit req.limit) with
        | none => .error .fetchFailed
        | some rows =>
          match g.resolveTenantConfig req.tenantID with
          | none => .error .resolveFailed
          | some tenant => .ok (⟨req.tenantID,tenant,g.resolveModelByName⟩,rows)

def adminTrafficReplay (caller : Caller) (body : Option TrafficReplayRequest) :
    Except Refusal TrafficReplayResponse × LiveRouter :=
  match g.setup caller body with
  | .error err => (.error err,g.router)
  | .ok (s,rows) =>
    let st := s.replay { router := g.router } (g.timed rows)
    (.ok st.resp,st.router)

end Gateway

def Reselected (s : Setup) (rt : LiveRouter) (row : ServedRow) (m : Moment) : Prop :=
  ∃ req result model, s.routeReq row.toReplayRow = some req ∧ (rt.select m req).1 = .ok result ∧
    result.selected = row.model ∧ s.resolveModelByName row.model = some model ∧
      model.pricing = row.pricing

def AtEveryRow (s : Setup) (rt : LiveRouter) (rows : List (ServedRow × Moment))
    (P : Replay → ServedRow → Moment → Prop) : Prop :=
  ∀ before row m after, rows = before ++ (row,m) :: after →
    P (s.replay { router := rt } before) row m

structure Simulation (g : Gateway) (caller : Caller) (body : Option TrafficReplayRequest) : Prop where
  live : ∀ later, (∀ x ∈ later, g.clock.stop ≤ x.1.now) →
    outcomes (g.adminTrafficReplay caller body).2 later = outcomes g.router later
  neutral : ∀ s rows, g.setup caller body = .ok (s,rows) →
    AtEveryRow s g.router (g.timed rows) fun st row m => Reselected s st.router row m →
      (s.replayRow st row.toReplayRow m).resp.costDeltaUSD = st.resp.costDeltaUSD

section Condition

def surcharge (pricing : Cost.Pricing) (usage : Cost.Usage)
    (toolPricing : List Cost.ToolPricingEntry) : ℚ :=
  let long := Cost.isLongContext pricing usage
  let promptRate := if long then pricing.longContextPromptPer1M else pricing.promptPer1M
  let cachedRate := if long then pricing.longContextCachedInputPer1M else pricing.cachedInputPer1M
  (usage.cachedInputTokens * cachedRate + usage.cacheWrite5mTokens * pricing.cacheWrite5mPer1M +
      usage.cacheWrite1hTokens * pricing.cacheWrite1hPer1M -
      (max usage.promptTokens 0 - Cost.nonCachedPrompt usage : ℤ) * promptRate) / 1000000 +
    (if Cost.geoApplies pricing usage then
      (pricing.geoMultiplierUS - 1) * Cost.tokenCost pricing usage else 0) +
    Cost.computeToolCost usage toolPricing

variable (s : Setup)

def poolSize (row : ServedRow) : Option ℕ :=
  (s.routeReq row.toReplayRow).bind fun req =>
    match req.pool with
    | .error _ => none
    | .ok pool => if pool ≠ [] ∧ req.strategy = "round_robin" then some pool.length else none

def counterAfter (counter : ℕ) (sizes : List ℕ) : ℕ :=
  sizes.foldl (fun counter size => counter % size + 1) counter

def readOf (x : ServedRow × Moment) : Option Moment :=
  (s.routeReq x.1.toReplayRow).bind fun req => if readsStats req then some x.2 else none

structure Harmless (rt : LiveRouter) (stop : ℤ) (rows : List (ServedRow × Moment)) : Prop where
  counter : counterAfter (rt.rrIndex s.tenantID) (rows.filterMap (fun x => poolSize s x.1)) =
    rt.rrIndex s.tenantID
  stats : ∀ c, rt.statsCache = some c → ∀ before m later,
    rows.filterMap (readOf s) = before ++ m :: later →
      ¬ Refills stop c.ttl (entryAfter c.ttl (c.cache s.tenantID) before) m
  plain : AtEveryRow s rt rows fun st row m => Reselected s st.router row m →
    surcharge row.pricing row.usage row.toolPricing = 0

end Condition

section After

variable {s : Setup} {l : LiveRouter} {row : ServedRow} {m : Moment} {req : Request} {st : Replay}

def after (l : LiveRouter) (tenantID : String) (sizes : List ℕ) (reads : List Moment) : LiveRouter :=
  { l with
    rrIndex := Function.update l.rrIndex tenantID (counterAfter (l.rrIndex tenantID) sizes)
    statsCache := l.statsCache.map fun c =>
      { c with cache := Function.update c.cache tenantID (entryAfter c.ttl (c.cache tenantID) reads) } }

theorem after_nil (l : LiveRouter) (tenantID : String) : after l tenantID [] [] = l := by
  have hcache : (l.statsCache.map fun c =>
      { c with cache := Function.update c.cache tenantID (c.cache tenantID) }) = l.statsCache := by
    simp only [Function.update_eq_self,Option.map_id']
  have hindex : Function.update l.rrIndex tenantID (l.rrIndex tenantID) = l.rrIndex :=
    Function.update_eq_self tenantID l.rrIndex
  change LiveRouter.mk (Function.update l.rrIndex tenantID (l.rrIndex tenantID)) l.latencyEWMA
    l.errorStats (l.statsCache.map fun c =>
      { c with cache := Function.update c.cache tenantID (c.cache tenantID) }) = l
  rw [hindex,hcache]

theorem after_after (l : LiveRouter) (tenantID : String) (sizes sizes' : List ℕ)
    (reads reads' : List Moment) : after (after l tenantID sizes reads) tenantID sizes' reads' =
      after l tenantID (sizes ++ sizes') (reads ++ reads') := by
  have hcounter : counterAfter (counterAfter (l.rrIndex tenantID) sizes) sizes' =
      counterAfter (l.rrIndex tenantID) (sizes ++ sizes') := List.foldl_append.symm
  have hentry (ttl : ℤ) (entry : Option (Stats × ℤ)) :
      entryAfter ttl (entryAfter ttl entry reads) reads' = entryAfter ttl entry (reads ++ reads') :=
    List.foldl_append.symm
  simp only [after,Function.update_self,Function.update_idem,hcounter,Option.map_map,
    Function.comp_def,hentry]

theorem routeReq_some (h : s.routeReq row.toReplayRow = some req) :
    req.tenantID = s.tenantID ∧ req.forcedModel = "" ∧ req.strategy = s.tenant.routing.strategy := by
  obtain ⟨snap,-,hreq⟩ := Option.bind_eq_some_iff.mp h
  dsimp only at hreq
  split at hreq
  · cases hreq
  · cases hreq
    exact ⟨rfl,rfl,rfl⟩

theorem poolSize_eq_turn (h : s.routeReq row.toReplayRow = some req) (rt : Router) :
    poolSize s row = (turn rt req).map (fun t => t.pool.length) := by
  have hforced := (routeReq_some h).2.1
  unfold turn
  rw [poolSize,h,Option.bind_some]
  cases req.pool with
  | error err => rfl
  | ok pool =>
    simp only [hforced,true_and]
    split_ifs <;> rfl

theorem turn_tenantID {rt : Router} {t : Turn} (h : turn rt req = some t) :
    t.tenantID = req.tenantID := by
  unfold turn at h
  split at h
  · cases h
  · split at h
    · cases h
      rfl
    · cases h

theorem select_rrIndex (h : s.routeReq row.toReplayRow = some req) (rt : Router) :
    (rt.select req).2.rrIndex = Function.update rt.rrIndex s.tenantID
      (counterAfter (rt.rrIndex s.tenantID) (poolSize s row).toList) := by
  rw [poolSize_eq_turn h rt]
  cases hturn : turn rt req with
  | none =>
    rw [select_of_no_turn hturn]
    exact (Function.update_eq_self s.tenantID rt.rrIndex).symm
  | some t =>
    have htenant : t.tenantID = s.tenantID := (turn_tenantID hturn).trans (routeReq_some h).1
    obtain ⟨-,-,-,hindex⟩ := turn_spec hturn
    rw [(select_of_turn hturn).2,hindex,htenant]
    rfl

theorem getStats_after (h : s.routeReq row.toReplayRow = some req) (l : LiveRouter) (m : Moment) :
    (l.getStats m req).2 = (after l s.tenantID [] (readOf s (row,m)).toList).statsCache := by
  have htenant := (routeReq_some h).1
  have hread : readOf s (row,m) = if readsStats req then some m else none := by
    rw [readOf,h,Option.bind_some]
  unfold LiveRouter.getStats after
  rw [hread]
  cases l.statsCache with
  | none => rfl
  | some c =>
    simp only [Option.map_some]
    split_ifs
    · rw [getStats_cache,htenant]
      rfl
    · exact congrArg some (congrArg (fun cache => { c with cache := cache })
        (Function.update_eq_self s.tenantID c.cache).symm)

theorem router_replayRow (s : Setup) (st : Replay) (row : ServedRow) (m : Moment) :
    (s.replayRow st row.toReplayRow m).router = after st.router s.tenantID (poolSize s row).toList
      (readOf s (row,m)).toList := by
  cases hreq : s.routeReq row.toReplayRow with
  | none =>
    have hsize : poolSize s row = none := by rw [poolSize,hreq,Option.bind_none]
    have hread : readOf s (row,m) = none := by rw [readOf,hreq,Option.bind_none]
    rw [Setup.replayRow,hreq,hsize,hread]
    exact (after_nil st.router s.tenantID).symm
  | some req =>
    have hrouter : (s.replayRow st row.toReplayRow m).router = (st.router.select m req).2 := by
      simp only [Setup.replayRow,hreq]
      split
      · next hselect => rw [hselect]
      · next hselect => rw [hselect]
    have hindex : (st.router.select m req).2.rrIndex =
        (after st.router s.tenantID (poolSize s row).toList []).rrIndex :=
      select_rrIndex hreq (st.router.router (st.router.getStats m req).1)
    have hcache : (st.router.select m req).2.statsCache =
        (after st.router s.tenantID [] (readOf s (row,m)).toList).statsCache :=
      getStats_after hreq st.router m
    rw [hrouter]
    change LiveRouter.mk (st.router.select m req).2.rrIndex _ _ (st.router.select m req).2.statsCache = _
    rw [hindex,hcache]
    rfl

theorem router_replay (s : Setup) (st : Replay) (rows : List (ServedRow × Moment)) :
    (s.replay st rows).router = after st.router s.tenantID
      (rows.filterMap (fun x => poolSize s x.1)) (rows.filterMap (readOf s)) := by
  induction rows generalizing st with
  | nil => exact (after_nil st.router s.tenantID).symm
  | cons x rows ih =>
    have hstep := ih (s.replayRow st x.1.toReplayRow x.2)
    rw [router_replayRow,after_after] at hstep
    have hsizes : (x :: rows).filterMap (fun x => poolSize s x.1) =
        (poolSize s x.1).toList ++ rows.filterMap (fun x => poolSize s x.1) := by
      rw [List.filterMap_cons]
      cases poolSize s x.1 <;> rfl
    have hreads : (x :: rows).filterMap (readOf s) =
        (readOf s x).toList ++ rows.filterMap (readOf s) := by
      rw [List.filterMap_cons]
      cases readOf s x <;> rfl
    rw [hsizes,hreads]
    exact hstep

end After

section Live

variable {rt : Router} {tenantID : String} {c d : ℕ}

def probeName (i : ℕ) : String := String.ofList (List.replicate i 'm')

theorem probeName_injective : Function.Injective probeName := by
  intro i j h
  have hlists := String.ofList_injective h
  simpa using congrArg List.length hlists

def probe (tenantID : String) (n : ℕ) : Request where
  tenantID := tenantID
  strategy := "round_robin"
  candidates := (List.range n).map (fun i => { name := probeName i, provider := "" })

theorem probe_pool (tenantID : String) (n : ℕ) :
    (probe tenantID n).pool = .ok (probe tenantID n).candidates := by
  simp [Request.pool,Request.appliesDefault,Request.explicitGroup,Request.anchorGroup,
    Request.preStage,restrict,probe]

theorem select_probe (rt : Router) (tenantID : String) {n : ℕ} (h : rt.rrIndex tenantID < n) :
    ∃ result, (rt.select (probe tenantID n)).1 = .ok result ∧
      result.candidates.headD "" = probeName (rt.rrIndex tenantID) := by
  have hlength : (probe tenantID n).candidates.length = n := by simp [probe]
  have hnames : modelNames (probe tenantID n).candidates = (List.range n).map probeName := by
    simp [modelNames,probe,Function.comp_def]
  have hempty : (probe tenantID n).candidates.isEmpty = false := by
    rw [List.isEmpty_eq_false_iff,← List.length_pos_iff,hlength]
    omega
  have hselect : (rt.select (probe tenantID n)).1 = finish (probe tenantID n)
      ((rt.roundRobin tenantID (probe tenantID n).candidates).1,{ filterContext := {} }) := by
    have hforced : (probe tenantID n).forcedModel = "" := rfl
    have hstrategy : (probe tenantID n).strategy = "round_robin" := rfl
    have hpre : (probe tenantID n).preStage = none := by simp [Request.preStage,probe]
    simp only [select,probe_pool,hforced,hempty,dispatch,hstrategy,hpre]
    rfl
  rw [roundRobin_eq_rotate,hlength,Nat.mod_eq_of_lt h,hnames] at hselect
  have hhead := @headD_rotate ((List.range n).map probeName) (rt.rrIndex tenantID) (by simpa using h)
  rw [List.getD_eq_getElem _ _ (by simpa using h),List.getElem_map,List.getElem_range] at hhead
  cases hordered : ((List.range n).map probeName).rotate (rt.rrIndex tenantID) with
  | nil =>
    have hlen := congrArg List.length hordered
    simp at hlen
    omega
  | cons selected rest =>
    rw [hordered] at hselect hhead
    exact ⟨_,hselect,hhead⟩

theorem counter_eq_of_outcomes {l l' : LiveRouter} {t : ℤ} {tenantID : String}
    (h : ∀ later, (∀ x ∈ later, t ≤ x.1.now) → outcomes l' later = outcomes l later) :
    l'.rrIndex tenantID = l.rrIndex tenantID := by
  set n := max (l'.rrIndex tenantID) (l.rrIndex tenantID) + 1 with hn
  have hfirst := List.head_eq_of_cons_eq (h [(⟨t,t,none,le_rfl⟩,probe tenantID n)] (by simp))
  obtain ⟨moved,hmoved,hmovedName⟩ := select_probe (l'.router none) tenantID (n := n)
    (show l'.rrIndex tenantID < n by omega)
  obtain ⟨kept,hkept,hkeptName⟩ := select_probe (l.router none) tenantID (n := n)
    (show l.rrIndex tenantID < n by omega)
  have hselect (l : LiveRouter) : (l.select ⟨t,t,none,le_rfl⟩ (probe tenantID n)).1 =
      ((l.router none).select (probe tenantID n)).1 := by
    have hread : readsStats (probe tenantID n) = false := by rw [readsStats,probe_pool]; rfl
    have hstats : (l.getStats ⟨t,t,none,le_rfl⟩ (probe tenantID n)).1 = none := by
      unfold LiveRouter.getStats
      rw [hread]
      cases l.statsCache <;> rfl
    exact congrArg (fun stats => (Router.select (l.router stats) (probe tenantID n)).1) hstats
  rw [hselect,hselect,hmoved,hkept,Except.ok.injEq] at hfirst
  rw [hfirst,hkeptName] at hmovedName
  exact (probeName_injective hmovedName).symm

end Live

section Neutral

variable {s : Setup} {row : ServedRow} {m : Moment} {st : Replay}

theorem newCost_eq (pricing : Cost.Pricing) (usage : Cost.Usage) (row : ReplayRow)
    (hprompt : row.promptTokens = usage.promptTokens)
    (hcompletion : row.completionTokens = usage.completionTokens) :
    Setup.newCost pricing row =
      (max usage.promptTokens 0 : ℤ) * (if Cost.isLongContext pricing usage then
        pricing.longContextPromptPer1M else pricing.promptPer1M) / 1000000 +
      usage.completionTokens * (if Cost.isLongContext pricing usage then
        pricing.longContextCompletionPer1M else pricing.completionPer1M) / 1000000 := by
  have hmax : (if usage.promptTokens < 0 then 0 else usage.promptTokens) =
      max usage.promptTokens 0 := by
    split_ifs <;> omega
  have hgeo : (decide ("" = "us") && decide (1 < pricing.geoMultiplierUS)) = false := rfl
  simp only [Setup.newCost,Cost.computeCost,Cost.computeToolCost,Cost.tokenCost,Cost.geoApplies,
    Cost.isLongContext,Cost.nonCachedPrompt,hprompt,hcompletion,hgeo,Int.sub_zero,hmax,
    List.map_nil,List.sum_nil,Int.cast_zero,zero_mul,zero_div,add_zero,Bool.false_eq_true,if_false]
  rfl

theorem computeCost_eq_add_surcharge (pricing : Cost.Pricing) (usage : Cost.Usage)
    (toolPricing : List Cost.ToolPricingEntry) (row : ReplayRow)
    (hprompt : row.promptTokens = usage.promptTokens)
    (hcompletion : row.completionTokens = usage.completionTokens) :
    Cost.computeCost pricing usage toolPricing =
      Setup.newCost pricing row + surcharge pricing usage toolPricing := by
  rw [newCost_eq pricing usage row hprompt hcompletion]
  simp only [Cost.computeCost,surcharge]
  cases Cost.geoApplies pricing usage with
  | true =>
    simp only [if_true,Cost.tokenCost]
    push_cast
    ring
  | false =>
    simp only [Bool.false_eq_true,if_false,Cost.tokenCost]
    push_cast
    ring

theorem costDelta_of_reselected (h : Reselected s st.router row m) :
    (s.replayRow st row.toReplayRow m).resp.costDeltaUSD =
      st.resp.costDeltaUSD - surcharge row.pricing row.usage row.toolPricing := by
  obtain ⟨req,result,model,hreq,hselect,hsame,hmodel,hprices⟩ := h
  have hrow : (s.replayRow st row.toReplayRow m).resp =
      s.record row.toReplayRow result st.resp := by
    simp only [Setup.replayRow,hreq]
    split
    · next hother => cases (congrArg Prod.fst hother).symm.trans hselect
    · next hother =>
      have hresult := (congrArg Prod.fst hother).symm.trans hselect
      cases hresult
      rfl
  have hcost := computeCost_eq_add_surcharge row.pricing row.usage row.toolPricing row.toReplayRow
    row.prompt_recorded row.completion_recorded
  rw [hrow]
  simp only [Setup.record,hsame,hmodel,hprices,row.cost_recorded,hcost]
  ring

end Neutral

section Reads

variable {g : Gateway} {s : Setup} {rows : List ServedRow}

theorem reads_done (g : Gateway) (s : Setup) (rows : List ServedRow) :
    ∀ m ∈ (g.timed rows).filterMap (readOf s), m.later ≤ g.clock.stop := by
  intro m hm
  obtain ⟨x,hx,hread⟩ := List.mem_filterMap.mp hm
  obtain ⟨i,hi,rfl⟩ := List.mem_mapIdx.mp hx
  obtain ⟨req,-,hreq⟩ := Option.bind_eq_some_iff.mp hread
  split at hreq
  · cases hreq
    exact g.clock.done i
  · cases hreq

theorem Harmless.alike (h : Harmless s g.router g.clock.stop (g.timed rows)) :
    Alike g.clock.stop (s.replay { router := g.router } (g.timed rows)).router g.router := by
  rw [router_replay]
  refine ⟨?_,rfl,rfl,?_⟩
  · change Function.update g.router.rrIndex s.tenantID _ = g.router.rrIndex
    rw [h.counter,Function.update_eq_self]
  · cases hcache : g.router.statsCache with
    | none =>
      simp only [after,hcache,Option.map_none]
      exact .none
    | some c =>
      have hentry := cachedAt_entryAfter (reads_done g s rows) (h.stats c hcache)
      simp only [after,hcache,Option.map_some]
      refine .some ⟨rfl,fun tenantID => ?_⟩
      by_cases htenant : tenantID = s.tenantID
      · subst htenant
        simp only [Function.update_self,hentry]
      · simp only [Function.update_of_ne htenant]

theorem stats_of_outcomes (h : ∀ later, (∀ x ∈ later, g.clock.stop ≤ x.1.now) →
      outcomes (s.replay { router := g.router } (g.timed rows)).router later = outcomes g.router later)
    {c : ModelStatsCache} (hcache : g.router.statsCache = some c) {before later : List Moment} {m : Moment}
    (hreads : (g.timed rows).filterMap (readOf s) = before ++ m :: later) :
    ¬ Refills g.clock.stop c.ttl (entryAfter c.ttl (c.cache s.tenantID) before) m := by
  intro hrefills
  have hdone := reads_done g s rows
  rw [hreads] at hdone
  obtain ⟨hold,e,hfresh⟩ := refilled hdone hrefills
  rw [router_replay,hreads] at h
  set entry := entryAfter c.ttl (c.cache s.tenantID) (before ++ m :: later)
  have hcache' : (after g.router s.tenantID ((g.timed rows).filterMap (fun x => poolSize s x.1))
      (before ++ m :: later)).statsCache =
        some { c with cache := Function.update c.cache s.tenantID entry } := by
    simp only [after,hcache,Option.map_some,entry]
  have hfresh' : cachedAt g.clock.stop (Function.update c.cache s.tenantID entry s.tenantID) = some e := by
    rw [Function.update_self]
    exact hfresh
  obtain ⟨live,hlive,hdiffer⟩ := told_apart hcache hcache' hold hfresh'
  exact hdiffer (h live hlive)

end Reads

theorem simulation_iff (g : Gateway) (caller : Caller) (body : Option TrafficReplayRequest) :
    Simulation g caller body ↔
      ∀ s rows, g.setup caller body = .ok (s,rows) →
        Harmless s g.router g.clock.stop (g.timed rows) := by
  have hneutral (s : Setup) (rows : List ServedRow) :
      (AtEveryRow s g.router (g.timed rows) fun st row m => Reselected s st.router row m →
        (s.replayRow st row.toReplayRow m).resp.costDeltaUSD = st.resp.costDeltaUSD) ↔
      AtEveryRow s g.router (g.timed rows) fun st row m => Reselected s st.router row m →
        surcharge row.pricing row.usage row.toolPricing = 0 := by
    refine forall_congr' fun before => forall_congr' fun row => forall_congr' fun m =>
      forall_congr' fun after => forall_congr' fun _ => forall_congr' fun hre => ?_
    rw [costDelta_of_reselected hre,sub_eq_self]
  constructor
  · rintro ⟨hlive,hrows⟩ s rows hsetup
    simp only [Gateway.adminTrafficReplay,hsetup] at hlive
    refine ⟨?_,?_,(hneutral s rows).mp (hrows s rows hsetup)⟩
    · have hcounter := @counter_eq_of_outcomes _ _ _ s.tenantID hlive
      rw [router_replay] at hcounter
      simpa only [after,Function.update_self] using hcounter
    · intro c hcache before m later hreads
      exact stats_of_outcomes hlive hcache hreads
  · intro h
    refine ⟨?_,fun s rows hsetup => (hneutral s rows).mpr (h s rows hsetup).plain⟩
    intro later hlater
    cases hsetup : g.setup caller body with
    | error err => rw [Gateway.adminTrafficReplay,hsetup]
    | ok found =>
      obtain ⟨s,rows⟩ := found
      simp only [Gateway.adminTrafficReplay,hsetup]
      exact (h s rows hsetup).alike.outcomes hlater

section Plain

variable {s : Setup} {rt : LiveRouter} {rows : List (ServedRow × Moment)}

structure PlainUsage (usage : Cost.Usage) : Prop where
  prompt : 0 ≤ usage.promptTokens
  uncached : usage.cachedInputTokens = 0
  unwritten : usage.cacheWrite5mTokens = 0 ∧ usage.cacheWrite1hTokens = 0
  anywhere : usage.inferenceGeo ≠ "us"
  untooled : usage.toolCallsUsed = []

theorem surcharge_of_plain {usage : Cost.Usage} (h : PlainUsage usage) (pricing : Cost.Pricing)
    (toolPricing : List Cost.ToolPricingEntry) : surcharge pricing usage toolPricing = 0 := by
  have hprompt : max usage.promptTokens 0 - Cost.nonCachedPrompt usage = 0 := by
    have hnonneg := h.prompt
    simp only [Cost.nonCachedPrompt,h.uncached,h.unwritten]
    split_ifs <;> omega
  have hgeo : Cost.geoApplies pricing usage = false := by
    simp only [Cost.geoApplies,h.anywhere,decide_false,Bool.false_and]
  simp [surcharge,hprompt,hgeo,Cost.computeToolCost,h.uncached,h.unwritten,h.untooled]

theorem poolSize_eq_none (h : s.tenant.routing.strategy ≠ "round_robin") (row : ServedRow) :
    poolSize s row = none := by
  rw [poolSize]
  cases hreq : s.routeReq row.toReplayRow with
  | none => rfl
  | some req =>
    have hstrategy : req.strategy ≠ "round_robin" := by
      rw [(routeReq_some hreq).2.2]
      exact h
    rw [Option.bind_some]
    cases req.pool with
    | error err => rfl
    | ok pool => exact if_neg fun hboth => hstrategy hboth.2

theorem readOf_eq_none (h : s.tenant.routing.strategy ≠ "smart") (x : ServedRow × Moment) :
    readOf s x = none := by
  rw [readOf]
  cases hreq : s.routeReq x.1.toReplayRow with
  | none => rfl
  | some req =>
    have hstrategy : req.strategy ≠ "smart" := by
      rw [(routeReq_some hreq).2.2]
      exact h
    rw [Option.bind_some,if_neg]
    intro hread
    exact hstrategy (readsStats_smart hread)

theorem harmless_of_plain {stop : ℤ} (hround : s.tenant.routing.strategy ≠ "round_robin")
    (hsmart : s.tenant.routing.strategy ≠ "smart") (hplain : ∀ x ∈ rows, PlainUsage x.1.usage) :
    Harmless s rt stop rows where
  counter := by
    have hsizes : rows.filterMap (fun x => poolSize s x.1) = [] := by
      rw [List.filterMap_eq_nil_iff]
      intro x _
      exact poolSize_eq_none hround x.1
    rw [hsizes]
    rfl
  stats := by
    intro c _ before m later hreads
    have hnone : rows.filterMap (readOf s) = [] := by
      rw [List.filterMap_eq_nil_iff]
      intro x _
      exact readOf_eq_none hsmart x
    rw [hnone] at hreads
    cases before <;> cases hreads
  plain := by
    rintro before row m after rfl -
    exact surcharge_of_plain (hplain (row,m) (by simp)) _ _

end Plain

section Concrete

def replayTenant (strategy : String) : TenantConfig where
  id := "acme"
  allowedModels := ["sonnet","mini"]
  routing := { strategy := strategy }
  rateLimit := ⟨60,10⟩
  compliance := ⟨90,"metadata_only"⟩

def servedRow (usage : Cost.Usage) : ServedRow where
  model := "sonnet"
  promptTokens := usage.promptTokens
  completionTokens := usage.completionTokens
  costUSD := Cost.computeCost Cost.sonnet usage []
  routingSnapshot := some { candidateModels := ["sonnet","mini"] }
  pricing := Cost.sonnet
  usage := usage
  toolPricing := []
  prompt_recorded := rfl
  completion_recorded := rfl
  cost_recorded := rfl

def atOnce (model : String) : Clock := ⟨fun _ => failingAt 0 model,1,fun _ => zero_le_one⟩

def gateway (strategy : String) (row : ServedRow) : Gateway where
  router := ⟨fun _ => 0,fun _ _ => none,fun _ _ => none,some ⟨fun _ => none,30⟩⟩
  clock := atOnce "a"
  models := [⟨{ name := "sonnet", provider := "anthropic" },Cost.sonnet⟩,
    ⟨{ name := "mini", provider := "openai" },{}⟩]
  resolveTenantConfig := fun _ => some (replayTenant strategy)
  getReplayRequests := fun _ _ _ _ => some [row]
  now := 0

def lastDay : TrafficReplayRequest := { tenantID := "acme", dataset := "last_24h" }

def plainRow : ServedRow := servedRow ⟨1000,200,1200,0,[],0,0,""⟩

def cachedRow : ServedRow := servedRow ⟨1000,200,1200,900,[],0,0,""⟩

theorem replay_moves_and_reprices :
    ¬ Simulation (gateway "round_robin" plainRow) ⟨"jwt",""⟩ (some lastDay) ∧
      ¬ Simulation (gateway "smart" plainRow) ⟨"jwt",""⟩ (some lastDay) ∧
      ¬ Simulation (gateway "header_based" cachedRow) ⟨"jwt",""⟩ (some lastDay) := by
  refine ⟨?_,?_,?_⟩
  · intro h
    have hlive := h.live [(failingAt 1 "b",poolRequest ["sonnet","mini"])] (by simp [failingAt,gateway,atOnce])
    exact absurd hlive (by decide)
  · intro h
    have hlive := List.head_eq_of_cons_eq
      (h.live [(failingAt 1 "b",smartProbe "acme")] (by simp [failingAt,gateway,atOnce]))
    have hrouter : ((gateway "smart" plainRow).adminTrafficReplay ⟨"jwt",""⟩ (some lastDay)).2 =
        after (gateway "smart" plainRow).router "acme" [] [failingAt 0 "a"] := router_replay _ _ _
    rw [hrouter] at hlive
    exact select_failing_ne (gateway "smart" plainRow).router "acme" hlive
  · intro h
    have hrow := h.neutral _ _ rfl [] cachedRow (failingAt 0 "a") [] rfl ⟨_,_,_,rfl,rfl,rfl,rfl,rfl⟩
    exact absurd hrow (by decide +kernel)

end Concrete

end PrismGateway.Admin.TrafficReplay
