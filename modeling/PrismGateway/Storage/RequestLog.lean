import PrismGateway.Lib.Insert
import PrismGateway.Storage.Billing

namespace PrismGateway.Storage.RequestLogging

open Lib Sql
open Billing (Uuid)

/-- The `router_pre` and `pre_tenant_config` breakdowns; `none` is a stage that was not reached. -/
structure Breakdown where
  preDecodeMS : Option ℤ := none
  preAuthzMS : Option ℤ := none
  preTenantConfigMS : Option ℤ := none
  prePIIMS : Option ℤ := none
  preRateLimitMS : Option ℤ := none
  preModelFilterMS : Option ℤ := none
  preRoutingMS : Option ℤ := none
  preRequestBuildMS : Option ℤ := none
  cfgToolRoutesMS : Option ℤ := none
  cfgDynamicRoutesMS : Option ℤ := none
  cfgBudgetPressureMS : Option ℤ := none
  cfgSemanticMS : Option ℤ := none
  cfgModelResolutionMS : Option ℤ := none
  toolRoutesEmbeddingModelMS : Option ℤ := none
  toolRoutesEmbeddingGenerateMS : Option ℤ := none
  toolRoutesSemanticDBMS : Option ℤ := none
  toolRoutesMatchEvalMS : Option ℤ := none

structure ContextHeaders where
  customerID : Option String := none
  channel : Option String := none
  interactionType : Option String := none
  agentID : Option String := none
  department : Option String := none
  ticketID : Option String := none
  customerSegment : Option String := none
  language : Option String := none
  intent : Option String := none
  experimentID : Option String := none
  autonomyLevel : Option String := none
  policyID : Option String := none
  riskLevel : Option String := none
  revenueImpact : Option String := none
  currency : Option String := none

/-- One row of `request_log`; a field that a literal leaves out has Go's zero value. -/
structure RequestLog extends Breakdown, ContextHeaders where
  id : Uuid := Uuid.nil
  requestID : String := ""
  attempt : ℤ := 0
  timestamp : Option ℤ := none
  tenantID : String := ""
  model : String := ""
  provider : String := ""
  strategy : String := ""
  status : String := ""
  latencyMs : ℤ := 0
  error : String := ""
  fallbackUsed : Bool := false
  piiWebhookRequestDecision : Option String := none
  piiWebhookResponseDecision : Option String := none
  decisionReason : String := ""
  errorType : String := ""
  decisionSnapshot : Option String := none
  metadata : Option String := none
  routingSnapshot : Option String := none
  routerPreMS : Option ℤ := none
  llmLatencyMS : Option ℤ := none
  routerPostMS : Option ℤ := none
  apiKeyID : Option Uuid := none
  apiKeyName : Option String := none
  jwtSub : Option String := none
  cachedTokens : ℤ := 0
  toolCostUSD : Float := 0

inductive Value where
  | null
  | uuid (u : Uuid)
  | text (s : String)
  | int (n : ℤ)
  | bool (b : Bool)
  | float (x : Float)
  deriving DecidableEq

def nullable {α : Type} (value : α → Value) : Option α → Value
  | none => .null
  | some a => value a

def jsonbText : Option String → Value := nullable .text

def columns : List String :=
  ["id","request_id","attempt","tenant_id","model","provider","strategy","status","latency_ms",
   "error","fallback_used","pii_webhook_request_decision","pii_webhook_response_decision",
   "decision_reason","error_type","decision_snapshot","metadata","routing_snapshot","router_pre_ms",
   "llm_latency_ms","router_post_ms","pre_decode_ms","pre_authz_ms","pre_tenant_config_ms",
   "pre_pii_ms","pre_rate_limit_ms","pre_model_filter_ms","pre_routing_ms","pre_request_build_ms",
   "cfg_tool_routes_ms","cfg_dynamic_routes_ms","cfg_budget_pressure_ms","cfg_semantic_ms",
   "cfg_model_resolution_ms","tool_routes_embedding_model_ms","tool_routes_embedding_generate_ms",
   "tool_routes_semantic_db_ms","tool_routes_match_eval_ms","api_key_id","api_key_name","jwt_sub",
   "customer_id","channel","interaction_type","agent_id","department","ticket_id",
   "customer_segment","language","intent","experiment_id","autonomy_level","policy_id","risk_level",
   "revenue_impact","currency","cached_tokens","tool_cost_usd"]

namespace RequestLog

def arguments (rl : RequestLog) : List Value :=
  [.uuid rl.id,.text rl.requestID,.int rl.attempt,.text rl.tenantID,.text rl.model,
   .text rl.provider,.text rl.strategy,.text rl.status,.int rl.latencyMs,.text rl.error,
   .bool rl.fallbackUsed,nullable .text rl.piiWebhookRequestDecision,
   nullable .text rl.piiWebhookResponseDecision,.text rl.decisionReason,.text rl.errorType,
   jsonbText rl.decisionSnapshot,jsonbText rl.metadata,jsonbText rl.routingSnapshot,
   nullable .int rl.routerPreMS,nullable .int rl.llmLatencyMS,nullable .int rl.routerPostMS,
   nullable .int rl.preDecodeMS,nullable .int rl.preAuthzMS,nullable .int rl.preTenantConfigMS,
   nullable .int rl.prePIIMS,nullable .int rl.preRateLimitMS,nullable .int rl.preModelFilterMS,
   nullable .int rl.preRoutingMS,nullable .int rl.preRequestBuildMS,
   nullable .int rl.cfgToolRoutesMS,nullable .int rl.cfgDynamicRoutesMS,
   nullable .int rl.cfgBudgetPressureMS,nullable .int rl.cfgSemanticMS,
   nullable .int rl.cfgModelResolutionMS,nullable .int rl.toolRoutesEmbeddingModelMS,
   nullable .int rl.toolRoutesEmbeddingGenerateMS,nullable .int rl.toolRoutesSemanticDBMS,
   nullable .int rl.toolRoutesMatchEvalMS,nullable .uuid rl.apiKeyID,nullable .text rl.apiKeyName,
   nullable .text rl.jwtSub,nullable .text rl.customerID,nullable .text rl.channel,
   nullable .text rl.interactionType,nullable .text rl.agentID,nullable .text rl.department,
   nullable .text rl.ticketID,nullable .text rl.customerSegment,nullable .text rl.language,
   nullable .text rl.intent,nullable .text rl.experimentID,nullable .text rl.autonomyLevel,
   nullable .text rl.policyID,nullable .text rl.riskLevel,nullable .text rl.revenueImpact,
   nullable .text rl.currency,.int rl.cachedTokens,.float rl.toolCostUSD]

def row (rl : RequestLog) : Insert.Row Value := columns.zip rl.arguments

end RequestLog

def insertRequestLog : Insert := ⟨columns,numbered 59⟩

abbrev Table := List (Insert.Row Value)

def logRequest (statement : Insert) (rl : RequestLog) (table : Table) : Except InsertError Table :=
  statement.run "id" rl.arguments table

def requestLogFromPayload (now : ℤ) (tenantID requestID : String) (rl : RequestLog) : RequestLog :=
  { rl with
    timestamp := rl.timestamp.orElse (fun _ => some now)
    tenantID := if rl.tenantID = "" then tenantID else rl.tenantID
    requestID := if rl.requestID = "" then requestID else rl.requestID }

structure Origin where
  requestID : String
  requestStart : ℤ
  tenantID : String
  strategy : String
  apiKeyID : Option Uuid
  apiKeyName : Option String
  jwtSub : Option String
  ctxHeaders : ContextHeaders

structure Attempt where
  id : Uuid
  attempt : ℕ
  modelName : String
  provider : String
  latencyMs : ℤ
  decisionReason : String
  requestSnapshotJSON : Option String
  metadataJSON : Option String
  routerPreMS : ℤ

inductive Outcome where
  | routingError (o : Origin) (msg errType : String) (snapJSON : Option String)
  | hookBlock (o : Origin) (blockMsg : String) (hookSnapJSON : Option String)
  | streamFailed (o : Origin) (a : Attempt) (err errType : String)
  | attemptFailed (o : Origin) (a : Attempt) (err errType : String) (llmLatencyMS : ℤ)
    (piiRequestDecision : Option String) (breakdown : Breakdown)
  | answered (o : Origin) (a : Attempt) (clientRequestID : String) (fallbackUsed : Bool)
    (llmLatencyMS routerPostMS : ℤ)
    (piiRequestDecision piiResponseDecision routingSnapshotJSON : Option String)
    (breakdown : Breakdown) (cachedTokens : ℤ) (toolCostUSD : Float)
  | streamed (o : Origin) (a : Attempt) (status errStr : String)
  | cacheHit (o : Origin) (id : Uuid) (model cacheProv : String) (latencyMs : ℤ)
    (cacheHitMeta : Option String)

namespace Outcome

def requestLog : Outcome → RequestLog
  | routingError o msg errType snapJSON =>
    { requestID := o.requestID
      attempt := 1
      timestamp := some o.requestStart
      tenantID := o.tenantID
      strategy := o.strategy
      status := "error"
      error := msg
      errorType := errType
      decisionSnapshot := snapJSON
      apiKeyID := o.apiKeyID
      apiKeyName := o.apiKeyName
      jwtSub := o.jwtSub }
  | hookBlock o blockMsg hookSnapJSON =>
    { requestID := o.requestID
      attempt := 1
      timestamp := some o.requestStart
      tenantID := o.tenantID
      strategy := o.strategy
      status := "error"
      error := blockMsg
      errorType := "content_policy_violation"
      decisionSnapshot := hookSnapJSON
      piiWebhookRequestDecision := some "reject"
      apiKeyID := o.apiKeyID
      apiKeyName := o.apiKeyName
      jwtSub := o.jwtSub }
  | streamFailed o a err errType =>
    { toContextHeaders := o.ctxHeaders
      id := a.id
      requestID := o.requestID
      attempt := a.attempt + 1
      tenantID := o.tenantID
      model := a.modelName
      provider := a.provider
      strategy := o.strategy
      status := "error"
      latencyMs := a.latencyMs
      error := err
      fallbackUsed := decide (a.attempt > 0)
      decisionReason := a.decisionReason
      errorType := errType
      decisionSnapshot := a.requestSnapshotJSON
      metadata := a.metadataJSON
      routerPreMS := some a.routerPreMS
      apiKeyID := o.apiKeyID
      apiKeyName := o.apiKeyName
      jwtSub := o.jwtSub }
  | attemptFailed o a err errType llmLatencyMS piiRequestDecision breakdown =>
    { toBreakdown := breakdown
      toContextHeaders := o.ctxHeaders
      id := a.id
      requestID := o.requestID
      attempt := a.attempt + 1
      tenantID := o.tenantID
      model := a.modelName
      provider := a.provider
      strategy := o.strategy
      status := "error"
      latencyMs := a.latencyMs
      error := err
      fallbackUsed := decide (a.attempt > 0)
      piiWebhookRequestDecision := piiRequestDecision
      decisionReason := a.decisionReason
      errorType := errType
      decisionSnapshot := a.requestSnapshotJSON
      metadata := a.metadataJSON
      routerPreMS := some a.routerPreMS
      llmLatencyMS := some llmLatencyMS
      apiKeyID := o.apiKeyID
      apiKeyName := o.apiKeyName
      jwtSub := o.jwtSub }
  | answered o a clientRequestID fallbackUsed llmLatencyMS routerPostMS piiRequestDecision
      piiResponseDecision routingSnapshotJSON breakdown cachedTokens toolCostUSD =>
    { toBreakdown := breakdown
      toContextHeaders := o.ctxHeaders
      id := a.id
      requestID := clientRequestID
      attempt := a.attempt + 1
      tenantID := o.tenantID
      model := a.modelName
      provider := a.provider
      strategy := o.strategy
      status := "ok"
      latencyMs := a.latencyMs
      fallbackUsed := fallbackUsed
      piiWebhookRequestDecision := piiRequestDecision
      piiWebhookResponseDecision := piiResponseDecision
      decisionReason := a.decisionReason
      decisionSnapshot := a.requestSnapshotJSON
      metadata := a.metadataJSON
      routingSnapshot := routingSnapshotJSON
      routerPreMS := some a.routerPreMS
      llmLatencyMS := some llmLatencyMS
      routerPostMS := some routerPostMS
      apiKeyID := o.apiKeyID
      apiKeyName := o.apiKeyName
      jwtSub := o.jwtSub
      cachedTokens := cachedTokens
      toolCostUSD := toolCostUSD }
  | streamed o a status errStr =>
    { toContextHeaders := o.ctxHeaders
      id := a.id
      requestID := o.requestID
      attempt := a.attempt + 1
      tenantID := o.tenantID
      model := a.modelName
      provider := a.provider
      strategy := o.strategy
      status := status
      latencyMs := a.latencyMs
      error := errStr
      fallbackUsed := decide (a.attempt > 0)
      decisionReason := a.decisionReason
      decisionSnapshot := a.requestSnapshotJSON
      metadata := a.metadataJSON
      routerPreMS := some a.routerPreMS
      apiKeyID := o.apiKeyID
      apiKeyName := o.apiKeyName
      jwtSub := o.jwtSub }
  | cacheHit o id model cacheProv latencyMs cacheHitMeta =>
    { toContextHeaders := o.ctxHeaders
      id := id
      requestID := o.requestID
      attempt := 1
      tenantID := o.tenantID
      model := model
      provider := cacheProv
      strategy := "semantic_cache"
      status := "ok"
      latencyMs := latencyMs
      metadata := cacheHitMeta
      apiKeyID := o.apiKeyID
      apiKeyName := o.apiKeyName
      jwtSub := o.jwtSub }

def drawn : Outcome → Option Uuid
  | routingError .. => none
  | hookBlock .. => none
  | streamFailed _ a .. => some a.id
  | attemptFailed _ a .. => some a.id
  | answered _ a .. => some a.id
  | streamed _ a .. => some a.id
  | cacheHit _ id .. => some id

def passed (now : ℤ) : Outcome → RequestLog
  | routingError o msg errType snapJSON => (routingError o msg errType snapJSON).requestLog
  | hookBlock o blockMsg hookSnapJSON => (hookBlock o blockMsg hookSnapJSON).requestLog
  | outcome => requestLogFromPayload now outcome.requestLog.tenantID outcome.requestLog.requestID
      outcome.requestLog

end Outcome

structure Ended where
  outcome : Outcome
  now : ℤ

def Ended.passed (e : Ended) : RequestLog := e.outcome.passed e.now

def log (statement : Insert) (table : Table) (e : Ended) : Table :=
  match logRequest statement e.passed table with
  | .ok table => table
  | .error _ => table

def logAll (statement : Insert) (table : Table) (endings : List Ended) : Table :=
  endings.foldl (log statement) table

structure EveryOutcomeLogged (statement : Insert) (table : Table) (endings : List Ended) : Prop where
  binds : ∀ rl : RequestLog, rl.arguments.length = statement.columns.length ∧
    statement.placeholders.length = statement.columns.length
  logged : logAll statement table endings = table ++ endings.map (fun e => e.passed.row)
  apart : (endings.map (fun e => e.passed.id)).Nodup

theorem passed_id (e : Ended) : e.passed.id = e.outcome.drawn.getD Uuid.nil := by
  cases e with
  | mk outcome now => cases outcome <;> rfl

theorem arguments_length (rl : RequestLog) : rl.arguments.length = columns.length := rfl

theorem row_id (rl : RequestLog) : rl.row.lookup "id" = some (.uuid rl.id) := rfl

theorem log_rejected (table : Table) (e : Ended) : log insertRequestLog table e = table := by
  have hslip : insertRequestLog.columns.length < insertRequestLog.placeholders.length := by decide
  unfold log logRequest
  rw [Insert.run_moreExpressions hslip]

theorem logAll_cons (statement : Insert) (table : Table) (e : Ended) (endings : List Ended) :
    logAll statement table (e :: endings) =
      logAll statement (log statement table e) endings := rfl

theorem logAll_rejected (table : Table) (endings : List Ended) :
    logAll insertRequestLog table endings = table := by
  induction endings with
  | nil => rfl
  | cons e endings ih =>
    rw [logAll_cons,log_rejected]
    exact ih

theorem no_outcome_logged (table : Table) (endings : List Ended) :
    ¬EveryOutcomeLogged insertRequestLog table endings ∧
      logAll insertRequestLog table endings = table := by
  refine ⟨?_,logAll_rejected table endings⟩
  intro h
  have hbinds : insertRequestLog.placeholders.length = insertRequestLog.columns.length :=
    (h.binds {}).2
  exact absurd hbinds (by decide)

def blockedOrigin : Origin where
  requestID := "0f8fad5b-d9cb-469f-a165-70867728950e"
  requestStart := 1772923005
  tenantID := "acme"
  strategy := "weighted"
  apiKeyID := none
  apiKeyName := none
  jwtSub := none
  ctxHeaders := {}

def hookBlocked : Ended where
  outcome := .hookBlock blockedOrigin "request blocked by hook 'regex_block': denied pattern" none
  now := 1772923006

def modelRefused : Ended where
  outcome := .routingError blockedOrigin "model not allowed" "permission_error" none
  now := 1772923007

theorem hook_block_not_logged :
    logRequest insertRequestLog hookBlocked.passed [] = .error .moreExpressions ∧
      logAll insertRequestLog [] [hookBlocked] = [] ∧
      ¬EveryOutcomeLogged insertRequestLog [] [hookBlocked] := by
  refine ⟨Insert.run_moreExpressions (by decide),logAll_rejected _ _,?_⟩
  intro h
  have hrows : logAll insertRequestLog [] [hookBlocked] = [hookBlocked.passed.row] := h.logged
  rw [logAll_rejected] at hrows
  cases hrows

def mended : Insert := ⟨columns,numbered columns.length⟩

def taken (table : Table) (id : Uuid) : Bool := table.any (fun r => r.lookup "id" = some (.uuid id))

theorem log_mended (table : Table) (e : Ended) :
    log mended table e = if taken table e.passed.id then table else table ++ [e.passed.row] := by
  have hrun := @Insert.run_numbered _ _ _ "id" _ table (arguments_length e.passed)
  have hid : (columns.zip e.passed.arguments).lookup "id" = some (.uuid e.passed.id) :=
    row_id e.passed
  rw [hid] at hrun
  unfold log logRequest mended
  rw [hrun]
  unfold taken
  cases table.any (fun r => r.lookup "id" = some (.uuid e.passed.id)) with
  | true => rfl
  | false => rfl

theorem taken_append (table : Table) (rl : RequestLog) (id : Uuid) :
    taken (table ++ [rl.row]) id = (taken table id || rl.id = id) := by
  unfold taken
  rw [List.any_append,List.any_cons,List.any_nil,row_id]
  simp

theorem length_logAll_mended_le (table : Table) (endings : List Ended) :
    (logAll mended table endings).length ≤ table.length + endings.length := by
  induction endings generalizing table with
  | nil => exact le_rfl
  | cons e endings ih =>
    have hlog : (log mended table e).length ≤ table.length + 1 := by
      rw [log_mended]
      split
      · omega
      · simp
    calc (logAll mended table (e :: endings)).length
        = (logAll mended (log mended table e) endings).length := by rw [logAll_cons]
      _ ≤ (log mended table e).length + endings.length := ih (log mended table e)
      _ ≤ table.length + (e :: endings).length := by
        simp only [List.length_cons]
        omega

theorem logged_mended_iff (table : Table) (endings : List Ended) :
    logAll mended table endings = table ++ endings.map (fun e => e.passed.row) ↔
      (endings.map (fun e => e.passed.id)).Nodup ∧
        ∀ e ∈ endings, taken table e.passed.id = false := by
  induction endings generalizing table with
  | nil => simp [logAll]
  | cons e endings ih =>
    by_cases hfree : taken table e.passed.id = true
    · constructor
      · intro h
        have hle := length_logAll_mended_le table endings
        rw [logAll_cons,log_mended,if_pos hfree] at h
        rw [h] at hle
        simp only [List.length_append,List.length_map,List.length_cons] at hle
        omega
      · rintro ⟨-,h⟩
        rw [h e List.mem_cons_self] at hfree
        cases hfree
    · have hrest := ih (table ++ [e.passed.row])
      rw [List.append_assoc] at hrest
      have hcons : [e.passed.row] ++ endings.map (fun e => e.passed.row) =
          (e :: endings).map (fun e => e.passed.row) := rfl
      rw [logAll_cons,log_mended,if_neg hfree,← hcons,hrest]
      simp only [taken_append,List.map_cons,List.nodup_cons,List.mem_map,List.forall_mem_cons,
        Bool.or_eq_false_iff,decide_eq_false_iff_not]
      constructor
      · rintro ⟨hnodup,hnew⟩
        refine ⟨⟨?_,hnodup⟩,Bool.not_eq_true _ ▸ hfree,fun e' he' => (hnew e' he').1⟩
        rintro ⟨e',he',heq⟩
        exact (hnew e' he').2 heq.symm
      · rintro ⟨⟨hnot,hnodup⟩,-,hnew⟩
        exact ⟨hnodup,fun e' he' => ⟨hnew e' he',fun heq => hnot ⟨e',he',heq.symm⟩⟩⟩

theorem nodup_map_getD_iff {α β : Type} (f : α → Option β) (d : β) (l : List α)
    (hnodup : (l.filterMap f).Nodup) (hd : d ∉ l.filterMap f) :
    (l.map (fun a => (f a).getD d)).Nodup ↔ (l.filter (fun a => (f a).isNone)).length ≤ 1 := by
  induction l with
  | nil => simp
  | cons a l ih =>
    cases ha : f a with
    | none =>
      rw [List.filterMap_cons_none ha] at hnodup hd
      have hmem : d ∈ l.map (fun a => (f a).getD d) ↔ l.filter (fun a => (f a).isNone) ≠ [] := by
        rw [List.mem_map,Ne,List.filter_eq_nil_iff]
        push Not
        constructor
        · rintro ⟨b,hb,hbd⟩
          refine ⟨b,hb,?_⟩
          cases hfb : f b with
          | none => rfl
          | some c =>
            rw [hfb] at hbd
            exact absurd (List.mem_filterMap.mpr ⟨b,hb,hfb.trans (congrArg some hbd)⟩) hd
        · rintro ⟨b,hb,hbnone⟩
          exact ⟨b,hb,by rw [Option.isNone_iff_eq_none.mp hbnone]; rfl⟩
      rw [List.map_cons,List.nodup_cons,ha,Option.getD_none,hmem,ih hnodup hd,
        List.filter_cons_of_pos (by rw [ha]; rfl),List.length_cons,not_not,← List.length_eq_zero_iff]
      omega
    | some b =>
      rw [List.filterMap_cons_some ha,List.nodup_cons] at hnodup
      rw [List.filterMap_cons_some ha,List.mem_cons,not_or] at hd
      have hnot : b ∉ l.map (fun a => (f a).getD d) := by
        rw [List.mem_map]
        rintro ⟨c,hc,hcb⟩
        cases hfc : f c with
        | none => exact hd.1 (by rw [← hcb,hfc]; rfl)
        | some b' =>
          rw [hfc] at hcb
          exact hnodup.1 (List.mem_filterMap.mpr ⟨c,hc,hfc.trans (congrArg some hcb)⟩)
      rw [List.map_cons,List.nodup_cons,ha,Option.getD_some,ih hnodup.2 hd.2,
        List.filter_cons_of_neg (by rw [ha]; exact Bool.false_ne_true)]
      exact and_iff_right hnot

theorem apart_iff (endings : List Ended)
    (hnodup : (endings.filterMap (fun e => e.outcome.drawn)).Nodup)
    (hnil : Uuid.nil ∉ endings.filterMap (fun e => e.outcome.drawn)) :
    (endings.map (fun e => e.passed.id)).Nodup ↔
      (endings.filter (fun e => e.outcome.drawn.isNone)).length ≤ 1 := by
  simp only [passed_id]
  exact nodup_map_getD_iff (fun e => e.outcome.drawn) Uuid.nil endings hnodup hnil

example : ¬([hookBlocked,modelRefused].map (fun e => e.passed.id)).Nodup := by
  rw [apart_iff _ (by decide) (by decide)]
  decide

end PrismGateway.Storage.RequestLogging
