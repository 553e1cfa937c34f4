import PrismGateway.Api.StreamErrors
import PrismGateway.Lib.Program
import PrismGateway.Orchestrator.Completeness
import PrismGateway.Orchestrator.StreamCost

namespace PrismGateway.Orchestrator

open Lib Config Router Providers
open Api (ParsedRequest)

structure StreamRun where
  events : List StreamEvent := []
  ctxDone : Bool := false

inductive StreamOutcome where
  | completed (reported : Bool)
  | failed (err : String)
  | ctxDone
  deriving DecidableEq

def streamOutcome (ctxDone : Bool) : List StreamEvent → StreamOutcome
  | [] => if ctxDone then .ctxDone else .completed false
  | .error err :: _ => .failed err
  | .done _ usage :: _ => .completed usage.isSome
  | .delta _ _ _ :: rest => streamOutcome ctxDone rest

def streamOutput (out : String) : List StreamEvent → String
  | .delta content _ _ :: rest =>
    streamOutput (if out.utf8ByteSize < 4 * 1024 then out ++ content else out) rest
  | _ => out

namespace StreamRun

def outcome (run : StreamRun) : StreamOutcome := streamOutcome run.ctxDone run.events

def completed (run : StreamRun) : Bool :=
  match run.outcome with
  | .completed _ => true
  | _ => false

end StreamRun

def streamingInputText (messages : List ChatMessage) : String :=
  concatText (messages.flatMap (fun m =>
    (if m.content = "" then [] else [m.content ++ "\n"]) ++
      m.contentBlocks.filterMap (fun block =>
        if block.type = "text" ∧ block.text ≠ "" then some (block.text ++ "\n") else none)))

structure ChatUsage where
  model : String
  provider : String
  promptTokens : ℤ
  completionTokens : ℤ
  totalTokens : ℤ
  costUSD : ℚ

structure ModelStat where
  model : String
  successCount : ℕ
  errorCount : ℕ
  avgLatencyMs : ℕ
  totalCostUSD : ℚ

inductive Answer where
  | error (status : ℕ) (message kind : String)
  | precedence (err : PrecedenceError)
  | selection (err : SelectError)
  | upstreamError (err : GoError)
  | toolRoute (found : ToolRouteMatch)
  | cached (model : String) (response : ChatBody)
  | stream (run : StreamRun)

inductive Effect where
  | mlRequest
  | event (e : Event)
  | replied (err : Option GoError)
  | answer (a : Answer)
  | reserve (id : ℕ)
  | saveUsage (row : ChatUsage)
  | releaseReservation (id : ℕ)
  | saveEmbeddingUsage (row : ChatUsage)
  | recordLatency (model : String) (latencyMs : ℕ)
  | updateModelStats (model : String) (success : Bool)
  | submitStat (stat : ModelStat)

structure Output where
  response : Option CanonicalResponse := none
  failed : Bool := false

/-- What the run meets besides its `Gateway`: the answers, streams and latencies of the attempts, the
reservation of its budget check, the prices, and what the deferred flush of the embedding accumulator
bills. -/
structure Setting where
  resp : ℕ → ChatResponse
  usage : ℕ → Cost.Usage
  stream : ℕ → StreamRun := fun _ => {}
  latencyMs : ℕ → ℕ := fun _ => 0
  reservation : Option ℕ := none
  pricing : ModelConfig → Cost.Pricing := fun _ => {}
  toolPricing : List Cost.ToolPricingEntry := []
  -- the parsed `X-Debug-Latency-Ms` of an admin
  debugLatencyMs : Option ℕ := none
  embeddingUsage : Option ChatUsage := none

open Prog

abbrev Step (α : Type) : Type := Prog Effect Output α

def fail {α : Type} (status : ℕ) (message kind : String) : Step α := do
  emit (.answer (.error status message kind))
  ret { failed := true }

def giveUp {α : Type} (err : GoError) : Step α := do
  emit (.answer (.upstreamError err))
  ret { failed := true }

def chatUsage (m : ModelConfig) (usage : Cost.Usage) (costUSD : ℚ) : ChatUsage :=
  ⟨m.name,m.provider,usage.promptTokens,usage.completionTokens,usage.totalTokens,costUSD⟩

namespace Setting

variable (s : Setting)

def cost (m : ModelConfig) (usage : Cost.Usage) : ℚ :=
  Cost.computeCost (s.pricing m) usage s.toolPricing

def releases : List Effect := s.reservation.toList.map .releaseReservation

def reported (i : ℕ) : Option Cost.Usage :=
  match (s.stream i).outcome with
  | .completed true => some (s.usage i)
  | _ => none

def logStreamRequest (i : ℕ) (m : ModelConfig) (req : ChatRequest) : Effect :=
  let usage := Cost.streamUsage (Cost.estimateStreamingTokens (streamingInputText req.messages))
    (streamOutput "" (s.stream i).events) (s.reported i)
  .saveUsage (chatUsage m usage (s.cost m usage))

def writeSSEStream (i : ℕ) (m : ModelConfig) (req : ChatRequest) : Step Unit := do
  emit (.answer (.stream (s.stream i)))
  emit (s.logStreamRequest i m req)
  emits (if (s.stream i).completed then s.releases else [])

end Setting

def called (a : Action) : Effect := .event (.call a)

namespace Gateway

variable (g : Gateway) (s : Setting) (pr : ParsedRequest)

def streamedAttempt (i : ℕ) (m : ModelConfig) (key : String) (isProbe : Bool) (st : LoopState) :
    Option GoError → Step LoopState
  | some err =>
    if err.streamingNotSupported then
      fail 400 "streaming not supported for selected provider" "invalid_request_error"
    else do
      emits (if isCBFailure (classify err) then [called (.report key .failure isProbe)] else [])
      if isRetryable (classify err) then pure { st with lastErr := some err } else giveUp err
  | none => do
    s.writeSSEStream i m st.provReq
    emit (called (.report key .success isProbe))
    ret {}

def canonicalResponse (virtualAlias : Option String) (routeGroup : String) (m : ModelConfig)
    (resp : ChatResponse) : CanonicalResponse where
  id := resp.id
  object := resp.object
  created := resp.created
  model := (virtualAlias.filter g.exposeAliasInResponse).getD resp.model
  usage := resp.usage
  choices := resp.choices
  rawPassthroughBody := resp.rawBody
  selectedModel := m.name
  provider := m.provider
  routeGroup := routeGroup

def bufferedAttempt (virtualAlias : Option String) (routeGroup : String) (i : ℕ) (m : ModelConfig)
    (key : String) (isProbe : Bool) (st : LoopState) : Option GoError → Step LoopState
  | some err => do
    emit (called (.report key (if isCBFailure (classify err) then .failure else .success) isProbe))
    emit (.updateModelStats m.name false)
    emit (.submitStat ⟨m.name,0,1,s.latencyMs i,0⟩)
    if isRetryable (classify err) then pure { st with lastErr := some err } else giveUp err
  | none => do
    let costUSD := s.cost m (s.usage i)
    emit (.recordLatency m.name (s.latencyMs i))
    emit (called (.report key .success isProbe))
    emit (.updateModelStats m.name true)
    emit (.submitStat ⟨m.name,1,0,s.latencyMs i,costUSD⟩)
    emit (.saveUsage (chatUsage m (s.usage i) costUSD))
    emits s.releases
    let resp := g.postResponse st.provReq (s.resp i)
    ret { response := some (g.canonicalResponse virtualAlias routeGroup m resp) }

def callCandidate (env : Env) (virtualAlias : Option String) (routeGroup : String) (i : ℕ)
    (m : ModelConfig) (st : LoopState) : Step LoopState :=
  if env.stream then
    streamedAttempt s i m (env.cbKey m) (g.outcomes.allow i).isProbe st (env.replyTo g.outcomes i m)
  else
    g.bufferedAttempt s virtualAlias routeGroup i m (env.cbKey m) (g.outcomes.allow i).isProbe st
      (env.replyTo g.outcomes i m)

def tryCandidate (env : Env) (virtualAlias : Option String) (routeGroup : String) (i : ℕ)
    (modelName : String) (st : LoopState) : Step LoopState :=
  match env.globalConfig.modelByName modelName with
  | none => pure st
  | some m =>
    if !m.isEnabled then fail 403 "model is disabled" "model_disabled"
    else if !env.hasProvider m then pure st
    else
      let st := { st with provReq := env.prepare m st.provReq }
      if env.bedrockWithoutID m then
        fail 400 "provider_model_id is required for models using the aws_bedrock provider"
          "invalid_request_error"
      else do
        emit (called (.allow (env.cbKey m) (g.outcomes.allow i)))
        if !(g.outcomes.allow i).allowed then pure st
        else do
          emit (called (.send modelName st.provReq))
          emit (.replied (env.replyTo g.outcomes i m))
          g.callCandidate s env virtualAlias routeGroup i m st

def tryCandidates (env : Env) (virtualAlias : Option String) (routeGroup : String) :
    ℕ → LoopState → List String → Step LoopState
  | _, st, [] => pure st
  | i, st, modelName :: rest => do
    let st ← g.tryCandidate s env virtualAlias routeGroup i modelName st
    tryCandidates env virtualAlias routeGroup (i + 1) st rest

def attemptSteps (virtualAlias : Option String) (routeGroup : String) (req : ChatRequest)
    (candidates : List String) : Step Empty := do
  let env := g.env pr req
  let st ← g.tryCandidates s env virtualAlias routeGroup 0 ⟨req,none⟩ (env.tried candidates)
  match st.lastErr with
  | some err => giveUp err
  | none => fail 502 "all upstream providers failed" "upstream_error"

def cacheSteps (virtualAlias : Option String) (routeGroup : String) (req : ChatRequest)
    (candidates : List String) : Step Empty :=
  match g.semanticCache with
  | none => g.attemptSteps s pr virtualAlias routeGroup req candidates
  | some find => do
    let cacheText := " ".intercalate pr.messageTexts
    emit (.event (.cacheLookup cacheText))
    match find cacheText (candidates.head?.getD "") routeGroup with
    | none => g.attemptSteps s pr virtualAlias routeGroup req candidates
    | some entry => match entry.response with
      | some response => do
        emit (.answer (.cached entry.model response))
        ret {}
      | none => do
        emit (.answer (.error 500 "cache error" "internal_error"))
        ret {}

def budgetSteps (virtualAlias : Option String) (routeGroup : String) (req : ChatRequest)
    (candidates : List String) : Step Empty := do
  emits (s.reservation.toList.map .reserve)
  match g.budget pr.metadata with
  | .proceed => g.cacheSteps s pr virtualAlias routeGroup req candidates
  | .degrade group =>
    g.cacheSteps s pr virtualAlias routeGroup req
      (if group = "" then candidates else g.degraded group candidates)
  | .blocked status message => fail status message "budget_exceeded"

def hookSteps : List Hook → ChatRequest → List String → Step (ChatRequest × List String)
  | [], req, candidates => pure (req,candidates)
  | hook :: rest, req, candidates => do
    emit (.event (.hook hook.name req))
    match hook.preRequest req with
    | .error _ => fail 500 "internal hook error" "internal_error"
    | .ok result => match result.decision with
      | .block =>
        fail (if result.statusCode = 0 then 400 else result.statusCode)
          ("request blocked by hook '" ++ hook.name ++ "': " ++ result.reason)
          "content_policy_violation"
      | .redact => hookSteps rest { req with messages := result.messages } candidates
      | .warn => hookSteps rest req candidates
      | .allow => hookSteps rest req candidates
      | .allowPII => match g.allowPIIModel with
        | none =>
          fail 400 ("request blocked by hook '" ++ hook.name ++ "': allow_pii triggered but not configured")
            "content_policy_violation"
        | some model =>
          if (g.globalConfig.modelByName model).isNone then
            fail 400 ("request blocked by hook '" ++ hook.name ++ "': allow_pii model not found: " ++ model)
              "content_policy_violation"
          else hookSteps rest req [model]

def selectSteps (r : PrecedenceResult) : Step Empty := do
  let routeReq := g.routed pr r
  emit (.event (.select routeReq))
  match (g.router.select routeReq).1 with
  | .error err => do
    emit (.answer (.selection err))
    ret { failed := true }
  | .ok result => do
    emits (s.debugLatencyMs.toList.map (.recordLatency result.selected))
    let (req,candidates) ← g.hookSteps g.hooks (provReq pr) result.candidates
    g.budgetSteps s pr (g.aliasUsed pr) r.routeGroupUsed req candidates

def toolSteps (r : PrecedenceResult) : Step Empty :=
  if g.toolRoutingEnabled then do
    emit (.event (.toolRoutes pr.messageTexts))
    match g.checkToolRoutes pr.messageTexts with
    | some found => do
      emit (.answer (.toolRoute found))
      ret {}
    | none => g.selectSteps s pr r
  else g.selectSteps s pr r

def steps : Step Empty :=
  if pr.rawBody.isSome ∧ pr.headers "X-Model-Type" = "ml" then do
    emit .mlRequest
    ret {}
  else if pr.messages.isEmpty then
    fail 400 "messages is required and must not be empty" "invalid_request_error"
  else match validateMetadata pr.metadata with
    | .error err => fail 400 err.message "invalid_request_error"
    | .ok () => match resolution g.tenant g.globalConfig (g.routeInput pr) with
      | .error err => do
        emit (.answer (.precedence err))
        ret { failed := true }
      | .ok r => deferring (s.embeddingUsage.toList.map .saveEmbeddingUsage) (g.toolSteps s pr r)

end Gateway

def quietSetting : Setting where
  resp := fun _ => ⟨"chatcmpl-1","chat.completion",1700000000,"mini",[],{},none⟩
  usage := fun _ => ⟨12,3,15,0,[],0,0,""⟩

end PrismGateway.Orchestrator
