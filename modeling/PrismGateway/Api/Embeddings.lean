import PrismGateway.Lib.Header
import PrismGateway.Orchestrator.Run

namespace PrismGateway.Api

open Lib Config Router Orchestrator

structure EmbeddingAPIRequest where
  model : String := ""
  input : Option Json
  user : String := ""

def normalizeInput : Option Json → Except String (List String)
  | none => .error "input is required"
  | some raw => match (Schema.slice .str).decode raw [] with
    | some arr => .ok arr
    | none => match stringOf raw with
      | some s => .ok [s]
      | none => .error "input must be a string or array of strings"

def maxEmbeddingBatch : ℕ := 128

def embeddingInputs (req : EmbeddingAPIRequest) : Except String (List String) :=
  match normalizeInput req.input with
  | .error err => .error err
  | .ok inputs =>
    if inputs = [] then .error "input must not be empty"
    else if maxEmbeddingBatch < inputs.length then
      .error ("input batch size " ++ toString inputs.length ++ " exceeds maximum of " ++
        toString maxEmbeddingBatch)
    else .ok inputs

structure EmbeddingRequest where
  model : String
  input : List String
  user : String
  deriving DecidableEq

inductive EmbeddingAction where
  | allow (provider : String) (admission : Admission)
  | createEmbedding (provider : String) (req : EmbeddingRequest)
  | report (provider : String) (outcome : CircuitBreaker.Outcome) (isProbe : Bool)
  deriving DecidableEq

inductive EmbeddingResponse where
  | modelDisabled
  | upstreamError (err : GoError)
  | ok (modelName : String)
  | allFailed
  deriving DecidableEq

inductive EmbeddingRefusal where
  | precedence (err : PrecedenceError)
  | noEmbeddingModels
  | selection (err : SelectError)
  deriving DecidableEq

/-- What the handler consults besides the request; `gateway` is what the chat endpoints consult. -/
structure Server where
  gateway : Gateway
  embeddingProviderFor : String → Bool := fun _ => false
  -- the verdict of `checkBudget`
  budgetBlocked : Bool := false

namespace Server

variable (s : Server)

def embeddingHeaderModel (h : Header) : String :=
  h.get (orDefault s.gateway.tenant.selection.headerModelKey "X-Model")

def embeddingRouteGroup (h : Header) : String :=
  h.get (orDefault s.gateway.tenant.selection.headerRouteKey "X-Route-Group")

def embeddingResolution (h : Header) (req : EmbeddingAPIRequest) :
    Except PrecedenceError PrecedenceResult :=
  PrecedenceResolver.resolve ⟨s.gateway.tenant,s.gateway.globalConfig.models,.embedding⟩ req.model
    (s.embeddingHeaderModel h) (s.embeddingRouteGroup h)

def filterEmbeddingCandidates (candidates : List ModelConfig) : List ModelConfig :=
  candidates.filter (fun c => c.type = "embedding")

def embeddingRouteReq (h : Header) (r : PrecedenceResult) : Router.Request where
  tenantID := s.gateway.tenant.id
  strategy := s.gateway.tenant.routing.strategy
  candidates := filterEmbeddingCandidates r.candidates
  forcedModel := r.forcedModel
  routeGroup := s.embeddingRouteGroup h
  routeGroups := s.gateway.tenant.selection.routeGroups
  smartConfig := some s.gateway.tenant.routing.smart

def embeddingSelection (h : Header) (req : EmbeddingAPIRequest) :
    Except EmbeddingRefusal (List String) :=
  match s.embeddingResolution h req with
  | .error err => .error (.precedence err)
  | .ok r =>
    if filterEmbeddingCandidates r.candidates = [] then .error .noEmbeddingModels
    else match (s.gateway.router.select (s.embeddingRouteReq h r)).1 with
      | .error err => .error (.selection err)
      | .ok result => .ok result.candidates

def embeddingMaxAttempts (candidates : ℕ) : ℕ :=
  let fallback := s.gateway.tenant.routing.fallback
  if fallback.enabled ∧ 0 < fallback.maxAttempts then
    if fallback.maxAttempts < candidates then fallback.maxAttempts.toNat else candidates
  else if !fallback.enabled then 1
  else candidates

def embeddingAttempts (user : String) (inputs : List String) :
    ℕ → Option GoError → List String → List EmbeddingAction × EmbeddingResponse
  | _, lastErr, [] => ([],(lastErr.map .upstreamError).getD .allFailed)
  | i, lastErr, modelName :: rest =>
    match s.gateway.globalConfig.modelByName modelName with
    | none => embeddingAttempts user inputs (i + 1) lastErr rest
    | some m =>
      let admission := s.gateway.outcomes.allow i
      if !m.isEnabled then ([],.modelDisabled)
      else if !m.mock.enabled && !s.embeddingProviderFor m.provider then
        embeddingAttempts user inputs (i + 1) lastErr rest
      else if !admission.allowed then
        let t := embeddingAttempts user inputs (i + 1) lastErr rest
        (.allow m.provider admission :: t.1,t.2)
      else
        let calls := [.allow m.provider admission,.createEmbedding m.provider ⟨modelName,inputs,user⟩]
        match s.gateway.outcomes.reply i with
        | none => (calls ++ [.report m.provider .success admission.isProbe],.ok modelName)
        | some err =>
          let outcome := if isCBFailure (classify err) then .failure else .success
          let report := .report m.provider outcome admission.isProbe
          if !isRetryable (classify err) then (calls ++ [report],.upstreamError err)
          else
            let t := embeddingAttempts user inputs (i + 1) (some err) rest
            (calls ++ report :: t.1,t.2)

inductive EmbeddingCourse where
  | badRequest (err : String)
  | refused (err : EmbeddingRefusal)
  | budgetExceeded (candidates : List String)
  | attempted (candidates : List String) (actions : List EmbeddingAction) (response : EmbeddingResponse)
  deriving DecidableEq

def embeddings (h : Header) (req : EmbeddingAPIRequest) : EmbeddingCourse :=
  match embeddingInputs req with
  | .error err => .badRequest err
  | .ok inputs => match s.embeddingSelection h req with
    | .error err => .refused err
    | .ok candidates =>
      if 0 < s.gateway.tenant.budgets.monthlyUSD ∧ s.budgetBlocked then .budgetExceeded candidates
      else
        let t := s.embeddingAttempts req.user inputs 0 none
          (candidates.take (s.embeddingMaxAttempts candidates.length))
        .attempted candidates t.1 t.2

theorem embeddings_refused {h : Header} {req : EmbeddingAPIRequest} {inputs : List String}
    {err : EmbeddingRefusal} (hinputs : embeddingInputs req = .ok inputs)
    (hsel : s.embeddingSelection h req = .error err) : s.embeddings h req = .refused err := by
  unfold embeddings
  rw [hinputs,hsel]

end Server

end PrismGateway.Api
