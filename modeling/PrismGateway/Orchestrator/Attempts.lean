import PrismGateway.CircuitBreaker.Circuit
import PrismGateway.Config.Types
import PrismGateway.Router.ErrorClassifier

namespace PrismGateway.Orchestrator
open Lib Config Router

structure MessageContentBlock where
  type : String
  text : String := ""
  imageURL : Option String := none
  deriving DecidableEq, Repr

structure ChatMessage where
  role : String
  content : String := ""
  toolCalls : String := ""
  toolCallID : String := ""
  contentBlocks : List MessageContentBlock := []
  deriving DecidableEq, Repr

structure ChatRequest where
  model : String := ""
  messages : List ChatMessage := []
  maxTokens : Option Int := none
  temperature : Option Float := none
  topP : Option Float := none
  stream : Bool := false
  tools : String := ""
  toolChoice : String := ""
  providerModelID : String := ""
  useResponsesAPI : Bool := false
  deriving DecidableEq, Repr

structure Admission where
  allowed : Bool
  isProbe : Bool
  probe_allowed : isProbe = true → allowed = true
  deriving DecidableEq

namespace Admission

def denied : Admission := ⟨false,false,nofun⟩
def admitted (isProbe : Bool) : Admission := ⟨true,isProbe,fun _ => rfl⟩

end Admission

inductive Action where
  | allow (key : String) (admission : Admission)
  | send (modelName : String) (req : ChatRequest)
  | report (key : String) (outcome : CircuitBreaker.Outcome) (isProbe : Bool)
  deriving DecidableEq

inductive Response where
  | modelDisabled
  | providerModelIDRequired
  | streamingNotSupported
  | upstreamError (err : GoError)
  | streamed
  | completed
  | allProvidersFailed
  deriving DecidableEq

structure Env where
  tenantID : String
  maxOutputTokens : Option Int
  fallback : FallbackConfig
  stream : Bool
  globalConfig : GlobalConfig
  yamlProviders : String → Option ProviderConfig
  chatProviderFor : ModelConfig → Bool
  provReq : ChatRequest

structure Outcomes where
  allow : ℕ → Admission
  reply : ℕ → Option GoError

structure LoopState where
  provReq : ChatRequest
  lastErr : Option GoError := none

structure Attempt where
  state : LoopState
  actions : List Action
  exit : Option Response

namespace Env

def resolveProviderConfig (env : Env) (name : String) : Option ProviderConfig :=
  match env.globalConfig.providers.bind (· name) with
  | some pc => some pc
  | none => env.yamlProviders name

def hasProvider (env : Env) (m : ModelConfig) : Bool :=
  m.mock.enabled || ((env.resolveProviderConfig m.provider).isSome && env.chatProviderFor m)

def cap (env : Env) : Int :=
  effectiveMaxOutputTokens env.maxOutputTokens

def capped (env : Env) (m : ModelConfig) : Bool :=
  decide (0 < env.cap) && (m.type = "" || m.type = "llm")

end Env

def ownModelID (m : ModelConfig) : Option String :=
  if GoStrings.trimSpace m.providerModelID = "" then none
  else some (GoStrings.trimSpace m.providerModelID)

namespace Env

def prepare (env : Env) (m : ModelConfig) (r : ChatRequest) : ChatRequest :=
  { r with
    model := m.name
    providerModelID := (ownModelID m).getD r.providerModelID
    maxTokens := if env.capped m then some env.cap else r.maxTokens }

def bedrockWithoutID (env : Env) (m : ModelConfig) : Bool :=
  (env.resolveProviderConfig m.provider).any (·.type = "aws_bedrock") && (ownModelID m).isNone

def cbKey (env : Env) (m : ModelConfig) : String :=
  m.provider ++ ":" ++ env.tenantID

end Env

def mockStreamError : GoError :=
  { upstreamStatus := some 400
    message := "upstream returned status 400: \x7b\"error\":\x7b\"type\":\"streaming_not_supported_for_mock\",\"message\":\"Streaming is not supported for mock providers\"\x7d\x7d" }

def streamError (m : ModelConfig) (reply : Option GoError) : Option GoError :=
  if m.mock.enabled then some mockStreamError else reply

def failed (err : GoError) (s : LoopState) (actions : List Action) : Attempt :=
  if isRetryable (classify err) then ⟨{ s with lastErr := some err },actions,none⟩
  else ⟨s,actions,some (.upstreamError err)⟩

def streamCall (key : String) (isProbe : Bool) (s : LoopState) : Option GoError → Attempt
  | none => ⟨s,[.report key .success isProbe],some .streamed⟩
  | some err =>
    if err.streamingNotSupported then ⟨s,[],some .streamingNotSupported⟩
    else if isCBFailure (classify err) then failed err s [.report key .failure isProbe]
    else failed err s []

def bufferedCall (key : String) (isProbe : Bool) (s : LoopState) : Option GoError → Attempt
  | none => ⟨s,[.report key .success isProbe],some .completed⟩
  | some err =>
    failed err s [.report key (if isCBFailure (classify err) then .failure else .success) isProbe]

namespace Env

def call (env : Env) (o : Outcomes) (i : ℕ) (m : ModelConfig) (s : LoopState) : Attempt :=
  if env.stream then
    streamCall (env.cbKey m) (o.allow i).isProbe s (streamError m (o.reply i))
  else bufferedCall (env.cbKey m) (o.allow i).isProbe s (o.reply i)

def attempt (env : Env) (o : Outcomes) (i : ℕ) (modelName : String) (s : LoopState) : Attempt :=
  match env.globalConfig.modelByName modelName with
  | none => ⟨s,[],none⟩
  | some m =>
    if !m.isEnabled then ⟨s,[],some .modelDisabled⟩
    else if !env.hasProvider m then ⟨s,[],none⟩
    else
      let s := { s with provReq := env.prepare m s.provReq }
      if env.bedrockWithoutID m then ⟨s,[],some .providerModelIDRequired⟩
      else if !(o.allow i).allowed then ⟨s,[.allow (env.cbKey m) (o.allow i)],none⟩
      else
        let a := env.call o i m s
        { a with
          actions := .allow (env.cbKey m) (o.allow i) :: .send modelName s.provReq :: a.actions }

def attempts (env : Env) (o : Outcomes) : ℕ → LoopState → List String → List Action × Response
  | _, s, [] => ([],(s.lastErr.map .upstreamError).getD .allProvidersFailed)
  | i, s, modelName :: rest =>
    let a := env.attempt o i modelName s
    match a.exit with
    | some response => (a.actions,response)
    | none =>
      let t := env.attempts o (i + 1) a.state rest
      (a.actions ++ t.1,t.2)

def maxAttempts (env : Env) (candidates : ℕ) : ℕ :=
  if env.fallback.enabled && decide (0 < env.fallback.maxAttempts) then
    if env.fallback.maxAttempts < candidates then env.fallback.maxAttempts.toNat else candidates
  else if !env.fallback.enabled then 1
  else candidates

def tried (env : Env) (candidates : List String) : List String :=
  candidates.take (env.maxAttempts candidates.length)

def run (env : Env) (o : Outcomes) (candidates : List String) : List Action × Response :=
  env.attempts o 0 ⟨env.provReq,none⟩ (env.tried candidates)

end Env

namespace Env

def usable (env : Env) (modelName : String) : Option ModelConfig :=
  (env.globalConfig.modelByName modelName).filter (fun m => m.isEnabled && env.hasProvider m)

def sendable (env : Env) (modelName : String) : Option ModelConfig :=
  (env.usable modelName).filter (fun m => !env.bedrockWithoutID m)

def stops (env : Env) (modelName : String) : Bool :=
  (env.globalConfig.modelByName modelName).any (fun m => !m.isEnabled) ||
    (env.usable modelName).any env.bedrockWithoutID

def replyTo (env : Env) (o : Outcomes) (i : ℕ) (m : ModelConfig) : Option GoError :=
  if env.stream then streamError m (o.reply i) else o.reply i

def retries (env : Env) (err : GoError) : Bool :=
  !(env.stream && err.streamingNotSupported) && isRetryable (classify err)

theorem usable_eq_some {env : Env} {n : String} {m : ModelConfig} :
    env.usable n = some m ↔
      env.globalConfig.modelByName n = some m ∧ m.isEnabled = true ∧ env.hasProvider m = true := by
  simp [usable,Option.filter_eq_some_iff]

theorem sendable_eq_some {env : Env} {n : String} {m : ModelConfig} :
    env.sendable n = some m ↔ env.usable n = some m ∧ env.bedrockWithoutID m = false := by
  simp [sendable,Option.filter_eq_some_iff]

def prepared (env : Env) (modelName : String) (r : ChatRequest) : ChatRequest :=
  match env.usable modelName with
  | none => r
  | some m => env.prepare m r

theorem attempt_unsendable {env : Env} {o : Outcomes} {i : ℕ} {n : String} {s : LoopState}
    (h : env.sendable n = none) :
    (env.attempt o i n s).actions = [] ∧
    ((env.attempt o i n s).exit = none →
      (env.attempt o i n s).state.provReq = env.prepared n s.provReq) ∧
    ((env.attempt o i n s).exit = none ↔ env.stops n = false) := by
  unfold sendable usable at h
  unfold attempt prepared stops usable
  cases hm : env.globalConfig.modelByName n with
  | none => simp
  | some m =>
    rw [hm] at h
    by_cases he : m.isEnabled = true
    · by_cases hp : env.hasProvider m = true
      · have hb : env.bedrockWithoutID m = true := by
          simpa [Option.filter,he,hp] using h
        simp [Option.filter,he,hp,hb]
      · simp [Option.filter,he,hp]
    · simp [Option.filter,he]

theorem attempt_denied {env : Env} {o : Outcomes} {i : ℕ} {n : String} {s : LoopState}
    {m : ModelConfig} (h : env.sendable n = some m) (ha : (o.allow i).allowed = false) :
    env.attempt o i n s = ⟨{ s with provReq := env.prepare m s.provReq },
      [.allow (env.cbKey m) (o.allow i)],none⟩ := by
  obtain ⟨hu,hb⟩ := sendable_eq_some.mp h
  obtain ⟨hm,he,hp⟩ := usable_eq_some.mp hu
  simp [attempt,hm,he,hp,hb,ha]

theorem attempt_admitted {env : Env} {o : Outcomes} {i : ℕ} {n : String} {s : LoopState}
    {m : ModelConfig} (h : env.sendable n = some m) (ha : (o.allow i).allowed = true) :
    env.attempt o i n s =
      let a := env.call o i m { s with provReq := env.prepare m s.provReq }
      { a with
        actions := .allow (env.cbKey m) (o.allow i) ::
          .send n (env.prepare m s.provReq) :: a.actions } := by
  obtain ⟨hu,hb⟩ := sendable_eq_some.mp h
  obtain ⟨hm,he,hp⟩ := usable_eq_some.mp hu
  simp [attempt,hm,he,hp,hb,ha]

theorem stops_of_sendable {env : Env} {n : String} {m : ModelConfig}
    (h : env.sendable n = some m) : env.stops n = false := by
  obtain ⟨hu,hb⟩ := sendable_eq_some.mp h
  obtain ⟨hm,he,hp⟩ := usable_eq_some.mp hu
  simp [stops,hm,hu,he,hb]

theorem prepared_of_sendable {env : Env} {n : String} {m : ModelConfig}
    (h : env.sendable n = some m) (r : ChatRequest) : env.prepared n r = env.prepare m r := by
  simp [prepared,(sendable_eq_some.mp h).1]

@[simp] theorem failed_actions (err : GoError) (s : LoopState) (actions : List Action) :
    (failed err s actions).actions = actions := by
  unfold failed
  split <;> rfl

@[simp] theorem failed_provReq (err : GoError) (s : LoopState) (actions : List Action) :
    (failed err s actions).state.provReq = s.provReq := by
  unfold failed
  split <;> rfl

@[simp] theorem failed_exit (err : GoError) (s : LoopState) (actions : List Action) :
    (failed err s actions).exit = none ↔ isRetryable (classify err) = true := by
  unfold failed
  split <;> simp_all

theorem call_provReq (env : Env) (o : Outcomes) (i : ℕ) (m : ModelConfig) (s : LoopState) :
    (env.call o i m s).state.provReq = s.provReq := by
  unfold call
  split
  · cases streamError m (o.reply i) with
    | none => rfl
    | some err =>
      simp only [streamCall]
      split_ifs <;> simp
  · cases o.reply i with
    | none => rfl
    | some err => simp [bufferedCall]

theorem send_not_mem_call (env : Env) (o : Outcomes) (i : ℕ) (m : ModelConfig) (s : LoopState)
    (n : String) (req : ChatRequest) : .send n req ∉ (env.call o i m s).actions := by
  unfold call
  split
  · cases streamError m (o.reply i) with
    | none => simp [streamCall]
    | some err =>
      simp only [streamCall]
      split_ifs <;> simp
  · cases o.reply i with
    | none => simp [bufferedCall]
    | some err => simp [bufferedCall]

theorem call_exit (env : Env) (o : Outcomes) (i : ℕ) (m : ModelConfig) (s : LoopState) :
    (env.call o i m s).exit = none ↔ (env.replyTo o i m).any env.retries = true := by
  unfold call replyTo
  cases hs : env.stream with
  | true =>
    simp only [if_true]
    cases streamError m (o.reply i) with
    | none => simp [streamCall]
    | some err =>
      simp only [streamCall,Option.any_some,retries,hs]
      split_ifs <;> simp_all
  | false =>
    simp only [Bool.false_eq_true,if_false]
    cases o.reply i with
    | none => simp [bufferedCall]
    | some err => simp [bufferedCall,retries,hs]

end Env

end PrismGateway.Orchestrator
