import PrismGateway.Api.Requests
import PrismGateway.Orchestrator.Routing
import PrismGateway.Providers.Replies

namespace PrismGateway.Orchestrator

open Lib Config Router Providers
open Api (Call ParsedRequest toProviderMessages)

inductive Decision where
  | allow
  | block
  | redact
  | warn
  | allowPII
  deriving DecidableEq, Repr

structure PreResult where
  decision : Decision
  -- every hook returns the request it was given with other messages at most
  messages : List ChatMessage
  reason : String := ""
  statusCode : ℕ := 0

structure Hook where
  name : String
  preRequest : ChatRequest → Except String PreResult
  -- and the response with other choices at most
  postResponse : ChatRequest → ChatResponse → Except String (Option (List ChatChoice))

structure ToolRouteMatch where
  name : String
  action : String
  similarity : Float

structure CacheEntry where
  model : String
  -- what json.Unmarshal makes of the stored response
  response : Option ChatBody

inductive BudgetVerdict where
  | proceed
  | degrade (group : String)
  | blocked (status : ℕ) (message : String)

structure CanonicalResponse where
  id : String
  object : String
  created : Int
  model : String
  usage : Usage
  choices : List ChatChoice
  rawPassthroughBody : Option Body
  selectedModel : String
  provider : String
  routeGroup : String
  deriving DecidableEq, Repr

structure Gateway where
  tenant : TenantConfig
  globalConfig : GlobalConfig
  yamlProviders : String → Option ProviderConfig
  chatProviderFor : ModelConfig → Bool
  adminToken : Bool := false
  intn : Int → Int := fun _ => 0
  router : Router
  budgetPressure : Float := 0
  semanticDeps : List String → List String → Option SemanticDeps := fun _ _ => none
  toolRoutingEnabled : Bool := false
  checkToolRoutes : List String → Option ToolRouteMatch := fun _ => none
  hooks : List Hook := []
  allowPIIModel : Option String := none
  exposeAliasInResponse : String → Bool := fun _ => false
  budget : Option Json.Entries → BudgetVerdict := fun _ => .proceed
  -- the nearest cached answer for a text, a model and a route group
  semanticCache : Option (String → String → String → Option CacheEntry) := none
  outcomes : Outcomes
  upstream : Upstream
  -- the first eight characters of `uuid.New()`
  uuid : String := ""
  -- the text `fmt.Sprintf` makes of a match
  toolRouteText : ToolRouteMatch → String := fun found => found.action

structure Served where
  virtualAlias : Option String
  routeGroup : String
  model : ModelConfig
  family : Family
  request : ChatRequest

inductive Event where
  | toolRoutes (texts : List String)
  | select (req : Router.Request)
  | hook (name : String) (req : ChatRequest)
  | cacheLookup (text : String)
  | call (action : Action)

inductive Ending where
  | ml
  | failed (status : ℕ) (message kind : String)
  | precedence (err : PrecedenceError)
  | selection (err : SelectError)
  | toolRoute (found : ToolRouteMatch)
  | cacheHit (model : String) (response : ChatBody)
  | attempted (response : Response)
  | answered (served : Served)

structure Trace where
  events : List Event
  ending : Ending

inductive MetadataError where
  | tooManyKeys
  | keyTooLong (key : String)
  | notString (key : String)
  | valueTooLong (key : String)
  | tooLarge
  deriving DecidableEq, Repr

def MetadataError.message : MetadataError → String
  | .tooManyKeys => "metadata: too many keys (max 20)"
  | .keyTooLong key => "metadata: key \"" ++ key ++ "\" exceeds 64 chars"
  | .notString key => "metadata: value for key \"" ++ key ++ "\" must be a string"
  | .valueTooLong key => "metadata: value for key \"" ++ key ++ "\" exceeds 256 chars"
  | .tooLarge => "metadata: serialized size exceeds 4KB"

def escapedLength (c : Char) : ℕ :=
  if c = '"' ∨ c = '\\' ∨ c = '\n' ∨ c = '\r' ∨ c = '\t' ∨ c = '\x08' ∨ c = '\x0c' then 2
  else if c.toNat < 32 ∨ c = '<' ∨ c = '>' ∨ c = '&' ∨ c = '\u2028' ∨ c = '\u2029' then 6
  else (String.utf8EncodeChar c).length

def marshalledLength (s : String) : ℕ := 2 + (s.toList.map escapedLength).sum

def checkEntry : String × Json → Except MetadataError ℕ
  | (key,value) =>
    if 64 < key.utf8ByteSize then .error (.keyTooLong key)
    else match value with
      | .str s =>
        if 256 < s.utf8ByteSize then .error (.valueTooLong key)
        else .ok (marshalledLength key + 1 + marshalledLength s)
      | _ => .error (.notString key)

def validateMetadata : Option Json.Entries → Except MetadataError Unit
  | none => .ok ()
  | some entries =>
    if 20 < entries.length then .error .tooManyKeys
    else match entries.mapM checkEntry with
      | .error err => .error err
      | .ok sizes => if 4096 < sizes.sum + (sizes.length - 1) + 2 then .error .tooLarge else .ok ()

namespace Gateway

section Stages

variable (g : Gateway) (pr : ParsedRequest)

def routeInput : RouteInput where
  bodyModel := pr.bodyModel
  headers := pr.headers
  adminToken := g.adminToken
  messages := pr.messageTexts
  maxTokens := pr.maxTokens
  budgetPressure := g.budgetPressure
  semanticDeps := g.semanticDeps pr.messageTexts pr.messageImageURLs
  intn := g.intn

def provReq : ChatRequest where
  messages := toProviderMessages pr.messages
  maxTokens := pr.maxTokens
  temperature := pr.temperature
  topP := pr.topP
  tools := pr.tools
  toolChoice := pr.toolChoice
  useResponsesAPI := pr.apiStyle = .openAIResponses

def env (req : ChatRequest) : Env where
  tenantID := g.tenant.id
  maxOutputTokens := g.tenant.maxOutputTokens
  fallback := g.tenant.routing.fallback
  stream := pr.stream
  globalConfig := g.globalConfig
  yamlProviders := g.yamlProviders
  chatProviderFor := g.chatProviderFor
  provReq := req

def blocked (hook reason : String) (status : ℕ) : Ending :=
  .failed status ("request blocked by hook '" ++ hook ++ "': " ++ reason) "content_policy_violation"

def preRequest : List Hook → ChatRequest → List String →
    List Event × Except Ending (ChatRequest × List String)
  | [], req, candidates => ([],.ok (req,candidates))
  | hook :: rest, req, candidates =>
    let next := fun (req : ChatRequest) (candidates : List String) =>
      let t := preRequest rest req candidates
      (Event.hook hook.name req :: t.1,t.2)
    let stop := fun (ending : Ending) => ([Event.hook hook.name req],.error ending)
    match hook.preRequest req with
    | .error _ => stop (.failed 500 "internal hook error" "internal_error")
    | .ok result => match result.decision with
      | .block => stop (blocked hook.name result.reason
          (if result.statusCode = 0 then 400 else result.statusCode))
      | .redact =>
        let t := preRequest rest { req with messages := result.messages } candidates
        (Event.hook hook.name req :: t.1,t.2)
      | .warn => next req candidates
      | .allow => next req candidates
      | .allowPII => match g.allowPIIModel with
        | none => stop (blocked hook.name "allow_pii triggered but not configured" 400)
        | some model =>
          if (g.globalConfig.modelByName model).isNone then
            stop (blocked hook.name ("allow_pii model not found: " ++ model) 400)
          else next req [model]

def postResponse (req : ChatRequest) (resp : ChatResponse) : ChatResponse :=
  g.hooks.foldl (fun resp hook => match hook.postResponse req resp with
    | .ok (some choices) => { resp with choices := choices }
    | _ => resp) resp

def degraded (group : String) (candidates : List String) : List String :=
  match g.tenant.selection.routeGroups.bind (·.lookup group) with
  | none => candidates
  | some groupModels =>
    if candidates.filter groupModels.contains = [] then candidates
    else candidates.filter groupModels.contains

def family (m : ModelConfig) : Option Family :=
  if m.mock.enabled then some .mock
  else ((g.env pr (provReq pr)).resolveProviderConfig m.provider).bind (fun pc => familyOf pc.type)

def lastSent (actions : List Action) : Option (String × ChatRequest) :=
  (actions.filterMap (fun
    | .send name req => some (name,req)
    | _ => none)).getLast?

def upstreamResponse (s : Served) : ChatResponse := g.upstream.chatCompletion s.request s.family

def exposedAlias (s : Served) : Option String := s.virtualAlias.filter g.exposeAliasInResponse

def canonical (s : Served) : CanonicalResponse :=
  let resp := g.postResponse s.request (g.upstreamResponse s)
  { id := resp.id
    object := resp.object
    created := resp.created
    model := (g.exposedAlias s).getD resp.model
    usage := resp.usage
    choices := resp.choices
    rawPassthroughBody := resp.rawBody
    selectedModel := s.model.name
    provider := s.model.provider
    routeGroup := s.routeGroup }

def attemptStage (virtualAlias : Option String) (routeGroup : String) (req : ChatRequest)
    (candidates : List String) : Trace :=
  let result := (g.env pr req).run g.outcomes candidates
  let events := result.1.map .call
  let served := (lastSent result.1).bind (fun sent =>
    (g.globalConfig.modelByName sent.1).bind (fun m =>
      (g.family pr m).map (fun f => ⟨virtualAlias,routeGroup,m,f,sent.2⟩)))
  match result.2, served with
  | .completed, some served => ⟨events,.answered served⟩
  | response, _ => ⟨events,.attempted response⟩

def cacheStage (virtualAlias : Option String) (routeGroup : String) (req : ChatRequest)
    (candidates : List String) : Trace :=
  match g.semanticCache with
  | none => g.attemptStage pr virtualAlias routeGroup req candidates
  | some find =>
    let cacheText := " ".intercalate pr.messageTexts
    let lookup := Event.cacheLookup cacheText
    match find cacheText (candidates.head?.getD "") routeGroup with
    | none =>
      let t := g.attemptStage pr virtualAlias routeGroup req candidates
      ⟨lookup :: t.events,t.ending⟩
    | some entry => match entry.response with
      | some response => ⟨[lookup],.cacheHit entry.model response⟩
      | none => ⟨[lookup],.failed 500 "cache error" "internal_error"⟩

def budgetStage (virtualAlias : Option String) (routeGroup : String) (req : ChatRequest)
    (candidates : List String) : Trace :=
  match g.budget pr.metadata with
  | .proceed => g.cacheStage pr virtualAlias routeGroup req candidates
  | .degrade group =>
    g.cacheStage pr virtualAlias routeGroup req
      (if group = "" then candidates else g.degraded group candidates)
  | .blocked status message => ⟨[],.failed status message "budget_exceeded"⟩

def hookStage (virtualAlias : Option String) (routeGroup : String) (candidates : List String) : Trace :=
  let hooked := g.preRequest g.hooks (provReq pr) candidates
  match hooked.2 with
  | .error ending => ⟨hooked.1,ending⟩
  | .ok (req,candidates) =>
    let t := g.budgetStage pr virtualAlias routeGroup req candidates
    ⟨hooked.1 ++ t.events,t.ending⟩

def selectStage (r : PrecedenceResult) : Trace :=
  let input := g.routeInput pr
  let routeReq := routeReq g.tenant g.globalConfig input r
  match (g.router.select routeReq).1 with
  | .error err => ⟨[.select routeReq],.selection err⟩
  | .ok result =>
    let t := g.hookStage pr (target g.tenant g.globalConfig input).virtualAlias r.routeGroupUsed
      result.candidates
    ⟨.select routeReq :: t.events,t.ending⟩

def toolStage (r : PrecedenceResult) : Trace :=
  if g.toolRoutingEnabled then
    match g.checkToolRoutes pr.messageTexts with
    | some found => ⟨[.toolRoutes pr.messageTexts],.toolRoute found⟩
    | none =>
      let t := g.selectStage pr r
      ⟨.toolRoutes pr.messageTexts :: t.events,t.ending⟩
  else g.selectStage pr r

def run : Trace :=
  if pr.rawBody.isSome ∧ pr.headers "X-Model-Type" = "ml" then ⟨[],.ml⟩
  else if pr.messages.isEmpty then
    ⟨[],.failed 400 "messages is required and must not be empty" "invalid_request_error"⟩
  else match validateMetadata pr.metadata with
    | .error err => ⟨[],.failed 400 err.message "invalid_request_error"⟩
    | .ok () => match resolution g.tenant g.globalConfig (g.routeInput pr) with
      | .error err => ⟨[],.precedence err⟩
      | .ok r => g.toolStage pr r

end Stages

end Gateway

def plainGateway : Gateway where
  tenant := ignoresGroup
  globalConfig := twoModels
  yamlProviders := fun _ => some { type := "anthropic" }
  chatProviderFor := fun _ => true
  router := idleRouter
  outcomes := ⟨fun _ => .admitted false,fun _ => none⟩
  upstream :=
    { now := 1700000000
      chat := fun _ => ⟨"chatcmpl-1","chat.completion",1700000000,"mini",[],{}⟩
      responses := fun _ => ⟨"resp-1","response",1700000000,"mini","completed",[],0,0,0,0⟩
      messages := fun _ => ⟨"msg-1","message","assistant",[],"opus","end_turn",0,0,0⟩
      built := fun _ => ⟨"mock-1","chat.completion",1700000000,"mini",[],{}⟩ }

def plainCall : Call := ⟨"acme",fun _ => ""⟩

end PrismGateway.Orchestrator
