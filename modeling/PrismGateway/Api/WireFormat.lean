import PrismGateway.Api.Handlers
import PrismGateway.Orchestrator.Independence

namespace PrismGateway.Api

open Providers Orchestrator

def shownText (m : Orchestrator.ChatMessage) : Option String :=
  if m.toolCalls = "" then some m.content else none

def turnEnd (truncated : Bool) : String := if truncated then "max_tokens" else "end_turn"

namespace Endpoint

def shows (choices : List ChatChoice) : Endpoint → List (Option String) × List String
  | .chatCompletions => (choices.map (fun c => shownText c.message),choices.map (·.finishReason))
  | .responsesAPI => (choices.map (fun c => some c.message.content),[overallStatus choices])
  | .anthropicMessages =>
    ([some ((choices.head?.map (·.message.content)).getD "")],
      [turnEnd (choices.head?.any (·.finishReason = "length"))])

end Endpoint

structure View where
  shown : List (Option String) × List String
  model : String
  promptTokens : Int
  completionTokens : Int
  -- a Messages document has none
  totalTokens : Option Int
  deriving DecidableEq, Repr

end PrismGateway.Api

namespace PrismGateway.Providers

open Api

def MessagesBody.text (b : MessagesBody) : String :=
  concatText ((b.content.filter (·.type = "text")).map (·.text))

def Body.endpoint : Body → Endpoint
  | .chat _ => .chatCompletions
  | .responses _ => .responsesAPI
  | .messages _ => .anthropicMessages

def Body.view : Body → View
  | .chat b =>
    ⟨Endpoint.chatCompletions.shows b.choices,b.model,b.usage.promptTokens,b.usage.completionTokens,
      some b.usage.totalTokens⟩
  | .responses b =>
    ⟨((b.output.filter (·.type = "message")).map (fun item => some (outputText item)),[b.status]),b.model,
      b.inputTokens,b.outputTokens,some b.totalTokens⟩
  | .messages b =>
    ⟨([some b.text],[turnEnd (b.stopReason = "max_tokens")]),b.model,b.inputTokens,b.outputTokens,none⟩

end PrismGateway.Providers

namespace PrismGateway.Orchestrator

open Providers Api

def CanonicalResponse.view (cr : CanonicalResponse) (e : Endpoint) : View where
  shown := e.shows cr.choices
  model := cr.model
  promptTokens := cr.usage.promptTokens
  completionTokens := cr.usage.completionTokens
  totalTokens := if e = .anthropicMessages then none else some cr.usage.totalTokens

def CanonicalResponse.ofChat (b : ChatBody) : CanonicalResponse where
  id := b.id
  object := b.object
  created := b.created
  model := b.model
  usage := b.usage
  choices := b.choices
  rawPassthroughBody := none
  selectedModel := b.model
  provider := ""
  routeGroup := ""

end PrismGateway.Orchestrator

namespace PrismGateway.Api

open Providers Orchestrator

theorem finishReasonToStopReason_length (reason : String) :
    finishReasonToStopReason reason = "max_tokens" ↔ reason = "length" := by
  unfold finishReasonToStopReason
  split_ifs with hstop hlength htool <;> simp_all

theorem shownText_mapProviderMessage (m : Orchestrator.ChatMessage) :
    shownText (mapProviderMessage m) = shownText m := by
  unfold mapProviderMessage
  split_ifs with h <;> simp [shownText,h]

theorem Endpoint.serialize_endpoint (e : Endpoint) (cr : CanonicalResponse) :
    (e.serialize cr).endpoint = e := by
  cases e <;> rfl

theorem Endpoint.serialize_view (e : Endpoint) (cr : CanonicalResponse) :
    (e.serialize cr).view = cr.view e := by
  cases e with
  | chatCompletions =>
    simp [serialize,Body.view,CanonicalResponse.view,canonicalToChatCompletionResponse,shows,
      Function.comp_def,shownText_mapProviderMessage]
  | responsesAPI =>
    simp [serialize,Body.view,CanonicalResponse.view,canonicalToResponsesAPIResponse,shows,
      List.filter_map,Function.comp_def,outputText]
  | anthropicMessages =>
    cases hc : cr.choices with
    | nil =>
      simp [serialize,Body.view,CanonicalResponse.view,canonicalToAnthropicMessagesResponse,shows,
        MessagesBody.text,concatText,hc]
    | cons c rest =>
      simp [serialize,Body.view,CanonicalResponse.view,canonicalToAnthropicMessagesResponse,shows,
        MessagesBody.text,finishReasonToStopReason_length,hc]

end PrismGateway.Api

namespace PrismGateway.Orchestrator

open Providers Api

def CanonicalResponse.FollowedBy (cr : CanonicalResponse) (e : Endpoint) (body : Body) : Prop :=
  body.endpoint = e ∧ body.view = cr.view e

namespace Gateway

section Served

variable (g : Gateway) (e : Endpoint) (s : Served)

def hooked : List ChatChoice := (g.postResponse s.request (g.upstreamResponse s)).choices

def upstreamFinish : List String :=
  match e with
  | .responsesAPI => [(g.upstream.responses s.request).status]
  | e => (e.shows (g.upstreamResponse s).choices).2

structure Unaltered : Prop where
  model : ∀ name ∈ g.exposedAlias s, name = (g.upstreamResponse s).model
  texts : (e.shows (g.hooked s)).1 = (e.shows (g.upstreamResponse s).choices).1
  finish : (e.shows (g.hooked s)).2 = g.upstreamFinish e s

end Served

theorem postResponse_eq (g : Gateway) (req : ChatRequest) (resp : ChatResponse) :
    g.postResponse req resp = { resp with choices := (g.postResponse req resp).choices } := by
  unfold postResponse
  induction g.hooks generalizing resp with
  | nil => rfl
  | cons hook rest ih =>
    rw [List.foldl_cons,ih]
    split <;> rfl

end Gateway

end PrismGateway.Orchestrator

namespace PrismGateway.Providers

open Api

def Family.builds : Family → Bool
  | .openAICompat => false
  | .anthropic => false
  | _ => true

def Family.speaks : Family → Endpoint → Bool
  | .openAICompat, .chatCompletions => true
  | .openAICompat, .responsesAPI => true
  | .anthropic, .anthropicMessages => true
  | _, _ => false

end PrismGateway.Providers

namespace PrismGateway.Orchestrator.Gateway

open Providers Api

variable {g : Gateway} {e : Endpoint} {s : Served}

theorem canonical_rawPassthroughBody :
    (g.canonical s).rawPassthroughBody = (g.upstreamResponse s).rawBody := by
  simp only [canonical]
  rw [postResponse_eq]

theorem canonical_view :
    (g.canonical s).view e =
      { shown := e.shows (g.hooked s)
        model := (g.exposedAlias s).getD (g.upstreamResponse s).model
        promptTokens := (g.upstreamResponse s).usage.promptTokens
        completionTokens := (g.upstreamResponse s).usage.completionTokens
        totalTokens :=
          if e = .anthropicMessages then none else some (g.upstreamResponse s).usage.totalTokens } := by
  simp only [CanonicalResponse.view,canonical,hooked]
  rw [postResponse_eq]

theorem getD_eq_self {α : Type*} {o : Option α} {a : α} : o.getD a = a ↔ ∀ b ∈ o, b = a := by
  cases o <;> simp

structure ReadFrom (g : Gateway) (e : Endpoint) (s : Served) (b : Body) : Prop where
  raw : (g.upstreamResponse s).rawBody = some b
  endpoint : b.endpoint = e
  model : b.view.model = (g.upstreamResponse s).model
  promptTokens : b.view.promptTokens = (g.upstreamResponse s).usage.promptTokens
  completionTokens : b.view.completionTokens = (g.upstreamResponse s).usage.completionTokens
  totalTokens : b.view.totalTokens =
    if e = .anthropicMessages then none else some (g.upstreamResponse s).usage.totalTokens
  texts : b.view.shown.1 = (e.shows (g.upstreamResponse s).choices).1
  finish : b.view.shown.2 = g.upstreamFinish e s

theorem ReadFrom.view_eq_iff {b : Body} (h : ReadFrom g e s b) :
    b.view = (g.canonical s).view e ↔ g.Unaltered e s := by
  obtain ⟨-,-,hmodel,hprompt,hcompletion,htotal,htexts,hfinish⟩ := h
  rw [canonical_view]
  constructor
  · intro hv
    have hshown : b.view.shown = e.shows (g.hooked s) := congrArg View.shown hv
    have hexposed := congrArg View.model hv
    refine ⟨getD_eq_self.mp (hexposed.symm.trans hmodel),?_,?_⟩
    · rw [← hshown,htexts]
    · rw [← hshown,hfinish]
  · rintro ⟨hname,htexts',hfinish'⟩
    have hshown : b.view.shown = e.shows (g.hooked s) :=
      Prod.ext (htexts.trans htexts'.symm) (hfinish.trans hfinish'.symm)
    have hexposed := getD_eq_self.mpr hname
    generalize b.view = v at *
    cases v
    simp_all

theorem write_raw {b : Body} (h : (g.upstreamResponse s).rawBody = some b) :
    e.write (g.canonical s) = b := by
  simp [Endpoint.write,canonical_rawPassthroughBody,h]

theorem ReadFrom.followed_iff {b : Body} (h : ReadFrom g e s b) :
    (g.canonical s).FollowedBy e (e.write (g.canonical s)) ↔ g.Unaltered e s := by
  rw [write_raw h.raw,CanonicalResponse.FollowedBy,h.view_eq_iff]
  exact and_iff_right h.endpoint

theorem raw_not_followed {b : Body} (h : (g.upstreamResponse s).rawBody = some b)
    (hb : b.endpoint ≠ e) : ¬ (g.canonical s).FollowedBy e (e.write (g.canonical s)) := by
  rw [write_raw h]
  exact fun hf => hb hf.1

theorem built_followed (h : (g.upstreamResponse s).rawBody = none) :
    (g.canonical s).FollowedBy e (e.write (g.canonical s)) := by
  have hwrite : e.write (g.canonical s) = e.serialize (g.canonical s) := by
    simp [Endpoint.write,canonical_rawPassthroughBody,h]
  rw [hwrite]
  exact ⟨e.serialize_endpoint _,e.serialize_view _⟩

section Families

variable (hs : s.request.useResponsesAPI = decide (e = .responsesAPI))

include hs in
theorem openAICompat_response (hf : s.family = .openAICompat) (he : e ≠ .responsesAPI) :
    g.upstreamResponse s = { (g.upstream.chat s.request).toResponse with
      rawBody := some (.chat (g.upstream.chat s.request)) } := by
  simp [upstreamResponse,Upstream.chatCompletion,hf,hs,he]

theorem chat_readFrom (hf : s.family = .openAICompat) (hs : s.request.useResponsesAPI = false) :
    ReadFrom g .chatCompletions s (.chat (g.upstream.chat s.request)) := by
  have hup := openAICompat_response (g := g) (e := .chatCompletions) hs hf (by decide)
  refine ⟨by rw [hup],rfl,by rw [hup]; rfl,by rw [hup]; rfl,by rw [hup]; rfl,by rw [hup]; rfl,
    by rw [hup]; rfl,?_⟩
  simp only [upstreamFinish,hup]
  rfl

theorem responses_readFrom (hf : s.family = .openAICompat) (hs : s.request.useResponsesAPI = true) :
    ReadFrom g .responsesAPI s (.responses (g.upstream.responses s.request)) := by
  have hup : g.upstreamResponse s = { mapResponsesRawToChat (g.upstream.responses s.request) with
      rawBody := some (.responses (g.upstream.responses s.request)) } := by
    simp [upstreamResponse,Upstream.chatCompletion,hf,hs]
  refine ⟨by rw [hup],rfl,by rw [hup]; rfl,by rw [hup]; rfl,by rw [hup]; rfl,by rw [hup]; rfl,?_,rfl⟩
  simp [hup,Body.view,Endpoint.shows,mapResponsesRawToChat,Function.comp_def]

theorem messages_readFrom (hf : s.family = .anthropic) :
    ReadFrom g .anthropicMessages s (.messages (g.upstream.messages s.request)) := by
  have hup : g.upstreamResponse s =
      { translateResponse g.upstream.now (g.upstream.messages s.request) with
        rawBody := some (.messages (g.upstream.messages s.request)) } := by
    simp [upstreamResponse,Upstream.chatCompletion,hf]
  refine ⟨by rw [hup],rfl,by rw [hup]; rfl,by rw [hup]; rfl,by rw [hup]; rfl,rfl,by rw [hup]; rfl,?_⟩
  simp only [upstreamFinish,hup,Body.view,Endpoint.shows,translateResponse]
  split_ifs <;> simp_all

include hs in
theorem write_followed_iff :
    (g.canonical s).FollowedBy e (e.write (g.canonical s)) ↔
      s.family.builds = true ∨ s.family.speaks e = true ∧ g.Unaltered e s := by
  cases hf : s.family with
  | openAICompat =>
    cases e with
    | chatCompletions =>
      rw [(chat_readFrom (g := g) hf hs).followed_iff]
      simp [Family.builds,Family.speaks]
    | responsesAPI =>
      rw [(responses_readFrom (g := g) hf hs).followed_iff]
      simp [Family.builds,Family.speaks]
    | anthropicMessages =>
      have hup := openAICompat_response (g := g) hs hf (by decide)
      have hno := raw_not_followed (e := .anthropicMessages) (congrArg ChatResponse.rawBody hup)
        (by simp [Body.endpoint])
      simp [Family.builds,Family.speaks,hno]
  | anthropic =>
    have hread := messages_readFrom (g := g) hf
    by_cases he : e = .anthropicMessages
    · subst he
      rw [hread.followed_iff]
      simp [Family.builds,Family.speaks]
    · have hno := raw_not_followed hread.raw (fun h => he h.symm)
      have hspeaks : Family.anthropic.speaks e = false := by
        cases e <;> first | rfl | exact absurd rfl he
      simp [Family.builds,hspeaks,hno]
  | gemini | bedrock | mock =>
    have hbuilt := built_followed (g := g) (e := e) (s := s)
      (by simp [upstreamResponse,Upstream.chatCompletion,hf,ChatBody.toResponse])
    simp [hbuilt,Family.builds]

end Families

section Runs

variable {pr : ParsedRequest} {virtualAlias : Option String} {group : String} {req : ChatRequest}
  {candidates : List String}

def Asked (t : Trace) (responses : Bool) : Prop :=
  ∀ s, t.ending = .answered s → s.request.useResponsesAPI = responses

theorem lastSent_mem {actions : List Action} {sent : String × ChatRequest}
    (h : lastSent actions = some sent) : .send sent.1 sent.2 ∈ actions := by
  have hmem := List.mem_of_getLast? h
  rw [List.mem_filterMap] at hmem
  obtain ⟨a,ha,hsent⟩ := hmem
  cases a with
  | send name req =>
    cases hsent
    exact ha
  | allow key admission => cases hsent
  | report key outcome isProbe => cases hsent

theorem attemptStage_asked :
    Asked (g.attemptStage pr virtualAlias group req candidates) req.useResponsesAPI := by
  intro s h
  simp only [attemptStage] at h
  split at h
  · next served hserved =>
    cases h
    simp only [Option.bind_eq_some_iff,Option.map_eq_some_iff] at hserved
    obtain ⟨sent,hsent,m,-,f,-,rfl⟩ := hserved
    obtain ⟨model,id,maxTokens,hreq⟩ := Env.send_of_run (lastSent_mem hsent)
    rw [hreq]
    rfl
  · cases h

theorem cacheStage_asked :
    Asked (g.cacheStage pr virtualAlias group req candidates) req.useResponsesAPI := by
  intro s h
  simp only [cacheStage] at h
  split at h
  · exact attemptStage_asked s h
  · split at h
    · exact attemptStage_asked s h
    · split at h <;> cases h

theorem budgetStage_asked :
    Asked (g.budgetStage pr virtualAlias group req candidates) req.useResponsesAPI := by
  intro s h
  simp only [budgetStage] at h
  split at h
  · exact cacheStage_asked s h
  · exact cacheStage_asked s h
  · cases h

theorem preRequest_result : ∀ (hooks : List Hook) (req : ChatRequest) (candidates : List String),
    (∃ status message kind, (g.preRequest hooks req candidates).2 =
      .error (.failed status message kind)) ∨
    ∃ messages candidates', (g.preRequest hooks req candidates).2 =
      .ok ({ req with messages := messages },candidates') := by
  intro hooks
  induction hooks with
  | nil => exact fun req candidates => .inr ⟨req.messages,candidates,rfl⟩
  | cons hook rest ih =>
    intro req candidates
    simp only [preRequest]
    split
    · exact .inl ⟨_,_,_,rfl⟩
    · next result hresult =>
      split
      · exact .inl ⟨_,_,_,rfl⟩
      · exact ih { req with messages := result.messages } candidates
      · exact ih req candidates
      · exact ih req candidates
      · split
        · exact .inl ⟨_,_,_,rfl⟩
        · split
          · exact .inl ⟨_,_,_,rfl⟩
          · exact ih req _

theorem hookStage_asked :
    Asked (g.hookStage pr virtualAlias group candidates) (pr.apiStyle = .openAIResponses) := by
  intro s h
  rcases preRequest_result (g := g) g.hooks (provReq pr) candidates with
    ⟨status,message,kind,hres⟩ | ⟨messages,candidates',hres⟩
  · simp only [hookStage,hres] at h
    cases h
  · simp only [hookStage,hres] at h
    exact budgetStage_asked s h

theorem selectStage_asked (r : Router.PrecedenceResult) :
    Asked (g.selectStage pr r) (pr.apiStyle = .openAIResponses) := by
  intro s h
  simp only [selectStage] at h
  split at h
  · cases h
  · exact hookStage_asked s h

theorem toolStage_asked (r : Router.PrecedenceResult) :
    Asked (g.toolStage pr r) (pr.apiStyle = .openAIResponses) := by
  intro s h
  simp only [toolStage] at h
  split at h
  · split at h
    · cases h
    · exact selectStage_asked r s h
  · exact selectStage_asked r s h

theorem run_asked : Asked (g.run pr) (pr.apiStyle = .openAIResponses) := by
  intro s h
  simp only [run] at h
  split_ifs at h
  split at h
  · cases h
  · split at h
    · cases h
    · exact toolStage_asked _ s h

end Runs

def canonicalOf (g : Gateway) : Ending → Option CanonicalResponse
  | .toolRoute found => some (.ofChat (g.toolRouteResponse found))
  | .cacheHit _ response => some (.ofChat response)
  | .answered served => some (g.canonical served)
  | _ => none

def FollowsEndpoint (g : Gateway) (e : Endpoint) (pr : ParsedRequest) : Prop :=
  ∀ body, g.answer e pr = some body →
    ∃ cr, g.canonicalOf (g.run pr).ending = some cr ∧ cr.FollowedBy e body

def Fits (g : Gateway) (e : Endpoint) : Ending → Prop
  | .toolRoute _ => e = .chatCompletions
  | .cacheHit _ _ => e = .chatCompletions
  | .answered served =>
    served.family.builds = true ∨ served.family.speaks e = true ∧ g.Unaltered e served
  | _ => True

theorem chat_followed_iff (e : Endpoint) (b : ChatBody) :
    (CanonicalResponse.ofChat b).FollowedBy e (.chat b) ↔ e = .chatCompletions := by
  constructor
  · exact fun h => h.1.symm
  · rintro rfl
    exact ⟨rfl,rfl⟩

end PrismGateway.Orchestrator.Gateway

namespace PrismGateway.Api

open Providers Orchestrator

theorem Endpoint.parse_style {call : Call} {e : Endpoint} {body : e.Decoded} {pr : ParsedRequest}
    (h : e.parse call body = .ok pr) :
    decide (pr.apiStyle = .openAIResponses) = decide (e = .responsesAPI) := by
  cases e with
  | chatCompletions =>
    obtain ⟨raw,decoded⟩ := body
    simp only [parse,parseChatCompletionsRequest] at h
    split at h
    · cases h
      rfl
    · cases decoded with
      | error err => cases h
      | ok req =>
        cases h
        rfl
  | responsesAPI =>
    cases body with
    | error err => cases h
    | ok req =>
      simp only [parse,parseResponsesAPIRequest] at h
      split at h
      · cases h
      · cases h
        rfl
  | anthropicMessages =>
    cases body with
    | error err => cases h
    | ok req =>
      simp only [parse,parseAnthropicMessagesRequest] at h
      split at h
      · cases h
      · cases h
        rfl

theorem answer_follows_endpoint_iff {g : Gateway} {call : Call} {e : Endpoint} {body : e.Decoded}
    {pr : ParsedRequest} (h : e.parse call body = .ok pr) (hstream : pr.stream = false) :
    g.FollowsEndpoint e pr ↔ g.Fits e (g.run pr).ending := by
  have hasked : Gateway.Asked (g.run pr) (pr.apiStyle = .openAIResponses) := Gateway.run_asked
  rw [Endpoint.parse_style h] at hasked
  simp only [Gateway.FollowsEndpoint,Gateway.answer,hstream,Bool.false_eq_true,if_false]
  cases hend : (g.run pr).ending with
  | toolRoute found => simp [Gateway.canonicalOf,Gateway.Fits,Gateway.chat_followed_iff]
  | cacheHit model response => simp [Gateway.canonicalOf,Gateway.Fits,Gateway.chat_followed_iff]
  | answered served =>
    have hs := hasked served hend
    simp [Gateway.canonicalOf,Gateway.Fits,Gateway.write_followed_iff hs]
  | ml | failed | precedence | selection | attempted => simp [Gateway.Fits]

def opusReply : MessagesBody := plainGateway.upstream.messages {}

def greeting : AnthropicMessagesRequest where
  model := "opus"
  messages := [⟨"user",some (.str "Hi")⟩]
  maxTokens := some 100

theorem messages_answered_by_anthropic :
    ∃ pr, Endpoint.anthropicMessages.parse plainCall (.ok greeting) = .ok pr ∧ pr.stream = false ∧
      plainGateway.answer .anthropicMessages pr = some (.messages opusReply) ∧
      plainGateway.FollowsEndpoint .anthropicMessages pr := by
  obtain ⟨pr,hpr⟩ : ∃ pr, Endpoint.anthropicMessages.parse plainCall (.ok greeting) = .ok pr := ⟨_,rfl⟩
  have hstream : pr.stream = false := by
    cases hpr
    rfl
  have hanswer : plainGateway.answer .anthropicMessages pr = some (.messages opusReply) := by
    cases hpr
    decide
  refine ⟨pr,hpr,hstream,hanswer,(answer_follows_endpoint_iff hpr hstream).mpr ?_⟩
  cases hpr
  exact .inr ⟨rfl,nofun,rfl,rfl⟩

theorem chat_answered_by_anthropic :
    ∃ pr, Endpoint.chatCompletions.parse plainCall
        ("",.ok { model := "opus", messages := [textMessage "user" "Hi"] }) = .ok pr ∧
      pr.stream = false ∧
      plainGateway.answer .chatCompletions pr = some (.messages opusReply) ∧
      ¬ plainGateway.FollowsEndpoint .chatCompletions pr := by
  obtain ⟨pr,hpr⟩ : ∃ pr, Endpoint.chatCompletions.parse plainCall
      ("",.ok { model := "opus", messages := [textMessage "user" "Hi"] }) = .ok pr := ⟨_,rfl⟩
  have hstream : pr.stream = false := by
    cases hpr
    rfl
  have hanswer : plainGateway.answer .chatCompletions pr = some (.messages opusReply) := by
    cases hpr
    decide
  refine ⟨pr,hpr,hstream,hanswer,fun hfollows => ?_⟩
  obtain ⟨cr,-,hend,-⟩ := hfollows _ hanswer
  cases hend

end PrismGateway.Api
