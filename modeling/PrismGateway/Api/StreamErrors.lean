import PrismGateway.Api.Streaming

namespace PrismGateway.Router

def listText (names : List String) : String := "[" ++ " ".intercalate names ++ "]"

def PrecedenceError.written : PrecedenceError → String × String
  | .noAllowedModels tenantID => ("no models allowed for tenant '" ++ tenantID ++ "'","permission_error")
  | .routeGroupNotFound routeGroup =>
      ("route group '" ++ routeGroup ++ "' not found","invalid_request_error")
  | .modelNotInRouteGroup model routeGroup =>
      ("model '" ++ model ++ "' is not in route group '" ++ routeGroup ++ "'","invalid_request_error")
  | .invalidConflictPolicy policy => ("invalid conflict_policy: " ++ policy,"invalid_request_error")
  | .emptyRouteGroup routeGroup =>
      ("route group '" ++ routeGroup ++ "' resulted in empty candidate pool","invalid_request_error")
  | .modelNotAllowed model tenantID =>
      ("model '" ++ model ++ "' is not allowed for tenant '" ++ tenantID ++ "'","permission_error")

def SelectError.written : SelectError → Option (String × String)
  | .defaultRouteGroupEmpty routeGroup =>
      some ("routing route_group '" ++ routeGroup ++ "' has no available candidate models",
        "invalid_configuration")
  | .modelNotAvailable model =>
      some ("model '" ++ model ++ "' is not available in candidate set","invalid_request_error")
  | .allUnavailable => some ("all candidate models are unavailable","invalid_request_error")
  | .noCandidates => some ("no candidate models available","invalid_request_error")
  | .blockedBySmartStage reason stage isPromptLength _ hasCustomReason _ =>
      if isPromptLength && !hasCustomReason then
        some ("prompt length exceeds allowed limit","invalid_request_error")
      else
        some ("request blocked by smart stage '" ++ stage ++ "': " ++ reason,"content_policy_violation")
  | .noCandidatesAfterSmartStages preferredModels bannedModels constraintsUsed _ =>
      some (
        if 0 < bannedModels.length then
          "no candidates remain after smart stage bans: " ++ listText bannedModels
        else if constraintsUsed then
          "no candidates remain after smart stage constraints (cost/latency)"
        else if 0 < preferredModels.length then
          "no candidates remain after smart stage preferences: " ++ listText preferredModels
        else "no candidates remain after smart stage filtering",
        "no_candidates_error")
  | .nilSmartConfig => none

end PrismGateway.Router

namespace PrismGateway.Api

open Lib Providers Orchestrator Router

def errorDoc (message errType : String) : Doc :=
  .obj [("error",.obj [("message",text message),("type",text errType)])]

def messageDoc (raw : String → Doc) (m : Orchestrator.ChatMessage) : Doc :=
  .obj ([("role",text m.role)] ++
    (if m.toolCalls = "" then [("content",text m.content)]
      else [("content",.null),("tool_calls",raw m.toolCalls)]) ++
    (if m.toolCallID = "" then [] else [("tool_call_id",text m.toolCallID)]))

def chatDoc (raw : String → Doc) (b : ChatBody) : Doc :=
  .obj
    [("id",text b.id),("object",text b.object),("created",int b.created),("model",text b.model),
      ("choices",.arr (b.choices.map (fun c => .obj
        [("index",int c.index),("message",messageDoc raw c.message),
          ("finish_reason",text c.finishReason)]))),
      ("usage",.obj
        [("prompt_tokens",int b.usage.promptTokens),
          ("completion_tokens",int b.usage.completionTokens),
          ("total_tokens",int b.usage.totalTokens)])]

def sanitizeUpstreamMessage (status : Int) : String :=
  if status = 429 then "upstream provider rate limit exceeded"
  else if status = 401 ∨ status = 403 then "upstream provider authentication error"
  else if status = 503 then "upstream provider unavailable"
  else if 500 ≤ status then "upstream provider error"
  else if 400 ≤ status then "upstream provider rejected request"
  else "upstream provider error"

def upstreamErrorDoc (err : GoError) : Doc :=
  errorDoc ((err.upstreamStatus.map sanitizeUpstreamMessage).getD "upstream provider error")
    "upstream_error"

def attemptDoc : Response → Option Doc
  | .modelDisabled => some (errorDoc "model is disabled" "model_disabled")
  | .providerModelIDRequired => some (errorDoc
      "provider_model_id is required for models using the aws_bedrock provider" "invalid_request_error")
  | .streamingNotSupported =>
      some (errorDoc "streaming not supported for selected provider" "invalid_request_error")
  | .upstreamError err => some (upstreamErrorDoc err)
  | .allProvidersFailed => some (errorDoc "all upstream providers failed" "upstream_error")
  | .streamed => none
  | .completed => none

def endingDoc (g : Gateway) (raw : String → Doc) : Ending → Option Doc
  | .ml => none
  | .failed _ message kind => some (errorDoc message kind)
  | .precedence err => some (errorDoc err.written.1 err.written.2)
  | .selection err => err.written.map (fun e => errorDoc e.1 e.2)
  | .toolRoute found => some (chatDoc raw (g.toolRouteResponse found))
  | .cacheHit _ response => some (chatDoc raw response)
  | .attempted response => attemptDoc response
  | .answered _ => none

def earlyBody (g : Gateway) (raw : String → Doc) (pr : ParsedRequest) : Option Doc :=
  if pr.stream then endingDoc g raw (g.run pr).ending else none

/-- What a run writes to its `ResponseWriter`: a body, or the events of the upstream's stream. -/
def written (g : Gateway) (raw : String → Doc) (stream : List StreamEvent) (pr : ParsedRequest) :
    List (List Char) :=
  match earlyBody g raw pr, (g.run pr).ending with
  | some d, _ => [d.encode]
  | none, .attempted .streamed => (writeSSEStream raw stream).1.map SseEvent.render
  | none, _ => []

theorem Writer.write_encode (reader : ChunkReader) (w : Writer) (d : Doc) (h : w.buf = []) :
    w.write reader d.encode = ({ w with buf := d.encode },[]) := by
  have hcut := Writer.cut_line d.newline_not_mem_marshal
  have hbuf : w.buf ++ d.encode = d.marshal ++ ['\n'] := by
    rw [h]
    rfl
  unfold Writer.write
  rw [hbuf,hcut]
  simp [Writer.handleEvents,Doc.encode]

theorem Writer.received_encode (reader : ChunkReader) (style : Style) (modelName id : String)
    (d : Doc) : Writer.received reader style modelName id [d.encode] = [] := by
  have hwrite := Writer.write_encode reader (.fresh style modelName id) d rfl
  simp [Writer.received,Writer.writes,hwrite]

theorem received_early {g : Gateway} {raw : String → Doc} {pr : ParsedRequest} {d : Doc}
    (h : earlyBody g raw pr = some d) (stream : List StreamEvent) (reader : ChunkReader)
    (style : Style) (modelName id : String) :
    Writer.received reader style modelName id (written g raw stream pr) = [] := by
  have hwritten : written g raw stream pr = [d.encode] := by
    unfold written
    rw [h]
  rw [hwritten]
  exact Writer.received_encode reader style modelName id d

theorem not_infix_nil (d : Doc) : ¬ d.encode <:+: [] := by simp [Doc.encode]

def Delivered (g : Gateway) (raw : String → Doc) (stream : List StreamEvent) (reader : ChunkReader)
    (style : Style) (modelName id : String) (pr : ParsedRequest) : Prop :=
  ∀ d, earlyBody g raw pr = some d →
    d.encode <:+: Writer.received reader style modelName id (written g raw stream pr)

theorem early_body_never_delivered (g : Gateway) (raw : String → Doc) (stream : List StreamEvent)
    (reader : ChunkReader) (style : Style) (modelName id : String) (pr : ParsedRequest)
    (h : (earlyBody g raw pr).isSome) :
    ¬ Delivered g raw stream reader style modelName id pr ∧
      Writer.received reader style modelName id (written g raw stream pr) = [] := by
  obtain ⟨d,hd⟩ := Option.isSome_iff_exists.mp h
  have hnil := received_early hd stream reader style modelName id
  refine ⟨?_,hnil⟩
  intro hdelivered
  have hinfix := hdelivered d hd
  rw [hnil] at hinfix
  exact not_infix_nil d hinfix

def noMessages : AnthropicMessagesRequest :=
  { model := "opus", maxTokens := some 16, stream := true }

def noMessagesParsed : ParsedRequest where
  tenantID := "acme"
  bodyModel := "opus"
  maxTokens := some 16
  stream := true
  headers := fun _ => ""
  apiStyle := .anthropicMessages

theorem noMessages_body (raw : String → Doc) :
    earlyBody plainGateway raw noMessagesParsed =
      some (errorDoc "messages is required and must not be empty" "invalid_request_error") := rfl

theorem empty_request_never_delivered :
    parseAnthropicMessagesRequest plainCall (.ok noMessages) = .ok noMessagesParsed ∧
    (earlyBody plainGateway (fun _ => .null) noMessagesParsed).isSome ∧
    ¬ Delivered plainGateway (fun _ => .null) [] ⟨fun _ => none,fun _ => none⟩ .anthropicMessages
      "opus" "msg_1" noMessagesParsed :=
  ⟨rfl,rfl,(early_body_never_delivered plainGateway (fun _ => .null) [] _ .anthropicMessages "opus"
    "msg_1" noMessagesParsed rfl).1⟩

theorem validation_error_swallowed :
    ¬ ∀ (g : Gateway) (raw : String → Doc) (stream : List StreamEvent) (reader : ChunkReader)
      (style : Style) (modelName id : String) (pr : ParsedRequest),
      Delivered g raw stream reader style modelName id pr := by
  intro h
  have hbody := noMessages_body (fun _ => .null)
  have hinfix := h plainGateway (fun _ => .null) [] ⟨fun _ => none,fun _ => none⟩ .anthropicMessages
    "opus" "msg_1" noMessagesParsed _ hbody
  rw [received_early hbody] at hinfix
  exact not_infix_nil _ hinfix

end PrismGateway.Api
