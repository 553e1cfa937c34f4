import PrismGateway.Orchestrator.Run

namespace PrismGateway.Api

open Providers Orchestrator

inductive Endpoint where
  | chatCompletions
  | responsesAPI
  | anthropicMessages
  deriving DecidableEq, Repr

def Endpoint.Decoded : Endpoint → Type
  | .chatCompletions => String × Except String ChatCompletionRequest
  | .responsesAPI => Except String ResponsesAPIRequest
  | .anthropicMessages => Except String AnthropicMessagesRequest

def Endpoint.parse (call : Call) : (e : Endpoint) → e.Decoded → Except String ParsedRequest
  | .chatCompletions, (raw,decoded) => parseChatCompletionsRequest call raw decoded
  | .responsesAPI, decoded => parseResponsesAPIRequest call decoded
  | .anthropicMessages, decoded => parseAnthropicMessagesRequest call decoded

def mapProviderMessage (m : Orchestrator.ChatMessage) : Orchestrator.ChatMessage :=
  if m.toolCalls = "" then { role := m.role, content := m.content }
  else { role := m.role, toolCalls := m.toolCalls }

def canonicalToChatCompletionResponse (cr : CanonicalResponse) : ChatBody where
  id := cr.id
  object := cr.object
  created := cr.created
  model := cr.model
  choices := cr.choices.map (fun c => ⟨c.index,mapProviderMessage c.message,c.finishReason⟩)
  usage := ⟨cr.usage.promptTokens,cr.usage.completionTokens,cr.usage.totalTokens,0⟩

def finishReasonToStopReason (reason : String) : String :=
  if reason = "stop" then "end_turn"
  else if reason = "length" then "max_tokens"
  else if reason = "tool_calls" then "tool_use"
  else "end_turn"

def canonicalToAnthropicMessagesResponse (cr : CanonicalResponse) : MessagesBody where
  id := cr.id
  type := "message"
  role := "assistant"
  content := (cr.choices.head?.map (fun c => ⟨"text",c.message.content⟩)).toList
  model := cr.model
  stopReason := (cr.choices.head?.map (fun c => finishReasonToStopReason c.finishReason)).getD "end_turn"
  inputTokens := cr.usage.promptTokens
  outputTokens := cr.usage.completionTokens

def finishReasonToStatus (reason : String) : String :=
  if reason = "stop" ∨ reason = "" then "completed" else "incomplete"

def overallStatus (choices : List ChatChoice) : String :=
  (choices.head?.map (fun c => finishReasonToStatus c.finishReason)).getD "completed"

def canonicalToResponsesAPIResponse (cr : CanonicalResponse) : ResponsesBody where
  id := cr.id
  object := "response"
  createdAt := cr.created
  model := cr.model
  status := overallStatus cr.choices
  output := cr.choices.map (fun c =>
    { type := "message"
      id := "msg_" ++ cr.id
      role := "assistant"
      status := finishReasonToStatus c.finishReason
      content := [⟨"output_text",c.message.content⟩] })
  inputTokens := cr.usage.promptTokens
  outputTokens := cr.usage.completionTokens
  totalTokens := cr.usage.totalTokens

def Endpoint.serialize (cr : CanonicalResponse) : Endpoint → Body
  | .chatCompletions => .chat (canonicalToChatCompletionResponse cr)
  | .responsesAPI => .responses (canonicalToResponsesAPIResponse cr)
  | .anthropicMessages => .messages (canonicalToAnthropicMessagesResponse cr)

def Endpoint.write (e : Endpoint) (cr : CanonicalResponse) : Body :=
  cr.rawPassthroughBody.getD (e.serialize cr)

end PrismGateway.Api

namespace PrismGateway.Orchestrator.Gateway

open Providers Api

variable (g : Gateway)

def toolRouteResponse (found : ToolRouteMatch) : ChatBody where
  id := "chatcmpl-tool-" ++ g.uuid
  object := "chat.completion"
  created := g.upstream.now
  model := "tool-route"
  choices := [⟨0,{ role := "assistant", content := g.toolRouteText found },"stop"⟩]
  usage := {}

def answer (e : Endpoint) (pr : ParsedRequest) : Option Body :=
  if pr.stream then none
  else match (g.run pr).ending with
    | .toolRoute found => some (.chat (g.toolRouteResponse found))
    | .cacheHit _ response => some (.chat response)
    | .answered served => some (e.write (g.canonical served))
    | _ => none

end PrismGateway.Orchestrator.Gateway
