import PrismGateway.Config.TenantSchema
import PrismGateway.Orchestrator.Attempts

namespace PrismGateway.Api

open Lib Config.Schemas

structure ChatMessage where
  role : String
  -- a string or an array of content blocks
  content : Option Json := none
  toolCalls : String := ""
  toolCallID : String := ""

def contentBlock : Schema := record
  [req "type" .str,opt "text" .str,opt "image_url" (.ptr (record [req "url" .str]))]

def blocksOf (s : Schema) (j : Json) : Option (List s.Val) := (Schema.slice s).decode j []

def stringOf (j : Json) : Option String := (Schema.str).decode j ""

structure ContentBlock where
  type : String
  text : String
  imageURL : Option String

def contentBlockOf : contentBlock.Val → ContentBlock
  | (type,text,image,_) => ⟨type,text,Option.map Prod.fst image⟩

def contentBlocks (j : Json) : Option (List ContentBlock) :=
  (blocksOf contentBlock j).map (·.map contentBlockOf)

def textBlock (b : ContentBlock) : Option String :=
  if b.type = "text" ∧ b.text ≠ "" then some b.text else none

def imageBlock (b : ContentBlock) : Option String :=
  b.imageURL.filter (fun url => b.type = "image_url" ∧ url ≠ "")

def ChatMessage.textContent (m : ChatMessage) : String :=
  match m.content with
  | none => ""
  | some j => match stringOf j with
    | some s => s
    | none => match contentBlocks j with
      | none => ""
      | some blocks => " ".intercalate (blocks.filterMap textBlock)

def ChatMessage.imageURLs (m : ChatMessage) : List String :=
  match m.content.bind contentBlocks with
  | none => []
  | some blocks => blocks.filterMap imageBlock

def providerBlocks (text : String) (urls : List String) : List Orchestrator.MessageContentBlock :=
  if urls = [] then []
  else (if text = "" then [] else [{ type := "text", text := text }]) ++
    urls.map (fun url => { type := "image_url", imageURL := some url })

def toProviderMessages (msgs : List ChatMessage) : List Orchestrator.ChatMessage :=
  msgs.map (fun m =>
    { role := m.role
      content := m.textContent
      toolCalls := m.toolCalls
      toolCallID := m.toolCallID
      contentBlocks := providerBlocks m.textContent m.imageURLs })

def textMessage (role text : String) : ChatMessage := { role := role, content := some (.str text) }

inductive APIStyle where
  | openAIChat
  | openAIResponses
  | anthropicMessages
  | gemini
  | ml
  deriving DecidableEq, Repr

structure ParsedRequest where
  tenantID : String
  bodyModel : String := ""
  messages : List ChatMessage := []
  maxTokens : Option Int := none
  temperature : Option Float := none
  topP : Option Float := none
  stream : Bool := false
  tools : String := ""
  toolChoice : String := ""
  metadata : Option Json.Entries := none
  headers : String → String
  messageTexts : List String := []
  messageImageURLs : List String := []
  rawBody : Option String := none
  apiStyle : APIStyle
  systemPrompt : String := ""
  responseFormat : String := ""
  reasoning : String := ""
  safetySettings : String := ""
  providerOptions : List (String × Json) := []

def ParsedRequest.withTexts (pr : ParsedRequest) : ParsedRequest :=
  { pr with
    messageTexts := pr.messages.map ChatMessage.textContent
    messageImageURLs := pr.messages.flatMap ChatMessage.imageURLs }

structure Call where
  tenantID : String
  headers : String → String

structure ChatCompletionRequest where
  model : String := ""
  messages : List ChatMessage := []
  maxTokens : Option Int := none
  temperature : Option Float := none
  topP : Option Float := none
  stream : Bool := false
  tools : String := ""
  toolChoice : String := ""
  metadata : Option Json.Entries := none

def parseChatCompletionsRequest (call : Call) (raw : String)
    (decoded : Except String ChatCompletionRequest) : Except String ParsedRequest :=
  if call.headers "X-Model-Type" = "ml" then
    .ok { tenantID := call.tenantID, headers := call.headers, rawBody := some raw, apiStyle := .ml }
  else decoded.map (fun req => ParsedRequest.withTexts
    { tenantID := call.tenantID
      bodyModel := req.model
      messages := req.messages
      maxTokens := req.maxTokens
      temperature := req.temperature
      topP := req.topP
      stream := req.stream
      tools := req.tools
      toolChoice := req.toolChoice
      metadata := req.metadata
      headers := call.headers
      apiStyle := .openAIChat })

structure AnthropicInputMessage where
  role : String
  content : Option Json

structure AnthropicMessagesRequest where
  model : String := ""
  messages : List AnthropicInputMessage := []
  system : String := ""
  maxTokens : Option Int := none
  tools : String := ""
  toolChoice : String := ""
  temperature : Option Float := none
  topP : Option Float := none
  stream : Bool := false
  thinking : String := ""
  metadata : Option Json.Entries := none
  stopSequences : List String := []

def inputBlock : Schema := record [req "type" .str,req "text" .str]

def inputBlockText : inputBlock.Val → Option String
  | (type,text,_) => textOrMark type text
where
  textOrMark (type text : String) : Option String :=
    if type = "text" then (if text = "" then none else some text) else some ("[" ++ type ++ "]")

def extractTextFromContent (raw : Option Json) : String :=
  match raw with
  | none => ""
  | some j => match stringOf j with
    | some s => s
    | none => match blocksOf inputBlock j with
      | some blocks => "\n".intercalate (blocks.filterMap inputBlockText)
      | none => ""

def parseAnthropicMessagesRequest (call : Call)
    (decoded : Except String AnthropicMessagesRequest) : Except String ParsedRequest :=
  match decoded with
  | .error err => .error err
  | .ok req =>
    if req.maxTokens = none then .error "max_tokens is required"
    else .ok (ParsedRequest.withTexts
      { tenantID := call.tenantID
        bodyModel := req.model
        messages := req.messages.map (fun m => textMessage m.role (extractTextFromContent m.content))
        systemPrompt := req.system
        maxTokens := req.maxTokens
        temperature := req.temperature
        topP := req.topP
        stream := req.stream
        tools := req.tools
        toolChoice := req.toolChoice
        reasoning := req.thinking
        metadata := req.metadata
        headers := call.headers
        apiStyle := .anthropicMessages
        providerOptions :=
          if req.stopSequences = [] then []
          else [("stop_sequences",.arr (req.stopSequences.map .str))] })

structure GeminiContent where
  role : String := ""
  -- the texts of the parts
  parts : List String := []

structure GeminiGenerationConfig where
  maxOutputTokens : Option Int := none
  temperature : Option Float := none
  topP : Option Float := none

structure GeminiGenerateContentRequest where
  contents : List GeminiContent := []
  systemInstruction : Option GeminiContent := none
  generationConfig : Option GeminiGenerationConfig := none
  safetySettings : String := ""

def extractGeminiModel (path : String) : String :=
  match path.toList.dropPrefix? "/v1/models/".toList with
  | none => ""
  | some rest => if ':' ∈ rest then String.ofList (rest.takeWhile (· ≠ ':')) else ""

def GeminiContent.text (c : GeminiContent) : String := "\n".intercalate (c.parts.filter (· ≠ ""))

def parseGeminiGenerateContentRequest (call : Call) (path : String) (stream : Bool)
    (decoded : Except String GeminiGenerateContentRequest) : Except String ParsedRequest :=
  if extractGeminiModel path = "" then .error "model path parameter is required"
  else decoded.map (fun req => ParsedRequest.withTexts
    { tenantID := call.tenantID
      bodyModel := extractGeminiModel path
      messages := req.contents.map (fun c =>
        textMessage (if c.role = "model" then "assistant" else "user") c.text)
      systemPrompt := (req.systemInstruction.map GeminiContent.text).getD ""
      stream := stream
      safetySettings := req.safetySettings
      headers := call.headers
      apiStyle := .gemini
      maxTokens := req.generationConfig.bind (·.maxOutputTokens)
      temperature := req.generationConfig.bind (·.temperature)
      topP := req.generationConfig.bind (·.topP) })

/-- The `input` of a Responses request after its own `json.Unmarshal`. -/
inductive ResponsesInput where
  | absent
  | text (s : String)
  | messages (l : List ChatMessage)
  | invalid (err : String)

structure ResponsesAPIRequest where
  model : String := ""
  input : ResponsesInput := .absent
  instructions : String := ""
  reasoning : String := ""
  textFormat : String := ""
  tools : String := ""
  toolChoice : String := ""
  maxOutputTokens : Option Int := none
  temperature : Option Float := none
  topP : Option Float := none
  stream : Bool := false
  metadata : Option Json.Entries := none

def ResponsesInput.toMessages : ResponsesInput → Except String (List ChatMessage)
  | .absent => .ok []
  | .text s => .ok [textMessage "user" s]
  | .messages l => .ok l
  | .invalid err => .error err

def parseResponsesAPIRequest (call : Call) (decoded : Except String ResponsesAPIRequest) :
    Except String ParsedRequest :=
  match decoded with
  | .error err => .error err
  | .ok req => match req.input.toMessages with
    | .error err => .error err
    | .ok messages => .ok (ParsedRequest.withTexts
      { tenantID := call.tenantID
        bodyModel := req.model
        messages := messages
        systemPrompt := req.instructions
        reasoning := req.reasoning
        responseFormat := req.textFormat
        tools := req.tools
        toolChoice := req.toolChoice
        maxTokens := req.maxOutputTokens
        temperature := req.temperature
        topP := req.topP
        stream := req.stream
        metadata := req.metadata
        headers := call.headers
        apiStyle := .openAIResponses })

end PrismGateway.Api
