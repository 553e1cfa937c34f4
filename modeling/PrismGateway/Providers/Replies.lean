import PrismGateway.Orchestrator.Attempts

namespace PrismGateway.Providers

open Config Orchestrator

structure Usage where
  promptTokens : Int := 0
  completionTokens : Int := 0
  totalTokens : Int := 0
  cachedInputTokens : Int := 0
  deriving DecidableEq, Repr

structure ChatChoice where
  index : Int := 0
  message : ChatMessage
  finishReason : String
  deriving DecidableEq, Repr

structure ChatBody where
  id : String
  object : String
  created : Int
  model : String
  choices : List ChatChoice
  usage : Usage
  deriving DecidableEq, Repr

structure AnthropicContentBlock where
  type : String
  text : String
  deriving DecidableEq, Repr

structure MessagesBody where
  id : String
  type : String
  role : String
  content : List AnthropicContentBlock
  model : String
  stopReason : String
  inputTokens : Int
  outputTokens : Int
  cacheReadInputTokens : Int := 0
  deriving DecidableEq, Repr

structure ResponsesContent where
  type : String
  text : String
  deriving DecidableEq, Repr

structure ResponsesOutputItem where
  type : String
  id : String := ""
  role : String := ""
  status : String := ""
  content : List ResponsesContent
  deriving DecidableEq, Repr

structure ResponsesBody where
  id : String
  object : String
  createdAt : Int
  model : String
  status : String
  output : List ResponsesOutputItem
  inputTokens : Int
  outputTokens : Int
  totalTokens : Int
  cachedTokens : Int := 0
  deriving DecidableEq, Repr

inductive Body where
  | chat (b : ChatBody)
  | messages (b : MessagesBody)
  | responses (b : ResponsesBody)
  deriving DecidableEq, Repr

structure ChatResponse where
  id : String
  object : String
  created : Int
  model : String
  choices : List ChatChoice
  usage : Usage
  rawBody : Option Body := none
  deriving DecidableEq, Repr

def ChatBody.toResponse (b : ChatBody) : ChatResponse :=
  ⟨b.id,b.object,b.created,b.model,b.choices,b.usage,none⟩

def concatText (l : List String) : String := l.foldl (· ++ ·) ""

@[simp]
theorem concatText_singleton (s : String) : concatText [s] = s := by simp [concatText]

def translateResponse (now : Int) (resp : MessagesBody) : ChatResponse where
  id := resp.id
  object := "chat.completion"
  created := now
  model := resp.model
  choices :=
    [{ message :=
         { role := "assistant"
           content := concatText ((resp.content.filter (·.type = "text")).map (·.text)) }
       finishReason := if resp.stopReason = "max_tokens" then "length" else "stop" }]
  usage :=
    { promptTokens := resp.inputTokens
      completionTokens := resp.outputTokens
      totalTokens := resp.inputTokens + resp.outputTokens
      cachedInputTokens := resp.cacheReadInputTokens }

def outputText (item : ResponsesOutputItem) : String :=
  concatText ((item.content.filter (·.type = "output_text")).map (·.text))

def mapResponsesRawToChat (raw : ResponsesBody) : ChatResponse where
  id := raw.id
  object := "chat.completion"
  created := 0
  model := raw.model
  choices := (raw.output.filter (·.type = "message")).map (fun item =>
    { message := { role := "assistant", content := outputText item }, finishReason := "stop" })
  usage :=
    { promptTokens := raw.inputTokens
      completionTokens := raw.outputTokens
      totalTokens := raw.totalTokens
      cachedInputTokens := raw.cachedTokens }

inductive Family where
  | openAICompat
  | anthropic
  | gemini
  | bedrock
  | mock
  deriving DecidableEq, Repr

def familyOf (type : String) : Option Family :=
  if type = "anthropic" then some .anthropic
  else if type = "gemini" then some .gemini
  else if type = "cohere" then none
  else if type = "aws_bedrock" then some .bedrock
  else some .openAICompat

structure Upstream where
  now : Int
  chat : ChatRequest → ChatBody
  responses : ChatRequest → ResponsesBody
  messages : ChatRequest → MessagesBody
  -- Gemini, Bedrock and the mock provider build the response field by field
  built : ChatRequest → ChatBody

def Upstream.chatCompletion (up : Upstream) (req : ChatRequest) : Family → ChatResponse
  | .openAICompat =>
    if req.useResponsesAPI then
      { mapResponsesRawToChat (up.responses req) with rawBody := some (.responses (up.responses req)) }
    else { (up.chat req).toResponse with rawBody := some (.chat (up.chat req)) }
  | .anthropic =>
    { translateResponse up.now (up.messages req) with rawBody := some (.messages (up.messages req)) }
  | .gemini => (up.built req).toResponse
  | .bedrock => (up.built req).toResponse
  | .mock => (up.built req).toResponse

end PrismGateway.Providers
