import PrismGateway.Api.FinishReasons
import PrismGateway.Api.Requests
import PrismGateway.Api.Streaming
import PrismGateway.Lib.FloatText
import PrismGateway.Providers.Replies

namespace PrismGateway.Providers

open Lib Orchestrator
open Api (text int)

def slice : List Doc → Doc
  | [] => .null
  | items => .arr items

def optional (name : String) : Option Doc → List (String × Doc)
  | none => []
  | some d => [(name,d)]

def temperatureDoc : Option Float → Except String (Option Doc)
  | none => .ok none
  | some t => (FloatText.marshal t).map (fun n => some (.num n.1))

structure UpstreamError where
  statusCode : ℕ
  body : String
  deriving DecidableEq

namespace Anthropic

structure Message where
  role : String
  content : Doc

structure Request where
  model : String
  messages : List Message
  system : String := ""
  maxTokens : ℤ
  temperature : Option Float := none

def inputBlock (cb : MessageContentBlock) : Option Doc :=
  if cb.type = "text" then
    if cb.text ≠ "" then some (.obj [("type",text "text"),("text",text cb.text)]) else none
  else if cb.type = "image_url" then
    match cb.imageURL with
    | none => none
    | some url =>
      if url ≠ "" then
        some (.obj [("type",text "image"),("source",.obj [("type",text "url"),("url",text url)])])
      else none
  else none

def anthropicContent (msg : ChatMessage) : Doc :=
  if msg.contentBlocks = [] then text msg.content
  else slice (msg.contentBlocks.filterMap inputBlock)

/-- An iteration of the loop of `translateRequest`, over the system prompt and the messages so far. -/
def translateMessage (acc : String × List Message) (msg : ChatMessage) : String × List Message :=
  if msg.role = "system" then
    ((if acc.1 ≠ "" then acc.1 ++ "\n\n" else acc.1) ++ msg.content,acc.2)
  else if msg.role = "user" ∨ msg.role = "assistant" then
    (acc.1,acc.2 ++ [⟨msg.role,anthropicContent msg⟩])
  else (acc.1,acc.2 ++ [⟨"user",anthropicContent msg⟩])

def translateRequest (req : ChatRequest) : Request :=
  let acc := req.messages.foldl translateMessage ("",[])
  { model := req.model
    messages := if acc.2 = [] then [⟨"user",text ""⟩] else acc.2
    system := acc.1
    maxTokens := req.maxTokens.getD 4096
    temperature := req.temperature }

variable (r : Request)

def Request.messagesDoc : Doc :=
  .arr (r.messages.map (fun m => .obj [("role",text m.role),("content",m.content)]))

def Request.systemDoc : Option Doc := if r.system = "" then none else some (text r.system)

def Request.plainDoc (temperature : Option Doc) : Doc :=
  .obj ([("model",text r.model),("messages",r.messagesDoc)] ++ optional "system" r.systemDoc ++
    [("max_tokens",int r.maxTokens)] ++ optional "temperature" temperature)

-- `ChatCompletionStream` marshals a map, so its keys are sorted.
def Request.streamDoc (temperature : Option Doc) : Doc :=
  .obj ([("max_tokens",int r.maxTokens),("messages",r.messagesDoc),("model",text r.model),
    ("stream",.bool true)] ++ optional "system" r.systemDoc ++ optional "temperature" temperature)

def Request.body (streaming : Bool) : Except String Doc :=
  if streaming then
    ((temperatureDoc r.temperature).mapError ("marshal anthropic stream request: " ++ ·)).map r.streamDoc
  else ((temperatureDoc r.temperature).mapError ("marshal anthropic request: " ++ ·)).map r.plainDoc

end Anthropic

namespace Gemini

structure Part where
  text : String := ""
  fileURI : Option String := none
  deriving DecidableEq

structure Content where
  role : String
  parts : List Part
  deriving DecidableEq

structure Request where
  contents : List Content
  systemInstruction : Option Content := none
  maxOutputTokens : ℤ
  temperature : Option Float := none

def blockPart (cb : MessageContentBlock) : Option Part :=
  if cb.type = "text" then
    if cb.text ≠ "" then some { text := cb.text } else none
  else if cb.type = "image_url" then
    match cb.imageURL with
    | none => none
    | some url => if url ≠ "" then some { fileURI := some url } else none
  else none

def geminiParts (msg : ChatMessage) : List Part :=
  if msg.contentBlocks = [] then [{ text := msg.content }]
  else
    let parts := msg.contentBlocks.filterMap blockPart
    if parts = [] then [{ text := "" }] else parts

def translateMessage (acc : List Part × List Content) (msg : ChatMessage) :
    List Part × List Content :=
  if msg.role = "system" then (acc.1 ++ [{ text := msg.content }],acc.2)
  else if msg.role = "assistant" then (acc.1,acc.2 ++ [⟨"model",geminiParts msg⟩])
  else (acc.1,acc.2 ++ [⟨"user",geminiParts msg⟩])

def translateRequest (req : ChatRequest) : Request :=
  let acc := req.messages.foldl translateMessage ([],[])
  { contents := if acc.2 = [] then [⟨"user",[{ text := "" }]⟩] else acc.2
    systemInstruction := if acc.1 = [] then none else some ⟨"user",acc.1⟩
    maxOutputTokens := req.maxTokens.getD 4096
    temperature := req.temperature }

-- a part whose text is empty is written with no field at all
def Part.doc (p : Part) : Doc :=
  .obj ((if p.text = "" then [] else [("text",Api.text p.text)]) ++
    optional "file_data" (p.fileURI.map (fun uri => Doc.obj [("file_uri",Api.text uri)])))

def Content.doc (c : Content) : Doc :=
  .obj [("role",text c.role),("parts",.arr (c.parts.map Part.doc))]

variable (r : Request)

def Request.doc (temperature : Option Doc) : Doc :=
  .obj ([("contents",Doc.arr (r.contents.map Content.doc))] ++
    optional "systemInstruction" (r.systemInstruction.map Content.doc) ++
    [("generationConfig",Doc.obj (
      (if r.maxOutputTokens = 0 then [] else [("maxOutputTokens",int r.maxOutputTokens)]) ++
        optional "temperature" temperature))])

def Request.body (streaming : Bool) : Except String Doc :=
  ((temperatureDoc r.temperature).mapError
    ((if streaming then "marshal gemini stream request: " else "marshal gemini request: ") ++ ·)).map r.doc

end Gemini

namespace Converse

inductive Role where
  | user
  | assistant
  deriving DecidableEq

structure Message where
  role : Role
  text : String
  deriving DecidableEq

def blockText (cb : MessageContentBlock) : Option String :=
  if cb.type = "text" ∧ cb.text ≠ "" then some cb.text else none

def textFromChatMessage (msg : ChatMessage) : String :=
  if msg.contentBlocks = [] then msg.content
  else
    let s := "\n".intercalate (msg.contentBlocks.filterMap blockText)
    if s ≠ "" then s else msg.content

def unsupported : UpstreamError where
  statusCode := 400
  body := "\x7b\"error\":\"non-text message content is not supported for Bedrock in this gateway version\"\x7d"

/-- `bedrockOpenAIMessagesToConverse`, with the system paragraphs and the messages so far. -/
def convert (acc : List String × List Message) : List ChatMessage →
    Except UpstreamError (List String × List Message)
  | [] => .ok acc
  | msg :: msgs =>
    let t := textFromChatMessage msg
    if msg.role = "system" then
      convert (if t ≠ "" then (acc.1 ++ [t],acc.2) else acc) msgs
    else if msg.role = "user" ∨ msg.role = "assistant" then
      let role := if msg.role = "assistant" then Role.assistant else .user
      if t = "" ∧ msg.contentBlocks = [] then convert acc msgs
      else if t = "" then .error unsupported
      else convert (acc.1,acc.2 ++ [⟨role,t⟩]) msgs
    else convert (if t = "" then acc else (acc.1,acc.2 ++ [⟨.user,t⟩])) msgs

def bedrockOpenAIMessagesToConverse (msgs : List ChatMessage) :
    Except UpstreamError (Option String × List Message) :=
  match convert ([],[]) msgs with
  | .error e => .error e
  | .ok (sysParts,out) => .ok (if sysParts = [] then none else some ("\n\n".intercalate sysParts),out)

structure InferenceConfiguration where
  maxTokens : Option ℤ := none
  temperature : Option Float32 := none
  topP : Option Float32 := none

-- The token limit is cut to 32 bits.
def bedrockInferenceConfig (req : ChatRequest) : Option InferenceConfiguration :=
  let maxTokens := (req.maxTokens.filter (fun n => 0 < n)).map (fun n => Int.bmod n (2 ^ 32))
  if maxTokens = none ∧ req.temperature = none ∧ req.topP = none then none
  else some ⟨maxTokens,req.temperature.map Float.toFloat32,req.topP.map Float.toFloat32⟩

structure Input where
  modelId : String
  messages : List Message
  system : Option String
  inferenceConfig : Option InferenceConfiguration

def noModel : UpstreamError where
  statusCode := 400
  body := "\x7b\"error\":\"provider_model_id is required for Bedrock models\"\x7d"

def noMessage : UpstreamError where
  statusCode := 400
  body := "\x7b\"error\":\"at least one user or assistant message is required\"\x7d"

def modelID (req : ChatRequest) : String :=
  if GoStrings.trimSpace req.providerModelID = "" then GoStrings.trimSpace req.model
  else GoStrings.trimSpace req.providerModelID

def input (streaming : Bool) (req : ChatRequest) : Except UpstreamError Input :=
  if modelID req = "" then .error noModel
  else match bedrockOpenAIMessagesToConverse req.messages with
    | .error e => .error e
    | .ok (system,messages) =>
      if messages = [] then .error noMessage
      else .ok ⟨modelID req,messages,system,if streaming then none else bedrockInferenceConfig req⟩

end Converse

end PrismGateway.Providers
