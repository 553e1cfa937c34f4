import PrismGateway.Api.Handlers
import PrismGateway.Lib.JsonText

namespace PrismGateway.Providers

inductive StreamEvent where
  | delta (content : String) (toolCallsDelta : String) (finishReason : Option String)
  | done (finishReason : Option String) (usage : Option Usage)
  | error (err : String)
  deriving DecidableEq, Repr

def StreamEvent.isError : StreamEvent → Bool
  | .error _ => true
  | _ => false

end PrismGateway.Providers

namespace PrismGateway.Api

open Lib Providers Orchestrator

def text (s : String) : Doc := .str s

def int (n : Int) : Doc := .num (.ofInt n)

structure SseEvent where
  name : Option String := none
  data : Option Doc

def SseEvent.render (e : SseEvent) : List Char :=
  (match e.name with
    | none => []
    | some name => "event: ".toList ++ name.toList ++ ['\n']) ++ "data: ".toList ++
    (match e.data with
    | none => "[DONE]".toList
    | some d => d.marshal) ++ ['\n','\n']

def chunkDoc (raw : String → Doc) (content toolCallsDelta : String) (finishReason : Option String) :
    Doc :=
  .obj
    [("object",text "chat.completion.chunk"),
      ("choices",.arr [.obj
        [("index",int 0),
          ("delta",.obj ((if content = "" then [] else [("content",text content)]) ++
            (if toolCallsDelta = "" then [] else [("tool_calls",raw toolCallsDelta)]))),
          ("finish_reason",(finishReason.map text).getD .null)]])]

/-- How `writeSSEStream` ends: `completed` is what is logged as a stream that ran to its end. -/
inductive StreamEnd where
  | completed
  | failed (err : String)
  deriving DecidableEq, Repr

def writeSSEStream (raw : String → Doc) : List StreamEvent → List SseEvent × StreamEnd
  | [] => ([{ data := none }],.completed)
  | .error err :: _ => ([],.failed err)
  | .done _ _ :: _ => ([{ data := none }],.completed)
  | .delta content toolCallsDelta finishReason :: rest =>
      let r := writeSSEStream raw rest
      ({ data := some (chunkDoc raw content toolCallsDelta finishReason) } :: r.1,r.2)

inductive Style where
  | anthropicMessages
  | responsesAPI
  | geminiGenerateContent
  deriving DecidableEq, Repr

/-- What `json.Unmarshal` finds in a line: the contents of the choices of a chunk, and its usage. -/
structure ChunkReader where
  contents : List Char → Option (List String)
  usage : List Char → Option (Int × Int × Int)

structure Writer where
  style : Style
  modelName : String
  id : String
  buf : List Char := []
  firstWriteDone : Bool := false
  accumulatedText : String := ""
  completedOnce : Bool := false
  promptTokens : Int := 0
  candidatesTokens : Int := 0
  totalTokens : Int := 0

namespace Writer

def named (name : String) (entries : List (String × Doc)) : SseEvent :=
  { name := some name, data := some (.obj entries) }

def emitMessageStart (w : Writer) : SseEvent :=
  named "message_start"
    [("message",.obj
      [("id",text w.id),("model",text w.modelName),("role",text "assistant"),("type",text "message"),
        ("usage",.obj [("input_tokens",int 0)])]),
      ("type",text "message_start")]

def emitContentBlockStart : SseEvent :=
  named "content_block_start"
    [("content_block",.obj [("text",text ""),("type",text "text")]),("index",int 0),
      ("type",text "content_block_start")]

def emitPing : SseEvent := named "ping" [("type",text "ping")]

def emitCreated : SseEvent :=
  named "response.created" [("status",text "in_progress"),("type",text "response.created")]

def emitOutputItemAdded (w : Writer) : SseEvent :=
  named "response.output_item.added"
    [("item",.obj
      [("content",.arr []),("id",text w.id),("role",text "assistant"),("status",text "in_progress"),
        ("type",text "message")]),
      ("output_index",int 0),("type",text "response.output_item.added")]

def opening (w : Writer) : List SseEvent :=
  if w.firstWriteDone then []
  else match w.style with
    | .anthropicMessages => [w.emitMessageStart,emitContentBlockStart,emitPing]
    | .responsesAPI => [emitCreated,w.emitOutputItemAdded]
    | .geminiGenerateContent => []

def emitDelta (w : Writer) (delta : String) : SseEvent :=
  match w.style with
  | .anthropicMessages => named "content_block_delta"
      [("delta",.obj [("text",text delta),("type",text "text_delta")]),("index",int 0),
        ("type",text "content_block_delta")]
  | .responsesAPI => named "response.output_text.delta"
      [("content_index",int 0),("delta",text delta),("item_id",text w.id),("output_index",int 0),
        ("type",text "response.output_text.delta")]
  | .geminiGenerateContent =>
      { data := some (.obj [("candidates",.arr [.obj
          [("content",.obj [("parts",.arr [.obj [("text",text delta)]]),("role",text "model")]),
            ("index",int 0)]])]) }

def emitContentBlockStop : SseEvent :=
  named "content_block_stop" [("index",int 0),("type",text "content_block_stop")]

def emitMessageDelta (w : Writer) : SseEvent :=
  named "message_delta"
    [("delta",.obj [("stop_reason",text "end_turn"),("stop_sequence",.null)]),
      ("type",text "message_delta"),
      ("usage",.obj [("output_tokens",int ((w.accumulatedText.utf8ByteSize + 3) / 4))])]

def emitMessageStop : SseEvent := named "message_stop" [("type",text "message_stop")]

def emitTextDone (w : Writer) : SseEvent :=
  named "response.output_text.done"
    [("content_index",int 0),("item_id",text w.id),("output_index",int 0),
      ("text",text w.accumulatedText),("type",text "response.output_text.done")]

def emitCompleted : SseEvent :=
  named "response.completed" [("status",text "completed"),("type",text "response.completed")]

def emitFinalChunk (w : Writer) : SseEvent :=
  { data := some (.obj
      [("candidates",.arr [.obj
        [("content",.obj [("parts",.arr [.obj [("text",text "")]]),("role",text "model")]),
          ("finishReason",text "STOP"),("index",int 0)]]),
        ("usageMetadata",.obj
          [("candidatesTokenCount",int w.candidatesTokens),("promptTokenCount",int w.promptTokens),
            ("totalTokenCount",int w.totalTokens)])]) }

def emitDone (w : Writer) : List SseEvent :=
  match w.style with
  | .anthropicMessages =>
      w.opening ++ [emitContentBlockStop,w.emitMessageDelta] ++
        if w.completedOnce then [] else [emitMessageStop]
  | .responsesAPI =>
      w.opening ++ [w.emitTextDone] ++ if w.completedOnce then [] else [emitCompleted]
  | .geminiGenerateContent =>
      if w.completedOnce then [] else [w.emitFinalChunk,{ data := none }]

def trimSpace (l : List Char) : List Char :=
  ((l.dropWhile GoStrings.isSpace).reverse.dropWhile GoStrings.isSpace).reverse

def trimPrefix (p l : List Char) : List Char := if p.isPrefixOf l then l.drop p.length else l

def captureUsage (w : Writer) : Option (Int × Int × Int) → Writer
  | none => w
  | some (prompt,candidates,total) =>
      { w with promptTokens := prompt, candidatesTokens := candidates, totalTokens := total }

def handleSSEEvent (reader : ChunkReader) (w : Writer) (event : List Char) : Writer × List SseEvent :=
  let line := trimPrefix "data: ".toList (trimSpace event)
  if line = "[DONE]".toList then
    ({ w with firstWriteDone := true, completedOnce := true },w.emitDone)
  else match reader.contents line with
    | none => (w,[])
    | some contents =>
        let deltaText := contents.head?.getD ""
        let w' := if w.style = .geminiGenerateContent then w.captureUsage (reader.usage line) else w
        ({ w' with firstWriteDone := true, accumulatedText := w.accumulatedText ++ deltaText },
          w.opening ++ [w.emitDelta deltaText])

def cut : List Char → List Char → List (List Char) × List Char
  | '\n' :: '\n' :: rest, acc => ((acc.reverse :: (cut rest []).1),(cut rest []).2)
  | c :: rest, acc => cut rest (c :: acc)
  | [], acc => ([],acc.reverse)

def handleEvents (reader : ChunkReader) : Writer → List (List Char) → Writer × List SseEvent
  | w, [] => (w,[])
  | w, event :: rest =>
      let r := w.handleSSEEvent reader event
      let t := handleEvents reader r.1 rest
      (t.1,r.2 ++ t.2)

def write (reader : ChunkReader) (w : Writer) (p : List Char) : Writer × List SseEvent :=
  let r := cut (w.buf ++ p) []
  let t := handleEvents reader { w with buf := [] } r.1
  ({ t.1 with buf := r.2 },t.2)

def writes (reader : ChunkReader) : Writer → List (List Char) → Writer × List SseEvent
  | w, [] => (w,[])
  | w, p :: rest =>
      let r := w.write reader p
      let t := writes reader r.1 rest
      (t.1,r.2 ++ t.2)

def fresh (style : Style) (modelName id : String) : Writer :=
  { style := style, modelName := modelName, id := id }

def received (reader : ChunkReader) (style : Style) (modelName id : String) (ps : List (List Char)) :
    List Char :=
  ((fresh style modelName id).writes reader ps).2.flatMap SseEvent.render

theorem cut_append {line : List Char} (h : '\n' ∉ line) (rest acc : List Char) :
    cut (line ++ rest) acc = cut rest (line.reverse ++ acc) := by
  induction line generalizing acc with
  | nil => rfl
  | cons c line ih =>
    rw [List.mem_cons,not_or] at h
    obtain ⟨hc,hline⟩ := h
    have hstep : cut (c :: (line ++ rest)) acc = cut (line ++ rest) (c :: acc) := by
      rw [cut]
      intro _ heq
      exact absurd heq.symm hc
    rw [List.cons_append,hstep,ih hline,List.reverse_cons,List.append_assoc]
    rfl

theorem cut_line {line : List Char} (h : '\n' ∉ line) :
    cut (line ++ ['\n']) [] = ([],line ++ ['\n']) := by
  rw [cut_append h]
  simp [cut]

theorem cut_event {line : List Char} (h : '\n' ∉ line) (rest : List Char) :
    cut (line ++ '\n' :: '\n' :: rest) [] = (line :: (cut rest []).1,(cut rest []).2) := by
  rw [cut_append h]
  simp [cut]

end Writer

end PrismGateway.Api
