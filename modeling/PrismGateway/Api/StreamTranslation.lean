import PrismGateway.Api.FinishReasons
import PrismGateway.Lib.JsonParse
import PrismGateway.Lib.Schema
import PrismGateway.Lib.Utf8

namespace PrismGateway.Api

open Lib Providers Orchestrator

section Payload

/-- A struct with the fields `names`, as `json.Unmarshal` fills it in the order of the document. -/
def decodeStruct {α : Type} (names : List String) (set : String → Doc → α → Option α) (v : α) :
    Doc → Option α
  | .null => some v
  | .obj entries => entries.foldlM (fun v e => match fieldFor names e.1 with
      | some name => set name e.2 v
      | none => some v) v
  | _ => none

def decodeText (v : String) : Doc → Option String
  | .null => some v
  | .str s => some s
  | _ => none

def decodeInt (v : Int) : Doc → Option Int
  | .null => some v
  | .num n => GoStrings.atoi (String.ofList n.chars)
  | _ => none

def decodeDelta : String → Doc → Option String :=
  decodeStruct ["content"] (fun _ d v => decodeText v d)

def decodeChoice : String → Doc → Option String :=
  decodeStruct ["delta"] (fun _ d v => decodeDelta v d)

def decodeChoices (v : List String) : Doc → Option (List String)
  | .null => some []
  | .arr items => items.zipIdx.mapM (fun e => decodeChoice (v.getD e.2 "") e.1)
  | _ => none

def streamChunkPayload : Doc → Option (List String) :=
  decodeStruct ["choices"] (fun _ d v => decodeChoices v d) []

def decodeUsage (v : Int × Int × Int) : Doc → Option (Int × Int × Int) :=
  decodeStruct ["prompt_tokens","completion_tokens","total_tokens"] (fun name d v =>
    if name = "prompt_tokens" then (decodeInt v.1 d).map (fun n => (n,v.2))
    else if name = "completion_tokens" then (decodeInt v.2.1 d).map (fun n => (v.1,n,v.2.2))
    else (decodeInt v.2.2 d).map (fun n => (v.1,v.2.1,n))) v

def usageChunk (d : Doc) : Option (Int × Int × Int) :=
  (decodeStruct ["usage"] (fun _ d v => match d with
    | .null => some none
    | d => (decodeUsage (v.getD (0,0,0)) d).map some) none d).join

def unmarshalReader : ChunkReader where
  contents line := (Doc.parse line).bind streamChunkPayload
  usage line := (Doc.parse line).bind usageChunk

def rawMessage (s : String) : Doc := (Doc.parse s.toList).getD .null

theorem wellFormed_rawMessage (s : String) : (rawMessage s).wellFormed = true := by
  unfold rawMessage
  cases h : Doc.parse s.toList with
  | none => rfl
  | some d => exact Doc.wellFormed_of_parse h

variable (content toolCallsDelta : String) (finishReason : Option String)

theorem wellFormed_chunkDoc :
    (chunkDoc rawMessage content toolCallsDelta finishReason).wellFormed = true := by
  have hraw := wellFormed_rawMessage toolCallsDelta
  have hindex : (int 0).wellFormed = true := by decide
  have htext (s : String) : (text s).wellFormed = true := rfl
  have hreason : ((finishReason.map text).getD .null).wellFormed = true := by
    cases finishReason <;> rfl
  unfold chunkDoc
  by_cases hc : content = "" <;> by_cases ht : toolCallsDelta = "" <;>
    simp [Doc.wellFormed,Doc.wellFormedEntries,Doc.wellFormedItems,hc,ht,hraw,hindex,htext,hreason]

theorem decodeDelta_chunk (raw : Doc) : decodeDelta ""
    (.obj ((if content = "" then [] else [("content",text content)]) ++
      (if toolCallsDelta = "" then [] else [("tool_calls",raw)]))) = some content := by
  have hcontent : fieldFor ["content"] "content" = some "content" := by decide
  have htools : fieldFor ["content"] "tool_calls" = none := by decide
  by_cases hc : content = "" <;> by_cases ht : toolCallsDelta = "" <;>
    simp [decodeDelta,decodeStruct,decodeText,text,hc,ht,hcontent,htools]

theorem streamChunkPayload_chunkDoc (raw : String → Doc) :
    streamChunkPayload (chunkDoc raw content toolCallsDelta finishReason) = some [content] := by
  have hobject : fieldFor ["choices"] "object" = none := by decide
  have hchoices : fieldFor ["choices"] "choices" = some "choices" := by decide
  have hindex : fieldFor ["delta"] "index" = none := by decide
  have hdelta : fieldFor ["delta"] "delta" = some "delta" := by decide
  have hreason : fieldFor ["delta"] "finish_reason" = none := by decide
  have hread := decodeDelta_chunk content toolCallsDelta (raw toolCallsDelta)
  simp [streamChunkPayload,chunkDoc,decodeStruct,decodeChoices,decodeChoice,hobject,hchoices,hindex,
    hdelta,hreason,hread]

theorem usageChunk_chunkDoc (raw : String → Doc) :
    usageChunk (chunkDoc raw content toolCallsDelta finishReason) = none := by
  have hobject : fieldFor ["usage"] "object" = none := by decide
  have hchoices : fieldFor ["usage"] "choices" = none := by decide
  simp [usageChunk,chunkDoc,decodeStruct,hobject,hchoices]

theorem contents_marshal : unmarshalReader.contents
    (chunkDoc rawMessage content toolCallsDelta finishReason).marshal = some [content] := by
  have hparse := Doc.parse_marshal (wellFormed_chunkDoc content toolCallsDelta finishReason)
  have hread := streamChunkPayload_chunkDoc content toolCallsDelta finishReason rawMessage
  simp only [unmarshalReader,hparse,Option.bind_some,hread]

theorem usage_marshal : unmarshalReader.usage
    (chunkDoc rawMessage content toolCallsDelta finishReason).marshal = none := by
  have hparse := Doc.parse_marshal (wellFormed_chunkDoc content toolCallsDelta finishReason)
  have hread := usageChunk_chunkDoc content toolCallsDelta finishReason rawMessage
  simp only [unmarshalReader,hparse,Option.bind_some,hread]

end Payload

section Bytes

def Writer.writeBytes : Writer × List UInt8 → List UInt8 → (Writer × List UInt8) × List SseEvent :=
  Framing.feed (fun w event => w.handleSSEEvent unmarshalReader (Utf8.decode event)) 10

def Writer.writesBytes :
    Writer × List UInt8 → List (List UInt8) → (Writer × List UInt8) × List SseEvent :=
  Framing.feeds (fun w event => w.handleSSEEvent unmarshalReader (Utf8.decode event)) 10

theorem Writer.cut_eq (l acc : List Char) : Writer.cut l acc = Framing.cut '\n' l acc := by
  fun_induction Framing.cut '\n' l acc with
  | case1 c d rest acc hmarks r ih =>
    obtain ⟨rfl,rfl⟩ := hmarks
    simp only [Writer.cut,r,ih]
  | case2 c d rest acc hmarks ih =>
    rw [Writer.cut,ih]
    rintro rest' rfl heq
    rw [List.cons.injEq] at heq
    exact hmarks ⟨rfl,heq.1⟩
  | case3 c acc =>
    rw [Writer.cut,Writer.cut]
    rintro rest' - heq
    cases heq
  | case4 acc => rfl

theorem Writer.buf_handleSSEEvent (reader : ChunkReader) (w : Writer) (event : List Char) :
    (w.handleSSEEvent reader event).1.buf = w.buf := by
  unfold Writer.handleSSEEvent
  dsimp only
  split
  · rfl
  · split
    · rfl
    · dsimp only
      split
      · cases reader.usage _ <;> rfl
      · rfl

theorem handleAll_encode (w : Writer) (events : List (List Char)) :
    Framing.handleAll (fun w event => w.handleSSEEvent unmarshalReader (Utf8.decode event)) w
      (events.map Utf8.encode) = w.handleEvents unmarshalReader events := by
  induction events generalizing w with
  | nil => rfl
  | cons event events ih =>
    simp only [List.map_cons,Framing.handleAll,Writer.handleEvents,Utf8.decode_encode,ih]

theorem Writer.buf_handleEvents (reader : ChunkReader) (w : Writer) (events : List (List Char)) :
    (w.handleEvents reader events).1.buf = w.buf := by
  induction events generalizing w with
  | nil => rfl
  | cons event events ih => exact (ih _).trans (Writer.buf_handleSSEEvent reader w event)

theorem Writer.writeBytes_encode (w : Writer) (p : List Char) :
    Writer.writeBytes ({ w with buf := [] },Utf8.encode w.buf) (Utf8.encode p) =
      (({ (w.write unmarshalReader p).1 with buf := [] },
        Utf8.encode (w.write unmarshalReader p).1.buf),(w.write unmarshalReader p).2) := by
  have hcut : Framing.cut 10 (Utf8.encode w.buf ++ Utf8.encode p) [] =
      ((Writer.cut (w.buf ++ p) []).1.map Utf8.encode,Utf8.encode (Writer.cut (w.buf ++ p) []).2) := by
    rw [← Utf8.encode_append,Writer.cut_eq]
    exact Utf8.cut_encode (w.buf ++ p) []
  have hbuf := Writer.buf_handleEvents unmarshalReader { w with buf := [] }
    (Writer.cut (w.buf ++ p) []).1
  have hself (x : Writer) (h : x.buf = []) : x = { x with buf := [] } := by
    cases x
    cases h
    rfl
  simp only [Writer.writeBytes,Framing.feed,hcut,handleAll_encode,Writer.write]
  exact Prod.ext (Prod.ext (hself _ hbuf) rfl) rfl

end Bytes

section Law

def SseEvent.line (e : SseEvent) : List Char :=
  "data: ".toList ++ (match e.data with
    | none => "[DONE]".toList
    | some d => d.marshal)

def streamBytes (stream : List StreamEvent) : List UInt8 :=
  Utf8.encode ((writeSSEStream rawMessage stream).1.flatMap SseEvent.render)

def Writer.closing (w : Writer) (output : String) : List SseEvent :=
  match w.style with
  | .anthropicMessages =>
    [emitContentBlockStop,{ w with accumulatedText := output }.emitMessageDelta,emitMessageStop]
  | .responsesAPI => [{ w with accumulatedText := output }.emitTextDone,emitCompleted]
  | .geminiGenerateContent => [w.emitFinalChunk,{ data := none }]

structure Delta where
  content : String
  toolCallsDelta : String := ""
  finishReason : Option String := none
  json : toolCallsDelta = "" ∨ (Doc.parse toolCallsDelta.toList).isSome

def Delta.event (d : Delta) : StreamEvent := .delta d.content d.toolCallsDelta d.finishReason

def Delta.sent (d : Delta) : SseEvent :=
  { data := some (chunkDoc rawMessage d.content d.toolCallsDelta d.finishReason) }

theorem writeSSEStream_deltas (deltas : List Delta) (reason : Option String) (usage : Option Usage) :
    (writeSSEStream rawMessage (deltas.map Delta.event ++ [StreamEvent.done reason usage])).1 =
      deltas.map Delta.sent ++ [{ data := none }] := by
  induction deltas with
  | nil => rfl
  | cons d deltas ih =>
    simp only [List.map_cons,List.cons_append,Delta.event,writeSSEStream] at ih ⊢
    rw [ih]
    rfl

theorem newline_not_mem_sent (d : Delta) : '\n' ∉ d.sent.line :=
  newline_not_mem_object _

theorem render_sent (d : Delta) : d.sent.render = d.sent.line ++ ['\n','\n'] := by
  unfold SseEvent.render SseEvent.line Delta.sent
  rfl

theorem cut_stream (deltas : List Delta) :
    Framing.cut 10 (Utf8.encode
      ((deltas.map Delta.sent ++ [(⟨none,none⟩ : SseEvent)]).flatMap SseEvent.render)) [] =
      ((deltas.map (fun d => d.sent.line) ++ ["data: [DONE]".toList]).map Utf8.encode,[]) := by
  induction deltas with
  | nil => decide
  | cons d deltas ih =>
    have hpiece := Utf8.newline_not_mem_encode (newline_not_mem_sent d)
    have hmarks (l : List Char) : Utf8.encode ('\n' :: '\n' :: l) = 10 :: 10 :: Utf8.encode l := rfl
    simp only [List.map_cons,List.cons_append,List.flatMap_cons,render_sent,List.append_assoc,
      List.nil_append]
    rw [Utf8.encode_append,hmarks,Framing.cut_piece 10 hpiece,ih]

variable (w : Writer)

def Writer.told (content : String) : Writer :=
  { w with firstWriteDone := true, accumulatedText := w.accumulatedText ++ content }

theorem handleSSEEvent_sent (d : Delta) : w.handleSSEEvent unmarshalReader d.sent.line =
    (w.told d.content,w.opening ++ [w.emitDelta d.content]) := by
  have hpayload : Writer.trimPrefix "data: ".toList (Writer.trimSpace d.sent.line) =
      (chunkDoc rawMessage d.content d.toolCallsDelta d.finishReason).marshal := payload_object _
  have hcontents := contents_marshal d.content d.toolCallsDelta d.finishReason
  have husage := usage_marshal d.content d.toolCallsDelta d.finishReason
  have hne : (chunkDoc rawMessage d.content d.toolCallsDelta d.finishReason).marshal ≠
      "[DONE]".toList := by
    simp [chunkDoc,Doc.marshal]
  unfold Writer.handleSSEEvent
  simp only [hpayload,hne,if_false,hcontents,husage,Writer.captureUsage,ite_self]
  rfl

theorem handleSSEEvent_done : (w.handleSSEEvent unmarshalReader "data: [DONE]".toList).2 =
    w.emitDone := by
  have hpayload : Writer.trimPrefix "data: ".toList (Writer.trimSpace "data: [DONE]".toList) =
      "[DONE]".toList := payload_done
  unfold Writer.handleSSEEvent
  simp only [hpayload,if_true]

theorem emitDone_eq (h : w.completedOnce = false) :
    w.emitDone = w.opening ++ w.closing w.accumulatedText := by
  unfold Writer.emitDone Writer.closing
  cases hs : w.style with
  | anthropicMessages =>
    simp only [h,Bool.false_eq_true,if_false,List.append_assoc]
    rfl
  | responsesAPI =>
    simp only [h,Bool.false_eq_true,if_false,List.append_assoc]
    rfl
  | geminiGenerateContent =>
    have hopening : w.opening = [] := by
      unfold Writer.opening
      split
      · rfl
      · simp [hs]
    simp [h,hopening]

theorem handleAll_stream (deltas : List Delta) (h : w.completedOnce = false) :
    (Framing.handleAll (fun w event => w.handleSSEEvent unmarshalReader (Utf8.decode event)) w
      ((deltas.map (fun d => d.sent.line) ++ ["data: [DONE]".toList]).map Utf8.encode)).2 =
      w.opening ++ deltas.map (fun d => w.emitDelta d.content) ++
        w.closing ((deltas.map Delta.content).foldl (· ++ ·) w.accumulatedText) := by
  induction deltas generalizing w with
  | nil =>
    simp only [List.map_nil,List.nil_append,List.map_cons,Framing.handleAll,Utf8.decode_encode,
      handleSSEEvent_done,emitDone_eq w h,List.append_nil,List.foldl_nil]
  | cons d deltas ih =>
    have hrest := ih (w.told d.content) h
    have hopening : (w.told d.content).opening = [] := rfl
    rw [hopening,List.nil_append] at hrest
    simp only [List.map_cons,List.cons_append,Framing.handleAll,Utf8.decode_encode,
      handleSSEEvent_sent,hrest,List.append_assoc,List.foldl_cons]
    rfl

def Style.openingNames : Style → List (Option String)
  | .anthropicMessages => [some "message_start",some "content_block_start",some "ping"]
  | .responsesAPI => [some "response.created",some "response.output_item.added"]
  | .geminiGenerateContent => []

def Style.deltaName : Style → Option String
  | .anthropicMessages => some "content_block_delta"
  | .responsesAPI => some "response.output_text.delta"
  | .geminiGenerateContent => none

def Style.closingNames : Style → List (Option String)
  | .anthropicMessages => [some "content_block_stop",some "message_delta",some "message_stop"]
  | .responsesAPI => [some "response.output_text.done",some "response.completed"]
  | .geminiGenerateContent => [none,none]

def Style.deltaText : Style → SseEvent → Option String
  | .anthropicMessages, e =>
    if e.name = some "content_block_delta" then
      ((e.data.bind (Doc.field "delta")).bind (Doc.field "text")).bind Doc.text?
    else none
  | .responsesAPI, e =>
    if e.name = some "response.output_text.delta" then
      (e.data.bind (Doc.field "delta")).bind Doc.text?
    else none
  | .geminiGenerateContent, e =>
    let candidate := (e.data.bind (Doc.field "candidates")).bind Doc.first
    if (candidate.bind (Doc.field "finishReason")).isNone then
      ((((candidate.bind (Doc.field "content")).bind (Doc.field "parts")).bind Doc.first).bind
        (Doc.field "text")).bind Doc.text?
    else none

def doneText (e : SseEvent) : Option String :=
  if e.name = some "response.output_text.done" then
    (e.data.bind (Doc.field "text")).bind Doc.text?
  else none

structure Translated (w : Writer) (contents : List String) (out : List SseEvent) : Prop where
  events : out = w.opening ++ contents.map w.emitDelta ++ w.closing (String.join contents)
  names : out.map SseEvent.name = w.style.openingNames ++
    List.replicate contents.length w.style.deltaName ++ w.style.closingNames
  texts : String.join (out.filterMap w.style.deltaText) = String.join contents
  output : w.style = .responsesAPI → out.filterMap doneText = [String.join contents]

theorem deltaText_emitDelta (content : String) :
    w.style.deltaText (w.emitDelta content) = some content := by
  unfold Writer.emitDelta
  cases w.style <;>
    simp [Style.deltaText,Writer.named,Doc.field,Doc.first,Doc.text?,text,List.lookup]

theorem doneText_emitDelta (content : String) : doneText (w.emitDelta content) = none := by
  unfold Writer.emitDelta
  cases w.style <;> simp [doneText,Writer.named]

theorem deltaText_opening : w.opening.filterMap w.style.deltaText = [] := by
  unfold Writer.opening
  split
  · rfl
  · cases w.style <;> simp [Style.deltaText,Writer.emitMessageStart,Writer.emitContentBlockStart,
      Writer.emitPing,Writer.emitCreated,Writer.emitOutputItemAdded,Writer.named]

theorem deltaText_closing (output : String) :
    (w.closing output).filterMap w.style.deltaText = [] := by
  unfold Writer.closing
  cases w.style <;> simp [Style.deltaText,Writer.emitContentBlockStop,Writer.emitMessageDelta,
    Writer.emitMessageStop,Writer.emitTextDone,Writer.emitCompleted,Writer.emitFinalChunk,
    Writer.named,Doc.field,Doc.first,List.lookup]

theorem translated (style : Style) (modelName id : String) (contents : List String) :
    Translated (.fresh style modelName id) contents
      ((Writer.fresh style modelName id).opening ++
        contents.map (Writer.fresh style modelName id).emitDelta ++
        (Writer.fresh style modelName id).closing (String.join contents)) := by
  set w := Writer.fresh style modelName id with hw
  refine ⟨rfl,?_,?_,?_⟩
  · have hdelta : (contents.map w.emitDelta).map SseEvent.name =
        List.replicate contents.length w.style.deltaName := by
      rw [List.map_map,List.map_eq_replicate_iff]
      intro content _
      rw [hw]
      cases style <;> rfl
    rw [List.map_append,List.map_append,hdelta,hw]
    cases style <;> rfl
  · have hdelta : (contents.map w.emitDelta).filterMap w.style.deltaText = contents := by
      rw [List.filterMap_map]
      refine (List.filterMap_congr fun content _ => deltaText_emitDelta w content).trans ?_
      exact List.filterMap_some
    rw [List.filterMap_append,List.filterMap_append,deltaText_opening,hdelta,deltaText_closing,
      List.nil_append,List.append_nil]
  · intro hstyle
    have hdelta : (contents.map w.emitDelta).filterMap doneText = [] := by
      rw [List.filterMap_map,List.filterMap_eq_nil_iff]
      exact fun content _ => doneText_emitDelta w content
    rw [List.filterMap_append,List.filterMap_append,hdelta,List.append_nil]
    obtain rfl : style = .responsesAPI := hstyle
    rfl

end Law

theorem stream_translated (style : Style) (modelName id : String) (deltas : List Delta)
    (reason : Option String) (usage : Option Usage) :
    ∃ out, Translated (.fresh style modelName id) (deltas.map Delta.content) out ∧
      ∀ ps : List (List UInt8),
        ps.flatten = streamBytes (deltas.map Delta.event ++ [StreamEvent.done reason usage]) →
          (Writer.writesBytes (.fresh style modelName id,[]) ps).2 = out := by
  refine ⟨_,translated style modelName id (deltas.map Delta.content),?_⟩
  intro ps hps
  have hrun := handleAll_stream (.fresh style modelName id) deltas rfl
  have hcut := cut_stream deltas
  rw [streamBytes,writeSSEStream_deltas] at hps
  rw [Writer.writesBytes,Framing.feeds_flatten,hps]
  simp only [Framing.feed,List.nil_append,hcut]
  rw [hrun,List.map_map]
  rfl

def greetingDeltas : List Delta :=
  [{ content := "Hé", json := .inl rfl },{ content := "", finishReason := some "stop", json := .inl rfl }]

/-- The second write starts inside the `é`, the third between the line feeds of the first event. -/
def threeWrites : List (List UInt8) :=
  let bytes := streamBytes (greetingDeltas.map Delta.event ++ [StreamEvent.done none none])
  [bytes.take 84,(bytes.take 112).drop 84,bytes.drop 112]

theorem greeting_translated :
    ∃ out, Translated (.fresh .anthropicMessages "opus" "msg_1") ["Hé",""] out ∧
      (Writer.writesBytes (.fresh .anthropicMessages "opus" "msg_1",[]) threeWrites).2 = out := by
  obtain ⟨out,htranslated,hsplit⟩ :=
    stream_translated .anthropicMessages "opus" "msg_1" greetingDeltas none none
  exact ⟨out,htranslated,hsplit threeWrites (by decide +kernel)⟩

end PrismGateway.Api
