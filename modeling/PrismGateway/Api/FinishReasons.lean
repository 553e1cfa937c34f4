import PrismGateway.Api.Streaming

namespace PrismGateway.Lib.Doc

def field (k : String) : Doc → Option Doc
  | .obj entries => entries.lookup k
  | _ => none

def first : Doc → Option Doc
  | .arr items => items.head?
  | _ => none

def text? : Doc → Option String
  | .str s => some s
  | _ => none

end PrismGateway.Lib.Doc

namespace PrismGateway.Api

open Lib Providers Orchestrator

def finishReasonToGemini (reason : String) : String :=
  if reason = "stop" ∨ reason = "" then "STOP"
  else if reason = "length" then "MAX_TOKENS"
  else "OTHER"

structure GeminiCandidate where
  content : GeminiContent
  finishReason : String
  index : Int

structure GeminiGenerateContentResponse where
  candidates : List GeminiCandidate
  promptTokenCount : Int
  candidatesTokenCount : Int
  totalTokenCount : Int

def canonicalToGeminiResponse (cr : CanonicalResponse) : GeminiGenerateContentResponse where
  candidates := cr.choices.map (fun c =>
    ⟨⟨"model",[c.message.content]⟩,finishReasonToGemini c.finishReason,c.index⟩)
  promptTokenCount := cr.usage.promptTokens
  candidatesTokenCount := cr.usage.completionTokens
  totalTokenCount := cr.usage.totalTokens

inductive Surface where
  | chatCompletions
  | translated (style : Style)
  deriving DecidableEq, Repr

namespace Surface

def finishOf : Surface → SseEvent → Option String
  | .chatCompletions, e =>
      (((e.data.bind (Doc.field "choices")).bind Doc.first).bind (Doc.field "finish_reason")).bind
        Doc.text?
  | .translated .anthropicMessages, e =>
      if e.name = some "message_delta" then
        ((e.data.bind (Doc.field "delta")).bind (Doc.field "stop_reason")).bind Doc.text?
      else none
  | .translated .responsesAPI, e =>
      if e.name = some "response.completed" then
        (e.data.bind (Doc.field "status")).bind Doc.text?
      else none
  | .translated .geminiGenerateContent, e =>
      (((e.data.bind (Doc.field "candidates")).bind Doc.first).bind (Doc.field "finishReason")).bind
        Doc.text?

def terminal (s : Surface) (events : List SseEvent) : Option String :=
  (events.filterMap s.finishOf).getLast?

def buffered (cr : CanonicalResponse) : Surface → Option String
  | .chatCompletions => (canonicalToChatCompletionResponse cr).choices.head?.map (·.finishReason)
  | .translated .anthropicMessages => some (canonicalToAnthropicMessagesResponse cr).stopReason
  | .translated .responsesAPI => some (canonicalToResponsesAPIResponse cr).status
  | .translated .geminiGenerateContent =>
      (canonicalToGeminiResponse cr).candidates.head?.map (·.finishReason)

def clientEvents (raw : String → Doc) (reader : ChunkReader) (modelName id : String)
    (stream : List StreamEvent) : Surface → List SseEvent
  | .chatCompletions => (writeSSEStream raw stream).1
  | .translated style =>
      ((Writer.fresh style modelName id).writes reader
        ((writeSSEStream raw stream).1.map SseEvent.render)).2

end Surface

inductive Carrier where
  | onDone (usage : Option Usage)
  | onDelta (content toolCallsDelta : String) (usage : Option Usage)
  deriving DecidableEq, Repr

def Carrier.events (r : String) : Carrier → List StreamEvent
  | .onDone usage => [.done (some r) usage]
  | .onDelta content toolCallsDelta usage =>
      [.delta content toolCallsDelta (some r),.done none usage]

def streamOf (pieces : List (String × String)) (carrier : Carrier) (r : String) : List StreamEvent :=
  pieces.map (fun p => StreamEvent.delta p.1 p.2 none) ++ carrier.events r

def Survives : Surface → Carrier → String → Prop
  | .chatCompletions, .onDone _, _ => False
  | .chatCompletions, .onDelta _ _ _, _ => True
  | .translated .anthropicMessages, _, r => r ≠ "length" ∧ r ≠ "tool_calls"
  | .translated .responsesAPI, _, r => r = "stop" ∨ r = ""
  | .translated .geminiGenerateContent, _, r => r = "stop" ∨ r = ""

section Framing

theorem trimSpace_eq_self {a z : Char} (ha : GoStrings.isSpace a = false)
    (hz : GoStrings.isSpace z = false) (mid : List Char) :
    Writer.trimSpace (a :: mid ++ [z]) = a :: mid ++ [z] := by
  have hfront : (a :: (mid ++ [z])).dropWhile GoStrings.isSpace = a :: (mid ++ [z]) := by
    rw [List.dropWhile_cons_of_neg (by simp [ha])]
  have hback : (a :: (mid ++ [z])).reverse.dropWhile GoStrings.isSpace = (a :: (mid ++ [z])).reverse := by
    have hrev : (a :: (mid ++ [z])).reverse = z :: (a :: mid).reverse := by simp
    rw [hrev,List.dropWhile_cons_of_neg (by simp [hz])]
  rw [Writer.trimSpace,List.cons_append,hfront,hback,List.reverse_reverse]

theorem payload_object (body : List Char) :
    Writer.trimPrefix "data: ".toList
      (Writer.trimSpace ("data: ".toList ++ ('\x7b' :: body ++ ['\x7d']))) =
        '\x7b' :: body ++ ['\x7d'] := by
  have htrim := trimSpace_eq_self (a := 'd') (z := '\x7d') (by decide) (by decide)
    ("ata: ".toList ++ '\x7b' :: body)
  have hline : "data: ".toList ++ ('\x7b' :: body ++ ['\x7d']) =
      'd' :: ("ata: ".toList ++ '\x7b' :: body) ++ ['\x7d'] := by simp
  rw [hline,htrim,← hline]
  simp [Writer.trimPrefix]

theorem payload_done :
    Writer.trimPrefix "data: ".toList (Writer.trimSpace ("data: ".toList ++ "[DONE]".toList)) =
      "[DONE]".toList := by
  decide

theorem write_event (reader : ChunkReader) (w : Writer) {line : List Char} (h : '\n' ∉ line)
    (hbuf : w.buf = []) :
    w.write reader (line ++ ['\n','\n']) =
      ({ (w.handleSSEEvent reader line).1 with buf := [] },(w.handleSSEEvent reader line).2) := by
  have hcut : Writer.cut (w.buf ++ (line ++ ['\n','\n'])) [] = ([line],[]) := by
    rw [hbuf,List.nil_append,Writer.cut_event h []]
    simp [Writer.cut]
  have hw : { w with buf := [] } = w := by rw [← hbuf]
  unfold Writer.write
  rw [hcut,hw]
  simp [Writer.handleEvents]

end Framing

section Reasons

def Style.finish : Style → String
  | .anthropicMessages => "end_turn"
  | .responsesAPI => "completed"
  | .geminiGenerateContent => "STOP"

theorem finishOf_opening (w : Writer) :
    ∀ e ∈ w.opening, (Surface.translated w.style).finishOf e = none := by
  intro e he
  unfold Writer.opening at he
  split at he
  · cases he
  · cases hs : w.style with
    | anthropicMessages =>
      simp only [hs,List.mem_cons,List.not_mem_nil,or_false] at he
      rcases he with rfl | rfl | rfl
      · simp [Surface.finishOf,Writer.emitMessageStart,Writer.named]
      · simp [Surface.finishOf,Writer.emitContentBlockStart,Writer.named]
      · simp [Surface.finishOf,Writer.emitPing,Writer.named]
    | responsesAPI =>
      simp only [hs,List.mem_cons,List.not_mem_nil,or_false] at he
      rcases he with rfl | rfl
      · simp [Surface.finishOf,Writer.emitCreated,Writer.named]
      · simp [Surface.finishOf,Writer.emitOutputItemAdded,Writer.named]
    | geminiGenerateContent =>
      simp only [hs,List.not_mem_nil] at he

theorem finishOf_emitDelta (w : Writer) (delta : String) :
    (Surface.translated w.style).finishOf (w.emitDelta delta) = none := by
  unfold Writer.emitDelta
  cases w.style with
  | anthropicMessages => simp [Surface.finishOf,Writer.named]
  | responsesAPI => simp [Surface.finishOf,Writer.named]
  | geminiGenerateContent => simp [Surface.finishOf,Doc.field,Doc.first,List.lookup]

theorem filterMap_opening (w : Writer) :
    w.opening.filterMap (Surface.translated w.style).finishOf = [] :=
  List.filterMap_eq_nil_iff.mpr (finishOf_opening w)

theorem handleSSEEvent_object (reader : ChunkReader) (w : Writer) (body : List Char) :
    let r := w.handleSSEEvent reader ("data: ".toList ++ ('\x7b' :: body ++ ['\x7d']))
    r.1.style = w.style ∧ r.1.completedOnce = w.completedOnce ∧
      r.2.filterMap (Surface.translated w.style).finishOf = [] := by
  unfold Writer.handleSSEEvent
  rw [payload_object]
  have hne : '\x7b' :: body ++ ['\x7d'] ≠ "[DONE]".toList := by simp
  simp only [hne,if_false]
  cases reader.contents ('\x7b' :: body ++ ['\x7d']) with
  | none => exact ⟨rfl,rfl,rfl⟩
  | some contents =>
    have hout : (w.opening ++ [w.emitDelta (contents.head?.getD "")]).filterMap
        (Surface.translated w.style).finishOf = [] := by
      rw [List.filterMap_append,filterMap_opening]
      simp [finishOf_emitDelta]
    refine ⟨?_,?_,hout⟩
    · dsimp only
      split
      · cases reader.usage ('\x7b' :: body ++ ['\x7d']) <;> rfl
      · rfl
    · dsimp only
      split
      · cases reader.usage ('\x7b' :: body ++ ['\x7d']) <;> rfl
      · rfl

theorem terminal_emitDone (w : Writer) (h : w.completedOnce = false) :
    (w.emitDone.filterMap (Surface.translated w.style).finishOf) = [w.style.finish] := by
  have hopening := filterMap_opening w
  unfold Writer.emitDone
  cases hs : w.style with
  | anthropicMessages =>
    rw [hs] at hopening
    simp only [List.filterMap_append,hopening,h]
    simp [Surface.finishOf,Writer.emitContentBlockStop,Writer.emitMessageDelta,Writer.emitMessageStop,
      Writer.named,Doc.field,Doc.text?,text,Style.finish,List.lookup]
  | responsesAPI =>
    rw [hs] at hopening
    simp only [List.filterMap_append,hopening,h]
    simp [Surface.finishOf,Writer.emitTextDone,Writer.emitCompleted,Writer.named,Doc.field,Doc.text?,
      text,Style.finish,List.lookup]
  | geminiGenerateContent =>
    simp [h,Surface.finishOf,Writer.emitFinalChunk,Doc.field,Doc.first,Doc.text?,text,Style.finish,
      List.lookup]

theorem render_object (entries : List (String × Doc)) :
    ({ data := some (.obj entries) } : SseEvent).render =
      "data: ".toList ++
        ('\x7b' :: Doc.commaSeparated (Doc.marshalEntries entries) ++ ['\x7d']) ++ ['\n','\n'] := by
  simp [SseEvent.render,Doc.marshal]

theorem newline_not_mem_object (entries : List (String × Doc)) :
    '\n' ∉ "data: ".toList ++
      ('\x7b' :: Doc.commaSeparated (Doc.marshalEntries entries) ++ ['\x7d']) := by
  have hbody := Doc.newline_not_mem_marshal (.obj entries)
  rw [Doc.marshal] at hbody
  rw [List.mem_append,not_or]
  exact ⟨by decide,hbody⟩

theorem writes_done (reader : ChunkReader) (w : Writer) (hbuf : w.buf = []) :
    (w.writes reader [SseEvent.render { data := none }]).2 = w.emitDone := by
  have hline : SseEvent.render { data := none } =
      ("data: ".toList ++ "[DONE]".toList) ++ ['\n','\n'] := by
    simp [SseEvent.render]
  have hnl : '\n' ∉ "data: ".toList ++ "[DONE]".toList := by decide
  have hevent : (w.handleSSEEvent reader ("data: ".toList ++ "[DONE]".toList)).2 = w.emitDone := by
    unfold Writer.handleSSEEvent
    rw [payload_done]
    simp
  unfold Writer.writes
  rw [hline,write_event reader w hnl hbuf]
  simp only [Writer.writes,List.append_nil]
  exact hevent

theorem writes_object (reader : ChunkReader) (w : Writer) (hbuf : w.buf = [])
    (entries : List (String × Doc)) :
    ∃ w' : Writer, w'.style = w.style ∧ w'.buf = [] ∧ w'.completedOnce = w.completedOnce ∧
      ∀ ps, (w.writes reader (SseEvent.render { data := some (.obj entries) } :: ps)).2.filterMap
          (Surface.translated w.style).finishOf =
        (w'.writes reader ps).2.filterMap (Surface.translated w.style).finishOf := by
  obtain ⟨hstyle,honce,hout⟩ :=
    handleSSEEvent_object reader w (Doc.commaSeparated (Doc.marshalEntries entries))
  have hwrite := write_event reader w (newline_not_mem_object entries) hbuf
  refine ⟨{ (w.handleSSEEvent reader ("data: ".toList ++
    ('\x7b' :: Doc.commaSeparated (Doc.marshalEntries entries) ++ ['\x7d']))).1 with buf := [] },
    hstyle,rfl,honce,?_⟩
  intro ps
  rw [render_object]
  simp only [Writer.writes]
  rw [hwrite,List.filterMap_append,hout,List.nil_append]

theorem writes_stream (raw : String → Doc) (reader : ChunkReader) (stream : List StreamEvent)
    (w : Writer) (hbuf : w.buf = []) (hopen : w.completedOnce = false)
    (hend : (writeSSEStream raw stream).2 = .completed) :
    (w.writes reader ((writeSSEStream raw stream).1.map SseEvent.render)).2.filterMap
      (Surface.translated w.style).finishOf = [w.style.finish] := by
  induction stream generalizing w with
  | nil =>
    simp only [writeSSEStream,List.map_cons,List.map_nil]
    rw [writes_done reader w hbuf]
    exact terminal_emitDone w hopen
  | cons event rest ih =>
    cases event with
    | error err => simp [writeSSEStream] at hend
    | done reason usage =>
      simp only [writeSSEStream,List.map_cons,List.map_nil]
      rw [writes_done reader w hbuf]
      exact terminal_emitDone w hopen
    | delta content toolCallsDelta finishReason =>
      -- the chunk is one event: the writer is back at an empty buffer after it
      obtain ⟨w',hstyle,hbuf',honce,hwrites⟩ := writes_object reader w hbuf
        [("object",text "chat.completion.chunk"),
          ("choices",.arr [.obj
            [("index",int 0),
              ("delta",.obj ((if content = "" then [] else [("content",text content)]) ++
                (if toolCallsDelta = "" then [] else [("tool_calls",raw toolCallsDelta)]))),
              ("finish_reason",(finishReason.map text).getD .null)]])]
      simp only [writeSSEStream,List.map_cons] at hend ⊢
      unfold chunkDoc
      rw [hwrites,← hstyle]
      exact ih w' hbuf' (honce.trans hopen) hend

theorem writeSSEStream_streamOf (raw : String → Doc) (pieces : List (String × String))
    (carrier : Carrier) (r : String) :
    (writeSSEStream raw (streamOf pieces carrier r)).2 = .completed := by
  induction pieces with
  | nil => cases carrier <;> rfl
  | cons p pieces ih => simpa [streamOf,writeSSEStream] using ih

theorem terminal_translated (raw : String → Doc) (reader : ChunkReader) (modelName id : String)
    (style : Style) (pieces : List (String × String)) (carrier : Carrier) (r : String) :
    (Surface.translated style).terminal ((Surface.translated style).clientEvents raw reader modelName id
      (streamOf pieces carrier r)) = some style.finish := by
  have hrun := writes_stream raw reader (streamOf pieces carrier r) (.fresh style modelName id) rfl rfl
    (writeSSEStream_streamOf raw pieces carrier r)
  unfold Surface.terminal Surface.clientEvents
  exact congrArg List.getLast? hrun

theorem finishOf_chunk (raw : String → Doc) (content toolCallsDelta : String)
    (finishReason : Option String) :
    Surface.chatCompletions.finishOf
      { data := some (chunkDoc raw content toolCallsDelta finishReason) } = finishReason := by
  cases finishReason <;>
    simp [Surface.finishOf,chunkDoc,Doc.field,Doc.first,Doc.text?,text,List.lookup]

def Carrier.chatReason (r : String) : Carrier → Option String
  | .onDone _ => none
  | .onDelta _ _ _ => some r

theorem terminal_chat (raw : String → Doc) (reader : ChunkReader) (modelName id : String)
    (pieces : List (String × String)) (carrier : Carrier) (r : String) :
    Surface.chatCompletions.terminal (Surface.chatCompletions.clientEvents raw reader modelName id
      (streamOf pieces carrier r)) = carrier.chatReason r := by
  have hdone : Surface.chatCompletions.finishOf { data := none } = none := rfl
  unfold Surface.terminal Surface.clientEvents
  induction pieces with
  | nil =>
    cases carrier with
    | onDone usage => simp [streamOf,Carrier.events,writeSSEStream,hdone,Carrier.chatReason]
    | onDelta content toolCallsDelta usage =>
      simp [streamOf,Carrier.events,writeSSEStream,finishOf_chunk,hdone,Carrier.chatReason]
  | cons p pieces ih =>
    have hpiece := finishOf_chunk raw p.1 p.2 none
    simpa [streamOf,writeSSEStream,hpiece] using ih

theorem end_turn_eq_finishReasonToStopReason (r : String) :
    "end_turn" = finishReasonToStopReason r ↔ r ≠ "length" ∧ r ≠ "tool_calls" := by
  unfold finishReasonToStopReason
  split_ifs with h1 h2 h3 <;> simp_all

theorem completed_eq_finishReasonToStatus (r : String) :
    "completed" = finishReasonToStatus r ↔ r = "stop" ∨ r = "" := by
  unfold finishReasonToStatus
  split_ifs with h <;> simp [h]

theorem stop_eq_finishReasonToGemini (r : String) :
    "STOP" = finishReasonToGemini r ↔ r = "stop" ∨ r = "" := by
  unfold finishReasonToGemini
  split_ifs with h1 h2 <;> simp [h1]

end Reasons

theorem finish_reason_agrees_iff (raw : String → Doc) (reader : ChunkReader) (modelName id : String)
    (s : Surface) (pieces : List (String × String)) (carrier : Carrier) (cr : CanonicalResponse)
    (c : ChatChoice) (rest : List ChatChoice) :
    s.terminal (s.clientEvents raw reader modelName id (streamOf pieces carrier c.finishReason)) =
        s.buffered { cr with choices := c :: rest } ↔
      Survives s carrier c.finishReason := by
  cases s with
  | chatCompletions =>
    rw [terminal_chat]
    cases carrier with
    | onDone usage =>
      simp [Carrier.chatReason,Surface.buffered,canonicalToChatCompletionResponse,Survives]
    | onDelta content toolCallsDelta usage =>
      simp [Carrier.chatReason,Surface.buffered,canonicalToChatCompletionResponse,Survives]
  | translated style =>
    rw [terminal_translated]
    cases style with
    | anthropicMessages =>
      simp only [Style.finish,Surface.buffered,canonicalToAnthropicMessagesResponse,List.head?_cons,
        Option.map_some,Option.getD_some,Option.some.injEq,Survives]
      exact end_turn_eq_finishReasonToStopReason c.finishReason
    | responsesAPI =>
      simp only [Style.finish,Surface.buffered,canonicalToResponsesAPIResponse,overallStatus,
        List.head?_cons,Option.map_some,Option.getD_some,Option.some.injEq,Survives]
      exact completed_eq_finishReasonToStatus c.finishReason
    | geminiGenerateContent =>
      simp only [Style.finish,Surface.buffered,canonicalToGeminiResponse,List.map_cons,List.head?_cons,
        Option.map_some,Option.some.injEq,Survives]
      exact stop_eq_finishReasonToGemini c.finishReason

def cutShort : CanonicalResponse where
  id := "msg-1"
  object := "chat.completion"
  created := 1700000000
  model := "opus"
  usage := {}
  choices := [⟨0,{ role := "assistant", content := "Once" },"length"⟩]
  rawPassthroughBody := none
  selectedModel := "opus"
  provider := "anthropic"
  routeGroup := ""

theorem truncation_not_streamed :
    (Surface.translated .anthropicMessages).terminal
        ((Surface.translated .anthropicMessages).clientEvents (fun _ => .null)
          ⟨fun _ => some ["Once"],fun _ => none⟩ "opus" "msg_1"
          (streamOf [("Once","")] (.onDelta "" "" none) "length")) ≠
      (Surface.translated .anthropicMessages).buffered cutShort := by
  rw [terminal_translated]
  decide

end PrismGateway.Api
