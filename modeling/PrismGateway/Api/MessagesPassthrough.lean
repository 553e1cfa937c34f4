import PrismGateway.Api.StreamTranslation
import PrismGateway.Lib.LineScanner

namespace PrismGateway.Api.MessagesPassthrough

open Lib

section Events

structure MessageStart where
  id : String := ""
  model : String := ""
  inputTokens : Int := 0

structure ContentBlockDelta where
  type : String := ""
  text : String := ""

structure MessageDelta where
  stopReason : String := ""
  stopSequence : Option String := none
  outputTokens : Int := 0

def decodeMessageStart : Doc → Option MessageStart :=
  decodeStruct ["message"] (fun _ d ms => decodeStruct ["id","model","usage"] (fun name d ms =>
    if name = "id" then (decodeText ms.id d).map (fun s => { ms with id := s })
    else if name = "model" then (decodeText ms.model d).map (fun s => { ms with model := s })
    else (decodeStruct ["input_tokens"] (fun _ d n => decodeInt n d) ms.inputTokens d).map
      (fun n => { ms with inputTokens := n })) ms d) {}

def decodeContentBlockDelta : Doc → Option ContentBlockDelta :=
  decodeStruct ["delta"] (fun _ d cbd => decodeStruct ["type","text"] (fun name d cbd =>
    if name = "type" then (decodeText cbd.type d).map (fun s => { cbd with type := s })
    else (decodeText cbd.text d).map (fun s => { cbd with text := s })) cbd d) {}

def decodeTextPtr : Doc → Option (Option String)
  | .null => some none
  | .str s => some (some s)
  | _ => none

def decodeMessageDelta : Doc → Option MessageDelta :=
  decodeStruct ["delta","usage"] (fun name d md =>
    if name = "delta" then decodeStruct ["stop_reason","stop_sequence"] (fun name d md =>
      if name = "stop_reason" then (decodeText md.stopReason d).map (fun s => { md with stopReason := s })
      else (decodeTextPtr d).map (fun s => { md with stopSequence := s })) md d
    else (decodeStruct ["output_tokens"] (fun _ d n => decodeInt n d) md.outputTokens d).map
      (fun n => { md with outputTokens := n })) {}

structure Audit where
  messageID : String := ""
  modelUsed : String := ""
  inputTokens : Int := 0
  outputTokens : Int := 0
  stopReason : String := ""
  stopSequence : String := ""
  text : String := ""
  lastEventType : String := ""
  deriving DecidableEq

namespace Audit

def messageStart (a : Audit) (ms : MessageStart) : Audit :=
  { a with
    messageID := if ms.id ≠ "" then ms.id else a.messageID
    modelUsed := if ms.model ≠ "" then ms.model else a.modelUsed
    inputTokens := if 0 < ms.inputTokens then ms.inputTokens else a.inputTokens }

def contentBlockDelta (a : Audit) (cbd : ContentBlockDelta) : Audit :=
  if cbd.type = "text_delta" ∧ cbd.text ≠ "" then { a with text := a.text ++ cbd.text } else a

def messageDelta (a : Audit) (md : MessageDelta) : Audit :=
  { a with
    stopReason := if md.stopReason ≠ "" then md.stopReason else a.stopReason
    stopSequence := match md.stopSequence with
      | some s => if s ≠ "" then s else a.stopSequence
      | none => a.stopSequence
    outputTokens := if 0 < md.outputTokens then md.outputTokens else a.outputTokens }

def rawEntries : Doc → Option (List (String × Doc))
  | .null => some []
  | .obj entries => some entries
  | _ => none

def eventType (entries : List (String × Doc)) (lastEventType : String) : String :=
  match entries.reverse.lookup "type" with
  | some (.str s) => s
  | _ => lastEventType

def interceptAnthropicSSEEvent (a : Audit) (payload : List Char) : Audit :=
  match Doc.parse payload with
  | none => a
  | some d => match rawEntries d with
    | none => a
    | some entries =>
      let evType := eventType entries a.lastEventType
      if evType = "message_start" then (decodeMessageStart d).elim a a.messageStart
      else if evType = "content_block_delta" then (decodeContentBlockDelta d).elim a a.contentBlockDelta
      else if evType = "message_delta" then (decodeMessageDelta d).elim a a.messageDelta
      else a

def readLine (a : Audit) (line : List UInt8) : Audit :=
  let lineStr := Utf8.decode line
  if "event: ".toList.isPrefixOf lineStr then
    { a with lastEventType := String.ofList (Writer.trimSpace (lineStr.drop 7)) }
  else if "data: ".toList.isPrefixOf lineStr then a.interceptAnthropicSSEEvent (lineStr.drop 6)
  else a

end Audit

end Events

structure AnthropicMessageLog where
  statusCode : Int
  success : Bool
  anthropicMessageID : Option String := none
  modelUsed : Option String := none
  inputTokens : Option Int := none
  outputTokens : Option Int := none
  totalTokens : Option Int := none
  stopReason : Option String := none
  stopSequence : Option String := none
  responseText : Option String := none
  errorType : Option String := none
  errorMessage : Option String := none
  deriving DecidableEq

def stringPtr (s : String) : Option String := if s ≠ "" then some s else none

def tokenPtr (v : Int) : Option Int := if v = 0 then none else some v

def Audit.row (a : Audit) : AnthropicMessageLog where
  statusCode := 200
  success := true
  anthropicMessageID := stringPtr a.messageID
  modelUsed := stringPtr a.modelUsed
  inputTokens := tokenPtr a.inputTokens
  outputTokens := tokenPtr a.outputTokens
  totalTokens := tokenPtr (a.inputTokens + a.outputTokens)
  stopReason := stringPtr a.stopReason
  stopSequence := stringPtr a.stopSequence
  responseText := stringPtr a.text

/-- What `SendMessagesRawStream` comes back with. -/
inductive Upstream where
  | failed (statusCode : Option Int) (err : String)
  | body (bytes : List UInt8)

structure Outcome where
  status : Int
  written : List UInt8
  log : AnthropicMessageLog

def maxScanTokenSize : ℕ := 64 * 1024

def handleAnthropicMessagesStream : Upstream → Outcome
  | .failed statusCode err =>
    let status := statusCode.getD 502
    { status := status
      written := Utf8.encode (err.toList ++ ['\n'])
      log :=
        { statusCode := status
          success := false
          errorType := some "upstream_error"
          errorMessage := some err } }
  | .body bytes =>
    let lines := LineScanner.scan maxScanTokenSize bytes
    { status := 200
      written := LineScanner.unlines lines
      log := (lines.foldl Audit.readLine {}).row }

structure Line where
  bytes : List UInt8
  one_line : LineScanner.OneLine bytes

def sent (lines : List Line) : List UInt8 := LineScanner.unlines (lines.map Line.bytes)

structure Faithful (lines : List Line) : Prop where
  relayed : (handleAnthropicMessagesStream (.body (sent lines))).written = sent lines
  audited : (handleAnthropicMessagesStream (.body (sent lines))).log =
    ((lines.map Line.bytes).foldl Audit.readLine {}).row

def Fits (line : Line) : Prop :=
  line.bytes.length < maxScanTokenSize ∧ line.bytes.getLast? ≠ some LineScanner.carriageReturn

theorem scan_sent (lines : List Line) : LineScanner.scan maxScanTokenSize (sent lines) =
    LineScanner.kept maxScanTokenSize (lines.map Line.bytes) := by
  refine LineScanner.scan_unlines fun bytes hbytes => ?_
  obtain ⟨line,-,rfl⟩ := List.mem_map.mp hbytes
  exact line.one_line

theorem written_sent_iff (lines : List Line) :
    (handleAnthropicMessagesStream (.body (sent lines))).written = sent lines ↔
      ∀ line ∈ lines, Fits line := by
  simp only [handleAnthropicMessagesStream,scan_sent]
  rw [sent,LineScanner.unlines_kept_eq_iff,List.forall_mem_map]
  rfl

theorem faithful_iff (lines : List Line) : Faithful lines ↔ ∀ line ∈ lines, Fits line := by
  constructor
  · intro h
    exact (written_sent_iff lines).mp h.relayed
  · intro h
    refine ⟨(written_sent_iff lines).mpr h,?_⟩
    have hkept := LineScanner.kept_eq (List.forall_mem_map.mpr h)
    simp only [handleAnthropicMessagesStream,scan_sent,hkept]

def bigLine : Line where
  bytes := List.replicate 65536 97
  one_line := by
    intro h
    exact absurd (List.eq_of_mem_replicate h) (by decide)

def crlfLine : Line where
  bytes := Utf8.encode "event: ping\r".toList
  one_line := Utf8.newline_not_mem_encode (by decide)

theorem long_and_crlf_lines_altered : ¬ Faithful [bigLine] ∧ ¬ Faithful [crlfLine] := by
  constructor
  · intro h
    have hfits := (written_sent_iff [bigLine]).mp h.relayed bigLine (by simp)
    have hlen : bigLine.bytes.length = 65536 := List.length_replicate
    exact absurd hfits.1 (by rw [hlen]; decide)
  · intro h
    have hfits := (written_sent_iff [crlfLine]).mp h.relayed crlfLine (by simp)
    exact hfits.2 (by decide)

end PrismGateway.Api.MessagesPassthrough
