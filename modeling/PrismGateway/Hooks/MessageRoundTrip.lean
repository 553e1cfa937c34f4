import PrismGateway.Api.StreamTranslation
import PrismGateway.Hooks.ExternalPII

namespace PrismGateway.Hooks.MessageRoundTrip

open Lib Orchestrator
open Api (rawMessage text decodeStruct decodeText decodeInt toProviderMessages)
open Providers (ChatChoice)

section Wire

def marshalBlock (b : MessageContentBlock) : Doc :=
  .obj ([("type",text b.type)] ++ (if b.text = "" then [] else [("text",text b.text)]) ++
    (match b.imageURL with
      | none => []
      | some url => [("image_url",.obj [("url",text url)])]))

def marshalJSON (m : ChatMessage) : Doc :=
  if m.contentBlocks ≠ [] then
    .obj [("role",text m.role),("content",.arr (m.contentBlocks.map marshalBlock))]
  else if m.toolCalls ≠ "" then
    .obj [("role",text m.role),("content",.null),("tool_calls",rawMessage m.toolCalls)]
  else if m.toolCallID ≠ "" then
    .obj [("role",text m.role),("content",text m.content),("tool_call_id",text m.toolCallID)]
  else .obj [("role",text m.role),("content",text m.content)]

def emptyMessage : ChatMessage := { role := "" }

def unmarshalMessage (m : ChatMessage) : Doc → Option ChatMessage :=
  decodeStruct ["role","content","tool_calls","tool_call_id"] (fun name d m =>
    if name = "role" then (decodeText m.role d).map (fun s => { m with role := s })
    else if name = "content" then (decodeText m.content d).map (fun s => { m with content := s })
    else if name = "tool_calls" then some { m with toolCalls := String.ofList d.marshal }
    else (decodeText m.toolCallID d).map (fun s => { m with toolCallID := s })) m

def encode (m : ChatMessage) : List Char := (marshalJSON m).marshal

def decode (l : List Char) : Option ChatMessage := (Doc.parse l).bind (unmarshalMessage emptyMessage)

def unmarshalSlice {α : Type} (unmarshal : Doc → Option α) : Doc → Option (List α)
  | .null => some []
  | .arr items => items.mapM unmarshal
  | _ => none

def unmarshalChoice : Doc → Option ChatChoice :=
  decodeStruct ["index","message","finish_reason"] (fun name d c =>
    if name = "index" then (decodeInt c.index d).map (fun n => { c with index := n })
    else if name = "message" then (unmarshalMessage c.message d).map (fun m => { c with message := m })
    else (decodeText c.finishReason d).map (fun s => { c with finishReason := s }))
    { message := emptyMessage, finishReason := "" }

def unmarshalBody : Doc → Option (List ChatMessage × List ChatChoice) :=
  decodeStruct ["messages","choices"] (fun name d v =>
    if name = "messages" then
      (unmarshalSlice (unmarshalMessage emptyMessage) d).map (fun ms => (ms,v.2))
    else (unmarshalSlice unmarshalChoice d).map (fun cs => (v.1,cs))) ([],[])

def webhookBody (msgs : List ChatMessage) : Doc :=
  .obj (if msgs = [] then [] else [("messages",.arr (msgs.map marshalJSON))])

/-- `PreRequest`, where the webhook's reply is an action with a `body` member and no other. -/
def preRequestOfBody (cfg : ExternalPIIConfig) (req : ChatRequest) (body : List Char) : PreResult :=
  match (modified "Arkana modify body" "Arkana modify body requires messages or choices" ""
      ((Doc.parse body).bind unmarshalBody)) with
  | .error _ => handleWebhookError cfg req
  | .ok action => match mapNormalizedToPreResult action req with
    | .error _ => handleWebhookError cfg req
    | .ok result => result

end Wire

structure Same (sent got : ChatMessage) : Prop where
  role : got.role = sent.role
  content : got.content = sent.content
  someCalls : got.toolCalls = "" ↔ sent.toolCalls = ""
  toolCalls : rawMessage got.toolCalls = rawMessage sent.toolCalls
  toolCallID : got.toolCallID = sent.toolCallID
  contentBlocks : got.contentBlocks = sent.contentBlocks

structure Accepted where
  messages : List Api.ChatMessage
  nonempty : messages ≠ []
  json : ∀ m ∈ messages, m.toolCalls = "" ∨ (Doc.parse m.toolCalls.toList).isSome

def echo (cfg : ExternalPIIConfig) (req : ChatRequest) (a : Accepted) : PreResult :=
  preRequestOfBody cfg { req with messages := toProviderMessages a.messages }
    (webhookBody (toProviderMessages a.messages)).marshal

structure Unchanged (cfg : ExternalPIIConfig) (req : ChatRequest) (a : Accepted) : Prop where
  roundTrip : ∀ m ∈ toProviderMessages a.messages, ∃ got, decode (encode m) = some got ∧ Same m got
  modified : (echo cfg req a).decision = .redact
  echoed : List.Forall₂ Same (toProviderMessages a.messages) (echo cfg req a).messages

def Plain (m : Api.ChatMessage) : Prop :=
  m.imageURLs = [] ∧ (m.toolCalls = "" ∨ (m.textContent = "" ∧ m.toolCallID = ""))

section Wire

variable {m : ChatMessage}

theorem wellFormed_text (s : String) : (text s).wellFormed = true := rfl

theorem wellFormed_block (b : MessageContentBlock) : (marshalBlock b).wellFormed = true := by
  unfold marshalBlock
  by_cases htext : b.text = "" <;> cases himage : b.imageURL <;>
    simp [Doc.wellFormed,Doc.wellFormedEntries,htext,wellFormed_text]

theorem wellFormedItems_map {α : Type} {f : α → Doc} (h : ∀ a, (f a).wellFormed = true)
    (l : List α) : Doc.wellFormedItems (l.map f) = true := by
  induction l with
  | nil => rfl
  | cons a l ih => simp [Doc.wellFormedItems,h a,ih]

theorem wellFormed_marshalJSON (m : ChatMessage) : (marshalJSON m).wellFormed = true := by
  have hblocks := wellFormedItems_map wellFormed_block m.contentBlocks
  have hraw := Api.wellFormed_rawMessage m.toolCalls
  unfold marshalJSON
  split_ifs <;> simp [Doc.wellFormed,Doc.wellFormedEntries,wellFormed_text,hblocks,hraw]

theorem decode_encode (m : ChatMessage) :
    decode (encode m) = unmarshalMessage emptyMessage (marshalJSON m) := by
  rw [decode,encode,Doc.parse_marshal (wellFormed_marshalJSON m),Option.bind_some]

theorem field_role : fieldFor ["role","content","tool_calls","tool_call_id"] "role" = some "role" := by
  decide

theorem field_content :
    fieldFor ["role","content","tool_calls","tool_call_id"] "content" = some "content" := by
  decide

theorem field_tool_calls :
    fieldFor ["role","content","tool_calls","tool_call_id"] "tool_calls" = some "tool_calls" := by
  decide

theorem field_tool_call_id :
    fieldFor ["role","content","tool_calls","tool_call_id"] "tool_call_id" = some "tool_call_id" := by
  decide

theorem unmarshal_blocks (h : m.contentBlocks ≠ []) :
    unmarshalMessage emptyMessage (marshalJSON m) = none := by
  simp [unmarshalMessage,marshalJSON,h,decodeStruct,field_role,field_content,text,decodeText]

def returned (m : ChatMessage) : ChatMessage where
  role := m.role
  content := if m.toolCalls = "" then m.content else ""
  toolCalls := if m.toolCalls = "" then "" else String.ofList (rawMessage m.toolCalls).marshal
  toolCallID := if m.toolCalls = "" then m.toolCallID else ""

theorem unmarshal_marshal (h : m.contentBlocks = []) :
    unmarshalMessage emptyMessage (marshalJSON m) = some (returned m) := by
  by_cases hcalls : m.toolCalls = "" <;> by_cases hid : m.toolCallID = "" <;>
    simp [unmarshalMessage,marshalJSON,h,hcalls,hid,decodeStruct,field_role,field_content,
      field_tool_calls,field_tool_call_id,text,decodeText,emptyMessage,returned]

theorem same_returned_iff (h : m.contentBlocks = []) :
    Same m (returned m) ↔ m.toolCalls = "" ∨ (m.content = "" ∧ m.toolCallID = "") := by
  by_cases hcalls : m.toolCalls = ""
  · refine ⟨fun _ => .inl hcalls,fun _ => ?_⟩
    constructor <;> simp [returned,hcalls,h]
  · have hwell := Api.wellFormed_rawMessage m.toolCalls
    have hraw : rawMessage (String.ofList (rawMessage m.toolCalls).marshal) =
        rawMessage m.toolCalls := by
      conv_lhs => rw [rawMessage,String.toList_ofList,Doc.parse_marshal hwell]
      rfl
    have hne : String.ofList (rawMessage m.toolCalls).marshal ≠ "" := by
      intro hempty
      have hlength := Doc.length_marshal_pos hwell
      have hnil := congrArg String.toList hempty
      rw [String.toList_ofList] at hnil
      rw [hnil] at hlength
      cases hlength
    constructor
    · intro hsame
      have hcontent := hsame.content
      have hid := hsame.toolCallID
      simp only [returned,hcalls,if_false] at hcontent hid
      exact .inr ⟨hcontent.symm,hid.symm⟩
    · rintro (hnone | ⟨hcontent,hid⟩)
      · exact absurd hnone hcalls
      · constructor <;> simp [returned,hcalls,hcontent,hid,hraw,hne,h]

theorem roundTrip_iff (m : ChatMessage) : (∃ got, decode (encode m) = some got ∧ Same m got) ↔
    m.contentBlocks = [] ∧ (m.toolCalls = "" ∨ (m.content = "" ∧ m.toolCallID = "")) := by
  rw [decode_encode]
  by_cases h : m.contentBlocks = []
  · rw [unmarshal_marshal h,← same_returned_iff h]
    simp [h]
  · rw [unmarshal_blocks h]
    simp [h]

end Wire

section Echo

variable {msgs : List ChatMessage}

theorem unmarshalSlice_marshal (h : ∀ m ∈ msgs, m.contentBlocks = []) :
    unmarshalSlice (unmarshalMessage emptyMessage) (.arr (msgs.map marshalJSON)) =
      some (msgs.map returned) := by
  induction msgs with
  | nil => rfl
  | cons m msgs ih =>
    have hrest := ih fun m hm => h m (List.mem_cons_of_mem _ hm)
    simp only [unmarshalSlice] at hrest ⊢
    rw [List.map_cons,List.mapM_cons,unmarshal_marshal (h m List.mem_cons_self),hrest]
    rfl

theorem parse_webhookBody (hne : msgs ≠ []) (h : ∀ m ∈ msgs, m.contentBlocks = []) :
    (Doc.parse (webhookBody msgs).marshal).bind unmarshalBody = some (msgs.map returned,[]) := by
  have hwell : (webhookBody msgs).wellFormed = true := by
    have hitems := wellFormedItems_map wellFormed_marshalJSON msgs
    simp [webhookBody,hne,Doc.wellFormed,Doc.wellFormedEntries,hitems]
  have hfield : fieldFor ["messages","choices"] "messages" = some "messages" := by decide
  rw [Doc.parse_marshal hwell,Option.bind_some]
  simp [unmarshalBody,webhookBody,hne,decodeStruct,hfield,unmarshalSlice_marshal h]

theorem echo_of_plain {cfg : ExternalPIIConfig} {req : ChatRequest} {a : Accepted}
    (h : ∀ m ∈ toProviderMessages a.messages, m.contentBlocks = []) :
    (echo cfg req a).decision = .redact ∧
      (echo cfg req a).messages = (toProviderMessages a.messages).map returned := by
  have hne : toProviderMessages a.messages ≠ [] := by
    simpa [toProviderMessages] using a.nonempty
  have hempty : ((toProviderMessages a.messages).map returned).isEmpty = false := by
    simpa using hne
  simp only [echo,preRequestOfBody,parse_webhookBody hne h,Hooks.modified,hempty,Bool.false_and,
    Bool.false_eq_true,if_false,mapNormalizedToPreResult]
  exact ⟨trivial,trivial⟩

end Echo

theorem plain_iff (m : Api.ChatMessage) : Plain m ↔
    Api.providerBlocks m.textContent m.imageURLs = [] ∧
      (m.toolCalls = "" ∨ (m.textContent = "" ∧ m.toolCallID = "")) := by
  have hblocks : Api.providerBlocks m.textContent m.imageURLs = [] ↔ m.imageURLs = [] := by
    unfold Api.providerBlocks
    split_ifs with h1 h2
    · simp [h1]
    · simp [h1]
    · simp [h1]
  rw [Plain,hblocks]

theorem unchanged_iff (cfg : ExternalPIIConfig) (req : ChatRequest) (a : Accepted) :
    Unchanged cfg req a ↔ ∀ m ∈ a.messages, Plain m := by
  have htrip : (∀ m ∈ toProviderMessages a.messages, ∃ got, decode (encode m) = some got ∧ Same m got) ↔
      ∀ m ∈ a.messages, Plain m := by
    rw [toProviderMessages,List.forall_mem_map]
    refine forall₂_congr fun m _ => ?_
    rw [roundTrip_iff,plain_iff]
  constructor
  · intro h
    exact htrip.mp h.roundTrip
  · intro h
    have hround := htrip.mpr h
    have hblocks : ∀ m ∈ toProviderMessages a.messages, m.contentBlocks = [] :=
      fun m hm => ((roundTrip_iff m).mp (hround m hm)).1
    obtain ⟨hdecision,hmessages⟩ := @echo_of_plain cfg req _ hblocks
    refine ⟨hround,hdecision,?_⟩
    rw [hmessages,List.forall₂_map_right_iff,List.forall₂_same]
    intro m hm
    exact (same_returned_iff (hblocks m hm)).mpr ((roundTrip_iff m).mp (hround m hm)).2

def photo : Api.ChatMessage where
  role := "user"
  content := some (.arr [.obj [("image_url",.obj [("url",.str "https://example.com/cat.jpg")]),
    ("type",.str "image_url")]])

def sayingAndCalling : Api.ChatMessage where
  role := "assistant"
  content := some (.str "Let me look.")
  toolCalls := "[]"

theorem picture_and_text_lost :
    ¬ Unchanged { failMode := "fail_open", maxBodyBytes := 1048576 } {}
        ⟨[photo],by simp,by simp [photo]⟩ ∧
      ¬ Unchanged { failMode := "fail_open", maxBodyBytes := 1048576 } {}
        ⟨[sayingAndCalling],by simp,by simp [sayingAndCalling]; decide⟩ := by
  constructor
  · intro h
    have hround := h.roundTrip _ (List.mem_map_of_mem (List.mem_singleton_self photo))
    exact absurd ((roundTrip_iff _).mp hround).1 (by decide)
  · intro h
    have hround := h.roundTrip _ (List.mem_map_of_mem (List.mem_singleton_self sayingAndCalling))
    exact absurd ((roundTrip_iff _).mp hround).2 (by decide)

end PrismGateway.Hooks.MessageRoundTrip
