import PrismGateway.Providers.Translation

namespace PrismGateway.Providers

open Lib Orchestrator
open Api (toProviderMessages providerBlocks text int)

structure Turn where
  assistant : Bool
  text : String
  images : List String
  deriving DecidableEq

structure Conversation where
  system : List String
  turns : List Turn
  deriving DecidableEq

section Meaning

def turnOf (m : Api.ChatMessage) : Turn := ⟨m.role = "assistant",m.textContent,m.imageURLs⟩

def spoken (msgs : List Api.ChatMessage) : List Api.ChatMessage :=
  msgs.filter (fun m => m.role ≠ "system")

def turnsOf (msgs : List Api.ChatMessage) : List Turn := (spoken msgs).map turnOf

def systemTexts (msgs : List Api.ChatMessage) : List String :=
  (msgs.filter (fun m => m.role = "system")).map Api.ChatMessage.textContent

def heard (turns : List Turn) : List Turn := if turns = [] then [⟨false,"",[]⟩] else turns

def paragraph (t : String) : List String := if t = "" then [] else [t]

def wordless (m : Api.ChatMessage) : Bool :=
  (m.role = "user" || m.role = "assistant") && m.textContent = "" && m.imageURLs ≠ []

end Meaning

section Readers

inductive Piece where
  | text (s : String)
  | image (url : String)

def Piece.text? : Piece → Option String
  | .text s => some s
  | .image _ => none

def Piece.image? : Piece → Option String
  | .text _ => none
  | .image url => some url

def Turn.ofParts (assistant : Bool) (parts : List Piece) : Turn :=
  ⟨assistant,concatText (parts.filterMap Piece.text?),parts.filterMap Piece.image?⟩

def items? : Doc → Option (List Doc)
  | .arr items => some items
  | _ => none

def stringAt (k : String) (d : Doc) : Option String := (d.field k).bind Doc.text?

def speaker (assistant : String) (role : String) : Option Bool :=
  if role = assistant then some true else if role = "user" then some false else none

namespace Anthropic

def readBlock (d : Doc) : Option Piece :=
  (stringAt "type" d).bind (fun type =>
    if type = "text" then (stringAt "text" d).map .text
    else if type = "image" then ((d.field "source").bind (stringAt "url")).map .image
    else none)

def readContent : Doc → Option (List Piece)
  | .str s => some [.text s]
  | .arr items => items.mapM readBlock
  | _ => none

def readMessage (d : Doc) : Option Turn :=
  ((stringAt "role" d).bind (speaker "assistant")).bind (fun assistant =>
    ((d.field "content").bind readContent).map (Turn.ofParts assistant))

def read (d : Doc) : Option Conversation :=
  (((d.field "messages").bind items?).bind (·.mapM readMessage)).map (fun turns =>
    ⟨(stringAt "system" d).toList,turns⟩)

end Anthropic

namespace Gemini

def readPart (d : Doc) : Option Piece :=
  match d.field "file_data" with
  | some file => (stringAt "file_uri" file).map .image
  | none => some (.text ((stringAt "text" d).getD ""))

def readParts (d : Doc) : Option (List Piece) :=
  ((d.field "parts").bind items?).bind (·.mapM readPart)

def readContent (d : Doc) : Option Turn :=
  ((stringAt "role" d).bind (speaker "model")).bind (fun assistant =>
    (readParts d).map (Turn.ofParts assistant))

def read (d : Doc) : Option Conversation :=
  (((d.field "contents").bind items?).bind (·.mapM readContent)).bind (fun turns =>
    match d.field "systemInstruction" with
    | none => some ⟨[],turns⟩
    | some instruction => (readParts instruction).map (fun parts => ⟨parts.filterMap Piece.text?,turns⟩))

end Gemini

namespace Converse

def Message.turn (m : Message) : Turn := ⟨m.role = .assistant,m.text,[]⟩

def read (input : Option String × List Message) : Conversation :=
  ⟨input.1.toList,input.2.map Message.turn⟩

end Converse

end Readers

theorem mapM_map_some {α β γ : Type} {f : α → β} {g : β → Option γ} {k : α → γ} {l : List α}
    (h : ∀ a ∈ l, g (f a) = some (k a)) : (l.map f).mapM g = some (l.map k) := by
  induction l with
  | nil => rfl
  | cons a l ih =>
    rw [List.map_cons,List.mapM_cons,h a List.mem_cons_self,
      ih (fun b hb => h b (List.mem_cons_of_mem _ hb))]
    rfl

section Blocks

variable {t : String} {urls : List String}

theorem imageURLs_ne {m : Api.ChatMessage} {url : String} (h : url ∈ m.imageURLs) : url ≠ "" := by
  rw [Api.ChatMessage.imageURLs] at h
  split at h
  · exact absurd h List.not_mem_nil
  · obtain ⟨b,-,hb⟩ := List.mem_filterMap.mp h
    rw [Api.imageBlock,Option.filter_eq_some_iff] at hb
    simpa using (of_decide_eq_true hb.2).2

theorem filterMap_images {α : Type} {f : MessageContentBlock → Option α} {g : String → α}
    (hurls : ∀ url ∈ urls, url ≠ "")
    (h : ∀ url, url ≠ "" → f { type := "image_url", imageURL := some url } = some (g url)) :
    (urls.map (fun url => ({ type := "image_url", imageURL := some url } : MessageContentBlock))).filterMap
      f = urls.map g := by
  induction urls with
  | nil => rfl
  | cons url urls ih =>
    rw [List.map_cons,List.filterMap_cons,h url (hurls url List.mem_cons_self),
      ih (fun u hu => hurls u (List.mem_cons_of_mem _ hu))]
    rfl

theorem filterMap_blocks {α : Type} {f : MessageContentBlock → Option α} {a : String → α}
    {g : String → α} (hne : urls ≠ []) (hurls : ∀ url ∈ urls, url ≠ "")
    (htext : ∀ s, s ≠ "" → f { type := "text", text := s } = some (a s))
    (himage : ∀ url, url ≠ "" → f { type := "image_url", imageURL := some url } = some (g url)) :
    (providerBlocks t urls).filterMap f = (if t = "" then [] else [a t]) ++ urls.map g := by
  rw [providerBlocks,if_neg hne,List.filterMap_append,filterMap_images hurls himage]
  split_ifs with ht
  · rfl
  · rw [List.filterMap_cons,htext t ht]
    rfl

theorem providerBlocks_eq_nil_iff : providerBlocks t urls = [] ↔ urls = [] := by
  rw [providerBlocks]
  split_ifs with h <;> simp [h]

theorem ofParts_blocks (assistant : Bool) (t : String) (urls : List String) :
    Turn.ofParts assistant ((if t = "" then [] else [Piece.text t]) ++ urls.map Piece.image) =
      ⟨assistant,t,urls⟩ := by
  have himages : (urls.map Piece.image).filterMap Piece.image? = urls := by
    rw [List.filterMap_map]
    exact List.filterMap_some
  have hnone : (urls.map Piece.image).filterMap Piece.text? = [] := by
    rw [List.filterMap_map]
    exact List.filterMap_eq_nil_iff.mpr (fun _ _ => rfl)
  rw [Turn.ofParts,List.filterMap_append,List.filterMap_append,himages,hnone]
  split_ifs with ht
  · rw [ht]
    rfl
  · simp [Piece.text?,Piece.image?]

end Blocks

section Documents

theorem wellFormedEntries_append (es fs : List (String × Doc)) :
    Doc.wellFormedEntries (es ++ fs) = (Doc.wellFormedEntries es && Doc.wellFormedEntries fs) := by
  induction es with
  | nil => rfl
  | cons e es ih => rw [List.cons_append,Doc.wellFormedEntries,Doc.wellFormedEntries,ih,Bool.and_assoc]

theorem wellFormedEntries_optional {name : String} {d : Option Doc}
    (h : ∀ e, d = some e → e.wellFormed = true) : Doc.wellFormedEntries (optional name d) = true := by
  cases d with
  | none => rfl
  | some e => rw [optional,Doc.wellFormedEntries,h e rfl]; rfl

theorem wellFormedItems_of {items : List Doc} (h : ∀ d ∈ items, d.wellFormed = true) :
    Doc.wellFormedItems items = true := by
  induction items with
  | nil => rfl
  | cons d items ih =>
    rw [Doc.wellFormedItems,h d List.mem_cons_self,ih (fun e he => h e (List.mem_cons_of_mem _ he))]
    rfl

theorem wellFormed_map {α : Type} {f : α → Doc} (l : List α) (h : ∀ a ∈ l, (f a).wellFormed = true) :
    (Doc.arr (l.map f)).wellFormed = true := by
  rw [Doc.wellFormed]
  exact wellFormedItems_of (List.forall_mem_map.mpr h)

theorem wellFormed_int (n : ℤ) : (int n).wellFormed = true := NumberText.valid_ofInt n

theorem wellFormed_temperature {t : Option Float} {d : Option Doc} (h : temperatureDoc t = .ok d) :
    ∀ e, d = some e → e.wellFormed = true := by
  intro e he
  cases t with
  | none =>
    cases h
    cases he
  | some x =>
    rw [temperatureDoc] at h
    cases hx : FloatText.marshal x with
    | error msg =>
      rw [hx] at h
      cases h
    | ok n =>
      rw [hx] at h
      cases h
      cases he
      exact n.2

def writable (t : Option Float) : Bool := t.all (fun x => (FloatText.binary x).isSome)

theorem temperatureDoc_toOption (t : Option Float) :
    (temperatureDoc t).toOption.isSome = writable t := by
  cases t with
  | none => rfl
  | some x =>
    rw [temperatureDoc,writable,Option.all_some,FloatText.marshal]
    cases FloatText.binary x <;> rfl

theorem read_marshalled {α : Type} {t : Option Float} {f : String → String} {doc : Option Doc → Doc}
    {read : Doc → Option α} {a : α}
    (h : ∀ d, (∀ e, d = some e → e.wellFormed = true) →
      (Doc.parse (doc d).marshal).bind read = some a) :
    (((temperatureDoc t).mapError f).map doc).toOption.bind (fun d => (Doc.parse d.marshal).bind read) =
      if writable t then some a else none := by
  have hwritable := temperatureDoc_toOption t
  cases ht : temperatureDoc t with
  | error msg =>
    rw [ht] at hwritable
    rw [← hwritable]
    rfl
  | ok d =>
    rw [ht] at hwritable
    rw [← hwritable]
    exact h d (wellFormed_temperature ht)

end Documents

def received (m : Api.ChatMessage) : ChatMessage where
  role := m.role
  content := m.textContent
  toolCalls := m.toolCalls
  toolCallID := m.toolCallID
  contentBlocks := providerBlocks m.textContent m.imageURLs

theorem toProviderMessages_eq (msgs : List Api.ChatMessage) :
    toProviderMessages msgs = msgs.map received := rfl

theorem contents_system (msgs : List Api.ChatMessage) :
    ((msgs.map received).filter (fun m => m.role = "system")).map ChatMessage.content =
      systemTexts msgs := by
  rw [List.filter_map,List.map_map]
  rfl

theorem map_spoken {α : Type} (f : ChatMessage → α) (msgs : List Api.ChatMessage) :
    ((msgs.map received).filter (fun m => m.role ≠ "system")).map f =
      (spoken msgs).map (fun m => f (received m)) := by
  rw [List.filter_map,List.map_map]
  rfl

def pieces (m : Api.ChatMessage) : List Piece :=
  (if m.textContent = "" then [] else [Piece.text m.textContent]) ++ m.imageURLs.map Piece.image

theorem ofParts_pieces (assistant : Bool) (m : Api.ChatMessage) :
    Turn.ofParts assistant (pieces m) = ⟨assistant,m.textContent,m.imageURLs⟩ :=
  ofParts_blocks assistant m.textContent m.imageURLs

theorem pieces_ne_nil {m : Api.ChatMessage} (h : m.imageURLs ≠ []) : pieces m ≠ [] := by
  simp [pieces,h]

theorem filterMap_received {α : Type} {f : MessageContentBlock → Option α} {g : Piece → α}
    {m : Api.ChatMessage} (h : m.imageURLs ≠ [])
    (htext : ∀ s, s ≠ "" → f { type := "text", text := s } = some (g (.text s)))
    (himage : ∀ url, url ≠ "" → f { type := "image_url", imageURL := some url } = some (g (.image url))) :
    (received m).contentBlocks.filterMap f = (pieces m).map g := by
  have hblocks := filterMap_blocks (t := m.textContent) h (fun _ => imageURLs_ne) htext himage
  refine hblocks.trans ?_
  rw [pieces,List.map_append,List.map_map]
  congr 1
  split_ifs <;> rfl

section Paragraphs

def paragraphsFrom (prompt : String) (texts : List String) : String :=
  texts.foldl (fun prompt t => (if prompt ≠ "" then prompt ++ "\n\n" else prompt) ++ t) prompt

theorem paragraphsFrom_of_ne {prompt : String} (h : prompt ≠ "") (texts : List String) :
    paragraphsFrom prompt texts = "\n\n".intercalate (prompt :: texts) := by
  induction texts generalizing prompt with
  | nil => exact String.intercalate_singleton.symm
  | cons t texts ih =>
    have hne : prompt ++ "\n\n" ++ t ≠ "" := by simp
    rw [paragraphsFrom,List.foldl_cons,if_pos h,String.intercalate_cons_cons,
      ← String.intercalate_cons_append]
    exact ih hne

theorem paragraphsFrom_eq (texts : List String) :
    paragraphsFrom "" texts = "\n\n".intercalate (texts.dropWhile (· = "")) := by
  induction texts with
  | nil => exact String.intercalate_nil.symm
  | cons t texts ih =>
    have hstep : paragraphsFrom "" (t :: texts) = paragraphsFrom t texts := by
      rw [paragraphsFrom,List.foldl_cons,if_neg (not_not.mpr rfl),String.empty_append]
      rfl
    rw [hstep,List.dropWhile_cons]
    split_ifs with ht
    · rw [of_decide_eq_true ht]
      exact ih
    · exact paragraphsFrom_of_ne (by simpa using ht) texts

end Paragraphs

namespace Anthropic

def message (msg : ChatMessage) : Message :=
  ⟨if msg.role = "assistant" then "assistant" else "user",anthropicContent msg⟩

theorem foldl_translateMessage (prompt : String) (out : List Message) (msgs : List ChatMessage) :
    msgs.foldl translateMessage (prompt,out) =
      (paragraphsFrom prompt ((msgs.filter (fun m => m.role = "system")).map ChatMessage.content),
        out ++ (msgs.filter (fun m => m.role ≠ "system")).map message) := by
  induction msgs generalizing prompt out with
  | nil => simp [paragraphsFrom]
  | cons msg msgs ih =>
    rw [List.foldl_cons,translateMessage]
    split_ifs with hsystem hprompt hrole
    · rw [ih]
      simp [hsystem,paragraphsFrom,hprompt]
    · obtain rfl : prompt = "" := not_not.mp hprompt
      rw [ih]
      simp [hsystem,paragraphsFrom]
    · have hmessage : (⟨msg.role,anthropicContent msg⟩ : Message) = message msg := by
        rcases hrole with h | h <;> simp [message,h]
      rw [ih,hmessage]
      simp [hsystem]
    · have hmessage : (⟨"user",anthropicContent msg⟩ : Message) = message msg := by
        rw [message,if_neg (fun h => hrole (.inr h))]
      rw [ih,hmessage]
      simp [hsystem]

def pieceDoc : Piece → Doc
  | .text s => .obj [("type",text "text"),("text",text s)]
  | .image url => .obj [("type",text "image"),("source",.obj [("type",text "url"),("url",text url)])]

theorem readBlock_pieceDoc (p : Piece) : readBlock (pieceDoc p) = some p := by
  cases p <;> rfl

theorem content_blocks {m : Api.ChatMessage} (h : m.imageURLs ≠ []) :
    anthropicContent (received m) = .arr ((pieces m).map pieceDoc) := by
  have hne : (received m).contentBlocks ≠ [] := providerBlocks_eq_nil_iff.not.mpr h
  rw [anthropicContent,if_neg hne,filterMap_received (f := inputBlock) (g := pieceDoc) h]
  · cases hp : pieces m with
    | nil => exact absurd hp (pieces_ne_nil h)
    | cons p ps => rfl
  · intro s hs
    simp [inputBlock,hs,pieceDoc]
  · intro url hurl
    simp [inputBlock,hurl,pieceDoc]

theorem content_text {m : Api.ChatMessage} (h : m.imageURLs = []) :
    anthropicContent (received m) = .str m.textContent :=
  if_pos (providerBlocks_eq_nil_iff.mpr h)

theorem read_content (assistant : Bool) (m : Api.ChatMessage) :
    (readContent (anthropicContent (received m))).map (Turn.ofParts assistant) =
      some ⟨assistant,m.textContent,m.imageURLs⟩ := by
  rcases Classical.em (m.imageURLs = []) with h | h
  · rw [content_text h,h,readContent,Option.map_some,Turn.ofParts]
    simp [Piece.text?,Piece.image?]
  · have hread := mapM_map_some (g := readBlock) (k := id)
      (fun p (_ : p ∈ pieces m) => readBlock_pieceDoc p)
    rw [List.map_id] at hread
    rw [content_blocks h,readContent,hread,Option.map_some,ofParts_pieces]

theorem wellFormed_content (m : Api.ChatMessage) :
    (anthropicContent (received m)).wellFormed = true := by
  rcases Classical.em (m.imageURLs = []) with h | h
  · rw [content_text h]
    rfl
  · rw [content_blocks h]
    refine wellFormed_map _ (fun p _ => ?_)
    cases p <;> rfl

def sentDoc (temperature : Option Doc) (streaming : Bool) (req : ChatRequest) : Doc :=
  if streaming then (translateRequest req).streamDoc temperature
  else (translateRequest req).plainDoc temperature

def sent (streaming : Bool) (req : ChatRequest) : Except String Doc := (translateRequest req).body streaming

theorem translateRequest_received (req : ChatRequest) (msgs : List Api.ChatMessage) :
    (translateRequest { req with messages := toProviderMessages msgs }).system =
        "\n\n".intercalate ((systemTexts msgs).dropWhile (· = "")) ∧
      (translateRequest { req with messages := toProviderMessages msgs }).messages =
        if spoken msgs = [] then [⟨"user",text ""⟩]
        else (spoken msgs).map (fun m => message (received m)) := by
  have hfold := foldl_translateMessage "" [] (toProviderMessages msgs)
  rw [toProviderMessages_eq,contents_system,map_spoken,List.nil_append,paragraphsFrom_eq] at hfold
  constructor
  · exact congrArg Prod.fst hfold
  · have hout := congrArg Prod.snd hfold
    simp only [translateRequest,toProviderMessages_eq,hout,List.map_eq_nil_iff]

theorem wellFormed_messages {r : Request} (h : ∀ m ∈ r.messages, m.content.wellFormed = true) :
    r.messagesDoc.wellFormed = true := by
  refine wellFormed_map _ (fun m hm => ?_)
  simp [Doc.wellFormed,Doc.wellFormedEntries,text,h m hm]

theorem wellFormed_sentDoc {temperature : Option Doc} (streaming : Bool) {req : ChatRequest}
    (ht : ∀ e, temperature = some e → e.wellFormed = true)
    (h : ∀ m ∈ (translateRequest req).messages, m.content.wellFormed = true) :
    (sentDoc temperature streaming req).wellFormed = true := by
  have hmessages := wellFormed_messages h
  have hsystem : Doc.wellFormedEntries (optional "system" (translateRequest req).systemDoc) = true := by
    refine wellFormedEntries_optional (fun e he => ?_)
    rw [Request.systemDoc] at he
    split_ifs at he
    cases he
    rfl
  have htemperature : Doc.wellFormedEntries (optional "temperature" temperature) = true :=
    wellFormedEntries_optional ht
  cases streaming <;>
    simp [sentDoc,Request.plainDoc,Request.streamDoc,Doc.wellFormed,wellFormedEntries_append,
      Doc.wellFormedEntries,text,hmessages,hsystem,htemperature,wellFormed_int]

theorem messages_sentDoc (temperature : Option Doc) (streaming : Bool) (req : ChatRequest) :
    ((sentDoc temperature streaming req).field "messages").bind items? =
      some ((translateRequest req).messages.map
        (fun m => .obj [("role",text m.role),("content",m.content)])) := by
  cases streaming <;>
    simp [sentDoc,Request.plainDoc,Request.streamDoc,Doc.field,List.lookup,Request.messagesDoc,items?]

theorem system_sentDoc (temperature : Option Doc) (streaming : Bool) (req : ChatRequest) :
    (stringAt "system" (sentDoc temperature streaming req)).toList = paragraph (translateRequest req).system := by
  simp only [paragraph]
  rcases Classical.em ((translateRequest req).system = "") with h | h
  · rw [if_pos h]
    cases streaming <;> cases temperature <;>
      simp [sentDoc,Request.plainDoc,Request.streamDoc,stringAt,Doc.field,List.lookup,Request.systemDoc,
        optional,h]
  · rw [if_neg h]
    cases streaming <;>
      simp [sentDoc,Request.plainDoc,Request.streamDoc,stringAt,Doc.field,List.lookup,Request.systemDoc,
        optional,h,text,Doc.text?]

theorem read_message (m : Api.ChatMessage) :
    readMessage (.obj [("role",text (message (received m)).role),
      ("content",(message (received m)).content)]) = some (turnOf m) := by
  have hcontent := read_content (decide (m.role = "assistant")) m
  have hspeaker : speaker "assistant" (message (received m)).role =
      some (decide (m.role = "assistant")) := by
    rw [message]
    show speaker "assistant" (if m.role = "assistant" then "assistant" else "user") = _
    split_ifs with h <;> simp [speaker,h]
  have hrole : stringAt "role" (.obj [("role",text (message (received m)).role),
      ("content",(message (received m)).content)]) = some (message (received m)).role := rfl
  have hfield : (Doc.obj [("role",text (message (received m)).role),
      ("content",(message (received m)).content)]).field "content" =
      some (anthropicContent (received m)) := rfl
  rw [readMessage,hrole,Option.bind_some,hspeaker,Option.bind_some,hfield,Option.bind_some,hcontent]
  rfl

theorem read_sentDoc {temperature : Option Doc} (ht : ∀ e, temperature = some e → e.wellFormed = true)
    (streaming : Bool) (req : ChatRequest) (msgs : List Api.ChatMessage) :
    (Doc.parse (sentDoc temperature streaming
        { req with messages := toProviderMessages msgs }).marshal).bind read =
      some ⟨paragraph ("\n\n".intercalate ((systemTexts msgs).dropWhile (· = ""))),
        heard (turnsOf msgs)⟩ := by
  obtain ⟨hsystem,hmessages⟩ := translateRequest_received req msgs
  have hwell : ∀ m ∈ (translateRequest { req with messages := toProviderMessages msgs }).messages,
      m.content.wellFormed = true := by
    rw [hmessages]
    intro m hm
    split_ifs at hm
    · rw [List.mem_singleton.mp hm]
      rfl
    · obtain ⟨a,-,rfl⟩ := List.mem_map.mp hm
      exact wellFormed_content a
  rw [Doc.parse_marshal (wellFormed_sentDoc streaming ht hwell),Option.bind_some,read,messages_sentDoc,
    Option.bind_some,system_sentDoc,hsystem,hmessages]
  have hturns : turnsOf msgs = [] ↔ spoken msgs = [] := List.map_eq_nil_iff
  split_ifs with hnone
  · rw [heard,if_pos (hturns.mpr hnone)]
    rfl
  · have hread := mapM_map_some (fun m (_ : m ∈ spoken msgs) => read_message m)
    rw [heard,if_neg (hturns.not.mpr hnone),List.map_map]
    exact congrArg (Option.map _) hread

theorem read_sent (streaming : Bool) (req : ChatRequest) (msgs : List Api.ChatMessage) :
    (sent streaming { req with messages := toProviderMessages msgs }).toOption.bind
        (fun d => (Doc.parse d.marshal).bind read) =
      if writable req.temperature then
        some ⟨paragraph ("\n\n".intercalate ((systemTexts msgs).dropWhile (· = ""))),
          heard (turnsOf msgs)⟩
      else none := by
  cases streaming with
  | false => exact read_marshalled (fun d hd => read_sentDoc hd false req msgs)
  | true => exact read_marshalled (fun d hd => read_sentDoc hd true req msgs)

end Anthropic

namespace Gemini

def piecePart : Piece → Part
  | .text s => { text := s }
  | .image url => { fileURI := some url }

def content (msg : ChatMessage) : Content :=
  ⟨if msg.role = "assistant" then "model" else "user",geminiParts msg⟩

theorem foldl_translateMessage (system : List Part) (out : List Content) (msgs : List ChatMessage) :
    msgs.foldl translateMessage (system,out) =
      (system ++ ((msgs.filter (fun m => m.role = "system")).map ChatMessage.content).map
          (fun t => piecePart (.text t)),
        out ++ (msgs.filter (fun m => m.role ≠ "system")).map content) := by
  induction msgs generalizing system out with
  | nil => simp
  | cons msg msgs ih =>
    rw [List.foldl_cons,translateMessage]
    split_ifs with hsystem hrole
    · rw [ih]
      simp [hsystem,piecePart]
    · have hcontent : (⟨"model",geminiParts msg⟩ : Content) = content msg := by
        rw [content,if_pos hrole]
      rw [ih,hcontent]
      simp [hsystem]
    · have hcontent : (⟨"user",geminiParts msg⟩ : Content) = content msg := by
        rw [content,if_neg hrole]
      rw [ih,hcontent]
      simp [hsystem]

theorem readPart_piecePart (p : Piece) : readPart (piecePart p).doc = some p := by
  cases p with
  | text s =>
    rcases Classical.em (s = "") with rfl | h
    · rfl
    · simp [readPart,piecePart,Part.doc,h,optional,Doc.field,List.lookup,stringAt,text,Doc.text?]
  | image url => rfl

theorem wellFormed_piecePart (p : Piece) : (piecePart p).doc.wellFormed = true := by
  cases p with
  | text s =>
    rcases Classical.em (s = "") with rfl | h
    · rfl
    · simp [piecePart,Part.doc,h,optional,Doc.wellFormed,Doc.wellFormedEntries,text]
  | image url => rfl

def partsOf (m : Api.ChatMessage) : List Piece :=
  if m.imageURLs = [] then [.text m.textContent] else pieces m

theorem ofParts_partsOf (assistant : Bool) (m : Api.ChatMessage) :
    Turn.ofParts assistant (partsOf m) = ⟨assistant,m.textContent,m.imageURLs⟩ := by
  rw [partsOf]
  split_ifs with h
  · rw [h,Turn.ofParts]
    simp [Piece.text?,Piece.image?]
  · exact ofParts_pieces assistant m

theorem geminiParts_received (m : Api.ChatMessage) :
    geminiParts (received m) = (partsOf m).map piecePart := by
  rw [geminiParts,partsOf]
  split_ifs with hblocks himages himages
  · rfl
  · exact absurd (providerBlocks_eq_nil_iff.mp hblocks) himages
  · exact absurd (providerBlocks_eq_nil_iff.mpr himages) hblocks
  · have hmap := filterMap_received (f := blockPart) (g := piecePart) himages
      (fun s hs => by simp [blockPart,hs,piecePart]) (fun url hurl => by simp [blockPart,hurl,piecePart])
    rw [hmap,if_neg (List.map_eq_nil_iff.not.mpr (pieces_ne_nil himages))]

theorem readParts_pieces (role : String) (ps : List Piece) :
    readParts (Content.doc ⟨role,ps.map piecePart⟩) = some ps := by
  have hread := mapM_map_some (fun p (_ : p ∈ ps) => readPart_piecePart p)
  rw [List.map_id' ps] at hread
  have hparts : ((Content.doc ⟨role,ps.map piecePart⟩).field "parts").bind items? =
      some (ps.map (fun p => (piecePart p).doc)) := by
    simp [Content.doc,Doc.field,List.lookup,items?]
  rw [readParts,hparts,Option.bind_some,hread]

theorem wellFormed_pieces (role : String) (ps : List Piece) :
    (Content.doc ⟨role,ps.map piecePart⟩).wellFormed = true := by
  have hparts := wellFormed_map ps (fun p _ => wellFormed_piecePart p)
  simp only [Content.doc,Doc.wellFormed,Doc.wellFormedEntries,text,List.map_map,Bool.true_and,
    Bool.and_true]
  exact hparts

theorem read_content (m : Api.ChatMessage) :
    readContent (content (received m)).doc = some (turnOf m) := by
  have hspeaker : (stringAt "role" (content (received m)).doc).bind (speaker "model") =
      some (decide (m.role = "assistant")) := by
    show speaker "model" (if m.role = "assistant" then "model" else "user") = _
    split_ifs with h <;> simp [speaker,h]
  rw [readContent,hspeaker,Option.bind_some,content,geminiParts_received,readParts_pieces,
    Option.map_some,ofParts_partsOf]
  rfl

def sent (streaming : Bool) (req : ChatRequest) : Except String Doc := (translateRequest req).body streaming

theorem translateRequest_received (req : ChatRequest) (msgs : List Api.ChatMessage) :
    (translateRequest { req with messages := toProviderMessages msgs }).systemInstruction =
        (if systemTexts msgs = [] then none
          else some ⟨"user",((systemTexts msgs).map Piece.text).map piecePart⟩) ∧
      (translateRequest { req with messages := toProviderMessages msgs }).contents =
        if spoken msgs = [] then [⟨"user",[.text ""].map piecePart⟩]
        else (spoken msgs).map (fun m => content (received m)) := by
  have hfold := foldl_translateMessage [] [] (toProviderMessages msgs)
  rw [toProviderMessages_eq,contents_system,map_spoken,List.nil_append,List.nil_append] at hfold
  have hsystem := congrArg Prod.fst hfold
  have hout := congrArg Prod.snd hfold
  constructor
  · simp only [translateRequest,toProviderMessages_eq,hsystem,List.map_eq_nil_iff,List.map_map]
    rfl
  · simp only [translateRequest,toProviderMessages_eq,hout,List.map_eq_nil_iff]
    rfl

theorem wellFormed_doc {temperature : Option Doc} (ht : ∀ e, temperature = some e → e.wellFormed = true)
    {r : Request} (hcontents : ∀ c ∈ r.contents, c.doc.wellFormed = true)
    (hsystem : ∀ c, r.systemInstruction = some c → c.doc.wellFormed = true) :
    (r.doc temperature).wellFormed = true := by
  have hlist : Doc.wellFormedItems (r.contents.map Content.doc) = true :=
    wellFormedItems_of (List.forall_mem_map.mpr hcontents)
  have hinstruction : Doc.wellFormedEntries
      (optional "systemInstruction" (r.systemInstruction.map Content.doc)) = true := by
    refine wellFormedEntries_optional (fun e he => ?_)
    obtain ⟨c,hc,rfl⟩ := Option.map_eq_some_iff.mp he
    exact hsystem c hc
  have htemperature : Doc.wellFormedEntries (optional "temperature" temperature) = true :=
    wellFormedEntries_optional ht
  have htokens : Doc.wellFormedEntries (if r.maxOutputTokens = 0 then []
      else [("maxOutputTokens",int r.maxOutputTokens)]) = true := by
    split_ifs
    · rfl
    · simp [Doc.wellFormedEntries,wellFormed_int]
  simp [Request.doc,Doc.wellFormed,wellFormedEntries_append,Doc.wellFormedEntries,hlist,hinstruction,
    htemperature,htokens]

theorem contents_doc (r : Request) (temperature : Option Doc) :
    ((r.doc temperature).field "contents").bind items? = some (r.contents.map Content.doc) := by
  simp [Request.doc,Doc.field,List.lookup,items?]

theorem instruction_doc (r : Request) (temperature : Option Doc) :
    (r.doc temperature).field "systemInstruction" = r.systemInstruction.map Content.doc := by
  cases h : r.systemInstruction <;> simp [Request.doc,Doc.field,List.lookup,optional,h]

theorem filterMap_texts (texts : List String) :
    (texts.map Piece.text).filterMap Piece.text? = texts := by
  rw [List.filterMap_map]
  exact List.filterMap_some

theorem read_doc {temperature : Option Doc} (ht : ∀ e, temperature = some e → e.wellFormed = true)
    (req : ChatRequest) (msgs : List Api.ChatMessage) :
    (Doc.parse ((translateRequest { req with messages := toProviderMessages msgs }).doc
        temperature).marshal).bind read = some ⟨systemTexts msgs,heard (turnsOf msgs)⟩ := by
  obtain ⟨hsystem,hcontents⟩ := translateRequest_received req msgs
  have hwell : ((translateRequest { req with messages := toProviderMessages msgs }).doc
      temperature).wellFormed = true := by
    refine wellFormed_doc ht ?_ ?_
    · rw [hcontents]
      intro c hc
      split_ifs at hc
      · rw [List.mem_singleton.mp hc]
        exact wellFormed_pieces "user" [.text ""]
      · obtain ⟨m,-,rfl⟩ := List.mem_map.mp hc
        rw [content,geminiParts_received]
        exact wellFormed_pieces _ _
    · rw [hsystem]
      intro c hc
      split_ifs at hc
      cases hc
      exact wellFormed_pieces _ _
  have hturns : turnsOf msgs = [] ↔ spoken msgs = [] := List.map_eq_nil_iff
  have hread : (((translateRequest { req with messages := toProviderMessages msgs }).contents.map
      Content.doc).mapM readContent) = some (heard (turnsOf msgs)) := by
    rw [hcontents]
    split_ifs with hnone
    · rw [heard,if_pos (hturns.mpr hnone)]
      rfl
    · rw [heard,if_neg (hturns.not.mpr hnone),List.map_map]
      exact mapM_map_some (fun m (_ : m ∈ spoken msgs) => read_content m)
  rw [Doc.parse_marshal hwell,Option.bind_some,read,contents_doc,Option.bind_some,hread,
    Option.bind_some,instruction_doc,hsystem]
  split_ifs with hnone
  · rw [hnone]
    rfl
  · rw [Option.map_some]
    simp only [readParts_pieces,Option.map_some,filterMap_texts]

theorem read_sent (streaming : Bool) (req : ChatRequest) (msgs : List Api.ChatMessage) :
    (sent streaming { req with messages := toProviderMessages msgs }).toOption.bind
        (fun d => (Doc.parse d.marshal).bind read) =
      if writable req.temperature then some ⟨systemTexts msgs,heard (turnsOf msgs)⟩ else none :=
  read_marshalled (fun _ hd => read_doc hd req msgs)

end Gemini

namespace Converse

theorem filterMap_blockText {t : String} {urls : List String} (h : urls ≠ []) :
    (providerBlocks t urls).filterMap blockText = paragraph t := by
  have himages : (urls.map (fun url =>
      ({ type := "image_url", imageURL := some url } : MessageContentBlock))).filterMap blockText = [] := by
    rw [List.filterMap_map]
    exact List.filterMap_eq_nil_iff.mpr (fun _ _ => by simp [blockText])
  rw [providerBlocks,if_neg h,List.filterMap_append,himages,List.append_nil,paragraph]
  split_ifs with ht
  · rfl
  · simp [blockText,ht]

theorem textFromChatMessage_received (m : Api.ChatMessage) :
    textFromChatMessage (received m) = m.textContent := by
  rcases Classical.em (m.imageURLs = []) with h | h
  · exact if_pos (providerBlocks_eq_nil_iff.mpr h)
  · have hblocks : (received m).contentBlocks ≠ [] := providerBlocks_eq_nil_iff.not.mpr h
    have htexts : (received m).contentBlocks.filterMap blockText = paragraph m.textContent :=
      filterMap_blockText h
    simp only [textFromChatMessage,if_neg hblocks,htexts]
    rcases Classical.em (m.textContent = "") with ht | ht
    · rw [paragraph,if_pos ht,String.intercalate_nil,if_neg (not_not.mpr rfl)]
      rfl
    · rw [paragraph,if_neg ht,String.intercalate_singleton,if_pos ht]

def said (m : Api.ChatMessage) : Message :=
  ⟨if m.role = "assistant" then .assistant else .user,m.textContent⟩

theorem convert_received (acc : List String × List Message) (msgs : List Api.ChatMessage) :
    convert acc (msgs.map received) =
      if msgs.any wordless then .error unsupported
      else .ok (acc.1 ++ (systemTexts msgs).filter (· ≠ ""),
        acc.2 ++ ((spoken msgs).filter (fun m => m.textContent ≠ "")).map said) := by
  induction msgs generalizing acc with
  | nil => simp [convert,systemTexts,spoken]
  | cons m msgs ih =>
    have hrole : (received m).role = m.role := rfl
    have hblocks : (received m).contentBlocks = [] ↔ m.imageURLs = [] := providerBlocks_eq_nil_iff
    rw [List.map_cons,convert]
    simp only [textFromChatMessage_received,hrole,hblocks]
    rcases Classical.em (m.role = "system") with hsystem | hsystem
    · rw [if_pos hsystem,ih]
      rcases Classical.em (m.textContent = "") with htext | htext <;>
        simp [wordless,systemTexts,spoken,hsystem,htext]
    · rw [if_neg hsystem]
      rcases Classical.em (m.textContent = "") with htext | htext
      · rcases Classical.em (m.role = "user" ∨ m.role = "assistant") with hspeaker | hspeaker
        · rcases Classical.em (m.imageURLs = []) with himages | himages
          · rw [if_pos hspeaker,if_pos ⟨htext,himages⟩,ih]
            simp [wordless,systemTexts,spoken,hsystem,htext,himages]
          · rw [if_pos hspeaker,if_neg (fun h => himages h.2),if_pos htext]
            simp [wordless,hspeaker,htext,himages]
        · rw [if_neg hspeaker,if_pos htext,ih]
          obtain ⟨huser,hassistant⟩ := not_or.mp hspeaker
          simp [wordless,systemTexts,spoken,hsystem,htext,huser,hassistant]
      · have hquiet : wordless m = false := by simp [wordless,htext]
        have hsaid : (if m.role = "user" ∨ m.role = "assistant" then
            convert (acc.1,acc.2 ++ [⟨if m.role = "assistant" then Role.assistant else .user,
              m.textContent⟩]) (msgs.map received)
            else convert (acc.1,acc.2 ++ [⟨.user,m.textContent⟩]) (msgs.map received)) =
            convert (acc.1,acc.2 ++ [said m]) (msgs.map received) := by
          split_ifs with hspeaker hassistant
          · rw [said,if_pos hassistant]
          · rw [said,if_neg hassistant]
          · rw [said,if_neg (fun h => hspeaker (.inr h))]
        simp only [htext,false_and,if_false]
        rw [hsaid,ih]
        simp [hquiet,systemTexts,spoken,hsystem,htext]

def joined (paragraphs : List String) : List String :=
  if paragraphs = [] then [] else ["\n\n".intercalate paragraphs]

theorem read_sent (msgs : List Api.ChatMessage) :
    (bedrockOpenAIMessagesToConverse (toProviderMessages msgs)).map read =
      if msgs.any wordless then .error unsupported
      else .ok ⟨joined ((systemTexts msgs).filter (· ≠ "")),
        ((turnsOf msgs).filter (fun t => t.text ≠ "")).map (fun t => { t with images := [] })⟩ := by
  rw [bedrockOpenAIMessagesToConverse,toProviderMessages_eq,convert_received,List.nil_append,
    List.nil_append]
  split_ifs with hwordless
  · rfl
  · have hturns : (((spoken msgs).filter (fun m => m.textContent ≠ "")).map said).map Message.turn =
        ((turnsOf msgs).filter (fun t => t.text ≠ "")).map (fun t => { t with images := [] }) := by
      rw [turnsOf,List.filter_map,List.map_map,List.map_map]
      refine List.map_congr_left (fun m _ => ?_)
      rcases Classical.em (m.role = "assistant") with h | h <;>
        simp [Message.turn,said,turnOf,h]
    simp only [Except.map,read,hturns,joined]
    split_ifs <;> rfl

theorem input_cases (streaming : Bool) (req : ChatRequest) :
    (input streaming req).map (fun i => read (i.system,i.messages)) =
      if modelID req = "" then .error noModel
      else match bedrockOpenAIMessagesToConverse req.messages with
        | .error e => .error e
        | .ok v => if v.2 = [] then .error noMessage else .ok (read v) := by
  rw [input]
  rcases Classical.em (modelID req = "") with hmodel | hmodel
  · rw [if_pos hmodel,if_pos hmodel]
    rfl
  · rw [if_neg hmodel,if_neg hmodel]
    cases bedrockOpenAIMessagesToConverse req.messages with
    | error e => rfl
    | ok v =>
      rcases Classical.em (v.2 = []) with hnone | hsome
      · simp only [if_pos hnone]
        rfl
      · simp only [if_neg hsome]
        rfl

theorem all_empty_iff (turns : List Turn) : turns.all (fun t => t.text = "") = true ↔
    (turns.filter (fun t => t.text ≠ "")).map (fun t => { t with images := [] }) = [] := by
  rw [List.map_eq_nil_iff,List.filter_eq_nil_iff,List.all_eq_true]
  simp

theorem read_input (streaming : Bool) (req : ChatRequest) (msgs : List Api.ChatMessage) :
    (input streaming { req with messages := toProviderMessages msgs }).map
        (fun i => read (i.system,i.messages)) =
      if modelID req = "" then .error noModel
      else if msgs.any wordless then .error unsupported
      else if (turnsOf msgs).all (fun t => t.text = "") then .error noMessage
      else .ok ⟨joined ((systemTexts msgs).filter (· ≠ "")),
        ((turnsOf msgs).filter (fun t => t.text ≠ "")).map (fun t => { t with images := [] })⟩ := by
  have hmodel : modelID { req with messages := toProviderMessages msgs } = modelID req := rfl
  have hread := read_sent msgs
  rw [input_cases,hmodel]
  cases hc : bedrockOpenAIMessagesToConverse (toProviderMessages msgs) with
  | error e =>
    rw [hc] at hread
    split_ifs at hread with hwordless
    · rw [if_pos hwordless]
      simp only [Except.map,Except.error.injEq] at hread
      rw [hread]
    · cases hread
  | ok v =>
    rw [hc] at hread
    split_ifs at hread with hwordless
    · cases hread
    · have hconversation := Except.ok.inj hread
      have hturns : v.2.map Message.turn =
          ((turnsOf msgs).filter (fun t => t.text ≠ "")).map (fun t => { t with images := [] }) :=
        congrArg Conversation.turns hconversation
      have hnone : v.2 = [] ↔ (turnsOf msgs).all (fun t => t.text = "") = true := by
        rw [all_empty_iff,← hturns,List.map_eq_nil_iff]
      rw [if_neg hwordless,← hconversation]
      simp only [hnone]

end Converse

section Agreement

variable {msgs : List Api.ChatMessage}

theorem text_conversations_agree (h : ∀ m ∈ msgs, m.textContent ≠ "" ∧ m.imageURLs = []) :
    msgs.any wordless = false ∧
    paragraph ("\n\n".intercalate ((systemTexts msgs).dropWhile (· = ""))) =
      Converse.joined ((systemTexts msgs).filter (· ≠ "")) ∧
    ((turnsOf msgs).filter (fun t => t.text ≠ "")).map (fun t => { t with images := [] }) =
      turnsOf msgs := by
  have htexts : ∀ t ∈ systemTexts msgs, t ≠ "" := by
    intro t ht
    obtain ⟨m,hm,rfl⟩ := List.mem_map.mp ht
    exact (h m (List.mem_filter.mp hm).1).1
  refine ⟨?_,?_,?_⟩
  · refine List.any_eq_false.mpr (fun m hm => ?_)
    simp [wordless,(h m hm).1]
  · have hfilter : (systemTexts msgs).filter (· ≠ "") = systemTexts msgs :=
      List.filter_eq_self.mpr (fun t ht => by simpa using htexts t ht)
    rw [hfilter]
    cases hs : systemTexts msgs with
    | nil => rfl
    | cons t ts =>
      have ht : t ≠ "" := htexts t (by rw [hs]; exact List.mem_cons_self)
      have hne : "\n\n".intercalate (t :: ts) ≠ "" := by
        intro hempty
        have hlist := congrArg String.toList hempty
        cases ts with
        | nil => exact ht (by rwa [String.intercalate_singleton] at hempty)
        | cons u us => simp [String.intercalate_cons_cons] at hlist
      rw [List.dropWhile_cons,if_neg (by simpa using ht),paragraph,if_neg hne]
      rfl
  · have hfilter : (turnsOf msgs).filter (fun t => t.text ≠ "") = turnsOf msgs := by
      refine List.filter_eq_self.mpr (fun t ht => ?_)
      obtain ⟨m,hm,rfl⟩ := List.mem_map.mp ht
      exact decide_eq_true (h m (List.mem_filter.mp hm).1).1
    have hmap : ∀ t ∈ turnsOf msgs, { t with images := [] } = t := by
      intro t ht
      obtain ⟨m,hm,rfl⟩ := List.mem_map.mp ht
      rw [turnOf,(h m (List.mem_filter.mp hm).1).2]
    rw [hfilter,List.map_congr_left hmap]
    exact List.map_id _

end Agreement

end PrismGateway.Providers
