import Mathlib.Algebra.Order.Floor.Div
import PrismGateway.Api.StreamTranslation
import PrismGateway.Orchestrator.StreamCost

namespace PrismGateway.Api

open Lib Providers Orchestrator
open Cost (estimateStreamingTokens streamUsage)

def inputTexts (messages : List Orchestrator.ChatMessage) : List String :=
  messages.flatMap (fun m =>
    (if m.content ≠ "" then [m.content] else []) ++
      m.contentBlocks.filterMap (fun block =>
        if block.type = "text" ∧ block.text ≠ "" then some block.text else none))

def streamingInputText (messages : List Orchestrator.ChatMessage) : String :=
  String.join ((inputTexts messages).map (· ++ "\n"))

def appendStreamDeltaContent (out : String) (data : List Char) : String :=
  match unmarshalReader.contents data with
  | none => out
  | some contents => contents.foldl (fun out content => if content ≠ "" then out ++ content else out) out

/-- The output text and the usage with which the loop of `writeSSEStream` comes to log the request. -/
def streamed (out : String) : List StreamEvent → String × Option Providers.Usage
  | [] => (out,none)
  | .error _ :: _ => (out,none)
  | .done _ usage :: _ => (out,usage)
  | .delta content toolCallsDelta finishReason :: rest =>
    let payload := (chunkDoc rawMessage content toolCallsDelta finishReason).marshal
    streamed (if out.utf8ByteSize < 4 * 1024 then appendStreamDeltaContent out payload else out) rest

def reported (usage : Providers.Usage) : Cost.Usage :=
  { promptTokens := usage.promptTokens
    completionTokens := usage.completionTokens
    totalTokens := usage.totalTokens
    cachedInputTokens := usage.cachedInputTokens }

def recordedUsage (messages : List Orchestrator.ChatMessage) (events : List StreamEvent) : Cost.Usage :=
  streamUsage (estimateStreamingTokens (streamingInputText messages)) (streamed "" events).1
    ((streamed "" events).2.map reported)

section Sizes

def bytes (texts : List String) : ℕ := (texts.map String.utf8ByteSize).sum

theorem utf8ByteSize_join (texts : List String) : (String.join texts).utf8ByteSize = bytes texts := by
  induction texts with
  | nil => rfl
  | cons t rest ih =>
    rw [String.join_cons,String.utf8ByteSize_append,ih]
    rfl

theorem bytes_append (texts texts' : List String) : bytes (texts ++ texts') = bytes texts + bytes texts' := by
  rw [bytes,List.map_append,List.sum_append]
  rfl

theorem bytes_set_off (sep : String) (texts : List String) :
    bytes (texts.map (· ++ sep)) = bytes texts + texts.length * sep.utf8ByteSize := by
  induction texts with
  | nil => simp [bytes]
  | cons t rest ih =>
    simp only [bytes,List.map_cons,List.sum_cons,String.utf8ByteSize_append,List.length_cons] at ih ⊢
    rw [ih]
    ring

theorem bytes_eq_zero_iff (texts : List String) : bytes texts = 0 ↔ ∀ t ∈ texts, t = "" := by
  rw [bytes,List.sum_eq_zero_iff]
  simp

def Blank (s : String) : Prop := ∀ c ∈ s.toList, GoStrings.isSpace c = true

theorem trimSpace_eq_empty_iff (s : String) : GoStrings.trimSpace s = "" ↔ Blank s := by
  rw [GoStrings.trimSpace,GoStrings.runes_eq_toList,String.ofList_eq_empty_iff,List.reverse_eq_nil_iff,
    List.dropWhile_eq_nil_iff]
  simp only [List.mem_reverse]
  constructor
  · intro h
    refine List.dropWhile_eq_nil_iff.mp ?_
    cases hdrop : s.toList.dropWhile GoStrings.isSpace with
    | nil => rfl
    | cons c rest =>
      have hspace := h c (hdrop ▸ List.mem_cons_self)
      have hhead := List.head?_dropWhile_not GoStrings.isSpace s.toList
      rw [hdrop] at hhead
      simp [hspace] at hhead
  · exact fun h c hc => h c (List.dropWhile_sublist _ |>.subset hc)

instance (s : String) : Decidable (Blank s) := decidable_of_iff _ (trimSpace_eq_empty_iff s)

theorem blank_join (texts : List String) : Blank (String.join texts) ↔ ∀ t ∈ texts, Blank t := by
  simp only [Blank,String.toList_join,List.mem_flatMap,forall_exists_index,and_imp]
  exact ⟨fun h t ht c hc => h c t ht hc,fun h c t ht hc => h t ht c hc⟩

def slack (n : ℕ) : ℕ := (4 - n % 4) % 4

theorem ceilDiv_add_eq_iff (n x : ℕ) : (n + x) ⌈/⌉ 4 = n ⌈/⌉ 4 ↔ x ≤ slack n := by
  rw [Nat.ceilDiv_eq_add_pred_div,Nat.ceilDiv_eq_add_pred_div,slack]
  omega

theorem ceilDiv_eq_zero_iff (n : ℕ) : n ⌈/⌉ 4 = 0 ↔ n = 0 := by
  rw [Nat.ceilDiv_eq_add_pred_div]
  omega

theorem estimate_eq (s : String) : estimateStreamingTokens s =
    if Blank s then 0 else ((s.utf8ByteSize ⌈/⌉ 4 : ℕ) : ℤ) := by
  simp only [estimateStreamingTokens,trimSpace_eq_empty_iff]
  rfl

end Sizes

section Prompt

def texts (msgs : List ChatMessage) : List String :=
  (msgs.map ChatMessage.textContent).filter (· ≠ "")

def requestText (sep : String) (msgs : List ChatMessage) : String :=
  String.join ((texts msgs).map (· ++ sep))

/-- The texts that `toProviderMessages` keeps twice, as content and as a block before the images. -/
def repeated (msgs : List ChatMessage) : List String :=
  texts (msgs.filter (fun m => m.imageURLs ≠ []))

def surplus (sep : String) (msgs : List ChatMessage) : ℕ :=
  bytes (repeated msgs) + (repeated msgs).length + (texts msgs).length * (1 - sep.utf8ByteSize)

theorem inputTexts_cons (m : ChatMessage) (msgs : List ChatMessage) :
    inputTexts (toProviderMessages (m :: msgs)) =
      texts [m] ++ repeated [m] ++ inputTexts (toProviderMessages msgs) := by
  have hblocks : (providerBlocks m.textContent m.imageURLs).filterMap (fun block =>
      if block.type = "text" ∧ block.text ≠ "" then some block.text else none) = repeated [m] := by
    by_cases himages : m.imageURLs = []
    · simp [providerBlocks,repeated,texts,himages]
    · by_cases htext : m.textContent = ""
      · simp [providerBlocks,repeated,texts,himages,htext]
      · simp [providerBlocks,repeated,texts,himages,htext]
  have htexts : (if m.textContent ≠ "" then [m.textContent] else []) = texts [m] := by
    by_cases htext : m.textContent = ""
    · simp [texts,htext]
    · simp [texts,htext]
  simp only [inputTexts,toProviderMessages,List.map_cons,List.flatMap_cons,hblocks,htexts]

theorem inputTexts_perm (msgs : List ChatMessage) :
    (inputTexts (toProviderMessages msgs)).Perm (texts msgs ++ repeated msgs) := by
  induction msgs with
  | nil => exact List.Perm.refl _
  | cons m msgs ih =>
    have htexts : texts (m :: msgs) = texts [m] ++ texts msgs :=
      List.filter_append [m.textContent] _
    have hrepeated : repeated (m :: msgs) = repeated [m] ++ repeated msgs := by
      simp only [repeated,texts]
      rw [← List.filter_append,← List.map_append,← List.filter_append,List.singleton_append]
    rw [inputTexts_cons,htexts,hrepeated,List.append_assoc,List.append_assoc]
    refine List.Perm.append_left _ ((ih.append_left _).trans ?_)
    rw [← List.append_assoc,← List.append_assoc]
    exact List.perm_append_comm.append_right _

theorem size_streamingInputText {sep : String} (hsep : sep = "" ∨ sep = "\n") (msgs : List ChatMessage) :
    (streamingInputText (toProviderMessages msgs)).utf8ByteSize =
      (requestText sep msgs).utf8ByteSize + surplus sep msgs := by
  have hbytes : bytes (inputTexts (toProviderMessages msgs)) = bytes (texts msgs) + bytes (repeated msgs) := by
    rw [bytes,((inputTexts_perm msgs).map _).sum_eq,← bytes,bytes_append]
  have hlength : (inputTexts (toProviderMessages msgs)).length =
      (texts msgs).length + (repeated msgs).length := by
    rw [(inputTexts_perm msgs).length_eq,List.length_append]
  have hnewline : ("\n" : String).utf8ByteSize = 1 := rfl
  rw [streamingInputText,utf8ByteSize_join,bytes_set_off,hbytes,hlength,requestText,utf8ByteSize_join,
    bytes_set_off,surplus]
  rcases hsep with rfl | rfl
  · rw [String.utf8ByteSize_empty,hnewline]
    omega
  · rw [hnewline]
    omega

theorem blank_streamingInputText (msgs : List ChatMessage) :
    Blank (streamingInputText (toProviderMessages msgs)) ↔ ∀ m ∈ msgs, Blank m.textContent := by
  have hset (t : String) : Blank (t ++ "\n") ↔ Blank t := by
    simp only [Blank,String.toList_append,List.mem_append]
    constructor
    · exact fun h c hc => h c (.inl hc)
    · rintro h c (hc | hc)
      · exact h c hc
      · rw [List.mem_singleton.mp hc]
        rfl
  have hmem (t : String) : t ∈ inputTexts (toProviderMessages msgs) ↔ t ∈ texts msgs := by
    rw [(inputTexts_perm msgs).mem_iff,List.mem_append,or_iff_left_iff_imp]
    exact fun h => (((List.filter_sublist).map _).filter _).subset h
  rw [streamingInputText,blank_join]
  simp only [List.forall_mem_map,hset,hmem]
  constructor
  · intro h m hm
    by_cases htext : m.textContent = ""
    · rw [htext]
      exact fun _ hc => absurd hc List.not_mem_nil
    · exact h _ (List.mem_filter.mpr ⟨List.mem_map_of_mem hm,decide_eq_true htext⟩)
  · intro h t ht
    obtain ⟨m,hm,rfl⟩ := List.mem_map.mp (List.mem_filter.mp ht).1
    exact h m hm

theorem size_requestText_eq_zero_iff (sep : String) (msgs : List ChatMessage) :
    (requestText sep msgs).utf8ByteSize = 0 ↔ texts msgs = [] := by
  rw [requestText,utf8ByteSize_join,bytes_set_off]
  constructor
  · intro h
    have hempty := (bytes_eq_zero_iff (texts msgs)).mp (by omega)
    refine List.eq_nil_iff_forall_not_mem.mpr fun t ht => ?_
    exact of_decide_eq_true (List.mem_filter.mp ht).2 (hempty t ht)
  · intro h
    rw [h]
    simp [bytes]

def PromptFits (sep : String) (msgs : List ChatMessage) : Prop :=
  if ∀ m ∈ msgs, Blank m.textContent then texts msgs = []
  else surplus sep msgs ≤ slack (requestText sep msgs).utf8ByteSize

theorem prompt_tokens_iff {sep : String} (hsep : sep = "" ∨ sep = "\n") (msgs : List ChatMessage) :
    estimateStreamingTokens (streamingInputText (toProviderMessages msgs)) =
        (((requestText sep msgs).utf8ByteSize ⌈/⌉ 4 : ℕ) : ℤ) ↔ PromptFits sep msgs := by
  rw [estimate_eq,PromptFits]
  simp only [blank_streamingInputText]
  split_ifs with hblank
  · rw [← size_requestText_eq_zero_iff sep msgs,← ceilDiv_eq_zero_iff,eq_comm,Nat.cast_eq_zero]
  · rw [Nat.cast_inj,size_streamingInputText hsep]
    exact ceilDiv_add_eq_iff _ _

end Prompt

section Completion

def deltas : List StreamEvent → List String
  | .delta content _ _ :: rest => content :: deltas rest
  | _ => []

def kept (size : ℕ) : List String → List String
  | [] => []
  | content :: rest => if size < 4 * 1024 then content :: kept (size + content.utf8ByteSize) rest else []

def leftOut (contents : List String) : List String := contents.drop (kept 0 contents).length

theorem kept_append_leftOut (contents : List String) : kept 0 contents ++ leftOut contents = contents := by
  have hkept : ∀ size, kept size contents <+: contents := by
    induction contents with
    | nil => exact fun _ => List.prefix_refl _
    | cons content rest ih =>
      intro size
      rw [kept]
      split_ifs
      · exact List.prefix_cons_inj content |>.mpr (ih _)
      · exact List.nil_prefix
  exact List.prefix_iff_eq_append.mp (hkept 0)

theorem appendStreamDeltaContent_delta (out content toolCallsDelta : String) (finishReason : Option String) :
    appendStreamDeltaContent out (chunkDoc rawMessage content toolCallsDelta finishReason).marshal =
      out ++ content := by
  rw [appendStreamDeltaContent,contents_marshal]
  by_cases hempty : content = ""
  · simp [hempty]
  · simp [hempty]

theorem kept_of_full {size : ℕ} (h : ¬size < 4 * 1024) (contents : List String) : kept size contents = [] := by
  cases contents with
  | nil => rfl
  | cons content rest => exact if_neg h

theorem streamed_fst (events : List StreamEvent) : ∀ out,
    (streamed out events).1 = out ++ String.join (kept out.utf8ByteSize (deltas events)) := by
  induction events with
  | nil =>
    intro out
    exact String.append_empty.symm
  | cons event rest ih =>
    intro out
    cases event with
    | error err => exact String.append_empty.symm
    | done finishReason usage => exact String.append_empty.symm
    | delta content toolCallsDelta finishReason =>
      rw [streamed,deltas,kept,appendStreamDeltaContent_delta]
      split_ifs with hsize
      · rw [ih,String.utf8ByteSize_append,String.join_cons,String.append_assoc]
      · rw [ih,kept_of_full hsize]

theorem streamed_snd (events : List StreamEvent) (hsilent : ∀ f u, .done f u ∈ events → u = none) :
    ∀ out, (streamed out events).2 = none := by
  induction events with
  | nil => exact fun _ => rfl
  | cons event rest ih =>
    intro out
    cases event with
    | error err => rfl
    | done finishReason usage => exact hsilent _ _ List.mem_cons_self
    | delta content toolCallsDelta finishReason =>
      exact ih (fun f u h => hsilent f u (List.mem_cons_of_mem _ h)) _

def OutputFits (contents : List String) : Prop :=
  if ∀ content ∈ kept 0 contents, Blank content then ∀ content ∈ contents, content = ""
  else bytes (leftOut contents) ≤ slack (bytes (kept 0 contents))

theorem completion_tokens_iff (contents : List String) :
    estimateStreamingTokens (String.join (kept 0 contents)) = ((bytes contents ⌈/⌉ 4 : ℕ) : ℤ) ↔
      OutputFits contents := by
  have hbytes : bytes contents = bytes (kept 0 contents) + bytes (leftOut contents) := by
    rw [← bytes_append,kept_append_leftOut]
  rw [estimate_eq,OutputFits]
  simp only [blank_join]
  split_ifs with hblank
  · rw [← bytes_eq_zero_iff,← ceilDiv_eq_zero_iff,eq_comm,Nat.cast_eq_zero]
  · rw [Nat.cast_inj,utf8ByteSize_join,hbytes,eq_comm]
    exact ceilDiv_add_eq_iff _ _

end Completion

theorem stream_estimate_iff {sep : String} (hsep : sep = "" ∨ sep = "\n") (msgs : List ChatMessage)
    (events : List StreamEvent) (hsilent : ∀ f u, .done f u ∈ events → u = none) :
    (recordedUsage (toProviderMessages msgs) events).promptTokens =
          (((requestText sep msgs).utf8ByteSize ⌈/⌉ 4 : ℕ) : ℤ) ∧
        (recordedUsage (toProviderMessages msgs) events).completionTokens =
          ((bytes (deltas events) ⌈/⌉ 4 : ℕ) : ℤ) ↔
      PromptFits sep msgs ∧ OutputFits (deltas events) := by
  have hout : (streamed "" events).1 = String.join (kept 0 (deltas events)) := by
    rw [streamed_fst,String.empty_append,String.utf8ByteSize_empty]
  rw [recordedUsage,streamed_snd events hsilent,hout,Option.map_none]
  simp only [streamUsage]
  exact and_congr (prompt_tokens_iff hsep msgs) (completion_tokens_iff (deltas events))

def picture : List ChatMessage :=
  [{ role := "user"
     content := some (.arr [.obj [("text",.str "Describe it"),("type",.str "text")],
       .obj [("image_url",.obj [("url",.str "https://example.com/cat.png")]),("type",.str "image_url")]]) }]

theorem picture_counted_twice :
    (recordedUsage (toProviderMessages picture) [.delta "A cat" "" none]).promptTokens = 6 ∧
      (requestText "" picture).utf8ByteSize ⌈/⌉ 4 = 3 ∧ (requestText "\n" picture).utf8ByteSize ⌈/⌉ 4 = 3 := by
  decide

def plainQuestion : List ChatMessage := [textMessage "user" "What is it?"]

theorem plainQuestion_estimated :
    (recordedUsage (toProviderMessages plainQuestion) [.delta "A cat" "" none]).promptTokens =
        (((requestText "" plainQuestion).utf8ByteSize ⌈/⌉ 4 : ℕ) : ℤ) ∧
      (recordedUsage (toProviderMessages plainQuestion) [.delta "A cat" "" none]).completionTokens =
        ((bytes (deltas [.delta "A cat" "" none]) ⌈/⌉ 4 : ℕ) : ℤ) := by
  refine (stream_estimate_iff (.inl rfl) plainQuestion [.delta "A cat" "" none] ?_).mpr ⟨?_,?_⟩
  · intro f u h
    cases List.mem_singleton.mp h
  · unfold PromptFits
    decide
  · unfold OutputFits
    decide

end PrismGateway.Api
