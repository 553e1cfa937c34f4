import PrismGateway.Orchestrator.Run

namespace PrismGateway.Orchestrator

open Lib Config Router Providers Api

inductive Inbound where
  | anthropicMessages (decoded : Except String AnthropicMessagesRequest)
  | geminiGenerateContent (path : String) (stream : Bool)
      (decoded : Except String GeminiGenerateContentRequest)
  | responsesAPI (decoded : Except String ResponsesAPIRequest)

def Inbound.parse (call : Call) : Inbound → Except String ParsedRequest
  | .anthropicMessages decoded => parseAnthropicMessagesRequest call decoded
  | .geminiGenerateContent path stream decoded =>
    parseGeminiGenerateContentRequest call path stream decoded
  | .responsesAPI decoded => parseResponsesAPIRequest call decoded

def systemMessage (s : String) : Api.ChatMessage := textMessage "system" s

def chatEquivalent (pr : ParsedRequest) : ChatCompletionRequest where
  model := pr.bodyModel
  messages := systemMessage pr.systemPrompt :: pr.messages
  maxTokens := pr.maxTokens
  temperature := pr.temperature
  topP := pr.topP
  stream := pr.stream
  tools := pr.tools
  toolChoice := pr.toolChoice
  metadata := pr.metadata

inductive Shown where
  | texts (l : List String)
  | messages (l : List ChatMessage)
  | key (text : String)
  | nothing
  deriving DecidableEq, Repr

namespace Event

def shown : Event → Shown
  | .toolRoutes texts => .texts texts
  | .select req => .texts req.messages
  | .hook _ req => .messages req.messages
  | .cacheLookup text => .key text
  | .call (.send _ req) => .messages req.messages
  | .call _ => .nothing

end Event

def Shown.Carries (s : String) : Shown → Prop
  | .texts l => s ∈ l
  | .messages l => ∃ m ∈ l, m.role = "system" ∧ m.content = s
  | .key text => ∃ rest, text = " ".intercalate (s :: rest)
  | .nothing => True

namespace Gateway

variable (g : Gateway)

def shown (pr : ParsedRequest) : List Shown := (g.run pr).events.map Event.shown

def chatShown (call : Call) (raw : String) (pr : ParsedRequest) : List Shown :=
  match parseChatCompletionsRequest call raw (.ok (chatEquivalent pr)) with
  | .ok chat => g.shown chat
  | .error _ => []

def SystemReaches (call : Call) (raw : String) (pr : ParsedRequest) : Prop :=
  (∀ x ∈ g.shown pr, x.Carries pr.systemPrompt) ∧ g.shown pr = g.chatShown call raw pr

def RefusedUnread (pr : ParsedRequest) : Prop :=
  (∃ err, validateMetadata pr.metadata = .error err) ∨
    ∃ err, resolution g.tenant g.globalConfig (g.routeInput pr) = .error err

end Gateway

section Parsers

variable {call : Call} {r : Inbound} {pr : ParsedRequest}

structure Normalised (call : Call) (pr : ParsedRequest) : Prop where
  noRawBody : pr.rawBody = none
  headers : pr.headers = call.headers
  texts : pr.messageTexts = pr.messages.map ChatMessage.textContent
  urls : pr.messageImageURLs = pr.messages.flatMap ChatMessage.imageURLs

theorem Inbound.parse_normalised (h : r.parse call = .ok pr) : Normalised call pr := by
  cases r with
  | anthropicMessages decoded =>
    cases decoded with
    | error err => simp [parse,parseAnthropicMessagesRequest] at h
    | ok req =>
      simp only [parse,parseAnthropicMessagesRequest] at h
      split at h
      · cases h
      · cases h
        exact ⟨rfl,rfl,rfl,rfl⟩
  | geminiGenerateContent path stream decoded =>
    simp only [parse,parseGeminiGenerateContentRequest] at h
    split at h
    · cases h
    · cases decoded with
      | error err => cases h
      | ok req =>
        cases h
        exact ⟨rfl,rfl,rfl,rfl⟩
  | responsesAPI decoded =>
    cases decoded with
    | error err => simp [parse,parseResponsesAPIRequest] at h
    | ok req =>
      simp only [parse,parseResponsesAPIRequest] at h
      split at h
      · cases h
      · cases h
        exact ⟨rfl,rfl,rfl,rfl⟩

end Parsers

section Stages

variable (g : Gateway) (pr : ParsedRequest)

theorem Gateway.selectStage_shown (r : PrecedenceResult) :
    ∃ rest, (g.selectStage pr r).events.map Event.shown = .texts pr.messageTexts :: rest := by
  simp only [Gateway.selectStage]
  split
  · exact ⟨[],rfl⟩
  · exact ⟨_,rfl⟩

theorem Gateway.toolStage_shown (r : PrecedenceResult) :
    ∃ rest, (g.toolStage pr r).events.map Event.shown = .texts pr.messageTexts :: rest := by
  simp only [Gateway.toolStage]
  split
  · split
    · exact ⟨[],rfl⟩
    · exact ⟨_,rfl⟩
  · exact g.selectStage_shown pr r

theorem Gateway.shown_of_refused (h : g.RefusedUnread pr) : g.shown pr = [] := by
  simp only [Gateway.shown,Gateway.run]
  rcases h with ⟨err,herr⟩ | ⟨err,herr⟩
  · rw [herr]
    split_ifs <;> rfl
  · rw [herr]
    split_ifs
    · rfl
    · rfl
    · split <;> rfl

theorem Gateway.shown_of_read (hraw : pr.rawBody = none) (hne : pr.messages ≠ [])
    (h : ¬ g.RefusedUnread pr) : ∃ rest, g.shown pr = .texts pr.messageTexts :: rest := by
  simp only [Gateway.RefusedUnread,not_or,not_exists] at h
  simp only [Gateway.shown,Gateway.run,hraw,Option.isSome_none,Bool.false_eq_true,false_and,
    if_false,List.isEmpty_iff,hne]
  cases hmeta : validateMetadata pr.metadata with
  | error err => exact absurd hmeta (h.1 err)
  | ok _ =>
    cases hres : resolution g.tenant g.globalConfig (g.routeInput pr) with
    | error err => exact absurd hres (h.2 err)
    | ok r => exact g.toolStage_shown pr r

end Stages

section Equivalent

variable {g : Gateway} {call : Call} {pr : ParsedRequest} (raw : String)

def chatParsed (call : Call) (pr : ParsedRequest) : ParsedRequest := ParsedRequest.withTexts
  { tenantID := call.tenantID
    bodyModel := pr.bodyModel
    messages := systemMessage pr.systemPrompt :: pr.messages
    maxTokens := pr.maxTokens
    temperature := pr.temperature
    topP := pr.topP
    stream := pr.stream
    tools := pr.tools
    toolChoice := pr.toolChoice
    metadata := pr.metadata
    headers := call.headers
    apiStyle := .openAIChat }

theorem chatShown_of_ml (h : call.headers "X-Model-Type" = "ml") : g.chatShown call raw pr = [] := by
  simp [Gateway.chatShown,parseChatCompletionsRequest,h,Gateway.shown,Gateway.run]

theorem chatShown_eq (h : call.headers "X-Model-Type" ≠ "ml") :
    g.chatShown call raw pr = g.shown (chatParsed call pr) := by
  have hparse : parseChatCompletionsRequest call raw (.ok (chatEquivalent pr)) =
      .ok (chatParsed call pr) := by
    simp only [parseChatCompletionsRequest,h,if_false]
    rfl
  rw [Gateway.chatShown,hparse]

theorem refusedUnread_chatParsed (hn : Normalised call pr) :
    g.RefusedUnread (chatParsed call pr) ↔ g.RefusedUnread pr := by
  simp only [chatParsed,← hn.headers]
  exact Iff.rfl

theorem chatShown_of_refused (hn : Normalised call pr) (h : g.RefusedUnread pr) :
    g.chatShown call raw pr = [] := by
  by_cases hml : call.headers "X-Model-Type" = "ml"
  · exact chatShown_of_ml raw hml
  · rw [chatShown_eq raw hml]
    exact g.shown_of_refused _ ((refusedUnread_chatParsed hn).mpr h)

theorem chatShown_of_read (hn : Normalised call pr) (hml : call.headers "X-Model-Type" ≠ "ml")
    (h : ¬ g.RefusedUnread pr) :
    ∃ rest, g.chatShown call raw pr = .texts (pr.systemPrompt :: pr.messageTexts) :: rest := by
  obtain ⟨rest,hrest⟩ := g.shown_of_read (chatParsed call pr) rfl
    (by simp [chatParsed,ParsedRequest.withTexts]) (mt (refusedUnread_chatParsed hn).mp h)
  refine ⟨rest,?_⟩
  rw [chatShown_eq raw hml,hrest,hn.texts]
  rfl

end Equivalent

theorem system_instruction_reaches_iff {g : Gateway} {call : Call} {raw : String} {r : Inbound}
    {pr : ParsedRequest} (h : r.parse call = .ok pr) :
    g.SystemReaches call raw pr ↔
      g.RefusedUnread pr ∨ pr.messages = [] ∧ call.headers "X-Model-Type" = "ml" := by
  have hn := Inbound.parse_normalised h
  constructor
  · rintro ⟨-,heq⟩
    by_contra hcond
    rw [not_or,not_and] at hcond
    obtain ⟨hread,hml⟩ := hcond
    by_cases hempty : pr.messages = []
    · obtain ⟨rest,hrest⟩ := chatShown_of_read raw hn (hml hempty) hread
      rw [hrest] at heq
      simp [Gateway.shown,Gateway.run,hn.noRawBody,hempty] at heq
    · obtain ⟨rest,hrest⟩ := g.shown_of_read pr hn.noRawBody hempty hread
      rw [hrest] at heq
      by_cases hm : call.headers "X-Model-Type" = "ml"
      · rw [chatShown_of_ml raw hm] at heq
        cases heq
      · obtain ⟨rest',hrest'⟩ := chatShown_of_read raw hn hm hread
        rw [hrest',List.cons.injEq,Shown.texts.injEq] at heq
        exact List.cons_ne_self _ _ heq.1.symm
  · rintro (href | ⟨hempty,hml⟩)
    · simp [Gateway.SystemReaches,g.shown_of_refused pr href,chatShown_of_refused raw hn href]
    · simp [Gateway.SystemReaches,chatShown_of_ml raw hml,Gateway.shown,Gateway.run,hempty,hn.noRawBody]

def briefRequest (model : String) : Inbound := .anthropicMessages (.ok
  { model := model
    messages := [⟨"user",some (.str "Hi")⟩]
    system := "Be brief"
    maxTokens := some 100 })

theorem unknown_model_system_reaches :
    ∃ pr, (briefRequest "gpt").parse plainCall = .ok pr ∧ pr.systemPrompt = "Be brief" ∧
      plainGateway.SystemReaches plainCall "" pr := by
  refine ⟨_,rfl,rfl,(system_instruction_reaches_iff (r := briefRequest "gpt") rfl).mpr (.inl (.inr ?_))⟩
  exact ⟨.modelNotAllowed "gpt" "acme",by decide⟩

theorem system_instruction_not_sent :
    ∃ pr, (briefRequest "opus").parse plainCall = .ok pr ∧ pr.systemPrompt = "Be brief" ∧
      plainGateway.shown pr =
        [.texts ["Hi"],.nothing,.messages [{ role := "user", content := "Hi" }],.nothing] ∧
      ¬ plainGateway.SystemReaches plainCall "" pr := by
  obtain ⟨pr,hpr⟩ : ∃ pr, (briefRequest "opus").parse plainCall = .ok pr := ⟨_,rfl⟩
  have hsys : pr.systemPrompt = "Be brief" := by
    cases hpr
    rfl
  have hshown : plainGateway.shown pr =
      [.texts ["Hi"],.nothing,.messages [{ role := "user", content := "Hi" }],.nothing] := by
    cases hpr
    decide
  refine ⟨pr,hpr,hsys,hshown,fun hreach => ?_⟩
  have hsent := hreach.1 (.messages [{ role := "user", content := "Hi" }]) (by simp [hshown])
  simp [Shown.Carries] at hsent

end PrismGateway.Orchestrator
