import PrismGateway.Orchestrator.Run

namespace PrismGateway.Hooks

open Lib Orchestrator
open Providers (ChatChoice)

structure Codec where
  parse : List UInt8 → Option Json
  text : Json → String
  parse_nil : parse [] = none

inductive NormalizedKind where
  | allow
  | reject
  | modify
  | allowPII
  deriving DecidableEq, Repr

structure NormalizedPIIAction where
  kind : NormalizedKind
  rejectStatusCode : Int := 0
  rejectBody : String := ""
  reason : String := ""
  modifiedMessages : List ChatMessage := []
  modifiedChoices : List ChatChoice := []
  deriving DecidableEq, Repr

section Decoding

variable (text : Json → String)

def decodeMessage (j : Json) (m : ChatMessage) : Option ChatMessage :=
  let names := ["role","content","tool_calls","tool_call_id"]
  match j with
  | .null => some m
  | .obj es => do
    let role ← receive Schema.str.decode names { name := "role" } es m.role
    let content ← receive Schema.str.decode names { name := "content" } es m.content
    let toolCalls ← receive (fun j _ => some (text j)) names { name := "tool_calls" } es m.toolCalls
    let toolCallID ← receive Schema.str.decode names { name := "tool_call_id" } es m.toolCallID
    some
      { role := role
        content := content
        toolCalls := toolCalls
        toolCallID := toolCallID
        contentBlocks := m.contentBlocks }
  | _ => none

def decodeChoice (j : Json) (c : ChatChoice) : Option ChatChoice :=
  let names := ["index","message","finish_reason"]
  match j with
  | .null => some c
  | .obj es => do
    let index ← receive Schema.int.decode names { name := "index" } es c.index
    let message ← receive (decodeMessage text) names { name := "message" } es c.message
    let finishReason ← receive Schema.str.decode names { name := "finish_reason" } es c.finishReason
    some ⟨index,message,finishReason⟩
  | _ => none

def decodeSlice {α : Type} (decode : Json → Option α) : Json → Option (List α)
  | .null => some []
  | .arr items => items.mapM decode
  | _ => none

def decodeBody (j : Json) : Option (List ChatMessage × List ChatChoice) :=
  let names := ["messages","choices"]
  match j with
  | .null => some ([],[])
  | .obj es => do
    let messages ← receive
      (fun j _ => decodeSlice (fun j => decodeMessage text j ⟨"","","","",[]⟩) j) names
      { name := "messages" } es []
    let choices ← receive
      (fun j _ => decodeSlice (fun j => decodeChoice text j ⟨0,⟨"","","","",[]⟩,""⟩) j) names
      { name := "choices" } es []
    some (messages,choices)
  | _ => none

def decodeReject : Json → Option String
  | .null => some ""
  | .obj es => receive
      (fun j v => match j with
        | .null => some v
        | .obj es => receive Schema.str.decode ["body"] { name := "body" } es v
        | _ => none) ["response"] { name := "response" } es ""
  | _ => none

end Decoding

def member (k : String) (fields : Json.Entries) : Option Json := fields.reverse.lookup k

def has (k : String) (fields : Json.Entries) : Bool := (member k fields).isSome

def extractReason (fields : Json.Entries) : String :=
  match member "reason" fields with
  | some (.str reason) => reason
  | _ => ""

def modified (parseError emptyError reason : String) :
    Option (List ChatMessage × List ChatChoice) → Except String NormalizedPIIAction
  | none => .error parseError
  | some (messages,choices) =>
      if messages.isEmpty && choices.isEmpty then .error emptyError
      else .ok
        { kind := .modify
          modifiedMessages := messages
          modifiedChoices := choices
          reason := if reason = "" then "content modified by webhook" else reason }

def parseLegacyAction (text : Json → String) (fields : Json.Entries) :
    Except String NormalizedPIIAction :=
  let count := ["allow","reject","body","allow_pii"].countP (fun k => has k fields)
  let reason := extractReason fields
  if count = 0 then .error "legacy webhook response: no action field"
  else if 1 < count then .error "legacy webhook response: multiple actions present"
  else if has "allow" fields then .ok { kind := .allow, reason := reason }
  else if has "allow_pii" fields then .ok { kind := .allowPII, reason := reason }
  else match member "reject" fields, member "body" fields with
    | some raw, _ => match decodeReject raw with
      | none => .error "parse legacy reject"
      | some body =>
        if body = "" then .error "legacy reject requires non-empty response.body"
        else .ok { kind := .reject, rejectBody := body, rejectStatusCode := 400, reason := reason }
    | none, some raw => modified "parse legacy body"
        "legacy body action requires messages or choices" reason (decodeBody text raw)
    | none, none => .error "unknown legacy action"

def parseArkanaAction (text : Json → String) (fields : Json.Entries) :
    Except String NormalizedPIIAction :=
  let reason := extractReason fields
  if fields.all (fun f => f.1 = "reason") then .ok { kind := .allow, reason := reason }
  else if has "allow_pii" fields then
    if has "body" fields then .error "Arkana: allow_pii cannot coexist with body"
    else if has "status_code" fields then .error "Arkana: allow_pii cannot coexist with status_code"
    else .ok { kind := .allowPII, reason := reason }
  else match member "status_code" fields, member "body" fields with
    | some status, body => .ok
        { kind := .reject
          -- an error leaves the default
          rejectStatusCode := (Schema.int.decode status (403 : Int)).getD (403 : Int)
          rejectBody := match body with
            | some (.str s) => s
            | _ => ""
          reason := reason }
    | none, some (.str s) => .ok
        { kind := .reject, rejectStatusCode := 403, rejectBody := s, reason := reason }
    | none, some (.obj es) => modified "Arkana modify body"
        "Arkana modify body requires messages or choices" reason (decodeBody text (.obj es))
    | none, some _ => .error "Arkana body has unexpected JSON type"
    | none, none => .error "unknown Arkana action"

def actionMember (es : Json.Entries) : Option Json :=
  ((es.filter (fun e => fieldFor ["action"] e.1 = some "action")).getLast?).map Prod.snd

def actionFields : Json → Option Json.Entries
  | .null => some []
  | .obj fields => some fields
  | _ => none

def parseAction (text : Json → String) (fields : Json.Entries) : Except String NormalizedPIIAction :=
  if has "allow" fields || has "reject" fields then parseLegacyAction text fields
  else parseArkanaAction text fields

def parsePIIWebhookResponse (codec : Codec) (raw : List UInt8) : Except String NormalizedPIIAction :=
  match codec.parse raw with
  | none => .error "unmarshal webhook response"
  | some .null => .error "webhook response missing 'action' field"
  | some (.obj es) => match actionMember es with
    | none => .error "webhook response missing 'action' field"
    | some action => match actionFields action with
      | none => .error "unmarshal action object"
      | some fields => parseAction codec.text fields
  | some _ => .error "unmarshal webhook response"

structure ExternalPIIConfig where
  requestEnabled : Bool := true
  failMode : String
  maxBodyBytes : Int

def callWebhook (cfg : ExternalPIIConfig) (reply : Except String (ℕ × List UInt8)) :
    Except String (List UInt8) :=
  match reply with
  | .error err => .error err
  | .ok (status,body) =>
      if status ≠ 200 then .error ("webhook returned status " ++ toString status)
      else
        let respBody := body.take cfg.maxBodyBytes.toNat
        if (respBody.length : Int) = cfg.maxBodyBytes ∧ respBody.length < body.length then
          .error ("response body exceeds max_body_bytes " ++ toString cfg.maxBodyBytes)
        else .ok respBody

def mapNormalizedToPreResult (action : NormalizedPIIAction) (req : ChatRequest) :
    Except String PreResult :=
  match action.kind with
  | .allow => .ok { decision := .allow, messages := req.messages }
  | .allowPII => .ok
      { decision := .allowPII
        messages := req.messages
        reason := "PII service requests routing to PII-safe model" }
  | .reject => .ok
      { decision := .block
        messages := req.messages
        reason := if action.rejectBody = "" then action.reason else action.rejectBody
        statusCode := action.rejectStatusCode.toNat }
  | .modify =>
      if action.modifiedMessages.isEmpty then .error "pre-request modify requires messages"
      else .ok
        { decision := .redact
          messages := action.modifiedMessages
          reason := if action.reason = "" then "content modified by webhook" else action.reason }

def handleWebhookError (cfg : ExternalPIIConfig) (req : ChatRequest) : PreResult :=
  if cfg.failMode = "fail_closed" then
    { decision := .block, messages := req.messages, reason := "PII webhook unavailable" }
  else { decision := .allow, messages := req.messages }

def preRequest (codec : Codec) (cfg : ExternalPIIConfig) (reply : Except String (ℕ × List UInt8))
    (req : ChatRequest) : PreResult :=
  if !cfg.requestEnabled then { decision := .allow, messages := req.messages }
  else match callWebhook cfg reply with
    | .error _ => handleWebhookError cfg req
    | .ok raw => match parsePIIWebhookResponse codec raw with
      | .error _ => handleWebhookError cfg req
      | .ok action => match mapNormalizedToPreResult action req with
        | .error _ => handleWebhookError cfg req
        | .ok result => result

/-- The webhook lets the request through: its action says nothing but a reason, or `allow` is an
object and no other member acts. -/
def Permits (fields : Json.Entries) : Prop :=
  (∀ f ∈ fields, f.1 = "reason") ∨
    (∃ es, member "allow" fields = some (.obj es)) ∧ has "reject" fields = false ∧
      has "body" fields = false ∧ has "allow_pii" fields = false ∧ has "status_code" fields = false

def Permitted (codec : Codec) (raw : List UInt8) : Prop :=
  ∃ es fields, codec.parse raw = some (.obj es) ∧ actionMember es = some (.obj fields) ∧ Permits fields

def givenMessages (codec : Codec) (raw : List UInt8) : Option (List ChatMessage) := do
  let .obj es ← codec.parse raw | none
  let .obj fields ← actionMember es | none
  let body ← member "body" fields
  let decoded ← decodeBody codec.text body
  some decoded.1

def FailsClosed (codec : Codec) (raw : List UInt8) (result : PreResult) : Prop :=
  match result.decision with
  | .allow => Permitted codec raw
  | .redact => givenMessages codec raw = some result.messages
  | .block => True
  | .allowPII => True
  | .warn => False

def AllowsUnchecked (fields : Json.Entries) : Prop :=
  has "allow" fields = true ∧ has "reject" fields = false ∧ has "body" fields = false ∧
    has "allow_pii" fields = false ∧
    ((∀ es, member "allow" fields ≠ some (.obj es)) ∨ has "status_code" fields = true)

def Overlooked (codec : Codec) (cfg : ExternalPIIConfig) (raw : List UInt8) : Prop :=
  (raw.length : Int) ≤ cfg.maxBodyBytes ∧
    ∃ es action, codec.parse raw = some (.obj es) ∧ actionMember es = some action ∧
      (action = .null ∨ ∃ fields, action = .obj fields ∧ AllowsUnchecked fields)

section Parsing

variable {text : Json → String} {fields : Json.Entries} {action : NormalizedPIIAction}

theorem has_eq_false_of_forall {k : String} (h : ∀ f ∈ fields, f.1 ≠ k) : has k fields = false := by
  have hnone : member k fields = none := by
    rw [member,List.lookup_eq_none_iff]
    intro f hf
    rw [bne_iff_ne]
    exact (h f (List.mem_reverse.mp hf)).symm
  rw [has,hnone]
  rfl

theorem modified_ok {parseError emptyError reason : String}
    {decoded : Option (List ChatMessage × List ChatChoice)}
    (h : modified parseError emptyError reason decoded = .ok action) :
    action.kind = .modify ∧ decoded.map Prod.fst = some action.modifiedMessages := by
  cases decoded with
  | none => cases h
  | some d =>
    simp only [modified] at h
    split at h
    · cases h
    · cases h
      exact ⟨rfl,rfl⟩

/-- What an accepted action says: its kind is `allow` only by the two shapes, and messages are taken
from its body. -/
structure Accepted (text : Json → String) (fields : Json.Entries) (action : NormalizedPIIAction) :
    Prop where
  allow : action.kind = .allow → (∀ f ∈ fields, f.1 = "reason") ∨
    (has "allow" fields = true ∧ has "reject" fields = false ∧ has "body" fields = false ∧
      has "allow_pii" fields = false)
  modify : action.kind = .modify → ((member "body" fields).bind (decodeBody text)).map Prod.fst =
    some action.modifiedMessages

theorem Accepted.of_kind (hallow : action.kind ≠ .allow) (hmodify : action.kind ≠ .modify) :
    Accepted text fields action :=
  ⟨fun h => absurd h hallow,fun h => absurd h hmodify⟩

theorem Accepted.of_modified {parseError emptyError reason : String} {raw : Json}
    (hbody : member "body" fields = some raw)
    (h : modified parseError emptyError reason (decodeBody text raw) = .ok action) :
    Accepted text fields action := by
  obtain ⟨hkind,hmessages⟩ := modified_ok h
  refine ⟨fun hallow => ?_,fun _ => ?_⟩
  · rw [hkind] at hallow
    cases hallow
  · rw [hbody]
    exact hmessages

theorem single_allow (hallow : has "allow" fields = true)
    (hcount : ¬1 < ["allow","reject","body","allow_pii"].countP (fun k => has k fields)) :
    has "reject" fields = false ∧ has "body" fields = false ∧ has "allow_pii" fields = false := by
  simp only [List.countP_cons,List.countP_nil,hallow] at hcount
  cases hreject : has "reject" fields <;> cases hbody : has "body" fields <;>
    cases hpii : has "allow_pii" fields <;> simp_all

theorem parseLegacyAction_ok (h : parseLegacyAction text fields = .ok action) :
    Accepted text fields action := by
  unfold parseLegacyAction at h
  simp only at h
  split at h
  · cases h
  · split at h
    · cases h
    · next hcount =>
      split at h
      · next hallow =>
        cases h
        exact ⟨fun _ => .inr ⟨hallow,single_allow hallow hcount⟩,fun hkind => by cases hkind⟩
      · split at h
        · cases h
          exact .of_kind (by simp) (by simp)
        · split at h
          · split at h
            · cases h
            · split at h
              · cases h
              · cases h
                exact .of_kind (by simp) (by simp)
          · next raw _ hbody => exact .of_modified hbody h
          · cases h

theorem parseArkanaAction_ok (h : parseArkanaAction text fields = .ok action) :
    Accepted text fields action := by
  unfold parseArkanaAction at h
  simp only at h
  split at h
  · next hreason =>
    cases h
    exact ⟨fun _ => .inl (by simpa using hreason),fun hkind => by cases hkind⟩
  · split at h
    · split at h
      · cases h
      · split at h
        · cases h
        · cases h
          exact .of_kind (by simp) (by simp)
    · split at h
      · cases h
        exact .of_kind (by simp) (by simp)
      · cases h
        exact .of_kind (by simp) (by simp)
      · next es _ hbody => exact .of_modified hbody h
      · cases h
      · cases h

theorem parseAction_ok (h : parseAction text fields = .ok action) : Accepted text fields action := by
  unfold parseAction at h
  split at h
  · exact parseLegacyAction_ok h
  · exact parseArkanaAction_ok h

theorem parseAction_of_reason (h : ∀ f ∈ fields, f.1 = "reason") :
    ∃ reason, parseAction text fields = .ok { kind := .allow, reason := reason } := by
  have hallow : has "allow" fields = false :=
    has_eq_false_of_forall (fun f hf => by rw [h f hf]; decide)
  have hreject : has "reject" fields = false :=
    has_eq_false_of_forall (fun f hf => by rw [h f hf]; decide)
  have hall : fields.all (fun f => f.1 = "reason") = true := by simpa using h
  exact ⟨extractReason fields,by simp [parseAction,parseArkanaAction,hallow,hreject,hall]⟩

theorem parseAction_of_allow (hallow : has "allow" fields = true) (hreject : has "reject" fields = false)
    (hbody : has "body" fields = false) (hpii : has "allow_pii" fields = false) :
    ∃ reason, parseAction text fields = .ok { kind := .allow, reason := reason } :=
  ⟨extractReason fields,by
    simp [parseAction,parseLegacyAction,hallow,hreject,hbody,hpii]⟩

end Parsing

variable {codec : Codec} {cfg : ExternalPIIConfig} {raw : List UInt8} {req : ChatRequest}

theorem callWebhook_of_le (h : (raw.length : Int) ≤ cfg.maxBodyBytes) :
    callWebhook cfg (.ok (200,raw)) = .ok raw := by
  have htake : raw.take cfg.maxBodyBytes.toNat = raw := List.take_of_length_le (by omega)
  simp [callWebhook,htake]

theorem callWebhook_of_lt (h : cfg.maxBodyBytes < raw.length) :
    (∃ err, callWebhook cfg (.ok (200,raw)) = .error err) ∨
      callWebhook cfg (.ok (200,raw)) = .ok [] := by
  by_cases hneg : cfg.maxBodyBytes < 0
  · have hzero : cfg.maxBodyBytes.toNat = 0 := by omega
    have hne : ¬(0 : Int) = cfg.maxBodyBytes := by omega
    exact .inr (by simp [callWebhook,hzero,hne])
  · have hlength : (raw.take cfg.maxBodyBytes.toNat).length = cfg.maxBodyBytes.toNat := by
      rw [List.length_take]
      omega
    refine .inl ⟨"response body exceeds max_body_bytes " ++ toString cfg.maxBodyBytes,?_⟩
    simp only [callWebhook,hlength,ne_eq,not_true_eq_false,if_false]
    rw [if_pos]
    omega

theorem parsePIIWebhookResponse_ok {action : NormalizedPIIAction}
    (h : parsePIIWebhookResponse codec raw = .ok action) :
    ∃ es a fields, codec.parse raw = some (.obj es) ∧ actionMember es = some a ∧
      actionFields a = some fields ∧ parseAction codec.text fields = .ok action := by
  unfold parsePIIWebhookResponse at h
  split at h
  · cases h
  · cases h
  · next es hes =>
    split at h
    · cases h
    · next a ha =>
      split at h
      · cases h
      · next fields hfields => exact ⟨es,a,fields,hes,ha,hfields,h⟩
  · cases h

theorem parsePIIWebhookResponse_of_overlooked (h : Overlooked codec cfg raw) :
    ∃ reason, parsePIIWebhookResponse codec raw = .ok { kind := .allow, reason := reason } := by
  obtain ⟨-,es,a,hparse,hmember,rfl | ⟨fields,rfl,hallow,hreject,hbody,hpii,-⟩⟩ := h
  · obtain ⟨reason,hreason⟩ : ∃ reason, parseAction codec.text [] =
        .ok { kind := .allow, reason := reason } := parseAction_of_reason (by simp)
    exact ⟨reason,by simp [parsePIIWebhookResponse,hparse,hmember,actionFields,hreason]⟩
  · obtain ⟨reason,hreason⟩ : ∃ reason, parseAction codec.text fields =
        .ok { kind := .allow, reason := reason } := parseAction_of_allow hallow hreject hbody hpii
    exact ⟨reason,by simp [parsePIIWebhookResponse,hparse,hmember,actionFields,hreason]⟩

theorem not_permitted_of_overlooked (h : Overlooked codec cfg raw) : ¬Permitted codec raw := by
  rintro ⟨es',fields',hparse',hmember',hpermits⟩
  obtain ⟨-,es,a,hparse,hmember,hkind⟩ := h
  obtain rfl : es = es' := by simpa [hparse] using hparse'
  obtain rfl : a = .obj fields' := by simpa [hmember] using hmember'
  rcases hkind with hnull | ⟨fields,heq,hallow,-,-,-,hunchecked⟩
  · cases hnull
  · cases heq
    rcases hpermits with hreason | ⟨⟨o,ho⟩,-,-,-,hstatus⟩
    · have hnone : has "allow" fields' = false :=
        has_eq_false_of_forall (fun f hf => by rw [hreason f hf]; decide)
      simp [hnone] at hallow
    · rcases hunchecked with hvalue | hcode
      · exact hvalue o ho
      · simp [hstatus] at hcode

theorem permits_of_accepted {es : Json.Entries} {a : Json} {fields : Json.Entries}
    (hread : (raw.length : Int) ≤ cfg.maxBodyBytes) (hparse : codec.parse raw = some (.obj es))
    (hmember : actionMember es = some a) (hfields : actionFields a = some fields)
    (hallow : (∀ f ∈ fields, f.1 = "reason") ∨ (has "allow" fields = true ∧
      has "reject" fields = false ∧ has "body" fields = false ∧ has "allow_pii" fields = false))
    (h : ¬Overlooked codec cfg raw) : Permitted codec raw := by
  have hnull : a ≠ .null := fun hnull => h ⟨hread,es,a,hparse,hmember,.inl hnull⟩
  obtain rfl : a = .obj fields := by
    unfold actionFields at hfields
    split at hfields
    · exact absurd rfl hnull
    · cases hfields
      rfl
    · cases hfields
  refine ⟨es,fields,hparse,hmember,?_⟩
  rcases hallow with hreason | ⟨hpresent,hreject,hbody,hpii⟩
  · exact .inl hreason
  · by_contra hnot
    refine h ⟨hread,es,_,hparse,hmember,.inr ⟨fields,rfl,hpresent,hreject,hbody,hpii,?_⟩⟩
    by_contra hchecked
    rw [not_or,not_forall] at hchecked
    obtain ⟨⟨o,ho⟩,hcode⟩ := hchecked
    exact hnot (.inr ⟨⟨o,not_not.mp ho⟩,hreject,hbody,hpii,by simpa using hcode⟩)

theorem givenMessages_of_accepted {es : Json.Entries} {a : Json} {fields : Json.Entries}
    {messages : List ChatMessage} (hparse : codec.parse raw = some (.obj es))
    (hmember : actionMember es = some a) (hfields : actionFields a = some fields)
    (h : ((member "body" fields).bind (decodeBody codec.text)).map Prod.fst = some messages) :
    givenMessages codec raw = some messages := by
  obtain ⟨decoded,hdecoded,rfl⟩ := Option.map_eq_some_iff.mp h
  obtain ⟨body,hbody,hdecode⟩ := Option.bind_eq_some_iff.mp hdecoded
  obtain rfl : a = .obj fields := by
    unfold actionFields at hfields
    split at hfields
    · cases hfields
      cases hbody
    · cases hfields
      rfl
    · cases hfields
  simp [givenMessages,hparse,hmember,hbody,hdecode]

theorem failsClosed_error (hclosed : cfg.failMode = "fail_closed") :
    FailsClosed codec raw (handleWebhookError cfg req) := by
  simp [handleWebhookError,hclosed,FailsClosed]

theorem failsClosed_of_accepted {action : NormalizedPIIAction} (hclosed : cfg.failMode = "fail_closed")
    (hallow : action.kind = .allow → Permitted codec raw)
    (hmodify : action.kind = .modify → givenMessages codec raw = some action.modifiedMessages) :
    FailsClosed codec raw (match mapNormalizedToPreResult action req with
      | .error _ => handleWebhookError cfg req
      | .ok result => result) := by
  unfold mapNormalizedToPreResult
  cases hkind : action.kind with
  | allow => exact hallow hkind
  | reject => trivial
  | allowPII => trivial
  | modify =>
    by_cases hempty : action.modifiedMessages.isEmpty = true
    · simp only [hempty,if_true]
      exact failsClosed_error hclosed
    · simp only [hempty,Bool.false_eq_true,if_false]
      exact hmodify hkind

theorem webhook_fails_closed_iff (codec : Codec) (cfg : ExternalPIIConfig) (raw : List UInt8)
    (req : ChatRequest) (henabled : cfg.requestEnabled = true) (hclosed : cfg.failMode = "fail_closed") :
    FailsClosed codec raw (preRequest codec cfg (.ok (200,raw)) req) ↔ ¬Overlooked codec cfg raw := by
  by_cases hread : (raw.length : Int) ≤ cfg.maxBodyBytes
  · simp only [preRequest,henabled,callWebhook_of_le hread,Bool.not_true,Bool.false_eq_true,if_false]
    constructor
    · intro hfails hover
      obtain ⟨reason,hreason⟩ := parsePIIWebhookResponse_of_overlooked hover
      rw [hreason] at hfails
      exact not_permitted_of_overlooked hover hfails
    · intro hover
      cases hparsed : parsePIIWebhookResponse codec raw with
      | error err => exact failsClosed_error hclosed
      | ok action =>
        obtain ⟨es,a,fields,hparse,hmember,hfields,haction⟩ := parsePIIWebhookResponse_ok hparsed
        have haccepted := parseAction_ok haction
        exact failsClosed_of_accepted hclosed
          (fun hkind => permits_of_accepted hread hparse hmember hfields (haccepted.allow hkind) hover)
          (fun hkind => givenMessages_of_accepted hparse hmember hfields (haccepted.modify hkind))
  · have hnot : ¬Overlooked codec cfg raw := fun hover => hread hover.1
    have hblocked : preRequest codec cfg (.ok (200,raw)) req = handleWebhookError cfg req := by
      simp only [preRequest,henabled,Bool.not_true,Bool.false_eq_true,if_false]
      rcases callWebhook_of_lt (not_le.mp hread) with ⟨err,herr⟩ | hnil
      · rw [herr]
      · rw [hnil]
        simp [parsePIIWebhookResponse,codec.parse_nil]
    rw [hblocked]
    exact ⟨fun _ => hnot,fun _ => failsClosed_error hclosed⟩

def emptyAction : List UInt8 := "\x7b\"action\":\x7b\x7d\x7d".toList.map Char.toUInt8

def nullAction : List UInt8 := "\x7b\"action\":null\x7d".toList.map Char.toUInt8

def sampleCodec : Codec where
  parse := fun raw =>
    if raw = emptyAction then some (.obj [("action",.obj [])])
    else if raw = nullAction then some (.obj [("action",.null)])
    else none
  text := fun _ => ""
  parse_nil := by decide

def failClosed : ExternalPIIConfig := { failMode := "fail_closed", maxBodyBytes := 65536 }

theorem empty_action_fails_closed :
    FailsClosed sampleCodec emptyAction (preRequest sampleCodec failClosed (.ok (200,emptyAction)) {}) := by
  refine (webhook_fails_closed_iff sampleCodec failClosed emptyAction {} rfl rfl).mpr ?_
  rintro ⟨-,es,action,hparse,hmember,hkind⟩
  obtain rfl : es = [("action",.obj [])] := by
    have hsample : sampleCodec.parse emptyAction = some (.obj [("action",.obj [])]) := rfl
    simpa [hsample] using hparse.symm
  obtain rfl : action = .obj [] := by
    have hsample : actionMember [("action",.obj [])] = some (.obj []) := rfl
    simpa [hsample] using hmember.symm
  rcases hkind with hnull | ⟨fields,heq,hallow,-⟩
  · cases hnull
  · cases heq
    cases hallow

theorem null_action_passes :
    (preRequest sampleCodec failClosed (.ok (200,nullAction)) {}).decision = .allow ∧
      ¬FailsClosed sampleCodec nullAction
        (preRequest sampleCodec failClosed (.ok (200,nullAction)) {}) := by
  have hdecision : (preRequest sampleCodec failClosed (.ok (200,nullAction)) {}).decision = .allow := by
    decide
  refine ⟨hdecision,?_⟩
  intro h
  unfold FailsClosed at h
  rw [hdecision] at h
  have hover : Overlooked sampleCodec failClosed nullAction :=
    ⟨by decide,[("action",.null)],.null,rfl,rfl,.inl rfl⟩
  exact not_permitted_of_overlooked hover h

end PrismGateway.Hooks
