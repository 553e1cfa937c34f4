import PrismGateway.Api.StreamEstimate
import PrismGateway.Storage.RequestLog

namespace PrismGateway.Api.StreamRelay

open Lib Sql Orchestrator Storage.RequestLogging
open Storage.Billing (Uuid)
open Cost (estimateStreamingTokens streamUsage computeCost)

structure StreamError where
  text : String
  isCanceled : Bool := false
  isDeadlineExceeded : Bool := false

inductive ContextError where
  | canceled
  | deadlineExceeded

def ContextError.toError : ContextError → StreamError
  | .canceled => { text := "context canceled", isCanceled := true }
  | .deadlineExceeded => { text := "context deadline exceeded", isDeadlineExceeded := true }

structure Event where
  type : String
  content : String := ""
  toolCallsDelta : String := ""
  finishReason : Option String := none
  usage : Option Cost.Usage := none
  error : Option StreamError := none

/-- What the `select` of the loop finds: `ms` is the age of the stream, `ctxErr` is `ctx.Err()`. -/
inductive Turn where
  | cancelled (err : ContextError)
  | received (event : Event) (ms : ℤ) (ctxErr : Option ContextError)
  | closed

-- a raw message that is no JSON fails the marshalling, whose error is dropped
def deltaPayload (event : Event) : Option Doc :=
  if event.toolCallsDelta = "" ∨ (Doc.parse event.toolCallsDelta.toList).isSome then
    some (chunkDoc rawMessage event.content event.toolCallsDelta event.finishReason)
  else none

def streamEventToSSEPayload (event : Event) : Option Doc × Bool :=
  if event.type = "done" then (none,true)
  else if event.type = "delta" then (deltaPayload event,false)
  else (none,false)

def classifyStreamError (toLower : String → String) (ctxErr : Option ContextError)
    (streamErr : Option StreamError) : String :=
  let ctxErr := ctxErr.map ContextError.toError
  if ctxErr.any (·.isDeadlineExceeded) || streamErr.any (·.isDeadlineExceeded) then "timeout"
  else if ctxErr.any (·.isCanceled) || streamErr.any (·.isCanceled) then "client_disconnect"
  else match streamErr with
    | none => "client_disconnect"
    | some err =>
      let msg := toLower err.text
      if GoStrings.contains msg "eof" || GoStrings.contains msg "connection reset" ||
          GoStrings.contains msg "broken pipe" ||
          GoStrings.contains msg "use of closed network connection" then "upstream_disconnect"
      else "provider_error"

structure Progress where
  chunkCount : ℕ := 0
  firstTokenLatencyMs : Option ℤ := none
  streamOutput : String := ""
  written : List SseEvent := []

structure Finish where
  progress : Progress
  streamCompleted : Bool
  streamErr : Option StreamError := none
  ctxErr : Option ContextError := none
  providerUsage : Option Cost.Usage := none

namespace Progress

def doneLine : SseEvent := { data := none }

def complete (s : Progress) (usage : Option Cost.Usage) : Finish where
  progress := { s with written := s.written ++ [doneLine] }
  streamCompleted := true
  providerUsage := usage

def fail (s : Progress) (err : StreamError) (ctxErr : Option ContextError) : Finish where
  progress := s
  streamCompleted := false
  streamErr := some err
  ctxErr := ctxErr

def chunk (s : Progress) (payload : Doc) (ms : ℤ) : Progress where
  chunkCount := s.chunkCount + 1
  firstTokenLatencyMs := some (s.firstTokenLatencyMs.getD ms)
  streamOutput := if s.streamOutput.utf8ByteSize < 4 * 1024 then
    appendStreamDeltaContent s.streamOutput payload.marshal else s.streamOutput
  written := s.written ++ [{ data := some payload }]

end Progress

def relay (s : Progress) : List Turn → Option Finish
  | [] => none
  | .cancelled err :: _ => some (s.fail err.toError (some err))
  | .closed :: _ => some (s.complete none)
  | .received event ms ctxErr :: rest =>
    match (if event.type = "error" then event.error else none) with
    | some err => some (s.fail err ctxErr)
    | none =>
      match streamEventToSSEPayload event with
      | (_,true) => some (s.complete event.usage)
      | (none,false) => relay s rest
      | (some payload,false) => relay (s.chunk payload ms) rest

/-- What a call of `writeSSEStream` is given, and what its end reads off the clock. -/
structure Call where
  origin : Origin
  attempt : Storage.RequestLogging.Attempt
  messages : List Orchestrator.ChatMessage
  baseMetadata : List (String × Doc)
  pricing : Cost.Pricing
  toolPricing : List Cost.ToolPricingEntry
  streamDurationMs : ℤ
  loggedAt : ℤ
  usageID : Uuid
  toLower : String → String

structure UsageRecord where
  id : Uuid
  tenantID : String
  model : String
  provider : String
  promptTokens : ℤ
  completionTokens : ℤ
  totalTokens : ℤ
  costUSD : ℚ
  requestID : String
  apiKeyID : Option Uuid
  apiKeyName : Option String
  jwtSub : Option String

structure Db where
  requestLog : Table
  usage : List UsageRecord

section Log

variable (c : Call) (f : Finish)

def errorType : String := classifyStreamError c.toLower f.ctxErr f.streamErr

def streamMeta : List (String × Doc) :=
  [("streaming_enabled",.bool true),("stream_duration_ms",int c.streamDurationMs),
    ("chunk_count",int f.progress.chunkCount),("stream_completed",.bool f.streamCompleted)] ++
  (f.progress.firstTokenLatencyMs.map (fun ms => ("first_token_latency_ms",int ms))).toList ++
  if f.streamCompleted then [] else [("stream_error_type",text (errorType c f))]

def metaMap : List (String × Doc) :=
  (streamMeta c f).foldl (fun m e => GoMap.insert e.1 e.2 m) c.baseMetadata

def metadataText (m : List (String × Doc)) : String := String.ofList (Doc.obj m).marshal

def status : String :=
  if f.streamCompleted then "ok"
  else if errorType c f = "client_disconnect" then "cancelled" else "error"

def errStr : String :=
  if f.streamCompleted then ""
  else match f.streamErr, f.ctxErr with
    | some err, _ => err.text
    | none, some err => err.toError.text
    | none, none => ""

def outcome : Outcome :=
  .streamed c.origin { c.attempt with metadataJSON := some (metadataText (metaMap c f)) }
    (status c f) (errStr f)

def usageOf : Cost.Usage :=
  streamUsage (estimateStreamingTokens (streamingInputText c.messages)) f.progress.streamOutput
    f.providerUsage

def usageRecord : UsageRecord where
  id := c.usageID
  tenantID := c.origin.tenantID
  model := c.attempt.modelName
  provider := c.attempt.provider
  promptTokens := (usageOf c f).promptTokens
  completionTokens := (usageOf c f).completionTokens
  totalTokens := (usageOf c f).totalTokens
  costUSD := computeCost c.pricing (usageOf c f) c.toolPricing
  requestID := c.origin.requestID
  apiKeyID := c.origin.apiKeyID
  apiKeyName := c.origin.apiKeyName
  jwtSub := c.origin.jwtSub

def logStreamRequest (statement : Insert) (db : Db) : Db where
  requestLog := log statement db.requestLog ⟨outcome c f,c.loggedAt⟩
  usage := db.usage ++ [usageRecord c f]

end Log

def writeSSEStream (statement : Insert) (c : Call) (turns : List Turn) (db : Db) :
    Option (List SseEvent × Db) :=
  (relay {} turns).map fun f => (f.progress.written,logStreamRequest c f statement db)

section Spec

def failure (event : Event) : Option StreamError :=
  if event.type = "error" then event.error else none

def ends : Turn → Bool
  | .cancelled _ => true
  | .closed => true
  | .received event _ _ => event.type = "done" || (failure event).isSome

def completes : Turn → Bool
  | .cancelled _ => false
  | .closed => true
  | .received event _ _ => event.type = "done"

def turnPayload : Turn → Option Doc
  | .received event _ _ => if event.type = "delta" then deltaPayload event else none
  | _ => none

def ending (turns : List Turn) : Option Turn := turns.find? ends

def payloads (turns : List Turn) : List Doc :=
  (turns.takeWhile fun turn => !ends turn).filterMap turnPayload

structure Relays (s : Progress) (turns : List Turn) (last : Turn) (f : Finish) : Prop where
  written : f.progress.written = s.written ++ (payloads turns).map (fun d => { data := some d }) ++
    if completes last then [Progress.doneLine] else []
  chunkCount : f.progress.chunkCount = s.chunkCount + (payloads turns).length
  streamCompleted : f.streamCompleted = completes last

theorem payloads_cons {turn : Turn} {turns : List Turn} (h : ends turn = false) :
    payloads (turn :: turns) = (turnPayload turn).toList ++ payloads turns := by
  rw [payloads,List.takeWhile_cons_of_pos (by simp [h]),List.filterMap_cons]
  cases turnPayload turn <;> rfl

theorem payloads_ended {turn : Turn} {turns : List Turn} (h : ends turn = true) :
    payloads (turn :: turns) = [] := by
  rw [payloads,List.takeWhile_cons_of_neg (by simp [h]),List.filterMap_nil]

theorem relays_complete {s : Progress} {turn : Turn} {turns : List Turn} (h : ends turn = true)
    (hcompletes : completes turn = true) (usage : Option Cost.Usage) :
    Relays s (turn :: turns) turn (s.complete usage) := by
  refine ⟨?_,?_,hcompletes.symm⟩
  · rw [payloads_ended h,if_pos hcompletes,List.map_nil,List.append_nil]
    rfl
  · rw [payloads_ended h]
    rfl

theorem relays_fail {s : Progress} {turn : Turn} {turns : List Turn} (h : ends turn = true)
    (hcompletes : completes turn = false) (err : StreamError) (ctxErr : Option ContextError) :
    Relays s (turn :: turns) turn (s.fail err ctxErr) := by
  refine ⟨?_,?_,hcompletes.symm⟩
  · rw [payloads_ended h,if_neg (by simp [hcompletes]),List.map_nil,List.append_nil,List.append_nil]
    rfl
  · rw [payloads_ended h]
    rfl

theorem Relays.skip {s : Progress} {turn last : Turn} {turns : List Turn} {f : Finish}
    (h : Relays s turns last f) (hgoes : ends turn = false) (hnone : turnPayload turn = none) :
    Relays s (turn :: turns) last f := by
  have hsame : payloads (turn :: turns) = payloads turns := by
    rw [payloads_cons hgoes,hnone]
    rfl
  exact ⟨hsame ▸ h.written,hsame ▸ h.chunkCount,h.streamCompleted⟩

theorem Relays.chunk {s : Progress} {turn last : Turn} {turns : List Turn} {f : Finish}
    {payload : Doc} {ms : ℤ} (h : Relays (s.chunk payload ms) turns last f)
    (hgoes : ends turn = false) (hsome : turnPayload turn = some payload) :
    Relays s (turn :: turns) last f := by
  have hsame : payloads (turn :: turns) = payload :: payloads turns := by
    rw [payloads_cons hgoes,hsome]
    rfl
  refine ⟨?_,?_,h.streamCompleted⟩
  · rw [h.written,hsame,List.map_cons,Progress.chunk]
    simp
  · have hcount : (s.chunk payload ms).chunkCount = s.chunkCount + 1 := rfl
    rw [h.chunkCount,hsame,hcount,List.length_cons]
    omega

theorem relay_spec {turns : List Turn} {last : Turn} (h : ending turns = some last)
    (s : Progress) : ∃ f, relay s turns = some f ∧ Relays s turns last f := by
  induction turns generalizing s with
  | nil => cases h
  | cons turn turns ih =>
    cases turn with
    | cancelled err =>
      cases h
      exact ⟨_,rfl,relays_fail rfl rfl _ _⟩
    | closed =>
      cases h
      exact ⟨_,rfl,relays_complete rfl rfl none⟩
    | received event ms ctxErr =>
      rw [relay,← failure]
      cases hfailure : failure event with
      | some err =>
        have hends : ends (.received event ms ctxErr) = true := by simp [ends,hfailure]
        have hcompletes : completes (.received event ms ctxErr) = false := by
          have herror := (Option.ite_none_right_eq_some.mp hfailure).1
          simp [completes,herror]
        rw [ending,List.find?_cons_of_pos hends] at h
        cases h
        exact ⟨_,rfl,relays_fail hends hcompletes err ctxErr⟩
      | none =>
        by_cases hdone : event.type = "done"
        · have hends : ends (.received event ms ctxErr) = true := by simp [ends,hdone]
          rw [ending,List.find?_cons_of_pos hends] at h
          cases h
          refine ⟨_,?_,relays_complete hends (decide_eq_true hdone) event.usage⟩
          rw [streamEventToSSEPayload,if_pos hdone]
        · have hends : ends (.received event ms ctxErr) = false := by simp [ends,hdone,hfailure]
          rw [ending,List.find?_cons_of_neg (by simp [hends]),← ending] at h
          rw [streamEventToSSEPayload,if_neg hdone]
          by_cases hdelta : event.type = "delta"
          · have hpayload : turnPayload (.received event ms ctxErr) = deltaPayload event :=
              if_pos hdelta
            rw [if_pos hdelta]
            cases hdoc : deltaPayload event with
            | none =>
              obtain ⟨f,hf,hrelays⟩ := ih h s
              exact ⟨f,hf,hrelays.skip hends (hpayload.trans hdoc)⟩
            | some payload =>
              obtain ⟨f,hf,hrelays⟩ := ih h (s.chunk payload ms)
              exact ⟨f,hf,hrelays.chunk hends (hpayload.trans hdoc)⟩
          · rw [if_neg hdelta]
            obtain ⟨f,hf,hrelays⟩ := ih h s
            exact ⟨f,hf,hrelays.skip hends (if_neg hdelta)⟩

end Spec

section Plain

open Providers (StreamEvent)

def eventOf : StreamEvent → Event
  | .delta content toolCallsDelta finishReason =>
    { type := "delta"
      content := content
      toolCallsDelta := toolCallsDelta
      finishReason := finishReason }
  | .done finishReason usage =>
    { type := "done", finishReason := finishReason, usage := usage.map reported }
  | .error err => { type := "error", error := some { text := err } }

theorem relay_written {events : List StreamEvent}
    (hraw : ∀ e ∈ events, (eventOf e).type = "delta" → (deltaPayload (eventOf e)).isSome)
    (s : Progress) :
    (relay s (events.map (fun e => Turn.received (eventOf e) 0 none) ++ [Turn.closed])).map
        (fun f => f.progress.written) =
      some (s.written ++ (Api.writeSSEStream rawMessage events).1) := by
  induction events generalizing s with
  | nil => rfl
  | cons e events ih =>
    obtain ⟨he,hrest⟩ := List.forall_mem_cons.mp hraw
    cases e with
    | done finishReason usage => rfl
    | error err =>
      rw [Api.writeSSEStream,List.append_nil]
      rfl
    | delta content toolCallsDelta finishReason =>
      obtain ⟨payload,hpayload⟩ := Option.isSome_iff_exists.mp (he rfl)
      have hdoc : payload = chunkDoc rawMessage content toolCallsDelta finishReason :=
        (Option.some.inj (Option.ite_none_right_eq_some.mp hpayload).2).symm
      have hevent : streamEventToSSEPayload (eventOf (.delta content toolCallsDelta finishReason)) =
          (some payload,false) := congrArg (fun p => (p,false)) hpayload
      have hfailure : failure (eventOf (.delta content toolCallsDelta finishReason)) = none := rfl
      rw [List.map_cons,List.cons_append,relay,← failure,hfailure,hevent]
      dsimp only
      rw [ih hrest,Api.writeSSEStream,← hdoc,Progress.chunk]
      simp

end Plain

section Logged

variable {statement : Insert} {c : Call} {turns : List Turn} {last : Turn} {db : Db}

def Tells (metadata : List (String × Doc)) (chunks : ℕ) (completed : Bool) : Prop :=
  metadata.lookup "chunk_count" = some (int chunks) ∧
    metadata.lookup "stream_completed" = some (.bool completed)

def Relayed (statement : Insert) (c : Call) (turns : List Turn) (last : Turn) (db : Db) : Prop :=
  ∃ written db', writeSSEStream statement c turns db = some (written,db') ∧
    written = (payloads turns).map (fun d => { data := some d }) ++
      (if completes last then [Progress.doneLine] else []) ∧
    (∃ rl metadata, db'.requestLog = db.requestLog ++ [RequestLog.row rl] ∧
      rl.requestID = c.origin.requestID ∧ rl.metadata = some (metadataText metadata) ∧
      Tells metadata (payloads turns).length (completes last)) ∧
    ∃ u, db'.usage = db.usage ++ [u] ∧ u.requestID = c.origin.requestID

theorem lookup_foldl_insert {β : Type} {k : String} {added m : List (String × β)}
    (hnodup : (added.map Prod.fst).Nodup) :
    (added.foldl (fun m e => GoMap.insert e.1 e.2 m) m).lookup k =
      (added.lookup k).or (m.lookup k) := by
  induction added generalizing m with
  | nil => rfl
  | cons e added ih =>
    obtain ⟨x,b⟩ := e
    obtain ⟨hx,hnodup⟩ := List.nodup_cons.mp hnodup
    rw [List.foldl_cons,ih hnodup,GoMap.lookup_insert,GoMap.lookup_cons_eq]
    split_ifs with h
    · have habsent : added.lookup x = none := by
        rw [← Option.not_isSome_iff_eq_none,GoMap.isSome_lookup_iff]
        exact hx
      rw [h,habsent]
      rfl
    · rfl

theorem nodup_streamMeta (f : Finish) : ((streamMeta c f).map Prod.fst).Nodup := by
  rw [streamMeta]
  cases f.progress.firstTokenLatencyMs with
  | none =>
    split_ifs
    · exact (by decide : ["streaming_enabled","stream_duration_ms","chunk_count",
        "stream_completed"].Nodup)
    · exact (by decide : ["streaming_enabled","stream_duration_ms","chunk_count",
        "stream_completed","stream_error_type"].Nodup)
  | some ms =>
    split_ifs
    · exact (by decide : ["streaming_enabled","stream_duration_ms","chunk_count",
        "stream_completed","first_token_latency_ms"].Nodup)
    · exact (by decide : ["streaming_enabled","stream_duration_ms","chunk_count",
        "stream_completed","first_token_latency_ms","stream_error_type"].Nodup)

theorem tells_metaMap (f : Finish) :
    Tells (metaMap c f) f.progress.chunkCount f.streamCompleted := by
  rw [Tells,metaMap,lookup_foldl_insert (nodup_streamMeta f),
    lookup_foldl_insert (nodup_streamMeta f)]
  exact ⟨rfl,rfl⟩

theorem writeSSEStream_spec (h : ending turns = some last) : ∃ f,
    writeSSEStream statement c turns db =
      some (f.progress.written,logStreamRequest c f statement db) ∧
    Relays {} turns last f := by
  obtain ⟨f,hf,hrelays⟩ := relay_spec h {}
  exact ⟨f,by rw [writeSSEStream,hf]; rfl,hrelays⟩

def rowOf (c : Call) (f : Finish) : RequestLog := Ended.passed ⟨outcome c f,c.loggedAt⟩

theorem rowOf_requestID (f : Finish) : (rowOf c f).requestID = c.origin.requestID :=
  ite_self c.origin.requestID

theorem rowOf_id (f : Finish) : (rowOf c f).id = c.attempt.id := rfl

theorem relayed_mended (h : ending turns = some last)
    (hfree : taken db.requestLog c.attempt.id = false) : Relayed mended c turns last db := by
  obtain ⟨f,hf,hrelays⟩ := @writeSSEStream_spec mended c turns last db h
  refine ⟨_,_,hf,?_,⟨rowOf c f,metaMap c f,?_,rowOf_requestID f,rfl,?_⟩,⟨_,rfl,rfl⟩⟩
  · exact hrelays.written.trans (by rw [List.nil_append])
  · rw [logStreamRequest,log_mended,← rowOf,rowOf_id,if_neg (by simp [hfree])]
  · have htells := @tells_metaMap c f
    rwa [hrelays.chunkCount,hrelays.streamCompleted,Nat.zero_add] at htells

theorem not_relayed (h : ending turns = some last) : ¬Relayed insertRequestLog c turns last db := by
  rintro ⟨written,db',hwrite,_,⟨rl,_,hrow,_⟩,_⟩
  obtain ⟨f,hf,_⟩ := @writeSSEStream_spec insertRequestLog c turns last db h
  rw [hf] at hwrite
  cases hwrite
  rw [logStreamRequest,log_rejected] at hrow
  simpa using congrArg List.length hrow

end Logged

theorem no_stream_logged (c : Call) (db : Db) {turns : List Turn} {last : Turn}
    (h : ending turns = some last) : ¬Relayed insertRequestLog c turns last db ∧
      (taken db.requestLog c.attempt.id = false → Relayed mended c turns last db) :=
  ⟨not_relayed h,relayed_mended h⟩

def greetingCall : Call where
  origin := ⟨"req-1",0,"acme","weighted",none,none,none,{}⟩
  attempt := ⟨⟨"row-1"⟩,0,"mini","openai",40,"",none,none,0⟩
  messages := []
  baseMetadata := []
  pricing := {}
  toolPricing := []
  streamDurationMs := 30
  loggedAt := 40
  usageID := ⟨"usage-1"⟩
  toLower := id

def greeting : List Turn :=
  [.received { type := "delta", content := "hi" } 10 none,.received { type := "done" } 30 none]

theorem greeting_never_logged :
    ¬Relayed insertRequestLog greetingCall greeting (.received { type := "done" } 30 none) ⟨[],[]⟩ ∧
      Relayed mended greetingCall greeting (.received { type := "done" } 30 none) ⟨[],[]⟩ := by
  obtain ⟨hnot,hmended⟩ := @no_stream_logged greetingCall ⟨[],[]⟩ greeting _ rfl
  exact ⟨hnot,hmended rfl⟩

theorem greeting_not_logged : (∃ written db', writeSSEStream insertRequestLog greetingCall greeting
      ⟨[],[]⟩ = some (written,db') ∧ written.length = 2 ∧ db'.requestLog = [] ∧
        db'.usage.length = 1) ∧
    ¬Relayed insertRequestLog greetingCall greeting (.received { type := "done" } 30 none)
      ⟨[],[]⟩ := by
  have hends : ending greeting = some (.received { type := "done" } 30 none) := rfl
  obtain ⟨f,hf,hrelays⟩ := @writeSSEStream_spec insertRequestLog greetingCall greeting _ ⟨[],[]⟩ hends
  refine ⟨⟨_,_,hf,?_,log_rejected [] ⟨outcome greetingCall f,40⟩,rfl⟩,not_relayed hends⟩
  rw [hrelays.written]
  rfl

end PrismGateway.Api.StreamRelay
