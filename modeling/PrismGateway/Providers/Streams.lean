import PrismGateway.Api.Streaming
import PrismGateway.Lib.LineLoop

namespace PrismGateway.Providers

open Lib Api

structure StreamChoice where
  content : String := ""
  toolCalls : String := ""
  finishReason : Option String := none

structure AnthropicStreamEvent where
  type : String := ""
  stopReason : Option String := none
  text : String := ""

structure GeminiStreamCandidate where
  parts : List String := []
  finishReason : String := ""

/-- What `json.Unmarshal` makes of a payload: the document itself, and the values the loops decode. -/
structure Codecs where
  json : String → Option Json
  choices : String → Except String (List StreamChoice)
  textDelta : String → Except String String
  completed : String → Except String Usage
  event : String → Except String AnthropicStreamEvent
  candidates : String → Except String (List GeminiStreamCandidate)

def mapGeminiFinishReason (r : String) : String :=
  if r = "STOP" then "stop"
  else if r = "MAX_TOKENS" then "length"
  else if r = "SAFETY" then "content_filter"
  else "stop"

/-- The stream loops of `chatCompletionStream`, `responsesAPIStream`, and of the `ChatCompletionStream`
of Anthropic and of Gemini. -/
inductive StreamLoop where
  | chatCompletion
  | responsesAPI
  | anthropic
  | gemini
  deriving DecidableEq, Repr

structure Record where
  event : String
  data : String
  deriving DecidableEq, Repr

namespace StreamLoop

def eventPrefix : StreamLoop → Option String
  | .chatCompletion => none
  | .responsesAPI => some "event:"
  | .anthropic => some "event: "
  | .gemini => none

def readLine (l : StreamLoop) (current line : String) : String × Option Record :=
  match l.eventPrefix.bind (GoStrings.cutPrefix · line) with
  | some name => (GoStrings.trimSpace name,none)
  | none => (current,(GoStrings.cutPrefix "data: " line).map (fun data => ⟨current,data⟩))

variable (c : Codecs)

def chatTurn (r : Record) : Turn StreamEvent :=
  if r.data = "[DONE]" then .stop [.done none none]
  else match c.choices r.data with
    | .error err => .stop [.error err]
    | .ok choices =>
        let first := choices.head?.getD {}
        .more [.delta first.content first.toolCalls first.finishReason]

def responsesTurn (r : Record) : Turn StreamEvent :=
  if r.data = "[DONE]" then .stop [.done none none]
  else if r.event = "response.output_text.delta" then
    match c.textDelta r.data with
    | .ok delta => .more [.delta delta "" none]
    | .error _ => .more []
  else if r.event = "response.completed" then
    match c.completed r.data with
    | .ok usage => .stop [.done none (some usage)]
    | .error _ => .stop []
  else .more []

def anthropicType (event : String) (ev : AnthropicStreamEvent) : String :=
  if ev.type = "" then event else ev.type

def anthropicTurn (r : Record) : Turn StreamEvent :=
  match c.event r.data with
  | .error err => .stop [.error err]
  | .ok ev =>
      if anthropicType r.event ev = "content_block_delta" then
        if ev.text = "" then .more [] else .more [.delta ev.text "" none]
      else if anthropicType r.event ev = "message_stop" then .stop [.done ev.stopReason none]
      else .more []

def geminiTurn (r : Record) : Turn StreamEvent :=
  match c.candidates r.data with
  | .error err => .stop [.error err]
  | .ok [] => .more []
  | .ok (candidate :: _) =>
      let content := String.join candidate.parts
      let out := if content = "" then [] else [StreamEvent.delta content "" none]
      if candidate.finishReason = "" then .more out
      else .stop (out ++ [.done (some (mapGeminiFinishReason candidate.finishReason)) none])

def turn : StreamLoop → Record → Turn StreamEvent
  | .chatCompletion => chatTurn c
  | .responsesAPI => responsesTurn c
  | .anthropic => anthropicTurn c
  | .gemini => geminiTurn c

def scanned (scanErr : Option String) : StreamLoop → List StreamEvent
  | .responsesAPI => []
  | _ => (scanErr.map StreamEvent.error).toList

def events (l : StreamLoop) (lines : List String) (scanErr : Option String) : List StreamEvent :=
  Turn.scan l.readLine (l.turn c) (l.scanned scanErr) "" lines

def records (l : StreamLoop) (lines : List String) : List Record := Turn.reads l.readLine "" lines

def hasError (data : String) : Bool :=
  match c.json data with
  | some (.obj entries) => (entries.lookup "error").any (fun j => match j with
      | .null => false
      | _ => true)
  | _ => false

def isErrorEvent : StreamLoop → Record → Bool
  | .chatCompletion, r => hasError c r.data
  | .responsesAPI, r => r.event = "error" || r.event = "response.failed"
  | .anthropic, r => match c.event r.data with
    | .ok ev => anthropicType r.event ev = "error"
    | .error _ => r.event = "error"
  | .gemini, r => hasError c r.data

def isMarker : StreamLoop → Record → Bool
  | .chatCompletion, r => r.data = "[DONE]"
  | .responsesAPI, r => r.data = "[DONE]" || r.event = "response.completed"
  | .anthropic, r => match c.event r.data with
    | .ok ev => anthropicType r.event ev = "message_stop"
    | .error _ => false
  | .gemini, r => match c.candidates r.data with
    | .ok (candidate :: _) => candidate.finishReason ≠ ""
    | _ => false

def Troubled (l : StreamLoop) (lines : List String) : Prop :=
  (∃ r ∈ l.records lines, l.isErrorEvent c r) ∨ ∀ r ∈ l.records lines, l.isMarker c r = false

def undecodable : StreamLoop → Record → Bool
  | .chatCompletion, r => r.data ≠ "[DONE]" && (c.choices r.data).toOption.isNone
  | .responsesAPI, _ => false
  | .anthropic, r => (c.event r.data).toOption.isNone
  | .gemini, r => (c.candidates r.data).toOption.isNone

def FailsFirst (l : StreamLoop) (lines : List String) (scanErr : Option String) : Prop :=
  match (l.records lines).find? (fun r => l.isMarker c r || l.undecodable c r) with
  | some r => l.undecodable c r = true
  | none => scanErr.isSome = true ∧ l ≠ .responsesAPI

end StreamLoop

def StreamEvent.IsDelta : StreamEvent → Prop
  | .delta _ _ _ => True
  | _ => False

def Reported (raw : String → Doc) (events : List StreamEvent) : Prop :=
  Turn.EndsIn (fun e => e.isError = true) events ∧ (writeSSEStream raw events).2 ≠ .completed ∧
    ∀ e ∈ (writeSSEStream raw events).1, e.data.isSome = true

theorem not_isError_of_isDelta {e : StreamEvent} (h : e.IsDelta) : ¬ e.isError = true := by
  cases e with
  | delta content toolCallsDelta finishReason => simp [StreamEvent.isError]
  | done finishReason usage => exact h.elim
  | error err => exact h.elim

theorem reported_of_closed (raw : String → Doc) {events : List StreamEvent}
    (h : Turn.Closed StreamEvent.IsDelta events)
    (herror : Turn.EndsIn (fun e => e.isError = true) events) : Reported raw events := by
  refine ⟨herror,?_⟩
  obtain ⟨items,last,rfl,hitems,hlast⟩ := h
  rw [Turn.endsIn_append (fun e he => not_isError_of_isDelta (hitems e he))] at herror
  induction items with
  | nil =>
    obtain ⟨e,he,hbad⟩ := herror
    cases last with
    | nil => cases he
    | cons a rest =>
      have hnil : rest = [] := by simpa using hlast
      subst hnil
      cases a with
      | delta content toolCallsDelta finishReason =>
        cases he
        cases hbad
      | done finishReason usage =>
        cases he
        cases hbad
      | error err => simp [writeSSEStream]
  | cons item items ih =>
    have htail := ih (fun e he => hitems e (List.mem_cons_of_mem _ he))
    cases item with
    | delta content toolCallsDelta finishReason =>
      obtain ⟨hfailed,hsome⟩ := htail
      refine ⟨hfailed,?_⟩
      intro e he
      rcases List.mem_cons.mp he with rfl | he
      · rfl
      · exact hsome e he
    | done finishReason usage => exact (hitems _ List.mem_cons_self).elim
    | error err => exact (hitems _ List.mem_cons_self).elim

namespace StreamLoop

variable {c : Codecs}

inductive TurnSpec (l : StreamLoop) (c : Codecs) (r : Record) : Prop
  | goesOn (out : List StreamEvent) (turn : l.turn c r = .more out) (deltas : ∀ e ∈ out, e.IsDelta)
      (unmarked : l.isMarker c r = false) (decoded : l.undecodable c r = false)
  | fails (err : String) (turn : l.turn c r = .stop [.error err]) (failed : l.undecodable c r = true)
  | finishes (items last : List StreamEvent) (turn : l.turn c r = .stop (items ++ last))
      (deltas : ∀ e ∈ items, e.IsDelta) (one : last.length ≤ 1) (calm : ∀ e ∈ last, e.isError = false)
      (marked : l.isMarker c r = true) (decoded : l.undecodable c r = false)

theorem chatTurn_spec (r : Record) : TurnSpec .chatCompletion c r := by
  by_cases hdone : r.data = "[DONE]"
  · exact .finishes [] [.done none none] (by simp [turn,chatTurn,hdone]) nofun (by simp)
      (by simp [StreamEvent.isError]) (by simp [isMarker,hdone]) (by simp [undecodable,hdone])
  · cases hc : c.choices r.data with
    | error err =>
      exact .fails err (by simp [turn,chatTurn,hdone,hc])
        (by simp [undecodable,hdone,hc,Except.toOption])
    | ok choices =>
      exact .goesOn _ (by simp only [turn,chatTurn,hdone,hc,if_false]; rfl)
        (by simp [StreamEvent.IsDelta]) (by simp [isMarker,hdone])
        (by simp [undecodable,hc,Except.toOption])

theorem responsesTurn_spec (r : Record) : TurnSpec .responsesAPI c r := by
  by_cases hdone : r.data = "[DONE]"
  · exact .finishes [] [.done none none] (by simp [turn,responsesTurn,hdone]) nofun (by simp)
      (by simp [StreamEvent.isError]) (by simp [isMarker,hdone]) rfl
  · by_cases hdelta : r.event = "response.output_text.delta"
    · have hunmarked : StreamLoop.responsesAPI.isMarker c r = false := by simp [isMarker,hdone,hdelta]
      cases hc : c.textDelta r.data with
      | error err =>
        exact .goesOn [] (by simp [turn,responsesTurn,hdone,hdelta,hc]) nofun hunmarked rfl
      | ok delta =>
        exact .goesOn [.delta delta "" none] (by simp [turn,responsesTurn,hdone,hdelta,hc])
          (by simp [StreamEvent.IsDelta]) hunmarked rfl
    · by_cases hcompleted : r.event = "response.completed"
      · have hmarked : StreamLoop.responsesAPI.isMarker c r = true := by simp [isMarker,hcompleted]
        cases hc : c.completed r.data with
        | error err =>
          exact .finishes [] [] (by simp [turn,responsesTurn,hdone,hcompleted,hc]) nofun
            (by simp) nofun hmarked rfl
        | ok usage =>
          exact .finishes [] [.done none (some usage)]
            (by simp [turn,responsesTurn,hdone,hcompleted,hc]) nofun (by simp)
            (by simp [StreamEvent.isError]) hmarked rfl
      · exact .goesOn [] (by simp [turn,responsesTurn,hdone,hdelta,hcompleted]) nofun
          (by simp [isMarker,hdone,hcompleted]) rfl

theorem anthropicTurn_spec (r : Record) : TurnSpec .anthropic c r := by
  cases hc : c.event r.data with
  | error err =>
    exact .fails err (by simp [turn,anthropicTurn,hc]) (by simp [undecodable,hc,Except.toOption])
  | ok ev =>
    have hdecoded : StreamLoop.anthropic.undecodable c r = false := by
      simp [undecodable,hc,Except.toOption]
    by_cases hdelta : anthropicType r.event ev = "content_block_delta"
    · have hunmarked : StreamLoop.anthropic.isMarker c r = false := by simp [isMarker,hc,hdelta]
      by_cases htext : ev.text = ""
      · exact .goesOn [] (by simp [turn,anthropicTurn,hc,hdelta,htext]) nofun hunmarked hdecoded
      · exact .goesOn [.delta ev.text "" none] (by simp [turn,anthropicTurn,hc,hdelta,htext])
          (by simp [StreamEvent.IsDelta]) hunmarked hdecoded
    · by_cases hstop : anthropicType r.event ev = "message_stop"
      · exact .finishes [] [.done ev.stopReason none] (by simp [turn,anthropicTurn,hc,hstop]) nofun
          (by simp) (by simp [StreamEvent.isError]) (by simp [isMarker,hc,hstop]) hdecoded
      · exact .goesOn [] (by simp [turn,anthropicTurn,hc,hdelta,hstop]) nofun
          (by simp [isMarker,hc,hstop]) hdecoded

theorem geminiTurn_spec (r : Record) : TurnSpec .gemini c r := by
  cases hc : c.candidates r.data with
  | error err =>
    exact .fails err (by simp [turn,geminiTurn,hc]) (by simp [undecodable,hc,Except.toOption])
  | ok candidates =>
    have hdecoded : StreamLoop.gemini.undecodable c r = false := by
      simp [undecodable,hc,Except.toOption]
    cases candidates with
    | nil => exact .goesOn [] (by simp [turn,geminiTurn,hc]) nofun (by simp [isMarker,hc]) hdecoded
    | cons candidate rest =>
      have hdeltas : ∀ e ∈ (if String.join candidate.parts = "" then []
          else [StreamEvent.delta (String.join candidate.parts) "" none]), e.IsDelta := by
        intro e he
        split at he
        · cases he
        · rw [List.mem_singleton.mp he]
          trivial
      by_cases hreason : candidate.finishReason = ""
      · exact .goesOn _ (by simp only [turn,geminiTurn,hc,hreason,if_true]) hdeltas
          (by simp [isMarker,hc,hreason]) hdecoded
      · exact .finishes _ [.done (some (mapGeminiFinishReason candidate.finishReason)) none]
          (by simp only [turn,geminiTurn,hc,hreason,if_false]) hdeltas (by simp)
          (by simp [StreamEvent.isError]) (by simp [isMarker,hc,hreason]) hdecoded

theorem turn_spec (l : StreamLoop) (c : Codecs) (r : Record) : TurnSpec l c r := by
  cases l with
  | chatCompletion => exact chatTurn_spec r
  | responsesAPI => exact responsesTurn_spec r
  | anthropic => exact anthropicTurn_spec r
  | gemini => exact geminiTurn_spec r

theorem isDelta_of_more {l : StreamLoop} {r : Record} {out : List StreamEvent}
    (h : l.turn c r = .more out) : ∀ e ∈ out, e.IsDelta := by
  cases turn_spec l c r with
  | goesOn out' hturn hdeltas _ _ =>
    rw [hturn] at h
    cases h
    exact hdeltas
  | fails err hturn _ => simp [hturn] at h
  | finishes items last hturn _ _ _ _ _ => simp [hturn] at h

theorem closed_of_stop {l : StreamLoop} {r : Record} {out : List StreamEvent}
    (h : l.turn c r = .stop out) : Turn.Closed StreamEvent.IsDelta out := by
  cases turn_spec l c r with
  | goesOn out' hturn _ _ _ => simp [hturn] at h
  | fails err hturn _ =>
    rw [hturn] at h
    cases h
    exact Turn.closed_of_length (by simp)
  | finishes items last hturn hdeltas hone _ _ _ =>
    rw [hturn] at h
    cases h
    exact (Turn.closed_of_length hone).append hdeltas

theorem stops_turn (l : StreamLoop) (r : Record) :
    (l.turn c r).stops = (l.isMarker c r || l.undecodable c r) := by
  cases turn_spec l c r with
  | goesOn out hturn _ hunmarked hdecoded => simp [hturn,Turn.stops,hunmarked,hdecoded]
  | fails err hturn hfailed => simp [hturn,Turn.stops,hfailed]
  | finishes items last hturn _ _ _ hmarked _ => simp [hturn,Turn.stops,hmarked]

theorem endsIn_turn {l : StreamLoop} {r : Record} (h : (l.turn c r).stops = true) :
    Turn.EndsIn (fun e => e.isError = true) (l.turn c r).out ↔ l.undecodable c r = true := by
  cases turn_spec l c r with
  | goesOn out hturn _ _ _ => simp [hturn,Turn.stops] at h
  | fails err hturn hfailed =>
    rw [hturn,hfailed]
    exact ⟨fun _ => rfl,fun _ => Turn.endsIn_singleton.mpr rfl⟩
  | finishes items last hturn hdeltas _ hcalm _ hdecoded =>
    rw [hturn,hdecoded]
    refine ⟨?_,fun h => by cases h⟩
    intro hends
    have hlast := (Turn.endsIn_append (fun e he => not_isError_of_isDelta (hdeltas e he)) last).mp hends
    obtain ⟨e,he,hbad⟩ := hlast
    rw [hcalm e (List.mem_of_getLast? he)] at hbad
    cases hbad

theorem endsIn_scanned (l : StreamLoop) (scanErr : Option String) :
    Turn.EndsIn (fun e => e.isError = true) (l.scanned scanErr) ↔
      scanErr.isSome = true ∧ l ≠ .responsesAPI := by
  cases scanErr with
  | none => cases l <;> simp [scanned,Turn.not_endsIn_nil]
  | some err => cases l <;> simp [scanned,Turn.not_endsIn_nil,Turn.endsIn_singleton,StreamEvent.isError]

theorem closed_events (l : StreamLoop) (c : Codecs) (lines : List String) (scanErr : Option String) :
    Turn.Closed StreamEvent.IsDelta (l.events c lines scanErr) := by
  have hscanned : (l.scanned scanErr).length ≤ 1 := by
    cases l <;> cases scanErr <;> simp [scanned]
  unfold events
  rw [Turn.scan_eq_run]
  exact Turn.closed_run (fun r out => isDelta_of_more) (fun r out => closed_of_stop)
    (Turn.closed_of_length hscanned) _

theorem endsIn_events (l : StreamLoop) (c : Codecs) (lines : List String) (scanErr : Option String) :
    Turn.EndsIn (fun e => e.isError = true) (l.events c lines scanErr) ↔
      l.FailsFirst c lines scanErr := by
  have hfind : (fun r => (l.turn c r).stops) = fun r => l.isMarker c r || l.undecodable c r :=
    funext (stops_turn l)
  unfold events FailsFirst
  rw [Turn.scan_eq_run,Turn.endsIn_run
    (fun r out h e he => not_isError_of_isDelta (isDelta_of_more h e he)),hfind]
  change _ ↔ match (Turn.reads l.readLine "" lines).find? _ with
    | some r => _
    | none => _
  cases hfirst : (Turn.reads l.readLine "" lines).find?
      (fun r => l.isMarker c r || l.undecodable c r) with
  | none => exact endsIn_scanned l scanErr
  | some r =>
    have hstops := List.find?_some hfirst
    exact endsIn_turn ((stops_turn l r).trans hstops)

end StreamLoop

theorem troubled_stream_reported_iff (l : StreamLoop) (c : Codecs) (raw : String → Doc)
    (lines : List String) (scanErr : Option String) :
    (l.Troubled c lines → Reported raw (l.events c lines scanErr)) ↔
      (l.Troubled c lines → l.FailsFirst c lines scanErr) := by
  refine imp_congr_right ?_
  intro _
  refine ⟨?_,?_⟩
  · intro hreported
    exact (StreamLoop.endsIn_events l c lines scanErr).mp hreported.1
  · intro hfails
    exact reported_of_closed raw (StreamLoop.closed_events l c lines scanErr)
      ((StreamLoop.endsIn_events l c lines scanErr).mpr hfails)

def overloadedData : String :=
  "\x7b\"type\":\"error\",\"error\":\x7b\"type\":\"overloaded_error\",\"message\":\"Overloaded\"\x7d\x7d"

def readOverloaded {α : Type} (value : α) (data : String) : Except String α :=
  if data = overloadedData then .ok value else .error "unexpected end of JSON input"

def overloadedCodecs : Codecs where
  json := fun data => (readOverloaded (.obj
    [("error",.obj [("message",.str "Overloaded"),("type",.str "overloaded_error")]),
      ("type",.str "error")]) data).toOption
  choices := readOverloaded []
  textDelta := readOverloaded ""
  completed := readOverloaded {}
  event := readOverloaded { type := "error" }
  candidates := readOverloaded []

def overloadedLines : List String := ["event: error","data: " ++ overloadedData,""]

theorem overloaded_stream_completed :
    StreamLoop.anthropic.Troubled overloadedCodecs overloadedLines ∧
    StreamLoop.anthropic.events overloadedCodecs overloadedLines none = [] ∧
    ¬ Reported (fun _ => .null) (StreamLoop.anthropic.events overloadedCodecs overloadedLines none) := by
  have hrecords : StreamLoop.anthropic.records overloadedLines = [⟨"error",overloadedData⟩] := by
    decide
  have hevents : StreamLoop.anthropic.events overloadedCodecs overloadedLines none = [] := by
    decide
  refine ⟨.inl ⟨⟨"error",overloadedData⟩,?_,?_⟩,hevents,?_⟩
  · rw [hrecords]
    exact List.mem_cons_self
  · decide
  · rw [hevents]
    intro hreported
    exact Turn.not_endsIn_nil _ hreported.1

end PrismGateway.Providers
