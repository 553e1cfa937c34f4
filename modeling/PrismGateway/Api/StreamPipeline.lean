import PrismGateway.Lib.Pipeline
import PrismGateway.Providers.Streams

namespace PrismGateway.Api.StreamPipeline

open Lib Providers
open Lib.Pipeline (Terminal)

def relay (raw : String → Doc) : Reader StreamEvent (List SseEvent) (List SseEvent × StreamEnd) where
  take written
    | .error err => .inr (written,.failed err)
    | .done _ _ => .inr (written ++ [{ data := none }],.completed)
    | .delta content toolCallsDelta finishReason =>
      .inl (written ++ [{ data := some (chunkDoc raw content toolCallsDelta finishReason) }])
  -- a channel that is closed without an event that ends the stream
  drained written := (written ++ [{ data := none }],.completed)

abbrev Relay := Pipeline StreamEvent (List SseEvent) (List SseEvent × StreamEnd)

def start (events : List StreamEvent) : Relay := Pipeline.start 32 [] events

def step (raw : String → Doc) : Relay → Pipeline.Event StreamEvent → Option Relay :=
  Pipeline.step (relay raw) StreamEvent.isError

theorem read_relay (raw : String → Doc) (written : List SseEvent) (events : List StreamEvent) :
    (relay raw).read written events =
      (written ++ (writeSSEStream raw events).1,(writeSSEStream raw events).2) := by
  induction events generalizing written with
  | nil => rfl
  | cons event events ih =>
    cases event with
    | delta content toolCallsDelta finishReason =>
      rw [writeSSEStream]
      refine (ih _).trans ?_
      rw [List.append_assoc,List.singleton_append]
    | done finishReason usage => rfl
    | error err =>
      rw [writeSSEStream,List.append_nil]
      rfl

section Endings

def ends : StreamEvent → Bool
  | .delta _ _ _ => false
  | _ => true

theorem ends_of_take (raw : String → Doc) (written : List SseEvent) (event : StreamEvent)
    (k : List SseEvent × StreamEnd) (h : (relay raw).take written event = .inr k) : ends event = true := by
  cases event with
  | delta content toolCallsDelta finishReason => cases h
  | done finishReason usage => rfl
  | error err => rfl

theorem terminal_append {out rest : List StreamEvent} (hout : ∀ e ∈ out, ends e = false)
    (hrest : Terminal ends rest) : Terminal ends (out ++ rest) := by
  induction out with
  | nil => exact hrest
  | cons e out ih =>
    have hgoes := hout e List.mem_cons_self
    refine ⟨fun h => ?_,ih (fun x hx => hout x (List.mem_cons_of_mem _ hx))⟩
    rw [hgoes] at h
    cases h

theorem terminal_singleton (e : StreamEvent) : Terminal ends [e] := ⟨fun _ => rfl,trivial⟩

theorem terminal_run {ρ : Type} {turn : ρ → Turn StreamEvent} {finish : List StreamEvent}
    (hmore : ∀ r out, turn r = .more out → ∀ e ∈ out, ends e = false)
    (hstop : ∀ r out, turn r = .stop out → Terminal ends out) (hfinish : Terminal ends finish)
    (records : List ρ) : Terminal ends (Turn.run turn finish records) := by
  induction records with
  | nil => exact hfinish
  | cons r records ih =>
    rw [Turn.run]
    cases hr : turn r with
    | more out => exact terminal_append (hmore r out hr) ih
    | stop out => exact hstop r out hr

variable (c : Codecs)

structure Orderly (t : Turn StreamEvent) : Prop where
  more : ∀ out, t = .more out → ∀ e ∈ out, ends e = false
  stop : ∀ out, t = .stop out → Terminal ends out

theorem orderly_more {out : List StreamEvent} (h : ∀ e ∈ out, ends e = false) : Orderly (.more out) where
  more _ he := by
    cases he
    exact h
  stop _ he := by cases he

theorem orderly_stop {out : List StreamEvent} (h : Terminal ends out) : Orderly (.stop out) where
  more _ he := by cases he
  stop _ he := by
    cases he
    exact h

theorem orderly_delta (content toolCallsDelta : String) (finishReason : Option String) :
    Orderly (.more [.delta content toolCallsDelta finishReason]) :=
  orderly_more (fun e he => by rw [List.mem_singleton.mp he]; rfl)

theorem orderly_nothing : Orderly (.more []) := orderly_more (fun _ he => absurd he List.not_mem_nil)

theorem orderly_last (e : StreamEvent) : Orderly (.stop [e]) := orderly_stop (terminal_singleton e)

open StreamLoop in
theorem orderly_turn (l : StreamLoop) (r : Record) : Orderly (l.turn c r) := by
  cases l with
  | chatCompletion =>
    simp only [turn,chatTurn]
    split_ifs
    · exact orderly_last _
    · split
      · exact orderly_last _
      · exact orderly_delta _ _ _
  | responsesAPI =>
    simp only [turn,responsesTurn]
    split_ifs
    · exact orderly_last _
    · split
      · exact orderly_delta _ _ _
      · exact orderly_nothing
    · split
      · exact orderly_last _
      · exact orderly_stop trivial
    · exact orderly_nothing
  | anthropic =>
    simp only [turn,anthropicTurn]
    split
    · exact orderly_last _
    · split_ifs
      · exact orderly_nothing
      · exact orderly_delta _ _ _
      · exact orderly_last _
      · exact orderly_nothing
  | gemini =>
    simp only [turn,geminiTurn]
    split
    · exact orderly_last _
    · exact orderly_nothing
    · next candidate _ _ =>
      have hout : ∀ e ∈ (if String.join candidate.parts = "" then []
          else [StreamEvent.delta (String.join candidate.parts) "" none]), ends e = false := by
        intro e he
        split_ifs at he
        · cases he
        · rw [List.mem_singleton.mp he]
          rfl
      rcases Classical.em (candidate.finishReason = "") with hfinish | hfinish
      · rw [if_pos hfinish]
        exact orderly_more hout
      · rw [if_neg hfinish]
        exact orderly_stop (terminal_append hout (terminal_singleton _))

theorem terminal_events (l : StreamLoop) (lines : List String) (scanErr : Option String) :
    Terminal ends (l.events c lines scanErr) := by
  rw [StreamLoop.events,Turn.scan_eq_run]
  refine terminal_run (fun r => (orderly_turn c l r).more) (fun r => (orderly_turn c l r).stop) ?_ _
  cases l <;> cases scanErr <;>
    first
    | exact trivial
    | exact terminal_singleton _

end Endings

def Shows (raw : String → Doc) (events : List StreamEvent) :
    Receiver (List SseEvent) (List SseEvent × StreamEnd) → Prop
  | .ended k => writeSSEStream raw events = k
  | .reading written | .left written =>
    writeSSEStream raw events = (written ++ [{ data := none }],.completed)

theorem shows_of_at {raw : String → Doc} {events : List StreamEvent}
    {receiver : Receiver (List SseEvent) (List SseEvent × StreamEnd)}
    (h : receiver.At (relay raw) [] events) : Shows raw events receiver := by
  have hread := read_relay raw [] events
  rw [List.nil_append] at hread
  cases receiver with
  | ended k => exact hread.symm.trans h
  | reading written | left written =>
    have hdrained := Reader.read_after h []
    rw [List.append_nil] at hdrained
    exact hread.symm.trans hdrained

section Hello

def helloData : String :=
  "\x7b\"choices\":[\x7b\"delta\":\x7b\"content\":\"hello\"\x7d,\"finish_reason\":null\x7d]\x7d"

def readHello {α : Type} (v : α) (data : String) : Except String α :=
  if data = helloData then .ok v else .error "unexpected end of JSON input"

def helloCodecs : Codecs where
  json _ := none
  choices := readHello [{ content := "hello" }]
  textDelta := readHello ""
  completed := readHello {}
  event := readHello {}
  candidates := readHello []

def helloEvents : List StreamEvent :=
  StreamLoop.chatCompletion.events helloCodecs ["data: " ++ helloData,"","data: [DONE]",""] none

def helloRun : List (Pipeline.Event StreamEvent) := [.send,.receive,.send,.close,.receive]

end Hello

end PrismGateway.Api.StreamPipeline
