import PrismGateway.Providers.Streams

namespace PrismGateway.Providers.Bedrock

open Api

inductive ContentBlockDelta where
  | text (value : String)
  | other

structure TokenUsage where
  inputTokens : Option Int := none
  outputTokens : Option Int := none
  totalTokens : Option Int := none

inductive ConverseStreamOutput where
  | contentBlockDelta (v : Option ContentBlockDelta)
  | metadata (v : Option (Option TokenUsage))
  | messageStop
  | other

/-- How the stream ends and what the selects find: `cancelled n` is that the `n`th send of the loop
takes `ctx.Done()`, and `room` that the channel has room for an error. -/
structure Setting where
  cancelled : ℕ → Bool
  err : Option String
  room : Bool

def TokenUsage.captured (u : TokenUsage) : Usage where
  promptTokens := u.inputTokens.getD 0
  completionTokens := u.outputTokens.getD 0
  totalTokens := u.totalTokens.getD 0

def sendDone (s : Setting) (sent : ℕ) (capturedUsage : Option Usage) : List StreamEvent :=
  if s.cancelled sent then [] else [.done none capturedUsage]

def exhausted (s : Setting) (sent : ℕ) (capturedUsage : Option Usage) : List StreamEvent :=
  match s.err with
  | some err => if s.room then [.error err] else []
  | none => sendDone s sent capturedUsage

def loop (s : Setting) : ℕ → Option Usage → List ConverseStreamOutput → List StreamEvent
  | sent, capturedUsage, [] => exhausted s sent capturedUsage
  | sent, capturedUsage, .contentBlockDelta (some (.text value)) :: events =>
    if value = "" then loop s sent capturedUsage events
    else if s.cancelled sent then []
    else .delta value "" none :: loop s (sent + 1) capturedUsage events
  | sent, _, .metadata (some (some u)) :: events => loop s sent (some u.captured) events
  | sent, capturedUsage, .messageStop :: _ => sendDone s sent capturedUsage
  | sent, capturedUsage, _ :: events => loop s sent capturedUsage events

def runBedrockStreamLoop (s : Setting) (events : List ConverseStreamOutput) : List StreamEvent :=
  loop s 0 none events

namespace ConverseStreamOutput

def isStop : ConverseStreamOutput → Bool
  | .messageStop => true
  | _ => false

def delta : ConverseStreamOutput → Option StreamEvent
  | .contentBlockDelta (some (.text value)) => if value = "" then none else some (.delta value "" none)
  | _ => none

def usage : ConverseStreamOutput → Option Usage
  | .metadata (some (some u)) => some u.captured
  | _ => none

end ConverseStreamOutput

def deltas (events : List ConverseStreamOutput) : List StreamEvent :=
  events.filterMap ConverseStreamOutput.delta

def reported : List ConverseStreamOutput → Option Usage
  | [] => none
  | e :: events => (reported events).or e.usage

def beforeStop (events : List ConverseStreamOutput) : List ConverseStreamOutput :=
  events.takeWhile (fun e => !e.isStop)

def afterStop (events : List ConverseStreamOutput) : List ConverseStreamOutput :=
  events.dropWhile (fun e => !e.isStop)

theorem loop_cons (s : Setting) (sent : ℕ) (capturedUsage : Option Usage) {e : ConverseStreamOutput}
    (he : e.isStop = false) (events : List ConverseStreamOutput) :
    loop s sent capturedUsage (e :: events) = match e.delta with
      | none => loop s sent (e.usage.or capturedUsage) events
      | some d => if s.cancelled sent then [] else
          d :: loop s (sent + 1) (e.usage.or capturedUsage) events := by
  cases e with
  | contentBlockDelta v =>
    rcases v with _ | ⟨value | _⟩
    · rfl
    · by_cases hv : value = ""
      · simp only [loop,ConverseStreamOutput.delta,hv,if_true]
        rfl
      · simp only [loop,ConverseStreamOutput.delta,hv,if_false]
        rfl
    · rfl
  | metadata v => rcases v with _ | _ | u <;> rfl
  | messageStop => cases he
  | other => rfl

theorem isDelta_of_delta {e : ConverseStreamOutput} {d : StreamEvent} (h : e.delta = some d) :
    d.IsDelta := by
  unfold ConverseStreamOutput.delta at h
  split at h
  · split at h
    · cases h
    · cases h
      exact trivial
  · cases h

theorem reported_append (l m : List ConverseStreamOutput) :
    reported (l ++ m) = (reported m).or (reported l) := by
  induction l with
  | nil => simp [reported]
  | cons e l ih => rw [List.cons_append,reported,reported,ih,Option.or_assoc]

section Loop

variable {s : Setting}

theorem loop_eq (hs : s.err = none) (sent : ℕ) (capturedUsage : Option Usage)
    (events : List ConverseStreamOutput)
    (h : ∀ n ≤ (deltas (beforeStop events)).length, s.cancelled (sent + n) = false) :
    loop s sent capturedUsage events =
      deltas (beforeStop events) ++ [StreamEvent.done none ((reported (beforeStop events)).or capturedUsage)] := by
  induction events generalizing sent capturedUsage with
  | nil =>
    have hsent : s.cancelled sent = false := h 0 (Nat.zero_le _)
    simp [loop,exhausted,hs,sendDone,hsent,deltas,beforeStop,reported]
  | cons e events ih =>
    cases he : e.isStop with
    | true =>
      have hsent : s.cancelled sent = false := h 0 (Nat.zero_le _)
      cases e with
      | messageStop =>
        simp [loop,sendDone,hsent,deltas,beforeStop,reported,ConverseStreamOutput.isStop]
      | _ => cases he
    | false =>
      have hbefore : beforeStop (e :: events) = e :: beforeStop events := by
        simp [beforeStop,he]
      rw [hbefore] at h ⊢
      rw [loop_cons s sent capturedUsage he,reported,Option.or_assoc]
      cases hd : e.delta with
      | none =>
        have hdeltas : deltas (e :: beforeStop events) = deltas (beforeStop events) :=
          List.filterMap_cons_none hd
        rw [hdeltas] at h ⊢
        exact ih sent _ h
      | some d =>
        have hdeltas : deltas (e :: beforeStop events) = d :: deltas (beforeStop events) :=
          List.filterMap_cons_some hd
        rw [hdeltas,List.length_cons] at h
        have hsent : s.cancelled sent = false := h 0 (Nat.zero_le _)
        simp only [hsent,Bool.false_eq_true,if_false]
        rw [hdeltas,List.cons_append,ih (sent + 1)]
        intro n hn
        have hnext := h (n + 1) (by omega)
        rwa [Nat.add_comm n 1,← Nat.add_assoc] at hnext

theorem loop_cancelled (hs : s.err = none) (sent : ℕ) (capturedUsage : Option Usage)
    (events : List ConverseStreamOutput) {n : ℕ} (hn : n ≤ (deltas (beforeStop events)).length)
    (h : s.cancelled (sent + n) = true) :
    ∀ d ∈ loop s sent capturedUsage events, d.IsDelta := by
  induction events generalizing sent capturedUsage n with
  | nil =>
    obtain rfl : n = 0 := by simpa [deltas,beforeStop] using hn
    simp only [Nat.add_zero] at h
    simp [loop,exhausted,hs,sendDone,h]
  | cons e events ih =>
    cases he : e.isStop with
    | true =>
      cases e with
      | messageStop =>
        obtain rfl : n = 0 := by
          simpa [deltas,beforeStop,ConverseStreamOutput.isStop] using hn
        simp only [Nat.add_zero] at h
        simp [loop,sendDone,h]
      | _ => cases he
    | false =>
      have hbefore : beforeStop (e :: events) = e :: beforeStop events := by
        simp [beforeStop,he]
      rw [hbefore] at hn
      rw [loop_cons s sent capturedUsage he]
      cases hd : e.delta with
      | none =>
        have hdeltas : deltas (e :: beforeStop events) = deltas (beforeStop events) :=
          List.filterMap_cons_none hd
        exact ih sent _ (hdeltas ▸ hn) h
      | some d =>
        have hdeltas : deltas (e :: beforeStop events) = d :: deltas (beforeStop events) :=
          List.filterMap_cons_some hd
        rw [hdeltas,List.length_cons] at hn
        cases hsent : s.cancelled sent with
        | true => simp
        | false =>
          cases n with
          | zero =>
            rw [Nat.add_zero,hsent] at h
            cases h
          | succ n =>
            rw [Nat.add_comm n 1,← Nat.add_assoc] at h
            have hrest := ih (sent + 1) (e.usage.or capturedUsage) (by omega) h
            intro x hx
            rcases List.mem_cons.mp (by simpa using hx) with rfl | hx
            · exact isDelta_of_delta hd
            · exact hrest x hx

end Loop

def StopsLast (s : Setting) (events : List ConverseStreamOutput) : Prop :=
  (∀ n ≤ (deltas (beforeStop events)).length, s.cancelled n = false) ∧
    deltas (afterStop events) = [] ∧
    (reported (afterStop events) = none ∨
      reported (afterStop events) = reported (beforeStop events))

theorem usage_reported_iff (s : Setting) (events : List ConverseStreamOutput) (u : Usage)
    (hs : s.err = none) (hu : reported events = some u) :
    runBedrockStreamLoop s events = deltas events ++ [StreamEvent.done none (some u)] ↔ StopsLast s events := by
  have hsplit : beforeStop events ++ afterStop events = events := List.takeWhile_append_dropWhile
  have hdeltas : deltas events = deltas (beforeStop events) ++ deltas (afterStop events) := by
    rw [deltas,← hsplit,List.filterMap_append,hsplit]
    rfl
  rw [← hsplit,reported_append] at hu
  by_cases hstays : ∀ n ≤ (deltas (beforeStop events)).length, s.cancelled n = false
  · have hloop := loop_eq hs 0 none events (by simpa using hstays)
    have hlast : [StreamEvent.done none (reported (beforeStop events))] =
        deltas (afterStop events) ++ [StreamEvent.done none (some u)] ↔
          deltas (afterStop events) = [] ∧ reported (beforeStop events) = some u := by
      rw [List.singleton_eq_append_iff]
      simp [eq_comm (a := some u)]
    rw [runBedrockStreamLoop,hloop,hdeltas,List.append_assoc,List.append_cancel_left_eq,Option.or_none,
      hlast,StopsLast,and_iff_right hstays]
    refine and_congr_right (fun _ => ?_)
    cases hafter : reported (afterStop events) with
    | none =>
      rw [hafter,Option.none_or] at hu
      simp [hu]
    | some v =>
      rw [hafter,Option.some_or,Option.some.injEq] at hu
      simp [hu,eq_comm]
  · refine iff_of_false ?_ (fun h => hstays h.1)
    push Not at hstays
    obtain ⟨n,hn,hcancelled⟩ := hstays
    have honly := loop_cancelled hs 0 none events hn (by simpa using hcancelled)
    intro heq
    have hdone := honly (.done none (some u)) (by
      rw [← runBedrockStreamLoop,heq]
      simp)
    exact hdone

def completing : Setting := ⟨fun _ => false,none,true⟩

theorem metadata_usage_captured :
    runBedrockStreamLoop completing
      [.contentBlockDelta (some (.text "La capital")),.metadata (some (some ⟨some 10,some 5,some 15⟩)),
        .messageStop] = [.delta "La capital" "" none,.done none (some ⟨10,5,15,0⟩)] :=
  (usage_reported_iff completing _ ⟨10,5,15,0⟩ rfl rfl).mpr ⟨fun _ _ => rfl,rfl,.inl rfl⟩

theorem usage_after_stop_lost : ¬ ∀ (s : Setting) (events : List ConverseStreamOutput) (u : Usage),
    s.err = none → (∀ n, s.cancelled n = false) → reported events = some u →
      runBedrockStreamLoop s events = deltas events ++ [StreamEvent.done none (some u)] := by
  intro h
  have hlost := h completing
    [.contentBlockDelta (some (.text "La capital")),.messageStop,
      .metadata (some (some ⟨some 10,some 5,some 15⟩))] ⟨10,5,15,0⟩ rfl (fun _ => rfl) rfl
  exact absurd hlost (by decide)

end PrismGateway.Providers.Bedrock
