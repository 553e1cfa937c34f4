import PrismGateway.Lib.Run
import PrismGateway.Orchestrator.Attempts

namespace PrismGateway.Orchestrator
open Lib Config Router

namespace Action

def isAllowOf (key : String) : Action → Bool
  | .allow k _ => k = key
  | _ => false

def isProbeReportOf (key : String) : Action → Bool
  | .report k _ isProbe => k = key && isProbe
  | _ => false

end Action

-- the reports that answer an Allow are those before the next Allow of its key
def answers (key : String) (later : List Action) : ℕ :=
  (later.takeWhile (fun a => !a.isAllowOf key)).countP (·.isProbeReportOf key)

def ProbesReported (actions : List Action) : Prop :=
  ∀ earlier key admission later, actions = earlier ++ .allow key admission :: later →
    admission.isProbe = true → answers key later = 1

theorem answers_append {key : String} {block rest : List Action}
    (h : ∀ a ∈ block, a.isAllowOf key = false) :
    answers key (block ++ rest) = block.countP (·.isProbeReportOf key) + answers key rest := by
  have hb : ∀ a ∈ block, (!a.isAllowOf key) = true := fun a ha => by simp [h a ha]
  unfold answers
  rw [List.takeWhile_append_of_pos hb,List.countP_append]

theorem probesReported_nil : ProbesReported [] := by
  intro earlier key admission later h
  simp at h

theorem probesReported_cons {a : Action} {l : List Action} :
    ProbesReported (a :: l) ↔
      (∀ key admission, a = .allow key admission → admission.isProbe = true → answers key l = 1) ∧
        ProbesReported l := by
  constructor
  · intro h
    refine ⟨?_,?_⟩
    · intro key admission ha
      exact h [] key admission l (by simp [ha])
    · intro earlier key admission later hl
      exact h (a :: earlier) key admission later (by simp [hl])
  · rintro ⟨h0,h⟩ earlier key admission later hl
    cases earlier with
    | nil =>
      simp only [List.nil_append,List.cons.injEq] at hl
      exact hl.2 ▸ h0 key admission hl.1
    | cons b earlier =>
      simp only [List.cons_append,List.cons.injEq] at hl
      exact h earlier key admission later hl.2

theorem probesReported_append {block rest : List Action}
    (h : ∀ a ∈ block, ∀ key admission, a ≠ .allow key admission) :
    ProbesReported (block ++ rest) ↔ ProbesReported rest := by
  induction block with
  | nil => rfl
  | cons a block ih =>
    rw [List.cons_append,probesReported_cons,ih (fun b hb => h b (by simp [hb]))]
    refine ⟨And.right,fun hr => ⟨?_,hr⟩⟩
    intro key admission ha
    exact absurd ha (h a (by simp) key admission)

namespace Env

def goesOn (env : Env) (o : Outcomes) (i : ℕ) (modelName : String) : Prop :=
  env.stops modelName = false ∧ ∀ m, env.sendable modelName = some m →
    (o.allow i).allowed = true → (env.replyTo o i m).any env.retries = true

def unreported (err : GoError) : Bool :=
  err.streamingNotSupported || !isCBFailure (classify err)

def Reports (env : Env) (o : Outcomes) (i : ℕ) (modelName : String) : Prop :=
  ∀ m, env.sendable modelName = some m → (o.allow i).isProbe = true → env.stream = true →
    (streamError m (o.reply i)).any unreported = false

def NoSilentProbe (env : Env) (o : Outcomes) (candidates : List String) : Prop :=
  EveryEntered (env.goesOn o) (env.Reports o) (env.tried candidates)

theorem attempt_exit (env : Env) (o : Outcomes) (i : ℕ) (n : String) (s : LoopState) :
    (env.attempt o i n s).exit = none ↔ env.goesOn o i n := by
  unfold goesOn
  cases hn : env.sendable n with
  | none => simp [(attempt_unsendable hn).2.2]
  | some m =>
    cases ha : (o.allow i).allowed with
    | false => simp [attempt_denied hn ha,stops_of_sendable hn]
    | true => simp [attempt_admitted hn ha,stops_of_sendable hn,call_exit]

theorem call_actions (env : Env) (o : Outcomes) (i : ℕ) (m : ModelConfig) (s : LoopState) :
    (env.stream && (streamError m (o.reply i)).any unreported) = true ∧
        (env.call o i m s).actions = [] ∨
      (env.stream && (streamError m (o.reply i)).any unreported) = false ∧
        ∃ outcome, (env.call o i m s).actions =
          [.report (env.cbKey m) outcome (o.allow i).isProbe] := by
  unfold call
  cases env.stream with
  | true =>
    simp only [if_true,Bool.true_and]
    cases streamError m (o.reply i) with
    | none => exact .inr ⟨rfl,_,rfl⟩
    | some err =>
      simp only [streamCall,Option.any_some,unreported]
      split_ifs with hn hc
      · exact .inl ⟨by simp [hn],rfl⟩
      · exact .inr ⟨by simp [hn,hc],_,failed_actions _ _ _⟩
      · exact .inl ⟨by simp [hc],failed_actions _ _ _⟩
  | false =>
    right
    refine ⟨rfl,?_⟩
    cases o.reply i with
    | none => exact ⟨_,rfl⟩
    | some err => exact ⟨_,failed_actions _ _ _⟩

inductive Shape (env : Env) (o : Outcomes) (i : ℕ) (n : String) : List Action → Prop
  | quiet (h : env.sendable n = none) : Shape env o i n []
  | denied (m : ModelConfig) (h : env.sendable n = some m) (ha : (o.allow i).allowed = false) :
      Shape env o i n [.allow (env.cbKey m) (o.allow i)]
  | silent (m : ModelConfig) (req : ChatRequest) (h : env.sendable n = some m)
      (hs : (env.stream && (streamError m (o.reply i)).any unreported) = true) :
      Shape env o i n [.allow (env.cbKey m) (o.allow i),.send n req]
  | reported (m : ModelConfig) (req : ChatRequest) (outcome : CircuitBreaker.Outcome)
      (h : env.sendable n = some m)
      (hs : (env.stream && (streamError m (o.reply i)).any unreported) = false) :
      Shape env o i n [.allow (env.cbKey m) (o.allow i),.send n req,
        .report (env.cbKey m) outcome (o.allow i).isProbe]

theorem attempt_shape (env : Env) (o : Outcomes) (i : ℕ) (n : String) (s : LoopState) :
    Shape env o i n (env.attempt o i n s).actions := by
  cases hn : env.sendable n with
  | none =>
    rw [(attempt_unsendable hn).1]
    exact .quiet hn
  | some m =>
    cases ha : (o.allow i).allowed with
    | false =>
      rw [attempt_denied hn ha]
      exact .denied m hn ha
    | true =>
      rw [attempt_admitted hn ha]
      rcases call_actions env o i m { s with provReq := env.prepare m s.provReq } with
        ⟨hs,hc⟩ | ⟨hs,outcome,hc⟩
      · simp only [hc]
        exact .silent m _ hn hs
      · simp only [hc]
        exact .reported m _ outcome hn hs

theorem answers_shape {env : Env} {o : Outcomes} {i : ℕ} {n key : String}
    {block rest : List Action} (h : Shape env o i n block) (hr : answers key rest = 0) :
    answers key (block ++ rest) = 0 := by
  cases h with
  | quiet h => exact hr
  | denied m h ha =>
    by_cases hk : env.cbKey m = key
    · simp [answers,Action.isAllowOf,hk]
    · rw [answers_append (by simp [Action.isAllowOf,hk]),hr]
      simp [Action.isProbeReportOf]
  | silent m req h hs =>
    by_cases hk : env.cbKey m = key
    · simp [answers,Action.isAllowOf,hk]
    · rw [answers_append (by simp [Action.isAllowOf,hk]),hr]
      simp [Action.isProbeReportOf]
  | reported m req outcome h hs =>
    by_cases hk : env.cbKey m = key
    · simp [answers,Action.isAllowOf,hk]
    · rw [answers_append (by simp [Action.isAllowOf,hk]),hr]
      simp [Action.isProbeReportOf,hk]

theorem answers_attempts (env : Env) (o : Outcomes) (key : String) (l : List String) :
    ∀ i s, answers key (env.attempts o i s l).1 = 0 := by
  induction l with
  | nil =>
    intro i s
    rfl
  | cons n l ih =>
    intro i s
    have hshape := attempt_shape env o i n s
    simp only [attempts]
    cases (env.attempt o i n s).exit with
    | none => exact answers_shape hshape (ih _ _)
    | some response =>
      have h : answers key ((env.attempt o i n s).actions ++ []) = 0 := answers_shape hshape rfl
      simpa using h

theorem probesReported_shape {env : Env} {o : Outcomes} {i : ℕ} {n : String}
    {block rest : List Action} (h : Shape env o i n block)
    (hr : ∀ key, answers key rest = 0) :
    ProbesReported (block ++ rest) ↔ env.Reports o i n ∧ ProbesReported rest := by
  unfold Reports
  cases h with
  | quiet h => simp [h]
  | denied m h ha =>
    have hp : (o.allow i).isProbe = false := by
      by_contra hc
      simp [(o.allow i).probe_allowed (by simpa using hc)] at ha
    rw [List.cons_append,probesReported_cons]
    simp [hp]
  | silent m req h hs =>
    obtain ⟨hstream,hany⟩ := by simpa only [Bool.and_eq_true] using hs
    have hz : answers (env.cbKey m) ([Action.send n req] ++ rest) = 0 := by
      rw [answers_append (by simp [Action.isAllowOf]),hr]
      simp [Action.isProbeReportOf]
    have hsend : ProbesReported ([Action.send n req] ++ rest) ↔ ProbesReported rest :=
      probesReported_append (by simp)
    rw [List.cons_append,probesReported_cons,hsend]
    constructor
    · rintro ⟨h0,hrest⟩
      refine ⟨?_,hrest⟩
      intro m' _ hp
      have hone := h0 _ _ rfl hp
      rw [List.cons_append,List.nil_append] at hone hz
      exact absurd hone (by simp [hz])
    · rintro ⟨hall,hrest⟩
      refine ⟨?_,hrest⟩
      intro key admission heq hp
      cases heq
      exact absurd (hall m h hp hstream) (by simp [hany])
  | reported m req outcome h hs =>
    have hone : (o.allow i).isProbe = true →
        answers (env.cbKey m) ([Action.send n req,Action.report (env.cbKey m) outcome (o.allow i).isProbe] ++
          rest) = 1 := by
      intro hp
      rw [answers_append (by simp [Action.isAllowOf]),hr]
      simp [Action.isProbeReportOf,hp]
    rw [List.cons_append,probesReported_cons,probesReported_append (by simp)]
    simp only [Action.allow.injEq,h,Option.some.injEq]
    constructor
    · rintro ⟨-,hrest⟩
      refine ⟨?_,hrest⟩
      rintro m' rfl - hstream
      simpa [hstream] using hs
    · rintro ⟨-,hrest⟩
      refine ⟨?_,hrest⟩
      rintro key admission ⟨rfl,rfl⟩ hp
      exact hone hp

theorem probesReported_attempts (env : Env) (o : Outcomes) (l : List String) :
    ∀ i s, ProbesReported (env.attempts o i s l).1 ↔
      EveryEntered (fun j => env.goesOn o (i + j)) (fun j => env.Reports o (i + j)) l := by
  induction l with
  | nil =>
    intro i s
    simp [attempts,probesReported_nil,everyEntered_nil]
  | cons n l ih =>
    intro i s
    have hshape := attempt_shape env o i n s
    have hexit := attempt_exit env o i n s
    rw [everyEntered_cons]
    simp only [attempts,Nat.add_zero]
    cases he : (env.attempt o i n s).exit with
    | none =>
      have hgo : env.goesOn o i n := hexit.mp he
      have htail := ih (i + 1) (env.attempt o i n s).state
      simp only [Nat.add_assoc,Nat.add_comm 1] at htail
      rw [probesReported_shape hshape (fun key => answers_attempts env o key l _ _),htail]
      simp [hgo]
    | some response =>
      have hgo : ¬ env.goesOn o i n := by
        rw [← hexit,he]
        simp
      have h : ProbesReported ((env.attempt o i n s).actions ++ []) ↔
          env.Reports o i n ∧ ProbesReported [] := probesReported_shape hshape (fun _ => rfl)
      simp only [List.append_nil] at h
      rw [h]
      simp [hgo,probesReported_nil]

theorem probes_reported_iff (env : Env) (o : Outcomes) (candidates : List String) :
    ProbesReported (env.run o candidates).1 ↔ env.NoSilentProbe o candidates := by
  have h := probesReported_attempts env o (env.tried candidates) 0 ⟨env.provReq,none⟩
  simp only [Nat.zero_add] at h
  exact h

def xaiGrok : Env where
  tenantID := "acme"
  maxOutputTokens := none
  fallback := {}
  stream := true
  globalConfig := ⟨[{ name := "grok", provider := "xai" }],none⟩
  yamlProviders := fun name => if name = "xai" then some ⟨"xai"⟩ else none
  chatProviderFor := fun _ => true
  provReq := { messages := [{ role := "user", content := "hi" }] }

def probeWithoutStreaming : Outcomes where
  allow := fun _ => .admitted true
  reply := fun _ => some { streamingNotSupported := true
                           message := "streaming is not yet supported for this provider" }

theorem unsupported_stream_leaks_probe :
    ¬ ProbesReported (xaiGrok.run probeWithoutStreaming ["grok"]).1 := by
  intro h
  have hrun : (xaiGrok.run probeWithoutStreaming ["grok"]).1 =
      [] ++ Action.allow "xai:acme" (.admitted true) ::
        [Action.send "grok" (xaiGrok.prepare { name := "grok", provider := "xai" } xaiGrok.provReq)] := by
    decide
  have hone := h _ _ _ _ hrun rfl
  simp [answers,Action.isAllowOf,Action.isProbeReportOf] at hone

end Env

end PrismGateway.Orchestrator
