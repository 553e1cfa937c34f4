import PrismGateway.Lib.Run
import PrismGateway.Orchestrator.Attempts

namespace PrismGateway.Orchestrator
open Lib Config Router

namespace Env

def AttemptIndependent (env : Env) (candidates : List String) : Prop :=
  ∀ o o' n req req', .send n req ∈ (env.run o candidates).1 →
    .send n req' ∈ (env.run o' [n]).1 → req = req'

def lastModelID (env : Env) (names : List String) : Option String :=
  (names.filterMap (fun n => (env.usable n).bind ownModelID)).getLast?

def anyCapped (env : Env) (names : List String) : Bool :=
  names.any (fun n => (env.usable n).any env.capped)

structure OwnFields (env : Env) (earlier : List String) (m : ModelConfig) : Prop where
  modelID : ownModelID m = none → ∀ id, env.lastModelID earlier = some id →
    id = env.provReq.providerModelID
  maxTokens : env.capped m = false → env.anyCapped earlier = true →
    env.provReq.maxTokens = some env.cap

def NoLeak (env : Env) (candidates : List String) : Prop :=
  EveryEntered (fun _ n => env.stops n = false)
    (fun i n => ∀ m, env.sendable n = some m → env.OwnFields ((env.tried candidates).take i) m)
    (env.tried candidates)

def preparedAll (env : Env) (names : List String) (r : ChatRequest) : ChatRequest :=
  names.foldl (fun r n => env.prepared n r) r

theorem lastModelID_append (env : Env) (names : List String) (n : String) :
    env.lastModelID (names ++ [n]) =
      ((env.usable n).bind ownModelID).or (env.lastModelID names) := by
  simp only [lastModelID,List.filterMap_append,List.getLast?_append]
  cases h : (env.usable n).bind ownModelID <;> simp [h]

theorem anyCapped_append (env : Env) (names : List String) (n : String) :
    env.anyCapped (names ++ [n]) = (env.anyCapped names || (env.usable n).any env.capped) := by
  simp [anyCapped,List.any_append]

theorem preparedAll_eq (env : Env) (names : List String) (r : ChatRequest) :
    ∃ model, env.preparedAll names r =
      { r with
        model := model
        providerModelID := (env.lastModelID names).getD r.providerModelID
        maxTokens := if env.anyCapped names then some env.cap else r.maxTokens } := by
  induction names using List.reverseRecOn with
  | nil => exact ⟨r.model,rfl⟩
  | append_singleton names n ih =>
    obtain ⟨model,hall⟩ := ih
    have hstep : env.preparedAll (names ++ [n]) r = env.prepared n (env.preparedAll names r) := by
      simp [preparedAll,List.foldl_append]
    rw [hstep,hall,lastModelID_append,anyCapped_append]
    cases hn : env.usable n with
    | none => exact ⟨model,by simp [prepared,hn]⟩
    | some m =>
      refine ⟨m.name,?_⟩
      cases hid : ownModelID m <;> cases hc : env.capped m <;>
        simp [prepared,hn,prepare,hid,hc]

theorem prepare_preparedAll_iff {env : Env} {m : ModelConfig} {names : List String} :
    env.prepare m (env.preparedAll names env.provReq) = env.prepare m env.provReq ↔
      env.OwnFields names m := by
  obtain ⟨model,hall⟩ := env.preparedAll_eq names env.provReq
  rw [hall]
  constructor
  · intro h
    constructor
    · intro hown id hid
      simpa [prepare,hown,hid] using congrArg ChatRequest.providerModelID h
    · intro hm hc
      simpa [prepare,hm,hc] using (congrArg ChatRequest.maxTokens h).symm
  · intro h
    have hid : (ownModelID m).getD ((env.lastModelID names).getD env.provReq.providerModelID) =
        (ownModelID m).getD env.provReq.providerModelID := by
      cases hown : ownModelID m with
      | some id => rfl
      | none =>
        cases hlast : env.lastModelID names with
        | none => rfl
        | some id => exact h.modelID hown id hlast
    have htok : (if env.capped m then some env.cap
          else if env.anyCapped names then some env.cap else env.provReq.maxTokens) =
        if env.capped m then some env.cap else env.provReq.maxTokens := by
      split_ifs with hm hc
      · rfl
      · exact (h.maxTokens (by simpa using hm) hc).symm
      · rfl
    simp only [prepare,hid,htok]

theorem send_of_attempt {env : Env} {o : Outcomes} {i : ℕ} {a n : String} {s : LoopState}
    {req : ChatRequest} (h : .send n req ∈ (env.attempt o i a s).actions) :
    ∃ m, n = a ∧ env.sendable n = some m ∧ req = env.prepare m s.provReq := by
  cases ha : env.sendable a with
  | none =>
    rw [(attempt_unsendable ha).1] at h
    simp at h
  | some m =>
    cases hadm : (o.allow i).allowed with
    | false =>
      rw [attempt_denied ha hadm] at h
      simp at h
    | true =>
      rw [attempt_admitted ha hadm] at h
      simp only [List.mem_cons,Action.send.injEq,reduceCtorEq,false_or] at h
      rcases h with ⟨rfl,rfl⟩ | h
      · exact ⟨m,rfl,ha,rfl⟩
      · exact absurd h (send_not_mem_call env o i m _ _ _)

theorem attempt_goes_on {env : Env} {o : Outcomes} {i : ℕ} {a : String} {s : LoopState}
    (h : (env.attempt o i a s).exit = none) :
    env.stops a = false ∧ (env.attempt o i a s).state.provReq = env.prepared a s.provReq := by
  cases ha : env.sendable a with
  | none =>
    obtain ⟨-,hstate,hexit⟩ := attempt_unsendable (o := o) (i := i) (s := s) ha
    exact ⟨hexit.mp h,hstate h⟩
  | some m =>
    refine ⟨stops_of_sendable ha,?_⟩
    rw [prepared_of_sendable ha]
    cases hadm : (o.allow i).allowed with
    | false => rw [attempt_denied ha hadm]
    | true =>
      rw [attempt_admitted ha hadm]
      exact call_provReq env o i m _

theorem send_of_attempts {env : Env} {o : Outcomes} {n : String} {req : ChatRequest}
    (l : List String) : ∀ i s, .send n req ∈ (env.attempts o i s l).1 →
      ∃ j m, l[j]? = some n ∧ Entered (fun _ n => env.stops n = false) l j ∧
        env.sendable n = some m ∧
        req = env.prepare m (env.preparedAll (l.take j) s.provReq) := by
  induction l with
  | nil =>
    intro i s h
    simp [attempts] at h
  | cons a l ih =>
    intro i s h
    have hmem : .send n req ∈ (env.attempt o i a s).actions ∨
        ((env.attempt o i a s).exit = none ∧
          .send n req ∈ (env.attempts o (i + 1) (env.attempt o i a s).state l).1) := by
      simp only [attempts] at h
      cases he : (env.attempt o i a s).exit with
      | none =>
        rw [he] at h
        exact (List.mem_append.mp h).imp_right (fun hr => ⟨rfl,hr⟩)
      | some response =>
        rw [he] at h
        exact .inl h
    rcases hmem with hhead | ⟨hexit,htail⟩
    · obtain ⟨m,hn,hm,hreq⟩ := send_of_attempt hhead
      subst hn
      exact ⟨0,m,rfl,entered_zero _ _,hm,hreq⟩
    · obtain ⟨j,m,hj,hent,hm,hreq⟩ := ih _ _ htail
      obtain ⟨hstop,hstate⟩ := attempt_goes_on hexit
      refine ⟨j + 1,m,by simpa using hj,entered_succ_iff.mpr ⟨hstop,hent⟩,hm,?_⟩
      rw [hreq,hstate]
      rfl

def admitOnly (j : ℕ) : Outcomes :=
  ⟨fun i => if i = j then .admitted false else .denied,fun _ => none⟩

theorem send_of_run {env : Env} {o : Outcomes} {n : String} {req : ChatRequest}
    {candidates : List String} (h : .send n req ∈ (env.run o candidates).1) :
    ∃ model id maxTokens, req =
      { env.provReq with model := model, providerModelID := id, maxTokens := maxTokens } := by
  obtain ⟨j,m,-,-,-,rfl⟩ := send_of_attempts _ _ _ h
  obtain ⟨model,hall⟩ := preparedAll_eq env ((env.tried candidates).take j) env.provReq
  rw [prepare,hall]
  exact ⟨_,_,_,rfl⟩

theorem denied_goes_on {env : Env} {o : Outcomes} {i : ℕ} {a : String} {s : LoopState}
    (hstop : env.stops a = false) (hadm : (o.allow i).allowed = false) :
    (env.attempt o i a s).exit = none := by
  cases ha : env.sendable a with
  | none => exact (attempt_unsendable ha).2.2.mpr hstop
  | some m => rw [attempt_denied ha hadm]

theorem attempts_send {env : Env} {n : String} {m : ModelConfig} (hm : env.sendable n = some m)
    {j : ℕ} (l : List String) : ∀ i s k, i + k = j → l[k]? = some n →
      Entered (fun _ n => env.stops n = false) l k →
      .send n (env.prepare m (env.preparedAll (l.take k) s.provReq)) ∈
        (env.attempts (admitOnly j) i s l).1 := by
  induction l with
  | nil =>
    intro i s k _ hk
    simp at hk
  | cons a l ih =>
    intro i s k hik hk hent
    cases k with
    | zero =>
      simp only [List.getElem?_cons_zero,Option.some.injEq] at hk
      subst hk
      have hadm : ((admitOnly j).allow i).allowed = true := by
        simp [admitOnly,show i = j from hik,Admission.admitted]
      have hhead : .send a (env.prepare m s.provReq) ∈
          (env.attempt (admitOnly j) i a s).actions := by
        rw [attempt_admitted hm hadm]
        simp
      simp only [attempts,List.take_zero,preparedAll,List.foldl_nil]
      cases (env.attempt (admitOnly j) i a s).exit with
      | none => exact List.mem_append_left _ hhead
      | some response => exact hhead
    | succ k =>
      obtain ⟨hstop,hent⟩ := entered_succ_iff.mp hent
      have hexit : (env.attempt (admitOnly j) i a s).exit = none :=
        denied_goes_on hstop (by simp [admitOnly,show i ≠ j by omega,Admission.denied])
      have htail := ih (i + 1) (env.attempt (admitOnly j) i a s).state k (by omega)
        (by simpa using hk) hent
      rw [(attempt_goes_on hexit).2] at htail
      simp only [attempts,hexit]
      exact List.mem_append_right _ htail

theorem tried_singleton (env : Env) (n : String) : env.tried [n] = [n] := by
  unfold tried maxAttempts
  split_ifs with h1 h2 h3
  · simp only [Bool.and_eq_true,decide_eq_true_eq] at h1
    simp only [List.length_singleton,Nat.cast_one] at h2
    omega
  · rfl
  · rfl
  · rfl

theorem attempt_independent_iff (env : Env) (candidates : List String) :
    env.AttemptIndependent candidates ↔ env.NoLeak candidates := by
  constructor
  · intro h i n hn hent m hm
    have hsent := attempts_send (j := i) hm (env.tried candidates) 0 ⟨env.provReq,none⟩ i
      (Nat.zero_add i) hn hent
    have hfirst := attempts_send (j := 0) hm (env.tried [n]) 0 ⟨env.provReq,none⟩ 0 rfl
      (by rw [tried_singleton]; rfl) (entered_zero _ _)
    exact prepare_preparedAll_iff.mp (h _ _ n _ _ hsent hfirst)
  · intro h o o' n req req' hreq hreq'
    obtain ⟨i,m,hn,hent,hm,rfl⟩ := send_of_attempts _ _ _ hreq
    obtain ⟨k,m',hn',-,hm',rfl⟩ := send_of_attempts _ _ _ hreq'
    obtain rfl : m = m' := Option.some_injective _ (hm.symm.trans hm')
    have hk : (env.tried [n]).take k = [] := by
      rw [tried_singleton] at hn' ⊢
      cases k with
      | zero => rfl
      | succ k => simp at hn'
    rw [hk]
    exact prepare_preparedAll_iff.mpr (h i n hn hent m hm)

def bedrockThenOpenAI : Env where
  tenantID := "acme"
  maxOutputTokens := none
  fallback := { enabled := true, maxAttempts := 2 }
  stream := false
  globalConfig := ⟨[{ name := "claude", provider := "bedrock", providerModelID := "anthropic.claude" },
    { name := "gpt", provider := "openai" }],none⟩
  yamlProviders := fun name =>
    if name = "bedrock" then some ⟨"aws_bedrock"⟩
    else if name = "openai" then some ⟨"openai"⟩ else none
  chatProviderFor := fun _ => true
  provReq := { messages := [{ role := "user", content := "hi" }] }

def serverError : Outcomes where
  allow := fun _ => .admitted false
  reply := fun _ => some { upstreamStatus := some 500, message := "upstream returned status 500: " }

theorem fallback_sends_bedrock_id : ¬ bedrockThenOpenAI.AttemptIndependent ["claude","gpt"] := by
  intro h
  have hsecond : .send "gpt" { model := "gpt"
                               messages := bedrockThenOpenAI.provReq.messages
                               providerModelID := "anthropic.claude" } ∈
      (bedrockThenOpenAI.run serverError ["claude","gpt"]).1 := by
    decide
  have hfirst : .send "gpt" { model := "gpt", messages := bedrockThenOpenAI.provReq.messages } ∈
      (bedrockThenOpenAI.run serverError ["gpt"]).1 := by
    decide
  have hid := congrArg ChatRequest.providerModelID (h _ _ _ _ _ hsecond hfirst)
  exact absurd hid (by decide)

end Env

end PrismGateway.Orchestrator
