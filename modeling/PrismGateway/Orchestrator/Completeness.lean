import PrismGateway.Orchestrator.CacheEffectiveness
import PrismGateway.Orchestrator.ProbeReports

namespace PrismGateway.Orchestrator

open Lib Config Router
open Api (ParsedRequest)

namespace Response

def succeeded : Response → Bool
  | .streamed => true
  | .completed => true
  | _ => false

end Response

def Ending.succeeded : Ending → Bool
  | .toolRoute _ => true
  | .cacheHit _ _ => true
  | .attempted response => response.succeeded
  | .answered _ => true
  | _ => false

namespace Env

section Candidates

variable (env : Env) (o : Outcomes)

-- a known and enabled model with a provider, its provider_model_id and a breaker that lets it through
def usableAt (i : ℕ) (modelName : String) : Option ModelConfig :=
  (env.sendable modelName).filter (fun _ => (o.allow i).allowed)

def succeedsAt (i : ℕ) (modelName : String) : Bool :=
  (env.usableAt o i modelName).any (fun m => (env.replyTo o i m).isNone)

def failsRetryably (i : ℕ) (modelName : String) : Prop :=
  ∀ m, env.usableAt o i modelName = some m →
    ∃ err, env.replyTo o i m = some err ∧ isRetryable (classify err) = true

def usableBefore (candidates : List String) (i : ℕ) : ℕ :=
  ((candidates.take i).zipIdx.filter (fun c => (env.usableAt o c.2 c.1).isSome)).length

def attemptLimit (candidates : List String) : ℕ :=
  if 0 < env.fallback.maxAttempts then env.fallback.maxAttempts.toNat else candidates.length

/-- The plan holds a usable candidate that succeeds, among the first `max_attempts` usable ones, and
those before it fail with retryable errors. -/
structure Promising (candidates : List String) (i : ℕ) : Prop where
  succeeds : ∃ n, candidates[i]? = some n ∧ env.succeedsAt o i n = true
  fail : ∀ j n, j < i → candidates[j]? = some n → env.failsRetryably o j n
  within : env.usableBefore o candidates i < env.attemptLimit candidates

def unsupportedStream (i : ℕ) (modelName : String) : Bool :=
  env.stream && (env.usableAt o i modelName).any (fun m =>
    (env.replyTo o i m).any (·.streamingNotSupported))

end Candidates

theorem usableAt_eq_some {env : Env} {o : Outcomes} {i : ℕ} {n : String} {m : ModelConfig} :
    env.usableAt o i n = some m ↔ env.sendable n = some m ∧ (o.allow i).allowed = true := by
  simp [usableAt,Option.filter_eq_some_iff]

theorem failed_response {err : GoError} {s : LoopState} {actions : List Action} {response : Response}
    (h : (failed err s actions).exit = some response) : response = .upstreamError err := by
  unfold failed at h
  split at h
  · cases h
  · exact (Option.some.inj h).symm

theorem call_succeeded {env : Env} {o : Outcomes} {i : ℕ} {m : ModelConfig} {s : LoopState}
    {response : Response} (h : (env.call o i m s).exit = some response) :
    response.succeeded = true ↔ env.replyTo o i m = none := by
  unfold call at h
  unfold replyTo
  cases hs : env.stream with
  | true =>
    simp only [hs,if_true] at h ⊢
    cases hr : streamError m (o.reply i) with
    | none =>
      simp only [hr,streamCall,Option.some.injEq] at h
      simp [← h,Response.succeeded]
    | some err =>
      simp only [hr,streamCall] at h
      split_ifs at h
      · cases h
        simp [Response.succeeded]
      · simp [failed_response h,Response.succeeded]
      · simp [failed_response h,Response.succeeded]
  | false =>
    simp only [hs,Bool.false_eq_true,if_false] at h ⊢
    cases hr : o.reply i with
    | none =>
      simp only [hr,bufferedCall,Option.some.injEq] at h
      simp [← h,Response.succeeded]
    | some err =>
      simp only [hr,bufferedCall] at h
      simp [failed_response h,Response.succeeded]

theorem attempt_stopped {env : Env} {o : Outcomes} {i : ℕ} {n : String} {s : LoopState}
    {response : Response} (hn : env.sendable n = none)
    (h : (env.attempt o i n s).exit = some response) :
    response = .modelDisabled ∨ response = .providerModelIDRequired := by
  unfold sendable usable at hn
  unfold attempt at h
  cases hm : env.globalConfig.modelByName n with
  | none =>
    rw [hm] at h
    cases h
  | some m =>
    simp only [hm] at h hn
    split_ifs at h with he hp hb ha
    · cases h
      exact .inl rfl
    · cases h
      exact .inr rfl
    · simp_all [Option.filter]

theorem attempt_succeeded {env : Env} {o : Outcomes} {i : ℕ} {n : String} {s : LoopState}
    {response : Response} (h : (env.attempt o i n s).exit = some response) :
    response.succeeded = true ↔ env.succeedsAt o i n = true := by
  unfold succeedsAt usableAt
  cases hn : env.sendable n with
  | none =>
    have hstop : response = .modelDisabled ∨ response = .providerModelIDRequired :=
      attempt_stopped hn h
    rcases hstop with rfl | rfl
    · simp [Response.succeeded]
    · simp [Response.succeeded]
  | some m =>
    cases ha : (o.allow i).allowed with
    | false =>
      rw [attempt_denied hn ha] at h
      cases h
    | true =>
      rw [attempt_admitted hn ha] at h
      simp [call_succeeded h,Option.filter]

theorem not_goesOn_of_succeedsAt {env : Env} {o : Outcomes} {i : ℕ} {n : String}
    (h : env.succeedsAt o i n = true) : ¬ env.goesOn o i n := by
  rintro ⟨-,hreply⟩
  obtain ⟨m,hm,hnone⟩ := (Option.any_eq_true _ _).mp h
  obtain ⟨hsend,hallow⟩ := usableAt_eq_some.mp hm
  have hretry := hreply m hsend hallow
  rw [Option.isNone_iff_eq_none.mp hnone] at hretry
  cases hretry

theorem attempts_succeeded_iff (env : Env) (o : Outcomes) (l : List String) :
    ∀ (i : ℕ) (s : LoopState), (env.attempts o i s l).2.succeeded = true ↔
      ∃ k n, l[k]? = some n ∧ env.succeedsAt o (i + k) n = true ∧
        Entered (fun j => env.goesOn o (i + j)) l k := by
  induction l with
  | nil =>
    intro i s
    cases hl : s.lastErr with
    | none => simp [attempts,hl,Response.succeeded]
    | some err => simp [attempts,hl,Response.succeeded]
  | cons a l ih =>
    intro i s
    cases hexit : (env.attempt o i a s).exit with
    | none =>
      have hon : env.goesOn o i a := (attempt_exit env o i a s).mp hexit
      have hrun : (env.attempts o i s (a :: l)).2 =
          (env.attempts o (i + 1) (env.attempt o i a s).state l).2 := by
        simp only [attempts,hexit]
      rw [hrun,ih]
      constructor
      · rintro ⟨k,n,hk,hsucc,hentered⟩
        refine ⟨k + 1,n,by simpa using hk,by simpa [Nat.add_assoc,Nat.add_comm 1] using hsucc,?_⟩
        refine entered_succ_iff.mpr ⟨hon,?_⟩
        simpa [Nat.add_assoc,Nat.add_comm 1] using hentered
      · rintro ⟨k,n,hk,hsucc,hentered⟩
        cases k with
        | zero =>
          simp only [List.getElem?_cons_zero,Option.some.injEq] at hk
          subst hk
          exact absurd hon (not_goesOn_of_succeedsAt hsucc)
        | succ k =>
          refine ⟨k,n,by simpa using hk,by simpa [Nat.add_assoc,Nat.add_comm 1] using hsucc,?_⟩
          have htail := (entered_succ_iff.mp hentered).2
          simpa [Nat.add_assoc,Nat.add_comm 1] using htail
    | some response =>
      have hoff : ¬ env.goesOn o i a := by
        intro hon
        rw [(attempt_exit env o i a s).mpr hon] at hexit
        cases hexit
      have hrun : (env.attempts o i s (a :: l)).2 = response := by simp only [attempts,hexit]
      rw [hrun,attempt_succeeded hexit]
      constructor
      · intro hsucc
        exact ⟨0,a,rfl,hsucc,entered_zero _ _⟩
      · rintro ⟨k,n,hk,hsucc,hentered⟩
        cases k with
        | zero =>
          simp only [List.getElem?_cons_zero,Option.some.injEq] at hk
          exact hk ▸ hsucc
        | succ k => exact absurd (entered_succ_iff.mp hentered).1 hoff

theorem run_succeeded_iff (env : Env) (o : Outcomes) (candidates : List String) :
    (env.run o candidates).2.succeeded = true ↔
      ∃ k n, (env.tried candidates)[k]? = some n ∧ env.succeedsAt o k n = true ∧
        Entered (env.goesOn o) (env.tried candidates) k := by
  simpa [run] using env.attempts_succeeded_iff o (env.tried candidates) 0 ⟨env.provReq,none⟩

theorem goesOn_of_failsRetryably {env : Env} {o : Outcomes} {i : ℕ} {n : String}
    (hfail : env.failsRetryably o i n) (hstop : env.stops n = false)
    (hstream : env.unsupportedStream o i n = false) : env.goesOn o i n := by
  refine ⟨hstop,?_⟩
  intro m hsend hallow
  have husable : env.usableAt o i n = some m := usableAt_eq_some.mpr ⟨hsend,hallow⟩
  obtain ⟨err,hreply,hretry⟩ := hfail m husable
  have hsupported : (env.stream && err.streamingNotSupported) = false := by
    simpa [unsupportedStream,husable,hreply] using hstream
  simp [hreply,retries,hsupported,hretry]

theorem getElem?_tried {env : Env} {candidates : List String} {i : ℕ}
    (henabled : env.fallback.enabled = true) (hi : i < env.attemptLimit candidates) :
    (env.tried candidates)[i]? = candidates[i]? := by
  unfold attemptLimit at hi
  unfold tried maxAttempts
  rw [List.getElem?_take]
  by_cases hpos : 0 < env.fallback.maxAttempts
  · simp only [hpos,if_true] at hi
    simp only [henabled,hpos,decide_true,Bool.and_true,if_true]
    split_ifs
    · rfl
    · rfl
    · rename_i hmax hlen
      have hge : candidates.length ≤ i := by omega
      rw [List.getElem?_eq_none hge]
  · simp only [hpos,if_false] at hi
    simp [henabled,hpos,hi]

theorem promising_succeeds {env : Env} {o : Outcomes} {candidates : List String} {i : ℕ}
    (henabled : env.fallback.enabled = true) (h : env.Promising o candidates i)
    (hi : i < env.attemptLimit candidates)
    (hon : ∀ j n, j < i → candidates[j]? = some n →
      env.stops n = false ∧ env.unsupportedStream o j n = false) :
    (env.run o candidates).2.succeeded = true := by
  obtain ⟨n,hn,hsucc⟩ := h.succeeds
  refine (env.run_succeeded_iff o candidates).mpr ⟨i,n,?_,hsucc,?_⟩
  · rw [getElem?_tried henabled hi,hn]
  · intro j a hj ha
    rw [getElem?_tried henabled (by omega)] at ha
    exact goesOn_of_failsRetryably (h.fail j a hj ha) (hon j a hj ha).1 (hon j a hj ha).2

end Env

namespace Gateway

variable (g : Gateway) (pr : ParsedRequest)

def cacheReadable : Prop :=
  ∀ find, g.semanticCache = some find → ∀ text model group entry,
    find text model group = some entry → entry.response.isSome = true

def FallbackComplete : Prop :=
  ∀ p i, g.plan pr = some p → g.cacheReadable → g.tenant.routing.fallback.enabled = true →
    (g.env pr p.1).Promising g.outcomes p.2 i → (g.run pr).ending.succeeded = true

variable {g pr}

theorem attemptStage_succeeded (virtualAlias : Option String) (routeGroup : String)
    (req : ChatRequest) (candidates : List String) :
    (g.attemptStage pr virtualAlias routeGroup req candidates).ending.succeeded =
      ((g.env pr req).run g.outcomes candidates).2.succeeded := by
  unfold attemptStage
  dsimp only
  split
  · rename_i hcompleted _
    simp [hcompleted,Ending.succeeded,Response.succeeded]
  · rfl

theorem cacheStage_succeeded (hcache : g.cacheReadable) (virtualAlias : Option String)
    (routeGroup : String) (req : ChatRequest) (candidates : List String)
    (h : ((g.env pr req).run g.outcomes candidates).2.succeeded = true) :
    (g.cacheStage pr virtualAlias routeGroup req candidates).ending.succeeded = true := by
  have hattempt := @attemptStage_succeeded g pr virtualAlias routeGroup req candidates
  rw [h] at hattempt
  unfold cacheStage
  cases hs : g.semanticCache with
  | none => exact hattempt
  | some find =>
    dsimp only
    cases hf : find (" ".intercalate pr.messageTexts) (candidates.head?.getD "") routeGroup with
    | none => exact hattempt
    | some entry =>
      obtain ⟨response,hr⟩ := Option.isSome_iff_exists.mp (hcache find hs _ _ _ entry hf)
      simp [hr,Ending.succeeded]

theorem fallback_reaches_success {p : ChatRequest × List String} {i : ℕ}
    (hplan : g.plan pr = some p) (hcache : g.cacheReadable)
    (henabled : g.tenant.routing.fallback.enabled = true)
    (hpromising : (g.env pr p.1).Promising g.outcomes p.2 i)
    (hi : i < (g.env pr p.1).attemptLimit p.2)
    (hon : ∀ j n, j < i → p.2[j]? = some n →
      (g.env pr p.1).stops n = false ∧ (g.env pr p.1).unsupportedStream g.outcomes j n = false) :
    (g.run pr).ending.succeeded = true := by
  rcases ending_run g pr with ⟨p',hp',hending⟩ | ⟨hnone,-⟩
  · have hp : p' = p := Option.some.inj (hp'.symm.trans hplan)
    subst hp
    rw [hending]
    exact cacheStage_succeeded hcache _ _ _ _ (Env.promising_succeeds henabled hpromising hi hon)
  · rw [hplan] at hnone
    cases hnone

end Gateway

theorem exists_plan {g : Gateway} {pr : ParsedRequest} {candidates : List String}
    (h : (g.plan pr).map Prod.snd = some candidates) : ∃ req, g.plan pr = some (req,candidates) := by
  obtain ⟨⟨req,cs⟩,hplan,hcs⟩ := Option.map_eq_some_iff.mp h
  exact ⟨req,by rw [hplan,← hcs]⟩

theorem promising_second {env : Env} {o : Outcomes} {a b : String}
    (hsucc : env.succeedsAt o 1 b = true) (hfail : env.failsRetryably o 0 a)
    (hwithin : env.usableBefore o [a,b] 1 < env.attemptLimit [a,b]) : env.Promising o [a,b] 1 where
  succeeds := ⟨b,rfl,hsucc⟩
  fail := by
    intro j n hj hn
    obtain rfl : j = 0 := by omega
    simp only [List.getElem?_cons_zero,Option.some.injEq] at hn
    exact hn ▸ hfail
  within := hwithin

theorem second_candidate_answers :
    (fallingBack.run (asking "hello")).ending.succeeded = true := by
  have hchoice : (fallingBack.plan (asking "hello")).map Prod.snd = some ["opus","mini"] := by
    decide
  obtain ⟨req,hplan⟩ := exists_plan hchoice
  refine Gateway.fallback_reaches_success hplan nofun rfl
    (promising_second rfl ?_ (of_decide_eq_true rfl)) (of_decide_eq_true rfl) ?_
  · intro m hm
    exact ⟨_,rfl,by decide⟩
  · intro j n hj hn
    obtain rfl : j = 0 := by omega
    simp only [List.getElem?_cons_zero,Option.some.injEq] at hn
    subst hn
    exact ⟨rfl,rfl⟩

def disabledFirst : Gateway :=
  { fallingBack with
    globalConfig :=
      ⟨[{ name := "opus", provider := "anthropic", enabled := some false },
        { name := "mini", provider := "openai" }],none⟩
    outcomes := ⟨fun _ => .admitted false,fun _ => none⟩ }

def openFirst : Gateway :=
  { plainGateway with
    tenant := { ignoresGroup with routing :=
      { strategy := "round_robin", fallback := { enabled := true, maxAttempts := 1 } } }
    outcomes := ⟨fun i => if i = 0 then .denied else .admitted false,fun _ => none⟩ }

theorem unusable_candidates_end_the_run :
    ¬ disabledFirst.FallbackComplete (asking "hello") ∧
      ¬ openFirst.FallbackComplete (asking "hello") := by
  constructor
  · intro h
    have hchoice : (disabledFirst.plan (asking "hello")).map Prod.snd = some ["opus","mini"] := by
      decide
    obtain ⟨req,hplan⟩ := exists_plan hchoice
    have hsucc := h _ 1 hplan nofun rfl (promising_second rfl nofun (of_decide_eq_true rfl))
    revert hsucc
    decide
  · intro h
    have hchoice : (openFirst.plan (asking "hello")).map Prod.snd = some ["opus","mini"] := by
      decide
    obtain ⟨req,hplan⟩ := exists_plan hchoice
    have hsucc := h _ 1 hplan nofun rfl (promising_second rfl nofun (of_decide_eq_true rfl))
    revert hsucc
    decide

end PrismGateway.Orchestrator
