import PrismGateway.Orchestrator.Effects

namespace PrismGateway.Orchestrator

open Lib Config Router Providers
open Api (ParsedRequest)
open Prog

namespace Effect

def isSend : Effect → Bool
  | .event (.call (.send _ _)) => true
  | _ => false

-- what an attempt that lets the loop go on leaves in the books
def bookkeeping : Effect → Bool
  | .event (.call (.report _ _ _)) => true
  | .updateModelStats _ _ => true
  | .submitStat _ => true
  | _ => false

-- what a run leaves before its attempts
def early : Effect → Bool
  | .event (.call _) => false
  | .event _ => true
  | .recordLatency _ _ => true
  | _ => false

def event? : Effect → Option Event
  | .event e => some e
  | _ => none

end Effect

def traced (es : List Effect) : List Event := es.filterMap Effect.event?

@[simp] theorem traced_nil : traced [] = [] := rfl

@[simp] theorem traced_event (e : Event) (es : List Effect) :
    traced (.event e :: es) = e :: traced es := rfl

@[simp] theorem traced_called (a : Action) (es : List Effect) :
    traced (called a :: es) = .call a :: traced es := rfl

@[simp] theorem traced_append (es es' : List Effect) :
    traced (es ++ es') = traced es ++ traced es' := by
  simp [traced]

theorem traced_untraced {es : List Effect} (h : ∀ e ∈ es, e.event? = none) : traced es = [] := by
  simpa [traced] using h

@[simp] theorem traced_answer (a : Answer) (es : List Effect) :
    traced (.answer a :: es) = traced es := rfl

@[simp] theorem traced_replied (err : Option GoError) (es : List Effect) :
    traced (.replied err :: es) = traced es := rfl

@[simp] theorem traced_saveUsage (row : ChatUsage) (es : List Effect) :
    traced (.saveUsage row :: es) = traced es := rfl

@[simp] theorem traced_recordLatency (model : String) (latencyMs : ℕ) (es : List Effect) :
    traced (.recordLatency model latencyMs :: es) = traced es := rfl

@[simp] theorem traced_updateModelStats (model : String) (success : Bool) (es : List Effect) :
    traced (.updateModelStats model success :: es) = traced es := rfl

@[simp] theorem traced_submitStat (stat : ModelStat) (es : List Effect) :
    traced (.submitStat stat :: es) = traced es := rfl

namespace Gateway

section Attempts

variable {g : Gateway} {env : Env} {i : ℕ} {n : String} {m : ModelConfig}
variable (s : Setting) (virtualAlias : Option String) (routeGroup : String) (st : LoopState)

theorem tryCandidate_unsendable (h : env.sendable n = none) :
    (∃ st', g.tryCandidate s env virtualAlias routeGroup i n st = pure st' ∧
        env.stops n = false) ∨
      (∃ status message kind,
        g.tryCandidate s env virtualAlias routeGroup i n st = fail status message kind ∧
        env.stops n = true) := by
  unfold Env.sendable Env.usable at h
  unfold tryCandidate Env.stops Env.usable
  cases hm : env.globalConfig.modelByName n with
  | none => exact .inl ⟨st,rfl,rfl⟩
  | some m =>
    rw [hm] at h
    by_cases he : m.isEnabled = true
    · by_cases hp : env.hasProvider m = true
      · have hb : env.bedrockWithoutID m = true := by
          simpa [Option.filter,he,hp] using h
        exact .inr ⟨400,"provider_model_id is required for models using the aws_bedrock provider",
          "invalid_request_error",by simp [he,hp,hb],by simp [Option.filter,he,hp,hb]⟩
      · exact .inl ⟨st,by simp [he,hp],by simp [Option.filter,he,hp]⟩
    · exact .inr ⟨403,"model is disabled","model_disabled",by simp [he],by simp [he]⟩

theorem tryCandidate_sendable (h : env.sendable n = some m) :
    g.tryCandidate s env virtualAlias routeGroup i n st = (do
      emit (called (.allow (env.cbKey m) (g.outcomes.allow i)))
      if !(g.outcomes.allow i).allowed then pure { st with provReq := env.prepare m st.provReq }
      else do
        emit (called (.send n (env.prepare m st.provReq)))
        emit (.replied (env.replyTo g.outcomes i m))
        g.callCandidate s env virtualAlias routeGroup i m
          { st with provReq := env.prepare m st.provReq }) := by
  obtain ⟨hu,hb⟩ := Env.sendable_eq_some.mp h
  obtain ⟨hm,he,hp⟩ := Env.usable_eq_some.mp hu
  simp [tryCandidate,hm,he,hp,hb]

theorem callCandidate_retried {err : GoError} (hreply : env.replyTo g.outcomes i m = some err)
    (h : env.retries err = true) :
    ∃ es st', g.callCandidate s env virtualAlias routeGroup i m st = ⟨es,.ok st'⟩ ∧
      ∀ e ∈ es, e.bookkeeping = true := by
  unfold Env.retries at h
  simp only [Bool.and_eq_true,Bool.not_eq_true'] at h
  obtain ⟨hsupported,hretry⟩ := h
  unfold callCandidate
  rw [hreply]
  cases hs : env.stream with
  | true =>
    rw [hs,Bool.true_and] at hsupported
    simp only [if_true,streamedAttempt,hsupported,hretry,Bool.false_eq_true,if_false]
    refine ⟨_,_,rfl,?_⟩
    split_ifs
    · simp [called,Effect.bookkeeping]
    · simp
  | false =>
    simp only [Bool.false_eq_true,if_false,bufferedAttempt,hretry,if_true,emit_bind]
    exact ⟨_,_,rfl,by simp [called,Effect.bookkeeping]⟩

theorem callCandidate_refused {err : GoError} (hreply : env.replyTo g.outcomes i m = some err)
    (h : env.retries err = false) :
    ∃ es a, g.callCandidate s env virtualAlias routeGroup i m st =
        ⟨es ++ [Effect.answer a],.error { failed := true }⟩ ∧ ∀ e ∈ es, e.bookkeeping = true := by
  unfold callCandidate
  rw [hreply]
  cases hs : env.stream with
  | true =>
    cases hsupported : err.streamingNotSupported with
    | true =>
      simp only [if_true,streamedAttempt,hsupported]
      exact ⟨[],_,rfl,by simp⟩
    | false =>
      have hretry : isRetryable (classify err) = false := by simpa [Env.retries,hsupported] using h
      simp only [if_true,streamedAttempt,hsupported,hretry,Bool.false_eq_true,if_false]
      refine ⟨_,_,rfl,?_⟩
      split_ifs
      · simp [called,Effect.bookkeeping]
      · simp
  | false =>
    have hretry : isRetryable (classify err) = false := by simpa [Env.retries,hs] using h
    simp only [Bool.false_eq_true,if_false,bufferedAttempt,hretry]
    exact ⟨[_,_,_],_,rfl,by simp [called,Effect.bookkeeping]⟩

theorem callCandidate_streamed (hs : env.stream = true)
    (hreply : env.replyTo g.outcomes i m = none) :
    g.callCandidate s env virtualAlias routeGroup i m st =
      ⟨[.answer (.stream (s.stream i)),s.logStreamRequest i m st.provReq] ++
          (if (s.stream i).completed then s.releases else []) ++
          [called (.report (env.cbKey m) .success (g.outcomes.allow i).isProbe)],.error {}⟩ := by
  unfold callCandidate
  rw [hreply,hs]
  simp only [if_true,streamedAttempt,Setting.writeSSEStream,emit_bind,emits,mk_bind,ret,List.cons_append,
    List.nil_append]

theorem callCandidate_answered (hs : env.stream = false)
    (hreply : env.replyTo g.outcomes i m = none) :
    ∃ stats row response, g.callCandidate s env virtualAlias routeGroup i m st =
        ⟨stats ++ Effect.saveUsage row :: s.releases,.error { response := some response }⟩ ∧
      ∀ e ∈ stats, e.bookkeeping = true ∨ ∃ latencyMs, e = .recordLatency m.name latencyMs := by
  unfold callCandidate
  rw [hreply,hs]
  simp only [Bool.false_eq_true,if_false,bufferedAttempt]
  simp only [emit_bind,emits_bind,ret,List.append_nil]
  refine ⟨[_,_,_,_],_,_,rfl,?_⟩
  simp [called,Effect.bookkeeping]

inductive Passing (g : Gateway) (env : Env) (i : ℕ) (n : String) : List Effect → Prop where
  | skipped (h : env.sendable n = none) : Passing g env i n []
  | denied (m : ModelConfig) (h : env.sendable n = some m)
      (ha : (g.outcomes.allow i).allowed = false) :
      Passing g env i n [called (.allow (env.cbKey m) (g.outcomes.allow i))]
  | retried (m : ModelConfig) (req : ChatRequest) (err : GoError) (es : List Effect)
      (h : env.sendable n = some m) (ha : (g.outcomes.allow i).allowed = true)
      (hr : env.retries err = true) (hes : ∀ e ∈ es, e.bookkeeping = true) :
      Passing g env i n (called (.allow (env.cbKey m) (g.outcomes.allow i)) ::
        called (.send n req) :: .replied (some err) :: es)

inductive Closing (g : Gateway) (s : Setting) (env : Env) (i : ℕ) (n : String) :
    List Effect → Output → Prop where
  | stopped (a : Answer) (h : env.sendable n = none) :
      Closing g s env i n [.answer a] { failed := true }
  | refused (m : ModelConfig) (req : ChatRequest) (err : GoError) (es : List Effect) (a : Answer)
      (h : env.sendable n = some m) (ha : (g.outcomes.allow i).allowed = true)
      (hreply : env.replyTo g.outcomes i m = some err) (hr : env.retries err = false)
      (hes : ∀ e ∈ es, e.bookkeeping = true) :
      Closing g s env i n (called (.allow (env.cbKey m) (g.outcomes.allow i)) ::
        called (.send n req) :: .replied (some err) :: (es ++ [Effect.answer a])) { failed := true }
  | streamed (m : ModelConfig) (req : ChatRequest) (row : ChatUsage) (h : env.sendable n = some m)
      (ha : (g.outcomes.allow i).allowed = true) (hs : env.stream = true)
      (hr : env.succeedsAt g.outcomes i n = true) :
      Closing g s env i n (called (.allow (env.cbKey m) (g.outcomes.allow i)) ::
        called (.send n req) :: .replied none :: ([Effect.answer (.stream (s.stream i)),Effect.saveUsage row] ++
          (if (s.stream i).completed then s.releases else []) ++
          [called (.report (env.cbKey m) .success (g.outcomes.allow i).isProbe)])) {}
  | answered (m : ModelConfig) (req : ChatRequest) (stats : List Effect) (row : ChatUsage)
      (response : CanonicalResponse) (h : env.sendable n = some m)
      (ha : (g.outcomes.allow i).allowed = true) (hs : env.stream = false)
      (hr : env.succeedsAt g.outcomes i n = true)
      (hstats : ∀ e ∈ stats, e.bookkeeping = true ∨ ∃ latencyMs, e = .recordLatency m.name latencyMs) :
      Closing g s env i n (called (.allow (env.cbKey m) (g.outcomes.allow i)) ::
        called (.send n req) :: .replied none :: (stats ++ Effect.saveUsage row :: s.releases))
        { response := some response }

theorem tryCandidate_cases (g : Gateway) (s : Setting) (env : Env) (virtualAlias : Option String)
    (routeGroup : String) (i : ℕ) (n : String) (st : LoopState) :
    (∃ es st', g.tryCandidate s env virtualAlias routeGroup i n st = ⟨es,.ok st'⟩ ∧
        Passing g env i n es ∧ env.goesOn g.outcomes i n) ∨
      (∃ es out, g.tryCandidate s env virtualAlias routeGroup i n st = ⟨es,.error out⟩ ∧
        Closing g s env i n es out ∧ ¬ env.goesOn g.outcomes i n) := by
  cases hn : env.sendable n with
  | none =>
    rcases @tryCandidate_unsendable g env i n s virtualAlias routeGroup st hn with
      ⟨st',hp,hstop⟩ | ⟨status,message,kind,hp,hstop⟩
    · refine .inl ⟨[],st',hp,.skipped hn,hstop,?_⟩
      intro m hm
      rw [hn] at hm
      cases hm
    · refine .inr ⟨_,_,hp,.stopped _ hn,?_⟩
      rintro ⟨hon,-⟩
      rw [hstop] at hon
      cases hon
  | some m =>
    rw [tryCandidate_sendable s virtualAlias routeGroup st hn]
    cases ha : (g.outcomes.allow i).allowed with
    | false =>
      refine .inl ⟨_,_,rfl,.denied m hn ha,Env.stops_of_sendable hn,?_⟩
      intro m' _ hallow
      rw [ha] at hallow
      cases hallow
    | true =>
      have hon : env.goesOn g.outcomes i n ↔
          (env.replyTo g.outcomes i m).any env.retries = true := by
        simp [Env.goesOn,Env.stops_of_sendable hn,hn,ha]
      rw [hon]
      have husable : env.usableAt g.outcomes i n = some m := Env.usableAt_eq_some.mpr ⟨hn,ha⟩
      set st' : LoopState := { st with provReq := env.prepare m st.provReq }
      cases hreply : env.replyTo g.outcomes i m with
      | none =>
        have hsucc : env.succeedsAt g.outcomes i n = true := by simp [Env.succeedsAt,husable,hreply]
        cases hs : env.stream with
        | true =>
          right
          have hcall := callCandidate_streamed s virtualAlias routeGroup st' hs hreply
          simp only [Bool.not_true,Bool.false_eq_true,if_false]
          rw [hcall]
          exact ⟨_,_,rfl,.streamed m _ _ hn ha hs hsucc,by simp⟩
        | false =>
          right
          obtain ⟨stats,row,response,hcall,hstats⟩ := callCandidate_answered s virtualAlias
            routeGroup st' hs hreply
          simp only [Bool.not_true,Bool.false_eq_true,if_false]
          rw [hcall]
          exact ⟨_,_,rfl,.answered m _ stats row response hn ha hs hsucc hstats,by simp⟩
      | some err =>
        cases hr : env.retries err with
        | true =>
          left
          obtain ⟨es,st'',hcall,hes⟩ := callCandidate_retried s virtualAlias routeGroup st' hreply hr
          simp only [Bool.not_true,Bool.false_eq_true,if_false]
          rw [hcall]
          exact ⟨_,_,rfl,.retried m _ err es hn ha hr hes,by simp [hr]⟩
        | false =>
          right
          obtain ⟨es,a,hcall,hes⟩ := callCandidate_refused s virtualAlias routeGroup st' hreply hr
          simp only [Bool.not_true,Bool.false_eq_true,if_false]
          rw [hcall]
          exact ⟨_,_,rfl,.refused m _ err es a hn ha hreply hr hes,by simp [hr]⟩

inductive Passed (g : Gateway) (env : Env) : ℕ → List String → List Effect → Prop where
  | nil (i : ℕ) : Passed g env i [] []
  | cons {i : ℕ} {n : String} {l : List String} {es es' : List Effect} (h : Passing g env i n es)
      (hl : Passed g env (i + 1) l es') : Passed g env i (n :: l) (es ++ es')

theorem tryCandidates_cases (l : List String) (i : ℕ) (st : LoopState) :
    (∃ es st', g.tryCandidates s env virtualAlias routeGroup i st l = ⟨es,.ok st'⟩ ∧
        Passed g env i l es ∧ ∀ k n, l[k]? = some n → env.goesOn g.outcomes (i + k) n) ∨
      ∃ k n es es' out, g.tryCandidates s env virtualAlias routeGroup i st l =
          ⟨es ++ es',.error out⟩ ∧ Passed g env i (l.take k) es ∧
        Closing g s env (i + k) n es' out ∧ l[k]? = some n ∧
        Entered (fun j => env.goesOn g.outcomes (i + j)) l k ∧
        ¬ env.goesOn g.outcomes (i + k) n := by
  induction l generalizing i st with
  | nil => exact .inl ⟨[],st,rfl,.nil i,by simp⟩
  | cons a l ih =>
    unfold tryCandidates
    rcases tryCandidate_cases g s env virtualAlias routeGroup i a st with
      ⟨es,st',htry,hpass,hon⟩ | ⟨es,out,htry,hclose,hoff⟩
    · rw [htry,mk_bind]
      have hshift : ∀ k, i + 1 + k = i + (k + 1) := fun k => by omega
      rcases ih (i + 1) st' with ⟨es',st'',hrest,hpassed,hall⟩ |
        ⟨k,n,es',es'',out,hrest,hpassed,hclose,hk,hentered,hoff⟩
      · left
        rw [hrest]
        refine ⟨_,st'',rfl,.cons hpass hpassed,?_⟩
        intro k n hk
        cases k with
        | zero =>
          simp only [List.getElem?_cons_zero,Option.some.injEq] at hk
          exact hk ▸ hon
        | succ k =>
          rw [← hshift]
          exact hall k n (by simpa using hk)
      · right
        rw [hrest]
        rw [hshift] at hclose hoff
        refine ⟨k + 1,n,es ++ es',es'',out,by simp,.cons hpass hpassed,hclose,by simpa using hk,?_,hoff⟩
        refine entered_succ_iff.mpr ⟨hon,?_⟩
        simpa only [hshift] using hentered
    · right
      rw [htry,bind_error rfl]
      exact ⟨0,a,[],es,out,rfl,.nil i,hclose,rfl,entered_zero _ _,hoff⟩

theorem attemptSteps_cases (pr : ParsedRequest) (req : ChatRequest) (candidates : List String) :
    (∃ es a, g.attemptSteps s pr virtualAlias routeGroup req candidates =
        ⟨es ++ [Effect.answer a],.error { failed := true }⟩ ∧
        Passed g (g.env pr req) 0 ((g.env pr req).tried candidates) es ∧
        ∀ k n, ((g.env pr req).tried candidates)[k]? = some n →
          (g.env pr req).goesOn g.outcomes k n) ∨
      ∃ k n es es' out, g.attemptSteps s pr virtualAlias routeGroup req candidates =
          ⟨es ++ es',.error out⟩ ∧
        Passed g (g.env pr req) 0 (((g.env pr req).tried candidates).take k) es ∧
        Closing g s (g.env pr req) k n es' out ∧ ((g.env pr req).tried candidates)[k]? = some n ∧
        Entered ((g.env pr req).goesOn g.outcomes) ((g.env pr req).tried candidates) k ∧
        ¬ (g.env pr req).goesOn g.outcomes k n := by
  unfold attemptSteps
  rcases tryCandidates_cases s virtualAlias routeGroup ((g.env pr req).tried candidates) 0
      ⟨req,none⟩ with ⟨es,st',hrun,hpassed,hall⟩ |
    ⟨k,n,es,es',out,hrun,hpassed,hclose,hk,hentered,hoff⟩
  · left
    dsimp only
    rw [hrun,mk_bind]
    simp only [Nat.zero_add] at hall
    cases st'.lastErr with
    | some err => exact ⟨es,_,rfl,hpassed,hall⟩
    | none => exact ⟨es,_,rfl,hpassed,hall⟩
  · right
    dsimp only
    rw [hrun,bind_error rfl]
    simp only [Nat.zero_add] at hclose hentered hoff
    exact ⟨k,n,es,es',out,rfl,hpassed,hclose,hk,hentered,hoff⟩

def Tells (p : Step LoopState) (a : Attempt) : Prop :=
  traced p.effects = a.actions.map .call ∧
    (∀ st', p.result = .ok st' → a.exit = none ∧ a.state = st') ∧
    ∀ out, p.result = .error out → a.exit ≠ none

theorem traced_releases : traced s.releases = [] :=
  traced_untraced (by simp [Setting.releases,Effect.event?])

theorem streamedAttempt_trace (key : String) (isProbe : Bool) (reply : Option GoError) :
    Tells (streamedAttempt s i m key isProbe st reply) (streamCall key isProbe st reply) := by
  cases reply with
  | none =>
    simp only [streamedAttempt,streamCall,Setting.writeSSEStream,Setting.logStreamRequest,emit_bind,emits,
      mk_bind,ret]
    refine ⟨?_,by simp,by simp⟩
    split_ifs
    · simp [traced_releases]
    · simp
  | some err =>
    simp only [Tells,streamedAttempt,streamCall,failed]
    split_ifs
    · simp [fail,emit_bind]
    · simp [emits_bind]
    · simp [emits_bind,giveUp,emit_bind]
    · simp [emits_bind]
    · simp [emits_bind,giveUp,emit_bind]

theorem bufferedAttempt_trace (key : String) (isProbe : Bool) (reply : Option GoError) :
    Tells (g.bufferedAttempt s virtualAlias routeGroup i m key isProbe st reply)
      (bufferedCall key isProbe st reply) := by
  cases reply with
  | none => simp [Tells,bufferedAttempt,bufferedCall,emit_bind,emits_bind,traced_releases]
  | some err =>
    simp only [Tells,bufferedAttempt,bufferedCall,failed]
    split_ifs
    · simp [emit_bind]
    · simp [emit_bind,giveUp]
    · simp [emit_bind]
    · simp [emit_bind,giveUp]

theorem callCandidate_trace :
    Tells (g.callCandidate s env virtualAlias routeGroup i m st) (env.call g.outcomes i m st) := by
  unfold callCandidate Env.call Env.replyTo
  cases env.stream with
  | true => exact streamedAttempt_trace s st _ _ _
  | false => exact bufferedAttempt_trace s virtualAlias routeGroup st _ _ _

theorem tryCandidate_trace :
    Tells (g.tryCandidate s env virtualAlias routeGroup i n st)
      (env.attempt g.outcomes i n st) := by
  unfold tryCandidate Env.attempt
  cases env.globalConfig.modelByName n with
  | none => simp [Tells]
  | some m =>
    dsimp only
    split_ifs
    · simp [Tells,fail,emit_bind]
    · simp [Tells]
    · simp [Tells,fail,emit_bind]
    · simp [Tells,emit_bind]
    · obtain ⟨htrace,hok,herror⟩ := @callCandidate_trace g env i m s virtualAlias routeGroup
        { st with provReq := env.prepare m st.provReq }
      exact ⟨by simp [emit_bind,htrace],hok,herror⟩

theorem tryCandidates_trace (l : List String) (i : ℕ) (st : LoopState) :
    let p := g.tryCandidates s env virtualAlias routeGroup i st l
    traced p.effects = (env.attempts g.outcomes i st l).1.map .call := by
  induction l generalizing i st with
  | nil => rfl
  | cons a l ih =>
    obtain ⟨htrace,hok,herror⟩ := @tryCandidate_trace g env i a s virtualAlias routeGroup st
    unfold tryCandidates Env.attempts
    dsimp only
    cases hp : (g.tryCandidate s env virtualAlias routeGroup i a st).result with
    | ok st' =>
      obtain ⟨hexit,hstate⟩ := hok st' hp
      rw [bind_ok hp,hexit]
      simp [htrace,hstate,ih]
    | error out =>
      obtain ⟨response,hexit⟩ := Option.ne_none_iff_exists'.mp (herror out hp)
      rw [bind_error hp,hexit]
      exact htrace

theorem attemptSteps_trace (pr : ParsedRequest) (req : ChatRequest) (candidates : List String) :
    traced (g.attemptSteps s pr virtualAlias routeGroup req candidates).effects =
      (g.attemptStage pr virtualAlias routeGroup req candidates).events := by
  have hstage : (g.attemptStage pr virtualAlias routeGroup req candidates).events =
      ((g.env pr req).attempts g.outcomes 0 ⟨req,none⟩ ((g.env pr req).tried candidates)).1.map
        .call := by
    unfold attemptStage
    dsimp only
    split
    · rfl
    · rfl
  have htrace := @tryCandidates_trace g (g.env pr req) s virtualAlias routeGroup
    ((g.env pr req).tried candidates) 0 ⟨req,none⟩
  dsimp only at htrace
  rw [hstage,← htrace]
  unfold attemptSteps
  dsimp only
  cases hp : (g.tryCandidates s (g.env pr req) virtualAlias routeGroup 0 ⟨req,none⟩
      ((g.env pr req).tried candidates)).result with
  | ok st =>
    rw [bind_ok hp]
    cases st.lastErr with
    | none => simp [fail,emit_bind]
    | some err => simp [giveUp,emit_bind]
  | error out => rw [bind_error hp]

end Attempts

section Stages

variable {g : Gateway} {pr : ParsedRequest}
variable (s : Setting) (virtualAlias : Option String) (routeGroup : String)

theorem cacheSteps_trace (req : ChatRequest) (candidates : List String) :
    traced (g.cacheSteps s pr virtualAlias routeGroup req candidates).effects =
      (g.cacheStage pr virtualAlias routeGroup req candidates).events := by
  unfold cacheSteps cacheStage
  cases g.semanticCache with
  | none => exact attemptSteps_trace s virtualAlias routeGroup pr req candidates
  | some find =>
    dsimp only
    cases find (" ".intercalate pr.messageTexts) (candidates.head?.getD "") routeGroup with
    | none => simp [emit_bind,attemptSteps_trace]
    | some entry =>
      dsimp only
      cases entry.response with
      | none => simp [emit_bind]
      | some response => simp [emit_bind]

theorem budgetSteps_trace (req : ChatRequest) (candidates : List String) :
    traced (g.budgetSteps s pr virtualAlias routeGroup req candidates).effects =
      (g.budgetStage pr virtualAlias routeGroup req candidates).events := by
  have hreserve : traced (s.reservation.toList.map .reserve) = [] :=
    traced_untraced (by simp [Effect.event?])
  unfold budgetSteps budgetStage
  cases g.budget pr.metadata with
  | proceed => simp [emits_bind,hreserve,cacheSteps_trace]
  | degrade group => simp [emits_bind,hreserve,cacheSteps_trace]
  | blocked status message => simp [emits_bind,hreserve,fail,emit_bind]

theorem hookSteps_cases (hooks : List Hook) (req : ChatRequest) (candidates : List String) :
    (∃ es p, g.hookSteps hooks req candidates = ⟨es,.ok p⟩ ∧ (∀ e ∈ es, e.early = true) ∧
        traced es = (g.preRequest hooks req candidates).1 ∧
        (g.preRequest hooks req candidates).2 = .ok p) ∨
      ∃ es a ending, g.hookSteps hooks req candidates =
          ⟨es ++ [Effect.answer a],.error { failed := true }⟩ ∧ (∀ e ∈ es, e.early = true) ∧
        traced es = (g.preRequest hooks req candidates).1 ∧
        (g.preRequest hooks req candidates).2 = .error ending := by
  induction hooks generalizing req candidates with
  | nil => exact .inl ⟨[],_,rfl,by simp,rfl,rfl⟩
  | cons hook rest ih =>
    have hnext : ∀ (req' : ChatRequest) (candidates' : List String),
        (∃ es p, (emit (.event (.hook hook.name req)) >>= fun _ => g.hookSteps rest req' candidates') =
            ⟨es,.ok p⟩ ∧ (∀ e ∈ es, e.early = true) ∧
            traced es = .hook hook.name req :: (g.preRequest rest req' candidates').1 ∧
            (g.preRequest rest req' candidates').2 = .ok p) ∨
          ∃ es a ending, (emit (.event (.hook hook.name req)) >>= fun _ =>
              g.hookSteps rest req' candidates') = ⟨es ++ [Effect.answer a],.error { failed := true }⟩ ∧
            (∀ e ∈ es, e.early = true) ∧
            traced es = .hook hook.name req :: (g.preRequest rest req' candidates').1 ∧
            (g.preRequest rest req' candidates').2 = .error ending := by
      intro req' candidates'
      rw [emit_bind]
      rcases ih req' candidates' with ⟨es,p,hrun,hearly,htrace,hres⟩ |
        ⟨es,a,ending,hrun,hearly,htrace,hres⟩
      · left
        rw [hrun]
        exact ⟨_,p,rfl,by simpa [Effect.early] using hearly,by simp [htrace],hres⟩
      · right
        rw [hrun]
        exact ⟨_ :: es,a,ending,rfl,by simpa [Effect.early] using hearly,by simp [htrace],hres⟩
    have hstop : ∀ (status : ℕ) (message kind : String),
        (emit (.event (.hook hook.name req)) >>= fun _ =>
          (fail status message kind : Step (ChatRequest × List String))) =
          ⟨[Effect.event (.hook hook.name req)] ++ [Effect.answer (.error status message kind)],
            .error { failed := true }⟩ := fun _ _ _ => rfl
    unfold hookSteps preRequest
    cases hook.preRequest req with
    | error err => exact .inr ⟨_,_,_,hstop _ _ _,by simp [Effect.early],rfl,rfl⟩
    | ok result =>
      dsimp only
      cases result.decision with
      | block => exact .inr ⟨_,_,_,hstop _ _ _,by simp [Effect.early],rfl,rfl⟩
      | redact => exact hnext _ _
      | warn => exact hnext _ _
      | allow => exact hnext _ _
      | allowPII =>
        dsimp only
        cases g.allowPIIModel with
        | none => exact .inr ⟨_,_,_,hstop _ _ _,by simp [Effect.early],rfl,rfl⟩
        | some model =>
          dsimp only
          split_ifs
          · exact .inr ⟨_,_,_,hstop _ _ _,by simp [Effect.early],rfl,rfl⟩
          · exact hnext _ _

theorem selectSteps_error {r : PrecedenceResult} {err : SelectError}
    (h : (g.router.select (g.routed pr r)).1 = .error err) :
    g.selectSteps s pr r =
      ⟨[.event (.select (g.routed pr r)),.answer (.selection err)],.error { failed := true }⟩ := by
  unfold selectSteps
  dsimp only
  rw [h]
  rfl

theorem selectSteps_ok {r : PrecedenceResult} {result : Result}
    (h : (g.router.select (g.routed pr r)).1 = .ok result) :
    g.selectSteps s pr r = (do
      emit (.event (.select (g.routed pr r)))
      emits (s.debugLatencyMs.toList.map (.recordLatency result.selected))
      let p ← g.hookSteps g.hooks (provReq pr) result.candidates
      g.budgetSteps s pr (g.aliasUsed pr) r.routeGroupUsed p.1 p.2) := by
  unfold selectSteps
  dsimp only
  rw [h]

theorem selectSteps_trace (r : PrecedenceResult) :
    traced (g.selectSteps s pr r).effects = (g.selectStage pr r).events := by
  have hdebug : ∀ model, traced (s.debugLatencyMs.toList.map (.recordLatency model)) = [] :=
    fun model => traced_untraced (by simp [Effect.event?])
  cases hs : (g.router.select (g.routed pr r)).1 with
  | error err =>
    rw [selectStage_error hs,selectSteps_error s hs]
    rfl
  | ok result =>
    rw [selectStage_ok hs,selectSteps_ok s hs,emit_bind,emits_bind]
    unfold hookStage
    dsimp only
    rcases hookSteps_cases (g := g) g.hooks (provReq pr) result.candidates with
      ⟨es,⟨req,candidates⟩,hrun,-,htrace,hres⟩ | ⟨es,a,ending,hrun,-,htrace,hres⟩
    · rw [hrun,hres]
      simp [mk_bind,hdebug,htrace,budgetSteps_trace]
    · rw [hrun,hres,bind_error rfl]
      simp [hdebug,htrace]

theorem steps_trace (g : Gateway) (s : Setting) (pr : ParsedRequest) :
    traced (g.steps s pr).effects = (g.run pr).events := by
  unfold steps run
  split_ifs
  · rfl
  · rfl
  · cases validateMetadata pr.metadata with
    | error err => rfl
    | ok _ =>
      dsimp only
      cases resolution g.tenant g.globalConfig (g.routeInput pr) with
      | error err => rfl
      | ok r =>
        have hdefer : traced (s.embeddingUsage.toList.map .saveEmbeddingUsage) = [] :=
          traced_untraced (by simp [Effect.event?])
        simp only [deferring,traced_append,hdefer,List.append_nil]
        unfold toolSteps toolStage
        split_ifs
        · cases g.checkToolRoutes pr.messageTexts with
          | none => simp [emit_bind,selectSteps_trace]
          | some found => simp [emit_bind]
        · exact selectSteps_trace s r

def cacheFound (g : Gateway) (pr : ParsedRequest) (routeGroup : String) (candidates : List String) :
    Option CacheEntry :=
  g.semanticCache.bind (fun find => find (rawText pr) (candidates.head?.getD "") routeGroup)

/-- How a run that is no ML request ends: after its attempts on a plan, with a cached answer in place of
them, or without a plan. -/
inductive Course (g : Gateway) (s : Setting) (pr : ParsedRequest) (virtualAlias : Option String)
    (routeGroup : String) :
    Option (ChatRequest × List String) → List Effect → Except Output Empty → Prop where
  | attempted (p : ChatRequest × List String) (es lookup : List Effect)
      (hes : ∀ e ∈ es, e.early = true) (hlookup : ∀ e ∈ lookup, e.early = true)
      (hmiss : g.cacheFound pr routeGroup p.2 = none) :
      Course g s pr virtualAlias routeGroup (some p)
        (es ++ (s.reservation.toList.map .reserve ++ (lookup ++
          (g.attemptSteps s pr virtualAlias routeGroup p.1 p.2).effects)))
        (g.attemptSteps s pr virtualAlias routeGroup p.1 p.2).result
  | cached (p : ChatRequest × List String) (es lookup : List Effect) (a : Answer)
      (hes : ∀ e ∈ es, e.early = true) (hlookup : ∀ e ∈ lookup, e.early = true)
      (hhit : (g.cacheFound pr routeGroup p.2).isSome = true) :
      Course g s pr virtualAlias routeGroup (some p)
        (es ++ (s.reservation.toList.map Effect.reserve ++ (lookup ++ [Effect.answer a]))) (.error {})
  | refused (es reserves : List Effect) (a : Answer) (failed : Bool) (hes : ∀ e ∈ es, e.early = true)
      (hreserves : reserves = [] ∨ reserves = s.reservation.toList.map .reserve) :
      Course g s pr virtualAlias routeGroup none (es ++ (reserves ++ [Effect.answer a]))
        (.error { failed := failed })

variable {s virtualAlias routeGroup} in
theorem Course.after {o : Option (ChatRequest × List String)} {es : List Effect}
    {result : Except Output Empty} (h : Course g s pr virtualAlias routeGroup o es result)
    {before : List Effect} (hbefore : ∀ e ∈ before, e.early = true) :
    Course g s pr virtualAlias routeGroup o (before ++ es) result := by
  have hboth : ∀ es : List Effect, (∀ e ∈ es, e.early = true) → ∀ e ∈ before ++ es, e.early = true :=
    fun es hes e he => (List.mem_append.mp he).elim (hbefore e) (hes e)
  cases h with
  | attempted p es lookup hes hlookup hmiss =>
    rw [← List.append_assoc]
    exact .attempted p _ lookup (hboth es hes) hlookup hmiss
  | cached p es lookup a hes hlookup hhit =>
    rw [← List.append_assoc]
    exact .cached p _ lookup a (hboth es hes) hlookup hhit
  | refused es reserves a failed hes hreserves =>
    rw [← List.append_assoc]
    exact .refused _ reserves a failed (hboth es hes) hreserves

theorem cacheSteps_course (req : ChatRequest) (candidates : List String) :
    Course g s pr virtualAlias routeGroup (some (req,candidates))
      (s.reservation.toList.map .reserve ++
        (g.cacheSteps s pr virtualAlias routeGroup req candidates).effects)
      (g.cacheSteps s pr virtualAlias routeGroup req candidates).result := by
  have hearly : ∀ text, ∀ e ∈ [Effect.event (.cacheLookup text)], e.early = true := by
    simp [Effect.early]
  unfold cacheSteps
  cases hc : g.semanticCache with
  | none => exact .attempted (req,candidates) [] [] (by simp) (by simp) (by simp [cacheFound,hc])
  | some find =>
    dsimp only
    cases hf : find (" ".intercalate pr.messageTexts) (candidates.head?.getD "") routeGroup with
    | none =>
      exact .attempted (req,candidates) [] [_] (by simp) (hearly _) (by simp [cacheFound,hc,rawText,hf])
    | some entry =>
      dsimp only
      have hhit : (g.cacheFound pr routeGroup candidates).isSome = true := by
        simp [cacheFound,hc,rawText,hf]
      cases entry.response with
      | none => exact .cached (req,candidates) [] [_] _ (by simp) (hearly _) hhit
      | some response => exact .cached (req,candidates) [] [_] _ (by simp) (hearly _) hhit

theorem hookSteps_course (candidates : List String) :
    Course g s pr virtualAlias routeGroup (g.afterHooks pr candidates)
      (g.hookSteps g.hooks (provReq pr) candidates >>= fun p =>
        g.budgetSteps s pr virtualAlias routeGroup p.1 p.2).effects
      (g.hookSteps g.hooks (provReq pr) candidates >>= fun p =>
        g.budgetSteps s pr virtualAlias routeGroup p.1 p.2).result := by
  unfold afterHooks
  rcases hookSteps_cases (g := g) g.hooks (provReq pr) candidates with
    ⟨es,⟨req,candidates'⟩,hrun,hearly,-,hres⟩ | ⟨es,a,ending,hrun,hearly,-,hres⟩
  · rw [hrun,hres,mk_bind]
    unfold budgetSteps
    rw [emits_bind]
    cases g.budget pr.metadata with
    | proceed => exact (cacheSteps_course s virtualAlias routeGroup req candidates').after hearly
    | degrade group => exact (cacheSteps_course s virtualAlias routeGroup req _).after hearly
    | blocked status message => exact .refused es _ _ true hearly (.inr rfl)
  · rw [hrun,hres,bind_error rfl]
    exact .refused es [] a true hearly (.inl rfl)

theorem selectSteps_course (r : PrecedenceResult) :
    Course g s pr (g.aliasUsed pr) r.routeGroupUsed
      (((g.router.select (g.routed pr r)).1.toOption.map (·.candidates)).bind (g.afterHooks pr))
      (g.selectSteps s pr r).effects (g.selectSteps s pr r).result := by
  have hselect : ∀ e ∈ [Effect.event (.select (g.routed pr r))], e.early = true := by
    simp [Effect.early]
  cases hs : (g.router.select (g.routed pr r)).1 with
  | error err =>
    rw [selectSteps_error s hs]
    exact .refused _ [] _ true hselect (.inl rfl)
  | ok result =>
    rw [selectSteps_ok s hs,emit_bind,emits_bind]
    exact (hookSteps_course s (g.aliasUsed pr) r.routeGroupUsed result.candidates).after
      (by simp [Effect.early]) |>.after hselect

theorem steps_refused (hml : ¬(pr.rawBody.isSome ∧ pr.headers "X-Model-Type" = "ml"))
    (h : g.accepted pr = none) :
    ∃ a, g.steps s pr = ⟨[.answer a],.error { failed := true }⟩ := by
  unfold accepted at h
  unfold steps
  rw [if_neg hml]
  by_cases hempty : pr.messages.isEmpty
  · rw [if_pos hempty]
    exact ⟨_,rfl⟩
  · rw [if_neg hempty]
    rw [if_neg (not_or.mpr ⟨hml,hempty⟩)] at h
    cases hv : validateMetadata pr.metadata with
    | error err => exact ⟨_,rfl⟩
    | ok u =>
      rw [hv] at h
      cases hr : resolution g.tenant g.globalConfig (g.routeInput pr) with
      | error err => exact ⟨_,rfl⟩
      | ok r =>
        rw [hr] at h
        cases h

theorem steps_accepted {r : PrecedenceResult} (h : g.accepted pr = some r) :
    g.steps s pr =
      deferring (s.embeddingUsage.toList.map .saveEmbeddingUsage) (g.toolSteps s pr r) := by
  obtain ⟨hml,hempty,hv,hr⟩ := accepted_iff.mp h
  unfold steps
  rw [if_neg hml,if_neg hempty,hv,hr]

theorem toolSteps_course (r : PrecedenceResult) :
    Course g s pr (g.aliasUsed pr) r.routeGroupUsed
      (if (g.toolMatch pr).isSome then none
        else ((g.router.select (g.routed pr r)).1.toOption.map (·.candidates)).bind (g.afterHooks pr))
      (g.toolSteps s pr r).effects (g.toolSteps s pr r).result := by
  have htool : ∀ e ∈ [Effect.event (.toolRoutes pr.messageTexts)], e.early = true := by
    simp [Effect.early]
  unfold toolSteps toolMatch
  by_cases henabled : g.toolRoutingEnabled = true
  · simp only [henabled,if_true]
    cases g.checkToolRoutes pr.messageTexts with
    | none => exact (selectSteps_course s r).after htool
    | some found => exact .refused _ [] _ false htool (.inl rfl)
  · simp only [henabled,if_false,Bool.false_eq_true]
    exact selectSteps_course s r

theorem steps_course (hml : ¬(pr.rawBody.isSome ∧ pr.headers "X-Model-Type" = "ml")) :
    ∃ es deferred, (g.steps s pr).effects = es ++ deferred ∧
      Course g s pr (g.aliasUsed pr) (g.groupUsed pr) (g.plan pr) es (g.steps s pr).result ∧
      ∀ e ∈ deferred, ∃ row, e = .saveEmbeddingUsage row := by
  unfold plan selected groupUsed
  cases ha : g.accepted pr with
  | none =>
    obtain ⟨a,hrun⟩ := steps_refused s hml ha
    rw [hrun]
    exact ⟨_,[],by simp,.refused [] [] a true (by simp) (.inl rfl),by simp⟩
  | some r =>
    have hcourse := @toolSteps_course g pr s r
    rw [steps_accepted s ha]
    refine ⟨(g.toolSteps s pr r).effects,_,rfl,?_,by simp⟩
    by_cases hmatch : (g.toolMatch pr).isSome
    · simpa [hmatch,deferring] using hcourse
    · simpa [hmatch,deferring] using hcourse

end Stages

end Gateway

end PrismGateway.Orchestrator
