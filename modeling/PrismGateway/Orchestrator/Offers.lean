import PrismGateway.Orchestrator.Attempts

namespace PrismGateway.Orchestrator

open Lib Config Router

abbrev Offer := String × ChatRequest

structure World where
  allow : List Offer → Admission
  reply : List Offer → Option GoError

namespace Env

variable (env : Env)

def visits : ChatRequest → List String → List Offer
  | _, [] => []
  | r, n :: rest => match env.usable n with
    | none => visits r rest
    | some m => (n,env.prepare m r) :: visits (env.prepare m r) rest

def offers (r : ChatRequest) (names : List String) : List Offer :=
  env.visits r (names.takeWhile (fun n => !env.stops n))

def replied (n : String) (reply : Option GoError) : Option GoError :=
  (env.usable n).elim reply fun m => if env.stream then streamError m reply else reply

end Env

namespace World

variable (w : World) (env : Env)

def outcomes (candidates : List String) : Outcomes where
  allow := fun i => w.allow (env.visits env.provReq ((env.tried candidates).take (i + 1)))
  reply := fun i => w.reply (env.visits env.provReq ((env.tried candidates).take (i + 1)))

def calls : List Offer → List Offer → List Offer × Bool
  | _, [] => ([],false)
  | earlier, x :: rest =>
    if (w.allow (earlier ++ [x])).allowed then
      match env.replied x.1 (w.reply (earlier ++ [x])) with
      | none => ([x],!env.stream)
      | some err =>
        if env.retries err then
          (x :: (calls (earlier ++ [x]) rest).1,(calls (earlier ++ [x]) rest).2)
        else ([x],false)
    else calls (earlier ++ [x]) rest

def admitting (k : ℕ) : World where
  allow := fun offers => if offers.length = k + 1 then .admitted false else .denied
  reply := fun _ => none

end World

section Sent

variable {env : Env} {w : World} {o : Outcomes} {m : ModelConfig} {n : String} {i : ℕ} {s : LoopState}

def sent (actions : List Action) : List Offer :=
  actions.filterMap fun
    | .send name req => some (name,req)
    | _ => none

theorem sent_append (actions later : List Action) : sent (actions ++ later) = sent actions ++ sent later :=
  List.filterMap_append

theorem sent_call (env : Env) (o : Outcomes) (i : ℕ) (m : ModelConfig) (s : LoopState) :
    sent (env.call o i m s).actions = [] := by
  refine List.filterMap_eq_nil_iff.mpr fun a ha => ?_
  cases a with
  | send name req => exact absurd ha (env.send_not_mem_call o i m s name req)
  | allow key admission => rfl
  | report key outcome isProbe => rfl

theorem failed_completed (err : GoError) (s : LoopState) (actions : List Action) :
    (failed err s actions).exit ≠ some .completed := by
  unfold failed
  split <;> simp

theorem call_completed (env : Env) (o : Outcomes) (i : ℕ) (m : ModelConfig) (s : LoopState) :
    (env.call o i m s).exit = some .completed ↔ env.stream = false ∧ o.reply i = none := by
  unfold Env.call
  cases hs : env.stream with
  | true =>
    simp only [if_true,Bool.true_eq_false,false_and,iff_false]
    cases streamError m (o.reply i) with
    | none => simp [streamCall]
    | some err =>
      simp only [streamCall]
      split_ifs
      · simp
      · exact failed_completed _ _ _
      · exact failed_completed _ _ _
  | false =>
    simp only [Bool.false_eq_true,if_false,true_and]
    cases o.reply i with
    | none => simp [bufferedCall]
    | some err => simp [bufferedCall,failed_completed]

theorem visits_cons (env : Env) (r : ChatRequest) (n : String) (rest : List String) :
    env.visits r (n :: rest) = env.visits r [n] ++ env.visits (env.prepared n r) rest := by
  cases hn : env.usable n with
  | none => simp only [Env.visits,Env.prepared,hn,List.nil_append]
  | some m => simp only [Env.visits,Env.prepared,hn,List.singleton_append]

theorem offers_stops (h : env.stops n = true) (r : ChatRequest) (rest : List String) :
    env.offers r (n :: rest) = [] := by
  rw [Env.offers,List.takeWhile_cons_of_neg (by simp [h])]
  rfl

theorem offers_cons (h : env.stops n = false) (r : ChatRequest) (rest : List String) :
    env.offers r (n :: rest) = env.visits r [n] ++ env.offers (env.prepared n r) rest := by
  rw [Env.offers,List.takeWhile_cons_of_pos (by simp [h]),visits_cons]
  rfl

theorem stops_iff (env : Env) (n : String) :
    env.stops n = true ↔ ∃ m, env.globalConfig.modelByName n = some m ∧
      (m.isEnabled = false ∨ (env.usable n = some m ∧ env.bedrockWithoutID m = true)) := by
  unfold Env.stops Env.usable
  cases env.globalConfig.modelByName n with
  | none => simp
  | some m =>
    cases he : m.isEnabled with
    | false => simp [he]
    | true =>
      cases hp : env.hasProvider m <;> simp [Option.filter,he,hp]

theorem attempt_stops (o : Outcomes) (i : ℕ) (s : LoopState) (h : env.stops n = true) :
    (env.attempt o i n s).actions = [] ∧
      ∃ response, (env.attempt o i n s).exit = some response ∧ response ≠ .completed := by
  obtain ⟨m,hm,hdisabled | ⟨husable,hbedrock⟩⟩ := (stops_iff env n).mp h
  · simp [Env.attempt,hm,hdisabled]
  · obtain ⟨-,henabled,hprovider⟩ := Env.usable_eq_some.mp husable
    simp [Env.attempt,hm,henabled,hprovider,hbedrock]

theorem sendable_of_usable (h : env.stops n = false) (hn : env.usable n = some m) : env.sendable n = some m := by
  refine Env.sendable_eq_some.mpr ⟨hn,?_⟩
  by_contra hbedrock
  have hstops : env.stops n = true := (stops_iff env n).mpr
    ⟨m,(Env.usable_eq_some.mp hn).1,.inr ⟨hn,by simpa using hbedrock⟩⟩
  rw [h] at hstops
  cases hstops

def Hears (w : World) (env : Env) (o : Outcomes) (i : ℕ) (earlier : List Offer) (r : ChatRequest)
    (names : List String) : Prop :=
  ∀ j, o.allow (i + j) = w.allow (earlier ++ env.visits r (names.take (j + 1))) ∧
    o.reply (i + j) = w.reply (earlier ++ env.visits r (names.take (j + 1)))

variable {earlier : List Offer} {r : ChatRequest} {rest : List String}

theorem Hears.head (h : Hears w env o i earlier r (n :: rest)) :
    o.allow i = w.allow (earlier ++ env.visits r [n]) ∧ o.reply i = w.reply (earlier ++ env.visits r [n]) :=
  h 0

theorem Hears.tail (h : Hears w env o i earlier r (n :: rest)) :
    Hears w env o (i + 1) (earlier ++ env.visits r [n]) (env.prepared n r) rest := by
  intro j
  have hnext := h (j + 1)
  rw [List.take_succ_cons,visits_cons,← List.append_assoc] at hnext
  rw [show i + 1 + j = i + (j + 1) by omega]
  exact hnext

theorem replyTo_eq (hn : env.usable n = some m) : env.replyTo o i m = env.replied n (o.reply i) := by
  rw [Env.replied,hn,Option.elim_some,Env.replyTo]

theorem sent_admitted (hsend : env.sendable n = some m) (hadmitted : (o.allow i).allowed = true) (s : LoopState) :
    sent (env.attempt o i n s).actions = [(n,env.prepare m s.provReq)] ∧
      (env.attempt o i n s).state.provReq = env.prepare m s.provReq := by
  rw [Env.attempt_admitted hsend hadmitted]
  exact ⟨congrArg (List.cons (n,env.prepare m s.provReq)) (sent_call env o i m _),env.call_provReq o i m _⟩

theorem exit_admitted (hsend : env.sendable n = some m) (hadmitted : (o.allow i).allowed = true) (s : LoopState) :
    (env.attempt o i n s).exit = none ↔ (env.replyTo o i m).any env.retries = true := by
  rw [Env.attempt_admitted hsend hadmitted]
  exact env.call_exit o i m _

theorem completed_admitted (hsend : env.sendable n = some m) (hadmitted : (o.allow i).allowed = true)
    (s : LoopState) :
    (env.attempt o i n s).exit = some .completed ↔ env.replyTo o i m = none ∧ env.stream = false := by
  have hcompleted := call_completed env o i m { s with provReq := env.prepare m s.provReq }
  rw [Env.attempt_admitted hsend hadmitted]
  refine hcompleted.trans ?_
  cases hstream : env.stream <;> simp [Env.replyTo,hstream]

theorem calls_admitted {x : Offer} {offers : List Offer} (w : World)
    (hadmitted : (w.allow (earlier ++ [x])).allowed = true) :
    ((env.replied x.1 (w.reply (earlier ++ [x]))).any env.retries = true →
      w.calls env earlier (x :: offers) =
        (x :: (w.calls env (earlier ++ [x]) offers).1,(w.calls env (earlier ++ [x]) offers).2)) ∧
    ((env.replied x.1 (w.reply (earlier ++ [x]))).any env.retries = false →
      w.calls env earlier (x :: offers) =
        ([x],(env.replied x.1 (w.reply (earlier ++ [x]))).isNone && !env.stream)) := by
  rw [World.calls,if_pos hadmitted]
  cases env.replied x.1 (w.reply (earlier ++ [x])) with
  | none => simp
  | some err => cases hretries : env.retries err <;> simp [hretries]

theorem attempts_calls (w : World) (names : List String) : ∀ (i : ℕ) (s : LoopState) (earlier : List Offer),
    Hears w env o i earlier s.provReq names →
      sent (env.attempts o i s names).1 = (w.calls env earlier (env.offers s.provReq names)).1 ∧
      ((env.attempts o i s names).2 = .completed ↔
        (w.calls env earlier (env.offers s.provReq names)).2 = true) := by
  induction names with
  | nil =>
    intro i s earlier _
    refine ⟨rfl,?_⟩
    cases hlast : s.lastErr <;> simp [Env.attempts,hlast,Env.offers,Env.visits,World.calls]
  | cons n rest ih =>
    intro i s earlier hears
    cases hstops : env.stops n with
    | true =>
      obtain ⟨hactions,response,hexit,hne⟩ := attempt_stops o i s hstops
      rw [offers_stops hstops]
      simp only [Env.attempts,hexit,hactions]
      exact ⟨rfl,by simp [hne,World.calls]⟩
    | false =>
      have htail := hears.tail
      rw [offers_cons hstops]
      cases hn : env.usable n with
      | none =>
        have hnot : env.sendable n = none := by rw [Env.sendable,hn]; rfl
        obtain ⟨hactions,hstate,hexit⟩ := Env.attempt_unsendable (o := o) (i := i) (s := s) hnot
        have hgoes := hexit.mpr hstops
        have hsame : env.prepared n s.provReq = s.provReq := by rw [Env.prepared,hn]
        have hvisits : env.visits s.provReq [n] = [] := by simp only [Env.visits,hn]
        rw [hvisits,List.append_nil,← hstate hgoes] at htail
        simp only [Env.attempts,hgoes,hactions,List.nil_append,hvisits]
        rw [← hstate hgoes]
        exact ih _ _ _ htail
      | some m =>
        have hsend := sendable_of_usable hstops hn
        have hprepared : env.prepared n s.provReq = env.prepare m s.provReq := Env.prepared_of_sendable hsend _
        have hvisits : env.visits s.provReq [n] = [(n,env.prepare m s.provReq)] := by
          simp only [Env.visits,hn]
        obtain ⟨hallow,hreply⟩ := hears.head
        rw [hvisits] at htail hallow hreply
        rw [hprepared] at htail
        rw [hvisits,hprepared,List.singleton_append]
        cases hadmitted : (o.allow i).allowed with
        | false =>
          rw [World.calls,← hallow,hadmitted,Env.attempts,Env.attempt_denied hsend hadmitted]
          exact ih _ _ _ htail
        | true =>
          obtain ⟨hsent,hstate⟩ := sent_admitted hsend hadmitted s
          obtain ⟨hgoes,hends⟩ := @calls_admitted env earlier (n,env.prepare m s.provReq)
            (env.offers (env.prepare m s.provReq) rest) w (by rw [← hallow]; exact hadmitted)
          rw [← hreply,← replyTo_eq hn] at hgoes hends
          cases hexit : (env.attempt o i n s).exit with
          | none =>
            rw [← hstate] at htail
            obtain ⟨hlater,hend⟩ := ih (i + 1) (env.attempt o i n s).state _ htail
            rw [hstate] at hlater hend
            rw [hgoes ((exit_admitted hsend hadmitted s).mp hexit)]
            simp only [Env.attempts,hexit]
            refine ⟨?_,hend⟩
            rw [sent_append,hsent,hlater]
            rfl
          | some response =>
            have hnot : (env.replyTo o i m).any env.retries = false := by
              have hne := (exit_admitted hsend hadmitted s).not.mp (by rw [hexit]; exact Option.some_ne_none _)
              simpa using hne
            have hcompleted := completed_admitted hsend hadmitted s
            rw [hexit,Option.some.injEq] at hcompleted
            rw [hends hnot]
            simp only [Env.attempts,hexit]
            exact ⟨hsent,hcompleted.trans (by simp)⟩

theorem run_calls (w : World) (env : Env) (candidates : List String) :
    sent (env.run (w.outcomes env candidates) candidates).1 =
        (w.calls env [] (env.offers env.provReq (env.tried candidates))).1 ∧
      ((env.run (w.outcomes env candidates) candidates).2 = .completed ↔
        (w.calls env [] (env.offers env.provReq (env.tried candidates))).2 = true) := by
  refine attempts_calls w _ 0 ⟨env.provReq,none⟩ [] fun j => ?_
  rw [Nat.zero_add]
  exact ⟨rfl,rfl⟩

theorem calls_admitting_later {k : ℕ} (offers : List Offer) : ∀ earlier : List Offer, k < earlier.length →
    ((World.admitting k).calls env earlier offers).1 = [] := by
  induction offers with
  | nil => intro earlier _; rfl
  | cons x rest ih =>
    intro earlier hlong
    have hdenied : ((World.admitting k).allow (earlier ++ [x])).allowed = false := by
      have hne : earlier.length ≠ k := by omega
      simp [World.admitting,hne,Admission.denied]
    rw [World.calls,hdenied]
    exact ih _ (by simp; omega)

theorem calls_admitting {k : ℕ} (offers : List Offer) : ∀ earlier : List Offer, earlier.length ≤ k →
    ((World.admitting k).calls env earlier offers).1 = offers[k - earlier.length]?.toList := by
  induction offers with
  | nil => intro earlier _; rfl
  | cons x rest ih =>
    intro earlier hshort
    rcases Nat.lt_or_eq_of_le hshort with hlt | heq
    · have hdenied : ((World.admitting k).allow (earlier ++ [x])).allowed = false := by
        have hne : earlier.length ≠ k := by omega
        simp [World.admitting,hne,Admission.denied]
      have hindex : k - earlier.length = k - (earlier ++ [x]).length + 1 := by
        simp only [List.length_append,List.length_singleton]
        omega
      rw [World.calls,hdenied,hindex,List.getElem?_cons_succ]
      exact ih _ (by simp; omega)
    · have hallowed : ((World.admitting k).allow (earlier ++ [x])).allowed = true := by
        simp [World.admitting,heq,Admission.admitted]
      have hlater := @calls_admitting_later env k rest (earlier ++ [x]) (by simp; omega)
      rw [World.calls,hallowed,← heq,Nat.sub_self,List.getElem?_cons_zero]
      simp only [if_true]
      split
      · rfl
      · split
        · rw [heq,hlater]
          rfl
        · rfl

theorem offers_eq {offers offers' : List Offer}
    (h : ∀ w : World, (w.calls env [] offers).1 = (w.calls env [] offers').1) : offers = offers' := by
  refine List.ext_getElem? fun k => ?_
  have hcalls := h (.admitting k)
  rw [calls_admitting offers [] (Nat.zero_le k),calls_admitting offers' [] (Nat.zero_le k)] at hcalls
  simpa only [Option.head?_toList,List.length_nil,Nat.sub_zero] using congrArg List.head? hcalls

end Sent

end PrismGateway.Orchestrator
