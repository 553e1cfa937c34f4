import PrismGateway.Config.GlobalSchema
import PrismGateway.Lib.Run
import Mathlib.Logic.Function.Basic

namespace PrismGateway.Config.Caching

open Lib Schemas

inductive Scope where
  | tenant (id : String)
  | global
  deriving DecidableEq

inductive Resolved where
  | tenant (config : tenantConfig.Val)
  | global (config : globalConfig.Val)

abbrev Row := Option (Json × Int)

inductive Answer where
  | config (config : Resolved)
  | notFound
  | failed

structure Setup where
  tenantByID : String → Option tenantConfig.Val
  globalConfigFromYAML : globalConfig.Val
  dynamicConfig : Bool
  ttl : Int

def withID (id : String) : tenantConfig.Val → tenantConfig.Val
  | (_,rest) => (id,rest)

def unmarshal : Scope → Json → Option Resolved
  | .tenant id, doc =>
    Option.map (fun tc => .tenant (withID id tc)) (tenantConfig.decode doc tenantConfig.zero)
  | .global, doc => Option.map Resolved.global (globalConfig.decode doc globalConfig.zero)

def Setup.yamlFallback (s : Setup) : Scope → Answer
  | .tenant id => ((s.tenantByID id).map (fun tc => Answer.config (.tenant tc))).getD .notFound
  | .global => .config (.global s.globalConfigFromYAML)

def Setup.answerOf (s : Setup) (k : Scope) : Row → Answer
  | none => s.yamlFallback k
  | some (doc,_) => match unmarshal k doc with
    | none => .failed
    | some config => .config config

structure Cached where
  config : Resolved
  version : Int
  fetchedAt : Int
  readAt : ℕ

inductive Phase where
  | begun
  | missed
  | loaded (config : Resolved) (version : Int) (readAt : ℕ)
  | done

/-- A call of `ResolveTenantConfig` or `ResolveGlobalConfig`; `since` counts the writes that were
acknowledged before it started. -/
structure Call where
  scope : Scope
  since : ℕ
  phase : Phase

inductive WritePhase where
  | committed
  | invalidated
  | acknowledged
  deriving DecidableEq

structure Write where
  scope : Scope
  number : ℕ
  phase : WritePhase

structure Served where
  scope : Scope
  since : ℕ
  answer : Answer

/-- `history k` lists the rows the database has held for `k`, each write adding one; `invalidated k`
and `acknowledged k` are the last write that has invalidated the cache and been acknowledged. -/
structure World where
  now : Int
  history : Scope → List Row
  cache : Scope → Option Cached
  calls : List Call
  writes : List Write
  invalidated : Scope → ℕ
  acknowledged : Scope → ℕ
  served : List Served

inductive Event where
  | wait (now : Int)
  | commit (k : Scope) (row : Row)
  | invalidate (i : ℕ)
  | acknowledge (i : ℕ)
  | request (k : Scope)
  | next (c : ℕ) (readFails : Bool)

namespace World

variable (s : Setup) (w : World)

def get (k : Scope) : Option Cached := (w.cache k).filter (fun e => w.now - e.fetchedAt ≤ s.ttl)

def set (k : Scope) (config : Resolved) (version : Int) (readAt : ℕ) : World :=
  { w with cache := Function.update w.cache k (some ⟨config,version,w.now,readAt⟩) }

def clear (k : Scope) : World := { w with cache := Function.update w.cache k none }

def move (c : ℕ) (call : Call) (phase : Phase) : World :=
  { w with calls := w.calls.set c { call with phase := phase } }

def answer (c : ℕ) (call : Call) (answer : Answer) : World :=
  { w.move c call .done with served := w.served ++ [⟨call.scope,call.since,answer⟩] }

def read (k : Scope) : Row := (w.history k).getLast?.join

def next (c : ℕ) (call : Call) (readFails : Bool) : Option World :=
  match call.phase with
  | .begun => match w.get s call.scope with
    | some e => some (w.answer c call (.config e.config))
    | none => some (w.move c call .missed)
  | .missed =>
    -- an error of the store is logged and the YAML configuration is used
    if s.dynamicConfig = false ∨ readFails then some (w.answer c call (s.yamlFallback call.scope))
    else match w.read call.scope with
      | none => some (w.answer c call (s.yamlFallback call.scope))
      | some (doc,version) => match unmarshal call.scope doc with
        | none => some (w.answer c call .failed)
        | some config =>
          some (w.move c call (.loaded config version ((w.history call.scope).length - 1)))
  | .loaded config version readAt =>
    some ((w.set call.scope config version readAt).answer c call (.config config))
  | .done => none

def UpToDate : Prop := ∀ a ∈ w.served, ∃ n row, a.since ≤ n ∧ (w.history a.scope)[n]? = some row ∧
  a.answer = s.answerOf a.scope row

end World

section Runs

variable (s : Setup)

def World.invalidate (w : World) (i : ℕ) (write : Write) : Option World :=
  if write.phase = .committed then
    some { w.clear write.scope with
      writes := w.writes.set i { write with phase := .invalidated }
      invalidated :=
        Function.update w.invalidated write.scope (max (w.invalidated write.scope) write.number) }
  else none

def World.acknowledge (w : World) (i : ℕ) (write : Write) : Option World :=
  if write.phase = .invalidated then
    some { w with
      writes := w.writes.set i { write with phase := .acknowledged }
      acknowledged :=
        Function.update w.acknowledged write.scope (max (w.acknowledged write.scope) write.number) }
  else none

def step (w : World) : Event → Option World
  | .wait now => if w.now ≤ now then some { w with now := now } else none
  | .commit k row => some { w with
      history := Function.update w.history k (w.history k ++ [row])
      writes := w.writes ++ [⟨k,(w.history k).length,.committed⟩] }
  | .invalidate i => (w.writes[i]?).bind (w.invalidate i)
  | .acknowledge i => (w.writes[i]?).bind (w.acknowledge i)
  | .request k => some { w with calls := w.calls ++ [⟨k,w.acknowledged k,.begun⟩] }
  | .next c readFails => (w.calls[c]?).bind (fun call => w.next s c call readFails)

def Call.Fresh (w : World) (readFails : Bool) (call : Call) : Prop :=
  match call.phase with
  | .missed => s.dynamicConfig = true ∧ readFails = false
  | .loaded _ _ readAt => w.invalidated call.scope ≤ readAt
  | _ => True

def Fresh (w : World) : Event → Prop
  | .next c readFails => ∀ call ∈ w.calls[c]?, call.Fresh s w readFails
  | _ => True

def Holds (w : World) (k : Scope) (n : ℕ) (config : Resolved) : Prop :=
  ∃ row, (w.history k)[n]? = some row ∧ s.answerOf k row = .config config

def Phase.Sound (w : World) (k : Scope) (since : ℕ) : Phase → Prop
  | .loaded config _ readAt => since ≤ readAt ∧ Holds s w k readAt config
  | _ => True

structure Inv (w : World) : Prop where
  acknowledged : ∀ k, w.acknowledged k ≤ w.invalidated k
  invalidated : ∀ k, w.invalidated k < (w.history k).length
  writes : ∀ x ∈ w.writes, x.number < (w.history x.scope).length ∧
    (x.phase ≠ .committed → x.number ≤ w.invalidated x.scope)
  cache : ∀ k e, w.cache k = some e → w.invalidated k ≤ e.readAt ∧ Holds s w k e.readAt e.config
  calls : ∀ call ∈ w.calls, call.since ≤ w.acknowledged call.scope ∧
    call.phase.Sound s w call.scope call.since
  served : w.UpToDate s

end Runs

section Invariant

variable {s : Setup} {w w' : World} {c : ℕ} {call : Call} {k : Scope}

theorem row_kept {n : ℕ} {row : Row} (hrows : w.history k <+: w'.history k)
    (h : (w.history k)[n]? = some row) : (w'.history k)[n]? = some row := by
  obtain ⟨later,hlater⟩ := hrows
  have hn : n < (w.history k).length := (List.getElem?_eq_some_iff.mp h).1
  rw [← hlater,List.getElem?_append_left hn]
  exact h

theorem Holds.mono {n : ℕ} {config : Resolved} (h : Holds s w k n config)
    (hrows : w.history k <+: w'.history k) : Holds s w' k n config := by
  obtain ⟨row,hrow,hanswer⟩ := h
  exact ⟨row,row_kept hrows hrow,hanswer⟩

theorem Phase.Sound.mono {since : ℕ} {phase : Phase} (h : phase.Sound s w k since)
    (hrows : w.history k <+: w'.history k) : phase.Sound s w' k since := by
  cases phase with
  | loaded config version readAt => exact ⟨h.1,h.2.mono hrows⟩
  | _ => exact h

theorem World.UpToDate.mono (h : w.UpToDate s) (hserved : w'.served = w.served)
    (hrows : ∀ k, w.history k <+: w'.history k) : w'.UpToDate s := by
  intro a ha
  rw [hserved] at ha
  obtain ⟨n,row,hsince,hrow,hanswer⟩ := h a ha
  exact ⟨n,row,hsince,row_kept (hrows a.scope) hrow,hanswer⟩

theorem Inv.move {phase : Phase} (h : Inv s w) (hcall : call ∈ w.calls)
    (hphase : phase.Sound s w call.scope call.since) : Inv s (w.move c call phase) where
  acknowledged := h.acknowledged
  invalidated := h.invalidated
  writes := h.writes
  cache := h.cache
  calls := by
    intro other hother
    rcases List.mem_or_eq_of_mem_set hother with hold | rfl
    · exact h.calls other hold
    · exact ⟨(h.calls call hcall).1,hphase⟩
  served := h.served

theorem Inv.answer {answer : Answer} {n : ℕ} {row : Row} (h : Inv s w) (hcall : call ∈ w.calls)
    (hsince : call.since ≤ n) (hrow : (w.history call.scope)[n]? = some row)
    (hanswer : answer = s.answerOf call.scope row) : Inv s (w.answer c call answer) := by
  have hmove : Inv s (w.move c call .done) := h.move hcall trivial
  refine ⟨hmove.acknowledged,hmove.invalidated,hmove.writes,hmove.cache,hmove.calls,?_⟩
  intro a ha
  rcases List.mem_append.mp ha with hold | hnew
  · exact h.served a hold
  · rw [List.mem_singleton.mp hnew]
    exact ⟨n,row,hsince,hrow,hanswer⟩

theorem Inv.set {config : Resolved} {version : Int} {readAt : ℕ} (h : Inv s w)
    (hfresh : w.invalidated k ≤ readAt) (hholds : Holds s w k readAt config) :
    Inv s (w.set k config version readAt) where
  acknowledged := h.acknowledged
  invalidated := h.invalidated
  writes := h.writes
  cache := by
    intro k' e he
    by_cases hk : k' = k
    · subst hk
      simp only [World.set,Function.update_self,Option.some.injEq] at he
      subst he
      exact ⟨hfresh,hholds⟩
    · simp only [World.set,Function.update_of_ne hk] at he
      exact h.cache k' e he
  calls := h.calls
  served := h.served

theorem Inv.latest_row (h : Inv s w) (k : Scope) :
    (w.history k)[(w.history k).length - 1]? = some (w.read k) := by
  have hlt := h.invalidated k
  have hlast : (w.history k).getLast? = (w.history k)[(w.history k).length - 1]? :=
    List.getLast?_eq_getElem?
  obtain ⟨row,hrow⟩ : ∃ row, (w.history k)[(w.history k).length - 1]? = some row :=
    ⟨_,List.getElem?_eq_getElem (by omega)⟩
  rw [World.read,hlast,hrow]
  rfl

theorem inv_next {readFails : Bool} (h : Inv s w) (hc : w.calls[c]? = some call)
    (hfresh : call.Fresh s w readFails) (hnext : w.next s c call readFails = some w') : Inv s w' := by
  have hcall : call ∈ w.calls := List.mem_of_getElem? hc
  obtain ⟨hsince,hsound⟩ := h.calls call hcall
  have hstarted : call.since ≤ w.invalidated call.scope := hsince.trans (h.acknowledged call.scope)
  unfold World.next at hnext
  unfold Call.Fresh at hfresh
  cases hp : call.phase with
  | begun =>
    simp only [hp] at hnext
    split at hnext
    · next e he =>
      cases hnext
      obtain ⟨hread,row,hrow,hanswer⟩ := h.cache _ e (Option.filter_eq_some_iff.mp he).1
      exact h.answer hcall (hstarted.trans hread) hrow hanswer.symm
    · cases hnext
      exact h.move hcall trivial
  | missed =>
    simp only [hp] at hnext hfresh
    have hlatest := h.latest_row call.scope
    have hlt := h.invalidated call.scope
    have hnow : call.since ≤ (w.history call.scope).length - 1 := by omega
    rw [if_neg (by simp [hfresh])] at hnext
    cases hread : w.read call.scope with
    | none =>
      rw [hread] at hlatest
      simp only [hread] at hnext
      cases hnext
      exact h.answer hcall hnow hlatest rfl
    | some found =>
      obtain ⟨doc,version⟩ := found
      rw [hread] at hlatest
      simp only [hread] at hnext
      cases hdoc : unmarshal call.scope doc with
      | none =>
        simp only [hdoc] at hnext
        cases hnext
        exact h.answer hcall hnow hlatest (by rw [Setup.answerOf,hdoc])
      | some config =>
        simp only [hdoc] at hnext
        cases hnext
        exact h.move hcall ⟨hnow,_,hlatest,by rw [Setup.answerOf,hdoc]⟩
  | loaded config version readAt =>
    simp only [hp] at hnext hfresh
    rw [hp] at hsound
    cases hnext
    obtain ⟨hread,row,hrow,hanswer⟩ := hsound
    exact (h.set hfresh ⟨row,hrow,hanswer⟩).answer hcall hread hrow hanswer.symm
  | done =>
    simp only [hp] at hnext
    cases hnext

theorem Inv.commit (h : Inv s w) (k : Scope) (row : Row) : Inv s { w with
    history := Function.update w.history k (w.history k ++ [row])
    writes := w.writes ++ [⟨k,(w.history k).length,.committed⟩] } := by
  have hrows : ∀ k', w.history k' <+: Function.update w.history k (w.history k ++ [row]) k' := by
    intro k'
    by_cases hk : k' = k
    · subst hk
      rw [Function.update_self]
      exact List.prefix_append _ _
    · rw [Function.update_of_ne hk]
  refine ⟨h.acknowledged,fun k' => (h.invalidated k').trans_le (hrows k').length_le,?_,?_,?_,
    h.served.mono rfl hrows⟩
  · intro x hx
    rcases List.mem_append.mp hx with hold | hnew
    · obtain ⟨hnumber,hphase⟩ := h.writes x hold
      exact ⟨hnumber.trans_le (hrows x.scope).length_le,hphase⟩
    · rw [List.mem_singleton.mp hnew]
      exact ⟨by simp,fun hphase => absurd rfl hphase⟩
  · intro k' e he
    obtain ⟨hread,hholds⟩ := h.cache k' e he
    exact ⟨hread,hholds.mono (hrows k')⟩
  · intro other hother
    obtain ⟨hsince,hsound⟩ := h.calls other hother
    exact ⟨hsince,hsound.mono (hrows other.scope)⟩

theorem le_update_max (f : Scope → ℕ) (k k' : Scope) (n : ℕ) :
    f k' ≤ Function.update f k (max (f k) n) k' := by
  by_cases hk : k' = k
  · subst hk
    rw [Function.update_self]
    exact le_max_left _ _
  · rw [Function.update_of_ne hk]

theorem Inv.invalidate {i : ℕ} {write : Write} (h : Inv s w) (hi : w.writes[i]? = some write)
    (hstep : w.invalidate i write = some w') : Inv s w' := by
  obtain ⟨hnumber,-⟩ := h.writes write (List.mem_of_getElem? hi)
  have hmono := le_update_max w.invalidated write.scope
  unfold World.invalidate at hstep
  split_ifs at hstep
  cases hstep
  refine ⟨fun k => (h.acknowledged k).trans (hmono k _),?_,?_,?_,h.calls,h.served⟩
  · intro k
    by_cases hk : k = write.scope
    · subst hk
      simp only [Function.update_self]
      exact max_lt (h.invalidated _) hnumber
    · simp only [Function.update_of_ne hk]
      exact h.invalidated k
  · intro x hx
    rcases List.mem_or_eq_of_mem_set hx with hold | rfl
    · obtain ⟨hx1,hx2⟩ := h.writes x hold
      exact ⟨hx1,fun hphase => (hx2 hphase).trans (hmono x.scope _)⟩
    · refine ⟨hnumber,fun _ => ?_⟩
      simp only [Function.update_self]
      exact le_max_right _ _
  · intro k e he
    by_cases hk : k = write.scope
    · subst hk
      simp only [World.clear,Function.update_self] at he
      cases he
    · simp only [World.clear,Function.update_of_ne hk] at he ⊢
      exact h.cache k e he

theorem Inv.acknowledge {i : ℕ} {write : Write} (h : Inv s w) (hi : w.writes[i]? = some write)
    (hstep : w.acknowledge i write = some w') : Inv s w' := by
  obtain ⟨hnumber,hinvalidated⟩ := h.writes write (List.mem_of_getElem? hi)
  have hmono := le_update_max w.acknowledged write.scope
  unfold World.acknowledge at hstep
  split_ifs at hstep with hphase
  cases hstep
  have hdone : write.number ≤ w.invalidated write.scope := hinvalidated (by simp [hphase])
  refine ⟨?_,h.invalidated,?_,h.cache,?_,h.served⟩
  · intro k
    by_cases hk : k = write.scope
    · subst hk
      simp only [Function.update_self]
      exact max_le (h.acknowledged _) hdone
    · simp only [Function.update_of_ne hk]
      exact h.acknowledged k
  · intro x hx
    rcases List.mem_or_eq_of_mem_set hx with hold | rfl
    · exact h.writes x hold
    · exact ⟨hnumber,fun _ => hdone⟩
  · intro other hother
    obtain ⟨hsince,hsound⟩ := h.calls other hother
    exact ⟨hsince.trans (hmono other.scope _),hsound⟩

theorem inv_step (w : World) (e : Event) (w' : World) (h : Inv s w) (hfresh : Fresh s w e)
    (hstep : step s w e = some w') : Inv s w' := by
  cases e with
  | wait now =>
    simp only [step] at hstep
    split_ifs at hstep
    cases hstep
    exact ⟨h.acknowledged,h.invalidated,h.writes,h.cache,h.calls,h.served⟩
  | commit k row =>
    cases hstep
    exact h.commit k row
  | invalidate i =>
    obtain ⟨write,hi,hwrite⟩ := Option.bind_eq_some_iff.mp hstep
    exact h.invalidate hi hwrite
  | acknowledge i =>
    obtain ⟨write,hi,hwrite⟩ := Option.bind_eq_some_iff.mp hstep
    exact h.acknowledge hi hwrite
  | request k =>
    cases hstep
    refine ⟨h.acknowledged,h.invalidated,h.writes,h.cache,?_,h.served⟩
    intro other hother
    rcases List.mem_append.mp hother with hold | hnew
    · exact h.calls other hold
    · rw [List.mem_singleton.mp hnew]
      exact ⟨le_refl _,trivial⟩
  | next c readFails =>
    obtain ⟨call,hc,hnext⟩ := Option.bind_eq_some_iff.mp hstep
    exact inv_next h hc (hfresh call hc) hnext

def World.start (rows : Scope → Row) : World where
  now := 0
  history := fun k => [rows k]
  cache := fun _ => none
  calls := []
  writes := []
  invalidated := fun _ => 0
  acknowledged := fun _ => 0
  served := []

theorem inv_start (s : Setup) (rows : Scope → Row) : Inv s (World.start rows) where
  acknowledged := fun _ => le_refl _
  invalidated := fun _ => Nat.zero_lt_one
  writes := fun _ hx => absurd hx List.not_mem_nil
  cache := fun _ _ he => (Option.some_ne_none _ he.symm).elim
  calls := fun _ hcall => absurd hcall List.not_mem_nil
  served := fun _ ha => absurd ha List.not_mem_nil

theorem up_to_date_of_fresh {rows : Scope → Row} {es : List Event}
    (hfresh : EveryStep (step s) (Fresh s) (World.start rows) es)
    (h : exec (step s) (World.start rows) es = some w) : w.UpToDate s :=
  (exec_invariant_of_steps (step s) inv_step (inv_start s rows) hfresh h).served

theorem stale_fill_served {config : Resolved} {version : Int} {readAt : ℕ} (readFails : Bool)
    (httl : 0 ≤ s.ttl) (hc : w.calls[c]? = some call)
    (hp : call.phase = .loaded config version readAt) :
    ∃ w', exec (step s) w [.next c readFails,.request call.scope,.next w.calls.length readFails] =
        some w' ∧ w'.history = w.history ∧
      w'.served = w.served ++ [⟨call.scope,call.since,.config config⟩] ++
        [⟨call.scope,w.acknowledged call.scope,.config config⟩] := by
  have hfill : step s w (.next c readFails) =
      some ((w.set call.scope config version readAt).answer c call (.config config)) := by
    simp [step,hc,World.next,hp]
  let filled := (w.set call.scope config version readAt).answer c call (.config config)
  let asked : Call := ⟨call.scope,w.acknowledged call.scope,.begun⟩
  let requested : World := { filled with calls := filled.calls ++ [asked] }
  have hlen : w.calls.length = filled.calls.length := by
    simp [filled,World.answer,World.move,World.set]
  have hasked : requested.calls[w.calls.length]? = some asked := by
    rw [hlen]
    exact List.getElem?_concat_length
  have hentry : requested.get s call.scope = some ⟨config,version,w.now,readAt⟩ := by
    simp [requested,filled,World.get,World.answer,World.move,World.set,httl]
  have hhit : step s requested (.next w.calls.length readFails) =
      some (requested.answer w.calls.length asked (.config config)) := by
    have hfound : requested.get s asked.scope = some ⟨config,version,w.now,readAt⟩ := hentry
    simp [step,hasked,World.next,hfound,show asked.phase = .begun from rfl]
  refine ⟨requested.answer w.calls.length asked (.config config),?_,rfl,rfl⟩
  rw [exec_cons hfill,exec_cons (t := requested) rfl,exec_cons hhit]
  rfl

end Invariant

def Answer.allowedModels : Answer → List String
  | .config (.tenant (_,_,_,allowedModels,_)) => Option.getD allowedModels []
  | _ => []

def acme : Scope := .tenant "acme"

def allowing (model : String) (version : Int) : Row :=
  some (.obj [("allowed_models",.arr [.str model])],version)

def fiveSeconds : Setup := ⟨fun _ => none,globalConfig.zero,true,5000⟩

def acmeStored : World := World.start (fun k => if k = acme then allowing "gpt-4o" 1 else none)

def replaced : List Event := [.commit acme (allowing "gpt-4o-mini" 2),.invalidate 0,.acknowledge 0]

def resolved (c : ℕ) : List Event := .request acme :: List.replicate 3 (.next c false)

def readAgain : List Event := resolved 0 ++ replaced ++ resolved 1 ++ [Event.request acme,Event.next 2 false]

instance (w : World) (readFails : Bool) (call : Call) : Decidable (call.Fresh fiveSeconds w readFails) := by
  unfold Call.Fresh
  split <;> infer_instance

instance (w : World) : (e : Event) → Decidable (Fresh fiveSeconds w e)
  | .next c readFails =>
    inferInstanceAs (Decidable (∀ call ∈ w.calls[c]?, call.Fresh fiveSeconds w readFails))
  | .wait _ => .isTrue trivial
  | .commit _ _ => .isTrue trivial
  | .invalidate _ => .isTrue trivial
  | .acknowledge _ => .isTrue trivial
  | .request _ => .isTrue trivial

theorem read_again_up_to_date :
    ∃ w, exec (step fiveSeconds) acmeStored readAgain = some w ∧
      w.served.map (fun a => (a.since,a.answer.allowedModels)) =
        [(0,["gpt-4o"]),(1,["gpt-4o-mini"]),(1,["gpt-4o-mini"])] ∧ w.UpToDate fiveSeconds := by
  obtain ⟨w,hrun,hserved⟩ := reaches (P := fun w : World =>
    w.served.map (fun a => (a.since,a.answer.allowedModels)) =
      [(0,["gpt-4o"]),(1,["gpt-4o-mini"]),(1,["gpt-4o-mini"])])
    (show (exec (step fiveSeconds) acmeStored readAgain).any _ = true by decide)
  exact ⟨w,hrun,hserved,up_to_date_of_fresh (by decide) hrun⟩

def slowReader : List Event :=
  ([.request acme,.next 0 false,.next 0 false] : List Event) ++ replaced ++
    ([.next 0 false,.request acme,.next 1 false] : List Event)

theorem stale_of_models {s : Setup} {w : World} {a : Served} (ha : a ∈ w.served)
    (hlater : ∀ row ∈ (w.history a.scope).drop a.since,
      (s.answerOf a.scope row).allowedModels ≠ a.answer.allowedModels) : ¬ w.UpToDate s := by
  intro h
  obtain ⟨n,row,hsince,hrow,hanswer⟩ := h a ha
  refine hlater row ?_ (congrArg Answer.allowedModels hanswer.symm)
  refine List.mem_of_getElem? (i := n - a.since) ?_
  rw [List.getElem?_drop,Nat.add_sub_cancel' hsince]
  exact hrow

theorem slow_reader_serves_stale :
    ∃ w, exec (step fiveSeconds) acmeStored slowReader = some w ∧
      w.served.map (fun a => (a.since,a.answer.allowedModels)) = [(0,["gpt-4o"]),(1,["gpt-4o"])] ∧
      ¬ w.UpToDate fiveSeconds := by
  obtain ⟨w,hrun,hserved,hstale⟩ := reaches (P := fun w : World =>
    w.served.map (fun a => (a.since,a.answer.allowedModels)) = [(0,["gpt-4o"]),(1,["gpt-4o"])] ∧
      ∃ a ∈ w.served, ∀ row ∈ (w.history a.scope).drop a.since,
        (fiveSeconds.answerOf a.scope row).allowedModels ≠ a.answer.allowedModels)
    (show (exec (step fiveSeconds) acmeStored slowReader).any _ = true by decide)
  obtain ⟨a,ha,hlater⟩ := hstale
  exact ⟨w,hrun,hserved,stale_of_models ha hlater⟩

end PrismGateway.Config.Caching
