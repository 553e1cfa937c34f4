import Mathlib.Data.List.Chain
import PrismGateway.Lib.Run
import PrismGateway.Router.Selection

namespace PrismGateway.Router

open Lib Config

/-- A selection that came to `roundRobin`: where the counter stood in the pool, and the order it gave. -/
structure Turn where
  tenantID : String
  pool : List ModelConfig
  index : ℕ
  ordered : List String
  deriving DecidableEq

structure World where
  router : Router
  turns : List Turn

def turn (rt : Router) (req : Request) : Option Turn :=
  match req.pool with
  | .error _ => none
  | .ok candidates =>
    if req.forcedModel = "" ∧ candidates ≠ [] ∧ req.strategy = "round_robin" then
      some ⟨req.tenantID,candidates,rt.rrIndex req.tenantID % candidates.length,
        (rt.roundRobin req.tenantID candidates).1⟩
    else none

def World.select (w : World) (req : Request) : Option World :=
  some ⟨(w.router.select req).2,w.turns ++ (turn w.router req).toList⟩

def turnsOf (turns : List Turn) (tenantID : String) (pool : List ModelConfig) : List Turn :=
  turns.filter (fun t => t.tenantID = tenantID ∧ t.pool = pool)

def firsts (turns : List Turn) (tenantID : String) (pool : List ModelConfig) : List String :=
  (turnsOf turns tenantID pool).map (fun t => t.ordered.headD "")

structure World.Fair (w : World) : Prop where
  rotations : ∀ t ∈ w.turns, ∃ k, t.ordered = (modelNames t.pool).rotate k
  balanced : ∀ tenantID pool i, i + pool.length ≤ (firsts w.turns tenantID pool).length →
    (((firsts w.turns tenantID pool).drop i).take pool.length).Perm (modelNames pool)

def Undisturbed (w : World) (req : Request) : Prop :=
  match turn w.router req with
  | none => True
  | some t => match (turnsOf w.turns t.tenantID t.pool).getLast? with
    | none => True
    | some last => t.index = (last.index + 1) % t.pool.length

instance (w : World) (req : Request) : Decidable (Undisturbed w req) := by
  unfold Undisturbed
  split
  · exact .isTrue trivial
  · split
    · exact .isTrue trivial
    · exact inferInstance

section Window

theorem getElem_of_isChain {n : ℕ} {l : List ℕ} (h : l.IsChain (fun a b => b = (a + 1) % n))
    (hlt : ∀ a ∈ l, a < n) {i : ℕ} (k : ℕ) (hk : i + k < l.length) :
    l[i + k] = (l[i] + k) % n := by
  induction k with
  | zero =>
    have hi : l[i] < n := hlt _ (List.getElem_mem _)
    simp only [Nat.add_zero,Nat.mod_eq_of_lt hi]
  | succ k ih =>
    have hprev : l[i + k] = (l[i] + k) % n := ih (by omega)
    have hstep : l[i + k + 1] = (l[i + k] + 1) % n := h.getElem (i + k) hk
    calc l[i + (k + 1)]
      _ = (l[i + k] + 1) % n := hstep
      _ = (l[i] + (k + 1)) % n := by rw [hprev,Nat.mod_add_mod,Nat.add_assoc]

end Window

section Turns

variable {rt : Router} {req : Request} {t : Turn} {w w' : World}

theorem turn_spec (h : turn rt req = some t) : t.pool ≠ [] ∧ t.index < t.pool.length ∧
    t.ordered = (modelNames t.pool).rotate t.index ∧
      t.index = rt.rrIndex t.tenantID % t.pool.length := by
  unfold turn at h
  split at h
  · cases h
  · next candidates hpool =>
    split at h
    · next hreaches =>
      cases h
      refine ⟨hreaches.2.1,Nat.mod_lt _ (List.length_pos_iff.mpr hreaches.2.1),?_⟩
      exact ⟨roundRobin_eq_rotate rt req.tenantID candidates,rfl⟩
    · cases h

theorem select_of_turn (h : turn rt req = some t) :
    (∀ res, (rt.select req).1 = .ok res → res.candidates = removeFailModels t.ordered req.failModels) ∧
      (rt.select req).2 = { rt with rrIndex := Function.update rt.rrIndex t.tenantID (t.index + 1) } := by
  unfold turn at h
  split at h
  · cases h
  · next candidates hpool =>
    split at h
    · next hreaches =>
      obtain ⟨hforced,hne,hstrategy⟩ := hreaches
      cases h
      have hempty : candidates.isEmpty = false := by simpa using hne
      simp only [select,hpool,hforced,hempty,dispatch,hstrategy]
      refine ⟨?_,rfl⟩
      intro res hres
      exact (finish_ok hres).1
    · cases h

theorem select_of_no_turn (h : turn rt req = none) : (rt.select req).2 = rt := by
  unfold turn at h
  unfold select
  cases hpool : req.pool with
  | error err => rfl
  | ok candidates =>
    simp only [hpool] at h ⊢
    by_cases hforced : req.forcedModel = ""
    · cases hempty : candidates.isEmpty with
      | true => simp [hforced]
      | false =>
        have hne : candidates ≠ [] := by
          rintro rfl
          cases hempty
        have hstrategy : req.strategy ≠ "round_robin" := by
          intro heq
          rw [if_pos ⟨hforced,hne,heq⟩] at h
          cases h
        simp only [hforced,ne_eq,not_true_eq_false,if_false,Bool.false_eq_true,dispatch,hstrategy]
        split_ifs
        · rfl
        · rfl
        · cases req.smartConfig <;> rfl
        · rfl
        · rfl
    · simp [hforced]

structure Inv (w : World) : Prop where
  turns : ∀ t ∈ w.turns, t.pool ≠ [] ∧ t.index < t.pool.length ∧
    t.ordered = (modelNames t.pool).rotate t.index
  chains : ∀ tenantID pool, ((turnsOf w.turns tenantID pool).map Turn.index).IsChain
    (fun a b => b = (a + 1) % pool.length)

theorem inv_select {w w' : World} (hw : Inv w) (hu : Undisturbed w req)
    (h : w.select req = some w') : Inv w' := by
  simp only [World.select,Option.some.injEq] at h
  subst h
  unfold Undisturbed at hu
  cases ht : turn w.router req with
  | none =>
    simp only [Option.toList_none,List.append_nil]
    exact ⟨hw.turns,hw.chains⟩
  | some t =>
    simp only [ht] at hu
    simp only [Option.toList_some]
    refine ⟨?_,?_⟩
    · intro t' ht'
      rcases List.mem_append.mp ht' with hold | hnew
      · exact hw.turns t' hold
      · obtain ⟨hne,hlt,hordered,-⟩ := turn_spec ht
        exact List.mem_singleton.mp hnew ▸ ⟨hne,hlt,hordered⟩
    · intro tenantID pool
      simp only [turnsOf,List.filter_append,List.map_append]
      by_cases hsame : t.tenantID = tenantID ∧ t.pool = pool
      · obtain ⟨rfl,rfl⟩ := hsame
        refine (hw.chains t.tenantID t.pool).append (by simp) ?_
        intro a ha b hb
        rw [List.getLast?_map,Option.mem_def,Option.map_eq_some_iff] at ha
        obtain ⟨last,hlast,rfl⟩ := ha
        obtain rfl : t.index = b := by simpa using hb
        change (turnsOf w.turns t.tenantID t.pool).getLast? = some last at hlast
        rw [hlast] at hu
        exact hu
      · have hnone : [t].filter (fun t => decide (t.tenantID = tenantID ∧ t.pool = pool)) = [] := by
          simpa using hsame
        rw [hnone,List.map_nil,List.append_nil]
        exact hw.chains tenantID pool

theorem headD_rotate {names : List String} {k : ℕ} (hk : k < names.length) :
    (names.rotate k).headD "" = names.getD k "" := by
  have hne : 0 < (names.rotate k).length := by
    rw [List.length_rotate]
    omega
  rw [List.headD_eq_head?_getD,List.head?_eq_getElem?,List.getElem?_eq_getElem hne,Option.getD_some,
    List.getElem_rotate,List.getD_eq_getElem _ _ hk]
  simp only [Nat.zero_add,Nat.mod_eq_of_lt hk]

theorem Inv.window (hw : Inv w) (tenantID : String) (pool : List ModelConfig) (i : ℕ)
    (hi : i + pool.length ≤ (firsts w.turns tenantID pool).length) :
    ∃ k, ((firsts w.turns tenantID pool).drop i).take pool.length = (modelNames pool).rotate k := by
  set l := turnsOf w.turns tenantID pool with hl
  have hlength : (firsts w.turns tenantID pool).length = l.length := List.length_map _
  have hnames : (modelNames pool).length = pool.length := by simp [modelNames]
  have hmember : ∀ t ∈ l, t.pool = pool ∧ t.index < pool.length ∧
      t.ordered = (modelNames pool).rotate t.index := by
    intro t ht
    obtain ⟨hold,hsame⟩ := List.mem_filter.mp ht
    obtain ⟨-,hindex,hordered⟩ := hw.turns t hold
    obtain rfl : t.pool = pool := (of_decide_eq_true hsame).2
    exact ⟨rfl,hindex,hordered⟩
  cases hpool : pool.length with
  | zero =>
    have hnil : modelNames pool = [] := List.length_eq_zero_iff.mp (hnames.trans hpool)
    exact ⟨0,by simp [hnil]⟩
  | succ n =>
    have hlt : i < l.length := by omega
    refine ⟨l[i].index,?_⟩
    apply List.ext_getElem
    · rw [List.length_take,List.length_drop,List.length_rotate]
      omega
    · intro k h1 h2
      rw [List.length_rotate,hnames] at h2
      have hk : i + k < l.length := by omega
      have hturn := hmember l[i + k] (List.getElem_mem hk)
      have hchain := getElem_of_isChain (hw.chains tenantID pool)
        (by
          intro a ha
          obtain ⟨t,ht,rfl⟩ := List.mem_map.mp ha
          exact (hmember t ht).2.1) k (by rw [List.length_map]; exact hk)
      rw [List.getElem_map,List.getElem_map] at hchain
      have hfirst : (firsts w.turns tenantID pool)[i + k] = l[i + k].ordered.headD "" :=
        List.getElem_map _
      rw [List.getElem_take,List.getElem_drop,hfirst,hturn.2.2,
        headD_rotate (by rw [hnames]; exact hturn.2.1),List.getElem_rotate,
        List.getD_eq_getElem _ _ (by rw [hnames]; exact hturn.2.1)]
      simp only [hnames,Nat.add_comm k]
      congr 1

theorem inv_start {rt : Router} : Inv ⟨rt,[]⟩ := ⟨nofun,fun _ _ => .nil⟩

theorem Inv.fair (hw : Inv w) : w.Fair where
  rotations := fun t ht => ⟨t.index,(hw.turns t ht).2.2⟩
  balanced := by
    intro tenantID pool i hi
    obtain ⟨k,hk⟩ := hw.window tenantID pool i hi
    rw [hk]
    exact List.rotate_perm _ _

end Turns

theorem fair_of_undisturbed (rt : Router) (reqs : List Request) (w : World)
    (h : exec World.select ⟨rt,[]⟩ reqs = some w)
    (hu : EveryStep World.select Undisturbed ⟨rt,[]⟩ reqs) : w.Fair := by
  have hw := exec_invariant_of_steps World.select (I := Inv) (C := Undisturbed)
    (fun _ _ _ hi hc hs => inv_select hi hc hs) inv_start hu h
  exact hw.fair

section OnePool

variable {w w' : World} {req : Request} {t : Turn}

def OnePool (w : World) (req : Request) : Prop :=
  ∀ t, turn w.router req = some t → ∀ t' ∈ w.turns, t'.tenantID = t.tenantID → t'.pool = t.pool

def Follows (w : World) : Prop := ∀ tenantID t,
  (w.turns.filter (fun t => t.tenantID = tenantID)).getLast? = some t →
    w.router.rrIndex tenantID = t.index + 1

theorem follows_select (hw : Follows w) (h : w.select req = some w') : Follows w' := by
  simp only [World.select,Option.some.injEq] at h
  subst h
  intro tenantID last hlast
  cases ht : turn w.router req with
  | none =>
    simp only [ht,Option.toList_none,List.append_nil] at hlast
    rw [select_of_no_turn ht]
    exact hw tenantID last hlast
  | some t =>
    simp only [ht,Option.toList_some,List.filter_append] at hlast
    rw [(select_of_turn ht).2]
    by_cases htenant : t.tenantID = tenantID
    · subst htenant
      have hlast' : t = last := by simpa using hlast
      exact hlast' ▸ Function.update_self _ _ _
    · have hnone : [t].filter (fun t => decide (t.tenantID = tenantID)) = [] := by simpa using htenant
      rw [hnone,List.append_nil] at hlast
      exact (Function.update_of_ne (Ne.symm htenant) _ _).trans (hw tenantID last hlast)

theorem follows_start {rt : Router} : Follows ⟨rt,[]⟩ := by
  intro tenantID t ht
  cases ht

theorem undisturbed_of_onePool (hw : Follows w) (h : OnePool w req) : Undisturbed w req := by
  unfold Undisturbed
  cases ht : turn w.router req with
  | none => exact trivial
  | some t =>
    have hsame : turnsOf w.turns t.tenantID t.pool =
        w.turns.filter (fun t' => t'.tenantID = t.tenantID) := by
      refine List.filter_congr ?_
      intro t' ht'
      rw [decide_eq_decide]
      exact ⟨fun hboth => hboth.1,fun htenant => ⟨htenant,h t ht t' ht' htenant⟩⟩
    simp only [hsame]
    cases hlast : (w.turns.filter (fun t' => t'.tenantID = t.tenantID)).getLast? with
    | none => exact trivial
    | some last =>
      obtain ⟨-,-,-,hindex⟩ := turn_spec ht
      rw [hw t.tenantID last hlast] at hindex
      exact hindex

theorem fair_of_onePool (rt : Router) (reqs : List Request) (w : World)
    (h : exec World.select ⟨rt,[]⟩ reqs = some w)
    (hone : EveryStep World.select OnePool ⟨rt,[]⟩ reqs) : w.Fair := by
  have hundisturbed : EveryStep World.select Undisturbed ⟨rt,[]⟩ reqs :=
    EveryStep.transfer World.select (I := Follows) (fun _ _ _ hi _ hs => follows_select hi hs)
      (fun _ _ hi hc => undisturbed_of_onePool hi hc) follows_start hone
  have hw := exec_invariant_of_steps World.select (I := Inv) (C := Undisturbed)
    (fun _ _ _ hi hc hs => inv_select hi hc hs) inv_start hundisturbed h
  exact hw.fair

end OnePool

section Concrete

def freshRouter : Router := ⟨fun _ => 0,fun _ _ => none,fun _ _ => none,fun _ _ => none⟩

def poolRequest (names : List String) : Request where
  tenantID := "acme"
  strategy := "round_robin"
  candidates := names.map (fun name => { name := name, provider := "openai" })

def wholeRounds : List Request :=
  [poolRequest ["gpt","mini"],poolRequest ["gpt","mini"],poolRequest ["small","large"],
    poolRequest ["small","large"],poolRequest ["gpt","mini"]]

theorem whole_rounds_fair :
    ∃ w, exec World.select ⟨freshRouter,[]⟩ wholeRounds = some w ∧ w.Fair :=
  ⟨_,rfl,fair_of_undisturbed freshRouter wholeRounds _ rfl (by decide)⟩

theorem alternating_pools_unfair : ¬ ∀ (rt : Router) (reqs : List Request) (w : World),
    exec World.select ⟨rt,[]⟩ reqs = some w → w.Fair := by
  intro h
  have hfair := h freshRouter
    [poolRequest ["gpt","mini"],poolRequest ["small","large"],poolRequest ["gpt","mini"]] _ rfl
  have hwindow := hfair.balanced "acme" (poolRequest ["gpt","mini"]).candidates 0 (by decide)
  exact absurd hwindow (by decide)

end Concrete

end PrismGateway.Router
