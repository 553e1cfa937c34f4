import Mathlib.Data.List.GetD
import Mathlib.Data.List.Rotate
import PrismGateway.Router.Select

namespace PrismGateway.Router
open Lib Config

namespace StageEvaluator

def matching (se : StageEvaluator) (rules : List (String × SmartStageRule)) :
    List SmartStageRule :=
  (rules.map Prod.snd).filter (fun rule =>
    rule.when.semanticSimilarity.isNone && evaluateCondition (prompt se.messages) rule.when)

def matchedRules (se : StageEvaluator) : List SmartStageRule :=
  se.matching se.stageRules

def tightenBy (acc : Option Float) (rule : SmartStageRule) : Option Float :=
  tighten acc (rule.action.setConstraints.bind (·.maxCostPer1M))

def accumulatedMaxCost (se : StageEvaluator) : Option Float :=
  se.matchedRules.foldl tightenBy none

def exclusiveRule (se : StageEvaluator) : Option SmartRule :=
  if se.usesLegacyRules then se.legacyMatch else none

end StageEvaluator

structure SmartEligible (se : StageEvaluator) (m : ModelConfig) : Prop where
  notBanned : ∀ rule ∈ se.matchedRules, m.name ∉ rule.action.banModels
  withinCost : ∀ max, se.accumulatedMaxCost = some max → ¬ combinedRate m > max
  exclusive : ∀ rule, se.exclusiveRule = some rule → m.name ∈ rule.preferModels

namespace Request

def poolGroups (req : Request) : List (List String) :=
  req.explicitGroup.toList ++ req.anchorGroup.toList ++
    if req.appliesDefault then [req.defaultGroup] else []

def smartGroups (req : Request) (r : SmartStageResult) : List (List String) :=
  if req.routeGroup ≠ "" ∨ req.routeGroups = none then []
  else if r.anchorRouteGroup ≠ "" then (req.group r.anchorRouteGroup).toList
  else if r.semanticAnchor = "" ∧ req.defaultRouteGroup ≠ "" then [req.defaultGroup]
  else []

structure Eligible (req : Request) (m : ModelConfig) : Prop where
  inGroups : ∀ g ∈ req.poolGroups, m.name ∈ g
  available : req.failModels m.name = false
  smart : req.strategy = "smart" → req.forcedModel = "" → ∀ cfg, req.smartConfig = some cfg →
    (∀ g ∈ req.smartGroups (req.evaluator cfg).evaluate, m.name ∈ g) ∧
      SmartEligible (req.evaluator cfg) m

end Request

def inAll (groups : List (List String)) (m : ModelConfig) : Bool :=
  groups.all (fun g => g.contains m.name)

theorem inAll_iff {groups : List (List String)} {m : ModelConfig} :
    inAll groups m = true ↔ ∀ g ∈ groups, m.name ∈ g := by
  simp [inAll]

theorem filter_inAll_nil (models : List ModelConfig) : models.filter (inAll []) = models := by
  rw [List.filter_eq_self]
  intro m _
  rfl

theorem filterByNames_eq_filter (models : List ModelConfig) (g : List String) :
    filterByNames models g = models.filter (inAll [g]) := by
  apply List.filter_congr
  intro m _
  simp [inAll]

theorem restrict_eq_filter (models : List ModelConfig) (g : Option (List String)) :
    restrict models g = models.filter (inAll g.toList) := by
  cases g with
  | none => exact (filter_inAll_nil models).symm
  | some l => exact filterByNames_eq_filter models l

theorem filter_inAll_append (gs hs : List (List String)) (models : List ModelConfig) :
    (models.filter (inAll gs)).filter (inAll hs) = models.filter (inAll (gs ++ hs)) := by
  rw [List.filter_filter]
  apply List.filter_congr
  intro m _
  simp [inAll,Bool.and_comm]

section Pool

variable {req : Request} {cs : List ModelConfig}

theorem pool_eq_filter (h : req.pool = .ok cs) :
    cs = req.candidates.filter (inAll req.poolGroups) := by
  simp only [Request.pool,restrict_eq_filter,filterByNames_eq_filter,filter_inAll_append] at h
  simp only [Request.poolGroups]
  split_ifs at h with hd he
  · cases h
    simp [hd]
  · cases h
    simp [hd]

theorem pool_of_mem {m : ModelConfig} (h : m ∈ req.candidates.filter (inAll req.poolGroups)) :
    req.pool = .ok (req.candidates.filter (inAll req.poolGroups)) := by
  simp only [Request.pool,restrict_eq_filter,filterByNames_eq_filter,filter_inAll_append]
  simp only [Request.poolGroups] at h ⊢
  split_ifs with hd he
  · simp only [hd,if_true,List.isEmpty_iff] at h he
    rw [he] at h
    cases h
  · rfl
  · rw [List.append_nil]

theorem mem_pool (h : req.pool = .ok cs) (m : ModelConfig) :
    m ∈ cs ↔ m ∈ req.candidates ∧ ∀ g ∈ req.poolGroups, m.name ∈ g := by
  rw [pool_eq_filter h,List.mem_filter,inAll_iff]

theorem pool_sublist (h : req.pool = .ok cs) : cs.Sublist req.candidates := by
  rw [pool_eq_filter h]
  exact List.filter_sublist

end Pool

section Evaluate

variable {se : StageEvaluator}

structure Accumulates (se : StageEvaluator) (rules : List (String × SmartStageRule))
    (r out : SmartStageResult) : Prop where
  banned : out.bannedModels =
    r.bannedModels ++ (se.matching rules).flatMap (·.action.banModels)
  maxCost : out.constraints.maxCostPer1M =
    (se.matching rules).foldl StageEvaluator.tightenBy r.constraints.maxCostPer1M
  legacy : out.legacyExclusive = r.legacyExclusive

theorem semanticRule_cases (se : StageEvaluator) (stage : String) (rule : SmartStageRule)
    (cond : SemanticSimilarityCondition) (r : SmartStageResult) :
    se.semanticRule stage rule cond r = r ∨
      ∃ anchor, se.semanticRule stage rule cond r =
        StageEvaluator.applyAnchor stage rule.action anchor r := by
  unfold StageEvaluator.semanticRule
  split
  · exact .inl rfl
  · split
    · exact .inl rfl
    · exact .inr ⟨_,rfl⟩

theorem matching_cons_skip {stage : String} {rule : SmartStageRule}
    {rest : List (String × SmartStageRule)}
    (h : (rule.when.semanticSimilarity.isNone &&
      evaluateCondition (prompt se.messages) rule.when) = false) :
    se.matching ((stage,rule) :: rest) = se.matching rest := by
  simp only [StageEvaluator.matching,List.map_cons]
  rw [List.filter_cons_of_neg (by simp [h])]

theorem matching_cons_match {stage : String} {rule : SmartStageRule}
    {rest : List (String × SmartStageRule)}
    (h : (rule.when.semanticSimilarity.isNone &&
      evaluateCondition (prompt se.messages) rule.when) = true) :
    se.matching ((stage,rule) :: rest) = rule :: se.matching rest := by
  simp only [StageEvaluator.matching,List.map_cons]
  rw [List.filter_cons_of_pos (by simpa using h)]

theorem evaluateRules_accumulates (rules : List (String × SmartStageRule)) :
    ∀ r, (se.evaluateRules rules r).blocked = false →
      Accumulates se rules r (se.evaluateRules rules r) := by
  induction rules with
  | nil =>
    intro r _
    exact ⟨by simp [StageEvaluator.evaluateRules,StageEvaluator.matching],rfl,rfl⟩
  | cons entry rest ih =>
    intro r hb
    obtain ⟨stage,rule⟩ := entry
    simp only [StageEvaluator.evaluateRules] at hb ⊢
    cases hsem : rule.when.semanticSimilarity with
    | some cond =>
      simp only [hsem] at hb ⊢
      have hskip : se.matching ((stage,rule) :: rest) = se.matching rest :=
        matching_cons_skip (by simp [hsem])
      obtain ⟨hban,hmax,hleg⟩ := ih _ hb
      rcases semanticRule_cases se stage rule cond r with heq | ⟨anchor,heq⟩
      · rw [heq] at hban hmax hleg ⊢
        exact ⟨by rw [hban,hskip],by rw [hmax,hskip],hleg⟩
      · rw [heq] at hban hmax hleg ⊢
        exact ⟨by rw [hban,hskip]; rfl,by rw [hmax,hskip]; rfl,hleg⟩
    | none =>
      simp only [hsem] at hb ⊢
      cases hcond : evaluateCondition (prompt se.messages) rule.when with
      | false =>
        simp only [hcond,Bool.false_eq_true,if_false] at hb ⊢
        have hskip : se.matching ((stage,rule) :: rest) = se.matching rest :=
          matching_cons_skip (by simp [hcond])
        obtain ⟨hban,hmax,hleg⟩ := ih _ hb
        exact ⟨by rw [hban,hskip],by rw [hmax,hskip],hleg⟩
      | true =>
        simp only [hcond,if_true] at hb ⊢
        cases hblock : rule.action.block with
        | true => simp [hblock,blockBy] at hb
        | false =>
          simp only [hblock,Bool.false_eq_true,if_false] at hb ⊢
          have hmatch : se.matching ((stage,rule) :: rest) = rule :: se.matching rest :=
            matching_cons_match (by simp [hsem,hcond])
          obtain ⟨hban,hmax,hleg⟩ := ih _ hb
          refine ⟨?_,?_,hleg⟩
          · rw [hban,hmatch]
            simp [applyAction]
          · rw [hmax,hmatch]
            rfl

theorem evaluate_legacy (h : se.usesLegacyRules = true) :
    se.evaluate = se.evaluateLegacyRules ∧ se.matchedRules = [] := by
  refine ⟨by simp [StageEvaluator.evaluate,h],?_⟩
  simp only [StageEvaluator.usesLegacyRules,Bool.and_eq_true,List.isEmpty_iff] at h
  simp [StageEvaluator.matchedRules,StageEvaluator.stageRules,StageEvaluator.matching,h.1]

structure Passes (r : SmartStageResult) (m : ModelConfig) : Prop where
  notBanned : m.name ∉ r.bannedModels
  withinCost : ∀ max, r.constraints.maxCostPer1M = some max → ¬ combinedRate m > max
  exclusive : r.legacyExclusive = true → r.preferredModels ≠ [] → m.name ∈ r.preferredModels

theorem passes_evaluate_iff (hb : se.evaluate.blocked = false) (m : ModelConfig) :
    Passes se.evaluate m ↔ SmartEligible se m := by
  cases hl : se.usesLegacyRules with
  | true =>
    obtain ⟨heval,hnone⟩ := evaluate_legacy hl
    have hcost : se.accumulatedMaxCost = none := by
      simp [StageEvaluator.accumulatedMaxCost,hnone]
    have hex : se.exclusiveRule = se.legacyMatch := by
      simp [StageEvaluator.exclusiveRule,hl]
    rw [heval,StageEvaluator.evaluateLegacyRules]
    cases hm : se.legacyMatch with
    | none =>
      constructor
      · intro _
        exact ⟨by simp [hnone],by simp [hcost],by simp [hex,hm]⟩
      · intro _
        exact ⟨by simp,by simp,by simp⟩
    | some rule =>
      have hne : rule.preferModels ≠ [] := by
        have hfound := List.find?_some hm
        simp only [Bool.and_eq_true,Bool.not_eq_true',List.isEmpty_eq_false_iff] at hfound
        exact hfound.2
      constructor
      · intro hp
        refine ⟨by simp [hnone],by simp [hcost],?_⟩
        intro rule' hrule'
        rw [hex,hm,Option.some.injEq] at hrule'
        subst hrule'
        exact hp.exclusive rfl hne
      · intro he
        exact ⟨by simp,by simp,fun _ _ => he.exclusive rule (by rw [hex,hm])⟩
  | false =>
    have heval : se.evaluate =
        se.evaluateRules se.stageRules { promptLength := (prompt se.messages).totalChars } := by
      simp [StageEvaluator.evaluate,hl]
    have hex : se.exclusiveRule = none := by simp [StageEvaluator.exclusiveRule,hl]
    rw [heval] at hb ⊢
    obtain ⟨hban,hmax,hleg⟩ := evaluateRules_accumulates _ _ hb
    constructor
    · rintro ⟨hn,hc,-⟩
      refine ⟨?_,?_,by simp [hex]⟩
      · intro rule hrule hmem
        apply hn
        rw [hban]
        simpa using ⟨rule,hrule,hmem⟩
      · intro max hacc
        exact hc max (hmax.trans hacc)
    · rintro ⟨hn,hc,-⟩
      refine ⟨?_,?_,?_⟩
      · rw [hban]
        simpa [StageEvaluator.matchedRules] using hn
      · intro max hacc
        exact hc max (hmax.symm.trans hacc)
      · intro htrue
        rw [hleg] at htrue
        cases htrue

def passes (r : SmartStageResult) (m : ModelConfig) : Bool :=
  !r.bannedModels.contains m.name &&
    r.constraints.maxCostPer1M.all (fun max => !(combinedRate m > max)) &&
    (!r.legacyExclusive || r.preferredModels.isEmpty || r.preferredModels.contains m.name)

theorem passes_iff {r : SmartStageResult} {m : ModelConfig} :
    passes r m = true ↔ Passes r m := by
  have hcost : r.constraints.maxCostPer1M.all (fun max => !(combinedRate m > max)) = true ↔
      ∀ max, r.constraints.maxCostPer1M = some max → ¬ combinedRate m > max := by
    cases r.constraints.maxCostPer1M <;> simp
  simp only [passes,Bool.and_eq_true,hcost]
  constructor
  · rintro ⟨⟨hn,hc⟩,hx⟩
    refine ⟨by simpa using hn,hc,?_⟩
    intro hl hp
    simpa [hl,hp] using hx
  · rintro ⟨hn,hc,hx⟩
    refine ⟨⟨by simpa using hn,hc⟩,?_⟩
    by_cases hl : r.legacyExclusive = true
    · by_cases hp : r.preferredModels = []
      · simp [hp]
      · simp [hx hl hp]
    · simp [hl]

theorem applyStageResult_of_no_preference {r : SmartStageResult} (hb : r.blocked = false)
    (hp : r.preferredModels = []) (cs : List ModelConfig) :
    applyStageResult cs r = cs.filter (passes r) := by
  have hpass : passes r = fun m => r.constraints.maxCostPer1M.all (fun max =>
      !(combinedRate m > max)) && !r.bannedModels.contains m.name := by
    funext m
    simp [passes,hp,Bool.and_comm]
  simp [applyStageResult,hb,hp,hpass,List.filter_filter]

theorem applyStageResult_perm (cs : List ModelConfig) {r : SmartStageResult}
    (hb : r.blocked = false) : (applyStageResult cs r).Perm (cs.filter (passes r)) := by
  by_cases hp : r.preferredModels = []
  · rw [applyStageResult_of_no_preference hb hp]
  · simp only [applyStageResult,hb,Bool.false_eq_true,if_false]
    have hne : r.preferredModels.isEmpty = false := by simpa using hp
    cases hl : r.legacyExclusive with
    | true =>
      have hpass : passes r = fun m => r.preferredModels.contains m.name &&
          (r.constraints.maxCostPer1M.all (fun max => !(combinedRate m > max)) &&
            !r.bannedModels.contains m.name) := by
        funext m
        simp [passes,hne,hl,Bool.and_comm]
      simp [hp,hpass,List.filter_filter]
    | false =>
      have hpass : passes r = fun m => r.constraints.maxCostPer1M.all (fun max =>
          !(combinedRate m > max)) && !r.bannedModels.contains m.name := by
        funext m
        simp [passes,hl,Bool.and_comm]
      rw [hpass,← List.filter_filter]
      simp only [hne,Bool.false_eq_true,if_false]
      exact List.filter_append_perm (fun c : ModelConfig => r.preferredModels.contains c.name) _

end Evaluate

section Dispatch

variable {rt rt' : Router} {req : Request} {cs : List ModelConfig} {ordered : List String}
    {flags : SmartFlags}

theorem roundRobin_eq_rotate (rt : Router) (tenantID : String) (cs : List ModelConfig) :
    (rt.roundRobin tenantID cs).1 =
      (modelNames cs).rotate (rt.rrIndex tenantID % cs.length) := by
  have hlen : (modelNames cs).length = cs.length := by simp [modelNames]
  apply List.ext_getElem
  · simp [roundRobin,hlen]
  · intro i h1 h2
    have hi : i < cs.length := by simpa [roundRobin] using h1
    have hpos : 0 < cs.length := by omega
    simp only [roundRobin,List.getElem_map,List.getElem_range,List.getElem_rotate,hlen]
    rw [List.getD_eq_getElem _ _ (by rw [hlen]; exact Nat.mod_lt _ hpos)]
    congr 1
    rw [Nat.add_comm]

theorem sorted_names_perm (less : Entry → Entry → Bool) (entries : List Entry) :
    ((sliceStable less entries).map (·.name)).Perm (entries.map (·.name)) :=
  (sliceStable_perm less entries).map _

theorem costBased_perm (cs : List ModelConfig) : (costBased cs).Perm (modelNames cs) := by
  have h := sorted_names_perm (fun a b => decide (a.key < b.key))
    (cs.map (fun c => (⟨c.name,combinedRate c⟩ : Entry)))
  simpa [costBased,modelNames,Function.comp_def] using h

theorem latencyBased_perm (rt : Router) (tenantID : String) (cs : List ModelConfig) :
    (rt.latencyBased tenantID cs).Perm (modelNames cs) := by
  have h := sorted_names_perm (fun a b => decide (a.key < b.key))
    (cs.map (fun c => (⟨c.name,rt.latencyEstimate tenantID c.name⟩ : Entry)))
  simpa [latencyBased,modelNames,Function.comp_def] using h

theorem preferredFirst_perm (preferred names : List String) :
    (preferredFirst preferred names).Perm names := by
  unfold preferredFirst
  split
  · exact .refl _
  · exact List.filter_append_perm (fun n => preferred.contains n) names

theorem scored_names (rt : Router) (req : Request) (cfg : SmartConfig) (cs : List ModelConfig) :
    (rt.scored req cfg cs).map (·.name) = modelNames cs := by
  apply List.ext_getElem
  · simp [scored,modelNames]
  · intro i h1 h2
    simp [scored,modelNames]

theorem rank_perm (rt : Router) (req : Request) (cfg : SmartConfig) (preferred : List String)
    (cs : List ModelConfig) : (rt.rank req cfg preferred cs).Perm (modelNames cs) := by
  have h := sorted_names_perm (fun a b => decide (a.key > b.key)) (rt.scored req cfg cs)
  rw [scored_names] at h
  exact (preferredFirst_perm _ _).trans h

theorem smartPool_eq_filter {r : SmartStageResult} {pool : List ModelConfig}
    (h : smartPool req r = some pool) :
    pool = req.candidates.filter (inAll (req.smartGroups r)) := by
  have hg : req.routeGroups.isSome = true ↔ req.routeGroups ≠ none := by
    cases req.routeGroups <;> simp
  simp only [smartPool,restrict_eq_filter,filterByNames_eq_filter] at h
  simp only [Request.smartGroups]
  split_ifs at h with ha hd he
  · cases h
    rw [if_neg (by simp [ha.2.1,hg.mp ha.2.2]),if_pos ha.1]
  · cases h
    have han : r.anchorRouteGroup = "" := by
      by_contra hc
      exact ha ⟨hc,hd.2.2.1,hd.2.2.2⟩
    rw [if_neg (by simp [hd.2.2.1,hg.mp hd.2.2.2]),if_neg (by simp [han]),if_pos ⟨hd.1,hd.2.1⟩]
  · cases h
    split_ifs with hr ha' hd'
    · exact (filter_inAll_nil _).symm
    · simp only [not_or,not_not] at hr
      exact absurd ⟨ha',hr.1,hg.mpr hr.2⟩ ha
    · simp only [not_or,not_not] at hr
      exact absurd ⟨hd'.1,hd'.2,hr.1,hg.mpr hr.2⟩ hd
    · exact (filter_inAll_nil _).symm

structure SmartOrder (req : Request) (cfg : SmartConfig) (ordered : List String) : Prop where
  unblocked : (req.evaluator cfg).evaluate.blocked = false
  names : ∃ pool, smartPool req (req.evaluator cfg).evaluate = some pool ∧
    ordered.Perm (modelNames (applyStageResult pool (req.evaluator cfg).evaluate))

theorem smartBased_cases {cfg : SmartConfig} (h : (rt.smartBased req cfg).1 ≠ []) :
    (req.evaluator cfg).evaluate.blocked = false ∧ ∃ pool c rest,
      smartPool req (req.evaluator cfg).evaluate = some pool ∧
      applyStageResult pool (req.evaluator cfg).evaluate = c :: rest ∧
      (rest = [] ∧ (rt.smartBased req cfg).1 = [c.name] ∨
        (rt.smartBased req cfg).1 =
          rt.rank req cfg (req.evaluator cfg).evaluate.preferredModels (c :: rest)) := by
  simp only [smartBased] at h ⊢
  cases hb : (req.evaluator cfg).evaluate.blocked with
  | true => simp [hb] at h
  | false =>
    simp only [hb,Bool.false_eq_true,if_false] at h ⊢
    cases hp : smartPool req (req.evaluator cfg).evaluate with
    | none => simp [hp] at h
    | some pool =>
      simp only [hp] at h ⊢
      cases happ : applyStageResult pool (req.evaluator cfg).evaluate with
      | nil => simp [happ] at h
      | cons c rest =>
        refine ⟨trivial,pool,c,rest,rfl,happ,?_⟩
        cases rest with
        | nil => exact .inl ⟨rfl,rfl⟩
        | cons d rest => exact .inr rfl

theorem smartBased_order {cfg : SmartConfig} (h : (rt.smartBased req cfg).1 ≠ []) :
    SmartOrder req cfg (rt.smartBased req cfg).1 := by
  obtain ⟨hb,pool,c,rest,hp,happ,⟨hrest,hone⟩ | hrank⟩ := smartBased_cases h
  · exact ⟨hb,pool,hp,by rw [hone,happ,hrest]; exact .refl _⟩
  · exact ⟨hb,pool,hp,by rw [hrank,happ]; exact rank_perm _ _ _ _ _⟩

theorem dispatch_perm (hs : req.strategy ≠ "smart")
    (h : (rt.dispatch req cs).1 = .ok (ordered,flags)) : ordered.Perm (modelNames cs) := by
  simp only [dispatch] at h
  split_ifs at h
  · cases h
    rw [roundRobin_eq_rotate]
    exact List.rotate_perm _ _
  · cases h
    exact latencyBased_perm _ _ _
  · cases h
    exact costBased_perm _
  · cases h
    exact .refl _
  · cases h
    exact .refl _

theorem dispatch_smart (hs : req.strategy = "smart")
    (h : (rt.dispatch req cs).1 = .ok (ordered,flags)) :
    ∃ cfg, req.smartConfig = some cfg ∧
      (ordered,flags) = rt.smartBased { req with candidates := cs } cfg := by
  simp only [dispatch,hs] at h
  cases hc : req.smartConfig with
  | none => simp [hc] at h
  | some cfg =>
    simp [hc] at h
    exact ⟨cfg,rfl,h.symm⟩

end Dispatch

section Select

variable {rt : Router} {req : Request} {res : Result} {cs : List ModelConfig}

theorem finish_ok {ordered : List String} {flags : SmartFlags}
    (h : finish req (ordered,flags) = .ok res) :
    res.candidates = removeFailModels ordered req.failModels ∧
      res.candidates.head? = some res.selected := by
  simp only [finish] at h
  cases hr : removeFailModels ordered req.failModels with
  | nil => simp [hr] at h
  | cons selected rest =>
    simp only [hr,Except.ok.injEq] at h
    subst h
    exact ⟨rfl,rfl⟩

theorem forced_ok {model : String} {fail : String → Bool} (h : forced model cs fail = .ok res) :
    model ∈ modelNames cs ∧
      res.candidates = removeFailModels (model :: (modelNames cs).filter (· ≠ model)) fail ∧
      res.candidates.head? = some res.selected := by
  unfold forced at h
  split_ifs at h with hm
  refine ⟨by simpa using hm,?_⟩
  cases hr : removeFailModels (model :: (modelNames cs).filter (· ≠ model)) fail with
  | nil =>
    rw [hr] at h
    cases h
  | cons selected rest =>
    simp only [hr,Except.ok.injEq] at h
    subst h
    exact ⟨rfl,rfl⟩

theorem select_ok (h : (rt.select req).1 = .ok res) :
    ∃ cs, req.pool = .ok cs ∧
      ((req.forcedModel ≠ "" ∧ forced req.forcedModel cs req.failModels = .ok res) ∨
        (req.forcedModel = "" ∧ cs ≠ [] ∧ ∃ ordered flags,
          (rt.dispatch req cs).1 = .ok (ordered,flags) ∧ finish req (ordered,flags) = .ok res)) := by
  simp only [select] at h
  cases hp : req.pool with
  | error err => simp [hp] at h
  | ok cs =>
    refine ⟨cs,rfl,?_⟩
    simp only [hp] at h
    split_ifs at h with hf he
    · exact .inl ⟨hf,h⟩
    · simp only [not_not] at hf
      refine .inr ⟨hf,by simpa using he,?_⟩
      cases hd : (rt.dispatch req cs).1 with
      | error err => simp [hd,Except.bind] at h
      | ok out => exact ⟨out.1,out.2,rfl,by simpa [hd,Except.bind] using h⟩

theorem mem_removeFailModels {ordered : List String} {fail : String → Bool} {n : String} :
    n ∈ removeFailModels ordered fail ↔ n ∈ ordered ∧ fail n = false := by
  simp [removeFailModels]

theorem mem_modelNames {n : String} : n ∈ modelNames cs ↔ ∃ m ∈ cs, m.name = n := by
  simp [modelNames]

theorem modelNames_sublist {ds : List ModelConfig} (h : ds.Sublist cs) :
    (modelNames ds).Sublist (modelNames cs) := h.map _

structure Selects (req : Request) (ordered : List String) : Prop where
  mem : ∀ n, n ∈ ordered ↔ ∃ m ∈ req.candidates, m.name = n ∧
    (∀ g ∈ req.poolGroups, m.name ∈ g) ∧
    (req.strategy = "smart" → req.forcedModel = "" → ∀ cfg, req.smartConfig = some cfg →
      (∀ g ∈ req.smartGroups (req.evaluator cfg).evaluate, m.name ∈ g) ∧
        SmartEligible (req.evaluator cfg) m)
  nodup : (modelNames req.candidates).Nodup → ordered.Nodup

theorem selects_forced {model : String} (hp : req.pool = .ok cs) (hf : req.forcedModel = model)
    (hne : model ≠ "") (hm : model ∈ modelNames cs) :
    Selects req (model :: (modelNames cs).filter (· ≠ model)) := by
  constructor
  · intro n
    have hmem : n ∈ model :: (modelNames cs).filter (· ≠ model) ↔ n ∈ modelNames cs := by
      by_cases hn : n = model
      · simp [hn,hm]
      · simp [hn]
    rw [hmem,mem_modelNames]
    constructor
    · rintro ⟨m,hmcs,hname⟩
      obtain ⟨hc,hg⟩ := (mem_pool hp m).mp hmcs
      exact ⟨m,hc,hname,hg,fun _ hforced => absurd (hf.symm.trans hforced) hne⟩
    · rintro ⟨m,hc,hname,hg,-⟩
      exact ⟨m,(mem_pool hp m).mpr ⟨hc,hg⟩,hname⟩
  · intro hn
    have hcs : (modelNames cs).Nodup := hn.sublist (modelNames_sublist (pool_sublist hp))
    exact List.nodup_cons.mpr ⟨by simp,hcs.filter _⟩

theorem selects_plain {ordered : List String} (hp : req.pool = .ok cs)
    (hs : req.strategy ≠ "smart") (hperm : ordered.Perm (modelNames cs)) :
    Selects req ordered := by
  constructor
  · intro n
    rw [hperm.mem_iff,mem_modelNames]
    constructor
    · rintro ⟨m,hmcs,hname⟩
      obtain ⟨hc,hg⟩ := (mem_pool hp m).mp hmcs
      exact ⟨m,hc,hname,hg,fun hsmart => absurd hsmart hs⟩
    · rintro ⟨m,hc,hname,hg,-⟩
      exact ⟨m,(mem_pool hp m).mpr ⟨hc,hg⟩,hname⟩
  · intro hn
    exact hperm.nodup_iff.mpr (hn.sublist (modelNames_sublist (pool_sublist hp)))

theorem selects_smart {ordered : List String} {cfg : SmartConfig} (hp : req.pool = .ok cs)
    (hs : req.strategy = "smart") (hf : req.forcedModel = "") (hcfg : req.smartConfig = some cfg)
    (hord : SmartOrder { req with candidates := cs } cfg ordered) : Selects req ordered := by
  obtain ⟨hb,pool,hpool,hperm⟩ := hord
  have hfilter : pool = cs.filter (inAll (req.smartGroups (req.evaluator cfg).evaluate)) :=
    smartPool_eq_filter hpool
  have hmem : ∀ m, m ∈ pool ↔
      m ∈ cs ∧ ∀ g ∈ req.smartGroups (req.evaluator cfg).evaluate, m.name ∈ g := by
    intro m
    rw [hfilter,List.mem_filter,inAll_iff]
  have hsub : pool.Sublist cs := hfilter ▸ List.filter_sublist
  have happ := (applyStageResult_perm pool hb).map (fun m : ModelConfig => m.name)
  have hall : ordered.Perm (modelNames (pool.filter (passes (req.evaluator cfg).evaluate))) :=
    hperm.trans happ
  constructor
  · intro n
    rw [hall.mem_iff,mem_modelNames]
    constructor
    · rintro ⟨m,hm,hname⟩
      obtain ⟨hmp,hpass⟩ := List.mem_filter.mp hm
      obtain ⟨hmcs,hsg⟩ := (hmem m).mp hmp
      obtain ⟨hc,hg⟩ := (mem_pool hp m).mp hmcs
      refine ⟨m,hc,hname,hg,?_⟩
      intro _ _ cfg' hcfg'
      obtain rfl : cfg = cfg' := Option.some_injective _ (hcfg.symm.trans hcfg')
      exact ⟨hsg,(passes_evaluate_iff hb m).mp (passes_iff.mp hpass)⟩
    · rintro ⟨m,hc,hname,hg,hsmart⟩
      obtain ⟨hsg,helig⟩ := hsmart hs hf cfg hcfg
      refine ⟨m,List.mem_filter.mpr ⟨?_,?_⟩,hname⟩
      · exact (hmem m).mpr ⟨(mem_pool hp m).mpr ⟨hc,hg⟩,hsg⟩
      · exact passes_iff.mpr ((passes_evaluate_iff hb m).mpr helig)
  · intro hn
    have hsub' := (List.filter_sublist (p := passes (req.evaluator cfg).evaluate)).trans
      (hsub.trans (pool_sublist hp))
    exact hall.nodup_iff.mpr (hn.sublist (modelNames_sublist hsub'))

theorem select_selects (h : (rt.select req).1 = .ok res) :
    ∃ ordered, Selects req ordered ∧
      res.candidates = removeFailModels ordered req.failModels ∧
      res.candidates.head? = some res.selected := by
  obtain ⟨cs,hp,⟨hf,hforced⟩ | ⟨hf,hne,ordered,flags,hd,hfin⟩⟩ := select_ok h
  · obtain ⟨hm,hres⟩ := forced_ok hforced
    exact ⟨_,selects_forced hp rfl hf hm,hres⟩
  · obtain ⟨hcand,hhead⟩ := finish_ok hfin
    refine ⟨ordered,?_,hcand,hhead⟩
    by_cases hs : req.strategy = "smart"
    · obtain ⟨cfg,hcfg,hsmart⟩ := dispatch_smart hs hd
      have hordered : ordered = (rt.smartBased { req with candidates := cs } cfg).1 :=
        congrArg Prod.fst hsmart
      have hnil : ordered ≠ [] := by
        rintro rfl
        rw [hcand] at hhead
        simp [removeFailModels] at hhead
      rw [hordered] at hnil ⊢
      exact selects_smart hp hs hf hcfg (smartBased_order hnil)
    · exact selects_plain hp hs (dispatch_perm hs hd)

theorem mem_candidates_iff (h : (rt.select req).1 = .ok res) {n : String} :
    n ∈ res.candidates ↔ ∃ m ∈ req.candidates, m.name = n ∧ req.Eligible m := by
  obtain ⟨ordered,hsel,hcand,-⟩ := select_selects h
  rw [hcand,mem_removeFailModels,hsel.mem]
  constructor
  · rintro ⟨⟨m,hm,hname,hgroups,hsmart⟩,hfail⟩
    exact ⟨m,hm,hname,hgroups,hname ▸ hfail,hsmart⟩
  · rintro ⟨m,hm,hname,hgroups,hfail,hsmart⟩
    exact ⟨⟨m,hm,hname,hgroups,hsmart⟩,hname ▸ hfail⟩

theorem selection_sound_complete (h : (rt.select req).1 = .ok res) :
    res.candidates.head? = some res.selected ∧
      (∀ n, n ∈ res.candidates ↔ ∃ m ∈ req.candidates, m.name = n ∧ req.Eligible m) ∧
      ((modelNames req.candidates).Nodup → res.candidates.Nodup) := by
  obtain ⟨ordered,hsel,hcand,hhead⟩ := select_selects h
  refine ⟨hhead,fun n => mem_candidates_iff h,fun hn => ?_⟩
  rw [hcand]
  exact (hsel.nodup hn).filter _

end Select

section Servable

variable {rt : Router} {req : Request} {cs : List ModelConfig} {m : ModelConfig}

structure Request.Servable (req : Request) : Prop where
  eligible : ∃ m ∈ req.candidates, req.Eligible m
  forced : req.forcedModel ≠ "" →
    ∃ m ∈ req.candidates, m.name = req.forcedModel ∧ ∀ g ∈ req.poolGroups, m.name ∈ g
  unblocked : req.forcedModel = "" → req.strategy = "smart" →
    ∃ cfg, req.smartConfig = some cfg ∧ (req.evaluator cfg).evaluate.blocked = false

theorem smartPool_of_mem {r : SmartStageResult} (hm : m ∈ req.candidates)
    (hgroups : ∀ g ∈ req.smartGroups r, m.name ∈ g) : ∃ pool, smartPool req r = some pool ∧ m ∈ pool := by
  cases hpool : smartPool req r with
  | some pool =>
    refine ⟨pool,rfl,?_⟩
    rw [smartPool_eq_filter hpool]
    exact List.mem_filter.mpr ⟨hm,inAll_iff.mpr hgroups⟩
  | none =>
    simp only [smartPool] at hpool
    split_ifs at hpool with hanchor hdefault hempty
    obtain ⟨hnone,hnamed,hgroup,hsome⟩ := hdefault
    have hstay : ¬(req.routeGroup ≠ "" ∨ req.routeGroups = none) := by
      rintro (h | h)
      · exact h hgroup
      · simp [h] at hsome
    have hanchorless : ¬r.anchorRouteGroup ≠ "" := fun h => hanchor ⟨h,hgroup,hsome⟩
    have hin : m.name ∈ req.defaultGroup := by
      refine hgroups _ ?_
      simp only [Request.smartGroups,if_neg hstay,if_neg hanchorless,if_pos (And.intro hnone hnamed),
        List.mem_singleton]
    have hmem : m ∈ filterByNames req.candidates req.defaultGroup :=
      List.mem_filter.mpr ⟨hm,List.contains_iff_mem.mpr hin⟩
    rw [List.isEmpty_iff.mp hempty] at hmem
    cases hmem

theorem mem_smartBased {cfg : SmartConfig} (hb : (req.evaluator cfg).evaluate.blocked = false)
    (hm : m ∈ req.candidates)
    (hgroups : ∀ g ∈ req.smartGroups (req.evaluator cfg).evaluate, m.name ∈ g)
    (he : SmartEligible (req.evaluator cfg) m) : m.name ∈ (rt.smartBased req cfg).1 := by
  obtain ⟨pool,hpool,hin⟩ := smartPool_of_mem hm hgroups
  have happ : m ∈ applyStageResult pool (req.evaluator cfg).evaluate := by
    rw [(applyStageResult_perm pool hb).mem_iff]
    exact List.mem_filter.mpr ⟨hin,passes_iff.mpr ((passes_evaluate_iff hb m).mpr he)⟩
  simp only [smartBased,hb,Bool.false_eq_true,if_false,hpool]
  cases hlist : applyStageResult pool (req.evaluator cfg).evaluate with
  | nil =>
    rw [hlist] at happ
    cases happ
  | cons c rest =>
    rw [hlist] at happ
    cases rest with
    | nil =>
      rw [List.mem_singleton.mp happ]
      exact List.mem_singleton_self _
    | cons d rest =>
      rw [(rank_perm _ _ _ _ _).mem_iff]
      exact mem_modelNames.mpr ⟨m,happ,rfl⟩

theorem mem_dispatch (hm : m ∈ cs) (hsmart : req.strategy = "smart" → ∃ cfg,
    req.smartConfig = some cfg ∧ (req.evaluator cfg).evaluate.blocked = false ∧
      (∀ g ∈ req.smartGroups (req.evaluator cfg).evaluate, m.name ∈ g) ∧
        SmartEligible (req.evaluator cfg) m) :
    ∃ ordered flags, (rt.dispatch req cs).1 = .ok (ordered,flags) ∧ m.name ∈ ordered := by
  by_cases hs : req.strategy = "smart"
  · obtain ⟨cfg,hcfg,hb,hgroups,he⟩ := hsmart hs
    have hmem := @mem_smartBased rt { req with candidates := cs } m cfg hb hm hgroups he
    refine ⟨_,(rt.smartBased { req with candidates := cs } cfg).2,?_,hmem⟩
    simp only [dispatch,hs,hcfg]
    rfl
  · have hok : ∃ out, (rt.dispatch req cs).1 = .ok out := by
      simp only [dispatch,hs,if_false]
      split_ifs <;> exact ⟨_,rfl⟩
    obtain ⟨⟨ordered,flags⟩,hout⟩ := hok
    refine ⟨ordered,flags,hout,?_⟩
    rw [(dispatch_perm hs hout).mem_iff]
    exact mem_modelNames.mpr ⟨m,hm,rfl⟩

theorem finish_of_mem {ordered : List String} {flags : SmartFlags} {n : String} (hn : n ∈ ordered)
    (hfail : req.failModels n = false) : ∃ res, finish req (ordered,flags) = .ok res := by
  have hmem := mem_removeFailModels.mpr ⟨hn,hfail⟩
  simp only [finish]
  cases hr : removeFailModels ordered req.failModels with
  | nil =>
    rw [hr] at hmem
    cases hmem
  | cons selected rest => exact ⟨_,rfl⟩

theorem forced_of_mem {model n : String} {fail : String → Bool} (hmodel : model ∈ modelNames cs)
    (hn : n ∈ modelNames cs) (hfail : fail n = false) : ∃ res, forced model cs fail = .ok res := by
  have hmem : n ∈ removeFailModels (model :: (modelNames cs).filter (· ≠ model)) fail := by
    rw [mem_removeFailModels]
    by_cases hsame : n = model
    · exact ⟨hsame ▸ List.mem_cons_self,hfail⟩
    · exact ⟨List.mem_cons_of_mem _ (List.mem_filter.mpr ⟨hn,by simpa using hsame⟩),hfail⟩
  have hin : (!(modelNames cs).contains model) = false := by simpa using hmodel
  simp only [forced,hin,Bool.false_eq_true,if_false]
  cases hr : removeFailModels (model :: (modelNames cs).filter (· ≠ model)) fail with
  | nil =>
    rw [hr] at hmem
    cases hmem
  | cons selected rest => exact ⟨_,rfl⟩

theorem servable_of_select {res : Result} (h : (rt.select req).1 = .ok res) : req.Servable := by
  obtain ⟨ordered,-,-,hhead⟩ := select_selects h
  obtain ⟨m,hm,-,he⟩ := (mem_candidates_iff h).mp (List.mem_of_mem_head? hhead)
  obtain ⟨cs,hp,⟨hf,hforced⟩ | ⟨hf,hne,ordered,flags,hd,hfin⟩⟩ := select_ok h
  · refine ⟨⟨m,hm,he⟩,fun _ => ?_,fun hnone => absurd hnone hf⟩
    obtain ⟨x,hx,hname⟩ := mem_modelNames.mp (forced_ok hforced).1
    obtain ⟨hcand,hgroups⟩ := (mem_pool hp x).mp hx
    exact ⟨x,hcand,hname,hgroups⟩
  · refine ⟨⟨m,hm,he⟩,fun hnamed => absurd hf hnamed,fun _ hs => ?_⟩
    obtain ⟨cfg,hcfg,hsmart⟩ := dispatch_smart hs hd
    have hordered : ordered = (rt.smartBased { req with candidates := cs } cfg).1 :=
      congrArg Prod.fst hsmart
    have hnil : (rt.smartBased { req with candidates := cs } cfg).1 ≠ [] := by
      obtain ⟨hcand,hfirst⟩ := finish_ok hfin
      rintro hnil
      rw [hcand,hordered,hnil] at hfirst
      simp [removeFailModels] at hfirst
    exact ⟨cfg,hcfg,(smartBased_order hnil).unblocked⟩

theorem select_of_servable (h : req.Servable) : ∃ res, (rt.select req).1 = .ok res := by
  obtain ⟨m,hm,he⟩ := h.eligible
  have hin : m ∈ req.candidates.filter (inAll req.poolGroups) :=
    List.mem_filter.mpr ⟨hm,inAll_iff.mpr he.inGroups⟩
  have hp := pool_of_mem hin
  by_cases hf : req.forcedModel = ""
  · have hne : (req.candidates.filter (inAll req.poolGroups)).isEmpty = false :=
      List.isEmpty_eq_false_iff.mpr (List.ne_nil_of_mem hin)
    obtain ⟨ordered,flags,hd,hname⟩ := @mem_dispatch rt req _ m hin fun hs => by
      obtain ⟨cfg,hcfg,hb⟩ := h.unblocked hf hs
      exact ⟨cfg,hcfg,hb,he.smart hs hf cfg hcfg⟩
    obtain ⟨res,hres⟩ := @finish_of_mem req ordered flags m.name hname he.available
    refine ⟨res,?_⟩
    simp only [select,hp,hf,ne_eq,not_true_eq_false,if_false,hne,Bool.false_eq_true,hd]
    exact hres
  · obtain ⟨x,hx,hname,hgroups⟩ := h.forced hf
    have hx' : x ∈ req.candidates.filter (inAll req.poolGroups) :=
      List.mem_filter.mpr ⟨hx,inAll_iff.mpr hgroups⟩
    obtain ⟨res,hres⟩ := forced_of_mem (mem_modelNames.mpr ⟨x,hx',hname⟩)
      (mem_modelNames.mpr ⟨m,hin,rfl⟩) he.available
    refine ⟨res,?_⟩
    simp only [select,hp,hf,ne_eq,not_false_eq_true,if_true]
    exact hres

theorem select_ok_iff (rt : Router) (req : Request) :
    (∃ res, (rt.select req).1 = .ok res) ↔ req.Servable :=
  ⟨fun ⟨_,h⟩ => servable_of_select h,select_of_servable⟩

theorem eligible_with {cs : List ModelConfig} :
    ({ req with candidates := cs } : Request).Eligible m ↔ req.Eligible m :=
  ⟨fun h => ⟨h.inGroups,h.available,h.smart⟩,fun h => ⟨h.inGroups,h.available,h.smart⟩⟩

theorem servable_with_group {g : List String} (hg : g ∈ req.poolGroups) :
    ({ req with candidates := req.candidates.filter (fun c => g.contains c.name) } : Request).Servable ↔
      req.Servable := by
  constructor
  · rintro ⟨⟨m,hm,he⟩,hforced,hunblocked⟩
    refine ⟨⟨m,(List.mem_filter.mp hm).1,eligible_with.mp he⟩,fun hf => ?_,hunblocked⟩
    obtain ⟨x,hx,hname,hgroups⟩ := hforced hf
    exact ⟨x,(List.mem_filter.mp hx).1,hname,hgroups⟩
  · rintro ⟨⟨m,hm,he⟩,hforced,hunblocked⟩
    refine ⟨⟨m,?_,eligible_with.mpr he⟩,fun hf => ?_,hunblocked⟩
    · exact List.mem_filter.mpr ⟨hm,List.contains_iff_mem.mpr (he.inGroups g hg)⟩
    · obtain ⟨x,hx,hname,hgroups⟩ := hforced hf
      exact ⟨x,List.mem_filter.mpr ⟨hx,List.contains_iff_mem.mpr (hgroups g hg)⟩,hname,hgroups⟩

end Servable

def idleRouter : Router :=
  ⟨fun _ => 0,fun _ _ => none,fun _ _ => none,fun _ _ => none⟩

def banLongPrompts : SmartConfig where
  stages := [{ name := "cost", rules := [
    { «when» := { promptLength := some { gt := some 3 } }, action := { banModels := ["opus"] } }] }]

def bannedRequest : Request where
  tenantID := "acme"
  strategy := "smart"
  candidates := [{ name := "opus", provider := "anthropic" },{ name := "gpt", provider := "openai" }]
  defaultRouteGroup := "main"
  routeGroups := some [("main",["opus","gpt"])]
  smartConfig := some banLongPrompts
  messages := ["hello"]

theorem selection_without_banned_model :
    (idleRouter.select bannedRequest).1 =
        .ok { selected := "gpt"
              candidates := ["gpt"]
              smartResult := some (bannedRequest.evaluator banLongPrompts).evaluate } ∧
      ¬ ∃ m ∈ bannedRequest.candidates, m.name = "opus" ∧ bannedRequest.Eligible m := by
  have hselect : (idleRouter.select bannedRequest).1 =
      .ok { selected := "gpt"
            candidates := ["gpt"]
            smartResult := some (bannedRequest.evaluator banLongPrompts).evaluate } := by
    decide
  refine ⟨hselect,?_⟩
  rw [← (selection_sound_complete hselect).2.1]
  decide

def semanticBan : SmartStageRule where
  «when» := { semanticSimilarity := some { threshold := 0.5 } }
  action := { banModels := ["opus"], useAnchor := true }

def anchoredRequest : Request where
  tenantID := "acme"
  strategy := "smart"
  candidates := [{ name := "opus", provider := "anthropic" }]
  smartConfig := some { stages := [{ name := "guard", rules := [semanticBan] }] }
  messages := ["hello"]
  semanticDeps := some ⟨fun _ => some [1],fun _ _ => some { name := "billing", distance := 0.25 }⟩

theorem semantic_ban_not_applied :
    ∃ cfg res, anchoredRequest.smartConfig = some cfg ∧
      (anchoredRequest.evaluator cfg).stageRules = [("guard",semanticBan)] ∧
      (anchoredRequest.evaluator cfg).evaluate.stagesEvaluated = ["guard"] ∧
      "opus" ∈ semanticBan.action.banModels ∧
      (idleRouter.select anchoredRequest).1 = .ok res ∧ "opus" ∈ res.candidates := by
  refine ⟨_,{ selected := "opus"
              candidates := ["opus"]
              smartResult := some (anchoredRequest.evaluator
                { stages := [{ name := "guard", rules := [semanticBan] }] }).evaluate },rfl,rfl,?_⟩
  refine ⟨?_,?_,?_,?_⟩ <;> decide

end PrismGateway.Router
