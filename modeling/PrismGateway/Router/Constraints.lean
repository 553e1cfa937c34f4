import PrismGateway.Lib.LeastLimit
import PrismGateway.Router.BlockRules

namespace PrismGateway.Router

open Lib Config

namespace StageEvaluator

def rulesMatched (se : StageEvaluator) : List (String × SmartStageRule) → SmartStageResult →
    List SmartStageRule
  | [], _ => []
  | (stage,rule) :: rest, r =>
    match rule.when.semanticSimilarity with
    | some cond =>
      if r.blocked || !r.preferredModels.isEmpty || r.anchorRouteGroup ≠ "" then
        se.rulesMatched rest r
      else
        match se.evaluateSemantic (se.threshold cond) with
        | none => se.rulesMatched rest r
        | some anchor => rule :: se.rulesMatched rest (applyAnchor stage rule.action anchor r)
    | none =>
      if evaluateCondition (prompt se.messages) rule.when then
        let r := { r with stagesEvaluated := r.stagesEvaluated ++ [stage] }
        if rule.action.block then [rule] else rule :: se.rulesMatched rest (applyAction rule.action r)
      else se.rulesMatched rest r

def recordedRules (se : StageEvaluator) : List SmartStageRule :=
  se.rulesMatched se.stageRules { promptLength := (prompt se.messages).totalChars }

end StageEvaluator

def standard (rule : SmartStageRule) : Bool :=
  rule.when.semanticSimilarity.isNone

def costLimits (rules : List SmartStageRule) : List Float :=
  rules.filterMap (fun rule => rule.action.setConstraints.bind (·.maxCostPer1M))

def latencyLimits (rules : List SmartStageRule) : List Float :=
  rules.filterMap (fun rule => rule.action.setConstraints.bind (·.maxLatencyMs))

def knownLatency (rt : Router) (tenantID model : String) : Option Float :=
  match rt.dbStatsFor tenantID model with
  | some stat => if 0 < stat.avgLatencyMs then some stat.avgLatencyMs else none
  | none => rt.latencyEWMA tenantID model

structure Meets (rt : Router) (tenantID : String) (costs latencies : List Float) (m : ModelConfig) :
    Prop where
  cost : Within costs (combinedRate m)
  latency : ∀ ms, rt.knownLatency tenantID m.name = some ms → Within latencies ms

def HonoursConstraints (rt : Router) (req : Request) (cfg : SmartConfig) : Prop :=
  ∀ res, (rt.select req).1 = .ok res → ∀ n ∈ res.candidates, ∃ m ∈ req.candidates, m.name = n ∧
    rt.Meets req.tenantID (costLimits (req.evaluator cfg).recordedRules)
      (latencyLimits (req.evaluator cfg).recordedRules) m

def StageEvaluator.unenforcedCosts (se : StageEvaluator) : List Float :=
  costLimits (se.recordedRules.filter (fun rule => !standard rule)) ++
    if (costLimits se.matchedRules).head?.any Float.isNaN then costLimits se.matchedRules else []

section Recorded

variable {se : StageEvaluator}

theorem rulesMatched_standard (rules : List (String × SmartStageRule)) : ∀ r,
    (se.evaluateRules rules r).blocked = false →
      (se.rulesMatched rules r).filter standard = se.matching rules := by
  induction rules with
  | nil =>
    intro r _
    rfl
  | cons entry rest ih =>
    intro r hb
    obtain ⟨stage,rule⟩ := entry
    rw [StageEvaluator.evaluateRules] at hb
    rw [StageEvaluator.rulesMatched]
    cases hsem : rule.when.semanticSimilarity with
    | some cond =>
      have hskip : se.matching ((stage,rule) :: rest) = se.matching rest :=
        matching_cons_skip (by rw [hsem]; rfl)
      have hnot : ¬standard rule = true := by
        rw [standard,hsem]
        exact Bool.false_ne_true
      simp only [hsem,StageEvaluator.semanticRule] at hb ⊢
      rw [hskip]
      split_ifs at hb ⊢
      · exact ih r hb
      · cases hanchor : se.evaluateSemantic (se.threshold cond) with
        | none =>
          rw [hanchor] at hb
          exact ih r hb
        | some anchor =>
          rw [hanchor] at hb
          simp only
          rw [List.filter_cons_of_neg hnot]
          exact ih _ hb
    | none =>
      simp only [hsem] at hb ⊢
      cases hcond : evaluateCondition (prompt se.messages) rule.when with
      | false =>
        rw [hcond] at hb
        rw [matching_cons_skip (by rw [hcond,Bool.and_false])]
        exact ih r hb
      | true =>
        simp only [hcond,if_true] at hb ⊢
        have hstandard : standard rule = true := by
          rw [standard,hsem]
          rfl
        rw [matching_cons_match (Bool.and_eq_true_iff.mpr ⟨hstandard,hcond⟩)]
        split_ifs at hb ⊢
        · cases hb
        · rw [List.filter_cons_of_pos hstandard,ih _ hb]

theorem blocked_eq (se : StageEvaluator) : se.evaluate.blocked = se.firstStop.isSome := by
  cases hl : se.usesLegacyRules with
  | false => exact (evaluate_of_stages hl).2.1
  | true =>
    have hstages : se.stageRules = [] := by
      rw [StageEvaluator.usesLegacyRules,Bool.and_eq_true,List.isEmpty_iff] at hl
      rw [StageEvaluator.stageRules,hl.1]
      rfl
    rw [(evaluate_legacy hl).1,StageEvaluator.evaluateLegacyRules,StageEvaluator.firstStop,hstages]
    cases se.legacyMatch <;> rfl

theorem mem_recordedRules (hb : se.evaluate.blocked = false) (rule : SmartStageRule) :
    rule ∈ se.recordedRules ↔ rule ∈ se.matchedRules ∨
      rule ∈ se.recordedRules.filter (fun rule => !standard rule) := by
  have hstandard : se.recordedRules.filter standard = se.matchedRules := by
    cases hl : se.usesLegacyRules with
    | true =>
      rw [StageEvaluator.usesLegacyRules,Bool.and_eq_true,List.isEmpty_iff] at hl
      rw [StageEvaluator.recordedRules,StageEvaluator.matchedRules,StageEvaluator.stageRules,hl.1]
      rfl
    | false =>
      rw [StageEvaluator.evaluate,hl] at hb
      exact rulesMatched_standard _ _ hb
  rw [← hstandard,List.mem_filter,List.mem_filter,← and_or_left]
  cases standard rule <;> simp

theorem mem_costLimits {rules : List SmartStageRule} {l : Float} :
    l ∈ costLimits rules ↔
      ∃ rule ∈ rules, rule.action.setConstraints.bind (·.maxCostPer1M) = some l :=
  List.mem_filterMap

theorem foldl_tighten (rules : List SmartStageRule) : ∀ a,
    rules.foldl StageEvaluator.tightenBy (some a) = some (lowest a (costLimits rules)) := by
  induction rules with
  | nil =>
    intro a
    rfl
  | cons rule rest ih =>
    intro a
    rw [List.foldl_cons,StageEvaluator.tightenBy,costLimits,List.filterMap_cons]
    cases rule.action.setConstraints.bind (·.maxCostPer1M) with
    | none => exact ih a
    | some l =>
      change rest.foldl _ (if l < a then some l else some a) = some (lowest (if l < a then l else a) _)
      split_ifs
      · exact ih l
      · exact ih a

theorem accumulatedMaxCost_eq (se : StageEvaluator) : se.accumulatedMaxCost =
    (costLimits se.matchedRules).head?.map
      (fun first => lowest first (costLimits se.matchedRules).tail) := by
  rw [StageEvaluator.accumulatedMaxCost]
  induction se.matchedRules with
  | nil => rfl
  | cons rule rest ih =>
    rw [List.foldl_cons,StageEvaluator.tightenBy,costLimits,List.filterMap_cons]
    cases rule.action.setConstraints.bind (·.maxCostPer1M) with
    | none => exact ih
    | some l => exact foldl_tighten rest l

theorem within_matched_iff (se : StageEvaluator) (x : Float) :
    Within (costLimits se.matchedRules) x ↔
      (∀ max, se.accumulatedMaxCost = some max → ¬x > max) ∧
        ((costLimits se.matchedRules).head?.any Float.isNaN = true →
          Within (costLimits se.matchedRules) x) := by
  rw [accumulatedMaxCost_eq,within_iff]
  cases costLimits se.matchedRules with
  | nil =>
    refine ⟨fun _ => ⟨fun _ h => absurd h.symm (Option.some_ne_none _),fun h => ?_⟩,fun _ => ?_⟩
    · cases h
    · exact fun _ h => absurd h List.not_mem_nil
  | cons first rest =>
    simp only [List.head?_cons,Option.map_some,List.tail_cons,Option.some.injEq,forall_eq',
      Option.any_some]
    cases hnan : first.isNaN with
    | true =>
      rw [lowest_of_nan hnan]
      exact ⟨fun h => ⟨not_above_nan hnan,fun _ => h⟩,fun h => h.2 rfl⟩
    | false =>
      rw [not_above_lowest_iff rest first hnan]
      refine ⟨fun h => ⟨h,fun hfalse => ?_⟩,fun h => h.1⟩
      cases hfalse

theorem within_recorded_iff (hb : se.evaluate.blocked = false) (x : Float) :
    Within (costLimits se.recordedRules) x ↔
      (∀ max, se.accumulatedMaxCost = some max → ¬x > max) ∧ Within se.unenforcedCosts x := by
  have hsplit : Within (costLimits se.recordedRules) x ↔ Within (costLimits se.matchedRules) x ∧
      Within (costLimits (se.recordedRules.filter (fun rule => !standard rule)))
        x := by
    simp only [within_iff,mem_costLimits]
    constructor
    · intro h
      refine ⟨?_,?_⟩
      · rintro l ⟨rule,hrule,hl⟩
        exact h l ⟨rule,(mem_recordedRules hb rule).mpr (.inl hrule),hl⟩
      · rintro l ⟨rule,hrule,hl⟩
        exact h l ⟨rule,(mem_recordedRules hb rule).mpr (.inr hrule),hl⟩
    · rintro ⟨hstandard,hsemantic⟩ l ⟨rule,hrule,hl⟩
      rcases (mem_recordedRules hb rule).mp hrule with hrule | hrule
      · exact hstandard l ⟨rule,hrule,hl⟩
      · exact hsemantic l ⟨rule,hrule,hl⟩
  have hunenforced : Within se.unenforcedCosts x ↔
      Within (costLimits (se.recordedRules.filter (fun rule => !standard rule)))
        x ∧ ((costLimits se.matchedRules).head?.any Float.isNaN = true →
          Within (costLimits se.matchedRules) x) := by
    simp only [StageEvaluator.unenforcedCosts,within_iff,List.forall_mem_append]
    split_ifs with hnan
    · exact and_congr_right fun _ => ⟨fun h _ => h,fun h => h hnan⟩
    · exact and_congr_right fun _ => ⟨fun _ h => absurd h hnan,fun _ _ h => absurd h List.not_mem_nil⟩
  rw [hsplit,hunenforced]
  constructor
  · rintro ⟨hmatched,hsemantic⟩
    obtain ⟨henforced,hnan⟩ := (within_matched_iff se x).mp hmatched
    exact ⟨henforced,hsemantic,hnan⟩
  · rintro ⟨henforced,hsemantic,hnan⟩
    exact ⟨(within_matched_iff se x).mpr ⟨henforced,hnan⟩,hsemantic⟩

end Recorded

section Select

variable {rt : Router} {req : Request} {cfg : SmartConfig} {res : Result}

theorem unblocked_of_select (hs : req.strategy = "smart") (hf : req.forcedModel = "")
    (hc : req.smartConfig = some cfg) (h : (rt.select req).1 = .ok res) :
    (req.evaluator cfg).evaluate.blocked = false := by
  obtain ⟨cfg',hcfg',hb⟩ := (servable_of_select h).unblocked hf hs
  obtain rfl : cfg = cfg' := Option.some_injective _ (hc.symm.trans hcfg')
  exact hb

theorem select_of_eligible (hf : req.forcedModel = "") (hc : req.smartConfig = some cfg)
    (hb : (req.evaluator cfg).evaluate.blocked = false)
    {m : ModelConfig} (hm : m ∈ req.candidates) (he : req.Eligible m) :
    ∃ res, (rt.select req).1 = .ok res :=
  select_of_servable ⟨⟨m,hm,he⟩,fun hnamed => absurd hf hnamed,fun _ _ => ⟨cfg,hc,hb⟩⟩

theorem Request.Eligible.of_name {m m' : ModelConfig} (he : req.Eligible m) (hname : m'.name = m.name)
    (hs : req.strategy = "smart") (hf : req.forcedModel = "") (hc : req.smartConfig = some cfg)
    (hcost : ∀ max, (req.evaluator cfg).accumulatedMaxCost = some max → ¬combinedRate m' > max) :
    req.Eligible m' := by
  refine ⟨?_,?_,?_⟩
  · rw [hname]
    exact he.inGroups
  · rw [hname]
    exact he.available
  · intro _ _ cfg' hcfg'
    obtain rfl : cfg = cfg' := Option.some_injective _ (hc.symm.trans hcfg')
    obtain ⟨hgroups,hbanned,-,hexclusive⟩ := he.smart hs hf cfg hc
    rw [hname]
    refine ⟨hgroups,?_,hcost,?_⟩
    · rw [hname]
      exact hbanned
    · rw [hname]
      exact hexclusive

theorem constraints_honoured_iff (rt : Router) (req : Request) (cfg : SmartConfig)
    (hs : req.strategy = "smart") (hf : req.forcedModel = "") (hc : req.smartConfig = some cfg) :
    HonoursConstraints rt req cfg ↔ ((req.evaluator cfg).firstStop = none →
      ∀ m ∈ req.candidates, req.Eligible m → ∃ m' ∈ req.candidates, m'.name = m.name ∧
        req.Eligible m' ∧ rt.Meets req.tenantID (req.evaluator cfg).unenforcedCosts
          (latencyLimits (req.evaluator cfg).recordedRules) m') := by
  constructor
  · intro h hstop m hm he
    have hb : (req.evaluator cfg).evaluate.blocked = false := by
      rw [blocked_eq,hstop]
      rfl
    obtain ⟨res,hres⟩ := @select_of_eligible rt req cfg hf hc hb m hm he
    obtain ⟨m',hm',hname,hcost,hlatency⟩ :=
      h res hres m.name ((mem_candidates_iff hres).mpr ⟨m,hm,rfl,he⟩)
    obtain ⟨henforced,hunenforced⟩ := (within_recorded_iff hb _).mp hcost
    exact ⟨m',hm',hname,he.of_name hname hs hf hc henforced,hunenforced,hlatency⟩
  · intro h res hres n hn
    have hb : (req.evaluator cfg).evaluate.blocked = false := unblocked_of_select hs hf hc hres
    have hstop : (req.evaluator cfg).firstStop = none := by
      rw [blocked_eq] at hb
      exact Option.isNone_iff_eq_none.mp (Option.isSome_eq_false_iff.mp hb)
    obtain ⟨m,hm,hname,he⟩ := (mem_candidates_iff hres).mp hn
    obtain ⟨m',hm',hname',he',hcost,hlatency⟩ := h hstop m hm he
    refine ⟨m',hm',hname'.trans hname,(within_recorded_iff hb _).mpr ⟨?_,hcost⟩,hlatency⟩
    exact (he'.smart hs hf cfg hc).2.withinCost

end Select

def limitRule : SmartStageRule where
  action := { setConstraints := some { maxCostPer1M := some 100, maxLatencyMs := some 500 } }

def limitConfig : SmartConfig where
  stages := [{ name := "limits", rules := [limitRule] }]

def limitedRequest : Request where
  tenantID := "acme"
  strategy := "smart"
  candidates := [{ name := "opus", provider := "anthropic" }]
  smartConfig := some limitConfig

def measured (ms : Float) : Router :=
  { idleRouter with latencyEWMA := fun _ model => if model = "opus" then some ms else none }

theorem limits_met_anyway : HonoursConstraints (measured 300) limitedRequest limitConfig := by
  refine (constraints_honoured_iff (measured 300) limitedRequest limitConfig rfl rfl rfl).mpr
    fun _ m hm he => ⟨m,hm,rfl,he,?_,?_⟩
  · have hnone : (limitedRequest.evaluator limitConfig).unenforcedCosts = [] := by decide
    rw [hnone]
    exact within_iff.mpr fun _ h => absurd h List.not_mem_nil
  · have hlimits : latencyLimits (limitedRequest.evaluator limitConfig).recordedRules = [500] := by
      decide
    intro ms hms
    rw [hlimits,within_iff]
    rintro l hl
    obtain rfl := List.mem_singleton.mp hl
    change (if m.name = "opus" then some 300 else none) = some ms at hms
    split_ifs at hms
    cases hms
    decide

theorem latency_limit_ignored :
    (∃ res, ((measured 5000).select limitedRequest).1 = .ok res ∧ "opus" ∈ res.candidates) ∧
      (measured 5000).knownLatency "acme" "opus" = some 5000 ∧
        latencyLimits (limitedRequest.evaluator limitConfig).recordedRules = [500] ∧
          ¬HonoursConstraints (measured 5000) limitedRequest limitConfig := by
  have hplan : (((measured 5000).select limitedRequest).1.toOption.map (·.candidates)) =
      some ["opus"] := by decide
  have hlimits : latencyLimits (limitedRequest.evaluator limitConfig).recordedRules = [500] := by
    decide
  have hknown : (measured 5000).knownLatency "acme" "opus" = some 5000 := rfl
  cases hres : ((measured 5000).select limitedRequest).1 with
  | error err =>
    rw [hres] at hplan
    cases hplan
  | ok res =>
    rw [hres] at hplan
    have hcandidates : res.candidates = ["opus"] := Option.some.inj hplan
    have hmem : "opus" ∈ res.candidates := by
      rw [hcandidates]
      exact List.mem_singleton_self _
    refine ⟨⟨res,rfl,hmem⟩,hknown,hlimits,fun h => ?_⟩
    obtain ⟨m,-,hname,-,hlatency⟩ := h res hres "opus" hmem
    rw [hlimits] at hlatency
    exact within_iff.mp (hlatency 5000 (hname ▸ hknown)) 500 (List.mem_singleton_self _)
      (by decide)

end PrismGateway.Router
