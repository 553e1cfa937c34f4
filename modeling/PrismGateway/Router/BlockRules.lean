import PrismGateway.Router.Selection

namespace PrismGateway.Router

open Lib Config

def blockReasonOf (rule : SmartStageRule) : String :=
  if rule.action.reason = "" then (rule.when.promptLength.map promptLengthBlockReason).getD ""
  else rule.action.reason

namespace StageEvaluator

variable (se : StageEvaluator)

def matchesRule (rule : SmartStageRule) : Bool :=
  match rule.when.semanticSimilarity with
  | some cond => (se.evaluateSemantic (se.threshold cond)).isSome
  | none => evaluateCondition (prompt se.messages) rule.when

def stopsAt (rule : SmartStageRule) : Bool :=
  rule.action.block && rule.when.semanticSimilarity.isNone && se.matchesRule rule

def firstMatch : Option (String × SmartStageRule) :=
  se.stageRules.find? (fun e => se.matchesRule e.2)

def firstBlock : Option (String × SmartStageRule) :=
  se.stageRules.find? (fun e => e.2.action.block && se.matchesRule e.2)

def firstStop : Option (String × SmartStageRule) := se.stageRules.find? (fun e => se.stopsAt e.2)

end StageEvaluator

section Evaluate

variable {se : StageEvaluator}

def Fresh (r : SmartStageResult) : Prop :=
  r.stagesEvaluated = [] → r.blocked = false ∧ r.preferredModels = [] ∧ r.anchorRouteGroup = ""

theorem semanticRule_stages {stage : String} {rule : SmartStageRule}
    {cond : SemanticSimilarityCondition} {r : SmartStageResult}
    (hcond : rule.when.semanticSimilarity = some cond) (hr : Fresh r) :
    Fresh (se.semanticRule stage rule cond r) ∧
      (se.semanticRule stage rule cond r).stagesEvaluated.head? =
        r.stagesEvaluated.head?.or (bif se.matchesRule rule then some stage else none) := by
  unfold StageEvaluator.semanticRule StageEvaluator.matchesRule
  rw [hcond]
  by_cases hempty : r.stagesEvaluated = []
  · obtain ⟨hblocked,hpreferred,hgroup⟩ := hr hempty
    simp only [hblocked,hpreferred,hgroup,List.isEmpty_nil,Bool.not_true,Bool.or_self,ne_eq,
      not_true_eq_false,decide_false,Bool.false_eq_true,if_false,hempty,List.head?_nil,Option.none_or]
    cases hanchor : se.evaluateSemantic (se.threshold cond) with
    | none =>
      refine ⟨hr,?_⟩
      rw [hempty]
      rfl
    | some anchor =>
      have hstages : (StageEvaluator.applyAnchor stage rule.action anchor r).stagesEvaluated = [stage] := by
        simp only [StageEvaluator.applyAnchor,hempty,List.nil_append]
      refine ⟨fun h => ?_,?_⟩
      · rw [hstages] at h
        cases h
      · rw [hstages]
        rfl
  · obtain ⟨head,rest,hstages⟩ := List.exists_cons_of_ne_nil hempty
    rw [hstages,List.head?_cons,Option.some_or]
    split_ifs
    · exact ⟨hr,by rw [hstages,List.head?_cons]⟩
    · split
      · exact ⟨hr,by rw [hstages,List.head?_cons]⟩
      · next anchor _ =>
        have happlied : (StageEvaluator.applyAnchor stage rule.action anchor r).stagesEvaluated =
            head :: (rest ++ [stage]) := by
          simp only [StageEvaluator.applyAnchor,hstages,List.cons_append]
        refine ⟨fun h => ?_,?_⟩
        · rw [happlied] at h
          cases h
        · rw [happlied,List.head?_cons]

theorem find_cons {α : Type} (p : α → Bool) (a : α) (l : List α) :
    (a :: l).find? p = bif p a then some a else l.find? p := by
  rw [List.find?_cons]
  cases p a <;> rfl

theorem stages_of_match {stage : String} {r : SmartStageResult} :
    Fresh { r with stagesEvaluated := r.stagesEvaluated ++ [stage] } ∧
      (r.stagesEvaluated ++ [stage]).head? = r.stagesEvaluated.head?.or (some stage) := by
  refine ⟨fun h => absurd h (List.append_ne_nil_of_right_ne_nil _ (List.cons_ne_nil _ _)),?_⟩
  rw [List.head?_append]
  rfl

theorem evaluateRules_head (rules : List (String × SmartStageRule)) : ∀ r, Fresh r →
    (se.evaluateRules rules r).stagesEvaluated.head? =
      r.stagesEvaluated.head?.or ((rules.find? (fun e => se.matchesRule e.2)).map Prod.fst) := by
  induction rules with
  | nil =>
    intro r _
    rw [StageEvaluator.evaluateRules,List.find?_nil,Option.map_none,Option.or_none]
  | cons entry rest ih =>
    intro r hr
    obtain ⟨stage,rule⟩ := entry
    rw [StageEvaluator.evaluateRules,find_cons]
    cases hsem : rule.when.semanticSimilarity with
    | some cond =>
      obtain ⟨hfresh,hhead⟩ := @semanticRule_stages se stage rule cond r hsem hr
      simp only
      rw [ih _ hfresh,hhead]
      cases se.matchesRule rule with
      | false => rw [cond_false,cond_false,Option.or_none]
      | true => cases r.stagesEvaluated.head? <;> rfl
    | none =>
      have hmatches : se.matchesRule rule = evaluateCondition (prompt se.messages) rule.when := by
        rw [StageEvaluator.matchesRule,hsem]
      simp only [hmatches]
      cases evaluateCondition (prompt se.messages) rule.when with
      | false => exact ih r hr
      | true =>
        obtain ⟨hfresh,hhead⟩ := @stages_of_match stage r
        simp only [if_true,cond_true,Option.map_some]
        split_ifs
        · exact hhead
        · have hnext : Fresh (applyAction rule.action
              { r with stagesEvaluated := r.stagesEvaluated ++ [stage] }) := fun h =>
            absurd h (List.append_ne_nil_of_right_ne_nil _ (List.cons_ne_nil _ _))
          rw [ih _ hnext]
          change (r.stagesEvaluated ++ [stage]).head?.or _ = _
          rw [hhead]
          cases r.stagesEvaluated.head? <;> rfl

theorem evaluateRules_block (rules : List (String × SmartStageRule)) : ∀ r, r.blocked = false →
    (se.evaluateRules rules r).blocked = (rules.find? (fun e => se.stopsAt e.2)).isSome ∧
      ∀ e, rules.find? (fun e => se.stopsAt e.2) = some e →
        (se.evaluateRules rules r).blockReason = blockReasonOf e.2 := by
  induction rules with
  | nil =>
    intro r hr
    rw [StageEvaluator.evaluateRules,List.find?_nil]
    exact ⟨hr,fun _ he => absurd he.symm (Option.some_ne_none _)⟩
  | cons entry rest ih =>
    intro r hr
    obtain ⟨stage,rule⟩ := entry
    rw [StageEvaluator.evaluateRules,find_cons]
    cases hsem : rule.when.semanticSimilarity with
    | some cond =>
      have hstop : se.stopsAt rule = false := by
        rw [StageEvaluator.stopsAt,hsem]
        simp
      simp only [hstop,cond_false]
      refine ih _ ?_
      rcases semanticRule_cases se stage rule cond r with heq | ⟨anchor,heq⟩
      all_goals
        rw [heq]
        exact hr
    | none =>
      have hmatches : se.stopsAt rule =
          (rule.action.block && evaluateCondition (prompt se.messages) rule.when) := by
        rw [StageEvaluator.stopsAt,StageEvaluator.matchesRule,hsem]
        simp
      simp only [hmatches]
      cases evaluateCondition (prompt se.messages) rule.when with
      | false =>
        rw [Bool.and_false]
        exact ih r hr
      | true =>
        rw [Bool.and_true]
        cases rule.action.block with
        | false => exact ih _ hr
        | true =>
          refine ⟨rfl,?_⟩
          rintro e he
          cases he
          rfl

theorem firstBlock_isSome {e : String × SmartStageRule} (h : se.firstBlock = some e) :
    se.usesLegacyRules = false ∧ ∃ first, se.firstMatch = some first := by
  constructor
  · cases hstages : se.config.stages with
    | nil =>
      rw [StageEvaluator.firstBlock,StageEvaluator.stageRules,hstages] at h
      cases h
    | cons stage stages =>
      rw [StageEvaluator.usesLegacyRules,hstages]
      rfl
  · have hmatches := List.find?_some h
    rw [Bool.and_eq_true] at hmatches
    have hsome : se.firstMatch.isSome :=
      List.find?_isSome.mpr ⟨e,List.mem_of_find?_eq_some h,hmatches.2⟩
    exact Option.isSome_iff_exists.mp hsome

theorem evaluate_of_stages (h : se.usesLegacyRules = false) :
    se.evaluate.stagesEvaluated.head? = se.firstMatch.map Prod.fst ∧
      se.evaluate.blocked = se.firstStop.isSome ∧
        ∀ e, se.firstStop = some e → se.evaluate.blockReason = blockReasonOf e.2 := by
  have heval : se.evaluate =
      se.evaluateRules se.stageRules { promptLength := (prompt se.messages).totalChars } := by
    rw [StageEvaluator.evaluate,h]
    rfl
  rw [heval]
  refine ⟨?_,evaluateRules_block se.stageRules _ rfl⟩
  exact evaluateRules_head se.stageRules _ fun _ => ⟨rfl,rfl,rfl⟩

end Evaluate

section Select

variable {rt : Router} {req : Request} {cfg : SmartConfig}

def Request.smartPool (req : Request) : List ModelConfig :=
  restrict req.candidates req.explicitGroup

theorem pool_of_smart (hs : req.strategy = "smart") : req.pool = .ok req.smartPool := by
  have hpre : req.preStage = none := by
    rw [Request.preStage,if_neg fun h => h.1 hs]
  have hanchor : req.anchorGroup = none := by
    rw [Request.anchorGroup,hpre]
    rfl
  have hdefault : req.appliesDefault = false := by
    rw [Request.appliesDefault,hs]
    simp
  rw [Request.pool,hanchor,hdefault]
  rfl

theorem select_of_smart (hs : req.strategy = "smart") (hf : req.forcedModel = "")
    (hc : req.smartConfig = some cfg) : (rt.select req).1 =
      if req.smartPool = [] then .error .noCandidates
      else finish req (rt.smartBased { req with candidates := req.smartPool } cfg) := by
  rw [select,pool_of_smart hs]
  simp only [hf,ne_eq,not_true_eq_false,if_false]
  by_cases hempty : req.smartPool = []
  · simp only [hempty,List.isEmpty_nil,if_true]
  · have hne : req.smartPool.isEmpty = false := List.isEmpty_eq_false_iff.mpr hempty
    have hdispatch : rt.dispatch req req.smartPool =
        (.ok (rt.smartBased { req with candidates := req.smartPool } cfg),rt) := by
      simp only [dispatch,hs,hc]
      rfl
    simp only [hne,Bool.false_eq_true,if_false,if_neg hempty,hdispatch]
    rfl

theorem finish_of_blocked (cs : List ModelConfig)
    (hblocked : (req.evaluator cfg).evaluate.blocked = true) :
    finish req (rt.smartBased { req with candidates := cs } cfg) =
      if (req.evaluator cfg).evaluate.blockReason = "" then .error .allUnavailable
      else .error (.blockedBySmartStage (req.evaluator cfg).evaluate.blockReason
        (getFirstStage (req.evaluator cfg).evaluate.stagesEvaluated)
        (req.evaluator cfg).evaluate.promptLengthBlock (req.evaluator cfg).evaluate.promptLength
        (req.evaluator cfg).evaluate.promptLengthCustomReason (req.evaluator cfg).evaluate) := by
  have hsame : ({ req with candidates := cs } : Request).evaluator cfg = req.evaluator cfg := rfl
  rw [smartBased,hsame]
  simp only [hblocked,if_true,finish,removeFailModels,List.filter_nil,unavailable,Bool.false_eq_true,
    if_false]
  by_cases hreason : (req.evaluator cfg).evaluate.blockReason = ""
  · rw [if_neg (not_not.mpr hreason),if_pos hreason]
  · rw [if_pos hreason,if_neg hreason]

theorem flags_of_unblocked (cs : List ModelConfig)
    (hblocked : (req.evaluator cfg).evaluate.blocked = false) :
    (rt.smartBased { req with candidates := cs } cfg).2.blockReason = "" := by
  have hsame : ({ req with candidates := cs } : Request).evaluator cfg = req.evaluator cfg := rfl
  rw [smartBased,hsame]
  simp only [hblocked,Bool.false_eq_true,if_false]
  split
  · rfl
  · split <;> rfl

theorem finish_of_unblocked (cs : List ModelConfig)
    (hblocked : (req.evaluator cfg).evaluate.blocked = false) {reason stage : String}
    {isPromptLength hasCustomReason : Bool} {promptLength : ℕ} {smartResult : SmartStageResult} :
    finish req (rt.smartBased { req with candidates := cs } cfg) ≠
      .error (.blockedBySmartStage reason stage isPromptLength promptLength hasCustomReason
        smartResult) := by
  have hreason := @flags_of_unblocked rt req cfg cs hblocked
  generalize rt.smartBased { req with candidates := cs } cfg = based at hreason
  obtain ⟨ordered,flags⟩ := based
  intro h
  simp only [finish] at h
  split at h
  · rw [Except.error.injEq,unavailable,hreason] at h
    split_ifs at h with hdefault hempty
    exact hempty rfl
  · cases h

def BlocksByIdentity (rt : Router) (req : Request) (cfg : SmartConfig) : Prop :=
  ∀ stage rule, (req.evaluator cfg).firstBlock = some (stage,rule) →
    ∃ isPromptLength promptLength hasCustomReason smartResult, (rt.select req).1 =
      .error (.blockedBySmartStage (blockReasonOf rule) stage isPromptLength promptLength
        hasCustomReason smartResult)

/-- The block gets through: there is a pool, the block has a reason, it is a plain rule that gives that
reason, and no rule of another stage has matched before. -/
structure GetsThrough (req : Request) (se : StageEvaluator) (e : String × SmartStageRule) : Prop where
  pool : req.smartPool ≠ []
  reason : blockReasonOf e.2 ≠ ""
  plain : ∃ stop, se.firstStop = some stop ∧ blockReasonOf stop.2 = blockReasonOf e.2
  stage : ∀ first, se.firstMatch = some first → first.1 = e.1

theorem select_blocked_iff (hs : req.strategy = "smart") (hf : req.forcedModel = "")
    (hc : req.smartConfig = some cfg) {e : String × SmartStageRule}
    (he : (req.evaluator cfg).firstBlock = some e) :
    (∃ isPromptLength promptLength hasCustomReason smartResult, (rt.select req).1 =
        .error (.blockedBySmartStage (blockReasonOf e.2) e.1 isPromptLength promptLength
          hasCustomReason smartResult)) ↔ GetsThrough req (req.evaluator cfg) e := by
  obtain ⟨hlegacy,first,hfirst⟩ := firstBlock_isSome he
  obtain ⟨hhead,hblocked,hreason⟩ := evaluate_of_stages hlegacy
  have hstage : getFirstStage (req.evaluator cfg).evaluate.stagesEvaluated = first.1 := by
    rw [getFirstStage,hhead,hfirst]
    rfl
  rw [select_of_smart hs hf hc]
  constructor
  · rintro ⟨isPromptLength,promptLength,hasCustomReason,smartResult,h⟩
    split_ifs at h with hempty
    · cases h
    · cases hstop : (req.evaluator cfg).firstStop with
      | none =>
        rw [hstop] at hblocked
        exact absurd h (finish_of_unblocked _ hblocked)
      | some stop =>
        rw [hstop] at hblocked
        rw [finish_of_blocked _ hblocked,hreason stop hstop,hstage] at h
        split_ifs at h with hnone
        · cases h
        · injection h with h
          injection h with hr hst
          exact ⟨hempty,hr ▸ hnone,⟨stop,hstop,hr⟩,fun first' hfirst' => by
            rw [hfirst] at hfirst'
            cases hfirst'
            exact hst⟩
  · intro h
    obtain ⟨stop,hstop,hsame⟩ := h.plain
    rw [hstop] at hblocked
    have hne : blockReasonOf stop.2 ≠ "" := hsame ▸ h.reason
    rw [if_neg h.pool,finish_of_blocked _ hblocked,hreason stop hstop,if_neg hne,hstage,hsame,
      h.stage first hfirst]
    exact ⟨_,_,_,_,rfl⟩

theorem block_identity_iff (rt : Router) (req : Request) (cfg : SmartConfig)
    (hs : req.strategy = "smart") (hf : req.forcedModel = "") (hc : req.smartConfig = some cfg) :
    BlocksByIdentity rt req cfg ↔
      ∀ e, (req.evaluator cfg).firstBlock = some e → GetsThrough req (req.evaluator cfg) e := by
  constructor
  · intro h e he
    exact (select_blocked_iff hs hf hc he).mp (h e.1 e.2 he)
  · intro h stage rule he
    exact (select_blocked_iff hs hf hc he).mpr (h (stage,rule) he)

end Select

def guardRule (reason : String) : SmartStageRule where
  «when» := { contains := ["secret"] }
  action := { block := true, reason := reason }

def guardConfig (reason : String) : SmartConfig where
  stages := [{ name := "guard", rules := [guardRule reason] }]

def lateGuardConfig : SmartConfig where
  stages := [{ name := "cost", rules := [{ action := { banModels := ["opus"] } }] },
    { name := "guard", rules := [guardRule "no secrets"] }]

def guardedRequest (cfg : SmartConfig) : Request where
  tenantID := "acme"
  strategy := "smart"
  candidates := [{ name := "opus", provider := "anthropic" },{ name := "gpt", provider := "openai" }]
  smartConfig := some cfg
  messages := ["a secret"]

theorem guard_blocks_by_identity :
    BlocksByIdentity idleRouter (guardedRequest (guardConfig "no secrets")) (guardConfig "no secrets") := by
  refine (block_identity_iff idleRouter (guardedRequest (guardConfig "no secrets"))
    (guardConfig "no secrets") rfl rfl rfl).mpr fun e he => ?_
  have hguard : ((guardedRequest (guardConfig "no secrets")).evaluator (guardConfig "no secrets")).firstBlock =
      some ("guard",guardRule "no secrets") := by decide +kernel
  rw [hguard] at he
  cases he
  refine ⟨by decide,by decide,⟨("guard",guardRule "no secrets"),?_,rfl⟩,?_⟩
  · decide +kernel
  · decide +kernel

theorem blocks_misreported :
    (∃ smartResult, (idleRouter.select (guardedRequest lateGuardConfig)).1 =
        .error (.blockedBySmartStage "no secrets" "cost" false 8 false smartResult)) ∧
      ¬BlocksByIdentity idleRouter (guardedRequest lateGuardConfig) lateGuardConfig ∧
        (idleRouter.select (guardedRequest (guardConfig ""))).1 = .error .allUnavailable ∧
          ¬BlocksByIdentity idleRouter (guardedRequest (guardConfig "")) (guardConfig "") := by
  have hlate : (idleRouter.select (guardedRequest lateGuardConfig)).1 =
      .error (.blockedBySmartStage "no secrets" "cost" false 8 false
        ((guardedRequest lateGuardConfig).evaluator lateGuardConfig).evaluate) := by decide +kernel
  have hempty : (idleRouter.select (guardedRequest (guardConfig ""))).1 = .error .allUnavailable := by
    decide +kernel
  refine ⟨⟨_,hlate⟩,fun h => ?_,hempty,fun h => ?_⟩
  · obtain ⟨_,_,_,_,hselect⟩ := h "guard" (guardRule "no secrets") (by decide +kernel)
    rw [hlate] at hselect
    injection hselect with hselect
    injection hselect with _ hstage
    exact absurd hstage (by decide)
  · obtain ⟨_,_,_,_,hselect⟩ := h "guard" (guardRule "") (by decide +kernel)
    rw [hempty] at hselect
    cases hselect

end PrismGateway.Router
