import PrismGateway.Router.Selection

namespace PrismGateway.Router.LazySemantics

open Lib Config

/-- The two functions of a request, by the number of the call. `none` is an error, a nil embedding
or no anchor. -/
structure Services where
  embeddingFunc : ℕ → String → Option (List Float)
  semanticLookup : ℕ → String → List Float → Option SemanticAnchorResult

structure Calls where
  embedded : List (Option (List Float)) := []
  looked : List (Float × Option SemanticAnchorResult) := []

structure Session where
  cachedEmbedding : Option (List Float) := none
  embeddingComputed : Bool := false
  calls : Calls := {}

def withinThreshold (threshold : Float) (anchor : SemanticAnchorResult) : Bool :=
  let similarity := 1.0 - anchor.distance
  !(similarity.isNaN || similarity.isInf) && similarity ≥ threshold

section Evaluator

variable (services : Option Services) (se : StageEvaluator)

def computeEmbedding (services : Services) (s : Session) : Session :=
  if s.embeddingComputed then s
  else
    let emb := services.embeddingFunc s.calls.embedded.length (" ".intercalate se.messages)
    { cachedEmbedding := emb
      embeddingComputed := true
      calls := { s.calls with embedded := s.calls.embedded ++ [emb] } }

def lookupAnchor (services : Services) (threshold : Float) (s : Session) :
    Option SemanticAnchorResult × Session :=
  match s.cachedEmbedding with
  | none => (none,s)
  | some emb =>
    let found := services.semanticLookup s.calls.looked.length se.tenantID emb
    (found.filter (withinThreshold threshold),
      { s with calls := { s.calls with looked := s.calls.looked ++ [(threshold,found)] } })

def evaluateSemantic (threshold : Float) (s : Session) : Option SemanticAnchorResult × Session :=
  match services with
  | none => (none,s)
  | some services => lookupAnchor se services threshold (computeEmbedding se services s)

def semanticRule (stage : String) (rule : SmartStageRule) (cond : SemanticSimilarityCondition)
    (r : SmartStageResult) (s : Session) : SmartStageResult × Session :=
  if r.blocked || !r.preferredModels.isEmpty || r.anchorRouteGroup ≠ "" then (r,s)
  else
    match evaluateSemantic services se (se.threshold cond) s with
    | (none,s) => (r,s)
    | (some anchor,s) => (StageEvaluator.applyAnchor stage rule.action anchor r,s)

def evaluateRules : List (String × SmartStageRule) → SmartStageResult → Session →
    SmartStageResult × Session
  | [], r, s => (r,s)
  | (stage,rule) :: rest, r, s =>
    match rule.when.semanticSimilarity with
    | some cond =>
      let next := semanticRule services se stage rule cond r s
      evaluateRules rest next.1 next.2
    | none =>
      if evaluateCondition (prompt se.messages) rule.when then
        let r := { r with stagesEvaluated := r.stagesEvaluated ++ [stage] }
        if rule.action.block then (blockBy rule r,s)
        else evaluateRules rest (applyAction rule.action r) s
      else evaluateRules rest r s

def evaluate (calls : Calls) : SmartStageResult × Calls :=
  if se.usesLegacyRules then (se.evaluateLegacyRules,calls)
  else
    let out := evaluateRules services se se.stageRules
      { promptLength := (prompt se.messages).totalChars } { calls := calls }
    (out.1,out.2.calls)

end Evaluator

section Select

variable (services : Option Services) (rt : Router) (req : Request)

def preStage (calls : Calls) : Option SmartStageResult × Calls :=
  if req.strategy ≠ "smart" ∧ services.isSome ∧ req.routeGroup = "" then
    match req.smartConfig with
    | none => (none,calls)
    | some cfg =>
      let out := evaluate services (req.evaluator cfg) calls
      (some out.1,out.2)
  else (none,calls)

def anchorGroup (pre : Option SmartStageResult) : Option (List String) :=
  pre.bind (fun r => if r.anchorRouteGroup ≠ "" then req.group r.anchorRouteGroup else none)

def appliesDefault (pre : Option SmartStageResult) : Bool :=
  req.routeGroup = "" && pre.all (·.semanticAnchor = "") && req.defaultRouteGroup ≠ "" &&
    req.routeGroups.isSome && req.strategy ≠ "smart"

def pool (pre : Option SmartStageResult) : Except SelectError (List ModelConfig) :=
  let candidates := restrict (restrict req.candidates req.explicitGroup) (anchorGroup req pre)
  if appliesDefault req pre then
    let filtered := filterByNames candidates req.defaultGroup
    if filtered.isEmpty then .error (.defaultRouteGroupEmpty req.defaultRouteGroup)
    else .ok filtered
  else .ok candidates

def smartBased (cfg : SmartConfig) (stageResult : SmartStageResult) : List String × SmartFlags :=
  if stageResult.blocked then
    ([],{ filterContext := stageResult
          blockReason := stageResult.blockReason
          blockStage := getFirstStage stageResult.stagesEvaluated
          blockIsPromptLength := stageResult.promptLengthBlock
          blockPromptLength := stageResult.promptLength
          blockHasCustomReason := stageResult.promptLengthCustomReason })
  else
    match smartPool req stageResult with
    | none => ([],{ filterContext := stageResult, defaultGroupBlocked := true })
    | some pool =>
      match applyStageResult pool stageResult with
      | [] => ([],{ filterContext := stageResult, filteredAll := !pool.isEmpty })
      | [c] => ([c.name],{ filterContext := stageResult })
      | c :: d :: rest =>
        (rt.rank req cfg stageResult.preferredModels (c :: d :: rest),
          { filterContext :=
              { stageResult with
                costOptimizerApplied :=
                  (c :: d :: rest).any (fun c => req.estimate cfg c > 0) } })

def dispatch (pre : Option SmartStageResult) (candidates : List ModelConfig) (calls : Calls) :
    (Except SelectError (List String × SmartFlags) × Router) × Calls :=
  let flags : SmartFlags := { filterContext := pre.getD {} }
  if req.strategy = "round_robin" then
    let (ordered,rt) := rt.roundRobin req.tenantID candidates
    ((.ok (ordered,flags),rt),calls)
  else if req.strategy = "latency" then
    ((.ok (rt.latencyBased req.tenantID candidates,flags),rt),calls)
  else if req.strategy = "cost" then ((.ok (costBased candidates,flags),rt),calls)
  else if req.strategy = "smart" then
    match req.smartConfig with
    | none => ((.error .nilSmartConfig,rt),calls)
    | some cfg =>
      let out := evaluate services (req.evaluator cfg) calls
      ((.ok (smartBased rt { req with candidates := candidates } cfg out.1),rt),out.2)
  else if req.strategy = "header" then ((.ok (modelNames candidates,flags),rt),calls)
  else ((.ok (modelNames candidates,flags),rt),calls)

def select : (Except SelectError Result × Router) × Calls :=
  let (pre,calls) := preStage services req {}
  match pool req pre with
  | .error err => ((.error err,rt),calls)
  | .ok candidates =>
    if req.forcedModel ≠ "" then ((forced req.forcedModel candidates req.failModels,rt),calls)
    else if candidates.isEmpty then ((.error .noCandidates,rt),calls)
    else
      let ((ordered,rt),calls) := dispatch services rt req pre candidates calls
      ((ordered.bind (finish req),rt),calls)

end Select

theorem pool_eq (req : Request) : req.pool = pool req req.preStage := rfl

theorem smartBased_eq (rt : Router) (req : Request) (cfg : SmartConfig) :
    rt.smartBased req cfg = smartBased rt req cfg (req.evaluator cfg).evaluate := rfl

def Fails (l : Float × Option SemanticAnchorResult) : Prop :=
  ∀ anchor, l.2 = some anchor → withinThreshold l.1 anchor = false

def Quiet (calls : Calls) : Prop := ∀ l ∈ calls.looked, Fails l

def Heard (calls : Calls) : Prop := calls.looked ≠ [] → ∃ emb, some emb ∈ calls.embedded

structure CallsFollow (n : ℕ) (c d : Calls) : Prop where
  looked : c.looked <+: d.looked
  embedded : d.embedded.length ≤ c.embedded.length + n
  heard : Heard c → Heard d

theorem CallsFollow.refl (n : ℕ) (c : Calls) : CallsFollow n c c :=
  ⟨List.prefix_rfl,Nat.le_add_right _ _,id⟩

theorem CallsFollow.quiet {n : ℕ} {c d : Calls} (h : CallsFollow n c d) (hd : Quiet d) : Quiet c :=
  fun l hl => hd l (h.looked.subset hl)

def Session.left (s : Session) : ℕ := if s.embeddingComputed then 0 else 1

structure Follows (s t : Session) : Prop where
  looked : s.calls.looked <+: t.calls.looked
  once : t.calls.embedded.length + t.left ≤ s.calls.embedded.length + s.left
  cached : (∀ emb, s.cachedEmbedding = some emb → some emb ∈ s.calls.embedded) →
    ∀ emb, t.cachedEmbedding = some emb → some emb ∈ t.calls.embedded
  heard : (∀ emb, s.cachedEmbedding = some emb → some emb ∈ s.calls.embedded) →
    Heard s.calls → Heard t.calls

theorem Follows.refl (s : Session) : Follows s s := ⟨List.prefix_rfl,le_refl _,id,fun _ h => h⟩

theorem Follows.trans {s t u : Session} (h : Follows s t) (h' : Follows t u) : Follows s u :=
  ⟨h.looked.trans h'.looked,h'.once.trans h.once,h'.cached ∘ h.cached,
    fun hc hh => h'.heard (h.cached hc) (h.heard hc hh)⟩

section Evaluator

variable {services : Option Services} {se : StageEvaluator}

theorem computeEmbedding_follows (sv : Services) (s : Session) :
    Follows s (computeEmbedding se sv s) := by
  rw [computeEmbedding]
  split_ifs with h
  · exact .refl s
  · refine ⟨List.prefix_rfl,?_,fun _ emb hemb => ?_,fun _ hheard hlooked => ?_⟩
    · simp [Session.left,h]
    · exact List.mem_append_right _ (List.mem_singleton.mpr hemb.symm)
    · obtain ⟨emb,hemb⟩ := hheard hlooked
      exact ⟨emb,List.mem_append_left _ hemb⟩

theorem lookupAnchor_follows (sv : Services) (threshold : Float) (s : Session) :
    Follows s (lookupAnchor se sv threshold s).2 := by
  rw [lookupAnchor]
  cases hcached : s.cachedEmbedding with
  | none => exact .refl s
  | some emb =>
    exact ⟨List.prefix_append _ _,le_refl _,fun h emb' hemb => h emb' (hcached.trans hemb),
      fun h _ _ => ⟨emb,h emb hcached⟩⟩

theorem lookupAnchor_none (sv : Services) {threshold : Float} {s : Session}
    (h : Quiet (lookupAnchor se sv threshold s).2.calls) :
    (lookupAnchor se sv threshold s).1 = none := by
  rw [lookupAnchor] at h ⊢
  cases hcached : s.cachedEmbedding with
  | none => rfl
  | some emb =>
    rw [hcached] at h
    have hfails := h _ (List.mem_append_right _ (List.mem_singleton_self _))
    rw [Option.filter_eq_none_iff]
    exact fun anchor hanchor => Bool.not_eq_true _ ▸ hfails anchor hanchor

theorem evaluateSemantic_follows (threshold : Float) (s : Session) :
    Follows s (evaluateSemantic services se threshold s).2 := by
  cases services with
  | none => exact .refl s
  | some sv => exact (computeEmbedding_follows sv s).trans (lookupAnchor_follows sv threshold _)

theorem evaluateSemantic_none {threshold : Float} {s : Session}
    (h : Quiet (evaluateSemantic services se threshold s).2.calls) :
    (evaluateSemantic services se threshold s).1 = none := by
  cases services with
  | none => rfl
  | some sv => exact lookupAnchor_none sv h

theorem semanticRule_snd (stage : String) (rule : SmartStageRule)
    (cond : SemanticSimilarityCondition) (r : SmartStageResult) (s : Session) :
    (semanticRule services se stage rule cond r s).2 = s ∨
      (semanticRule services se stage rule cond r s).2 =
        (evaluateSemantic services se (se.threshold cond) s).2 := by
  rw [semanticRule]
  split_ifs
  · exact .inl rfl
  · right
    split <;> next h => rw [h]

theorem semanticRule_follows (stage : String) (rule : SmartStageRule)
    (cond : SemanticSimilarityCondition) (r : SmartStageResult) (s : Session) :
    Follows s (semanticRule services se stage rule cond r s).2 := by
  obtain h | h := @semanticRule_snd services se stage rule cond r s
  · rw [h]
    exact .refl s
  · rw [h]
    exact evaluateSemantic_follows _ s

theorem semanticRule_quiet {stage : String} {rule : SmartStageRule}
    {cond : SemanticSimilarityCondition} {r : SmartStageResult} {s : Session}
    (h : Quiet (semanticRule services se stage rule cond r s).2.calls) :
    (semanticRule services se stage rule cond r s).1 = r := by
  rw [semanticRule] at h ⊢
  split_ifs at h ⊢
  · rfl
  · cases hout : evaluateSemantic services se (se.threshold cond) s with
    | mk found t =>
      cases found with
      | none => rfl
      | some anchor =>
        rw [hout] at h
        have hquiet : Quiet (evaluateSemantic services se (se.threshold cond) s).2.calls := by
          rw [hout]
          exact h
        have hnone := evaluateSemantic_none hquiet
        rw [hout] at hnone
        cases hnone

def unserved (se : StageEvaluator) : StageEvaluator := { se with deps := none }

theorem unserved_semanticRule (stage : String) (rule : SmartStageRule)
    (cond : SemanticSimilarityCondition) (r : SmartStageResult) :
    (unserved se).semanticRule stage rule cond r = r := by
  rw [StageEvaluator.semanticRule]
  split_ifs <;> rfl

theorem evaluateRules_follows (rules : List (String × SmartStageRule)) (r : SmartStageResult)
    (s : Session) : Follows s (evaluateRules services se rules r s).2 := by
  induction rules generalizing r s with
  | nil => exact .refl s
  | cons entry rest ih =>
    obtain ⟨stage,rule⟩ := entry
    rw [evaluateRules]
    cases rule.when.semanticSimilarity with
    | some cond => exact (semanticRule_follows stage rule cond r s).trans (ih _ _)
    | none =>
      dsimp only
      split_ifs
      · exact .refl s
      · exact ih _ s
      · exact ih _ s

theorem evaluateRules_quiet {rules : List (String × SmartStageRule)} {r : SmartStageResult}
    {s : Session} (h : Quiet (evaluateRules services se rules r s).2.calls) :
    (evaluateRules services se rules r s).1 = (unserved se).evaluateRules rules r := by
  induction rules generalizing r s with
  | nil => rfl
  | cons entry rest ih =>
    obtain ⟨stage,rule⟩ := entry
    rw [evaluateRules] at h ⊢
    rw [StageEvaluator.evaluateRules]
    cases hwhen : rule.when.semanticSimilarity with
    | some cond =>
      rw [hwhen] at h
      have hrule : Quiet (semanticRule services se stage rule cond r s).2.calls := fun l hl =>
        h l ((evaluateRules_follows rest _ _).looked.subset hl)
      dsimp only at h ⊢
      rw [unserved_semanticRule,ih h,semanticRule_quiet hrule]
    | none =>
      rw [hwhen] at h
      dsimp only at h ⊢
      have hmessages : (unserved se).messages = se.messages := rfl
      rw [hmessages]
      split_ifs at h ⊢
      · rfl
      · exact ih h
      · exact ih h

theorem evaluate_follow (calls : Calls) : CallsFollow 1 calls (evaluate services se calls).2 := by
  rw [evaluate]
  split_ifs
  · exact .refl 1 calls
  · have h := @evaluateRules_follows services se se.stageRules
      { promptLength := (prompt se.messages).totalChars } { calls := calls }
    exact ⟨h.looked,(Nat.le_add_right _ _).trans h.once,h.heard fun _ hnone => by cases hnone⟩

theorem evaluate_quiet {calls : Calls} (h : Quiet (evaluate services se calls).2) :
    (evaluate services se calls).1 = (unserved se).evaluate := by
  have hlegacy : (unserved se).usesLegacyRules = se.usesLegacyRules := rfl
  rw [evaluate] at h ⊢
  rw [StageEvaluator.evaluate,hlegacy]
  split_ifs at h ⊢
  · rfl
  · exact evaluateRules_quiet h

structure Unanchored (r : SmartStageResult) : Prop where
  anchor : r.semanticAnchor = ""
  group : r.anchorRouteGroup = ""

theorem unserved_evaluateRules {rules : List (String × SmartStageRule)} {r : SmartStageResult}
    (h : Unanchored r) : Unanchored ((unserved se).evaluateRules rules r) := by
  induction rules generalizing r with
  | nil => exact h
  | cons entry rest ih =>
    obtain ⟨stage,rule⟩ := entry
    rw [StageEvaluator.evaluateRules]
    cases rule.when.semanticSimilarity with
    | some cond => exact ih (by rwa [unserved_semanticRule])
    | none =>
      dsimp only
      split_ifs
      · exact ⟨h.anchor,h.group⟩
      · exact ih ⟨h.anchor,h.group⟩
      · exact ih h

theorem unserved_evaluate : Unanchored (unserved se).evaluate := by
  rw [StageEvaluator.evaluate]
  split_ifs
  · rw [StageEvaluator.evaluateLegacyRules]
    split <;> exact ⟨rfl,rfl⟩
  · exact unserved_evaluateRules ⟨rfl,rfl⟩

end Evaluator

section Select

variable {services : Option Services} {rt : Router} {req : Request}

def withoutServices (req : Request) : Request := { req with semanticDeps := none }

theorem preStage_smart (h : req.strategy = "smart") (calls : Calls) :
    preStage services req calls = (none,calls) := by
  rw [preStage,if_neg fun hpre => hpre.1 h]

theorem preStage_follow (calls : Calls) : CallsFollow 1 calls (preStage services req calls).2 := by
  rw [preStage]
  split_ifs
  · cases req.smartConfig with
    | none => exact .refl 1 _
    | some cfg => exact evaluate_follow _
  · exact .refl 1 _

theorem preStage_quiet {r : SmartStageResult} (h : Quiet (preStage services req {}).2)
    (hr : (preStage services req {}).1 = some r) : Unanchored r ∧ req.strategy ≠ "smart" := by
  rw [preStage] at h hr
  split_ifs at h hr with hpre
  · cases hcfg : req.smartConfig with
    | none =>
      rw [hcfg] at hr
      cases hr
    | some cfg =>
      rw [hcfg] at h hr
      cases hr
      rw [evaluate_quiet h]
      exact ⟨unserved_evaluate,hpre.1⟩

theorem withoutServices_preStage : (withoutServices req).preStage = none := by
  rw [Request.preStage,if_neg]
  exact fun h => Bool.false_ne_true h.2.1

theorem pool_unanchored {pre : Option SmartStageResult} (h : ∀ r, pre = some r → Unanchored r) :
    pool req pre = (withoutServices req).pool := by
  rw [pool_eq,withoutServices_preStage]
  cases pre with
  | none => rfl
  | some r =>
    obtain ⟨hanchor,hgroup⟩ := h r rfl
    have hgroups : anchorGroup req (some r) = anchorGroup (withoutServices req) none := by
      simp [anchorGroup,hgroup]
    have happlies : appliesDefault req (some r) = appliesDefault (withoutServices req) none := by
      rw [appliesDefault,appliesDefault,Option.all_some,hanchor]
      rfl
    rw [pool,pool,hgroups,happlies]
    rfl

theorem dispatch_plain (h : req.strategy ≠ "smart") (candidates : List ModelConfig) :
    ∃ ordered rt', (∀ pre calls, dispatch services rt req pre candidates calls =
        ((.ok (ordered,{ filterContext := pre.getD {} }),rt'),calls)) ∧
      rt.dispatch (withoutServices req) candidates = (.ok (ordered,{}),rt') := by
  have hpre : (withoutServices req).preStage = none := withoutServices_preStage
  have hstrategy : (withoutServices req).strategy = req.strategy := rfl
  simp only [dispatch,Router.dispatch,hpre,hstrategy,if_neg h]
  split_ifs
  all_goals exact ⟨_,_,fun _ _ => rfl,rfl⟩

theorem dispatch_smart (h : req.strategy = "smart") (pre : Option SmartStageResult)
    (candidates : List ModelConfig) (calls : Calls) :
    CallsFollow 1 calls (dispatch services rt req pre candidates calls).2 ∧
    (Quiet (dispatch services rt req pre candidates calls).2 →
      (dispatch services rt req pre candidates calls).1 =
        rt.dispatch (withoutServices req) candidates) := by
  have hstrategy : (withoutServices req).strategy = "smart" := h
  have hcfg : (withoutServices req).smartConfig = req.smartConfig := rfl
  have hrr : ¬"smart" = "round_robin" := by decide
  have hlatency : ¬"smart" = "latency" := by decide
  have hcost : ¬"smart" = "cost" := by decide
  simp only [dispatch,Router.dispatch,h,hstrategy,if_neg hrr,if_neg hlatency,if_neg hcost,hcfg]
  cases req.smartConfig with
  | none => exact ⟨.refl 1 calls,fun _ => rfl⟩
  | some cfg =>
    refine ⟨evaluate_follow calls,fun hquiet => ?_⟩
    dsimp only at hquiet ⊢
    rw [evaluate_quiet hquiet,smartBased_eq]
    rfl

theorem finish_unanchored (h : req.strategy ≠ "smart") {pre : Option SmartStageResult}
    (hpre : ∀ r, pre = some r → Unanchored r) (ordered : List String) :
    finish req (ordered,{ filterContext := pre.getD {} }) =
      finish (withoutServices req) (ordered,{}) := by
  have hanchor : (pre.getD {}).semanticAnchor = "" := by
    cases pre with
    | none => rfl
    | some r => exact (hpre r rfl).anchor
  have hresult : smartResult req.strategy (pre.getD {}) = smartResult req.strategy {} := by
    simp [smartResult,h,hanchor]
  have hfail : (withoutServices req).failModels = req.failModels := rfl
  rw [finish,finish,hfail]
  cases removeFailModels ordered req.failModels with
  | nil => rfl
  | cons selected rest =>
    dsimp only
    rw [hresult]
    rfl

theorem select_plain_calls (h : req.strategy ≠ "smart") :
    (select services rt req).2 = (preStage services req {}).2 := by
  rw [select]
  cases preStage services req {} with
  | mk pre calls =>
    dsimp only
    split
    · rfl
    · next candidates _ =>
      obtain ⟨ordered,rt',hdispatch,_⟩ :=
        @dispatch_plain services rt req h candidates
      rw [hdispatch]
      split_ifs <;> rfl

theorem select_plain_quiet (h : req.strategy ≠ "smart")
    (hquiet : Quiet (preStage services req {}).2) :
    (select services rt req).1 = rt.select (withoutServices req) := by
  have hpre : ∀ r, (preStage services req {}).1 = some r → Unanchored r := fun r hr =>
    (preStage_quiet hquiet hr).1
  rw [select,Router.select]
  cases hout : preStage services req {} with
  | mk pre calls =>
    rw [hout] at hpre
    dsimp only at hpre ⊢
    rw [pool_unanchored hpre]
    cases (withoutServices req).pool with
    | error err => rfl
    | ok candidates =>
      obtain ⟨ordered,rt',hdispatch,hplain⟩ := @dispatch_plain services rt req h candidates
      have hforced : (withoutServices req).forcedModel = req.forcedModel := rfl
      have hfail : (withoutServices req).failModels = req.failModels := rfl
      have hfinish := finish_unanchored h hpre ordered
      dsimp only
      rw [hdispatch,hplain,hforced,hfail]
      split_ifs
      · rfl
      · rfl
      · exact congrArg (fun out => (out,rt')) hfinish

theorem select_smart (h : req.strategy = "smart") :
    CallsFollow 1 {} (select services rt req).2 ∧
    (Quiet (select services rt req).2 →
      (select services rt req).1 = rt.select (withoutServices req)) := by
  rw [select,Router.select,preStage_smart h]
  dsimp only
  rw [pool_unanchored fun _ hnone => by cases hnone]
  cases (withoutServices req).pool with
  | error err => exact ⟨.refl 1 _,fun _ => rfl⟩
  | ok candidates =>
    obtain ⟨hfollow,hsame⟩ := @dispatch_smart services rt req h none candidates {}
    have hforced : (withoutServices req).forcedModel = req.forcedModel := rfl
    have hfail : (withoutServices req).failModels = req.failModels := rfl
    rw [hforced,hfail]
    dsimp only
    split_ifs
    · exact ⟨.refl 1 _,fun _ => rfl⟩
    · exact ⟨.refl 1 _,fun _ => rfl⟩
    · exact ⟨hfollow,fun hquiet =>
        congrArg (fun out => (out.1.bind (finish (withoutServices req)),out.2)) (hsame hquiet)⟩

theorem select_spec : CallsFollow 1 {} (select services rt req).2 ∧
    (Quiet (select services rt req).2 →
      (select services rt req).1 = rt.select (withoutServices req)) := by
  by_cases h : req.strategy = "smart"
  · exact select_smart h
  · have hcalls := @select_plain_calls services rt req h
    refine ⟨hcalls ▸ preStage_follow {},fun hquiet => select_plain_quiet h ?_⟩
    rwa [hcalls] at hquiet

end Select

section Stateless

variable {d : SemanticDeps} {rt : Router} {req : Request} {se : StageEvaluator}

def stateless (d : SemanticDeps) : Services :=
  ⟨fun _ => d.embeddingFunc,fun _ => d.semanticLookup⟩

def served (d : SemanticDeps) (se : StageEvaluator) : StageEvaluator := { se with deps := some d }

def Cached (d : SemanticDeps) (se : StageEvaluator) (s : Session) : Prop :=
  s.embeddingComputed = true → s.cachedEmbedding = d.embeddingFunc (" ".intercalate se.messages)

theorem computeEmbedding_cached {s : Session} (h : Cached d se s) :
    (computeEmbedding se (stateless d) s).cachedEmbedding =
      d.embeddingFunc (" ".intercalate se.messages) := by
  rw [computeEmbedding]
  split_ifs with hcomputed
  · exact h hcomputed
  · rfl

def Agrees {α : Type} (d : SemanticDeps) (se : StageEvaluator) (a : α) (out : α × Session) : Prop :=
  out.1 = a ∧ Cached d se out.2

theorem filter_withinThreshold (threshold : Float) (found : Option SemanticAnchorResult) :
    found.filter (withinThreshold threshold) = (found.bind fun anchor =>
      let similarity := 1.0 - anchor.distance
      if similarity.isNaN || similarity.isInf then none
      else if similarity ≥ threshold then some anchor
      else none) := by
  cases found with
  | none => rfl
  | some anchor =>
    rw [Option.filter_some,withinThreshold,Option.bind_some]
    dsimp only
    split_ifs with hwithin hinvalid hnear hinvalid hnear
    all_goals simp_all

theorem lookupAnchor_stateless {s : Session}
    (h : s.cachedEmbedding = d.embeddingFunc (" ".intercalate se.messages)) (threshold : Float) :
    Agrees d se ((served d se).evaluateSemantic threshold)
      (lookupAnchor se (stateless d) threshold s) := by
  rw [Agrees,lookupAnchor,h,StageEvaluator.evaluateSemantic]
  cases hemb : d.embeddingFunc (" ".intercalate se.messages) with
  | none =>
    refine ⟨?_,fun _ => h⟩
    simp [served,hemb]
  | some emb =>
    refine ⟨?_,fun _ => hemb.symm⟩
    simp only [served,hemb,Option.bind_eq_bind,Option.bind_some]
    exact filter_withinThreshold threshold _

theorem evaluateSemantic_stateless {s : Session} (h : Cached d se s) (threshold : Float) :
    Agrees d se ((served d se).evaluateSemantic threshold)
      (evaluateSemantic (some (stateless d)) se threshold s) :=
  lookupAnchor_stateless (computeEmbedding_cached h) threshold

theorem semanticRule_stateless {s : Session} (h : Cached d se s) (stage : String)
    (rule : SmartStageRule) (cond : SemanticSimilarityCondition) (r : SmartStageResult) :
    Agrees d se ((served d se).semanticRule stage rule cond r)
      (semanticRule (some (stateless d)) se stage rule cond r s) := by
  have hthreshold : (served d se).threshold cond = se.threshold cond := rfl
  obtain ⟨hfound,hcached⟩ := evaluateSemantic_stateless h (se.threshold cond)
  rw [Agrees,semanticRule,StageEvaluator.semanticRule,hthreshold,← hfound]
  split_ifs
  · exact ⟨rfl,h⟩
  · cases hout : evaluateSemantic (some (stateless d)) se (se.threshold cond) s with
    | mk found t =>
      rw [hout] at hcached
      cases found with
      | none => exact ⟨rfl,hcached⟩
      | some anchor => exact ⟨rfl,hcached⟩

theorem evaluateRules_stateless (rules : List (String × SmartStageRule)) (r : SmartStageResult)
    {s : Session} (h : Cached d se s) :
    Agrees d se ((served d se).evaluateRules rules r)
      (evaluateRules (some (stateless d)) se rules r s) := by
  induction rules generalizing r s with
  | nil => exact ⟨rfl,h⟩
  | cons entry rest ih =>
    obtain ⟨stage,rule⟩ := entry
    have hmessages : (served d se).messages = se.messages := rfl
    rw [evaluateRules,StageEvaluator.evaluateRules,hmessages]
    cases rule.when.semanticSimilarity with
    | some cond =>
      obtain ⟨hrule,hcached⟩ := semanticRule_stateless h stage rule cond r
      dsimp only
      rw [← hrule]
      exact ih _ hcached
    | none =>
      dsimp only
      split_ifs
      · exact ⟨rfl,h⟩
      · exact ih _ h
      · exact ih _ h

theorem evaluate_stateless (calls : Calls) :
    (evaluate (some (stateless d)) se calls).1 = (served d se).evaluate := by
  have hlegacy : (served d se).usesLegacyRules = se.usesLegacyRules := rfl
  rw [evaluate,StageEvaluator.evaluate,hlegacy]
  split_ifs
  · rfl
  · exact (evaluateRules_stateless se.stageRules _ fun hcomputed => by cases hcomputed).1

def withServices (d : SemanticDeps) (req : Request) : Request := { req with semanticDeps := some d }

theorem preStage_stateless (calls : Calls) :
    (preStage (some (stateless d)) req calls).1 = (withServices d req).preStage := by
  have hstrategy : (withServices d req).strategy = req.strategy := rfl
  have hgroup : (withServices d req).routeGroup = req.routeGroup := rfl
  have hcfg : (withServices d req).smartConfig = req.smartConfig := rfl
  have hsome : (withServices d req).semanticDeps.isSome = (some (stateless d)).isSome := rfl
  rw [preStage,Request.preStage,hstrategy,hgroup,hcfg,hsome]
  split_ifs
  · cases req.smartConfig with
    | none => rfl
    | some cfg => exact congrArg some (evaluate_stateless calls)
  · rfl

theorem dispatch_stateless (candidates : List ModelConfig) (calls : Calls) :
    (dispatch (some (stateless d)) rt req (withServices d req).preStage candidates calls).1 =
      rt.dispatch (withServices d req) candidates := by
  have hstrategy : (withServices d req).strategy = req.strategy := rfl
  have hcfg : (withServices d req).smartConfig = req.smartConfig := rfl
  rw [dispatch,Router.dispatch,hstrategy,hcfg]
  split_ifs
  · rfl
  · rfl
  · rfl
  · cases req.smartConfig with
    | none => rfl
    | some cfg =>
      dsimp only
      rw [evaluate_stateless,smartBased_eq]
      rfl
  · rfl
  · rfl

theorem select_stateless :
    (select (some (stateless d)) rt req).1 = rt.select (withServices d req) := by
  have hforced : (withServices d req).forcedModel = req.forcedModel := rfl
  have hfail : (withServices d req).failModels = req.failModels := rfl
  have hpool : pool req (withServices d req).preStage = (withServices d req).pool := rfl
  have hpre := @preStage_stateless d req {}
  rw [select,Router.select,← hpool,hforced,hfail,← hpre]
  cases hout : preStage (some (stateless d)) req {} with
  | mk pre calls =>
    dsimp only
    cases pool req pre with
    | error err => rfl
    | ok candidates =>
      rw [hout] at hpre
      have hdispatch := @dispatch_stateless d rt req candidates calls
      rw [← hpre] at hdispatch
      dsimp only at hdispatch ⊢
      split_ifs
      · rfl
      · rfl
      · rw [← hdispatch]
        rfl

end Stateless

theorem fails_open (services : Option Services) (rt : Router) (req : Request) :
    (select services rt req).2.embedded.length ≤ 1 ∧
    ((∀ emb ∈ (select services rt req).2.embedded, emb = none) ∨
        (∀ l ∈ (select services rt req).2.looked, Fails l) →
      (select services rt req).1 = rt.select { req with semanticDeps := none }) := by
  obtain ⟨hfollow,hsame⟩ := @select_spec services rt req
  refine ⟨by simpa using hfollow.embedded,fun hfails => hsame ?_⟩
  obtain hembedding | hlookups := hfails
  · by_contra hnot
    have hlooked : (select services rt req).2.looked ≠ [] := by
      intro hnil
      exact hnot fun l hl => by simp [hnil] at hl
    obtain ⟨emb,hemb⟩ := hfollow.heard (fun hnil => absurd rfl hnil) hlooked
    cases hembedding _ hemb
  · exact hlookups

end PrismGateway.Router.LazySemantics
