import PrismGateway.Router.PriceDominance

namespace PrismGateway.Router.Exact

open Lib Config

structure SmartCandidateRaw where
  costUSD : ℚ
  latencyMs : ℚ
  errorRate : ℚ
  deriving DecidableEq

structure SmartCandidateNormalized where
  cost : ℚ
  latency : ℚ
  errors : ℚ
  deriving DecidableEq

structure SmartCandidateScoreComponents where
  cost : ℚ
  latency : ℚ
  errors : ℚ
  deriving DecidableEq

structure MetricSources where
  cost : String
  latency : String
  errors : String
  deriving DecidableEq

structure SmartCandidateExplain where
  model : String
  raw : SmartCandidateRaw
  normalized : SmartCandidateNormalized
  scoreComponents : SmartCandidateScoreComponents
  finalScore : ℚ
  metricSources : MetricSources
  usedDefaults : Bool
  deriving DecidableEq

def costSource (req : Request) (cfg : SmartConfig) (candidates : List ModelConfig)
    (c : ModelConfig) : String :=
  if estimatedCost req cfg candidates c = 0 then "rate_sum_fallback" else "estimated"

def latencySource (rt : Router) (tenantID model : String) : String :=
  match rt.dbStatsFor tenantID model with
  | some stat => if 0 < stat.avgLatencyMs then "db_stats" else "default_no_history"
  | none => if (rt.latencyEWMA tenantID model).isSome then "ewma_store" else "default_no_history"

def errorsSource (rt : Router) (tenantID model : String) : String :=
  match rt.dbStatsFor tenantID model with
  | some _ => "db_stats"
  | none =>
    if (rt.errorStats tenantID model).any (fun es => 0 < es.requestCount) then "ewma_store"
    else "default_no_history"

-- modelMetrics and modelSources are keyed by name, as the estimates are
def explain (rt : Router) (req : Request) (cfg : SmartConfig) (candidates : List ModelConfig)
    (costNorm latencyNorm errorNorm : ℚ) (c : ModelConfig) : SmartCandidateExplain :=
  let costTerm :=
    (1 - costNorm) * (floatValue cfg.weights.cost * budgetPressureMultiplier req.budgetPressure)
  let latTerm := (1 - latencyNorm) * floatValue cfg.weights.latency
  let errTerm := (1 - errorNorm) * floatValue cfg.weights.errors
  let sources : MetricSources :=
    ⟨costSource req cfg candidates c,latencySource rt req.tenantID c.name,
      errorsSource rt req.tenantID c.name⟩
  { model := c.name
    raw := ⟨metricCost req cfg candidates (priced candidates c),metricLatency rt req.tenantID c.name,
      metricErrors rt req.tenantID c.name⟩
    normalized := ⟨costNorm,latencyNorm,errorNorm⟩
    scoreComponents := ⟨costTerm,latTerm,errTerm⟩
    finalScore := costTerm + latTerm + errTerm
    metricSources := sources
    usedDefaults := sources.latency = "default_no_history" || sources.errors = "default_no_history" }

def explained (rt : Router) (req : Request) (cfg : SmartConfig) (candidates : List ModelConfig) :
    List SmartCandidateExplain :=
  let costs := normalizeMetrics (candidates.map (metricCost req cfg candidates))
  let latencies := normalizeMetrics (candidates.map (fun c => metricLatency rt req.tenantID c.name))
  let errors := normalizeMetrics (candidates.map (fun c => metricErrors rt req.tenantID c.name))
  candidates.mapIdx (fun i c =>
    explain rt req cfg candidates (costs.getD i 0) (latencies.getD i 0) (errors.getD i 0) c)

def explainByModel (entries : List SmartCandidateExplain) (name : String) :
    Option SmartCandidateExplain :=
  (entries.filter (·.model = name)).getLast?

def rankingDetails (rt : Router) (req : Request) (cfg : SmartConfig) (preferred : List String)
    (candidates : List ModelConfig) : List SmartCandidateExplain :=
  ((ranking rt req cfg preferred candidates).map (·.name)).filterMap
    (explainByModel (explained rt req cfg candidates))

def smartDetails (rt : Router) (req : Request) (cfg : SmartConfig) : List SmartCandidateExplain :=
  let stageResult := (req.evaluator cfg).evaluate
  if stageResult.blocked then []
  else
    match smartPool req stageResult with
    | none => []
    | some pool =>
      match applyStageResult pool stageResult with
      | [] => []
      | [_] => []
      | c :: d :: rest => rankingDetails rt req cfg stageResult.preferredModels (c :: d :: rest)

section Ranking

variable {rt : Router} {req : Request} {cfg : SmartConfig} {preferred : List String}
    {cs : List ModelConfig} {c d : ModelConfig}

def ordered (rt : Router) (req : Request) (cfg : SmartConfig) (preferred : List String)
    (cs : List ModelConfig) : List ModelConfig :=
  let sorted := cs.mergeSort (before rt req cfg cs)
  if preferred.isEmpty then sorted
  else sorted.filter (fun c => preferred.contains c.name) ++
    sorted.filter (fun c => !preferred.contains c.name)

theorem ranking_ordered : ranking rt req cfg preferred cs =
    (ordered rt req cfg preferred cs).map (entryOf rt req cfg cs) := by
  rw [ranking_eq,preferredFirst,ordered]
  split_ifs
  · rfl
  · rw [List.filter_map,List.filter_map,List.map_append]
    rfl

theorem ordered_perm : (ordered rt req cfg preferred cs).Perm cs := by
  have hsorted : (cs.mergeSort (before rt req cfg cs)).Perm cs := List.mergeSort_perm _ _
  rw [ordered]
  split_ifs
  · exact hsorted
  · exact (List.filter_append_perm _ _).trans hsorted

theorem preferred_first :
    (ordered rt req cfg preferred cs).Pairwise (fun c d => d.name ∈ preferred → c.name ∈ preferred) := by
  rw [ordered]
  split_ifs with hnone
  · refine List.pairwise_of_forall fun c d hd => ?_
    rw [List.isEmpty_iff.mp hnone] at hd
    cases hd
  · refine List.pairwise_append.mpr ⟨?_,?_,?_⟩
    · exact List.pairwise_filter.mpr (List.pairwise_of_forall fun c d hc _ _ =>
        List.contains_iff_mem.mp hc)
    · refine List.pairwise_filter.mpr (List.pairwise_of_forall fun c d _ hd hmem => ?_)
      rw [List.contains_iff_mem.mpr hmem] at hd
      cases hd
    · intro c hc d _ _
      exact List.contains_iff_mem.mp (List.mem_filter.mp hc).2

def explainOf (rt : Router) (req : Request) (cfg : SmartConfig) (cs : List ModelConfig)
    (c : ModelConfig) : SmartCandidateExplain :=
  explain rt req cfg cs (normalized (cs.map (metricCost req cfg cs)) (metricCost req cfg cs c))
    (normalized (cs.map (fun c => metricLatency rt req.tenantID c.name))
      (metricLatency rt req.tenantID c.name))
    (normalized (cs.map (fun c => metricErrors rt req.tenantID c.name))
      (metricErrors rt req.tenantID c.name)) c

theorem explained_eq : explained rt req cfg cs = cs.map (explainOf rt req cfg cs) := by
  refine List.ext_getElem ?_ fun i h₁ h₂ => ?_
  · rw [explained,List.length_mapIdx,List.length_map]
  · have hi : i < cs.length := by rwa [List.length_map] at h₂
    rw [List.getElem_map,explainOf,← getD_normalizeMetrics (metricCost req cfg cs) hi,
      ← getD_normalizeMetrics (fun c => metricLatency rt req.tenantID c.name) hi,
      ← getD_normalizeMetrics (fun c => metricErrors rt req.tenantID c.name) hi]
    simp only [explained,List.getElem_mapIdx]

theorem eq_of_name (hnodup : (modelNames cs).Nodup) (hc : c ∈ cs) (hd : d ∈ cs)
    (hname : c.name = d.name) : c = d :=
  List.inj_on_of_nodup_map hnodup hc hd hname

theorem explainByModel_name (hnodup : (modelNames cs).Nodup) (hc : c ∈ cs) :
    explainByModel (explained rt req cfg cs) c.name = some (explainOf rt req cfg cs c) := by
  rw [explainByModel,explained_eq]
  have hown : explainOf rt req cfg cs c ∈
      (cs.map (explainOf rt req cfg cs)).filter (·.model = c.name) :=
    List.mem_filter.mpr ⟨List.mem_map_of_mem hc,decide_eq_true rfl⟩
  have hlast := List.getLast?_eq_some_getLast (List.ne_nil_of_mem hown)
  obtain ⟨hmem,hname⟩ := List.mem_filter.mp (List.getLast_mem (List.ne_nil_of_mem hown))
  obtain ⟨d,hd,heq⟩ := List.mem_map.mp hmem
  rw [← heq] at hname
  rw [hlast,← heq,eq_of_name hnodup hd hc (of_decide_eq_true hname)]

theorem rankingDetails_eq (hnodup : (modelNames cs).Nodup) :
    rankingDetails rt req cfg preferred cs =
      (ordered rt req cfg preferred cs).map (explainOf rt req cfg cs) := by
  have hmap : ∀ l : List ModelConfig, (∀ c ∈ l, c ∈ cs) →
      ((l.map (entryOf rt req cfg cs)).map (·.name)).filterMap
        (explainByModel (explained rt req cfg cs)) = l.map (explainOf rt req cfg cs) := by
    intro l hl
    rw [List.map_map,List.filterMap_map]
    rw [← List.filterMap_eq_map]
    exact List.filterMap_congr fun c hc => explainByModel_name hnodup (hl c hc)
  rw [rankingDetails,ranking_ordered]
  exact hmap _ fun c hc => ordered_perm.mem_iff.mp hc

def inBlock (preferred : List String) : Bool → ModelConfig → Bool
  | true, c => preferred.contains c.name
  | false, c => !preferred.contains c.name

theorem filter_blocks (l : List ModelConfig) (first : Bool) :
    (l.filter (inBlock preferred true) ++ l.filter (inBlock preferred false)).filter
      (inBlock preferred first) = l.filter (inBlock preferred first) := by
  rw [List.filter_append,List.filter_filter,List.filter_filter]
  cases first with
  | true =>
    have hrest : l.filter (fun c => inBlock preferred true c && inBlock preferred false c) = [] :=
      List.filter_eq_nil_iff.mpr fun c _ => by simp [inBlock]
    rw [hrest,List.append_nil]
    exact List.filter_congr fun c _ => Bool.and_self _
  | false =>
    have hpreferred : l.filter (fun c => inBlock preferred false c && inBlock preferred true c) = [] :=
      List.filter_eq_nil_iff.mpr fun c _ => by simp [inBlock]
    rw [hpreferred,List.nil_append]
    exact List.filter_congr fun c _ => Bool.and_self _

theorem ordered_blocks : ordered rt req cfg preferred cs =
    (cs.mergeSort (before rt req cfg cs)).filter (inBlock preferred true) ++
      (cs.mergeSort (before rt req cfg cs)).filter (inBlock preferred false) := by
  rw [ordered]
  split_ifs with hnone
  · obtain rfl := List.isEmpty_iff.mp hnone
    have hfirst : inBlock [] true = fun _ => false := rfl
    have hrest : inBlock [] false = fun _ => true := rfl
    rw [hfirst,hrest,List.filter_false,List.filter_true,List.nil_append]
  · rfl

theorem block_sorted {base : List ModelConfig} {first : Bool}
    (hsub : (cs.filter (inBlock preferred first)).Sublist base) (hnodup : base.Nodup) :
    ((cs.mergeSort (before rt req cfg cs)).filter (inBlock preferred first)).Pairwise (fun c d =>
      (entryOf rt req cfg cs d).score ≤ (entryOf rt req cfg cs c).score ∧
        ((entryOf rt req cfg cs c).score = (entryOf rt req cfg cs d).score →
          [c,d].Sublist base)) := by
  have hscore := (sorted_pairwise rt req cfg cs).filter (inBlock preferred first)
  have hstable := stable_mergeSort (@before_trans rt req cfg cs) before_total (hnodup.sublist hsub)
  rw [← filter_mergeSort before_trans before_total] at hstable
  refine (hscore.and hstable).imp fun h => ⟨h.1,fun heq => (h.2 ?_).trans hsub⟩
  exact decide_eq_true heq.le

theorem ordered_sorted {base : List ModelConfig}
    (hsub : ∀ first, (cs.filter (inBlock preferred first)).Sublist base) (hnodup : base.Nodup) :
    (ordered rt req cfg preferred cs).Pairwise (fun c d =>
      (c.name ∈ preferred ↔ d.name ∈ preferred) →
        (entryOf rt req cfg cs d).score ≤ (entryOf rt req cfg cs c).score ∧
          ((entryOf rt req cfg cs c).score = (entryOf rt req cfg cs d).score →
            [c,d].Sublist base)) := by
  rw [ordered_blocks]
  refine List.pairwise_append.mpr ⟨?_,?_,?_⟩
  · exact (block_sorted (hsub true) hnodup).imp fun h => fun _ => h
  · exact (block_sorted (hsub false) hnodup).imp fun h => fun _ => h
  · intro c hc d hd hsame
    have hfirst := (List.mem_filter.mp hc).2
    have hrest := (List.mem_filter.mp hd).2
    have hmem : d.name ∈ preferred := hsame.mp (List.contains_iff_mem.mp hfirst)
    rw [inBlock,List.contains_iff_mem.mpr hmem] at hrest
    cases hrest

end Ranking

section Stages

variable {rt : Router} {req : Request} {cfg : SmartConfig}

theorem applyStageResult_block (pool : List ModelConfig) (r : SmartStageResult) (first : Bool) :
    ((applyStageResult pool r).filter (inBlock r.preferredModels first)).Sublist pool := by
  rw [applyStageResult]
  split_ifs with hblocked hnone hexclusive
  · exact List.nil_sublist _
  · exact (List.filter_sublist.trans List.filter_sublist).trans List.filter_sublist
  · exact ((List.filter_sublist.trans List.filter_sublist).trans List.filter_sublist).trans
      List.filter_sublist
  · refine (filter_blocks _ first).symm ▸ ?_
    exact (List.filter_sublist.trans List.filter_sublist).trans List.filter_sublist

theorem survivors_block (first : Bool) :
    ((survivors req cfg).filter
      (inBlock (req.evaluator cfg).evaluate.preferredModels first)).Sublist req.candidates := by
  rw [survivors]
  cases hpool : smartPool req (req.evaluator cfg).evaluate with
  | none => exact List.nil_sublist _
  | some pool =>
    refine (applyStageResult_block pool _ first).trans ?_
    rw [smartPool_eq_filter hpool]
    exact List.filter_sublist

theorem survivors_nodup (hnodup : (modelNames req.candidates).Nodup) :
    (modelNames (survivors req cfg)).Nodup := by
  rw [survivors]
  cases hpool : smartPool req (req.evaluator cfg).evaluate with
  | none => exact List.nodup_nil
  | some pool =>
    cases hb : (req.evaluator cfg).evaluate.blocked with
    | true =>
      simp only [applyStageResult,hb,if_true]
      exact List.nodup_nil
    | false =>
      have hkept : (modelNames (pool.filter (passes (req.evaluator cfg).evaluate))).Nodup := by
        rw [smartPool_eq_filter hpool]
        exact hnodup.sublist ((List.filter_sublist.trans List.filter_sublist).map _)
      exact (((applyStageResult_perm pool hb).map _).nodup_iff).mpr hkept

theorem survivors_of_blocked (hb : (req.evaluator cfg).evaluate.blocked = true) :
    survivors req cfg = [] := by
  rw [survivors]
  cases smartPool req (req.evaluator cfg).evaluate with
  | none => rfl
  | some pool => simp only [applyStageResult,hb,if_true]

theorem smartDetails_eq (h : 2 ≤ (survivors req cfg).length) : smartDetails rt req cfg =
    rankingDetails rt req cfg (req.evaluator cfg).evaluate.preferredModels (survivors req cfg) := by
  cases hb : (req.evaluator cfg).evaluate.blocked with
  | true =>
    rw [survivors_of_blocked hb] at h
    exact absurd h (by decide)
  | false =>
    rw [survivors] at h ⊢
    rw [smartDetails]
    simp only [hb,Bool.false_eq_true,if_false]
    cases hpool : smartPool req (req.evaluator cfg).evaluate with
    | none =>
      rw [hpool] at h
      exact absurd h (Nat.not_succ_le_zero _)
    | some pool =>
      rw [hpool] at h
      simp only at h ⊢
      cases hkept : applyStageResult pool (req.evaluator cfg).evaluate with
      | nil =>
        rw [hkept] at h
        exact absurd h (Nat.not_succ_le_zero _)
      | cons c rest =>
        cases rest with
        | nil =>
          rw [hkept] at h
          exact absurd h (Nat.not_succ_le_self _)
        | cons d rest => rfl

structure PlanOrder (rt : Router) (req : Request) (cfg : SmartConfig) : Prop where
  complete : (smartBased rt req cfg).Perm (modelNames (survivors req cfg))
  preferredFirst : (smartBased rt req cfg).Pairwise (fun a b =>
    b ∈ (req.evaluator cfg).evaluate.preferredModels →
      a ∈ (req.evaluator cfg).evaluate.preferredModels)
  sorted : (smartDetails rt req cfg).Pairwise (fun x y =>
    (x.model ∈ (req.evaluator cfg).evaluate.preferredModels ↔
      y.model ∈ (req.evaluator cfg).evaluate.preferredModels) →
        y.finalScore ≤ x.finalScore ∧
          (x.finalScore = y.finalScore → [x.model,y.model].Sublist (modelNames req.candidates)))
  explained : (smartDetails rt req cfg).map (·.model) = smartBased rt req cfg
  scores : (smartDetails rt req cfg).map (fun x => ⟨x.model,x.finalScore⟩) = plan rt req cfg
  total : ∀ x ∈ smartDetails rt req cfg,
    x.finalScore = x.scoreComponents.cost + x.scoreComponents.latency + x.scoreComponents.errors

theorem smart_plan_order (rt : Router) (req : Request) (cfg : SmartConfig)
    (hnodup : (modelNames req.candidates).Nodup)
    (h : 2 ≤ (survivors req cfg).length) : PlanOrder rt req cfg := by
  have hnames : (modelNames (survivors req cfg)).Nodup := survivors_nodup hnodup
  have hplan : plan rt req cfg = (ordered rt req cfg (req.evaluator cfg).evaluate.preferredModels
      (survivors req cfg)).map (entryOf rt req cfg (survivors req cfg)) := ranking_ordered
  have hordered : smartBased rt req cfg = modelNames (ordered rt req cfg
      (req.evaluator cfg).evaluate.preferredModels (survivors req cfg)) := by
    rw [smartBased_eq,hplan,List.map_map]
    rfl
  have hdetails : smartDetails rt req cfg = (ordered rt req cfg
      (req.evaluator cfg).evaluate.preferredModels (survivors req cfg)).map
        (explainOf rt req cfg (survivors req cfg)) := by
    rw [smartDetails_eq h,rankingDetails_eq hnames]
  have hmodels : (smartDetails rt req cfg).map (·.model) = smartBased rt req cfg := by
    rw [hdetails,hordered,List.map_map]
    rfl
  refine ⟨?_,?_,?_,hmodels,?_,?_⟩
  · rw [hordered]
    exact ordered_perm.map _
  · rw [hordered]
    exact List.pairwise_map.mpr preferred_first
  · rw [hdetails]
    refine List.pairwise_map.mpr ((ordered_sorted survivors_block hnodup.of_map).imp ?_)
    intro c d hcd hsame
    obtain ⟨hscore,hties⟩ := hcd hsame
    exact ⟨hscore,fun heq => (hties heq).map ModelConfig.name⟩
  · rw [hdetails,hplan,List.map_map]
    rfl
  · rw [hdetails]
    intro x hx
    obtain ⟨c,-,rfl⟩ := List.mem_map.mp hx
    rfl

end Stages

theorem greeting_plan_order : PlanOrder idleRouter (messageRequest "hello") costOnly := by
  have hsurvivors : survivors (messageRequest "hello") costOnly = [bothRates,promptOnly] := rfl
  exact smart_plan_order _ _ _ (by decide) (hsurvivors ▸ le_rfl)

end PrismGateway.Router.Exact
