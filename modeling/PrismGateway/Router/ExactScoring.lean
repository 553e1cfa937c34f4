import PrismGateway.Lib.MinMax
import PrismGateway.Router.Selection

namespace PrismGateway.Router.Exact

open Lib Config

def estimateRequestCostUSD (p : Pricing) (promptTokens : ℕ) (completionTokens : ℤ) : ℚ :=
  promptTokens / 1000000 * floatValue p.promptPer1M +
    completionTokens / 1000000 * floatValue p.completionPer1M

def combinedRate (m : ModelConfig) : ℚ :=
  floatValue m.pricing.promptPer1M + floatValue m.pricing.completionPer1M

def budgetPressureMultiplier (pressure : Float) : ℚ :=
  if pressure ≥ 0.80 then 2 else if pressure ≥ 0.50 then 3 / 2 else 1

def normalizeMetrics : List ℚ → List ℚ
  | [] => []
  | [_] => [0]
  | v :: w :: rest =>
    let values := v :: w :: rest
    let min := smallestOf v values
    let max := largestOf v values
    if max = min then values.map (fun _ => 0) else values.map (fun v => (v - min) / (max - min))

def estimate (req : Request) (cfg : SmartConfig) (c : ModelConfig) : ℚ :=
  estimateRequestCostUSD c.pricing (estimateTokens (" ".intercalate req.messages))
    (req.completionEst cfg)

-- as in estimatedCostsUSD, the last candidate of a name sets the estimate of all
def priced (candidates : List ModelConfig) (c : ModelConfig) : ModelConfig :=
  ((candidates.filter (·.name = c.name)).getLast?).getD c

def estimatedCost (req : Request) (cfg : SmartConfig) (candidates : List ModelConfig)
    (c : ModelConfig) : ℚ :=
  estimate req cfg (priced candidates c)

def metricCost (req : Request) (cfg : SmartConfig) (candidates : List ModelConfig)
    (c : ModelConfig) : ℚ :=
  if estimatedCost req cfg candidates c = 0 then combinedRate c
  else estimatedCost req cfg candidates c

def metricLatency (rt : Router) (tenantID model : String) : ℚ :=
  floatValue (rt.metricLatency tenantID model)

def metricErrors (rt : Router) (tenantID model : String) : ℚ :=
  floatValue (rt.metricErrors tenantID model)

def score (weights : SmartWeights) (costWeight costNorm latencyNorm errorNorm : ℚ) : ℚ :=
  (1 - costNorm) * costWeight + (1 - latencyNorm) * floatValue weights.latency +
    (1 - errorNorm) * floatValue weights.errors

structure Entry where
  name : String
  score : ℚ

def scored (rt : Router) (req : Request) (cfg : SmartConfig) (candidates : List ModelConfig) :
    List Entry :=
  let costs := normalizeMetrics (candidates.map (metricCost req cfg candidates))
  let latencies := normalizeMetrics (candidates.map (fun c => metricLatency rt req.tenantID c.name))
  let errors := normalizeMetrics (candidates.map (fun c => metricErrors rt req.tenantID c.name))
  let costWeight := floatValue cfg.weights.cost * budgetPressureMultiplier req.budgetPressure
  candidates.mapIdx (fun i c =>
    ⟨c.name,score cfg.weights costWeight (costs.getD i 0) (latencies.getD i 0) (errors.getD i 0)⟩)

def preferredFirst (preferred : List String) (entries : List Entry) : List Entry :=
  if preferred.isEmpty then entries
  else entries.filter (fun e => preferred.contains e.name) ++
    entries.filter (fun e => !preferred.contains e.name)

def ranking (rt : Router) (req : Request) (cfg : SmartConfig) (preferred : List String)
    (candidates : List ModelConfig) : List Entry :=
  preferredFirst preferred
    (sliceStable (fun a b => decide (a.score > b.score)) (scored rt req cfg candidates))

def smartBased (rt : Router) (req : Request) (cfg : SmartConfig) : List String :=
  let stageResult := (req.evaluator cfg).evaluate
  if stageResult.blocked then []
  else
    match smartPool req stageResult with
    | none => []
    | some pool =>
      match applyStageResult pool stageResult with
      | [] => []
      | [c] => [c.name]
      | c :: d :: rest =>
        (ranking rt req cfg stageResult.preferredModels (c :: d :: rest)).map (·.name)

def survivors (req : Request) (cfg : SmartConfig) : List ModelConfig :=
  match smartPool req (req.evaluator cfg).evaluate with
  | none => []
  | some pool => applyStageResult pool (req.evaluator cfg).evaluate

def plan (rt : Router) (req : Request) (cfg : SmartConfig) : List Entry :=
  ranking rt req cfg (req.evaluator cfg).evaluate.preferredModels (survivors req cfg)

section Scores

variable {rt : Router} {req : Request} {cfg : SmartConfig} {cs : List ModelConfig} {c d : ModelConfig}

theorem normalizeMetrics_eq (values : List ℚ) :
    normalizeMetrics values = values.map (normalized values) := by
  match values with
  | [] => rfl
  | [v] =>
    have hzero : normalized [v] v = 0 := by
      rw [normalized,smallestOf,List.foldl_nil,sub_self,zero_div]
    rw [normalizeMetrics,List.map_singleton,hzero]
  | v :: w :: rest =>
    have hmin : smallestOf v (v :: w :: rest) = smallestOf v (w :: rest) := by
      rw [smallestOf,List.foldl_cons,ite_self,smallestOf]
    have hmax : largestOf v (v :: w :: rest) = largestOf v (w :: rest) := by
      rw [largestOf,List.foldl_cons,ite_self,largestOf]
    simp only [normalizeMetrics,hmin,hmax]
    split_ifs with hsame
    · refine List.map_congr_left fun x _ => ?_
      rw [normalized,hsame,sub_self,div_zero]
    · rfl

def entryOf (rt : Router) (req : Request) (cfg : SmartConfig) (cs : List ModelConfig)
    (c : ModelConfig) : Entry :=
  ⟨c.name,score cfg.weights (floatValue cfg.weights.cost * budgetPressureMultiplier req.budgetPressure)
    (normalized (cs.map (metricCost req cfg cs)) (metricCost req cfg cs c))
    (normalized (cs.map (fun c => metricLatency rt req.tenantID c.name))
      (metricLatency rt req.tenantID c.name))
    (normalized (cs.map (fun c => metricErrors rt req.tenantID c.name))
      (metricErrors rt req.tenantID c.name))⟩

theorem getD_normalizeMetrics (f : ModelConfig → ℚ) {i : ℕ} (h : i < cs.length) :
    (normalizeMetrics (cs.map f)).getD i 0 = normalized (cs.map f) (f cs[i]) := by
  have hlen : i < ((cs.map f).map (normalized (cs.map f))).length := by
    rw [List.length_map,List.length_map]
    exact h
  rw [normalizeMetrics_eq,List.getD_eq_getElem _ _ hlen,List.getElem_map,List.getElem_map]

theorem scored_eq (rt : Router) (req : Request) (cfg : SmartConfig) (cs : List ModelConfig) :
    scored rt req cfg cs = cs.map (entryOf rt req cfg cs) := by
  refine List.ext_getElem ?_ fun i h₁ h₂ => ?_
  · rw [scored,List.length_mapIdx,List.length_map]
  · have hi : i < cs.length := by rwa [List.length_map] at h₂
    rw [List.getElem_map,entryOf,← getD_normalizeMetrics (metricCost req cfg cs) hi,
      ← getD_normalizeMetrics (fun c => metricLatency rt req.tenantID c.name) hi,
      ← getD_normalizeMetrics (fun c => metricErrors rt req.tenantID c.name) hi]
    simp only [scored,List.getElem_mapIdx]

theorem budgetPressureMultiplier_pos (pressure : Float) : 0 < budgetPressureMultiplier pressure := by
  rw [budgetPressureMultiplier]
  split_ifs <;> norm_num

theorem score_le_iff (hw : 0 ≤ floatValue cfg.weights.cost) (hc : c ∈ cs) (hd : d ∈ cs)
    (hlatency : metricLatency rt req.tenantID c.name = metricLatency rt req.tenantID d.name)
    (herrors : metricErrors rt req.tenantID c.name = metricErrors rt req.tenantID d.name) :
    (entryOf rt req cfg cs d).score ≤ (entryOf rt req cfg cs c).score ↔
      floatValue cfg.weights.cost = 0 ∨ metricCost req cfg cs c ≤ metricCost req cfg cs d := by
  simp only [entryOf,score]
  rw [hlatency,herrors,add_le_add_iff_right,add_le_add_iff_right]
  rcases hw.eq_or_lt with hzero | hpos
  · rw [← hzero,zero_mul,mul_zero,mul_zero]
    exact iff_of_true le_rfl (.inl rfl)
  · rw [mul_le_mul_iff_of_pos_right (mul_pos hpos (budgetPressureMultiplier_pos _)),
      sub_le_sub_iff_left,normalized_le_iff (List.mem_map_of_mem hc) (List.mem_map_of_mem hd)]
    exact ⟨.inr,fun h => h.resolve_left hpos.ne'⟩

end Scores

end PrismGateway.Router.Exact
