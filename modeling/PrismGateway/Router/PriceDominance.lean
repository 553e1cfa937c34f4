import Mathlib.Tactic.Positivity
import PrismGateway.Router.ExactScoring

namespace PrismGateway.Router.Exact

open Lib Config

section Ranking

variable {rt : Router} {req : Request} {cfg : SmartConfig} {cs : List ModelConfig}
    {preferred : List String} {entries : List Entry}

theorem preferredFirst_pairwise {R : Entry → Entry → Prop} (h : entries.Pairwise R)
    (hpreferred : ∀ x y, x.name ∈ preferred → R x y) : (preferredFirst preferred entries).Pairwise R := by
  rw [preferredFirst]
  split_ifs
  · exact h
  · refine List.pairwise_append.mpr ⟨h.sublist List.filter_sublist,h.sublist List.filter_sublist,?_⟩
    intro x hx y _
    exact hpreferred x y (List.contains_iff_mem.mp (List.mem_filter.mp hx).2)

theorem preferredFirst_filter {p : Entry → Bool} (hp : ∀ e, p e = true → e.name ∉ preferred) :
    (preferredFirst preferred entries).filter p = entries.filter p := by
  rw [preferredFirst]
  split_ifs
  · rfl
  · have hnone : (entries.filter (fun e => preferred.contains e.name)).filter p = [] :=
      List.filter_eq_nil_iff.mpr fun e he hpe =>
        hp e hpe (List.contains_iff_mem.mp (List.mem_filter.mp he).2)
    rw [List.filter_append,hnone,List.nil_append,List.filter_filter]
    refine List.filter_congr fun e _ => ?_
    cases hpe : p e with
    | false => rfl
    | true =>
      have hcontains : preferred.contains e.name = false :=
        Bool.eq_false_iff.mpr fun h => hp e hpe (List.contains_iff_mem.mp h)
      rw [hcontains]
      rfl

def before (rt : Router) (req : Request) (cfg : SmartConfig) (cs : List ModelConfig)
    (c d : ModelConfig) : Bool :=
  decide ((entryOf rt req cfg cs d).score ≤ (entryOf rt req cfg cs c).score)

theorem before_trans (c d e : ModelConfig) (hcd : before rt req cfg cs c d)
    (hde : before rt req cfg cs d e) : before rt req cfg cs c e := by
  rw [before,decide_eq_true_eq] at hcd hde ⊢
  exact hde.trans hcd

theorem before_total (c d : ModelConfig) :
    (before rt req cfg cs c d || before rt req cfg cs d c) = true := by
  rw [before,before,Bool.or_eq_true,decide_eq_true_eq,decide_eq_true_eq]
  exact le_total _ _

theorem ranking_eq (rt : Router) (req : Request) (cfg : SmartConfig) (preferred : List String)
    (cs : List ModelConfig) : ranking rt req cfg preferred cs =
      preferredFirst preferred
        ((cs.mergeSort (before rt req cfg cs)).map (entryOf rt req cfg cs)) := by
  have hless (c d : ModelConfig) : before rt req cfg cs c d =
      !decide ((entryOf rt req cfg cs d).score > (entryOf rt req cfg cs c).score) := by
    rw [before,← decide_not,decide_eq_decide]
    exact not_lt.symm
  rw [ranking,scored_eq,sliceStable]
  exact congrArg _ (List.map_mergeSort fun c _ d _ => hless c d).symm

theorem sorted_pairwise (rt : Router) (req : Request) (cfg : SmartConfig) (cs : List ModelConfig) :
    (cs.mergeSort (before rt req cfg cs)).Pairwise (fun c d =>
      (entryOf rt req cfg cs d).score ≤ (entryOf rt req cfg cs c).score) :=
  (List.pairwise_mergeSort before_trans before_total cs).imp fun h => of_decide_eq_true h

def NeverBefore (entries : List Entry) (a b : String) : Prop :=
  entries.Pairwise (fun x y => x.name = b → y.name = a → x.score = y.score)

theorem neverBefore_iff {a b : String} (ha : a ∉ preferred) (hb : b ∉ preferred) :
    NeverBefore (ranking rt req cfg preferred cs) a b ↔
      ∀ c ∈ cs, c.name = a → ∀ d ∈ cs, d.name = b →
        (entryOf rt req cfg cs d).score ≤ (entryOf rt req cfg cs c).score := by
  rw [NeverBefore,ranking_eq]
  constructor
  · intro h c hc hca d hd hdb
    by_contra hlt
    have hplain : ∀ e : Entry, decide (e.name = a ∨ e.name = b) = true → e.name ∉ preferred := by
      intro e he
      rcases of_decide_eq_true he with hname | hname
      · exact hname ▸ ha
      · exact hname ▸ hb
    have hrest := h.filter (fun e => decide (e.name = a ∨ e.name = b))
    rw [preferredFirst_filter hplain] at hrest
    have hsorted : ((cs.mergeSort (before rt req cfg cs)).map (entryOf rt req cfg cs)).Pairwise
        (fun x y => y.score ≤ x.score) := List.pairwise_map.mpr (sorted_pairwise rt req cfg cs)
    have hmem (e : ModelConfig) (he : e ∈ cs) (hname : e.name = a ∨ e.name = b) :
        entryOf rt req cfg cs e ∈ ((cs.mergeSort (before rt req cfg cs)).map
          (entryOf rt req cfg cs)).filter (fun e => decide (e.name = a ∨ e.name = b)) :=
      List.mem_filter.mpr ⟨List.mem_map_of_mem (List.mem_mergeSort.mpr he),decide_eq_true hname⟩
    have hne : entryOf rt req cfg cs c ≠ entryOf rt req cfg cs d := fun heq =>
      hlt (congrArg Entry.score heq).ge
    -- of the two entries one comes first: the order of scores and the claim exclude both
    rcases pairwise_either (hrest.and (hsorted.filter _)) (hmem c hc (.inl hca)) (hmem d hd (.inr hdb))
      hne with ⟨-,hle⟩ | ⟨hequal,-⟩
    · exact hlt hle
    · exact hlt (hequal hdb hca).le
  · intro h
    refine preferredFirst_pairwise ?_ fun x y hx hxb => absurd (hxb ▸ hx) hb
    refine List.pairwise_map.mpr ?_
    refine (sorted_pairwise rt req cfg cs).imp_of_mem fun hd hc hle hdb hca => ?_
    exact le_antisymm (h _ (List.mem_mergeSort.mp hc) hca _ (List.mem_mergeSort.mp hd) hdb) hle

theorem ranking_names_filter {p : String → Bool} (hp : ∀ n, p n = true → n ∉ preferred) :
    ((ranking rt req cfg preferred cs).map (·.name)).filter p =
      ((cs.filter (fun c => p c.name)).mergeSort (before rt req cfg cs)).map (·.name) := by
  have hplain (entries : List Entry) :=
    @preferredFirst_filter preferred entries (p ∘ Entry.name) fun e he => hp e.name he
  rw [List.filter_map,ranking_eq,hplain,List.filter_map,List.map_map]
  exact congrArg (List.map _) (filter_mergeSort before_trans before_total _ cs)

theorem ranking_nil : ranking rt req cfg preferred [] = [] := by
  rw [ranking_eq,List.mergeSort_nil,List.map_nil,preferredFirst]
  split_ifs <;> rfl

theorem ranking_singleton (c : ModelConfig) :
    (ranking rt req cfg preferred [c]).map (·.name) = [c.name] := by
  rw [ranking_eq,List.mergeSort_singleton,List.map_singleton,preferredFirst]
  split_ifs
  · rfl
  · have hname : (entryOf rt req cfg [c] c).name = c.name := rfl
    cases hcontains : preferred.contains c.name with
    | true =>
      simp only [List.filter_cons,List.filter_nil,hname,hcontains,Bool.not_true,Bool.false_eq_true,
        if_true,if_false,List.append_nil,List.map_singleton]
    | false =>
      simp only [List.filter_cons,List.filter_nil,hname,hcontains,Bool.not_false,Bool.false_eq_true,
        if_true,if_false,List.nil_append,List.map_singleton]

end Ranking

section Plan

variable {rt : Router} {req : Request} {cfg : SmartConfig} {cs : List ModelConfig}

theorem smartBased_eq (rt : Router) (req : Request) (cfg : SmartConfig) :
    smartBased rt req cfg = (plan rt req cfg).map (·.name) := by
  rw [smartBased,plan,survivors]
  cases hb : (req.evaluator cfg).evaluate.blocked with
  | true =>
    have hnone (pool : List ModelConfig) : applyStageResult pool (req.evaluator cfg).evaluate = [] := by
      rw [applyStageResult,hb]
      rfl
    simp only [if_true]
    cases smartPool req (req.evaluator cfg).evaluate with
    | none =>
      simp only [ranking_nil]
      rfl
    | some pool =>
      simp only [hnone,ranking_nil]
      rfl
  | false =>
    simp only [Bool.false_eq_true,if_false]
    cases smartPool req (req.evaluator cfg).evaluate with
    | none =>
      simp only [ranking_nil]
      rfl
    | some pool =>
      simp only
      cases applyStageResult pool (req.evaluator cfg).evaluate with
      | nil =>
        rw [ranking_nil]
        rfl
      | cons c rest =>
        cases rest with
        | nil => exact (ranking_singleton c).symm
        | cons d rest => rfl

theorem mem_survivors {c : ModelConfig} (h : c ∈ survivors req cfg) : c ∈ req.candidates := by
  rw [survivors] at h
  cases hpool : smartPool req (req.evaluator cfg).evaluate with
  | none =>
    rw [hpool] at h
    cases h
  | some pool =>
    rw [hpool] at h
    cases hb : (req.evaluator cfg).evaluate.blocked with
    | true =>
      simp only [applyStageResult,hb,if_true] at h
      cases h
    | false =>
      have hin : c ∈ pool := (List.mem_filter.mp ((applyStageResult_perm pool hb).mem_iff.mp h)).1
      rw [smartPool_eq_filter hpool] at hin
      exact (List.mem_filter.mp hin).1

theorem priced_mem {c : ModelConfig} (h : c ∈ cs) : priced cs c ∈ cs ∧ (priced cs c).name = c.name := by
  have hown : c ∈ cs.filter (·.name = c.name) := List.mem_filter.mpr ⟨h,decide_eq_true rfl⟩
  have hlast := List.getLast?_eq_some_getLast (List.ne_nil_of_mem hown)
  have hmem := List.mem_filter.mp (List.getLast_mem (List.ne_nil_of_mem hown))
  rw [priced,hlast,Option.getD_some]
  exact ⟨hmem.1,of_decide_eq_true hmem.2⟩

theorem completionEst_pos (req : Request) (cfg : SmartConfig) : 0 < req.completionEst cfg := by
  have hconfigured : 0 < Request.completionEst.configured cfg := by
    rw [Request.completionEst.configured]
    split_ifs with h
    · exact h
    · decide
  rw [Request.completionEst]
  cases req.maxTokens with
  | none => exact hconfigured
  | some n =>
    simp only
    split_ifs with h
    · exact h
    · exact hconfigured

theorem estimate_mono {c d : ModelConfig}
    (hprompt : floatValue c.pricing.promptPer1M ≤ floatValue d.pricing.promptPer1M)
    (hcompletion : floatValue c.pricing.completionPer1M ≤ floatValue d.pricing.completionPer1M) :
    estimate req cfg c ≤ estimate req cfg d := by
  have htokens : (0 : ℚ) ≤ (req.completionEst cfg : ℚ) / 1000000 :=
    div_nonneg (Int.cast_nonneg (completionEst_pos req cfg).le) (by norm_num)
  rw [estimate,estimate,estimateRequestCostUSD,estimateRequestCostUSD]
  exact add_le_add (mul_le_mul_of_nonneg_left hprompt (by positivity))
    (mul_le_mul_of_nonneg_left hcompletion htokens)

structure FallbackHarmless (req : Request) (cfg : SmartConfig) (cs : List ModelConfig)
    (c d : ModelConfig) : Prop where
  cheaper : estimatedCost req cfg cs c = 0 → estimatedCost req cfg cs d ≠ 0 →
    combinedRate c ≤ estimatedCost req cfg cs d
  dearer : estimatedCost req cfg cs d = 0 → estimatedCost req cfg cs c ≠ 0 →
    estimatedCost req cfg cs c ≤ combinedRate d

theorem metricCost_le_iff {c d : ModelConfig}
    (hest : estimatedCost req cfg cs c ≤ estimatedCost req cfg cs d)
    (hrate : combinedRate c ≤ combinedRate d) :
    metricCost req cfg cs c ≤ metricCost req cfg cs d ↔ FallbackHarmless req cfg cs c d := by
  rw [metricCost,metricCost]
  split_ifs with hc hd hd
  · exact iff_of_true hrate ⟨fun _ h => absurd hd h,fun _ h => absurd hc h⟩
  · exact ⟨fun h => ⟨fun _ _ => h,fun h0 => absurd h0 hd⟩,fun h => h.cheaper hc hd⟩
  · exact ⟨fun h => ⟨fun h0 => absurd h0 hc,fun _ _ => h⟩,fun h => h.dearer hd hc⟩
  · exact iff_of_true hest ⟨fun h0 => absurd h0 hc,fun h0 => absurd h0 hd⟩

structure Dominates (rt : Router) (req : Request) (cfg : SmartConfig) (a b : String) : Prop where
  promptRate : ∀ c ∈ req.candidates, c.name = a → ∀ d ∈ req.candidates, d.name = b →
    floatValue c.pricing.promptPer1M ≤ floatValue d.pricing.promptPer1M
  completionRate : ∀ c ∈ req.candidates, c.name = a → ∀ d ∈ req.candidates, d.name = b →
    floatValue c.pricing.completionPer1M ≤ floatValue d.pricing.completionPer1M
  latency : metricLatency rt req.tenantID a = metricLatency rt req.tenantID b
  errors : metricErrors rt req.tenantID a = metricErrors rt req.tenantID b
  preferred : a ∉ (req.evaluator cfg).evaluate.preferredModels ∧
    b ∉ (req.evaluator cfg).evaluate.preferredModels

def under (req : Request) (pressure : Float) : Request :=
  { req with budgetPressure := pressure }

/-- At no pressure is `b` before `a` with another score, and where it is before `a` under a higher
pressure it is so under a lower one. -/
structure RespectsDominance (rt : Router) (req : Request) (cfg : SmartConfig) (a b : String) : Prop where
  order : ∀ pressure, NeverBefore (plan rt (under req pressure) cfg) a b
  pressure : ∀ p q : Float, p ≤ q → [b,a].Sublist (smartBased rt (under req q) cfg) →
    [b,a].Sublist (smartBased rt (under req p) cfg)

variable {a b : String}

theorem Dominates.metrics (h : Dominates rt req cfg a b) {n m : String} (hn : n = a ∨ n = b)
    (hm : m = a ∨ m = b) : metricLatency rt req.tenantID n = metricLatency rt req.tenantID m ∧
      metricErrors rt req.tenantID n = metricErrors rt req.tenantID m := by
  rcases hn with rfl | rfl <;> rcases hm with rfl | rfl
  · exact ⟨rfl,rfl⟩
  · exact ⟨h.latency,h.errors⟩
  · exact ⟨h.latency.symm,h.errors.symm⟩
  · exact ⟨rfl,rfl⟩

theorem plan_names_filter (hw : 0 ≤ floatValue cfg.weights.cost) (h : Dominates rt req cfg a b)
    (p q : Float) :
    ((plan rt (under req p) cfg).map (·.name)).filter (fun n => decide (n = a ∨ n = b)) =
      ((plan rt (under req q) cfg).map (·.name)).filter (fun n => decide (n = a ∨ n = b)) := by
  have hplain : ∀ n, decide (n = a ∨ n = b) = true →
      n ∉ (req.evaluator cfg).evaluate.preferredModels := by
    intro n hn
    rcases of_decide_eq_true hn with rfl | rfl
    · exact h.preferred.1
    · exact h.preferred.2
  have hsorted (pressure : Float) := @ranking_names_filter rt (under req pressure) cfg
    (survivors req cfg) (req.evaluator cfg).evaluate.preferredModels
    (fun n => decide (n = a ∨ n = b)) hplain
  refine (hsorted p).trans (Eq.trans ?_ (hsorted q).symm)
  refine congrArg (List.map _) (mergeSort_congr fun c hc d hd => ?_)
  obtain ⟨hc,hca⟩ := List.mem_filter.mp hc
  obtain ⟨hd,hdb⟩ := List.mem_filter.mp hd
  obtain ⟨hlatency,herrors⟩ := h.metrics (of_decide_eq_true hca) (of_decide_eq_true hdb)
  rw [before,before,decide_eq_decide]
  exact (@score_le_iff rt (under req p) cfg _ c d hw hc hd hlatency herrors).trans
    (@score_le_iff rt (under req q) cfg _ c d hw hc hd hlatency herrors).symm

theorem pressure_keeps_order (hw : 0 ≤ floatValue cfg.weights.cost) (h : Dominates rt req cfg a b)
    {p q : Float} (hbefore : [b,a].Sublist (smartBased rt (under req q) cfg)) :
    [b,a].Sublist (smartBased rt (under req p) cfg) := by
  rw [smartBased_eq] at hbefore ⊢
  have hpair : [b,a].filter (fun n => decide (n = a ∨ n = b)) = [b,a] := by simp
  have hfilter := hbefore.filter (fun n => decide (n = a ∨ n = b))
  rw [hpair,plan_names_filter hw h q p] at hfilter
  exact hfilter.trans List.filter_sublist

theorem order_iff (hw : 0 ≤ floatValue cfg.weights.cost) (h : Dominates rt req cfg a b)
    (pressure : Float) : NeverBefore (plan rt (under req pressure) cfg) a b ↔
      floatValue cfg.weights.cost = 0 ∨
        ∀ c ∈ survivors req cfg, c.name = a → ∀ d ∈ survivors req cfg, d.name = b →
          FallbackHarmless req cfg (survivors req cfg) c d := by
  have hscore (c : ModelConfig) (hc : c ∈ survivors req cfg) (hca : c.name = a) (d : ModelConfig)
      (hd : d ∈ survivors req cfg) (hdb : d.name = b) :
      (entryOf rt (under req pressure) cfg (survivors req cfg) d).score ≤
          (entryOf rt (under req pressure) cfg (survivors req cfg) c).score ↔
        floatValue cfg.weights.cost = 0 ∨ FallbackHarmless req cfg (survivors req cfg) c d := by
    obtain ⟨hlatency,herrors⟩ := h.metrics (.inl hca) (.inr hdb)
    obtain ⟨hpc,hpca⟩ := priced_mem hc
    obtain ⟨hpd,hpdb⟩ := priced_mem hd
    refine (@score_le_iff rt (under req pressure) cfg _ c d hw hc hd hlatency herrors).trans
      (or_congr_right (@metricCost_le_iff req cfg (survivors req cfg) c d ?_ ?_))
    · exact estimate_mono
        (h.promptRate _ (mem_survivors hpc) (hpca.trans hca) _ (mem_survivors hpd) (hpdb.trans hdb))
        (h.completionRate _ (mem_survivors hpc) (hpca.trans hca) _ (mem_survivors hpd) (hpdb.trans hdb))
    · exact add_le_add (h.promptRate c (mem_survivors hc) hca d (mem_survivors hd) hdb)
        (h.completionRate c (mem_survivors hc) hca d (mem_survivors hd) hdb)
  refine (neverBefore_iff h.preferred.1 h.preferred.2).trans ?_
  constructor
  · intro hall
    by_cases hzero : floatValue cfg.weights.cost = 0
    · exact .inl hzero
    · exact .inr fun c hc hca d hd hdb =>
        ((hscore c hc hca d hd hdb).mp (hall c hc hca d hd hdb)).resolve_left hzero
  · intro hall c hc hca d hd hdb
    exact (hscore c hc hca d hd hdb).mpr (hall.imp_right fun hharmless =>
      hharmless c hc hca d hd hdb)

theorem price_dominance_iff (rt : Router) (req : Request) (cfg : SmartConfig) (a b : String)
    (hw : 0 ≤ floatValue cfg.weights.cost) (h : Dominates rt req cfg a b) :
    RespectsDominance rt req cfg a b ↔
      floatValue cfg.weights.cost = 0 ∨
        ∀ c ∈ survivors req cfg, c.name = a → ∀ d ∈ survivors req cfg, d.name = b →
          FallbackHarmless req cfg (survivors req cfg) c d := by
  constructor
  · intro hrespects
    exact (order_iff hw h 0).mp (hrespects.order 0)
  · intro hharmless
    exact ⟨fun pressure => (order_iff hw h pressure).mpr hharmless,
      fun _ _ _ hbefore => pressure_keeps_order hw h hbefore⟩

end Plan

def promptOnly : ModelConfig := { name := "mini", provider := "openai", pricing := ⟨5,0⟩ }

def bothRates : ModelConfig := { name := "opus", provider := "anthropic", pricing := ⟨5,10⟩ }

def costOnly : SmartConfig where
  weights := { cost := 1, latency := 0, errors := 0 }

def messageRequest (message : String) : Request where
  tenantID := "acme"
  strategy := "smart"
  candidates := [bothRates,promptOnly]
  messages := [message]

theorem eq_promptOnly {c : ModelConfig} (h : c ∈ [bothRates,promptOnly]) (hname : c.name = "mini") :
    c = promptOnly := by
  rcases List.mem_cons.mp h with rfl | h
  · exact absurd hname (by decide)
  · exact List.mem_singleton.mp h

theorem eq_bothRates {d : ModelConfig} (h : d ∈ [bothRates,promptOnly]) (hname : d.name = "opus") :
    d = bothRates := by
  rcases List.mem_cons.mp h with rfl | h
  · rfl
  · obtain rfl := List.mem_singleton.mp h
    exact absurd hname (by decide)

theorem promptOnly_dominates (message : String) :
    Dominates idleRouter (messageRequest message) costOnly "mini" "opus" := by
  refine ⟨?_,?_,rfl,rfl,List.not_mem_nil,List.not_mem_nil⟩
  · intro c hc hca d hd hdb
    rw [eq_promptOnly hc hca,eq_bothRates hd hdb]
    exact le_rfl
  · intro c hc hca d hd hdb
    rw [eq_promptOnly hc hca,eq_bothRates hd hdb]
    decide +kernel

theorem greeting_respects_dominance :
    RespectsDominance idleRouter (messageRequest "hello") costOnly "mini" "opus" := by
  refine (price_dominance_iff idleRouter (messageRequest "hello") costOnly "mini" "opus"
    (by decide +kernel) (promptOnly_dominates "hello")).mpr (.inr ?_)
  intro c hc hca d hd hdb
  obtain rfl := eq_promptOnly hc hca
  obtain rfl := eq_bothRates hd hdb
  refine ⟨fun h => absurd h ?_,fun h => absurd h ?_⟩
  · decide +kernel
  · decide +kernel

theorem empty_prompt_breaks_dominance :
    Dominates idleRouter (messageRequest "") costOnly "mini" "opus" ∧
      metricCost (messageRequest "") costOnly [bothRates,promptOnly] promptOnly = 5 ∧
        metricCost (messageRequest "") costOnly [bothRates,promptOnly] bothRates = 3 / 1000 ∧
          ¬RespectsDominance idleRouter (messageRequest "") costOnly "mini" "opus" := by
  refine ⟨promptOnly_dominates "",by decide +kernel,by decide +kernel,fun h => ?_⟩
  rcases (order_iff (by decide +kernel) (promptOnly_dominates "") 0).mp (h.order 0) with hzero | hharmless
  · revert hzero
    decide +kernel
  · have hsurvivors : survivors (messageRequest "") costOnly = [bothRates,promptOnly] := rfl
    rw [hsurvivors] at hharmless
    have hpair := hharmless promptOnly (by decide) rfl bothRates (by decide) rfl
    exact absurd (hpair.cheaper (by decide +kernel) (by decide +kernel)) (by decide +kernel)

end PrismGateway.Router.Exact
