import Mathlib.Algebra.Order.BigOperators.Group.List
import Mathlib.Data.List.GetD
import Mathlib.Data.List.MinMax
import Mathlib.Tactic.Linarith
import PrismGateway.Orchestrator.PriceResolution

namespace PrismGateway.Admin.Baselines

open Orchestrator Cost Prices

structure UsageDetailRow where
  promptTokens : ℕ
  completionTokens : ℕ

def allowedModelsForTenant (models : List PricedModel) (allowedModels : List String) : List PricedModel :=
  models.filter (fun m => m.name ∈ allowedModels)

def modelByName (models : List PricedModel) (name : String) : Option PricedModel :=
  models.find? (fun m => m.name = name)

structure BaselineCalculator where
  models : List PricedModel
  allowedModels : List PricedModel

def NewBaselineCalculator (models : List PricedModel) (allowed : List String) : BaselineCalculator :=
  ⟨models,allowedModelsForTenant models allowed⟩

def computeCost (pricing : Pricing) (row : UsageDetailRow) : ℚ :=
  row.promptTokens / 1000000 * pricing.promptPer1M + row.completionTokens / 1000000 * pricing.completionPer1M

def totalPrice (m : PricedModel) : ℚ := m.pricing.promptPer1M + m.pricing.completionPer1M

namespace BaselineCalculator

variable (bc : BaselineCalculator)

def getCheapestModel : Option PricedModel := bc.allowedModels.argmin totalPrice

def CalculateRoundRobin (details : List UsageDetailRow) : ℚ :=
  match bc.allowedModels with
  | [] => 0
  | first :: _ =>
    (details.zipIdx.map (fun entry =>
      computeCost (bc.allowedModels.getD (entry.2 % bc.allowedModels.length) first).pricing entry.1)).sum

def CalculateCheapest (details : List UsageDetailRow) : ℚ :=
  match bc.getCheapestModel with
  | none => 0
  | some m => (details.map (computeCost m.pricing)).sum

def CalculateFixedModel (modelName : String) (details : List UsageDetailRow) : Except String ℚ :=
  match modelByName bc.models modelName with
  | none => .error ("model '" ++ modelName ++ "' not found")
  | some m =>
    if bc.allowedModels.any (fun m => m.name = modelName) then
      .ok (details.map (computeCost m.pricing)).sum
    else .error ("model '" ++ modelName ++ "' not allowed for tenant")

def Ordered : Prop :=
  ∀ details, (∀ modelName cost, bc.CalculateFixedModel modelName details = .ok cost →
      bc.CalculateCheapest details ≤ cost) ∧
    bc.CalculateCheapest details ≤ bc.CalculateRoundRobin details

end BaselineCalculator

def NoDearer (m m' : PricedModel) : Prop :=
  m.pricing.promptPer1M ≤ m'.pricing.promptPer1M ∧ m.pricing.completionPer1M ≤ m'.pricing.completionPer1M

instance (m m' : PricedModel) : Decidable (NoDearer m m') := inferInstanceAs (Decidable (_ ∧ _))

theorem computeCost_mono {m m' : PricedModel} (h : NoDearer m m') (row : UsageDetailRow) :
    computeCost m.pricing row ≤ computeCost m'.pricing row := by
  have hprompt : (0 : ℚ) ≤ row.promptTokens / 1000000 := div_nonneg (Nat.cast_nonneg _) (by norm_num)
  have hcompletion : (0 : ℚ) ≤ row.completionTokens / 1000000 :=
    div_nonneg (Nat.cast_nonneg _) (by norm_num)
  exact add_le_add (mul_le_mul_of_nonneg_left h.1 hprompt) (mul_le_mul_of_nonneg_left h.2 hcompletion)

theorem computeCost_none (pricing : Pricing) : computeCost pricing ⟨0,0⟩ = 0 := by
  simp [computeCost]

theorem noDearer_of_costs {m m' : PricedModel}
    (h : ∀ row, computeCost m.pricing row ≤ computeCost m'.pricing row) : NoDearer m m' := by
  have hprompt := h ⟨1000000,0⟩
  have hcompletion := h ⟨0,1000000⟩
  norm_num [computeCost] at hprompt hcompletion
  exact ⟨hprompt,hcompletion⟩

theorem noDearer_of_argmin {models : List PricedModel} {chosen least : PricedModel}
    (hchosen : chosen ∈ models.argmin totalPrice) (hleast : least ∈ models)
    (h : ∀ m ∈ models, NoDearer least m) : ∀ m ∈ models, NoDearer chosen m := by
  have hsum : totalPrice chosen ≤ totalPrice least := List.le_of_mem_argmin hleast hchosen
  obtain ⟨hprompt,hcompletion⟩ := h chosen (List.argmin_mem hchosen)
  simp only [totalPrice] at hsum
  intro m hm
  obtain ⟨hp,hc⟩ := h m hm
  exact ⟨by linarith,by linarith⟩

namespace BaselineCalculator

variable {bc : BaselineCalculator} {chosen : PricedModel}

theorem calculateCheapest_eq (h : bc.getCheapestModel = some chosen) (details : List UsageDetailRow) :
    bc.CalculateCheapest details = (details.map (computeCost chosen.pricing)).sum := by
  rw [CalculateCheapest,h]

theorem calculateRoundRobin_eq {first : PricedModel} {rest : List PricedModel}
    (h : bc.allowedModels = first :: rest) (details : List UsageDetailRow) :
    bc.CalculateRoundRobin details = (details.zipIdx.map (fun entry =>
      computeCost (bc.allowedModels.getD (entry.2 % bc.allowedModels.length) first).pricing entry.1)).sum := by
  rw [CalculateRoundRobin]
  split
  · next hnil => exact absurd (h.symm.trans hnil) (List.cons_ne_nil _ _)
  · next first' rest' hcons =>
    rw [h] at hcons
    cases hcons
    rfl

theorem calculateRoundRobin_at {first : PricedModel} {rest : List PricedModel}
    (h : bc.allowedModels = first :: rest) {i : ℕ} {m : PricedModel} (hi : bc.allowedModels[i]? = some m)
    (row : UsageDetailRow) :
    bc.CalculateRoundRobin (List.replicate i ⟨0,0⟩ ++ [row]) = computeCost m.pricing row := by
  obtain ⟨hlt,hm⟩ := List.getElem?_eq_some_iff.mp hi
  have hidle : ((List.replicate i (⟨0,0⟩ : UsageDetailRow)).zipIdx.map (fun entry =>
      computeCost (bc.allowedModels.getD (entry.2 % bc.allowedModels.length) first).pricing entry.1)).sum = 0 := by
    refine List.sum_eq_zero fun cost hcost => ?_
    obtain ⟨⟨row,j⟩,hrow,rfl⟩ := List.mem_map.mp hcost
    have hzero : row = ⟨0,0⟩ := List.eq_of_mem_replicate (List.fst_mem_of_mem_zipIdx hrow)
    rw [hzero]
    exact computeCost_none _
  rw [calculateRoundRobin_eq h,List.zipIdx_append,List.map_append,List.sum_append,hidle,zero_add,
    List.length_replicate,Nat.zero_add,List.zipIdx_singleton,List.map_singleton,List.sum_singleton,
    Nat.mod_eq_of_lt hlt,List.getD_eq_getElem _ _ hlt,hm]

theorem calculateCheapest_at (h : bc.getCheapestModel = some chosen) (i : ℕ) (row : UsageDetailRow) :
    bc.CalculateCheapest (List.replicate i ⟨0,0⟩ ++ [row]) = computeCost chosen.pricing row := by
  have hidle : ((List.replicate i (⟨0,0⟩ : UsageDetailRow)).map (computeCost chosen.pricing)).sum = 0 := by
    refine List.sum_eq_zero fun cost hcost => ?_
    obtain ⟨row,hrow,rfl⟩ := List.mem_map.mp hcost
    rw [List.eq_of_mem_replicate hrow]
    exact computeCost_none _
  rw [calculateCheapest_eq h,List.map_append,List.sum_append,hidle,zero_add,List.map_singleton,
    List.sum_singleton]

theorem sum_costs_le {m m' : PricedModel} (h : NoDearer m m') (details : List UsageDetailRow) :
    (details.map (computeCost m.pricing)).sum ≤ (details.map (computeCost m'.pricing)).sum :=
  List.sum_le_sum fun row _ => computeCost_mono h row

theorem cheapest_le_roundRobin (h : bc.getCheapestModel = some chosen)
    (hleast : ∀ m ∈ bc.allowedModels, NoDearer chosen m) (details : List UsageDetailRow) :
    bc.CalculateCheapest details ≤ bc.CalculateRoundRobin details := by
  have hmem : chosen ∈ bc.allowedModels := List.argmin_mem (Option.mem_def.mpr h)
  obtain ⟨first,rest,hcons⟩ := List.exists_cons_of_ne_nil (List.ne_nil_of_mem hmem)
  have hrows : (details.map (computeCost chosen.pricing)).sum =
      (details.zipIdx.map (fun entry => computeCost chosen.pricing entry.1)).sum := by
    conv_lhs => rw [← List.zipIdx_map_fst 0 details,List.map_map]
    rfl
  rw [calculateCheapest_eq h,calculateRoundRobin_eq hcons,hrows]
  refine List.sum_le_sum fun row _ => computeCost_mono (hleast _ ?_) _
  have hlt : row.2 % bc.allowedModels.length < bc.allowedModels.length :=
    Nat.mod_lt _ (List.length_pos_of_mem hmem)
  rw [List.getD_eq_getElem _ _ hlt]
  exact List.getElem_mem hlt

end BaselineCalculator

open BaselineCalculator

theorem fixed_mem_allowed {models : List PricedModel} {allowed : List String} {modelName : String} {cost : ℚ}
    {details : List UsageDetailRow}
    (h : (NewBaselineCalculator models allowed).CalculateFixedModel modelName details = .ok cost) :
    ∃ m ∈ allowedModelsForTenant models allowed, cost = (details.map (computeCost m.pricing)).sum := by
  unfold CalculateFixedModel at h
  cases hfind : modelByName (NewBaselineCalculator models allowed).models modelName with
  | none =>
    rw [hfind] at h
    cases h
  | some m =>
    rw [hfind] at h
    simp only at h
    split_ifs at h with hallowed
    obtain ⟨m',hm',hname'⟩ := List.any_eq_true.mp hallowed
    have hname : m.name = modelName := by
      have hfound := List.find?_some hfind
      exact of_decide_eq_true hfound
    have hin : m'.name ∈ allowed := of_decide_eq_true (List.mem_filter.mp hm').2
    rw [of_decide_eq_true hname',← hname] at hin
    exact ⟨m,List.mem_filter.mpr ⟨List.mem_of_find?_eq_some hfind,decide_eq_true hin⟩,
      (Except.ok.inj h).symm⟩

theorem baselines_ordered_iff (models : List PricedModel) (allowed : List String) :
    (NewBaselineCalculator models allowed).Ordered ↔
      allowedModelsForTenant models allowed = [] ∨
        ∃ least ∈ allowedModelsForTenant models allowed,
          ∀ m ∈ allowedModelsForTenant models allowed, NoDearer least m := by
  cases hchosen : (NewBaselineCalculator models allowed).getCheapestModel with
  | none =>
    have hnil : allowedModelsForTenant models allowed = [] := List.argmin_eq_none.mp hchosen
    refine ⟨fun _ => .inl hnil,fun _ details => ⟨fun modelName cost hcost => ?_,?_⟩⟩
    · obtain ⟨m,hm,-⟩ := fixed_mem_allowed hcost
      rw [hnil] at hm
      cases hm
    · have hround : (NewBaselineCalculator models allowed).CalculateRoundRobin details = 0 := by
        unfold CalculateRoundRobin
        split
        · rfl
        · next first rest hcons => exact absurd (hcons.symm.trans hnil) (List.cons_ne_nil _ _)
      rw [CalculateCheapest,hchosen,hround]
  | some chosen =>
    have hmem : chosen ∈ allowedModelsForTenant models allowed :=
      List.argmin_mem (Option.mem_def.mpr hchosen)
    obtain ⟨first,rest,hcons⟩ := List.exists_cons_of_ne_nil (List.ne_nil_of_mem hmem)
    constructor
    · intro h
      refine .inr ⟨chosen,hmem,fun m hm => noDearer_of_costs fun row => ?_⟩
      obtain ⟨i,hi⟩ := List.getElem?_of_mem hm
      have hround := (h (List.replicate i ⟨0,0⟩ ++ [row])).2
      rw [calculateCheapest_at hchosen,calculateRoundRobin_at hcons hi] at hround
      exact hround
    · rintro (hnil | ⟨least,hleast,hall⟩)
      · rw [hnil] at hmem
        cases hmem
      · have hno := noDearer_of_argmin (Option.mem_def.mpr hchosen) hleast hall
        refine fun details => ⟨fun modelName cost hcost => ?_,cheapest_le_roundRobin hchosen hno details⟩
        obtain ⟨m,hm,rfl⟩ := fixed_mem_allowed hcost
        rw [calculateCheapest_eq hchosen]
        exact sum_costs_le (hno m hm) details

def inputOrOutput : List PricedModel :=
  [⟨"openai","mini",{ promptPer1M := 1,completionPer1M := 6 }⟩,
    ⟨"anthropic","haiku",{ promptPer1M := 4,completionPer1M := 4 }⟩]

theorem cheapest_above_fixed : ¬(NewBaselineCalculator inputOrOutput ["mini","haiku"]).Ordered := by
  intro h
  have hfixed := (h [⟨0,1000000⟩]).1 "haiku" 4 (by decide +kernel)
  revert hfixed
  decide +kernel

end PrismGateway.Admin.Baselines
