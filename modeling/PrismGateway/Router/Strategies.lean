import PrismGateway.Config.Tenant
import PrismGateway.Router.Selection

namespace PrismGateway.Router
open Lib Config

namespace Request

def inGroups (req : Request) : List ModelConfig :=
  req.candidates.filter (inAll req.poolGroups)

def available (req : Request) : List String :=
  removeFailModels (modelNames req.inGroups) req.failModels

def rateOf (req : Request) (name : String) : Float :=
  ((req.candidates.find? (·.name = name)).map combinedRate).getD 0

def smartCandidates (req : Request) (cfg : SmartConfig) : List ModelConfig :=
  (req.inGroups.filter (inAll (req.smartGroups (req.evaluator cfg).evaluate))).filter
    (passes (req.evaluator cfg).evaluate)

def NoPreference (req : Request) : Prop :=
  ∀ cfg, req.smartConfig = some cfg → (req.evaluator cfg).evaluate.preferredModels = []

end Request

def ByRate (req : Request) (names : List String) : Prop :=
  names.Pairwise (fun a b => ¬ req.rateOf b < req.rateOf a)

def ByLatency (rt : Router) (req : Request) (names : List String) : Prop :=
  names.Pairwise (fun a b =>
    ¬ rt.latencyEstimate req.tenantID b < rt.latencyEstimate req.tenantID a)

def ByScore (rt : Router) (req : Request) (cfg : SmartConfig) (names : List String) : Prop :=
  ∃ ranking : List Entry, ranking.Perm (rt.scored req cfg (req.smartCandidates cfg)) ∧
    names = removeFailModels (ranking.map (·.name)) req.failModels ∧
    ((∀ e ∈ ranking, e.key.isNaN = false) → ranking.Pairwise (fun a b => ¬ a.key < b.key))

structure Honours (rt : Router) (req : Request) (names : List String) : Prop where
  roundRobin : req.strategy = "round_robin" → names =
    removeFailModels ((modelNames req.inGroups).rotate (rt.rrIndex req.tenantID)) req.failModels
  latency : req.strategy = "latency_based" → ByLatency rt req names
  cost : req.strategy = "cost_based" → ByRate req names
  header : req.strategy = "header_based" → names = req.available
  smart : req.strategy = "smart" → ∃ cfg, req.smartConfig = some cfg ∧ ByScore rt req cfg names

section Orders

variable {rt : Router} {req : Request} {res : Result} {cs : List ModelConfig}

theorem scored_sorted (rt : Router) (req : Request) (cfg : SmartConfig) (cs : List ModelConfig)
    (h : ∀ e ∈ sliceStable (fun a b : Entry => decide (a.key > b.key)) (rt.scored req cfg cs),
      e.key.isNaN = false) :
    (sliceStable (fun a b : Entry => decide (a.key > b.key)) (rt.scored req cfg cs)).Pairwise
      (fun a b => ¬ a.key < b.key) := by
  apply pairwise_sliceStable_float_desc (k := Entry.key) (fun _ _ => rfl)
  intro e he
  exact h e ((sliceStable_perm _ _).mem_iff.mpr he)

theorem smartBased_by_score {cfg : SmartConfig}
    (hne : (rt.smartBased req cfg).1 ≠ [])
    (hpref : (req.evaluator cfg).evaluate.preferredModels = []) :
    ∃ ranking : List Entry, ranking.Perm (rt.scored req cfg
        ((req.candidates.filter (inAll (req.smartGroups (req.evaluator cfg).evaluate))).filter
          (passes (req.evaluator cfg).evaluate))) ∧
      (rt.smartBased req cfg).1 = ranking.map (·.name) ∧
      ((∀ e ∈ ranking, e.key.isNaN = false) → ranking.Pairwise (fun a b => ¬ a.key < b.key)) := by
  obtain ⟨hb,pool,c,rest,hp,happ,hcases⟩ := smartBased_cases hne
  rw [applyStageResult_of_no_preference hb hpref,smartPool_eq_filter hp] at happ
  rw [happ]
  rcases hcases with ⟨hrest,hone⟩ | hrank
  · subst hrest
    exact ⟨rt.scored req cfg [c],.refl _,hone,fun _ => List.pairwise_singleton _ _⟩
  · refine ⟨_,sliceStable_perm _ _,?_,scored_sorted rt req cfg (c :: rest)⟩
    rw [hrank,hpref]
    rfl

theorem select_names (hforced : req.forcedModel = "") (h : (rt.select req).1 = .ok res) :
    ∃ ordered flags, (rt.dispatch req req.inGroups).1 = .ok (ordered,flags) ∧
      res.candidates = removeFailModels ordered req.failModels ∧ res.candidates ≠ [] := by
  obtain ⟨cs,hp,⟨hf,-⟩ | ⟨-,-,ordered,flags,hd,hfin⟩⟩ := select_ok h
  · exact absurd hforced hf
  · obtain ⟨hcand,hhead⟩ := finish_ok hfin
    obtain rfl : cs = req.inGroups := pool_eq_filter hp
    refine ⟨ordered,flags,hd,hcand,?_⟩
    intro hnil
    simp [hnil] at hhead

theorem select_original_order (hforced : req.forcedModel = "")
    (hs : req.strategy ∈ ["latency_based","cost_based","header_based"])
    (h : (rt.select req).1 = .ok res) : res.candidates = req.available := by
  obtain ⟨ordered,flags,hd,hcand,-⟩ := select_names hforced h
  have hord : ordered = modelNames req.inGroups := by
    simp only [List.mem_cons,List.not_mem_nil,or_false] at hs
    rcases hs with hs | hs | hs <;> simp [dispatch,hs] at hd <;> exact hd.1.symm
  rw [hcand,hord]
  rfl

theorem select_round_robin (hforced : req.forcedModel = "") (hs : req.strategy = "round_robin")
    (h : (rt.select req).1 = .ok res) : res.candidates = removeFailModels
      ((modelNames req.inGroups).rotate (rt.rrIndex req.tenantID)) req.failModels := by
  obtain ⟨ordered,flags,hd,hcand,-⟩ := select_names hforced h
  have hord : ordered = (rt.roundRobin req.tenantID req.inGroups).1 := by
    simp only [dispatch,hs,if_true,Except.ok.injEq,Prod.mk.injEq] at hd
    exact hd.1.symm
  have hlen : (modelNames req.inGroups).length = req.inGroups.length := by simp [modelNames]
  rw [hcand,hord,roundRobin_eq_rotate,← hlen,List.rotate_mod]

theorem select_by_score (hforced : req.forcedModel = "") (hs : req.strategy = "smart")
    (hpref : req.NoPreference) (h : (rt.select req).1 = .ok res) :
    ∃ cfg, req.smartConfig = some cfg ∧ ByScore rt req cfg res.candidates := by
  obtain ⟨ordered,flags,hd,hcand,hne⟩ := select_names hforced h
  obtain ⟨cfg,hcfg,hsmart⟩ := dispatch_smart hs hd
  have hord : ordered = (rt.smartBased { req with candidates := req.inGroups } cfg).1 :=
    congrArg Prod.fst hsmart
  have hnil : ordered ≠ [] := by
    rintro rfl
    exact hne (by simp [hcand,removeFailModels])
  rw [hord] at hnil hcand
  obtain ⟨ranking,hperm,hnames,hsorted⟩ :=
    smartBased_by_score hnil (hpref cfg hcfg)
  exact ⟨cfg,hcfg,ranking,hperm,by rw [hcand,hnames],hsorted⟩

theorem strategy_honoured_iff {modelByName : String → Option ModelConfig}
    {loadLocation : String → Bool} {tc : TenantConfig}
    (htc : validateTenantConfig modelByName loadLocation tc = .ok ())
    (hstrategy : req.strategy = tc.routing.strategy) (hforced : req.forcedModel = "")
    (hpref : req.NoPreference) (hselect : (rt.select req).1 = .ok res) :
    Honours rt req res.candidates ↔
      (req.strategy = "cost_based" → ByRate req req.available) ∧
      (req.strategy = "latency_based" → ByLatency rt req req.available) := by
  have hvalid : req.strategy ∈ validStrategies := hstrategy ▸ validateTenantConfig_strategy htc
  simp only [validStrategies,List.mem_cons,List.not_mem_nil,or_false] at hvalid
  have hsame (hs : req.strategy ∈ ["latency_based","cost_based","header_based"]) :
      res.candidates = req.available := select_original_order hforced hs hselect
  constructor
  · intro h
    refine ⟨?_,?_⟩
    · intro hs
      exact hsame (by simp [hs]) ▸ h.cost hs
    · intro hs
      exact hsame (by simp [hs]) ▸ h.latency hs
  · rintro ⟨hcost,hlatency⟩
    constructor
    · intro hs
      exact select_round_robin hforced hs hselect
    · intro hs
      exact hsame (by simp [hs]) ▸ hlatency hs
    · intro hs
      exact hsame (by simp [hs]) ▸ hcost hs
    · intro hs
      exact hsame (by simp [hs])
    · intro hs
      exact select_by_score hforced hs hpref hselect

end Orders

def costTenant : TenantConfig where
  id := "acme"
  allowedModels := ["opus","mini"]
  routing := { strategy := "cost_based" }
  budgets := { monthlyUSD := 100, timezone := "UTC" }
  rateLimit := ⟨60,10⟩
  compliance := ⟨90,"metadata_only"⟩

def opus : ModelConfig := { name := "opus", provider := "anthropic", pricing := ⟨15,75⟩ }

def mini : ModelConfig := { name := "mini", provider := "openai", pricing := ⟨0.15,0.6⟩ }

def costRequest (candidates : List ModelConfig) : Request where
  tenantID := "acme"
  strategy := "cost_based"
  candidates := candidates

theorem costTenant_accepted :
    validateTenantConfig (GlobalConfig.modelByName ⟨[opus,mini],none⟩) (· = "UTC") costTenant =
      .ok () := by
  decide

theorem cheapest_first_honours_cost :
    Honours idleRouter (costRequest [mini,opus]) ["mini","opus"] := by
  have hselect : (idleRouter.select (costRequest [mini,opus])).1 =
      .ok { selected := "mini", candidates := ["mini","opus"] } := by
    decide
  have hpref : (costRequest [mini,opus]).NoPreference := by
    intro cfg h
    cases h
  refine (strategy_honoured_iff costTenant_accepted rfl rfl hpref hselect).mpr ⟨?_,?_⟩
  · intro _
    unfold ByRate
    decide
  · intro h
    exact absurd h (by decide)

theorem cost_based_keeps_configured_order :
    validateTenantConfig (GlobalConfig.modelByName ⟨[opus,mini],none⟩) (· = "UTC") costTenant =
        .ok () ∧
      (costRequest [opus,mini]).strategy = costTenant.routing.strategy ∧
      (idleRouter.select (costRequest [opus,mini])).1 =
        .ok { selected := "opus", candidates := ["opus","mini"] } ∧
      ¬ ByRate (costRequest [opus,mini]) ["opus","mini"] := by
  refine ⟨costTenant_accepted,rfl,by decide,?_⟩
  unfold ByRate
  decide

end PrismGateway.Router
