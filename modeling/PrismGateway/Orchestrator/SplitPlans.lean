import PrismGateway.Orchestrator.Run
import PrismGateway.Router.PrecedenceContract

namespace PrismGateway.Orchestrator

open Lib Config Router PrecedenceResolver

inductive PlanError where
  | precedence (err : PrecedenceError)
  | selection (err : SelectError)
  deriving DecidableEq, Repr

section Plan

variable (rt : Router) (tenant : TenantConfig) (gc : GlobalConfig) (req : RouteInput)

def plan : Except PlanError (List String) :=
  match resolution tenant gc req with
  | .error err => .error (.precedence err)
  | .ok r => match (rt.select (routeReq tenant gc req r)).1 with
    | .error err => .error (.selection err)
    | .ok res => .ok res.candidates

def unsplit : TenantConfig := { tenant with trafficSplit := [] }

def named : Target := resolveAlias tenant gc req.bodyModel (headerRouteGroup tenant req)

def drawn : Option String :=
  let splitKey := (named tenant gc req).virtualAlias.getD (named tenant gc req).bodyModel
  if splitKey = "" then none
  else (tenant.trafficSplit.lookup splitKey).bind (weightedSelectModel req.intn)

def resolver : PrecedenceResolver := ⟨tenant,gc.models,.chat⟩

/-- The request that asks the router for `model` among all that the tenant may use. -/
def asked (model : String) : Request :=
  routeReq tenant gc req { forcedModel := model, candidates := (resolver tenant gc).allowed }

def KnownGroup : Prop :=
  (named tenant gc req).routeGroup ≠ "" →
    ∃ g, (resolver tenant gc).group (named tenant gc req).routeGroup = some g

def Overruled (model : String) : Prop :=
  (named tenant gc req).routeGroup ≠ "" ∧ model ≠ "" ∧
    ∃ g, (resolver tenant gc).group (named tenant gc req).routeGroup = some g ∧ model ∉ g ∧
      (resolver tenant gc).conflictPolicy = "ignore_model"

structure SplitHonoured : Prop where
  first : ∀ d, drawn tenant gc req = some d → d ∈ modelNames (resolver tenant gc).allowed →
    failModels req d = false → ∃ rest, plan rt tenant gc req = .ok (d :: rest)
  routable : (∃ models, plan rt (unsplit tenant) gc req = .ok models) →
    ∃ models, plan rt tenant gc req = .ok models

/-- The drawn model stands in every group that the request is held to, and can be served wherever the model
that it replaces could. -/
structure SplitFits (d : String) : Prop where
  grouped : d ∈ modelNames (resolver tenant gc).allowed → failModels req d = false →
    KnownGroup tenant gc req ∧ ∀ g ∈ (asked tenant gc req d).poolGroups, d ∈ g
  served : KnownGroup tenant gc req → (asked tenant gc req (named tenant gc req).bodyModel).Servable →
    Overruled tenant gc req d ∨ (asked tenant gc req d).Servable

end Plan

section Target

variable {tenant : TenantConfig} {gc : GlobalConfig} {req : RouteInput} {d model : String}

theorem target_of_drawn (h : drawn tenant gc req = some d) :
    target tenant gc req = ⟨d,(named tenant gc req).routeGroup,none⟩ := by
  simp only [drawn] at h
  split_ifs at h with hkey
  change splitTraffic tenant req (named tenant gc req) = _
  simp only [splitTraffic,if_neg hkey,h]

theorem target_of_undrawn (h : drawn tenant gc req = none) :
    target tenant gc req = named tenant gc req := by
  change splitTraffic tenant req (named tenant gc req) = _
  simp only [drawn] at h
  split_ifs at h with hkey
  · simp only [splitTraffic,if_pos hkey]
  · simp only [splitTraffic,if_neg hkey,h]

theorem undrawn_unsplit : drawn (unsplit tenant) gc req = none := by
  simp only [drawn]
  split_ifs
  · rfl
  · rfl

theorem target_unsplit : target (unsplit tenant) gc req = named tenant gc req :=
  target_of_undrawn undrawn_unsplit

theorem target_routeGroup : (target tenant gc req).routeGroup = (named tenant gc req).routeGroup := by
  cases h : drawn tenant gc req with
  | none => rw [target_of_undrawn h]
  | some d => rw [target_of_drawn h]

theorem weightedSelectModel_mem {intn : Int → Int} {entries : List TrafficSplitEntry}
    (h : weightedSelectModel intn entries = some d) : ∃ e ∈ entries, e.model = d ∧ e.model ≠ "" := by
  have hpick : ∀ (l : List TrafficSplitEntry) (r cumulative : Int), (∀ e ∈ l, e ∈ entries) →
      weightedSelectModel.pick entries r cumulative l = some d → ∃ e ∈ entries, e.model = d := by
    intro l
    induction l with
    | nil =>
      intro r cumulative _ hlast
      simp only [weightedSelectModel.pick,Option.map_eq_some_iff] at hlast
      obtain ⟨e,he,hmodel⟩ := hlast
      exact ⟨e,List.mem_of_getLast? he,hmodel⟩
    | cons e rest ih =>
      intro r cumulative hsub hfound
      simp only [weightedSelectModel.pick] at hfound
      split_ifs at hfound with hr
      · exact ⟨e,hsub e List.mem_cons_self,Option.some.inj hfound⟩
      · exact ih _ _ (fun e' he' => hsub e' (List.mem_cons_of_mem _ he')) hfound
  simp only [weightedSelectModel] at h
  split_ifs at h with hvalid
  obtain ⟨e,he,hmodel⟩ := hpick entries _ _ (fun _ he => he) h
  refine ⟨e,he,hmodel,fun hempty => hvalid ?_⟩
  have hany : entries.any (fun e => e.model = "" || e.weight ≤ 0) = true :=
    List.any_eq_true.mpr ⟨e,he,by simp [hempty]⟩
  simp [hany]

theorem drawn_ne (h : drawn tenant gc req = some d) : d ≠ "" := by
  simp only [drawn] at h
  split_ifs at h
  obtain ⟨entries,-,hselect⟩ := Option.bind_eq_some_iff.mp h
  obtain ⟨e,-,rfl,hne⟩ := weightedSelectModel_mem hselect
  exact hne

theorem headerModel_of_closed (h : tenant.selection.allowModelOverride = false) :
    headerModel tenant req = "" := by
  simp [headerModel,h]

theorem named_of_grouped (hclosed : tenant.selection.allowRouteGroupOverride = false)
    (hgroup : (named tenant gc req).routeGroup ≠ "") : (named tenant gc req).bodyModel = "" := by
  have hheader : headerRouteGroup tenant req = "" := by simp [headerRouteGroup,hclosed]
  simp only [named,hheader,resolveAlias] at hgroup ⊢
  split at hgroup
  · exact absurd rfl hgroup
  · split_ifs at hgroup ⊢
    · rfl
    · exact absurd rfl hgroup

end Target

section Routable

variable {rt : Router} {tenant : TenantConfig} {gc : GlobalConfig} {req : RouteInput}
  {models : List String} {r : PrecedenceResult}

theorem requested_body (pr : PrecedenceResolver) (model : String) : (pr.requested model "").1 = model := by
  simp only [requested,prefers]
  split_ifs <;> simp_all

theorem settle_forcedModel {pr : PrecedenceResolver} {model routeGroup : String} {source : RequestedSource}
    {candidates : List ModelConfig} (h : pr.settle model source routeGroup candidates = .ok r) :
    r.forcedModel = model := by
  simp only [settle] at h
  split_ifs at h with hmodel
  · cases h
    rfl
  · cases h
    exact (not_not.mp hmodel).symm

theorem plan_ok_of_resolution (h : resolution tenant gc req = .ok r) :
    (∃ models, plan rt tenant gc req = .ok models) ↔ (routeReq tenant gc req r).Servable := by
  rw [← select_ok_iff rt,plan,h]
  dsimp only
  cases hsel : (rt.select (routeReq tenant gc req r)).1 with
  | error err => exact ⟨nofun,nofun⟩
  | ok res => exact ⟨fun _ => ⟨res,rfl⟩,fun _ => ⟨_,rfl⟩⟩

theorem plan_error_of_resolution {err : PrecedenceError} (h : resolution tenant gc req = .error err) :
    ¬∃ models, plan rt tenant gc req = .ok models := by
  rw [plan,h]
  exact nofun

theorem plan_ok (h : plan rt tenant gc req = .ok models) : ∃ r res, resolution tenant gc req = .ok r ∧
    (rt.select (routeReq tenant gc req r)).1 = .ok res ∧ res.candidates = models := by
  unfold plan at h
  split at h
  · cases h
  · rename_i r hr
    split at h
    · cases h
    · rename_i res hres
      exact ⟨r,res,hr,hres,Except.ok.inj h⟩

theorem run_follows_plan (g : Gateway) (pr : Api.ParsedRequest)
    (hml : ¬(pr.rawBody.isSome ∧ pr.headers "X-Model-Type" = "ml")) (hmessages : pr.messages ≠ [])
    (hmetadata : validateMetadata pr.metadata = .ok ()) (htools : g.toolRoutingEnabled = false) :
    match plan g.router g.tenant g.globalConfig (g.routeInput pr) with
    | .error (.precedence err) => (g.run pr).ending = .precedence err
    | .error (.selection err) => (g.run pr).ending = .selection err
    | .ok candidates => ∃ virtualAlias routeGroup,
      (g.run pr).ending = (g.hookStage pr virtualAlias routeGroup candidates).ending := by
  have hsome : pr.messages.isEmpty = false := List.isEmpty_eq_false_iff.mpr hmessages
  cases hr : resolution g.tenant g.globalConfig (g.routeInput pr) with
  | error err => simp [plan,Gateway.run,hml,hsome,hmetadata,hr]
  | ok r =>
    simp only [plan,Gateway.run,if_neg hml,hsome,hmetadata,hr,Gateway.toolStage,htools,
      Bool.false_eq_true,if_false,Gateway.selectStage]
    cases hselect : (g.router.select (routeReq g.tenant g.globalConfig (g.routeInput pr) r)).1 with
    | error err => rfl
    | ok res => exact ⟨_,_,rfl⟩

theorem mem_poolGroups {g : List String} (hnamed : (named tenant gc req).routeGroup ≠ "")
    (hgroup : (resolver tenant gc).group (named tenant gc req).routeGroup = some g) (r : PrecedenceResult) :
    g ∈ (routeReq tenant gc req r).poolGroups := by
  have hroute : (routeReq tenant gc req r).routeGroup = (named tenant gc req).routeGroup := target_routeGroup
  have hexplicit : (routeReq tenant gc req r).explicitGroup = some g := by
    simp only [Request.explicitGroup,hroute,if_pos hnamed]
    exact hgroup
  simp [Request.poolGroups,hexplicit]

theorem routeReq_eq_asked (r : PrecedenceResult) : routeReq tenant gc req r =
    { asked tenant gc req r.forcedModel with candidates := r.candidates } := rfl

theorem plan_ok_of_settle {model routeGroup : String} {source : RequestedSource}
    {candidates : List ModelConfig} (h : resolution tenant gc req =
      (resolver tenant gc).settle model source routeGroup candidates) :
    (∃ models, plan rt tenant gc req = .ok models) ↔
      ({ asked tenant gc req model with candidates := candidates } : Request).Servable := by
  cases hsettle : (resolver tenant gc).settle model source routeGroup candidates with
  | ok r =>
    rw [plan_ok_of_resolution (h.trans hsettle),routeReq_eq_asked,settle_forcedModel hsettle,
      (settle_ok hsettle).1]
  | error err =>
    refine iff_of_false (plan_error_of_resolution (h.trans hsettle)) fun hs => ?_
    simp only [settle] at hsettle
    split_ifs at hsettle with hmodel hmissing
    obtain ⟨m,hm,hname,-⟩ := hs.forced hmodel
    have hin : model ∈ modelNames candidates := mem_modelNames.mpr ⟨m,hm,hname⟩
    simp [hin] at hmissing

theorem not_servable_outside {model : String} {g : List String}
    (hg : g ∈ (asked tenant gc req model).poolGroups) (hne : model ≠ "") (hout : model ∉ g) :
    ¬(asked tenant gc req model).Servable := by
  intro hs
  obtain ⟨m,-,hname,hgroups⟩ := hs.forced hne
  have hin := hgroups g hg
  rw [hname] at hin
  exact hout hin

theorem plan_ok_of_conflict {model : String} {source : RequestedSource} {g : List String}
    (hnamed : (named tenant gc req).routeGroup ≠ "")
    (hgroup : (resolver tenant gc).group (named tenant gc req).routeGroup = some g)
    (hne : model ≠ "") (hout : model ∉ g) (h : resolution tenant gc req = (resolver tenant gc).conflict
      model source (named tenant gc req).routeGroup ((resolver tenant gc).grouped g)) :
    (∃ models, plan rt tenant gc req = .ok models) ↔
      (resolver tenant gc).conflictPolicy = "ignore_model" ∧ (asked tenant gc req "").Servable := by
  have hpool : ∀ model', g ∈ (asked tenant gc req model').poolGroups :=
    fun _ => mem_poolGroups hnamed hgroup _
  rcases @conflict_cases (resolver tenant gc) (named tenant gc req).routeGroup model source
      ((resolver tenant gc).grouped g) with
    ⟨hpolicy,hresult⟩ | ⟨r,hpolicy,hresult,hforced,hcandidates,-⟩ |
      ⟨r,hpolicy,hresult,hforced,hcandidates⟩ | ⟨⟨-,-,hpolicy⟩,hresult⟩
  · refine iff_of_false (plan_error_of_resolution (h.trans hresult)) fun hboth => ?_
    rw [hpolicy] at hboth
    exact absurd hboth.1 (by decide)
  · refine iff_of_false ?_ fun hboth => ?_
    · rw [plan_ok_of_resolution (h.trans hresult),routeReq_eq_asked,hforced,hcandidates]
      exact not_servable_outside (hpool model) hne hout
    · rw [hpolicy] at hboth
      exact absurd hboth.1 (by decide)
  · rw [plan_ok_of_resolution (h.trans hresult),routeReq_eq_asked,hforced,hcandidates,
      and_iff_right hpolicy]
    exact servable_with_group (hpool "")
  · exact iff_of_false (plan_error_of_resolution (h.trans hresult)) fun hboth => hpolicy hboth.1

theorem plan_ok_iff {model : String} (hclosed : tenant.selection.allowModelOverride = false)
    (hmodel : (target tenant gc req).bodyModel = model) :
    (∃ models, plan rt tenant gc req = .ok models) ↔ KnownGroup tenant gc req ∧
      (Overruled tenant gc req model ∧ (asked tenant gc req "").Servable ∨
        ¬Overruled tenant gc req model ∧ (asked tenant gc req model).Servable) := by
  have hresolution : resolution tenant gc req =
      (resolver tenant gc).resolve model "" (named tenant gc req).routeGroup := by
    rw [resolution,hmodel,headerModel_of_closed hclosed,target_routeGroup,resolver]
  by_cases hallowed : (resolver tenant gc).allowed = []
  · rw [resolve_of_empty _ _ hallowed] at hresolution
    have hnot : ∀ model', ¬(asked tenant gc req model').Servable := by
      rintro model' ⟨⟨m,hm,-⟩,-,-⟩
      change m ∈ (resolver tenant gc).allowed at hm
      rw [hallowed] at hm
      cases hm
    refine iff_of_false (plan_error_of_resolution hresolution) ?_
    rintro ⟨-,⟨-,hs⟩ | ⟨-,hs⟩⟩
    · exact hnot _ hs
    · exact hnot _ hs
  by_cases hnamed : (named tenant gc req).routeGroup = ""
  · rw [hnamed,resolve_of_ungrouped _ _ hallowed,requested_body] at hresolution
    have hknown : KnownGroup tenant gc req := fun h => absurd hnamed h
    have hkept : ¬Overruled tenant gc req model := fun h => h.1 hnamed
    rw [and_iff_right hknown,or_iff_right fun h => hkept h.1,and_iff_right hkept]
    exact plan_ok_of_settle hresolution
  cases hgroup : (resolver tenant gc).group (named tenant gc req).routeGroup with
  | none =>
    rw [resolve_of_missing _ _ hallowed hnamed hgroup] at hresolution
    refine iff_of_false (plan_error_of_resolution hresolution) fun ⟨hknown,_⟩ => ?_
    obtain ⟨g,hg⟩ := hknown hnamed
    rw [hgroup] at hg
    cases hg
  | some g =>
    have hknown : KnownGroup tenant gc req := fun _ => ⟨g,hgroup⟩
    have hpool : g ∈ (asked tenant gc req model).poolGroups := mem_poolGroups hnamed hgroup _
    have hoverruled : Overruled tenant gc req model ↔ (model ≠ "" ∧ model ∉ g) ∧
        (resolver tenant gc).conflictPolicy = "ignore_model" := by
      simp only [Overruled,hgroup,Option.some.injEq,exists_eq_left',and_assoc]
      exact and_iff_right hnamed
    rw [resolve_of_grouped _ _ hallowed hnamed hgroup,requested_body] at hresolution
    rw [and_iff_right hknown,hoverruled]
    by_cases hconflict : model ≠ "" ∧ model ∉ g
    · rw [if_pos hconflict] at hresolution
      rw [and_iff_right hconflict,
        or_iff_left fun h => not_servable_outside hpool hconflict.1 hconflict.2 h.2]
      exact plan_ok_of_conflict hnamed hgroup hconflict.1 hconflict.2 hresolution
    · rw [if_neg hconflict] at hresolution
      rw [or_iff_right fun h => hconflict h.1.1,and_iff_right fun h => hconflict h.1]
      by_cases hempty : (resolver tenant gc).grouped g = []
      · rw [if_pos hempty] at hresolution
        refine iff_of_false (plan_error_of_resolution hresolution) ?_
        rintro ⟨⟨m,hm,he⟩,-,-⟩
        have hin : m ∈ (resolver tenant gc).grouped g :=
          List.mem_filter.mpr ⟨hm,List.contains_iff_mem.mpr (he.inGroups g hpool)⟩
        rw [hempty] at hin
        cases hin
      · rw [if_neg hempty] at hresolution
        rw [plan_ok_of_settle hresolution]
        exact servable_with_group hpool

theorem resolution_forced {model : String} (hclosed : tenant.selection.allowModelOverride = false)
    (hmodel : (target tenant gc req).bodyModel = model) (hkept : ¬Overruled tenant gc req model)
    (h : resolution tenant gc req = .ok r) : r.forcedModel = model := by
  have hresolution : resolution tenant gc req =
      (resolver tenant gc).resolve model "" (named tenant gc req).routeGroup := by
    rw [resolution,hmodel,headerModel_of_closed hclosed,target_routeGroup,resolver]
  rw [hresolution] at h
  by_cases hallowed : (resolver tenant gc).allowed = []
  · rw [resolve_of_empty _ _ hallowed] at h
    cases h
  by_cases hnamed : (named tenant gc req).routeGroup = ""
  · rw [hnamed,resolve_of_ungrouped _ _ hallowed,requested_body] at h
    exact settle_forcedModel h
  cases hgroup : (resolver tenant gc).group (named tenant gc req).routeGroup with
  | none =>
    rw [resolve_of_missing _ _ hallowed hnamed hgroup] at h
    cases h
  | some g =>
    rw [resolve_of_grouped _ _ hallowed hnamed hgroup,requested_body] at h
    split_ifs at h with hconflict
    · by_cases hforced : r.forcedModel = ""
      · refine absurd ⟨hnamed,hconflict.1,g,hgroup,hconflict.2,?_⟩ hkept
        unfold conflict at h
        split_ifs at h with _ _ hpolicy
        · cases h
          exact absurd hforced hconflict.1
        · exact hpolicy
      · exact conflict_forced h hforced
    · exact settle_forcedModel h

end Routable

section Split

variable {rt : Router} {tenant : TenantConfig} {gc : GlobalConfig} {req : RouteInput} {d : String}

theorem asked_unsplit (model : String) :
    asked (unsplit tenant) gc req model = asked tenant gc req model := by
  have hroute : (target (unsplit tenant) gc req).routeGroup = (target tenant gc req).routeGroup := by
    rw [target_unsplit,target_routeGroup]
  simp only [asked,routeReq,hroute]
  rfl

theorem not_overruled_named (hclosed : tenant.selection.allowRouteGroupOverride = false) :
    ¬Overruled tenant gc req (named tenant gc req).bodyModel :=
  fun h => h.2.1 (named_of_grouped hclosed h.1)

theorem unsplit_ok_iff (hmodel : tenant.selection.allowModelOverride = false)
    (hgroup : tenant.selection.allowRouteGroupOverride = false) :
    (∃ models, plan rt (unsplit tenant) gc req = .ok models) ↔
      KnownGroup tenant gc req ∧ (asked tenant gc req (named tenant gc req).bodyModel).Servable := by
  have hbody : (target (unsplit tenant) gc req).bodyModel = (named tenant gc req).bodyModel := by
    rw [target_unsplit]
  have hkept : ¬Overruled (unsplit tenant) gc req (named tenant gc req).bodyModel :=
    @not_overruled_named (unsplit tenant) gc req hgroup
  rw [@plan_ok_iff rt (unsplit tenant) gc req _ hmodel hbody,or_iff_right fun h => hkept h.1,
    and_iff_right hkept,asked_unsplit]
  rfl

theorem plan_first (hmodel : tenant.selection.allowModelOverride = false)
    (hd : drawn tenant gc req = some d) (hkept : ¬Overruled tenant gc req d)
    (havailable : failModels req d = false) {models : List String}
    (h : plan rt tenant gc req = .ok models) : ∃ rest, models = d :: rest := by
  have hbody : (target tenant gc req).bodyModel = d := by rw [target_of_drawn hd]
  obtain ⟨r,res,hr,hres,rfl⟩ := plan_ok h
  have hforced : (routeReq tenant gc req r).forcedModel = d := resolution_forced hmodel hbody hkept hr
  obtain ⟨cs,-,⟨-,hselect⟩ | ⟨hnone,-⟩⟩ := select_ok hres
  · obtain ⟨-,hcandidates,-⟩ := forced_ok hselect
    have hfail : (routeReq tenant gc req r).failModels d = false := havailable
    rw [hforced,removeFailModels,List.filter_cons_of_pos (by simp [hfail])] at hcandidates
    exact ⟨_,hcandidates⟩
  · exact absurd (hforced.symm.trans hnone) (drawn_ne hd)

theorem split_honoured_iff (rt : Router) (tenant : TenantConfig) (gc : GlobalConfig) (req : RouteInput)
    (hmodel : tenant.selection.allowModelOverride = false)
    (hgroup : tenant.selection.allowRouteGroupOverride = false) :
    SplitHonoured rt tenant gc req ↔
      ∀ d, drawn tenant gc req = some d → SplitFits tenant gc req d := by
  constructor
  · intro h d hd
    have hbody : (target tenant gc req).bodyModel = d := by rw [target_of_drawn hd]
    refine ⟨fun hallowed havailable => ?_,fun hknown hserved => ?_⟩
    · obtain ⟨rest,hplan⟩ := h.first d hd hallowed havailable
      refine ⟨((plan_ok_iff hmodel hbody).mp ⟨_,hplan⟩).1,?_⟩
      obtain ⟨r,res,-,hres,hcandidates⟩ := plan_ok hplan
      obtain ⟨m,-,rfl,he⟩ := (mem_candidates_iff hres).mp (hcandidates ▸ List.mem_cons_self)
      exact he.inGroups
    · obtain ⟨-,⟨hoverruled,-⟩ | ⟨-,hdrawn⟩⟩ := (plan_ok_iff hmodel hbody).mp
        (h.routable ((unsplit_ok_iff hmodel hgroup).mpr ⟨hknown,hserved⟩))
      · exact .inl hoverruled
      · exact .inr hdrawn
  · intro h
    refine ⟨fun d hd hallowed havailable => ?_,fun hunsplit => ?_⟩
    · have hbody : (target tenant gc req).bodyModel = d := by rw [target_of_drawn hd]
      obtain ⟨hknown,hgroups⟩ := (h d hd).grouped hallowed havailable
      obtain ⟨m,hm,rfl⟩ := mem_modelNames.mp hallowed
      have hserved : (asked tenant gc req m.name).Servable := by
        refine ⟨⟨m,hm,hgroups,havailable,fun _ hnone => absurd hnone (drawn_ne hd)⟩,
          fun _ => ⟨m,hm,rfl,hgroups⟩,fun hnone => absurd hnone (drawn_ne hd)⟩
      have hkept : ¬Overruled tenant gc req m.name := by
        rintro ⟨hnamed,-,g,hg,hout,-⟩
        exact hout (hgroups g (mem_poolGroups hnamed hg _))
      obtain ⟨models,hplan⟩ := (@plan_ok_iff rt _ _ _ _ hmodel hbody).mpr
        ⟨hknown,.inr ⟨hkept,hserved⟩⟩
      obtain ⟨rest,rfl⟩ := plan_first hmodel hd hkept havailable hplan
      exact ⟨rest,hplan⟩
    · obtain ⟨hknown,hserved⟩ := (unsplit_ok_iff hmodel hgroup).mp hunsplit
      cases hd : drawn tenant gc req with
      | none =>
        have hbody : (target tenant gc req).bodyModel = (named tenant gc req).bodyModel := by
          rw [target_of_undrawn hd]
        exact (plan_ok_iff hmodel hbody).mpr ⟨hknown,.inr ⟨not_overruled_named hgroup,hserved⟩⟩
      | some d =>
        have hbody : (target tenant gc req).bodyModel = d := by rw [target_of_drawn hd]
        refine (plan_ok_iff hmodel hbody).mpr ⟨hknown,?_⟩
        by_cases hoverruled : Overruled tenant gc req d
        · rw [named_of_grouped hgroup hoverruled.1] at hserved
          exact .inl ⟨hoverruled,hserved⟩
        · exact .inr ⟨hoverruled,((h d hd).served hknown hserved).resolve_left hoverruled⟩

end Split

def splitAlias (model : String) : TenantConfig where
  id := "acme"
  allowedModels := ["opus","mini"]
  routing := { strategy := "round_robin" }
  selection :=
    { routeGroups := some [("cheap",["mini"])]
      virtualModels := [("fast",{ enabled := true, routeGroup := "cheap" })] }
  rateLimit := ⟨60,10⟩
  compliance := ⟨90,"full"⟩
  trafficSplit := [("fast",[{ model := model, weight := 100 }])]

def asksForFast : RouteInput where
  bodyModel := "fast"
  headers := fun _ => ""

theorem split_within_group : SplitHonoured idleRouter (splitAlias "mini") twoModels asksForFast := by
  refine (split_honoured_iff idleRouter (splitAlias "mini") twoModels asksForFast rfl rfl).mpr
    fun d hd => ?_
  have hdrawn : drawn (splitAlias "mini") twoModels asksForFast = some "mini" := by decide
  obtain rfl : "mini" = d := Option.some.inj (hdrawn.symm.trans hd)
  have hgroups : ∀ g ∈ (asked (splitAlias "mini") twoModels asksForFast "mini").poolGroups,
      "mini" ∈ g := by decide
  refine ⟨fun _ _ => ⟨fun _ => ⟨["mini"],by decide⟩,hgroups⟩,fun _ _ => .inr ?_⟩
  refine ⟨⟨{ name := "mini", provider := "openai" },by decide,hgroups,by decide,nofun⟩,fun _ => ?_,nofun⟩
  exact ⟨{ name := "mini", provider := "openai" },by decide,rfl,hgroups⟩

theorem split_breaks_alias :
    drawn (splitAlias "opus") twoModels asksForFast = some "opus" ∧
      plan idleRouter (unsplit (splitAlias "opus")) twoModels asksForFast = .ok ["mini"] ∧
      plan idleRouter (splitAlias "opus") twoModels asksForFast =
        .error (.precedence (.modelNotInRouteGroup "opus" "cheap")) ∧
      ¬SplitHonoured idleRouter (splitAlias "opus") twoModels asksForFast := by
  have hunsplit : plan idleRouter (unsplit (splitAlias "opus")) twoModels asksForFast = .ok ["mini"] := by
    decide
  have hplan : plan idleRouter (splitAlias "opus") twoModels asksForFast =
      .error (.precedence (.modelNotInRouteGroup "opus" "cheap")) := by decide
  refine ⟨by decide,hunsplit,hplan,fun h => ?_⟩
  obtain ⟨models,hok⟩ := h.routable ⟨_,hunsplit⟩
  rw [hplan] at hok
  cases hok

end PrismGateway.Orchestrator
