import PrismGateway.Orchestrator.Completeness
import PrismGateway.Orchestrator.Independence
import PrismGateway.Orchestrator.Redaction

namespace PrismGateway.Orchestrator

open Lib Config Router Providers Float.Model
open Api (ParsedRequest)

structure BudgetEnforcementThresholds where
  warnPct : Float := 0
  hardPct : Float := 0

structure TagBudgetsConfig where
  enabled : Bool := false
  keys : List String := []
  monthlyUSDByTag : List (String × List (String × Float)) := []

structure BudgetEnforcementConfig where
  enabled : Bool := false
  mode : String := ""
  blockStatus : ℕ := 0
  degradeRouteGroup : String := ""
  includeCostInError : Bool := false
  thresholds : BudgetEnforcementThresholds := {}
  tagBudgets : TagBudgetsConfig := {}

namespace BudgetEnforcementConfig

variable (enf : BudgetEnforcementConfig)

def warnPct : Float := if enf.thresholds.warnPct ≤ 0 then 0.80 else enf.thresholds.warnPct

def hardPct : Float := if enf.thresholds.hardPct ≤ 0 then 1.00 else enf.thresholds.hardPct

def blockStatusOrDefault : ℕ := if enf.blockStatus = 0 then 402 else enf.blockStatus

end BudgetEnforcementConfig

structure BudgetCheck where
  monthSpendUSD : Float := 0
  reservationID : Option String := none

inductive ReserveError where
  | exceeded
  | failed (message : String)

structure MonthlyStore where
  monthlySpend : Except String Float
  -- the sums `CheckAndReserveBudget` reads, an error where its transaction or lock fails
  usageSpend : Except String Float
  reservedSpend : Except String Float
  -- the id of the row it inserts and commits
  reserve : Except String String
  tagMonthlySpend : String → String → Except String Float

def MonthlyStore.checkAndReserveBudget (st : MonthlyStore) (limitUSD estimatedCost : Float) :
    BudgetCheck × Option ReserveError :=
  match st.usageSpend with
  | .error err => ({},some (.failed err))
  | .ok usage => match st.reservedSpend with
    | .error err => ({},some (.failed err))
    | .ok reserved =>
      let check : BudgetCheck := { monthSpendUSD := usage + reserved }
      if usage + reserved + estimatedCost > limitUSD then (check,some .exceeded)
      else match st.reserve with
        | .error err => (check,some (.failed err))
        | .ok id => ({ check with reservationID := some id },none)

def signText : UnpackedFloat.Sign → String
  | .positive => ""
  | .negative => "-"

def roundHalfEven (n d : ℕ) : ℕ :=
  if d < 2 * (n % d) ∨ 2 * (n % d) = d ∧ n / d % 2 = 1 then n / d + 1 else n / d

def fixed4 (x : Float) : String :=
  match x.toModel.unpack with
  | .notANumber => "NaN"
  | .infinity .positive => "+Inf"
  | .infinity .negative => "-Inf"
  | .zero s => signText s ++ "0.0000"
  | .finite s m e _ =>
    let n := match e with
      | .ofNat k => m * 2 ^ k * 10000
      | .negSucc k => roundHalfEven (m * 10000) (2 ^ (k + 1))
    let fraction := toString (n % 10000)
    signText s ++ toString (n / 10000) ++ "." ++
      String.ofList (List.replicate (4 - fraction.length) '0') ++ fraction

structure BudgetWarnPayload where
  tenantID : String
  level : String
  tagKey : String := ""
  tagValue : String := ""
  spendUSD : Float
  budgetUSD : Float
  pct : Float
  warnPct : Float

/-- The results of `applyBudgetEnforcement`. -/
structure Enforced where
  degradeGroup : String := ""
  blocked : Bool := false
  httpStatus : ℕ := 0
  msg : String := ""
  reservationID : Option String := none

namespace BudgetEnforcementConfig

variable (enf : BudgetEnforcementConfig) (tenant : TenantConfig) (st : MonthlyStore)

def tenantMsg (spend : Float) : String :=
  if enf.includeCostInError then
    "monthly budget exceeded for tenant '" ++ tenant.id ++ "' (spend: $" ++ fixed4 spend ++ " / $" ++
      fixed4 tenant.budgets.monthlyUSD ++ ")"
  else "monthly budget exceeded for tenant '" ++ tenant.id ++ "'"

def tagMsg (key val : String) (spend limit : Float) : String :=
  if enf.includeCostInError then
    "monthly budget exceeded for " ++ key ++ " '" ++ val ++ "' (tenant '" ++ tenant.id ++
      "', spend: $" ++ fixed4 spend ++ " / $" ++ fixed4 limit ++ ")"
  else
    "monthly budget exceeded for " ++ key ++ " '" ++ val ++ "' (tenant '" ++ tenant.id ++ "')"

def breached (msg : String) (reservationID : Option String) : Option Enforced :=
  if enf.mode = "report_only" then none
  else if enf.mode = "block" then
    some { blocked := true, httpStatus := enf.blockStatusOrDefault, msg := msg }
  else if enf.mode = "degrade" then
    some { degradeGroup := enf.degradeRouteGroup, reservationID := reservationID }
  else none

def tagLimit (metadata : Json.Entries) (key : String) : Option (String × Float) :=
  match metadata.lookup key with
  | some (.str val) =>
    if val = "" then none
    else match (enf.tagBudgets.monthlyUSDByTag.lookup key).bind (·.lookup val) with
      | none => none
      | some limit => if limit ≤ 0 then none else some (val,limit)
  | _ => none

def enforceTags (reservationID : Option String) (metadata : Json.Entries) :
    List String → List BudgetWarnPayload × Option Enforced
  | [] => ([],none)
  | key :: keys =>
    let rest := enforceTags reservationID metadata keys
    match enf.tagLimit metadata key with
    | none => rest
    | some (val,limit) => match st.tagMonthlySpend key val with
      | .error _ => rest
      | .ok spend =>
        if spend / limit ≥ enf.hardPct then
          match enf.breached (enf.tagMsg tenant key val spend limit) reservationID with
          | some result => ([],some result)
          | none => rest
        else if spend / limit ≥ enf.warnPct then
          (⟨tenant.id,"tag",key,val,spend,limit,spend / limit,enf.warnPct⟩ :: rest.1,rest.2)
        else rest

def enforceTagBudgets (reservationID : Option String) (metadata : Option Json.Entries) :
    List BudgetWarnPayload × Enforced :=
  let entries := metadata.getD []
  if enf.tagBudgets.enabled ∧ enf.tagBudgets.keys ≠ [] ∧ entries ≠ [] then
    let tags := enf.enforceTags tenant st reservationID entries enf.tagBudgets.keys
    (tags.1,tags.2.getD { reservationID := reservationID })
  else ([],{ reservationID := reservationID })

/-- The tenant-level check: the spend, whether the hard threshold is reached and the reservation; `none`
where the store fails. -/
def tenantSpend : Option (Float × Bool × Option String) :=
  let budget := tenant.budgets.monthlyUSD
  if enf.mode = "report_only" then
    match st.monthlySpend with
    | .error _ => none
    | .ok spend => some (spend,spend / budget ≥ enf.hardPct,none)
  else
    let (check,err) := st.checkAndReserveBudget (budget * enf.hardPct) 0.01
    match err with
    | some (.failed _) => none
    | some .exceeded => some (check.monthSpendUSD,true,check.reservationID)
    | none => some (check.monthSpendUSD,false,check.reservationID)

def applyBudgetEnforcement (metadata : Option Json.Entries) : List BudgetWarnPayload × Enforced :=
  let budget := tenant.budgets.monthlyUSD
  if budget ≤ 0 then ([],{})
  else match enf.tenantSpend tenant st with
    | none => ([],{})
    | some (spend,hardBreached,reservationID) =>
      let tags := enf.enforceTagBudgets tenant st reservationID metadata
      if hardBreached then
        match enf.breached (enf.tenantMsg tenant spend) reservationID with
        | some result => ([],result)
        | none => tags
      else if spend / budget ≥ enf.warnPct then
        ({ tenantID := tenant.id, level := "tenant", spendUSD := spend, budgetUSD := budget
           pct := spend / budget, warnPct := enf.warnPct } :: tags.1,tags.2)
      else tags

end BudgetEnforcementConfig

def checkBudget (tenant : TenantConfig) (st : MonthlyStore) : Bool :=
  match (st.checkAndReserveBudget tenant.budgets.monthlyUSD 0.01).2 with
  | some .exceeded => true
  | _ => false

def Enforced.verdict (result : Enforced) : BudgetVerdict :=
  if result.blocked then .blocked result.httpStatus result.msg else .degrade result.degradeGroup

def budgetVerdict (enf : BudgetEnforcementConfig) (tenant : TenantConfig) (st : MonthlyStore)
    (metadata : Option Json.Entries) : BudgetVerdict :=
  if enf.enabled then (enf.applyBudgetEnforcement tenant st metadata).2.verdict
  else if tenant.budgets.monthlyUSD > 0 ∧ checkBudget tenant st then
    .blocked 429 ("monthly budget exceeded for tenant '" ++ tenant.id ++ "'")
  else .proceed

def Event.preliminary : Event → Bool
  | .toolRoutes _ => true
  | .select _ => true
  | _ => false

namespace Gateway

def enforcing (enf : BudgetEnforcementConfig) (st : MonthlyStore) (g : Gateway) : Gateway :=
  { g with budget := budgetVerdict enf g.tenant st }

def meeting (o : Outcomes) (find : Option (String → String → String → Option CacheEntry))
    (g : Gateway) : Gateway :=
  { g with outcomes := o, semanticCache := find }

variable (g : Gateway) (pr : ParsedRequest)

def prehooked : Option (ChatRequest × List String) :=
  (g.selected pr).bind (fun candidates =>
    (g.preRequest g.hooks (provReq pr) candidates).2.toOption)

def groupModels (group : String) : List String :=
  (g.tenant.selection.routeGroups.bind (·.lookup group)).getD []

def tries (n : String) : Prop := ∃ req, Event.call (.send n req) ∈ (g.run pr).events

def HardLimitHolds (enf : BudgetEnforcementConfig) : Prop :=
  (∃ message, (g.run pr).ending = .failed enf.blockStatusOrDefault message "budget_exceeded") ∨
    ∀ n, g.tries pr n → n ∈ g.groupModels enf.degradeRouteGroup

end Gateway

def Env.Within (env : Env) (models candidates : List String) : Prop :=
  EveryEntered (fun _ n => env.stops n = false)
    (fun _ n => (env.sendable n).isSome = true → n ∈ models) (env.tried candidates)

def BudgetEnforcementConfig.Effective (enf : BudgetEnforcementConfig) (g : Gateway)
    (pr : ParsedRequest) : Prop :=
  ∀ req candidates, g.prehooked pr = some (req,candidates) →
    enf.mode = "block" ∨
    (enf.mode = "degrade" ∧ enf.degradeRouteGroup ≠ "" ∧
      ∃ n ∈ candidates, n ∈ g.groupModels enf.degradeRouteGroup) ∨
    (g.env pr req).Within (g.groupModels enf.degradeRouteGroup) candidates

namespace Gateway

variable {g g' : Gateway} {pr : ParsedRequest}

def hookStep (g : Gateway) (hook : Hook) (req : ChatRequest) (candidates : List String) :
    Except Ending (ChatRequest × List String) :=
  (g.preRequest [hook] req candidates).2

theorem preRequest_cons (hook : Hook) (rest : List Hook) (req : ChatRequest)
    (candidates : List String) :
    g.preRequest (hook :: rest) req candidates = match g.hookStep hook req candidates with
      | .error ending => ([.hook hook.name req],.error ending)
      | .ok p => (.hook hook.name req :: (g.preRequest rest p.1 p.2).1,(g.preRequest rest p.1 p.2).2) := by
  unfold hookStep
  cases hr : hook.preRequest req with
  | error err => simp only [preRequest,hr]
  | ok result =>
    cases hd : result.decision with
    | allow => simp only [preRequest,hr,hd]
    | block => simp only [preRequest,hr,hd]
    | redact => simp only [preRequest,hr,hd]
    | warn => simp only [preRequest,hr,hd]
    | allowPII =>
      cases hm : g.allowPIIModel with
      | none => simp only [preRequest,hr,hd,hm]
      | some model =>
        by_cases hknown : (g.globalConfig.modelByName model).isNone = true
        · simp only [preRequest,hr,hd,hm,hknown,if_true]
        · simp only [preRequest,hr,hd,hm,hknown,if_false,Bool.false_eq_true]

theorem preRequest_events (hooks : List Hook) (req : ChatRequest) (candidates : List String) :
    ∀ ev ∈ (g.preRequest hooks req candidates).1, ∃ name req, ev = .hook name req := by
  induction hooks generalizing req candidates with
  | nil => simp [preRequest]
  | cons hook rest ih =>
    intro ev hev
    rw [preRequest_cons] at hev
    split at hev
    · exact ⟨_,_,List.mem_singleton.mp hev⟩
    · rcases List.mem_cons.mp hev with rfl | htail
      · exact ⟨_,_,rfl⟩
      · exact ih _ _ ev htail

def Quiet (events : List Event) : Prop := ∀ a, Event.call a ∉ events

theorem quiet_preRequest (hooks : List Hook) (req : ChatRequest) (candidates : List String) :
    Quiet (g.preRequest hooks req candidates).1 := by
  intro a ha
  obtain ⟨name,req',heq⟩ := preRequest_events hooks req candidates _ ha
  cases heq

theorem Quiet.append {before events : List Event} (hbefore : Quiet before) (hevents : Quiet events) :
    Quiet (before ++ events) := by
  intro a ha
  rcases List.mem_append.mp ha with h | h
  · exact hbefore a h
  · exact hevents a h

theorem quiet_of_preliminary {events : List Event} (h : events.all Event.preliminary = true) :
    Quiet events := by
  intro a ha
  exact absurd (List.all_eq_true.mp h _ ha) (by simp [Event.preliminary])

theorem toolStage_matched {r : PrecedenceResult} {found : ToolRouteMatch}
    (h : g.toolMatch pr = some found) :
    g.toolStage pr r = ⟨[.toolRoutes pr.messageTexts],.toolRoute found⟩ := by
  unfold toolMatch at h
  split_ifs at h with htool
  unfold toolStage
  rw [if_pos htool,h]

theorem toolStage_unmatched {r : PrecedenceResult} (h : g.toolMatch pr = none) :
    ∃ before : List Event, before.all Event.preliminary = true ∧ g.toolStage pr r =
      ⟨before ++ (g.selectStage pr r).events,(g.selectStage pr r).ending⟩ := by
  unfold toolMatch at h
  unfold toolStage
  split_ifs at h with htool
  · rw [if_pos htool,h]
    exact ⟨[.toolRoutes pr.messageTexts],rfl,rfl⟩
  · rw [if_neg htool]
    exact ⟨[],rfl,rfl⟩

theorem hookStage_hooked {virtualAlias : Option String} {routeGroup : String}
    {candidates candidates' : List String} {req : ChatRequest}
    (h : (g.preRequest g.hooks (provReq pr) candidates).2 = .ok (req,candidates')) :
    g.hookStage pr virtualAlias routeGroup candidates =
      ⟨(g.preRequest g.hooks (provReq pr) candidates).1 ++
        (g.budgetStage pr virtualAlias routeGroup req candidates').events,
        (g.budgetStage pr virtualAlias routeGroup req candidates').ending⟩ := by
  simp only [hookStage,h]

theorem run_of_selected {candidates : List String} (h : g.selected pr = some candidates) :
    ∃ before : List Event, before.all Event.preliminary = true ∧ g.run pr =
      ⟨before ++ (g.hookStage pr (g.aliasUsed pr) (g.groupUsed pr) candidates).events,
        (g.hookStage pr (g.aliasUsed pr) (g.groupUsed pr) candidates).ending⟩ := by
  obtain ⟨r,hr,hpool⟩ := Option.bind_eq_some_iff.mp h
  have hgroup : g.groupUsed pr = r.routeGroupUsed := by simp [groupUsed,hr]
  cases hm : g.toolMatch pr with
  | some found => simp [hm] at hpool
  | none =>
    simp only [hm,Option.isSome_none,Bool.false_eq_true,if_false] at hpool
    cases hs : (g.router.select (g.routed pr r)).1 with
    | error err => simp [hs,Except.toOption] at hpool
    | ok result =>
      simp only [hs,Except.toOption,Option.map_some,Option.some.injEq] at hpool
      subst hpool
      obtain ⟨before,hbefore,htool⟩ := toolStage_unmatched (r := r) hm
      rw [run_accepted hr,htool,selectStage_ok hs,hgroup]
      refine ⟨before ++ [Event.select (g.routed pr r)],?_,by simp⟩
      rw [List.all_append,hbefore]
      rfl

theorem quiet_of_not_selected (h : g.selected pr = none) : Quiet (g.run pr).events := by
  unfold selected at h
  cases ha : g.accepted pr with
  | none =>
    obtain ⟨ending,hrun,-⟩ := run_refused ha
    simp [hrun,Quiet]
  | some r =>
    rw [run_accepted ha]
    cases hm : g.toolMatch pr with
    | some found =>
      rw [toolStage_matched hm]
      simp [Quiet]
    | none =>
      obtain ⟨before,hbefore,htool⟩ := toolStage_unmatched (r := r) hm
      rw [htool]
      cases hs : (g.router.select (g.routed pr r)).1 with
      | ok result => simp [ha,hm,hs,Except.toOption] at h
      | error err =>
        rw [selectStage_error hs]
        exact (quiet_of_preliminary hbefore).append (by simp [Quiet])

theorem run_of_prehooked {req : ChatRequest} {candidates : List String}
    (h : g.prehooked pr = some (req,candidates)) :
    ∃ before, Quiet before ∧ g.run pr =
      ⟨before ++ (g.budgetStage pr (g.aliasUsed pr) (g.groupUsed pr) req candidates).events,
        (g.budgetStage pr (g.aliasUsed pr) (g.groupUsed pr) req candidates).ending⟩ := by
  obtain ⟨cs,hselected,hhooks⟩ := Option.bind_eq_some_iff.mp h
  obtain ⟨before,hbefore,hrun⟩ := run_of_selected hselected
  cases hh : (g.preRequest g.hooks (provReq pr) cs).2 with
  | error ending => simp [hh,Except.toOption] at hhooks
  | ok p =>
    simp only [hh,Except.toOption,Option.some.injEq] at hhooks
    subst hhooks
    rw [hrun,hookStage_hooked hh]
    refine ⟨before ++ (g.preRequest g.hooks (provReq pr) cs).1,?_,by simp⟩
    exact (quiet_of_preliminary hbefore).append (quiet_preRequest _ _ _)

theorem quiet_of_not_prehooked (h : g.prehooked pr = none) : Quiet (g.run pr).events := by
  cases hs : g.selected pr with
  | none => exact quiet_of_not_selected hs
  | some cs =>
    obtain ⟨before,hbefore,hrun⟩ := run_of_selected hs
    rw [hrun]
    refine (quiet_of_preliminary hbefore).append ?_
    cases hh : (g.preRequest g.hooks (provReq pr) cs).2 with
    | ok p => simp [prehooked,hs,hh,Except.toOption] at h
    | error ending =>
      simp only [hookStage,hh]
      exact quiet_preRequest _ _ _

theorem call_mem_attemptStage {virtualAlias : Option String} {routeGroup : String}
    {req : ChatRequest} {candidates : List String} {a : Action} :
    .call a ∈ (g.attemptStage pr virtualAlias routeGroup req candidates).events ↔
      a ∈ ((g.env pr req).run g.outcomes candidates).1 := by
  unfold attemptStage
  dsimp only
  split <;> simp

theorem call_of_cacheStage {virtualAlias : Option String} {routeGroup : String} {req : ChatRequest}
    {candidates : List String} {a : Action}
    (h : .call a ∈ (g.cacheStage pr virtualAlias routeGroup req candidates).events) :
    a ∈ ((g.env pr req).run g.outcomes candidates).1 := by
  unfold cacheStage at h
  cases hc : g.semanticCache with
  | none =>
    rw [hc] at h
    exact call_mem_attemptStage.mp h
  | some find =>
    simp only [hc] at h
    split at h
    · simp only [List.mem_cons,reduceCtorEq,false_or] at h
      exact call_mem_attemptStage.mp h
    · split at h <;> simp at h

theorem attemptStage_not_failed {virtualAlias : Option String} {routeGroup : String}
    {req : ChatRequest} {candidates : List String} {status : ℕ} {message kind : String} :
    (g.attemptStage pr virtualAlias routeGroup req candidates).ending ≠
      .failed status message kind := by
  unfold attemptStage
  dsimp only
  split <;> simp

theorem degraded_eq (group : String) (candidates : List String) :
    g.degraded group candidates =
      if candidates.filter (g.groupModels group).contains = [] then candidates
      else candidates.filter (g.groupModels group).contains := by
  unfold degraded groupModels
  cases g.tenant.selection.routeGroups.bind (·.lookup group) with
  | none => simp
  | some models => rfl

theorem degraded_within {group : String} {candidates : List String}
    (h : ∃ n ∈ candidates, n ∈ g.groupModels group) :
    ∀ n ∈ g.degraded group candidates, n ∈ g.groupModels group := by
  obtain ⟨m,hm,hgroup⟩ := h
  have hkept : m ∈ candidates.filter (g.groupModels group).contains :=
    List.mem_filter.mpr ⟨hm,by simpa using hgroup⟩
  intro n hn
  rw [degraded_eq,if_neg (List.ne_nil_of_mem hkept)] at hn
  simpa using (List.mem_filter.mp hn).2

theorem degraded_of_disjoint {group : String} {candidates : List String}
    (h : ¬ ∃ n ∈ candidates, n ∈ g.groupModels group) : g.degraded group candidates = candidates := by
  rw [degraded_eq,if_pos]
  refine List.filter_eq_nil_iff.mpr ?_
  intro n hn hgroup
  exact h ⟨n,hn,by simpa using hgroup⟩

end Gateway

section HardLimit

variable {enf : BudgetEnforcementConfig} {st : MonthlyStore} {tenant : TenantConfig}

theorem breached_none {msg : String} {reservationID : Option String} :
    enf.breached msg reservationID = none ↔ enf.mode ≠ "block" ∧ enf.mode ≠ "degrade" := by
  unfold BudgetEnforcementConfig.breached
  split_ifs <;> simp_all

theorem enforceTags_unbreached (hblock : enf.mode ≠ "block") (hdegrade : enf.mode ≠ "degrade")
    (reservationID : Option String) (metadata : Json.Entries) (keys : List String) :
    (enf.enforceTags tenant st reservationID metadata keys).2 = none := by
  induction keys with
  | nil => rfl
  | cons key keys ih =>
    have hnone : ∀ msg, enf.breached msg reservationID = none :=
      fun msg => breached_none.mpr ⟨hblock,hdegrade⟩
    unfold BudgetEnforcementConfig.enforceTags
    cases enf.tagLimit metadata key with
    | none => exact ih
    | some found =>
      dsimp only
      cases st.tagMonthlySpend key found.1 with
      | error err => exact ih
      | ok spend =>
        dsimp only
        split_ifs
        · rw [hnone]
          exact ih
        · exact ih
        · exact ih

theorem enforceTagBudgets_unbreached (hblock : enf.mode ≠ "block") (hdegrade : enf.mode ≠ "degrade")
    (reservationID : Option String) (metadata : Option Json.Entries) :
    (enf.enforceTagBudgets tenant st reservationID metadata).2 =
      { reservationID := reservationID } := by
  unfold BudgetEnforcementConfig.enforceTagBudgets
  dsimp only
  split_ifs
  · rw [enforceTags_unbreached hblock hdegrade]
    rfl
  · rfl

structure Exceeds (enf : BudgetEnforcementConfig) (tenant : TenantConfig) (st : MonthlyStore)
    (usage reserved : Float) : Prop where
  usage_read : st.usageSpend = .ok usage
  reserved_read : st.reservedSpend = .ok reserved
  beyond : usage + reserved + 0.01 > tenant.budgets.monthlyUSD * enf.hardPct

theorem Exceeds.check {usage reserved : Float} (h : Exceeds enf tenant st usage reserved) :
    st.checkAndReserveBudget (tenant.budgets.monthlyUSD * enf.hardPct) 0.01 =
      ({ monthSpendUSD := usage + reserved },some .exceeded) := by
  unfold MonthlyStore.checkAndReserveBudget
  simp only [h.usage_read,h.reserved_read]
  rw [if_pos h.beyond]

theorem Exceeds.verdict {usage reserved : Float} (h : Exceeds enf tenant st usage reserved)
    (henabled : enf.enabled = true) (hbudget : ¬ tenant.budgets.monthlyUSD ≤ 0)
    (hmode : enf.mode ≠ "report_only") (metadata : Option Json.Entries) :
    budgetVerdict enf tenant st metadata =
      if enf.mode = "block" then
        .blocked enf.blockStatusOrDefault (enf.tenantMsg tenant (usage + reserved))
      else .degrade (if enf.mode = "degrade" then enf.degradeRouteGroup else "") := by
  have hspend : enf.tenantSpend tenant st = some (usage + reserved,true,none) := by
    unfold BudgetEnforcementConfig.tenantSpend
    simp only [if_neg hmode,h.check]
  unfold budgetVerdict BudgetEnforcementConfig.applyBudgetEnforcement
  simp only [henabled,if_true,if_neg hbudget,hspend]
  by_cases hblock : enf.mode = "block"
  · simp [BudgetEnforcementConfig.breached,hblock,Enforced.verdict]
  · by_cases hdegrade : enf.mode = "degrade"
    · simp [BudgetEnforcementConfig.breached,hdegrade,Enforced.verdict]
    · rw [breached_none.mpr ⟨hblock,hdegrade⟩]
      dsimp only
      rw [enforceTagBudgets_unbreached hblock hdegrade]
      simp [hblock,hdegrade,Enforced.verdict]

end HardLimit

namespace Gateway

variable {g : Gateway} {pr : ParsedRequest} {enf : BudgetEnforcementConfig} {st : MonthlyStore}
variable {usage reserved : Float}

def narrowed (enf : BudgetEnforcementConfig) (g : Gateway) (candidates : List String) :
    List String :=
  if enf.mode = "degrade" ∧ enf.degradeRouteGroup ≠ "" then
    g.degraded enf.degradeRouteGroup candidates
  else candidates

theorem budgetStage_exceeded {o : Outcomes}
    {find : Option (String → String → String → Option CacheEntry)}
    (h : Exceeds enf g.tenant st usage reserved) (henabled : enf.enabled = true)
    (hbudget : ¬ g.tenant.budgets.monthlyUSD ≤ 0) (hmode : enf.mode ≠ "report_only")
    (virtualAlias : Option String) (routeGroup : String) (req : ChatRequest)
    (candidates : List String) :
    ((g.enforcing enf st).meeting o find).budgetStage pr virtualAlias routeGroup req candidates =
      if enf.mode = "block" then
        ⟨[],.failed enf.blockStatusOrDefault (enf.tenantMsg g.tenant (usage + reserved))
          "budget_exceeded"⟩
      else ((g.enforcing enf st).meeting o find).cacheStage pr virtualAlias routeGroup req
        (g.narrowed enf candidates) := by
  have hverdict : ((g.enforcing enf st).meeting o find).budget pr.metadata = _ :=
    h.verdict henabled hbudget hmode pr.metadata
  unfold budgetStage
  rw [hverdict]
  by_cases hblock : enf.mode = "block"
  · simp only [hblock,if_true]
  · simp only [hblock,if_false]
    by_cases hdegrade : enf.mode = "degrade"
    · by_cases hgroup : enf.degradeRouteGroup = ""
      · simp [narrowed,hgroup]
      · simp only [narrowed,hdegrade,hgroup,if_true,if_false,ne_eq,not_false_eq_true,and_self]
        rfl
    · simp [narrowed,hdegrade]

theorem narrowed_of_disjoint {candidates : List String}
    (h : ¬ (enf.mode = "degrade" ∧ enf.degradeRouteGroup ≠ "" ∧
      ∃ n ∈ candidates, n ∈ g.groupModels enf.degradeRouteGroup)) :
    g.narrowed enf candidates = candidates := by
  unfold narrowed
  split_ifs with hd
  · exact degraded_of_disjoint (fun hmem => h ⟨hd.1,hd.2,hmem⟩)
  · rfl

theorem prehooked_meeting {o : Outcomes} {find : Option (String → String → String → Option CacheEntry)} :
    ((g.enforcing enf st).meeting o find).prehooked pr = g.prehooked pr := by
  have hselected : ((g.enforcing enf st).meeting o find).selected pr = g.selected pr := rfl
  unfold prehooked
  rw [hselected]
  refine Option.bind_congr ?_
  intro candidates _
  rw [@preRequest_congr ((g.enforcing enf st).meeting o find) g rfl rfl]
  rfl

theorem tries_sendable {o : Outcomes}
    {find : Option (String → String → String → Option CacheEntry)} {virtualAlias : Option String}
    {routeGroup n : String} {req : ChatRequest} {candidates : List String} {sent : ChatRequest}
    (h : .call (.send n sent) ∈ (((g.enforcing enf st).meeting o find).cacheStage pr virtualAlias
      routeGroup req candidates).events) :
    ∃ i, ((g.env pr req).tried candidates)[i]? = some n ∧
      Entered (fun _ n => (g.env pr req).stops n = false) ((g.env pr req).tried candidates) i ∧
      ((g.env pr req).sendable n).isSome = true := by
  obtain ⟨i,m,hi,hentered,hm,-⟩ := Env.send_of_attempts _ _ _ (call_of_cacheStage h)
  refine ⟨i,hi,hentered,?_⟩
  have hsendable : (g.env pr req).sendable n = some m := hm
  rw [hsendable]
  rfl

theorem hard_limit_effective_iff (henabled : enf.enabled = true)
    (hbudget : ¬ g.tenant.budgets.monthlyUSD ≤ 0) (hmode : enf.mode ≠ "report_only")
    (hexceeds : Exceeds enf g.tenant st usage reserved) :
    (∀ o find, ((g.enforcing enf st).meeting o find).HardLimitHolds pr enf) ↔
      enf.Effective g pr := by
  constructor
  · intro hall req candidates hhooked
    by_cases hblock : enf.mode = "block"
    · exact .inl hblock
    by_cases hdegrade : enf.mode = "degrade" ∧ enf.degradeRouteGroup ≠ "" ∧
        ∃ n ∈ candidates, n ∈ g.groupModels enf.degradeRouteGroup
    · exact .inr (.inl hdegrade)
    refine .inr (.inr ?_)
    intro i n hi hentered hsendable
    obtain ⟨m,hm⟩ := Option.isSome_iff_exists.mp hsendable
    -- only the breaker of this candidate lets a call through
    obtain ⟨before,-,hrun⟩ := run_of_prehooked ((@prehooked_meeting g pr enf st
      (Env.admitOnly i) none).trans hhooked)
    rw [budgetStage_exceeded hexceeds henabled hbudget hmode,if_neg hblock,
      narrowed_of_disjoint hdegrade] at hrun
    rcases hall (Env.admitOnly i) none with ⟨message,hending⟩ | hgroup
    · rw [hrun] at hending
      exact absurd hending attemptStage_not_failed
    · have hsent := Env.attempts_send hm _ 0 ⟨(g.env pr req).provReq,none⟩ i (Nat.zero_add i) hi
        hentered
      have htries : ((g.enforcing enf st).meeting (Env.admitOnly i) none).tries pr n := by
        unfold tries
        rw [hrun]
        exact ⟨_,List.mem_append_right _ (call_mem_attemptStage.mpr hsent)⟩
      exact hgroup n htries
  · intro heffective o find
    have hhooked := @prehooked_meeting g pr enf st o find
    cases hh : g.prehooked pr with
    | none =>
      refine .inr ?_
      rintro n ⟨req,hcall⟩
      exact absurd hcall (quiet_of_not_prehooked (hhooked.trans hh) _)
    | some p =>
      obtain ⟨req,candidates⟩ := p
      obtain ⟨before,hquiet,hrun⟩ := run_of_prehooked (hhooked.trans hh)
      rw [budgetStage_exceeded hexceeds henabled hbudget hmode] at hrun
      by_cases hblock : enf.mode = "block"
      · rw [if_pos hblock] at hrun
        exact .inl ⟨_,by rw [hrun]⟩
      rw [if_neg hblock] at hrun
      refine .inr ?_
      rintro n ⟨sent,hcall⟩
      rw [hrun] at hcall
      have hstage := (List.mem_append.mp hcall).resolve_left (hquiet _)
      obtain ⟨i,hi,hentered,hsendable⟩ := tries_sendable hstage
      rcases heffective req candidates hh with h | ⟨hdegrade,hgroup,hmem⟩ | hwithin
      · exact absurd h hblock
      · have hnarrowed : g.narrowed enf candidates = g.degraded enf.degradeRouteGroup candidates :=
          if_pos ⟨hdegrade,hgroup⟩
        rw [hnarrowed] at hi
        exact degraded_within hmem n (List.mem_of_mem_take (List.mem_of_getElem? hi))
      · by_cases hdegrade : enf.mode = "degrade" ∧ enf.degradeRouteGroup ≠ "" ∧
            ∃ n ∈ candidates, n ∈ g.groupModels enf.degradeRouteGroup
        · have hnarrowed : g.narrowed enf candidates = g.degraded enf.degradeRouteGroup candidates :=
            if_pos ⟨hdegrade.1,hdegrade.2.1⟩
          rw [hnarrowed] at hi
          exact degraded_within hdegrade.2.2 n (List.mem_of_mem_take (List.mem_of_getElem? hi))
        · rw [narrowed_of_disjoint hdegrade] at hi hentered
          exact hwithin i n hi hentered hsendable

end Gateway

def budgetedTenant : TenantConfig :=
  { ignoresGroup with budgets := { monthlyUSD := 100, timezone := "UTC" } }

def budgeted : Gateway := { plainGateway with tenant := budgetedTenant }

def spentMonth : MonthlyStore where
  monthlySpend := .ok 120
  usageSpend := .ok 120
  reservedSpend := .ok 0
  reserve := .ok "r1"
  tagMonthlySpend := fun _ _ => .ok 0

theorem spent (enf : BudgetEnforcementConfig) (h : enf.hardPct = 1.00) :
    Exceeds enf budgeted.tenant spentMonth 120 0 where
  usage_read := rfl
  reserved_read := rfl
  beyond := by
    rw [h]
    decide

def degradingTo (group : String) : BudgetEnforcementConfig where
  enabled := true
  mode := "degrade"
  degradeRouteGroup := group

theorem degraded_run_stays_in_group :
    (budgeted.prehooked (asking "hello")).map Prod.snd = some ["opus","mini"] ∧
    ∀ o find, ((budgeted.enforcing (degradingTo "cheap") spentMonth).meeting o find).HardLimitHolds
      (asking "hello") (degradingTo "cheap") := by
  have hhooked : (budgeted.prehooked (asking "hello")).map Prod.snd = some ["opus","mini"] := by
    decide
  refine ⟨hhooked,?_⟩
  refine (Gateway.hard_limit_effective_iff rfl (by decide) (by decide) (spent _ (by decide))).mpr ?_
  intro req candidates h
  rw [h,Option.map_some,Option.some.injEq] at hhooked
  dsimp only at hhooked
  subst hhooked
  exact .inr (.inl ⟨rfl,by decide,"mini",by decide,by decide⟩)

def Event.sendsTo (n : String) : Event → Bool
  | .call (.send m _) => m = n
  | _ => false

theorem tries_of_sendsTo {g : Gateway} {pr : ParsedRequest} {n : String}
    (h : (g.run pr).events.any (Event.sendsTo n) = true) : g.tries pr n := by
  obtain ⟨ev,hev,hsends⟩ := List.any_eq_true.mp h
  unfold Event.sendsTo at hsends
  split at hsends
  · next m req =>
    obtain rfl : m = n := by simpa using hsends
    exact ⟨req,hev⟩
  · cases hsends

theorem not_hardLimitHolds {g : Gateway} {pr : ParsedRequest} {enf : BudgetEnforcementConfig}
    {n : String} (hanswered : (g.run pr).ending.succeeded = true)
    (hsent : (g.run pr).events.any (Event.sendsTo n) = true)
    (hout : n ∉ g.groupModels enf.degradeRouteGroup) : ¬ g.HardLimitHolds pr enf := by
  rintro (⟨message,hending⟩ | hgroup)
  · rw [hending] at hanswered
    cases hanswered
  · exact hout (hgroup n (tries_of_sendsTo hsent))

theorem exceeded_limit_not_enforced :
    validateTenantConfig twoModels.modelByName (· = "UTC") budgetedTenant = .ok () ∧
    Exceeds (degradingTo "economy") budgetedTenant spentMonth 120 0 ∧
    ¬ (budgeted.enforcing (degradingTo "economy") spentMonth).HardLimitHolds (asking "hello")
        (degradingTo "economy") ∧
    Exceeds { enabled := true, degradeRouteGroup := "cheap" } budgetedTenant spentMonth 120 0 ∧
    ¬ (budgeted.enforcing { enabled := true, degradeRouteGroup := "cheap" } spentMonth).HardLimitHolds
        (asking "hello") { enabled := true, degradeRouteGroup := "cheap" } := by
  refine ⟨by decide,spent _ (by decide),?_,spent _ (by decide),?_⟩
  · exact not_hardLimitHolds (n := "opus") (by decide) (by decide) (by decide)
  · exact not_hardLimitHolds (n := "opus") (by decide) (by decide) (by decide)

end PrismGateway.Orchestrator
