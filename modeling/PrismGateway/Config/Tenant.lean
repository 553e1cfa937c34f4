import PrismGateway.Config.Types

namespace PrismGateway.Config

structure SemanticRoutingConfig where
  thresholdDefault : Float := 0
  deriving DecidableEq, Repr

structure RoutingConfig where
  strategy : String
  routeGroup : String := ""
  smart : SmartConfig := {}
  fallback : FallbackConfig := {}
  semantic : SemanticRoutingConfig := {}
  deriving DecidableEq, Repr

structure PrecedenceConfig where
  model : String := ""
  conflictPolicy : String := ""
  deriving DecidableEq, Repr

structure VirtualModelConfig where
  enabled : Bool
  routeGroup : String := ""
  deriving DecidableEq, Repr

structure SelectionConfig where
  headerModelKey : String := ""
  headerRouteKey : String := ""
  routeGroups : Option (List (String × List String)) := none
  precedence : PrecedenceConfig := {}
  virtualModels : List (String × VirtualModelConfig) := []
  allowModelOverride : Bool := false
  allowRouteGroupOverride : Bool := false
  deriving DecidableEq, Repr

structure TrafficSplitEntry where
  model : String
  weight : Int
  deriving DecidableEq, Repr

structure BudgetsConfig where
  monthlyUSD : Float := 0
  timezone : String := ""
  deriving DecidableEq, Repr

structure RateLimitConfig where
  rpm : Int
  burst : Int
  deriving DecidableEq, Repr

structure ComplianceConfig where
  retentionDays : Int
  logMode : String
  deriving DecidableEq, Repr

structure TenantConfig where
  id : String
  allowedModels : List String
  routing : RoutingConfig
  selection : SelectionConfig := {}
  budgets : BudgetsConfig := {}
  rateLimit : RateLimitConfig
  compliance : ComplianceConfig
  trafficSplit : List (String × List TrafficSplitEntry) := []
  maxOutputTokens : Option Int := none
  deriving DecidableEq, Repr

def validStrategies : List String :=
  ["round_robin","latency_based","cost_based","header_based","smart"]

def validLogModes : List String :=
  ["metadata_only","redacted","full"]

def check (ok : Bool) (message : String) : Except String Unit :=
  if ok then .ok () else .error message

def checkModels (modelByName : String → Option ModelConfig) : List String → Except String Unit
  | [] => .ok ()
  | name :: names =>
    if (modelByName name).isNone then .error ("invalid model: " ++ name)
    else checkModels modelByName names

def validateTenantConfig (modelByName : String → Option ModelConfig) (loadLocation : String → Bool)
    (tc : TenantConfig) : Except String Unit := do
  check (!tc.allowedModels.isEmpty) "allowed_models must not be empty"
  checkModels modelByName tc.allowedModels
  check (validStrategies.contains tc.routing.strategy)
    ("invalid routing strategy: " ++ tc.routing.strategy)
  check (!(tc.rateLimit.rpm < 1 || tc.rateLimit.rpm > 10000))
    "rate_limit.rpm must be between 1 and 10000"
  check (!(tc.rateLimit.burst < 1 || tc.rateLimit.burst > 1000))
    "rate_limit.burst must be between 1 and 1000"
  check (!(tc.compliance.retentionDays < 7 || tc.compliance.retentionDays > 365))
    "compliance.retention_days must be between 7 and 365"
  check (validLogModes.contains tc.compliance.logMode)
    ("invalid compliance.log_mode: " ++ tc.compliance.logMode)
  check (loadLocation tc.budgets.timezone) ("invalid timezone: " ++ tc.budgets.timezone)
  check (!(tc.budgets.monthlyUSD < 0 || tc.budgets.monthlyUSD > 1000000))
    "budgets.monthly_usd must be between 0 and 1000000"
  check (tc.routing.routeGroup = "" ||
      (tc.selection.routeGroups.bind (·.lookup tc.routing.routeGroup)).isSome)
    ("routing.route_group '" ++ tc.routing.routeGroup ++
      "' does not exist in selection.route_groups")

theorem check_bind_ok {ok : Bool} {message : String} {k : Unit → Except String Unit}
    (h : (check ok message >>= k) = .ok ()) : ok = true ∧ k () = .ok () := by
  cases ok with
  | true => exact ⟨rfl,h⟩
  | false => cases h

theorem check_bind_iff {ok : Bool} {message : String} {k : Unit → Except String Unit} :
    (check ok message >>= k) = .ok () ↔ ok = true ∧ k () = .ok () := by
  refine ⟨check_bind_ok,?_⟩
  rintro ⟨rfl,h⟩
  exact h

theorem checkModels_iff {modelByName : String → Option ModelConfig} {names : List String} :
    checkModels modelByName names = .ok () ↔ names.all (fun n => (modelByName n).isSome) = true := by
  induction names with
  | nil => simp [checkModels]
  | cons n names ih =>
    cases h : modelByName n with
    | none => simp [checkModels,h]
    | some m => simp [checkModels,h,ih]

theorem checkModels_bind_iff {modelByName : String → Option ModelConfig} {names : List String}
    {k : Unit → Except String Unit} : (checkModels modelByName names >>= k) = .ok () ↔
      names.all (fun n => (modelByName n).isSome) = true ∧ k () = .ok () := by
  rw [← checkModels_iff]
  cases h : checkModels modelByName names with
  | error message =>
    refine ⟨fun hk => (by cases hk),fun hk => (by cases hk.1)⟩
  | ok u => exact ⟨fun hk => ⟨rfl,hk⟩,fun hk => hk.2⟩

theorem check_iff {ok : Bool} {message : String} : check ok message = .ok () ↔ ok = true := by
  cases ok <;> simp [check]

theorem validateTenantConfig_iff {modelByName : String → Option ModelConfig}
    {loadLocation : String → Bool} {tc : TenantConfig} :
    validateTenantConfig modelByName loadLocation tc = .ok () ↔
      (!tc.allowedModels.isEmpty) = true ∧
      tc.allowedModels.all (fun n => (modelByName n).isSome) = true ∧
      validStrategies.contains tc.routing.strategy = true ∧
      (!(tc.rateLimit.rpm < 1 || tc.rateLimit.rpm > 10000)) = true ∧
      (!(tc.rateLimit.burst < 1 || tc.rateLimit.burst > 1000)) = true ∧
      (!(tc.compliance.retentionDays < 7 || tc.compliance.retentionDays > 365)) = true ∧
      validLogModes.contains tc.compliance.logMode = true ∧
      loadLocation tc.budgets.timezone = true ∧
      (!(tc.budgets.monthlyUSD < 0 || tc.budgets.monthlyUSD > 1000000)) = true ∧
      (tc.routing.routeGroup = "" ||
        (tc.selection.routeGroups.bind (·.lookup tc.routing.routeGroup)).isSome) = true := by
  rw [validateTenantConfig,check_bind_iff,checkModels_bind_iff,check_bind_iff,check_bind_iff,
    check_bind_iff,check_bind_iff,check_bind_iff,check_bind_iff,check_bind_iff,check_iff]

theorem validateTenantConfig_strategy {modelByName : String → Option ModelConfig}
    {loadLocation : String → Bool} {tc : TenantConfig}
    (h : validateTenantConfig modelByName loadLocation tc = .ok ()) :
    tc.routing.strategy ∈ validStrategies := by
  have h1 := (check_bind_ok h).2
  cases hm : checkModels modelByName tc.allowedModels with
  | error err =>
    simp only [hm] at h1
    cases h1
  | ok _ =>
    simp only [hm] at h1
    simpa using (check_bind_ok h1).1

end PrismGateway.Config
