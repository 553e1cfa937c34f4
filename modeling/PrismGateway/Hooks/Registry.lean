import PrismGateway.Config.TenantView
import PrismGateway.Hooks.ExternalPII

namespace PrismGateway.Hooks

open Lib Orchestrator Config.Schemas

structure WebhookPhase where
  enabled : Bool := false
  path : String := ""
  deriving DecidableEq

structure WebhookAuth where
  type : String := ""
  token : String := ""
  header : String := ""
  deriving DecidableEq

structure ExternalPIIHookConfig where
  enabled : Bool := false
  baseURL : String := ""
  request : WebhookPhase := {}
  response : WebhookPhase := {}
  timeoutMs : ℤ := 0
  failMode : String := ""
  maxBodyBytes : ℤ := 0
  auth : WebhookAuth := {}
  apiKey : String := ""
  deriving DecidableEq

inductive ActiveHook where
  | registered (name : String)
  | externalPII (cfg : ExternalPIIHookConfig)
  deriving DecidableEq

abbrev Registry := List String

def buildFromConfig : Registry := ["regex_block","pii_scan","prompt_injection"]

def hooksOf : tenantConfig.Val → hooksConfig.Val
  | (_,_,_,_,_,_,_,_,hooks,_) => hooks

def perTenant (enabled : Bool) (url : String) (timeoutMs : ℤ) (failOpen : Bool) :
    Option ExternalPIIHookConfig :=
  if enabled then some
    { enabled := true
      baseURL := url
      request := { enabled := true, path := "" }
      timeoutMs := timeoutMs
      failMode := if failOpen then "fail_open" else "fail_closed"
      maxBodyBytes := 1048576
      auth := { type := "none" } }
  else none

def externalPIIOf : piiHookConfig.Val → Option ExternalPIIHookConfig
  | (enabled,url,timeoutMs,failOpen,_) => perTenant enabled url timeoutMs failOpen

def Registry.forTenant (r : Registry) (tc : tenantConfig.Val) : List ActiveHook :=
  match hooksOf tc with
  | (regexBlock,pii,_) =>
    (if regexBlock.isSome ∧ "regex_block" ∈ r then [.registered "regex_block"] else []) ++
      ((Option.bind pii externalPIIOf).map ActiveHook.externalPII).toList

namespace ExternalPIIHookConfig

def core (cfg : ExternalPIIHookConfig) : ExternalPIIConfig :=
  ⟨cfg.request.enabled,cfg.failMode,cfg.maxBodyBytes⟩

def requestURL (cfg : ExternalPIIHookConfig) : Option String :=
  if cfg.request.enabled then some (cfg.baseURL ++ cfg.request.path) else none

def responseURL (cfg : ExternalPIIHookConfig) : Option String :=
  if cfg.response.enabled then some (cfg.baseURL ++ cfg.response.path) else none

end ExternalPIIHookConfig

/-- `handleWebhookError` sees to a failure in the first phase; in the second every failure is let
pass. -/
inductive Phase where
  | preRequest
  | postResponse

def ExternalPIIHookConfig.passesFailure (cfg : ExternalPIIHookConfig) : Phase → Bool
  | .preRequest => cfg.failMode ≠ "fail_closed"
  | .postResponse => true

theorem passesFailure_preRequest (cfg : ExternalPIIHookConfig) (req : ChatRequest) :
    (handleWebhookError cfg.core req).decision =
      if cfg.passesFailure .preRequest then .allow else .block := by
  simp only [ExternalPIIHookConfig.passesFailure,handleWebhookError,ExternalPIIHookConfig.core]
  by_cases h : cfg.failMode = "fail_closed"
  · simp [h]
  · simp [h]

theorem externalPII_mem_forTenant {r : Registry} {tc : tenantConfig.Val} {cfg : ExternalPIIHookConfig}
    (h : .externalPII cfg ∈ r.forTenant tc) : ∃ pii, externalPIIOf pii = some cfg := by
  unfold Registry.forTenant at h
  rcases List.mem_append.mp h with h | h
  · split_ifs at h with hregex
    · exact ActiveHook.noConfusion (List.mem_singleton.mp h)
    · exact absurd h List.not_mem_nil
  · obtain ⟨c,hc,heq⟩ := Option.map_eq_some_iff.mp (Option.mem_toList.mp h)
    cases heq
    obtain ⟨pii,-,hpii⟩ := Option.bind_eq_some_iff.mp hc
    exact ⟨pii,hpii⟩

theorem responseURL_perTenant {enabled : Bool} {url : String} {timeoutMs : ℤ} {failOpen : Bool}
    {cfg : ExternalPIIHookConfig} (h : perTenant enabled url timeoutMs failOpen = some cfg) :
    cfg.responseURL = none := by
  unfold perTenant at h
  cases enabled with
  | false => cases h
  | true =>
    cases h
    rfl

theorem responseURL_externalPIIOf {pii : piiHookConfig.Val} {cfg : ExternalPIIHookConfig}
    (h : externalPIIOf pii = some cfg) : cfg.responseURL = none := by
  obtain ⟨enabled,url,timeoutMs,failOpen,rest⟩ := pii
  exact responseURL_perTenant h

end PrismGateway.Hooks
