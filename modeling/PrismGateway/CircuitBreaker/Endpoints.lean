import PrismGateway.CircuitBreaker.Runs
import PrismGateway.Orchestrator.Attempts

namespace PrismGateway.CircuitBreaker

open Lib

inductive Endpoint where
  | chat
  | embeddings
  deriving DecidableEq

def Endpoint.cbKey (provider tenantID : String) : Endpoint → String
  | .chat => provider ++ ":" ++ tenantID
  | .embeddings => provider

theorem cbKey_eq_chat (env : Orchestrator.Env) (m : PrismGateway.Config.ModelConfig) :
    env.cbKey m = Endpoint.chat.cbKey m.provider env.tenantID := rfl

section Keys

variable {cfg : Config} {provider tenantID : String}

/-- Every endpoint of the tenant is judged by the provider's own settings, and those that count failures
count them in one circuit. -/
structure SettingsApply (cfg : Config) (provider tenantID : String) : Prop where
  settings : ∀ e : Endpoint, cfg.providerConfig (e.cbKey provider tenantID) = cfg.providerConfig provider
  oneCircuit : ∀ e e' : Endpoint, (cfg.providerConfig (e.cbKey provider tenantID)).enabled = true →
    (cfg.providerConfig (e'.cbKey provider tenantID)).enabled = true →
      stateKey cfg (e.cbKey provider tenantID) = stateKey cfg (e'.cbKey provider tenantID) ∧
        ∀ ts, winKey cfg (e.cbKey provider tenantID) ts = winKey cfg (e'.cbKey provider tenantID) ts

theorem chat_ne_embeddings (provider tenantID : String) :
    Endpoint.chat.cbKey provider tenantID ≠ Endpoint.embeddings.cbKey provider tenantID := by
  intro h
  have hlength := congrArg String.length h
  simp only [Endpoint.cbKey,String.length_append] at hlength
  have hcolon : ":".length = 1 := rfl
  omega

theorem report_unseen {e e' : Endpoint} (he : e ≠ e') {now : Int} {outcome : Outcome} {isProbe : Bool}
    {db db' : Db} (h : cfg.report (e.cbKey provider tenantID) now outcome isProbe db = some db')
    {k : String} (hk : k = stateKey cfg (e'.cbKey provider tenantID) ∨
      ∃ ts, k = winKey cfg (e'.cbKey provider tenantID) ts) : db' k = db k := by
  have hkeys : e.cbKey provider tenantID ≠ e'.cbKey provider tenantID := by
    cases e with
    | chat =>
      cases e' with
      | chat => exact absurd rfl he
      | embeddings => exact chat_ne_embeddings provider tenantID
    | embeddings =>
      cases e' with
      | chat => exact (chat_ne_embeddings provider tenantID).symm
      | embeddings => exact absurd rfl he
  obtain ⟨hstate,hwin⟩ := foreign_keys hkeys hk
  exact report_frame hstate hwin h

def ProviderOverride.unset : ProviderOverride := ⟨none,none,none,none,none,none,none⟩

def Config.entry (cfg : Config) (name : String) : ProviderOverride := (cfg.providers.lookup name).getD .unset

def SameField {α : Type} (d : α) (o o' : Option α) : Prop :=
  o = o' ∨ (o = none ∧ o' = some d) ∨ (o = some d ∧ o' = none)

structure SameEntries (d : ProviderDefaults) (o o' : ProviderOverride) : Prop where
  enabled : SameField d.enabled o.enabled o'.enabled
  windowSeconds : SameField d.windowSeconds o.windowSeconds o'.windowSeconds
  minRequests : SameField d.minRequests o.minRequests o'.minRequests
  failureRateThreshold :
    SameField d.failureRateThreshold o.failureRateThreshold o'.failureRateThreshold
  openCooldownSeconds : SameField d.openCooldownSeconds o.openCooldownSeconds o'.openCooldownSeconds
  halfOpenMaxInflight : SameField d.halfOpenMaxInflight o.halfOpenMaxInflight o'.halfOpenMaxInflight
  halfOpenSuccessesToClose :
    SameField d.halfOpenSuccessesToClose o.halfOpenSuccessesToClose o'.halfOpenSuccessesToClose

def SwitchedOff (d : ProviderDefaults) (o : ProviderOverride) : Prop :=
  o.enabled = some false ∨ (o.enabled = none ∧ d.enabled = false)

theorem getD_eq_iff {α : Type} {d : α} {o o' : Option α} : o.getD d = o'.getD d ↔ SameField d o o' := by
  unfold SameField
  cases o with
  | none =>
    cases o' with
    | none => simp
    | some b => simp [eq_comm]
  | some a =>
    cases o' with
    | none => simp
    | some b => simp

theorem override_eq_iff {d : ProviderDefaults} {o o' : ProviderOverride} :
    d.override o = d.override o' ↔ SameEntries d o o' := by
  constructor
  · intro h
    simp only [ProviderDefaults.override,ProviderDefaults.mk.injEq,getD_eq_iff] at h
    obtain ⟨henabled,hwindow,-,hmin,hrate,hcooldown,hinflight,hsuccesses⟩ := h
    exact ⟨henabled,hwindow,hmin,hrate,hcooldown,hinflight,hsuccesses⟩
  · rintro ⟨henabled,hwindow,hmin,hrate,hcooldown,hinflight,hsuccesses⟩
    simp only [ProviderDefaults.override,ProviderDefaults.mk.injEq,getD_eq_iff]
    exact ⟨henabled,hwindow,trivial,hmin,hrate,hcooldown,hinflight,hsuccesses⟩

theorem providerConfig_eq (cfg : Config) (name : String) :
    cfg.providerConfig name = cfg.defaults.override (cfg.entry name) := by
  unfold Config.providerConfig Config.entry
  cases cfg.providers.lookup name <;> rfl

theorem switchedOff_iff {d : ProviderDefaults} {o : ProviderOverride} :
    (d.override o).enabled = false ↔ SwitchedOff d o := by
  unfold SwitchedOff ProviderDefaults.override
  cases h : o.enabled <;> simp

theorem settings_apply_iff (cfg : Config) (provider tenantID : String) :
    SettingsApply cfg provider tenantID ↔
      SwitchedOff cfg.defaults (cfg.entry provider) ∧
        SameEntries cfg.defaults (cfg.entry (provider ++ ":" ++ tenantID)) (cfg.entry provider) := by
  rw [← switchedOff_iff,← override_eq_iff,← providerConfig_eq,← providerConfig_eq]
  constructor
  · intro h
    have hchat := h.settings .chat
    refine ⟨?_,hchat⟩
    cases henabled : (cfg.providerConfig provider).enabled with
    | false => rfl
    | true =>
      have hkey := (h.oneCircuit .chat .embeddings ((congrArg _ hchat).trans henabled) henabled).1
      exact absurd (stateKey_injective hkey) (chat_ne_embeddings provider tenantID)
  · rintro ⟨hdisabled,hchat⟩
    have hsettings (e : Endpoint) :
        cfg.providerConfig (e.cbKey provider tenantID) = cfg.providerConfig provider := by
      cases e with
      | chat => exact hchat
      | embeddings => rfl
    refine ⟨hsettings,?_⟩
    intro e e' henabled
    rw [hsettings e,hdisabled] at henabled
    cases henabled

end Keys

def openaiConfig : Config where
  keyPrefix := "cb:"
  defaults := ⟨true,60,5,20,0.5,30,1,2⟩
  providers := [("openai",⟨none,none,some 3,none,none,none,none⟩)]

theorem override_ignored :
    ¬ ∀ (cfg : Config) (provider tenantID : String), SettingsApply cfg provider tenantID := by
  intro h
  have hchat := (h openaiConfig "openai" "acme").settings .chat
  have hminRequests := congrArg ProviderDefaults.minRequests hchat
  exact absurd hminRequests (by decide)

end PrismGateway.CircuitBreaker
