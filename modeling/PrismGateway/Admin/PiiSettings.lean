import PrismGateway.Admin.TenantPatch
import PrismGateway.Frontend.AdminClient
import PrismGateway.Hooks.Registry
import PrismGateway.Lib.DecodeFrame

namespace PrismGateway.Admin

open Lib Config.Schemas Storage Hooks

inductive FailurePolicy where
  | accept
  | deny
  deriving DecidableEq

def FailurePolicy.text : FailurePolicy → String
  | .accept => "accept"
  | .deny => "deny"

/-- The state of `EditPiiDialog`; a number field holds what `Number` makes of its text. -/
structure PiiForm where
  enabled : Bool := false
  requestUrl : String := ""
  responseUrl : String := ""
  timeoutMs : Float := 3000
  failurePolicy : FailurePolicy := .accept
  apiKey : String := ""

namespace PiiForm

def validate (isValidHttpUrl : String → Bool) (form : PiiForm) : Bool :=
  !form.enabled ||
    (form.requestUrl ≠ "" && isValidHttpUrl form.requestUrl &&
      form.responseUrl ≠ "" && isValidHttpUrl form.responseUrl &&
      !(form.timeoutMs < 500 || form.timeoutMs > 10000))

def externalPii (form : PiiForm) : Json :=
  .obj ([("enabled",.bool form.enabled),
      ("request_url",.str (Frontend.trim form.requestUrl)),
      ("response_url",.str (Frontend.trim form.responseUrl)),
      ("timeout_ms",numberText form.timeoutMs),
      ("failure_policy",.str form.failurePolicy.text)] ++
    if form.apiKey = "" then [] else [("api_key",Json.str (Frontend.trim form.apiKey))])

def patch (form : PiiForm) : Json :=
  .obj [("hooks",.obj [("global",.obj [("external_pii",form.externalPii)])])]

structure Enforces (form : PiiForm) (cfg : ExternalPIIHookConfig) : Prop where
  request : cfg.requestURL = some (Frontend.trim form.requestUrl)
  response : cfg.responseURL = some (Frontend.trim form.responseUrl)
  timeout : Float.ofInt cfg.timeoutMs = form.timeoutMs
  policy : ∀ phase, cfg.passesFailure phase = decide (form.failurePolicy = .accept)

def InForce (form : PiiForm) (r : Registry) (db : TenantTables) (tenantID : String) : Prop :=
  ∀ order, ∃ tc, db.loadTenantConfig order tenantID = some tc ∧
    ∃ cfg, ActiveHook.externalPII cfg ∈ r.forTenant tc ∧ form.Enforces cfg

end PiiForm

def savePii (isValidHttpUrl : String → Bool) (cfg : Settings) (db : TenantTables)
    (readOrder patchOrder : Json.MapOrder) (tenantID : String) (version : Int) (form : PiiForm) :
    Option (TenantTables × Except Failure Int) :=
  if form.validate isValidHttpUrl then
    some (adminPatchTenantConfig cfg db readOrder patchOrder tenantID (.version version) (some form.patch))
  else none

theorem sent_under_hooks_global (order : Json.MapOrder) (j : Json) :
    normalizeConfigKeys order (parsed (.obj [("hooks",.obj [("global",j)])])) =
      .obj [("hooks",.obj [("global",normalizeConfigKeys order (parsed j))])] := by
  rw [parsed_singleton,parsed_singleton,normalize_singleton order (by decide),
    normalize_singleton order (by decide)]

section Unread

variable {es : Json.Entries} {y : Json}

theorem hooks_indifferent (h : ∀ v, hooksConfig.decode y v =
      (es.lookup "hooks").elim (some v) (fun j => hooksConfig.decode j v)) :
    tenantFields.Indifferent tenantFields.names "hooks" y es := by
  have hfield : fieldFor tenantFields.names "hooks" = some "hooks" := by decide
  generalize tenantFields.names = names at hfield ⊢
  simp only [Fields.Indifferent,hfield,tenantFields,fields,tenantSettings,req,opt,Option.some.injEq,
    String.reduceEq,forall_const,false_implies,true_and,and_true]
  exact h

theorem decode_hooks_global (m : Json.Entries) (j : Json) (v : hooksConfig.Val) :
    hooksConfig.decode (.obj (GoMap.insert "global" j m)) v = hooksConfig.decode (.obj m) v :=
  Fields.decode_insert_unknown (by decide) j m _ v

theorem hooks_readable {tc : tenantConfig.Val} {x : Json}
    (h : tenantConfig.decode (.obj es) tenantConfig.zero = some tc) (hx : es.lookup "hooks" = some x) :
    x = .null ∨ ∃ m, x = .obj m := by
  have haccepts : tenantConfig.accepts (.obj es) = true := by
    rw [← tenantConfig.isSome_decode (by decide) (.obj es) tenantConfig.zero,h]
    rfl
  have hfield : fieldFor tenantFields.names "hooks" = some "hooks" := by decide
  have haccept : tenantFields.accept (fieldFor tenantFields.names "hooks") x = true :=
    List.all_eq_true.mp haccepts ("hooks",x) (GoMap.mem_of_lookup hx)
  rw [hfield] at haccept
  have hhooks : hooksConfig.accepts x = true := by
    simp only [Fields.accept,tenantFields,fields,tenantSettings,req,opt,Bool.and_eq_true] at haccept
    simpa using haccept
  cases x with
  | null => exact .inl rfl
  | obj m => exact .inr ⟨m,rfl⟩
  | _ => cases hhooks

theorem decode_hooks_merged {tc : tenantConfig.Val} {j : Json} (hj : j ≠ .null)
    (h : tenantConfig.decode (.obj es) tenantConfig.zero = some tc) (v : hooksConfig.Val) :
    hooksConfig.decode (mergeValue (es.lookup "hooks") (.obj [("global",j)])) v =
      (es.lookup "hooks").elim (some v) (fun x => hooksConfig.decode x v) := by
  have halone : hooksConfig.decode (.obj [("global",j)]) v = some v :=
    (decode_hooks_global [] j v).trans (Fields.decode_nil _ _ v)
  cases hx : es.lookup "hooks" with
  | none =>
    rw [mergeValue]
    · exact halone
    · exact fun _ h => by cases h
  | some x =>
    rcases hooks_readable h hx with rfl | ⟨m,rfl⟩
    · rw [mergeValue]
      · exact halone
      · exact fun _ h => by cases h
    · rw [mergeValue,mergeMaps,mergeMaps]
      · exact decode_hooks_global m _ v
      · exact hj

theorem decode_patched_hooks_global {tc : tenantConfig.Val} {j : Json} (hj : j ≠ .null)
    (hsorted : GoMap.Sorted es)
    (h : tenantConfig.decode (.obj es) tenantConfig.zero = some tc) :
    tenantConfig.decode (.obj (mergeMaps es [("hooks",.obj [("global",j)])])) tenantConfig.zero =
      some tc := by
  rw [mergeMaps,mergeMaps]
  · refine Eq.trans ?_ h
    exact Fields.decode_insert hsorted tenantFields (hooks_indifferent (decode_hooks_merged hj h)) _
  · exact fun h => by cases h

end Unread

section Saved

variable {isValidHttpUrl : String → Bool} {cfg : Settings} {db db' : TenantTables}
  {readOrder patchOrder : Json.MapOrder} {tenantID : String} {version newVersion : Int} {form : PiiForm}

theorem load_after_savePii
    (hsaved : savePii isValidHttpUrl cfg db readOrder patchOrder tenantID version form =
      some (db',.ok newVersion)) {tc : tenantConfig.Val}
    (hload : (ensureTenantConfigInDB cfg db readOrder tenantID).loadTenantConfig readOrder tenantID =
      some tc) (order : Json.MapOrder) : db'.loadTenantConfig order tenantID = some tc := by
  unfold savePii at hsaved
  split_ifs at hsaved
  obtain ⟨current,patch,hmerge,hget⟩ := merge_of_patched (Option.some.inj hsaved)
  have hsent := hmerge.sent
  rw [PiiForm.patch,sent_under_hooks_global] at hsent
  cases hsent
  obtain ⟨j,hread,hmap⟩ := hmerge.read
  rw [TenantTables.loadTenantConfig,hget order]
  refine decode_patched_hooks_global ?_ hmerge.tidy_current.1.sorted (loaded_of_asMap hread hmap hload)
  rw [parsed_singleton,normalize_singleton patchOrder (by decide)]
  exact fun h => by cases h

theorem not_enforces_of_mem {r : Registry} {tc : tenantConfig.Val} {c : ExternalPIIHookConfig}
    (hc : .externalPII c ∈ r.forTenant tc) : ¬form.Enforces c := by
  intro henforces
  obtain ⟨pii,hpii⟩ := externalPII_mem_forTenant hc
  have hresponse := henforces.response
  rw [responseURL_externalPIIOf hpii] at hresponse
  cases hresponse

theorem saved_pii_not_in_force (r : Registry)
    (hsaved : savePii isValidHttpUrl cfg db readOrder patchOrder tenantID version form =
      some (db',.ok newVersion)) :
    ¬form.InForce r db' tenantID ∧
      ∀ tc, (ensureTenantConfigInDB cfg db readOrder tenantID).loadTenantConfig readOrder tenantID =
        some tc → ∀ order, db'.loadTenantConfig order tenantID = some tc := by
  refine ⟨?_,fun tc hload order => load_after_savePii hsaved hload order⟩
  intro hforce
  obtain ⟨tc,-,c,hc,henforces⟩ := hforce readOrder
  exact not_enforces_of_mem hc henforces

end Saved

def plainTenant : Json := .obj [("allowed_models",.arr [.str "mini"])]

def plainTables : TenantTables := TenantTables.empty.setFlat "acme" ⟨1,plainTenant⟩

def blankSettings : Settings := ⟨fun _ => none,fun _ => none,fun _ => false⟩

def asListed : Json.MapOrder := ⟨fun l => l,Json.listed_perm⟩

def denyingForm : PiiForm where
  enabled := true
  requestUrl := "https://pii.example/request"
  responseUrl := "https://pii.example/response"
  timeoutMs := 2000
  failurePolicy := .deny

def isHttps (url : String) : Bool := "https://".toList.isPrefixOf url.toList

def savedTables : TenantTables :=
  plainTables.setFlat "acme"
    ⟨2,.obj [("allowed_models",.arr [.str "mini"]),
      ("hooks",.obj [("global",.obj [("external_pii",.obj
        [("enabled",.bool true),("failure_policy",.str "deny"),
          ("request_url",.str "https://pii.example/request"),
          ("response_url",.str "https://pii.example/response"),("timeout_ms",.num 2000)])])])]⟩

theorem savePii_denyingForm :
    savePii isHttps blankSettings plainTables asListed asListed "acme" 1 denyingForm =
      some (savedTables,.ok 2) := by
  have hvalid : denyingForm.validate isHttps = true := by decide
  unfold savePii
  rw [if_pos hvalid]
  rfl

theorem denying_settings_not_in_force :
    ¬denyingForm.InForce buildFromConfig savedTables "acme" ∧
      ∀ tc, (ensureTenantConfigInDB blankSettings plainTables asListed "acme").loadTenantConfig asListed
        "acme" = some tc → ∀ order, savedTables.loadTenantConfig order "acme" = some tc :=
  saved_pii_not_in_force buildFromConfig savePii_denyingForm

theorem saved_denial_runs_no_hook :
    savePii isHttps blankSettings plainTables asListed asListed "acme" 1 denyingForm =
        some (savedTables,.ok 2) ∧
      (savedTables.loadTenantConfig asListed "acme").map buildFromConfig.forTenant = some [] ∧
      ¬denyingForm.InForce buildFromConfig savedTables "acme" := by
  have hhooks : (savedTables.loadTenantConfig asListed "acme").map buildFromConfig.forTenant =
      some [] := by decide
  refine ⟨savePii_denyingForm,hhooks,?_⟩
  intro hforce
  obtain ⟨tc,hload,c,hc,-⟩ := hforce asListed
  have hnone : buildFromConfig.forTenant tc = [] := by
    rw [hload] at hhooks
    exact Option.some.inj hhooks
  rw [hnone] at hc
  exact List.not_mem_nil hc

end PrismGateway.Admin
