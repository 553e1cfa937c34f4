import PrismGateway.Auth.Middleware

namespace PrismGateway.Auth

open Lib Admin.Isolation Storage.KeyLookup

def Carries (r : HttpRequest) (apiKey : String) : Prop :=
  apiKey ≠ "" ∧ r.header "X-API-Key" = apiKey ∨ bearerToken r = some apiKey

namespace Gate

variable (g : Gate) (k : KeyStore)

def KeyRefused (apiKey : String) : Prop :=
  g.lookupFails = false ∧
    if k.Retired (g.hashAPIKey apiKey) then g.tenantByAPIKey apiKey = none
    else match k.lookupAPIKeyByHash (g.hashAPIKey apiKey) with
      | none => g.tenantByAPIKey apiKey = none
      | some (keyRecord,_) => g.resolveTenantConfig keyRecord.tenantID = .ok none

def TokenRefused (token : String) : Prop :=
  match g.resolveInferenceJWTValidator with
  | .notEnabled => True
  | .ready jwt => ∀ claims, g.validateToken jwt token = some claims →
      g.resolveTenantConfig claims.tenantID = .ok none
  | _ => False

def Refuses (r : HttpRequest) : Prop :=
  let apiKey := r.header "X-API-Key"
  match g.auth.mode with
  | .jwt => ∀ token, bearerToken r = some token → g.TokenRefused token
  | .apiKey => apiKey ≠ "" → g.KeyRefused k apiKey
  | .both =>
    if apiKey ≠ "" then g.KeyRefused k apiKey
    else ∀ token, bearerToken r = some token →
      g.lookupFails = false ∧ g.tenantByAPIKey token = none ∧ g.TokenRefused token
  | .other _ => False

variable {g k} {apiKey token : String}

@[simp] theorem status_unauthorized (message : String) :
    (unauthorized message).status = some 401 := rfl

@[simp] theorem status_internalError (message : String) :
    (internalError message).status = some 500 := rfl

@[simp] theorem status_served (ctx : AuthContext) : (Answer.served ctx).status = none := rfl

@[simp] theorem status_crashed : Answer.crashed.status = none := rfl

theorem status_claimsAnswer (claims : Claims) :
    (g.claimsAnswer claims).status = some 401 ↔ g.resolveTenantConfig claims.tenantID = .ok none := by
  unfold claimsAnswer
  cases g.resolveTenantConfig claims.tenantID with
  | error err => simp
  | ok resolved => cases resolved <;> simp

theorem status_tokenAnswer (refusal : String) :
    (g.tokenAnswer refusal token).status = some 401 ↔ g.TokenRefused token := by
  unfold tokenAnswer TokenRefused
  cases g.resolveInferenceJWTValidator with
  | notEnabled => simp
  | failed => simp
  | nilAuth => simp
  | ready jwt =>
    dsimp only
    cases g.validateToken jwt token with
    | none => simp
    | some claims => simpa using status_claimsAnswer claims

theorem yamlAnswer_eq_none_iff : g.yamlAnswer apiKey = none ↔ g.tenantByAPIKey apiKey = none := by
  simp [yamlAnswer]

theorem status_yamlAnswer {a : Answer} (h : g.yamlAnswer apiKey = some a) : a.status ≠ some 401 := by
  obtain ⟨yamlTenant,-,rfl⟩ := Option.map_eq_some_iff.mp h
  cases g.resolveTenantConfig yamlTenant.id <;> simp

theorem status_yaml_getD {last : Answer} (h : g.databaseAnswer k apiKey = none) :
    ((g.keyAnswer k apiKey).getD last).status = some 401 ↔
      g.tenantByAPIKey apiKey = none ∧ last.status = some 401 := by
  rw [keyAnswer,h,Option.orElse_none]
  cases hyaml : g.yamlAnswer apiKey with
  | none => simp [yamlAnswer_eq_none_iff.mp hyaml]
  | some a =>
    have hlisted : g.tenantByAPIKey apiKey ≠ none := by
      rw [Ne,← yamlAnswer_eq_none_iff,hyaml]
      exact Option.some_ne_none a
    simp [hlisted,status_yamlAnswer hyaml]

theorem databaseAnswer_eq_none (hfails : g.lookupFails = false)
    (hlookup : k.lookupAPIKeyByHash (g.hashAPIKey apiKey) = none) :
    g.databaseAnswer k apiKey = none := by
  simp [databaseAnswer,hfails,hlookup]

theorem status_keyAnswer_of_fails {last : Answer} (hfails : g.lookupFails = true) :
    ((g.keyAnswer k apiKey).getD last).status ≠ some 401 := by
  simp [keyAnswer,databaseAnswer,hfails]

theorem status_keyAnswer_of_retired {last : Answer}
    (hd : (k.keys.map APIKeyRecord.keyHash).Nodup) (hretired : k.Retired (g.hashAPIKey apiKey)) :
    ((g.keyAnswer k apiKey).getD last).status = some 401 ↔
      g.lookupFails = false ∧ g.tenantByAPIKey apiKey = none ∧ last.status = some 401 := by
  cases hfails : g.lookupFails with
  | true => simp [status_keyAnswer_of_fails hfails]
  | false =>
    rw [status_yaml_getD (databaseAnswer_eq_none hfails (lookup_of_retired hd hretired))]
    simp

theorem status_recordAnswer {keyRecord : APIKeyRecord} {id : ℕ} {keyHash : String}
    (hlookup : k.lookupAPIKeyByHash keyHash = some (keyRecord,id)) :
    (g.recordAnswer k keyRecord id).status = some 401 ↔
      g.resolveTenantConfig keyRecord.tenantID = .ok none := by
  obtain ⟨hactive,hunexpired⟩ := usable_of_lookup hlookup
  rw [recordAnswer,hactive,hunexpired,if_neg (by simp),if_neg (by simp)]
  cases g.resolveTenantConfig keyRecord.tenantID with
  | error err => simp
  | ok resolved => cases resolved <;> simp

theorem status_keyAnswer (hd : (k.keys.map APIKeyRecord.keyHash).Nodup) (refusal : String) :
    ((g.keyAnswer k apiKey).getD (unauthorized refusal)).status = some 401 ↔ g.KeyRefused k apiKey := by
  unfold KeyRefused
  by_cases hretired : k.Retired (g.hashAPIKey apiKey)
  · rw [status_keyAnswer_of_retired hd hretired]
    simp [hretired]
  · rw [if_neg hretired]
    cases hfails : g.lookupFails with
    | true => simp [status_keyAnswer_of_fails hfails]
    | false =>
      cases hlookup : k.lookupAPIKeyByHash (g.hashAPIKey apiKey) with
      | none =>
        rw [status_yaml_getD (databaseAnswer_eq_none hfails hlookup)]
        simp
      | some found =>
        rw [keyAnswer,databaseAnswer,hlookup]
        simp [hfails,status_recordAnswer hlookup]

theorem status_handleAPIKeyAuth (hd : (k.keys.map APIKeyRecord.keyHash).Nodup) (r : HttpRequest) :
    (g.handleAPIKeyAuth k r).status = some 401 ↔
      (r.header "X-API-Key" ≠ "" → g.KeyRefused k (r.header "X-API-Key")) := by
  unfold handleAPIKeyAuth
  dsimp only
  split_ifs with hempty
  · simp [hempty]
  · rw [status_keyAnswer hd]
    simp [hempty]

theorem status_handleJWTAuth (r : HttpRequest) : (g.handleJWTAuth r).status = some 401 ↔
    ∀ token, bearerToken r = some token → g.TokenRefused token := by
  unfold handleJWTAuth
  cases bearerToken r with
  | none => simp
  | some token => simp [status_tokenAnswer]

theorem retired_key_refused_iff {now : Int} {es : List Event} {r : HttpRequest}
    (hrun : exec (step g.hashAPIKey) (KeyStore.empty now) es = some k)
    (hretired : k.Retired (g.hashAPIKey apiKey)) (hcarries : Carries r apiKey) :
    (g.middleware k r).status = some 401 ↔ g.Refuses k r := by
  have hd := keyHashes_nodup hrun
  unfold middleware Refuses
  cases g.auth.mode with
  | jwt => exact status_handleJWTAuth r
  | apiKey => exact status_handleAPIKeyAuth hd r
  | both =>
    dsimp only
    unfold handleBothAuth
    by_cases hkey : r.header "X-API-Key" = ""
    · rw [if_neg (not_not.mpr hkey),if_neg (not_not.mpr hkey)]
      have hbearer : bearerToken r = some apiKey := by
        rcases hcarries with ⟨hne,heq⟩ | hbearer
        · exact absurd (heq ▸ hkey) hne
        · exact hbearer
      rw [hbearer]
      dsimp only
      rw [status_keyAnswer_of_retired hd hretired,status_tokenAnswer]
      simp
    · rw [if_pos hkey,if_pos hkey,status_handleAPIKeyAuth hd]
      simp [hkey]
  | other mode => simp

end Gate

def sha256Hex : String → String
  | "rk_live_acme" => "de6570610b9e13a7a52046983826d5e893d0ec5bcb918f2c1dc9d8d899a4b37c"
  | "sk-acme" => "5f8eee912cd7c0ccb238560e8a22e7f78909e6dac18288188f7f4ea35112700d"
  | "rk_live_next" => "231539f2fd1531f395728c57462b36204156b8b0af588554b731522de90ed5b2"
  | _ => ""

def acme : TenantConfig := ⟨"acme",["sk-acme"]⟩

def gate (mode : AuthMode) : Gate where
  auth := ⟨mode,{ issuer := "https://idp", jwksURL := "https://idp/certs" }⟩
  tenants := [acme]
  dynamicConfig := true
  cachedTenant := fun _ => none
  storedTenant := fun _ => .absent
  cachedGlobal := none
  storedGlobal := .absent
  lookupFails := false
  hashAPIKey := sha256Hex
  validateToken := fun _ _ => none

def requestWith (name value : String) : HttpRequest where
  method := "POST"
  path := "/v1/chat/completions"
  pathTenantID := ""
  header := fun header => if header = name then value else ""

def revokedKeys : List Event :=
  [.startup [acme],.create "rk_live_acme" "acme" "ci" ["inference"] (some 50),.wait 10,
    .rotate "rk_live_next" "acme" 1,.revoke "acme" 0,.wait 20]

theorem rotated_key_refused :
    ∃ k, exec (step sha256Hex) (KeyStore.empty 0) revokedKeys = some k ∧
      k.Retired (sha256Hex "rk_live_acme") ∧
      ((gate .apiKey).middleware k (requestWith "X-API-Key" "rk_live_acme")).status = some 401 ∧
      ((gate .both).middleware k (requestWith "Authorization" "Bearer rk_live_acme")).status =
        some 401 := by
  obtain ⟨k,hrun,hretired⟩ := reaches
    (P := fun k : KeyStore => k.Retired (sha256Hex "rk_live_acme"))
    (show (exec (step sha256Hex) (KeyStore.empty 0) revokedKeys).any _ = true by decide)
  have hunlisted : ∀ mode, (gate mode).tenantByAPIKey "rk_live_acme" = none := by
    intro mode
    simp [Gate.tenantByAPIKey,gate,acme]
  refine ⟨k,hrun,hretired,?_,?_⟩
  · have hheader : (requestWith "X-API-Key" "rk_live_acme").header "X-API-Key" =
        "rk_live_acme" := rfl
    refine (@Gate.retired_key_refused_iff (gate .apiKey) k "rk_live_acme" 0 revokedKeys _ hrun
      hretired (.inl ⟨by decide,hheader⟩)).mpr ?_
    intro _
    rw [hheader]
    refine ⟨rfl,?_⟩
    rw [if_pos (show k.Retired ((gate .apiKey).hashAPIKey "rk_live_acme") from hretired)]
    exact hunlisted .apiKey
  · have hbearer : bearerToken (requestWith "Authorization" "Bearer rk_live_acme") =
        some "rk_live_acme" := by decide
    have hvalidator : (gate .both).resolveInferenceJWTValidator =
        .ready (gate .both).auth.jwt := by decide
    refine (@Gate.retired_key_refused_iff (gate .both) k "rk_live_acme" 0 revokedKeys _ hrun
      hretired (.inr hbearer)).mpr ?_
    show ∀ token, _ → _
    intro token htoken
    cases hbearer.symm.trans htoken
    refine ⟨rfl,hunlisted .both,?_⟩
    unfold Gate.TokenRefused
    rw [hvalidator]
    intro claims hclaims
    cases hclaims

theorem revoked_yaml_key_served :
    ∃ k, exec (step sha256Hex) (KeyStore.empty 0) revokedKeys = some k ∧
      k.Retired (sha256Hex "sk-acme") ∧
      (gate .apiKey).middleware k (requestWith "X-API-Key" "sk-acme") = .served
        { tenant := acme, tenantID := "acme", authType := .apiKey, scopes := ["inference"] } ∧
      (gate .both).middleware k (requestWith "Authorization" "Bearer sk-acme") = .served
        { tenant := acme, tenantID := "acme", authType := .apiKey, scopes := ["inference"] } :=
  reaches (show (exec (step sha256Hex) (KeyStore.empty 0) revokedKeys).any _ = true by decide)

end PrismGateway.Auth
