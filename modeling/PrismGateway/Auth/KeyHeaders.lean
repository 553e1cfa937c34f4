import PrismGateway.Auth.Middleware

namespace PrismGateway.Auth.KeyHeaders

open Lib Admin.Isolation Storage.KeyLookup

abbrev KeyLookup := String → Except String (Option (APIKeyRecord × ℕ))

/-- What one request leads to: the answer, the label that `APIKeyValidationsCounter` counts and the key
whose last use is noted. -/
structure Handled where
  answer : Answer
  counted : Option String := none
  touched : Option ℕ := none
  deriving DecidableEq, Repr

variable (g : Gate) (now : Int) (store : Option KeyLookup)

def fallbackYAML (apiKey : String) : Handled :=
  match g.tenantByAPIKey apiKey with
  | none => { answer := unauthorized "invalid API key", counted := some "not_found" }
  | some yamlTenant => match g.resolveTenantConfig yamlTenant.id with
    | .error _ => { answer := internalError "internal error" }
    | .ok resolved =>
      let tenant := match resolved with
        | none => yamlTenant
        | some tenant => tenant
      { answer := .served
          { tenant := tenant, tenantID := tenant.id, scopes := ["inference"], authType := .apiKey }
        counted := some "ok" }

def handleAPIKeyAuth (r : HttpRequest) : Handled :=
  let apiKey := r.header "X-API-Key"
  if apiKey = "" then { answer := unauthorized "missing X-API-Key header" }
  else
    match store with
    | none => fallbackYAML g apiKey
    | some lookup => match lookup (g.hashAPIKey apiKey) with
      | .error _ => { answer := internalError "internal error", counted := some "error" }
      | .ok none => fallbackYAML g apiKey
      | .ok (some (keyRecord,id)) =>
        if keyRecord.revokedAt.isSome then
          { answer := unauthorized "api key revoked", counted := some "revoked" }
        else if keyRecord.expiresAt.any (fun t => t < now) then
          { answer := unauthorized "api key expired", counted := some "expired" }
        else match g.resolveTenantConfig keyRecord.tenantID with
          | .error _ => { answer := internalError "internal error" }
          | .ok none => { answer := unauthorized "invalid tenant" }
          | .ok (some tenant) =>
            { answer := .served
                { tenant := tenant, tenantID := keyRecord.tenantID, apiKeyID := some id
                  apiKeyName := some keyRecord.name, scopes := keyRecord.scopes, authType := .apiKey }
              counted := some "ok"
              touched := some id }

def attemptJWT (token : String) : Handled :=
  match g.resolveInferenceJWTValidator with
  | .notEnabled => { answer := unauthorized "invalid credentials", counted := some "not_found" }
  | .failed => { answer := internalError "internal error" }
  | .nilAuth => { answer := .crashed }
  | .ready jwt => match g.validateToken jwt token with
    | none => { answer := unauthorized "invalid credentials", counted := some "not_found" }
    | some claims => { answer := g.claimsAnswer claims }

def attemptYAML (token : String) : Handled :=
  match g.tenantByAPIKey token with
  | some yamlTenant => match g.resolveTenantConfig yamlTenant.id with
    | .error _ => { answer := internalError "internal error" }
    | .ok none =>
      { answer := .served
          { tenant := yamlTenant, tenantID := yamlTenant.id, scopes := ["inference"]
            authType := .apiKey }
        counted := some "ok" }
    | .ok (some tenant) =>
      { answer := .served
          { tenant := tenant, tenantID := tenant.id, scopes := ["inference"], authType := .apiKey }
        counted := some "ok" }
  | none => attemptJWT g token

def handleBothAuth (r : HttpRequest) : Handled :=
  if r.header "X-API-Key" ≠ "" then handleAPIKeyAuth g now store r
  else match bearerToken r with
    | none => { answer := unauthorized "missing credentials" }
    | some token => match store with
      | none => attemptYAML g token
      | some lookup => match lookup (g.hashAPIKey token) with
        | .error _ => { answer := internalError "internal error", counted := some "error" }
        | .ok none => attemptYAML g token
        | .ok (some (keyRecord,id)) =>
          if keyRecord.revokedAt.isSome then
            { answer := unauthorized "api key revoked", counted := some "revoked" }
          else if keyRecord.expiresAt.any (fun t => t < now) then
            { answer := unauthorized "api key expired", counted := some "expired" }
          else match g.resolveTenantConfig keyRecord.tenantID with
            | .error _ => { answer := internalError "internal error" }
            | .ok none => { answer := unauthorized "invalid tenant" }
            | .ok (some tenant) =>
              { answer := .served
                  { tenant := tenant, tenantID := keyRecord.tenantID, apiKeyID := some id
                    apiKeyName := some keyRecord.name, scopes := keyRecord.scopes
                    authType := .apiKey }
                counted := some "ok"
                touched := some id }

def Known (apiKey : String) : Prop :=
  (∃ lookup found, store = some lookup ∧ lookup (g.hashAPIKey apiKey) = .ok (some found)) ∨
    (g.tenantByAPIKey apiKey).isSome

def recordHandled (keyRecord : APIKeyRecord) (id : ℕ) : Handled :=
  if keyRecord.revokedAt.isSome then
    { answer := unauthorized "api key revoked", counted := some "revoked" }
  else if keyRecord.expiresAt.any (fun t => t < now) then
    { answer := unauthorized "api key expired", counted := some "expired" }
  else match g.resolveTenantConfig keyRecord.tenantID with
    | .error _ => { answer := internalError "internal error" }
    | .ok none => { answer := unauthorized "invalid tenant" }
    | .ok (some tenant) =>
      { answer := .served
          { tenant := tenant, tenantID := keyRecord.tenantID, apiKeyID := some id
            apiKeyName := some keyRecord.name, scopes := keyRecord.scopes, authType := .apiKey }
        counted := some "ok"
        touched := some id }

def yamlHandled (yamlTenant : TenantConfig) : Handled :=
  match g.resolveTenantConfig yamlTenant.id with
  | .error _ => { answer := internalError "internal error" }
  | .ok resolved =>
    { answer := .served
        { tenant := resolved.getD yamlTenant, tenantID := (resolved.getD yamlTenant).id
          scopes := ["inference"], authType := .apiKey }
      counted := some "ok" }

def keyHandled (apiKey : String) : Option Handled :=
  let yaml := (g.tenantByAPIKey apiKey).map (yamlHandled g)
  match store with
  | none => yaml
  | some lookup => match lookup (g.hashAPIKey apiKey) with
    | .error _ => some { answer := internalError "internal error", counted := some "error" }
    | .ok none => yaml
    | .ok (some (keyRecord,id)) => some (recordHandled g now keyRecord id)

variable {g now store} {r : HttpRequest} {apiKey : String}

theorem fallbackYAML_eq (apiKey : String) : fallbackYAML g apiKey =
    ((g.tenantByAPIKey apiKey).map (yamlHandled g)).getD
      { answer := unauthorized "invalid API key", counted := some "not_found" } := by
  unfold fallbackYAML
  cases g.tenantByAPIKey apiKey with
  | none => rfl
  | some yamlTenant =>
    simp only [Option.map_some,Option.getD_some,yamlHandled]
    cases g.resolveTenantConfig yamlTenant.id with
    | error err => rfl
    | ok resolved => cases resolved <;> rfl

theorem handleAPIKeyAuth_eq (hne : r.header "X-API-Key" ≠ "") : handleAPIKeyAuth g now store r =
    (keyHandled g now store (r.header "X-API-Key")).getD
      { answer := unauthorized "invalid API key", counted := some "not_found" } := by
  unfold handleAPIKeyAuth keyHandled
  simp only [if_neg hne]
  cases store with
  | none => exact fallbackYAML_eq _
  | some lookup =>
    cases hlookup : lookup (g.hashAPIKey (r.header "X-API-Key")) with
    | error err => simp only [hlookup,Option.getD_some]
    | ok found =>
      cases found with
      | none =>
        simp only [hlookup]
        exact fallbackYAML_eq _
      | some found => simp only [hlookup,Option.getD_some,recordHandled]

theorem attemptYAML_eq (token : String) : attemptYAML g token =
    ((g.tenantByAPIKey token).map (yamlHandled g)).getD (attemptJWT g token) := by
  unfold attemptYAML
  cases g.tenantByAPIKey token with
  | none => rfl
  | some yamlTenant =>
    simp only [Option.map_some,Option.getD_some,yamlHandled]
    cases g.resolveTenantConfig yamlTenant.id with
    | error err => rfl
    | ok resolved => cases resolved <;> rfl

theorem handleBothAuth_bearer (hnone : r.header "X-API-Key" = "") {token : String}
    (hbearer : bearerToken r = some token) :
    handleBothAuth g now store r = (keyHandled g now store token).getD (attemptJWT g token) := by
  unfold handleBothAuth keyHandled
  simp only [hnone,ne_eq,not_true_eq_false,if_false,hbearer]
  cases store with
  | none => exact attemptYAML_eq token
  | some lookup =>
    cases hlookup : lookup (g.hashAPIKey token) with
    | error err => simp only [hlookup,Option.getD_some]
    | ok found =>
      cases found with
      | none =>
        simp only [hlookup]
        exact attemptYAML_eq token
      | some found => simp only [hlookup,Option.getD_some,recordHandled]

theorem handleBothAuth_header (hne : r.header "X-API-Key" ≠ "") :
    handleBothAuth g now store r = handleAPIKeyAuth g now store r := by
  rw [handleBothAuth,if_pos hne]

theorem isSome_keyHandled (h : Known g store apiKey) : (keyHandled g now store apiKey).isSome := by
  unfold keyHandled
  rcases h with ⟨lookup,found,rfl,hfound⟩ | hlisted
  · simp only [hfound,Option.isSome_some]
  · cases store with
    | none => rwa [Option.isSome_map]
    | some lookup =>
      cases hlookup : lookup (g.hashAPIKey apiKey) with
      | error err => simp only [hlookup,Option.isSome_some]
      | ok found =>
        cases found with
        | none =>
          simp only [hlookup]
          rwa [Option.isSome_map]
        | some found => simp only [hlookup,Option.isSome_some]

theorem bearerToken_of_header (h : r.header "Authorization" = "Bearer " ++ apiKey) :
    bearerToken r = some apiKey := by
  have hprefix : hasPrefix ("Bearer " ++ apiKey) "Bearer " = true := by
    rw [hasPrefix,String.toList_append]
    exact List.isPrefixOf_iff_prefix.mpr (List.prefix_append _ _)
  rw [bearerToken,h,if_pos hprefix,String.toList_append,← String.length_toList,List.drop_left,
    String.ofList_toList]

theorem outcome_of_either_header (g : Gate) (now : Int) (store : Option KeyLookup) (apiKey : String)
    (r r' : HttpRequest) (hne : apiKey ≠ "") (hknown : Known g store apiKey)
    (hheader : r.header "X-API-Key" = apiKey) (hnone : r'.header "X-API-Key" = "")
    (hbearer : r'.header "Authorization" = "Bearer " ++ apiKey) :
    handleBothAuth g now store r = handleBothAuth g now store r' := by
  obtain ⟨h,hh⟩ := Option.isSome_iff_exists.mp (@isSome_keyHandled g now store apiKey hknown)
  have hsent : r.header "X-API-Key" ≠ "" := by rwa [hheader]
  rw [handleBothAuth_header hsent,handleAPIKeyAuth_eq hsent,
    handleBothAuth_bearer hnone (bearerToken_of_header hbearer),hheader,hh]
  rfl

def listedGate : Gate where
  auth := { mode := .both }
  tenants := [{ id := "acme", apiKeys := ["k-acme"] }]
  dynamicConfig := false
  cachedTenant _ := none
  storedTenant _ := .absent
  cachedGlobal := none
  storedGlobal := .absent
  lookupFails := false
  hashAPIKey := id
  validateToken _ _ := none

def keyRequest (name value : String) : HttpRequest where
  method := "POST"
  path := "/v1/chat/completions"
  pathTenantID := ""
  header asked := if asked = name then value else ""

theorem listed_by_either_header :
    (handleBothAuth listedGate 0 (some (fun _ => .ok none)) (keyRequest "X-API-Key" "k-acme")).counted =
        some "ok" ∧
      handleBothAuth listedGate 0 (some (fun _ => .ok none)) (keyRequest "X-API-Key" "k-acme") =
        handleBothAuth listedGate 0 (some (fun _ => .ok none))
          (keyRequest "Authorization" "Bearer k-acme") :=
  ⟨by decide,outcome_of_either_header listedGate 0 (some (fun _ => .ok none)) "k-acme" _ _
    (by decide) (.inr (by decide)) (by decide) (by decide)
    (by decide)⟩

section Middleware

variable {k : KeyStore}

def gateLookup (g : Gate) (k : KeyStore) : KeyLookup := fun keyHash =>
  if g.lookupFails then .error "get api key by hash" else .ok (k.lookupAPIKeyByHash keyHash)

theorem answer_recordHandled (keyRecord : APIKeyRecord) (id : ℕ) :
    (recordHandled g k.now keyRecord id).answer = g.recordAnswer k keyRecord id := by
  unfold recordHandled Gate.recordAnswer
  split_ifs
  · rfl
  · rfl
  · cases g.resolveTenantConfig keyRecord.tenantID with
    | error err => rfl
    | ok tenant => cases tenant <;> rfl

theorem answer_yamlHandled : ((g.tenantByAPIKey apiKey).map (yamlHandled g)).map Handled.answer =
    g.yamlAnswer apiKey := by
  rw [Option.map_map,Gate.yamlAnswer]
  refine congrFun (congrArg Option.map (funext fun yamlTenant => ?_)) _
  rw [Function.comp_apply,yamlHandled]
  cases g.resolveTenantConfig yamlTenant.id <;> rfl

theorem answer_keyHandled : (keyHandled g k.now (some (gateLookup g k)) apiKey).map Handled.answer =
    g.keyAnswer k apiKey := by
  unfold keyHandled gateLookup Gate.keyAnswer Gate.databaseAnswer
  cases g.lookupFails with
  | true => rfl
  | false =>
    cases hlookup : k.lookupAPIKeyByHash (g.hashAPIKey apiKey) with
    | none => simpa [hlookup] using answer_yamlHandled
    | some found => simp [hlookup,answer_recordHandled]

theorem answer_getD (o : Option Handled) (h : Handled) :
    (o.getD h).answer = (o.map Handled.answer).getD h.answer := by
  cases o <;> rfl

theorem answer_attemptJWT (token : String) :
    (attemptJWT g token).answer = g.tokenAnswer "invalid credentials" token := by
  unfold attemptJWT Gate.tokenAnswer
  cases g.resolveInferenceJWTValidator with
  | ready jwt =>
    simp only
    cases g.validateToken jwt token <;> rfl
  | _ => rfl

theorem answer_handleAPIKeyAuth :
    (handleAPIKeyAuth g k.now (some (gateLookup g k)) r).answer = g.handleAPIKeyAuth k r := by
  unfold Gate.handleAPIKeyAuth
  by_cases hempty : r.header "X-API-Key" = ""
  · rw [handleAPIKeyAuth]
    simp only [hempty,if_true]
  · simp only [if_neg hempty]
    rw [handleAPIKeyAuth_eq hempty,answer_getD,answer_keyHandled]

theorem answer_handleBothAuth :
    (handleBothAuth g k.now (some (gateLookup g k)) r).answer = g.handleBothAuth k r := by
  unfold Gate.handleBothAuth
  by_cases hnone : r.header "X-API-Key" = ""
  · rw [if_neg (not_not.mpr hnone)]
    cases hbearer : bearerToken r with
    | none =>
      rw [handleBothAuth,if_neg (not_not.mpr hnone),hbearer]
    | some token =>
      simp only
      rw [handleBothAuth_bearer hnone hbearer,answer_getD,answer_keyHandled,answer_attemptJWT]
  · rw [if_pos hnone,handleBothAuth_header hnone,answer_handleAPIKeyAuth]

end Middleware

end PrismGateway.Auth.KeyHeaders
