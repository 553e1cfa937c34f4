import PrismGateway.Lib.GoStrings
import PrismGateway.Admin.Isolation
import PrismGateway.Storage.KeyLookup

namespace PrismGateway.Auth

open Lib Admin.Isolation Storage.KeyLookup

inductive AuthMode where
  | jwt
  | apiKey
  | both
  | other (mode : String)
  deriving DecidableEq, Repr

structure JWTConfig where
  issuer : String := ""
  issuerPublic : String := ""
  audience : String := ""
  jwksURL : String := ""
  deriving DecidableEq, Repr

structure AuthConfig where
  mode : AuthMode
  jwt : JWTConfig := {}
  deriving DecidableEq, Repr

/-- A row that holds a configuration, as a query and `json.Unmarshal` find it. -/
inductive Stored (α : Type) where
  | failed
  | absent
  | malformed
  | present (a : α)

structure Gate where
  auth : AuthConfig
  tenants : List TenantConfig
  dynamicConfig : Bool
  cachedTenant : String → Option TenantConfig
  storedTenant : String → Stored TenantConfig
  cachedGlobal : Option (Option AuthConfig)
  storedGlobal : Stored (Option AuthConfig)
  lookupFails : Bool
  hashAPIKey : String → String
  validateToken : JWTConfig → String → Option Claims

structure AuthContext where
  tenant : TenantConfig
  tenantID : String
  authType : AuthType
  apiKeyID : Option ℕ := none
  apiKeyName : Option String := none
  scopes : List String := []
  sub : String := ""
  roles : List String := []
  deriving DecidableEq, Repr

inductive Answer where
  | denied (d : Denial)
  | served (ctx : AuthContext)
  | crashed
  deriving DecidableEq, Repr

def Answer.status : Answer → Option ℕ
  | .denied d => some d.status
  | _ => none

def unauthorized (message : String) : Answer := .denied ⟨401,message,"authentication_error"⟩

def internalError (message : String) : Answer := .denied ⟨500,message,"internal_error"⟩

inductive Validator where
  | ready (jwt : JWTConfig)
  | notEnabled
  | failed
  | nilAuth
  deriving DecidableEq, Repr

namespace Gate

variable (g : Gate)

def tenantByAPIKey (apiKey : String) : Option TenantConfig :=
  g.tenants.find? (fun t => t.apiKeys.contains apiKey)

def tenantByID (id : String) : Option TenantConfig := g.tenants.find? (fun t => t.id = id)

def resolveTenantConfig (tenantID : String) : Except String (Option TenantConfig) :=
  match g.cachedTenant tenantID with
  | some tenant => .ok (some tenant)
  | none =>
    if g.dynamicConfig then
      match g.storedTenant tenantID with
      | .present tenant => .ok (some { tenant with id := tenantID })
      | .malformed => .error "unmarshal tenant config"
      | _ => .ok (g.tenantByID tenantID)
    else .ok (g.tenantByID tenantID)

def resolveGlobalAuth : Except String (Option AuthConfig) :=
  match g.cachedGlobal with
  | some auth => .ok auth
  | none =>
    if g.dynamicConfig then
      match g.storedGlobal with
      | .present auth => .ok auth
      | .malformed => .error "unmarshal global config"
      | _ => .ok (some g.auth)
    else .ok (some g.auth)

def resolveInferenceJWTValidator : Validator :=
  match g.resolveGlobalAuth with
  | .error _ => .failed
  -- the log line reads `gc.Auth.JWT` before `gc.Auth` is compared with nil
  | .ok none => .nilAuth
  | .ok (some auth) =>
    if auth.mode ≠ .jwt ∧ auth.mode ≠ .both then .notEnabled
    else if GoStrings.trimSpace auth.jwt.jwksURL = "" then .failed
    else .ready auth.jwt

def claimsAnswer (claims : Claims) : Answer :=
  match g.resolveTenantConfig claims.tenantID with
  | .error _ => internalError "internal error"
  | .ok none => unauthorized "invalid tenant"
  | .ok (some tenant) => .served
      { tenant := tenant, tenantID := claims.tenantID, authType := .jwt
        sub := claims.subject, roles := claims.roles }

def tokenAnswer (refusal token : String) : Answer :=
  match g.resolveInferenceJWTValidator with
  | .notEnabled => unauthorized "invalid credentials"
  | .failed => internalError "internal error"
  | .nilAuth => .crashed
  | .ready jwt => match g.validateToken jwt token with
    | none => unauthorized refusal
    | some claims => g.claimsAnswer claims

def handleJWTAuth (r : HttpRequest) : Answer :=
  match bearerToken r with
  | none => unauthorized "missing or invalid Authorization header"
  | some token => g.tokenAnswer "invalid token" token

variable (k : KeyStore)

def recordAnswer (keyRecord : APIKeyRecord) (id : ℕ) : Answer :=
  if keyRecord.revokedAt.isSome then unauthorized "api key revoked"
  else if keyRecord.expiresAt.any (fun t => t < k.now) then unauthorized "api key expired"
  else match g.resolveTenantConfig keyRecord.tenantID with
    | .error _ => internalError "internal error"
    | .ok none => unauthorized "invalid tenant"
    | .ok (some tenant) => .served
        { tenant := tenant, tenantID := keyRecord.tenantID, authType := .apiKey
          apiKeyID := some id, apiKeyName := some keyRecord.name, scopes := keyRecord.scopes }

def databaseAnswer (apiKey : String) : Option Answer :=
  if g.lookupFails then some (internalError "internal error")
  else (k.lookupAPIKeyByHash (g.hashAPIKey apiKey)).map (fun found => g.recordAnswer k found.1 found.2)

def yamlAnswer (apiKey : String) : Option Answer :=
  (g.tenantByAPIKey apiKey).map (fun yamlTenant =>
    match g.resolveTenantConfig yamlTenant.id with
    | .error _ => internalError "internal error"
    | .ok resolved =>
      let tenant := resolved.getD yamlTenant
      .served { tenant := tenant, tenantID := tenant.id, authType := .apiKey, scopes := ["inference"] })

def keyAnswer (apiKey : String) : Option Answer :=
  (g.databaseAnswer k apiKey).orElse (fun _ => g.yamlAnswer apiKey)

def handleAPIKeyAuth (r : HttpRequest) : Answer :=
  let apiKey := r.header "X-API-Key"
  if apiKey = "" then unauthorized "missing X-API-Key header"
  else (g.keyAnswer k apiKey).getD (unauthorized "invalid API key")

def handleBothAuth (r : HttpRequest) : Answer :=
  if r.header "X-API-Key" ≠ "" then g.handleAPIKeyAuth k r
  else match bearerToken r with
    | none => unauthorized "missing credentials"
    | some token => (g.keyAnswer k token).getD (g.tokenAnswer "invalid credentials" token)

def middleware (r : HttpRequest) : Answer :=
  match g.auth.mode with
  | .jwt => g.handleJWTAuth r
  | .apiKey => g.handleAPIKeyAuth k r
  | .both => g.handleBothAuth k r
  | .other _ => internalError "invalid auth mode"

end Gate

end PrismGateway.Auth
