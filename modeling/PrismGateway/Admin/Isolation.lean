import PrismGateway.Lib.GoStrings

namespace PrismGateway.Admin.Isolation

open Lib

structure HttpRequest where
  method : String
  path : String
  pathTenantID : String
  header : String → String

structure Claims where
  subject : String
  tenantID : String
  tenants : List String
  roles : List String

structure AuthConfig where
  mode : String
  jwtAdminRoles : List String
  rbacAdminRoles : List String

inductive AuthType where
  | adminToken
  | jwt
  | apiKey
  deriving DecidableEq, Repr

structure AuthContext where
  authType : AuthType
  tenantID : String := ""
  sub : String := ""
  roles : List String := []
  allowedTenants : List String := []
  scopes : List String := []
  deriving DecidableEq, Repr

structure Denial where
  status : ℕ
  message : String
  type : String
  deriving DecidableEq, Repr

/-- What the middleware asks of its surroundings: `ADMIN_TOKEN`, the active global configuration, the
JWT validator and the check of API keys. -/
structure Surroundings where
  expectedToken : String
  auth : Except String (Option AuthConfig)
  validateTokenForAdmin : String → Except String Claims
  handleAPIKeyAuthForAdmin : HttpRequest → Except Denial (String × List String)

def insufficientPermissions : Denial := ⟨403,"insufficient permissions","authorization_error"⟩

def hasAnyRole (userRoles requiredRoles : List String) : Bool :=
  userRoles.any (fun role => requiredRoles.contains role)

def tenantsFromClaims (c : Claims) : List String :=
  if c.tenants ≠ [] then c.tenants
  else if c.tenantID ≠ "" then [c.tenantID]
  else []

def hasPrefix (s p : String) : Bool := p.toList.isPrefixOf s.toList

def hasSuffix (s p : String) : Bool := p.toList.isSuffixOf s.toList

def AuthConfig.adminRoles (a : AuthConfig) : List String :=
  if a.jwtAdminRoles = [] then a.rbacAdminRoles else a.jwtAdminRoles

def authorizeClaims (a : AuthConfig) (claims : Claims) : Except Denial AuthContext :=
  let hasAdminRole := hasAnyRole claims.roles a.adminRoles
  let hasLocalAdmin := hasAnyRole claims.roles ["local_admin"]
  let hasUser := hasAnyRole claims.roles ["user"]
  let ctx : AuthContext :=
    { authType := .jwt, tenantID := claims.tenantID, sub := claims.subject, roles := claims.roles }
  if !hasAdminRole && !hasLocalAdmin && !hasUser then .error insufficientPermissions
  else if (hasLocalAdmin || hasUser) && !hasAdminRole then
    match tenantsFromClaims claims with
    | [] =>
        let roleLabel := if hasUser && !hasLocalAdmin then "user" else "local_admin"
        .error ⟨403,roleLabel ++ " must have at least one tenant assigned","authorization_error"⟩
    | t :: ts => .ok { ctx with allowedTenants := t :: ts, tenantID := t }
  else .ok ctx

def bearerToken (r : HttpRequest) : Option String :=
  if hasPrefix (r.header "Authorization") "Bearer " then
    some (String.ofList ((r.header "Authorization").toList.drop "Bearer ".length))
  else none

def isAdminScope (scope : String) : Bool := scope = "admin_read" || scope = "admin_write"

def authorizeAPIKey (env : Surroundings) (r : HttpRequest) : Except Denial AuthContext :=
  if r.header "X-API-Key" ≠ "" then
    match env.handleAPIKeyAuthForAdmin r with
    | .error d => .error d
    | .ok (tenantID,scopes) =>
        if scopes.any isAdminScope then
          .ok { authType := .apiKey, tenantID := tenantID, scopes := scopes }
        else .error insufficientPermissions
  else if env.expectedToken = "" then .error ⟨403,"admin API disabled","permission_error"⟩
  else .error ⟨401,"invalid admin credentials","authentication_error"⟩

def adminMiddleware (env : Surroundings) (r : HttpRequest) : Except Denial AuthContext :=
  if r.header "X-Admin-Token" ≠ "" ∧ env.expectedToken ≠ "" ∧
      r.header "X-Admin-Token" = env.expectedToken then
    .ok { authType := .adminToken }
  else
    match env.auth with
    | .error _ => .error ⟨500,"internal error","internal_error"⟩
    | .ok auth =>
        match auth.filter (fun a => a.mode = "jwt" || a.mode = "both"),bearerToken r with
        | some a,some token =>
            match env.validateTokenForAdmin token with
            | .error _ => .error ⟨401,"invalid token","authentication_error"⟩
            | .ok claims => authorizeClaims a claims
        | _,_ => authorizeAPIKey env r

def adminScopeMiddleware (ctx : AuthContext) (r : HttpRequest) : Except Denial Unit :=
  if ctx.authType ≠ .apiKey then .ok ()
  else if r.method = "GET" || r.method = "HEAD" then
    if ctx.scopes.any isAdminScope then .ok () else .error insufficientPermissions
  else if ctx.scopes.contains "admin_write" then .ok ()
  else .error insufficientPermissions

def adminBypassRoles : List String := ["admin"]

def isWriteMethod (method : String) : Bool :=
  method = "POST" || method = "PUT" || method = "PATCH" || method = "DELETE"

def isTenantScopedGlobalGETAllowed (method path : String) (roles : List String) : Bool :=
  method = "GET" &&
    (path = "/admin/tenants" || path = "/admin/config/history" ||
      path = "/admin/models" && hasAnyRole roles ["local_admin"])

def isPlatformControlPlaneRestrictedPath (path : String) : Bool :=
  hasPrefix path "/admin/route-groups" || hasPrefix path "/admin/benchmarks" ||
    hasPrefix path "/admin/semantic" || hasPrefix path "/admin/observability/semantic" ||
    hasPrefix path "/v1/semantic" || hasPrefix path "/admin/routing" ||
    hasPrefix path "/admin/replay" || hasPrefix path "/admin/traffic/replay" ||
    (hasPrefix path "/admin/requests/" && hasSuffix path "/routing") ||
    GoStrings.contains path "/semantic-threshold"

/-- The check that `local_admin` and `user` share, each under its own name. -/
def tenantScoped (role : String) (ctx : AuthContext) (r : HttpRequest) : Except Denial Unit :=
  if ctx.allowedTenants = [] then
    .error ⟨403,role ++ " must have tenants assigned","authorization_error"⟩
  else if r.pathTenantID = "" then
    if isTenantScopedGlobalGETAllowed r.method r.path ctx.roles then .ok ()
    else .error ⟨403,role ++ " cannot access global endpoints","authorization_error"⟩
  else if !ctx.allowedTenants.contains r.pathTenantID then
    .error ⟨403,"access denied: tenant not in allowed list","authorization_error"⟩
  else .ok ()

def userScoped (ctx : AuthContext) (r : HttpRequest) : Except Denial Unit :=
  match tenantScoped "user" ctx r with
  | .error d => .error d
  | .ok () =>
      if r.pathTenantID ≠ "" && isWriteMethod r.method then
        .error ⟨403,"user cannot perform write operations","authorization_error"⟩
      else .ok ()

def adminTenantIsolationMiddleware (ctx : AuthContext) (r : HttpRequest) : Except Denial Unit :=
  if ctx.authType = .adminToken then .ok ()
  else if hasAnyRole ctx.roles adminBypassRoles then .ok ()
  else if (hasAnyRole ctx.roles ["local_admin"] || hasAnyRole ctx.roles ["user"]) &&
      isPlatformControlPlaneRestrictedPath r.path then .error insufficientPermissions
  else if hasAnyRole ctx.roles ["local_admin"] then tenantScoped "local_admin" ctx r
  else if hasAnyRole ctx.roles ["user"] then userScoped ctx r
  else if ctx.authType ≠ .apiKey then .ok ()
  else if ctx.scopes.any isAdminScope then .ok ()
  else if r.pathTenantID = "" then .ok ()
  else if ctx.tenantID ≠ r.pathTenantID then
    .error ⟨403,"access denied: tenant mismatch","authorization_error"⟩
  else .ok ()

def chain (env : Surroundings) (r : HttpRequest) : Except Denial AuthContext :=
  match adminMiddleware env r with
  | .error d => .error d
  | .ok ctx =>
      match adminScopeMiddleware ctx r with
      | .error d => .error d
      | .ok () =>
          match adminTenantIsolationMiddleware ctx r with
          | .error d => .error d
          | .ok () => .ok ctx

structure Presents (env : Surroundings) (r : HttpRequest) (a : AuthConfig) (claims : Claims) :
    Prop where
  no_token : ¬(r.header "X-Admin-Token" ≠ "" ∧ env.expectedToken ≠ "" ∧
    r.header "X-Admin-Token" = env.expectedToken)
  auth : env.auth = .ok (some a)
  mode : a.mode = "jwt" ∨ a.mode = "both"
  valid : ∃ token, bearerToken r = some token ∧ env.validateTokenForAdmin token = .ok claims

def Isolated (env : Surroundings) (r : HttpRequest) (claims : Claims) : Prop :=
  (∃ ctx, chain env r = .ok ctx) →
    (hasAnyRole claims.roles adminBypassRoles = true ∨ r.pathTenantID ∈ tenantsFromClaims claims) ∧
    (hasAnyRole claims.roles adminBypassRoles = false → isWriteMethod r.method = true →
      hasAnyRole claims.roles ["local_admin"] = true)

def namedRole (roles : List String) : Bool := hasAnyRole roles ["admin","local_admin","user"]

variable {env : Surroundings} {r : HttpRequest} {a : AuthConfig} {claims : Claims} {ctx : AuthContext}

theorem hasAnyRole_iff {userRoles requiredRoles : List String} :
    hasAnyRole userRoles requiredRoles = true ↔ ∃ role ∈ userRoles, role ∈ requiredRoles := by
  simp [hasAnyRole]

theorem namedRole_iff (roles : List String) :
    namedRole roles = true ↔ hasAnyRole roles adminBypassRoles = true ∨
      hasAnyRole roles ["local_admin"] = true ∨ hasAnyRole roles ["user"] = true := by
  simp only [namedRole,adminBypassRoles,hasAnyRole_iff,List.mem_cons,List.not_mem_nil,or_false]
  constructor
  · rintro ⟨role,hrole,h | h | h⟩
    · exact .inl ⟨role,hrole,h⟩
    · exact .inr (.inl ⟨role,hrole,h⟩)
    · exact .inr (.inr ⟨role,hrole,h⟩)
  · rintro (⟨role,hrole,h⟩ | ⟨role,hrole,h⟩ | ⟨role,hrole,h⟩)
    · exact ⟨role,hrole,.inl h⟩
    · exact ⟨role,hrole,.inr (.inl h)⟩
    · exact ⟨role,hrole,.inr (.inr h)⟩

theorem Presents.adminMiddleware (h : Presents env r a claims) :
    adminMiddleware env r = authorizeClaims a claims := by
  obtain ⟨token,htoken,hvalid⟩ := h.valid
  have hmode : (some a).filter (fun a => a.mode = "jwt" || a.mode = "both") = some a := by
    rcases h.mode with hm | hm <;> simp [Option.filter,hm]
  unfold Isolation.adminMiddleware
  rw [if_neg h.no_token,h.auth]
  simp only [hmode,htoken,hvalid]

theorem authorizeClaims_ok (h : authorizeClaims a claims = .ok ctx) :
    ctx.authType = .jwt ∧ ctx.roles = claims.roles ∧
      (ctx.allowedTenants = [] ∨ ctx.allowedTenants = tenantsFromClaims claims) := by
  unfold authorizeClaims at h
  simp only at h
  split at h
  · cases h
  · split at h
    · split at h
      · cases h
      · next t ts hts =>
        cases h
        exact ⟨rfl,rfl,.inr hts.symm⟩
    · cases h
      exact ⟨rfl,rfl,.inl rfl⟩

theorem chain_ok_iff (hctx : adminMiddleware env r = .ok ctx) (hjwt : ctx.authType = .jwt) :
    (∃ ctx', chain env r = .ok ctx') ↔ adminTenantIsolationMiddleware ctx r = .ok () := by
  have hscope : adminScopeMiddleware ctx r = .ok () := by simp [adminScopeMiddleware,hjwt]
  unfold chain
  simp only [hctx,hscope]
  constructor
  · rintro ⟨ctx',h⟩
    split at h
    · cases h
    · assumption
  · intro h
    exact ⟨ctx,by rw [h]⟩

theorem tenantScoped_ok_iff (role : String) (hpath : r.pathTenantID ≠ "") :
    tenantScoped role ctx r = .ok () ↔ r.pathTenantID ∈ ctx.allowedTenants := by
  unfold tenantScoped
  by_cases hempty : ctx.allowedTenants = []
  · simp [hempty]
  · by_cases hmem : r.pathTenantID ∈ ctx.allowedTenants <;> simp [hempty,hpath,hmem]

theorem userScoped_ok_iff (hpath : r.pathTenantID ≠ "") :
    userScoped ctx r = .ok () ↔ r.pathTenantID ∈ ctx.allowedTenants ∧ isWriteMethod r.method = false := by
  rw [← tenantScoped_ok_iff "user" hpath]
  unfold userScoped
  cases tenantScoped "user" ctx r with
  | error d => simp
  | ok _ => cases hwrite : isWriteMethod r.method <;> simp [hpath]

theorem isolation_unnamed (hjwt : ctx.authType = .jwt) (h : namedRole ctx.roles = false) :
    adminTenantIsolationMiddleware ctx r = .ok () := by
  have hnot : ¬namedRole ctx.roles = true := by simp [h]
  rw [namedRole_iff,not_or,not_or] at hnot
  simp [adminTenantIsolationMiddleware,hjwt,hnot.1,hnot.2.1,hnot.2.2]

theorem isolation_named (hjwt : ctx.authType = .jwt) (hpath : r.pathTenantID ≠ "")
    (h : namedRole ctx.roles = true) (hok : adminTenantIsolationMiddleware ctx r = .ok ()) :
    hasAnyRole ctx.roles adminBypassRoles = true ∨
      (r.pathTenantID ∈ ctx.allowedTenants ∧
        (isWriteMethod r.method = true → hasAnyRole ctx.roles ["local_admin"] = true)) := by
  unfold adminTenantIsolationMiddleware at hok
  simp only [hjwt,reduceCtorEq,if_false] at hok
  split_ifs at hok with hadmin hplatform hlocal huser
  · exact .inl hadmin
  · exact .inr ⟨(tenantScoped_ok_iff _ hpath).mp hok,fun _ => hlocal⟩
  · obtain ⟨hmem,hread⟩ := (userScoped_ok_iff hpath).mp hok
    exact .inr ⟨hmem,fun hwrite => by simp [hread] at hwrite⟩
  all_goals
    rw [namedRole_iff] at h
    rcases h with h | h | h
    · exact absurd h hadmin
    · exact absurd h hlocal
    · exact absurd h huser

theorem jwt_isolated_iff (hpresents : Presents env r a claims)
    (haccepted : adminMiddleware env r = .ok ctx) (hpath : r.pathTenantID ≠ "") :
    Isolated env r claims ↔ namedRole claims.roles = true ∨
      (r.pathTenantID ∈ tenantsFromClaims claims ∧ isWriteMethod r.method = false) := by
  have hclaims : authorizeClaims a claims = .ok ctx := by rw [← hpresents.adminMiddleware,haccepted]
  obtain ⟨hjwt,hroles,htenants⟩ := authorizeClaims_ok hclaims
  unfold Isolated
  rw [chain_ok_iff haccepted hjwt]
  constructor
  · intro hisolated
    by_cases hnamed : namedRole claims.roles = true
    · exact .inl hnamed
    · rw [Bool.not_eq_true] at hnamed
      obtain ⟨htenant,hwrite⟩ := hisolated (isolation_unnamed hjwt (hroles ▸ hnamed))
      have hnone : ¬namedRole claims.roles = true := by simp [hnamed]
      rw [namedRole_iff,not_or,not_or] at hnone
      refine .inr ⟨htenant.resolve_left hnone.1,?_⟩
      by_contra hmutates
      exact hnone.2.1 (hwrite (by simpa using hnone.1) (by simpa using hmutates))
  · rintro (hnamed | ⟨htenant,hread⟩) hok
    · rcases isolation_named hjwt hpath (hroles ▸ hnamed) hok with hadmin | ⟨hmem,hwrite⟩
      · rw [hroles] at hadmin
        exact ⟨.inl hadmin,fun hnot => by simp [hadmin] at hnot⟩
      · rw [hroles] at hwrite
        refine ⟨.inr ?_,fun _ => hwrite⟩
        rcases htenants with hnone | hall
        · simp [hnone] at hmem
        · exact hall ▸ hmem
    · exact ⟨.inr htenant,fun _ hwrite => by simp [hread] at hwrite⟩

def auditedGateway (claims : Claims) : Surroundings where
  expectedToken := "token"
  auth := .ok (some ⟨"jwt",["admin","audit"],[]⟩)
  validateTokenForAdmin := fun token => if token = "signed" then .ok claims else .error "invalid token"
  handleAPIKeyAuthForAdmin := fun _ => .error ⟨401,"invalid api key","authentication_error"⟩

def signedRequest (method : String) : HttpRequest where
  method := method
  path := "/admin/tenants/globex/config"
  pathTenantID := "globex"
  header := fun name => if name = "Authorization" then "Bearer signed" else ""

def localAdmin : Claims := ⟨"lee","",["acme"],["local_admin"]⟩

def auditor : Claims := ⟨"kim","",["acme"],["audit"]⟩

theorem signed_presents (method : String) (claims : Claims) :
    Presents (auditedGateway claims) (signedRequest method) ⟨"jwt",["admin","audit"],[]⟩ claims where
  no_token := by simp [signedRequest]
  auth := rfl
  mode := .inl rfl
  valid := ⟨"signed",show bearerToken (signedRequest "GET") = some "signed" by decide,rfl⟩

theorem local_admin_isolated : Isolated (auditedGateway localAdmin) (signedRequest "PATCH") localAdmin :=
  (jwt_isolated_iff (signed_presents "PATCH" localAdmin) rfl (by decide)).mpr (.inl (by decide))

theorem auditor_not_isolated :
    adminMiddleware (auditedGateway auditor) (signedRequest "PATCH") =
        .ok { authType := .jwt, sub := "kim", roles := ["audit"] } ∧
      ¬Isolated (auditedGateway auditor) (signedRequest "PATCH") auditor := by
  refine ⟨by decide,?_⟩
  intro h
  obtain ⟨htenant,-⟩ := h ⟨{ authType := .jwt, sub := "kim", roles := ["audit"] },by decide⟩
  revert htenant
  decide

end PrismGateway.Admin.Isolation
