import PrismGateway.Auth.Middleware
import PrismGateway.Auth.ValidatorCache

namespace PrismGateway.Auth

open Lib Admin.Isolation

def Stored.map {α β : Type} (f : α → β) : Stored α → Stored β
  | .failed => .failed
  | .absent => .absent
  | .malformed => .malformed
  | .present a => .present (f a)

namespace Jwt

structure AuthSettings where
  mode : AuthMode
  jwt : JWTConfig

def AuthSettings.short (a : AuthSettings) : AuthConfig where
  mode := a.mode
  jwt := ⟨a.jwt.issuer,a.jwt.issuerPublic,a.jwt.audience,a.jwt.jwksURL⟩

/-- A replica whose bearer tokens are judged by the validators of its cache. The authentication fields
of `base` are not read: the settings stand for them, with every field of `auth.jwt`. -/
structure Replica where
  base : Gate
  auth : AuthSettings
  cachedGlobal : Option (Option AuthSettings)
  storedGlobal : Stored (Option AuthSettings)
  validators : World
  env : Env
  now : Int

inductive Resolved where
  | ready (v : JWTValidator)
  | notEnabled
  | failed
  | nilAuth

namespace Replica

variable (p : Replica)

def resolveGlobalAuth : Except String (Option AuthSettings) :=
  match p.cachedGlobal with
  | some auth => .ok auth
  | none =>
    if p.base.dynamicConfig then
      match p.storedGlobal with
      | .present auth => .ok auth
      | .malformed => .error "unmarshal global config"
      | _ => .ok (some p.auth)
    else .ok (some p.auth)

def resolveInferenceJWTValidator : Resolved :=
  match p.resolveGlobalAuth with
  | .error _ => .failed
  | .ok none => .nilAuth
  | .ok (some auth) =>
    if auth.mode ≠ .jwt ∧ auth.mode ≠ .both then .notEnabled
    else if GoStrings.trimSpace auth.jwt.jwksURL = "" then .failed
    else .ready (p.validators.GetOrCreate auth.jwt).1

def outcomeAnswer : Outcome → Answer
  | .rejected _ => unauthorized "invalid token"
  | .crashed => .crashed
  | .accepted claims => p.base.claimsAnswer
      ⟨claims.subject,claims.tenantID,claims.tenants,claims.roles⟩

def handleJWTAuth (r : HttpRequest) : Answer :=
  match bearerToken r with
  | none => unauthorized "missing or invalid Authorization header"
  | some token => match p.resolveInferenceJWTValidator with
    | .notEnabled => unauthorized "invalid credentials"
    | .failed => internalError "internal error"
    | .nilAuth => .crashed
    | .ready v => p.outcomeAnswer (v.validate p.env false p.now token).1

end Replica

section Checks

variable {env : Env} {v : JWTValidator} {now : Int} {token : String} {claims : MapClaims}

def Verified (env : Env) (v : JWTValidator) (now : Int) (token : String) (claims : MapClaims) : Prop :=
  (v.parseWithClaims env now token).1 = .ok claims

structure Trusted (v : JWTValidator) (claims : MapClaims) : Prop where
  issuer : ∃ iss, claims.issuer = .ok iss ∧
    (iss = v.issuer ∨ v.issuerPublic ≠ "" ∧ iss = v.issuerPublic)
  audience : ∃ aud, claims.audience = .ok aud ∧ v.audience ∈ aud

structure Complete (v : JWTValidator) (forAdmin : Bool) (claims : MapClaims) : Prop where
  subject : ∃ sub, claims.subject = .ok sub
  tenant : forAdmin = false → JWTValidator.tenantOf claims (v.claimKey "tenant_id") ≠ ""

theorem check_of_trusted (h : Trusted v claims) : ∃ iss aud, ∀ custom,
    v.check now claims custom = match claims.expirationTime with
      | .error err => .rejected ("invalid exp claim: " ++ err)
      | .ok none => .crashed
      | .ok (some exp) =>
        if now + v.clockSkew > exp then .rejected "token expired"
        else match claims.subject with
          | .error err => .rejected ("invalid sub claim: " ++ err)
          | .ok sub => custom claims
              { subject := sub, issuer := iss, audience := aud, expiresAt := exp } := by
  obtain ⟨iss,hiss,hvalid⟩ := h.issuer
  obtain ⟨aud,haud,hmem⟩ := h.audience
  refine ⟨iss,aud,fun custom => ?_⟩
  have hissuer : ¬(iss ≠ v.issuer ∧ ¬(v.issuerPublic ≠ "" ∧ iss = v.issuerPublic)) := by
    rintro ⟨hprimary,hpublic⟩
    exact hvalid.elim hprimary hpublic
  unfold JWTValidator.check
  rw [hiss,haud]
  exact (if_neg hissuer).trans (if_neg (not_not.mpr hmem))

theorem check_of_not_trusted (h : ¬Trusted v claims) : ∃ err, ∀ custom,
    v.check now claims custom = .rejected err := by
  unfold JWTValidator.check
  cases hiss : claims.issuer with
  | error err => exact ⟨_,fun _ => rfl⟩
  | ok iss =>
    simp only
    by_cases hvalid : iss ≠ v.issuer ∧ ¬(v.issuerPublic ≠ "" ∧ iss = v.issuerPublic)
    · simp only [if_pos hvalid]
      exact ⟨_,fun _ => rfl⟩
    · simp only [if_neg hvalid]
      cases haud : claims.audience with
      | error err => exact ⟨_,fun _ => rfl⟩
      | ok aud =>
        simp only
        by_cases hmem : v.audience ∈ aud
        · refine absurd ⟨⟨iss,hiss,?_⟩,⟨aud,haud,hmem⟩⟩ h
          by_contra hnone
          exact hvalid ⟨fun he => hnone (.inl he),fun he => hnone (.inr he)⟩
        · simp only [if_pos hmem]
          exact ⟨_,fun _ => rfl⟩

def customOf (v : JWTValidator) (forAdmin : Bool) : MapClaims → Claims → Outcome :=
  if forAdmin then v.adminClaims else v.tenantClaims

theorem customOf_cases (v : JWTValidator) (forAdmin : Bool) (claims : MapClaims) (base : Claims) :
    (∃ err, customOf v forAdmin claims base = .rejected err ∧ forAdmin = false ∧
        JWTValidator.tenantOf claims (v.claimKey "tenant_id") = "") ∨
      ∃ out, customOf v forAdmin claims base = .accepted out ∧ out.expiresAt = base.expiresAt ∧
        (forAdmin = false → JWTValidator.tenantOf claims (v.claimKey "tenant_id") ≠ "") := by
  cases forAdmin with
  | true => exact .inr ⟨_,rfl,rfl,nofun⟩
  | false =>
    by_cases htenant : JWTValidator.tenantOf claims (v.claimKey "tenant_id") = ""
    · exact .inl ⟨_,if_pos htenant,rfl,htenant⟩
    · exact .inr ⟨_,if_neg htenant,rfl,fun _ => htenant⟩

theorem validate_of_verified (forAdmin : Bool) (h : Verified env v now token claims) :
    (v.validate env forAdmin now token).1 = v.check now claims (customOf v forAdmin) := by
  change v.judge forAdmin now (v.parseWithClaims env now token).1 = _
  rw [h]
  rfl

theorem validate_of_not_verified (forAdmin : Bool) (h : ∀ claims, ¬Verified env v now token claims) :
    ∃ err, (v.validate env forAdmin now token).1 = .rejected err := by
  cases hparsed : (v.parseWithClaims env now token).1 with
  | ok claims => exact absurd hparsed (h claims)
  | error err =>
    refine ⟨"invalid token: " ++ err,?_⟩
    change v.judge forAdmin now (v.parseWithClaims env now token).1 = _
    rw [hparsed]
    rfl

structure Dated (env : Env) (v : JWTValidator) (now : Int) (token : String) (claims : MapClaims)
    (exp : Int) : Prop where
  verified : Verified env v now token claims
  trusted : Trusted v claims
  expires : claims.expirationTime = .ok (some exp)

structure Dateless (env : Env) (v : JWTValidator) (now : Int) (token : String) (claims : MapClaims) :
    Prop where
  verified : Verified env v now token claims
  trusted : Trusted v claims
  expires : claims.expirationTime = .ok none

inductive Verdict (env : Env) (v : JWTValidator) (forAdmin : Bool) (now : Int) (token : String) :
    Outcome → Prop
  | crashed (claims : MapClaims) (h : Dateless env v now token claims) :
      Verdict env v forAdmin now token .crashed
  | accepted (claims : MapClaims) (out : Claims) (h : Dated env v now token claims out.expiresAt)
      (hcomplete : Complete v forAdmin claims) (htime : now + v.clockSkew ≤ out.expiresAt) :
      Verdict env v forAdmin now token (.accepted out)
  | rejected (err : String) (hdated : ∀ claims, ¬Dateless env v now token claims)
      (h : ∀ claims exp, Dated env v now token claims exp → Complete v forAdmin claims →
        exp < now + v.clockSkew) : Verdict env v forAdmin now token (.rejected err)

theorem Verified.unique {claims' : MapClaims} (h : Verified env v now token claims)
    (h' : Verified env v now token claims') : claims = claims' := by
  unfold Verified at h h'
  rw [h] at h'
  exact Except.ok.inj h'

theorem verdict_of_verified (forAdmin : Bool) (h : Verified env v now token claims) :
    Verdict env v forAdmin now token (v.validate env forAdmin now token).1 := by
  rw [validate_of_verified forAdmin h]
  by_cases htrusted : Trusted v claims
  · obtain ⟨iss,aud,hcheck⟩ := @check_of_trusted v now claims htrusted
    rw [hcheck]
    cases hexp : claims.expirationTime with
    | error err =>
      refine .rejected _ (fun claims' h' => ?_) fun claims' exp h' _ => ?_
      all_goals
        have hexp' := h'.expires
        rw [← h.unique h'.verified,hexp] at hexp'
        cases hexp'
    | ok exp =>
      cases exp with
      | none => exact .crashed claims ⟨h,htrusted,hexp⟩
      | some exp =>
        have hdated (claims' : MapClaims) : ¬Dateless env v now token claims' := by
          intro h'
          have hexp' := h'.expires
          rw [← h.unique h'.verified,hexp] at hexp'
          cases hexp'
        dsimp only
        split
        · next hlate =>
          refine .rejected _ hdated fun claims' exp' h' _ => ?_
          have hexp' := h'.expires
          rw [← h.unique h'.verified,hexp] at hexp'
          cases hexp'
          exact hlate
        · next htime =>
          cases hsub : claims.subject with
          | error err =>
            refine .rejected _ hdated fun claims' exp' h' hcomplete => ?_
            obtain ⟨sub,hsub'⟩ := hcomplete.subject
            rw [← h.unique h'.verified,hsub] at hsub'
            cases hsub'
          | ok sub =>
            dsimp only
            rcases customOf_cases v forAdmin claims ⟨"",[],[],sub,iss,aud,exp⟩ with
              ⟨err,hcustom,hinference,htenant⟩ | ⟨out,hcustom,hout,htenant⟩
            · rw [hcustom]
              refine .rejected _ hdated fun claims' exp' h' hcomplete => ?_
              rw [← h.unique h'.verified] at hcomplete
              exact absurd htenant (hcomplete.tenant hinference)
            · rw [hcustom]
              refine .accepted claims out ⟨h,htrusted,?_⟩ ⟨⟨sub,hsub⟩,htenant⟩ ?_
              · rw [hout]
                exact hexp
              · rw [hout]
                exact not_lt.mp htime
  · obtain ⟨err,hcheck⟩ := @check_of_not_trusted v now claims htrusted
    rw [hcheck]
    refine .rejected _ (fun claims' h' => ?_) fun claims' exp h' _ => ?_
    all_goals
      rw [h.unique h'.verified] at htrusted
      exact absurd h'.trusted htrusted

theorem verdict (env : Env) (v : JWTValidator) (forAdmin : Bool) (now : Int) (token : String) :
    Verdict env v forAdmin now token (v.validate env forAdmin now token).1 := by
  by_cases hverified : ∃ claims, Verified env v now token claims
  · obtain ⟨claims,h⟩ := hverified
    exact verdict_of_verified forAdmin h
  · obtain ⟨err,hrejected⟩ := validate_of_not_verified forAdmin (not_exists.mp hverified)
    rw [hrejected]
    exact .rejected err (fun claims h => hverified ⟨claims,h.verified⟩)
      fun claims _ h _ => absurd ⟨claims,h.verified⟩ hverified

theorem crashed_iff {forAdmin : Bool} : (v.validate env forAdmin now token).1 = .crashed ↔
    ∃ claims, Dateless env v now token claims := by
  have h := verdict env v forAdmin now token
  constructor
  · intro hcrashed
    rw [hcrashed] at h
    cases h with
    | crashed claims h => exact ⟨claims,h⟩
  · rintro ⟨claims,hclaims⟩
    cases hout : (v.validate env forAdmin now token).1 with
    | crashed => rfl
    | accepted out =>
      rw [hout] at h
      cases h with
      | accepted claims' out h =>
        have hexp := h.expires
        rw [h.verified.unique hclaims.verified,hclaims.expires] at hexp
        cases hexp
    | rejected err =>
      rw [hout] at h
      cases h with
      | rejected err hdated => exact absurd hclaims (hdated claims)

theorem accepted_cases {forAdmin : Bool} {out : Claims}
    (hout : (v.validate env forAdmin now token).1 = .accepted out) :
    now + v.clockSkew ≤ out.expiresAt ∧ ∃ claims, Dated env v now token claims out.expiresAt ∧
      Complete v forAdmin claims := by
  have h := verdict env v forAdmin now token
  rw [hout] at h
  cases h with
  | accepted claims out h hcomplete htime => exact ⟨htime,claims,h,hcomplete⟩

theorem accepted_of_dated {forAdmin : Bool} {exp : Int} (h : Dated env v now token claims exp)
    (hcomplete : Complete v forAdmin claims) (htime : now + v.clockSkew ≤ exp) :
    ∃ out, (v.validate env forAdmin now token).1 = .accepted out := by
  have hverdict := verdict env v forAdmin now token
  cases hout : (v.validate env forAdmin now token).1 with
  | accepted out => exact ⟨out,rfl⟩
  | crashed =>
    obtain ⟨claims',h'⟩ := crashed_iff.mp hout
    have hexp := h.expires
    rw [h.verified.unique h'.verified,h'.expires] at hexp
    cases hexp
  | rejected err =>
    rw [hout] at hverdict
    cases hverdict with
    | rejected err hdated hlate => exact absurd htime (not_le.mpr (hlate claims exp h hcomplete))

end Checks

namespace Replica

variable (p : Replica)

structure Sound (r : HttpRequest) (v : JWTValidator) (token : String) : Prop where
  handled : p.handleJWTAuth r ≠ .crashed
  validated : ∀ forAdmin, (v.validate p.env forAdmin p.now token).1 ≠ .crashed
  expires : ∀ forAdmin out, (v.validate p.env forAdmin p.now token).1 = .accepted out →
    ∃ claims, Verified p.env v p.now token claims ∧ claims.expirationTime = .ok (some out.expiresAt)
  inTime : ∀ forAdmin claims exp, Dated p.env v p.now token claims exp → Complete v forAdmin claims →
    p.now ≤ exp → ∃ out, (v.validate p.env forAdmin p.now token).1 = .accepted out
  tolerant : ∀ forAdmin skew out, 0 ≤ skew → skew ≤ v.clockSkew →
    ({ v with clockSkew := skew }.validate p.env forAdmin p.now token).1 = .accepted out →
      ∃ out, (v.validate p.env forAdmin p.now token).1 = .accepted out

structure Plain (r : HttpRequest) (v : JWTValidator) (token : String) : Prop where
  configured : ∀ sent, bearerToken r = some sent → p.resolveGlobalAuth ≠ .ok none
  sent : ∀ sent u, bearerToken r = some sent → p.resolveInferenceJWTValidator = .ready u →
    ∀ claims, ¬Dateless p.env u p.now sent claims
  dated : ∀ claims, ¬Dateless p.env v p.now token claims
  early : ∀ claims exp, Dated p.env v p.now token claims exp → Complete v true claims →
    p.now ≤ exp → p.now + v.clockSkew ≤ exp

theorem resolve_nilAuth_iff : p.resolveInferenceJWTValidator = .nilAuth ↔ p.resolveGlobalAuth = .ok none := by
  unfold resolveInferenceJWTValidator
  cases p.resolveGlobalAuth with
  | error err => simp
  | ok auth =>
    cases auth with
    | none => simp
    | some auth =>
      simp only
      split_ifs <;> simp

theorem claimsAnswer_ne_crashed (g : Gate) (claims : Admin.Isolation.Claims) :
    g.claimsAnswer claims ≠ .crashed := by
  unfold Gate.claimsAnswer
  cases g.resolveTenantConfig claims.tenantID with
  | error err => exact nofun
  | ok tenant => cases tenant <;> exact nofun

theorem outcomeAnswer_crashed_iff (o : Outcome) : p.outcomeAnswer o = .crashed ↔ o = .crashed := by
  cases o with
  | crashed => exact ⟨fun _ => rfl,fun _ => rfl⟩
  | rejected err => exact ⟨nofun,nofun⟩
  | accepted claims => exact ⟨fun h => absurd h (claimsAnswer_ne_crashed p.base _),nofun⟩

theorem handleJWTAuth_crashed_iff (r : HttpRequest) : p.handleJWTAuth r = .crashed ↔
    ∃ sent, bearerToken r = some sent ∧ (p.resolveGlobalAuth = .ok none ∨
      ∃ u claims, p.resolveInferenceJWTValidator = .ready u ∧ Dateless p.env u p.now sent claims) := by
  unfold handleJWTAuth
  cases bearerToken r with
  | none => exact ⟨nofun,nofun⟩
  | some sent =>
    simp only [Option.some.injEq,exists_eq_left',← resolve_nilAuth_iff]
    cases hresolved : p.resolveInferenceJWTValidator with
    | ready u =>
      simp only [outcomeAnswer_crashed_iff,crashed_iff]
      constructor
      · rintro ⟨claims,h⟩
        exact .inr ⟨u,claims,rfl,h⟩
      · rintro (h | ⟨u',claims,h,hclaims⟩)
        · cases h
        · cases h
          exact ⟨claims,hclaims⟩
    | notEnabled => exact ⟨nofun,by rintro (h | ⟨_,_,h,-⟩) <;> cases h⟩
    | failed => exact ⟨nofun,by rintro (h | ⟨_,_,h,-⟩) <;> cases h⟩
    | nilAuth => exact ⟨fun _ => .inl rfl,fun _ => rfl⟩

def gate : Gate :=
  { p.base with
    auth := p.auth.short
    cachedGlobal := p.cachedGlobal.map (Option.map AuthSettings.short)
    storedGlobal := p.storedGlobal.map (Option.map AuthSettings.short)
    validateToken := fun _ token =>
      match p.resolveInferenceJWTValidator with
      | .ready v => match (v.validate p.env false p.now token).1 with
        | .accepted claims => some ⟨claims.subject,claims.tenantID,claims.tenants,claims.roles⟩
        | _ => none
      | _ => none }

theorem gate_resolveGlobalAuth :
    p.gate.resolveGlobalAuth = p.resolveGlobalAuth.map (Option.map AuthSettings.short) := by
  unfold Gate.resolveGlobalAuth resolveGlobalAuth gate
  cases p.cachedGlobal with
  | some auth => rfl
  | none =>
    simp only [Option.map_none]
    cases p.base.dynamicConfig with
    | false => rfl
    | true => cases p.storedGlobal <;> rfl

theorem handleJWTAuth_eq_gate (r : HttpRequest) :
    p.handleJWTAuth r = .crashed ∨ p.handleJWTAuth r = p.gate.handleJWTAuth r := by
  unfold handleJWTAuth Gate.handleJWTAuth
  cases bearerToken r with
  | none => exact .inr rfl
  | some token =>
    unfold Gate.tokenAnswer
    have hresolve : p.resolveInferenceJWTValidator = _ := resolveInferenceJWTValidator.eq_1 p
    have hgate : p.gate.resolveInferenceJWTValidator = _ :=
      Gate.resolveInferenceJWTValidator.eq_1 p.gate
    rw [gate_resolveGlobalAuth] at hgate
    cases hglobal : p.resolveGlobalAuth with
    | error err =>
      rw [hglobal] at hresolve hgate
      rw [hresolve,hgate]
      exact .inr rfl
    | ok auth =>
      cases auth with
      | none =>
        rw [hglobal] at hresolve
        rw [hresolve]
        exact .inl rfl
      | some auth =>
        rw [hglobal] at hresolve hgate
        simp only at hresolve
        change _ = if auth.mode ≠ .jwt ∧ auth.mode ≠ .both then _
          else if GoStrings.trimSpace auth.jwt.jwksURL = "" then _ else _ at hgate
        by_cases hmode : auth.mode ≠ .jwt ∧ auth.mode ≠ .both
        · rw [if_pos hmode] at hresolve hgate
          rw [hresolve,hgate]
          exact .inr rfl
        rw [if_neg hmode] at hresolve hgate
        by_cases hurl : GoStrings.trimSpace auth.jwt.jwksURL = ""
        · rw [if_pos hurl] at hresolve hgate
          rw [hresolve,hgate]
          exact .inr rfl
        rw [if_neg hurl] at hresolve hgate
        rw [hgate]
        simp only [hresolve,gate]
        cases (((p.validators.GetOrCreate auth.jwt).1).validate p.env false p.now token).1 with
        | crashed => exact .inl rfl
        | rejected err => exact .inr rfl
        | accepted claims => exact .inr rfl

theorem sound_iff (r : HttpRequest) (v : JWTValidator) (token : String) :
    p.Sound r v token ↔ p.Plain r v token := by
  constructor
  · intro h
    refine ⟨?_,?_,?_,?_⟩
    · intro sent hsent hnone
      exact h.handled ((p.handleJWTAuth_crashed_iff r).mpr ⟨sent,hsent,.inl hnone⟩)
    · intro sent u hsent hu claims hclaims
      exact h.handled ((p.handleJWTAuth_crashed_iff r).mpr ⟨sent,hsent,.inr ⟨u,claims,hu,hclaims⟩⟩)
    · intro claims hclaims
      exact h.validated true (crashed_iff.mpr ⟨claims,hclaims⟩)
    · intro claims exp hdated hcomplete htime
      obtain ⟨out,hout⟩ := h.inTime true claims exp hdated hcomplete htime
      obtain ⟨hlate,claims',hdated',-⟩ := accepted_cases hout
      have hexp := hdated.expires
      rw [hdated.verified.unique hdated'.verified,hdated'.expires] at hexp
      cases hexp
      exact hlate
  · intro h
    have hinTime : ∀ forAdmin claims exp, Dated p.env v p.now token claims exp →
        Complete v forAdmin claims → p.now ≤ exp →
          ∃ out, (v.validate p.env forAdmin p.now token).1 = .accepted out := by
      intro forAdmin claims exp hdated hcomplete htime
      exact accepted_of_dated hdated hcomplete
        (h.early claims exp hdated ⟨hcomplete.subject,nofun⟩ htime)
    refine ⟨?_,?_,?_,hinTime,?_⟩
    · intro hcrashed
      obtain ⟨sent,hsent,hnone | ⟨u,claims,hu,hclaims⟩⟩ := (p.handleJWTAuth_crashed_iff r).mp hcrashed
      · exact h.configured sent hsent hnone
      · exact h.sent sent u hsent hu claims hclaims
    · intro forAdmin hcrashed
      obtain ⟨claims,hclaims⟩ := crashed_iff.mp hcrashed
      exact h.dated claims hclaims
    · intro forAdmin out hout
      obtain ⟨-,claims,hdated,-⟩ := accepted_cases hout
      exact ⟨claims,hdated.verified,hdated.expires⟩
    · intro forAdmin skew out hskew hle hout
      obtain ⟨htime,claims,hdated,hcomplete⟩ := accepted_cases hout
      have htrusted : Trusted v claims := ⟨hdated.trusted.issuer,hdated.trusted.audience⟩
      refine hinTime forAdmin claims out.expiresAt ⟨hdated.verified,htrusted,hdated.expires⟩
        ⟨hcomplete.subject,hcomplete.tenant⟩ ?_
      change p.now + skew ≤ out.expiresAt at htime
      omega

end Replica

section Concrete

def expiryEnv (exp : Option Int) : Env where
  header := oneKeyEnv.header
  unverifiable := oneKeyEnv.unverifiable
  verify token key now := (oneKeyEnv.verify token key now).map
    (fun claims => { claims with expirationTime := .ok exp })
  fetch := oneKeyEnv.fetch

/-- A replica with the stored settings `auth`, that judges a token which ends with its 2000000000th
second. -/
def expiryReplica (auth : Option AuthSettings) (exp : Option Int) (now : Int) : Replica where
  base := {
    auth := { mode := .jwt }
    tenants := []
    dynamicConfig := true
    cachedTenant _ := none
    storedTenant _ := .absent
    cachedGlobal := none
    storedGlobal := .absent
    lookupFails := false
    hashAPIKey := id
    validateToken _ _ := none }
  auth := ⟨.jwt,namedConfig "org"⟩
  cachedGlobal := none
  storedGlobal := .present auth
  validators := {}
  env := expiryEnv exp
  now := now

def bearerRequest : HttpRequest where
  method := "POST"
  path := "/v1/chat/completions"
  pathTenantID := ""
  header name := if name = "Authorization" then "Bearer org" else ""

theorem crashes_and_early_refusal :
    (expiryReplica none (some 2000000000000000000) 0).handleJWTAuth bearerRequest = .crashed ∧
      (∀ forAdmin, ((NewJWTValidator 0 (namedConfig "org")).validate (expiryEnv none) forAdmin 0
        "org").1 = .crashed) ∧
      (∀ forAdmin, ((NewJWTValidator 0 (namedConfig "org")).validate
        (expiryEnv (some 2000000000000000000)) forAdmin 1999999990000000000 "org").1 =
          .rejected "token expired") ∧
      ¬∀ (p : Replica) (r : HttpRequest) (v : JWTValidator) (token : String), p.Sound r v token := by
  have hblock : (expiryReplica none (some 2000000000000000000) 0).handleJWTAuth bearerRequest =
      .crashed := by decide
  refine ⟨hblock,by decide,by decide,fun h => ?_⟩
  exact (h _ bearerRequest (NewJWTValidator 0 (namedConfig "org")) "org").handled hblock

end Concrete

end Jwt

end PrismGateway.Auth
