import PrismGateway.Lib.GoMap
import PrismGateway.Lib.GoStrings
import PrismGateway.Lib.Json
import PrismGateway.Lib.Run
import Mathlib.Data.String.Basic
import Mathlib.Logic.Function.Basic

namespace PrismGateway.Auth.Jwt

open Lib

structure JWTConfig where
  issuer : String
  issuerPublic : String
  audience : String
  jwksURL : String
  clockSkewSeconds : Int
  requiredClaims : { l : List (String × String) // GoMap.Sorted l }
  cacheTTLMinutes : Int
  deriving DecidableEq

structure PublicKey where
  n : ℕ
  e : Int
  deriving DecidableEq

structure JwksKey where
  kid : String
  kty : String
  n : String
  e : String

structure Header where
  rsa : Bool
  alg : String
  kid : Option String

structure MapClaims where
  issuer : Except String String
  audience : Except String (List String)
  expirationTime : Except String (Option Int)
  subject : Except String String
  values : List (String × Json)

/-- The JWT library and the JWKS endpoints. Times are nanoseconds. `unverifiable` is the text that the
library puts around an error of the key function. -/
structure Env where
  header : String → Except String Header
  unverifiable : String → String
  verify : String → PublicKey → Int → Except String MapClaims
  fetch : String → Int → Except String (List JwksKey)

structure Claims where
  tenantID : String := ""
  tenants : List String := []
  roles : List String := []
  subject : String
  issuer : String
  audience : List String
  expiresAt : Int
  deriving DecidableEq

inductive Outcome where
  | accepted (claims : Claims)
  | rejected (err : String)
  | crashed
  deriving DecidableEq

section Keys

def sextet (c : Char) : Option ℕ :=
  if 'A' ≤ c ∧ c ≤ 'Z' then some (c.toNat - 'A'.toNat)
  else if 'a' ≤ c ∧ c ≤ 'z' then some (c.toNat - 'a'.toNat + 26)
  else if '0' ≤ c ∧ c ≤ '9' then some (c.toNat - '0'.toNat + 52)
  else if c = '-' then some 62
  else if c = '_' then some 63
  else none

def quanta : List ℕ → Option (List ℕ)
  | [] => some []
  | [_] => none
  | [a,b] => some [(a * 64 + b) / 16]
  | [a,b,c] => some [(a * 4096 + b * 64 + c) / 1024,(a * 4096 + b * 64 + c) / 4 % 256]
  | a :: b :: c :: d :: rest =>
    let v := a * 262144 + b * 4096 + c * 64 + d
    (quanta rest).map (fun bytes => v / 65536 :: v / 256 % 256 :: v % 256 :: bytes)

def decodeRawURL (s : String) : Option (List ℕ) :=
  ((s.toList.filter (fun c => c ≠ '\r' && c ≠ '\n')).mapM sextet).bind quanta

def setBytes (bytes : List ℕ) : ℕ := bytes.foldl (fun v b => v * 256 + b) 0

def int64 (v : Int) : Int := v.bmod (2 ^ 64)

def parseRSAPublicKey (nStr eStr : String) : Option PublicKey :=
  (decodeRawURL nStr).bind fun n => (decodeRawURL eStr).map fun e => ⟨setBytes n,int64 (setBytes e)⟩

end Keys

structure JwksCache where
  keys : List (String × PublicKey)
  lastFetch : Int
  ttl : Int
  jwksURL : String

structure JWTValidator where
  address : ℕ
  issuer : String
  issuerPublic : String
  audience : String
  clockSkew : Int
  cache : JwksCache
  claimKeys : List (String × String)

def second : Int := 1000000000

def minute : Int := 60 * second

def NewJWTValidator (address : ℕ) (cfg : JWTConfig) : JWTValidator where
  address := address
  issuer := cfg.issuer
  issuerPublic := cfg.issuerPublic
  audience := cfg.audience
  clockSkew := int64 (cfg.clockSkewSeconds * second)
  cache := ⟨[],0,int64 (cfg.cacheTTLMinutes * minute),cfg.jwksURL⟩
  claimKeys := cfg.requiredClaims.1

namespace JwksCache

variable (env : Env) (c : JwksCache) (now : Int)

def newKeys (l : List JwksKey) : List (String × PublicKey) :=
  (l.reverse.filter (fun k => k.kty = "RSA")).filterMap
    (fun k => (parseRSAPublicKey k.n k.e).map (fun key => (k.kid,key)))

def refresh : Except String JwksCache :=
  (env.fetch c.jwksURL now).map (fun l => { c with keys := newKeys l, lastFetch := now })

def live (kid : String) : Option PublicKey :=
  if now - c.lastFetch < c.ttl then c.keys.lookup kid else none

def getKey (kid : String) : Except String PublicKey × JwksCache :=
  match c.live now kid with
  | some key => (.ok key,c)
  | none => match c.refresh env now with
    | .error err => (.error err,c)
    | .ok c' => match c'.keys.lookup kid with
      | some key => (.ok key,c')
      | none => (.error ("key " ++ kid ++ " not found in JWKS"),c')

end JwksCache

def splitAt (c : Char) : List Char → List (List Char)
  | [] => [[]]
  | x :: rest =>
    if x = c then [] :: splitAt c rest
    else match splitAt c rest with
      | [] => [[x]]
      | piece :: pieces => (x :: piece) :: pieces

def fields (l : List Char) : List (List Char) :=
  (splitAt ' ' (l.map (fun c => if GoStrings.isSpace c then ' ' else c))).filter (fun p => p ≠ [])

def normalizeRoles : Json → List String
  | .arr items => items.filterMap (fun j => match j with
    | .str s => some s
    | _ => none)
  | .str s =>
    if ',' ∈ s.toList then (splitAt ',' s.toList).map String.ofList
    else (fields s.toList).map String.ofList
  | _ => []

namespace JWTValidator

variable (env : Env) (v : JWTValidator)

def keyFunc (now : Int) (h : Header) : Except String PublicKey × JwksCache :=
  if h.rsa = false then (.error ("unexpected signing method: " ++ h.alg),v.cache)
  else match h.kid with
    | none => (.error "missing kid in token header",v.cache)
    | some kid =>
      let got := v.cache.getKey env now kid
      (got.1.mapError (fun err => "failed to get key: " ++ err),got.2)

def parseWithClaims (now : Int) (token : String) : Except String MapClaims × JwksCache :=
  match env.header token with
  | .error err => (.error err,v.cache)
  | .ok h =>
    let got := v.keyFunc env now h
    ((got.1.mapError env.unverifiable).bind (fun key => env.verify token key now),got.2)

def tenantOf (claims : MapClaims) (name : String) : String :=
  match claims.values.lookup name with
  | some (.str s) => s
  | _ => ""

def rolesOf (claims : MapClaims) (name : String) : List String :=
  ((claims.values.lookup name).map normalizeRoles).getD []

def claimKey (field : String) : String := (v.claimKeys.lookup field).getD ""

def tenantClaims (claims : MapClaims) (base : Claims) : Outcome :=
  let tenantID := tenantOf claims (v.claimKey "tenant_id")
  if tenantID = "" then .rejected ("missing or invalid " ++ v.claimKey "tenant_id" ++ " claim")
  else .accepted { base with tenantID := tenantID, roles := rolesOf claims (v.claimKey "roles") }

def adminClaims (claims : MapClaims) (base : Claims) : Outcome :=
  .accepted { base with
    tenantID := if v.claimKey "tenant_id" = "" then "" else tenantOf claims (v.claimKey "tenant_id")
    tenants := rolesOf claims "tenants"
    roles := if v.claimKey "roles" = "" then [] else rolesOf claims (v.claimKey "roles") }

def check (now : Int) (claims : MapClaims) (custom : MapClaims → Claims → Outcome) : Outcome :=
  match claims.issuer with
  | .error err => .rejected ("invalid issuer claim: " ++ err)
  | .ok iss =>
    if iss ≠ v.issuer ∧ ¬ (v.issuerPublic ≠ "" ∧ iss = v.issuerPublic) then
      .rejected ("invalid token issuer. Expected '" ++ v.issuer ++ "'" ++
        (if v.issuerPublic ≠ "" then " or '" ++ v.issuerPublic ++ "'" else "") ++ ", got '" ++ iss ++ "'")
    else match claims.audience with
      | .error err => .rejected ("invalid audience claim: " ++ err)
      | .ok aud =>
        if v.audience ∉ aud then .rejected ("invalid audience: expected " ++ v.audience)
        else match claims.expirationTime with
          | .error err => .rejected ("invalid exp claim: " ++ err)
          -- `exp.Time` of a nil `exp`
          | .ok none => .crashed
          | .ok (some exp) =>
            if now + v.clockSkew > exp then .rejected "token expired"
            else match claims.subject with
              | .error err => .rejected ("invalid sub claim: " ++ err)
              | .ok sub => custom claims
                  { subject := sub, issuer := iss, audience := aud, expiresAt := exp }

def judge (forAdmin : Bool) (now : Int) : Except String MapClaims → Outcome
  | .error err => .rejected ("invalid token: " ++ err)
  | .ok claims => v.check now claims (if forAdmin then v.adminClaims else v.tenantClaims)

def validate (forAdmin : Bool) (now : Int) (token : String) : Outcome × JwksCache :=
  let parsed := v.parseWithClaims env now token
  (v.judge forAdmin now parsed.1,parsed.2)

end JWTValidator

def JWTConfig.key (cfg : JWTConfig) : String := cfg.issuer ++ "|" ++ cfg.audience ++ "|" ++ cfg.jwksURL

/-- A token that is validated while `config` is the active configuration. -/
structure Request where
  config : JWTConfig
  forAdmin : Bool
  now : Int
  token : String

structure Answered where
  request : Request
  address : ℕ
  outcome : Outcome

structure World where
  m : String → Option JWTValidator := fun _ => none
  made : ℕ := 0
  answered : List Answered := []

namespace World

variable (w : World)

def GetOrCreate (cfg : JWTConfig) : JWTValidator × World :=
  match w.m cfg.key with
  | some v => (v,w)
  | none =>
    let v := NewJWTValidator w.made cfg
    (v,{ w with m := Function.update w.m cfg.key (some v), made := w.made + 1 })

end World

def step (env : Env) (w : World) (r : Request) : Option World :=
  let found := w.GetOrCreate r.config
  let answer := found.1.validate env r.forAdmin r.now r.token
  some { found.2 with
    m := Function.update found.2.m r.config.key (some { found.1 with cache := answer.2 })
    answered := w.answered ++ [⟨r,found.1.address,answer.1⟩] }

def Request.fresh (env : Env) (r : Request) : Outcome :=
  ((NewJWTValidator 0 r.config).validate env r.forAdmin r.now r.token).1

namespace World

structure Transparent (env : Env) (w : World) : Prop where
  fresh : ∀ a ∈ w.answered, a.outcome = a.request.fresh env
  unshared : ∀ a ∈ w.answered, ∀ b ∈ w.answered, a.address = b.address →
    a.request.config = b.request.config

end World

def KeysApart (rs : List Request) : Prop :=
  ∀ r ∈ rs, ∀ r' ∈ rs, r.config.key = r'.config.key → r.config = r'.config

instance (rs : List Request) : Decidable (KeysApart rs) :=
  inferInstanceAs (Decidable (∀ r ∈ rs, ∀ r' ∈ rs, _))

def World.requests (w : World) : List Request := w.answered.map Answered.request

def Current (env : Env) (w : World) (r : Request) : Prop :=
  ∀ v h kid key, w.m r.config.key = some v → env.header r.token = .ok h → h.kid = some kid →
    v.cache.live r.now kid = some key → ∃ c, v.cache.refresh env r.now = .ok c ∧
      c.keys.lookup kid = some key

section Keys

variable {env : Env} {c : JwksCache} {now : Int} {kid : String}

theorem getKey_eq_fresh
    (hcurrent : ∀ key, c.live now kid = some key → ∃ c', c.refresh env now = .ok c' ∧
      c'.keys.lookup kid = some key) :
    (c.getKey env now kid).1 = (JwksCache.getKey env ⟨[],0,c.ttl,c.jwksURL⟩ now kid).1 := by
  have hempty : (⟨[],0,c.ttl,c.jwksURL⟩ : JwksCache).live now kid = none := by
    unfold JwksCache.live
    split <;> rfl
  unfold JwksCache.getKey
  rw [hempty]
  unfold JwksCache.refresh at hcurrent ⊢
  cases hfetch : env.fetch c.jwksURL now with
  | error err =>
    cases hlive : c.live now kid with
    | none => rfl
    | some key =>
      obtain ⟨c',hc',-⟩ := hcurrent key hlive
      rw [hfetch] at hc'
      cases hc'
  | ok l =>
    cases hlive : c.live now kid with
    | none => simp only [Except.map]
    | some key =>
      obtain ⟨c',hc',hkey⟩ := hcurrent key hlive
      rw [hfetch] at hc'
      cases hc'
      simp only [Except.map,hkey]

theorem getKey_settings (c : JwksCache) :
    ∃ keys lastFetch, (c.getKey env now kid).2 = { c with keys := keys, lastFetch := lastFetch } := by
  unfold JwksCache.getKey JwksCache.refresh
  cases c.live now kid with
  | some key => exact ⟨_,_,rfl⟩
  | none =>
    cases env.fetch c.jwksURL now with
    | error err => exact ⟨_,_,rfl⟩
    | ok l =>
      simp only [Except.map]
      cases (JwksCache.newKeys l).lookup kid <;> exact ⟨_,_,rfl⟩

end Keys

def Built (v : JWTValidator) (cfg : JWTConfig) : Prop :=
  ∃ keys lastFetch, v = { NewJWTValidator v.address cfg with
    cache := ⟨keys,lastFetch,int64 (cfg.cacheTTLMinutes * minute),cfg.jwksURL⟩ }

section Validate

variable {env : Env} {v : JWTValidator} {cfg : JWTConfig} {now : Int} {token : String}

theorem validate_settings (forAdmin : Bool) :
    ∃ keys lastFetch, (v.validate env forAdmin now token).2 =
      { v.cache with keys := keys, lastFetch := lastFetch } := by
  change ∃ keys lastFetch, (v.parseWithClaims env now token).2 = _
  unfold JWTValidator.parseWithClaims
  cases env.header token with
  | error err => exact ⟨_,_,rfl⟩
  | ok h =>
    change ∃ keys lastFetch, (v.keyFunc env now h).2 = _
    unfold JWTValidator.keyFunc
    split
    · exact ⟨_,_,rfl⟩
    · cases h.kid with
      | none => exact ⟨_,_,rfl⟩
      | some kid => exact getKey_settings v.cache

theorem Built.validated (h : Built v cfg) (forAdmin : Bool) :
    Built { v with cache := (v.validate env forAdmin now token).2 } cfg := by
  obtain ⟨keys,lastFetch,hv⟩ := h
  obtain ⟨keys',lastFetch',hcache⟩ :=
    @validate_settings env v now token forAdmin
  refine ⟨keys',lastFetch',?_⟩
  rw [hcache,hv]
  rfl

theorem keyFunc_eq_fresh (h : Built v cfg) (address : ℕ) {header : Header}
    (hcurrent : ∀ kid key, header.kid = some kid → v.cache.live now kid = some key →
      ∃ c, v.cache.refresh env now = .ok c ∧ c.keys.lookup kid = some key) :
    (v.keyFunc env now header).1 = ((NewJWTValidator address cfg).keyFunc env now header).1 := by
  obtain ⟨keys,lastFetch,hv⟩ := h
  unfold JWTValidator.keyFunc
  split
  · rfl
  · cases hkid : header.kid with
    | none => rfl
    | some kid =>
      have hkey := getKey_eq_fresh (fun key hlive => hcurrent kid key hkid hlive)
      change (v.cache.getKey env now kid).1.mapError _ = _
      rw [hkey,hv]
      rfl

theorem validate_eq_fresh (h : Built v cfg) (forAdmin : Bool) (address : ℕ)
    (hcurrent : ∀ h kid key, env.header token = .ok h → h.kid = some kid →
      v.cache.live now kid = some key → ∃ c, v.cache.refresh env now = .ok c ∧
        c.keys.lookup kid = some key) :
    (v.validate env forAdmin now token).1 =
      ((NewJWTValidator address cfg).validate env forAdmin now token).1 := by
  have hparsed : (v.parseWithClaims env now token).1 =
      ((NewJWTValidator address cfg).parseWithClaims env now token).1 := by
    unfold JWTValidator.parseWithClaims
    cases hheader : env.header token with
    | error err => rfl
    | ok header =>
      have hkey := keyFunc_eq_fresh h address (fun kid key => hcurrent header kid key hheader)
      change ((v.keyFunc env now header).1.mapError _).bind _ = _
      rw [hkey]
  change v.judge forAdmin now (v.parseWithClaims env now token).1 = _
  obtain ⟨keys,lastFetch,hv⟩ := h
  rw [hparsed,hv]
  rfl

end Validate

structure Inv (w : World) : Prop where
  entries : ∀ key v, w.m key = some v → ∃ a ∈ w.answered, a.request.config.key = key ∧
    a.address = v.address ∧ Built v a.request.config
  issued : ∀ a ∈ w.answered, ∃ v, w.m a.request.config.key = some v ∧ v.address = a.address
  distinct : ∀ key key' v v', w.m key = some v → w.m key' = some v' → v.address = v'.address →
    key = key'
  below : ∀ key v, w.m key = some v → v.address < w.made

section Steps

variable {env : Env} {w w' : World} {r : Request}

theorem step_cases (h : step env w r = some w') :
    ∃ v c, (w.m r.config.key = some v ∧ w'.made = w.made ∨
        w.m r.config.key = none ∧ v = NewJWTValidator w.made r.config ∧ w'.made = w.made + 1) ∧
      c = (v.validate env r.forAdmin r.now r.token).2 ∧
      w'.m = Function.update w.m r.config.key (some { v with cache := c }) ∧
      w'.answered = w.answered ++ [⟨r,v.address,(v.validate env r.forAdmin r.now r.token).1⟩] := by
  simp only [step,Option.some.injEq] at h
  subst h
  cases hm : w.m r.config.key with
  | some v =>
    refine ⟨v,_,.inl ⟨rfl,?_⟩,rfl,?_,?_⟩ <;> simp [World.GetOrCreate,hm]
  | none =>
    refine ⟨NewJWTValidator w.made r.config,_,.inr ⟨rfl,rfl,?_⟩,rfl,?_,?_⟩ <;>
      simp [World.GetOrCreate,hm]

theorem built_new (address : ℕ) (cfg : JWTConfig) : Built (NewJWTValidator address cfg) cfg :=
  ⟨[],0,rfl⟩

theorem inv_step (h : step env w r = some w') (hw : Inv w) : Inv w' := by
  obtain ⟨v,c,hfound,rfl,hm,hanswered⟩ := step_cases h
  have hmem : ∀ a ∈ w.answered, a ∈ w'.answered := by
    intro a ha
    rw [hanswered]
    exact List.mem_append_left _ ha
  have hlast : ⟨r,v.address,(v.validate env r.forAdmin r.now r.token).1⟩ ∈ w'.answered := by
    rw [hanswered]
    exact List.mem_append_right _ (List.mem_singleton_self _)
  have hself : w'.m r.config.key =
      some { v with cache := (v.validate env r.forAdmin r.now r.token).2 } := by
    rw [hm,Function.update_self]
  have hother (key : String) (hkey : key ≠ r.config.key) : w'.m key = w.m key := by
    rw [hm,Function.update_of_ne hkey]
  -- the validator of the request has the address of no entry under another key
  have hapart : ∀ key u, key ≠ r.config.key → w.m key = some u → u.address ≠ v.address := by
    intro key u hkey hu heq
    rcases hfound with ⟨hold,-⟩ | ⟨-,rfl,-⟩
    · exact hkey (hw.distinct key _ u v hu hold heq)
    · have hlt := hw.below key u hu
      rw [heq] at hlt
      exact Nat.lt_irrefl _ hlt
  have hbelow : v.address < w'.made ∧ w.made ≤ w'.made := by
    rcases hfound with ⟨hold,hmade⟩ | ⟨-,rfl,hmade⟩
    · exact ⟨hmade ▸ hw.below _ v hold,hmade ▸ le_refl _⟩
    · rw [hmade]
      exact ⟨Nat.lt_succ_self _,Nat.le_succ _⟩
  refine ⟨?_,?_,?_,?_⟩
  · intro key u hu
    by_cases hkey : key = r.config.key
    · rw [hkey,hself,Option.some.injEq] at hu
      subst hu
      rcases hfound with ⟨hold,-⟩ | ⟨-,rfl,-⟩
      · obtain ⟨a,ha,hakey,haddress,hbuilt⟩ := hw.entries _ v hold
        exact ⟨a,hmem a ha,hakey.trans hkey.symm,haddress,hbuilt.validated r.forAdmin⟩
      · exact ⟨_,hlast,hkey.symm,rfl,(built_new w.made r.config).validated r.forAdmin⟩
    · rw [hother key hkey] at hu
      obtain ⟨a,ha,hrest⟩ := hw.entries key u hu
      exact ⟨a,hmem a ha,hrest⟩
  · intro a ha
    rw [hanswered] at ha
    rcases List.mem_append.mp ha with hold | hnew
    · obtain ⟨u,hu,haddress⟩ := hw.issued a hold
      by_cases hkey : a.request.config.key = r.config.key
      · refine ⟨_,hkey ▸ hself,?_⟩
        rw [hkey] at hu
        rcases hfound with ⟨hv,-⟩ | ⟨hnone,-⟩
        · rw [hv,Option.some.injEq] at hu
          exact hu ▸ haddress
        · rw [hnone] at hu
          cases hu
      · exact ⟨u,(hother _ hkey).trans hu,haddress⟩
    · rw [List.mem_singleton.mp hnew]
      exact ⟨_,hself,rfl⟩
  · intro key key' u u' hu hu' heq
    by_cases hkey : key = r.config.key
    · by_cases hkey' : key' = r.config.key
      · exact hkey.trans hkey'.symm
      · rw [hkey,hself,Option.some.injEq] at hu
        rw [hother key' hkey'] at hu'
        subst hu
        exact absurd heq.symm (hapart key' u' hkey' hu')
    · rw [hother key hkey] at hu
      by_cases hkey' : key' = r.config.key
      · rw [hkey',hself,Option.some.injEq] at hu'
        subst hu'
        exact absurd heq (hapart key u hkey hu)
      · rw [hother key' hkey'] at hu'
        exact hw.distinct key key' u u' hu hu' heq
  · intro key u hu
    by_cases hkey : key = r.config.key
    · rw [hkey,hself,Option.some.injEq] at hu
      subst hu
      exact hbelow.1
    · rw [hother key hkey] at hu
      exact (hw.below key u hu).trans_le hbelow.2

theorem inv_empty : Inv {} := ⟨nofun,nofun,nofun,nofun⟩

theorem requests_step (h : step env w r = some w') : w'.requests = w.requests ++ [r] := by
  obtain ⟨v,c,-,-,-,hanswered⟩ := step_cases h
  rw [World.requests,hanswered,List.map_append]
  rfl

theorem requests_exec {rs : List Request} (h : exec (step env) w rs = some w') :
    w'.requests = w.requests ++ rs := by
  induction rs generalizing w with
  | nil =>
    simp only [exec,Option.some.injEq] at h
    rw [h,List.append_nil]
  | cons r rs ih =>
    obtain ⟨v,hv,hx⟩ := Option.bind_eq_some_iff.mp h
    rw [ih hx,requests_step hv,List.append_assoc]
    rfl

theorem fresh_step (h : step env w r = some w') (hw : Inv w) (hcurrent : Current env w r)
    (hapart : KeysApart w'.requests) (hfresh : ∀ a ∈ w.answered, a.outcome = a.request.fresh env) :
    ∀ a ∈ w'.answered, a.outcome = a.request.fresh env := by
  obtain ⟨v,c,hfound,-,-,hanswered⟩ := step_cases h
  intro a ha
  rw [hanswered] at ha
  rcases List.mem_append.mp ha with hold | hnew
  · exact hfresh a hold
  · rw [List.mem_singleton.mp hnew]
    rcases hfound with ⟨hv,-⟩ | ⟨-,rfl,-⟩
    · obtain ⟨b,hb,hkey,-,hbuilt⟩ := hw.entries _ v hv
      have hrequests := requests_step h
      have hconfig : b.request.config = r.config := by
        refine hapart b.request ?_ r ?_ hkey
        · rw [hrequests]
          exact List.mem_append_left _ (List.mem_map_of_mem hb)
        · rw [hrequests]
          exact List.mem_append_right _ (List.mem_singleton_self _)
      exact validate_eq_fresh (hconfig ▸ hbuilt) r.forAdmin 0 (fun h kid key => hcurrent v h kid key hv)
    · refine validate_eq_fresh (built_new w.made r.config) r.forAdmin 0 ?_
      intro header kid key _ _ hlive
      unfold JwksCache.live at hlive
      split at hlive <;> cases hlive

theorem KeysApart.before (h : step env w r = some w') (hapart : KeysApart w'.requests) :
    KeysApart w.requests := by
  rw [requests_step h] at hapart
  intro a ha b hb
  exact hapart a (List.mem_append_left _ ha) b (List.mem_append_left _ hb)

theorem Inv.shared_iff (hw : Inv w) {a b : Answered} (ha : a ∈ w.answered) (hb : b ∈ w.answered) :
    a.address = b.address ↔ a.request.config.key = b.request.config.key := by
  obtain ⟨u,hu,hua⟩ := hw.issued a ha
  obtain ⟨v,hv,hvb⟩ := hw.issued b hb
  constructor
  · intro h
    exact hw.distinct _ _ u v hu hv (by rw [hua,hvb,h])
  · intro h
    rw [h,hv,Option.some.injEq] at hu
    rw [← hua,← hvb,hu]

end Steps

theorem transparent_iff (env : Env) (rs : List Request) (w : World)
    (h : exec (step env) {} rs = some w)
    (hcurrent : EveryStep (step env) (Current env) {} rs) :
    w.Transparent env ↔ KeysApart rs := by
  have hrequests : w.requests = rs := requests_exec h
  have hrun : Inv w ∧ (KeysApart w.requests → ∀ a ∈ w.answered, a.outcome = a.request.fresh env) := by
    refine exec_invariant_of_steps (step env) (C := Current env)
      (I := fun w => Inv w ∧ (KeysApart w.requests → ∀ a ∈ w.answered, a.outcome = a.request.fresh env))
      ?_ ⟨inv_empty,fun _ => nofun⟩ hcurrent h
    rintro w r w' ⟨hw,hfresh⟩ hc hstep
    exact ⟨inv_step hstep hw,fun hapart =>
      fresh_step hstep hw hc hapart (hfresh (KeysApart.before hstep hapart))⟩
  rw [← hrequests]
  constructor
  · intro ht r hr r' hr' hkey
    obtain ⟨a,ha,rfl⟩ := List.mem_map.mp hr
    obtain ⟨b,hb,rfl⟩ := List.mem_map.mp hr'
    exact ht.unshared a ha b hb ((hrun.1.shared_iff ha hb).mpr hkey)
  · intro hapart
    refine ⟨hrun.2 hapart,?_⟩
    intro a ha b hb haddress
    exact hapart a.request (List.mem_map_of_mem ha) b.request (List.mem_map_of_mem hb)
      ((hrun.1.shared_iff ha hb).mp haddress)

section Steady

variable {env : Env}

def Steady (env : Env) : Prop := ∀ url now now', env.fetch url now = env.fetch url now'

def Held (env : Env) (c : JwksCache) : Prop :=
  ∀ kid key, c.keys.lookup kid = some key → ∃ now c', c.refresh env now = .ok c' ∧
    c'.keys.lookup kid = some key

theorem held_getKey {c : JwksCache} (hc : Held env c) (now : Int) (kid : String) :
    Held env (c.getKey env now kid).2 := by
  unfold JwksCache.getKey
  cases c.live now kid with
  | some key => exact hc
  | none =>
    cases hrefresh : c.refresh env now with
    | error err => exact hc
    | ok c' =>
      have hserved : Held env c' := by
        intro kid' key hkey
        unfold JwksCache.refresh at hrefresh
        cases hfetch : env.fetch c.jwksURL now with
        | error err =>
          rw [hfetch] at hrefresh
          cases hrefresh
        | ok l =>
          rw [hfetch] at hrefresh
          cases hrefresh
          refine ⟨now,{ c with keys := JwksCache.newKeys l, lastFetch := now },?_,hkey⟩
          simp only [JwksCache.refresh,hfetch,Except.map]
      simp only
      cases c'.keys.lookup kid <;> exact hserved

theorem held_validate {v : JWTValidator} (hv : Held env v.cache) (forAdmin : Bool) (now : Int)
    (token : String) : Held env (v.validate env forAdmin now token).2 := by
  change Held env (v.parseWithClaims env now token).2
  unfold JWTValidator.parseWithClaims
  cases env.header token with
  | error err => exact hv
  | ok h =>
    change Held env (v.keyFunc env now h).2
    unfold JWTValidator.keyFunc
    split
    · exact hv
    · cases h.kid with
      | none => exact hv
      | some kid => exact held_getKey hv now kid

theorem held_step {w w' : World} {r : Request} (h : step env w r = some w')
    (hw : ∀ key v, w.m key = some v → Held env v.cache) :
    ∀ key v, w'.m key = some v → Held env v.cache := by
  obtain ⟨v,c,hfound,rfl,hm,-⟩ := step_cases h
  have hv : Held env v.cache := by
    rcases hfound with ⟨hold,-⟩ | ⟨-,rfl,-⟩
    · exact hw _ v hold
    · intro kid key hkey
      cases hkey
  intro key u hu
  by_cases hkey : key = r.config.key
  · rw [hm,hkey,Function.update_self,Option.some.injEq] at hu
    subst hu
    exact held_validate hv r.forAdmin r.now r.token
  · rw [hm,Function.update_of_ne hkey] at hu
    exact hw key u hu

theorem current_of_held (hsteady : Steady env) {w : World} {r : Request}
    (hw : ∀ key v, w.m key = some v → Held env v.cache) : Current env w r := by
  intro v h kid key hv _ _ hlive
  unfold JwksCache.live at hlive
  split at hlive
  · obtain ⟨now,c,hrefresh,hkey⟩ := hw _ v hv kid key hlive
    unfold JwksCache.refresh at hrefresh ⊢
    rw [hsteady v.cache.jwksURL now r.now] at hrefresh
    cases hfetch : env.fetch v.cache.jwksURL r.now with
    | error err =>
      rw [hfetch] at hrefresh
      cases hrefresh
    | ok l =>
      rw [hfetch] at hrefresh
      cases hrefresh
      exact ⟨_,rfl,hkey⟩
  · cases hlive

theorem current_of_steady (hsteady : Steady env) (rs : List Request) :
    EveryStep (step env) (Current env) {} rs := by
  have hall (w : World) (hw : ∀ key v, w.m key = some v → Held env v.cache) :
      EveryStep (step env) (Current env) w rs := by
    induction rs generalizing w with
    | nil => trivial
    | cons r rs ih => exact ⟨current_of_held hsteady hw,ih _ (held_step rfl hw)⟩
  refine hall {} ?_
  intro key v hv
  cases hv

end Steady

section Concrete

def oneKeyEnv : Env where
  header _ := .ok ⟨true,"RS256",some "k1"⟩
  unverifiable err := "token is unverifiable: error while executing keyfunc: " ++ err
  verify token _ _ := .ok {
    issuer := .ok "https://idp"
    audience := .ok ["gateway"]
    expirationTime := .ok (some 2000000000000000000)
    subject := .ok "kim"
    values := [(token,.str "acme"),("roles",.arr [.str "user"])] }
  fetch _ _ := .ok [⟨"k1","RSA","wRsT","AQAB"⟩]

def namedConfig (tenantClaim : String) : JWTConfig where
  issuer := "https://idp"
  issuerPublic := ""
  audience := "gateway"
  jwksURL := "https://idp/keys"
  clockSkewSeconds := 30
  requiredClaims := ⟨[("roles","roles"),("tenant_id",tenantClaim)],
    List.pairwise_pair.mpr (show "roles" < "tenant_id" by decide)⟩
  cacheTTLMinutes := 60

def orgRequest (tenantClaim : String) (now : Int) : Request :=
  ⟨namedConfig tenantClaim,false,now,"org"⟩

theorem oneKeyEnv_steady : Steady oneKeyEnv := fun _ _ _ => rfl

def unchangedRequests : List Request :=
  [orgRequest "org" 1000000000000000000,orgRequest "org" 1000000001000000000]

theorem unchanged_transparent : ∃ w, exec (step oneKeyEnv) {} unchangedRequests = some w ∧
    w.Transparent oneKeyEnv :=
  ⟨_,rfl,(transparent_iff oneKeyEnv unchangedRequests _ rfl
    (current_of_steady oneKeyEnv_steady _)).mpr (by decide)⟩

def renamedRequests : List Request :=
  [orgRequest "tenant_id" 1000000000000000000,orgRequest "org" 1000000001000000000]

theorem renamed_claim_rejected : ¬ ∀ (env : Env) (rs : List Request) (w : World),
    exec (step env) {} rs = some w → EveryStep (step env) (Current env) {} rs →
      w.Transparent env := by
  intro h
  have ht := h oneKeyEnv renamedRequests _ rfl (current_of_steady oneKeyEnv_steady _)
  have hsecond := ht.fresh _ (List.mem_append_right _ (List.mem_singleton_self _))
  exact absurd hsecond (by decide)

end Concrete

end PrismGateway.Auth.Jwt
