import PrismGateway.Auth.Middleware
import PrismGateway.Lib.Hex

namespace PrismGateway.RateLimit.Buckets

open Lib Admin.Isolation Storage.KeyLookup Auth

structure Digest where
  bytes : List (Fin 256)
  length : bytes.length = 32
  deriving DecidableEq

section Code

variable (sha256 : String → Digest)

def hashAPIKey (apiKey : String) : List Char := Hex.encode (sha256 apiKey).bytes

def hashSub (sub : String) : List Char := Hex.encode ((sha256 sub).bytes.take 8)

/-- The bucket key and its type; `scope` is the scope setting of the tenant's rate limit. -/
def rateLimitBucketKey (scope : String) (r : HttpRequest) (ctx : Auth.AuthContext) : String × String :=
  if scope = "api_key" then
    let apiKey := r.header "X-API-Key"
    if apiKey ≠ "" then
      ("tenant:" ++ ctx.tenant.id ++ ":api_key:" ++ String.ofList (hashAPIKey sha256 apiKey),"api_key")
    else ("tenant:" ++ ctx.tenant.id,"tenant")
  else if scope = "jwt_sub" then
    if ctx.authType = .jwt ∧ ctx.sub ≠ "" then
      ("tenant:" ++ ctx.tenant.id ++ ":user:" ++ String.ofList (hashSub sha256 ctx.sub),"jwt_sub")
    else ("tenant:" ++ ctx.tenant.id,"tenant")
  else ("tenant:" ++ ctx.tenant.id,"tenant")

end Code

structure Authenticated (mode : AuthMode) where
  gate : Gate
  store : KeyStore
  r : HttpRequest
  ctx : Auth.AuthContext
  configured : gate.auth.mode = mode
  served : gate.middleware store r = .served ctx

inductive Principal where
  | apiKey (apiKey : String)
  | subject (sub : String)
  deriving DecidableEq, Repr

namespace Authenticated

variable {mode : AuthMode} (a b : Authenticated mode)

def tenantID : String := a.ctx.tenant.id

def keyHeader : String := a.r.header "X-API-Key"

def credential : Option String :=
  if a.ctx.authType = .apiKey then
    if a.keyHeader ≠ "" then some a.keyHeader else bearerToken a.r
  else none

def principal (scope : String) : Option Principal :=
  if scope = "api_key" then a.credential.map .apiKey
  else if scope = "jwt_sub" then
    if a.ctx.authType = .jwt ∧ a.ctx.sub ≠ "" then some (.subject a.ctx.sub) else none
  else none

def SameCaller (scopeOf : String → String) : Prop :=
  a.tenantID = b.tenantID ∧ a.principal (scopeOf a.tenantID) = b.principal (scopeOf b.tenantID)

def bucketKey (sha256 : String → Digest) (scopeOf : String → String) : String :=
  (rateLimitBucketKey sha256 (scopeOf a.tenantID) a.r a.ctx).1

def keyByBearer : Option String :=
  if a.ctx.authType = .apiKey ∧ a.keyHeader = "" then bearerToken a.r else none

def SentAlike : Prop :=
  match mode with
  | .jwt => a.keyHeader = b.keyHeader
  | .both => match a.keyByBearer,b.keyByBearer with
    | none,none => True
    | some k,some k' => k = k'
    | some k,none => b.keyHeader ≠ "" ∧ b.keyHeader ≠ k
    | none,some k => a.keyHeader ≠ "" ∧ a.keyHeader ≠ k
  | _ => True

def Continues (sha256 : String → Digest) (scopeOf : String → String) : Prop :=
  (scopeOf a.tenantID = "api_key" → a.keyHeader = "") ∧
    (scopeOf a.tenantID = "jwt_sub" → ¬(a.ctx.authType = .jwt ∧ a.ctx.sub ≠ "")) ∧
      (scopeOf b.tenantID = "api_key" ∧ b.keyHeader ≠ "" ∧ a.tenantID =
          b.tenantID ++ ":api_key:" ++ String.ofList (hashAPIKey sha256 b.keyHeader) ∨
        scopeOf b.tenantID = "jwt_sub" ∧ b.ctx.authType = .jwt ∧ b.ctx.sub ≠ "" ∧ a.tenantID =
          b.tenantID ++ ":user:" ++ String.ofList (hashSub sha256 b.ctx.sub))

structure Apart (sha256 : String → Digest) (scopeOf : String → String) : Prop where
  sameTenant : a.tenantID = b.tenantID → scopeOf a.tenantID = "api_key" → a.SentAlike b
  otherTenant : a.tenantID ≠ b.tenantID →
    ¬a.Continues b sha256 scopeOf ∧ ¬b.Continues a sha256 scopeOf

structure CollisionFree (sha256 : String → Digest) : Prop where
  keys : sha256 a.keyHeader = sha256 b.keyHeader → a.keyHeader = b.keyHeader
  subs : (sha256 a.ctx.sub).bytes.take 8 = (sha256 b.ctx.sub).bytes.take 8 → a.ctx.sub = b.ctx.sub

section Served

variable {g : Gate} {k : KeyStore} {ctx : Auth.AuthContext} {r : HttpRequest}

theorem authType_claimsAnswer {claims : Claims} (h : g.claimsAnswer claims = .served ctx) :
    ctx.authType = .jwt := by
  unfold Gate.claimsAnswer at h
  cases htenant : g.resolveTenantConfig claims.tenantID with
  | error err => rw [htenant] at h; cases h
  | ok tenant =>
    rw [htenant] at h
    cases tenant with
    | none => cases h
    | some tenant => cases h; rfl

theorem authType_tokenAnswer {refusal token : String} (h : g.tokenAnswer refusal token = .served ctx) :
    ctx.authType = .jwt := by
  unfold Gate.tokenAnswer at h
  cases hvalidator : g.resolveInferenceJWTValidator with
  | ready jwt =>
    rw [hvalidator] at h
    simp only at h
    cases hclaims : g.validateToken jwt token with
    | none => rw [hclaims] at h; cases h
    | some claims =>
      rw [hclaims] at h
      exact authType_claimsAnswer h
  | _ => rw [hvalidator] at h; cases h

theorem authType_keyAnswer {apiKey : String} (h : g.keyAnswer k apiKey = some (.served ctx)) :
    ctx.authType = .apiKey := by
  unfold Gate.keyAnswer at h
  have hfound : g.databaseAnswer k apiKey = some (.served ctx) ∨
      g.yamlAnswer apiKey = some (.served ctx) := by
    cases hdatabase : g.databaseAnswer k apiKey with
    | none => rw [hdatabase] at h; exact .inr h
    | some answer => rw [hdatabase] at h; exact .inl h
  rcases hfound with hdatabase | hyaml
  · unfold Gate.databaseAnswer at hdatabase
    split_ifs at hdatabase
    · cases hdatabase
    · obtain ⟨found,-,hrecord⟩ := Option.map_eq_some_iff.mp hdatabase
      unfold Gate.recordAnswer at hrecord
      split_ifs at hrecord
      · cases hrecord
      · cases hrecord
      · cases htenant : g.resolveTenantConfig found.1.tenantID with
        | error err => rw [htenant] at hrecord; cases hrecord
        | ok tenant =>
          rw [htenant] at hrecord
          cases tenant with
          | none => cases hrecord
          | some tenant => cases hrecord; rfl
  · obtain ⟨yamlTenant,-,htenant⟩ := Option.map_eq_some_iff.mp hyaml
    cases hresolved : g.resolveTenantConfig yamlTenant.id with
    | error err => rw [hresolved] at htenant; cases htenant
    | ok resolved => rw [hresolved] at htenant; cases htenant; rfl

theorem authType_handleAPIKeyAuth (h : g.handleAPIKeyAuth k r = .served ctx) :
    r.header "X-API-Key" ≠ "" ∧ ctx.authType = .apiKey := by
  unfold Gate.handleAPIKeyAuth at h
  simp only at h
  split_ifs at h with hempty
  · cases h
  · refine ⟨hempty,?_⟩
    cases hkey : g.keyAnswer k (r.header "X-API-Key") with
    | none => rw [hkey] at h; cases h
    | some answer =>
      rw [hkey,Option.getD_some] at h
      subst h
      exact authType_keyAnswer hkey

end Served

section Modes

theorem authType_jwt (a : Authenticated .jwt) : a.ctx.authType = .jwt := by
  obtain ⟨g,k,r,ctx,hmode,hserved⟩ := a
  rw [Gate.middleware,hmode] at hserved
  simp only [Gate.handleJWTAuth] at hserved
  cases hbearer : bearerToken r with
  | none => rw [hbearer] at hserved; cases hserved
  | some token =>
    rw [hbearer] at hserved
    exact authType_tokenAnswer hserved

theorem keyHeader_apiKey (a : Authenticated .apiKey) : a.keyHeader ≠ "" ∧ a.ctx.authType = .apiKey := by
  obtain ⟨g,k,r,ctx,hmode,hserved⟩ := a
  rw [Gate.middleware,hmode] at hserved
  exact authType_handleAPIKeyAuth hserved

theorem authType_both (a : Authenticated .both) (h : a.keyHeader ≠ "") : a.ctx.authType = .apiKey := by
  obtain ⟨g,k,r,ctx,hmode,hserved⟩ := a
  rw [Gate.middleware,hmode] at hserved
  simp only [Gate.handleBothAuth] at hserved
  rw [if_pos (show r.header "X-API-Key" ≠ "" from h)] at hserved
  exact (authType_handleAPIKeyAuth hserved).2

theorem not_other {m : String} (a : Authenticated (.other m)) : False := by
  obtain ⟨g,k,r,ctx,hmode,hserved⟩ := a
  rw [Gate.middleware,hmode] at hserved
  cases hserved

theorem credential_jwt (a : Authenticated .jwt) : a.credential = none := by
  rw [credential,authType_jwt a]
  rfl

theorem credential_apiKey (a : Authenticated .apiKey) : a.credential = some a.keyHeader := by
  obtain ⟨hheader,htype⟩ := keyHeader_apiKey a
  rw [credential,if_pos htype,if_pos hheader]

theorem credential_both (a : Authenticated .both) :
    a.credential = if a.keyHeader ≠ "" then some a.keyHeader else a.keyByBearer := by
  unfold credential keyByBearer
  by_cases hheader : a.keyHeader = ""
  · simp only [hheader,ne_eq,not_true_eq_false,if_false,and_true]
  · simp only [authType_both a hheader,if_true,if_pos hheader]

theorem keyByBearer_of_header {mode : AuthMode} (a : Authenticated mode) (h : a.keyHeader ≠ "") :
    a.keyByBearer = none := if_neg fun hand => h hand.2

theorem sentAlike_iff {mode : AuthMode} (a b : Authenticated mode) :
    (a.keyHeader = b.keyHeader ↔ a.credential = b.credential) ↔ a.SentAlike b := by
  cases mode with
  | jwt => simp only [credential_jwt,iff_true,SentAlike]
  | apiKey => simp only [credential_apiKey,Option.some.injEq,SentAlike]
  | other m => exact (not_other a).elim
  | both =>
    rw [credential_both,credential_both,SentAlike]
    by_cases ha : a.keyHeader = ""
    · by_cases hb : b.keyHeader = ""
      · cases a.keyByBearer <;> cases b.keyByBearer <;> simp [ha,hb]
      · rw [keyByBearer_of_header b hb]
        cases a.keyByBearer <;> simp [ha,hb,eq_comm]
    · rw [keyByBearer_of_header a ha]
      by_cases hb : b.keyHeader = ""
      · cases b.keyByBearer <;> simp [ha,hb]
      · rw [keyByBearer_of_header b hb]
        simp [ha,hb]

end Modes

section Keys

variable {mode : AuthMode} (a b : Authenticated mode) (sha256 : String → Digest)
  (scopeOf : String → String)

def used : Option Principal :=
  if scopeOf a.tenantID = "api_key" then
    if a.keyHeader ≠ "" then some (.apiKey a.keyHeader) else none
  else a.principal (scopeOf a.tenantID)

def tail : Option Principal → List Char
  | none => []
  | some (.apiKey apiKey) => ":api_key:".toList ++ hashAPIKey sha256 apiKey
  | some (.subject sub) => ":user:".toList ++ hashSub sha256 sub

theorem tail_none : tail sha256 none = [] := rfl

theorem tail_apiKey (apiKey : String) :
    tail sha256 (some (.apiKey apiKey)) = ":api_key:".toList ++ hashAPIKey sha256 apiKey := rfl

theorem tail_subject (sub : String) :
    tail sha256 (some (.subject sub)) = ":user:".toList ++ hashSub sha256 sub := rfl

theorem toList_tagged (start id tag : String) (l : List Char) :
    (start ++ id ++ tag ++ String.ofList l).toList =
      start.toList ++ (id.toList ++ (tag.toList ++ l)) := by
  rw [String.toList_append,String.toList_append,String.toList_append,String.toList_ofList,
    List.append_assoc,List.append_assoc]

theorem toList_untagged (start id : String) :
    (start ++ id).toList = start.toList ++ (id.toList ++ []) := by
  rw [String.toList_append,List.append_nil]

theorem bucketKey_toList : (a.bucketKey sha256 scopeOf).toList =
    "tenant:".toList ++ (a.tenantID.toList ++ tail sha256 (a.used scopeOf)) := by
  unfold bucketKey rateLimitBucketKey used principal
  by_cases hkey : scopeOf a.tenantID = "api_key"
  · rw [if_pos hkey,if_pos hkey]
    by_cases hheader : a.r.header "X-API-Key" = ""
    · simp only [keyHeader,hheader,ne_eq,not_true_eq_false,if_false]
      exact toList_untagged _ _
    · simp only [keyHeader,ne_eq,hheader,not_false_eq_true,if_true]
      exact toList_tagged _ _ _ _
  · rw [if_neg hkey,if_neg hkey,if_neg hkey]
    by_cases hsub : scopeOf a.tenantID = "jwt_sub"
    · rw [if_pos hsub,if_pos hsub]
      by_cases hperson : a.ctx.authType = .jwt ∧ a.ctx.sub ≠ ""
      · rw [if_pos hperson,if_pos hperson]
        exact toList_tagged _ _ _ _
      · rw [if_neg hperson,if_neg hperson]
        exact toList_untagged _ _
    · rw [if_neg hsub,if_neg hsub]
      exact toList_untagged _ _

theorem length_hashAPIKey (apiKey : String) : (hashAPIKey sha256 apiKey).length = 64 := by
  rw [hashAPIKey,Hex.length_encode,(sha256 apiKey).length]

theorem length_hashSub (sub : String) : (hashSub sha256 sub).length = 16 := by
  rw [hashSub,Hex.length_encode,List.length_take,(sha256 sub).length]
  rfl

theorem subject_ne_apiKey (x y tag : List Char) (apiKey sub : String) :
    x ++ (tag ++ hashAPIKey sha256 apiKey) ≠ y ++ (":user:".toList ++ hashSub sha256 sub) := by
  have hcolon : ":user:".toList = ":user".toList ++ [':'] := by decide
  have huser : (hashSub sha256 sub).reverse.length = 16 := by
    rw [List.length_reverse,length_hashSub]
  have hkey : 16 < (hashAPIKey sha256 apiKey).reverse.length := by
    rw [List.length_reverse,length_hashAPIKey]
    decide
  rw [hcolon]
  generalize ":user".toList = start
  intro h
  have hindex := congrArg (fun l => l.reverse[16]?) h
  simp only [List.reverse_append,List.append_assoc,List.reverse_singleton] at hindex
  rw [List.getElem?_append_left hkey,List.getElem?_append_right huser.le,huser] at hindex
  have hmem : (hashAPIKey sha256 apiKey).reverse[16]? = some ':' := hindex
  exact Hex.colon_notMem_encode _ (List.mem_reverse.mp (List.mem_of_getElem? hmem))

theorem tagged_cases {x y : List Char} {p q : Option Principal}
    (h : x ++ tail sha256 p = y ++ tail sha256 q) :
    x = y ∨ p = none ∧ q ≠ none ∧ x = y ++ tail sha256 q ∨
      q = none ∧ p ≠ none ∧ y = x ++ tail sha256 p := by
  rcases p with _ | p
  · rw [tail_none,List.append_nil] at h
    rcases q with _ | q
    · rw [tail_none,List.append_nil] at h
      exact .inl h
    · exact .inr (.inl ⟨rfl,Option.some_ne_none q,h⟩)
  · rcases q with _ | q
    · rw [tail_none,List.append_nil] at h
      exact .inr (.inr ⟨rfl,Option.some_ne_none p,h.symm⟩)
    · rcases p with apiKey | sub <;> rcases q with apiKey' | sub'
      · rw [tail_apiKey,tail_apiKey] at h
        refine .inl (List.append_inj' h ?_).1
        rw [List.length_append,List.length_append,length_hashAPIKey,length_hashAPIKey]
      · rw [tail_apiKey,tail_subject] at h
        exact absurd h (subject_ne_apiKey sha256 x y _ apiKey sub')
      · rw [tail_apiKey,tail_subject] at h
        exact absurd h.symm (subject_ne_apiKey sha256 y x _ apiKey' sub)
      · rw [tail_subject,tail_subject] at h
        refine .inl (List.append_inj' h ?_).1
        rw [List.length_append,List.length_append,length_hashSub,length_hashSub]

variable {a b sha256 scopeOf}

theorem used_eq_none_iff : a.used scopeOf = none ↔ (scopeOf a.tenantID = "api_key" → a.keyHeader = "") ∧
    (scopeOf a.tenantID = "jwt_sub" → ¬(a.ctx.authType = .jwt ∧ a.ctx.sub ≠ "")) := by
  unfold used principal
  by_cases hkey : scopeOf a.tenantID = "api_key"
  · have hsub : scopeOf a.tenantID ≠ "jwt_sub" := by
      rw [hkey]
      decide
    by_cases hheader : a.keyHeader = "" <;> simp [hkey,hheader]
  · by_cases hsub : scopeOf a.tenantID = "jwt_sub"
    · by_cases hperson : a.ctx.authType = .jwt ∧ a.ctx.sub ≠ ""
      · simp only [if_neg hkey,if_pos hsub,if_pos hperson]
        exact ⟨nofun,fun h => absurd hperson (h.2 hsub)⟩
      · simp only [if_neg hkey,if_pos hsub,if_neg hperson]
        exact ⟨fun _ => ⟨fun h => absurd h hkey,fun _ => hperson⟩,fun _ => trivial⟩
    · simp [hkey,hsub]

theorem used_eq_apiKey_iff {apiKey : String} : a.used scopeOf = some (.apiKey apiKey) ↔
    scopeOf a.tenantID = "api_key" ∧ a.keyHeader ≠ "" ∧ apiKey = a.keyHeader := by
  unfold used principal
  by_cases hkey : scopeOf a.tenantID = "api_key"
  · by_cases hheader : a.keyHeader = "" <;> simp [hkey,hheader,eq_comm]
  · simp only [if_neg hkey]
    constructor
    · intro h
      split_ifs at h
      all_goals cases h
    · exact fun h => absurd h.1 hkey

theorem used_eq_subject_iff {sub : String} : a.used scopeOf = some (.subject sub) ↔
    scopeOf a.tenantID = "jwt_sub" ∧ (a.ctx.authType = .jwt ∧ a.ctx.sub ≠ "") ∧ sub = a.ctx.sub := by
  unfold used principal
  by_cases hkey : scopeOf a.tenantID = "api_key"
  · have hsub : scopeOf a.tenantID ≠ "jwt_sub" := by
      rw [hkey]
      decide
    simp only [if_pos hkey]
    constructor
    · intro h
      split_ifs at h
      all_goals cases h
    · exact fun h => absurd h.1 hsub
  · by_cases hsub : scopeOf a.tenantID = "jwt_sub"
    · by_cases hperson : a.ctx.authType = .jwt ∧ a.ctx.sub ≠ ""
      · simp [hsub,hperson,eq_comm]
      · simp only [if_neg hkey,if_pos hsub,if_neg hperson]
        exact ⟨nofun,fun h => absurd h.2.1 hperson⟩
    · simp [hkey,hsub]

theorem eq_tagged_iff {id other tag : String} {l : List Char} :
    id = other ++ tag ++ String.ofList l ↔ id.toList = other.toList ++ (tag.toList ++ l) := by
  rw [← String.toList_inj,String.toList_append,String.toList_append,String.toList_ofList,
    List.append_assoc]

theorem continues_iff : a.Continues b sha256 scopeOf ↔ a.used scopeOf = none ∧
    b.used scopeOf ≠ none ∧ a.tenantID.toList = b.tenantID.toList ++ tail sha256 (b.used scopeOf) := by
  unfold Continues
  rw [← and_assoc,← used_eq_none_iff,eq_tagged_iff,eq_tagged_iff]
  refine and_congr_right fun _ => ?_
  constructor
  · rintro (⟨hscope,hheader,hid⟩ | ⟨hscope,htype,hsub,hid⟩)
    · have hused : b.used scopeOf = some (.apiKey b.keyHeader) :=
        used_eq_apiKey_iff.mpr ⟨hscope,hheader,rfl⟩
      rw [hused]
      exact ⟨Option.some_ne_none _,hid⟩
    · have hused : b.used scopeOf = some (.subject b.ctx.sub) :=
        used_eq_subject_iff.mpr ⟨hscope,⟨htype,hsub⟩,rfl⟩
      rw [hused]
      exact ⟨Option.some_ne_none _,hid⟩
  · rintro ⟨hsome,hid⟩
    cases hused : b.used scopeOf with
    | none => exact absurd hused hsome
    | some p =>
      rw [hused] at hid
      cases p with
      | apiKey apiKey =>
        obtain ⟨hscope,hheader,rfl⟩ := used_eq_apiKey_iff.mp hused
        exact .inl ⟨hscope,hheader,hid⟩
      | subject sub =>
        obtain ⟨hscope,⟨htype,hsub⟩,rfl⟩ := used_eq_subject_iff.mp hused
        exact .inr ⟨hscope,htype,hsub,hid⟩

theorem Digest.ext {d e : Digest} (h : d.bytes = e.bytes) : d = e := by
  cases d
  cases e
  cases h
  rfl

theorem length_tail_some (p : Principal) : (tail sha256 (some p)).length ≠ 0 := by
  cases p with
  | apiKey apiKey =>
    rw [tail_apiKey,List.length_append,length_hashAPIKey]
    omega
  | subject sub =>
    rw [tail_subject,List.length_append,length_hashSub]
    omega

theorem tail_apiKey_ne (apiKey sub : String) :
    tail sha256 (some (.apiKey apiKey)) ≠ tail sha256 (some (.subject sub)) := by
  intro h
  have huser : ":user:".toList.length = 6 := by decide
  have hlength := congrArg List.length h
  rw [tail_apiKey,tail_subject,List.length_append,List.length_append,length_hashAPIKey,
    length_hashSub,huser] at hlength
  omega

theorem tail_used_eq_iff (h : CollisionFree a b sha256) :
    tail sha256 (a.used scopeOf) = tail sha256 (b.used scopeOf) ↔
      a.used scopeOf = b.used scopeOf := by
  refine ⟨fun heq => ?_,fun heq => heq ▸ rfl⟩
  cases ha : a.used scopeOf with
  | none =>
    cases hb : b.used scopeOf with
    | none => rfl
    | some q =>
      rw [ha,hb] at heq
      exact absurd (congrArg List.length heq.symm) (length_tail_some q)
  | some p =>
    cases hb : b.used scopeOf with
    | none =>
      rw [ha,hb] at heq
      exact absurd (congrArg List.length heq) (length_tail_some p)
    | some q =>
      rw [ha,hb] at heq
      cases p with
      | apiKey apiKey =>
        cases q with
        | apiKey apiKey' =>
          obtain ⟨-,-,rfl⟩ := used_eq_apiKey_iff.mp ha
          obtain ⟨-,-,rfl⟩ := used_eq_apiKey_iff.mp hb
          rw [tail_apiKey,tail_apiKey] at heq
          have hbytes := Hex.encode_injective (List.append_cancel_left heq)
          rw [h.keys (Digest.ext hbytes)]
        | subject sub => exact absurd heq (tail_apiKey_ne apiKey sub)
      | subject sub =>
        cases q with
        | apiKey apiKey => exact absurd heq.symm (tail_apiKey_ne apiKey sub)
        | subject sub' =>
          obtain ⟨-,-,rfl⟩ := used_eq_subject_iff.mp ha
          obtain ⟨-,-,rfl⟩ := used_eq_subject_iff.mp hb
          rw [tail_subject,tail_subject] at heq
          rw [h.subs (Hex.encode_injective (List.append_cancel_left heq))]

theorem bucketKey_eq_iff : a.bucketKey sha256 scopeOf = b.bucketKey sha256 scopeOf ↔
    a.tenantID.toList ++ tail sha256 (a.used scopeOf) =
      b.tenantID.toList ++ tail sha256 (b.used scopeOf) := by
  rw [← String.toList_inj,bucketKey_toList,bucketKey_toList,List.append_cancel_left_eq]

theorem used_eq_iff (htenant : a.tenantID = b.tenantID) :
    (a.used scopeOf = b.used scopeOf ↔
        a.principal (scopeOf a.tenantID) = b.principal (scopeOf b.tenantID)) ↔
      (scopeOf a.tenantID = "api_key" → a.SentAlike b) := by
  unfold used
  rw [← htenant]
  by_cases hkey : scopeOf a.tenantID = "api_key"
  · have hmap : (a.credential.map Principal.apiKey = b.credential.map Principal.apiKey) ↔
        a.credential = b.credential :=
      (Option.map_injective fun _ _ h => Principal.apiKey.inj h).eq_iff
    have hheader : ((if a.keyHeader ≠ "" then some (Principal.apiKey a.keyHeader) else none) =
        if b.keyHeader ≠ "" then some (Principal.apiKey b.keyHeader) else none) ↔
          a.keyHeader = b.keyHeader := by
      by_cases ha : a.keyHeader = "" <;> by_cases hb : b.keyHeader = "" <;> simp [ha,hb,eq_comm]
    rw [if_pos hkey,if_pos hkey,hheader,principal,principal,if_pos hkey,if_pos hkey,hmap,
      sentAlike_iff]
    exact ⟨fun h _ => h,fun h => h hkey⟩
  · rw [if_neg hkey,if_neg hkey]
    exact ⟨fun _ h => absurd h hkey,fun _ => Iff.rfl⟩

end Keys

section Result

variable {mode : AuthMode}

theorem bucketKey_identifies_iff (sha256 : String → Digest) (scopeOf : String → String)
    (a b : Authenticated mode) (hfree : CollisionFree a b sha256) :
    (a.bucketKey sha256 scopeOf = b.bucketKey sha256 scopeOf ↔ a.SameCaller b scopeOf) ↔
      a.Apart b sha256 scopeOf := by
  rw [bucketKey_eq_iff,SameCaller]
  by_cases htenant : a.tenantID = b.tenantID
  · have hsame : (a.tenantID.toList ++ tail sha256 (a.used scopeOf) =
        b.tenantID.toList ++ tail sha256 (b.used scopeOf)) ↔ a.used scopeOf = b.used scopeOf := by
      rw [htenant,List.append_cancel_left_eq,tail_used_eq_iff hfree]
    rw [hsame,and_iff_right htenant,used_eq_iff htenant]
    exact ⟨fun h => ⟨fun _ => h,fun hne => absurd htenant hne⟩,fun h => h.sameTenant htenant⟩
  · have hlists : a.tenantID.toList ≠ b.tenantID.toList := fun h => htenant (String.toList_inj.mp h)
    simp only [htenant,false_and,iff_false]
    constructor
    · intro h
      refine ⟨fun heq => absurd heq htenant,fun _ => ⟨fun hcross => ?_,fun hcross => ?_⟩⟩
      · obtain ⟨hnone,-,hid⟩ := continues_iff.mp hcross
        rw [hnone,tail_none,List.append_nil] at h
        exact h hid
      · obtain ⟨hnone,-,hid⟩ := continues_iff.mp hcross
        rw [hnone,tail_none,List.append_nil] at h
        exact h hid.symm
    · intro h heq
      obtain ⟨hab,hba⟩ := h.otherTenant htenant
      rcases tagged_cases sha256 heq with hid | ⟨hp,hq,hid⟩ | ⟨hq,hp,hid⟩
      · exact hlists hid
      · exact hab (continues_iff.mpr ⟨hp,hq,hid⟩)
      · exact hba (continues_iff.mpr ⟨hq,hp,hid⟩)

end Result

section Concrete

def digestOf (s : String) : Digest :=
  if s = "k-acme" then
    ⟨[11,19,22,85,18,72,34,203,28,242,84,4,32,134,210,191,
      38,164,241,198,205,130,114,122,171,88,62,145,83,70,172,163],by decide⟩
  else if s = "k-two" then
    ⟨[19,201,179,107,24,155,112,221,151,54,38,140,186,143,221,131,
      103,244,18,110,123,45,22,5,199,187,246,57,102,139,72,164],by decide⟩
  else
    ⟨[227,176,196,66,152,252,28,20,154,251,244,200,153,111,185,36,
      39,174,65,228,100,155,147,76,164,149,153,27,120,82,184,85],by decide⟩

def nestedID : String := "acme:api_key:" ++ String.ofList (hashAPIKey digestOf "k-acme")

def bothGate : Gate where
  auth := { mode := .both }
  tenants := [{ id := "acme", apiKeys := ["k-acme","k-two"] },{ id := nestedID, apiKeys := ["k-zen"] }]
  dynamicConfig := false
  cachedTenant _ := none
  storedTenant _ := .absent
  cachedGlobal := none
  storedGlobal := .absent
  lookupFails := false
  hashAPIKey := id
  validateToken _ _ := none

def keyRequest (name value : String) : HttpRequest where
  method := "POST"
  path := "/v1/chat/completions"
  pathTenantID := ""
  header asked := if asked = name then value else ""

def keyContext (tenant : TenantConfig) : Auth.AuthContext :=
  { tenant := tenant, tenantID := tenant.id, authType := .apiKey, scopes := ["inference"] }

def acme : TenantConfig := { id := "acme", apiKeys := ["k-acme","k-two"] }

def nested : TenantConfig := { id := nestedID, apiKeys := ["k-zen"] }

def headerAcme : Authenticated .both :=
  ⟨bothGate,⟨0,[]⟩,keyRequest "X-API-Key" "k-acme",keyContext acme,rfl,by decide⟩

def headerTwo : Authenticated .both :=
  ⟨bothGate,⟨0,[]⟩,keyRequest "X-API-Key" "k-two",keyContext acme,rfl,by decide⟩

def bearerAcme : Authenticated .both :=
  ⟨bothGate,⟨0,[]⟩,keyRequest "Authorization" "Bearer k-acme",keyContext acme,rfl,by decide⟩

def bearerTwo : Authenticated .both :=
  ⟨bothGate,⟨0,[]⟩,keyRequest "Authorization" "Bearer k-two",keyContext acme,rfl,by decide⟩

def headerNested : Authenticated .both :=
  ⟨bothGate,⟨0,[]⟩,keyRequest "X-API-Key" "k-zen",keyContext nested,rfl,by decide⟩

def acmeByKey (tenantID : String) : String := if tenantID = "acme" then "api_key" else "tenant"

theorem header_keys_identified : (headerAcme.bucketKey digestOf acmeByKey =
    headerTwo.bucketKey digestOf acmeByKey ↔ headerAcme.SameCaller headerTwo acmeByKey) :=
  (bucketKey_identifies_iff digestOf acmeByKey headerAcme headerTwo
    ⟨by decide,fun _ => rfl⟩).mpr
      ⟨fun _ _ => trivial,fun h => absurd rfl h⟩

theorem buckets_confused :
    (bearerAcme.bucketKey digestOf acmeByKey = bearerTwo.bucketKey digestOf acmeByKey ∧
        ¬bearerAcme.SameCaller bearerTwo acmeByKey) ∧
      (headerAcme.bucketKey digestOf acmeByKey ≠ bearerAcme.bucketKey digestOf acmeByKey ∧
        headerAcme.SameCaller bearerAcme acmeByKey) ∧
      (headerNested.bucketKey digestOf acmeByKey = headerAcme.bucketKey digestOf acmeByKey ∧
        ¬headerNested.SameCaller headerAcme acmeByKey) := by
  unfold SameCaller
  decide

end Concrete

end Authenticated

end PrismGateway.RateLimit.Buckets
