import PrismGateway.Frontend.Routes

namespace PrismGateway.Frontend

open PrismGateway.Lib

def Request.Presents (req : Request) (token : String) : Prop :=
  req.cookie "admin_access_token" = some token ∨
    ∃ authHeader, req.header "authorization" = some authHeader ∧
      (GoStrings.cutPrefix "Bearer " authHeader).map trim = some token

def Request.FromAdministrator (administrator : String → Prop) (req : Request) : Prop :=
  ∃ token, req.Presents token ∧ administrator token

/-- Whatever the gateway answers, no call made for the request carries `GATEWAY_ADMIN_API_KEY`,
unless it comes from an administrator or in mock mode. The server has no setting that enables mock
mode, so which requests count is left open. -/
def Route.KeyWithheld (mockMode : Request → Prop) (administrator : String → Prop) (env : Env)
    (route : Route) (req : Request) : Prop :=
  ¬ mockMode req → ¬ req.FromAdministrator administrator →
    ∀ answer, ∀ c ∈ (route.endpoint.handle env req).trace answer [], c.auth ≠ .adminKey

def Env.holdsKey (env : Env) : Bool := isSet env.gatewayBaseUrl && isSet env.gatewayAdminApiKey

def Guard.Open (req : Request) : Guard → Prop
  | .adminBearer => getAdminAuthToken req = some mockSessionSentinel
  | .tenantAuth => getAdminAuthToken req = some mockSessionSentinel
  | .session => bearerToken (getAdminAuthToken req) = none
  | .anonymous => True

def Endpoint.Exposed (env : Env) (req : Request) : Endpoint → Prop
  | .proxy guard preface checks => env.holdsKey = true ∧ guard.Open req ∧
      (preface req).isOk = true ∧ (checks env req).isOk = true
  | .download _ => False
  | .bootstrap => isSet env.gatewayAdminApiKey = true
  | .elsewhere _ => False

def Keyless (c : Call) : Prop := c.auth ≠ .adminKey

theorem bearerToken_some_eq_none {token : String} (h : token ≠ "") :
    bearerToken (some token) = none ↔ token = mockSessionSentinel := by
  simp [bearerToken,h]

theorem requireToken_ok {req : Request} {token : String} (h : requireToken req = .ok token) :
    getAdminAuthToken req = some token ∧ token ≠ "" := by
  unfold requireToken at h
  cases hget : getAdminAuthToken req with
  | none => simp [hget] at h
  | some given =>
    rw [hget] at h
    by_cases hempty : given = ""
    · simp [hempty] at h
    · obtain rfl : given = token := by simpa [hempty] using h
      exact ⟨rfl,hempty⟩

theorem requireToken_sentinel {req : Request}
    (h : getAdminAuthToken req = some mockSessionSentinel) :
    requireToken req = .ok mockSessionSentinel := by
  rw [requireToken,h]
  rfl

theorem required_iff {req : Request} {token : Option String}
    (h : (requireToken req).map some = .ok token) :
    getAdminAuthToken req = some mockSessionSentinel ↔ bearerToken token = none := by
  cases hreq : requireToken req with
  | error reply =>
    rw [hreq] at h
    nomatch h
  | ok given =>
    rw [hreq] at h
    obtain rfl : some given = token := Except.ok.inj h
    obtain ⟨hget,hne⟩ := requireToken_ok hreq
    rw [hget,Option.some_inj,bearerToken_some_eq_none hne]

theorem Guard.open_iff {guard : Guard} {req : Request} {token : Option String}
    (h : guard.token req = .ok token) : guard.Open req ↔ bearerToken token = none := by
  cases guard with
  | adminBearer => exact required_iff h
  | tenantAuth => exact required_iff h
  | session =>
    obtain rfl : getAdminAuthToken req = token := Except.ok.inj h
    rfl
  | anonymous =>
    obtain rfl : none = token := Except.ok.inj h
    simp [Guard.Open,bearerToken]

theorem Guard.token_of_open {guard : Guard} {req : Request} (h : guard.Open req) :
    ∃ token, guard.token req = .ok token := by
  cases guard with
  | adminBearer =>
    exact ⟨some mockSessionSentinel,congrArg (Except.map some) (requireToken_sentinel h)⟩
  | tenantAuth =>
    exact ⟨some mockSessionSentinel,congrArg (Except.map some) (requireToken_sentinel h)⟩
  | session => exact ⟨_,rfl⟩
  | anonymous => exact ⟨_,rfl⟩

theorem gatewayAdminFetch_keyless {env : Env} {token : Option String} {method : Method}
    {path : Path} (h : ¬ (env.holdsKey = true ∧ bearerToken token = none)) :
    (gatewayAdminFetch env token method path).Every Keyless := by
  unfold gatewayAdminFetch
  by_cases hurl : isSet env.gatewayBaseUrl = true
  · cases htoken : bearerToken token with
    | none =>
      have hkey : isSet env.gatewayAdminApiKey = false := by
        simpa [Env.holdsKey,hurl,htoken] using h
      simp [hurl,hkey,Interaction.Every]
    | some bearer =>
      simp only [hurl,Bool.not_true,Bool.false_eq_true,if_false]
      refine ⟨nofun,fun answer => ?_⟩
      cases answer with
      | rejected message => exact trivial
      | response res =>
        by_cases hstatus : res.status ≠ 401
        · simp [hstatus,Interaction.Every]
        · simp only [hstatus,if_false]
          refine ⟨nofun,fun refresh => ?_⟩
          dsimp only
          cases refreshedToken refresh with
          | none => exact trivial
          | some access => exact ⟨nofun,fun _ => trivial⟩
  · simp [hurl,Interaction.Every]

theorem gatewayAdminFetch_opening {env : Env} {token : Option String} (method : Method)
    (path : Path) (hkey : env.holdsKey = true) (htoken : bearerToken token = none) :
    (gatewayAdminFetch env token method path).opening = some ⟨method,path,.adminKey⟩ := by
  simp only [Env.holdsKey,Bool.and_eq_true] at hkey
  simp [gatewayAdminFetch,hkey.1,hkey.2,htoken,Interaction.opening]

theorem send_keyless {env : Env} {token : Option String}
    (h : ¬ (env.holdsKey = true ∧ bearerToken token = none)) (ask : Ask) :
    (send env token ask).Every Keyless := by
  cases ask with
  | admin method path => exact gatewayAdminFetch_keyless h
  | inference =>
    refine ⟨nofun,fun answer => ?_⟩
    cases answer <;> exact trivial

theorem every_concluded (answer : Answer) : (concluded answer).Every Keyless := by
  unfold concluded
  cases answer.read <;> exact trivial

theorem isOk_iff {ε α : Type} {x : Except ε α} : x.isOk = true ↔ ∃ a, x = .ok a := by
  cases x <;> simp [Except.isOk,Except.toBool]

theorem Endpoint.opening_of_exposed {e : Endpoint} {env : Env} {req : Request}
    (h : e.Exposed env req) : ∃ c, (e.handle env req).opening = some c ∧ c.auth = .adminKey := by
  cases e with
  | proxy guard preface checks =>
    obtain ⟨hkey,hopen,hpreface,hchecks⟩ := h
    obtain ⟨u,hpreface⟩ := isOk_iff.1 hpreface
    obtain ⟨x,hchecks⟩ := isOk_iff.1 hchecks
    obtain ⟨token,htoken⟩ := Guard.token_of_open hopen
    have hnone := (Guard.open_iff htoken).1 hopen
    have hfirst := gatewayAdminFetch_opening x.method x.path hkey hnone
    refine ⟨⟨x.method,x.path,.adminKey⟩,?_,rfl⟩
    simp only [Endpoint.handle,hpreface,htoken,hchecks]
    exact Interaction.opening_interpret rfl hfirst
  | download path => nomatch h
  | bootstrap =>
    have hset : isSet env.gatewayAdminApiKey = true := h
    exact ⟨_,rfl,by rw [if_pos hset]⟩
  | elsewhere checks => nomatch h

theorem Endpoint.keyless_of_not_exposed {e : Endpoint} {env : Env} {req : Request}
    (h : ¬ e.Exposed env req) : (e.handle env req).Every Keyless := by
  cases e with
  | proxy guard preface checks =>
    simp only [Endpoint.handle]
    cases hpreface : preface req with
    | error reply => exact trivial
    | ok u =>
      cases htoken : guard.token req with
      | error reply => exact trivial
      | ok token =>
        cases hchecks : checks env req with
        | error reply => exact trivial
        | ok x =>
          have hclosed : ¬ (env.holdsKey = true ∧ bearerToken token = none) := by
            rintro ⟨hkey,hnone⟩
            refine h ⟨hkey,(Guard.open_iff htoken).2 hnone,?_,?_⟩
            · rw [hpreface]; rfl
            · rw [hchecks]; rfl
          exact Interaction.every_interpret (fun ask _ => send_keyless hclosed ask)
            (Interaction.every_true x.script)
  | download path =>
    simp only [Endpoint.handle]
    cases requireAdminBearer req with
    | error reply => exact trivial
    | ok token =>
      by_cases hurl : isSet env.gatewayBaseUrl = true
      · simp only [hurl,Bool.not_true,Bool.false_eq_true,if_false]
        exact ⟨nofun,every_concluded⟩
      · simp [hurl,Interaction.Every]
  | bootstrap =>
    have hset : ¬ isSet env.gatewayAdminApiKey = true := h
    refine ⟨?_,fun _ => trivial⟩
    unfold Keyless
    rw [if_neg hset]
    nofun
  | elsewhere checks =>
    simp only [Endpoint.handle]
    cases checks env req with
    | error reply => exact trivial
    | ok target => exact ⟨nofun,every_concluded⟩

theorem admin_key_withheld_iff (mockMode : Request → Prop) (administrator : String → Prop)
    (env : Env) (route : Route) (req : Request) :
    route.KeyWithheld mockMode administrator env req ↔
      mockMode req ∨ req.FromAdministrator administrator ∨ ¬ route.endpoint.Exposed env req := by
  constructor
  · intro h
    by_cases hmock : mockMode req
    · exact .inl hmock
    by_cases hadmin : req.FromAdministrator administrator
    · exact .inr (.inl hadmin)
    refine .inr (.inr fun hexposed => ?_)
    obtain ⟨c,hc,hkey⟩ := Endpoint.opening_of_exposed hexposed
    exact h hmock hadmin (fun _ _ => .rejected "") c (Interaction.mem_trace_of_opening hc) hkey
  · rintro (hmock | hadmin | hexposed)
    · exact fun hno => absurd hmock hno
    · exact fun _ hno => absurd hadmin hno
    · intro _ _ answer c hc
      exact (Endpoint.keyless_of_not_exposed hexposed).mem_trace hc

def deployed : Env :=
  ⟨some "http://gateway:8000",some "admin-key",fun _ => false⟩

def bareRequest : Request where
  cookie _ := none
  header _ := none
  query _ := none
  param _ := "acme"
  body := some (.obj [("patch",.obj [("allowed_models",.arr [])]),("version",.num 3)])

theorem tenant_patched_without_credentials :
    ¬ Route.tenantsTenantIdConfigPatch.KeyWithheld (fun _ => False) (fun _ => True) deployed
      bareRequest := by
  intro h
  have hanonymous : ¬ bareRequest.FromAdministrator (fun _ => True) := by
    simp [Request.FromAdministrator,Request.Presents,bareRequest]
  refine h not_false hanonymous (fun _ _ => .rejected "")
    ⟨.patch,tenantConfigPath (.str "acme"),.adminKey⟩ ?_ rfl
  exact Interaction.mem_trace_of_opening rfl

end PrismGateway.Frontend
