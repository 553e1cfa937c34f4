import PrismGateway.Lib.Interaction
import PrismGateway.Lib.GoStrings
import PrismGateway.Lib.Json

namespace PrismGateway.Frontend

open PrismGateway.Lib

def isWhiteSpace (c : Char) : Bool :=
  (GoStrings.isSpace c && c ≠ '\u0085') || c = '\uFEFF'

def trim (s : String) : String :=
  String.ofList (((s.toList.dropWhile isWhiteSpace).reverse.dropWhile isWhiteSpace).reverse)

structure Request where
  cookie : String → Option String
  header : String → Option String
  query : String → Option String
  param : String → String
  body : Option Json

/-- The server's environment, with what `auth/refresh` makes of a refresh token: that its type,
client and issuer are those of this realm. -/
structure Env where
  gatewayBaseUrl : Option String
  gatewayAdminApiKey : Option String
  ownRefreshToken : Json → Bool

def isSet : Option String → Bool
  | some s => s ≠ ""
  | none => false

inductive Method where
  | get
  | post
  | put
  | patch
  | delete
  deriving DecidableEq

inductive Piece where
  | lit (s : String)
  | raw (v : Json)
  | encoded (v : Json)

abbrev Path := List Piece

inductive Auth where
  | anonymous
  | bearer (token : Json)
  | adminKey
  | ephemeralKey

structure Call where
  method : Method
  path : Path
  auth : Auth

structure Response where
  status : Nat
  text : String
  json : Option Json

def Response.ok (res : Response) : Bool := 200 ≤ res.status && res.status < 300

inductive Answer where
  | response (res : Response)
  | rejected (message : String)

inductive Failure where
  | gateway (statusCode : Nat) (message : String)
  | thrown (message : String)

def Failure.message : Failure → String
  | .gateway _ message => message
  | .thrown message => message

def unreachable (failure : Failure) : Failure :=
  if GoStrings.contains failure.message "ECONNREFUSED" then
    .gateway 503 "Backend unreachable. Check GATEWAY_BASE_URL or Docker port mapping."
  else failure

def Response.read (res : Response) : Except Failure Json :=
  if !res.ok then
    .error (unreachable
      (.gateway res.status ("Gateway error " ++ toString res.status ++ ": " ++ res.text)))
  else if res.status = 204 then .ok .null
  else match res.json with
    | some data => .ok data
    | none => .error (.thrown "Unexpected token")

def Answer.read : Answer → Except Failure Json
  | .response res => res.read
  | .rejected message => .error (unreachable (.thrown message))

def prop (v : Json) (key : String) : Option Json :=
  match v with
  | .obj entries => entries.lookup key
  | _ => none

def truthy : Option Json → Bool
  | none => false
  | some .null => false
  | some (.bool b) => b
  | some (.num x) => !(x == 0) && !x.isNaN
  | some (.str s) => s ≠ ""
  | some (.arr _) => true
  | some (.obj _) => true

def mockSessionSentinel : String := "__mock_session__"

def getAdminAuthToken (req : Request) : Option String :=
  if req.cookie "is_mock_session" = some "1" then some mockSessionSentinel
  else if isSet (req.cookie "admin_access_token") then req.cookie "admin_access_token"
  else match req.header "authorization" with
    | some authHeader => (GoStrings.cutPrefix "Bearer " authHeader).map trim
    | none => none

def bearerToken (requestAuthToken : Option String) : Option String :=
  requestAuthToken.filter (fun token => token ≠ "" && token ≠ mockSessionSentinel)

def refreshServer : Call := ⟨.post,[.lit "/api/auth/refresh-server"],.anonymous⟩

def refreshedToken : Answer → Option Json
  | .response res => do
    let data ← if res.ok then res.json else none
    if truthy (prop data "ok") && truthy (prop data "access_token") then
      prop data "access_token"
    else none
  | .rejected _ => none

-- a retry that fails is swallowed with the refresh, and the first answer is reported
def retried (res : Response) : Answer → Except Failure Json
  | .response retryRes => if retryRes.ok then retryRes.read else res.read
  | .rejected _ => res.read

def gatewayAdminFetch (env : Env) (requestAuthToken : Option String) (method : Method)
    (path : Path) : Interaction Call Answer (Except Failure Json) :=
  if !isSet env.gatewayBaseUrl then
    .done (.error (.gateway 500 "Missing GATEWAY_BASE_URL"))
  else match bearerToken requestAuthToken with
    | none =>
      if !isSet env.gatewayAdminApiKey then
        .done (.error (.gateway 500 "Missing GATEWAY_ADMIN_API_KEY"))
      else .call ⟨method,path,.adminKey⟩ (fun answer => .done answer.read)
    | some token => .call ⟨method,path,.bearer (.str token)⟩ (fun answer =>
        match answer with
        | .rejected _ => .done answer.read
        | .response res =>
          if res.status ≠ 401 then .done res.read
          else .call refreshServer (fun refresh =>
            match refreshedToken refresh with
            | none => .done res.read
            | some access => .call ⟨method,path,.bearer access⟩ (fun retry =>
                .done (retried res retry))))

inductive Reply where
  | sent (status : Nat)
  | relayed
  | refused (status : Nat) (error : String)
  | failed (failure : Failure)

def requireToken (req : Request) : Except Reply String :=
  match getAdminAuthToken req with
  | some token => if token = "" then .error (.refused 401 "Authentication required") else .ok token
  | none => .error (.refused 401 "Authentication required")

def requireAdminBearer (req : Request) : Except Reply String := requireToken req

def requireTenantAuth (req : Request) : Except Reply String := requireToken req

inductive Ask where
  | admin (method : Method) (path : Path)
  | inference

def send (env : Env) (token : Option String) : Ask → Interaction Call Answer (Except Failure Json)
  | .admin method path => gatewayAdminFetch env token method path
  | .inference =>
    .call ⟨.post,[.lit "/v1/chat/completions"],.ephemeralKey⟩ (fun answer =>
      match answer with
      | .response _ => .done (.ok .null)
      | .rejected message => .done (.error (.thrown message)))

abbrev Script := Interaction Ask (Except Failure Json)

structure Exchange where
  method : Method
  path : Path
  next : Except Failure Json → Script Reply

def Exchange.script (x : Exchange) : Script Reply := .call (.admin x.method x.path) x.next

inductive Guard where
  | adminBearer
  | tenantAuth
  | session
  | anonymous
  deriving DecidableEq

def Guard.token (req : Request) : Guard → Except Reply (Option String)
  | .adminBearer => (requireAdminBearer req).map some
  | .tenantAuth => (requireTenantAuth req).map some
  | .session => .ok (getAdminAuthToken req)
  | .anonymous => .ok none

/-- An exported handler of a `route.ts`. A `proxy` does its `preface`, asks for a token, makes its
own checks and gives that one token to every `gatewayAdminFetch`; a `download` sends the token
itself; `bootstrap` fetches the global configuration for the login page; the handlers that talk to
Keycloak, to an endpoint the client names or to nobody are `elsewhere`. -/
inductive Endpoint where
  | proxy (guard : Guard) (preface : Request → Except Reply Unit)
      (checks : Env → Request → Except Reply Exchange)
  | download (path : Path)
  | bootstrap
  | elsewhere (checks : Env → Request → Except Reply (Method × Path))

def concluded (answer : Answer) : Interaction Call Answer Reply :=
  match answer.read with
  | .ok _ => .done (.sent 200)
  | .error failure => .done (.failed failure)

def Endpoint.handle (env : Env) (req : Request) : Endpoint → Interaction Call Answer Reply
  | .proxy guard preface checks =>
    match preface req, guard.token req, checks env req with
    | .error reply, _, _ => .done reply
    | .ok _, .error reply, _ => .done reply
    | .ok _, .ok _, .error reply => .done reply
    | .ok _, .ok token, .ok exchange => exchange.script.interpret (send env token)
  | .download path =>
    match requireAdminBearer req with
    | .error reply => .done reply
    | .ok token =>
      if !isSet env.gatewayBaseUrl then .done (.refused 500 "Missing GATEWAY_BASE_URL")
      else .call ⟨.get,path,.bearer (.str token)⟩ concluded
  | .bootstrap =>
    .call ⟨.get,[.lit "/admin/config/global"],
      if isSet env.gatewayAdminApiKey then .adminKey else .anonymous⟩ (fun _ => .done (.sent 200))
  | .elsewhere checks =>
    match checks env req with
    | .error reply => .done reply
    | .ok (method,path) => .call ⟨method,path,.anonymous⟩ concluded

end PrismGateway.Frontend
