import Mathlib.Algebra.GroupWithZero.Nat
import PrismGateway.Frontend.AdminClient

namespace PrismGateway.Frontend

open PrismGateway.Lib

mutual

/-- Whether a template literal or `toString()` turns the value into text. A parsed object with a
key `toString` has no method of that name. -/
def printable : Json → Bool
  | .arr items => printableItems items
  | .obj entries => !(entries.map Prod.fst).contains "toString"
  | _ => true

def printableItems : List Json → Bool
  | [] => true
  | j :: items => printable j && printableItems items

end

mutual

-- whether String(v).trim() is empty
def blankText : Json → Bool
  | .str s => trim s = ""
  | .arr items => blankItems items
  | _ => false

-- an array is joined with commas, and null is joined as nothing
def blankItems : List Json → Bool
  | [] => true
  | [.null] => true
  | [j] => blankText j
  | _ => false

end

/-- What `String(environment)` can name; an array of one string prints as that string. -/
def namedEnvironment : Json → Option String
  | .str s => some s
  | .arr [j] => namedEnvironment j
  | _ => none

def isNumber : Option Json → Bool
  | some (.num _) => true
  | _ => false

def isFiniteNumber : Option Json → Bool
  | some (.num x) => x.isFinite
  | _ => false

def isString : Option Json → Bool
  | some (.str _) => true
  | _ => false

def trimmedText : Option Json → String
  | some (.str s) => trim s
  | _ => ""

def isObject : Option Json → Bool
  | some (.arr _) => true
  | some (.obj _) => true
  | _ => false

def utf16Length (s : String) : Nat :=
  (s.toList.map (fun c => if c.toNat < 0x10000 then 1 else 2)).sum

def objectKeys : Option Json → List String
  | some (.obj entries) => entries.map Prod.fst
  | some (.arr items) => (List.range items.length).map toString
  | some (.str s) => (List.range (utf16Length s)).map toString
  | _ => []

def typeError : Failure := .thrown "TypeError"

def require (holds : Bool) (status : Nat) (error : String) : Except Reply Unit :=
  if holds then .ok () else .error (.refused status error)

def demand (holds : Bool) : Except Reply Unit :=
  if holds then .ok () else .error (.failed typeError)

def requestJson (req : Request) : Except Reply Json :=
  match req.body with
  | some body => .ok body
  | none => .error (.failed (.thrown "SyntaxError"))

def isNull : Json → Bool
  | .null => true
  | _ => false

def requestFields (req : Request) : Except Reply Json := do
  let body ← requestJson req
  demand !isNull body
  return body

def requestJsonOrEmpty (req : Request) : Json := req.body.getD (.obj [])

def requiredQuery (req : Request) (name : String) : Except Reply String := do
  require (isSet (req.query name)) 400 (name ++ " is required")
  return (req.query name).getD ""

def tenantIdFromRequest (req : Request) (body : Json) : Except Reply String := do
  if isSet (req.query "tenant_id") then return (req.query "tenant_id").getD ""
  demand !isNull body
  require (trimmedText (prop body "tenant_id") ≠ "") 400 "tenant_id is required"
  return trimmedText (prop body "tenant_id")

def hexValue (c : Char) : Option Nat :=
  if '0' ≤ c ∧ c ≤ '9' then some (c.toNat - '0'.toNat)
  else if 'a' ≤ c ∧ c ≤ 'f' then some (c.toNat - 'a'.toNat + 10)
  else if 'A' ≤ c ∧ c ≤ 'F' then some (c.toNat - 'A'.toNat + 10)
  else none

def percentBytes : List Char → Option (List UInt8)
  | [] => some []
  | '%' :: a :: b :: rest => do
    let high ← hexValue a
    let low ← hexValue b
    return UInt8.ofNat (16 * high + low) :: (← percentBytes rest)
  | '%' :: _ => none
  | c :: rest => do return String.utf8EncodeChar c ++ (← percentBytes rest)

def decodeURIComponent (s : String) : Option String := do
  String.fromUTF8? ⟨(← percentBytes s.toList).toArray⟩

def decodableRequestId (req : Request) : Except Reply Unit :=
  if (decodeURIComponent (req.param "requestId")).isSome then .ok ()
  else .error (.failed (.thrown "URI malformed"))

def decodedRequestId (req : Request) : Piece :=
  .encoded (.str ((decodeURIComponent (req.param "requestId")).getD ""))

abbrev Fallible := ExceptT Failure (Script)

def fetch (method : Method) (path : Path) : Fallible Json :=
  ExceptT.mk (.call (.admin method path) .done)

def answered : Except Failure Reply → Reply
  | .ok reply => reply
  | .error failure => .failed failure

def fetching (method : Method) (path : Path) (rest : Json → Fallible Reply) : Exchange :=
  ⟨method,path,fun answer => match answer with
    | .ok data => (rest data).run.bind (fun result => .done (answered result))
    | .error failure => .done (.failed failure)⟩

def forwarding (method : Method) (path : Path) (status : Nat) : Exchange :=
  fetching method path (fun _ => pure (.sent status))

def askAll : List Path → Script (List (Except Failure Json))
  | [] => .done []
  | path :: paths => .call (.admin .get path) (fun answer =>
      (askAll paths).bind (fun answers => .done (answer :: answers)))

def settled (answers : List (Except Failure Json)) : Reply :=
  match answers.findSome? (fun answer => match answer with
    | .error failure => some failure
    | .ok _ => none) with
  | some failure => .failed failure
  | none => .sent 200

def together (path : Path) (paths : List Path) : Exchange :=
  ⟨.get,path,fun answer =>
    (askAll paths).bind (fun answers => .done (settled (answer :: answers)))⟩

-- `(result as { data?: unknown[] }).data || []`, of which an array method is then called
def dataItems (result : Json) : Except Failure (List Json) :=
  if isNull result then .error typeError
  else if truthy (prop result "data") then
    match prop result "data" with
    | some (.arr items) => .ok items
    | _ => .error typeError
  else .ok []

def isText (v : Option Json) (s : String) : Bool :=
  match v with
  | some (.str t) => t = s
  | _ => false

def findById (id : String) : List Json → Except Failure Bool
  | [] => .ok false
  | item :: items =>
    if isNull item then .error typeError
    else if isText (prop item "id") id then .ok true
    else findById id items

-- `config.version || 1`, then its `toString()`
def versionHeader (config : Json) : Except Failure Unit :=
  if isNull config then .error typeError
  else if truthy (prop config "version") && !printable ((prop config "version").getD .null) then
    .error typeError
  else .ok ()

def tenantConfigPath (tenantId : Json) : Path :=
  [.lit "/admin/tenants/",.raw tenantId,.lit "/config"]

def modelPath (modelId : Json) : Path := [.lit "/admin/models/",.raw modelId]

def globalConfigPath : Path := [.lit "/admin/config/global"]

def routeGroups (config : Json) : Option Json :=
  (prop config "config").bind (fun c => (prop c "selection").bind (fun s => prop s "route_groups"))

def field : Option Json → Piece
  | some v => .raw v
  | none => .lit "undefined"

def perTenant (paths : Piece → List Path) (tenants : List Json) : List Path :=
  (tenants.filter (fun tenant => !isNull tenant &&
    printable ((prop tenant "tenant_id").getD .null))).flatMap
      (fun tenant => paths (field (prop tenant "tenant_id")))

def forbidden : Except Failure Json → Option Failure
  | .error (.gateway statusCode message) =>
    if statusCode = 401 ∨ statusCode = 403 then some (.gateway statusCode message) else none
  | _ => none

def usageSummaries (resp : Json) : Fallible Reply := do
  let tenants := match prop resp "data" with
    | some (.arr items) => items
    | _ => []
  let answers ← ExceptT.lift (askAll (perTenant (fun tenant =>
    [[.lit "/admin/tenants/",tenant,.lit "/usage/summary"]]) tenants))
  match answers.findSome? forbidden with
  | some failure => throw failure
  | none => if tenants.any isNull then throw typeError else return .sent 200

def tenantBudgets (resp : Json) : Fallible Reply := do
  let tenants ← ExceptT.mk (pure (dataItems resp))
  discard (ExceptT.lift (askAll (perTenant (fun tenant =>
    [[.lit "/admin/tenants/",tenant,.lit "/config"],
      [.lit "/admin/tenants/",tenant,.lit "/budgets/status"]]) tenants)))
  return .sent 200

def getModel (modelId : String) (result : Json) : Fallible Reply := do
  let models ← ExceptT.mk (pure (dataItems result))
  if ← ExceptT.mk (pure (findById modelId models)) then
    let globalConfig ← fetch .get globalConfigPath
    if isNull globalConfig then throw typeError else return .sent 200
  else return .refused 404 ("Model " ++ modelId ++ " not found")

def getProvider (providerId : String) (result : Json) : Fallible Reply := do
  let providers ← ExceptT.mk (pure (dataItems result))
  if ← ExceptT.mk (pure (findById providerId providers)) then
    tryCatch (discard (fetch .get globalConfigPath)) (fun _ => pure ())
    return .sent 200
  else return .refused 404 ("Provider " ++ providerId ++ " not found")

def updateModel (modelId : Json) (model : Json) (globalConfig : Json) : Fallible Reply := do
  ExceptT.mk (pure (versionHeader globalConfig))
  if isNull model then throw typeError
  discard (fetch .patch (modelPath modelId))
  return .sent 200

def deleteModel (modelId : String) (globalConfig : Json) : Fallible Reply := do
  ExceptT.mk (pure (versionHeader globalConfig))
  discard (fetch .delete (modelPath (.str modelId)))
  return .sent 200

def createModel (body : Json) (globalConfig : Json) : Fallible Reply := do
  ExceptT.mk (pure (versionHeader globalConfig))
  let result ← fetch .post [.lit "/admin/models"]
  if isText (prop body "provider") "bedrock" then
    let id := (prop body "id").getD .null
    let native := trimmedText (prop body "provider_model_id")
    if native = "" && !printable id then throw typeError
    if isNull result then throw typeError
    let newVersion := (prop result "version").getD .null
    if (native ≠ "" || !blankText id) && !isNull newVersion && printable newVersion &&
        printable id then
      tryCatch (discard (fetch .patch (modelPath id))) (fun _ => pure ())
  return .sent 201

def getRouteGroup (tenantId routeGroupId : String) (config : Json) : Fallible Reply := do
  if isNull config then throw typeError
  if (objectKeys (routeGroups config)).contains routeGroupId then
    let tenantConfig ← fetch .get (tenantConfigPath (.str tenantId))
    if isNull tenantConfig then throw typeError else return .sent 200
  else return .refused 404 ("Route group " ++ routeGroupId ++ " not found")

def putRouteGroup (tenantId routeGroupId : Json) (status : Nat) (config : Json) :
    Fallible Reply := do
  ExceptT.mk (pure (versionHeader config))
  if !printable routeGroupId then throw typeError
  discard (fetch .patch (tenantConfigPath tenantId))
  return .sent status

def toolRoutingTest (tenantId : String) : Exchange :=
  ⟨.post,[.lit "/admin/tenants/",.encoded (.str tenantId),.lit "/api-keys"],fun answer =>
    match answer with
    | .error failure => .done (.failed failure)
    | .ok created =>
      if truthy (prop created "key") && truthy (prop created "id") then
        .call .inference (fun inference =>
          .call (.admin .post [.lit "/admin/tenants/",.encoded (.str tenantId),.lit "/api-keys/",
            .encoded ((prop created "id").getD .null),.lit "/revoke"]) (fun _ =>
              match inference with
              | .ok _ => .done .relayed
              | .error _ => .done (.refused 503 "Backend unreachable")))
      else .done (.refused 500 "Failed to obtain test credentials for tenant")⟩

def adminProxy (checks : Env → Request → Except Reply Exchange) : Endpoint :=
  .proxy .adminBearer (fun _ => .ok ()) checks

def tenantProxy (checks : Env → Request → Except Reply Exchange) : Endpoint :=
  .proxy .tenantAuth (fun _ => .ok ()) checks

def sessionProxy (checks : Env → Request → Except Reply Exchange) : Endpoint :=
  .proxy .session (fun _ => .ok ()) checks

def passed (method : Method) (path : Request → Path) (status : Nat) (_ : Env) (req : Request) :
    Except Reply Exchange :=
  .ok (forwarding method (path req) status)

def withBody (method : Method) (path : Request → Path) (status : Nat) (_ : Env) (req : Request) :
    Except Reply Exchange := do
  discard (requestJson req)
  return forwarding method (path req) status

def withTenant (method : Method) (path : Request → Path) (_ : Env) (req : Request) :
    Except Reply Exchange := do
  discard (requiredQuery req "tenant_id")
  return forwarding method (path req) 200

def withTenantIdFromRequest (path : Path) (_ : Env) (req : Request) : Except Reply Exchange := do
  discard (tenantIdFromRequest req (requestJsonOrEmpty req))
  return forwarding .post path 200

def versioned (error : String) (path : Request → Path) (_ : Env) (req : Request) :
    Except Reply Exchange := do
  let body ← requestFields req
  let version := (prop body "version").getD .null
  require (prop body "version").isSome 400 error
  demand (!isNull version && printable version)
  return forwarding .patch (path req) 200

def unanswered (reply : Reply) : Endpoint := .elsewhere (fun _ _ => .error reply)

def keycloakToken : Method × Path := (.post,[.lit "/protocol/openid-connect/token"])

def fixed (path : String) (_ : Request) : Path := [.lit path]

def rawPath (start name rest : String) (req : Request) : Path :=
  [.lit start,.raw (.str (req.param name)),.lit rest]

def encodedPath (start name rest : String) (req : Request) : Path :=
  [.lit start,.encoded (.str (req.param name)),.lit rest]

def tenantPath (rest : String) (req : Request) : Path :=
  rawPath "/admin/tenants/" "tenantId" rest req

def tenantKeyPath (action : String) (req : Request) : Path :=
  [.lit "/admin/tenants/",.raw (.str (req.param "tenantId")),.lit "/api-keys/",
    .raw (.str (req.param "keyId")),.lit action]

def catalogPath (start : String) (req : Request) : Path :=
  [.lit start,.encoded (.str (req.param "provider")),.lit "/",.encoded (.str (req.param "id"))]

end PrismGateway.Frontend
