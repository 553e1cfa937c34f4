import PrismGateway.Lib.Positions
import PrismGateway.Admin.Isolation
import PrismGateway.Storage.GlobalVersions
import PrismGateway.Storage.TenantVersions

namespace PrismGateway.Admin.ConfigReads

open Lib Lib.Json Storage

structure ConfigChange where
  id : String
  timestamp : Int
  tenantID : String
  actorSub : String
  actorRoles : List String
  fromVersion : Int
  toVersion : Int
  summary : String
  diff : Json

structure Store where
  global : Global.Db
  tenant : String → Tenant.Db
  changeLog : List ConfigChange

/-- What a read takes from the process: the orders in which it ranges over maps,
`strings.ToUpper`, and the configuration file the global configuration falls back to. -/
structure Server where
  order : BlindOrder
  keyOrder : List String → List String
  keyPerm : ∀ l, (keyOrder l).Perm l
  toUpper : String → String
  yamlConfig : Json

def getGlobalConfig (db : Global.Db) : Option (Json × Int) :=
  match db.selectActive with
  | some found => some found
  | none => db.selectLatest

def getTenantConfig (order : MapOrder) (db : Tenant.Db) : Option (Json × Int) :=
  db.current.map (Tenant.ConfigRow.read order)

def getConfigAtVersion (store : Store) (scope tenantID : String) (version : Int) : Option Json :=
  if scope = "global" then (store.global.row version).map (fun r => r.configJSON)
  else ((store.tenant tenantID).versions.find? (fun r => r.version = version)).map
    (fun r => r.config)

def listTenantConfigChanges (store : Store) (tenantID : String) (limit : Int) :
    List ConfigChange :=
  let limit := if limit ≤ 0 ∨ limit > 200 then 50 else limit
  ((store.changeLog.filter (fun c => c.tenantID = tenantID)).mergeSort
    (fun c d => d.timestamp ≤ c.timestamp)).take limit.toNat

inductive Response where
  | failed (status : Nat) (message type : String)
  | panicked
  | globalConfig (version : Int) (config : Json)
  | tenantConfig (tenantID : String) (version : Int) (config : Json)
  | configDiff (scope tenantID : String) (fromVersion toVersion : Int) (before after : Json)
      (changedFields : List String)
  | configChanges (tenantID : String) (changes : List ConfigChange)

def requireGlobalConfigAdminRole (roles : List String) : Bool :=
  roles = [] || Isolation.hasAnyRole roles Isolation.adminBypassRoles

def insufficientPermissions : Response :=
  .failed 403 "insufficient permissions" "authorization_error"

def providerSecretKeys : List String :=
  ["api_key","APIKey","aws_secret_access_key","AwsSecretAccessKey"]

def redactText : Json → Json
  | .str v => .str (mark v)
  | j => j

def redactProvider : Json → Json
  | .obj pm => .obj (amend (fun k j => if k ∈ providerSecretKeys then redactText j else j) pm)
  | j => j

def redactProviders : Json → Json
  | .obj provMap => .obj (amend (fun _ j => redactProvider j) provMap)
  | j => j

def redactProviderSecretsInGlobalConfigMap (root : Entries) : Entries :=
  amend (fun k j => if k = "providers" then redactProviders j else j) root

-- a document that is no object leaves the map nil, which is written as null
def servedGlobal : Json → Json
  | .obj root => .obj (redactProviderSecretsInGlobalConfigMap root)
  | _ => .null

def adminGetGlobalConfig (server : Server) (store : Store) (roles : List String) : Response :=
  if !requireGlobalConfigAdminRole roles then insufficientPermissions
  else match getGlobalConfig store.global with
    | some (configJSON,version) => .globalConfig version (servedGlobal configJSON)
    | none => .globalConfig 0 (servedGlobal server.yamlConfig)

def environmentOf (configMap : Entries) : String :=
  match configMap.lookup "environment" with
  | some (.str env) => if env = "" then "DEV" else env
  | _ => "DEV"

def servedTenant (server : Server) : Json → Json
  | .obj configMap => .obj (amend (fun k j => if k = "hooks" then deleteNestedSecrets j else j)
      (GoMap.insert "environment" (.str (server.toUpper (environmentOf configMap))) configMap))
  | j => j

def isMap : Json → Bool
  | .obj _ => true
  | _ => false

def adminGetTenantConfig (server : Server) (store : Store) (tenantID : String) : Response :=
  match getTenantConfig server.order.toMapOrder (store.tenant tenantID) with
  | none => .failed 404 "tenant not found" "not_found"
  | some (config,version) =>
    -- the environment is assigned to a nil map when the document is no object
    if isMap config then .tenantConfig tenantID version (servedTenant server config) else .panicked

mutual

def deepEqual : Json → Json → Bool
  | .null, .null => true
  | .bool a, .bool b => a = b
  | .num x, .num y => x == y
  | .str s, .str t => s = t
  | .arr items, .arr items' => deepEqualItems items items'
  | .obj entries, .obj entries' =>
    entries.length = entries'.length && deepEqualEntries entries entries'
  | _, _ => false

def deepEqualItems : List Json → List Json → Bool
  | [], [] => true
  | j :: items, j' :: items' => deepEqual j j' && deepEqualItems items items'
  | _, _ => false

def deepEqualEntries : Entries → Entries → Bool
  | [], _ => true
  | (k,j) :: entries, entries' =>
    (entries'.lookup k).any (deepEqual j) && deepEqualEntries entries entries'

end

def visited (keyOrder : List String → List String) (found : List (String × List String)) :
    List String :=
  (keyOrder (found.map Prod.fst)).flatMap (fun k => (found.lookup k).getD [])

def addedFields (pre : String) (before after : Entries) : List (String × List String) :=
  (after.filter (fun e => (before.lookup e.1).isNone)).map
    (fun e => (e.1,if deepEqual .null e.2 then [] else [pre ++ e.1]))

mutual

def changedValue (keyOrder : List String → List String) (p : String) : Json → Json → List String
  | .obj bm, .obj am => visited keyOrder
      (changedEntries keyOrder (p ++ ".") bm am ++ addedFields (p ++ ".") bm am)
  | bv, av => if deepEqual bv av then [] else [p]

-- a key that is missing after reads as nil
def changedEntries (keyOrder : List String → List String) (pre : String) :
    Entries → Entries → List (String × List String)
  | [], _ => []
  | (k,bv) :: before, after =>
    (k,changedValue keyOrder (pre ++ k) bv ((after.lookup k).getD .null)) ::
      changedEntries keyOrder pre before after

end

-- One `keyOrder` serves all maps of a call, where Go draws an order for each of them.
def changedFieldPaths (keyOrder : List String → List String) (before after : Entries) :
    List String :=
  visited keyOrder (changedEntries keyOrder "" before after ++ addedFields "" before after)

structure DiffRequest where
  roles : List String
  scope : String
  tenantID : String
  fromVersion : String
  toVersion : String

def invalidRequest (message : String) : Response := .failed 400 message "invalid_request_error"

def DiffRequest.versions (r : DiffRequest) : Except Response (Int × Int) :=
  if !requireGlobalConfigAdminRole r.roles then .error insufficientPermissions
  else if r.scope ≠ "global" ∧ r.scope ≠ "tenant" then
    .error (invalidRequest "invalid or missing scope (required: global or tenant)")
  else if r.scope = "tenant" ∧ r.tenantID = "" then
    .error (invalidRequest "tenant_id is required when scope=tenant")
  else if r.fromVersion = "" ∨ r.toVersion = "" then
    .error (invalidRequest "from_version and to_version are required")
  else match GoStrings.atoi r.fromVersion, GoStrings.atoi r.toVersion with
    | none, _ => .error (invalidRequest "from_version must be an integer")
    | some _, none => .error (invalidRequest "to_version must be an integer")
    | some fromVersion, some toVersion => .ok (fromVersion,toVersion)

def DiffRequest.documents (r : DiffRequest) (store : Store) (fromVersion toVersion : Int) :
    Except Response (Entries × Entries) :=
  match getConfigAtVersion store r.scope r.tenantID fromVersion,
      getConfigAtVersion store r.scope r.tenantID toVersion with
  | none, _ => .error (.failed 404 "from_version not found" "not_found")
  | some _, none => .error (.failed 404 "to_version not found" "not_found")
  | some beforeRaw, some afterRaw =>
    match asMap beforeRaw, asMap afterRaw with
    | none, _ => .error (.failed 500 "invalid config at from_version" "internal_error")
    | some _, none => .error (.failed 500 "invalid config at to_version" "internal_error")
    | some beforeMap, some afterMap => .ok (beforeMap,afterMap)

def adminConfigDiff (server : Server) (store : Store) (r : DiffRequest) : Response :=
  match r.versions with
  | .error response => response
  | .ok (fromVersion,toVersion) =>
    match r.documents store fromVersion toVersion with
    | .error response => response
    | .ok (before,after) =>
      .configDiff r.scope (if r.scope = "tenant" then r.tenantID else "") fromVersion toVersion
        (.obj before) (.obj after) (changedFieldPaths server.keyOrder before after)

def adminListConfigChanges (store : Store) (tenantID limitStr : String) : Response :=
  .configChanges tenantID
    (listTenantConfigChanges store tenantID ((GoStrings.atoi limitStr).getD 50))

inductive Read where
  | globalConfig (roles : List String)
  | tenantConfig (tenantID : String)
  | configDiff (r : DiffRequest)
  | configChanges (tenantID limitStr : String)

def respond (server : Server) (store : Store) : Read → Response
  | .globalConfig roles => adminGetGlobalConfig server store roles
  | .tenantConfig tenantID => adminGetTenantConfig server store tenantID
  | .configDiff r => adminConfigDiff server store r
  | .configChanges tenantID limitStr => adminListConfigChanges store tenantID limitStr

end PrismGateway.Admin.ConfigReads
