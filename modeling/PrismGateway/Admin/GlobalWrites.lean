import PrismGateway.Admin.ConfigReads
import PrismGateway.Admin.ModelPatch
import PrismGateway.Storage.PathMerge

namespace PrismGateway.Storage.Global

open Lib

def Db.getGlobalConfig (db : Db) : Db × Option (Json × Int) :=
  match db.selectActive with
  | some found => (db,some found)
  | none => match db.selectLatest with
    | some (config,version) => ({ db with active := some version },some (config,version))
    | none => (db,none)

structure Stands (db : Db) (doc : Json) : Prop where
  below : ∀ r ∈ db.versions, r.id < db.nextID
  active : ∃ version, db.selectActive = some (doc,version)

variable {db db' : Db} {doc : Json} {v n : Int} {actor : Actor}

theorem Stands.getGlobalConfig (h : Stands db doc) :
    ∃ version, db.getGlobalConfig = (db,some (doc,version)) := by
  obtain ⟨version,hactive⟩ := h.active
  exact ⟨version,by rw [Db.getGlobalConfig,hactive]⟩

theorem stands_of_put (hbelow : ∀ r ∈ db.versions, r.id < db.nextID)
    (h : db.putGlobalConfig v doc actor = (.newVersion n,db')) : Stands db' doc := by
  rw [Db.putGlobalConfig] at h
  cases hactive : db.active with
  | none =>
    rw [hactive] at h
    cases h
  | some current =>
    rw [hactive] at h
    dsimp only at h
    split_ifs at h
    · cases h
    · cases h
      have hold : db.versions.find? (fun r => r.id = db.nextID) = none := by
        rw [List.find?_eq_none]
        intro r hr
        have hlt := hbelow r hr
        simp only [decide_eq_true_eq]
        omega
      refine ⟨?_,db.nextID,?_⟩
      · intro r hr
        rcases List.mem_append.mp hr with hr | hr
        · exact (hbelow r hr).trans (Int.lt_succ _)
        · rw [List.mem_singleton.mp hr]
          exact Int.lt_succ _
      · simp [Db.selectActive,Db.row,Db.log,List.find?_append,hold]

theorem stands_of_patch {p : Patch} {version : Int} (h : Stands db doc)
    (hpatch : db.patchGlobalConfig p (some (doc,version)) = (.newVersion n,db')) :
    ∃ finalJSON, patchedConfig p.orders doc p.mergePatch = .ok finalJSON ∧ Stands db' finalJSON := by
  rw [Db.patchGlobalConfig] at hpatch
  split_ifs at hpatch
  · cases hpatch
  · cases hp : patchedConfig p.orders doc p.mergePatch with
    | error message =>
      rw [hp] at hpatch
      cases hpatch
    | ok finalJSON =>
      rw [hp] at hpatch
      exact ⟨finalJSON,rfl,stands_of_put h.below hpatch⟩

end PrismGateway.Storage.Global

namespace PrismGateway.Admin

open Lib Config.Schemas Storage

/-- The configuration file, and whether `url.Parse` finds a scheme and a host in a text. -/
structure Process where
  yaml : YamlConfig
  absoluteURL : String → Bool

structure AuthView where
  mode : String
  issuer : String
  audience : String
  jwksURL : String
  requiredClaims : List (String × String)

def authViewOf : authConfig.Val → AuthView
  | (mode,(issuer,_,audience,jwksURL,_,claims,_),_) => ⟨mode,issuer,audience,jwksURL,claims.val⟩

def authOf : globalConfig.Val → Option AuthView
  | (auth,_) => Option.map authViewOf auth

def missingClaim (claims : List (String × String)) (name : String) : Bool :=
  GoStrings.trimSpace ((claims.lookup name).getD "") = ""

def validateGlobalConfigAuth (process : Process) (claimsSent : Bool) :
    Option AuthView → Except String Unit
  | none => .ok ()
  | some auth =>
    if auth.mode = "" then .error "auth.mode is required when auth is present"
    else if auth.mode ∉ ["api_key","jwt","both"] then
      .error ("auth.mode must be one of api_key, jwt, both; got " ++ quoted auth.mode)
    else if auth.mode = "api_key" then .ok ()
    else if auth.issuer = "" then .error "auth.jwt.issuer is required when auth.mode includes JWT"
    else if auth.audience = "" then
      .error "auth.jwt.audience is required when auth.mode includes JWT"
    else if auth.jwksURL = "" then
      .error "auth.jwt.jwks_url is required when auth.mode includes JWT"
    else if !process.absoluteURL auth.jwksURL then .error "auth.jwt.jwks_url must be a valid URL"
    else if claimsSent && missingClaim auth.requiredClaims "tenant_id" then
      .error ("auth.jwt.required_claims.tenant_id must be a non-empty string when " ++
        "required_claims is set")
    else if claimsSent && missingClaim auth.requiredClaims "roles" then
      .error "auth.jwt.required_claims.roles must be a non-empty string when required_claims is set"
    else .ok ()

def validateModelNames : List String → List String → Except String Unit
  | _, [] => .ok ()
  | seen, name :: names =>
    if name = "" then .error "all models must have a non-empty name"
    else if name ∈ seen then .error ("duplicate model name: " ++ quoted name)
    else validateModelNames (name :: seen) names

def validateGlobalConfigOrError (process : Process) (claimsSent : Bool) (gc : globalConfig.Val) :
    Except String Unit :=
  match validateModelNames [] ((modelsOf gc).map nameOf) with
  | .error message => .error message
  | .ok () => validateGlobalConfigAuth process claimsSent (authOf gc)

def requiredClaimsSent (doc : Json) : Bool :=
  match doc.read ["auth","jwt","required_claims"] with
  | some (.obj _) => true
  | _ => false

structure Written where
  version : Int
  message : String
  warnings : List String

def insufficientPermissions : Failure := ⟨403,"insufficient permissions","authorization_error"⟩

def answered (internal : String) (done : Int → Written) :
    Global.Reply × Global.Db → Global.Db × Except Failure Written
  | (.newVersion newVersion,db) => (db,.ok (done newVersion))
  | (.versionConflict expected current,db) => (db,.error (versionConflict ⟨expected,current⟩))
  | (_,db) => (db,.error ⟨500,internal,"internal_error"⟩)

section Handlers

variable (process : Process) (db : Global.Db) (actor : Global.Actor)

def putGlobal (ifMatchVersion : Int) (gc : globalConfig.Val) : Global.Reply × Global.Db :=
  db.putGlobalConfig ifMatchVersion (globalConfig.encode (stripProviderSecretsForStorage gc)) actor

def adminPutGlobalConfig (order : Json.MapOrder) (ifMatch : IfMatch) (body : Except String Json) :
    Global.Db × Except Failure Written :=
  if !ConfigReads.requireGlobalConfigAdminRole actor.roles then (db,.error insufficientPermissions)
  else match ifMatch.parse with
  | .error failure => (db,.error failure)
  | .ok ifMatchVersion => match body with
    | .error message => (db,.error (invalidRequest ("invalid JSON: " ++ message)))
    | .ok rawBody =>
      let finalized := finalizeGlobalConfigJSON order (parsed rawBody)
      match globalConfig.decode finalized globalConfig.zero with
      | none => (db,.error (invalidRequest "invalid JSON"))
      | some newGC =>
        match validateGlobalConfigOrError process (requiredClaimsSent finalized) newGC with
        | .error message => (db,.error ⟨422,message,"validation_error"⟩)
        | .ok () => answered "failed to update global config"
            (fun newVersion => ⟨newVersion,"Global configuration updated successfully",
              validateGlobalConfig newGC⟩)
            (putGlobal db actor ifMatchVersion newGC)

def rollbackBody : Schema := record [req "rollback_to_version" (.ptr .int)]

def rollbackTo (rawBody : Json) : Option Int :=
  (rollbackBody.decode rawBody rollbackBody.zero).bind (fun v => v.1)

-- compares ten characters with the eight of "version ", so that it never holds
def isNotFoundErr (message : String) : Bool :=
  10 < message.utf8ByteSize && String.ofList (message.toList.take 10) = "version "

def rollback (ifMatchVersion targetVersion : Int) : Global.Db × Except Failure Written :=
  if targetVersion ≤ 0 then
    (db,.error (invalidRequest "rollback_to_version must be a positive integer"))
  else match db.rollbackGlobalConfig ifMatchVersion targetVersion actor with
  | (.rolledBack version,db) =>
    (db,.ok ⟨version,"Global configuration rolled back to version " ++ toString version,[]⟩)
  | (.versionConflict expected current,db) => (db,.error (versionConflict ⟨expected,current⟩))
  | (.failed message,db) =>
    if isNotFoundErr message then (db,.error ⟨404,message,"not_found"⟩)
    else (db,.error ⟨500,"failed to rollback global config","internal_error"⟩)
  | (_,db) => (db,.error ⟨500,"failed to rollback global config","internal_error"⟩)

structure PatchOrders where
  handler : Json.MapOrder
  storage : Json.MapOrder × Json.MapOrder

def adminPatchGlobalConfig (orders : PatchOrders) (ifMatch : IfMatch) (body : Except String Json) :
    Global.Db × Except Failure Written :=
  if !ConfigReads.requireGlobalConfigAdminRole actor.roles then (db,.error insufficientPermissions)
  else match ifMatch.parse with
  | .error failure => (db,.error failure)
  | .ok ifMatchVersion => match body with
    | .error message => (db,.error (invalidRequest ("invalid JSON: " ++ message)))
    | .ok rawBody => match rollbackTo rawBody with
      | some targetVersion => rollback db actor ifMatchVersion targetVersion
      | none =>
        let patch : Global.Patch := ⟨ifMatchVersion,normalizeConfigKeys orders.handler (parsed rawBody),
          orders.storage,actor⟩
        let (db,found) := db.getGlobalConfig
        answered "failed to patch global config"
          (fun newVersion => ⟨newVersion,"Global configuration patched successfully",[]⟩)
          (db.patchGlobalConfig patch found)

end Handlers

section Models

def createModelPricing : Schema := record
  [req "prompt_per_1m" .float,req "completion_per_1m" .float]

def createModelMock : Schema := record
  [req "enabled" .bool,
   req "delay_min_ms" .int,
   req "delay_max_ms" .int,
   req "error_rate" .float,
   req "error_status" .int,
   req "error_message" .str,
   req "fixed_response" .str]

def createModelBody : Schema := record
  [req "id" .str,
   req "provider" .str,
   opt "provider_model_id" .str,
   req "type" .str,
   opt "base_url" .str,
   req "pricing" (.ptr createModelPricing),
   req "mock" (.ptr createModelMock),
   req "infrastructure_monthly_usd" .float,
   req "markup_percentage" .float,
   req "execution" (.ptr mlExecutionConfig),
   req "observable" (.ptr mlObservableConfig)]

def modelPricing : createModelPricing.Val → pricing.Val
  | (prompt,completion,_) =>
    (prompt,.zero,completion,false,(0 : Int),.zero,.zero,.zero,.zero,.zero,.zero,())

def modelMock : createModelMock.Val → mockConfig.Val
  | (enabled,delayMin,delayMax,errorRate,errorStatus,errorMessage,fixedResponse,_) =>
    (enabled,delayMin,delayMax,errorRate,errorStatus,errorMessage,fixedResponse,())

def providerModelID (id provider sent : String) : String :=
  let pid := GoStrings.trimSpace sent
  if pid = "" ∧ provider = "bedrock" then GoStrings.trimSpace id else pid

def createdID : createModelBody.Val → String
  | (id,_) => id

def createdProvider : createModelBody.Val → String
  | (_,provider,_) => provider

def createdModel : createModelBody.Val → modelConfig.Val
  | (id,provider,pid,type,baseURL,pricing',mock,infrastructure,markup,execution,observable,_) =>
    (id,provider,providerModelID id provider pid,type,
      Option.elim pricing' pricing.zero modelPricing,Option.elim mock mockConfig.zero modelMock,
      infrastructure,markup,baseURL,"",execution,observable,none,none,())

variable (process : Process) (db : Global.Db) (actor : Global.Actor)

def created (id : String) (newVersion : Int) : Written where
  version := newVersion
  message := "Model " ++ quoted id ++ " created successfully"
  warnings := []

def appendModel (m : modelConfig.Val) (gc : globalConfig.Val) : globalConfig.Val :=
  withModels (modelsOf gc ++ [m]) gc

def adminCreateModel (ifMatch : IfMatch) (body : Except String Json) :
    Global.Db × Except Failure Written :=
  match ifMatch.parse with
  | .error failure => (db,.error failure)
  | .ok ifMatchVersion => match body with
    | .error message => (db,.error (invalidRequest ("invalid JSON: " ++ message)))
    | .ok rawBody => match createModelBody.decode rawBody createModelBody.zero with
      | none => (db,.error (invalidRequest "invalid JSON"))
      | some body =>
        if createdID body = "" then (db,.error (invalidRequest "id is required"))
        else if createdProvider body = "" then (db,.error (invalidRequest "provider is required"))
        else
          let (db,found) := db.getGlobalConfig
          match currentConfig process.yaml found with
          | .error failure => (db,.error failure)
          | .ok (gc,currentVersion) =>
            if currentVersion ≠ ifMatchVersion then
              (db,.error (versionConflict ⟨ifMatchVersion,currentVersion⟩))
            else if createdID body ∈ (modelsOf gc).map nameOf then
              (db,.error ⟨409,"model already exists: " ++ createdID body,"duplicate_model"⟩)
            else
              let m := createdModel body
              match validateModelConfigOrError m gc process.yaml.providers with
              | .error message => (db,.error ⟨400,message,"validation_error"⟩)
              | .ok () => answered "failed to create model"
                  (created (createdID body))
                  (putGlobal db actor ifMatchVersion (appendModel m gc))

/-- What `tenantsReferencingModel` looks at in a tenant. -/
structure TenantModels where
  id : String
  allowedModels : List String
  routeGroups : List (List String)

def TenantModels.refersTo (t : TenantModels) (modelID : String) : Bool :=
  modelID ∈ t.allowedModels || t.routeGroups.any (fun models => modelID ∈ models)

def tenantsReferencingModel (tenants : List TenantModels) (modelID : String) : List String :=
  ((tenants.filter (fun t => t.refersTo modelID)).map TenantModels.id).reverse.dedup.reverse

def withoutModel (modelID : String) (gc : globalConfig.Val) : List modelConfig.Val :=
  (modelsOf gc).filter (fun m => nameOf m ≠ modelID)

def bracketed (ids : List String) : String := "[" ++ String.intercalate " " ids ++ "]"

def adminDeleteModel (tenants : List TenantModels) (modelID : String) (ifMatch : IfMatch) :
    Global.Db × Except (Option Failure) Unit :=
  if modelID = "" then (db,.error (some (invalidRequest "model_id is required")))
  else match ifMatch.parse with
  | .error failure => (db,.error (some failure))
  | .ok ifMatchVersion =>
    let (db,found) := db.getGlobalConfig
    match currentConfig process.yaml found with
    | .error failure => (db,.error (some failure))
    | .ok (gc,currentVersion) =>
      if currentVersion ≠ ifMatchVersion then
        (db,.error (some (versionConflict ⟨ifMatchVersion,currentVersion⟩)))
      else
        let refs := tenantsReferencingModel tenants modelID
        if refs ≠ [] then
          (db,.error (some ⟨409,"model " ++ quoted modelID ++ " is in use by tenant(s): " ++
            bracketed refs,"model_in_use"⟩))
        else if modelsOf gc = [] then (db,.error none)
        else if (withoutModel modelID gc).length = (modelsOf gc).length then
          (db,.error (some ⟨404,"model not found: " ++ modelID,"not_found"⟩))
        else match answered "failed to delete model" (fun newVersion => ⟨newVersion,"",[]⟩)
            (putGlobal db actor ifMatchVersion (withModels (withoutModel modelID gc) gc)) with
        | (db,.ok _) => (db,.ok ())
        | (db,.error failure) => (db,.error (some failure))

end Models

inductive GlobalWrite where
  | put (order : Json.MapOrder) (body : Json)
  | patch (orders : PatchOrders) (body : Json) (merges : rollbackTo body = none)
  | createModel (body : Json)
  | patchModel (modelName : String) (body : Json)
  | deleteModel (tenants : List TenantModels) (modelID : String)

structure GlobalRequest where
  actor : Global.Actor
  ifMatch : IfMatch
  write : GlobalWrite

def succeeded {ε α : Type} : Global.Db × Except ε α → Option Global.Db
  | (db,.ok _) => some db
  | (_,.error _) => none

theorem succeeded_eq_some {ε α : Type} {r : Global.Db × Except ε α} {db : Global.Db}
    (h : succeeded r = some db) : ∃ a, r = (db,.ok a) := by
  obtain ⟨db',answer⟩ := r
  cases answer with
  | error e => cases h
  | ok a =>
    cases h
    exact ⟨a,rfl⟩

def serve (process : Process) (db : Global.Db) (r : GlobalRequest) : Option Global.Db :=
  match r.write with
  | .put order body => succeeded (adminPutGlobalConfig process db r.actor order r.ifMatch (.ok body))
  | .patch orders body _ => succeeded (adminPatchGlobalConfig db r.actor orders r.ifMatch (.ok body))
  | .createModel body => succeeded (adminCreateModel process db r.actor r.ifMatch (.ok body))
  | .patchModel modelName body =>
    let (db,found) := db.getGlobalConfig
    succeeded (adminPatchModel process.yaml found db modelName r.ifMatch (.ok body) r.actor)
  | .deleteModel tenants modelID =>
    succeeded (adminDeleteModel process db r.actor tenants modelID r.ifMatch)

section Served

open Global (Stands)

variable {process : Process} {db db' : Global.Db} {doc : Json} {r : GlobalRequest}
  {actor : Global.Actor} {ifMatch : IfMatch}

theorem answered_ok {internal : String} {done : Int → Written} {reply : Global.Reply × Global.Db}
    {written : Written} (h : answered internal done reply = (db',.ok written)) :
    ∃ n, reply = (.newVersion n,db') := by
  obtain ⟨reply,db⟩ := reply
  cases reply with
  | newVersion n =>
    cases h
    exact ⟨n,rfl⟩
  | _ => cases h

theorem stands_of_putGlobal {internal : String} {done : Int → Written} {v : Int}
    {gc : globalConfig.Val} {written : Written} (h : Stands db doc)
    (hput : answered internal done (putGlobal db actor v gc) = (db',.ok written)) :
    Stands db' (globalConfig.encode (stripProviderSecretsForStorage gc)) := by
  obtain ⟨n,hput⟩ := answered_ok hput
  exact Global.stands_of_put h.below hput

def Decoded (db' : Global.Db) : Prop :=
  ∃ gc, Stands db' (globalConfig.encode (stripProviderSecretsForStorage gc))

theorem decoded_of_put {order : Json.MapOrder} {body : Except String Json} {written : Written}
    (h : Stands db doc)
    (hput : adminPutGlobalConfig process db actor order ifMatch body = (db',.ok written)) :
    Decoded db' := by
  rw [adminPutGlobalConfig] at hput
  split_ifs at hput
  · cases hput
  · cases hparse : ifMatch.parse with
    | error failure =>
      rw [hparse] at hput
      cases hput
    | ok v =>
      rw [hparse] at hput
      cases body with
      | error message => cases hput
      | ok rawBody =>
        dsimp only at hput
        split at hput
        · cases hput
        · next newGC _ =>
          split at hput
          · cases hput
          · exact ⟨newGC,stands_of_putGlobal h hput⟩

theorem decoded_of_create {body : Except String Json} {written : Written} (h : Stands db doc)
    (hcreate : adminCreateModel process db actor ifMatch body = (db',.ok written)) :
    Decoded db' := by
  obtain ⟨version,hget⟩ := h.getGlobalConfig
  rw [adminCreateModel] at hcreate
  cases hparse : ifMatch.parse with
  | error failure =>
    rw [hparse] at hcreate
    cases hcreate
  | ok v =>
    rw [hparse] at hcreate
    cases body with
    | error message => cases hcreate
    | ok rawBody =>
      dsimp only at hcreate
      split at hcreate
      · cases hcreate
      · next body _ =>
        split_ifs at hcreate
        · cases hcreate
        · cases hcreate
        · rw [hget] at hcreate
          dsimp only at hcreate
          split at hcreate
          · cases hcreate
          · next gc currentVersion _ =>
            split_ifs at hcreate
            · cases hcreate
            · cases hcreate
            · split at hcreate
              · cases hcreate
              · exact ⟨_,stands_of_putGlobal h hcreate⟩

theorem decoded_of_delete {tenants : List TenantModels} {modelID : String} (h : Stands db doc)
    (hdelete : adminDeleteModel process db actor tenants modelID ifMatch = (db',.ok ())) :
    Decoded db' := by
  obtain ⟨version,hget⟩ := h.getGlobalConfig
  rw [adminDeleteModel] at hdelete
  split_ifs at hdelete
  · cases hdelete
  · cases hparse : ifMatch.parse with
    | error failure =>
      rw [hparse] at hdelete
      cases hdelete
    | ok v =>
      rw [hparse,hget] at hdelete
      dsimp only at hdelete
      split at hdelete
      · cases hdelete
      · next gc currentVersion _ =>
        split_ifs at hdelete
        · cases hdelete
        · cases hdelete
        · cases hdelete
        · cases hdelete
        · split at hdelete
          · next db'' written hput =>
            cases hdelete
            exact ⟨_,stands_of_putGlobal h hput⟩
          · cases hdelete

theorem decoded_of_patchModel {found : Option (Json × Int)} {modelName : String} {body : Json}
    {reply : ModelPatched} (h : Stands db doc)
    (hpatch : adminPatchModel process.yaml found db modelName ifMatch (.ok body) actor =
      (db',.ok reply)) : Decoded db' := by
  rw [adminPatchModel] at hpatch
  split_ifs at hpatch
  · cases hpatch
  · cases hparse : ifMatch.parse with
    | error failure =>
      rw [hparse] at hpatch
      cases hpatch
    | ok v =>
      rw [hparse] at hpatch
      dsimp only at hpatch
      split at hpatch
      · cases hpatch
      · split at hpatch
        · cases hpatch
        · split_ifs at hpatch
          · cases hpatch
          · split at hpatch
            · cases hpatch
            · next gc _ =>
              split at hpatch
              · next n db'' hput =>
                cases hpatch
                exact ⟨gc,Global.stands_of_put h.below hput⟩
              · cases hpatch
              · cases hpatch

def sentPatch (orders : PatchOrders) (body : Json) : Json :=
  normalizeConfigKeys orders.handler (parsed body)

theorem stands_of_patchGlobal {orders : PatchOrders} {body : Json} {written : Written}
    (h : Stands db doc) (hmerges : rollbackTo body = none)
    (hpatch : adminPatchGlobalConfig db actor orders ifMatch (.ok body) = (db',.ok written)) :
    ∃ finalJSON, Global.patchedConfig orders.storage doc (sentPatch orders body) = .ok finalJSON ∧
      Stands db' finalJSON := by
  obtain ⟨version,hget⟩ := h.getGlobalConfig
  rw [adminPatchGlobalConfig] at hpatch
  split_ifs at hpatch
  · cases hpatch
  · cases hparse : ifMatch.parse with
    | error failure =>
      rw [hparse] at hpatch
      cases hpatch
    | ok v =>
      rw [hparse] at hpatch
      simp only [hmerges,hget] at hpatch
      obtain ⟨n,hpatch⟩ := answered_ok hpatch
      exact Global.stands_of_patch h hpatch

theorem served_cases (h : Stands db doc) (hserve : serve process db r = some db') :
    (∃ orders body merges, r.write = .patch orders body merges ∧
      ∃ finalJSON, Global.patchedConfig orders.storage doc (sentPatch orders body) = .ok finalJSON ∧
        Stands db' finalJSON) ∨
    ((∀ orders body merges, r.write ≠ .patch orders body merges) ∧ Decoded db') := by
  obtain ⟨actor,ifMatch,write⟩ := r
  cases write with
  | put order body =>
    obtain ⟨written,hput⟩ := succeeded_eq_some hserve
    exact .inr ⟨fun _ _ _ h => (by cases h),decoded_of_put h hput⟩
  | patch orders body merges =>
    obtain ⟨written,hpatch⟩ := succeeded_eq_some hserve
    exact .inl ⟨orders,body,merges,rfl,stands_of_patchGlobal h merges hpatch⟩
  | createModel body =>
    obtain ⟨written,hcreate⟩ := succeeded_eq_some hserve
    exact .inr ⟨fun _ _ _ h => (by cases h),decoded_of_create h hcreate⟩
  | patchModel modelName body =>
    obtain ⟨version,hget⟩ := h.getGlobalConfig
    rw [serve,hget] at hserve
    obtain ⟨reply,hpatch⟩ := succeeded_eq_some hserve
    exact .inr ⟨fun _ _ _ h => (by cases h),decoded_of_patchModel h hpatch⟩
  | deleteModel tenants modelID =>
    obtain ⟨done,hdelete⟩ := succeeded_eq_some hserve
    exact .inr ⟨fun _ _ _ h => (by cases h),decoded_of_delete h hdelete⟩

end Served

end PrismGateway.Admin
