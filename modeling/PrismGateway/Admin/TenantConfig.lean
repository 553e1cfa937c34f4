import PrismGateway.Lib.Run
import PrismGateway.Storage.TenantStore

namespace PrismGateway.Admin

open Lib Config.Schemas Storage

structure Settings where
  tenantByID : String → Option tenantConfig.Val
  modelByName : String → Option Config.ModelConfig
  loadLocation : String → Bool

/-- The `If-Match-Version` header after `strconv.Atoi`. -/
inductive IfMatch where
  | missing
  | invalid
  | version (v : Int)

structure Failure where
  status : Nat
  message : String
  kind : String

def invalidRequest (message : String) : Failure := ⟨400,message,"invalid_request_error"⟩

def versionConflict (err : ErrVersionConflict) : Failure :=
  ⟨409,"version conflict: expected " ++ toString err.expected ++ ", current " ++ toString err.current,
    "version_conflict_error"⟩

def IfMatch.parse : IfMatch → Except Failure Int
  | .missing => .error ⟨428,"missing If-Match-Version header","precondition_required"⟩
  | .invalid => .error (invalidRequest "invalid If-Match-Version")
  | .version v => .ok v

/-- A body as `json.Unmarshal` puts it into an `interface{}`: of equal keys the last one stays. -/
def parsed (body : Json) : Json := Json.rekey (fun k => k) (fun l => l) body

theorem parsed_singleton (k : String) (j : Json) : parsed (.obj [(k,j)]) = .obj [(k,parsed j)] := by
  unfold parsed
  rw [Json.rekey_obj]
  rfl

def currentEnvironmentFromJSON : Json → String
  | .obj m => match m.lookup "environment" with
    | some (.str s) => s
    | _ => ""
  | _ => ""

def validEnvironments : List String := ["DEV","STAGING","PROD"]

def validateTenantEnvironment (v : String) : Except Failure Unit :=
  if validEnvironments.contains v then .ok ()
  else .error (invalidRequest "invalid environment: must be one of DEV, STAGING, PROD")

def environmentOf (tc : tenantConfig.Val) : String := tc.2.1

def validate (cfg : Settings) (tc : tenantConfig.Val) : Except String Unit :=
  Config.validateTenantConfig cfg.modelByName cfg.loadLocation (tenantOf tc)

def immutableEnvironment : Failure := invalidRequest "environment is immutable"

def checkPut (cfg : Settings) (before : String) (ifMatch : IfMatch) (body : Option Json) :
    Except Failure (Int × tenantConfig.Val) :=
  match ifMatch.parse with
  | .error failure => .error failure
  | .ok ifMatchVersion =>
    match body.bind (fun j => tenantConfig.decode j tenantConfig.zero) with
    | none => .error (invalidRequest "invalid JSON")
    | some newConfig =>
      match validate cfg newConfig with
      | .error message => .error (invalidRequest message)
      | .ok () =>
        if environmentOf newConfig = "" then .ok (ifMatchVersion,newConfig)
        else match validateTenantEnvironment (environmentOf newConfig) with
          | .error failure => .error failure
          | .ok () =>
            if before ≠ "" ∧ before ≠ environmentOf newConfig then .error immutableEnvironment
            else .ok (ifMatchVersion,newConfig)

def checkPatch (ifMatch : IfMatch) (body : Option Json) : Except Failure (Int × Json) :=
  match ifMatch.parse with
  | .error failure => .error failure
  | .ok ifMatchVersion =>
    match body with
    | none => .error (invalidRequest "invalid JSON")
    | some mergePatch =>
      if currentEnvironmentFromJSON (parsed mergePatch) ≠ "" then .error immutableEnvironment
      else .ok (ifMatchVersion,parsed mergePatch)

section Handlers

variable (cfg : Settings) (db : TenantTables)

def ensureTenantConfigInDB (order : Json.MapOrder) (tenantID : String) : TenantTables :=
  match db.getTenantConfig order tenantID, cfg.tenantByID tenantID with
  | some _, _ => db
  | none, none => db
  | none, some yamlTenant => db.seedTenantConfig tenantID (stripAPIKeys yamlTenant)

def storedEnvironment (order : Json.MapOrder) (tenantID : String) : String :=
  match db.getTenantConfig order tenantID with
  | some (configJSON,_) => currentEnvironmentFromJSON configJSON
  | none => ""

def adminPutTenantConfig (order : Json.MapOrder) (tenantID : String) (ifMatch : IfMatch)
    (body : Option Json) : TenantTables × Except Failure Int :=
  match checkPut cfg (storedEnvironment db order tenantID) ifMatch body with
  | .error failure => (db,.error failure)
  | .ok (ifMatchVersion,newConfig) =>
    let db := ensureTenantConfigInDB cfg db order tenantID
    match db.putTenantConfig tenantID ifMatchVersion (stripAPIKeys newConfig) with
    | .error err => (db,.error (versionConflict err))
    | .ok (written,newVersion) => (written,.ok newVersion)

def patchFailure (message : String) : PatchError → Failure
  | .conflict err => versionConflict err
  | .failed _ => ⟨500,message,"internal_error"⟩

def applyPatch (readOrder patchOrder : Json.MapOrder) (tenantID : String) (ifMatchVersion : Int)
    (mergePatch : Json) (message : String) : TenantTables × Except Failure Int :=
  match db.patchTenantConfig readOrder patchOrder tenantID ifMatchVersion mergePatch with
  | .error err => (db,.error (patchFailure message err))
  | .ok (written,newVersion) => (written,.ok newVersion)

def adminPatchTenantConfig (readOrder patchOrder : Json.MapOrder) (tenantID : String)
    (ifMatch : IfMatch) (body : Option Json) : TenantTables × Except Failure Int :=
  match checkPatch ifMatch body with
  | .error failure => (db,.error failure)
  | .ok (ifMatchVersion,mergePatch) =>
    applyPatch (ensureTenantConfigInDB cfg db readOrder tenantID) readOrder patchOrder tenantID
      ifMatchVersion mergePatch "failed to patch config"

def deletion (groupName : String) : Json :=
  .obj [("selection",.obj [("route_groups",.obj [(groupName,.null)])])]

def quoted (s : String) : String := "\"" ++ s ++ "\""

def hasRouteGroup (tc : tenantConfig.Val) (groupName : String) : Bool :=
  ((tenantOf tc).selection.routeGroups.bind (·.lookup groupName)).isSome

def adminDeleteRouteGroup (order readOrder patchOrder : Json.MapOrder)
    (tenantID groupName : String) : TenantTables × Except Failure Int :=
  if groupName = "" then (db,.error (invalidRequest "route group name is required"))
  else
    let db := ensureTenantConfigInDB cfg db order tenantID
    match db.getTenantConfig order tenantID with
    | none => (db,.error ⟨404,"tenant " ++ quoted tenantID ++ " not found","not_found"⟩)
    | some (configJSON,version) =>
      match tenantConfig.decode configJSON tenantConfig.zero with
      | none => (db,.error ⟨500,"tenant config is corrupt","internal_error"⟩)
      | some tc =>
        if hasRouteGroup tc groupName then
          applyPatch db readOrder patchOrder tenantID version (deletion groupName)
            "failed to delete route group"
        else (db,.error ⟨404,"route group " ++ quoted groupName ++ " not found","not_found"⟩)

end Handlers

inductive Request where
  | put (tenantID : String) (order : Json.MapOrder) (ifMatch : IfMatch) (body : Option Json)
  | patch (tenantID : String) (readOrder patchOrder : Json.MapOrder) (ifMatch : IfMatch)
      (body : Option Json)
  | deleteRouteGroup (tenantID : String) (order readOrder patchOrder : Json.MapOrder)
      (groupName : String)

def handle (cfg : Settings) (db : TenantTables) : Request → TenantTables × Except Failure Int
  | .put tenantID order ifMatch body => adminPutTenantConfig cfg db order tenantID ifMatch body
  | .patch tenantID readOrder patchOrder ifMatch body =>
    adminPatchTenantConfig cfg db readOrder patchOrder tenantID ifMatch body
  | .deleteRouteGroup tenantID order readOrder patchOrder groupName =>
    adminDeleteRouteGroup cfg db order readOrder patchOrder tenantID groupName

def step (cfg : Settings) (db : TenantTables) (r : Request) : Option TenantTables :=
  some (handle cfg db r).1

inductive Writes (cfg : Settings) (db : TenantTables) (tenantID : String) : Request → Json → Prop
  | put {order : Json.MapOrder} {ifMatch : IfMatch} {body : Option Json} {version : Int}
      {tc : tenantConfig.Val}
      (hcheck : checkPut cfg (storedEnvironment db order tenantID) ifMatch body = .ok (version,tc)) :
      Writes cfg db tenantID (.put tenantID order ifMatch body) (stripAPIKeys tc)
  | patch {readOrder patchOrder : Json.MapOrder} {ifMatch : IfMatch} {body : Option Json}
      {version : Int} {mergePatch current doc : Json}
      (hcheck : checkPatch ifMatch body = .ok (version,mergePatch))
      (hget : db.getTenantConfig readOrder tenantID = some (current,version))
      (hdoc : patchedTenantConfig patchOrder current mergePatch = .ok doc) :
      Writes cfg db tenantID (.patch tenantID readOrder patchOrder ifMatch body) doc
  | deleteRouteGroup {order readOrder patchOrder : Json.MapOrder} {groupName : String}
      {version : Int} {configJSON current doc : Json} {tc : tenantConfig.Val}
      (hconfig : db.getTenantConfig order tenantID = some (configJSON,version))
      (htc : tenantConfig.decode configJSON tenantConfig.zero = some tc)
      (hgroup : hasRouteGroup tc groupName = true)
      (hget : db.getTenantConfig readOrder tenantID = some (current,version))
      (hdoc : patchedTenantConfig patchOrder current (deletion groupName) = .ok doc) :
      Writes cfg db tenantID (.deleteRouteGroup tenantID order readOrder patchOrder groupName) doc

def Reads (db : TenantTables) (tenantID : String) (doc : Json) : Prop :=
  ∃ version, ∀ order, db.getTenantConfig order tenantID =
    some (normalizeConfigKeys order doc,version)

def Same (db db' : TenantTables) (tenantID : String) : Prop :=
  ∀ order, db'.getTenantConfig order tenantID = db.getTenantConfig order tenantID

section Spec

variable {cfg : Settings} {db db' : TenantTables} {tenantID other : String}

theorem ensure_of_exists {order : Json.MapOrder} {found : Json × Int}
    (h : db.getTenantConfig order tenantID = some found) :
    ensureTenantConfigInDB cfg db order tenantID = db := by
  rw [ensureTenantConfigInDB,h]

theorem ensure_other (cfg : Settings) (db : TenantTables) (order : Json.MapOrder) (hne : tenantID ≠ other) :
    Same db (ensureTenantConfigInDB cfg db order other) tenantID := by
  intro order'
  rw [ensureTenantConfigInDB]
  split
  · rfl
  · rfl
  · rw [TenantTables.seedTenantConfig]
    split
    · rfl
    · simp [TenantTables.getTenantConfig,TenantTables.setFlat,hne]

theorem applyPatch_cases (db : TenantTables) (readOrder patchOrder : Json.MapOrder) (other : String)
    (ifMatchVersion : Int) (mergePatch : Json) (message : String) :
    (applyPatch db readOrder patchOrder other ifMatchVersion mergePatch message).1 = db ∨
    ∃ current doc version, db.getTenantConfig readOrder other = some (current,ifMatchVersion) ∧
      patchedTenantConfig patchOrder current mergePatch = .ok doc ∧
      db.putTenantConfig other ifMatchVersion doc =
        .ok ((applyPatch db readOrder patchOrder other ifMatchVersion mergePatch message).1,version) := by
  rw [applyPatch]
  cases hpatch : db.patchTenantConfig readOrder patchOrder other ifMatchVersion mergePatch with
  | error err => exact .inl rfl
  | ok result =>
    obtain ⟨written,version⟩ := result
    obtain ⟨current,doc,hget,hdoc,hput⟩ := TenantTables.get_after_patch hpatch
    exact .inr ⟨current,doc,version,hget,hdoc,hput⟩

theorem reads_of_put {version ifMatchVersion : Int} {doc : Json}
    (h : db.putTenantConfig tenantID ifMatchVersion doc = .ok (db',version)) :
    Reads db' tenantID doc :=
  ⟨version,fun order => TenantTables.get_after_put order h⟩

theorem Same.trans {db'' : TenantTables} (h : Same db db' tenantID) (h' : Same db' db'' tenantID) :
    Same db db'' tenantID :=
  fun order => (h' order).trans (h order)

theorem applyPatch_other (hne : tenantID ≠ other) (readOrder patchOrder : Json.MapOrder)
    (ifMatchVersion : Int) (mergePatch : Json) (message : String) :
    Same db (applyPatch db readOrder patchOrder other ifMatchVersion mergePatch message).1 tenantID := by
  intro order
  rcases applyPatch_cases db readOrder patchOrder other ifMatchVersion mergePatch message with
    heq | ⟨_,_,_,_,_,hput⟩
  · rw [heq]
  · exact TenantTables.get_put_other order hne hput

theorem checkPut_ok {before : String} {ifMatch : IfMatch} {body : Option Json} {version : Int}
    {tc : tenantConfig.Val} (h : checkPut cfg before ifMatch body = .ok (version,tc)) :
    ∃ j, body = some j ∧ tenantConfig.decode j tenantConfig.zero = some tc ∧
      validate cfg tc = .ok () ∧
      (environmentOf tc = "" ∨ before = "" ∨ before = environmentOf tc) := by
  rw [checkPut] at h
  cases hparse : ifMatch.parse with
  | error failure =>
    rw [hparse] at h
    cases h
  | ok v =>
    rw [hparse] at h
    dsimp only at h
    split at h
    · cases h
    · next newConfig hbody =>
      obtain ⟨j,hj,hdecode⟩ := Option.bind_eq_some_iff.mp hbody
      split at h
      · cases h
      · next hvalid =>
        by_cases henv : environmentOf newConfig = ""
        · rw [if_pos henv] at h
          cases h
          exact ⟨j,hj,hdecode,hvalid,.inl henv⟩
        · rw [if_neg henv] at h
          split at h
          · cases h
          · split_ifs at h with hsame
            cases h
            refine ⟨j,hj,hdecode,hvalid,.inr ?_⟩
            by_cases hbefore : before = ""
            · exact .inl hbefore
            · exact .inr (not_not.mp fun hne => hsame ⟨hbefore,hne⟩)

theorem checkPatch_ok {ifMatch : IfMatch} {body : Option Json} {version : Int} {mergePatch : Json}
    (h : checkPatch ifMatch body = .ok (version,mergePatch)) :
    body.map parsed = some mergePatch ∧ currentEnvironmentFromJSON mergePatch = "" := by
  rw [checkPatch] at h
  cases hparse : ifMatch.parse with
  | error failure =>
    rw [hparse] at h
    cases h
  | ok v =>
    rw [hparse] at h
    cases body with
    | none => cases h
    | some j =>
      dsimp only at h
      split_ifs at h with henv
      cases h
      exact ⟨rfl,not_not.mp henv⟩

theorem adminDeleteRouteGroup_found {order : Json.MapOrder} {groupName : String} {configJSON : Json}
    {version : Int} {tc : tenantConfig.Val} (hname : groupName ≠ "")
    (hget : db.getTenantConfig order tenantID = some (configJSON,version))
    (hdecode : tenantConfig.decode configJSON tenantConfig.zero = some tc)
    (hgroup : hasRouteGroup tc groupName = true) (readOrder patchOrder : Json.MapOrder) :
    adminDeleteRouteGroup cfg db order readOrder patchOrder tenantID groupName =
      applyPatch db readOrder patchOrder tenantID version (deletion groupName)
        "failed to delete route group" := by
  rw [adminDeleteRouteGroup,if_neg hname,ensure_of_exists hget]
  simp only [hget,hdecode]
  rw [if_pos hgroup]

theorem handle_spec (cfg : Settings) (hexists : ∀ order, (db.getTenantConfig order tenantID).isSome)
    (r : Request) : Same db (handle cfg db r).1 tenantID ∨
      ∃ doc, Writes cfg db tenantID r doc ∧ Reads (handle cfg db r).1 tenantID doc := by
  have hensure : ∀ order, ensureTenantConfigInDB cfg db order tenantID = db := by
    intro order
    obtain ⟨found,hfound⟩ := Option.isSome_iff_exists.mp (hexists order)
    exact ensure_of_exists hfound
  cases r with
  | put other order ifMatch body =>
    simp only [handle,adminPutTenantConfig]
    cases hcheck : checkPut cfg (storedEnvironment db order other) ifMatch body with
    | error failure => exact .inl fun _ => rfl
    | ok checked =>
      obtain ⟨ifMatchVersion,newConfig⟩ := checked
      dsimp only
      by_cases hne : tenantID = other
      · subst hne
        rw [hensure]
        cases hput : db.putTenantConfig tenantID ifMatchVersion (stripAPIKeys newConfig) with
        | error err => exact .inl fun _ => rfl
        | ok result => exact .inr ⟨_,.put hcheck,reads_of_put hput⟩
      · have hsame := ensure_other cfg db order hne
        generalize ensureTenantConfigInDB cfg db order other = ensured at hsame
        cases hput : ensured.putTenantConfig other ifMatchVersion (stripAPIKeys newConfig) with
        | error err => exact .inl hsame
        | ok result =>
          exact .inl (hsame.trans fun order => TenantTables.get_put_other order hne hput)
  | patch other readOrder patchOrder ifMatch body =>
    simp only [handle,adminPatchTenantConfig]
    cases hcheck : checkPatch ifMatch body with
    | error failure => exact .inl fun _ => rfl
    | ok checked =>
      obtain ⟨ifMatchVersion,mergePatch⟩ := checked
      dsimp only
      by_cases hne : tenantID = other
      · subst hne
        rw [hensure]
        rcases applyPatch_cases db readOrder patchOrder tenantID ifMatchVersion mergePatch
          "failed to patch config" with heq | ⟨current,doc,version,hget,hdoc,hput⟩
        · exact .inl fun order => by rw [heq]
        · exact .inr ⟨doc,.patch hcheck hget hdoc,reads_of_put hput⟩
      · exact .inl ((ensure_other cfg db readOrder hne).trans (applyPatch_other hne _ _ _ _ _))
  | deleteRouteGroup other order readOrder patchOrder groupName =>
    simp only [handle,adminDeleteRouteGroup]
    split_ifs with hname
    · exact .inl fun _ => rfl
    · by_cases hne : tenantID = other
      · subst hne
        rw [hensure]
        split
        · exact .inl fun _ => rfl
        · next configJSON version hconfig =>
          split
          · exact .inl fun _ => rfl
          · next tc htc =>
            split_ifs with hgroup
            · rcases applyPatch_cases db readOrder patchOrder tenantID version (deletion groupName)
                "failed to delete route group" with heq | ⟨current,doc,version,hget,hdoc,hput⟩
              · exact .inl fun order => by rw [heq]
              · exact .inr ⟨doc,.deleteRouteGroup hconfig htc hgroup hget hdoc,reads_of_put hput⟩
            · exact .inl fun _ => rfl
      · have hsame := ensure_other cfg db order hne
        generalize ensureTenantConfigInDB cfg db order other = ensured at hsame
        split
        · exact .inl hsame
        · split
          · exact .inl hsame
          · split_ifs
            · exact .inl (hsame.trans (applyPatch_other hne _ _ _ _ _))
            · exact .inl hsame

end Spec

end PrismGateway.Admin
