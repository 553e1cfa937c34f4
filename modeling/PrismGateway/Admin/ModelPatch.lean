import PrismGateway.Admin.TenantConfig
import PrismGateway.Frontend.AdminClient
import PrismGateway.Storage.GlobalVersions
import PrismGateway.Storage.StructEdit

namespace PrismGateway.Admin

open Lib Config.Schemas Storage

structure ObservableField where
  path : String
  type : String
  role : String

structure ModelView where
  name : String
  provider : String
  type : String
  promptPer1M : Float
  completionPer1M : Float
  infrastructureMonthlyUSD : Float
  markupPercentage : Float
  endpoint : Option String
  observable : Option (List ObservableField)
  delayMinMs : Int
  delayMaxMs : Int
  errorRate : Float
  errorStatus : Int

def observableFieldOf : mlObservableField.Val → ObservableField
  | (path,type,role,_) => ⟨path,type,role⟩

def observableOf : mlObservableConfig.Val → List ObservableField
  | (observed,_) => (Option.getD observed []).map observableFieldOf

def endpointOf : mlExecutionConfig.Val → String
  | (endpoint,_) => endpoint

def pricesOf : pricing.Val → Json.Number × Json.Number
  | (prompt,_,completion,_) => (prompt,completion)

def viewOf : modelConfig.Val → ModelView
  | (name,provider,_,type,pricing,(_,delayMin,delayMax,errorRate,errorStatus,_),infrastructure,markup,
      _,_,execution,observable,_) =>
    ⟨name,provider,type,(pricesOf pricing).1.val,(pricesOf pricing).2.val,infrastructure.val,markup.val,
      Option.map endpointOf execution,Option.map observableOf observable,delayMin,delayMax,
      errorRate.val,errorStatus⟩

def nameOf (m : modelConfig.Val) : String := (viewOf m).name

def modelsOf : globalConfig.Val → List modelConfig.Val
  | (_,_,models,_) => Option.getD models []

def withModels (models : List modelConfig.Val) : globalConfig.Val → globalConfig.Val
  | (auth,providers,_,rest) => (auth,providers,some models,rest)

def providersOf : globalConfig.Val → List String
  | (_,providers,_) => (Option.getD providers ⟨[],List.Pairwise.nil⟩).val.map Prod.fst

/-- Of the YAML configuration: `GlobalConfigFromYAML` of it and its provider names. -/
structure YamlConfig where
  globalConfig : globalConfig.Val
  providers : List String

namespace ModelView

def checkObservable : ℕ → List String → List ObservableField → Except String Unit
  | _, _, [] => .ok ()
  | i, seen, f :: rest =>
    let at_ := "observable.fields[" ++ toString i ++ "]"
    if GoStrings.trimSpace f.path = "" then .error (at_ ++ ".path must not be empty")
    else if f.type ∉ ["text","json","number"] then
      .error (at_ ++ ".type must be one of: text, json, number")
    else if f.role ∉ ["input","output"] then .error (at_ ++ ".role must be one of: input, output")
    else
      let key := f.path ++ "|" ++ f.type ++ "|" ++ f.role
      if key ∈ seen then
        .error ("observable.fields contains duplicate entry: path=" ++ quoted f.path ++ " type=" ++
          quoted f.type ++ " role=" ++ quoted f.role)
      else checkObservable (i + 1) (key :: seen) rest

def checkMock (m : ModelView) : Except String Unit :=
  if m.delayMinMs < 0 ∨ m.delayMaxMs < 0 then
    .error "mock delay_min_ms and delay_max_ms must be non-negative"
  else if m.delayMaxMs < m.delayMinMs then .error "mock delay_max_ms must be >= delay_min_ms"
  else if m.errorRate < 0 ∨ 1 < m.errorRate then .error "mock error_rate must be between 0 and 1"
  else if m.errorStatus ≠ 0 ∧ (m.errorStatus < 100 ∨ 599 < m.errorStatus) then
    .error "mock error_status must be a valid HTTP status (100-599)"
  else .ok ()

def check (m : ModelView) (providers : List String) : Except String Unit :=
  if m.provider = "" then .error "provider is required"
  else if m.provider ∉ providers then
    .error ("provider " ++ quoted m.provider ++ " is not configured")
  else if m.promptPer1M < 0 ∨ m.completionPer1M < 0 then .error "pricing values must be non-negative"
  else if m.infrastructureMonthlyUSD < 0 then
    .error "infrastructure_monthly_usd must be non-negative"
  else if m.markupPercentage < 0 then .error "markup_percentage must be non-negative"
  else if m.type = "ml" ∧ m.endpoint.getD "" = "" then
    .error "execution.endpoint is required for ml models"
  else match checkObservable 0 [] (m.observable.getD []) with
    | .error message => .error message
    | .ok () => m.checkMock

end ModelView

def validateModelConfigOrError (m : modelConfig.Val) (gc : globalConfig.Val)
    (fallbackProviders : List String) : Except String Unit :=
  (viewOf m).check (providersOf gc ++ fallbackProviders)

def modelWarnings (providers : List String) : List String → List ModelView → List String
  | _, [] => []
  | seen, m :: rest =>
    (if m.name ∈ seen then ["duplicate model name: " ++ quoted m.name] else []) ++
    (if m.provider ∉ providers then
      ["model " ++ quoted m.name ++ " references unknown provider " ++ quoted m.provider] else []) ++
    (if m.promptPer1M == 0 ∧ m.completionPer1M == 0 then
      ["model " ++ quoted m.name ++ " has no pricing (smart scoring will use 0)"] else []) ++
    modelWarnings providers (m.name :: seen) rest

def validateGlobalConfig (gc : globalConfig.Val) : List String :=
  modelWarnings (providersOf gc) [] ((modelsOf gc).map viewOf)

def mergeMapsPublic (target patch : Json.Entries) : Json.Entries := mergeMaps target patch

def modelMap (m : modelConfig.Val) : Json.Entries :=
  match modelConfig.encode m with
  | .obj es => es
  | _ => []

def patchedModel (m : modelConfig.Val) (patch : Json.Entries) : Option modelConfig.Val :=
  modelConfig.decode (.obj (mergeMapsPublic (modelMap m) patch)) modelConfig.zero

def setName (name : String) : modelConfig.Val → modelConfig.Val
  | (_,rest) => (name,rest)

structure ModelPatched where
  version : Int
  modelName : String
  message : String
  warnings : List String

def currentConfig (yaml : YamlConfig) : Option (Json × Int) → Except Failure (globalConfig.Val × Int)
  | none => .ok (yaml.globalConfig,0)
  | some (currentJSON,currentVersion) =>
    match globalConfig.decode currentJSON globalConfig.zero with
    | none => .error ⟨500,"global config is corrupt","internal_error"⟩
    | some gc => .ok (gc,currentVersion)

def editModel (yaml : YamlConfig) (modelName : String) (patch : Json.Entries) (gc : globalConfig.Val) :
    Except Failure globalConfig.Val :=
  match (modelsOf gc).findIdx? (fun m => nameOf m = modelName) with
  | none => .error ⟨404,"model not found: " ++ modelName,"not_found"⟩
  | some modelIdx =>
    match (modelsOf gc)[modelIdx]?.bind (fun m => patchedModel m patch) with
    | none => .error (invalidRequest "invalid model patch")
    | some patched =>
      let patched := setName modelName patched
      let gc := withModels ((modelsOf gc).set modelIdx patched) gc
      match validateModelConfigOrError patched gc yaml.providers with
      | .error message => .error ⟨400,message,"validation_error"⟩
      | .ok () => .ok gc

def adminPatchModel (yaml : YamlConfig) (found : Option (Json × Int)) (db : Global.Db)
    (modelName : String) (ifMatch : IfMatch) (body : Except String Json) (actor : Global.Actor) :
    Global.Db × Except Failure ModelPatched :=
  if modelName = "" then (db,.error (invalidRequest "model_name is required"))
  else match ifMatch.parse with
  | .error failure => (db,.error failure)
  | .ok ifMatchVersion =>
    match body with
    | .error message => (db,.error (invalidRequest ("invalid JSON: " ++ message)))
    | .ok body =>
      match asMap (parsed body) with
      | none => (db,.error (invalidRequest "invalid JSON"))
      | some patch =>
        match currentConfig yaml found with
        | .error failure => (db,.error failure)
        | .ok (gc,currentVersion) =>
          if currentVersion ≠ ifMatchVersion then
            (db,.error (versionConflict ⟨ifMatchVersion,currentVersion⟩))
          else match editModel yaml modelName patch gc with
          | .error failure => (db,.error failure)
          | .ok gc =>
            match db.putGlobalConfig ifMatchVersion
                (globalConfig.encode (stripProviderSecretsForStorage gc)) actor with
            | (.newVersion newVersion,db) => (db,.ok ⟨newVersion,modelName,
                "Model " ++ quoted modelName ++ " configuration updated successfully",
                validateGlobalConfig gc⟩)
            | (.versionConflict expected current,db) =>
              (db,.error (versionConflict ⟨expected,current⟩))
            | (_,db) => (db,.error ⟨500,"failed to update model config","internal_error"⟩)

namespace ModelEdit

def aliases : List Alias :=
  match modelConfig with
  | .struct aliases _ => aliases
  | _ => []

def modelFields : Fields :=
  match modelConfig with
  | .struct _ fs => fs
  | _ => .nil

def spellings (field : String) : List Alias :=
  if field = "Pricing" then
    [{ legacy := "PromptPer1M",canonical := "prompt_per_1m" },
     { legacy := "CompletionPer1M",canonical := "completion_per_1m" }]
  else []

def Editable (field : String) : Prop := field ≠ "Name"

structure TakesEffect (patch : Json.Entries) (before after : modelConfig.Val) : Prop where
  name : nameOf after = nameOf before
  fields : EditedFields aliases spellings Editable patch modelFields before after

/-- Each key of the patch reaches its field, or the field has that value already; and the fields
without a key survive their way through `float64`. -/
def Lands (patch : Json.Entries) (before : modelConfig.Val) : Prop :=
  TakenFields aliases spellings Editable patch modelFields before

def InForce (patch : Json.Entries) (gc gc' : globalConfig.Val) (index : ℕ) : Prop :=
  ∃ before after, (modelsOf gc)[index]? = some before ∧
    modelsOf gc' = (modelsOf gc).set index after ∧ TakesEffect patch before after

theorem shape (v : modelFields.Vals) : ∀ i ∈ modelFields.items v, Shape (spellings i.tag.name) i := by
  have hleaf : ∀ {spellings : List Alias} {i : Item}, i.schema.isLeaf = true → Shape spellings i :=
    fun h => .leaf _ h
  refine List.forall_mem_cons.mpr ⟨hleaf rfl,List.forall_mem_cons.mpr ⟨hleaf rfl,
    List.forall_mem_cons.mpr ⟨hleaf rfl,List.forall_mem_cons.mpr ⟨hleaf rfl,
    List.forall_mem_cons.mpr ⟨.struct _ _ _ (Fields.flat_of ?_) ?_,
    List.forall_mem_cons.mpr ⟨.struct _ _ _ (Fields.flat_of ?_) ?_,
    List.forall_mem_cons.mpr ⟨hleaf rfl,List.forall_mem_cons.mpr ⟨hleaf rfl,
    List.forall_mem_cons.mpr ⟨hleaf rfl,List.forall_mem_cons.mpr ⟨hleaf rfl,
    List.forall_mem_cons.mpr ⟨.pointer _ _ _ rfl (Fields.flat_of ?_) ?_,
    List.forall_mem_cons.mpr ⟨.pointer _ _ _ rfl (Fields.flat_of ?_) ?_,
    List.forall_mem_cons.mpr ⟨hleaf rfl,List.forall_mem_cons.mpr ⟨hleaf rfl,
    fun _ h => absurd h List.not_mem_nil⟩⟩⟩⟩⟩⟩⟩⟩⟩⟩⟩⟩⟩⟩
  all_goals try dsimp only
  all_goals decide

theorem nested : Nested aliases spellings modelFields where
  nodup := by decide
  dash := by
    have hall : modelFields.all (fun tag _ => !tag.dash) = true := by decide
    exact fun v i hi => by simpa using modelFields.all_items hall v i hi
  apart := by decide
  shape := shape
  plain := by
    have hall : modelFields.all (fun tag s => s.isLeaf || aliases.all (fun a => a.canonical ≠ tag.name)) =
        true := by decide
    intro v i hi hleaf a ha
    have h := modelFields.all_items hall v i hi
    rw [hleaf,Bool.false_or,List.all_eq_true] at h
    simpa using h a ha

theorem rename_keeps_edit {patch : Json.Entries} {before after : modelFields.Vals} (name : String) :
    EditedFields aliases spellings Editable patch modelFields before (setName name after) ↔
      EditedFields aliases spellings Editable patch modelFields before after :=
  and_congr_left fun _ => iff_of_true (fun h => absurd rfl h) (fun h => absurd rfl h)

theorem sorted_parsed {j : Json} {es : Json.Entries} (h : parsed j = .obj es) : GoMap.Sorted es := by
  cases j with
  | obj entries =>
    rw [parsed,Json.rekey_obj] at h
    cases h
    exact Json.sorted_arrivals entries
  | arr items =>
    rw [parsed,Json.rekey_arr] at h
    cases h
  | _ => simp [parsed] at h

theorem nodup_patch {body : Json} {patch : Json.Entries} (h : asMap (parsed body) = some patch) :
    (patch.map Prod.fst).Nodup ∧ ∀ e ∈ patch, ∀ es, e.2 = .obj es → (es.map Prod.fst).Nodup := by
  cases hbody : parsed body with
  | obj entries =>
    rw [hbody] at h
    cases h
    refine ⟨(sorted_parsed hbody).nodup,fun e he es hes => ?_⟩
    cases body with
    | obj entries =>
      rw [parsed,Json.rekey_obj] at hbody
      cases hbody
      obtain ⟨e',_,rfl⟩ := List.mem_map.mp (GoMap.mem_of_mem_ofList he)
      exact (sorted_parsed hes).nodup
    | arr items =>
      rw [parsed,Json.rekey_arr] at hbody
      cases hbody
    | _ => simp [parsed] at hbody
  | null =>
    rw [hbody] at h
    cases h
    exact ⟨List.nodup_nil,by simp⟩
  | _ =>
    rw [hbody] at h
    cases h

theorem modelsOf_withModels (models : List modelConfig.Val) (gc : globalConfig.Val) :
    modelsOf (withModels models gc) = models := by
  obtain ⟨auth,providers,_,rest⟩ := gc
  rfl

theorem edited_of_ok {yaml : YamlConfig} {gc gc' : globalConfig.Val} {modelName : String}
    {patch : Json.Entries} (h : editModel yaml modelName patch gc = .ok gc') :
    ∃ index before patched, (modelsOf gc).findIdx? (fun m => nameOf m = modelName) = some index ∧
      (modelsOf gc)[index]? = some before ∧ nameOf before = modelName ∧
      patchedModel before patch = some patched ∧
      gc' = withModels ((modelsOf gc).set index (setName modelName patched)) gc := by
  rw [editModel] at h
  cases hfind : (modelsOf gc).findIdx? (fun m => nameOf m = modelName) with
  | none =>
    rw [hfind] at h
    cases h
  | some index =>
    obtain ⟨hlt,hname,-⟩ := List.findIdx?_eq_some_iff_getElem.mp hfind
    rw [hfind] at h
    dsimp only at h
    cases hpatched : (modelsOf gc)[index]?.bind (fun m => patchedModel m patch) with
    | none =>
      rw [hpatched] at h
      cases h
    | some patched =>
      rw [hpatched] at h
      dsimp only at h
      obtain ⟨before,hbefore,hmodel⟩ := Option.bind_eq_some_iff.mp hpatched
      refine ⟨index,before,patched,rfl,hbefore,?_,hmodel,?_⟩
      · obtain ⟨_,hget⟩ := List.getElem?_eq_some_iff.mp hbefore
        rw [← hget]
        exact of_decide_eq_true hname
      · split at h
        · cases h
        · exact (Except.ok.inj h).symm

theorem modelsOf_strip (gc : globalConfig.Val) :
    modelsOf (stripProviderSecretsForStorage gc) = modelsOf gc := by
  obtain ⟨auth,providers,models,rest⟩ := gc
  rfl

theorem in_force_iff {yaml : YamlConfig} {gc gc' : globalConfig.Val} {modelName : String}
    {body : Json} {patch : Json.Entries} (hpatch : asMap (parsed body) = some patch)
    (h : editModel yaml modelName patch gc = .ok gc') :
    ∃ index before, (modelsOf gc).findIdx? (fun m => nameOf m = modelName) = some index ∧
      (modelsOf gc)[index]? = some before ∧
      (InForce patch gc (stripProviderSecretsForStorage gc') index ↔ Lands patch before) := by
  obtain ⟨index,before,patched,hindex,hbefore,hname,hmodel,rfl⟩ := edited_of_ok h
  obtain ⟨hnodup,hinner⟩ := nodup_patch hpatch
  obtain ⟨hlt,_⟩ := List.getElem?_eq_some_iff.mp hbefore
  have hfields := edited_fields_iff (p := Editable) nested hnodup hinner hmodel
  refine ⟨index,before,hindex,hbefore,?_,fun hlands => ?_⟩
  · rintro ⟨before',after,hbefore',hmodels,_,heffect⟩
    have hsame : before' = before := Option.some.inj (hbefore'.symm.trans hbefore)
    have hafter : after = setName modelName patched := by
      rw [modelsOf_strip,modelsOf_withModels] at hmodels
      have hget := congrArg (fun l => l[index]?) hmodels
      simpa [hlt] using hget.symm
    rw [hsame,hafter] at heffect
    exact hfields.mp ((rename_keeps_edit modelName).mp heffect)
  · refine ⟨before,setName modelName patched,hbefore,?_,?_,?_⟩
    · rw [modelsOf_strip]
      exact modelsOf_withModels _ _
    · rw [hname]
      rfl
    · exact (rename_keeps_edit modelName).mpr (hfields.mpr hlands)

structure Saved (yaml : YamlConfig) (found : Option (Json × Int)) (db db' : Global.Db)
    (modelName : String) (body : Json) (version : Int) (gc gc' : globalConfig.Val)
    (patch : Json.Entries) : Prop where
  current : ∃ v, currentConfig yaml found = .ok (gc,v)
  sent : asMap (parsed body) = some patch
  edited : editModel yaml modelName patch gc = .ok gc'
  stored : ∃ createdBy, db'.versions = db.versions ++
    [⟨version,globalConfig.encode (stripProviderSecretsForStorage gc'),createdBy⟩]
  active : db'.active = some version

theorem put_of_newVersion {db db' : Global.Db} {v version : Int} {doc : Json} {actor : Global.Actor}
    (h : db.putGlobalConfig v doc actor = (.newVersion version,db')) :
    (∃ createdBy, db'.versions = db.versions ++ [⟨version,doc,createdBy⟩]) ∧
      db'.active = some version := by
  rw [Global.Db.putGlobalConfig] at h
  cases hactive : db.active with
  | none =>
    rw [hactive] at h
    cases h
  | some current =>
    rw [hactive] at h
    dsimp only at h
    split_ifs at h
    · cases h
    · cases h
      exact ⟨⟨actor.sub,rfl⟩,rfl⟩

section Handler

variable {yaml : YamlConfig} {found : Option (Json × Int)} {db db' : Global.Db} {modelName : String}
  {ifMatch : IfMatch} {body : Json} {actor : Global.Actor} {reply : ModelPatched}

theorem saved_of_ok (h : adminPatchModel yaml found db modelName ifMatch (.ok body) actor =
      (db',.ok reply)) :
    ∃ gc gc' patch, Saved yaml found db db' modelName body reply.version gc gc' patch := by
  have hname : modelName ≠ "" := by
    intro hname
    rw [adminPatchModel,if_pos hname] at h
    cases h
  rw [adminPatchModel,if_neg hname] at h
  cases hparse : ifMatch.parse with
  | error failure =>
    rw [hparse] at h
    cases h
  | ok ifMatchVersion =>
    rw [hparse] at h
    dsimp only at h
    cases hsent : asMap (parsed body) with
    | none =>
      rw [hsent] at h
      cases h
    | some patch =>
      rw [hsent] at h
      dsimp only at h
      cases hcurrent : currentConfig yaml found with
      | error failure =>
        rw [hcurrent] at h
        cases h
      | ok read =>
        obtain ⟨gc,currentVersion⟩ := read
        rw [hcurrent] at h
        dsimp only at h
        have hversion : ¬ currentVersion ≠ ifMatchVersion := by
          intro hversion
          rw [if_pos hversion] at h
          cases h
        rw [if_neg hversion] at h
        cases hedited : editModel yaml modelName patch gc with
        | error failure =>
          rw [hedited] at h
          cases h
        | ok gc' =>
          rw [hedited] at h
          dsimp only at h
          split at h
          · next newVersion written hput =>
            cases h
            obtain ⟨hstored,hactive⟩ := put_of_newVersion hput
            exact ⟨gc,gc',patch,⟨currentVersion,hcurrent⟩,hsent,hedited,hstored,hactive⟩
          · cases h
          · cases h

theorem model_edit_in_force_iff
    (h : adminPatchModel yaml found db modelName ifMatch (.ok body) actor = (db',.ok reply)) :
    ∃ gc gc' patch index before,
      Saved yaml found db db' modelName body reply.version gc gc' patch ∧
      (modelsOf gc).findIdx? (fun m => nameOf m = modelName) = some index ∧
      (modelsOf gc)[index]? = some before ∧
      (InForce patch gc (stripProviderSecretsForStorage gc') index ↔ Lands patch before) := by
  obtain ⟨gc,gc',patch,hsaved⟩ := saved_of_ok h
  obtain ⟨index,before,hindex,hbefore,hiff⟩ := in_force_iff hsaved.sent hsaved.edited
  exact ⟨gc,gc',patch,index,before,hsaved,hindex,hbefore,hiff⟩

end Handler

end ModelEdit

end PrismGateway.Admin
