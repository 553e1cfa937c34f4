import PrismGateway.Config.TenantView
import PrismGateway.Storage.MergePatch
import Mathlib.Logic.Function.Basic

namespace PrismGateway.Storage

open Lib Config.Schemas

structure ConfigRow where
  version : Int
  config : Json

/-- `versioned` joins `tenant_active_config` with `tenant_config_versions`; `flat` is
`tenants_config`. -/
structure TenantTables where
  versioned : String → Option ConfigRow
  flat : String → Option ConfigRow

structure ErrVersionConflict where
  expected : Int
  current : Int

inductive PatchError where
  | conflict (err : ErrVersionConflict)
  | failed (message : String)

namespace TenantTables

def empty : TenantTables := ⟨fun _ => none,fun _ => none⟩

def getTenantConfig (db : TenantTables) (order : Json.MapOrder) (tenantID : String) :
    Option (Json × Int) :=
  match db.versioned tenantID with
  | some row => some (normalizeConfigKeys order row.config,row.version)
  | none => (db.flat tenantID).map (fun row => (normalizeConfigKeys order row.config,row.version))

def activate (db : TenantTables) (tenantID : String) (row : ConfigRow) : TenantTables :=
  ⟨Function.update db.versioned tenantID (some row),db.flat⟩

def setFlat (db : TenantTables) (tenantID : String) (row : ConfigRow) : TenantTables :=
  ⟨db.versioned,Function.update db.flat tenantID (some row)⟩

def putTenantConfig (db : TenantTables) (tenantID : String) (ifMatchVersion : Int)
    (newConfigJSON : Json) : Except ErrVersionConflict (TenantTables × Int) :=
  match db.versioned tenantID with
  | some row =>
    if row.version ≠ ifMatchVersion then .error ⟨ifMatchVersion,row.version⟩
    else .ok (db.activate tenantID ⟨row.version + 1,newConfigJSON⟩,row.version + 1)
  | none =>
    match db.flat tenantID with
    | none =>
      if ifMatchVersion ≠ 0 then .error ⟨ifMatchVersion,0⟩
      else .ok (db.setFlat tenantID ⟨1,newConfigJSON⟩,1)
    | some row =>
      if row.version ≠ ifMatchVersion then .error ⟨ifMatchVersion,row.version⟩
      else .ok (db.setFlat tenantID ⟨row.version + 1,newConfigJSON⟩,row.version + 1)

theorem get_after_put {db db' : TenantTables} {tenantID : String} {ifMatchVersion version : Int}
    {newConfigJSON : Json} (order : Json.MapOrder)
    (h : db.putTenantConfig tenantID ifMatchVersion newConfigJSON = .ok (db',version)) :
    db'.getTenantConfig order tenantID = some (normalizeConfigKeys order newConfigJSON,version) := by
  rw [putTenantConfig] at h
  cases hv : db.versioned tenantID with
  | some row =>
    simp only [hv] at h
    split_ifs at h with hver
    cases h
    simp [getTenantConfig,activate]
  | none =>
    cases hf : db.flat tenantID with
    | none =>
      simp only [hv,hf] at h
      split_ifs at h with hver
      cases h
      simp [getTenantConfig,setFlat,hv]
    | some row =>
      simp only [hv,hf] at h
      split_ifs at h with hver
      cases h
      simp [getTenantConfig,setFlat,hv]

def seedTenantConfig (db : TenantTables) (tenantID : String) (configJSON : Json) : TenantTables :=
  match db.flat tenantID with
  | some _ => db
  | none => db.setFlat tenantID ⟨0,configJSON⟩

def patchTenantConfig (db : TenantTables) (readOrder patchOrder : Json.MapOrder) (tenantID : String)
    (ifMatchVersion : Int) (mergePatchJSON : Json) : Except PatchError (TenantTables × Int) :=
  match db.getTenantConfig readOrder tenantID with
  | none => .error (.failed ("tenant not found: " ++ tenantID))
  | some (currentJSON,currentVersion) =>
    if currentVersion ≠ ifMatchVersion then .error (.conflict ⟨ifMatchVersion,currentVersion⟩)
    else match patchedTenantConfig patchOrder currentJSON mergePatchJSON with
      | .error message => .error (.failed message)
      | .ok newConfigJSON =>
        (db.putTenantConfig tenantID ifMatchVersion newConfigJSON).mapError PatchError.conflict

theorem get_normalized {db : TenantTables} {order : Json.MapOrder} {tenantID : String}
    {configJSON : Json} {version : Int}
    (h : db.getTenantConfig order tenantID = some (configJSON,version)) :
    ∃ raw, configJSON = normalizeConfigKeys order raw := by
  rw [getTenantConfig] at h
  split at h
  · next row _ =>
    cases h
    exact ⟨row.config,rfl⟩
  · obtain ⟨row,_,heq⟩ := Option.map_eq_some_iff.mp h
    cases heq
    exact ⟨row.config,rfl⟩

theorem get_put_other {db db' : TenantTables} {tenantID other : String}
    {ifMatchVersion version : Int} {newConfigJSON : Json} (order : Json.MapOrder)
    (hne : other ≠ tenantID)
    (h : db.putTenantConfig tenantID ifMatchVersion newConfigJSON = .ok (db',version)) :
    db'.getTenantConfig order other = db.getTenantConfig order other := by
  rw [putTenantConfig] at h
  cases hv : db.versioned tenantID with
  | some row =>
    simp only [hv] at h
    split_ifs at h with hver
    cases h
    simp [getTenantConfig,activate,hne]
  | none =>
    cases hf : db.flat tenantID with
    | none =>
      simp only [hv,hf] at h
      split_ifs at h with hver
      cases h
      simp [getTenantConfig,setFlat,hne]
    | some row =>
      simp only [hv,hf] at h
      split_ifs at h with hver
      cases h
      simp [getTenantConfig,setFlat,hne]

theorem get_after_patch {db db' : TenantTables} {readOrder patchOrder : Json.MapOrder}
    {tenantID : String} {ifMatchVersion version : Int} {mergePatchJSON : Json}
    (h : db.patchTenantConfig readOrder patchOrder tenantID ifMatchVersion mergePatchJSON =
      .ok (db',version)) :
    ∃ currentJSON newConfigJSON, db.getTenantConfig readOrder tenantID =
        some (currentJSON,ifMatchVersion) ∧
      patchedTenantConfig patchOrder currentJSON mergePatchJSON = .ok newConfigJSON ∧
      db.putTenantConfig tenantID ifMatchVersion newConfigJSON = .ok (db',version) := by
  rw [patchTenantConfig] at h
  cases hget : db.getTenantConfig readOrder tenantID with
  | none =>
    rw [hget] at h
    cases h
  | some found =>
    obtain ⟨currentJSON,currentVersion⟩ := found
    simp only [hget] at h
    split_ifs at h with hver
    cases hpatch : patchedTenantConfig patchOrder currentJSON mergePatchJSON with
    | error message =>
      rw [hpatch] at h
      cases h
    | ok newConfigJSON =>
      rw [hpatch] at h
      dsimp only at h
      cases hput : db.putTenantConfig tenantID ifMatchVersion newConfigJSON with
      | error conflict =>
        rw [hput] at h
        cases h
      | ok result =>
        rw [hput] at h
        cases h
        exact ⟨currentJSON,newConfigJSON,by rw [not_not.mp hver],hpatch,hput⟩

def loadTenantConfig (db : TenantTables) (order : Json.MapOrder) (tenantID : String) :
    Option tenantConfig.Val :=
  (db.getTenantConfig order tenantID).bind (fun row => tenantConfig.decode row.1 tenantConfig.zero)

end TenantTables

mutual

def deleteNestedSecrets : Json → Json
  | .obj m => .obj (withoutSecrets m)
  | j => j

def withoutSecrets : Json.Entries → Json.Entries
  | [] => []
  | (k,j) :: m =>
    if k = "api_key" ∨ k = "token" then withoutSecrets m
    else (k,deleteNestedSecrets j) :: withoutSecrets m

end

def stripAPIKeys (tc : tenantConfig.Val) : Json :=
  match tenantConfig.encode tc with
  | .obj result => .obj (amend (fun k j => if k = "hooks" then deleteNestedSecrets j else j)
      (GoMap.erase "id" (GoMap.erase "api_keys" result)))
  | j => j

def stored (name : String) : Bool := name ≠ "id" && name ≠ "api_keys"

def withoutStripped : tenantConfig.Val → tenantConfig.Val
  | (_,environment,_,rest) => ("",environment,[],rest)

theorem tenantConfig_names : tenantConfig.fits toSnakeCase = true ∧
    tenantConfig.allLand toSnakeCase = true := by
  decide

def tenantDocument : Document toSnakeCase where
  schema := tenantConfig
  fits := tenantConfig_names.1

theorem tenantConfig_allLand : tenantConfig.allLand toSnakeCase = true := tenantConfig_names.2

mutual

def secretFree : Schema → Bool
  | .ptr s => secretFree s
  | .dict _ => false
  | .struct _ fs => fs.names.all (fun n => n ≠ "api_key" && n ≠ "token") && secretFreeFields fs
  | .bool => true
  | .int => true
  | .float => true
  | .str => true
  | .slice _ => true

def secretFreeFields : Fields → Bool
  | .nil => true
  | .cons _ s rest => secretFree s && secretFreeFields rest

end

theorem withoutSecrets_eq_self {es : Json.Entries}
    (h : ∀ e ∈ es, (e.1 ≠ "api_key" ∧ e.1 ≠ "token") ∧ deleteNestedSecrets e.2 = e.2) :
    withoutSecrets es = es := by
  induction es with
  | nil => rfl
  | cons e es ih =>
    rcases e with ⟨k,j⟩
    obtain ⟨⟨hk,hj⟩,hes⟩ := List.forall_mem_cons.mp h
    rw [withoutSecrets,if_neg (not_or.mpr hk),hj,ih hes]

mutual

theorem deleteNestedSecrets_encode : (s : Schema) → secretFree s = true → (v : s.Val) →
    deleteNestedSecrets (s.encode v) = s.encode v
  | .bool, _, _ => rfl
  | .int, _, _ => rfl
  | .float, _, _ => rfl
  | .str, _, _ => rfl
  | .slice _, _, _ => rfl
  | .dict _, h, _ => by cases h
  | .ptr _, _, none => rfl
  | .ptr s, h, some v => deleteNestedSecrets_encode s h v
  | .struct _ fs, h, v => by
    obtain ⟨hnames,hfields⟩ := Bool.and_eq_true_iff.mp h
    refine congrArg Json.obj (withoutSecrets_eq_self fun e he => ?_)
    have hemit := GoMap.mem_of_mem_ofList he
    rw [fs.emit_eq_items v] at hemit
    obtain ⟨i,hi,rfl⟩ := List.mem_map.mp hemit
    obtain ⟨himem,hsent⟩ := List.mem_filter.mp hi
    have hname := List.all_eq_true.mp hnames _
      (Fields.mem_names_of_mem_items himem (Item.not_dash_of_sent hsent))
    exact ⟨by simpa [Item.entry] using hname,deleteNestedSecrets_items fs hfields v i himem⟩

theorem deleteNestedSecrets_items : (fs : Fields) → secretFreeFields fs = true → (v : fs.Vals) →
    ∀ i ∈ fs.items v, deleteNestedSecrets (i.schema.encode i.val) = i.schema.encode i.val
  | .nil, _, _ => by simp [Fields.items]
  | .cons _ s rest, h, v => by
    obtain ⟨hs,hrest⟩ := Bool.and_eq_true_iff.mp h
    rw [Fields.items,List.forall_mem_cons]
    exact ⟨deleteNestedSecrets_encode s hs v.1,deleteNestedSecrets_items rest hrest v.2⟩

end

theorem hooks_secretFree :
    tenantFields.all (fun tag s => tag.name ≠ "hooks" || secretFree s) = true := by
  decide

theorem deleteNestedSecrets_hooks {tc : tenantFields.Vals} {e : String × Json}
    (he : e ∈ tenantFields.emit tc) (hname : e.1 = "hooks") : deleteNestedSecrets e.2 = e.2 := by
  rw [tenantFields.emit_eq_items tc] at he
  obtain ⟨i,hi,rfl⟩ := List.mem_map.mp he
  have hfree := tenantFields.all_items hooks_secretFree tc i (List.mem_filter.mp hi).1
  have hname' : i.tag.name = "hooks" := hname
  simp only [hname',ne_eq,not_true_eq_false,decide_false,Bool.false_or] at hfree
  exact deleteNestedSecrets_encode i.schema hfree i.val

theorem stripAPIKeys_eq (tc : tenantFields.Vals) :
    stripAPIKeys tc = .obj (GoMap.ofList (tenantFields.sent stored tc)) := by
  have hnodup : ((tenantFields.emit tc).map Prod.fst).Nodup :=
    (tenantFields.emit_sublist tc).nodup (by decide)
  have herase : GoMap.erase "id" (GoMap.erase "api_keys" (GoMap.ofList (tenantFields.emit tc))) =
      GoMap.ofList (tenantFields.sent stored tc) := by
    rw [GoMap.erase,GoMap.erase,List.filter_filter,Fields.sent,GoMap.filter_ofList hnodup]
    rfl
  have hstrip : stripAPIKeys tc = .obj (amend (fun k j => if k = "hooks" then deleteNestedSecrets j else j)
      (GoMap.erase "id" (GoMap.erase "api_keys" (GoMap.ofList (tenantFields.emit tc))))) := rfl
  rw [hstrip,herase,amend]
  refine congrArg Json.obj ?_
  conv_rhs => rw [← List.map_id (GoMap.ofList (tenantFields.sent stored tc))]
  refine List.map_congr_left fun e he => ?_
  have hemit : e ∈ tenantFields.emit tc := List.mem_of_mem_filter (GoMap.mem_of_mem_ofList he)
  split_ifs with hname
  · rw [deleteNestedSecrets_hooks hemit hname]
    rfl
  · rfl

theorem keepOnly_stored (tc : tenantFields.Vals) :
    tenantFields.keepOnly stored tc = withoutStripped tc := by
  obtain ⟨id,environment,apiKeys,rest⟩ := tc
  have hrest : (fields tenantSettings).keepOnly stored rest = rest :=
    Fields.keepOnly_eq_self _ (by decide) rest
  have hid : (if stored "id" = true then (id : String) else "") = "" := if_neg (by decide)
  have henv : (if stored "environment" = true then (environment : String) else "") = environment :=
    if_pos (by decide)
  have hkeys : (if stored "api_keys" = true then (apiKeys : List String) else []) = [] :=
    if_neg (by decide)
  exact Prod.ext hid (Prod.ext henv (Prod.ext hkeys hrest))

def textual : Schema → Bool
  | .str => true
  | .slice .str => true
  | _ => false

theorem keeps_of_textual {key : String → String} {s : Schema} (h : textual s = true) (v : s.Val) :
    s.Keeps key v := by
  cases s with
  | str => trivial
  | slice s =>
    cases s with
    | str => exact fun _ _ => trivial
    | _ => cases h
  | _ => cases h

theorem stripped_textual :
    tenantFields.all (fun tag s => stored tag.name || textual s) = true := by decide

theorem load_stripped_iff (order : Json.MapOrder) (tc : tenantFields.Vals) :
    tenantConfig.decode (normalizeConfigKeys order (stripAPIKeys tc)) tenantConfig.zero =
        some (withoutStripped tc) ↔ tenantConfig.Keeps toSnakeCase tc := by
  have hdecode := Fields.decode_kept_iff toSnakeCase_idempotent order.perm tenantDocument.fits stored tc
  have hdoc : normalizeConfigKeys order (stripAPIKeys tc) =
      .obj (incoming toSnakeCase order.iter [] (tenantFields.sent stored tc)) := by
    rw [stripAPIKeys_eq,normalizeConfigKeys,Json.rekey_obj]
    rfl
  rw [keepOnly_stored] at hdecode
  rw [hdoc]
  refine hdecode.trans (Iff.trans ?_ (tenantFields.keep_iff toSnakeCase tc).symm)
  refine forall_congr' fun i => forall_congr' fun hi => ?_
  obtain ⟨hlands,hall⟩ := tenantFields.allLand_items tenantConfig_allLand tc i hi
  rw [if_pos hlands,i.schema.survives_iff_keeps hall]
  cases hstored : stored i.tag.name with
  | true => exact ⟨fun h => h rfl,fun h _ => h⟩
  | false =>
    have htext := tenantFields.all_items stripped_textual tc i hi
    rw [hstored,Bool.false_or] at htext
    exact ⟨fun _ => keeps_of_textual htext i.val,fun _ h => by cases h⟩

theorem TenantTables.load_after_put {db db' : TenantTables} {tenantID : String}
    {ifMatchVersion version : Int} {newConfigJSON : Json} (order : Json.MapOrder)
    (h : db.putTenantConfig tenantID ifMatchVersion newConfigJSON = .ok (db',version)) :
    db'.loadTenantConfig order tenantID =
      tenantConfig.decode (normalizeConfigKeys order newConfigJSON) tenantConfig.zero := by
  rw [loadTenantConfig,get_after_put order h]
  rfl

theorem tenant_round_trip_iff (order : Json.MapOrder) {db db' : TenantTables} {tenantID : String}
    {ifMatchVersion version : Int} {tc : tenantConfig.Val}
    (hput : db.putTenantConfig tenantID ifMatchVersion (stripAPIKeys tc) = .ok (db',version)) :
    db'.loadTenantConfig order tenantID = some (withoutStripped tc) ↔
      tenantConfig.Keeps toSnakeCase tc := by
  rw [TenantTables.load_after_put order hput]
  exact load_stripped_iff order tc

def tenantWithGroup (group : String) : tenantConfig.Val :=
  ("acme","PROD",["key-1"],some ["gpt-4o"],
    ("round_robin",group,smartConfig.zero,fallbackConfig.zero,semanticRoutingConfig.zero,()),
    ("","",some ⟨[(group,some ["gpt-4o"])],List.pairwise_singleton _ _⟩,precedenceConfig.zero,
      ⟨[],List.Pairwise.nil⟩,false,false,()),
    semanticCacheConfig.zero,⟨[],List.Pairwise.nil⟩,hooksConfig.zero,(Json.Number.zero,"UTC",()),
    budgetEnforcementConfig.zero,((60 : Int),(10 : Int),"",()),((30 : Int),"full",()),
    tenantLoggingConfig.zero,alertsConfig.zero,none,⟨[],List.Pairwise.nil⟩,none,none,none,())

def storedWithGroup (group : String) : TenantTables :=
  TenantTables.empty.setFlat "acme" ⟨1,stripAPIKeys (tenantWithGroup group)⟩

theorem put_tenantWithGroup (group : String) :
    TenantTables.empty.putTenantConfig "acme" 0 (stripAPIKeys (tenantWithGroup group)) =
      .ok (storedWithGroup group,1) := rfl

theorem cheap_kept : tenantConfig.Keeps toSnakeCase (tenantWithGroup "cheap") := by decide +kernel

theorem lowercase_group_round_trips :
    (storedWithGroup "cheap").loadTenantConfig ⟨fun l => l,List.Perm.refl⟩ "acme" =
      some (withoutStripped (tenantWithGroup "cheap")) :=
  (tenant_round_trip_iff _ (put_tenantWithGroup "cheap")).mpr cheap_kept

def acceptedBy (tc : tenantConfig.Val) : Except String Unit :=
  Config.validateTenantConfig (fun name => if name = "gpt-4o" then some ⟨name,"openai","","",{},{},none⟩ else none)
    (fun timezone => timezone = "UTC") (tenantOf tc)

theorem rekey_ofList_congr {key : String → String} {iter : Json.Entries → Json.Entries} {es es' : Json.Entries}
    (h : es.map (fun e => (e.1,Json.rekey key iter e.2)) = es'.map (fun e => (e.1,Json.rekey key iter e.2))) :
    Json.rekey key iter (.obj (GoMap.ofList es)) = Json.rekey key iter (.obj (GoMap.ofList es')) := by
  have hmapped (es : Json.Entries) : es.map (fun e => (key e.1,Json.rekey key iter e.2)) =
      (es.map (fun e => (e.1,Json.rekey key iter e.2))).map (fun e => (key e.1,e.2)) := by
    rw [List.map_map]
    rfl
  rw [Json.rekey_obj,Json.rekey_obj,Json.arrivals,Json.arrivals,hmapped,hmapped (GoMap.ofList _),
    GoMap.map_ofList,GoMap.map_ofList,h]

def renamedGroup : tenantConfig.Val :=
  ("acme","PROD",["key-1"],some ["gpt-4o"],
    ("round_robin","Cheap",smartConfig.zero,fallbackConfig.zero,semanticRoutingConfig.zero,()),
    ("","",some ⟨[("cheap",some ["gpt-4o"])],List.pairwise_singleton _ _⟩,precedenceConfig.zero,
      ⟨[],List.Pairwise.nil⟩,false,false,()),
    (tenantWithGroup "Cheap").2.2.2.2.2.2)

def selectionWithGroup (group : String) : selectionConfig.Val :=
  ("","",some ⟨[(group,some ["gpt-4o"])],List.pairwise_singleton _ _⟩,precedenceConfig.zero,
    ⟨[],List.Pairwise.nil⟩,false,false,())

def groupTable (group : String) : Json := .obj [(group,.arr [.str "gpt-4o"])]

theorem rekey_groupTable (order : Json.MapOrder) : Json.rekey toSnakeCase order.iter (groupTable "Cheap") =
    Json.rekey toSnakeCase order.iter (groupTable "cheap") := by
  have hcapital : toSnakeCase "Cheap" = "cheap" := by decide
  have hsmall : toSnakeCase "cheap" = "cheap" := by decide
  simp only [groupTable,Json.rekey_obj,Json.arrivals,List.map_cons,hcapital,hsmall]

def selectionEntries (group : String) : Json.Entries :=
  [("header_model_key",.str ""),("header_route_key",.str ""),("route_groups",groupTable group),
    ("precedence",precedenceConfig.encode precedenceConfig.zero),("allow_model_override",.bool false),
    ("allow_route_group_override",.bool false)]

theorem encode_selection (group : String) : selectionConfig.encode (selectionWithGroup group) =
    .obj (GoMap.ofList (selectionEntries group)) := rfl

theorem rekey_selection (order : Json.MapOrder) :
    Json.rekey toSnakeCase order.iter (selectionConfig.encode (selectionWithGroup "Cheap")) =
      Json.rekey toSnakeCase order.iter (selectionConfig.encode (selectionWithGroup "cheap")) := by
  rw [encode_selection,encode_selection]
  refine rekey_ofList_congr ?_
  simp only [selectionEntries,List.map_cons,rekey_groupTable]

theorem sent_renamed : (tenantFields.sent stored renamedGroup)[3]? =
    some ("selection",selectionConfig.encode (selectionWithGroup "cheap")) := rfl

theorem sent_capital : tenantFields.sent stored (tenantWithGroup "Cheap") =
    (tenantFields.sent stored renamedGroup).set 3
      ("selection",selectionConfig.encode (selectionWithGroup "Cheap")) := rfl

theorem renamedGroup_loaded (order : Json.MapOrder) : (storedWithGroup "Cheap").loadTenantConfig order "acme" =
    some (withoutStripped renamedGroup) := by
  have hkept : tenantConfig.Keeps toSnakeCase renamedGroup := cheap_kept
  have hsame : normalizeConfigKeys order (stripAPIKeys (tenantWithGroup "Cheap")) =
      normalizeConfigKeys order (stripAPIKeys renamedGroup) := by
    rw [stripAPIKeys_eq (tenantWithGroup "Cheap"),stripAPIKeys_eq renamedGroup,normalizeConfigKeys,
      normalizeConfigKeys]
    refine rekey_ofList_congr ?_
    rw [sent_capital,List.map_set,rekey_selection]
    obtain ⟨hlength,hget⟩ := List.getElem?_eq_some_iff.mp sent_renamed
    refine Eq.trans ?_ (@List.set_getElem_self _ ((tenantFields.sent stored renamedGroup).map _) 3
      (by rwa [List.length_map]))
    rw [List.getElem_map,hget]
  rw [TenantTables.load_after_put _ (put_tenantWithGroup "Cheap"),hsame]
  exact (load_stripped_iff _ renamedGroup).mpr hkept

theorem capital_group_is_renamed :
    acceptedBy (tenantWithGroup "Cheap") = .ok () ∧
    TenantTables.empty.putTenantConfig "acme" 0 (stripAPIKeys (tenantWithGroup "Cheap")) =
      .ok (storedWithGroup "Cheap",1) ∧
    (∀ order, (storedWithGroup "Cheap").loadTenantConfig order "acme" ≠
      some (withoutStripped (tenantWithGroup "Cheap"))) ∧
    ((storedWithGroup "Cheap").loadTenantConfig ⟨fun l => l,List.Perm.refl⟩ "acme").map acceptedBy =
      some (.error "routing.route_group 'Cheap' does not exist in selection.route_groups") := by
  refine ⟨by decide,rfl,fun order => ?_,?_⟩
  rotate_left
  · rw [renamedGroup_loaded,Option.map_some]
    decide
  rw [TenantTables.load_after_put order (put_tenantWithGroup "Cheap")]
  have hlost : ¬ tenantConfig.Keeps toSnakeCase (tenantWithGroup "Cheap") := by
    intro h
    have hgroup := (h.2.2.2.2.2.1.2.2.1 _ rfl ("Cheap",some ["gpt-4o"]) List.mem_cons_self).1
    revert hgroup
    decide
  exact fun h => hlost ((load_stripped_iff order (tenantWithGroup "Cheap")).mp h)

end PrismGateway.Storage
