import PrismGateway.Admin.ConfigReads

namespace PrismGateway.Admin.ConfigReads

open Lib Lib.Json Storage

def globalSecrets : Positions
  | [.key "providers",.key _,.key "api_key"] => true
  | [.key "providers",.key _,.key "aws_secret_access_key"] => true
  | [.key "circuit_breaker",.key "redis",.key "password"] => true
  | [.key "rate_limit",.key "redis",.key "password"] => true
  | [.key "smart_routing",.key "metrics_store",.key "redis",.key "password"] => true
  | _ => false

def hookSecrets (path : List Step) : Bool :=
  path.getLast? = some (.key "api_key") || path.getLast? = some (.key "token")

def tenantSecrets : Positions
  | .key "hooks" :: path => hookSecrets path
  | [.key "decision_ops",.key "enabled_workflows",.item,.key "external_classifier",
      .key "api_key"] => true
  | [.key "budget_enforcement",.key "events",.key "redis",.key "password"] => true
  | _ => false

def changeSecrets : Positions
  | .key name :: .key "old" :: path => tenantSecrets (.key name :: path)
  | .key name :: .key "new" :: path => tenantSecrets (.key name :: path)
  | _ => false

-- stored documents spell their keys either way, and readers bring them to snake case
def globalSpots : Positions := globalSecrets.through toSnakeCase

def tenantSpots : Positions := tenantSecrets.through toSnakeCase

def changeSpots : Positions := changeSecrets.through toSnakeCase

def scopeSpots (scope : String) : Positions := if scope = "global" then globalSpots else tenantSpots

def redactedSpots : Positions
  | [.key "providers",.key _,.key k] => k ∈ providerSecretKeys
  | _ => false

def deletedBelow : Positions
  | [] => false
  | .item :: _ => false
  | .key k :: path => k = "api_key" || k = "token" || deletedBelow path

def deletedSpots : Positions
  | .key "hooks" :: path => deletedBelow path
  | _ => false

def ConfigChange.mapSecrets (f : String → String) (c : ConfigChange) : ConfigChange :=
  { c with diff := mapAt f changeSpots c.diff }

def mapRow (f : String → String) (row : ConfigRow) : ConfigRow :=
  ⟨row.version,mapAt f tenantSpots row.config⟩

def mapVersion (f : String → String) (row : Global.VersionRow) : Global.VersionRow :=
  { row with configJSON := mapAt f globalSpots row.configJSON }

def mapTenant (f : String → String) (db : Tenant.Db) : Tenant.Db :=
  ⟨db.versions.map (mapRow f),db.active,db.flat.map (mapRow f)⟩

def Store.mapSecrets (f : String → String) (store : Store) : Store where
  global := { store.global with versions := store.global.versions.map (mapVersion f) }
  tenant tenantID := mapTenant f (store.tenant tenantID)
  changeLog := store.changeLog.map (ConfigChange.mapSecrets f)

def Store.masked (store : Store) : Store := store.mapSecrets mark

def Store.Conceals (server : Server) (store : Store) (read : Read) : Prop :=
  ∀ store' : Store, store'.masked = store.masked →
    respond server store' read = respond server store read

def Store.Clear (server : Server) (store : Store) : Read → Prop
  | .globalConfig roles => requireGlobalConfigAdminRole roles = true →
      ∀ row ∈ getGlobalConfig store.global, Unset (globalSpots.diff redactedSpots) row.1
  | .tenantConfig tenantID =>
      ∀ row ∈ getTenantConfig server.order.toMapOrder (store.tenant tenantID),
        Unset (tenantSpots.diff deletedSpots) row.1
  | .configDiff r => ∀ v, r.versions = .ok v → ∀ docs, r.documents store v.1 v.2 = .ok docs →
      Unset (scopeSpots r.scope) (.obj docs.1) ∧ Unset (scopeSpots r.scope) (.obj docs.2)
  | .configChanges tenantID limitStr =>
      ∀ c ∈ listTenantConfigChanges store tenantID ((GoStrings.atoi limitStr).getD 50),
        Unset changeSpots c.diff

variable {f : String → String}

section Global

theorem redactText_eq {p : Positions} (hroot : p [] = true) (hitem : p.item = .none)
    (hkey : ∀ k, p.key k = .none) (j : Json) : redactText j = mapAt mark p j := by
  cases j with
  | str s => simp [redactText,mapAt_str,hroot]
  | arr items => simp [redactText,mapAt_arr_of_none hitem]
  | obj entries => simp [redactText,mapAt_obj,hkey,mapAt_none,amend]
  | null => simp [redactText,mapAt]
  | bool b => simp [redactText,mapAt]
  | num x => simp [redactText,mapAt]

theorem redactProvider_eq (name : String) (j : Json) :
    redactProvider j = mapAt mark ((redactedSpots.key "providers").key name) j := by
  have hitem : ((redactedSpots.key "providers").key name).item = .none := by
    funext path
    simp [Positions.key,Positions.item,Positions.none,redactedSpots]
  cases j with
  | obj entries =>
    rw [mapAt_obj,redactProvider]
    refine congrArg Json.obj (amend_congr fun e _ => ?_)
    by_cases hk : e.1 ∈ providerSecretKeys
    · rw [if_pos hk]
      refine redactText_eq ?_ ?_ ?_ e.2
      · simp [Positions.key,redactedSpots,hk]
      · funext path
        simp [Positions.key,Positions.item,Positions.none,redactedSpots]
      · intro k
        funext path
        simp [Positions.key,Positions.none,redactedSpots]
    · have hnone : ((redactedSpots.key "providers").key name).key e.1 = .none := by
        funext path
        cases path with
        | nil => simp [Positions.key,Positions.none,redactedSpots,hk]
        | cons step path => simp [Positions.key,Positions.none,redactedSpots]
      rw [if_neg hk,hnone,mapAt_none]
  | _ => exact (mapAt_of_not_obj rfl hitem (fun _ h => by cases h)).symm

theorem redactProviders_eq (j : Json) :
    redactProviders j = mapAt mark (redactedSpots.key "providers") j := by
  have hitem : (redactedSpots.key "providers").item = .none := by
    funext path
    simp [Positions.key,Positions.item,Positions.none,redactedSpots]
  cases j with
  | obj entries =>
    rw [mapAt_obj,redactProviders]
    exact congrArg Json.obj (amend_congr fun e _ => redactProvider_eq e.1 e.2)
  | _ => exact (mapAt_of_not_obj rfl hitem (fun _ h => by cases h)).symm

theorem servedGlobal_obj (root : Entries) :
    servedGlobal (.obj root) = mapAt mark redactedSpots (.obj root) := by
  rw [mapAt_obj,servedGlobal]
  refine congrArg Json.obj (amend_congr fun e _ => ?_)
  by_cases hk : e.1 = "providers"
  · rw [if_pos hk,hk]
    exact redactProviders_eq e.2
  · have hnone : redactedSpots.key e.1 = .none := by
      funext path
      rw [Positions.key,redactedSpots.eq_def]
      split
      · rename_i heq
        simp only [List.cons.injEq,Step.key.injEq] at heq
        exact absurd heq.1 hk
      · rfl
    rw [if_neg hk,hnone,mapAt_none]

theorem servedGlobal_discloses :
    Discloses globalSpots (globalSpots.diff redactedSpots) servedGlobal := by
  have hitem : globalSpots.item = .none := by
    funext path
    simp [Positions.item,Positions.none,globalSpots,Positions.through,globalSecrets]
  have hshown : (globalSpots.diff redactedSpots).item = .none := by
    funext path
    have hpath := congrFun hitem path
    simp only [Positions.item,Positions.none] at hpath
    simp [Positions.item,Positions.diff,Positions.none,hpath]
  constructor
  · intro f hf d
    cases d with
    | obj root =>
      rw [servedGlobal_obj,← discloses_marked.shown f hf,mapAt_obj,servedGlobal_obj]
    | _ =>
      exact (congrArg servedGlobal (mapAt_of_not_obj rfl hitem (fun _ h => by cases h))).trans
        (mapAt_of_not_obj rfl hshown (fun _ h => by cases h)).symm
  · intro d
    cases d with
    | obj root => rw [servedGlobal_obj,discloses_marked.unset]
    | _ =>
      refine iff_of_true ?_ ?_
      · exact allAt_of_not_obj rfl hshown (fun _ h => by cases h)
      · exact allAt_of_not_obj rfl hshown (fun _ h => by cases h)

end Global

section Tenant

variable {t : Positions}

def secretKey (k : String) : Bool := k = "api_key" || k = "token"

theorem withoutSecrets_eq (m : Entries) : withoutSecrets m =
    amend (fun _ => deleteNestedSecrets) (m.filter (fun e => !secretKey e.1)) := by
  induction m with
  | nil => rfl
  | cons e m ih =>
    rcases e with ⟨k,j⟩
    by_cases hk : k = "api_key" ∨ k = "token"
    · have hfilter : secretKey k = true := by simpa [secretKey] using hk
      rw [withoutSecrets,if_pos hk,ih,List.filter_cons_of_neg (by simp [hfilter])]
    · have hfilter : secretKey k = false := by simpa [secretKey] using hk
      rw [withoutSecrets,if_neg hk,ih,List.filter_cons_of_pos (by simp [hfilter])]
      rfl

theorem diff_deletedBelow_key_of_secret {k : String} (hk : secretKey k = true) :
    (t.diff deletedBelow).key k = .none := by
  have hkey : k = "api_key" ∨ k = "token" := by simpa [secretKey] using hk
  funext path
  rcases hkey with rfl | rfl
  · simp [Positions.key,Positions.diff,Positions.none,deletedBelow]
  · simp [Positions.key,Positions.diff,Positions.none,deletedBelow]

theorem diff_deletedBelow_key {k : String} (hk : secretKey k = false) :
    (t.diff deletedBelow).key k = (t.key k).diff deletedBelow := by
  have hkey : ¬ k = "api_key" ∧ ¬ k = "token" := by simpa [secretKey] using hk
  funext path
  simp [Positions.key,Positions.diff,deletedBelow,hkey]

theorem diff_deletedBelow_item : (t.diff deletedBelow).item = t.item := by
  funext path
  simp [Positions.item,Positions.diff,deletedBelow]

theorem deleteNestedSecrets_mapAt (j : Json) : deleteNestedSecrets (mapAt f t j) =
    mapAt f (t.diff deletedBelow) (deleteNestedSecrets j) := by
  induction j using tree_induction generalizing t with
  | null => simp [mapAt,deleteNestedSecrets]
  | bool b => simp [mapAt,deleteNestedSecrets]
  | num x => simp [mapAt,deleteNestedSecrets]
  | str s => simp [mapAt,deleteNestedSecrets,Positions.diff,deletedBelow]
  | arr items => simp [mapAt,deleteNestedSecrets,diff_deletedBelow_item]
  | obj entries ih =>
    have hkeys : (amend (fun k => mapAt f (t.key k)) entries).filter (fun e => !secretKey e.1) =
        amend (fun k => mapAt f (t.key k)) (entries.filter (fun e => !secretKey e.1)) :=
      List.filter_map
    rw [mapAt_obj,deleteNestedSecrets,deleteNestedSecrets,mapAt_obj,withoutSecrets_eq,
      withoutSecrets_eq,hkeys,amend_amend,amend_amend]
    refine congrArg Json.obj (amend_congr fun e he => ?_)
    obtain ⟨hmem,hk⟩ := List.mem_filter.mp he
    rw [ih e hmem,diff_deletedBelow_key (by simpa using hk)]

theorem unset_deleteNestedSecrets (j : Json) :
    Unset (t.diff deletedBelow) (deleteNestedSecrets j) ↔ Unset (t.diff deletedBelow) j := by
  induction j using tree_induction generalizing t with
  | null => simp [deleteNestedSecrets]
  | bool b => simp [deleteNestedSecrets]
  | num x => simp [deleteNestedSecrets]
  | str s => simp [deleteNestedSecrets]
  | arr items => simp [deleteNestedSecrets]
  | obj entries ih =>
    rw [deleteNestedSecrets,withoutSecrets_eq,Unset,allAt_obj,Unset,allAt_obj,amend,
      List.forall_mem_map]
    have hvalue : ∀ e ∈ entries, secretKey e.1 = false →
        (Unset ((t.diff deletedBelow).key e.1) (deleteNestedSecrets e.2) ↔
          Unset ((t.diff deletedBelow).key e.1) e.2) := by
      intro e he hk
      rw [diff_deletedBelow_key hk]
      exact ih e he
    constructor
    · intro h e he
      cases hk : secretKey e.1 with
      | true =>
        rw [diff_deletedBelow_key_of_secret hk]
        exact allAt_none e.2
      | false => exact (hvalue e he hk).1 (h e (List.mem_filter.2 ⟨he,by simp [hk]⟩))
    · intro h e he
      obtain ⟨hmem,hk⟩ := List.mem_filter.mp he
      exact (hvalue e hmem (by simpa using hk)).2 (h e hmem)

theorem tenantSpots_environment : tenantSpots.key "environment" = .none := by
  have hkey : toSnakeCase "environment" = "environment" := by decide
  funext path
  simp [Positions.key,Positions.none,tenantSpots,Positions.through,tenantSecrets,hkey]

theorem tenantSpots_item : tenantSpots.item = .none := by
  funext path
  simp [Positions.item,Positions.none,tenantSpots,Positions.through,tenantSecrets]

theorem diff_deletedSpots_key {k : String} (hk : k ≠ "hooks") :
    (t.diff deletedSpots).key k = t.key k := by
  have hkept : ∀ path, deletedSpots (.key k :: path) = false := by
    intro path
    rw [deletedSpots.eq_def]
    split
    · rename_i heq
      simp only [List.cons.injEq,Step.key.injEq] at heq
      exact absurd heq.1 hk
    · rfl
  funext path
  simp [Positions.key,Positions.diff,hkept]

theorem diff_deletedSpots_item : (tenantSpots.diff deletedSpots).item = .none := by
  rw [← tenantSpots_item]
  funext path
  simp [Positions.item,Positions.diff,deletedSpots]

theorem environmentOf_amend (m : Entries) :
    environmentOf (amend (fun k => mapAt f (tenantSpots.key k)) m) = environmentOf m := by
  have hlookup : (m.lookup "environment").map (mapAt f (tenantSpots.key "environment")) =
      m.lookup "environment" := by
    rw [tenantSpots_environment,funext fun j => mapAt_none (f := f) j]
    exact Option.map_id'
  rw [environmentOf,lookup_amend,hlookup,environmentOf]

theorem servedTenant_mapAt (server : Server) (d : Json) :
    servedTenant server (mapAt f tenantSpots d) =
      mapAt f (tenantSpots.diff deletedSpots) (servedTenant server d) := by
  cases d with
  | obj m =>
    have henv : ∀ v, mapAt f (tenantSpots.key "environment") v = v := by
      intro v
      rw [tenantSpots_environment,mapAt_none]
    have hinsert := fun v => GoMap.insert_amend (k := "environment") (j := v)
      (fun k => mapAt f (tenantSpots.key k)) m
    simp only [henv] at hinsert
    rw [mapAt_obj,servedTenant,servedTenant,mapAt_obj,environmentOf_amend,hinsert,amend_amend,
      amend_amend]
    refine congrArg Json.obj (amend_congr fun e _ => ?_)
    by_cases hk : e.1 = "hooks"
    · rw [if_pos hk,if_pos hk,hk]
      exact deleteNestedSecrets_mapAt e.2
    · rw [if_neg hk,if_neg hk,diff_deletedSpots_key hk]
  | _ =>
    exact (congrArg (servedTenant server) (mapAt_of_not_obj rfl tenantSpots_item (fun _ h => by cases h))).trans
      (mapAt_of_not_obj rfl diff_deletedSpots_item (fun _ h => by cases h)).symm

theorem unset_servedTenant (server : Server) (d : Json) :
    Unset (tenantSpots.diff deletedSpots) (servedTenant server d) ↔
      Unset (tenantSpots.diff deletedSpots) d := by
  cases d with
  | obj m =>
    have henv : ∀ v, Unset ((tenantSpots.diff deletedSpots).key "environment") v := by
      intro v
      rw [diff_deletedSpots_key (by decide),tenantSpots_environment]
      exact allAt_none v
    have hvalue : ∀ e : String × Json, Unset ((tenantSpots.diff deletedSpots).key e.1)
        (if e.1 = "hooks" then deleteNestedSecrets e.2 else e.2) ↔
          Unset ((tenantSpots.diff deletedSpots).key e.1) e.2 := by
      intro e
      by_cases hk : e.1 = "hooks"
      · rw [if_pos hk,hk]
        exact unset_deleteNestedSecrets (t := tenantSpots.key "hooks") e.2
      · rw [if_neg hk]
    rw [servedTenant,Unset,allAt_obj,Unset,allAt_obj,amend,List.forall_mem_map]
    simp only [hvalue]
    constructor
    · intro h e he
      by_cases hk : e.1 = "environment"
      · rw [hk]
        exact henv e.2
      · exact h e (GoMap.mem_insert_of_mem he hk)
    · intro h e he
      rcases GoMap.mem_of_mem_insert he with rfl | he
      · exact henv _
      · exact h e he
  | _ => rfl

theorem servedTenant_discloses (server : Server) :
    Discloses tenantSpots (tenantSpots.diff deletedSpots) (servedTenant server) :=
  ⟨fun _ _ => servedTenant_mapAt server,unset_servedTenant server⟩

end Tenant

section Rows

variable (store : Store)

def mapFound (f : String → String) (p : Positions) (found : Json × Int) : Json × Int :=
  (mapAt f p found.1,found.2)

theorem row_mapSecrets (id : Int) :
    (store.mapSecrets f).global.row id = (store.global.row id).map (mapVersion f) :=
  List.find?_map

def later (best : Option Global.VersionRow) (r : Global.VersionRow) : Option Global.VersionRow :=
  match best with
  | none => some r
  | some b => if b.id < r.id then some r else some b

theorem later_mapVersion (best : Option Global.VersionRow) (r : Global.VersionRow) :
    later (best.map (mapVersion f)) (mapVersion f r) = (later best r).map (mapVersion f) := by
  cases best with
  | none => rfl
  | some b =>
    by_cases hlt : b.id < r.id
    · simp [later,mapVersion,hlt]
    · simp [later,mapVersion,hlt]

theorem selectLatest_eq (db : Global.Db) :
    db.selectLatest = (db.versions.foldl later none).map (fun r => (r.configJSON,r.id)) := rfl

theorem selectLatest_mapSecrets : (store.mapSecrets f).global.selectLatest =
    store.global.selectLatest.map (mapFound f globalSpots) := by
  have hfold : (store.mapSecrets f).global.versions.foldl later none =
      (store.global.versions.foldl later none).map (mapVersion f) :=
    calc (store.global.versions.map (mapVersion f)).foldl later none
      _ = store.global.versions.foldl (fun best r => later best (mapVersion f r))
            (Option.map (mapVersion f) none) := List.foldl_map
      _ = (store.global.versions.foldl later none).map (mapVersion f) :=
        List.foldl_hom (Option.map (mapVersion f)) later_mapVersion
  rw [selectLatest_eq,selectLatest_eq,hfold,Option.map_map,Option.map_map]
  rfl

theorem getGlobalConfig_mapSecrets : getGlobalConfig (store.mapSecrets f).global =
    (getGlobalConfig store.global).map (mapFound f globalSpots) := by
  have hactive : (store.mapSecrets f).global.selectActive =
      store.global.selectActive.map (mapFound f globalSpots) := by
    have hbind : (store.mapSecrets f).global.active.bind (store.mapSecrets f).global.row =
        (store.global.active.bind store.global.row).map (mapVersion f) := by
      rw [Option.map_bind]
      exact congrArg (Option.bind store.global.active) (funext (row_mapSecrets store))
    rw [Global.Db.selectActive,hbind,Global.Db.selectActive,Option.map_map,Option.map_map]
    rfl
  rw [getGlobalConfig,hactive,selectLatest_mapSecrets,getGlobalConfig]
  cases store.global.selectActive with
  | none => rfl
  | some found => rfl

theorem current_mapTenant (db : Tenant.Db) :
    (mapTenant f db).current = db.current.map (mapRow f) := by
  have hactive : (mapTenant f db).activeRow = db.activeRow.map (mapRow f) := by
    rw [Tenant.Db.activeRow,Tenant.Db.activeRow,Option.map_bind]
    refine congrArg (Option.bind db.active) (funext fun id => ?_)
    exact List.getElem?_map
  rw [Tenant.Db.current,hactive,Tenant.Db.current]
  cases db.activeRow with
  | none => rfl
  | some row => rfl

theorem getTenantConfig_mapSecrets (order : BlindOrder) (tenantID : String) :
    getTenantConfig order.toMapOrder ((store.mapSecrets f).tenant tenantID) =
      (getTenantConfig order.toMapOrder (store.tenant tenantID)).map (mapFound f tenantSpots) := by
  have hread : ∀ row : ConfigRow, Tenant.ConfigRow.read order.toMapOrder (mapRow f row) =
      mapFound f tenantSpots (Tenant.ConfigRow.read order.toMapOrder row) :=
    fun row => Prod.ext (rekey_mapAt order toSnakeCase_idempotent row.config) rfl
  rw [getTenantConfig,getTenantConfig,Option.map_map]
  change (mapTenant f (store.tenant tenantID)).current.map _ = _
  rw [current_mapTenant,Option.map_map]
  exact congrArg (fun g => Option.map g (store.tenant tenantID).current) (funext hread)

theorem getConfigAtVersion_mapSecrets (scope tenantID : String) (version : Int) :
    getConfigAtVersion (store.mapSecrets f) scope tenantID version =
      (getConfigAtVersion store scope tenantID version).map (mapAt f (scopeSpots scope)) := by
  by_cases hscope : scope = "global"
  · rw [getConfigAtVersion,if_pos hscope,getConfigAtVersion,if_pos hscope,scopeSpots,if_pos hscope,
      row_mapSecrets,Option.map_map,Option.map_map]
    rfl
  · have hfind : ((store.mapSecrets f).tenant tenantID).versions.find?
          (fun r => r.version = version) =
        ((store.tenant tenantID).versions.find? (fun r => r.version = version)).map (mapRow f) :=
      List.find?_map
    rw [getConfigAtVersion,if_neg hscope,getConfigAtVersion,if_neg hscope,scopeSpots,if_neg hscope,
      hfind,Option.map_map,Option.map_map]
    rfl

theorem listTenantConfigChanges_mapSecrets (tenantID : String) (limit : Int) :
    listTenantConfigChanges (store.mapSecrets f) tenantID limit =
      (listTenantConfigChanges store tenantID limit).map (ConfigChange.mapSecrets f) := by
  have hfilter : (store.mapSecrets f).changeLog.filter (fun c => c.tenantID = tenantID) =
      (store.changeLog.filter (fun c => c.tenantID = tenantID)).map (ConfigChange.mapSecrets f) :=
    List.filter_map
  have hsort := List.map_mergeSort (f := ConfigChange.mapSecrets f)
    (r := fun c d => decide (d.timestamp ≤ c.timestamp))
    (s := fun c d => decide (d.timestamp ≤ c.timestamp))
    (l := store.changeLog.filter (fun c => c.tenantID = tenantID)) (fun _ _ _ _ => rfl)
  rw [listTenantConfigChanges,hfilter,← hsort,← List.map_take]
  rfl

theorem mapSecrets_mapSecrets (g : String → String) : (store.mapSecrets g).mapSecrets f =
    store.mapSecrets (fun s => f (g s)) := by
  have hversion : ∀ row, mapVersion f (mapVersion g row) = mapVersion (fun s => f (g s)) row := by
    intro row
    simp [mapVersion,mapAt_mapAt]
  have hrow : ∀ row, mapRow f (mapRow g row) = mapRow (fun s => f (g s)) row := by
    intro row
    simp [mapRow,mapAt_mapAt]
  have hchange : ∀ c : ConfigChange, (c.mapSecrets g).mapSecrets f =
      c.mapSecrets (fun s => f (g s)) := by
    intro c
    simp [ConfigChange.mapSecrets,mapAt_mapAt]
  simp [Store.mapSecrets,mapTenant,Function.comp_def,hversion,hrow,hchange]

theorem masked_mapSecrets_bump : (store.mapSecrets bump).masked = store.masked := by
  rw [Store.masked,mapSecrets_mapSecrets,funext keeps_bump.mark_eq]
  rfl

end Rows

section Reads

variable {server : Server} {store : Store} {roles : List String} {tenantID limitStr : String}
  {r : DiffRequest}

theorem globalConfig_masked (h : store.Clear server (.globalConfig roles)) :
    adminGetGlobalConfig server store.masked roles = adminGetGlobalConfig server store roles := by
  rw [adminGetGlobalConfig,Store.masked,getGlobalConfig_mapSecrets,adminGetGlobalConfig]
  cases hrole : requireGlobalConfigAdminRole roles with
  | false => rfl
  | true =>
    cases hfound : getGlobalConfig store.global with
    | none => rfl
    | some found =>
      have hserved := servedGlobal_discloses.of_unset (h hrole found hfound)
      simp [mapFound,hserved]

theorem globalConfig_clear_masked :
    store.masked.Clear server (.globalConfig roles) ↔ store.Clear server (.globalConfig roles) := by
  simp only [Store.Clear,Store.masked,getGlobalConfig_mapSecrets,Option.forall_mem_map,mapFound,
    unset_mark]

theorem globalConfig_clear (h : adminGetGlobalConfig server (store.mapSecrets bump) roles =
    adminGetGlobalConfig server store roles) : store.Clear server (.globalConfig roles) := by
  intro hrole found hfound
  have hfound : getGlobalConfig store.global = some found := hfound
  simp [adminGetGlobalConfig,getGlobalConfig_mapSecrets,hrole,hfound,mapFound] at h
  exact servedGlobal_discloses.unset_of_eq h

theorem isMap_mapAt {p : Positions} (d : Json) : isMap (mapAt f p d) = isMap d := by
  cases d <;> simp [mapAt,isMap]

theorem unset_of_not_map {d : Json} (h : isMap d = false) :
    Unset (tenantSpots.diff deletedSpots) d := by
  cases d with
  | obj m => cases h
  | _ => exact allAt_of_not_obj rfl diff_deletedSpots_item (fun _ h => by cases h)

theorem tenantConfig_masked (h : store.Clear server (.tenantConfig tenantID)) :
    adminGetTenantConfig server store.masked tenantID =
      adminGetTenantConfig server store tenantID := by
  rw [adminGetTenantConfig,Store.masked,getTenantConfig_mapSecrets,adminGetTenantConfig]
  cases hfound : getTenantConfig server.order.toMapOrder (store.tenant tenantID) with
  | none => rfl
  | some found =>
    have hserved := (servedTenant_discloses server).of_unset (h found hfound)
    simp [mapFound,hserved,isMap_mapAt]

theorem tenantConfig_clear_masked : store.masked.Clear server (.tenantConfig tenantID) ↔
    store.Clear server (.tenantConfig tenantID) := by
  simp only [Store.Clear,Store.masked,getTenantConfig_mapSecrets,Option.forall_mem_map,mapFound,
    unset_mark]

theorem tenantConfig_clear (h : adminGetTenantConfig server (store.mapSecrets bump) tenantID =
    adminGetTenantConfig server store tenantID) : store.Clear server (.tenantConfig tenantID) := by
  intro found hfound
  have hfound : getTenantConfig server.order.toMapOrder (store.tenant tenantID) = some found :=
    hfound
  cases hmap : isMap found.1 with
  | false => exact unset_of_not_map hmap
  | true =>
    simp [adminGetTenantConfig,getTenantConfig_mapSecrets,hfound,mapFound,isMap_mapAt,hmap] at h
    exact (servedTenant_discloses server).unset_of_eq h

def amendAt (f : String → String) (p : Positions) : Entries → Entries :=
  amend (fun k => mapAt f (p.key k))

theorem mapAt_asMap (p : Positions) (d : Json) :
    asMap (mapAt f p d) = (asMap d).map (amendAt f p) := by
  cases d with
  | obj m => simp [mapAt_obj,asMap,amendAt]
  | null => simp [mapAt,asMap,amendAt,amend]
  | str s => simp [mapAt,asMap]
  | arr items => simp [mapAt,asMap]
  | bool b => simp [mapAt,asMap]
  | num x => simp [mapAt,asMap]

theorem documents_mapSecrets (fromVersion toVersion : Int) :
    r.documents (store.mapSecrets f) fromVersion toVersion =
      (r.documents store fromVersion toVersion).map (fun docs =>
        (amendAt f (scopeSpots r.scope) docs.1,amendAt f (scopeSpots r.scope) docs.2)) := by
  rw [DiffRequest.documents,DiffRequest.documents,getConfigAtVersion_mapSecrets,
    getConfigAtVersion_mapSecrets]
  cases getConfigAtVersion store r.scope r.tenantID fromVersion with
  | none => rfl
  | some beforeRaw =>
    cases getConfigAtVersion store r.scope r.tenantID toVersion with
    | none => rfl
    | some afterRaw =>
      simp only [Option.map_some,mapAt_asMap]
      cases asMap beforeRaw with
      | none => rfl
      | some before =>
        cases asMap afterRaw with
        | none => rfl
        | some after => rfl

theorem amendAt_mark {p : Positions} {m : Entries} (h : Unset p (.obj m)) :
    amendAt mark p m = m := by
  have hdoc := discloses_id.of_unset h
  rw [id,id,mapAt_obj,Json.obj.injEq] at hdoc
  exact hdoc

theorem unset_amendAt {p : Positions} {m : Entries} :
    Unset p (.obj (amendAt mark p m)) ↔ Unset p (.obj m) := by
  rw [amendAt,← mapAt_obj]
  exact unset_mark

theorem unset_of_amendAt {p : Positions} {m : Entries} (h : amendAt bump p m = m) :
    Unset p (.obj m) := by
  refine discloses_id.unset_of_eq ?_
  rw [id,id,mapAt_obj]
  exact congrArg Json.obj h

theorem configDiff_masked (h : store.Clear server (.configDiff r)) :
    adminConfigDiff server store.masked r = adminConfigDiff server store r := by
  rw [adminConfigDiff,adminConfigDiff]
  cases hversions : r.versions with
  | error response => rfl
  | ok v =>
    simp only [Store.masked,documents_mapSecrets]
    cases hdocs : r.documents store v.1 v.2 with
    | error response => rfl
    | ok docs =>
      obtain ⟨hbefore,hafter⟩ := h v hversions docs hdocs
      simp [Except.map,amendAt_mark hbefore,amendAt_mark hafter]

theorem configDiff_clear_masked :
    store.masked.Clear server (.configDiff r) ↔ store.Clear server (.configDiff r) := by
  refine forall₂_congr fun v _ => ?_
  rw [Store.masked,documents_mapSecrets]
  cases r.documents store v.1 v.2 with
  | error response => simp [Except.map]
  | ok docs => simp [Except.map,unset_amendAt]

theorem configDiff_clear (h : adminConfigDiff server (store.mapSecrets bump) r =
    adminConfigDiff server store r) : store.Clear server (.configDiff r) := by
  intro v hversions docs hdocs
  simp [adminConfigDiff,hversions,documents_mapSecrets,hdocs,Except.map] at h
  exact ⟨unset_of_amendAt h.1,unset_of_amendAt h.2.1⟩

theorem configChanges_masked (h : store.Clear server (.configChanges tenantID limitStr)) :
    adminListConfigChanges store.masked tenantID limitStr =
      adminListConfigChanges store tenantID limitStr := by
  rw [adminListConfigChanges,Store.masked,listTenantConfigChanges_mapSecrets,
    adminListConfigChanges,map_eq_self_iff.2]
  intro c hc
  have hdiff : mapAt mark changeSpots c.diff = c.diff := discloses_id.of_unset (h c hc)
  rw [ConfigChange.mapSecrets,hdiff]

theorem configChanges_clear_masked :
    store.masked.Clear server (.configChanges tenantID limitStr) ↔
      store.Clear server (.configChanges tenantID limitStr) := by
  simp only [Store.Clear,Store.masked,listTenantConfigChanges_mapSecrets,List.forall_mem_map,
    ConfigChange.mapSecrets,unset_mark]

theorem configChanges_clear (h : adminListConfigChanges (store.mapSecrets bump) tenantID limitStr =
    adminListConfigChanges store tenantID limitStr) :
    store.Clear server (.configChanges tenantID limitStr) := by
  intro c hc
  rw [adminListConfigChanges,listTenantConfigChanges_mapSecrets,adminListConfigChanges,
    Response.configChanges.injEq,map_eq_self_iff] at h
  exact discloses_id.unset_of_eq (congrArg ConfigChange.diff (h.2 c hc))

end Reads

theorem admin_read_conceals_iff (server : Server) (store : Store) (read : Read) :
    store.Conceals server read ↔ store.Clear server read := by
  refine @blind_iff _ _ Store.masked (Store.mapSecrets bump)
    (fun store => respond server store read) (fun store => store.Clear server read)
    masked_mapSecrets_bump ?_ ?_ ?_ store
  · intro store h
    cases read with
    | globalConfig roles => exact globalConfig_masked h
    | tenantConfig tenantID => exact tenantConfig_masked h
    | configDiff r => exact configDiff_masked h
    | configChanges tenantID limitStr => exact configChanges_masked h
  · intro store
    cases read with
    | globalConfig roles => exact globalConfig_clear_masked
    | tenantConfig tenantID => exact tenantConfig_clear_masked
    | configDiff r => exact configDiff_clear_masked
    | configChanges tenantID limitStr => exact configChanges_clear_masked
  · intro store h
    cases read with
    | globalConfig roles => exact globalConfig_clear h
    | tenantConfig tenantID => exact tenantConfig_clear h
    | configDiff r => exact configDiff_clear h
    | configChanges tenantID limitStr => exact configChanges_clear h

def plainServer : Server where
  order := ⟨⟨id,fun l => List.Perm.refl l⟩,fun _ _ => rfl⟩
  keyOrder := id
  keyPerm := fun l => List.Perm.refl l
  toUpper := String.toUpper
  yamlConfig := .obj []

def openaiWith (apiKey : String) : Json :=
  .obj [("providers",.obj [("openai",.obj [("api_key",.str apiKey),("enabled",.bool true)])])]

def patchedStore (apiKey : String) : Store where
  global := ⟨[⟨1,openaiWith apiKey,"alice"⟩,⟨2,openaiWith apiKey,"alice"⟩],some 2,3,[]⟩
  tenant := fun _ => ⟨[],none,none⟩
  changeLog := []

def firstDiff : DiffRequest := ⟨["admin"],"global","","1","2"⟩

def Response.before : Response → Json
  | .configDiff _ _ _ _ before _ _ => before
  | _ => .null

theorem diff_shows_provider_key :
    ¬ (patchedStore "sk-live-1").Conceals plainServer (.configDiff firstDiff) := by
  intro h
  have hmasked : (patchedStore "sk-live-2").masked = (patchedStore "sk-live-1").masked := rfl
  have hbefore := congrArg Response.before (h _ hmasked)
  have hkeys : openaiWith "sk-live-2" = openaiWith "sk-live-1" := hbefore
  simp [openaiWith] at hkeys

end PrismGateway.Admin.ConfigReads
