import PrismGateway.Storage.BudgetReservations
import PrismGateway.Storage.Catalog
import PrismGateway.Storage.GlobalVersions

namespace PrismGateway.Storage.Migrations

open Lib

/-- A row of `request_log`; `requestID` and `attempt` are `NOT NULL` since migration 008. -/
structure LogRow where
  requestID : String
  attempt : Int
  status : String
  error : Option String
  decisionReason : Option String
  errorType : Option String
  deriving DecidableEq, Repr

structure TenantRow where
  version : Int
  config : Json.Entries
  updatedAt : Int
  updatedBy : String

structure Db where
  requestLog : Table String LogRow
  reservations : List Budget.Reservation
  tenantsConfig : Table String TenantRow
  models : Catalog.Models
  tools : Catalog.Tools
  globalConfig : Global.Db

def Db.empty : Db where
  requestLog := .empty
  reservations := []
  tenantsConfig := .empty
  models := .empty
  tools := .empty
  globalConfig := ⟨[],none,1,[]⟩

def like : List Char → List Char → Bool
  | [], s => s.isEmpty
  | '%' :: p, [] => like p []
  | '%' :: p, c :: s => like p (c :: s) || like ('%' :: p) s
  | '_' :: p, _ :: s => like p s
  | c :: p, d :: s => c = d && like p s
  | _ :: _, [] => false
termination_by p s => p.length + s.length

def LogRow.errorLike (row : LogRow) (pattern : String) : Bool :=
  row.error.any (fun error => like pattern.toList error.toList)

def LogRow.classified (row : LogRow) : Option String :=
  if row.status ≠ "error" then none
  else if row.errorLike "%timeout%" then some "timeout"
  else if row.errorLike "%429%" then some "rate_limited"
  else if row.errorLike "%5__" || row.errorLike "%500%" || row.errorLike "%502%" ||
    row.errorLike "%503%" then some "upstream_5xx"
  else some "unknown"

def LogRow.legacy (row : LogRow) : Bool :=
  row.decisionReason.isNone || row.status = "error" && row.errorType.isNone

def LogRow.backfilled (row : LogRow) : LogRow :=
  { row with
    decisionReason := some (row.decisionReason.getD "legacy")
    errorType := row.classified }

def migration009 (t : Table String LogRow) : Table String LogRow :=
  t.updateWhere (fun _ row => row.legacy) LogRow.backfilled

def setKey (key : String) (value : Json) : Json.Entries → Json.Entries
  | [] => [(key,value)]
  | (k,v) :: rest => if k = key then (k,value) :: rest else (k,v) :: setKey key value rest

def TenantRow.inDev (now : Int) (row : TenantRow) : TenantRow :=
  { row with config := setKey "environment" (.str "DEV") row.config, updatedAt := now }

def migration035 (now : Int) (t : Table String TenantRow) : Table String TenantRow :=
  t.updateWhere (fun _ row => (row.config.lookup "environment").isNone) (.inDev now)

def openAIProvider (baseURL apiKeyEnv : String) : Json :=
  .obj [("type",.str "openai"),("base_url",.str baseURL),("api_key_env",.str apiKeyEnv)]

def deepseek : Json := openAIProvider "https://api.deepseek.com/v1" "DEEPSEEK_API_KEY"

def kimi : Json := openAIProvider "https://api.moonshot.cn/v1" "KIMI_API_KEY"

def addProviders : Json → Json
  | .obj entries => match entries.lookup "providers" with
    | some (.obj providers) => .obj (setKey "providers"
        (.obj (setKey "kimi" kimi (setKey "deepseek" deepseek providers))) entries)
    | _ => .obj entries
  | config => config

def migration063 (db : Global.Db) : Global.Db :=
  { db with
    versions := db.versions.map (fun row =>
      if some row.id = db.active then { row with configJSON := addProviders row.configJSON }
      else row) }

def onModels (f : Catalog.Models → Catalog.Models) (db : Db) : Db := { db with models := f db.models }

def statements (now : Int) : List (Db → Db) :=
  [fun db => { db with requestLog := migration009 db.requestLog },
   fun db => { db with tenantsConfig := migration035 now db.tenantsConfig },
   -- migration 042
   fun db => { db with reservations := [] },
   onModels (Catalog.migration055 now),
   fun db => { db with tools := Catalog.migrateTools now db.tools },
   onModels (Catalog.migration058 now),
   onModels (Catalog.migration061 now),
   onModels (Catalog.migration062 now),
   fun db => { db with globalConfig := migration063 db.globalConfig },
   onModels (Catalog.migration064 now)]

def runMigrations (now : Int) (db : Db) : Db := (statements now).foldl (fun db f => f db) db

theorem runMigrations_eq (now : Int) (db : Db) : runMigrations now db =
    { requestLog := migration009 db.requestLog
      reservations := []
      tenantsConfig := migration035 now db.tenantsConfig
      models := Catalog.migrateModels now db.models
      tools := Catalog.migrateTools now db.tools
      globalConfig := migration063 db.globalConfig } := rfl

section SetKey

variable {key : String} {value : Json}

theorem setKey_eq_self_iff {entries : Json.Entries} :
    setKey key value entries = entries ↔ entries.lookup key = some value := by
  induction entries with
  | nil => simp [setKey]
  | cons e rest ih =>
    obtain ⟨k,v⟩ := e
    by_cases hk : k = key
    · subst hk
      simp [setKey,eq_comm]
    · have hlookup : ((k,v) :: rest).lookup key = rest.lookup key := by
        rw [List.lookup_cons,beq_eq_false_iff_ne.mpr (Ne.symm hk)]
      rw [setKey,if_neg hk,hlookup,← ih,List.cons.injEq]
      exact and_iff_right rfl

theorem lookup_setKey_self (entries : Json.Entries) : (setKey key value entries).lookup key = some value := by
  induction entries with
  | nil => simp [setKey]
  | cons e rest ih =>
    obtain ⟨k,v⟩ := e
    by_cases hk : k = key
    · simp [setKey,hk]
    · rw [setKey,if_neg hk,List.lookup_cons,beq_eq_false_iff_ne.mpr (Ne.symm hk)]
      exact ih

theorem lookup_setKey_ne {k' : String} (hne : k' ≠ key) (entries : Json.Entries) :
    (setKey key value entries).lookup k' = entries.lookup k' := by
  induction entries with
  | nil => simp [setKey,List.lookup_cons,beq_eq_false_iff_ne.mpr hne]
  | cons e rest ih =>
    obtain ⟨k,v⟩ := e
    by_cases hk : k = key
    · subst hk
      simp [setKey,List.lookup_cons,beq_eq_false_iff_ne.mpr hne]
    · rw [setKey,if_neg hk,List.lookup_cons,List.lookup_cons,ih]

end SetKey

def HasProviders : Json → Prop
  | .obj entries => ∀ providers, entries.lookup "providers" = some (.obj providers) →
    providers.lookup "deepseek" = some deepseek ∧ providers.lookup "kimi" = some kimi
  | _ => True

theorem addProviders_eq_self_iff {config : Json} : addProviders config = config ↔ HasProviders config := by
  cases config with
  | obj entries =>
    cases hproviders : entries.lookup "providers" with
    | none => simp [addProviders,HasProviders,hproviders]
    | some j =>
      cases j with
      | obj providers =>
        simp only [addProviders,HasProviders,hproviders,Option.some.injEq,Json.obj.injEq,forall_eq',
          setKey_eq_self_iff]
        constructor
        · intro h
          refine ⟨?_,?_⟩
          · rw [h,lookup_setKey_ne (by decide),lookup_setKey_self]
          · rw [h,lookup_setKey_self]
        · rintro ⟨hdeepseek,hkimi⟩
          rw [setKey_eq_self_iff.mpr hdeepseek,setKey_eq_self_iff.mpr hkimi]
      | _ => simp [addProviders,HasProviders,hproviders]
  | _ => simp [addProviders,HasProviders]

theorem hasProviders_addProviders (config : Json) : HasProviders (addProviders config) := by
  cases config with
  | obj entries =>
    cases hproviders : entries.lookup "providers" with
    | none => simp [addProviders,HasProviders,hproviders]
    | some j =>
      cases j with
      | obj providers =>
        simp only [addProviders,HasProviders,hproviders,lookup_setKey_self,Option.some.injEq,
          Json.obj.injEq,forall_eq',and_true]
        rw [lookup_setKey_ne (by decide),lookup_setKey_self]
      | _ => simp [addProviders,HasProviders,hproviders]
  | _ => simp [addProviders,HasProviders]

theorem classified_ne_none {row : LogRow} (h : row.status = "error") : row.classified ≠ none := by
  unfold LogRow.classified
  rw [if_neg (not_not_intro h)]
  split_ifs <;> simp

theorem migration009_eq_self_iff {t : Table String LogRow} :
    migration009 t = t ↔ t.Every (fun _ row => row.legacy = false) := by
  refine Table.updateWhere_eq_self_iff (fun _ row hrow heq => ?_)
  have hreason : some (row.decisionReason.getD "legacy") = row.decisionReason :=
    congrArg LogRow.decisionReason heq
  have htype : row.classified = row.errorType := congrArg LogRow.errorType heq
  rw [LogRow.legacy,← hreason,← htype] at hrow
  simp only [Option.isNone_some,Bool.false_or,Bool.and_eq_true,decide_eq_true_eq,
    Option.isNone_iff_eq_none] at hrow
  exact classified_ne_none hrow.1 hrow.2

theorem migration035_eq_self_iff {now : Int} {t : Table String TenantRow} :
    migration035 now t = t ↔
      t.Every (fun _ row => (row.config.lookup "environment").isNone = false) := by
  refine Table.updateWhere_eq_self_iff (fun _ row hrow heq => ?_)
  have hconfig : setKey "environment" (.str "DEV") row.config = row.config := congrArg TenantRow.config heq
  rw [setKey_eq_self_iff.mp hconfig] at hrow
  cases hrow

theorem migration063_eq_self_iff {db : Global.Db} :
    migration063 db = db ↔
      ∀ row ∈ db.versions, some row.id = db.active → HasProviders row.configJSON := by
  have hversions : migration063 db = db ↔ (migration063 db).versions = db.versions.map id := by
    rw [List.map_id]
    constructor
    · exact congrArg Global.Db.versions
    · intro h
      rw [migration063,show db.versions.map _ = db.versions from h]
  rw [hversions,migration063,List.map_inj_left]
  constructor
  · intro h row hrow hactive
    have hfixed := h row hrow
    rw [if_pos hactive,id] at hfixed
    exact addProviders_eq_self_iff.mp (congrArg Global.VersionRow.configJSON hfixed)
  · intro h row hrow
    split_ifs with hactive
    · rw [addProviders_eq_self_iff.mpr (h row hrow hactive)]
      rfl
    · rfl

/-- The databases hold the same rows, but for the time stamps of `model_catalog`. -/
structure SameData (a b : Db) : Prop where
  requestLog : a.requestLog = b.requestLog
  reservations : a.reservations = b.reservations
  tenantsConfig : a.tenantsConfig = b.tenantsConfig
  models : Catalog.content a.models = Catalog.content b.models
  tools : a.tools = b.tools
  globalConfig : a.globalConfig = b.globalConfig

structure Settled (db : Db) : Prop where
  reservations : db.reservations = []
  environments : db.tenantsConfig.Every (fun _ row => (row.config.lookup "environment").isNone = false)
  models : Catalog.Settled db.models
  tools : ∀ id, (Catalog.tools057.lookup id).isSome = true → (db.tools ("openai",id)).isSome = true
  providers : ∀ row ∈ db.globalConfig.versions, some row.id = db.globalConfig.active →
    HasProviders row.configJSON

theorem runMigrations_sameData_iff {now : Int} {db : Db}
    (hlog : db.requestLog.Every (fun _ row => row.legacy = false)) :
    SameData (runMigrations now db) db ↔ Settled db := by
  rw [runMigrations_eq]
  constructor
  · rintro ⟨-,hreservations,htenants,hmodels,htools,hglobal⟩
    exact ⟨hreservations.symm,migration035_eq_self_iff.mp htenants,
      Catalog.content_migrateModels_iff.mp hmodels,Catalog.migrateTools_eq_self_iff.mp htools,
      migration063_eq_self_iff.mp hglobal⟩
  · rintro ⟨hreservations,henvironments,hmodels,htools,hproviders⟩
    exact ⟨migration009_eq_self_iff.mpr hlog,hreservations.symm,
      migration035_eq_self_iff.mpr henvironments,Catalog.content_migrateModels_iff.mpr hmodels,
      Catalog.migrateTools_eq_self_iff.mpr htools,migration063_eq_self_iff.mpr hproviders⟩

theorem settled_runMigrations (now : Int) (db : Db) : Settled (runMigrations now db) := by
  rw [runMigrations_eq]
  refine ⟨rfl,?_,Catalog.settled_migrateModels,?_,?_⟩
  · intro id row hrow
    obtain ⟨old,-,rfl⟩ := Option.map_eq_some_iff.mp hrow
    split_ifs with hmissing
    · simp [TenantRow.inDev,lookup_setKey_self]
    · simpa using hmissing
  · exact fun id hid => Catalog.migrateTools_isSome hid
  · intro row hrow hactive
    obtain ⟨old,-,rfl⟩ := List.mem_map.mp hrow
    split_ifs at hactive ⊢ with hold
    · exact hasProviders_addProviders old.configJSON
    · exact absurd hactive hold

theorem second_migration_same_data {now later : Int} {db : Db}
    (hlog : db.requestLog.Every (fun _ row => row.legacy = false)) :
    SameData (runMigrations later (runMigrations now db)) (runMigrations now db) := by
  refine (runMigrations_sameData_iff ?_).mpr (settled_runMigrations now db)
  rw [runMigrations_eq,migration009_eq_self_iff.mpr hlog]
  exact hlog

structure RequestLog where
  requestID : String
  attempt : Int
  status : String
  error : String := ""
  decisionReason : String := ""
  errorType : String := ""

def RequestLog.row (rl : RequestLog) : LogRow :=
  ⟨rl.requestID,rl.attempt,rl.status,some rl.error,some rl.decisionReason,some rl.errorType⟩

inductive Action where
  | start
  | logRequest (id : String) (rl : RequestLog)
  | purgeLogs (expired : String → Bool)
  | reserve (r : Budget.Reservation)
  | releaseReservation (id : Nat)
  | purgeExpiredReservations
  | createModel (key : String × String) (entry : Catalog.ModelCatalogEntry)
  | updateModel (key : String × String) (entry : Catalog.ModelCatalogEntry)
  | deleteModel (key : String × String)
  | createTool (key : String × String) (row : Int → Catalog.ToolRow)
  | updateTool (key : String × String) (change : Catalog.ToolRow → Catalog.ToolRow)
  | deleteTool (key : String × String)
  | seedTenantConfig (tenantID : String) (config : Json.Entries)
  | putTenantConfig (tenantID : String) (config : Json.Entries) (actorSub : String)
  | deleteTenantConfig (tenantID : String)
  | seedGlobalConfig (config : Json)
  | putGlobalConfig (ifMatchVersion : Int) (config : Json) (actor : Global.Actor)
  | rollbackGlobalConfig (ifMatchVersion targetVersion : Int) (actor : Global.Actor)

def newTenantRow (version now : Int) (config : Json.Entries) (updatedBy : String) : TenantRow :=
  ⟨version,config,now,updatedBy⟩

def seedGlobal (config : Json) (db : Global.Db) : Global.Db :=
  match db.active with
  | some _ => db
  | none =>
    { db with
      versions := db.versions ++ [⟨db.nextID,config,"seed-from-yaml"⟩]
      nextID := db.nextID + 1
      active := some db.nextID }

def Db.apply (now : Int) (db : Db) : Action → Db
  | .start => runMigrations now db
  | .logRequest id rl => { db with requestLog := db.requestLog.insertNew [(id,rl.row)] }
  | .purgeLogs expired =>
    { db with requestLog := fun id => if expired id then none else db.requestLog id }
  | .reserve r => { db with reservations := db.reservations ++ [r] }
  | .releaseReservation id => { db with reservations := db.reservations.filter (·.id ≠ id) }
  | .purgeExpiredReservations =>
    { db with reservations := db.reservations.filter (fun r => now < r.expiresAt) }
  | .createModel key entry =>
    { db with models := db.models.insertNew [(key,.fresh now { entry with })] }
  | .updateModel key entry =>
    { db with
      models := db.models.adjust key (fun row =>
        ⟨{ row.data with toModelCatalogEntry := entry },row.createdAt,now⟩) }
  | .deleteModel key => { db with models := db.models.remove key }
  | .createTool key row => { db with tools := db.tools.insertNew [(key,row now)] }
  | .updateTool key change => { db with tools := db.tools.adjust key change }
  | .deleteTool key => { db with tools := db.tools.remove key }
  | .seedTenantConfig tenantID config =>
    { db with
      tenantsConfig :=
        db.tenantsConfig.insertNew [(tenantID,newTenantRow 0 now config "seed-from-yaml")] }
  | .putTenantConfig tenantID config actorSub =>
    let version := ((db.tenantsConfig tenantID).map (·.version)).getD 0 + 1
    { db with tenantsConfig := db.tenantsConfig.put tenantID (newTenantRow version now config actorSub) }
  | .deleteTenantConfig tenantID => { db with tenantsConfig := db.tenantsConfig.remove tenantID }
  | .seedGlobalConfig config => { db with globalConfig := seedGlobal config db.globalConfig }
  | .putGlobalConfig ifMatchVersion config actor =>
    { db with globalConfig := (db.globalConfig.putGlobalConfig ifMatchVersion config actor).2 }
  | .rollbackGlobalConfig ifMatchVersion targetVersion actor =>
    { db with
      globalConfig := (db.globalConfig.rollbackGlobalConfig ifMatchVersion targetVersion actor).2 }

structure World where
  clock : Int
  db : Db

structure Event where
  now : Int
  action : Action

def World.step (w : World) (e : Event) : Option World :=
  if w.clock < e.now then some ⟨e.now,w.db.apply e.now e.action⟩ else none

structure World.Inv (w : World) : Prop where
  stamped : w.db.models.Every (fun _ row => row.createdAt ≤ w.clock)
  logged : w.db.requestLog.Every (fun _ row => row.legacy = false)

theorem stamped_apply {now : Int} {db : Db} (h : db.models.Every (fun _ row => row.createdAt ≤ now))
    (action : Action) : (db.apply now action).models.Every (fun _ row => row.createdAt ≤ now) := by
  cases action with
  | start =>
    rw [Db.apply,runMigrations_eq]
    exact Catalog.createdAt_migrateModels h
  | createModel key entry => exact h.insertNew (Int.le_refl now)
  | updateModel key entry => exact h.adjust (fun _ hrow => hrow)
  | deleteModel key => exact h.remove
  | _ => exact h

theorem logged_apply {now : Int} {db : Db} (h : db.requestLog.Every (fun _ row => row.legacy = false))
    (action : Action) :
    (db.apply now action).requestLog.Every (fun _ row => row.legacy = false) := by
  cases action with
  | start =>
    rw [Db.apply,runMigrations_eq,migration009_eq_self_iff.mpr h]
    exact h
  | logRequest id rl => exact h.insertNew (by simp [RequestLog.row,LogRow.legacy])
  | purgeLogs expired =>
    intro id row hrow
    simp only [Db.apply] at hrow
    split_ifs at hrow
    exact h id row hrow
  | _ => exact h

theorem step_inv {w v : World} {e : Event} (h : w.Inv) (hstep : w.step e = some v) : v.Inv := by
  simp only [World.step] at hstep
  split_ifs at hstep with hclock
  cases hstep
  have hstamped : w.db.models.Every (fun _ row => row.createdAt ≤ e.now) :=
    h.stamped.mono (fun _ _ hrow => by omega)
  exact ⟨stamped_apply hstamped e.action,logged_apply h.logged e.action⟩

theorem run_inv {t₀ : Int} {events : List Event} {w : World}
    (h : exec World.step ⟨t₀,.empty⟩ events = some w) : w.Inv :=
  exec_invariant World.step (fun _ _ _ hinv hstep => step_inv hinv hstep)
    ⟨Table.every_empty,Table.every_empty⟩ h

theorem restart_changes_data {t₀ now : Int} {events : List Event} {w : World}
    (h : exec World.step ⟨t₀,.empty⟩ events = some w) (hnow : w.clock < now) :
    runMigrations now w.db ≠ w.db ∧ (SameData (runMigrations now w.db) w.db ↔ Settled w.db) := by
  have hinv := run_inv h
  refine ⟨fun heq => ?_,runMigrations_sameData_iff hinv.logged⟩
  obtain ⟨row,hrow,hcreated⟩ := Catalog.migrateModels_stamped now w.db.models
  have hmodels : Catalog.migrateModels now w.db.models = w.db.models := congrArg Db.models heq
  rw [hmodels] at hrow
  have hold := hinv.stamped _ row hrow
  omega

theorem second_start_changes_data :
    ∃ w, exec World.step ⟨0,.empty⟩ [⟨1,.start⟩] = some w ∧ w.clock < 2 ∧
      runMigrations 2 w.db ≠ w.db := by
  have hrun : exec World.step ⟨0,.empty⟩ [⟨1,.start⟩] = some ⟨1,runMigrations 1 .empty⟩ := rfl
  exact ⟨_,hrun,by decide,(restart_changes_data hrun (by decide)).1⟩

def heldReservation : Budget.Reservation := ⟨1,"acme",2,1/100,150002⟩

theorem restart_drops_reservation :
    ∃ w, exec World.step ⟨0,.empty⟩ [⟨1,.start⟩,⟨2,.reserve heldReservation⟩] = some w ∧
      w.db.reservations = [heldReservation] ∧ 3 < heldReservation.expiresAt ∧
      (runMigrations 3 w.db).reservations = [] ∧ runMigrations 3 w.db ≠ w.db := by
  refine ⟨_,rfl,rfl,by decide,rfl,fun heq => ?_⟩
  cases congrArg Db.reservations heq

end PrismGateway.Storage.Migrations
