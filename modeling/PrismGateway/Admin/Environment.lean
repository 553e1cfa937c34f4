import PrismGateway.Admin.TenantConfig

namespace PrismGateway.Admin

open Lib Config.Schemas Storage

def EnvironmentIs (tenantID e : String) (db : TenantTables) : Prop :=
  ∀ order, storedEnvironment db order tenantID = e

/-- A PUT names an environment; what a PATCH sends under a key that becomes `environment` is `e`. -/
def KeepsEnvironment (tenantID e : String) (_ : TenantTables) : Request → Prop
  | .put other _ _ body => other = tenantID →
      ∀ tc ∈ body.bind (fun j => tenantConfig.decode j tenantConfig.zero), environmentOf tc ≠ ""
  | .patch other _ _ _ body => other = tenantID → ∀ entries, body.map parsed = some (.obj entries) →
      ∀ x ∈ entries, toSnakeCase x.1 = "environment" → x.2 = .str e
  | .deleteRouteGroup _ _ _ _ _ => True

theorem currentEnvironment_eq_iff {e : String} (he : e ≠ "") (j : Json) :
    currentEnvironmentFromJSON j = e ↔
      ∃ m, j = .obj m ∧ m.lookup "environment" = some (.str e) := by
  constructor
  · intro h
    cases j with
    | obj m =>
      refine ⟨m,rfl,?_⟩
      rw [currentEnvironmentFromJSON] at h
      split at h
      · next s hs => rw [hs,h]
      · exact absurd h.symm he
    | _ => exact absurd h.symm he
  · rintro ⟨m,rfl,hm⟩
    rw [currentEnvironmentFromJSON,hm]

theorem environment_of_settled {es : Json.Entries} (hes : Settled es) {e : String} (he : e ≠ "")
    (h : es.lookup "environment" = some (.str e)) (order : Json.MapOrder) :
    currentEnvironmentFromJSON (normalizeConfigKeys order (.obj es)) = e := by
  rw [hes.normalizeConfigKeys,currentEnvironment_eq_iff he]
  refine ⟨_,rfl,?_⟩
  rw [GoMap.lookup_map,h]
  simp [normalizeConfigKeys]

def environmentItem (tc : tenantFields.Vals) : Item :=
  ⟨{ name := "environment",omitempty := true },.str,environmentOf tc⟩

theorem environmentItem_mem (tc : tenantFields.Vals) : environmentItem tc ∈ tenantFields.items tc :=
  List.mem_cons_of_mem _ List.mem_cons_self

theorem environmentItem_sent {tc : tenantFields.Vals} (he : environmentOf tc ≠ "") :
    (environmentItem tc).sent = true := by
  have hempty : String.isEmpty (environmentOf tc) = false := by simpa using he
  simpa [Item.sent,environmentItem,Schema.isEmpty] using hempty

theorem environment_of_put {tc : tenantFields.Vals} (he : environmentOf tc ≠ "")
    (order : Json.MapOrder) :
    currentEnvironmentFromJSON (normalizeConfigKeys order (stripAPIKeys tc)) = environmentOf tc := by
  have hfits : structFits toSnakeCase [] tenantFields.names = true :=
    (Bool.and_eq_true_iff.mp tenantDocument.fits).1
  have hstored : stored (environmentItem tc).tag.name = true :=
    show stored "environment" = true by decide
  have hkey : toSnakeCase (environmentItem tc).tag.name = (environmentItem tc).tag.name :=
    show toSnakeCase "environment" = "environment" by decide
  have hlookup := Fields.lookup_sent order.perm hfits (environmentItem_mem tc) rfl hstored hkey
  rw [if_pos (environmentItem_sent he)] at hlookup
  rw [currentEnvironment_eq_iff he,stripAPIKeys_eq,normalizeConfigKeys,Json.rekey_obj]
  exact ⟨_,rfl,hlookup⟩

theorem environment_of_patch {current patch : Json.Entries} (hcurrent : Settled current)
    (hpatch : Settled patch) {e : String} (he : e ≠ "")
    (hstored : current.lookup "environment" = some (.str e))
    (hkept : ∀ j, patch.lookup "environment" = some j → j = .str e) (order : Json.MapOrder) :
    currentEnvironmentFromJSON (normalizeConfigKeys order (.obj (mergeMaps current patch))) = e := by
  refine environment_of_settled (settled_mergeMaps hcurrent hpatch) he ?_ order
  rw [lookup_mergeMaps hpatch.sorted.nodup,hstored]
  cases h : patch.lookup "environment" with
  | none => rfl
  | some j =>
    rw [hkept j h]
    rfl

theorem lookup_of_arrivals {order : Json.MapOrder} {entries : Json.Entries} {e : String}
    (h : ∀ x ∈ entries, toSnakeCase x.1 = "environment" → x.2 = .str e) (j : Json)
    (hj : (Json.arrivals toSnakeCase order.iter entries).lookup "environment" = some j) :
    j = .str e := by
  have hsent := (order.perm _).subset (GoMap.mem_of_mem_ofList (GoMap.mem_of_lookup hj))
  obtain ⟨x,hx,heq⟩ := List.mem_map.mp hsent
  obtain ⟨hkey,hvalue⟩ := Prod.mk.inj heq
  rw [← hvalue,h x hx hkey]
  simp

theorem EnvironmentIs.exists {db : TenantTables} {tenantID e : String} (he : e ≠ "")
    (h : EnvironmentIs tenantID e db) (order : Json.MapOrder) :
    ∃ m version, db.getTenantConfig order tenantID = some (.obj m,version) ∧
      m.lookup "environment" = some (.str e) := by
  have henv := h order
  rw [storedEnvironment] at henv
  split at henv
  · next configJSON version hget =>
    obtain ⟨m,rfl,hm⟩ := (currentEnvironment_eq_iff he configJSON).mp henv
    exact ⟨m,version,hget,hm⟩
  · exact absurd henv.symm he

theorem environmentIs_of_reads {db : TenantTables} {tenantID e : String} {doc : Json}
    (hreads : Reads db tenantID doc)
    (h : ∀ order, currentEnvironmentFromJSON (normalizeConfigKeys order doc) = e) :
    EnvironmentIs tenantID e db := by
  obtain ⟨version,hget⟩ := hreads
  intro order
  rw [storedEnvironment,hget]
  exact h order

theorem patched_environment {db : TenantTables} {tenantID e : String} (he : e ≠ "")
    (h : EnvironmentIs tenantID e db) {readOrder patchOrder : Json.MapOrder} {version : Int}
    {currentJSON mergePatch doc : Json}
    (hget : db.getTenantConfig readOrder tenantID = some (currentJSON,version))
    (hdoc : patchedTenantConfig patchOrder currentJSON mergePatch = .ok doc)
    (hentries : ∀ entries, mergePatch = .obj entries →
      ∀ x ∈ entries, toSnakeCase x.1 = "environment" → x.2 = .str e) (order : Json.MapOrder) :
    currentEnvironmentFromJSON (normalizeConfigKeys order doc) = e := by
  obtain ⟨m,version',hm,hlookup⟩ := h.exists he readOrder
  rw [hget] at hm
  cases hm
  obtain ⟨raw,hraw⟩ := TenantTables.get_normalized hget
  obtain ⟨current,patch,hcurrent,hpatch,rfl⟩ := patchedTenantConfig_ok hdoc
  rw [hraw] at hcurrent
  have hsettled : Settled current := settled_asMap hcurrent
  rw [← hraw] at hcurrent
  cases hcurrent
  refine environment_of_patch hsettled (settled_asMap hpatch) he hlookup ?_ order
  cases mergePatch with
  | obj entries =>
    rw [normalizeConfigKeys,Json.rekey_obj] at hpatch
    cases hpatch
    exact lookup_of_arrivals (hentries entries rfl)
  | null =>
    rw [normalizeConfigKeys,Json.rekey_null] at hpatch
    cases hpatch
    exact fun j hj => by cases hj
  | _ => simp [normalizeConfigKeys,asMap] at hpatch

theorem environment_kept {cfg : Settings} {db : TenantTables} {tenantID e : String} {r : Request}
    {doc : Json} (he : e ≠ "") (h : EnvironmentIs tenantID e db)
    (hkeeps : KeepsEnvironment tenantID e db r) (hwrites : Writes cfg db tenantID r doc)
    (order : Json.MapOrder) : currentEnvironmentFromJSON (normalizeConfigKeys order doc) = e := by
  cases hwrites with
  | @put putOrder ifMatch body version tc hcheck =>
    obtain ⟨j,hbody,hdecode,_,henv⟩ := checkPut_ok hcheck
    have hne : environmentOf tc ≠ "" := hkeeps rfl tc (by simp [hbody,hdecode])
    rw [h putOrder] at henv
    have hsame : e = environmentOf tc := (henv.resolve_left hne).resolve_left he
    rw [hsame]
    exact environment_of_put hne order
  | patch hcheck hget hdoc =>
    obtain ⟨hbody,_⟩ := checkPatch_ok hcheck
    refine patched_environment he h hget hdoc (fun entries heq => ?_) order
    exact hkeeps rfl entries (by rw [hbody,heq])
  | deleteRouteGroup hconfig htc hgroup hget hdoc =>
    refine patched_environment he h hget hdoc (fun entries heq => ?_) order
    cases heq
    intro x hx hkey
    rw [List.mem_singleton.mp hx] at hkey
    have hother : toSnakeCase "selection" ≠ "environment" := by decide
    exact absurd hkey hother

theorem environment_immutable (cfg : Settings) {tenantID e : String} (he : e ≠ "")
    {db db' : TenantTables} (rs : List Request) (hstart : EnvironmentIs tenantID e db)
    (hkeeps : EveryStep (step cfg) (KeepsEnvironment tenantID e) db rs)
    (hrun : exec (step cfg) db rs = some db') : EnvironmentIs tenantID e db' := by
  refine exec_invariant_of_steps (step cfg) ?_ hstart hkeeps hrun
  intro db r next h hkeep hstep
  cases hstep
  have hexists : ∀ order, (db.getTenantConfig order tenantID).isSome := by
    intro order
    obtain ⟨m,version,hget,_⟩ := h.exists he order
    simp [hget]
  rcases handle_spec cfg hexists r with hsame | ⟨doc,hwrites,hreads⟩
  · intro order
    rw [storedEnvironment,hsame order]
    exact h order
  · exact environmentIs_of_reads hreads (environment_kept he h hkeep hwrites)

def noSettings : Settings := ⟨fun _ => none,fun _ => none,fun _ => true⟩

def keepOrder : Json.MapOrder := ⟨fun l => l,Json.listed_perm⟩

def production : TenantTables :=
  TenantTables.empty.setFlat "acme" ⟨1,.obj [("environment",.str "PROD")]⟩

theorem production_environment : EnvironmentIs "acme" "PROD" production := by
  have hsettled : Settled [("environment",.str "PROD")] :=
    ⟨List.pairwise_singleton _ _,List.forall_mem_singleton.mpr (by decide)⟩
  have hreads : Reads production "acme" (.obj [("environment",.str "PROD")]) := ⟨1,fun _ => rfl⟩
  exact environmentIs_of_reads hreads (environment_of_settled hsettled (by decide) rfl)

def renameDefault : Request :=
  .patch "acme" keepOrder keepOrder (.version 1) (some (.obj [("default_model",.str "mini")]))

theorem default_model_keeps_environment :
    ∃ db, exec (step noSettings) production [renameDefault] = some db ∧
      EnvironmentIs "acme" "PROD" db := by
  refine ⟨_,rfl,environment_immutable noSettings (by decide) [renameDefault] production_environment
    ⟨?_,trivial⟩ rfl⟩
  intro _ entries hentries x hx hkey
  cases hentries
  rw [List.mem_singleton.mp hx] at hkey
  have hother : toSnakeCase "default_model" ≠ "environment" := by decide
  exact absurd hkey hother

def capitalEnvironment : Request :=
  .patch "acme" keepOrder keepOrder (.version 1) (some (.obj [("Environment",.str "DEV")]))

theorem capital_key_changes_environment :
    EnvironmentIs "acme" "PROD" production ∧
      (handle noSettings production capitalEnvironment).2 = .ok 2 ∧
      storedEnvironment (handle noSettings production capitalEnvironment).1 keepOrder "acme" = "DEV" :=
  ⟨production_environment,rfl,rfl⟩

end PrismGateway.Admin
