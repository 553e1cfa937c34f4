import PrismGateway.Admin.TenantConfig

namespace PrismGateway.Admin

open Lib Config.Schemas Storage

variable {cfg : Settings} {db db' : TenantTables} {readOrder patchOrder : Json.MapOrder}
  {tenantID : String} {version newVersion : Int} {body : Json}

def numberText (x : Float) : Json := if x.isFinite then .num x else .null

structure Merge (db : TenantTables) (readOrder patchOrder : Json.MapOrder) (tenantID : String)
    (version : Int) (body : Json) (current patch : Json.Entries) : Prop where
  read : ∃ j, db.getTenantConfig readOrder tenantID = some (j,version) ∧ asMap j = some current
  sent : asMap (normalizeConfigKeys patchOrder (parsed body)) = some patch

namespace Merge

variable {current patch : Json.Entries}

theorem tidy_current (h : Merge db readOrder patchOrder tenantID version body current patch) :
    Tidy (.obj current) := by
  obtain ⟨j,hget,hmap⟩ := h.read
  obtain ⟨raw,rfl⟩ := TenantTables.get_normalized hget
  exact tidy_of_asMap hmap (tidy_normalizeConfigKeys readOrder raw)

theorem tidy_patch (h : Merge db readOrder patchOrder tenantID version body current patch) :
    Tidy (.obj patch) :=
  tidy_of_asMap h.sent (tidy_normalizeConfigKeys patchOrder (parsed body))

end Merge

theorem merge_of_patched
    (h : adminPatchTenantConfig cfg db readOrder patchOrder tenantID (.version version) (some body) =
      (db',.ok newVersion)) :
    ∃ current patch, Merge (ensureTenantConfigInDB cfg db readOrder tenantID) readOrder patchOrder
        tenantID version body current patch ∧
      ∀ order, db'.getTenantConfig order tenantID =
        some (.obj (mergeMaps current patch),newVersion) := by
  rw [adminPatchTenantConfig] at h
  cases hcheck : checkPatch (.version version) (some body) with
  | error failure =>
    rw [hcheck] at h
    cases h
  | ok checked =>
    obtain ⟨ifMatchVersion,mergePatch⟩ := checked
    obtain ⟨hbody,-⟩ := checkPatch_ok hcheck
    have hversion : ifMatchVersion = version := by
      simp only [checkPatch,IfMatch.parse] at hcheck
      split_ifs at hcheck
      cases hcheck
      rfl
    cases hbody
    subst hversion
    rw [hcheck] at h
    simp only [applyPatch] at h
    cases hpatch : (ensureTenantConfigInDB cfg db readOrder tenantID).patchTenantConfig readOrder
        patchOrder tenantID ifMatchVersion (parsed body) with
    | error err =>
      rw [hpatch] at h
      cases h
    | ok result =>
      rw [hpatch] at h
      cases h
      obtain ⟨currentJSON,doc,hget,hdoc,hput⟩ := TenantTables.get_after_patch hpatch
      obtain ⟨current,patch,hcurrent,hsent,rfl⟩ := patchedTenantConfig_ok hdoc
      have hmerge : Merge (ensureTenantConfigInDB cfg db readOrder tenantID) readOrder patchOrder
          tenantID ifMatchVersion body current patch := ⟨⟨currentJSON,hget,hcurrent⟩,hsent⟩
      refine ⟨current,patch,hmerge,fun order => ?_⟩
      rw [TenantTables.get_after_put order hput,
        Tidy.normalizeConfigKeys_eq order _ (tidy_mergeMaps hmerge.tidy_current hmerge.tidy_patch)]

theorem loaded_of_asMap {j : Json} {es : Json.Entries} {tc : tenantConfig.Val}
    (hget : db.getTenantConfig readOrder tenantID = some (j,version)) (hmap : asMap j = some es)
    (hload : db.loadTenantConfig readOrder tenantID = some tc) :
    tenantConfig.decode (.obj es) tenantConfig.zero = some tc := by
  have hdecode : tenantConfig.decode j tenantConfig.zero = some tc := by
    simpa [TenantTables.loadTenantConfig,hget] using hload
  cases j with
  | obj entries =>
    cases hmap
    exact hdecode
  | null =>
    cases hmap
    exact (Fields.decode_nil _ _ _).trans hdecode
  | _ => cases hmap

end PrismGateway.Admin
