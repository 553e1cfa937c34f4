import PrismGateway.Admin.ConfigReads
import PrismGateway.Admin.TenantPatch
import PrismGateway.Frontend.AdminClient
import PrismGateway.Storage.PathMerge

namespace PrismGateway.Admin.RouteGroups

open Lib Config.Schemas Storage
open Frontend (prop truthy)
open ConfigReads (Server servedTenant isMap)

def routeGroups (config : Json) : Option Json :=
  (prop config "selection").bind (fun selection => prop selection "route_groups")

def currentRouteGroups (config : Json) : Json :=
  if truthy (routeGroups config) then (routeGroups config).getD .null else .obj []

def indexed (items : List Json) : Json.Entries :=
  GoMap.ofList (items.zipIdx.map (fun e => (toString e.2,e.1)))

/-- The code units of a string. A half of a surrogate pair is sent as an escape, which
`encoding/json` reads as U+FFFD. -/
def codeUnits (s : String) : List String :=
  s.toList.flatMap (fun c =>
    if c.toNat < 65536 then [String.singleton c] else ["\uFFFD","\uFFFD"])

def spread : Json → Json.Entries
  | .obj es => es
  | .arr items => indexed items
  | .str s => indexed ((codeUnits s).map Json.str)
  | _ => []

def listed (models : List String) : Json := .arr (models.map Json.str)

def updatedRouteGroups (config : Json) (routeGroupId : String) (models : List String) :
    Json.Entries :=
  GoMap.insert routeGroupId (listed models) (spread (currentRouteGroups config))

def routeGroupsPatch (updated : Json.Entries) : Json :=
  .obj [("selection",.obj [("route_groups",.obj updated)])]

def versionOr (version : Int) : Int := if version = 0 then 1 else version

/-- `save` is `createRouteGroupInTenantConfig` and `updateRouteGroupInTenantConfig`, which have one
body; `delete` is `deleteRouteGroupFromTenantConfig`. -/
inductive Edit where
  | save (routeGroupId : String) (models : List String)
  | delete (routeGroupId : String)

inductive Prepared where
  | failed (failure : Failure)
  | panicked
  | patch (ifMatchVersion : Int) (mergePatch : Json)

def Prepared.ofCheck : Except Failure (Int × Json) → Prepared
  | .error failure => .failed failure
  | .ok (ifMatchVersion,mergePatch) => .patch ifMatchVersion mergePatch

def prepareSave (server : Server) (routeGroupId : String) (models : List String) :
    Option (Json × Int) → Prepared
  | none => .failed ⟨404,"tenant not found","not_found"⟩
  | some (config,version) =>
    if isMap config then
      .ofCheck (checkPatch (.version (versionOr version)) (some (routeGroupsPatch
        (updatedRouteGroups (servedTenant server config) routeGroupId models))))
    else .panicked

def prepareDelete (tenantID groupName : String) : Option (Json × Int) → Prepared
  | none => .failed ⟨404,"tenant " ++ quoted tenantID ++ " not found","not_found"⟩
  | some (configJSON,version) =>
    match tenantConfig.decode configJSON tenantConfig.zero with
    | none => .failed ⟨500,"tenant config is corrupt","internal_error"⟩
    | some tc =>
      if hasRouteGroup tc groupName then .patch version (deletion groupName)
      else .failed ⟨404,"route group " ++ quoted groupName ++ " not found","not_found"⟩

def Edit.prepare (server : Server) (tenantID : String) (found : Option (Json × Int)) :
    Edit → Prepared
  | .save routeGroupId models => prepareSave server routeGroupId models found
  | .delete groupName =>
    if groupName = "" then .failed (invalidRequest "route group name is required")
    else prepareDelete tenantID groupName found

section Documents

def members : Option Json → Json.Entries
  | some (.obj es) => es
  | _ => []

def withGroups (f : Json.Entries → Json.Entries) (config : Json) : Json :=
  .obj (GoMap.insert "selection" (.obj (GoMap.insert "route_groups"
    (.obj (f (members (routeGroups config)))) (members (prop config "selection"))))
      (members (some config)))

def Edit.apply : Edit → Json → Json
  | .save routeGroupId models => withGroups (GoMap.insert routeGroupId (listed models))
  | .delete routeGroupId => withGroups (GoMap.erase routeGroupId)

def Edit.group : Edit → String
  | .save routeGroupId _ => routeGroupId
  | .delete routeGroupId => routeGroupId

def Edit.models : Edit → Option Json
  | .save _ models => some (listed models)
  | .delete _ => none

def groupsOf (config : Json) : Json.Entries := members (routeGroups config)

mutual

def Filled : Json → Prop
  | .null => False
  | .obj es => FilledEntries es
  | _ => True

def FilledEntries : Json.Entries → Prop
  | [] => True
  | (_,j) :: es => Filled j ∧ FilledEntries es

end

def Kept (routeGroupId : String) : Json → Prop
  | .obj es => ∀ e ∈ es, e.1 ≠ routeGroupId → Filled e.2
  | j => spread j = []

def Edit.Fits (row : ConfigRow) : Edit → Prop
  | .save routeGroupId _ => row.version ≠ 0 ∧ toSnakeCase routeGroupId = routeGroupId ∧
      ∀ order, ∀ groups ∈ routeGroups (normalizeConfigKeys order row.config), Kept routeGroupId groups
  | .delete routeGroupId => ∀ order tc,
      tenantConfig.decode (normalizeConfigKeys order row.config) tenantConfig.zero = some tc →
      hasRouteGroup tc routeGroupId = true →
      ((groupsOf (normalizeConfigKeys order row.config)).lookup routeGroupId).isSome

def Steady (row : ConfigRow) : Prop :=
  ∀ order order', routeGroups (normalizeConfigKeys order row.config) =
    routeGroups (normalizeConfigKeys order' row.config)

end Documents

section Merging

variable {es : Json.Entries} {order : Json.MapOrder} {routeGroupId : String} {j : Json}

theorem merged_some_of_ne {o : Option Json} (h : j ≠ .null) : merged o j = some (mergeValue o j) := by
  cases j with
  | null => exact absurd rfl h
  | _ => rfl

theorem mergeValue_some_obj (target patch : Json.Entries) :
    mergeValue (some (.obj target)) (.obj patch) = .obj (mergeMaps target patch) := by
  rw [mergeValue]

theorem mergeMaps_eq_patch {target patch : Json.Entries} (htarget : GoMap.Sorted target)
    (hpatch : GoMap.Sorted patch) (hkeys : ∀ k, patch.lookup k = none → target.lookup k = none)
    (hvalues : ∀ k x, patch.lookup k = some x → merged (target.lookup k) x = some x) :
    mergeMaps target patch = patch := by
  refine GoMap.Sorted.ext (sorted_mergeMaps htarget patch) hpatch fun k => ?_
  rw [lookup_mergeMaps hpatch.nodup]
  cases hk : patch.lookup k with
  | none => exact hkeys k hk
  | some x => exact hvalues k x hk

mutual

theorem merged_self : (j : Json) → Tidy j → Filled j → merged (some j) j = some j
  | .null, _, hfilled => hfilled.elim
  | .bool _, _, _ => congrArg some (mergeValue_of_ne_obj (by simp) _)
  | .num _, _, _ => congrArg some (mergeValue_of_ne_obj (by simp) _)
  | .str _, _, _ => congrArg some (mergeValue_of_ne_obj (by simp) _)
  | .arr _, _, _ => congrArg some (mergeValue_of_ne_obj (by simp) _)
  | .obj es, htidy, hfilled => by
    rw [merged_some_of_ne (by simp),mergeValue_some_obj,
      mergeMaps_eq_patch htidy.1.sorted htidy.1.sorted (fun _ h => h)]
    intro k x hk
    rw [hk]
    exact mergedEntries_self es htidy.2 hfilled (k,x) (GoMap.mem_of_lookup hk)

theorem mergedEntries_self : (es : Json.Entries) → TidyEntries es → FilledEntries es →
    ∀ e ∈ es, merged (some e.2) e.2 = some e.2
  | [], _, _ => by simp
  | (_,j) :: es, htidy, hfilled => List.forall_mem_cons.mpr
      ⟨merged_self j htidy.1 hfilled.1,mergedEntries_self es htidy.2 hfilled.2⟩

end

theorem tidy_listed (models : List String) : Tidy (listed models) := by
  rw [listed,Tidy,tidyItems_iff]
  simp [Tidy]

theorem mergeMaps_updated {groups : Json.Entries} {models : List String}
    (htidy : Tidy (.obj groups)) (hkept : Kept routeGroupId (.obj groups)) :
    mergeMaps groups (GoMap.insert routeGroupId (listed models) groups) =
      GoMap.insert routeGroupId (listed models) groups := by
  refine mergeMaps_eq_patch htidy.1.sorted (GoMap.sorted_insert htidy.1.sorted) ?_ ?_
  · intro k hk
    rw [GoMap.lookup_insert] at hk
    split_ifs at hk
    exact hk
  · intro k x hk
    rw [GoMap.lookup_insert] at hk
    split_ifs at hk with h
    · cases hk
      exact congrArg some (mergeValue_of_ne_obj (by simp [listed]) _)
    · have hmem := GoMap.mem_of_lookup hk
      rw [hk]
      exact merged_self x (htidy.of_lookup hk) (hkept (k,x) hmem h)

theorem mergeMaps_singleton (es : Json.Entries) (k : String) (h : j ≠ .null) :
    mergeMaps es [(k,j)] = GoMap.insert k (mergeValue (es.lookup k) j) es := by
  rw [mergeMaps,mergeMaps]
  exact h

theorem mergeMaps_null (es : Json.Entries) (k : String) : mergeMaps es [(k,.null)] = GoMap.erase k es := by
  rw [mergeMaps,mergeMaps]

theorem tidy_singleton {k : String} (hk : toSnakeCase k = k) (hj : Tidy j) : Tidy (.obj [(k,j)]) :=
  ⟨⟨List.pairwise_singleton _ _,by simpa using hk⟩,hj,trivial⟩

mutual

theorem parsed_tidy : (j : Json) → Tidy j → parsed j = j
  | .null, _ => Json.rekey_null
  | .bool b, _ => Json.rekey_bool b
  | .num x, _ => Json.rekey_num x
  | .str s, _ => Json.rekey_str s
  | .arr items, h => by
    rw [parsed,Json.rekey_arr]
    exact congrArg Json.arr (parsed_items items h)
  | .obj es, h => by
    rw [parsed,Json.rekey_obj,
      Json.arrivals_eq_of_fixed List.Perm.refl h.1.sorted fun _ _ => rfl]
    exact congrArg Json.obj (parsed_entries es h.2)

theorem parsed_items : (items : List Json) → TidyItems items → items.map parsed = items
  | [], _ => rfl
  | j :: items, h => by rw [List.map_cons,parsed_tidy j h.1,parsed_items items h.2]

theorem parsed_entries : (es : Json.Entries) → TidyEntries es →
    es.map (fun e => (e.1,parsed e.2)) = es
  | [], _ => rfl
  | (k,j) :: es, h => by rw [List.map_cons,parsed_tidy j h.1,parsed_entries es h.2]

end

variable {config client : Json}

theorem prop_of_asMap (hmap : asMap config = some es) (k : String) : prop config k = es.lookup k := by
  cases config with
  | obj entries =>
    cases hmap
    rfl
  | null =>
    cases hmap
    rfl
  | _ => cases hmap

theorem members_of_asMap (hmap : asMap config = some es) : members (some config) = es := by
  cases config with
  | obj entries =>
    cases hmap
    rfl
  | null =>
    cases hmap
    rfl
  | _ => cases hmap

theorem tidy_members {o : Option Json} (h : ∀ x ∈ o, Tidy x) : Tidy (.obj (members o)) := by
  cases o with
  | none => exact ⟨settled_nil,trivial⟩
  | some x =>
    cases x with
    | obj entries => exact h _ rfl
    | _ => exact ⟨settled_nil,trivial⟩

theorem tidy_prop {k : String} {x : Json} (h : Tidy config) (hx : prop config k = some x) : Tidy x := by
  cases config with
  | obj entries => exact h.of_lookup hx
  | _ => cases hx

theorem tidy_groups (h : Tidy config) : Tidy (.obj (groupsOf config)) := by
  refine tidy_members fun x hx => ?_
  obtain ⟨selection,hselection,hgroups⟩ := Option.bind_eq_some_iff.mp hx
  exact tidy_prop (tidy_prop h hselection) hgroups

theorem spread_current (hkept : ∀ groups ∈ routeGroups config, Kept routeGroupId groups) :
    spread (currentRouteGroups config) = groupsOf config := by
  unfold currentRouteGroups groupsOf
  cases hgroups : routeGroups config with
  | none => rfl
  | some groups =>
    have hspread := hkept groups hgroups
    cases groups with
    | obj entries => rfl
    | null => rfl
    | _ =>
      split_ifs
      · exact hspread
      · rfl

theorem mergeValue_route_groups {o : Option Json} {updated : Json.Entries}
    (h : ∀ groups, o.bind (fun selection => prop selection "route_groups") = some (.obj groups) →
      mergeMaps groups updated = updated) :
    mergeValue o (.obj [("route_groups",.obj updated)]) =
      .obj (GoMap.insert "route_groups" (.obj updated) (members o)) := by
  rcases mergeValue_obj o [("route_groups",.obj updated)] with ⟨selection,rfl,hmerge⟩ | ⟨hother,hmerge⟩
  · rw [hmerge,mergeMaps_singleton selection "route_groups" (by simp)]
    rcases mergeValue_obj (selection.lookup "route_groups") updated with
      ⟨groups,hgroups,hinner⟩ | ⟨_,hinner⟩
    · rw [hinner,h groups hgroups]
      rfl
    · rw [hinner]
      rfl
  · rw [hmerge]
    cases o with
    | none => rfl
    | some x =>
      cases x with
      | obj entries => exact absurd rfl (hother entries)
      | _ => rfl

theorem snake_selection : toSnakeCase "selection" = "selection" := by decide

theorem snake_route_groups : toSnakeCase "route_groups" = "route_groups" := by decide

theorem tidy_routeGroupsPatch {updated : Json.Entries} (h : Tidy (.obj updated)) :
    Tidy (routeGroupsPatch updated) :=
  tidy_singleton snake_selection (tidy_singleton snake_route_groups h)

theorem tidy_insert {k : String} (hk : toSnakeCase k = k) (hj : Tidy j)
    (h : Tidy (.obj es)) : Tidy (.obj (GoMap.insert k j es)) := by
  refine ⟨⟨GoMap.sorted_insert h.1.sorted,?_⟩,tidyEntries_iff.mpr ?_⟩
  · intro x hx
    rcases GoMap.mem_keys_insert.mp hx with rfl | hx
    · exact hk
    · exact h.1.fixed x hx
  · intro e he
    rcases GoMap.mem_of_mem_insert he with rfl | he
    · exact hj
    · exact tidyEntries_iff.mp h.2 e he

theorem patched_save {models : List String} (htidy : Tidy config) (hmap : asMap config = some es)
    (hid : toSnakeCase routeGroupId = routeGroupId)
    (hkept : ∀ groups ∈ routeGroups config, Kept routeGroupId groups)
    (hclient : routeGroups client = routeGroups config) :
    patchedTenantConfig order config
        (parsed (routeGroupsPatch (updatedRouteGroups client routeGroupId models))) =
      .ok ((Edit.save routeGroupId models).apply config) := by
  have hupdated : updatedRouteGroups client routeGroupId models =
      GoMap.insert routeGroupId (listed models) (groupsOf config) := by
    rw [updatedRouteGroups,currentRouteGroups,hclient,← currentRouteGroups,spread_current hkept]
  have hbody := tidy_routeGroupsPatch (tidy_insert hid (tidy_listed models) (tidy_groups htidy))
  have hgroups : ∀ groups,
      (prop config "selection").bind (fun selection => prop selection "route_groups") =
        some (.obj groups) →
      mergeMaps groups (GoMap.insert routeGroupId (listed models) (groupsOf config)) =
        GoMap.insert routeGroupId (listed models) (groupsOf config) := by
    intro groups h
    have hof : groupsOf config = groups := by
      rw [groupsOf,routeGroups,h]
      rfl
    have htidied := tidy_groups htidy
    rw [hof] at htidied ⊢
    exact mergeMaps_updated htidied (hkept _ h)
  rw [hupdated,parsed_tidy _ hbody,patchedTenantConfig,hmap,hbody.normalizeConfigKeys_eq order]
  simp only [routeGroupsPatch,asMap]
  rw [mergeMaps_singleton es "selection" (by simp),← prop_of_asMap hmap,mergeValue_route_groups hgroups,
    Edit.apply,withGroups,members_of_asMap hmap]
  rfl

theorem patched_delete (htidy : Tidy config) (hmap : asMap config = some es)
    (hgroup : ((groupsOf config).lookup routeGroupId).isSome) :
    patchedTenantConfig order config (deletion routeGroupId) =
      .ok ((Edit.delete routeGroupId).apply config) := by
  have hid : toSnakeCase routeGroupId = routeGroupId :=
    (tidy_groups htidy).1.fixed routeGroupId (GoMap.isSome_lookup_iff.mp hgroup)
  have hbody : Tidy (deletion routeGroupId) :=
    tidy_singleton snake_selection (tidy_singleton snake_route_groups (tidy_singleton hid trivial))
  obtain ⟨groups,hgroups⟩ : ∃ groups, routeGroups config = some (.obj groups) := by
    unfold groupsOf at hgroup
    cases hroute : routeGroups config with
    | none =>
      rw [hroute] at hgroup
      cases hgroup
    | some x =>
      rw [hroute] at hgroup
      cases x with
      | obj groups => exact ⟨groups,rfl⟩
      | _ => cases hgroup
  obtain ⟨selection,hselection,hprop⟩ := Option.bind_eq_some_iff.mp hgroups
  cases selection with
  | obj members =>
    have hlookup : members.lookup "route_groups" = some (.obj groups) := hprop
    rw [patchedTenantConfig,hmap,hbody.normalizeConfigKeys_eq order]
    simp only [deletion,asMap]
    rw [mergeMaps_singleton es "selection" (by simp),← prop_of_asMap hmap,hselection,mergeValue_some_obj,
      mergeMaps_singleton members "route_groups" (by simp),hlookup,mergeValue_some_obj,mergeMaps_null,
      Edit.apply,withGroups,members_of_asMap hmap,hgroups,hselection]
    rfl
  | _ => cases hprop

end Merging

section Prepared

variable {server : Server} {tenantID : String} {edit : Edit} {row : ConfigRow} {f : Json.Entries → Json.Entries}
  {config : Json} {version : Int} {mergePatch : Json}

theorem routeGroups_served (server : Server) (config : Json) :
    routeGroups (servedTenant server config) = routeGroups config := by
  cases config with
  | obj entries =>
    have hselection : prop (servedTenant server (.obj entries)) "selection" =
        prop (.obj entries) "selection" := by
      simp only [servedTenant,prop]
      rw [lookup_amend,GoMap.lookup_insert,if_neg (by decide)]
      exact Option.map_id_apply
    rw [routeGroups,routeGroups,hselection]
  | _ => rfl

theorem checkPatch_routeGroups (version : Int) (updated : Json.Entries) :
    checkPatch (.version version) (some (routeGroupsPatch updated)) =
      .ok (version,parsed (routeGroupsPatch updated)) := by
  have henv : currentEnvironmentFromJSON (parsed (routeGroupsPatch updated)) = "" := by
    rw [routeGroupsPatch,parsed_singleton]
    rfl
  simp [checkPatch,IfMatch.parse,henv]

theorem asMap_of_isMap (order : Json.MapOrder) (h : isMap config = true) :
    ∃ es, asMap (normalizeConfigKeys order config) = some es := by
  cases config with
  | obj entries =>
    rw [normalizeConfigKeys,Json.rekey_obj]
    exact ⟨_,rfl⟩
  | _ => cases h

theorem isMap_normalize (order : Json.MapOrder) (config : Json) :
    isMap (normalizeConfigKeys order config) = isMap config := by
  cases config <;> simp [normalizeConfigKeys,isMap]

theorem isMap_of_group {routeGroupId : String} (h : ((groupsOf config).lookup routeGroupId).isSome) :
    isMap config = true := by
  cases config with
  | obj entries => rfl
  | _ => cases h

theorem prepare_patch (hfits : edit.Fits row) (hsteady : Steady row) (order : Json.MapOrder)
    (h : edit.prepare server tenantID (some (Tenant.ConfigRow.read order row)) = .patch version mergePatch) :
    version = row.version ∧ ∀ readOrder patchOrder,
      patchedTenantConfig patchOrder (Tenant.ConfigRow.read readOrder row).1 mergePatch =
        .ok (edit.apply (Tenant.ConfigRow.read readOrder row).1) := by
  cases edit with
  | save routeGroupId models =>
    obtain ⟨hversion,hid,hkept⟩ := hfits
    simp only [Edit.prepare,prepareSave,Tenant.ConfigRow.read,checkPatch_routeGroups,Prepared.ofCheck] at h
    split_ifs at h with hmap
    obtain ⟨rfl,rfl⟩ := Prepared.patch.inj h
    refine ⟨if_neg hversion,fun readOrder patchOrder => ?_⟩
    rw [isMap_normalize] at hmap
    obtain ⟨es,hes⟩ := asMap_of_isMap readOrder hmap
    have hclient := routeGroups_served server (normalizeConfigKeys order row.config)
    exact patched_save (tidy_normalizeConfigKeys readOrder row.config) hes hid (hkept readOrder)
      (hclient.trans (hsteady order readOrder))
  | delete routeGroupId =>
    simp only [Edit.prepare,prepareDelete,Tenant.ConfigRow.read] at h
    split_ifs at h
    cases hdecode : tenantConfig.decode (normalizeConfigKeys order row.config) tenantConfig.zero with
    | none =>
      rw [hdecode] at h
      cases h
    | some tc =>
      rw [hdecode] at h
      dsimp only at h
      split_ifs at h with hgroup
      obtain ⟨rfl,rfl⟩ := Prepared.patch.inj h
      refine ⟨rfl,fun readOrder patchOrder => ?_⟩
      have hlisted := hfits order tc hdecode hgroup
      rw [groupsOf,hsteady order readOrder,← groupsOf] at hlisted
      have hmap := isMap_of_group hlisted
      rw [isMap_normalize] at hmap
      obtain ⟨es,hes⟩ := asMap_of_isMap readOrder hmap
      exact patched_delete (tidy_normalizeConfigKeys readOrder row.config) hes hlisted

theorem routeGroups_withGroups (f : Json.Entries → Json.Entries) (config : Json) :
    routeGroups (withGroups f config) = some (.obj (f (groupsOf config))) := by
  simp [routeGroups,withGroups,prop,GoMap.lookup_insert,groupsOf]

theorem lookup_apply (edit : Edit) (config : Json) :
    (groupsOf (edit.apply config)).lookup edit.group = edit.models := by
  cases edit with
  | save routeGroupId models =>
    rw [Edit.apply,groupsOf,routeGroups_withGroups]
    exact (GoMap.lookup_insert _).trans (if_pos rfl)
  | delete routeGroupId =>
    rw [Edit.apply,groupsOf,routeGroups_withGroups]
    exact (GoMap.lookup_erase _).trans (if_pos rfl)

theorem tidy_erase {k : String} {es : Json.Entries} (h : Tidy (.obj es)) : Tidy (.obj (GoMap.erase k es)) := by
  refine ⟨⟨GoMap.sorted_erase h.1.sorted,?_⟩,tidyEntries_iff.mpr ?_⟩
  · intro x hx
    exact h.1.fixed x (List.map_subset _ (List.filter_subset_self _) hx)
  · intro e he
    exact tidyEntries_iff.mp h.2 e (List.mem_of_mem_filter he)

theorem tidy_withGroups (h : Tidy config) (hf : Tidy (.obj (f (groupsOf config)))) :
    Tidy (withGroups f config) := by
  have hselection : Tidy (.obj (members (prop config "selection"))) :=
    tidy_members fun x hx => tidy_prop h hx
  have hconfig : Tidy (.obj (members (some config))) := tidy_members fun x hx => by cases hx; exact h
  exact tidy_insert snake_selection (tidy_insert snake_route_groups hf hselection) hconfig

theorem tidy_apply (h : Tidy config) (hid : ∀ id models, edit = .save id models → toSnakeCase id = id) :
    Tidy (edit.apply config) := by
  cases edit with
  | save routeGroupId models =>
    exact tidy_withGroups h (tidy_insert (hid _ _ rfl) (tidy_listed models) (tidy_groups h))
  | delete routeGroupId => exact tidy_withGroups h (tidy_erase (tidy_groups h))

end Prepared

end PrismGateway.Admin.RouteGroups
