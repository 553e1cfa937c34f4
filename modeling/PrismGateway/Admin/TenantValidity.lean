import PrismGateway.Admin.Environment
import PrismGateway.Admin.TenantRules

namespace PrismGateway.Admin

open Lib Config.Schemas Storage

inductive Edit where
  | keep
  | drop
  | set (j : Json)

def editAt (patch : Json.Entries) (field : String) : Edit :=
  match patch.lookup field with
  | none => .keep
  | some .null => .drop
  | some j => .set j

def edit (patch : Json.Entries) (section_ field : String) : Edit :=
  match patch.lookup section_ with
  | none => .keep
  | some (.obj m) => editAt m field
  | some _ => .drop

def Edit.passes (check : Json → Bool) : Edit → Bool
  | .keep => true
  | .drop => check .null
  | .set j => check j

def Edit.apply (stored : Option Json) : Edit → Json
  | .keep => stored.getD .null
  | .drop => .null
  | .set j => mergeValue stored j

section Merge

variable {es patch : Json.Entries}

theorem lookup_merged (hpatch : Settled patch) (field : String) :
    ((mergeMaps es patch).lookup field).getD .null = (editAt patch field).apply (es.lookup field) := by
  rw [lookup_mergeMaps hpatch.sorted.nodup,editAt]
  cases patch.lookup field with
  | none => rfl
  | some j => cases j <;> rfl

theorem leaf_merged (hpatch : Tidy (.obj patch)) (section_ field : String) :
    leaf (mergeMaps es patch) section_ field =
      (edit patch section_ field).apply ((entriesAt es section_).lookup field) := by
  have hlookup : (mergeMaps es patch).lookup section_ = _ :=
    lookup_mergeMaps hpatch.1.sorted.nodup section_
  rw [leaf,edit,entriesAt,hlookup]
  cases hsection : patch.lookup section_ with
  | none => rfl
  | some j =>
    cases j with
    | obj m =>
      have hm : Settled m := (tidyEntries_iff.mp hpatch.2 _ (GoMap.mem_of_lookup hsection)).1
      have hmerged : merged (es.lookup section_) (.obj m) =
          some (mergeValue (es.lookup section_) (.obj m)) := rfl
      rw [Option.elim_some,hmerged]
      rcases mergeValue_obj (es.lookup section_) m with ⟨c,hc,hmerge⟩ | ⟨hnone,hmerge⟩
      · have hentries : entriesAt es section_ = c := by rw [entriesAt,hc]
        rw [hmerge,hentries]
        exact lookup_merged hm field
      · have hentries : entriesAt es section_ = [] := by
          rw [entriesAt]
          split
          · next c hc => exact absurd hc (hnone c)
          · rfl
        rw [hmerge,hentries]
        show (m.lookup field).getD .null = (editAt m field).apply none
        rw [editAt]
        cases m.lookup field with
        | none => rfl
        | some j => cases j <;> rfl
    | _ => rfl

def Shallow (check : Json → Bool) : Prop := ∀ m, check (.obj m) = check .null

theorem Shallow.mergeValue {check : Json → Bool} (h : Shallow check) (o : Option Json) (j : Json) :
    check (mergeValue o j) = check j := by
  cases j with
  | obj m =>
    rcases mergeValue_obj o m with ⟨c,_,hmerge⟩ | ⟨_,hmerge⟩
    · rw [hmerge,h,h]
    · rw [hmerge]
  | _ => rfl

theorem Edit.passes_apply {check : Json → Bool} (hshallow : Shallow check) {stored : Option Json}
    {e : Edit} (hstored : check (stored.getD .null) = true) (he : e.passes check = true) :
    check (e.apply stored) = true := by
  cases e with
  | keep => exact hstored
  | drop => exact he
  | set j =>
    rw [Edit.apply,hshallow.mergeValue]
    exact he

theorem rules_shallow (cfg : Settings) : ∀ r ∈ rules cfg, Shallow r.check := by
  simp only [rules,List.forall_mem_cons]
  exact ⟨fun _ => rfl,fun _ => rfl,fun _ => rfl,fun _ => rfl,fun _ => rfl,fun _ => rfl,fun _ => rfl,
    by simp⟩

def routeGroupAfter (es patch : Json.Entries) : String :=
  match edit patch "routing" "route_group" with
  | .keep => routeGroupOf es
  | .drop => ""
  | .set j => textOf j

/-- Whether the groups still have `g`, from the stored ones and the ones the patch names. -/
def keepsGroup (es patch : Json.Entries) (g : String) : Bool :=
  match edit patch "selection" "route_groups" with
  | .keep => (keysOf (routeGroupsAt es)).contains g
  | .drop => false
  | .set j => match j, routeGroupsAt es with
    | .obj groups, .obj stored => match editAt groups g with
      | .keep => (stored.lookup g).isSome
      | .drop => false
      | .set _ => true
    | .obj groups, _ => (groups.lookup g).isSome
    | _, _ => false

theorem routeGroupOf_merged (hpatch : Tidy (.obj patch)) :
    routeGroupOf (mergeMaps es patch) = routeGroupAfter es patch := by
  rw [routeGroupOf,leaf_merged hpatch,routeGroupAfter]
  cases edit patch "routing" "route_group" with
  | keep => rfl
  | drop => rfl
  | set j =>
    rw [Edit.apply]
    cases j with
    | obj m =>
      rcases mergeValue_obj ((entriesAt es "routing").lookup "route_group") m with
        ⟨c,_,hmerge⟩ | ⟨_,hmerge⟩
      · rw [hmerge]
        rfl
      · rw [hmerge]
    | _ => rfl

theorem mem_groups_merged {groups stored : Json.Entries} (hgroups : Settled groups) (g : String) :
    (match editAt groups g with
      | .keep => (stored.lookup g).isSome
      | .drop => false
      | .set _ => true) = true ↔ g ∈ (mergeMaps stored groups).map Prod.fst := by
  rw [← GoMap.isSome_lookup_iff,lookup_mergeMaps hgroups.sorted.nodup,editAt]
  cases groups.lookup g with
  | none => exact Iff.rfl
  | some j => cases j <;> simp [merged]

theorem keepsGroup_iff (hpatch : Tidy (.obj patch)) (g : String) :
    keepsGroup es patch g = true ↔ g ∈ keysOf (routeGroupsAt (mergeMaps es patch)) := by
  rw [routeGroupsAt,leaf_merged hpatch,keepsGroup]
  have hgroups : ∀ groups, edit patch "selection" "route_groups" = .set (.obj groups) →
      Settled groups := by
    intro groups hedit
    rw [edit] at hedit
    split at hedit
    · cases hedit
    · next m hm =>
      have htidy := tidyEntries_iff.mp hpatch.2 _ (GoMap.mem_of_lookup hm)
      rw [editAt] at hedit
      split at hedit
      · cases hedit
      · cases hedit
      · next j hj =>
        cases hedit
        exact (tidyEntries_iff.mp htidy.2 _ (GoMap.mem_of_lookup hj)).1
    · cases hedit
  cases hedit : edit patch "selection" "route_groups" with
  | keep => simp [Edit.apply,routeGroupsAt,leaf]
  | drop => simp [Edit.apply,keysOf]
  | set j =>
    rw [Edit.apply]
    cases j with
    | obj groups =>
      have hsettled := hgroups groups hedit
      rcases mergeValue_obj ((entriesAt es "selection").lookup "route_groups") groups with
        ⟨stored,hstored,hmerge⟩ | ⟨hnone,hmerge⟩
      · rw [hmerge]
        have hleaf : routeGroupsAt es = .obj stored := by rw [routeGroupsAt,leaf,hstored]; rfl
        simp only [hleaf]
        exact mem_groups_merged hsettled g
      · rw [hmerge]
        have hleaf : ∀ stored, routeGroupsAt es ≠ .obj stored := by
          intro stored heq
          rw [routeGroupsAt,leaf] at heq
          cases hl : (entriesAt es "selection").lookup "route_groups" with
          | none =>
            rw [hl] at heq
            cases heq
          | some x =>
            rw [hl] at heq
            exact hnone stored (hl.trans (congrArg some heq))
        have hsome : (groups.lookup g).isSome = true ↔ g ∈ keysOf (.obj groups) :=
          GoMap.isSome_lookup_iff
        cases hvalue : routeGroupsAt es with
        | obj stored => exact absurd hvalue (hleaf stored)
        | _ => exact hsome
    | _ => simp [mergeValue,keysOf]

/-- The patch decodes on its own, names no field by another spelling, and gives every checked field
that it touches a value that passes its check. -/
structure PatchKeeps (cfg : Settings) (es patch : Json.Entries) : Prop where
  stored : PlainDoc es
  plain : PlainDoc patch
  accepted : tenantConfig.accepts (.obj patch) = true
  models : (editAt patch "allowed_models").passes (modelsOk cfg) = true
  fields : ∀ r ∈ rules cfg, (edit patch r.section_ r.field).passes r.check = true
  group : routeGroupAfter es patch = "" ∨ keepsGroup es patch (routeGroupAfter es patch) = true

theorem DocOk.merge {cfg : Settings} (h : DocOk cfg es) (hpatch : Tidy (.obj patch))
    (hkeeps : PatchKeeps cfg es patch) : DocOk cfg (mergeMaps es patch) := by
  refine ⟨?_,?_,?_⟩
  · rw [allowedModelsOf,lookup_merged hpatch.1]
    exact Edit.passes_apply (fun _ => rfl) h.models hkeeps.models
  · intro r hr
    rw [leaf_merged hpatch]
    exact Edit.passes_apply (rules_shallow cfg r hr) (h.fields r hr) (hkeeps.fields r hr)
  · rw [routeGroupOf_merged hpatch,← keepsGroup_iff hpatch]
    exact hkeeps.group

theorem plain_mergeMaps {names : List String} (hes : Plain names es) (hpatch : Plain names patch) :
    Plain names (mergeMaps es patch) := by
  intro k hk
  rcases mem_keys_mergeMaps hk with hk | hk
  · exact hes k hk
  · exact hpatch k hk

theorem PlainDoc.merge (hes : PlainDoc es) (hpatch : PlainDoc patch) (htidy : Tidy (.obj patch)) :
    PlainDoc (mergeMaps es patch) := by
  refine ⟨plain_mergeMaps hes.top hpatch.top,?_⟩
  intro x hx
  have hplain := hes.sections x hx
  have hplainPatch := hpatch.sections x hx
  have hlookup : (mergeMaps es patch).lookup x.1 = _ := lookup_mergeMaps htidy.1.sorted.nodup x.1
  rw [entriesAt,hlookup]
  rw [entriesAt] at hplainPatch
  cases hsection : patch.lookup x.1 with
  | none =>
    rw [Option.elim_none]
    exact hplain
  | some j =>
    rw [hsection] at hplainPatch
    cases j with
    | obj m =>
      have hmerged : merged (es.lookup x.1) (.obj m) = some (mergeValue (es.lookup x.1) (.obj m)) := rfl
      rw [Option.elim_some,hmerged]
      rcases mergeValue_obj (es.lookup x.1) m with ⟨c,hc,hmerge⟩ | ⟨_,hmerge⟩
      · rw [hmerge]
        rw [entriesAt,hc] at hplain
        exact plain_mergeMaps hplain hplainPatch
      · rw [hmerge]
        exact hplainPatch
    | _ => simp [merged,mergeValue,Plain]

end Merge

def ValidDoc (cfg : Settings) (doc : Json) : Prop :=
  ∃ tc, tenantConfig.decode doc tenantConfig.zero = some tc ∧ validate cfg tc = .ok ()

theorem tenantConfig_aliasFree : tenantConfig.aliasFree = true := by decide

theorem patched_valid {cfg : Settings} {es patch : Json.Entries} (h : ValidDoc cfg (.obj es))
    (hes : Tidy (.obj es)) (hpatch : Tidy (.obj patch)) (hkeeps : PatchKeeps cfg es patch) :
    ValidDoc cfg (.obj (mergeMaps es patch)) := by
  obtain ⟨tc,hdecode,hvalid⟩ := h
  have haccepts : tenantConfig.accepts (.obj es) = true := by
    rw [← Schema.isSome_decode tenantConfig tenantConfig_aliasFree _ tenantConfig.zero,hdecode]
    rfl
  have hmerged : tenantConfig.accepts (.obj (mergeMaps es patch)) = true := by
    have hmerge := accepts_mergeValue tenantConfig (some (.obj es)) (.obj patch)
      (fun x hx => by cases hx; exact haccepts) hkeeps.accepted
    rwa [mergeValue] at hmerge
  rw [← Schema.isSome_decode tenantConfig tenantConfig_aliasFree _ tenantConfig.zero] at hmerged
  obtain ⟨tc',hdecode'⟩ := Option.isSome_iff_exists.mp hmerged
  refine ⟨tc',hdecode',?_⟩
  rw [validate_iff_docOk hdecode' (tidy_mergeMaps hes hpatch)
    (hkeeps.stored.merge hkeeps.plain hpatch)]
  exact ((validate_iff_docOk hdecode hes hkeeps.stored).mp hvalid).merge hpatch hkeeps

structure PutKeeps (tc : tenantConfig.Val) : Prop where
  readable : tenantConfig.readable tc = true
  exactLimits : ExactLimits (tenantOf tc)
  group : toSnakeCase (tenantOf tc).routing.routeGroup = (tenantOf tc).routing.routeGroup

theorem accepts_stored (order : Json.MapOrder) {tc : tenantFields.Vals}
    (h : tenantConfig.readable tc = true) :
    tenantConfig.accepts (.obj (storedEntries order tc)) = true := by
  have hfits : tenantFields.fits toSnakeCase = true :=
    (Bool.and_eq_true_iff.mp tenantDocument.fits).2
  have hfree : tenantFields.aliasFree = true :=
    (Bool.and_eq_true_iff.mp tenantConfig_aliasFree).2
  exact Fields.accepts_sent order.perm [] stored tenantFields_fit
    (tenantFields.accepts_rekey_encode order.perm hfits hfree tc h)

theorem put_valid {cfg : Settings} {tc : tenantFields.Vals} (hkeeps : PutKeeps tc)
    (hvalid : validate cfg tc = .ok ()) (order : Json.MapOrder) :
    ValidDoc cfg (normalizeConfigKeys order (stripAPIKeys tc)) := by
  have haccepts := accepts_stored order hkeeps.readable
  rw [← Schema.isSome_decode tenantConfig tenantConfig_aliasFree _ tenantConfig.zero] at haccepts
  obtain ⟨back,hback⟩ := Option.isSome_iff_exists.mp haccepts
  have htidy := tidy_normalizeConfigKeys order (stripAPIKeys tc)
  rw [normalize_stripAPIKeys] at htidy ⊢
  refine ⟨back,hback,?_⟩
  rw [validate_iff_docOk hback htidy (plainDoc_stored order tc)]
  obtain ⟨hdescribes,hgroups⟩ := describes_stored order hkeeps.exactLimits
  refine hdescribes.docOk (fun hgroup => ?_) hvalid
  rw [← hdescribes.routeGroup,hgroups]
  exact ⟨_,hgroup,hkeeps.group⟩

section Deletion

variable {cfg : Settings} {es : Json.Entries}

def deletionEntries (groupName : String) : Json.Entries :=
  [("selection",.obj [("route_groups",.obj [(groupName,.null)])])]

theorem normalize_deletion (order : Json.MapOrder) (groupName : String) :
    normalizeConfigKeys order (deletion groupName) =
      .obj (deletionEntries (toSnakeCase groupName)) := by
  have hone : ∀ k j, normalizeConfigKeys order (.obj [(k,j)]) =
      .obj [(toSnakeCase k,normalizeConfigKeys order j)] := by
    intro k j
    rw [normalizeConfigKeys,Json.rekey_obj,Json.arrivals,List.map_singleton,
      List.perm_singleton.mp (order.perm _)]
    rfl
  have hselection : toSnakeCase "selection" = "selection" := by decide
  have hgroups : toSnakeCase "route_groups" = "route_groups" := by decide
  rw [deletion,hone,hone,hone,hselection,hgroups]
  rfl

theorem deletion_plain (groupName : String) : PlainDoc (deletionEntries groupName) := by
  have htop : "selection" ∈ tenantFields.names := by decide
  have hgroups : "route_groups" ∈ (fieldsOf selectionConfig).names := by decide
  refine ⟨plain_of_subset (List.cons_subset.mpr ⟨htop,List.nil_subset _⟩),?_⟩
  simp only [sections,List.forall_mem_cons]
  refine ⟨?_,?_,?_,?_,?_,by simp⟩
  · exact plain_of_subset (List.nil_subset _)
  · exact plain_of_subset (List.cons_subset.mpr ⟨hgroups,List.nil_subset _⟩)
  · exact plain_of_subset (List.nil_subset _)
  · exact plain_of_subset (List.nil_subset _)
  · exact plain_of_subset (List.nil_subset _)

theorem deletion_keeps {groupName : String} (hdoc : DocOk cfg es) (hplain : PlainDoc es)
    (hdefault : routeGroupOf es ≠ groupName) : PatchKeeps cfg es (deletionEntries groupName) := by
  refine ⟨hplain,deletion_plain groupName,rfl,rfl,?_,?_⟩
  · simp only [rules,List.forall_mem_cons]
    exact ⟨rfl,rfl,rfl,rfl,rfl,rfl,rfl,by simp⟩
  · refine hdoc.group.imp id fun hgroup => ?_
    show keepsGroup es (deletionEntries groupName) (routeGroupOf es) = true
    have hedit : edit (deletionEntries groupName) "selection" "route_groups" =
        .set (.obj [(groupName,.null)]) := rfl
    have hkeep : editAt [(groupName,Json.null)] (routeGroupOf es) = .keep := by
      rw [editAt,GoMap.lookup_cons_eq,if_neg hdefault]
      rfl
    rw [keepsGroup,hedit]
    cases hgroups : routeGroupsAt es with
    | obj stored =>
      rw [hgroups] at hgroup
      simp only [hkeep]
      exact GoMap.isSome_lookup_iff.mpr hgroup
    | _ => simp [hgroups,keysOf] at hgroup

theorem deletion_tidy {groupName : String} (hkey : toSnakeCase groupName = groupName) :
    Tidy (.obj (deletionEntries groupName)) := by
  have hnormal := tidy_normalizeConfigKeys ⟨id,List.Perm.refl⟩ (deletion groupName)
  rwa [normalize_deletion,hkey] at hnormal

theorem deletion_of_default {groupName : String} (hkey : toSnakeCase groupName = groupName)
    (hne : groupName ≠ "") (hdefault : routeGroupOf es = groupName)
    (hexists : groupName ∈ keysOf (routeGroupsAt es)) :
    ¬ DocOk cfg (mergeMaps es (deletionEntries groupName)) := by
  intro hdoc
  have htidy := deletion_tidy hkey
  have hgroup := hdoc.group
  rw [routeGroupOf_merged htidy,← keepsGroup_iff htidy] at hgroup
  have hafter : routeGroupAfter es (deletionEntries groupName) = groupName := hdefault
  rw [hafter] at hgroup
  have hedit : edit (deletionEntries groupName) "selection" "route_groups" =
      .set (.obj [(groupName,.null)]) := rfl
  have hdrop : editAt [(groupName,Json.null)] groupName = .drop := by
    rw [editAt,GoMap.lookup_cons_eq,if_pos rfl]
  have hgone := hgroup.resolve_left hne
  rw [keepsGroup,hedit] at hgone
  cases hgroups : routeGroupsAt es with
  | obj stored =>
    rw [hgroups] at hgone
    simp only [hdrop] at hgone
    cases hgone
  | _ => simp [hgroups,keysOf] at hexists

end Deletion

def Valid (cfg : Settings) (tenantID : String) (db : TenantTables) : Prop :=
  ∀ order, ∃ doc version, db.getTenantConfig order tenantID = some (doc,version) ∧ ValidDoc cfg doc

def KeepsValid (cfg : Settings) (tenantID : String) (db : TenantTables) : Request → Prop
  | .put other _ _ body => other = tenantID →
      ∀ tc ∈ body.bind (fun j => tenantConfig.decode j tenantConfig.zero), PutKeeps tc
  | .patch other readOrder patchOrder _ body => other = tenantID →
      ∀ es version patch, db.getTenantConfig readOrder tenantID = some (.obj es,version) →
        (body.map parsed).bind (fun j => asMap (normalizeConfigKeys patchOrder j)) = some patch →
        PatchKeeps cfg es patch
  | .deleteRouteGroup other _ readOrder _ groupName => other = tenantID →
      ∀ es version, db.getTenantConfig readOrder tenantID = some (.obj es,version) →
        PlainDoc es ∧ routeGroupOf es ≠ toSnakeCase groupName

section Runs

variable {cfg : Settings} {db : TenantTables} {tenantID : String}

theorem ValidDoc.entries {doc : Json} (h : ValidDoc cfg doc) : ∃ es, doc = .obj es := by
  obtain ⟨tc,hdecode,hvalid⟩ := h
  cases doc with
  | obj es => exact ⟨es,rfl⟩
  | null =>
    cases hdecode
    cases hvalid
  | _ => cases hdecode

theorem tidy_asMap {order : Json.MapOrder} {data : Json} {es : Json.Entries}
    (h : asMap (normalizeConfigKeys order data) = some es) : Tidy (.obj es) := by
  have htidy := tidy_normalizeConfigKeys order data
  cases hdata : normalizeConfigKeys order data with
  | obj entries =>
    rw [hdata] at h htidy
    cases h
    exact htidy
  | null =>
    rw [hdata] at h
    cases h
    exact ⟨settled_nil,trivial⟩
  | _ =>
    rw [hdata] at h
    cases h

theorem Valid.read (h : Valid cfg tenantID db) (order : Json.MapOrder) {doc : Json} {version : Int}
    (hget : db.getTenantConfig order tenantID = some (doc,version)) :
    ∃ es, doc = .obj es ∧ Tidy (.obj es) ∧ ValidDoc cfg (.obj es) := by
  obtain ⟨doc',version',hget',hvalid⟩ := h order
  rw [hget] at hget'
  cases hget'
  obtain ⟨es,rfl⟩ := hvalid.entries
  obtain ⟨raw,hraw⟩ := TenantTables.get_normalized hget
  exact ⟨es,rfl,hraw ▸ tidy_normalizeConfigKeys order raw,hvalid⟩

theorem patchedTenantConfig_valid {es patch : Json.Entries} {order patchOrder : Json.MapOrder}
    {mergePatch doc : Json} (hvalid : ValidDoc cfg (.obj es)) (htidy : Tidy (.obj es))
    (hdoc : patchedTenantConfig patchOrder (.obj es) mergePatch = .ok doc)
    (hpatch : asMap (normalizeConfigKeys patchOrder mergePatch) = some patch)
    (hkeeps : PatchKeeps cfg es patch) : ValidDoc cfg (normalizeConfigKeys order doc) := by
  obtain ⟨current,patch',hcurrent,hpatch',rfl⟩ := patchedTenantConfig_ok hdoc
  cases hcurrent
  rw [hpatch] at hpatch'
  cases hpatch'
  rw [Tidy.normalizeConfigKeys_eq order _ (tidy_mergeMaps htidy (tidy_asMap hpatch))]
  exact patched_valid hvalid htidy (tidy_asMap hpatch) hkeeps

theorem valid_kept {r : Request} {doc : Json} (h : Valid cfg tenantID db)
    (hkeeps : KeepsValid cfg tenantID db r) (hwrites : Writes cfg db tenantID r doc)
    (order : Json.MapOrder) : ValidDoc cfg (normalizeConfigKeys order doc) := by
  cases hwrites with
  | put hcheck =>
    obtain ⟨j,hbody,hdecode,hvalid,_⟩ := checkPut_ok hcheck
    exact put_valid (hkeeps rfl _ (by simp [hbody,hdecode])) hvalid order
  | @patch readOrder patchOrder ifMatch body version mergePatch current doc hcheck hget hdoc =>
    obtain ⟨es,rfl,htidy,hvalid⟩ := h.read _ hget
    obtain ⟨_,patch,_,hpatch,_⟩ := patchedTenantConfig_ok hdoc
    have hbody := (checkPatch_ok hcheck).1
    refine patchedTenantConfig_valid hvalid htidy hdoc hpatch (hkeeps rfl es version patch hget ?_)
    rw [hbody]
    exact hpatch
  | @deleteRouteGroup _ readOrder patchOrder groupName version _ current doc _ _ _ _ hget hdoc =>
    obtain ⟨es,rfl,htidy,hvalid⟩ := h.read _ hget
    obtain ⟨hplain,hdefault⟩ := hkeeps rfl es version hget
    have hpatch : asMap (normalizeConfigKeys patchOrder (deletion groupName)) =
        some (deletionEntries (toSnakeCase groupName)) := by
      rw [normalize_deletion]
      rfl
    refine patchedTenantConfig_valid hvalid htidy hdoc hpatch ?_
    obtain ⟨tc,hdecode,hvalid⟩ := hvalid
    exact deletion_keeps ((validate_iff_docOk hdecode htidy hplain).mp hvalid) hplain hdefault

theorem stored_config_valid (cfg : Settings) {tenantID : String} {db db' : TenantTables}
    (rs : List Request) (hstart : Valid cfg tenantID db)
    (hkeeps : EveryStep (step cfg) (KeepsValid cfg tenantID) db rs)
    (hrun : exec (step cfg) db rs = some db') : Valid cfg tenantID db' := by
  refine exec_invariant_of_steps (step cfg) ?_ hstart hkeeps hrun
  intro db r next h hkeep hstep
  cases hstep
  have hexists : ∀ order, (db.getTenantConfig order tenantID).isSome := by
    intro order
    obtain ⟨doc,version,hget,_⟩ := h order
    simp [hget]
  rcases handle_spec cfg hexists r with hsame | ⟨doc,hwrites,version,hget⟩
  · intro order
    obtain ⟨doc,version,hget,hvalid⟩ := h order
    exact ⟨doc,version,(hsame order).trans hget,hvalid⟩
  · intro order
    exact ⟨_,version,hget order,valid_kept h hkeep hwrites order⟩

end Runs

def oneModel : Settings :=
  ⟨fun _ => none,fun name => if name = "gpt-4o" then some ⟨name,"openai","","",{},{},none⟩ else none,
    fun timezone => timezone = "UTC"⟩

def cheapTenant : tenantFields.Vals := tenantWithGroup "cheap"

theorem cheapTenant_keeps : PutKeeps cheapTenant :=
  ⟨by decide,⟨by decide,by decide,by decide⟩,by decide⟩

theorem cheapTenant_accepted : validate oneModel cheapTenant = .ok () := by decide

theorem stored_cheap_valid : Valid oneModel "acme" (storedWithGroup "cheap") := by
  intro order
  refine ⟨_,1,?_,put_valid cheapTenant_keeps cheapTenant_accepted order⟩
  exact TenantTables.get_after_put order (put_tenantWithGroup "cheap")

theorem get_stored_cheap (order : Json.MapOrder) :
    (storedWithGroup "cheap").getTenantConfig order "acme" =
      some (.obj (storedEntries order cheapTenant),1) := by
  have hstored : normalizeConfigKeys order (stripAPIKeys (tenantWithGroup "cheap")) =
      .obj (storedEntries order cheapTenant) := normalize_stripAPIKeys order cheapTenant
  rw [TenantTables.get_after_put order (put_tenantWithGroup "cheap"),hstored]

def raiseLimit : Request :=
  .patch "acme" keepOrder keepOrder (.version 1)
    (some (.obj [("rate_limit",.obj [("rpm",.num 120)])]))

theorem raised_limit_keeps_valid :
    ∃ db, exec (step oneModel) (storedWithGroup "cheap") [raiseLimit] = some db ∧
      Valid oneModel "acme" db := by
  refine ⟨_,rfl,stored_config_valid oneModel [raiseLimit] stored_cheap_valid ⟨?_,trivial⟩ rfl⟩
  intro _ es version patch hget hpatch
  rw [get_stored_cheap] at hget
  cases hget
  have hsent : patch = [("rate_limit",.obj [("rpm",.num 120)])] := (Option.some.inj hpatch).symm
  rw [hsent]
  obtain ⟨hdescribes,hgroups⟩ := describes_stored keepOrder cheapTenant_keeps.exactLimits
  refine ⟨plainDoc_stored keepOrder cheapTenant,⟨by decide,by decide⟩,by decide +kernel,rfl,?_,.inr ?_⟩
  · simp only [rules,List.forall_mem_cons]
    exact ⟨rfl,by decide,rfl,rfl,rfl,rfl,rfl,by simp⟩
  · rw [keepsGroup]
    refine List.contains_iff_mem.mpr ((hgroups _).mpr ⟨"cheap",by decide,?_⟩)
    exact hdescribes.routeGroup

def deleteCheap : Request := .deleteRouteGroup "acme" keepOrder keepOrder keepOrder "cheap"

def withoutCheap : Json.Entries :=
  mergeMaps (storedEntries keepOrder cheapTenant) (deletionEntries "cheap")

theorem handle_deleteCheap : handle oneModel (storedWithGroup "cheap") deleteCheap =
    ((storedWithGroup "cheap").setFlat "acme" ⟨2,.obj withoutCheap⟩,.ok 2) := by
  have hget := get_stored_cheap keepOrder
  have hdecode := (load_stripped_iff keepOrder cheapTenant).mpr cheap_kept
  rw [normalize_stripAPIKeys] at hdecode
  have hgroup : hasRouteGroup (withoutStripped cheapTenant) "cheap" = true := by decide
  have hpatch : (storedWithGroup "cheap").patchTenantConfig keepOrder keepOrder "acme" 1
      (deletion "cheap") =
        .ok ((storedWithGroup "cheap").setFlat "acme" ⟨2,.obj withoutCheap⟩,2) := by
    have hdoc : patchedTenantConfig keepOrder (.obj (storedEntries keepOrder cheapTenant))
        (deletion "cheap") = .ok (.obj withoutCheap) := by
      rw [patchedTenantConfig,normalize_deletion]
      rfl
    rw [TenantTables.patchTenantConfig,hget]
    simp only [ne_eq,not_true_eq_false,if_false]
    rw [hdoc]
    rfl
  rw [deleteCheap,handle,adminDeleteRouteGroup_found (by decide) hget hdecode hgroup,applyPatch,hpatch]

theorem deleted_default_group_invalid :
    Valid oneModel "acme" (storedWithGroup "cheap") ∧
      (handle oneModel (storedWithGroup "cheap") deleteCheap).2 = .ok 2 ∧
      ¬ Valid oneModel "acme" (handle oneModel (storedWithGroup "cheap") deleteCheap).1 := by
  rw [handle_deleteCheap]
  refine ⟨stored_cheap_valid,rfl,fun h => ?_⟩
  have hkey : toSnakeCase "cheap" = "cheap" := by decide
  have hget : ((storedWithGroup "cheap").setFlat "acme" ⟨2,.obj withoutCheap⟩).getTenantConfig keepOrder
      "acme" = some (normalizeConfigKeys keepOrder (.obj withoutCheap),2) := by
    simp [TenantTables.getTenantConfig,TenantTables.setFlat,storedWithGroup,TenantTables.empty]
  obtain ⟨es,hes,htidy,tc,hdecode,hvalid⟩ := h.read keepOrder hget
  have hstored := tidy_normalizeConfigKeys keepOrder (stripAPIKeys cheapTenant)
  rw [normalize_stripAPIKeys] at hstored
  have hmerged : Tidy (.obj withoutCheap) := tidy_mergeMaps hstored (deletion_tidy hkey)
  rw [Tidy.normalizeConfigKeys_eq keepOrder _ hmerged] at hes
  cases hes
  have hplain : PlainDoc withoutCheap :=
    (plainDoc_stored keepOrder cheapTenant).merge (deletion_plain "cheap") (deletion_tidy hkey)
  obtain ⟨hdescribes,hgroups⟩ := describes_stored keepOrder cheapTenant_keeps.exactLimits
  have hdefault : routeGroupOf (storedEntries keepOrder cheapTenant) = "cheap" :=
    hdescribes.routeGroup.symm
  exact deletion_of_default hkey (by decide) hdefault ((hgroups _).mpr ⟨"cheap",by decide,hkey⟩)
    ((validate_iff_docOk hdecode htidy hplain).mp hvalid)

end PrismGateway.Admin
