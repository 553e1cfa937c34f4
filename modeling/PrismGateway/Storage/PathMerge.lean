import PrismGateway.Lib.Paths
import PrismGateway.Storage.FieldMerge
import PrismGateway.Storage.GlobalVersions

namespace PrismGateway.Storage

open Lib Lib.Json Config.Schemas

def spares : Json → List String → Bool
  | .obj patch, k :: path => match patch.lookup k with
    | none => true
    | some j => spares j path
  | _, _ => false

theorem spares_obj (patch : Json.Entries) (k : String) (path : List String) :
    spares (.obj patch) (k :: path) = (patch.lookup k).elim true (fun j => spares j path) := by
  rw [spares]
  cases patch.lookup k <;> rfl

theorem read_of_spares {path : List String} : ∀ {j : Json}, spares j path = true → j.read path = none := by
  induction path with
  | nil =>
    intro j h
    cases j <;> cases h
  | cons k path ih =>
    intro j h
    cases j with
    | obj patch =>
      rw [spares_obj] at h
      rw [read_obj]
      cases hlookup : patch.lookup k with
      | none => rfl
      | some j =>
        rw [hlookup] at h
        exact ih h
    | _ => rfl

theorem mergeValue_of_ne_obj {j : Json} (hj : ∀ es, j ≠ .obj es) (o : Option Json) :
    mergeValue o j = j := by
  cases j with
  | obj es => exact absurd rfl (hj es)
  | _ => rw [mergeValue]; exact fun _ h => by cases h

section Merge

variable {path : List String}

theorem Tidy.nodup {patch : Json.Entries} (h : Tidy (.obj patch)) : (patch.map Prod.fst).Nodup :=
  h.1.sorted.nodup

theorem Tidy.of_lookup {es : Json.Entries} {k : String} {j : Json} (h : Tidy (.obj es))
    (hj : es.lookup k = some j) : Tidy j :=
  tidyEntries_iff.mp h.2 (k,j) (GoMap.mem_of_lookup hj)

theorem read_merge_spared : ∀ {o : Option Json} {j : Json}, Tidy j → spares j path = true →
    (mergeValue o j).read path = o.bind (fun x => x.read path) := by
  induction path with
  | nil =>
    intro o j _ hspares
    cases j <;> cases hspares
  | cons k path ih =>
    intro o j hj hspares
    cases j with
    | obj patch =>
      rcases mergeValue_obj o patch with ⟨es,rfl,hmerge⟩ | ⟨hne,hmerge⟩
      · rw [hmerge,Option.bind_some,read_obj,read_obj,lookup_mergeMaps hj.nodup]
        rw [spares_obj] at hspares
        cases hlookup : patch.lookup k with
        | none => rfl
        | some j =>
          rw [hlookup] at hspares
          have hmerged : merged (es.lookup k) j = some (mergeValue (es.lookup k) j) := by
            cases j with
            | null => cases path <;> cases hspares
            | _ => rfl
          rw [Option.elim_some,hmerged]
          exact ih (hj.of_lookup hlookup) hspares
      · rw [hmerge,read_of_spares hspares]
        cases o with
        | none => rfl
        | some x =>
          cases x with
          | obj es => exact absurd rfl (hne es)
          | _ => rfl
    | _ => cases hspares

theorem textOf_merge_named : ∀ {o : Option Json} {j : Json}, Tidy j → spares j path = false →
    textOf ((mergeValue o j).read path) = j.textAt path := by
  induction path with
  | nil =>
    intro o j _ _
    rw [textAt,read_nil,read_nil]
    cases j with
    | obj patch =>
      rcases mergeValue_obj o patch with ⟨es,_,hmerge⟩ | ⟨_,hmerge⟩
      · rw [hmerge]
        rfl
      · rw [hmerge]
    | _ => rw [mergeValue_of_ne_obj fun _ h => by cases h]
  | cons k path ih =>
    intro o j hj hnamed
    cases j with
    | obj patch =>
      rcases mergeValue_obj o patch with ⟨es,_,hmerge⟩ | ⟨_,hmerge⟩
      · rw [hmerge,textAt,read_obj,read_obj,lookup_mergeMaps hj.nodup]
        rw [spares_obj] at hnamed
        cases hlookup : patch.lookup k with
        | none =>
          rw [hlookup] at hnamed
          cases hnamed
        | some j =>
          rw [hlookup] at hnamed
          rw [Option.elim_some,Option.bind_some]
          cases j with
          | null => cases path <;> rfl
          | _ => exact ih (hj.of_lookup hlookup) hnamed
      · rw [hmerge]
        rfl
    | _ =>
      rw [mergeValue_of_ne_obj fun _ h => by cases h]
      rfl

theorem clear_of_tidy : ∀ {j : Json}, Tidy j → Clear toSnakeCase j path := by
  induction path with
  | nil => exact fun _ => clear_nil _ _
  | cons k path ih =>
    intro j hj
    cases j with
    | obj es =>
      refine ⟨⟨hj.1.sorted,?_⟩,fun j hlookup => ih (hj.of_lookup hlookup)⟩
      intro e he hkey
      rw [← hkey,hj.1.fixed e.1 (List.mem_map_of_mem he)]
    | _ => trivial

theorem clear_mergeValue : ∀ {o : Option Json} {j : Json}, (∀ x, o = some x → Clear toSnakeCase x path) →
    Tidy j → Clear toSnakeCase (mergeValue o j) path := by
  induction path with
  | nil => exact fun _ _ => clear_nil _ _
  | cons k path ih =>
    intro o j ho hj
    cases j with
    | obj patch =>
      rcases mergeValue_obj o patch with ⟨es,rfl,hmerge⟩ | ⟨_,hmerge⟩
      · have hes := ho _ rfl
        rw [hmerge]
        refine ⟨⟨sorted_mergeMaps hes.1.sorted patch,?_⟩,?_⟩
        · intro e he hkey
          rcases mem_keys_mergeMaps (List.mem_map_of_mem he) with hmem | hmem
          · obtain ⟨e',he',heq⟩ := List.mem_map.mp hmem
            rw [← heq] at hkey ⊢
            exact hes.1.alone e' he' hkey
          · rw [← hkey,hj.1.fixed e.1 hmem]
        · intro j hlookup
          rw [lookup_mergeMaps hj.nodup] at hlookup
          cases hpatch : patch.lookup k with
          | none =>
            rw [hpatch] at hlookup
            exact hes.2 j hlookup
          | some x =>
            rw [hpatch,Option.elim_some] at hlookup
            cases x with
            | null => cases hlookup
            | _ =>
              cases hlookup
              exact ih (fun x hx => hes.2 x hx) (hj.of_lookup hpatch)
      · rw [hmerge]
        exact clear_of_tidy hj
    | _ =>
      rw [mergeValue_of_ne_obj fun _ h => by cases h]
      exact clear_of_tidy hj

end Merge

theorem Tidy.of_read {path : List String} : ∀ {j x : Json}, Tidy j → j.read path = some x → Tidy x := by
  induction path with
  | nil =>
    intro j x hj hx
    rw [read_nil] at hx
    exact Option.some.inj hx ▸ hj
  | cons k path ih =>
    intro j x hj hx
    cases j with
    | obj es =>
      obtain ⟨y,hy,hx⟩ := Option.bind_eq_some_iff.mp hx
      exact ih (hj.of_lookup hy) hx
    | _ => cases hx

theorem Tidy.lookup_eq_none {es : Json.Entries} {k : String} (h : Tidy (.obj es))
    (hk : (GoStrings.runes k).any isUpper = true) : es.lookup k = none := by
  rw [← Option.not_isSome_iff_eq_none,GoMap.isSome_lookup_iff]
  exact fun hmem => toSnakeCase_ne hk k (h.1.fixed k hmem)

section Finalize

variable (order : Json.MapOrder) (doc : Json)

theorem read_canonicalized (doc : Json) (p : String) :
    (canonicalizeGlobalConfigProviders (canonicalizeGlobalConfigModels doc)).read ["providers",p] =
      (doc.read ["providers",p]).map canonicalizeProvider := by
  cases doc with
  | obj root =>
    simp only [canonicalizeGlobalConfigModels,canonicalizeGlobalConfigProviders]
    rw [amend_amend,read_amend,read_obj]
    cases root.lookup "providers" with
    | none => rfl
    | some j =>
      change (canonicalizeProviders j).read [p] = (j.read [p]).map canonicalizeProvider
      cases j with
      | obj provMap =>
        rw [canonicalizeProviders,read_amend,read_obj]
        cases provMap.lookup p with
        | none => rfl
        | some entry =>
          rw [Option.bind_some,Option.bind_some,read_nil,read_nil]
          rfl
      | _ => rfl
  | _ => rfl

theorem read_finalize (p : String) :
    (finalizeGlobalConfigJSON order doc).read ["providers",p] =
      ((normalizeConfigKeys order doc).read ["providers",p]).map canonicalizeProvider :=
  read_canonicalized _ p

def awsNames : List (String × String) :=
  [("AwsAccessKeyID","aws_access_key_id"),("AwsSecretAccessKey","aws_secret_access_key"),
   ("AwsRegion","aws_region")]

theorem textAt_encode_provider {v : providerFields.Vals} {g : Tag} {t : String}
    (hi : ⟨g,.str,t⟩ ∈ providerFields.items v) (hd : g.dash = false) :
    (providerConfig.encode v).textAt [g.name] = t := by
  have hlookup : (written providerFields v).lookup g.name = (Item.held ⟨g,.str,t⟩).head? :=
    lookup_written (by decide) hi hd
  have hread : (providerConfig.encode v).read [g.name] = (Item.held ⟨g,.str,t⟩).head? := by
    rw [← hlookup]
    change ((written providerFields v).lookup g.name).bind (fun j => j.read []) = _
    cases (written providerFields v).lookup g.name with
    | none => rfl
    | some j => exact read_nil j
  rw [textAt,hread,Item.held]
  split_ifs with hsent
  · rfl
  · have hempty : String.isEmpty t = true := by
      simp only [Item.sent,hd,Bool.false_or,Bool.not_eq_true,Bool.not_eq_false',
        Bool.and_eq_true] at hsent
      exact hsent.2
    rw [String.isEmpty_iff.mp hempty]
    rfl

theorem stringField_tidy {m : Json.Entries} (h : Tidy (.obj m)) {legacy name : String}
    (hlegacy : (GoStrings.runes legacy).any isUpper = true) :
    stringFieldFromMap m [legacy,name] = (Json.obj m).textAt [name] := by
  rw [textAt,read_obj,stringFieldFromMap,h.lookup_eq_none hlegacy,stringFieldFromMap]
  cases m.lookup name with
  | none => rfl
  | some j =>
    rw [Option.bind_some,read_nil]
    cases j <;> rfl

theorem textAt_canonicalizeProvider {m : Json.Entries} (h : Tidy (.obj m)) {legacy name : String}
    (hname : (legacy,name) ∈ awsNames) :
    (canonicalizeProvider (.obj m)).textAt [name] = (Json.obj m).textAt [name] := by
  rw [canonicalizeProvider,canonicalizeProviderConfigMap]
  split_ifs
  · rfl
  · simp only [awsNames,List.mem_cons,Prod.mk.injEq,List.not_mem_nil,or_false] at hname
    rcases hname with ⟨rfl,rfl⟩ | ⟨rfl,rfl⟩ | ⟨rfl,rfl⟩
    · refine (textAt_encode_provider (g := { name := "aws_access_key_id",omitempty := true })
        (.tail _ (.tail _ (.tail _ (.tail _ (.tail _ (.head _)))))) rfl).trans ?_
      exact stringField_tidy h (by decide)
    · refine (textAt_encode_provider (g := { name := "aws_secret_access_key",omitempty := true })
        (.tail _ (.tail _ (.tail _ (.tail _ (.tail _ (.tail _ (.head _))))))) rfl).trans ?_
      exact stringField_tidy h (by decide)
    · refine (textAt_encode_provider (g := { name := "aws_region",omitempty := true })
        (.tail _ (.tail _ (.tail _ (.tail _ (.tail _ (.tail _ (.tail _ (.head _)))))))) rfl).trans ?_
      exact stringField_tidy h (by decide)

theorem fixed_awsNames {legacy name : String} (hname : (legacy,name) ∈ awsNames) :
    toSnakeCase name = name := by
  have hall : ∀ n ∈ awsNames, toSnakeCase n.2 = n.2 := by decide
  exact hall _ hname

theorem fixed_path {legacy name p : String} (hname : (legacy,name) ∈ awsNames)
    (hp : toSnakeCase p = p) : ∀ k ∈ ["providers",p,name], toSnakeCase k = k := by
  intro k hk
  simp only [List.mem_cons,List.not_mem_nil,or_false] at hk
  rcases hk with rfl | rfl | rfl
  · decide
  · exact hp
  · exact fixed_awsNames hname

theorem textAt_provider (doc : Json) (p name : String) :
    doc.textAt ["providers",p,name] =
      textOf ((doc.read ["providers",p]).bind (fun x => x.read [name])) :=
  congrArg textOf (read_append doc ["providers",p] [name])

theorem textAt_finalize {legacy name p : String} (hname : (legacy,name) ∈ awsNames)
    (hp : toSnakeCase p = p) (hclear : Clear toSnakeCase doc ["providers",p,name]) :
    (finalizeGlobalConfigJSON order doc).textAt ["providers",p,name] =
      doc.textAt ["providers",p,name] := by
  have hnormal : (normalizeConfigKeys order doc).textAt ["providers",p,name] =
      doc.textAt ["providers",p,name] := textAt_rekey order.perm (fixed_path hname hp) hclear
  rw [← hnormal,textAt_provider,textAt_provider,read_finalize]
  cases hentry : (normalizeConfigKeys order doc).read ["providers",p] with
  | none => rfl
  | some entry =>
    have htidy := (tidy_normalizeConfigKeys order doc).of_read hentry
    cases entry with
    | obj m => exact textAt_canonicalizeProvider htidy hname
    | _ => rfl

theorem textAt_finalize_apiKey (p : String) :
    (finalizeGlobalConfigJSON order doc).textAt ["providers",p,"api_key"] = "" := by
  rw [textAt_provider,read_finalize]
  cases (normalizeConfigKeys order doc).read ["providers",p] with
  | none => rfl
  | some entry =>
    cases entry with
    | obj m =>
      rw [Option.map_some,Option.bind_some,canonicalizeProvider,canonicalizeProviderConfigMap]
      split_ifs with hempty
      · rw [List.isEmpty_iff.mp hempty]
        rfl
      · exact textAt_encode_provider (g := { name := "api_key",omitempty := true })
          (.tail _ (.tail _ (.tail _ (.tail _ (.head _))))) rfl
    | _ => rfl

theorem read_normalized_foreign {p : String} (hp : toSnakeCase p ≠ p) :
    (normalizeConfigKeys order doc).read ["providers",p] = none := by
  cases hproviders : (normalizeConfigKeys order doc).read ["providers"] with
  | none =>
    rw [show ["providers",p] = ["providers"] ++ [p] from rfl,read_append,hproviders]
    rfl
  | some providers =>
    rw [show ["providers",p] = ["providers"] ++ [p] from rfl,read_append,hproviders]
    have htidy := (tidy_normalizeConfigKeys order doc).of_read hproviders
    cases providers with
    | obj es =>
      rw [Option.bind_some,read_obj]
      cases hlookup : es.lookup p with
      | none => rfl
      | some j =>
        have hmem : p ∈ es.map Prod.fst := List.mem_map_of_mem (GoMap.mem_of_lookup hlookup)
        exact absurd (htidy.1.fixed p hmem) hp
    | _ => rfl

theorem textAt_finalize_foreign {p : String} (hp : toSnakeCase p ≠ p) (name : String) :
    (finalizeGlobalConfigJSON order doc).textAt ["providers",p,name] = "" := by
  rw [textAt_provider,read_finalize,read_normalized_foreign order doc hp]
  rfl

theorem clear_canonicalizeProvider {m : Json.Entries} (h : Tidy (.obj m)) {legacy name : String}
    (hname : (legacy,name) ∈ awsNames) : Clear toSnakeCase (canonicalizeProvider (.obj m)) [name] := by
  rw [canonicalizeProvider,canonicalizeProviderConfigMap]
  split_ifs
  · exact clear_of_tidy h
  · refine ⟨⟨GoMap.sorted_ofList _,?_⟩,fun j _ => clear_nil _ j⟩
    intro e he hkey
    have hmem : e.1 ∈ providerFields.names := keys_written (List.mem_map_of_mem he)
    have hall : ∀ n ∈ awsNames, ∀ k ∈ providerFields.names, toSnakeCase k = n.2 → k = n.2 := by
      decide
    exact hall _ hname _ hmem hkey

theorem clear_finalize {legacy name : String} (p : String) (hname : (legacy,name) ∈ awsNames) :
    Clear toSnakeCase (finalizeGlobalConfigJSON order doc) ["providers",p,name] := by
  have htidy := tidy_normalizeConfigKeys order doc
  rw [finalizeGlobalConfigJSON]
  cases hnormal : normalizeConfigKeys order doc with
  | obj root =>
    rw [hnormal] at htidy
    simp only [canonicalizeGlobalConfigModels,canonicalizeGlobalConfigProviders]
    rw [amend_amend]
    have hclear : Clear toSnakeCase (.obj root) ["providers"] := clear_of_tidy htidy
    refine clear_amend hclear.1 fun j hj => ?_
    have hproviders := htidy.of_lookup hj
    change Clear toSnakeCase (canonicalizeProviders j) [p,name]
    cases j with
    | obj provMap =>
      rw [canonicalizeProviders]
      have hclear : Clear toSnakeCase (.obj provMap) [p] := clear_of_tidy hproviders
      refine clear_amend hclear.1 fun entry hentry => ?_
      have hentry := hproviders.of_lookup hentry
      cases entry with
      | obj m => exact clear_canonicalizeProvider hentry hname
      | _ => trivial
    | _ => trivial
  | _ => trivial

theorem patchedConfig_ok {orders : Json.MapOrder × Json.MapOrder} {current mergePatch final : Json}
    (h : Global.patchedConfig orders current mergePatch = .ok final) :
    ∃ es patch, asMap current = some es ∧
      asMap (normalizeConfigKeys orders.1 mergePatch) = some patch ∧
      final = finalizeGlobalConfigJSON orders.2 (.obj (mergeMaps es patch)) := by
  rw [Global.patchedConfig] at h
  cases hcurrent : asMap current with
  | none =>
    rw [hcurrent] at h
    cases h
  | some es =>
    cases hpatch : asMap (normalizeConfigKeys orders.1 mergePatch) with
    | none =>
      rw [hcurrent,hpatch] at h
      cases h
    | some patch =>
      rw [hcurrent,hpatch] at h
      cases h
      exact ⟨es,patch,rfl,rfl,rfl⟩

theorem textAt_asMap {es : Json.Entries} (h : asMap doc = some es) (k : String) (path : List String) :
    (Json.obj es).textAt (k :: path) = doc.textAt (k :: path) := by
  cases doc with
  | obj entries =>
    cases h
    rfl
  | null =>
    cases h
    rfl
  | _ => cases h

theorem clear_asMap {es : Json.Entries} (h : asMap doc = some es) {k : String} {path : List String}
    (hclear : Clear toSnakeCase doc (k :: path)) : Clear toSnakeCase (.obj es) (k :: path) := by
  cases doc with
  | obj entries =>
    cases h
    exact hclear
  | null =>
    cases h
    exact ⟨⟨List.Pairwise.nil,by simp⟩,fun j hj => (by cases hj)⟩
  | _ => cases h

theorem textAt_patched {orders : Json.MapOrder × Json.MapOrder} {mergePatch final : Json}
    {patch : Json.Entries} (h : Global.patchedConfig orders doc mergePatch = .ok final)
    (hpatch : asMap (normalizeConfigKeys orders.1 mergePatch) = some patch) {legacy name p : String}
    (hname : (legacy,name) ∈ awsNames) (hp : toSnakeCase p = p)
    (hclear : Clear toSnakeCase doc ["providers",p,name]) :
    final.textAt ["providers",p,name] =
      if spares (.obj patch) ["providers",p,name] then doc.textAt ["providers",p,name]
      else (Json.obj patch).textAt ["providers",p,name] := by
  obtain ⟨es,patch',hes,hpatch',rfl⟩ := patchedConfig_ok h
  cases hpatch.symm.trans hpatch'
  have htidy : Tidy (.obj patch) := tidy_of_asMap hpatch (tidy_normalizeConfigKeys _ _)
  have hmerge : mergeValue (some (.obj es)) (.obj patch) = .obj (mergeMaps es patch) := by
    rw [mergeValue]
  have hmerged : Clear toSnakeCase (.obj (mergeMaps es patch)) ["providers",p,name] := by
    rw [← hmerge]
    refine clear_mergeValue ?_ htidy
    intro x hx
    cases hx
    exact clear_asMap doc hes hclear
  rw [textAt_finalize orders.2 _ hname hp hmerged,← hmerge]
  split_ifs with hspares
  · rw [textAt,read_merge_spared htidy hspares,Option.bind_some]
    exact textAt_asMap doc hes "providers" [p,name]
  · exact textOf_merge_named htidy (by simpa using hspares)

end Finalize

section Stripped

variable {gc : globalFields.Vals}

theorem lookup_encoded_providers : (written globalFields gc).lookup "providers" =
    some ((table providerConfig).encode gc.2.1) := by
  have hi : (⟨{ name := "providers" },table providerConfig,gc.2.1⟩ : Item) ∈ globalFields.items gc :=
    .tail _ (.head _)
  exact lookup_written (by decide) hi rfl

def providerAt (providers : Option {l : List (String × providerConfig.Val) // GoMap.Sorted l})
    (p : String) : Option providerConfig.Val :=
  providers.bind (fun m => m.val.lookup p)

theorem read_encoded_provider (gc : globalFields.Vals) (p : String) :
    (globalConfig.encode gc).read ["providers",p] =
      (providerAt gc.2.1 p).map providerConfig.encode := by
  change ((written globalFields gc).lookup "providers").bind (fun j => j.read [p]) = _
  rw [lookup_encoded_providers,Option.bind_some]
  generalize gc.2.1 = providers
  change (Option {l : List (String × providerConfig.Val) // GoMap.Sorted l}) at providers
  cases providers with
  | none => rfl
  | some m =>
    change (Json.obj (m.val.map (fun e => (e.1,providerConfig.encode e.2)))).read [p] = _
    rw [read_obj,GoMap.lookup_map,providerAt,Option.bind_some]
    cases m.val.lookup p with
    | none => rfl
    | some v =>
      rw [Option.map_some,Option.bind_some,read_nil]

theorem textAt_stripped (gc : globalConfig.Val) (p : String) :
    (globalConfig.encode (stripProviderSecretsForStorage gc)).textAt
      ["providers",p,"aws_secret_access_key"] = "" := by
  obtain ⟨auth,providers,rest⟩ := gc
  rw [textAt_provider]
  refine (congrArg (fun o => textOf (o.bind (fun x => x.read ["aws_secret_access_key"])))
    (read_encoded_provider (auth,Option.map stripProviders providers,rest) p)).trans ?_
  cases providers with
  | none => rfl
  | some m =>
    change textOf ((((stripProviders m).val.lookup p).map providerConfig.encode).bind
      (fun x => x.read ["aws_secret_access_key"])) = ""
    rw [stripProviders,GoMap.lookup_map]
    cases m.val.lookup p with
    | none => rfl
    | some v =>
      exact textAt_encode_provider (v := stripSecrets v)
        (g := { name := "aws_secret_access_key",omitempty := true })
        (.tail _ (.tail _ (.tail _ (.tail _ (.tail _ (.tail _ (.head _))))))) rfl

end Stripped

end PrismGateway.Storage
