import PrismGateway.Config.GlobalSchema
import PrismGateway.Storage.Normalize

namespace PrismGateway.Storage

open Lib Config.Schemas

def canonicalizeModel : Json → Json
  | .obj m =>
    let named := if (m.lookup "provider_model_id").isSome then m
      else match m.lookup "ProviderModelID" with
        | some v => GoMap.insert "provider_model_id" v m
        | none => m
    .obj (GoMap.erase "ProviderModelID" named)
  | item => item

def canonicalizeModels : Json → Json
  | .arr items => .arr (items.map canonicalizeModel)
  | j => j

def canonicalizeGlobalConfigModels : Json → Json
  | .obj root => .obj (amend (fun k j => if k = "models" then canonicalizeModels j else j) root)
  | j => j

def stringFieldFromMap (m : Json.Entries) : List String → String
  | [] => ""
  | k :: keys => match m.lookup k with
    | some (.str s) => s
    | _ => stringFieldFromMap m keys

def boolPtrFromMap (m : Json.Entries) : List String → Option Bool
  | [] => none
  | k :: keys => match m.lookup k with
    | some (.bool b) => some b
    | some (.num x) => some (x != 0)
    | _ => boolPtrFromMap m keys

def providerConfigFromFlexibleMap (m : Json.Entries) : providerConfig.Val :=
  (stringFieldFromMap m ["Type","type"],
   stringFieldFromMap m ["BaseURL","base_url"],
   stringFieldFromMap m ["APIKeyEnv","api_key_env"],
   boolPtrFromMap m ["Enabled","enabled"],
   "",
   stringFieldFromMap m ["AwsAccessKeyID","aws_access_key_id"],
   stringFieldFromMap m ["AwsSecretAccessKey","aws_secret_access_key"],
   stringFieldFromMap m ["AwsRegion","aws_region"],
   ())

def canonicalizeProviderConfigMap (m : Json.Entries) : Json :=
  if m.isEmpty then .obj m else providerConfig.encode (providerConfigFromFlexibleMap m)

def canonicalizeProvider : Json → Json
  | .obj m => canonicalizeProviderConfigMap m
  | entry => entry

def canonicalizeProviders : Json → Json
  | .obj provMap => .obj (amend (fun _ entry => canonicalizeProvider entry) provMap)
  | j => j

def canonicalizeGlobalConfigProviders : Json → Json
  | .obj root => .obj (amend (fun k j => if k = "providers" then canonicalizeProviders j else j) root)
  | j => j

def finalizeGlobalConfigJSON (order : Json.MapOrder) (data : Json) : Json :=
  canonicalizeGlobalConfigProviders (canonicalizeGlobalConfigModels (normalizeConfigKeys order data))

def stripSecrets : providerConfig.Val → providerConfig.Val
  | (type,baseURL,apiKeyEnv,enabled,_,accessKeyID,_,region,_) =>
    (type,baseURL,apiKeyEnv,enabled,"",accessKeyID,"",region,())

def stripProviders (m : (Schema.dict providerConfig).Val) : (Schema.dict providerConfig).Val :=
  ⟨m.val.map (fun e => (e.1,stripSecrets e.2)),m.property.map _⟩

def stripProviderSecretsForStorage : globalConfig.Val → globalConfig.Val
  | (auth,providers,rest) => (auth,Option.map stripProviders providers,rest)

def globalDocument : Document toSnakeCase where
  schema := globalConfig
  fits := by decide

theorem toSnakeCase_ne {k : String} (h : (GoStrings.runes k).any isUpper = true) (m : String) :
    toSnakeCase m ≠ k := by
  intro heq
  obtain ⟨r,hr,hupper⟩ := List.any_eq_true.mp h
  rw [← heq,GoStrings.runes_eq_toList] at hr
  rw [isUpper_toSnakeCase m r hr] at hupper
  cases hupper

theorem canonicalizeModel_rekey (order : Json.MapOrder) (j : Json) :
    canonicalizeModel (Json.rekey toSnakeCase order.iter j) = Json.rekey toSnakeCase order.iter j := by
  cases j with
  | obj es =>
    have habsent : ∀ e ∈ Json.arrivals toSnakeCase order.iter es, e.1 ≠ "ProviderModelID" := by
      intro e he heq
      obtain ⟨e',_,h⟩ := (Json.mem_keys_arrivals order.perm).mp (List.mem_map_of_mem he)
      exact toSnakeCase_ne (by decide) e'.1 (h.trans heq)
    have hnone : (Json.arrivals toSnakeCase order.iter es).lookup "ProviderModelID" = none := by
      rw [List.lookup_eq_none_iff]
      exact fun e he => bne_iff_ne.mpr (Ne.symm (habsent e he))
    have herase : GoMap.erase "ProviderModelID" (Json.arrivals toSnakeCase order.iter es) =
        Json.arrivals toSnakeCase order.iter es :=
      List.filter_eq_self.mpr fun e he => decide_eq_true (habsent e he)
    rw [Json.rekey_obj]
    simp only [canonicalizeModel,hnone,ite_self,herase]
  | arr items =>
    rw [Json.rekey_arr]
    rfl
  | _ => rfl

theorem canonicalizeModels_rekey (order : Json.MapOrder) (j : Json) :
    canonicalizeModels (Json.rekey toSnakeCase order.iter j) = Json.rekey toSnakeCase order.iter j := by
  cases j with
  | obj es =>
    rw [Json.rekey_obj]
    rfl
  | arr items =>
    rw [Json.rekey_arr,canonicalizeModels,List.map_map]
    exact congrArg Json.arr (List.map_congr_left fun j _ => canonicalizeModel_rekey order j)
  | _ => rfl

def dropAPIKey : providerConfig.Val → providerConfig.Val
  | (type,baseURL,apiKeyEnv,enabled,_,accessKeyID,secretAccessKey,region,_) =>
    (type,baseURL,apiKeyEnv,enabled,"",accessKeyID,secretAccessKey,region,())

section Provider

variable (order : Json.MapOrder) (p : providerFields.Vals)

def providerEntries : Json.Entries := incoming toSnakeCase order.iter [] (providerFields.emit p)

theorem providerFields_fits : structFits toSnakeCase [] providerFields.names = true := by
  decide

theorem rekey_provider :
    Json.rekey toSnakeCase order.iter (providerConfig.encode p) = .obj (providerEntries order p) :=
  Json.rekey_obj _

variable {p}

theorem lookup_providerEntries {i : Item} (hi : i ∈ providerFields.items p) (hd : i.tag.dash = false) :
    (providerEntries order p).lookup (toSnakeCase i.tag.name) =
      (if i.sent then some (i.schema.encode i.val) else none).map (Json.rekey toSnakeCase order.iter) := by
  have hnodup : providerFields.names.Nodup := by decide
  have hsublist := providerFields.emit_sublist p
  exact lookup_incoming order.perm providerFields_fits hsublist.subset (hsublist.nodup hnodup)
    (Fields.mem_names_of_mem_items hi hd) (Fields.filter_emit hnodup hi hd)

variable {order}

theorem lookup_providerEntries_capital {k : String} (h : (GoStrings.runes k).any isUpper = true) :
    (providerEntries order p).lookup k = none :=
  lookup_incoming_eq_none order.perm (toSnakeCase_ne h)

theorem stringField_provider {tag : Tag} {t legacy name : String}
    (hi : ⟨tag,.str,t⟩ ∈ providerFields.items p) (hd : tag.dash = false)
    (hlegacy : (GoStrings.runes legacy).any isUpper = true) (hname : toSnakeCase tag.name = name) :
    stringFieldFromMap (providerEntries order p) [legacy,name] = t := by
  have hlookup := lookup_providerEntries order hi hd
  rw [hname] at hlookup
  simp only [stringFieldFromMap,lookup_providerEntries_capital hlegacy,hlookup]
  cases hs : Item.sent ⟨tag,.str,t⟩ with
  | true =>
    have henc : Schema.encode .str t = .str t := rfl
    simp [henc]
  | false =>
    have hempty : String.isEmpty t = true := by
      simp only [Item.sent,hd,Bool.false_or,Bool.not_eq_false',Bool.and_eq_true] at hs
      exact hs.2
    simp [String.isEmpty_iff.mp hempty]

theorem boolPtr_provider {tag : Tag} {b : Option Bool} {legacy name : String}
    (hi : ⟨tag,.ptr .bool,b⟩ ∈ providerFields.items p) (hd : tag.dash = false)
    (hreq : tag.omitempty = false) (hlegacy : (GoStrings.runes legacy).any isUpper = true)
    (hname : toSnakeCase tag.name = name) :
    boolPtrFromMap (providerEntries order p) [legacy,name] = b := by
  have hlookup := lookup_providerEntries order hi hd
  have hsent : Item.sent ⟨tag,.ptr .bool,b⟩ = true := by simp [Item.sent,hd,hreq]
  rw [if_pos hsent,hname] at hlookup
  cases b with
  | none =>
    have hnull : (providerEntries order p).lookup name = some .null :=
      hlookup.trans (congrArg some Json.rekey_null)
    simp [boolPtrFromMap,lookup_providerEntries_capital hlegacy,hnull]
  | some b =>
    have hbool : (providerEntries order p).lookup name = some (.bool b) :=
      hlookup.trans (congrArg some (Json.rekey_bool b))
    simp [boolPtrFromMap,lookup_providerEntries_capital hlegacy,hbool]

theorem flexible_provider :
    providerConfigFromFlexibleMap (providerEntries order p) = dropAPIKey p := by
  obtain ⟨type,baseURL,apiKeyEnv,enabled,apiKey,accessKeyID,secretAccessKey,region,_⟩ := p
  refine Prod.ext (stringField_provider (.head _) rfl ?_ ?_) <|
    Prod.ext (stringField_provider (.tail _ (.head _)) rfl ?_ ?_) <|
    Prod.ext (stringField_provider (.tail _ (.tail _ (.head _))) rfl ?_ ?_) <|
    Prod.ext (boolPtr_provider (.tail _ (.tail _ (.tail _ (.head _)))) rfl rfl ?_ ?_) <|
    Prod.ext rfl <|
    Prod.ext (stringField_provider
      (.tail _ (.tail _ (.tail _ (.tail _ (.tail _ (.head _)))))) rfl ?_ ?_) <|
    Prod.ext (stringField_provider
      (.tail _ (.tail _ (.tail _ (.tail _ (.tail _ (.tail _ (.head _))))))) rfl ?_ ?_) <|
    Prod.ext (stringField_provider
      (.tail _ (.tail _ (.tail _ (.tail _ (.tail _ (.tail _ (.tail _ (.head _)))))))) rfl ?_ ?_) rfl
  all_goals decide

theorem canonicalizeProvider_rekey :
    canonicalizeProvider (Json.rekey toSnakeCase order.iter (providerConfig.encode p)) =
      providerConfig.encode (dropAPIKey p) := by
  have hsome : (providerEntries order p).lookup (toSnakeCase "Type") = some (.str p.1) :=
    (lookup_providerEntries order (.head _) rfl).trans (congrArg some (Json.rekey_str p.1))
  have hne : (providerEntries order p).isEmpty = false := by
    cases h : providerEntries order p with
    | nil =>
      rw [h] at hsome
      cases hsome
    | cons e es => rfl
  rw [rekey_provider,canonicalizeProvider,canonicalizeProviderConfigMap,hne,flexible_provider]
  rfl

theorem decode_encode_provider (p : providerConfig.Val) :
    providerConfig.decode (providerConfig.encode p) providerConfig.zero = some p := by
  refine (Schema.decode_encode_iff (by decide) (by decide) p).mpr ?_
  exact ⟨trivial,trivial,trivial,fun _ _ => trivial,trivial,trivial,trivial,trivial,trivial⟩

end Provider

section Providers

variable (order : Json.MapOrder)

def canonicalEntries (l : List (String × providerConfig.Val)) : Json.Entries :=
  amend (fun _ entry => canonicalizeProvider entry)
    (Json.arrivals toSnakeCase order.iter (l.map (fun e => (e.1,providerConfig.encode e.2))))

theorem keys_amend (f : String → Json → Json) (es : Json.Entries) :
    (amend f es).map Prod.fst = es.map Prod.fst := by
  rw [amend,List.map_map]
  rfl

theorem sorted_canonicalEntries (l : List (String × providerConfig.Val)) :
    GoMap.Sorted (canonicalEntries order l) :=
  (Json.sorted_arrivals _).map (fun e => canonicalizeProvider e.2)

theorem canonicalEntries_of_fixed {l : List (String × providerConfig.Val)} (hs : GoMap.Sorted l)
    (hfixed : ∀ e ∈ l, toSnakeCase e.1 = e.1) :
    canonicalEntries order l =
      (l.map (fun e => (e.1,dropAPIKey e.2))).map (fun e => (e.1,providerConfig.encode e.2)) := by
  have hfixed' : ∀ e ∈ l.map (fun e => (e.1,providerConfig.encode e.2)), toSnakeCase e.1 = e.1 := by
    intro e he
    obtain ⟨e',he',rfl⟩ := List.mem_map.mp he
    exact hfixed e' he'
  rw [canonicalEntries,Json.arrivals_eq_of_fixed order.perm (hs.map _) hfixed',amend,List.map_map,
    List.map_map,List.map_map]
  exact List.map_congr_left fun e _ => congrArg (Prod.mk e.1) canonicalizeProvider_rekey

theorem decode_canonicalEntries_iff (m : {l : List (String × providerConfig.Val) // GoMap.Sorted l}) :
    (∃ m', (Schema.dict providerConfig).decode (.obj (canonicalEntries order m.val))
        (⟨[],List.Pairwise.nil⟩ : {l // GoMap.Sorted l}) = some m' ∧
          stripProviders m' = stripProviders m) ↔
      ∀ e ∈ m.val, toSnakeCase e.1 = e.1 := by
  constructor
  · rintro ⟨m',hdecode,hstrip⟩ e he
    have hmap := (decode_dict_eq_some (sorted_canonicalEntries order m.val) m').mp hdecode
    have hback := keys_mapM (g := fun j => providerConfig.decode j providerConfig.zero) hmap
    have hsame : m'.val.map Prod.fst = m.val.map Prod.fst := by
      have h := congrArg (fun x => x.val.map Prod.fst) hstrip
      simpa [stripProviders,List.map_map,Function.comp_def] using h
    have hmem : e.1 ∈ m.val.map Prod.fst := List.mem_map_of_mem he
    rw [← hsame,hback,canonicalEntries,keys_amend,Json.mem_keys_arrivals order.perm] at hmem
    obtain ⟨e',_,heq⟩ := hmem
    rw [← heq,toSnakeCase_idempotent]
  · intro hfixed
    refine ⟨⟨m.val.map (fun e => (e.1,dropAPIKey e.2)),m.property.map _⟩,?_,?_⟩
    · refine (decode_dict_eq_some (sorted_canonicalEntries order m.val) _).mpr ?_
      rw [canonicalEntries_of_fixed order m.property hfixed,mapM_map_eq_some]
      intro e _
      rw [decode_encode_provider]
      rfl
    · refine Subtype.ext ?_
      simp only [stripProviders,List.map_map]
      exact List.map_congr_left fun e _ => rfl

theorem decode_providers_iff (providers : Option {l : List (String × providerConfig.Val) // GoMap.Sorted l}) :
    (∃ providers', (table providerConfig).decode (canonicalizeProviders
        (Json.rekey toSnakeCase order.iter ((table providerConfig).encode providers))) none =
          some providers' ∧ Option.map stripProviders providers' = Option.map stripProviders providers) ↔
      ∀ m, providers = some m → ∀ e ∈ m.val, toSnakeCase e.1 = e.1 := by
  cases providers with
  | none => exact ⟨fun _ m hm => (by cases hm),fun _ => ⟨none,rfl,rfl⟩⟩
  | some m =>
    have hdecode : (table providerConfig).decode (canonicalizeProviders
        (Json.rekey toSnakeCase order.iter ((table providerConfig).encode (some m)))) none =
        ((Schema.dict providerConfig).decode (.obj (canonicalEntries order m.val))
          (⟨[],List.Pairwise.nil⟩ : {l // GoMap.Sorted l})).map some :=
      congrArg (fun j => (table providerConfig).decode (canonicalizeProviders j) none)
        (Json.rekey_obj _)
    have hall : (∀ m', some m = some m' → ∀ e ∈ m'.val, toSnakeCase e.1 = e.1) ↔
        ∀ e ∈ m.val, toSnakeCase e.1 = e.1 :=
      ⟨fun h => h m rfl,fun h m' hm => Option.some.inj hm ▸ h⟩
    rw [hall,← decode_canonicalEntries_iff order m]
    constructor
    · rintro ⟨providers',h,hstrip⟩
      obtain ⟨m',hm',rfl⟩ := Option.map_eq_some_iff.mp (hdecode.symm.trans h)
      exact ⟨m',hm',Option.some.inj hstrip⟩
    · rintro ⟨m',hm',hstrip⟩
      exact ⟨some m',hdecode.trans (Option.map_eq_some_iff.mpr ⟨m',hm',rfl⟩),congrArg some hstrip⟩

end Providers

def finalForm (k : String) (j : Json) : Json :=
  if k = "providers" then canonicalizeProviders j
  else if k = "models" then canonicalizeModels j else j

theorem finalize_encode (order : Json.MapOrder) (gc : globalFields.Vals) :
    finalizeGlobalConfigJSON order (globalConfig.encode gc) =
      .obj (amend finalForm (incoming toSnakeCase order.iter []
        (globalFields.sent (fun _ => true) gc))) := by
  have hsent : globalFields.sent (fun _ => true) gc = globalFields.emit gc := List.filter_true _
  have hdoc : normalizeConfigKeys order (globalConfig.encode gc) =
      .obj (incoming toSnakeCase order.iter [] (globalFields.emit gc)) := Json.rekey_obj _
  rw [finalizeGlobalConfigJSON,hdoc,hsent]
  refine congrArg Json.obj ?_
  rw [amend,amend,amend,List.map_map]
  refine List.map_congr_left fun e _ => ?_
  simp only [Function.comp_apply,finalForm]
  split_ifs with h1 h2 h2
  · exact absurd (h2.symm.trans h1) (by decide)
  · rfl
  · rfl
  · rfl

theorem finalForm_rekey (order : Json.MapOrder) {k : String} (hk : k ≠ "providers") (j : Json) :
    finalForm k (Json.rekey toSnakeCase order.iter j) = Json.rekey toSnakeCase order.iter j := by
  rw [finalForm,if_neg hk]
  split_ifs
  · exact canonicalizeModels_rekey order j
  · rfl

def settingsSurvive : globalConfig.Val → Prop
  | (auth,providers,rest) =>
    (Schema.ptr authConfig).Survives toSnakeCase auth ∧
    (∀ m, providers = some m → ∀ e ∈ m.val, toSnakeCase e.1 = e.1) ∧
    (fields globalSettings).Survive toSnakeCase (lands toSnakeCase [] globalFields.names) rest

section Root

variable (order : Json.MapOrder) (gc : globalFields.Vals)

def finalEntries : Json.Entries :=
  amend finalForm (incoming toSnakeCase order.iter [] (globalFields.sent (fun _ => true) gc))

theorem globalFields_fits : structFits toSnakeCase [] globalFields.names = true :=
  (Bool.and_eq_true_iff.mp globalDocument.fits).1

variable {gc}

theorem receive_setting_iff {i : Item} (hi : i ∈ globalFields.items gc)
    (hname : toSnakeCase i.tag.name ≠ "providers") :
    receive i.schema.decode globalFields.names i.tag (finalEntries order gc) i.schema.zero =
        some i.val ↔
      if lands toSnakeCase [] globalFields.names i.tag then i.schema.Survives toSnakeCase i.val
      else i.val = i.schema.zero :=
  Fields.receive_iff order.perm globalFields_fits hi rfl (finalForm_rekey order hname)
    (globalFields.roundTrips_iff toSnakeCase_idempotent order.perm
      (Bool.and_eq_true_iff.mp globalDocument.fits).2 gc i hi)

theorem settings_not_providers :
    (fields globalSettings).all (fun tag _ => toSnakeCase tag.name ≠ "providers") = true := by
  decide

theorem decode_settings_iff :
    (fields globalSettings).decode globalFields.names (finalEntries order gc)
        (fields globalSettings).zero = some gc.2.2 ↔
      (fields globalSettings).Survive toSnakeCase (lands toSnakeCase [] globalFields.names) gc.2.2 := by
  rw [Fields.decode_eq_some,Fields.survive_iff]
  refine forall_congr' fun i => forall_congr' fun hi => ?_
  have hname := Fields.all_items _ settings_not_providers gc.2.2 i hi
  exact receive_setting_iff order (.tail _ (.tail _ hi)) (of_decide_eq_true hname)

theorem decode_auth_iff :
    receive (Schema.ptr authConfig).decode globalFields.names { name := "auth",omitempty := true }
        (finalEntries order gc) none = some gc.1 ↔
      (Schema.ptr authConfig).Survives toSnakeCase gc.1 := by
  have hlands : lands toSnakeCase [] globalFields.names { name := "auth",omitempty := true } = true := by
    decide
  have hname : toSnakeCase "auth" ≠ "providers" := by decide
  have hmem : ⟨{ name := "auth",omitempty := true },.ptr authConfig,gc.1⟩ ∈ globalFields.items gc :=
    .head _
  exact (receive_setting_iff order hmem hname).trans (iff_of_eq (if_pos hlands))

theorem receive_providers :
    receive (table providerConfig).decode globalFields.names { name := "providers" }
        (finalEntries order gc) none =
      (table providerConfig).decode (canonicalizeProviders
        (Json.rekey toSnakeCase order.iter ((table providerConfig).encode gc.2.1))) none := by
  have hlands : lands toSnakeCase [] globalFields.names { name := "providers" } = true := by
    decide
  have hmem : ⟨{ name := "providers" },table providerConfig,gc.2.1⟩ ∈ globalFields.items gc :=
    .tail _ (.head _)
  have harrive : finalForm (arrive toSnakeCase [] "providers") = canonicalizeProviders := by
    have h : toSnakeCase "providers" = "providers" := by decide
    funext j
    exact if_pos h
  refine (Fields.receive_eq order.perm globalFields_fits hmem finalForm _).trans
    ((if_pos (Bool.and_eq_true_iff.mpr ⟨hlands,rfl⟩)).trans ?_)
  exact congrArg (fun f => (table providerConfig).decode
    (f (Json.rekey toSnakeCase order.iter ((table providerConfig).encode gc.2.1))) none) harrive

theorem decode_finalized_iff (gc gc' : globalFields.Vals) :
    globalConfig.decode (finalizeGlobalConfigJSON order (globalConfig.encode gc))
        globalConfig.zero = some gc' ↔
      receive (Schema.ptr authConfig).decode globalFields.names
        { name := "auth",omitempty := true } (finalEntries order gc) none = some gc'.1 ∧
      receive (table providerConfig).decode globalFields.names { name := "providers" }
        (finalEntries order gc) none = some gc'.2.1 ∧
      (fields globalSettings).decode globalFields.names (finalEntries order gc)
        (fields globalSettings).zero = some gc'.2.2 := by
  rw [finalize_encode]
  exact bind_pair_eq_some.trans (and_congr_right fun _ => bind_pair_eq_some)

end Root

theorem strip_eq_iff (gc gc' : globalFields.Vals) :
    stripProviderSecretsForStorage gc' = stripProviderSecretsForStorage gc ↔
      gc'.1 = gc.1 ∧ Option.map stripProviders gc'.2.1 = Option.map stripProviders gc.2.1 ∧
        gc'.2.2 = gc.2.2 :=
  ⟨fun h => ⟨congrArg (fun x => x.1) h,congrArg (fun x => x.2.1) h,congrArg (fun x => x.2.2) h⟩,
    fun ⟨h1,h2,h3⟩ => Prod.ext h1 (Prod.ext h2 h3)⟩

def FinalizedUnchanged (order : Json.MapOrder) (gc : globalConfig.Val) : Prop :=
  ∃ gc', globalConfig.decode (finalizeGlobalConfigJSON order (globalConfig.encode gc))
    globalConfig.zero = some gc' ∧
      stripProviderSecretsForStorage gc' = stripProviderSecretsForStorage gc

theorem settingsSurvive_of_unchanged {order : Json.MapOrder} {gc : globalFields.Vals}
    (h : FinalizedUnchanged order gc) : settingsSurvive gc := by
  obtain ⟨gc',hdecode,hsame⟩ := h
  obtain ⟨hauth,hprov,hrest⟩ := (decode_finalized_iff order gc gc').mp hdecode
  obtain ⟨hauth',hprov',hrest'⟩ := (strip_eq_iff gc gc').mp hsame
  refine ⟨(decode_auth_iff order).mp (hauth' ▸ hauth),?_,
    (decode_settings_iff order).mp (hrest' ▸ hrest)⟩
  exact (decode_providers_iff order gc.2.1).mp
    ⟨gc'.2.1,(receive_providers order).symm.trans hprov,hprov'⟩

theorem unchanged_of_settingsSurvive (order : Json.MapOrder) {gc : globalFields.Vals}
    (h : settingsSurvive gc) : FinalizedUnchanged order gc := by
  obtain ⟨hauth,hprov,hrest⟩ := h
  obtain ⟨providers',hdecode,hsame⟩ := (decode_providers_iff order gc.2.1).mpr hprov
  refine ⟨(gc.1,providers',gc.2.2),?_,(strip_eq_iff gc _).mpr ⟨rfl,hsame,rfl⟩⟩
  refine (decode_finalized_iff order gc _).mpr ⟨(decode_auth_iff order).mpr hauth,?_,
    (decode_settings_iff order).mpr hrest⟩
  exact (receive_providers order).trans hdecode

theorem global_round_trip_iff (order : Json.MapOrder) (gc : globalConfig.Val) :
    FinalizedUnchanged order gc ↔ settingsSurvive gc :=
  ⟨settingsSurvive_of_unchanged,unchanged_of_settingsSurvive order⟩

def configWithWindow (seconds : Int) : globalConfig.Val :=
  (none,none,none,
    ("redis",circuitBreakerRedisConfig.zero,
      (true,seconds,(0 : Int),(0 : Int),Json.Number.zero,(0 : Int),(0 : Int),(0 : Int),()),none,()),
    globalRateLimitConfig.zero,smartRoutingConfig.zero,conversationLoggingConfig.zero,
    ⟨[],List.Pairwise.nil⟩,⟨[],List.Pairwise.nil⟩,(0 : Int),(0 : Int),⟨[],List.Pairwise.nil⟩,())

def windowSeconds : globalConfig.Val → Int
  | (_,_,_,(_,_,(_,seconds,_),_),_) => seconds

theorem breaker_window_reset :
    (∀ order, ¬ FinalizedUnchanged order (configWithWindow 60)) ∧
    (globalConfig.decode (finalizeGlobalConfigJSON ⟨fun l => l,List.Perm.refl⟩
      (globalConfig.encode (configWithWindow 60))) globalConfig.zero).map windowSeconds = some 0 := by
  refine ⟨fun order h => ?_,by decide⟩
  have hbreakerLands : lands toSnakeCase [] globalFields.names { name := "circuit_breaker" } = true := by
    decide
  have hdefaultsLands : lands toSnakeCase [] ["Backend","Redis","Defaults","Providers"]
      { name := "Defaults" } = true := by
    decide
  have hwindowLost : ¬ lands toSnakeCase [] ["Enabled","WindowSeconds","BucketSizeSeconds",
      "MinRequests","FailureRateThreshold","OpenCooldownSeconds","HalfOpenMaxInflight",
      "HalfOpenSuccessesToClose"] { name := "WindowSeconds" } = true := by
    decide
  obtain ⟨_,_,_,hbreaker,_⟩ := settingsSurvive_of_unchanged h
  obtain ⟨_,_,hdefaults,_⟩ := (iff_of_eq (if_pos hbreakerLands)).mp hbreaker
  obtain ⟨_,hwindow,_⟩ := (iff_of_eq (if_pos hdefaultsLands)).mp hdefaults
  have hzero : (60 : Int) = 0 := (iff_of_eq (if_neg hwindowLost)).mp hwindow
  exact absurd hzero (by decide)

end PrismGateway.Storage
