import PrismGateway.Admin.GlobalWrites

namespace PrismGateway.Admin

open Lib Lib.Json Config.Schemas Storage

inductive Credentials where
  | key (apiKey : String) (apiSecret organization : Option String)
  | aws (accessKeyID secretAccessKey region : String)

namespace Credentials

def complete : Credentials → Bool
  | .key apiKey _ _ => Frontend.trim apiKey ≠ ""
  | .aws accessKeyID secretAccessKey region =>
    Frontend.trim accessKeyID ≠ "" && Frontend.trim secretAccessKey ≠ "" && Frontend.trim region ≠ ""

def isAws : Credentials → Bool
  | .key .. => false
  | .aws .. => true

/-- The fields of `ProviderConfig` that hold them, under their `json` names. -/
def fields : Credentials → List (String × String)
  | .key apiKey _ _ => [("api_key",apiKey)]
  | .aws accessKeyID secretAccessKey region =>
    [("aws_access_key_id",accessKeyID),("aws_secret_access_key",secretAccessKey),
     ("aws_region",region)]

def optional (key : String) (value : Option String) : Json.Entries :=
  value.toList.map (fun s => (key,.str s))

end Credentials

def snakeToPascal (k : String) : Option String :=
  [("base_url","BaseURL"),("enabled","Enabled"),("type","Type"),("api_key_env","APIKeyEnv"),
   ("api_version","ApiVersion"),("organization","Organization"),("project","Project"),
   ("timeout_ms","TimeoutMs"),("max_retries","MaxRetries"),("has_api_key","HasAPIKey"),
   ("api_key_source","APIKeySource"),("last_credential_update","LastCredentialUpdate")].lookup k

def assign (result : Json.Entries) (k : String) (v : Json) : Json.Entries :=
  if k ∈ result.map Prod.fst then result.map (fun e => if e.1 = k then (k,v) else e)
  else result ++ [(k,v)]

def canonicalizeProviderPatchForGlobalConfig (patch : Json.Entries) : Json.Entries :=
  let aliased := patch.foldl (fun result e => match snakeToPascal e.1 with
    | some pascal => assign result pascal e.2
    | none => result) []
  patch.foldl (fun result e => match snakeToPascal e.1 with
    | some _ => result
    | none => assign result e.1 e.2) aliased

def patchProviderConfig (providerId : String) (patch : Json.Entries) : Json :=
  .obj [("providers",.obj [(providerId,.obj (canonicalizeProviderPatchForGlobalConfig patch))])]

def updateProviderCredentials (providerId : String) (credentials : Credentials) (now : String) : Json :=
  match credentials with
  | .aws accessKeyID secretAccessKey region => patchProviderConfig providerId
      [("type",.str "aws_bedrock"),
       ("aws_access_key_id",.str accessKeyID),
       ("aws_secret_access_key",.str secretAccessKey),
       ("aws_region",.str region)]
  | .key apiKey apiSecret organization => patchProviderConfig providerId
      [("credentials",.obj (("api_key",.str apiKey) :: Credentials.optional "api_secret" apiSecret ++
          Credentials.optional "organization" organization)),
       ("has_api_key",.bool (apiKey ≠ "")),
       ("api_key_source",.str "global_config"),
       ("last_credential_update",.str now)]

namespace ProviderCredentials

theorem rollbackTo_providers (j : Json) : rollbackTo (.obj [("providers",j)]) = none := rfl

theorem update_merges (providerId : String) (credentials : Credentials) (now : String) :
    rollbackTo (updateProviderCredentials providerId credentials now) = none := by
  cases credentials <;> exact rollbackTo_providers _

structure Update where
  actor : Global.Actor
  ifMatch : IfMatch
  orders : PatchOrders
  now : String

def Update.request (u : Update) (p : String) (c : Credentials) : GlobalRequest :=
  ⟨u.actor,u.ifMatch,.patch u.orders (updateProviderCredentials p c u.now) (update_merges p c u.now)⟩

/-- The document has the credentials where `ProviderConfig` looks for them. -/
def Has (p : String) (c : Credentials) (doc : Json) : Prop :=
  ∀ f ∈ c.fields, doc.textAt ["providers",p,f.1] = f.2

def Carries (p : String) (c : Credentials) (db : Global.Db) : Prop :=
  ∃ doc version, db.selectActive = some (doc,version) ∧ Has p c doc

def Unmixed (p : String) (doc : Json) : Prop :=
  ∀ n ∈ awsNames, Clear toSnakeCase doc ["providers",p,n.2]

def Keeps (p : String) (c : Credentials) : GlobalWrite → Prop
  | .patch orders body _ => ∀ patch,
      asMap (normalizeConfigKeys orders.storage.1 (sentPatch orders body)) = some patch →
        ∀ f ∈ c.fields, spares (.obj patch) ["providers",p,f.1] = true ∨
          (Json.obj patch).textAt ["providers",p,f.1] = f.2
  | _ => False

section Step

variable {process : Process} {db db' : Global.Db} {doc : Json} {p : String} {c : Credentials}
  {r : GlobalRequest}

open Global (Stands)

theorem carries_iff (h : Stands db doc) : Carries p c db ↔ Has p c doc := by
  obtain ⟨version,hactive⟩ := h.active
  constructor
  · rintro ⟨doc',version',hactive',hhas⟩
    rw [hactive] at hactive'
    cases hactive'
    exact hhas
  · intro hhas
    exact ⟨doc,version,hactive,hhas⟩

theorem trim_ne_empty {s : String} (h : Frontend.trim s ≠ "") : s ≠ "" := by
  rintro rfl
  exact h (by decide)

theorem mem_awsNames (haws : c.isAws = true) {f : String × String} (hf : f ∈ c.fields) :
    ∃ legacy, (legacy,f.1) ∈ awsNames := by
  cases c with
  | key apiKey apiSecret organization => cases haws
  | aws accessKeyID secretAccessKey region =>
    simp only [Credentials.fields,List.mem_cons,List.not_mem_nil,or_false] at hf
    rcases hf with rfl | rfl | rfl
    · exact ⟨_,.head _⟩
    · exact ⟨_,.tail _ (.head _)⟩
    · exact ⟨_,.tail _ (.tail _ (.head _))⟩

theorem secret_field (haws : c.isAws = true) (hcomplete : c.complete = true) :
    ∃ secret, ("aws_secret_access_key",secret) ∈ c.fields ∧ secret ≠ "" := by
  cases c with
  | key apiKey apiSecret organization => cases haws
  | aws accessKeyID secretAccessKey region =>
    simp only [Credentials.complete,Bool.and_eq_true,decide_eq_true_eq] at hcomplete
    exact ⟨secretAccessKey,.tail _ (.head _),trim_ne_empty hcomplete.1.2⟩

theorem unmixed_of_patched {orders : Json.MapOrder × Json.MapOrder} {mergePatch final : Json}
    (h : Global.patchedConfig orders doc mergePatch = .ok final) : Unmixed p final := by
  obtain ⟨es,patch,_,_,rfl⟩ := patchedConfig_ok h
  exact fun n hn => clear_finalize orders.2 _ p hn

theorem decoded_loses (haws : c.isAws = true) (hcomplete : c.complete = true) (h : Decoded db') :
    ¬Carries p c db' := by
  obtain ⟨gc,hstands⟩ := h
  obtain ⟨secret,hmem,hne⟩ := secret_field haws hcomplete
  rw [carries_iff hstands]
  intro hhas
  exact hne ((hhas _ hmem).symm.trans (textAt_stripped gc p))

theorem carries_after_iff (haws : c.isAws = true) (hcomplete : c.complete = true)
    (hp : toSnakeCase p = p) (h : Stands db doc) (hunmixed : Unmixed p doc) (hhas : Has p c doc)
    (hserve : serve process db r = some db') :
    (Carries p c db' ↔ Keeps p c r.write) ∧
      (Keeps p c r.write → ∃ doc', Stands db' doc' ∧ Unmixed p doc' ∧ Has p c doc') := by
  rcases served_cases h hserve with ⟨orders,body,merges,hwrite,final,hpatched,hstands⟩ |
    ⟨hother,hdecoded⟩
  · have hiff : Has p c final ↔ Keeps p c r.write := by
      obtain ⟨es,patch,_,hpatch,_⟩ := patchedConfig_ok hpatched
      have htext : ∀ f ∈ c.fields, final.textAt ["providers",p,f.1] =
          if spares (.obj patch) ["providers",p,f.1] then f.2
          else (Json.obj patch).textAt ["providers",p,f.1] := by
        intro f hf
        obtain ⟨legacy,hname⟩ := mem_awsNames haws hf
        rw [textAt_patched doc hpatched hpatch hname hp (hunmixed _ hname),hhas f hf]
      have hfield : ∀ f ∈ c.fields, final.textAt ["providers",p,f.1] = f.2 ↔
          (spares (.obj patch) ["providers",p,f.1] = true ∨
            (Json.obj patch).textAt ["providers",p,f.1] = f.2) := by
        intro f hf
        rw [htext f hf]
        split_ifs with hspares <;> simp [hspares]
      rw [hwrite,Keeps]
      constructor
      · intro hfinal patch' hpatch' f hf
        cases hpatch.symm.trans hpatch'
        exact (hfield f hf).mp (hfinal f hf)
      · intro hkeeps f hf
        exact (hfield f hf).mpr (hkeeps patch hpatch f hf)
    rw [carries_iff hstands]
    exact ⟨hiff,fun hkeeps => ⟨final,hstands,unmixed_of_patched hpatched,hiff.mpr hkeeps⟩⟩
  · have hkeeps : ¬Keeps p c r.write := by
      cases hwrite : r.write with
      | patch orders body merges => exact absurd hwrite (hother orders body merges)
      | _ => exact fun h => h
    exact ⟨iff_of_false (decoded_loses haws hcomplete hdecoded) hkeeps,fun h => absurd h hkeeps⟩

def awsEntries (accessKeyID secretAccessKey region : String) : Json.Entries :=
  [("Type",.str "aws_bedrock"),("aws_access_key_id",.str accessKeyID),("aws_region",.str region),
   ("aws_secret_access_key",.str secretAccessKey)]

theorem sorted_awsEntries (accessKeyID secretAccessKey region : String) :
    GoMap.Sorted (awsEntries accessKeyID secretAccessKey region) := by
  have hsorted : GoMap.Sorted
      (["Type","aws_access_key_id","aws_region","aws_secret_access_key"].map (fun k => (k,()))) := by
    decide
  simp only [GoMap.Sorted,List.map_cons,List.map_nil] at hsorted
  simpa [GoMap.Sorted,awsEntries] using hsorted

theorem parsed_aws (p accessKeyID secretAccessKey region now : String) :
    parsed (updateProviderCredentials p (.aws accessKeyID secretAccessKey region) now) =
      .obj [("providers",.obj [(p,.obj (awsEntries accessKeyID secretAccessKey region))])] := by
  have hcanonical : canonicalizeProviderPatchForGlobalConfig
      [("type",.str "aws_bedrock"),("aws_access_key_id",.str accessKeyID),
       ("aws_secret_access_key",.str secretAccessKey),("aws_region",.str region)] =
      [("Type",.str "aws_bedrock"),("aws_access_key_id",.str accessKeyID),
       ("aws_secret_access_key",.str secretAccessKey),("aws_region",.str region)] := by
    simp [canonicalizeProviderPatchForGlobalConfig,snakeToPascal,assign,List.lookup_cons]
  rw [updateProviderCredentials,patchProviderConfig,hcanonical,parsed_singleton,parsed_singleton,parsed,
    rekey_obj]
  have harrived : arrivals (fun k => k) (fun l => l)
      [("Type",.str "aws_bedrock"),("aws_access_key_id",.str accessKeyID),
       ("aws_secret_access_key",.str secretAccessKey),("aws_region",.str region)] =
      awsEntries accessKeyID secretAccessKey region := by
    rw [arrivals,List.map_cons,List.map_cons,List.map_cons,List.map_cons,List.map_nil,rekey_str,
      rekey_str,rekey_str,rekey_str]
    exact GoMap.ofList_eq_of_perm (sorted_awsEntries _ _ _) (((List.Perm.swap _ _ _).cons _).cons _)
  rw [harrived]

theorem sent_aws (hp : toSnakeCase p = p) (orders : PatchOrders)
    (accessKeyID secretAccessKey region now : String) :
    normalizeConfigKeys orders.storage.1 (sentPatch orders
        (updateProviderCredentials p (.aws accessKeyID secretAccessKey region) now)) =
      .obj [("providers",.obj [(p,normalizeConfigKeys orders.handler
        (.obj (awsEntries accessKeyID secretAccessKey region)))])] := by
  rw [sentPatch,Tidy.normalizeConfigKeys_eq _ _ (tidy_normalizeConfigKeys _ _),parsed_aws,
    normalize_singleton _ (by decide),normalize_singleton _ hp]

theorem clear_awsEntries (accessKeyID secretAccessKey region name : String)
    (hname : ∃ legacy, (legacy,name) ∈ awsNames) :
    Clear toSnakeCase (.obj (awsEntries accessKeyID secretAccessKey region)) [name] := by
  obtain ⟨legacy,hname⟩ := hname
  refine ⟨⟨sorted_awsEntries _ _ _,?_⟩,fun j _ => clear_nil _ j⟩
  intro e he hkey
  have hmem : e.1 ∈ ["Type","aws_access_key_id","aws_region","aws_secret_access_key"] :=
    List.mem_map_of_mem (f := Prod.fst) he
  have hall : ∀ n ∈ awsNames, ∀ k ∈ ["Type","aws_access_key_id","aws_region",
      "aws_secret_access_key"], toSnakeCase k = n.2 → k = n.2 := by decide
  exact hall _ hname _ hmem hkey

theorem keeps_update (haws : c.isAws = true) (hp : toSnakeCase p = p) (u : Update) {patch : Json.Entries}
    (hpatch : asMap (normalizeConfigKeys u.orders.storage.1 (sentPatch u.orders
      (updateProviderCredentials p c u.now))) = some patch) {f : String × String}
    (hf : f ∈ c.fields) : (Json.obj patch).read ["providers",p,f.1] = some (.str f.2) := by
  have hname := mem_awsNames haws hf
  cases c with
  | key apiKey apiSecret organization => cases haws
  | aws accessKeyID secretAccessKey region =>
    rw [sent_aws hp] at hpatch
    cases hpatch
    have hread : (Json.obj (awsEntries accessKeyID secretAccessKey region)).read [f.1] =
        some (.str f.2) := by
      simp only [Credentials.fields,List.mem_cons,List.not_mem_nil,or_false] at hf
      rcases hf with rfl | rfl | rfl <;> rfl
    have hentry := @read_rekey _ _ u.orders.handler.perm [f.1]
      (fun k hk => List.mem_singleton.mp hk ▸ hname.elim fun _ h => fixed_awsNames h)
      _ (clear_awsEntries accessKeyID secretAccessKey region f.1 hname)
    rw [hread,Option.map_some,rekey_str] at hentry
    rw [read_obj,GoMap.lookup_cons_eq,if_pos rfl,Option.bind_some,read_obj,GoMap.lookup_cons_eq,
      if_pos rfl,Option.bind_some]
    exact hentry

theorem carries_update_iff (hcomplete : c.complete = true) (h : Stands db doc)
    (hunmixed : Unmixed p doc) (u : Update) (hserve : serve process db (u.request p c) = some db') :
    (Carries p c db' ↔ c.isAws = true ∧ toSnakeCase p = p) ∧
      (Carries p c db' → ∃ doc', Stands db' doc' ∧ Unmixed p doc' ∧ Has p c doc') := by
  obtain ⟨orders,body,merges,hwrite,final,hpatched,hstands⟩ :=
    (served_cases h hserve).resolve_right fun hother => hother.1 _ _ _ rfl
  cases hwrite
  obtain ⟨es,patch,_,hpatch,hfinal⟩ := patchedConfig_ok hpatched
  have hiff : Has p c final ↔ c.isAws = true ∧ toSnakeCase p = p := by
    constructor
    · intro hhas
      have haws : c.isAws = true := by
        cases c with
        | aws accessKeyID secretAccessKey region => rfl
        | key apiKey apiSecret organization =>
          have htext := hhas _ (.head _)
          rw [hfinal,textAt_finalize_apiKey] at htext
          exact absurd htext.symm (trim_ne_empty (of_decide_eq_true hcomplete))
      refine ⟨haws,not_not.mp fun hp => ?_⟩
      obtain ⟨secret,hmem,hne⟩ := secret_field haws hcomplete
      have htext := hhas _ hmem
      rw [hfinal,textAt_finalize_foreign _ _ hp] at htext
      exact hne htext.symm
    · rintro ⟨haws,hp⟩ f hf
      obtain ⟨legacy,hname⟩ := mem_awsNames haws hf
      have hread := keeps_update haws hp u hpatch hf
      have hspares : spares (.obj patch) ["providers",p,f.1] = false := by
        rw [← Bool.not_eq_true]
        intro hspares
        rw [read_of_spares hspares] at hread
        cases hread
      have htext : (Json.obj patch).textAt ["providers",p,f.1] = f.2 := by
        rw [textAt,hread]
        rfl
      rw [textAt_patched doc hpatched hpatch hname hp (hunmixed _ hname),hspares,← htext]
      rfl
  rw [carries_iff hstands]
  exact ⟨hiff,fun hhas => ⟨final,hstands,unmixed_of_patched hpatched,hhas⟩⟩

theorem keeps_of_other {q : String} (hq : toSnakeCase q ≠ p) (orders : PatchOrders)
    (patch : Json.Entries) (merges : rollbackTo (patchProviderConfig q patch) = none) :
    Keeps p c (.patch orders (patchProviderConfig q patch) merges) := by
  intro sent hsent f _
  rw [sentPatch,Tidy.normalizeConfigKeys_eq _ _ (tidy_normalizeConfigKeys _ _),patchProviderConfig,
    parsed_singleton,parsed_singleton,normalize_singleton _ (by decide),normalize_entry] at hsent
  cases hsent
  refine .inl ?_
  rw [spares_obj,GoMap.lookup_cons_eq,if_pos rfl,Option.elim_some,spares_obj,GoMap.lookup_cons_eq,
    if_neg (Ne.symm hq)]
  rfl

end Step

section Run

variable {process : Process} {db : Global.Db} {doc : Json} {p : String} {c : Credentials}

open Global (Stands)

theorem kept_iff (haws : c.isAws = true) (hcomplete : c.complete = true) (hp : toSnakeCase p = p)
    {rs : List GlobalRequest} (h : Stands db doc) (hunmixed : Unmixed p doc) (hhas : Has p c doc)
    (hrun : (exec (serve process) db rs).isSome = true) :
    (∀ n db', exec (serve process) db (rs.take n) = some db' → Carries p c db') ↔
      ∀ r ∈ rs, Keeps p c r.write := by
  induction rs generalizing db doc with
  | nil =>
    refine iff_of_true ?_ (by simp)
    intro n db' hexec
    rw [List.take_nil,exec] at hexec
    cases hexec
    exact (carries_iff h).mpr hhas
  | cons r rs ih =>
    obtain ⟨last,hlast⟩ := Option.isSome_iff_exists.mp hrun
    obtain ⟨t,hserve,hrest⟩ := Option.bind_eq_some_iff.mp hlast
    have hrest : (exec (serve process) t rs).isSome = true := by rw [hrest]; rfl
    obtain ⟨hiff,hnext⟩ := carries_after_iff haws hcomplete hp h hunmixed hhas hserve
    rw [List.forall_mem_cons]
    constructor
    · intro hall
      have hfirst : Carries p c t := by
        refine hall 1 t ?_
        rw [List.take_succ_cons,List.take_zero,exec_cons hserve]
        rfl
      have hkeeps := hiff.mp hfirst
      obtain ⟨doc',hstands,hunmixed',hhas'⟩ := hnext hkeeps
      refine ⟨hkeeps,(ih hstands hunmixed' hhas' hrest).mp fun n db' hexec => hall (n + 1) db' ?_⟩
      rw [List.take_succ_cons,exec_cons hserve]
      exact hexec
    · rintro ⟨hkeeps,hall⟩ n db' hexec
      obtain ⟨doc',hstands,hunmixed',hhas'⟩ := hnext hkeeps
      cases n with
      | zero =>
        rw [List.take_zero,exec] at hexec
        cases hexec
        exact (carries_iff h).mpr hhas
      | succ n =>
        rw [List.take_succ_cons,exec_cons hserve] at hexec
        exact (ih hstands hunmixed' hhas' hrest).mpr hall n db' hexec

theorem credentials_kept_iff (hcomplete : c.complete = true) (h : Stands db doc)
    (hunmixed : Unmixed p doc) (u : Update) (rs : List GlobalRequest)
    (hrun : (exec (serve process) db (u.request p c :: rs)).isSome = true) :
    (∀ n db', exec (serve process) db (u.request p c :: rs.take n) = some db' → Carries p c db') ↔
      c.isAws = true ∧ toSnakeCase p = p ∧ ∀ r ∈ rs, Keeps p c r.write := by
  obtain ⟨last,hlast⟩ := Option.isSome_iff_exists.mp hrun
  obtain ⟨t,hserve,hrest⟩ := Option.bind_eq_some_iff.mp hlast
  have hrest : (exec (serve process) t rs).isSome = true := by rw [hrest]; rfl
  obtain ⟨hiff,hnext⟩ := carries_update_iff hcomplete h hunmixed u hserve
  constructor
  · intro hall
    have hfirst : Carries p c t := by
      refine hall 0 t ?_
      rw [List.take_zero,exec_cons hserve]
      rfl
    obtain ⟨haws,hp⟩ := hiff.mp hfirst
    obtain ⟨doc',hstands,hunmixed',hhas⟩ := hnext hfirst
    refine ⟨haws,hp,(kept_iff haws hcomplete hp hstands hunmixed' hhas hrest).mp ?_⟩
    intro n db' hexec
    refine hall n db' ?_
    rw [exec_cons hserve]
    exact hexec
  · rintro ⟨haws,hp,hall⟩ n db' hexec
    obtain ⟨doc',hstands,hunmixed',hhas⟩ := hnext (hiff.mpr ⟨haws,hp⟩)
    rw [exec_cons hserve] at hexec
    exact (kept_iff haws hcomplete hp hstands hunmixed' hhas hrest).mpr hall n db' hexec

end Run

theorem unmixed_empty (p : String) : Unmixed p (.obj []) :=
  fun _ _ => ⟨⟨List.Pairwise.nil,by simp⟩,fun _ h => (by cases h)⟩

def emptyDb : Global.Db := ⟨[⟨1,.obj [],"seed-from-yaml"⟩],some 1,2,[]⟩

theorem stands_empty : Global.Stands emptyDb (.obj []) := by
  refine ⟨?_,1,rfl⟩
  intro r hr
  rw [List.mem_singleton.mp hr]
  decide

def noProcess : Process := ⟨⟨globalConfig.zero,[]⟩,fun _ => false⟩

def plainOrders : PatchOrders := ⟨Global.keepOrder,(Global.keepOrder,Global.keepOrder)⟩

def firstUpdate : Update := ⟨Global.admin,.version 1,plainOrders,"2026-01-01T00:00:00.000Z"⟩

def apiKey : Credentials := .key "sk-live" none none

def awsKeys : Credentials := .aws "AKIA" "secret" "eu-west-1"

def enableOpenAI : GlobalRequest :=
  ⟨Global.admin,.version 2,.patch plainOrders
    (patchProviderConfig "openai" [("enabled",.bool true)]) (rollbackTo_providers _)⟩

def putEmpty : GlobalRequest := ⟨Global.admin,.version 2,.put Global.keepOrder (.obj [])⟩

theorem aws_keys_kept :
    (∀ n db', exec (serve noProcess) emptyDb
        (firstUpdate.request "bedrock" awsKeys :: [enableOpenAI].take n) = some db' →
      Carries "bedrock" awsKeys db') ↔
    awsKeys.isAws = true ∧ toSnakeCase "bedrock" = "bedrock" ∧
      ∀ r ∈ [enableOpenAI], Keeps "bedrock" awsKeys r.write :=
  credentials_kept_iff (by decide) stands_empty (unmixed_empty "bedrock") firstUpdate [enableOpenAI]
    (by rfl)

theorem credentials_lost :
    (∃ db', serve noProcess emptyDb (firstUpdate.request "openai" apiKey) = some db' ∧
      ¬Carries "openai" apiKey db') ∧
    ∃ db₁ db₂, serve noProcess emptyDb (firstUpdate.request "bedrock" awsKeys) = some db₁ ∧
      serve noProcess db₁ putEmpty = some db₂ ∧ Carries "bedrock" awsKeys db₁ ∧
      ¬Carries "bedrock" awsKeys db₂ := by
  constructor
  · have hok : (serve noProcess emptyDb (firstUpdate.request "openai" apiKey)).isSome = true := by
      rfl
    obtain ⟨db',hserve⟩ := Option.isSome_iff_exists.mp hok
    refine ⟨db',hserve,fun hcarries => ?_⟩
    have hiff := (carries_update_iff (by decide) stands_empty (unmixed_empty "openai") firstUpdate
      hserve).1
    cases (hiff.mp hcarries).1
  · have hok : (exec (serve noProcess) emptyDb
        [firstUpdate.request "bedrock" awsKeys,putEmpty]).isSome = true := by rfl
    obtain ⟨db₂,hrun⟩ := Option.isSome_iff_exists.mp hok
    obtain ⟨db₁,hfirst,hrest⟩ := Option.bind_eq_some_iff.mp hrun
    obtain ⟨t,hput,hlast⟩ := Option.bind_eq_some_iff.mp hrest
    cases hlast
    obtain ⟨hiff,hnext⟩ := carries_update_iff (by decide) stands_empty (unmixed_empty "bedrock")
      firstUpdate hfirst
    have hcarries := hiff.mpr ⟨rfl,by decide⟩
    obtain ⟨doc,hstands,hunmixed,hhas⟩ := hnext hcarries
    refine ⟨db₁,_,hfirst,hput,hcarries,?_⟩
    rw [(carries_after_iff rfl (by decide) (by decide) hstands hunmixed hhas hput).1]
    exact fun h => h

end ProviderCredentials

end PrismGateway.Admin
