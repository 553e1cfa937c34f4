import PrismGateway.Admin.ProviderCredentials
import PrismGateway.Storage.FinalForm

namespace PrismGateway.Admin.RepeatedWrites

open Lib Config.Schemas Storage
open Global (Stands)

def EmptyPatch (r : GlobalRequest) : Prop :=
  ∃ orders merges, r.write = .patch orders (.obj []) merges

def Repeats (order : Json.MapOrder) (body : Json) (r : GlobalRequest) : Prop :=
  ∃ order' body', r.write = .put order' body' ∧
    (body' = finalizeGlobalConfigJSON order (parsed body) ∨
      body' = body ∧ Json.Apart toSnakeCase (parsed body))

def Unmoved (db db' : Global.Db) : Prop := ∃ doc, Stands db doc ∧ Stands db' doc

section Put

variable {process : Process} {db db' : Global.Db} {doc : Json} {r : GlobalRequest}
  {order order' : Json.MapOrder} {body body' : Json}

theorem served_put (h : Stands db doc) (hwrite : r.write = .put order body)
    (hserve : serve process db r = some db') :
    ∃ gc, globalConfig.decode (finalizeGlobalConfigJSON order (parsed body)) globalConfig.zero =
        some gc ∧ Stands db' (globalConfig.encode (stripProviderSecretsForStorage gc)) := by
  rw [serve,hwrite] at hserve
  obtain ⟨written,hput⟩ := succeeded_eq_some hserve
  rw [adminPutGlobalConfig] at hput
  split_ifs at hput
  · cases hput
  · cases hparse : r.ifMatch.parse with
    | error failure =>
      rw [hparse] at hput
      cases hput
    | ok v =>
      rw [hparse] at hput
      dsimp only at hput
      split at hput
      · cases hput
      · next gc hdecode =>
        split at hput
        · cases hput
        · exact ⟨gc,hdecode,stands_of_putGlobal h hput⟩

theorem finalize_congr (h : Json.Apart toSnakeCase body) (order order' : Json.MapOrder) :
    finalizeGlobalConfigJSON order' body = finalizeGlobalConfigJSON order body := by
  rw [finalizeGlobalConfigJSON_eq,finalizeGlobalConfigJSON_eq,normalizeConfigKeys,
    normalizeConfigKeys,h.rekey_eq order.perm order'.perm]

theorem Repeats.finalize_eq (h : Repeats order body r) : ∃ order' body',
    r.write = .put order' body' ∧ finalizeGlobalConfigJSON order' (parsed body') =
      finalizeGlobalConfigJSON order (parsed body) := by
  obtain ⟨order',body',hwrite,rfl | ⟨rfl,hapart⟩⟩ := h
  · refine ⟨order',_,hwrite,?_⟩
    have hparsed : parsed (finalizeGlobalConfigJSON order (parsed body)) =
        finalizeGlobalConfigJSON order (parsed body) := rekey_id_finalize Json.listed_perm order _
    rw [hparsed,finalize_again]
  · exact ⟨order',body',hwrite,finalize_congr hapart order order'⟩

end Put

section Patch

theorem normalize_empty (order : Json.MapOrder) : normalizeConfigKeys order (.obj []) = .obj [] := by
  rw [normalizeConfigKeys,Json.rekey_obj,Json.arrivals,List.map_nil,List.perm_nil.mp (order.perm [])]
  rfl

theorem asMap_finalize {order : Json.MapOrder} {es es' : Json.Entries}
    (h : asMap (finalizeGlobalConfigJSON order (.obj es)) = some es') :
    Json.obj es' = finalizeGlobalConfigJSON order (.obj es) := by
  rw [finalizeGlobalConfigJSON_eq,normalizeConfigKeys,Json.rekey_obj] at h ⊢
  cases h
  rfl

variable {process : Process} {db db' : Global.Db} {doc : Json} {r : GlobalRequest}

theorem served_emptyPatch (h : Stands db doc) (hr : EmptyPatch r)
    (hserve : serve process db r = some db') :
    ∃ order es, asMap doc = some es ∧ Stands db' (finalizeGlobalConfigJSON order (.obj es)) := by
  obtain ⟨orders,merges,hwrite⟩ := hr
  rw [serve,hwrite] at hserve
  obtain ⟨written,hpatch⟩ := succeeded_eq_some hserve
  obtain ⟨final,hpatched,hstands⟩ := stands_of_patchGlobal h merges hpatch
  obtain ⟨es,patch,hdoc,hempty,rfl⟩ := patchedConfig_ok hpatched
  have hsent : sentPatch orders (.obj []) = .obj [] := normalize_empty orders.handler
  rw [hsent,normalize_empty] at hempty
  cases hempty
  exact ⟨_,es,hdoc,hstands⟩

end Patch

section Runs

variable {process : Process} {db db' db'' : Global.Db} {doc : Json} {r : GlobalRequest}
  {rs : List GlobalRequest} {order : Json.MapOrder} {body : Json}

theorem stands_exec (hstep : ∀ {db db'} {r}, r ∈ rs → Stands db doc →
      serve process db r = some db' → Stands db' doc)
    (h : Stands db doc) (hexec : exec (serve process) db rs = some db') : Stands db' doc := by
  induction rs generalizing db with
  | nil =>
    cases hexec
    exact h
  | cons r rs ih =>
    obtain ⟨db₁,hserve,hexec⟩ := Option.bind_eq_some_iff.mp hexec
    exact ih (fun hr => hstep (List.mem_cons_of_mem _ hr)) (hstep (List.mem_cons_self ..) h hserve)
      hexec

theorem emptyPatches_unmoved (h : Stands db doc) (hr : EmptyPatch r) (hrs : ∀ r ∈ rs, EmptyPatch r)
    (hserve : serve process db r = some db') (hexec : exec (serve process) db' rs = some db'') :
    Unmoved db' db'' := by
  obtain ⟨order,es,_,hstands⟩ := served_emptyPatch h hr hserve
  refine ⟨_,hstands,stands_exec (fun hr h hserve => ?_) hstands hexec⟩
  obtain ⟨order',es',hdoc,hnext⟩ := served_emptyPatch h (hrs _ hr) hserve
  rwa [asMap_finalize hdoc,finalize_again] at hnext

theorem puts_unmoved (h : Stands db doc) (hwrite : r.write = .put order body)
    (hrs : ∀ r ∈ rs, Repeats order body r) (hserve : serve process db r = some db')
    (hexec : exec (serve process) db' rs = some db'') : Unmoved db' db'' := by
  obtain ⟨gc,hdecode,hstands⟩ := served_put h hwrite hserve
  refine ⟨_,hstands,stands_exec (fun hr h hserve => ?_) hstands hexec⟩
  obtain ⟨order',body',hwrite',hfinal⟩ := (hrs _ hr).finalize_eq
  obtain ⟨gc',hdecode',hnext⟩ := served_put h hwrite' hserve
  rw [hfinal,hdecode] at hdecode'
  cases hdecode'
  exact hnext

end Runs

theorem finalizing_settles {process : Process} {db db' db'' : Global.Db} {doc : Json}
    {r : GlobalRequest} {rs : List GlobalRequest} (h : Stands db doc)
    (hserve : serve process db r = some db') (hexec : exec (serve process) db' rs = some db'') :
    (∀ order order' d, finalizeGlobalConfigJSON order' (finalizeGlobalConfigJSON order d) =
      finalizeGlobalConfigJSON order d) ∧
    (EmptyPatch r → (∀ r ∈ rs, EmptyPatch r) → Unmoved db' db'') ∧
    ∀ order body, r.write = .put order body → (∀ r ∈ rs, Repeats order body r) →
      Unmoved db' db'' :=
  ⟨finalize_again,fun hr hrs => emptyPatches_unmoved h hr hrs hserve hexec,
    fun _ _ hwrite hrs => puts_unmoved h hwrite hrs hserve hexec⟩

open ProviderCredentials (noProcess emptyDb stands_empty)

def limitedBody : Json :=
  .obj [("rate_limit",.obj [("Backend",.str "redis"),("backend",.str "memory")])]

def reversed : Json.MapOrder := ⟨List.reverse,List.reverse_perm⟩

def putLimits (order : Json.MapOrder) (version : Int) : GlobalRequest :=
  ⟨Global.admin,.version version,.put order limitedBody⟩

def clearPatch (version : Int) : GlobalRequest :=
  ⟨Global.admin,.version version,.patch ProviderCredentials.plainOrders (.obj []) rfl⟩

theorem empty_patches_settle : ∃ db' db'', serve noProcess emptyDb (clearPatch 1) = some db' ∧
    exec (serve noProcess) db' [clearPatch 2,clearPatch 3] = some db'' ∧ Unmoved db' db'' := by
  have hok : (exec (serve noProcess) emptyDb [clearPatch 1,clearPatch 2,clearPatch 3]).isSome =
      true := rfl
  obtain ⟨db'',hrun⟩ := Option.isSome_iff_exists.mp hok
  obtain ⟨db',hfirst,hrest⟩ := Option.bind_eq_some_iff.mp hrun
  have hclear : ∀ version, EmptyPatch (clearPatch version) := fun _ => ⟨_,_,rfl⟩
  refine ⟨db',db'',hfirst,hrest,(finalizing_settles stands_empty hfirst hrest).2.1 (hclear 1) ?_⟩
  rintro r (_ | ⟨_,_ | ⟨_,hr⟩⟩)
  · exact hclear 2
  · exact hclear 3
  · cases hr

def storedText (path : List String) (db : Global.Db) : String :=
  (db.selectActive.map (fun found => found.1.textAt path)).getD ""

theorem Unmoved.storedText_eq {db db' : Global.Db} (h : Unmoved db db') (path : List String) :
    storedText path db = storedText path db' := by
  obtain ⟨doc,h,h'⟩ := h
  obtain ⟨version,hactive⟩ := h.active
  obtain ⟨version',hactive'⟩ := h'.active
  rw [storedText,storedText,hactive,hactive']
  rfl

theorem spellings_drift : ∃ db' db'',
    serve noProcess emptyDb (putLimits Global.keepOrder 1) = some db' ∧
    serve noProcess db' (putLimits reversed 2) = some db'' ∧ ¬Unmoved db' db'' := by
  have hok : (exec (serve noProcess) emptyDb
      [putLimits Global.keepOrder 1,putLimits reversed 2]).any (fun db =>
        decide (storedText ["rate_limit","Backend"] db = "redis")) = true := rfl
  have hok' : (serve noProcess emptyDb (putLimits Global.keepOrder 1)).any (fun db =>
      decide (storedText ["rate_limit","Backend"] db = "memory")) = true := rfl
  obtain ⟨db',hfirst,hmemory⟩ := reaches hok'
  obtain ⟨db'',hrun,hredis⟩ := reaches hok
  rw [exec_cons hfirst] at hrun
  obtain ⟨db₂,hsecond,hlast⟩ := Option.bind_eq_some_iff.mp hrun
  cases hlast
  refine ⟨db',_,hfirst,hsecond,fun h => ?_⟩
  have heq := h.storedText_eq ["rate_limit","Backend"]
  rw [hmemory,hredis] at heq
  exact absurd heq (by decide)

end PrismGateway.Admin.RepeatedWrites
