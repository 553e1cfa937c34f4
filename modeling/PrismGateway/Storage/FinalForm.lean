import PrismGateway.Lib.Positions
import PrismGateway.Storage.GlobalConfig
import PrismGateway.Storage.MergePatch

namespace PrismGateway.Lib.Json

mutual

def Apart (key : String → String) : Json → Prop
  | .arr items => ApartItems key items
  | .obj es => (es.map (fun e => key e.1)).Nodup ∧ ApartEntries key es
  | _ => True

def ApartItems (key : String → String) : List Json → Prop
  | [] => True
  | j :: items => Apart key j ∧ ApartItems key items

def ApartEntries (key : String → String) : Entries → Prop
  | [] => True
  | (_,j) :: es => Apart key j ∧ ApartEntries key es

end

section Apart

variable {key : String → String} {iter iter' : Entries → Entries}

theorem apartItems_iff {items : List Json} : ApartItems key items ↔ ∀ j ∈ items, Apart key j := by
  induction items with
  | nil => simp [ApartItems]
  | cons j items ih => simp [ApartItems,ih]

theorem apartEntries_iff {es : Entries} : ApartEntries key es ↔ ∀ e ∈ es, Apart key e.2 := by
  induction es with
  | nil => simp [ApartEntries]
  | cons e es ih =>
    obtain ⟨k,j⟩ := e
    simp [ApartEntries,ih]

theorem arrivals_eq_of_perm (hiter : ∀ l, (iter l).Perm l) (hiter' : ∀ l, (iter' l).Perm l)
    {es es' : Entries} (hnodup : (es.map (fun e => key e.1)).Nodup)
    (hperm : (es'.map (fun e => (key e.1,rekey key iter' e.2))).Perm
      (es.map (fun e => (key e.1,rekey key iter e.2)))) :
    arrivals key iter' es' = arrivals key iter es := by
  have hkeys : (es'.map (fun e => key e.1)).Perm (es.map (fun e => key e.1)) := by
    have h := hperm.map Prod.fst
    rwa [List.map_map,List.map_map] at h
  refine GoMap.Sorted.eq_of_perm (sorted_arrivals _) (sorted_arrivals _) ?_
  calc (arrivals key iter' es').Perm (es'.map (fun e => (key e.1,rekey key iter' e.2))) :=
        arrivals_perm hiter' (hkeys.nodup_iff.mpr hnodup)
    List.Perm _ (es.map (fun e => (key e.1,rekey key iter e.2))) := hperm
    List.Perm _ (arrivals key iter es) := (arrivals_perm hiter hnodup).symm

theorem Apart.rekey_eq (hiter : ∀ l, (iter l).Perm l) (hiter' : ∀ l, (iter' l).Perm l) {j : Json}
    (h : Apart key j) : rekey key iter' j = rekey key iter j := by
  induction j using tree_induction with
  | arr items ih =>
    rw [rekey_arr,rekey_arr]
    exact congrArg arr (List.map_congr_left fun j hj => ih j hj (apartItems_iff.mp h j hj))
  | obj es ih =>
    rw [rekey_obj,rekey_obj]
    refine congrArg obj (arrivals_eq_of_perm hiter hiter' h.1 (.of_eq ?_))
    refine List.map_congr_left fun e he => ?_
    rw [ih e he (apartEntries_iff.mp h.2 e he)]
  | _ => simp

end Apart

end PrismGateway.Lib.Json

namespace PrismGateway.Storage

open Lib Config.Schemas

theorem Settled.amend {es : Json.Entries} (h : Settled es) (f : String → Json → Json) :
    Settled (amend f es) :=
  ⟨h.sorted.map _,by rw [keys_amend]; exact h.fixed⟩

theorem canonicalizeGlobalConfigModels_normalized (order : Json.MapOrder) (d : Json) :
    canonicalizeGlobalConfigModels (normalizeConfigKeys order d) = normalizeConfigKeys order d := by
  cases d with
  | obj es =>
    rw [normalizeConfigKeys,Json.rekey_obj,canonicalizeGlobalConfigModels,amend]
    refine congrArg Json.obj ((List.map_congr_left fun e he => ?_).trans (List.map_id _))
    obtain ⟨e',_,rfl⟩ := List.mem_map.mp ((order.perm _).subset (GoMap.mem_of_mem_ofList he))
    dsimp only
    rw [canonicalizeModels_rekey,ite_self]
    rfl
  | arr items =>
    rw [normalizeConfigKeys,Json.rekey_arr]
    rfl
  | _ => rfl

theorem finalizeGlobalConfigJSON_eq (order : Json.MapOrder) (d : Json) :
    finalizeGlobalConfigJSON order d =
      canonicalizeGlobalConfigProviders (normalizeConfigKeys order d) := by
  rw [finalizeGlobalConfigJSON,canonicalizeGlobalConfigModels_normalized]

section Again

variable (order : Json.MapOrder) {j : Json}

theorem canonicalizeProvider_again (h : Tidy j) :
    canonicalizeProvider (normalizeConfigKeys order (canonicalizeProvider j)) =
      canonicalizeProvider j := by
  cases j with
  | obj m =>
    cases m with
    | nil => exact congrArg canonicalizeProvider (Tidy.normalizeConfigKeys_eq order _ h)
    | cons e m => exact canonicalizeProvider_rekey
  | _ => exact congrArg canonicalizeProvider (Tidy.normalizeConfigKeys_eq order _ h)

theorem canonicalizeProviders_again (h : Tidy j) :
    canonicalizeProviders (normalizeConfigKeys order (canonicalizeProviders j)) =
      canonicalizeProviders j := by
  cases j with
  | obj provMap =>
    rw [canonicalizeProviders,(h.1.amend _).normalizeConfigKeys order,canonicalizeProviders,amend,
      amend,List.map_map,List.map_map]
    refine congrArg Json.obj (List.map_congr_left fun e he => congrArg (Prod.mk e.1) ?_)
    exact canonicalizeProvider_again order (tidyEntries_iff.mp h.2 e he)
  | _ => exact congrArg canonicalizeProviders (Tidy.normalizeConfigKeys_eq order _ h)

theorem canonicalizeGlobalConfigProviders_again (h : Tidy j) :
    canonicalizeGlobalConfigProviders
        (normalizeConfigKeys order (canonicalizeGlobalConfigProviders j)) =
      canonicalizeGlobalConfigProviders j := by
  cases j with
  | obj root =>
    rw [canonicalizeGlobalConfigProviders,(h.1.amend _).normalizeConfigKeys order,
      canonicalizeGlobalConfigProviders,amend,amend,List.map_map,List.map_map]
    refine congrArg Json.obj (List.map_congr_left fun e he => congrArg (Prod.mk e.1) ?_)
    have htidy := tidyEntries_iff.mp h.2 e he
    dsimp only [Function.comp_apply]
    split_ifs
    · exact canonicalizeProviders_again order htidy
    · exact Tidy.normalizeConfigKeys_eq order _ htidy
  | _ => exact congrArg canonicalizeGlobalConfigProviders (Tidy.normalizeConfigKeys_eq order _ h)

end Again

theorem finalize_again (order order' : Json.MapOrder) (d : Json) :
    finalizeGlobalConfigJSON order' (finalizeGlobalConfigJSON order d) =
      finalizeGlobalConfigJSON order d := by
  rw [finalizeGlobalConfigJSON_eq order',finalizeGlobalConfigJSON_eq order]
  exact canonicalizeGlobalConfigProviders_again order' (tidy_normalizeConfigKeys order d)

section Parsed

variable {iter : Json.Entries → Json.Entries} {j : Json}

theorem Tidy.rekey_id (hiter : ∀ l, (iter l).Perm l) (h : Tidy j) : Json.rekey id iter j = j := by
  induction j using Json.tree_induction with
  | arr items ih =>
    rw [Json.rekey_arr]
    refine congrArg Json.arr ((List.map_congr_left fun j hj => ?_).trans (List.map_id _))
    exact ih j hj (tidyItems_iff.mp h j hj)
  | obj es ih =>
    rw [Json.rekey_obj]
    exact congrArg Json.obj (arrivals_id_eq_self hiter h.1.sorted fun e he =>
      ih e he (tidyEntries_iff.mp h.2 e he))
  | _ => simp

theorem rekey_id_amend (hiter : ∀ l, (iter l).Perm l) {es : Json.Entries} (hs : GoMap.Sorted es)
    {f : String → Json → Json} (h : ∀ e ∈ es, Json.rekey id iter (f e.1 e.2) = f e.1 e.2) :
    Json.rekey id iter (.obj (amend f es)) = .obj (amend f es) := by
  rw [Json.rekey_obj]
  refine congrArg Json.obj (arrivals_id_eq_self hiter (hs.map _) fun e he => ?_)
  obtain ⟨e',he',rfl⟩ := List.mem_map.mp he
  exact h e' he'

theorem rekey_id_provider (hiter : ∀ l, (iter l).Perm l) (h : Tidy j) :
    Json.rekey id iter (canonicalizeProvider j) = canonicalizeProvider j := by
  cases j with
  | obj m =>
    cases m with
    | nil => exact h.rekey_id hiter
    | cons e m => exact Schema.rekey_id_encode hiter providerConfig _
  | _ => exact Tidy.rekey_id hiter h

theorem rekey_id_providers (hiter : ∀ l, (iter l).Perm l) (h : Tidy j) :
    Json.rekey id iter (canonicalizeProviders j) = canonicalizeProviders j := by
  cases j with
  | obj provMap =>
    exact rekey_id_amend hiter h.1.sorted fun e he =>
      rekey_id_provider hiter (tidyEntries_iff.mp h.2 e he)
  | _ => exact Tidy.rekey_id hiter h

theorem rekey_id_finalize (hiter : ∀ l, (iter l).Perm l) (order : Json.MapOrder) (d : Json) :
    Json.rekey id iter (finalizeGlobalConfigJSON order d) = finalizeGlobalConfigJSON order d := by
  rw [finalizeGlobalConfigJSON_eq]
  have htidy := tidy_normalizeConfigKeys order d
  cases hd : normalizeConfigKeys order d with
  | obj root =>
    rw [hd] at htidy
    refine rekey_id_amend hiter htidy.1.sorted fun e he => ?_
    have hvalue := tidyEntries_iff.mp htidy.2 e he
    split_ifs
    · exact rekey_id_providers hiter hvalue
    · exact hvalue.rekey_id hiter
  | _ =>
    rw [hd] at htidy
    exact htidy.rekey_id hiter

end Parsed

end PrismGateway.Storage
