import PrismGateway.Lib.MergePatch
import PrismGateway.Storage.MergePatch

namespace PrismGateway.Storage

open Lib Lib.Json

/-- A JSON object as `json.Unmarshal` leaves it. -/
structure JsonObject where
  entries : Json.Entries
  ordered : Ordered (.obj entries)

mutual

def Lands (target : Option Json) : Json → Prop
  | .obj patch => match target with
    | some (.obj es) => LandMembers es patch
    | _ => NullFreeMembers patch
  | _ => True

def LandMembers (target : Json.Entries) : Json.Entries → Prop
  | [] => True
  | (k,j) :: patch => Lands (target.lookup k) j ∧ LandMembers target patch

end

structure Conforms (target patch : Json.Entries) : Prop where
  rfc : mergeMaps target patch = mergeMembers target patch
  nulls : ∀ path, (Json.obj patch).read path = some .null →
    (Json.obj (mergeMaps target patch)).read path = none
  twice : mergeMaps (mergeMaps target patch) patch = mergeMaps target patch

theorem landMembers_iff {target patch : Json.Entries} :
    LandMembers target patch ↔ ∀ e ∈ patch, Lands (target.lookup e.1) e.2 := by
  induction patch with
  | nil => simp [LandMembers]
  | cons e patch ih =>
    obtain ⟨k,j⟩ := e
    simp [LandMembers,ih]

theorem mergeMaps_eq_iff {target patch : Json.Entries} (htarget : GoMap.Sorted target)
    (hpatch : GoMap.Sorted patch) : mergeMaps target patch = mergeMembers target patch ↔
      ∀ e ∈ patch, merged (target.lookup e.1) e.2 = patched (target.lookup e.1) e.2 := by
  constructor
  · intro h e he
    have hlookup := @lookup_mergeMaps target patch hpatch.nodup e.1
    rw [h,lookup_mergeMembers hpatch.nodup,GoMap.lookup_of_mem hpatch.nodup he] at hlookup
    exact hlookup.symm
  · intro h
    refine GoMap.Sorted.ext (sorted_mergeMaps htarget patch) (sorted_mergeMembers htarget patch)
      fun x => ?_
    rw [lookup_mergeMaps hpatch.nodup,lookup_mergeMembers hpatch.nodup]
    cases hx : patch.lookup x with
    | none => rfl
    | some j => exact h (x,j) (GoMap.mem_of_lookup hx)

theorem merged_eq_mergeValue {o : Option Json} {j : Json} (h : j ≠ .null) :
    merged o j = some (mergeValue o j) := by
  cases j with
  | null => exact absurd rfl h
  | _ => rfl

mutual

theorem merged_eq_iff : (j : Json) → Ordered j → (o : Option Json) → (∀ x ∈ o, Ordered x) →
    (merged o j = patched o j ↔ Lands o j)
  | .null, _, _, _ => by simp [merged,patched,Lands]
  | .bool _, _, _, _ => by simp [merged,patched,Lands,mergeValue,mergePatch]
  | .num _, _, _, _ => by simp [merged,patched,Lands,mergeValue,mergePatch]
  | .str _, _, _, _ => by simp [merged,patched,Lands,mergeValue,mergePatch]
  | .arr _, _, _, _ => by simp [merged,patched,Lands,mergeValue,mergePatch]
  | .obj patch, hj, o, ho => by
    rw [merged_eq_mergeValue (by simp),patched_of_ne (by simp),Option.some.injEq]
    rcases mergeValue_obj o patch with ⟨es,rfl,hmerge⟩ | ⟨hother,hmerge⟩
    · have hes := ho _ rfl
      rw [hmerge,mergePatch_obj,Json.obj.injEq,Lands]
      exact (mergeMaps_eq_iff hes.1 hj.1).trans
        ((mergedMembers_eq_iff patch hj.2 es hes.2).trans landMembers_iff.symm)
    · have hnil : membersOf o = [] := by
        rcases o with _ | _ | _ | _ | _ | _ | es
        all_goals first | rfl | exact absurd rfl (hother es)
      have hlands : Lands o (.obj patch) ↔ NullFreeMembers patch := by
        rcases o with _ | _ | _ | _ | _ | _ | es
        all_goals first | exact absurd rfl (hother es) | simp [Lands]
      rw [hmerge,mergePatch_obj,hnil,Json.obj.injEq,hlands,eq_comm]
      exact mergeMembers_nil_iff hj

theorem mergedMembers_eq_iff : (patch : Json.Entries) → OrderedMembers patch →
    (target : Json.Entries) → OrderedMembers target →
      ((∀ e ∈ patch, merged (target.lookup e.1) e.2 = patched (target.lookup e.1) e.2) ↔
        ∀ e ∈ patch, Lands (target.lookup e.1) e.2)
  | [], _, _, _ => by simp
  | (k,j) :: patch, hpatch, target, htarget => by
    rw [List.forall_mem_cons,List.forall_mem_cons]
    exact and_congr (merged_eq_iff j hpatch.1 (target.lookup k) htarget.of_lookup)
      (mergedMembers_eq_iff patch hpatch.2 target htarget)

end

mutual

theorem lands_patched : (j : Json) → Ordered j → (o : Option Json) → Lands (patched o j) j
  | .null, _, _ => trivial
  | .bool _, _, _ => trivial
  | .num _, _, _ => trivial
  | .str _, _, _ => trivial
  | .arr _, _, _ => trivial
  | .obj patch, h, o => by
    rw [patched_of_ne (by simp),mergePatch_obj,Lands]
    refine landMembers_iff.mpr fun e he => ?_
    rw [lookup_mergeMembers h.1.nodup,GoMap.lookup_of_mem h.1.nodup he]
    exact land_patched patch h.2 e he _

theorem land_patched : (patch : Json.Entries) → OrderedMembers patch → ∀ e ∈ patch,
    ∀ o : Option Json, Lands (patched o e.2) e.2
  | [], _ => by simp
  | (_,j) :: patch, h => List.forall_mem_cons.mpr ⟨lands_patched j h.1,land_patched patch h.2⟩

end

theorem mergeMaps_rfc_iff {target patch : Json.Entries} (htarget : Ordered (.obj target))
    (hpatch : Ordered (.obj patch)) :
    mergeMaps target patch = mergeMembers target patch ↔ LandMembers target patch :=
  (mergeMaps_eq_iff htarget.1 hpatch.1).trans
    ((mergedMembers_eq_iff patch hpatch.2 target htarget.2).trans landMembers_iff.symm)

theorem merge_conforms_iff (target patch : JsonObject) :
    Conforms target.entries patch.entries ↔ LandMembers target.entries patch.entries := by
  constructor
  · intro h
    exact (mergeMaps_rfc_iff target.ordered patch.ordered).mp h.rfc
  · intro h
    have hrfc := (mergeMaps_rfc_iff target.ordered patch.ordered).mpr h
    have hresult : Ordered (.obj (mergeMembers target.entries patch.entries)) :=
      ⟨sorted_mergeMembers target.ordered.1 _,
        ordered_mergeMembers _ patch.ordered.2 _ target.ordered.2⟩
    refine ⟨hrfc,fun path hread => ?_,?_⟩
    · rw [hrfc]
      exact read_mergeMembers_null patch.ordered hread
    · have hlands := lands_patched (.obj patch.entries) patch.ordered (some (.obj target.entries))
      rw [patched_of_ne (by simp),mergePatch_obj,Lands] at hlands
      rw [hrfc]
      calc mergeMaps (mergeMembers target.entries patch.entries) patch.entries
          = mergeMembers (mergeMembers target.entries patch.entries) patch.entries :=
            (mergeMaps_rfc_iff hresult patch.ordered).mpr hlands
        _ = mergeMembers target.entries patch.entries :=
            mergeMembers_twice target.ordered patch.ordered

theorem nested_null_stored :
    let patch := [("budget",Json.obj [("daily",.null)])]
    Ordered (.obj patch) ∧ (Json.obj (mergeMaps [] patch)).read ["budget","daily"] = some .null ∧
      ¬Conforms [] patch := by
  refine ⟨?_,rfl,fun h => ?_⟩
  · exact ⟨List.pairwise_singleton _ _,⟨List.pairwise_singleton _ _,trivial,trivial⟩,trivial⟩
  · have hnull := h.nulls ["budget","daily"] rfl
    cases hnull

end PrismGateway.Storage
