import PrismGateway.Lib.Decoding
import PrismGateway.Storage.Normalize

namespace PrismGateway.Storage

open Lib

mutual

def mergeValue (target : Option Json) : Json → Json
  | .obj patch => match target with
    | some (.obj entries) => .obj (mergeMaps entries patch)
    | _ => .obj patch
  | j => j

def mergeMaps (target : Json.Entries) : Json.Entries → Json.Entries
  | [] => target
  | (k,j) :: patch =>
    let result := mergeMaps target patch
    match j with
    | .null => GoMap.erase k result
    | j => GoMap.insert k (mergeValue (result.lookup k) j) result

end

def merged (target : Option Json) : Json → Option Json
  | .null => none
  | j => some (mergeValue target j)

theorem lookup_mergeMaps {target patch : Json.Entries} (hnodup : (patch.map Prod.fst).Nodup) :
    ∀ x, (mergeMaps target patch).lookup x =
      (patch.lookup x).elim (target.lookup x) (merged (target.lookup x)) := by
  induction patch with
  | nil => simp [mergeMaps]
  | cons e patch ih =>
    intro x
    obtain ⟨k,j⟩ := e
    obtain ⟨hk,hnodup⟩ := List.nodup_cons.mp hnodup
    have habsent : patch.lookup k = none := by
      rw [List.lookup_eq_none_iff]
      intro e he
      rw [bne_iff_ne]
      intro heq
      have hmem : e.1 ∈ patch.map Prod.fst := List.mem_map_of_mem he
      exact hk (heq ▸ hmem)
    have hkept : (mergeMaps target patch).lookup k = target.lookup k := by
      rw [ih hnodup,habsent]
      rfl
    have hstep : (mergeMaps target ((k,j) :: patch)).lookup x =
        if x = k then merged (target.lookup k) j else (mergeMaps target patch).lookup x := by
      cases j with
      | null => rw [mergeMaps,GoMap.lookup_erase,merged]
      | _ =>
        rw [mergeMaps,GoMap.lookup_insert,hkept,merged]
        all_goals exact fun h => by cases h
    rw [hstep,GoMap.lookup_cons_eq]
    split_ifs with h
    · rw [h]
      rfl
    · exact ih hnodup x

theorem forall_mergeMaps {P : String → Json → Prop} {target patch : Json.Entries}
    (hmerge : ∀ e ∈ patch, ∀ o, (∀ x, o = some x → P e.1 x) → P e.1 e.2 → P e.1 (mergeValue o e.2))
    (htarget : ∀ e ∈ target, P e.1 e.2) (hpatch : ∀ e ∈ patch, P e.1 e.2) :
    ∀ e ∈ mergeMaps target patch, P e.1 e.2 := by
  induction patch with
  | nil => simpa [mergeMaps] using htarget
  | cons e patch ih =>
    obtain ⟨k,j⟩ := e
    obtain ⟨hj,hpatch⟩ := List.forall_mem_cons.mp hpatch
    obtain ⟨hhead,hmerge⟩ := List.forall_mem_cons.mp hmerge
    have hrest := ih hmerge hpatch
    have hvalue : P k (mergeValue ((mergeMaps target patch).lookup k) j) :=
      hhead _ (fun x hx => hrest (k,x) (GoMap.mem_of_lookup hx)) hj
    cases j with
    | null =>
      rw [mergeMaps]
      exact fun e he => hrest e (List.mem_of_mem_filter he)
    | _ =>
      rw [mergeMaps]
      · intro e he
        rcases GoMap.mem_of_mem_insert he with rfl | he
        · exact hvalue
        · exact hrest e he
      · exact fun h => by cases h

theorem mergeValue_obj (o : Option Json) (patch : Json.Entries) :
    (∃ es, o = some (.obj es) ∧ mergeValue o (.obj patch) = .obj (mergeMaps es patch)) ∨
      (∀ es, o ≠ some (.obj es)) ∧ mergeValue o (.obj patch) = .obj patch := by
  cases o with
  | none =>
    refine .inr ⟨fun _ h => (by cases h),?_⟩
    rw [mergeValue]
    exact fun _ h => by cases h
  | some x =>
    cases x with
    | obj es => exact .inl ⟨es,rfl,by rw [mergeValue]⟩
    | _ =>
      refine .inr ⟨fun _ h => (by cases h),?_⟩
      rw [mergeValue]
      exact fun _ h => by cases h

mutual

theorem accepts_mergeValue : (s : Schema) → (o : Option Json) → (j : Json) →
    (∀ x, o = some x → s.accepts x = true) → s.accepts j = true →
    s.accepts (mergeValue o j) = true
  | s, o, .null, _, hj => by rwa [mergeValue]; exact fun _ h => by cases h
  | s, o, .bool b, _, hj => by rwa [mergeValue]; exact fun _ h => by cases h
  | s, o, .num x, _, hj => by rwa [mergeValue]; exact fun _ h => by cases h
  | s, o, .str t, _, hj => by rwa [mergeValue]; exact fun _ h => by cases h
  | s, o, .arr items, _, hj => by rwa [mergeValue]; exact fun _ h => by cases h
  | .ptr s, o, .obj patch, ho, hj => by
    have htarget : ∀ x, o = some x → s.accepts x = true := by
      intro x hx
      have hptr := ho x hx
      cases x with
      | null => exact s.accepts_null
      | _ => exact hptr
    have hmerged := accepts_mergeValue s o (.obj patch) htarget hj
    rcases mergeValue_obj o patch with ⟨es,_,hmerge⟩ | ⟨_,hmerge⟩
    · rw [hmerge] at hmerged ⊢
      exact hmerged
    · rw [hmerge] at hmerged ⊢
      exact hmerged
  | .dict s, o, .obj patch, ho, hj => by
    rcases mergeValue_obj o patch with ⟨es,rfl,hmerge⟩ | ⟨_,hmerge⟩
    · rw [hmerge]
      refine List.all_eq_true.mpr (forall_mergeMaps (P := fun _ j => s.accepts j = true) ?_ ?_ ?_)
      · exact fun e _ o => accepts_mergeValue s o e.2
      · exact List.all_eq_true.mp (ho _ rfl)
      · exact List.all_eq_true.mp hj
    · rwa [hmerge]
  | .struct aliases fs, o, .obj patch, ho, hj => by
    rcases mergeValue_obj o patch with ⟨es,rfl,hmerge⟩ | ⟨_,hmerge⟩
    · rw [hmerge]
      refine List.all_eq_true.mpr
        (forall_mergeMaps (P := fun k j => fs.accept (fieldFor fs.names k) j = true) ?_ ?_ ?_)
      · exact fun e _ o => accept_mergeValue fs (fieldFor fs.names e.1) o e.2
      · exact List.all_eq_true.mp (ho _ rfl)
      · exact List.all_eq_true.mp hj
    · rwa [hmerge]
  | .bool, _, .obj _, _, hj => by cases hj
  | .int, _, .obj _, _, hj => by cases hj
  | .float, _, .obj _, _, hj => by cases hj
  | .str, _, .obj _, _, hj => by cases hj
  | .slice _, _, .obj _, _, hj => by cases hj

theorem accept_mergeValue : (fs : Fields) → (name : Option String) → (o : Option Json) → (j : Json) →
    (∀ x, o = some x → fs.accept name x = true) → fs.accept name j = true →
    fs.accept name (mergeValue o j) = true
  | .nil, _, _, _, _, _ => rfl
  | .cons tag s rest, name, o, j, ho, hj => by
    simp only [Fields.accept,Bool.and_eq_true,Bool.or_eq_true] at ho hj ⊢
    refine ⟨?_,accept_mergeValue rest name o j (fun x hx => (ho x hx).2) hj.2⟩
    by_cases hskip : tag.dash = true ∨ decide (name ≠ some tag.name) = true
    · exact .inl hskip
    · exact .inr (accepts_mergeValue s o j (fun x hx => (ho x hx).1.resolve_left hskip)
        (hj.1.resolve_left hskip))

end

theorem sorted_mergeMaps {target : Json.Entries} (h : GoMap.Sorted target) (patch : Json.Entries) :
    GoMap.Sorted (mergeMaps target patch) := by
  induction patch with
  | nil => simpa [mergeMaps] using h
  | cons e patch ih =>
    obtain ⟨k,j⟩ := e
    cases j with
    | null =>
      rw [mergeMaps]
      exact GoMap.sorted_erase ih
    | _ =>
      rw [mergeMaps]
      · exact GoMap.sorted_insert ih
      · exact fun h => by cases h

theorem mem_keys_mergeMaps {target patch : Json.Entries} {x : String}
    (h : x ∈ (mergeMaps target patch).map Prod.fst) :
    x ∈ target.map Prod.fst ∨ x ∈ patch.map Prod.fst := by
  induction patch with
  | nil => exact .inl (by simpa [mergeMaps] using h)
  | cons e patch ih =>
    obtain ⟨k,j⟩ := e
    have hcases : x = k ∨ x ∈ (mergeMaps target patch).map Prod.fst := by
      cases j with
      | null =>
        rw [mergeMaps] at h
        exact .inr (List.map_subset _ (List.filter_subset_self _) h)
      | _ =>
        rw [mergeMaps] at h
        · exact GoMap.mem_keys_insert.mp h
        · exact fun h => by cases h
    rcases hcases with rfl | h
    · exact .inr List.mem_cons_self
    · exact (ih h).imp_right (List.mem_cons_of_mem k)

def asMap : Json → Option Json.Entries
  | .obj entries => some entries
  | .null => some []
  | _ => none

/-- The document `PatchTenantConfig` computes from the configuration that `GetTenantConfig`
returned; `order` is the map iteration order of the pass over the patch. -/
def patchedTenantConfig (order : Json.MapOrder) (currentJSON mergePatchJSON : Json) :
    Except String Json :=
  match asMap currentJSON, asMap (normalizeConfigKeys order mergePatchJSON) with
  | none, _ => .error "unmarshal current config"
  | _, none => .error "unmarshal patch"
  | some current, some patch => .ok (.obj (mergeMaps current patch))

theorem patchedTenantConfig_ok {order : Json.MapOrder} {currentJSON mergePatchJSON doc : Json}
    (h : patchedTenantConfig order currentJSON mergePatchJSON = .ok doc) :
    ∃ current patch, asMap currentJSON = some current ∧
      asMap (normalizeConfigKeys order mergePatchJSON) = some patch ∧
      doc = .obj (mergeMaps current patch) := by
  rw [patchedTenantConfig] at h
  cases hcurrent : asMap currentJSON with
  | none =>
    rw [hcurrent] at h
    cases h
  | some current =>
    cases hpatch : asMap (normalizeConfigKeys order mergePatchJSON) with
    | none =>
      rw [hcurrent,hpatch] at h
      cases h
    | some patch =>
      rw [hcurrent,hpatch] at h
      cases h
      exact ⟨current,patch,rfl,rfl,rfl⟩

mutual

def Tidy : Json → Prop
  | .arr items => TidyItems items
  | .obj es => Settled es ∧ TidyEntries es
  | _ => True

def TidyItems : List Json → Prop
  | [] => True
  | j :: items => Tidy j ∧ TidyItems items

def TidyEntries : Json.Entries → Prop
  | [] => True
  | (_,j) :: es => Tidy j ∧ TidyEntries es

end

theorem tidyItems_iff {items : List Json} : TidyItems items ↔ ∀ j ∈ items, Tidy j := by
  induction items with
  | nil => simp [TidyItems]
  | cons j items ih => simp [TidyItems,ih]

theorem tidyEntries_iff {es : Json.Entries} : TidyEntries es ↔ ∀ e ∈ es, Tidy e.2 := by
  induction es with
  | nil => simp [TidyEntries]
  | cons e es ih =>
    obtain ⟨k,j⟩ := e
    simp [TidyEntries,ih]

mutual

theorem tidy_normalizeConfigKeys (order : Json.MapOrder) : (j : Json) →
    Tidy (normalizeConfigKeys order j)
  | .null => trivial
  | .bool _ => trivial
  | .num _ => trivial
  | .str _ => trivial
  | .arr items => by
    rw [normalizeConfigKeys,Json.rekey_arr,Tidy,tidyItems_iff]
    intro j hj
    obtain ⟨j',hj',rfl⟩ := List.mem_map.mp hj
    exact tidy_normalizeItems order items j' hj'
  | .obj es => by
    rw [normalizeConfigKeys,Json.rekey_obj,Tidy,tidyEntries_iff]
    refine ⟨settled_arrivals order es,fun e he => ?_⟩
    obtain ⟨e',he',rfl⟩ := List.mem_map.mp ((order.perm _).subset (GoMap.mem_of_mem_ofList he))
    exact tidy_normalizeEntries order es e' he'

theorem tidy_normalizeItems (order : Json.MapOrder) : (items : List Json) →
    ∀ j ∈ items, Tidy (normalizeConfigKeys order j)
  | [] => by simp
  | j :: items => List.forall_mem_cons.mpr
      ⟨tidy_normalizeConfigKeys order j,tidy_normalizeItems order items⟩

theorem tidy_normalizeEntries (order : Json.MapOrder) : (es : Json.Entries) →
    ∀ e ∈ es, Tidy (normalizeConfigKeys order e.2)
  | [] => by simp
  | (_,j) :: es => List.forall_mem_cons.mpr
      ⟨tidy_normalizeConfigKeys order j,tidy_normalizeEntries order es⟩

end

mutual

theorem Tidy.normalizeConfigKeys_eq (order : Json.MapOrder) : (j : Json) → Tidy j →
    normalizeConfigKeys order j = j
  | .null, _ => Json.rekey_null
  | .bool b, _ => Json.rekey_bool b
  | .num x, _ => Json.rekey_num x
  | .str s, _ => Json.rekey_str s
  | .arr items, h => by
    rw [normalizeConfigKeys,Json.rekey_arr]
    exact congrArg Json.arr (TidyItems.normalize_eq order items h)
  | .obj es, h => by
    rw [h.1.normalizeConfigKeys order]
    exact congrArg Json.obj (TidyEntries.normalize_eq order es h.2)

theorem TidyItems.normalize_eq (order : Json.MapOrder) : (items : List Json) → TidyItems items →
    items.map (normalizeConfigKeys order) = items
  | [], _ => rfl
  | j :: items, h => by
    rw [List.map_cons,Tidy.normalizeConfigKeys_eq order j h.1,TidyItems.normalize_eq order items h.2]

theorem TidyEntries.normalize_eq (order : Json.MapOrder) : (es : Json.Entries) → TidyEntries es →
    es.map (fun e => (e.1,normalizeConfigKeys order e.2)) = es
  | [], _ => rfl
  | (k,j) :: es, h => by
    rw [List.map_cons,Tidy.normalizeConfigKeys_eq order j h.1,TidyEntries.normalize_eq order es h.2]

end

theorem settled_nil : Settled [] := ⟨List.Pairwise.nil,by simp⟩

theorem settled_asMap {order : Json.MapOrder} {data : Json} {es : Json.Entries}
    (h : asMap (normalizeConfigKeys order data) = some es) : Settled es := by
  cases data with
  | obj entries =>
    rw [normalizeConfigKeys,Json.rekey_obj] at h
    cases h
    exact settled_arrivals order entries
  | null =>
    rw [normalizeConfigKeys,Json.rekey_null] at h
    cases h
    exact settled_nil
  | _ => simp [normalizeConfigKeys,asMap] at h

theorem settled_mergeMaps {target patch : Json.Entries} (htarget : Settled target)
    (hpatch : Settled patch) : Settled (mergeMaps target patch) := by
  refine ⟨sorted_mergeMaps htarget.sorted patch,?_⟩
  intro k hk
  rcases mem_keys_mergeMaps hk with hk | hk
  · exact htarget.fixed k hk
  · exact hpatch.fixed k hk

mutual

theorem tidy_mergeValue : (o : Option Json) → (j : Json) → (∀ x, o = some x → Tidy x) → Tidy j →
    Tidy (mergeValue o j)
  | o, .obj patch, ho, hj => by
    rcases mergeValue_obj o patch with ⟨es,rfl,hmerge⟩ | ⟨_,hmerge⟩
    · rw [hmerge]
      have htarget := ho _ rfl
      refine ⟨settled_mergeMaps htarget.1 hj.1,tidyEntries_iff.mpr ?_⟩
      exact forall_mergeMaps (P := fun _ j => Tidy j) (tidy_mergeEntries patch)
        (tidyEntries_iff.mp htarget.2) (tidyEntries_iff.mp hj.2)
    · rwa [hmerge]
  | _, .null, _, hj => hj
  | _, .bool _, _, hj => hj
  | _, .num _, _, hj => hj
  | _, .str _, _, hj => hj
  | _, .arr _, _, hj => hj

theorem tidy_mergeEntries : (patch : Json.Entries) → ∀ e ∈ patch, ∀ o,
    (∀ x, o = some x → Tidy x) → Tidy e.2 → Tidy (mergeValue o e.2)
  | [] => by simp
  | (_,j) :: patch => List.forall_mem_cons.mpr
      ⟨fun o => tidy_mergeValue o j,tidy_mergeEntries patch⟩

end

theorem tidy_mergeMaps {target patch : Json.Entries} (htarget : Tidy (.obj target))
    (hpatch : Tidy (.obj patch)) : Tidy (.obj (mergeMaps target patch)) := by
  have hmerge := tidy_mergeValue (some (.obj target)) (.obj patch) (fun x hx => by cases hx; exact htarget)
    hpatch
  rwa [mergeValue] at hmerge

theorem tidy_of_asMap {j : Json} {es : Json.Entries} (h : asMap j = some es) (hj : Tidy j) :
    Tidy (.obj es) := by
  cases j with
  | obj entries =>
    cases h
    exact hj
  | null =>
    cases h
    exact ⟨settled_nil,trivial⟩
  | _ => cases h

end PrismGateway.Storage
