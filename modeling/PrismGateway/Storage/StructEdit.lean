import PrismGateway.Storage.FieldMerge

namespace PrismGateway.Storage

open Lib

section Flat

variable {fs : Fields} {before after : fs.Vals} {es : Json.Entries} {spellings : List Alias}

theorem settle_merged {i : Item} (hleaf : i.schema.isLeaf = true) (o : Option Json) (j : Json) :
    i.settle (merged o j).toList = i.settle [j] := by
  cases j with
  | null =>
    rw [Item.settle_singleton,i.schema.decode_null_zero]
    rfl
  | obj patch =>
    rw [Item.settle_singleton,i.schema.decode_leaf_obj hleaf]
    rcases mergeValue_obj o patch with ⟨es,_,hmerge⟩ | ⟨_,hmerge⟩
    all_goals
      rw [merged,hmerge,Option.toList_some,Item.settle_singleton]
      · exact i.schema.decode_leaf_obj hleaf _ _
      · exact fun h => by cases h
  | _ => simp [merged,mergeValue]

theorem edited_merged_iff (hflat : fs.Flat) (hapart : aliasesApart spellings fs.names = true)
    (hes : (es.map Prod.fst).Nodup)
    (h : fs.decode fs.names (mergedEntries fs before es) fs.zero = some after) :
    fs.Edited spellings es before after ↔ fs.Taken spellings (placing [] fs.names) es before := by
  have hspelled : Spelled [] spellings fs :=
    ⟨hflat.nodup,hflat.dash,by simp [aliasesApart],hapart,by simp⟩
  refine Fields.edited_iff hflat h fun i hi => ⟨fun hm => ?_,fun k j hm => ?_⟩
  · exact congrArg i.settle (arriving_unmentioned hspelled hi hes hm)
  · obtain ⟨harrive,hsent⟩ := arriving_mentioned hspelled hi hes hm
    refine ⟨(congrArg i.settle harrive).trans ?_,hsent⟩
    split_ifs with hk
    · rw [placing,if_pos hk]
      exact settle_merged (hflat.leaf before i hi) _ j
    · rfl

theorem group_iff (hflat : fs.Flat) (hapart : aliasesApart spellings fs.names = true)
    (hes : (es.map Prod.fst).Nodup) {t : Placing} (ht : t ≠ .lost) {y : Json.Entries}
    (hreplaces : t = .replaces → y = mergedEntries fs before es) (hother : t ≠ .replaces → y = es)
    (h : fs.decode fs.names (t.order (written fs before) y) fs.zero = some after) :
    fs.Edited spellings es before after ↔ fs.Taken spellings (t.within fs.names true) es before := by
  cases t with
  | replaces =>
    rw [hreplaces rfl] at h
    exact edited_merged_iff hflat hapart hes h
  | later =>
    rw [hother (by simp)] at h
    exact Fields.edited_over_iff hflat hapart h
  | earlier =>
    rw [hother (by simp)] at h
    exact Fields.edited_under_iff hflat hapart h
  | lost => exact absurd rfl ht

end Flat

section Groups

variable {fs : Fields} {tag : Tag} {spellings : List Alias} {es : Json.Entries}

theorem settle_struct (v : fs.Vals) (t : Placing) (e e' : Json.Entries) :
    (⟨tag,.struct [] fs,v⟩ : Item).settle (t.order [.obj e] [.obj e']) =
      fs.decode fs.names (t.order e e') fs.zero := by
  cases t with
  | replaces => exact Item.settle_singleton _ _
  | later =>
    rw [Placing.order,Placing.order,Item.settle_append,Item.settle_singleton,fs.decode_append]
    exact congrArg _ (funext fun v => Item.foldlM_singleton _ _ v)
  | earlier =>
    rw [Placing.order,Placing.order,Item.settle_append,Item.settle_singleton,fs.decode_append]
    exact congrArg _ (funext fun v => Item.foldlM_singleton _ _ v)
  | lost => exact Item.settle_singleton _ _

theorem settle_ptr (v : Option fs.Vals) (t : Placing) (e e' : Json.Entries) :
    (⟨tag,.ptr (.struct [] fs),v⟩ : Item).settle (t.order [.obj e] [.obj e']) =
      (fs.decode fs.names (t.order e e') fs.zero).map some := by
  have hone : ∀ e, (⟨tag,.ptr (.struct [] fs),v⟩ : Item).settle [.obj e] =
      (fs.decode fs.names e fs.zero).map some := fun e => Item.settle_singleton _ _
  have htwo : ∀ e e', (⟨tag,.ptr (.struct [] fs),v⟩ : Item).settle ([.obj e] ++ [.obj e']) =
      (fs.decode fs.names (e ++ e') fs.zero).map some := by
    intro e e'
    rw [Item.settle_append,hone,fs.decode_append]
    cases fs.decode fs.names e fs.zero with
    | none => rfl
    | some w => exact Item.foldlM_singleton ⟨tag,.ptr (.struct [] fs),v⟩ _ _
  cases t with
  | replaces => exact hone e'
  | later => exact htwo e e'
  | earlier => exact htwo e' e
  | lost => exact hone e

end Groups

inductive Shape (spellings : List Alias) : Item → Prop
  | leaf (i : Item) (hleaf : i.schema.isLeaf = true) : Shape spellings i
  | struct (tag : Tag) (fs : Fields) (v : fs.Vals) (hflat : fs.Flat)
      (hapart : aliasesApart spellings fs.names = true) : Shape spellings ⟨tag,.struct [] fs,v⟩
  | pointer (tag : Tag) (fs : Fields) (v : Option fs.Vals) (homit : tag.omitempty = true)
      (hflat : fs.Flat) (hapart : aliasesApart spellings fs.names = true) :
      Shape spellings ⟨tag,.ptr (.struct [] fs),v⟩

section Given

variable {spellings aliases : List Alias} {names : List String} {i : Item} {k : String} {j : Json}
  {w : i.schema.Val}

theorem given_leaf : (s : Schema) → s.isLeaf = true → (j : Json) → (v w : s.Val) →
    (s.Given spellings j v w ↔ s.decode j s.zero = some w)
  | .bool, _, _, _, _ => Iff.rfl
  | .int, _, _, _, _ => Iff.rfl
  | .float, _, _, _, _ => Iff.rfl
  | .str, _, _, _, _ => Iff.rfl
  | .slice _, _, _, _, _ => Iff.rfl
  | .ptr .bool, _, _, _, _ => Iff.rfl
  | .ptr .int, _, _, _, _ => Iff.rfl
  | .ptr .float, _, _, _, _ => Iff.rfl
  | .ptr .str, _, _, _, _ => Iff.rfl
  | .ptr (.slice _), _, _, _, _ => Iff.rfl
  | .ptr (.ptr _), _, _, _, _ => Iff.rfl

theorem lands_leaf (t : Placing) (j : Json) : (i : Item) → i.schema.isLeaf = true →
    (i.Lands spellings t j ↔ i.Takes t j)
  | ⟨_,.bool,_⟩, _ => Iff.rfl
  | ⟨_,.int,_⟩, _ => Iff.rfl
  | ⟨_,.float,_⟩, _ => Iff.rfl
  | ⟨_,.str,_⟩, _ => Iff.rfl
  | ⟨_,.slice _,_⟩, _ => Iff.rfl
  | ⟨_,.ptr .bool,_⟩, _ => Iff.rfl
  | ⟨_,.ptr .int,_⟩, _ => Iff.rfl
  | ⟨_,.ptr .float,_⟩, _ => Iff.rfl
  | ⟨_,.ptr .str,_⟩, _ => Iff.rfl
  | ⟨_,.ptr (.slice _),_⟩, _ => Iff.rfl
  | ⟨_,.ptr (.ptr _),_⟩, _ => Iff.rfl

theorem settle_undecodable (hnone : ∀ v, i.schema.decode j v = none) {t : Placing} (ht : t ≠ .lost)
    (old : List Json) : i.settle (t.order old [j]) = none := by
  have hone : i.settle [j] = none := (Item.settle_singleton i j).trans (hnone _)
  cases t with
  | replaces => exact hone
  | later =>
    rw [Placing.order,Item.settle_append]
    cases i.settle old with
    | none => rfl
    | some v => exact (Item.foldlM_singleton i j v).trans (hnone v)
  | earlier =>
    rw [Placing.order,Item.settle_append,hone]
    rfl
  | lost => exact absurd rfl ht

theorem placing_ne_lost (hmeans : meaning aliases names k = some i.tag.name)
    (hplain : ∀ a ∈ aliases, a.canonical ≠ i.tag.name) (hj : j.isNull = false) :
    placing aliases names i k j ≠ .lost := by
  have hfield : fieldFor names k = some i.tag.name := by
    rw [meaning] at hmeans
    cases hfind : aliases.find? (fun a => a.legacy = k) with
    | none =>
      rw [hfind] at hmeans
      exact hmeans
    | some a =>
      rw [hfind] at hmeans
      exact absurd (Option.some.inj hmeans) (hplain a (List.mem_of_find?_eq_some hfind))
  rw [placing,if_pos hfield,hj]
  split_ifs <;> simp_all

theorem placing_null (hk : k ≠ i.tag.name) : placing aliases names i k .null = .lost := by
  rw [placing,if_neg hk]
  rfl

theorem given_null_iff (h : i.settle ((placing aliases names i k .null).order i.held
      (if k = i.tag.name then (merged i.held.head? .null).toList else [.null])) = some w) :
    i.schema.decode .null i.schema.zero = some w ↔ i.Takes (placing aliases names i k .null) .null := by
  by_cases hk : k = i.tag.name
  · have hreplaces : placing aliases names i k .null = .replaces := if_pos hk
    rw [hreplaces,if_pos hk] at h
    rw [hreplaces]
    exact iff_of_true (i.schema.decode_null_zero.trans h) trivial
  · rw [placing_null hk] at h ⊢
    have hkept : i.kept = some w := h
    rw [Item.Takes,hkept]

theorem merged_undecodable (hj : j.isNull = false) (hobj : ∀ es, j ≠ .obj es) (o : Option Json) :
    merged o j = some j := by
  cases j with
  | null => cases hj
  | obj es => exact absurd rfl (hobj es)
  | _ => simp [merged,mergeValue]

theorem placing_canonical (hk : k = i.tag.name) : placing aliases names i k j = .replaces := if_pos hk

theorem not_settled (hj : j.isNull = false) (hobj : ∀ es, j ≠ .obj es)
    (hnone : ∀ v, i.schema.decode j v = none) (ht : placing aliases names i k j ≠ .lost)
    (o : Option Json) : i.settle ((placing aliases names i k j).order i.held
      (if k = i.tag.name then (merged o j).toList else [j])) ≠ some w := by
  have hnew : (if k = i.tag.name then (merged o j).toList else [j]) = [j] := by
    rw [merged_undecodable hj hobj]
    exact ite_self _
  rw [hnew,settle_undecodable hnone ht]
  exact fun h => by cases h

theorem given_obj_iff {tag : Tag} {fs : Fields} {v after : fs.Vals} {es : Json.Entries} {t : Placing}
    {y : Json.Entries} (hflat : fs.Flat) (hapart : aliasesApart spellings fs.names = true)
    (hes : (es.map Prod.fst).Nodup) (ht : t ≠ .lost) (hreplaces : k = tag.name → t = .replaces)
    (hy : y = if k = tag.name then mergedEntries fs v es else es)
    (hboth : t = .replaces → k = tag.name)
    (h : fs.decode fs.names (t.order (written fs v) y) fs.zero = some after) :
    fs.Edited spellings es v after ↔ fs.Taken spellings (t.within fs.names true) es v := by
  refine group_iff hflat hapart hes ht (fun heq => ?_) (fun hne => ?_) h
  · rw [hy,if_pos (hboth heq)]
  · rw [hy,if_neg fun hk => hne (hreplaces hk)]

theorem canonical_of_replaces (hsent : i.sent = true)
    (h : placing aliases names i k j = .replaces) : k = i.tag.name := by
  by_contra hk
  rw [placing,if_neg hk] at h
  split_ifs at h with hnull hfield hlt halias
  rw [hsent] at halias
  cases halias.1

theorem merged_written {fs : Fields} {v : fs.Vals} {n : String} (es : Json.Entries) :
    (if k = n then (merged (some (.obj (written fs v))) (.obj es)).toList else [.obj es]) =
      [Json.obj (if k = n then mergedEntries fs v es else es)] := by
  split_ifs
  · rw [merged,mergeValue]
    · rfl
    · exact fun h => by cases h
  · rfl

theorem sent_pointer {tag : Tag} {fs : Fields} {v : Option fs.Vals} (hdash : tag.dash = false)
    (homit : tag.omitempty = true) :
    (⟨tag,.ptr (.struct [] fs),v⟩ : Item).sent = Option.isSome v := by
  have hsent : (⟨tag,.ptr (.struct [] fs),v⟩ : Item).sent = !v.isNone := by
    simp [Item.sent,Schema.isEmpty,hdash,homit]
    rfl
  rw [hsent]
  cases v <;> rfl

theorem held_pointer {tag : Tag} {fs : Fields} {v : Option fs.Vals} (hdash : tag.dash = false)
    (homit : tag.omitempty = true) : (⟨tag,.ptr (.struct [] fs),v⟩ : Item).held =
      if Option.isSome v then [.obj (written fs (Option.getD v fs.zero))] else [] := by
  rw [Item.held,sent_pointer hdash homit]
  cases v <;> rfl

theorem placing_unsent (hsent : i.sent = false) (hne : placing aliases names i k j ≠ .lost) :
    placing aliases names i k j = .replaces := by
  rw [placing] at hne ⊢
  split_ifs at hne ⊢ with hk hnull hfield hs hlt halias
  · rfl
  · exact absurd rfl hne
  · exact absurd (hsent.symm.trans hs) Bool.false_ne_true
  · exact absurd (hsent.symm.trans hs) Bool.false_ne_true
  · rfl
  · rfl
  · exact absurd rfl hne

theorem given_pointer_iff {tag : Tag} {fs : Fields} {v w : Option fs.Vals} {es : Json.Entries}
    {t : Placing} (hdash : tag.dash = false) (homit : tag.omitempty = true) (hflat : fs.Flat)
    (hapart : aliasesApart spellings fs.names = true) (hes : (es.map Prod.fst).Nodup)
    (ht : t = placing aliases names ⟨tag,.ptr (.struct [] fs),v⟩ k (.obj es)) (hne : t ≠ .lost)
    (h : (⟨tag,.ptr (.struct [] fs),v⟩ : Item).settle (t.order
        (⟨tag,.ptr (.struct [] fs),v⟩ : Item).held
        (if k = tag.name then (merged (⟨tag,.ptr (.struct [] fs),v⟩ : Item).held.head? (.obj es)).toList
          else [.obj es])) = some w) :
    (Schema.ptr (.struct [] fs)).Given spellings (.obj es) v w ↔
      fs.Taken spellings (t.within fs.names (Option.isSome v)) es (Option.getD v fs.zero) := by
  have hgiven : ∀ after, w = some after → ((Schema.ptr (.struct [] fs)).Given spellings (.obj es) v w ↔
      fs.Edited spellings es (Option.getD v fs.zero) after) := by
    rintro after rfl
    exact ⟨fun ⟨_,h,hedited⟩ => Option.some.inj h ▸ hedited,fun hedited => ⟨after,rfl,hedited⟩⟩
  have hwritten := sent_pointer (v := v) hdash homit
  rw [held_pointer hdash homit] at h
  cases hv : Option.isSome v with
  | false =>
    have hreplaces : t = .replaces := ht.trans
      (placing_unsent (hwritten.trans hv) (ht ▸ hne))
    have hnone : v = none := Option.not_isSome_iff_eq_none.mp (Bool.not_eq_true _ ▸ hv)
    rw [hv,hreplaces,if_neg Bool.false_ne_true,List.head?_nil,merged_none rfl,Option.toList_some,
      ite_self] at h
    obtain ⟨after,hafter,hw⟩ := Option.map_eq_some_iff.mp ((settle_ptr v .replaces [] es).symm.trans h)
    rw [hgiven after hw.symm,hreplaces,hnone]
    exact Fields.edited_alone_iff hflat hapart hafter
  | true =>
    rw [hv,if_pos rfl,List.head?_cons,merged_written,settle_ptr] at h
    obtain ⟨after,hafter,hw⟩ := Option.map_eq_some_iff.mp h
    rw [hgiven after hw.symm]
    exact given_obj_iff (k := k) hflat hapart hes hne (fun hk => ht.trans (placing_canonical hk)) rfl
      (fun heq => canonical_of_replaces (hwritten.trans hv) (ht ▸ heq)) hafter

theorem given_iff (hshape : Shape spellings i) (hd : i.tag.dash = false)
    (hmeans : meaning aliases names k = some i.tag.name)
    (hplain : i.schema.isLeaf = false → ∀ a ∈ aliases, a.canonical ≠ i.tag.name)
    (hinner : ∀ es, j = .obj es → (es.map Prod.fst).Nodup)
    (hsent : placing aliases names i k j = .earlier → i.sent = true)
    (h : i.settle ((placing aliases names i k j).order i.held
      (if k = i.tag.name then (merged i.held.head? j).toList else [j])) = some w) :
    i.schema.Given spellings j i.val w ↔ i.Lands spellings (placing aliases names i k j) j := by
  cases hshape with
  | leaf _ hleaf =>
    rw [given_leaf _ hleaf,lands_leaf _ _ i hleaf]
    refine Item.takes_iff hleaf hsent ?_
    by_cases hk : k = i.tag.name
    · rw [placing_canonical hk,if_pos hk] at h
      rw [placing_canonical hk]
      exact (settle_merged hleaf _ j).symm.trans h
    · rwa [if_neg hk] at h
  | struct tag fs v hflat hapart =>
    have hdash : tag.dash = false := hd
    have hwritten : (⟨tag,.struct [] fs,v⟩ : Item).sent = true := by
      simp [Item.sent,Schema.isEmpty,hdash]
    have hheld : (⟨tag,.struct [] fs,v⟩ : Item).held = [.obj (written fs v)] := if_pos hwritten
    have hne := fun hj => placing_ne_lost (j := j) hmeans (hplain rfl) hj
    cases j with
    | null => exact given_null_iff h
    | obj es =>
      rw [hheld,List.head?_cons,merged_written,settle_struct] at h
      exact given_obj_iff (k := k) hflat hapart (hinner es rfl) (hne rfl) placing_canonical rfl
        (canonical_of_replaces hwritten) h
    | _ => exact absurd h (not_settled rfl (fun _ h => by cases h) (fun _ => rfl) (hne rfl) _)
  | pointer tag fs v homit hflat hapart =>
    have hdash : tag.dash = false := hd
    have hne := fun hj => placing_ne_lost (j := j) hmeans (hplain rfl) hj
    cases j with
    | null => exact given_null_iff h
    | obj es => exact given_pointer_iff hdash homit hflat hapart (hinner es rfl) rfl (hne rfl) h
    | _ => exact absurd h (not_settled rfl (fun _ h => by cases h) (fun _ => rfl) (hne rfl) _)

end Given

def EditedFields (aliases : List Alias) (spellings : String → List Alias) (p : String → Prop)
    (patch : Json.Entries) (fs : Fields) (before after : fs.Vals) : Prop :=
  fs.Pairs (fun tag s v w => p tag.name → Asked (mentions aliases fs.names tag.name patch) (w = v)
    (fun _ j => s.Given (spellings tag.name) j v w)) before after

def TakenFields (aliases : List Alias) (spellings : String → List Alias) (p : String → Prop)
    (patch : Json.Entries) (fs : Fields) (before : fs.Vals) : Prop :=
  ∀ i ∈ fs.items before, p i.tag.name → Asked (mentions aliases fs.names i.tag.name patch)
    (i.kept = some i.val) (fun k j => i.Lands (spellings i.tag.name) (placing aliases fs.names i k j) j)

structure Nested (aliases : List Alias) (spellings : String → List Alias) (fs : Fields) : Prop where
  nodup : fs.names.Nodup
  dash : ∀ v, ∀ i ∈ fs.items v, i.tag.dash = false
  apart : aliasesApart aliases fs.names = true
  shape : ∀ v, ∀ i ∈ fs.items v, Shape (spellings i.tag.name) i
  plain : ∀ v, ∀ i ∈ fs.items v, i.schema.isLeaf = false → ∀ a ∈ aliases, a.canonical ≠ i.tag.name

theorem edited_fields_iff {aliases : List Alias} {spellings : String → List Alias} {p : String → Prop}
    {patch : Json.Entries} {fs : Fields} {before after : fs.Vals} (hnested : Nested aliases spellings fs)
    (hpatch : (patch.map Prod.fst).Nodup)
    (hinner : ∀ e ∈ patch, ∀ es, e.2 = .obj es → (es.map Prod.fst).Nodup)
    (h : (Schema.struct aliases fs).decode (.obj (mergedEntries fs before patch)) fs.zero = some after) :
    EditedFields aliases spellings p patch fs before after ↔
      TakenFields aliases spellings p patch fs before := by
  have hspelled : Spelled aliases aliases fs :=
    ⟨hnested.nodup,hnested.dash,hnested.apart,hnested.apart,fun _ ha => ha⟩
  rw [Schema.decode_struct] at h
  refine fs.pairs_iff before after h fun i hi w hw => imp_congr_right fun _ => ?_
  have hd := hnested.dash before i hi
  rw [receive_eq_settle hd] at hw
  refine asked_congr (fun hm => ?_) (fun k j hm => ?_)
  · have harrive := arriving_unmentioned hspelled hi hpatch hm
    have hkept : i.kept = some w := (congrArg i.settle harrive).symm.trans hw
    rw [hkept,Option.some.injEq]
  · obtain ⟨harrive,hsent⟩ := arriving_mentioned hspelled hi hpatch hm
    have hmem : (k,j) ∈ patch ∧ meaning aliases fs.names k = some i.tag.name := by
      have hin : (k,j) ∈ mentions aliases fs.names i.tag.name patch := by simp [hm]
      simpa [mentions] using hin
    exact given_iff (hnested.shape before i hi) hd hmem.2 (hnested.plain before i hi)
      (fun es hes => hinner (k,j) hmem.1 es hes) hsent ((congrArg i.settle harrive).symm.trans hw)

end PrismGateway.Storage
