import PrismGateway.Lib.GroupEdit
import PrismGateway.Storage.MergePatch

namespace PrismGateway.Storage

open Lib

theorem merged_none {j : Json} (hj : j.isNull = false) : merged none j = some j := by
  cases j with
  | null => cases hj
  | _ => simp [merged,mergeValue]

section Merged

variable {fs : Fields} {before : fs.Vals} {patch : Json.Entries} {aliases spellings : List Alias}
  {i : Item}

def written (fs : Fields) (v : fs.Vals) : Json.Entries := GoMap.ofList (fs.emit v)

theorem keys_written {k : String} (h : k ∈ (written fs before).map Prod.fst) : k ∈ fs.names :=
  (fs.emit_sublist before).subset (GoMap.mem_keys_ofList.mp h)

theorem lookup_written_eq_none {x : String} (hx : x ∉ fs.names) :
    (written fs before).lookup x = none := by
  rw [← Option.not_isSome_iff_eq_none,GoMap.isSome_lookup_iff]
  exact fun h => hx (keys_written h)

theorem lookup_written (hnodup : fs.names.Nodup) (hi : i ∈ fs.items before)
    (hd : i.tag.dash = false) : (written fs before).lookup i.tag.name = i.held.head? := by
  have hkeys : ((fs.emit before).map Prod.fst).Nodup := (fs.emit_sublist before).nodup hnodup
  rw [written,GoMap.lookup_ofList hkeys,GoMap.lookup_eq_head_filter,Fields.filter_emit hnodup hi hd,
    Item.held]
  cases i.sent <;> rfl

theorem lookup_written_field (hnodup : fs.names.Nodup) (hi : i ∈ fs.items before)
    (hd : i.tag.dash = false) {x : String} (hx : fieldFor fs.names x = some i.tag.name) :
    (written fs before).lookup x = if x = i.tag.name then i.held.head? else none := by
  split_ifs with heq
  · rw [heq]
    exact lookup_written hnodup hi hd
  · refine lookup_written_eq_none fun hmem => heq ?_
    rw [fieldFor_of_mem hmem] at hx
    exact Option.some.inj hx

def mergedEntries (fs : Fields) (before : fs.Vals) (patch : Json.Entries) : Json.Entries :=
  mergeMaps (written fs before) patch

def arrivedEntries (aliases : List Alias) (fs : Fields) (before : fs.Vals) (patch : Json.Entries) :
    Json.Entries :=
  aliases.foldl (fun es a => a.apply es) (mergedEntries fs before patch)

theorem sorted_merged (before : fs.Vals) (patch : Json.Entries) :
    GoMap.Sorted (mergedEntries fs before patch) :=
  sorted_mergeMaps (GoMap.sorted_ofList _) patch

theorem lookup_arrived_inert (hapart : aliasesApart aliases fs.names = true) {n x : String}
    (hx : fieldFor fs.names x = some n)
    (hinert : ∀ a ∈ aliases, a.canonical = n →
      ((mergedEntries fs before patch).lookup n).isSome = true ∨
        (mergedEntries fs before patch).lookup a.legacy = none) :
    (arrivedEntries aliases fs before patch).lookup x = (mergedEntries fs before patch).lookup x := by
  rw [arrivedEntries,lookup_applyAll hapart (sorted_merged before patch) hx]
  cases hfind : aliases.find? (fun a => a.canonical = n) with
  | none => rfl
  | some a =>
    have hcanonical : a.canonical = n := by simpa using List.find?_some hfind
    dsimp only
    rw [Alias.find,hcanonical]
    split_ifs with hsome hxn hxl
    · rfl
    · have hlegacy := (hinert a (List.mem_of_find?_eq_some hfind) hcanonical).resolve_left hsome
      rw [hlegacy,hxn]
      exact (Option.not_isSome_iff_eq_none.mp hsome).symm
    · have hlegacy := (hinert a (List.mem_of_find?_eq_some hfind) hcanonical).resolve_left hsome
      rw [hxl.2,hlegacy]
    · rfl

theorem lookup_arrived_alias (hapart : aliasesApart aliases fs.names = true) {a : Alias}
    (ha : a ∈ aliases) {x : String} (hx : fieldFor fs.names x = some a.canonical)
    (habsent : (mergedEntries fs before patch).lookup a.canonical = none)
    (hother : ∀ y, fieldFor fs.names y = some a.canonical → y ≠ a.legacy →
      (mergedEntries fs before patch).lookup y = none) :
    (arrivedEntries aliases fs before patch).lookup x =
      if x = a.canonical then (mergedEntries fs before patch).lookup a.legacy else none := by
  obtain ⟨hnodup,_,hall⟩ := aliasesApart_iff.mp hapart
  have hfind : aliases.find? (fun b => b.canonical = a.canonical) = some a := by
    cases hf : aliases.find? (fun b => b.canonical = a.canonical) with
    | none =>
      rw [List.find?_eq_none] at hf
      exact absurd (decide_eq_true rfl) (hf a ha)
    | some b =>
      have hb : b.canonical = a.canonical := by simpa using List.find?_some hf
      rw [List.inj_on_of_nodup_map hnodup (List.mem_of_find?_eq_some hf) ha hb]
  rw [arrivedEntries,lookup_applyAll hapart (sorted_merged before patch) hx,hfind]
  dsimp only
  rw [Alias.find,habsent]
  simp only [Option.isSome_none,Bool.false_eq_true,if_false]
  split_ifs with hxc hxl
  · rfl
  · rfl
  · by_cases hlegacy : x = a.legacy
    · exact absurd ⟨(hall a ha).renamed _ (hlegacy ▸ hx),hlegacy⟩ hxl
    · exact hother x hx hlegacy

theorem lookup_mention {names : List String} {n y : String} (hy : meaning spellings names y = some n) :
    patch.lookup y = (mentions spellings names n patch).lookup y := by
  rw [mentions,GoMap.lookup_filter (fun k => decide (meaning spellings names k = some n)),
    if_pos (decide_eq_true hy)]

theorem meaning_legacy (hapart : aliasesApart spellings fs.names = true) {a : Alias}
    (ha : a ∈ spellings) : meaning spellings fs.names a.legacy = some a.canonical := by
  obtain ⟨_,hnodup,_⟩ := aliasesApart_iff.mp hapart
  rw [meaning]
  cases hfind : spellings.find? (fun b => b.legacy = a.legacy) with
  | none =>
    rw [List.find?_eq_none] at hfind
    exact absurd (decide_eq_true rfl) (hfind a ha)
  | some b =>
    have hb : b.legacy = a.legacy := by simpa using List.find?_some hfind
    rw [List.inj_on_of_nodup_map hnodup (List.mem_of_find?_eq_some hfind) ha hb]

theorem arriving_eq {names : List String} {n : String} {es l : Json.Entries} (hes : GoMap.Sorted es)
    (hl : GoMap.Sorted l) (hnames : ∀ e ∈ l, fieldFor names e.1 = some n)
    (heq : ∀ x, fieldFor names x = some n → es.lookup x = l.lookup x) :
    arriving names n es = l.map Prod.snd := by
  have hfilter := hes.filter_eq hl (p := fun k => decide (fieldFor names k = some n))
    (fun x hx => heq x (of_decide_eq_true hx)) (fun e he => decide_eq_true (hnames e he))
  rw [arriving,hfilter]

structure Spelled (aliases spellings : List Alias) (fs : Fields) : Prop where
  nodup : fs.names.Nodup
  dash : ∀ v, ∀ i ∈ fs.items v, i.tag.dash = false
  decoder : aliasesApart aliases fs.names = true
  spelled : aliasesApart spellings fs.names = true
  known : ∀ a ∈ aliases, a ∈ spellings

variable (h : Spelled aliases spellings fs) (hi : i ∈ fs.items before)
  (hpatch : (patch.map Prod.fst).Nodup)

include hpatch

theorem lookup_merged_field {k : String} {j : Json} {y : String}
    (hm : mentions spellings fs.names i.tag.name patch = [(k,j)])
    (hy : meaning spellings fs.names y = some i.tag.name) :
    (mergedEntries fs before patch).lookup y =
      if y = k then merged ((written fs before).lookup y) j else (written fs before).lookup y := by
  rw [mergedEntries,lookup_mergeMaps hpatch,lookup_mention hy,hm,GoMap.lookup_cons_eq]
  split_ifs <;> rfl

theorem lookup_unmentioned {y : String} (hm : mentions spellings fs.names i.tag.name patch = [])
    (hy : meaning spellings fs.names y = some i.tag.name) :
    (mergedEntries fs before patch).lookup y = (written fs before).lookup y := by
  rw [mergedEntries,lookup_mergeMaps hpatch,lookup_mention hy,hm]
  rfl

include h

omit hpatch in
theorem lookup_written_legacy {a : Alias} (ha : a ∈ aliases) :
    (written fs before).lookup a.legacy = none :=
  lookup_written_eq_none ((aliasesApart_iff.mp h.decoder).2.2 a ha).legacy

include hi

omit hpatch in
theorem arriving_written (hlookup : ∀ x, fieldFor fs.names x = some i.tag.name →
      (arrivedEntries aliases fs before patch).lookup x =
        if x = i.tag.name then i.held.head? else none) :
    arriving fs.names i.tag.name (arrivedEntries aliases fs before patch) = i.held := by
  have hd := h.dash before i hi
  rw [← arriving_held h.nodup hi hd]
  have hsame := @arriving_eq fs.names i.tag.name _ _
    (sorted_applyAll aliases (sorted_merged before patch))
    (List.Pairwise.filter (fun e => fieldFor fs.names e.1 = some i.tag.name)
      (GoMap.sorted_ofList (fs.emit before))) (fun e he => by simpa using (List.mem_filter.mp he).2)
  refine hsame fun x hx => ?_
  rw [GoMap.lookup_filter (fun k => decide (fieldFor fs.names k = some i.tag.name)),
    if_pos (decide_eq_true hx)]
  exact (hlookup x hx).trans (lookup_written_field h.nodup hi hd hx).symm

theorem arriving_unmentioned (hm : mentions spellings fs.names i.tag.name patch = []) :
    arriving fs.names i.tag.name (arrivedEntries aliases fs before patch) = i.held := by
  have hmerged : ∀ y, meaning spellings fs.names y = some i.tag.name →
      (mergedEntries fs before patch).lookup y = (written fs before).lookup y :=
    fun y hy => lookup_unmentioned hpatch hm hy
  refine arriving_written h hi fun x hx => ?_
  rw [← lookup_written_field h.nodup hi (h.dash before i hi) hx,lookup_arrived_inert h.decoder hx,
    hmerged x (meaning_of_fieldFor h.spelled hx)]
  intro a ha hcanonical
  have hlegacy := meaning_legacy h.spelled (h.known a ha)
  rw [hcanonical] at hlegacy
  exact .inr ((hmerged _ hlegacy).trans (lookup_written_legacy h ha))

variable {k : String} {j : Json}
  (hm : mentions spellings fs.names i.tag.name patch = [(k,j)])

include hm

theorem lookup_arrived_field (hinert : ∀ a ∈ aliases, a.canonical = i.tag.name →
      ((mergedEntries fs before patch).lookup i.tag.name).isSome = true ∨ j = .null ∨ a.legacy ≠ k)
    {x : String} (hx : fieldFor fs.names x = some i.tag.name) :
    (arrivedEntries aliases fs before patch).lookup x =
      if x = k then merged (if x = i.tag.name then i.held.head? else none) j
      else if x = i.tag.name then i.held.head? else none := by
  have hwritten := lookup_written_field h.nodup hi (h.dash before i hi) hx
  rw [lookup_arrived_inert h.decoder hx,
    lookup_merged_field hpatch hm (meaning_of_fieldFor h.spelled hx),hwritten]
  intro a ha hcanonical
  have hlegacy := meaning_legacy h.spelled (h.known a ha)
  rw [hcanonical] at hlegacy
  rcases hinert a ha hcanonical with hsome | hrest
  · exact .inl hsome
  · rw [lookup_merged_field hpatch hm hlegacy,lookup_written_legacy h ha]
    split_ifs with hk
    · rw [hrest.resolve_right fun hne => hne hk]
      exact .inr rfl
    · exact .inr rfl

theorem isSome_merged_field (hk : k ≠ i.tag.name) (hsent : i.sent = true) :
    ((mergedEntries fs before patch).lookup i.tag.name).isSome = true := by
  have hd := h.dash before i hi
  have hname : i.tag.name ∈ fs.names := Fields.mem_names_of_mem_items hi hd
  rw [lookup_merged_field hpatch hm (meaning_of_fieldFor h.spelled (fieldFor_of_mem hname)),
    if_neg (Ne.symm hk),lookup_written h.nodup hi hd,Item.held,if_pos hsent]
  rfl

theorem arriving_canonical (hk : k = i.tag.name) :
    arriving fs.names i.tag.name (arrivedEntries aliases fs before patch) =
      (merged i.held.head? j).toList := by
  have hname : i.tag.name ∈ fs.names := Fields.mem_names_of_mem_items hi (h.dash before i hi)
  have hlegacy : ∀ a ∈ aliases, a.canonical = i.tag.name →
      ((mergedEntries fs before patch).lookup i.tag.name).isSome = true ∨ j = .null ∨ a.legacy ≠ k :=
    fun a ha _ => .inr (.inr fun heq =>
      ((aliasesApart_iff.mp h.decoder).2.2 a ha).legacy (heq ▸ hk ▸ hname))
  have harrived := fun x => lookup_arrived_field h hi hpatch hm hlegacy (x := x)
  have hsorted := sorted_applyAll aliases (sorted_merged before patch)
  cases hmerged : merged i.held.head? j with
  | none =>
    refine arriving_eq (l := []) hsorted List.Pairwise.nil (by simp) fun x hx => ?_
    refine (harrived x hx).trans ?_
    rw [hk]
    by_cases hxn : x = i.tag.name
    · rw [if_pos hxn,if_pos hxn,hmerged]
      rfl
    · rw [if_neg hxn,if_neg hxn]
      rfl
  | some y =>
    refine arriving_eq (l := [(i.tag.name,y)]) hsorted (List.pairwise_singleton _ _)
      (by simpa using fieldFor_of_mem hname) fun x hx => ?_
    refine (harrived x hx).trans ?_
    rw [hk,GoMap.lookup_cons_eq]
    by_cases hxn : x = i.tag.name
    · rw [if_pos hxn,if_pos hxn,if_pos hxn,hmerged]
    · rw [if_neg hxn,if_neg hxn,if_neg hxn]
      rfl

theorem arriving_lost (hk : k ≠ i.tag.name)
    (hlost : j = .null ∨ fieldFor fs.names k ≠ some i.tag.name ∧
      (i.sent = true ∨ ∀ a ∈ aliases, a.canonical = i.tag.name → a.legacy ≠ k)) :
    arriving fs.names i.tag.name (arrivedEntries aliases fs before patch) = i.held := by
  refine arriving_written h hi fun x hx => ?_
  rw [lookup_arrived_field h hi hpatch hm ?_ hx]
  · by_cases hxk : x = k
    · rcases hlost with rfl | ⟨hne,_⟩
      · rw [if_pos hxk,hxk,if_neg hk]
        rfl
      · exact absurd (hxk ▸ hx) hne
    · rw [if_neg hxk]
  · intro a ha hcanonical
    rcases hlost with hnull | ⟨_,hsent | hlegacy⟩
    · exact .inr (.inl hnull)
    · exact .inl (isSome_merged_field h hi hpatch hm hk hsent)
    · exact .inr (.inr (hlegacy a ha hcanonical))

theorem arriving_beside (hk : k ≠ i.tag.name) (hj : j.isNull = false)
    (hfield : fieldFor fs.names k = some i.tag.name) (hsent : i.sent = true) :
    arriving fs.names i.tag.name (arrivedEntries aliases fs before patch) =
      if i.tag.name < k then i.held ++ [j] else j :: i.held := by
  have hname : i.tag.name ∈ fs.names := Fields.mem_names_of_mem_items hi (h.dash before i hi)
  have hsorted := sorted_applyAll aliases (sorted_merged before patch)
  have hheld : i.held = [i.schema.encode i.val] := if_pos hsent
  have harrived : ∀ x, fieldFor fs.names x = some i.tag.name →
      (arrivedEntries aliases fs before patch).lookup x =
        if x = k then some j else if x = i.tag.name then some (i.schema.encode i.val) else none := by
    intro x hx
    refine (lookup_arrived_field h hi hpatch hm
      (fun _ _ _ => .inl (isSome_merged_field h hi hpatch hm hk hsent)) hx).trans ?_
    rw [hheld]
    by_cases hxk : x = k
    · rw [if_pos hxk,if_pos hxk,hxk,if_neg hk,merged_none hj]
    · rw [if_neg hxk,if_neg hxk]
      rfl
  rw [hheld]
  split_ifs with hlt
  · refine arriving_eq (l := [(i.tag.name,i.schema.encode i.val),(k,j)]) hsorted ?_ ?_ fun x hx => ?_
    · simpa [GoMap.Sorted] using hlt
    · simpa using ⟨fieldFor_of_mem hname,hfield⟩
    · refine (harrived x hx).trans ?_
      rw [GoMap.lookup_cons_eq,GoMap.lookup_cons_eq]
      split_ifs with hxk hxn hxn
      · exact absurd (hxk.symm.trans hxn) hk
      · rfl
      · rfl
      · rfl
  · refine arriving_eq (l := [(k,j),(i.tag.name,i.schema.encode i.val)]) hsorted ?_ ?_ fun x hx => ?_
    · simpa [GoMap.Sorted] using lt_of_le_of_ne (not_lt.mp hlt) hk
    · simpa using ⟨hfield,fieldFor_of_mem hname⟩
    · refine (harrived x hx).trans ?_
      rw [GoMap.lookup_cons_eq,GoMap.lookup_cons_eq]
      rfl

theorem arriving_only (hk : k ≠ i.tag.name) (hj : j.isNull = false) (hsent : i.sent = false)
    (hfield : fieldFor fs.names k = some i.tag.name ∨
      ∃ a ∈ aliases, a.legacy = k ∧ a.canonical = i.tag.name) :
    arriving fs.names i.tag.name (arrivedEntries aliases fs before patch) = [j] := by
  have hd := h.dash before i hi
  have hname : i.tag.name ∈ fs.names := Fields.mem_names_of_mem_items hi hd
  have hsorted := sorted_applyAll aliases (sorted_merged before patch)
  have hheld : i.held = [] := by simp [Item.held,hsent]
  have hmerged : ∀ y, meaning spellings fs.names y = some i.tag.name →
      (written fs before).lookup y = none →
      (mergedEntries fs before patch).lookup y = if y = k then some j else none := by
    intro y hy hnone
    rw [lookup_merged_field hpatch hm hy,hnone,merged_none hj]
  have hunwritten : ∀ x, fieldFor fs.names x = some i.tag.name →
      (written fs before).lookup x = none := by
    intro x hx
    rw [lookup_written_field h.nodup hi hd hx,hheld]
    exact ite_self _
  by_cases halias : ∃ a ∈ aliases, a.canonical = i.tag.name ∧ a.legacy = k
  · obtain ⟨a,ha,hcanonical,hlegacy⟩ := halias
    refine arriving_eq (l := [(i.tag.name,j)]) hsorted (List.pairwise_singleton _ _)
      (by simpa using fieldFor_of_mem hname) fun x hx => ?_
    refine (lookup_arrived_alias h.decoder ha (hcanonical.symm ▸ hx) ?_ ?_).trans ?_
    · rw [hcanonical,hmerged _ (meaning_of_fieldFor h.spelled (fieldFor_of_mem hname))
        (hunwritten _ (fieldFor_of_mem hname)),if_neg (Ne.symm hk)]
    · intro y hy hne
      rw [hcanonical] at hy
      rw [hmerged y (meaning_of_fieldFor h.spelled hy) (hunwritten y hy),if_neg (hlegacy ▸ hne)]
    · rw [hmerged a.legacy (hcanonical ▸ meaning_legacy h.spelled (h.known a ha))
        (lookup_written_legacy h ha),if_pos hlegacy,hcanonical,GoMap.lookup_cons_eq]
      rfl
  · have hk' : fieldFor fs.names k = some i.tag.name := by
      refine hfield.resolve_right ?_
      rintro ⟨a,ha,hlegacy,hcanonical⟩
      exact halias ⟨a,ha,hcanonical,hlegacy⟩
    refine arriving_eq (l := [(k,j)]) hsorted (List.pairwise_singleton _ _) (by simpa using hk')
      fun x hx => ?_
    refine (lookup_arrived_inert h.decoder hx ?_).trans ?_
    · intro a ha hcanonical
      refine .inr ((hmerged _ (hcanonical ▸ meaning_legacy h.spelled (h.known a ha))
        (lookup_written_legacy h ha)).trans (if_neg ?_))
      exact fun hlegacy => halias ⟨a,ha,hcanonical,hlegacy⟩
    · rw [hmerged x (meaning_of_fieldFor h.spelled hx) (hunwritten x hx),GoMap.lookup_cons_eq]
      rfl

theorem arriving_mentioned :
    arriving fs.names i.tag.name (arrivedEntries aliases fs before patch) =
        (placing aliases fs.names i k j).order i.held
          (if k = i.tag.name then (merged i.held.head? j).toList else [j]) ∧
      (placing aliases fs.names i k j = .earlier → i.sent = true) := by
  rw [placing]
  split_ifs with hk hnull hfield hsent hlt halias
  · exact ⟨arriving_canonical h hi hpatch hm hk,fun h => by cases h⟩
  · refine ⟨arriving_lost h hi hpatch hm hk (.inl ?_),fun h => by cases h⟩
    cases j with
    | null => rfl
    | _ => cases hnull
  · have hbeside := arriving_beside h hi hpatch hm hk (Bool.eq_false_iff.mpr hnull) hfield hsent
    rw [if_pos hlt] at hbeside
    exact ⟨hbeside,fun h => by cases h⟩
  · have hbeside := arriving_beside h hi hpatch hm hk (Bool.eq_false_iff.mpr hnull) hfield hsent
    rw [if_neg hlt] at hbeside
    exact ⟨hbeside,fun _ => hsent⟩
  · exact ⟨arriving_only h hi hpatch hm hk (Bool.eq_false_iff.mpr hnull)
      (Bool.eq_false_iff.mpr hsent) (.inl hfield),fun h => by cases h⟩
  · obtain ⟨hsent,hany⟩ := halias
    obtain ⟨a,ha,hwords⟩ := List.any_eq_true.mp hany
    have hwords : a.legacy = k ∧ a.canonical = i.tag.name := by simpa using hwords
    exact ⟨arriving_only h hi hpatch hm hk (Bool.eq_false_iff.mpr hnull) hsent
      (.inr ⟨a,ha,hwords⟩),fun h => by cases h⟩
  · refine ⟨arriving_lost h hi hpatch hm hk (.inr ⟨hfield,?_⟩),fun h => by cases h⟩
    cases hsent : i.sent with
    | true => exact .inl rfl
    | false =>
      refine .inr fun a ha hcanonical hlegacy => halias ⟨hsent,List.any_eq_true.mpr ⟨a,ha,?_⟩⟩
      simp [hlegacy,hcanonical]

end Merged

end PrismGateway.Storage
