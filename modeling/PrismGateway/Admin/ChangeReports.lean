import Mathlib.Data.List.Perm.Basic
import PrismGateway.Admin.ConfigReads
import PrismGateway.Lib.MergePatch

namespace PrismGateway.Admin.ConfigReads

open Lib Lib.Json

def change (oldVal newVal : Option Json) : Json :=
  .obj [("new",newVal.getD .null),("old",oldVal.getD .null)]

def computeDiff (order : MapOrder) (old new : Entries) : Entries :=
  let changed := (order.iter new).filter fun e => !(old.lookup e.1).any (deepEqual · e.2)
  let deleted := (order.iter old).filter fun e => (new.lookup e.1).isNone
  GoMap.ofList (changed.map (fun e => (e.1,change (old.lookup e.1) (some e.2))) ++
    deleted.map (fun e => (e.1,change (some e.2) none)))

/-- Equal as `reflect.DeepEqual` has it; an absent key equals only an absent key. -/
def Same : Option Json → Option Json → Prop
  | none, none => True
  | some x, some y => deepEqual x y = true
  | _, _ => False

def BothObjects (x y : Option Json) : Prop := ∃ b a, x = some (.obj b) ∧ y = some (.obj a)

def Nulled (x y : Option Json) : Prop := x = some .null ∧ y = none ∨ x = none ∧ y = some .null

/-- The path leads through objects on both sides to a key at which `ends` holds of what the two
sides have. -/
inductive Reaches (ends : Option Json → Option Json → Prop) :
    Entries → Entries → List String → Prop where
  | here {before after : Entries} {k : String} (h : ends (before.lookup k) (after.lookup k)) :
      Reaches ends before after [k]
  | inside {before after b a : Entries} {k : String} {path : List String}
      (hb : before.lookup k = some (.obj b)) (ha : after.lookup k = some (.obj a))
      (h : Reaches ends b a path) : Reaches ends before after (k :: path)

def Differs : Entries → Entries → List String → Prop :=
  Reaches fun x y => ¬Same x y ∧ ¬BothObjects x y

def Hidden : Entries → Entries → List String → Prop := Reaches Nulled

def spelled (p : String) (path : List String) : String := path.foldl (fun s k => s ++ "." ++ k) p

def dotted : List String → String
  | [] => ""
  | k :: path => spelled k path

mutual

def differingValue : Json → Json → List (List String)
  | .obj bm, .obj am => differingEntries bm am ++
      ((am.filter (fun e => (bm.lookup e.1).isNone)).flatMap
        (fun e => if deepEqual .null e.2 then [] else [[e.1]]))
  | bv, av => if deepEqual bv av then [] else [[]]

def differingEntries : Entries → Entries → List (List String)
  | [], _ => []
  | (k,bv) :: before, after =>
    (differingValue bv ((after.lookup k).getD .null)).map (k :: ·) ++ differingEntries before after

end

def differing (before after : Entries) : List (List String) :=
  differingValue (.obj before) (.obj after)

section Equality

variable {before after : Entries}

theorem deepEqualEntries_iff : deepEqualEntries before after = true ↔
    ∀ e ∈ before, (after.lookup e.1).any (deepEqual e.2) = true := by
  induction before with
  | nil => simp [deepEqualEntries]
  | cons e before ih =>
    obtain ⟨k,j⟩ := e
    rw [deepEqualEntries,Bool.and_eq_true,ih,List.forall_mem_cons]

theorem any_deepEqual_iff {o : Option Json} {j : Json} :
    o.any (deepEqual j) = true ↔ Same (some j) o := by
  cases o with
  | none => exact iff_of_false Bool.false_ne_true id
  | some x => rfl

theorem Same.isSome_eq {x y : Option Json} (h : Same x y) : x.isSome = y.isSome := by
  cases x with
  | none =>
    cases y with
    | none => rfl
    | some _ => exact h.elim
  | some _ =>
    cases y with
    | none => exact h.elim
    | some _ => rfl

theorem deepEqual_obj_iff (hb : GoMap.Sorted before) (ha : GoMap.Sorted after) :
    deepEqual (.obj before) (.obj after) = true ↔
      ∀ k, Same (before.lookup k) (after.lookup k) := by
  rw [deepEqual,Bool.and_eq_true,decide_eq_true_eq,deepEqualEntries_iff]
  simp only [any_deepEqual_iff]
  constructor
  · rintro ⟨hlen,hall⟩ k
    have hsub : before.map Prod.fst ⊆ after.map Prod.fst := by
      intro x hx
      obtain ⟨e,he,rfl⟩ := List.mem_map.mp hx
      have hsame := hall e he
      rw [← GoMap.isSome_lookup_iff]
      cases hx : after.lookup e.1 with
      | none => rw [hx] at hsame; exact hsame.elim
      | some y => rfl
    have hperm : (before.map Prod.fst).Perm (after.map Prod.fst) :=
      (List.subperm_of_subset hb.nodup hsub).perm_of_length_le (by simp [hlen])
    cases hk : before.lookup k with
    | some x => exact hk ▸ hall (k,x) (GoMap.mem_of_lookup hk)
    | none =>
      have habsent : k ∉ after.map Prod.fst := by
        rw [← hperm.mem_iff,← GoMap.isSome_lookup_iff,hk]
        exact Bool.false_ne_true
      rw [← GoMap.isSome_lookup_iff,Option.not_isSome_iff_eq_none] at habsent
      rw [habsent]
      trivial
  · intro hall
    have hkeys : ∀ k, k ∈ before.map Prod.fst ↔ k ∈ after.map Prod.fst := by
      intro k
      rw [← GoMap.isSome_lookup_iff,← GoMap.isSome_lookup_iff,(hall k).isSome_eq]
    have hperm := (List.perm_ext_iff_of_nodup hb.nodup ha.nodup).mpr hkeys
    refine ⟨by simpa using hperm.length_eq,fun e he => ?_⟩
    have hsame := hall e.1
    rwa [GoMap.lookup_of_mem hb.nodup he] at hsame

end Equality

section Paths

variable {before after : Entries} {path : List String}

theorem differingEntries_eq : differingEntries before after =
    before.flatMap fun e =>
      (differingValue e.2 ((after.lookup e.1).getD .null)).map (e.1 :: ·) := by
  induction before with
  | nil => rfl
  | cons e before ih => rw [differingEntries,ih,List.flatMap_cons]

theorem differingValue_of_ne {x y : Json} (h : ¬BothObjects (some x) (some y)) :
    differingValue x y = if deepEqual x y then [] else [[]] := by
  unfold differingValue
  split
  · next bm am => exact absurd ⟨bm,am,rfl,rfl⟩ h
  · rfl

theorem not_bothObjects_null (y : Option Json) : ¬BothObjects (some .null) y := by
  rintro ⟨_,_,h,_⟩
  cases h

def bothKeys (before after : Entries) : List String :=
  before.map Prod.fst ++ (after.filter (fun e => (before.lookup e.1).isNone)).map Prod.fst

def differingAt (before after : Entries) (k : String) : List (List String) :=
  differingValue ((before.lookup k).getD .null) ((after.lookup k).getD .null)

theorem mem_bothKeys {k : String} :
    k ∈ bothKeys before after ↔ (before.lookup k).isSome ∨ (after.lookup k).isSome := by
  rw [bothKeys,List.mem_append,GoMap.isSome_lookup_iff,GoMap.isSome_lookup_iff]
  refine or_congr_right' fun hk => ?_
  rw [List.mem_map,List.mem_map]
  refine exists_congr fun e => and_congr_left ?_
  rintro rfl
  rw [List.mem_filter,Option.isNone_iff_eq_none,← Option.not_isSome_iff_eq_none,
    GoMap.isSome_lookup_iff]
  exact and_iff_left hk

theorem nodup_bothKeys (hb : GoMap.Sorted before) (ha : GoMap.Sorted after) :
    (bothKeys before after).Nodup := by
  refine hb.nodup.append (ha.nodup.sublist (List.filter_sublist.map _)) fun k hk hk' => ?_
  obtain ⟨e,he,rfl⟩ := List.mem_map.mp hk'
  have hnone := Option.isNone_iff_eq_none.mp (List.mem_filter.mp he).2
  rw [← GoMap.isSome_lookup_iff,hnone] at hk
  cases hk

theorem differingAt_added {e : String × Json} (ha : GoMap.Sorted after) (he : e ∈ after)
    (hnone : before.lookup e.1 = none) :
    differingAt before after e.1 = if deepEqual .null e.2 then [] else [[]] := by
  rw [differingAt,hnone,GoMap.lookup_of_mem ha.nodup he]
  exact differingValue_of_ne (not_bothObjects_null _)

theorem differing_eq (hb : GoMap.Sorted before) (ha : GoMap.Sorted after) :
    differing before after =
      (bothKeys before after).flatMap fun k => (differingAt before after k).map (k :: ·) := by
  rw [differing,differingValue,differingEntries_eq,bothKeys,List.flatMap_append,List.flatMap_map,
    List.flatMap_map]
  congr 1
  · refine List.flatMap_congr fun e he => ?_
    rw [differingAt,GoMap.lookup_of_mem hb.nodup he]
    rfl
  · refine List.flatMap_congr fun e he => ?_
    obtain ⟨he,hnone⟩ := List.mem_filter.mp he
    rw [differingAt_added ha he (Option.isNone_iff_eq_none.mp hnone)]
    split_ifs <;> rfl

theorem mem_differing (hb : GoMap.Sorted before) (ha : GoMap.Sorted after) :
    path ∈ differing before after ↔
      ∃ k rest, path = k :: rest ∧ rest ∈ differingAt before after k := by
  rw [differing_eq hb ha,List.mem_flatMap]
  constructor
  · rintro ⟨k,_,hpath⟩
    obtain ⟨rest,hrest,rfl⟩ := List.mem_map.mp hpath
    exact ⟨k,rest,rfl,hrest⟩
  · rintro ⟨k,rest,rfl,hrest⟩
    refine ⟨k,?_,List.mem_map_of_mem hrest⟩
    by_contra hk
    rw [mem_bothKeys,not_or,Option.not_isSome_iff_eq_none,Option.not_isSome_iff_eq_none] at hk
    rw [differingAt,hk.1,hk.2] at hrest
    cases hrest

theorem ordered_lookup {es : Entries} {k : String} (h : Ordered (.obj es)) :
    Ordered ((es.lookup k).getD .null) := by
  cases hk : es.lookup k with
  | none => trivial
  | some j => exact orderedMembers_iff.mp h.2 (k,j) (GoMap.mem_of_lookup hk)

@[elab_as_elim]
theorem pair_induction {motive : Json → Json → Prop} (x y : Json)
    (leaf : ∀ x y, ¬BothObjects (some x) (some y) → motive x y)
    (obj : ∀ b a, (∀ k, motive ((b.lookup k).getD .null) ((a.lookup k).getD .null)) →
      motive (.obj b) (.obj a)) : motive x y := by
  induction x using tree_induction generalizing y with
  | obj b ih =>
    cases y with
    | obj a =>
      refine obj b a fun k => ?_
      cases hk : b.lookup k with
      | none => exact leaf _ _ (not_bothObjects_null _)
      | some bv => exact ih (k,bv) (GoMap.mem_of_lookup hk) _
    | _ => exact leaf _ _ fun ⟨_,_,_,h⟩ => by cases h
  | _ => exact leaf _ _ fun ⟨_,_,h,_⟩ => by cases h

theorem nodup_differingValue {bv av : Json} (hb : Ordered bv) (ha : Ordered av) :
    (differingValue bv av).Nodup := by
  induction bv, av using pair_induction with
  | leaf x y h =>
    rw [differingValue_of_ne h]
    split_ifs
    · exact List.nodup_nil
    · exact List.nodup_singleton _
  | obj b a ih =>
    rw [← differing,differing_eq hb.1 ha.1,List.nodup_flatMap]
    refine ⟨fun k _ => (ih k (ordered_lookup hb) (ordered_lookup ha)).map fun _ _ h => (List.cons.inj h).2,?_⟩
    refine (nodup_bothKeys hb.1 ha.1).imp fun hne path hpath hpath' => hne ?_
    obtain ⟨_,_,rfl⟩ := List.mem_map.mp hpath
    obtain ⟨_,_,h⟩ := List.mem_map.mp hpath'
    exact (List.cons.inj h).1.symm

end Paths

section Spelling

variable {keyOrder : List String → List String} {before after : Entries} {pre p : String}

theorem append_spelled (path : List String) (s : String) :
    p ++ spelled s path = spelled (p ++ s) path := by
  induction path generalizing s with
  | nil => rfl
  | cons k path ih =>
    rw [spelled,List.foldl_cons,spelled,List.foldl_cons,← spelled,← spelled,ih,
      ← String.append_assoc,← String.append_assoc]

theorem changedEntries_eq : changedEntries keyOrder pre before after = before.map fun e =>
    (e.1,changedValue keyOrder (pre ++ e.1) e.2 ((after.lookup e.1).getD .null)) := by
  induction before with
  | nil => rfl
  | cons e before ih =>
    obtain ⟨k,bv⟩ := e
    rw [changedEntries,ih,List.map_cons]

theorem changedValue_of_ne {x y : Json} (h : ¬BothObjects (some x) (some y)) :
    changedValue keyOrder p x y = if deepEqual x y then [] else [p] := by
  unfold changedValue
  split
  · next bm am => exact absurd ⟨bm,am,rfl,rfl⟩ h
  · rfl

theorem visited_perm (hkeys : ∀ l, (keyOrder l).Perm l) {found : List (String × List String)}
    (hnodup : (found.map Prod.fst).Nodup) :
    (visited keyOrder found).Perm (found.flatMap Prod.snd) := by
  refine ((hkeys _).flatMap_right _).trans ?_
  rw [List.flatMap_map]
  refine List.Perm.of_eq (List.flatMap_congr fun e he => ?_)
  rw [GoMap.lookup_of_mem hnodup he,Option.getD_some]

def foundIn (keyOrder : List String → List String) (pre : String) (before after : Entries) :
    List (String × List String) :=
  changedEntries keyOrder pre before after ++ addedFields pre before after

theorem foundIn_eq (hb : GoMap.Sorted before) (ha : GoMap.Sorted after) :
    foundIn keyOrder pre before after = (bothKeys before after).map fun k =>
      (k,changedValue keyOrder (pre ++ k) ((before.lookup k).getD .null)
        ((after.lookup k).getD .null)) := by
  rw [foundIn,changedEntries_eq,addedFields,bothKeys,List.map_append,List.map_map,List.map_map]
  congr 1
  · refine List.map_congr_left fun e he => ?_
    rw [Function.comp_apply,GoMap.lookup_of_mem hb.nodup he]
    rfl
  · refine List.map_congr_left fun e he => ?_
    obtain ⟨he,hnone⟩ := List.mem_filter.mp he
    rw [Function.comp_apply,Option.isNone_iff_eq_none.mp hnone,GoMap.lookup_of_mem ha.nodup he,
      Option.getD_none,Option.getD_some,changedValue_of_ne (not_bothObjects_null _)]

theorem visited_foundIn (hkeys : ∀ l, (keyOrder l).Perm l) (hb : GoMap.Sorted before)
    (ha : GoMap.Sorted after)
    (h : ∀ k, (changedValue keyOrder (pre ++ k) ((before.lookup k).getD .null)
      ((after.lookup k).getD .null)).Perm ((differingAt before after k).map (spelled (pre ++ k)))) :
    (visited keyOrder (foundIn keyOrder pre before after)).Perm
      ((differing before after).map (pre ++ dotted ·)) := by
  have hnodup : ((foundIn keyOrder pre before after).map Prod.fst).Nodup := by
    rw [foundIn_eq hb ha,List.map_map]
    exact (List.map_id (bothKeys before after)).symm ▸ nodup_bothKeys hb ha
  refine (visited_perm hkeys hnodup).trans ?_
  rw [foundIn_eq hb ha,differing_eq hb ha,List.flatMap_map,List.map_flatMap]
  refine List.Perm.flatMap_left _ fun k _ => (h k).trans (.of_eq ?_)
  rw [List.map_map]
  exact List.map_congr_left fun path _ => (append_spelled path k).symm

theorem changedValue_perm (hkeys : ∀ l, (keyOrder l).Perm l) {bv av : Json} (hb : Ordered bv)
    (ha : Ordered av) :
    (changedValue keyOrder p bv av).Perm ((differingValue bv av).map (spelled p)) := by
  induction bv, av using pair_induction generalizing p with
  | leaf x y h =>
    rw [changedValue_of_ne h,differingValue_of_ne h]
    split_ifs
    · exact .nil
    · exact .refl _
  | obj b a ih =>
    rw [changedValue,← foundIn,← differing]
    refine (visited_foundIn hkeys hb.1 ha.1 fun k =>
      ih k (ordered_lookup hb) (ordered_lookup ha)).trans (.of_eq ?_)
    refine List.map_congr_left fun path hpath => ?_
    obtain ⟨k,rest,rfl,_⟩ := (mem_differing hb.1 ha.1).mp hpath
    exact append_spelled rest k

theorem changedFieldPaths_perm (hkeys : ∀ l, (keyOrder l).Perm l) (hb : Ordered (.obj before))
    (ha : Ordered (.obj after)) :
    (changedFieldPaths keyOrder before after).Perm ((differing before after).map dotted) := by
  refine (visited_foundIn hkeys hb.1 ha.1 fun k =>
    changedValue_perm hkeys (ordered_lookup hb) (ordered_lookup ha)).trans (.of_eq ?_)
  exact List.map_congr_left fun path _ => String.empty_append

end Spelling

section Report

variable {ends : Option Json → Option Json → Prop} {before after : Entries} {path : List String}

theorem not_reaches_nil : ¬Reaches ends before after [] := by
  intro h
  cases h

theorem reaches_of_objects (hends : ∀ {x y}, ends x y → ¬BothObjects x y) {b a : Entries}
    {k : String} (hb : before.lookup k = some (.obj b)) (ha : after.lookup k = some (.obj a)) :
    Reaches ends before after (k :: path) ↔ Reaches ends b a path := by
  constructor
  · intro h
    cases h with
    | here h => exact absurd ⟨b,a,hb,ha⟩ (hends h)
    | inside hb' ha' h =>
      obtain rfl := Json.obj.inj (Option.some.inj (hb'.symm.trans hb))
      obtain rfl := Json.obj.inj (Option.some.inj (ha'.symm.trans ha))
      exact h
  · exact .inside hb ha

theorem reaches_of_ne {k : String} (hne : ¬BothObjects (before.lookup k) (after.lookup k)) :
    Reaches ends before after (k :: path) ↔
      path = [] ∧ ends (before.lookup k) (after.lookup k) := by
  constructor
  · intro h
    cases h with
    | here h => exact ⟨rfl,h⟩
    | inside hb ha _ => exact absurd ⟨_,_,hb,ha⟩ hne
  · rintro ⟨rfl,h⟩
    exact .here h

theorem Nulled.not_bothObjects {x y : Option Json} (h : Nulled x y) : ¬BothObjects x y := by
  rintro ⟨b,a,rfl,rfl⟩
  obtain ⟨h,_⟩ | ⟨h,_⟩ := h <;> cases h

theorem deepEqual_null_iff {j : Json} : deepEqual .null j = true ↔ j = .null := by
  cases j <;> simp [deepEqual]

theorem deepEqual_to_null_iff {j : Json} : deepEqual j .null = true ↔ j = .null := by
  cases j <;> simp [deepEqual]

theorem deepEqual_getD_iff {x y : Option Json} :
    deepEqual (x.getD .null) (y.getD .null) = true ↔ Same x y ∨ Nulled x y := by
  cases x with
  | none =>
    cases y with
    | none => exact iff_of_true rfl (.inl trivial)
    | some v =>
      rw [Option.getD_none,Option.getD_some,deepEqual_null_iff]
      simp [Same,Nulled]
  | some u =>
    cases y with
    | none =>
      rw [Option.getD_none,Option.getD_some,deepEqual_to_null_iff]
      simp [Same,Nulled]
    | some v => simp [Same,Nulled]

theorem bothObjects_of_getD {x y : Option Json}
    (h : BothObjects (some (x.getD .null)) (some (y.getD .null))) : BothObjects x y := by
  obtain ⟨b,a,hx,hy⟩ := h
  refine ⟨b,a,?_,?_⟩
  · cases x with
    | none => cases hx
    | some _ => exact hx
  · cases y with
    | none => cases hy
    | some _ => exact hy

theorem Nulled.not_same {x y : Option Json} (h : Nulled x y) : ¬Same x y := by
  obtain ⟨rfl,rfl⟩ | ⟨rfl,rfl⟩ := h <;> exact id

theorem mem_differing_iff (hb : Ordered (.obj before)) (ha : Ordered (.obj after)) :
    path ∈ differing before after ↔ Differs before after path ∧ ¬Hidden before after path := by
  induction path generalizing before after with
  | nil =>
    refine iff_of_false (fun h => ?_) fun h => not_reaches_nil h.1
    obtain ⟨_,_,h,_⟩ := (mem_differing hb.1 ha.1).mp h
    cases h
  | cons k path ih =>
    have hmem : k :: path ∈ differing before after ↔ path ∈ differingAt before after k := by
      rw [mem_differing hb.1 ha.1]
      constructor
      · rintro ⟨_,_,h,hpath⟩
        obtain ⟨rfl,rfl⟩ := List.cons.inj h
        exact hpath
      · exact fun hpath => ⟨k,path,rfl,hpath⟩
    rw [hmem]
    by_cases hobj : BothObjects (before.lookup k) (after.lookup k)
    · obtain ⟨b,a,hbk,hak⟩ := hobj
      have hbo := ordered_lookup (k := k) hb
      have hao := ordered_lookup (k := k) ha
      rw [hbk] at hbo
      rw [hak] at hao
      rw [differingAt,hbk,hak,Option.getD_some,Option.getD_some,← differing,ih hbo hao,Differs,
        Hidden,reaches_of_objects And.right hbk hak,
        reaches_of_objects Nulled.not_bothObjects hbk hak]
    · rw [Differs,Hidden,reaches_of_ne hobj,reaches_of_ne hobj,differingAt,
        differingValue_of_ne fun h => hobj (bothObjects_of_getD h)]
      split_ifs with heq
      · refine iff_of_false List.not_mem_nil ?_
        rintro ⟨⟨rfl,hne,_⟩,hseen⟩
        exact hseen ⟨rfl,(deepEqual_getD_iff.mp heq).resolve_left hne⟩
      · rw [List.mem_singleton]
        rw [deepEqual_getD_iff,not_or] at heq
        exact ⟨fun h => ⟨⟨h,heq.1,hobj⟩,fun hidden => heq.2 hidden.2⟩,fun h => h.1.1⟩

theorem Hidden.differs (h : Hidden before after path) : Differs before after path := by
  induction h with
  | here h => exact .here ⟨h.not_same,h.not_bothObjects⟩
  | inside hb ha _ ih => exact .inside hb ha ih

theorem equal_of_same_at {x y : Json} (hx : Ordered x) (hy : Ordered y) {b a : Entries}
    (hb : x = .obj b) (ha : y = .obj a) (h : ∀ path, ¬Differs b a path) :
    deepEqual x y = true := by
  induction x, y using pair_induction generalizing b a with
  | leaf x y hne => exact absurd ⟨b,a,congrArg some hb,congrArg some ha⟩ hne
  | obj b' a' ih =>
    obtain rfl := Json.obj.inj hb
    obtain rfl := Json.obj.inj ha
    rw [deepEqual_obj_iff hx.1 hy.1]
    intro k
    by_contra hne
    by_cases hobj : BothObjects (b'.lookup k) (a'.lookup k)
    · obtain ⟨b,a,hbk,hak⟩ := hobj
      have hsame := ih k (ordered_lookup hx) (ordered_lookup hy) (by rw [hbk]; rfl)
        (by rw [hak]; rfl) fun path hpath => h (k :: path) (.inside hbk hak hpath)
      rw [hbk,hak] at hne hsame
      exact hne hsame
    · exact h [k] (.here ⟨hne,hobj⟩)

theorem deepEqual_iff_not_differs (hb : Ordered (.obj before)) (ha : Ordered (.obj after)) :
    deepEqual (.obj before) (.obj after) = true ↔ ∀ path, ¬Differs before after path := by
  refine ⟨fun heq path hpath => ?_,equal_of_same_at hb ha rfl rfl⟩
  induction hpath with
  | @here before after k h => exact h.1 ((deepEqual_obj_iff hb.1 ha.1).mp heq k)
  | @inside before after b a k path hbk hak _ ih =>
    have hsame := (deepEqual_obj_iff hb.1 ha.1).mp heq k
    have hbo := ordered_lookup (k := k) hb
    have hao := ordered_lookup (k := k) ha
    rw [hbk,hak] at hsame
    rw [hbk] at hbo
    rw [hak] at hao
    exact ih hbo hao hsame

end Report

section Diff

variable {order : MapOrder} {old new : Entries}

def changedAndDeleted (order : MapOrder) (old new : Entries) : Entries :=
  ((order.iter new).filter (fun e => !(old.lookup e.1).any (deepEqual · e.2))).map
      (fun e => (e.1,change (old.lookup e.1) (some e.2))) ++
    ((order.iter old).filter (fun e => (new.lookup e.1).isNone)).map
      (fun e => (e.1,change (some e.2) none))

theorem not_any_deepEqual_iff {o : Option Json} {j : Json} :
    (!o.any (deepEqual · j)) = true ↔ ¬Same o (some j) := by
  cases o with
  | none => exact iff_of_true rfl id
  | some x => simp [Same]

theorem mem_changedAndDeleted (ho : GoMap.Sorted old) (hn : GoMap.Sorted new) {k : String}
    {j : Json} : (k,j) ∈ changedAndDeleted order old new ↔
      ¬Same (old.lookup k) (new.lookup k) ∧ j = change (old.lookup k) (new.lookup k) := by
  rw [changedAndDeleted,List.mem_append,List.mem_map,List.mem_map]
  constructor
  · rintro (⟨e,he,h⟩ | ⟨e,he,h⟩)
    · obtain ⟨he,hne⟩ := List.mem_filter.mp he
      obtain ⟨rfl,rfl⟩ := Prod.mk.inj h
      rw [GoMap.lookup_of_mem hn.nodup ((order.perm new).mem_iff.mp he)]
      exact ⟨not_any_deepEqual_iff.mp hne,rfl⟩
    · obtain ⟨he,hnone⟩ := List.mem_filter.mp he
      obtain ⟨rfl,rfl⟩ := Prod.mk.inj h
      rw [GoMap.lookup_of_mem ho.nodup ((order.perm old).mem_iff.mp he),
        Option.isNone_iff_eq_none.mp hnone]
      exact ⟨id,rfl⟩
  · rintro ⟨hne,rfl⟩
    cases hk : new.lookup k with
    | some x =>
      rw [hk] at hne
      exact .inl ⟨(k,x),List.mem_filter.mpr ⟨(order.perm new).mem_iff.mpr (GoMap.mem_of_lookup hk),
        not_any_deepEqual_iff.mpr hne⟩,rfl⟩
    | none =>
      cases hold : old.lookup k with
      | none =>
        rw [hk,hold] at hne
        exact absurd trivial hne
      | some x =>
        exact .inr ⟨(k,x),List.mem_filter.mpr
          ⟨(order.perm old).mem_iff.mpr (GoMap.mem_of_lookup hold),by rw [hk]; rfl⟩,rfl⟩

theorem nodup_changedAndDeleted (ho : GoMap.Sorted old) (hn : GoMap.Sorted new) :
    ((changedAndDeleted order old new).map Prod.fst).Nodup := by
  rw [changedAndDeleted,List.map_append,List.map_map,List.map_map]
  have hnew : ((order.iter new).map Prod.fst).Nodup :=
    ((order.perm new).map Prod.fst).nodup_iff.mpr hn.nodup
  have hold : ((order.iter old).map Prod.fst).Nodup :=
    ((order.perm old).map Prod.fst).nodup_iff.mpr ho.nodup
  refine (hnew.sublist (List.filter_sublist.map _)).append
    (hold.sublist (List.filter_sublist.map _)) fun k hk hk' => ?_
  obtain ⟨e,he,rfl⟩ := List.mem_map.mp hk
  obtain ⟨e',he',heq⟩ := List.mem_map.mp hk'
  have hnone := Option.isNone_iff_eq_none.mp (List.mem_filter.mp he').2
  have hmem := (order.perm new).mem_iff.mp (List.mem_filter.mp he).1
  rw [show e'.1 = e.1 from heq,GoMap.lookup_of_mem hn.nodup hmem] at hnone
  cases hnone

theorem mem_computeDiff (ho : GoMap.Sorted old) (hn : GoMap.Sorted new) {k : String} {j : Json} :
    (k,j) ∈ computeDiff order old new ↔
      ¬Same (old.lookup k) (new.lookup k) ∧ j = change (old.lookup k) (new.lookup k) := by
  rw [← mem_changedAndDeleted ho hn]
  exact (GoMap.ofList_perm (nodup_changedAndDeleted ho hn)).mem_iff

end Diff

section Exact

variable {order : MapOrder} {keyOrder : List String → List String} {before after : Entries}

structure ExactPaths (keyOrder : List String → List String) (before after : Entries) : Prop where
  empty : changedFieldPaths keyOrder before after = [] ↔
    deepEqual (.obj before) (.obj after) = true
  listed : ∃ paths : List (List String), paths.Nodup ∧
    (∀ path, path ∈ paths ↔ Differs before after path) ∧
    (changedFieldPaths keyOrder before after).Perm (paths.map dotted)
  distinct : (changedFieldPaths keyOrder before after).Nodup

structure ReportedPaths (keyOrder : List String → List String) (before after : Entries) :
    Prop where
  equal : deepEqual (.obj before) (.obj after) = true →
    changedFieldPaths keyOrder before after = []
  empty : changedFieldPaths keyOrder before after = [] →
    ∀ path, Differs before after path → Hidden before after path
  listed : ∃ paths : List (List String), paths.Nodup ∧
    (∀ path ∈ paths, Differs before after path) ∧
    (∀ path, Differs before after path → ¬Hidden before after path → path ∈ paths) ∧
    (changedFieldPaths keyOrder before after).Perm (paths.map dotted)

structure ExactDiff (order : MapOrder) (old new : Entries) : Prop where
  empty : computeDiff order old new = [] ↔ deepEqual (.obj old) (.obj new) = true
  listed : ∀ k, k ∈ (computeDiff order old new).map Prod.fst ↔
    ¬Same (old.lookup k) (new.lookup k)
  distinct : ((computeDiff order old new).map Prod.fst).Nodup

theorem exactDiff (ho : GoMap.Sorted before) (hn : GoMap.Sorted after) :
    ExactDiff order before after := by
  have hlisted : ∀ k, k ∈ (computeDiff order before after).map Prod.fst ↔
      ¬Same (before.lookup k) (after.lookup k) := by
    intro k
    constructor
    · intro hk
      obtain ⟨e,he,rfl⟩ := List.mem_map.mp hk
      exact ((mem_computeDiff ho hn).mp he).1
    · exact fun hne => List.mem_map_of_mem ((mem_computeDiff ho hn).mpr ⟨hne,rfl⟩)
  refine ⟨?_,hlisted,(GoMap.sorted_ofList _).nodup⟩
  rw [deepEqual_obj_iff ho hn,← List.map_eq_nil_iff,List.eq_nil_iff_forall_not_mem]
  exact forall_congr' fun k => by rw [hlisted,not_not]

theorem changedFieldPaths_eq_nil_iff (hkeys : ∀ l, (keyOrder l).Perm l)
    (hb : Ordered (.obj before)) (ha : Ordered (.obj after)) :
    changedFieldPaths keyOrder before after = [] ↔
      ∀ path, Differs before after path → Hidden before after path := by
  rw [← List.isEmpty_iff,(changedFieldPaths_perm hkeys hb ha).isEmpty_eq,List.isEmpty_iff,
    List.map_eq_nil_iff,List.eq_nil_iff_forall_not_mem]
  exact forall_congr' fun path => by rw [mem_differing_iff hb ha,not_and_not_right]

theorem exactPaths_iff (hkeys : ∀ l, (keyOrder l).Perm l) (hb : Ordered (.obj before))
    (ha : Ordered (.obj after)) : ExactPaths keyOrder before after ↔
      (∀ path, ¬Hidden before after path) ∧
      ∀ p q, Differs before after p → Differs before after q → dotted p = dotted q → p = q := by
  have hperm := changedFieldPaths_perm hkeys hb ha
  constructor
  · rintro ⟨_,⟨paths,hpaths,hmem,hlisted⟩,hdistinct⟩
    have hlength : paths.length = (differing before after).length := by
      simpa using (hlisted.symm.trans hperm).length_eq
    have hsub : differing before after ⊆ paths := fun path h =>
      (hmem path).mpr ((mem_differing_iff hb ha).mp h).1
    have hall := (List.subperm_of_subset (nodup_differingValue hb ha) hsub).perm_of_length_le
      hlength.le
    refine ⟨fun path h => ?_,fun p q hp hq heq => ?_⟩
    · have hpath := hall.mem_iff.mpr ((hmem path).mpr h.differs)
      exact ((mem_differing_iff hb ha).mp hpath).2 h
    · exact List.inj_on_of_nodup_map (hlisted.nodup_iff.mp hdistinct) ((hmem p).mpr hp)
        ((hmem q).mpr hq) heq
  · rintro ⟨hseen,hinj⟩
    have hmem : ∀ path, path ∈ differing before after ↔ Differs before after path := fun path => by
      rw [mem_differing_iff hb ha,and_iff_left (hseen path)]
    refine ⟨?_,⟨_,nodup_differingValue hb ha,hmem,hperm⟩,?_⟩
    · rw [changedFieldPaths_eq_nil_iff hkeys hb ha,deepEqual_iff_not_differs hb ha]
      exact forall_congr' fun path => imp_congr_right fun _ => iff_false_intro (hseen path)
    · refine hperm.nodup_iff.mpr ((nodup_differingValue hb ha).map_on fun p hp q hq heq => ?_)
      exact hinj p q ((hmem p).mp hp) ((hmem q).mp hq) heq

theorem change_reports (hkeys : ∀ l, (keyOrder l).Perm l) (hb : Ordered (.obj before))
    (ha : Ordered (.obj after)) :
    ReportedPaths keyOrder before after ∧ ExactDiff order before after := by
  have hmem : ∀ {path}, path ∈ differing before after ↔ _ := mem_differing_iff hb ha
  refine ⟨⟨fun heq => ?_,(changedFieldPaths_eq_nil_iff hkeys hb ha).mp,?_⟩,exactDiff hb.1 ha.1⟩
  · rw [changedFieldPaths_eq_nil_iff hkeys hb ha]
    exact fun path h => absurd h ((deepEqual_iff_not_differs hb ha).mp heq path)
  · exact ⟨differing before after,nodup_differingValue hb ha,fun path h => (hmem.mp h).1,
      fun path h hseen => hmem.mpr ⟨h,hseen⟩,changedFieldPaths_perm hkeys hb ha⟩

theorem limit_reports : ReportedPaths List.reverse [("limits",.obj [("daily",.bool true)])]
      [("limits",.obj [("daily",.bool false)])] ∧
    ExactDiff ⟨id,listed_perm⟩ [("limits",.obj [("daily",.bool true)])]
      [("limits",.obj [("daily",.bool false)])] :=
  change_reports List.reverse_perm
    ⟨List.pairwise_singleton _ _,⟨List.pairwise_singleton _ _,trivial,trivial⟩,trivial⟩
    ⟨List.pairwise_singleton _ _,⟨List.pairwise_singleton _ _,trivial,trivial⟩,trivial⟩

theorem dotted_keys_collide :
    changedFieldPaths id [("a",.obj [])] [("a",.obj [("b",.bool true)]),("a.b",.bool true)] =
        ["a.b","a.b"] ∧
      ¬ExactPaths id [("a",.obj [])] [("a",.obj [("b",.bool true)]),("a.b",.bool true)] := by
  have hpaths : changedFieldPaths id [("a",.obj [])]
      [("a",.obj [("b",.bool true)]),("a.b",.bool true)] = ["a.b","a.b"] := by decide
  refine ⟨hpaths,fun h => ?_⟩
  have hdistinct := h.distinct
  rw [hpaths] at hdistinct
  exact (List.nodup_cons.mp hdistinct).1 (List.mem_singleton_self _)

end Exact

end PrismGateway.Admin.ConfigReads
