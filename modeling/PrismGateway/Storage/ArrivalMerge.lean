import PrismGateway.Lib.Arrivals
import PrismGateway.Storage.PathMerge

namespace PrismGateway.Storage

open Lib Lib.Json

section Spelling

def LowerNames (names : List String) : Prop :=
  ∀ n ∈ names, ∀ c ∈ n.toList, c.toNat < 128 ∧ isUpper c = false

instance (names : List String) : Decidable (LowerNames names) :=
  @List.decidableBAll _ (fun n : String => ∀ c ∈ n.toList, c.toNat < 128 ∧ isUpper c = false)
    (fun n => List.decidableBAll _ n.toList) names

theorem toNat_foldRune {c : Char} : (foldRune c).toNat =
    if 97 ≤ c.toNat ∧ c.toNat ≤ 122 then c.toNat - 32
    else if c.toNat = 0x17F then 83 else if c.toNat = 0x212A then 75 else c.toNat := by
  have hlong : c = '\u017F' ↔ c.toNat = 0x17F := by
    rw [← Char.toNat_inj]
    rfl
  have hkelvin : c = '\u212A' ↔ c.toNat = 0x212A := by
    rw [← Char.toNat_inj]
    rfl
  have hlower : ('a' ≤ c ∧ c ≤ 'z') ↔ 97 ≤ c.toNat ∧ c.toNat ≤ 122 := Iff.rfl
  simp only [foldRune,hlong,hkelvin,hlower]
  split_ifs with h hs hk
  · rw [Char.ofNat,dif_pos (Or.inl (by omega))]
    rfl
  · rfl
  · rfl
  · rfl

theorem lt_of_foldRune_eq {c d : Char} (h : foldRune c = foldRune d) (hd : d.toNat < 128)
    (hplain : isUpper c = false ∧ isUpper d = false) (hne : c ≠ d) : d < c := by
  have hfold := congrArg Char.toNat h
  have hnat : c.toNat ≠ d.toNat := fun heq => hne (Char.toNat_inj.mp heq)
  rw [toNat_foldRune,toNat_foldRune] at hfold
  simp only [← Bool.not_eq_true,isUpper_iff] at hplain
  change d.toNat < c.toNat
  split_ifs at hfold <;> omega

theorem lt_of_fold_eq {n : List Char} (hn : ∀ c ∈ n, c.toNat < 128 ∧ isUpper c = false) :
    ∀ {k : List Char}, (∀ c ∈ k, isUpper c = false) → k.map foldRune = n.map foldRune → k ≠ n →
      n < k := by
  induction n with
  | nil =>
    intro k _ h hne
    exact absurd (List.map_eq_nil_iff.mp h) hne
  | cons d n ih =>
    obtain ⟨hd,hn⟩ := List.forall_mem_cons.mp hn
    intro k hk h hne
    cases k with
    | nil => cases h
    | cons c k =>
      obtain ⟨hc,hk⟩ := List.forall_mem_cons.mp hk
      obtain ⟨hhead,htail⟩ := List.cons.inj h
      rw [List.cons_lt_cons_iff]
      by_cases heq : c = d
      · rw [heq] at hne
        exact .inr ⟨heq.symm,ih hn hk htail fun h => hne (congrArg (List.cons d) h)⟩
      · exact .inl (lt_of_foldRune_eq hhead hd.1 ⟨hc,hd.2⟩ heq)

theorem name_lt {names : List String} {n k : String} (hnames : LowerNames names)
    (hk : toSnakeCase k = k) (hfield : fieldFor names k = some n) (hne : k ≠ n) : n < k := by
  rw [fieldFor] at hfield
  split_ifs at hfield
  · exact absurd (Option.some.inj hfield) hne
  · have hmem := List.mem_of_find?_eq_some hfield
    have hfold : foldName n = foldName k := by simpa using List.find?_some hfield
    rw [foldName,foldName,GoStrings.runes_eq_toList,GoStrings.runes_eq_toList] at hfold
    rw [String.lt_iff_toList_lt]
    exact lt_of_fold_eq (hnames n hmem) ((toSnakeCase_eq_self_iff k).mp hk) hfold.symm
      fun h => hne (String.toList_inj.mp h)

theorem firstAt_of_tidy {legs : List Leg} (hlegs : ∀ s ∈ legs, LowerNames s.names) :
    ∀ {j : Json}, Tidy j → FirstAt legs j := by
  induction legs with
  | nil =>
    intro j _
    cases j <;> trivial
  | cons s legs ih =>
    obtain ⟨hs,hlegs⟩ := List.forall_mem_cons.mp hlegs
    intro j h
    cases j with
    | obj es =>
      refine ⟨h.1.sorted,?_,fun j hj => ih hlegs (h.of_lookup hj)⟩
      intro e he hreaches hne
      exact name_lt hs (h.1.fixed e.1 (List.mem_map_of_mem he)) (of_decide_eq_true hreaches) hne
    | _ => trivial

end Spelling

section Merge

theorem mergeValue_none : (j : Json) → mergeValue none j = j
  | .obj patch => by
    rw [mergeValue]
    exact fun _ h => by cases h
  | .null => mergeValue_of_ne_obj (fun _ h => by cases h) none
  | .bool _ => mergeValue_of_ne_obj (fun _ h => by cases h) none
  | .num _ => mergeValue_of_ne_obj (fun _ h => by cases h) none
  | .str _ => mergeValue_of_ne_obj (fun _ h => by cases h) none
  | .arr _ => mergeValue_of_ne_obj (fun _ h => by cases h) none

def Opens : List Leg → Json → Prop
  | [], _ => True
  | s :: legs, .obj patch => (∀ k ∈ patch.map Prod.fst, s.reaches k = true → k = s.name) ∧
      ∀ j, patch.lookup s.name = some j → Opens legs j
  | _ :: _, _ => False

theorem othersAt_of_ne_obj {j : Json} (hj : ∀ es, j ≠ .obj es) : (legs : List Leg) →
    othersAt legs j = []
  | [] => othersAt_nil j
  | _ :: _ => by
    cases j with
    | obj es => exact absurd rfl (hj es)
    | _ => rfl

theorem filter_others {s : Leg} {es : Entries} (h : ∀ k ∈ es.map Prod.fst, s.reaches k = true → k = s.name) :
    es.filter (fun e => s.reaches e.1 && e.1 ≠ s.name) = [] := by
  rw [List.filter_eq_nil_iff]
  intro e he hkeep
  obtain ⟨hreaches,hne⟩ := Bool.and_eq_true_iff.mp hkeep
  exact of_decide_eq_true hne (h e.1 (List.mem_map_of_mem he) hreaches)

theorem filter_others_merge {s : Leg} {es patch : Entries} (hes : GoMap.Sorted es)
    (hpatch : GoMap.Sorted patch) (h : ∀ k ∈ patch.map Prod.fst, s.reaches k = true → k = s.name) :
    (mergeMaps es patch).filter (fun e => s.reaches e.1 && e.1 ≠ s.name) =
      es.filter (fun e => s.reaches e.1 && e.1 ≠ s.name) := by
  refine GoMap.Sorted.ext (List.Pairwise.filter _ (sorted_mergeMaps hes patch))
    (List.Pairwise.filter _ hes) fun x => ?_
  have hfilter : ∀ l : Entries, (l.filter (fun e => s.reaches e.1 && e.1 ≠ s.name)).lookup x =
      if s.reaches x && x ≠ s.name then l.lookup x else none :=
    GoMap.lookup_filter (fun k => s.reaches k && k ≠ s.name) x
  rw [hfilter,hfilter]
  split_ifs with hx
  · obtain ⟨hreaches,hne⟩ := Bool.and_eq_true_iff.mp hx
    have hnone : patch.lookup x = none := by
      rw [← Option.not_isSome_iff_eq_none,GoMap.isSome_lookup_iff]
      exact fun hmem => of_decide_eq_true hne (h x hmem hreaches)
    rw [lookup_mergeMaps hpatch.nodup,hnone]
    rfl
  · rfl

theorem othersAt_merge {legs : List Leg} : ∀ {o : Option Json} {j : Json},
    (∀ x, o = some x → Tidy x) → Tidy j → Opens legs j →
      othersAt legs (mergeValue o j) = othersAt legs (o.getD .null) := by
  induction legs with
  | nil =>
    intro o j _ _ _
    rw [othersAt_nil,othersAt_nil]
  | cons s legs ih =>
    intro o j ho hj hopens
    cases j with
    | obj patch =>
      obtain ⟨hkeys,hinner⟩ := hopens
      rcases mergeValue_obj o patch with ⟨es,rfl,hmerge⟩ | ⟨hne,hmerge⟩
      · have hes := ho _ rfl
        rw [hmerge,Option.getD_some,othersAt,othersAt,
          filter_others_merge hes.1.sorted hj.1.sorted hkeys,lookup_mergeMaps hj.nodup]
        refine congrArg (fun l => l ++ _) ?_
        cases hlookup : patch.lookup s.name with
        | none => rfl
        | some j =>
          rw [Option.elim_some,← ih (o := es.lookup s.name) (fun x hx => hes.of_lookup hx)
            (hj.of_lookup hlookup) (hinner j hlookup)]
          cases j with
          | null =>
            cases legs with
            | nil => rw [othersAt_nil,othersAt_nil]
            | cons _ _ => exact (hinner _ hlookup).elim
          | _ => rfl
      · have hnone : ∀ es, o.getD .null ≠ .obj es := by
          intro es h
          cases o with
          | none => cases h
          | some x => exact hne es (congrArg some h)
        rw [hmerge,othersAt_of_ne_obj hnone,othersAt,filter_others hkeys,List.flatMap_nil,List.append_nil]
        cases hlookup : patch.lookup s.name with
        | none => exact othersAt_of_ne_obj (fun _ h => by cases h) legs
        | some j =>
          have hnothing := ih (o := none) (fun _ h => by cases h) (hj.of_lookup hlookup) (hinner j hlookup)
          rw [mergeValue_none] at hnothing
          rw [Option.getD_some,hnothing]
          exact othersAt_of_ne_obj (fun _ h => by cases h) legs
    | _ => cases hopens

theorem read_merge_named {leaf : Json} (hleaf : leaf ≠ .null) {path : List String} :
    ∀ {o : Option Json} {j : Json}, Tidy j → j.read path = some leaf →
      (mergeValue o j).read path = some (mergeValue (o.bind (fun x => x.read path)) leaf) := by
  induction path with
  | nil =>
    intro o j _ hread
    rw [read_nil,Option.some.injEq] at hread
    rw [read_nil,hread]
    cases o with
    | none => rfl
    | some x => rw [Option.bind_some,read_nil]
  | cons k path ih =>
    intro o j hj hread
    cases j with
    | obj patch =>
      rw [read_obj] at hread
      obtain ⟨j,hlookup,hread⟩ := Option.bind_eq_some_iff.mp hread
      have hnull : j ≠ .null := by
        rintro rfl
        cases path with
        | nil => exact hleaf (Option.some.inj ((read_nil _).symm.trans hread)).symm
        | cons _ _ => cases hread
      rcases mergeValue_obj o patch with ⟨es,rfl,hmerge⟩ | ⟨hne,hmerge⟩
      · have hmerged : merged (es.lookup k) j = some (mergeValue (es.lookup k) j) := by
          cases j with
          | null => exact absurd rfl hnull
          | _ => rfl
        rw [hmerge,read_obj,lookup_mergeMaps hj.nodup,hlookup,Option.elim_some,hmerged]
        exact ih (hj.of_lookup hlookup) hread
      · have hnone : o.bind (fun x => x.read (k :: path)) = none := by
          cases o with
          | none => rfl
          | some x =>
            cases x with
            | obj es => exact absurd rfl (hne es)
            | _ => rfl
        rw [hmerge,hnone,mergeValue_none,read_obj,hlookup]
        exact hread
    | _ => cases hread

variable {legs : List Leg} {o : Option Json} {j : Json}

def Proper (s : Leg) : Prop := s.name ∈ s.names ∧ LowerNames s.names

theorem arriveAt_tidy (hlegs : ∀ s ∈ legs, Proper s) (hj : Tidy j) :
    arriveAt legs j = (j.read (legs.map Leg.name)).toList ++ othersAt legs j :=
  arriveAt_eq (fun s hs => (hlegs s hs).1) (firstAt_of_tidy (fun s hs => (hlegs s hs).2) hj)

theorem arriveAt_merge_named (hlegs : ∀ s ∈ legs, Proper s) (ho : ∀ x, o = some x → Tidy x)
    (hj : Tidy j) (hopens : Opens legs j) {leaf : Json} (hleaf : leaf ≠ .null)
    (hread : j.read (legs.map Leg.name) = some leaf) :
    arriveAt legs (mergeValue o j) =
      mergeValue (o.bind (fun x => x.read (legs.map Leg.name))) leaf :: othersAt legs (o.getD .null) := by
  rw [arriveAt_tidy hlegs (tidy_mergeValue o j ho hj),read_merge_named hleaf hj hread,
    othersAt_merge ho hj hopens]
  rfl

theorem arriveAt_merge_spared (hne : legs ≠ []) (hlegs : ∀ s ∈ legs, Proper s)
    (ho : ∀ x, o = some x → Tidy x) (hj : Tidy j) (hopens : Opens legs j)
    (hspares : spares j (legs.map Leg.name) = true) :
    arriveAt legs (mergeValue o j) = arriveAt legs (o.getD .null) := by
  have hread : (o.getD .null).read (legs.map Leg.name) =
      o.bind (fun x => x.read (legs.map Leg.name)) := by
    cases o with
    | none =>
      cases legs with
      | nil => exact absurd rfl hne
      | cons _ _ => rfl
    | some x => rfl
  have htidy : Tidy (o.getD .null) := by
    cases o with
    | none => trivial
    | some x => exact ho x rfl
  rw [arriveAt_tidy hlegs (tidy_mergeValue o j ho hj),arriveAt_tidy hlegs htidy,
    read_merge_spared hj hspares,othersAt_merge ho hj hopens,hread]

end Merge

end PrismGateway.Storage
