import PrismGateway.Lib.Paths

namespace PrismGateway.Lib.Json

def membersOf : Option Json → Entries
  | some (.obj es) => es
  | _ => []

mutual

def mergePatch (target : Option Json) : Json → Json
  | .obj patch => .obj (mergeMembers (membersOf target) patch)
  | j => j

def mergeMembers (target : Entries) : Entries → Entries
  | [] => target
  | (k,j) :: patch =>
    let result := mergeMembers target patch
    match j with
    | .null => GoMap.erase k result
    | j => GoMap.insert k (mergePatch (result.lookup k) j) result

end

mutual

def Ordered : Json → Prop
  | .arr items => OrderedItems items
  | .obj es => GoMap.Sorted es ∧ OrderedMembers es
  | _ => True

def OrderedItems : List Json → Prop
  | [] => True
  | j :: items => Ordered j ∧ OrderedItems items

def OrderedMembers : Entries → Prop
  | [] => True
  | (_,j) :: es => Ordered j ∧ OrderedMembers es

end

mutual

def NullFree : Json → Prop
  | .null => False
  | .obj es => NullFreeMembers es
  | _ => True

def NullFreeMembers : Entries → Prop
  | [] => True
  | (_,j) :: es => NullFree j ∧ NullFreeMembers es

end

/-- What becomes of a member of the target for which the patch has the value `j`. -/
def patched (target : Option Json) : Json → Option Json
  | .null => none
  | j => some (mergePatch target j)

theorem orderedMembers_iff {es : Entries} : OrderedMembers es ↔ ∀ e ∈ es, Ordered e.2 := by
  induction es with
  | nil => simp [OrderedMembers]
  | cons e es ih =>
    obtain ⟨k,j⟩ := e
    simp [OrderedMembers,ih]

theorem nullFreeMembers_iff {es : Entries} : NullFreeMembers es ↔ ∀ e ∈ es, NullFree e.2 := by
  induction es with
  | nil => simp [NullFreeMembers]
  | cons e es ih =>
    obtain ⟨k,j⟩ := e
    simp [NullFreeMembers,ih]

theorem patched_of_ne {o : Option Json} {j : Json} (h : j ≠ .null) : patched o j = some (mergePatch o j) := by
  cases j with
  | null => exact absurd rfl h
  | _ => rfl

theorem lookup_of_steps {m : Entries → Entries} {f : Option Json → Json → Option Json}
    (hstep : ∀ k j patch x, (m ((k,j) :: patch)).lookup x =
      if x = k then f ((m patch).lookup k) j else (m patch).lookup x)
    {patch : Entries} (hnodup : (patch.map Prod.fst).Nodup) (x : String) :
    (m patch).lookup x = (patch.lookup x).elim ((m []).lookup x) (f ((m []).lookup x)) := by
  induction patch generalizing x with
  | nil => rfl
  | cons e patch ih =>
    obtain ⟨k,j⟩ := e
    obtain ⟨hk,hnodup⟩ := List.nodup_cons.mp hnodup
    have habsent : patch.lookup k = none := by
      rw [← Option.not_isSome_iff_eq_none,GoMap.isSome_lookup_iff]
      exact hk
    rw [hstep,GoMap.lookup_cons_eq]
    split_ifs with h
    · rw [h,ih hnodup,habsent]
      rfl
    · exact ih hnodup x

theorem lookup_mergeMembers {target patch : Entries} (hnodup : (patch.map Prod.fst).Nodup) (x : String) :
    (mergeMembers target patch).lookup x =
      (patch.lookup x).elim (target.lookup x) (patched (target.lookup x)) := by
  have hnil : mergeMembers target [] = target := by rw [mergeMembers]
  rw [lookup_of_steps (m := mergeMembers target) (f := patched) ?_ hnodup x,hnil]
  intro k j patch y
  cases j with
  | null => rw [mergeMembers,GoMap.lookup_erase,patched]
  | _ =>
    rw [mergeMembers,GoMap.lookup_insert,patched]
    all_goals exact fun h => by cases h

theorem sorted_mergeMembers {target : Entries} (h : GoMap.Sorted target) (patch : Entries) :
    GoMap.Sorted (mergeMembers target patch) := by
  induction patch with
  | nil => simpa [mergeMembers] using h
  | cons e patch ih =>
    obtain ⟨k,j⟩ := e
    cases j with
    | null =>
      rw [mergeMembers]
      exact GoMap.sorted_erase ih
    | _ =>
      rw [mergeMembers]
      · exact GoMap.sorted_insert ih
      · exact fun h => by cases h

theorem mergePatch_obj (o : Option Json) (patch : Entries) :
    mergePatch o (.obj patch) = .obj (mergeMembers (membersOf o) patch) := by rw [mergePatch]

theorem mergePatch_of_ne_obj {j : Json} (hj : ∀ es, j ≠ .obj es) (o : Option Json) : mergePatch o j = j := by
  cases j with
  | obj es => exact absurd rfl (hj es)
  | _ => rw [mergePatch]; exact fun _ h => by cases h

theorem ordered_membersOf {o : Option Json} (h : ∀ x ∈ o, Ordered x) :
    GoMap.Sorted (membersOf o) ∧ OrderedMembers (membersOf o) := by
  cases o with
  | none => exact ⟨List.Pairwise.nil,trivial⟩
  | some x =>
    cases x with
    | obj es => exact h _ rfl
    | _ => exact ⟨List.Pairwise.nil,trivial⟩

theorem OrderedMembers.of_lookup {es : Entries} (h : OrderedMembers es) {k : String} :
    ∀ x ∈ es.lookup k, Ordered x :=
  fun x hx => orderedMembers_iff.mp h (k,x) (GoMap.mem_of_lookup hx)

mutual

theorem ordered_mergePatch : (j : Json) → Ordered j → (o : Option Json) → (∀ x ∈ o, Ordered x) →
    Ordered (mergePatch o j)
  | .null, h, _, _ => h
  | .bool _, h, _, _ => h
  | .num _, h, _, _ => h
  | .str _, h, _, _ => h
  | .arr _, h, _, _ => by rw [mergePatch_of_ne_obj (by simp)]; exact h
  | .obj patch, h, o, ho => by
    obtain ⟨hsorted,hmembers⟩ := ordered_membersOf ho
    rw [mergePatch_obj]
    exact ⟨sorted_mergeMembers hsorted patch,ordered_mergeMembers patch h.2 _ hmembers⟩

theorem ordered_mergeMembers : (patch : Entries) → OrderedMembers patch → (target : Entries) →
    OrderedMembers target → OrderedMembers (mergeMembers target patch)
  | [], _, target, h => by rw [mergeMembers]; exact h
  | (k,j) :: patch, hpatch, target, h => by
    have hrest := ordered_mergeMembers patch hpatch.2 target h
    by_cases hj : j = .null
    · subst hj
      rw [mergeMembers]
      exact orderedMembers_iff.mpr fun e he =>
        orderedMembers_iff.mp hrest e (List.mem_of_mem_filter he)
    · rw [mergeMembers]
      · refine orderedMembers_iff.mpr fun e he => ?_
        rcases GoMap.mem_of_mem_insert he with rfl | he
        · exact ordered_mergePatch j hpatch.1 _ hrest.of_lookup
        · exact orderedMembers_iff.mp hrest e he
      · exact fun h => hj h

end

section Laws

variable {target patch : Entries}

theorem mergeMembers_fixed (htarget : GoMap.Sorted target) (hpatch : GoMap.Sorted patch)
    (h : ∀ e ∈ patch, patched (target.lookup e.1) e.2 = target.lookup e.1) :
    mergeMembers target patch = target := by
  refine GoMap.Sorted.ext (sorted_mergeMembers htarget patch) htarget fun x => ?_
  rw [lookup_mergeMembers hpatch.nodup]
  cases hx : patch.lookup x with
  | none => rfl
  | some j => exact h (x,j) (GoMap.mem_of_lookup hx)

mutual

theorem mergePatch_twice : (j : Json) → Ordered j → (o : Option Json) → (∀ x ∈ o, Ordered x) →
    mergePatch (some (mergePatch o j)) j = mergePatch o j
  | .null, _, _, _ => rfl
  | .bool _, _, _, _ => rfl
  | .num _, _, _, _ => rfl
  | .str _, _, _, _ => rfl
  | .arr _, _, _, _ => rfl
  | .obj patch, hj, o, ho => by
    obtain ⟨hsorted,hmembers⟩ := ordered_membersOf ho
    rw [mergePatch_obj,mergePatch_obj]
    refine congrArg Json.obj (mergeMembers_fixed (sorted_mergeMembers hsorted patch) hj.1 ?_)
    intro e he
    have hlookup : patch.lookup e.1 = some e.2 := GoMap.lookup_of_mem hj.1.nodup he
    change patched ((mergeMembers (membersOf o) patch).lookup e.1) e.2 =
      (mergeMembers (membersOf o) patch).lookup e.1
    rw [lookup_mergeMembers hj.1.nodup,hlookup]
    exact patched_twice patch hj.2 e he _ hmembers.of_lookup

theorem patched_twice : (patch : Entries) → OrderedMembers patch → ∀ e ∈ patch, ∀ o : Option Json,
    (∀ x ∈ o, Ordered x) → patched (patched o e.2) e.2 = patched o e.2
  | [], _ => by simp
  | (_,j) :: patch, h => List.forall_mem_cons.mpr ⟨fun o ho => by
      cases j with
      | null => rfl
      | _ => exact congrArg some (mergePatch_twice _ h.1 o ho),patched_twice patch h.2⟩

end

theorem mergeMembers_twice (htarget : Ordered (.obj target)) (hpatch : Ordered (.obj patch)) :
    mergeMembers (mergeMembers target patch) patch = mergeMembers target patch := by
  have htwice := mergePatch_twice (.obj patch) hpatch (some (.obj target))
    (fun x hx => by cases hx; exact htarget)
  rw [mergePatch_obj,mergePatch_obj] at htwice
  exact Json.obj.inj htwice

theorem read_mergeMembers_null {path : List String} (hpatch : Ordered (.obj patch))
    (h : (Json.obj patch).read path = some .null) :
    (Json.obj (mergeMembers target patch)).read path = none := by
  induction path generalizing target patch with
  | nil => cases h
  | cons k path ih =>
    rw [read_obj] at h ⊢
    obtain ⟨j,hj,hread⟩ := Option.bind_eq_some_iff.mp h
    rw [lookup_mergeMembers hpatch.1.nodup,hj]
    cases j with
    | null => rfl
    | obj inner => exact ih (hpatch.2.of_lookup _ hj) hread
    | _ => cases path <;> cases hread

theorem mergeMembers_nil_eq_iff (hpatch : GoMap.Sorted patch)
    (hmembers : ∀ e ∈ patch, patched none e.2 = some e.2 ↔ NullFree e.2) :
    mergeMembers [] patch = patch ↔ NullFreeMembers patch := by
  rw [nullFreeMembers_iff]
  constructor
  · intro h e he
    have hlookup := @lookup_mergeMembers [] patch hpatch.nodup e.1
    rw [h,GoMap.lookup_of_mem hpatch.nodup he] at hlookup
    exact (hmembers e he).mp hlookup.symm
  · intro h
    refine GoMap.Sorted.ext (sorted_mergeMembers List.Pairwise.nil patch) hpatch fun x => ?_
    rw [lookup_mergeMembers hpatch.nodup]
    cases hx : patch.lookup x with
    | none => rfl
    | some j =>
      have hmem := GoMap.mem_of_lookup hx
      exact (hmembers (x,j) hmem).mpr (h (x,j) hmem)

mutual

theorem mergePatch_none_eq_iff : (j : Json) → Ordered j → (patched none j = some j ↔ NullFree j)
  | .null, _ => by simp [patched,NullFree]
  | .bool _, _ => by simp [patched,mergePatch,NullFree]
  | .num _, _ => by simp [patched,mergePatch,NullFree]
  | .str _, _ => by simp [patched,mergePatch,NullFree]
  | .arr _, _ => by simp [patched,mergePatch,NullFree]
  | .obj patch, h => by
    rw [patched_of_ne (by simp),mergePatch_obj,Option.some.injEq,Json.obj.injEq,NullFree]
    exact mergeMembers_nil_eq_iff h.1 (mergeMember_none_eq_iff patch h.2)

theorem mergeMember_none_eq_iff : (patch : Entries) → OrderedMembers patch →
    ∀ e ∈ patch, patched none e.2 = some e.2 ↔ NullFree e.2
  | [], _ => by simp
  | (_,j) :: patch, h => List.forall_mem_cons.mpr
      ⟨mergePatch_none_eq_iff j h.1,mergeMember_none_eq_iff patch h.2⟩

end

theorem mergeMembers_nil_iff (hpatch : Ordered (.obj patch)) :
    mergeMembers [] patch = patch ↔ NullFreeMembers patch :=
  mergeMembers_nil_eq_iff hpatch.1 (mergeMember_none_eq_iff patch hpatch.2)

end Laws

end PrismGateway.Lib.Json
