import PrismGateway.Lib.MapHeap
import PrismGateway.Storage.MergePatch

namespace PrismGateway.Storage.References

open Lib Lib.MapHeap Lib.Json

-- one turn of the loop over the patch of `mergeMaps`; the result lives at `result`
def mergeEntry (merge : Heap → ℕ → ℕ → Option (Heap × ℕ)) (result : ℕ) (h : Heap)
    (e : String × Val) : Option Heap :=
  match e.2 with
  | .leaf .null => some (h.modify result (GoMap.erase e.1))
  | v => match (h[result]?).bind (·.lookup e.1) with
    | some (.map targetMap) => match v with
      | .map patchMap => (merge h targetMap patchMap).map fun merged =>
        merged.1.modify result (GoMap.insert e.1 (.map merged.2))
      | v => some (h.modify result (GoMap.insert e.1 v))
    | _ => some (h.modify result (GoMap.insert e.1 v))

def mergeMaps (order : RangeOrder) : ℕ → Heap → ℕ → ℕ → Option (Heap × ℕ)
  | 0, _, _, _ => none
  | fuel + 1, h, target, patch => do
    let t ← h[target]?
    let p ← h[patch]?
    let g ← (order.iter p).foldlM (mergeEntry (mergeMaps order fuel) h.length)
      (h ++ [GoMap.ofList (order.iter t)])
    some (g,h.length)

def mergeEntryPublic (merge : Heap → ℕ → ℕ → Option (Heap × ℕ)) (result : ℕ) (h : Heap)
    (e : String × Val) : Option Heap :=
  match e.2 with
  | .leaf .null => some (h.modify result (GoMap.erase e.1))
  | .map pMap => match (h[result]?).bind (·.lookup e.1) with
    | some (.map tMap) => (merge h tMap pMap).map fun merged =>
      merged.1.modify result (GoMap.insert e.1 (.map merged.2))
    | _ => some (h.modify result (GoMap.insert e.1 (.map pMap)))
  | v => some (h.modify result (GoMap.insert e.1 v))

def mergeMapsPublic (order : RangeOrder) : ℕ → Heap → ℕ → ℕ → Option (Heap × ℕ)
  | 0, _, _, _ => none
  | fuel + 1, h, target, patch => do
    let t ← h[target]?
    let p ← h[patch]?
    let g ← (order.iter p).foldlM (mergeEntryPublic (mergeMapsPublic order fuel) h.length)
      (h ++ [GoMap.ofList (order.iter t)])
    some (g,h.length)

theorem mergeEntryPublic_eq (merge : Heap → ℕ → ℕ → Option (Heap × ℕ)) (result : ℕ) (h : Heap)
    (e : String × Val) : mergeEntryPublic merge result h e = mergeEntry merge result h e := by
  obtain ⟨k,v⟩ := e
  unfold mergeEntryPublic mergeEntry
  cases v with
  | map pMap => rfl
  | leaf j =>
    cases j with
    | null => rfl
    | _ =>
      cases (h[result]?).bind (·.lookup k) with
      | none => rfl
      | some u => cases u <;> rfl

theorem mergeMapsPublic_eq (order : RangeOrder) (fuel : ℕ) (h : Heap) (target patch : ℕ) :
    mergeMapsPublic order fuel h target patch = mergeMaps order fuel h target patch := by
  induction fuel generalizing h target patch with
  | zero => rfl
  | succ fuel ih =>
    have hmerge : mergeMapsPublic order fuel = mergeMaps order fuel :=
      funext fun h => funext fun target => funext fun patch => ih h target patch
    have hentry : mergeEntryPublic (mergeMapsPublic order fuel) h.length =
        mergeEntry (mergeMaps order fuel) h.length := by
      rw [hmerge]
      exact funext fun g => funext fun e => mergeEntryPublic_eq _ _ g e
    rw [mergeMapsPublic,mergeMaps,hentry]

def Grown (live : ℕ → Prop) (n : ℕ) (g : Heap) (a : ℕ) : Prop := live a ∨ n < a ∧ a < g.length

/-- The result of a merge on the way: the cells of `h` are as they were, and the next one holds
what has been merged so far. -/
structure Building (live : ℕ → Prop) (h g : Heap) (current : Entries) : Prop where
  old : h <+: g
  cell : ∃ m, g[h.length]? = some m ∧ HoldsAll (Grown live h.length g) g m current
  sorted : GoMap.Sorted current

def MergesInto (run : ℕ → Heap → ℕ → ℕ → Option (Heap × ℕ)) (p : Entries) : Prop :=
  ∀ (live : ℕ → Prop) (h : Heap) (target patch : ℕ) (t : Entries), (∀ a, live a → a < h.length) →
    Ordered (.obj t) → Holds live h (.map target) (.obj t) → Holds live h (.map patch) (.obj p) →
      ∃ n g, (∀ fuel, n ≤ fuel → run fuel h target patch = some (g,h.length)) ∧ h <+: g ∧
        Holds (fun a => live a ∨ h.length ≤ a ∧ a < g.length) g (.map h.length)
          (.obj (Storage.mergeMaps t p))

section Steps

variable {live : ℕ → Prop} {h g : Heap} {current t p : Entries} {k : String} {v : Val} {j : Json}
    {run : ℕ → Heap → ℕ → ℕ → Option (Heap × ℕ)}

theorem getElem?_of_old (hold : h <+: g) {a : ℕ} (ha : a < h.length) : g[a]? = h[a]? := by
  obtain ⟨rest,rfl⟩ := hold
  exact List.getElem?_append_left ha

theorem Building.write (hlive : ∀ a, live a → a < h.length) (hb : Building live h g current)
    {g' : Heap} (hgrow : g <+: g') {f : Cell → Cell} {next : Entries} (hnext : GoMap.Sorted next)
    (hf : ∀ m, HoldsAll (Grown live h.length g') g' m current →
      HoldsAll (Grown live h.length g') g' (f m) next) :
    Building live h (g'.modify h.length f) next := by
  obtain ⟨hold,⟨m,hm,hes⟩,-⟩ := hb
  have hin : h.length < g.length := (List.getElem?_eq_some_iff.mp hm).1
  have hsame : ∀ a, Grown live h.length g a → g'[a]? = g[a]? := by
    rintro a (ha | ⟨-,ha⟩)
    · exact getElem?_of_old hgrow ((hlive a ha).trans hin)
    · exact getElem?_of_old hgrow ha
  have hwider : ∀ a, Grown live h.length g a → Grown live h.length g' a := by
    rintro a (ha | ⟨hlt,ha⟩)
    · exact .inl ha
    · exact .inr ⟨hlt,ha.trans_le hgrow.length_le⟩
  have hkept : ∀ a, Grown live h.length g' a → (g'.modify h.length f)[a]? = g'[a]? := by
    rintro a (ha | ⟨hlt,-⟩)
    · exact List.getElem?_modify_ne _ _ (hlive a ha).ne'
    · exact List.getElem?_modify_ne _ _ hlt.ne
  refine ⟨?_,⟨f m,?_,?_⟩,hnext⟩
  · refine List.prefix_iff_getElem?.mpr fun a ha => ?_
    rw [List.getElem?_modify_ne _ _ ha.ne',getElem?_of_old (hold.trans hgrow) ha,
      List.getElem?_eq_getElem ha]
  · rw [List.getElem?_modify_eq,getElem?_of_old hgrow hin,hm]
    rfl
  · refine HoldsAll.frame ?_ hkept _ _ (hf m (HoldsAll.frame hwider hsame _ _ hes))
    rintro a (ha | ⟨hlt,ha⟩)
    · exact .inl ha
    · exact .inr ⟨hlt,by rwa [List.length_modify]⟩

theorem mergeMaps_single_null (current : Entries) (k : String) :
    Storage.mergeMaps current [(k,.null)] = GoMap.erase k current := by
  rw [Storage.mergeMaps,Storage.mergeMaps]

theorem mergeMaps_single {j : Json} (hj : j ≠ .null) (current : Entries) (k : String) :
    Storage.mergeMaps current [(k,j)] =
      GoMap.insert k (mergeValue (current.lookup k) j) current := by
  rw [Storage.mergeMaps,Storage.mergeMaps]
  exact hj

theorem mergeEntry_leaf (merge : Heap → ℕ → ℕ → Option (Heap × ℕ)) (result : ℕ) (hj : j ≠ .null) :
    mergeEntry merge result g (k,.leaf j) = some (g.modify result (GoMap.insert k (.leaf j))) := by
  unfold mergeEntry
  cases j with
  | null => exact absurd rfl hj
  | _ =>
    cases (g[result]?).bind (·.lookup k) with
    | none => rfl
    | some u => cases u <;> rfl

theorem mergeEntry_map {merge : Heap → ℕ → ℕ → Option (Heap × ℕ)} {result a : ℕ}
    (h : ∀ b, (g[result]?).bind (·.lookup k) ≠ some (.map b)) :
    mergeEntry merge result g (k,.map a) = some (g.modify result (GoMap.insert k (.map a))) := by
  unfold mergeEntry
  cases hfound : (g[result]?).bind (·.lookup k) with
  | none => rfl
  | some u =>
    cases u with
    | leaf _ => rfl
    | map b => exact absurd hfound (h b)

theorem mergeEntry_both {merge : Heap → ℕ → ℕ → Option (Heap × ℕ)} {result a b : ℕ}
    (h : (g[result]?).bind (·.lookup k) = some (.map b)) :
    mergeEntry merge result g (k,.map a) = (merge g b a).map fun merged =>
      merged.1.modify result (GoMap.insert k (.map merged.2)) := by
  unfold mergeEntry
  dsimp only
  rw [h]

theorem Building.wider (hlive : ∀ a, live a → a < h.length) (hb : Building live h g current)
    (hv : Holds live h v j) : Holds (Grown live h.length g) g v j :=
  Holds.frame (fun _ ha => .inl ha) (fun a ha => getElem?_of_old hb.old (hlive a ha)) j v hv

theorem mergeEntry_spec (hlive : ∀ a, live a → a < h.length) (hb : Building live h g current)
    (hv : Holds live h v j) (hcurrent : ∀ x, current.lookup k = some x → Ordered x)
    (hmerge : ∀ p, j = .obj p → MergesInto run p) :
    ∃ n g', (∀ fuel, n ≤ fuel → mergeEntry (run fuel) h.length g (k,v) = some g') ∧
      Building live h g' (Storage.mergeMaps current [(k,j)]) := by
  have hsorted : GoMap.Sorted (Storage.mergeMaps current [(k,j)]) := sorted_mergeMaps hb.sorted _
  have hwider := hb.wider hlive hv
  obtain ⟨m,hm,hes⟩ := hb.cell
  have hin : h.length < g.length := (List.getElem?_eq_some_iff.mp hm).1
  have hbind : (g[h.length]?).bind (·.lookup k) = m.lookup k := by rw [hm,Option.bind_some]
  by_cases hj : j = .null
  · subst hj
    obtain rfl := (holds_leaf fun _ hes => by cases hes).mp hv
    rw [mergeMaps_single_null] at hsorted ⊢
    exact ⟨0,_,fun _ _ => rfl,hb.write hlive (List.prefix_refl g) hsorted fun m hm => hm.erase k⟩
  rw [mergeMaps_single hj] at hsorted ⊢
  by_cases hobj : ∃ p, j = .obj p
  · obtain ⟨p,rfl⟩ := hobj
    obtain ⟨a,rfl⟩ := map_of_obj hv
    rcases mergeValue_obj (current.lookup k) p with ⟨t,ht,hvalue⟩ | ⟨hnone,hvalue⟩
    · -- both sides are maps: the merge of the two is stored
      obtain ⟨u,hu,htarget⟩ := hes.lookup ht
      obtain ⟨b,rfl⟩ := map_of_obj htarget
      have hgrown : ∀ a, Grown live h.length g a → a < g.length := by
        rintro a (ha | ⟨-,ha⟩)
        · exact (hlive a ha).trans hin
        · exact ha
      obtain ⟨n,g₁,hrun,hgrow,hmerged⟩ := hmerge p rfl _ g b a t hgrown (hcurrent _ ht) htarget hwider
      rw [hvalue] at hsorted ⊢
      refine ⟨n,g₁.modify h.length (GoMap.insert k (.map g.length)),fun fuel hfuel => ?_,
        hb.write hlive hgrow hsorted fun m hm => hm.insert (Holds.frame ?_ (fun _ _ => rfl) _ _ hmerged)⟩
      · rw [mergeEntry_both (hbind.trans hu),hrun fuel hfuel]
        rfl
      · rintro a ((ha | ⟨hlt,ha⟩) | ⟨hle,ha⟩)
        · exact .inl ha
        · exact .inr ⟨hlt,ha.trans_le hgrow.length_le⟩
        · exact .inr ⟨hin.trans_le hle,ha⟩
    · rw [hvalue] at hsorted ⊢
      refine ⟨0,_,fun fuel _ => mergeEntry_map fun b hb => ?_,
        hb.write hlive (List.prefix_refl g) hsorted fun m hm => hm.insert hwider⟩
      obtain ⟨es,hes⟩ := hes.obj_of_lookup (hbind.symm.trans hb)
      exact hnone es hes
  · have hleaf : ∀ es, j ≠ .obj es := fun es hes => hobj ⟨es,hes⟩
    obtain rfl := (holds_leaf hleaf).mp hv
    have hvalue : mergeValue (current.lookup k) j = j := by
      rw [mergeValue]
      exact hleaf
    rw [hvalue] at hsorted ⊢
    exact ⟨0,_,fun fuel _ => mergeEntry_leaf _ _ hj,
      hb.write hlive (List.prefix_refl g) hsorted fun m hm => hm.insert hwider⟩

theorem loop_spec (hlive : ∀ a, live a → a < h.length) {l : Cell} (hnodup : (l.map Prod.fst).Nodup)
    (hl : ∀ e ∈ l, ∃ j, p.lookup e.1 = some j ∧ Holds live h e.2 j ∧
      ∀ q, j = .obj q → MergesInto run q)
    (hb : Building live h g current)
    (hcurrent : ∀ e ∈ l, ∀ x, current.lookup e.1 = some x → Ordered x) :
    ∃ n g' next, (∀ fuel, n ≤ fuel → l.foldlM (mergeEntry (run fuel) h.length) g = some g') ∧
      Building live h g' next ∧ ∀ x, next.lookup x =
        if x ∈ l.map Prod.fst then (p.lookup x).elim (current.lookup x) (merged (current.lookup x))
        else current.lookup x := by
  induction l generalizing g current with
  | nil => exact ⟨0,g,current,fun _ _ => rfl,hb,fun x => (if_neg List.not_mem_nil).symm⟩
  | cons e l ih =>
    obtain ⟨k,v⟩ := e
    obtain ⟨hk,hnodup⟩ := List.nodup_cons.mp hnodup
    obtain ⟨⟨j,hj,hv,hmerge⟩,hl⟩ := List.forall_mem_cons.mp hl
    obtain ⟨hfirst,hcurrent⟩ := List.forall_mem_cons.mp hcurrent
    obtain ⟨n,g₁,hrun,hb₁⟩ := mergeEntry_spec hlive hb hv hfirst hmerge
    have hlookup : ∀ x, (Storage.mergeMaps current [(k,j)]).lookup x =
        if x = k then merged (current.lookup k) j else current.lookup x := by
      intro x
      rw [@lookup_mergeMaps current [(k,j)] (List.nodup_singleton k),GoMap.lookup_cons_eq]
      split_ifs with hx
      · rw [hx]
        rfl
      · rfl
    have hother : ∀ x ∈ l.map Prod.fst, x ≠ k := fun x hx heq => hk (heq ▸ hx)
    obtain ⟨n',g',next,hrest,hb',hnext⟩ := ih hnodup hl hb₁ fun e he x hx => by
      rw [hlookup,if_neg (hother _ (List.mem_map_of_mem he))] at hx
      exact hcurrent e he x hx
    refine ⟨max n n',g',next,fun fuel hfuel => ?_,hb',fun x => ?_⟩
    · rw [List.foldlM_cons,hrun fuel ((le_max_left _ _).trans hfuel)]
      exact hrest fuel ((le_max_right _ _).trans hfuel)
    · rw [hnext x,hlookup x]
      by_cases hx : x = k
      · subst hx
        rw [if_neg hk,if_pos rfl,List.map_cons,if_pos List.mem_cons_self,hj]
        rfl
      · rw [if_neg hx]
        simp only [List.map_cons,List.mem_cons,hx,false_or]

end Steps

section Merge

variable (order : RangeOrder)

theorem ordered_obj {es : Entries} (h : Ordered (.obj es)) : GoMap.Sorted es ∧ OrderedMembers es := h

theorem copied {live : ℕ → Prop} {h : Heap} {cell : Cell} {es : Entries}
    (hes : HoldsAll live h cell es) (hsorted : GoMap.Sorted es) :
    GoMap.ofList (order.iter cell) = cell := by
  refine GoMap.ofList_eq_of_perm ?_ (order.perm cell)
  have hkeys : (es.map Prod.fst).Pairwise (· < ·) := List.pairwise_map.mpr hsorted
  rw [← hes.keys] at hkeys
  exact List.pairwise_map.mp hkeys

theorem mergeMaps_spec (j : Json) (hj : Ordered j) : ∀ p, j = .obj p → MergesInto (mergeMaps order) p := by
  induction j using tree_induction with
  | obj p ih =>
    rintro _ ⟨rfl⟩ live h target patch t hlive ht htarget hpatch
    obtain ⟨hsorted,hmembers⟩ := ordered_obj hj
    obtain ⟨htsorted,htmembers⟩ := ordered_obj ht
    obtain ⟨-,tcell,htcell,htes⟩ := holds_obj.mp htarget
    obtain ⟨-,pcell,hpcell,hpes⟩ := holds_obj.mp hpatch
    have hkeys : ∀ x, x ∈ (order.iter pcell).map Prod.fst ↔ x ∈ p.map Prod.fst := fun x => by
      rw [((order.perm pcell).map Prod.fst).mem_iff,hpes.keys]
    have hstart : Building live h (h ++ [tcell]) t := by
      refine ⟨List.prefix_append _ _,⟨tcell,?_,?_⟩,htsorted⟩
      · rw [List.getElem?_append_right le_rfl,Nat.sub_self,List.getElem?_cons_zero]
      · exact HoldsAll.frame (fun _ ha => .inl ha)
          (fun a ha => List.getElem?_append_left (hlive a ha)) _ _ htes
    have hnodup : ((order.iter pcell).map Prod.fst).Nodup := by
      rw [((order.perm pcell).map Prod.fst).nodup_iff,hpes.keys]
      exact hsorted.nodup
    obtain ⟨n,g,next,hrun,hb,hnext⟩ := @loop_spec live h _ t p (mergeMaps order) hlive
      (order.iter pcell) hnodup (fun e he => by
        obtain ⟨j,hlookup,hheld⟩ := hpes.member hsorted.nodup ((order.perm pcell).mem_iff.mp he)
        have hmem := GoMap.mem_of_lookup hlookup
        exact ⟨j,hlookup,hheld,ih _ hmem (orderedMembers_iff.mp hmembers _ hmem)⟩)
      hstart (fun _ _ _ hx => htmembers.of_lookup _ hx)
    have hresult : next = Storage.mergeMaps t p := by
      refine GoMap.Sorted.ext hb.sorted (sorted_mergeMaps htsorted p) fun x => ?_
      rw [hnext x,lookup_mergeMaps hsorted.nodup]
      split_ifs with hx
      · rfl
      · have habsent : p.lookup x = none := by
          rw [← Option.not_isSome_iff_eq_none,GoMap.isSome_lookup_iff,← hkeys x]
          exact hx
        rw [habsent]
        rfl
    obtain ⟨m,hm,hes⟩ := hb.cell
    refine ⟨n + 1,g,fun fuel hfuel => ?_,hb.old,holds_obj.mpr ⟨.inr ⟨le_rfl,?_⟩,m,hm,?_⟩⟩
    · cases fuel with
      | zero => exact absurd hfuel (Nat.not_succ_le_zero n)
      | succ fuel =>
        rw [mergeMaps,htcell,hpcell]
        simp only [Option.bind_eq_bind,Option.bind_some,copied order htes htsorted]
        rw [hrun fuel (Nat.le_of_succ_le_succ hfuel),Option.bind_some]
    · exact (List.getElem?_eq_some_iff.mp hm).1
    · rw [← hresult]
      refine HoldsAll.frame ?_ (fun _ _ => rfl) _ _ hes
      rintro a (ha | ⟨hlt,ha⟩)
      · exact .inl ha
      · exact .inr ⟨hlt.le,ha⟩
  | _ => exact fun p hp => by cases hp

theorem keys_mergeMaps {t p : Entries} (hp : GoMap.Sorted p) (x : String) :
    x ∈ (Storage.mergeMaps t p).map Prod.fst ↔
      (x ∈ t.map Prod.fst ∨ x ∈ p.map Prod.fst) ∧ p.lookup x ≠ some .null := by
  rw [← GoMap.isSome_lookup_iff,← GoMap.isSome_lookup_iff,← GoMap.isSome_lookup_iff,
    lookup_mergeMaps hp.nodup]
  cases hx : p.lookup x with
  | none => simp
  | some j => cases j <;> simp [merged]

theorem merges_agree (h : Heap) (target patch : ℕ) (t p : Entries) (ht : Ordered (.obj t))
    (hp : Ordered (.obj p)) (htarget : Holds (· < h.length) h (.map target) (.obj t))
    (hpatch : Holds (· < h.length) h (.map patch) (.obj p)) :
    ∃ n g, (∀ fuel, n ≤ fuel → mergeMaps order fuel h target patch = some (g,h.length) ∧
        mergeMapsPublic order fuel h target patch = some (g,h.length)) ∧
      h <+: g ∧ Holds (· < g.length) g (.map h.length) (.obj (Storage.mergeMaps t p)) ∧
      ∀ x, x ∈ (Storage.mergeMaps t p).map Prod.fst ↔
        (x ∈ t.map Prod.fst ∨ x ∈ p.map Prod.fst) ∧ p.lookup x ≠ some .null := by
  obtain ⟨n,g,hrun,hold,hheld⟩ := mergeMaps_spec order _ hp p rfl (· < h.length) h target patch t
    (fun _ ha => ha) ht htarget hpatch
  refine ⟨n,g,fun fuel hfuel => ⟨hrun fuel hfuel,?_⟩,hold,?_,keys_mergeMaps (ordered_obj hp).1⟩
  · rw [mergeMapsPublic_eq]
    exact hrun fuel hfuel
  · refine Holds.frame ?_ (fun _ _ => rfl) _ _ hheld
    rintro a (ha | ⟨-,ha⟩)
    · exact ha.trans_le hold.length_le
    · exact ha

end Merge

def betaHeap : Heap :=
  [[("features",.map 1)],[("beta",.leaf (.bool true))],[("features",.map 3)],[("beta",.leaf .null)]]

def asListed : RangeOrder := ⟨fun l => l,listed_cell⟩

def betaOn : Entries := [("features",.obj [("beta",.bool true)])]

def betaOff : Entries := [("features",.obj [("beta",.null)])]

theorem beta_merges :
    ∃ n g, (∀ fuel, n ≤ fuel → mergeMaps asListed fuel betaHeap 0 2 = some (g,betaHeap.length) ∧
        mergeMapsPublic asListed fuel betaHeap 0 2 = some (g,betaHeap.length)) ∧
      betaHeap <+: g ∧
      Holds (· < g.length) g (.map betaHeap.length) (.obj (Storage.mergeMaps betaOn betaOff)) ∧
      ∀ x, x ∈ (Storage.mergeMaps betaOn betaOff).map Prod.fst ↔
        (x ∈ betaOn.map Prod.fst ∨ x ∈ betaOff.map Prod.fst) ∧ betaOff.lookup x ≠ some .null := by
  have hfield (j : Json) (hj : Ordered j) (k : String) : Ordered (.obj [(k,j)]) :=
    ⟨List.pairwise_singleton _ _,hj,trivial⟩
  refine merges_agree asListed betaHeap 0 2 betaOn betaOff
    (hfield _ (hfield (.bool true) trivial "beta") "features")
    (hfield _ (hfield .null trivial "beta") "features") ?_ ?_
  · exact ⟨0,_,rfl,by decide,rfl,_,_,rfl,⟨1,_,rfl,by decide,rfl,_,_,rfl,rfl,rfl⟩,rfl⟩
  · exact ⟨2,_,rfl,by decide,rfl,_,_,rfl,⟨3,_,rfl,by decide,rfl,_,_,rfl,rfl,rfl⟩,rfl⟩

end PrismGateway.Storage.References
