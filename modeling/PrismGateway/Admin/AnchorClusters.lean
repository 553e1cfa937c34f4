import Mathlib.Algebra.Order.Ring.Rat
import Mathlib.Data.List.Chain
import Mathlib.Data.List.GetD
import Mathlib.Data.List.MinMax
import PrismGateway.Lib.Clusters
import PrismGateway.Lib.MinMax

namespace PrismGateway.Admin.AnchorClusters

open Lib

abbrev Vector (dims : ℕ) := Fin dims → ℚ

structure EmbeddedItem (dims : ℕ) where
  text : String
  embedding : Vector dims
  deriving DecidableEq

structure ClusterResult (dims : ℕ) where
  centroid : Vector dims
  members : List (EmbeddedItem dims)

section Helpers

variable {dims : ℕ}

def euclidSq (a b : Vector dims) : ℚ := distSq a b

def computeCentroid (items : List (EmbeddedItem dims)) : Option (Vector dims) :=
  if items.isEmpty then none
  else
    let centroid := items.foldl (fun (centroid : Vector dims) it => centroid + it.embedding) 0
    some fun j => centroid j / items.length

def nearestToCentroid (centroid : Vector dims) (members : List (EmbeddedItem dims)) :
    Option String :=
  (members.argmin (fun m => euclidSq centroid m.embedding)).map (·.text)

end Helpers

structure Draws (n : ℕ) where
  -- the second draw of the source; the first one only gives the dimension
  first : Fin n
  float64 : ℕ → ℚ
  range : ∀ i, 0 ≤ float64 i ∧ float64 i < 1

section Seeding

variable {dims : ℕ}

def minDist (centroids : List (Vector dims)) (it : EmbeddedItem dims) : ℚ :=
  match centroids.map (euclidSq it.embedding) with
  | [] => 0
  | first :: rest => smallestOf first rest

def chosenIndex (threshold : ℚ) : ℕ → ℚ → List ℚ → ℕ
  | _, _, [] => 0
  | i, cumulative, d :: dists =>
    if cumulative + d ≥ threshold then i else chosenIndex threshold (i + 1) (cumulative + d) dists

def nextCentroid (items : List (EmbeddedItem dims)) (centroids : List (Vector dims)) (drawn : ℚ) :
    Vector dims :=
  let dists := items.map (minDist centroids)
  let idx := if dists.sum = 0 then 0 else chosenIndex (drawn * dists.sum) 0 0 dists
  ((items[idx]?).map (·.embedding)).getD 0

def seeded (items : List (EmbeddedItem dims)) (draws : Draws items.length) : ℕ → List (Vector dims)
  | 0 => [(items.get draws.first).embedding]
  | n + 1 =>
    let centroids := seeded items draws n
    centroids ++ [nextCentroid items centroids (draws.float64 n)]

end Seeding

structure Lloyd (dims : ℕ) where
  assignments : List ℕ
  centroids : List (Vector dims)

section Iterations

variable {dims : ℕ}

def nearest (centroids : List (Vector dims)) (it : EmbeddedItem dims) : ℕ :=
  ((List.range centroids.length).argmin (fun c => euclidSq it.embedding (centroids.getD c 0))).getD 0

def assign (centroids : List (Vector dims)) : List (EmbeddedItem dims) → List ℕ → List ℕ × Bool
  | it :: items, a :: assignments =>
    let best := nearest centroids it
    let (rest,changed) := assign centroids items assignments
    (best :: rest,decide (a ≠ best) || changed)
  | _, _ => ([],false)

def sums (items : List (EmbeddedItem dims)) (assignments : List ℕ) : ℕ → Vector dims × ℕ :=
  foldGrouped Prod.snd (fun held (x : EmbeddedItem dims × ℕ) => (held.1 + x.1.embedding,held.2 + 1))
    (fun _ => (0,0)) (items.zip assignments)

def recompute (items : List (EmbeddedItem dims)) (assignments : List ℕ) (centroids : List (Vector dims)) :
    List (Vector dims) :=
  (List.range centroids.length).map (fun c =>
    let held := sums items assignments c
    if held.2 > 0 then fun j => held.1 j / held.2 else centroids.getD c 0)

def iteration (items : List (EmbeddedItem dims)) (s : Lloyd dims) : Option (Lloyd dims) :=
  let (assignments,changed) := assign s.centroids items s.assignments
  if !changed then none
  else some ⟨assignments,recompute items assignments s.centroids⟩

def iterations (items : List (EmbeddedItem dims)) : ℕ → Lloyd dims → List (Lloyd dims)
  | 0, _ => []
  | n + 1, s => match iteration items s with
    | none => []
    | some s' => s' :: iterations items n s'

def memberLists (items : List (EmbeddedItem dims)) (assignments : List ℕ) : ℕ → List (EmbeddedItem dims) :=
  foldGrouped Prod.snd (fun members (x : EmbeddedItem dims × ℕ) => members ++ [x.1]) (fun _ => [])
    (items.zip assignments)

def result (prior : Vector dims) (members : List (EmbeddedItem dims)) : ClusterResult dims :=
  match computeCentroid members with
  | none => ⟨prior,[]⟩
  | some centroid => ⟨centroid,members⟩

def results (items : List (EmbeddedItem dims)) (s : Lloyd dims) : List (ClusterResult dims) :=
  (List.range s.centroids.length).map (fun c =>
    result (s.centroids.getD c 0) (memberLists items s.assignments c))

def initial (items : List (EmbeddedItem dims)) (draws : Draws items.length) (k : ℕ) : Lloyd dims :=
  ⟨List.replicate items.length 0,seeded items draws (k - 1)⟩

def states (items : List (EmbeddedItem dims)) (draws : Draws items.length) (k : ℕ) : List (Lloyd dims) :=
  initial items draws k :: iterations items 100 (initial items draws k)

def kMeansCluster (items : List (EmbeddedItem dims)) (k : ℤ) (draws : Draws items.length) :
    List (ClusterResult dims) :=
  if items = [] ∨ k ≤ 0 then []
  else results items ((states items draws k.toNat).getLastD (initial items draws k.toNat))

end Iterations

section Spec

variable {dims : ℕ}

def cost (items : List (EmbeddedItem dims)) (s : Lloyd dims) : ℚ :=
  ((items.zip s.assignments).map (fun x => euclidSq x.1.embedding (s.centroids.getD x.2 0))).sum

def mean (members : List (EmbeddedItem dims)) : Vector dims := centre (members.map (·.embedding))

def Nearest (centroid : Vector dims) (members : List (EmbeddedItem dims)) (answer : Option String) : Prop :=
  ∃ m ∈ members, answer = some m.text ∧
    ∀ m' ∈ members, euclidSq centroid m.embedding ≤ euclidSq centroid m'.embedding

structure Partitions (items : List (EmbeddedItem dims)) (k : ℤ) (draws : Draws items.length) : Prop where
  count : ((kMeansCluster items k draws).length : ℤ) = k
  once : ((kMeansCluster items k draws).flatMap (·.members)).Perm items
  means : ∀ c ∈ kMeansCluster items k draws, c.members ≠ [] → c.centroid = mean c.members
  descends : (states items draws k.toNat).IsChain (fun s s' => cost items s' ≤ cost items s)
  nearest : ∀ c ∈ kMeansCluster items k draws, c.members ≠ [] →
    Nearest c.centroid c.members (nearestToCentroid c.centroid c.members)

end Spec

section Groups

variable {dims : ℕ} {items : List (EmbeddedItem dims)} {assignments : List ℕ}

def group (items : List (EmbeddedItem dims)) (assignments : List ℕ) (c : ℕ) : List (EmbeddedItem dims) :=
  ((items.zip assignments).filter (fun x => x.2 = c)).map Prod.fst

theorem foldl_members (held : List (EmbeddedItem dims)) (l : List (EmbeddedItem dims × ℕ)) :
    l.foldl (fun members x => members ++ [x.1]) held = held ++ l.map Prod.fst := by
  induction l generalizing held with
  | nil => rw [List.foldl_nil,List.map_nil,List.append_nil]
  | cons x rest ih => rw [List.foldl_cons,ih,List.append_assoc,List.map_cons,List.singleton_append]

theorem memberLists_eq (items : List (EmbeddedItem dims)) (assignments : List ℕ) (c : ℕ) :
    memberLists items assignments c = group items assignments c := by
  rw [memberLists,foldGrouped_apply,foldl_members,List.nil_append,group]

theorem foldl_embedding (members : List (EmbeddedItem dims)) (j : Fin dims) :
    members.foldl (fun (centroid : Vector dims) it => centroid + it.embedding) 0 j =
      (members.map (fun it => it.embedding j)).sum :=
  (@foldl_additive (EmbeddedItem dims) (Vector dims) ℚ _ (fun v it => v + it.embedding) (fun v => v j)
    (fun it => it.embedding j) (fun _ _ => rfl) members 0).trans (zero_add _)

theorem mean_apply (members : List (EmbeddedItem dims)) (j : Fin dims) :
    mean members j = (members.map (fun it => it.embedding j)).sum / members.length := by
  rw [mean,centre,List.map_map,List.length_map]
  rfl

theorem computeCentroid_eq {members : List (EmbeddedItem dims)} (h : members ≠ []) :
    computeCentroid members = some (mean members) := by
  rw [computeCentroid,if_neg (by simpa using h)]
  refine congrArg some (funext fun j => ?_)
  rw [foldl_embedding,mean_apply]

theorem sums_count (items : List (EmbeddedItem dims)) (assignments : List ℕ) (c : ℕ) :
    (sums items assignments c).2 = (group items assignments c).length := by
  rw [sums,foldGrouped_apply,group,List.length_map]
  refine (@foldl_additive (EmbeddedItem dims × ℕ) (Vector dims × ℕ) ℕ _ _ Prod.snd (fun _ => 1) (fun _ _ => rfl)
    _ (0,0)).trans ?_
  simp

theorem sums_sum (items : List (EmbeddedItem dims)) (assignments : List ℕ) (c : ℕ) (j : Fin dims) :
    (sums items assignments c).1 j = ((group items assignments c).map (fun it => it.embedding j)).sum := by
  rw [sums,foldGrouped_apply,group,List.map_map]
  exact (@foldl_additive (EmbeddedItem dims × ℕ) (Vector dims × ℕ) ℚ _ _ (fun held => held.1 j)
    (fun x => x.1.embedding j) (fun _ _ => rfl) _ (0,0)).trans (zero_add _)

theorem recompute_getD {centroids : List (Vector dims)} {c : ℕ} (hc : c < centroids.length)
    (h : group items assignments c ≠ []) :
    (recompute items assignments centroids).getD c 0 = mean (group items assignments c) := by
  have hpos : (sums items assignments c).2 > 0 := by
    rw [sums_count]
    exact List.length_pos_of_ne_nil h
  have hget : (recompute items assignments centroids).getD c 0 =
      fun j => (sums items assignments c).1 j / (sums items assignments c).2 := by
    simp only [recompute,List.getD_eq_getElem?_getD,List.getElem?_map,List.getElem?_range hc,Option.map_some,
      Option.getD_some,if_pos hpos]
  rw [hget]
  funext j
  rw [sums_sum,sums_count,mean_apply]

end Groups

section Descent

variable {dims : ℕ} {items : List (EmbeddedItem dims)} {assignments : List ℕ} {centroids : List (Vector dims)}

theorem nearest_spec (h : centroids ≠ []) (it : EmbeddedItem dims) : nearest centroids it < centroids.length ∧
    ∀ c < centroids.length, euclidSq it.embedding (centroids.getD (nearest centroids it) 0) ≤
      euclidSq it.embedding (centroids.getD c 0) := by
  rw [nearest]
  cases hbest : (List.range centroids.length).argmin
      (fun c => euclidSq it.embedding (centroids.getD c 0)) with
  | none =>
    rw [List.argmin_eq_none,List.range_eq_nil,List.length_eq_zero_iff] at hbest
    exact absurd hbest h
  | some best =>
    exact ⟨List.mem_range.mp (List.argmin_mem hbest),
      fun c hc => List.le_of_mem_argmin (f := fun c => euclidSq it.embedding (centroids.getD c 0))
        (List.mem_range.mpr hc) hbest⟩

theorem assign_eq (centroids : List (Vector dims)) : ∀ {items : List (EmbeddedItem dims)} {assignments : List ℕ},
    assignments.length = items.length → (assign centroids items assignments).1 = items.map (nearest centroids)
  | [],_,_ => by
    rw [assign]
    · rfl
    · exact fun _ _ _ _ h _ => List.cons_ne_nil _ _ h.symm
  | _ :: _,[],h => by cases h
  | it :: items,a :: assignments,h => by
    rw [assign,List.map_cons,← assign_eq centroids (Nat.succ.inj h)]

theorem zip_assigned (f : EmbeddedItem dims → ℕ) (items : List (EmbeddedItem dims)) :
    items.zip (items.map f) = items.map (fun it => (it,f it)) := by
  induction items with
  | nil => rfl
  | cons it items ih => rw [List.map_cons,List.zip_cons_cons,ih,List.map_cons]

theorem cost_assign_le (hlength : assignments.length = items.length) (hbelow : ∀ a ∈ assignments, a < centroids.length) :
    cost items ⟨items.map (nearest centroids),centroids⟩ ≤ cost items ⟨assignments,centroids⟩ := by
  have hitems : (items.zip assignments).map Prod.fst = items := List.map_fst_zip hlength.ge
  have hsame : cost items ⟨items.map (nearest centroids),centroids⟩ = ((items.zip assignments).map
      (fun x => euclidSq x.1.embedding (centroids.getD (nearest centroids x.1) 0))).sum := by
    conv_lhs => rw [cost,zip_assigned,List.map_map,← hitems,List.map_map]
    rfl
  rw [hsame]
  refine List.sum_le_sum fun x hx => ?_
  have hx2 : x.2 < centroids.length := hbelow _ (List.of_mem_zip hx).2
  exact (nearest_spec (List.ne_nil_of_length_pos (Nat.zero_lt_of_lt hx2)) x.1).2 x.2 hx2

theorem group_cost (centroids : List (Vector dims)) (c : ℕ) :
    (((items.zip assignments).filter (fun x => x.2 = c)).map
      (fun x => euclidSq x.1.embedding (centroids.getD x.2 0))).sum =
        (((group items assignments c).map (·.embedding)).map (distSq · (centroids.getD c 0))).sum := by
  rw [group,List.map_map,List.map_map]
  refine congrArg List.sum (List.map_congr_left fun x hx => ?_)
  rw [of_decide_eq_true (List.mem_filter.mp hx).2]
  rfl

theorem cost_recompute_le (hbelow : ∀ a ∈ assignments, a < centroids.length) :
    cost items ⟨assignments,recompute items assignments centroids⟩ ≤ cost items ⟨assignments,centroids⟩ := by
  refine @sum_le_sum_of_groups _ _ _ _ _ _ _ Prod.snd _ _ _ fun c => ?_
  rw [group_cost,group_cost]
  by_cases hgroup : group items assignments c = []
  · rw [hgroup]
    exact le_rfl
  · obtain ⟨it,hit⟩ := List.exists_mem_of_ne_nil _ hgroup
    obtain ⟨x,hx,-⟩ := List.mem_map.mp hit
    obtain ⟨hmem,hkey⟩ := List.mem_filter.mp hx
    have hc : c < centroids.length := of_decide_eq_true hkey ▸ hbelow _ (List.of_mem_zip hmem).2
    rw [recompute_getD hc hgroup]
    exact sum_distSq_centre_le _ _

end Descent

section Iterations

variable {dims : ℕ} {items : List (EmbeddedItem dims)} {k : ℕ}

structure Sound (items : List (EmbeddedItem dims)) (k : ℕ) (s : Lloyd dims) : Prop where
  assigned : s.assignments.length = items.length
  below : ∀ a ∈ s.assignments, a < k
  centred : s.centroids.length = k

theorem iteration_sound {s s' : Lloyd dims} (h : Sound items k s) (hk : 0 < k)
    (hstep : iteration items s = some s') : Sound items k s' ∧ cost items s' ≤ cost items s := by
  have hne : s.centroids ≠ [] := List.ne_nil_of_length_pos (h.centred ▸ hk)
  have hassign := assign_eq s.centroids h.assigned
  rw [iteration] at hstep
  cases hassigned : assign s.centroids items s.assignments with
  | mk assignments changed =>
    rw [hassigned] at hassign hstep
    obtain rfl : assignments = items.map (nearest s.centroids) := hassign
    dsimp only at hstep
    split_ifs at hstep
    obtain rfl := Option.some.inj hstep
    have hbelow : ∀ a ∈ items.map (nearest s.centroids), a < s.centroids.length := by
      intro a ha
      obtain ⟨it,-,rfl⟩ := List.mem_map.mp ha
      exact (nearest_spec hne it).1
    refine ⟨⟨List.length_map _,fun a ha => h.centred ▸ hbelow a ha,?_⟩,?_⟩
    · rw [recompute,List.length_map,List.length_range,h.centred]
    · exact (cost_recompute_le hbelow).trans (cost_assign_le h.assigned (h.centred.symm ▸ h.below))

theorem iterations_sound (hk : 0 < k) : ∀ (n : ℕ) {s : Lloyd dims}, Sound items k s →
    (∀ t ∈ s :: iterations items n s, Sound items k t) ∧
      (s :: iterations items n s).IsChain (fun s s' => cost items s' ≤ cost items s)
  | 0,s,h => ⟨fun t ht => List.mem_singleton.mp ht ▸ h,List.isChain_singleton s⟩
  | n + 1,s,h => by
    rw [iterations]
    cases hstep : iteration items s with
    | none => exact ⟨fun t ht => List.mem_singleton.mp ht ▸ h,List.isChain_singleton s⟩
    | some s' =>
      obtain ⟨hsound,hcost⟩ := iteration_sound h hk hstep
      obtain ⟨hall,hchain⟩ := iterations_sound hk n hsound
      exact ⟨List.forall_mem_cons.mpr ⟨h,hall⟩,List.isChain_cons_cons.mpr ⟨hcost,hchain⟩⟩

theorem length_seeded (items : List (EmbeddedItem dims)) (draws : Draws items.length) (n : ℕ) :
    (seeded items draws n).length = n + 1 := by
  induction n with
  | zero => rfl
  | succ n ih => rw [seeded,List.length_append,ih,List.length_singleton]

theorem initial_sound (draws : Draws items.length) (hk : 0 < k) : Sound items k (initial items draws k) where
  assigned := List.length_replicate
  below a ha := List.eq_of_mem_replicate ha ▸ hk
  centred := by
    rw [initial,length_seeded]
    omega

end Iterations

section Results

variable {dims : ℕ} {items : List (EmbeddedItem dims)} {k : ℕ} {s : Lloyd dims}

theorem result_members (prior : Vector dims) (members : List (EmbeddedItem dims)) :
    (result prior members).members = members := by
  cases members with
  | nil => rfl
  | cons m rest => rw [result,computeCentroid_eq (List.cons_ne_nil m rest)]

theorem result_centroid (prior : Vector dims) {members : List (EmbeddedItem dims)} (h : members ≠ []) :
    (result prior members).centroid = mean members := by
  rw [result,computeCentroid_eq h]

theorem results_means {c : ClusterResult dims} (hc : c ∈ results items s) (hne : c.members ≠ []) :
    c.centroid = mean c.members := by
  obtain ⟨i,-,rfl⟩ := List.mem_map.mp hc
  rw [result_members] at hne ⊢
  exact result_centroid _ hne

theorem results_partition (h : Sound items k s) : ((results items s).flatMap (·.members)).Perm items := by
  have hgroups := @flatMap_groups_perm _ _ _ Prod.snd (List.range k) List.nodup_range (items.zip s.assignments)
    fun x hx => List.mem_range.mpr (h.below _ (List.of_mem_zip hx).2)
  have hitems : (items.zip s.assignments).map Prod.fst = items := List.map_fst_zip h.assigned.ge
  have hmembers : (results items s).flatMap (·.members) = ((List.range k).flatMap
      (fun c => (items.zip s.assignments).filter (fun x => x.2 = c))).map Prod.fst := by
    rw [results,List.flatMap_map,h.centred,List.map_flatMap]
    refine congrArg (fun f => (List.range k).flatMap f) (funext fun c => ?_)
    rw [result_members,memberLists_eq,group]
  rw [hmembers]
  exact (hgroups.map Prod.fst).trans (List.Perm.of_eq hitems)

theorem nearestToCentroid_nearest (centroid : Vector dims) {members : List (EmbeddedItem dims)} (h : members ≠ []) :
    Nearest centroid members (nearestToCentroid centroid members) := by
  cases hbest : members.argmin (fun m => euclidSq centroid m.embedding) with
  | none => exact absurd (List.argmin_eq_none.mp hbest) h
  | some best =>
    have hleast (m : EmbeddedItem dims) (hm : m ∈ members) :
        euclidSq centroid best.embedding ≤ euclidSq centroid m.embedding :=
      List.le_of_mem_argmin (f := fun m : EmbeddedItem dims => euclidSq centroid m.embedding) hm hbest
    have hanswer : nearestToCentroid centroid members = some best.text := by
      rw [nearestToCentroid,hbest,Option.map_some]
    exact ⟨best,List.argmin_mem hbest,hanswer,hleast⟩

end Results

theorem kMeansCluster_partitions {dims : ℕ} {items : List (EmbeddedItem dims)} (hitems : items ≠ []) {k : ℤ}
    (hk : 1 ≤ k) (draws : Draws items.length) : Partitions items k draws := by
  have hpos : 0 < k.toNat := by omega
  obtain ⟨hsound,hchain⟩ := iterations_sound hpos 100 (initial_sound draws hpos)
  have hlast : Sound items k.toNat ((states items draws k.toNat).getLastD (initial items draws k.toNat)) := by
    rcases List.mem_cons.mp (List.getLastD_mem_cons : (states items draws k.toNat).getLastD
      (initial items draws k.toNat) ∈ _ :: states items draws k.toNat) with heq | hmem
    · rw [heq]
      exact initial_sound draws hpos
    · exact hsound _ hmem
  have hclusters : kMeansCluster items k draws =
      results items ((states items draws k.toNat).getLastD (initial items draws k.toNat)) :=
    if_neg (by
      rintro (h | h)
      · exact hitems h
      · omega)
  constructor
  · rw [hclusters,results,List.length_map,List.length_range,hlast.centred]
    omega
  · rw [hclusters]
    exact results_partition hlast
  · rw [hclusters]
    exact fun c hc => results_means hc
  · exact hchain
  · exact fun c _ hne => nearestToCentroid_nearest c.centroid hne

def pair : List (EmbeddedItem 1) := [⟨"refund",fun _ => 1⟩,⟨"invoice",fun _ => 3⟩]

theorem pair_in_three : Partitions pair 3 ⟨⟨0,by decide⟩,fun _ => 1 / 2,fun _ => by norm_num⟩ :=
  kMeansCluster_partitions (by decide) (by decide) _

end PrismGateway.Admin.AnchorClusters
