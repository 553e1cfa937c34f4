import Mathlib
import PrismGateway.Orchestrator.Routing

namespace PrismGateway.Orchestrator.WeightedDraw

open Config

-- the addition of Go's 64-bit int
def addInt (a b : ℤ) : ℤ := (a + b).bmod (2 ^ 64)

inductive Draw where
  | entry (i : ℕ)
  | fallback
  deriving DecidableEq, Repr

def totalOf (total : ℤ) : List TrafficSplitEntry → Option ℤ
  | [] => some total
  | e :: rest =>
    if e.model = "" ∨ e.weight ≤ 0 then none else totalOf (addInt total e.weight) rest

def walk (r cumulative : ℤ) (i : ℕ) : List TrafficSplitEntry → Draw
  | [] => .fallback
  | e :: rest =>
    if r ≤ addInt cumulative e.weight then .entry i
    else walk r (addInt cumulative e.weight) (i + 1) rest

def drawn (entries : List TrafficSplitEntry) (r : ℤ) : Draw := walk r 0 0 entries

def Draw.model (entries : List TrafficSplitEntry) : Draw → Option String
  | .entry i => entries[i]?.map (·.model)
  | .fallback => entries.getLast?.map (·.model)

def weightedSelectModel (intn : ℤ → ℤ) (entries : List TrafficSplitEntry) : Option String :=
  if entries.isEmpty then none
  else
    (totalOf 0 entries).bind fun total =>
      if total ≤ 0 then none else (drawn entries (intn total + 1)).model entries

def weightSum (entries : List TrafficSplitEntry) : ℤ := (entries.map (·.weight)).sum

def before (entries : List TrafficSplitEntry) (i : ℕ) : ℤ := weightSum (entries.take i)

section Walk

variable {entries rest : List TrafficSplitEntry} {r c : ℤ}

theorem addInt_eq {a b : ℤ} (ha : 0 ≤ a) (hb : 0 ≤ b) (h : a + b < 2 ^ 63) : addInt a b = a + b :=
  Int.bmod_eq_of_le (by omega) (by omega)

theorem weightSum_nonneg (hpos : ∀ e ∈ entries, 0 < e.weight) : 0 ≤ weightSum entries :=
  List.sum_nonneg (by
    intro w hw
    obtain ⟨e,he,rfl⟩ := List.mem_map.mp hw
    exact (hpos e he).le)

theorem before_zero : before entries 0 = 0 := rfl

theorem before_succ (e : TrafficSplitEntry) (i : ℕ) :
    before (e :: rest) (i + 1) = e.weight + before rest i := by
  rw [before,List.take_succ_cons,weightSum,List.map_cons,List.sum_cons,before,weightSum]

theorem before_next {i : ℕ} (hi : i < entries.length) :
    before entries (i + 1) = before entries i + entries[i].weight := by
  rw [before,List.take_succ_eq_append_getElem hi,weightSum,List.map_append,List.sum_append,
    List.map_singleton,List.sum_singleton,before,weightSum]

theorem before_le (hpos : ∀ e ∈ entries, 0 < e.weight) (i : ℕ) :
    0 ≤ before entries i ∧ before entries i ≤ weightSum entries := by
  have hsplit : weightSum entries = before entries i + weightSum (entries.drop i) := by
    rw [before,weightSum,weightSum,weightSum,← List.sum_append,← List.map_append,
      List.take_append_drop]
  have htake : 0 ≤ before entries i :=
    weightSum_nonneg fun e he => hpos e (List.mem_of_mem_take he)
  have hdrop : 0 ≤ weightSum (entries.drop i) :=
    weightSum_nonneg fun e he => hpos e (List.mem_of_mem_drop he)
  exact ⟨htake,by rw [hsplit]; exact le_add_of_nonneg_right hdrop⟩

theorem weightSum_pos (hne : entries ≠ []) (hpos : ∀ e ∈ entries, 0 < e.weight) :
    0 < weightSum entries := by
  have hlen : 0 < entries.length := List.length_pos_of_ne_nil hne
  have hfirst : before entries 1 = entries[0].weight := by
    rw [before_next hlen,before_zero,zero_add]
  calc 0 < entries[0].weight := hpos _ (List.getElem_mem hlen)
    _ = before entries 1 := hfirst.symm
    _ ≤ weightSum entries := (before_le hpos 1).2

theorem totalOf_eq (hvalid : ∀ e ∈ entries, e.model ≠ "" ∧ 0 < e.weight) (hc : 0 ≤ c)
    (hfits : c + weightSum entries < 2 ^ 63) : totalOf c entries = some (c + weightSum entries) := by
  induction entries generalizing c with
  | nil => exact congrArg some (add_zero c).symm
  | cons e rest ih =>
    obtain ⟨hname,hweight⟩ := hvalid e List.mem_cons_self
    have hrest : ∀ e ∈ rest, e.model ≠ "" ∧ 0 < e.weight :=
      fun e he => hvalid e (List.mem_cons_of_mem _ he)
    have hsum : weightSum (e :: rest) = e.weight + weightSum rest := rfl
    have hnonneg : 0 ≤ weightSum rest := weightSum_nonneg fun e he => (hrest e he).2
    have hadd : addInt c e.weight = c + e.weight := addInt_eq hc hweight.le (by omega)
    rw [totalOf,if_neg (not_or.mpr ⟨hname,not_le.mpr hweight⟩),hadd,
      ih hrest (by omega) (by omega),hsum,add_assoc]

theorem walk_eq (hpos : ∀ e ∈ entries, 0 < e.weight) (hc : 0 ≤ c)
    (hfits : c + weightSum entries < 2 ^ 63) {i : ℕ} (hi : i < entries.length)
    (hlow : c + before entries i < r) (hhigh : r ≤ c + before entries (i + 1)) (k : ℕ) :
    walk r c k entries = .entry (k + i) := by
  induction entries generalizing c i k with
  | nil => cases hi
  | cons e rest ih =>
    have hweight : 0 < e.weight := hpos e List.mem_cons_self
    have hrest : ∀ e ∈ rest, 0 < e.weight := fun e he => hpos e (List.mem_cons_of_mem _ he)
    have hsum : weightSum (e :: rest) = e.weight + weightSum rest := rfl
    have hnonneg : 0 ≤ weightSum rest := weightSum_nonneg hrest
    have hadd : addInt c e.weight = c + e.weight := addInt_eq hc hweight.le (by omega)
    rw [walk,hadd]
    cases i with
    | zero =>
      rw [before_succ,before_zero] at hhigh
      rw [if_pos (by omega)]
      rfl
    | succ i =>
      rw [before_succ] at hlow hhigh
      have hle := (before_le hrest i).1
      rw [if_neg (by omega),ih hrest (by omega) (by omega) (Nat.lt_of_succ_lt_succ hi) (by omega)
        (by omega),Nat.succ_add_eq_add_succ]

theorem exists_range (hr : 0 < r) (htotal : r ≤ weightSum entries) :
    ∃ i < entries.length, before entries i < r ∧ r ≤ before entries (i + 1) := by
  induction entries generalizing r with
  | nil => exact absurd hr (not_lt.mpr htotal)
  | cons e rest ih =>
    by_cases hfirst : r ≤ e.weight
    · exact ⟨0,Nat.succ_pos _,hr,by rw [before_succ,before_zero]; omega⟩
    · have hsum : weightSum (e :: rest) = e.weight + weightSum rest := rfl
      obtain ⟨i,hi,hlow,hhigh⟩ := ih (r := r - e.weight) (by omega) (by omega)
      exact ⟨i + 1,Nat.succ_lt_succ hi,by rw [before_succ]; omega,by rw [before_succ]; omega⟩

theorem pick_eq (hpos : ∀ e ∈ rest, 0 < e.weight) (hc : 0 ≤ c)
    (hfits : c + weightSum rest < 2 ^ 63) (done : List TrafficSplitEntry)
    (hentries : entries = done ++ rest) :
    Orchestrator.weightedSelectModel.pick entries r c rest =
      (walk r c done.length rest).model entries := by
  induction rest generalizing c done with
  | nil => rfl
  | cons e rest ih =>
    have hweight : 0 < e.weight := hpos e List.mem_cons_self
    have hrest : ∀ e ∈ rest, 0 < e.weight := fun e he => hpos e (List.mem_cons_of_mem _ he)
    have hsum : weightSum (e :: rest) = e.weight + weightSum rest := rfl
    have hnonneg : 0 ≤ weightSum rest := weightSum_nonneg hrest
    have hadd : addInt c e.weight = c + e.weight := addInt_eq hc hweight.le (by omega)
    rw [Orchestrator.weightedSelectModel.pick,walk,hadd]
    split
    · rw [Draw.model,hentries,List.getElem?_append_right le_rfl,Nat.sub_self,
        List.getElem?_cons_zero,Option.map_some]
    · rw [ih hrest (by omega) (by omega) (done ++ [e]) (by rw [hentries,List.append_cons]),
        List.length_append,List.length_singleton]

end Walk

section Draws

variable {entries : List TrafficSplitEntry} (hvalid : ∀ e ∈ entries, e.model ≠ "" ∧ 0 < e.weight)
    (hfits : weightSum entries < 2 ^ 63)

include hvalid hfits

theorem drawn_of_range {r : ℤ} {i : ℕ} (hi : i < entries.length) (hlow : before entries i < r)
    (hhigh : r ≤ before entries (i + 1)) : drawn entries r = .entry i := by
  have hwalk := walk_eq (fun e he => (hvalid e he).2) le_rfl ((zero_add _).trans_lt hfits) hi
    ((zero_add _).trans_lt hlow) (hhigh.trans_eq (zero_add _).symm) 0
  rwa [Nat.zero_add] at hwalk

theorem drawn_iff {r : ℤ} (hr : 0 < r) (htotal : r ≤ weightSum entries) {i : ℕ}
    (hi : i < entries.length) :
    drawn entries r = .entry i ↔ before entries i < r ∧ r ≤ before entries (i + 1) := by
  constructor
  · intro h
    obtain ⟨j,hj,hlow,hhigh⟩ := exists_range hr htotal
    rw [drawn_of_range hvalid hfits hj hlow hhigh] at h
    cases h
    exact ⟨hlow,hhigh⟩
  · rintro ⟨hlow,hhigh⟩
    exact drawn_of_range hvalid hfits hi hlow hhigh

theorem card_draws {i : ℕ} (hi : i < entries.length) :
    (((Finset.Icc 1 (weightSum entries)).filter fun r => drawn entries r = .entry i).card : ℤ) =
      entries[i].weight := by
  have hpos : ∀ e ∈ entries, 0 < e.weight := fun e he => (hvalid e he).2
  have hrange : (Finset.Icc 1 (weightSum entries)).filter (fun r => drawn entries r = .entry i) =
      Finset.Ioc (before entries i) (before entries (i + 1)) := by
    ext r
    rw [Finset.mem_filter,Finset.mem_Icc,Finset.mem_Ioc]
    constructor
    · rintro ⟨⟨hr,htotal⟩,hdrawn⟩
      exact (drawn_iff hvalid hfits hr htotal hi).mp hdrawn
    · rintro ⟨hlow,hhigh⟩
      have hr : 0 < r := (before_le hpos i).1.trans_lt hlow
      exact ⟨⟨hr,hhigh.trans (before_le hpos (i + 1)).2⟩,
        drawn_of_range hvalid hfits hi hlow hhigh⟩
  have hweight : 0 < entries[i].weight := hpos _ (List.getElem_mem hi)
  rw [hrange,Int.card_Ioc,before_next hi,add_sub_cancel_left]
  exact Int.toNat_of_nonneg hweight.le

theorem weightedSelectModel_eq (hne : entries ≠ []) (intn : ℤ → ℤ) :
    weightedSelectModel intn entries =
      (drawn entries (intn (weightSum entries) + 1)).model entries := by
  have htotal : totalOf 0 entries = some (weightSum entries) := by
    rw [totalOf_eq hvalid le_rfl ((zero_add _).trans_lt hfits),zero_add]
  have hpos : 0 < weightSum entries := weightSum_pos hne fun e he => (hvalid e he).2
  rw [weightedSelectModel,if_neg (by rwa [List.isEmpty_iff]),htotal,Option.bind_some,
    if_neg (not_le.mpr hpos)]

theorem routed_draw_eq (hne : entries ≠ []) (intn : ℤ → ℤ) :
    Orchestrator.weightedSelectModel intn entries = weightedSelectModel intn entries := by
  have hpos : ∀ e ∈ entries, 0 < e.weight := fun e he => (hvalid e he).2
  have hany : entries.any (fun e => e.model = "" || e.weight ≤ 0) = false := by
    rw [List.any_eq_false]
    intro e he
    obtain ⟨hname,hweight⟩ := hvalid e he
    simp [hname,hweight]
  have hempty : entries.isEmpty = false := by rwa [List.isEmpty_eq_false_iff]
  have htotal : 0 < weightSum entries := weightSum_pos hne hpos
  rw [weightedSelectModel_eq hvalid hfits hne,Orchestrator.weightedSelectModel,hempty,hany]
  rw [weightSum] at htotal
  simp only [Bool.false_or,decide_eq_true_eq,not_le.mpr htotal,if_false]
  exact pick_eq hpos le_rfl ((zero_add _).trans_lt hfits) [] rfl

theorem draw_exact (hne : entries ≠ []) :
    (∀ r, 1 ≤ r → r ≤ weightSum entries →
      drawn entries r ≠ .fallback ∧
      ∃ i, ∃ hi : i < entries.length, drawn entries r = .entry i ∧
        ∀ intn : ℤ → ℤ, intn (weightSum entries) + 1 = r →
          weightedSelectModel intn entries = some entries[i].model) ∧
    ∀ i (hi : i < entries.length),
      (((Finset.Icc 1 (weightSum entries)).filter fun r => drawn entries r = .entry i).card : ℤ) =
        entries[i].weight := by
  refine ⟨fun r hr htotal => ?_,fun i hi => card_draws hvalid hfits hi⟩
  obtain ⟨i,hi,hlow,hhigh⟩ := exists_range hr htotal
  have hdrawn : drawn entries r = .entry i := drawn_of_range hvalid hfits hi hlow hhigh
  refine ⟨hdrawn ▸ Draw.noConfusion,i,hi,hdrawn,fun intn hintn => ?_⟩
  rw [weightedSelectModel_eq hvalid hfits hne,hintn,hdrawn,Draw.model,List.getElem?_eq_getElem hi,
    Option.map_some]

end Draws

def thirds : List TrafficSplitEntry := [⟨"gpt-4o",2⟩,⟨"claude-3-5-sonnet",1⟩]

theorem thirds_exact :
    (∀ r, 1 ≤ r → r ≤ weightSum thirds →
      drawn thirds r ≠ .fallback ∧
      ∃ i, ∃ hi : i < thirds.length, drawn thirds r = .entry i ∧
        ∀ intn : ℤ → ℤ, intn (weightSum thirds) + 1 = r →
          weightedSelectModel intn thirds = some thirds[i].model) ∧
    ∀ i (hi : i < thirds.length),
      (((Finset.Icc 1 (weightSum thirds)).filter fun r => drawn thirds r = .entry i).card : ℤ) =
        thirds[i].weight :=
  draw_exact (by decide) (by decide) (by decide)

end PrismGateway.Orchestrator.WeightedDraw
