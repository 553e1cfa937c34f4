import PrismGateway.Lib.Rekeying

namespace PrismGateway.Lib

theorem blind_iff {σ ρ : Type} {mask bump : σ → σ} {read : σ → ρ} {C : σ → Prop}
    (hbump : ∀ s, mask (bump s) = mask s) (hmask : ∀ s, C s → read (mask s) = read s)
    (hC : ∀ s, C (mask s) ↔ C s) (hread : ∀ s, read (bump s) = read s → C s) (s : σ) :
    (∀ s', mask s' = mask s → read s' = read s) ↔ C s := by
  constructor
  · intro h
    exact hread s (h (bump s) (hbump s))
  · intro h s' hs
    have h' : C s' := by rwa [← hC,hs,hC]
    rw [← hmask s' h',hs,hmask s h]

theorem GoMap.insert_amend {k : String} {j : Json} (h : String → Json → Json) (es : Json.Entries) :
    GoMap.insert k (h k j) (amend h es) = amend h (GoMap.insert k j es) := by
  induction es with
  | nil => rfl
  | cons e rest ih =>
    rcases e with ⟨k',j'⟩
    have ih : GoMap.insert k (h k j) (rest.map fun e => (e.1,h e.1 e.2)) =
      (GoMap.insert k j rest).map fun e => (e.1,h e.1 e.2) := ih
    simp only [amend,List.map_cons,GoMap.insert]
    split_ifs <;> simp [ih]

theorem GoMap.ofList_amend (h : String → Json → Json) (es : Json.Entries) :
    GoMap.ofList (amend h es) = amend h (GoMap.ofList es) := by
  have hfold : ∀ (es m : Json.Entries),
      (amend h es).foldl (fun m e => GoMap.insert e.1 e.2 m) (amend h m) =
        amend h (es.foldl (fun m e => GoMap.insert e.1 e.2 m) m) := by
    intro es
    induction es with
    | nil => exact fun _ => rfl
    | cons e rest ih =>
      intro m
      have hstep := GoMap.insert_amend (k := e.1) (j := e.2) h m
      change (amend h rest).foldl _ (GoMap.insert e.1 (h e.1 e.2) (amend h m)) = _
      rw [hstep]
      exact ih _
  exact hfold es []

theorem lookup_amend (h : String → Json → Json) (k : String) (es : Json.Entries) :
    (amend h es).lookup k = (es.lookup k).map (h k) := by
  induction es with
  | nil => rfl
  | cons e rest ih =>
    obtain ⟨k',j⟩ := e
    have ih : (rest.map fun e => (e.1,h e.1 e.2)).lookup k = (rest.lookup k).map (h k) := ih
    rw [amend,List.map_cons,GoMap.lookup_cons_eq,GoMap.lookup_cons_eq,ih]
    split_ifs with hk
    · rw [hk]
      rfl
    · rfl

theorem amend_amend (g h : String → Json → Json) (es : Json.Entries) :
    amend g (amend h es) = amend (fun k j => g k (h k j)) es := by
  simp [amend,Function.comp_def]

theorem amend_congr {g h : String → Json → Json} {es : Json.Entries}
    (hes : ∀ e ∈ es, g e.1 e.2 = h e.1 e.2) : amend g es = amend h es :=
  List.map_congr_left fun e he => by rw [hes e he]

theorem map_eq_self_iff {α : Type} {f : α → α} {l : List α} : l.map f = l ↔ ∀ a ∈ l, f a = a := by
  nth_rewrite 2 [← List.map_id l]
  exact List.map_inj_left

namespace Json

inductive Step where
  | key (k : String)
  | item
  deriving DecidableEq

abbrev Positions := List Step → Bool

namespace Positions

def key (p : Positions) (k : String) : Positions := fun path => p (.key k :: path)

def item (p : Positions) : Positions := fun path => p (.item :: path)

def diff (p q : Positions) : Positions := fun path => p path && !q path

def none : Positions := fun _ => false

/-- The positions that `p` marks when the keys on the way are read through `key`. -/
def through (key : String → String) (p : Positions) : Positions :=
  fun path => p (path.map fun
    | .key k => .key (key k)
    | .item => .item)

end Positions

mutual

def mapAt (f : String → String) (p : Positions) : Json → Json
  | .str s => .str (if p [] then f s else s)
  | .arr items => .arr (mapItemsAt f p.item items)
  | .obj entries => .obj (mapEntriesAt f p entries)
  | j => j

def mapItemsAt (f : String → String) (p : Positions) : List Json → List Json
  | [] => []
  | j :: items => mapAt f p j :: mapItemsAt f p items

def mapEntriesAt (f : String → String) (p : Positions) : Entries → Entries
  | [] => []
  | (k,j) :: entries => (k,mapAt f (p.key k) j) :: mapEntriesAt f p entries

end

mutual

def AllAt (ok : String → Prop) (p : Positions) : Json → Prop
  | .str s => p [] = true → ok s
  | .arr items => AllItemsAt ok p.item items
  | .obj entries => AllEntriesAt ok p entries
  | _ => True

def AllItemsAt (ok : String → Prop) (p : Positions) : List Json → Prop
  | [] => True
  | j :: items => AllAt ok p j ∧ AllItemsAt ok p items

def AllEntriesAt (ok : String → Prop) (p : Positions) : Entries → Prop
  | [] => True
  | (k,j) :: entries => AllAt ok (p.key k) j ∧ AllEntriesAt ok p entries

end

@[elab_as_elim]
theorem tree_induction {motive : Json → Prop} (j : Json) (null : motive .null)
    (bool : ∀ b, motive (.bool b)) (num : ∀ x, motive (.num x)) (str : ∀ s, motive (.str s))
    (arr : ∀ items : List Json, (∀ j ∈ items, motive j) → motive (.arr items))
    (obj : ∀ entries : Entries, (∀ e ∈ entries, motive e.2) → motive (.obj entries)) :
    motive j :=
  @Json.rec motive (fun items => ∀ j ∈ items, motive j) (fun entries => ∀ e ∈ entries, motive e.2)
    (fun e => motive e.2) null bool num str arr obj nofun
    (fun _ _ head tail => List.forall_mem_cons.2 ⟨head,tail⟩) nofun
    (fun _ _ head tail => List.forall_mem_cons.2 ⟨head,tail⟩) (fun _ _ h => h) j

variable {f g : String → String} {ok : String → Prop} {p q : Positions}

theorem mapAt_str (s : String) : mapAt f p (.str s) = .str (if p [] then f s else s) := by
  rw [mapAt]

theorem mapAt_arr (items : List Json) :
    mapAt f p (.arr items) = .arr (items.map (mapAt f p.item)) := by
  have h : ∀ items, mapItemsAt f p.item items = items.map (mapAt f p.item) := by
    intro items
    induction items with
    | nil => simp [mapItemsAt]
    | cons j items ih => simp [mapItemsAt,ih]
  rw [mapAt,h]

theorem mapAt_obj (entries : Entries) :
    mapAt f p (.obj entries) = .obj (amend (fun k => mapAt f (p.key k)) entries) := by
  have h : ∀ entries, mapEntriesAt f p entries = amend (fun k => mapAt f (p.key k)) entries := by
    intro entries
    induction entries with
    | nil => simp [mapEntriesAt,amend]
    | cons e entries ih =>
      rcases e with ⟨k,j⟩
      rw [mapEntriesAt,ih]
      rfl
  rw [mapAt,h]

theorem allAt_str (s : String) : AllAt ok p (.str s) ↔ (p [] = true → ok s) := by rw [AllAt]

theorem allAt_arr (items : List Json) :
    AllAt ok p (.arr items) ↔ ∀ j ∈ items, AllAt ok p.item j := by
  have h : ∀ items, AllItemsAt ok p.item items ↔ ∀ j ∈ items, AllAt ok p.item j := by
    intro items
    induction items with
    | nil => simp [AllItemsAt]
    | cons j items ih => rw [AllItemsAt,List.forall_mem_cons,ih]
  rw [AllAt,h]

theorem allAt_obj (entries : Entries) :
    AllAt ok p (.obj entries) ↔ ∀ e ∈ entries, AllAt ok (p.key e.1) e.2 := by
  have h : ∀ entries, AllEntriesAt ok p entries ↔ ∀ e ∈ entries, AllAt ok (p.key e.1) e.2 := by
    intro entries
    induction entries with
    | nil => simp [AllEntriesAt]
    | cons e entries ih =>
      rcases e with ⟨k,j⟩
      rw [AllEntriesAt,List.forall_mem_cons,ih]
  rw [AllAt,h]

theorem mapAt_mapAt (d : Json) : mapAt f p (mapAt g p d) = mapAt (fun s => f (g s)) p d := by
  induction d using tree_induction generalizing p with
  | null => simp [mapAt]
  | bool b => simp [mapAt]
  | num x => simp [mapAt]
  | str s =>
    rw [mapAt_str,mapAt_str,mapAt_str]
    split_ifs <;> rfl
  | arr items ih =>
    rw [mapAt_arr,mapAt_arr,mapAt_arr,List.map_map]
    exact congrArg Json.arr (List.map_congr_left fun j hj => ih j hj)
  | obj entries ih =>
    rw [mapAt_obj,mapAt_obj,mapAt_obj,amend_amend]
    exact congrArg Json.obj (amend_congr fun e he => ih e he)

theorem mapAt_none (d : Json) : mapAt f .none d = d := by
  induction d using tree_induction with
  | null => simp [mapAt]
  | bool b => simp [mapAt]
  | num x => simp [mapAt]
  | str s => simp [mapAt,Positions.none]
  | arr items ih =>
    rw [mapAt_arr]
    refine congrArg Json.arr ?_
    calc items.map (mapAt f (Positions.item .none))
      _ = items.map id := List.map_congr_left ih
      _ = items := List.map_id items
  | obj entries ih =>
    rw [mapAt_obj]
    refine congrArg Json.obj ?_
    calc amend (fun k => mapAt f (Positions.key .none k)) entries
      _ = amend (fun _ j => j) entries := amend_congr ih
      _ = entries := by simp [amend]

theorem mapAt_arr_of_none (h : p.item = .none) (items : List Json) :
    mapAt f p (.arr items) = .arr items := by
  rw [mapAt_arr,h,map_eq_self_iff.2 fun j _ => mapAt_none j]

theorem mapAt_of_not_obj (hroot : p [] = false) (hitem : p.item = .none) {d : Json}
    (hd : ∀ entries, d ≠ .obj entries) : mapAt f p d = d := by
  cases d with
  | null => simp [mapAt]
  | bool b => simp [mapAt]
  | num x => simp [mapAt]
  | str s => simp [mapAt_str,hroot]
  | arr items => exact mapAt_arr_of_none hitem items
  | obj entries => exact absurd rfl (hd entries)

theorem mapAt_eq_self_iff (d : Json) : mapAt f p d = d ↔ AllAt (fun s => f s = s) p d := by
  induction d using tree_induction generalizing p with
  | null => simp [mapAt,AllAt]
  | bool b => simp [mapAt,AllAt]
  | num x => simp [mapAt,AllAt]
  | str s =>
    rw [mapAt_str,allAt_str,Json.str.injEq]
    by_cases hp : p [] = true
    · simp [hp]
    · simp [hp]
  | arr items ih =>
    rw [mapAt_arr,allAt_arr,Json.arr.injEq,map_eq_self_iff]
    exact forall₂_congr fun j hj => ih j hj
  | obj entries ih =>
    rw [mapAt_obj,allAt_obj,Json.obj.injEq,amend,map_eq_self_iff]
    refine forall₂_congr fun e he => ?_
    rw [Prod.ext_iff]
    exact (and_iff_right rfl).trans (ih e he)

theorem allAt_none (d : Json) : AllAt ok .none d := by
  induction d using tree_induction with
  | null => simp [AllAt]
  | bool b => simp [AllAt]
  | num x => simp [AllAt]
  | str s => simp [AllAt,Positions.none]
  | arr items ih => exact (allAt_arr items).2 ih
  | obj entries ih => exact (allAt_obj entries).2 ih

theorem allAt_arr_of_none (h : p.item = .none) (items : List Json) : AllAt ok p (.arr items) := by
  rw [allAt_arr,h]
  exact fun j _ => allAt_none j

theorem allAt_of_not_obj (hroot : p [] = false) (hitem : p.item = .none) {d : Json}
    (hd : ∀ entries, d ≠ .obj entries) : AllAt ok p d := by
  cases d with
  | null => simp [AllAt]
  | bool b => simp [AllAt]
  | num x => simp [AllAt]
  | str s => simp [allAt_str,hroot]
  | arr items => exact allAt_arr_of_none hitem items
  | obj entries => exact absurd rfl (hd entries)

theorem AllAt.mono {ok' : String → Prop} (h : ∀ s, ok s → ok' s) {d : Json} (hd : AllAt ok p d) :
    AllAt ok' p d := by
  induction d using tree_induction generalizing p with
  | null => simp [AllAt]
  | bool b => simp [AllAt]
  | num x => simp [AllAt]
  | str s =>
    rw [allAt_str] at hd ⊢
    exact fun hp => h s (hd hp)
  | arr items ih =>
    rw [allAt_arr] at hd ⊢
    exact fun j hj => ih j hj (hd j hj)
  | obj entries ih =>
    rw [allAt_obj] at hd ⊢
    exact fun e he => ih e he (hd e he)

theorem allAt_mapAt (h : ∀ s, ok (f s) ↔ ok s) (d : Json) :
    AllAt ok q (mapAt f p d) ↔ AllAt ok q d := by
  induction d using tree_induction generalizing p q with
  | null => simp [mapAt]
  | bool b => simp [mapAt]
  | num x => simp [mapAt]
  | str s =>
    rw [mapAt_str,allAt_str,allAt_str]
    split_ifs
    · rw [h]
    · rfl
  | arr items ih =>
    rw [mapAt_arr,allAt_arr,allAt_arr,List.forall_mem_map]
    exact forall₂_congr fun j hj => ih j hj
  | obj entries ih =>
    rw [mapAt_obj,allAt_obj,allAt_obj,amend,List.forall_mem_map]
    exact forall₂_congr fun e he => ih e he

theorem mapAt_mapAt_diff (h : ∀ s, g (f s) = g s) (d : Json) :
    mapAt g q (mapAt f p d) = mapAt f (p.diff q) (mapAt g q d) := by
  induction d using tree_induction generalizing p q with
  | null => simp [mapAt]
  | bool b => simp [mapAt]
  | num x => simp [mapAt]
  | str s =>
    simp only [mapAt_str,Positions.diff]
    by_cases hq : q [] = true
    · by_cases hp : p [] = true
      · simp [hp,hq,h]
      · simp [hp,hq]
    · simp [hq]
  | arr items ih =>
    rw [mapAt_arr,mapAt_arr,mapAt_arr,mapAt_arr,List.map_map,List.map_map]
    exact congrArg Json.arr (List.map_congr_left fun j hj => ih j hj)
  | obj entries ih =>
    rw [mapAt_obj,mapAt_obj,mapAt_obj,mapAt_obj,amend_amend,amend_amend]
    exact congrArg Json.obj (amend_congr fun e he => ih e he)

theorem allAt_mapAt_diff (d : Json) :
    AllAt ok (p.diff q) (mapAt g q d) ↔ AllAt ok (p.diff q) d := by
  induction d using tree_induction generalizing p q with
  | null => simp [mapAt]
  | bool b => simp [mapAt]
  | num x => simp [mapAt]
  | str s =>
    simp only [mapAt_str,allAt_str,Positions.diff]
    by_cases hq : q [] = true
    · simp [hq]
    · simp [hq]
  | arr items ih =>
    rw [mapAt_arr,allAt_arr,allAt_arr,List.forall_mem_map]
    exact forall₂_congr fun j hj => ih j hj
  | obj entries ih =>
    rw [mapAt_obj,allAt_obj,allAt_obj,amend,List.forall_mem_map]
    exact forall₂_congr fun e he => ih e he

structure BlindOrder extends MapOrder where
  blind : ∀ (h : String → Json → Json) (l : Entries), iter (amend h l) = amend h (iter l)

theorem rekey_mapAt (order : BlindOrder) {key : String → String} (hkey : ∀ k, key (key k) = key k)
    (d : Json) : rekey key order.iter (mapAt f (p.through key) d) =
      mapAt f (p.through key) (rekey key order.iter d) := by
  induction d using tree_induction generalizing p with
  | null => simp [mapAt]
  | bool b => simp [mapAt]
  | num x => simp [mapAt]
  | str s => simp [mapAt]
  | arr items ih =>
    rw [mapAt_arr,rekey_arr,rekey_arr,mapAt_arr,List.map_map,List.map_map]
    refine congrArg Json.arr (List.map_congr_left fun j hj => ?_)
    exact ih j hj (p := p.item)
  | obj entries ih =>
    have hstep : ∀ k, (p.through key).key k = (p.through key).key (key k) := by
      intro k
      funext path
      simp [Positions.key,Positions.through,hkey]
    have hrenamed : (amend (fun k => mapAt f ((p.through key).key k)) entries).map
        (fun e => (key e.1,rekey key order.iter e.2)) =
        amend (fun k => mapAt f ((p.through key).key k))
          (entries.map (fun e => (key e.1,rekey key order.iter e.2))) := by
      simp only [amend,List.map_map]
      refine List.map_congr_left fun e he => Prod.ext rfl ?_
      have hvalue := ih e he (p := p.key (key e.1))
      simp only [Function.comp_apply,← hstep]
      exact hvalue
    rw [mapAt_obj,rekey_obj,rekey_obj,mapAt_obj,arrivals,hrenamed,order.blind,GoMap.ofList_amend]
    rfl

section Disclosure

def mark (s : String) : String := if s = "" then "" else "***"

def bump (s : String) : String := if s = "" then "" else s ++ "*"

def Keeps (f : String → String) : Prop := ∀ s, f s = "" ↔ s = ""

theorem keeps_mark : Keeps mark := by
  intro s
  by_cases h : s = ""
  · simp [mark,h]
  · simp [mark,h]

theorem keeps_bump : Keeps bump := by
  intro s
  by_cases h : s = ""
  · simp [bump,h]
  · simp [bump,h]

theorem Keeps.mark_eq (h : Keeps f) (s : String) : mark (f s) = mark s := by
  simp only [mark,h s]

theorem bump_eq_self_iff (s : String) : bump s = s ↔ s = "" := by
  by_cases h : s = ""
  · simp [bump,h]
  · have hlength : (s ++ "*").length ≠ s.length := by simp
    simp only [bump,h,if_false,iff_false]
    exact fun heq => hlength (congrArg String.length heq)

abbrev Unset (p : Positions) (d : Json) : Prop := AllAt (fun s => s = "") p d

/-- Of the values at `s`, the view `R` of a document shows those at `p`. -/
structure Discloses (s p : Positions) (R : Json → Json) : Prop where
  shown : ∀ f, Keeps f → ∀ d, R (mapAt f s d) = mapAt f p (R d)
  unset : ∀ d, Unset p (R d) ↔ Unset p d

variable {s : Positions} {R : Json → Json} {d : Json}

theorem Discloses.of_unset (h : Discloses s p R) (hd : Unset p d) : R (mapAt mark s d) = R d := by
  rw [h.shown mark keeps_mark,mapAt_eq_self_iff]
  refine ((h.unset d).2 hd).mono ?_
  rintro t rfl
  rfl

theorem Discloses.unset_of_eq (h : Discloses s p R) (heq : R (mapAt bump s d) = R d) :
    Unset p d := by
  rw [h.shown bump keeps_bump,mapAt_eq_self_iff] at heq
  exact (h.unset d).1 (heq.mono fun t ht => (bump_eq_self_iff t).1 ht)

theorem unset_mark : Unset p (mapAt mark s d) ↔ Unset p d :=
  allAt_mapAt (fun t => keeps_mark t) d

theorem discloses_id : Discloses s s id := ⟨fun _ _ _ => rfl,fun _ => Iff.rfl⟩

theorem discloses_marked : Discloses s (s.diff q) (mapAt mark q) :=
  ⟨fun _ hf => mapAt_mapAt_diff hf.mark_eq,allAt_mapAt_diff⟩

end Disclosure

end Json

end PrismGateway.Lib
