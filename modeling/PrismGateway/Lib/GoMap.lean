import Mathlib.Data.List.Sort
import Mathlib.Order.Basic

namespace PrismGateway.Lib.GoMap

variable {K : Type} [LinearOrder K] {β γ : Type}

def Sorted (l : List (K × β)) : Prop := l.Pairwise (fun a b => a.1 < b.1)

instance (l : List (K × β)) : Decidable (Sorted l) := inferInstanceAs (Decidable (l.Pairwise _))

def insert (k : K) (b : β) : List (K × β) → List (K × β)
  | [] => [(k,b)]
  | e :: rest =>
    if k < e.1 then (k,b) :: e :: rest
    else if k = e.1 then (k,b) :: rest
    else e :: insert k b rest

def ofList (l : List (K × β)) : List (K × β) := l.foldl (fun m e => insert e.1 e.2 m) []

def erase (k : K) (l : List (K × β)) : List (K × β) := l.filter (fun e => e.1 ≠ k)

theorem mem_keys_insert {k x : K} {b : β} {l : List (K × β)} :
    x ∈ (insert k b l).map Prod.fst ↔ x = k ∨ x ∈ l.map Prod.fst := by
  induction l with
  | nil => simp [insert]
  | cons e rest ih =>
    simp only [insert]
    split_ifs with h1 h2
    · simp only [List.map_cons,List.mem_cons]
    · simp only [List.map_cons,List.mem_cons,h2,or_self_left]
    · simp only [List.map_cons,List.mem_cons,ih]
      exact or_left_comm

theorem forall_keys_insert {p : K → Prop} {k : K} {b : β} {l : List (K × β)}
    (hk : p k) (hl : ∀ e ∈ l, p e.1) : ∀ e ∈ insert k b l, p e.1 := by
  intro e he
  have hm : e.1 ∈ (insert k b l).map Prod.fst := List.mem_map_of_mem he
  rcases mem_keys_insert.mp hm with h | h
  · rw [h]
    exact hk
  · obtain ⟨e',he',heq⟩ := List.mem_map.mp h
    rw [← heq]
    exact hl e' he'

theorem sorted_insert {k : K} {b : β} {l : List (K × β)} (h : Sorted l) :
    Sorted (insert k b l) := by
  induction l with
  | nil => exact List.pairwise_singleton _ _
  | cons e rest ih =>
    obtain ⟨hhead,htail⟩ := List.pairwise_cons.mp h
    simp only [insert]
    split_ifs with h1 h2
    · refine List.pairwise_cons.mpr ⟨?_,h⟩
      intro x hx
      rcases List.mem_cons.mp hx with rfl | hx
      · exact h1
      · exact lt_trans h1 (hhead x hx)
    · refine List.pairwise_cons.mpr ⟨?_,htail⟩
      intro x hx
      rw [h2]
      exact hhead x hx
    · have hlt : e.1 < k := lt_of_le_of_ne (not_lt.mp h1) (Ne.symm h2)
      exact List.pairwise_cons.mpr ⟨forall_keys_insert (p := fun x => e.1 < x) hlt hhead,ih htail⟩

theorem insert_perm {k : K} {b : β} {l : List (K × β)} (h : k ∉ l.map Prod.fst) :
    (insert k b l).Perm ((k,b) :: l) := by
  induction l with
  | nil => exact List.Perm.refl _
  | cons e rest ih =>
    simp only [List.map_cons,List.mem_cons,not_or] at h
    simp only [insert]
    split_ifs with h1 h2
    · exact List.Perm.refl _
    · exact absurd h2 h.1
    · exact ((ih h.2).cons e).trans (List.Perm.swap _ _ _)

theorem foldl_insert_sorted (l : List (K × β)) :
    ∀ {m : List (K × β)}, Sorted m → Sorted (l.foldl (fun m e => insert e.1 e.2 m) m) := by
  induction l with
  | nil => exact fun h => h
  | cons e rest ih => exact fun h => ih (sorted_insert h)

theorem sorted_ofList (l : List (K × β)) : Sorted (ofList l) :=
  foldl_insert_sorted l List.Pairwise.nil

theorem map_insert (f : β → γ) (k : K) (b : β) (l : List (K × β)) :
    (insert k b l).map (fun e => (e.1,f e.2)) = insert k (f b) (l.map (fun e => (e.1,f e.2))) := by
  induction l with
  | nil => rfl
  | cons e rest ih =>
    simp only [insert,List.map_cons]
    split_ifs
    · rfl
    · rfl
    · rw [List.map_cons,ih]

theorem map_foldl_insert (f : β → γ) (l : List (K × β)) : ∀ m : List (K × β),
    (l.foldl (fun m e => insert e.1 e.2 m) m).map (fun e => (e.1,f e.2)) =
      (l.map (fun e => (e.1,f e.2))).foldl (fun m e => insert e.1 e.2 m) (m.map (fun e => (e.1,f e.2))) := by
  induction l with
  | nil => exact fun _ => rfl
  | cons e rest ih =>
    intro m
    rw [List.foldl_cons,ih,map_insert]
    rfl

theorem map_ofList (f : β → γ) (l : List (K × β)) :
    (ofList l).map (fun e => (e.1,f e.2)) = ofList (l.map (fun e => (e.1,f e.2))) :=
  map_foldl_insert f l []

theorem mem_keys_foldl_insert {x : K} (l : List (K × β)) :
    ∀ {m : List (K × β)}, x ∈ (l.foldl (fun m e => insert e.1 e.2 m) m).map Prod.fst ↔
      x ∈ m.map Prod.fst ∨ x ∈ l.map Prod.fst := by
  induction l with
  | nil => simp
  | cons e rest ih =>
    intro m
    rw [List.foldl_cons,ih,mem_keys_insert]
    simp only [List.map_cons,List.mem_cons]
    tauto

theorem mem_keys_ofList {x : K} {l : List (K × β)} :
    x ∈ (ofList l).map Prod.fst ↔ x ∈ l.map Prod.fst := by
  simp [ofList,mem_keys_foldl_insert]

theorem foldl_insert_perm (l : List (K × β)) :
    ∀ {m : List (K × β)}, ((m ++ l).map Prod.fst).Nodup →
      (l.foldl (fun m e => insert e.1 e.2 m) m).Perm (m ++ l) := by
  induction l with
  | nil => simp
  | cons e rest ih =>
    intro m h
    have hfresh : e.1 ∉ m.map Prod.fst := by
      rw [List.map_append,List.nodup_append] at h
      intro hm
      exact h.2.2 _ hm _ (by simp) rfl
    have hins : (insert e.1 e.2 m ++ rest).Perm (m ++ e :: rest) :=
      ((insert_perm hfresh).append_right rest).trans List.perm_middle.symm
    rw [List.foldl_cons]
    exact (ih ((hins.map Prod.fst).nodup_iff.mpr h)).trans hins

theorem ofList_perm {l : List (K × β)} (h : (l.map Prod.fst).Nodup) : (ofList l).Perm l := by
  exact foldl_insert_perm l (m := []) h

theorem mem_of_mem_insert {e : K × β} {k : K} {b : β} {l : List (K × β)} (h : e ∈ insert k b l) :
    e = (k,b) ∨ e ∈ l := by
  induction l with
  | nil => exact .inl (List.mem_singleton.mp h)
  | cons a rest ih =>
    simp only [insert] at h
    split_ifs at h with h1 h2
    · exact List.mem_cons.mp h
    · rcases List.mem_cons.mp h with h | h
      · exact .inl h
      · exact .inr (List.mem_cons_of_mem a h)
    · rcases List.mem_cons.mp h with rfl | h
      · exact .inr List.mem_cons_self
      · exact (ih h).imp_right (List.mem_cons_of_mem a)

theorem mem_insert_of_mem {e : K × β} {k : K} {b : β} {l : List (K × β)} (h : e ∈ l)
    (hk : e.1 ≠ k) : e ∈ insert k b l := by
  induction l with
  | nil => cases h
  | cons a rest ih =>
    simp only [insert]
    split_ifs with h1 h2
    · exact List.mem_cons_of_mem _ h
    · rcases List.mem_cons.mp h with rfl | h
      · exact absurd h2.symm hk
      · exact List.mem_cons_of_mem _ h
    · rcases List.mem_cons.mp h with rfl | h
      · exact List.mem_cons_self
      · exact List.mem_cons_of_mem _ (ih h)

theorem mem_of_mem_foldl_insert {e : K × β} (l : List (K × β)) :
    ∀ {m : List (K × β)}, e ∈ l.foldl (fun m e => insert e.1 e.2 m) m → e ∈ m ∨ e ∈ l := by
  induction l with
  | nil => exact fun h => .inl h
  | cons a rest ih =>
    intro m h
    rcases ih h with h | h
    · rcases mem_of_mem_insert h with h | h
      · exact .inr (h ▸ List.mem_cons_self)
      · exact .inl h
    · exact .inr (List.mem_cons_of_mem a h)

theorem mem_of_mem_ofList {e : K × β} {l : List (K × β)} (h : e ∈ ofList l) : e ∈ l :=
  (mem_of_mem_foldl_insert l h).resolve_left List.not_mem_nil

theorem Sorted.nodup {l : List (K × β)} (h : Sorted l) : (l.map Prod.fst).Nodup :=
  List.Pairwise.map _ (fun _ _ => ne_of_lt) h

theorem Sorted.eq_of_perm {l l' : List (K × β)} (h : Sorted l) (h' : Sorted l')
    (hp : l.Perm l') : l = l' :=
  hp.eq_of_pairwise (fun _ _ _ _ hab hba => absurd hab (lt_asymm hba)) h h'

theorem ofList_eq_of_perm {l l' : List (K × β)} (h : Sorted l) (hp : l'.Perm l) :
    ofList l' = l := by
  have hnodup : (l'.map Prod.fst).Nodup := (hp.map Prod.fst).nodup_iff.mpr h.nodup
  exact (sorted_ofList l').eq_of_perm h ((ofList_perm hnodup).trans hp)

theorem filter_ofList {l : List (K × β)} (h : (l.map Prod.fst).Nodup) (p : K × β → Bool) :
    (ofList l).filter p = ofList (l.filter p) := by
  have hnodup : ((l.filter p).map Prod.fst).Nodup := (List.filter_sublist.map _).nodup h
  refine Sorted.eq_of_perm (List.Pairwise.filter p (sorted_ofList l)) (sorted_ofList _) ?_
  exact ((ofList_perm h).filter p).trans (ofList_perm hnodup).symm

theorem Sorted.map {l : List (K × β)} (f : K × β → γ) (h : Sorted l) :
    Sorted (l.map (fun e => (e.1,f e))) :=
  List.Pairwise.map _ (fun _ _ hlt => hlt) h

theorem lookup_eq_head_filter [BEq K] [LawfulBEq K] {k : K} {l : List (K × β)} :
    l.lookup k = (l.filter (fun e => e.1 = k)).head?.map Prod.snd := by
  induction l with
  | nil => rfl
  | cons e rest ih =>
    rcases e with ⟨k',b⟩
    rw [List.lookup_cons,List.filter_cons,ih]
    by_cases h : k = k'
    · simp [h]
    · have hb : (k == k') = false := beq_eq_false_iff_ne.mpr h
      simp [hb,Ne.symm h]

theorem lookup_cons_eq [BEq K] [LawfulBEq K] (k x : K) (b : β) (l : List (K × β)) :
    ((k,b) :: l).lookup x = if x = k then some b else l.lookup x := by
  rw [List.lookup_cons]
  split_ifs with h
  · simp [h]
  · rw [beq_eq_false_iff_ne.mpr h]

omit [LinearOrder K] in
theorem mem_of_lookup [BEq K] [LawfulBEq K] {k : K} {b : β} {l : List (K × β)}
    (h : l.lookup k = some b) : (k,b) ∈ l := by
  obtain ⟨before,after,rfl,_⟩ := List.lookup_eq_some_iff.mp h
  simp

theorem isSome_lookup_iff [BEq K] [LawfulBEq K] {k : K} {l : List (K × β)} :
    (l.lookup k).isSome = true ↔ k ∈ l.map Prod.fst := by
  induction l with
  | nil => simp
  | cons e rest ih =>
    obtain ⟨k',b⟩ := e
    rw [lookup_cons_eq,List.map_cons,List.mem_cons,← ih]
    by_cases h : k = k'
    · simp [h]
    · simp [h]

theorem lookup_map [BEq K] [LawfulBEq K] (f : β → γ) (x : K) (l : List (K × β)) :
    (l.map (fun e => (e.1,f e.2))).lookup x = (l.lookup x).map f := by
  induction l with
  | nil => rfl
  | cons e rest ih =>
    obtain ⟨k,b⟩ := e
    rw [List.map_cons,lookup_cons_eq,lookup_cons_eq,ih]
    split_ifs <;> rfl

theorem lookup_insert [BEq K] [LawfulBEq K] {k x : K} {b : β} (l : List (K × β)) :
    (insert k b l).lookup x = if x = k then some b else l.lookup x := by
  induction l with
  | nil => rw [insert,lookup_cons_eq]
  | cons e rest ih =>
    rcases e with ⟨k',b'⟩
    rw [insert]
    split
    · rw [lookup_cons_eq]
    · split
      · next heq =>
        rw [lookup_cons_eq,lookup_cons_eq,heq]
        split_ifs <;> rfl
      · next hne =>
        rw [lookup_cons_eq,lookup_cons_eq,ih]
        split_ifs with hx' hx
        · exact absurd (hx.symm.trans hx') hne
        · rfl
        · rfl
        · rfl

theorem lookup_erase [BEq K] [LawfulBEq K] {k x : K} (l : List (K × β)) :
    (erase k l).lookup x = if x = k then none else l.lookup x := by
  rw [erase,lookup_eq_head_filter,lookup_eq_head_filter,List.filter_filter]
  split_ifs with h
  · have hnil : l.filter (fun e => decide (e.1 = x) && decide (e.1 ≠ k)) = [] := by
      rw [List.filter_eq_nil_iff]
      intro e _
      simp [h]
    rw [hnil]
    rfl
  · refine congrArg (fun l => (List.head? l).map Prod.snd) (List.filter_congr fun e _ => ?_)
    by_cases he : e.1 = x
    · simp [he,h]
    · simp [he]

theorem sorted_erase {k : K} {l : List (K × β)} (h : Sorted l) : Sorted (erase k l) :=
  List.Pairwise.filter _ h

end PrismGateway.Lib.GoMap
