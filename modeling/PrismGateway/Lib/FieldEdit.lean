import PrismGateway.Lib.Decoding

namespace PrismGateway.Lib

namespace GoMap

variable {K : Type} [LinearOrder K] [BEq K] [LawfulBEq K] {β : Type}

omit [LinearOrder K] in
theorem lookup_of_mem {l : List (K × β)} (h : (l.map Prod.fst).Nodup) {e : K × β} (he : e ∈ l) :
    l.lookup e.1 = some e.2 := by
  induction l with
  | nil => cases he
  | cons a l ih =>
    obtain ⟨ha,hl⟩ := List.nodup_cons.mp h
    rcases List.mem_cons.mp he with rfl | he
    · rw [List.lookup_cons,beq_self_eq_true]
    · have hne : (e.1 == a.1) = false := by
        rw [beq_eq_false_iff_ne]
        exact fun heq => ha (heq ▸ List.mem_map_of_mem he)
      rw [List.lookup_cons,hne]
      exact ih hl he

theorem lookup_filter (p : K → Bool) (x : K) (l : List (K × β)) :
    (l.filter (fun e => p e.1)).lookup x = if p x then l.lookup x else none := by
  induction l with
  | nil => simp
  | cons e l ih =>
    obtain ⟨k,b⟩ := e
    rw [List.filter_cons,lookup_cons_eq]
    by_cases hx : x = k
    · rw [hx] at ih ⊢
      cases hp : p k with
      | true => simp
      | false => simpa [hp] using ih
    · split_ifs with hk hp hp
      · rw [lookup_cons_eq,if_neg hx,ih,if_pos hp]
      · rw [lookup_cons_eq,if_neg hx,ih,if_neg hp]
      · rw [ih,if_pos hp]
      · rw [ih,if_neg hp]

theorem Sorted.ext {l l' : List (K × β)} (h : Sorted l) (h' : Sorted l')
    (heq : ∀ x, l.lookup x = l'.lookup x) : l = l' := by
  refine h.eq_of_perm h' ((List.perm_ext_iff_of_nodup h.nodup.of_map h'.nodup.of_map).mpr ?_)
  intro e
  constructor
  · intro he
    exact mem_of_lookup ((heq e.1).symm.trans (lookup_of_mem h.nodup he))
  · intro he
    exact mem_of_lookup ((heq e.1).trans (lookup_of_mem h'.nodup he))

theorem Sorted.filter_eq {l l' : List (K × β)} (h : Sorted l) (h' : Sorted l') {p : K → Bool}
    (heq : ∀ x, p x = true → l.lookup x = l'.lookup x) (hp : ∀ e ∈ l', p e.1 = true) :
    l.filter (fun e => p e.1) = l' := by
  refine Sorted.ext (List.Pairwise.filter _ h) h' fun x => ?_
  rw [lookup_filter]
  split_ifs with hx
  · exact heq x hx
  · rw [eq_comm,List.lookup_eq_none_iff]
    intro e he
    rw [bne_iff_ne]
    exact fun hxe => hx (hxe ▸ hp e he)

end GoMap

theorem GoMap.lookup_ofList {l : Json.Entries} (h : (l.map Prod.fst).Nodup) (x : String) :
    (GoMap.ofList l).lookup x = l.lookup x := by
  have hperm := GoMap.ofList_perm h
  cases hx : l.lookup x with
  | none =>
    rw [List.lookup_eq_none_iff] at hx ⊢
    exact fun e he => hx e (hperm.subset he)
  | some j =>
    have hmem : (x,j) ∈ GoMap.ofList l := hperm.symm.subset (GoMap.mem_of_lookup hx)
    exact GoMap.lookup_of_mem (GoMap.sorted_ofList l).nodup hmem

section Aliases

def Alias.find (a : Alias) (look : String → Option Json) (x : String) : Option Json :=
  if (look a.canonical).isSome then look x
  else if x = a.canonical then look a.legacy
  else if a.drop = true ∧ x = a.legacy then none
  else look x

variable {a : Alias} {es : Json.Entries}

theorem Alias.sorted_apply (h : GoMap.Sorted es) : GoMap.Sorted (a.apply es) := by
  rw [Alias.apply]
  split_ifs with hc hd
  · exact h
  · exact GoMap.sorted_ofList _
  · cases es.lookup a.legacy with
    | none => exact h
    | some j => exact GoMap.sorted_insert h

theorem sorted_applyAll (aliases : List Alias) (h : GoMap.Sorted es) :
    GoMap.Sorted (aliases.foldl (fun es a => a.apply es) es) := by
  induction aliases generalizing es with
  | nil => exact h
  | cons a aliases ih => exact ih (a.sorted_apply h)

theorem Alias.lookup_rename (hd : a.drop = true) (x : String)
    (hc : a.canonical ∉ es.map Prod.fst) :
    (es.map (fun e => (a.rename e.1,e.2))).lookup x =
      if x = a.canonical then es.lookup a.legacy else if x = a.legacy then none else es.lookup x := by
  induction es with
  | nil => simp
  | cons e es ih =>
    obtain ⟨k,j⟩ := e
    rw [List.map_cons,List.mem_cons,not_or] at hc
    rw [List.map_cons,GoMap.lookup_cons_eq,GoMap.lookup_cons_eq,GoMap.lookup_cons_eq,ih hc.2]
    by_cases hk : k = a.legacy
    · have hrename : a.rename k = a.canonical := by rw [Alias.rename,if_pos ⟨hd,hk⟩]
      rw [hrename,if_pos hk.symm,hk]
      split_ifs with hx hl
      · rfl
      · rfl
      · rfl
    · have hrename : a.rename k = k := Alias.rename_eq_self fun _ => hk
      simp only [hrename,if_neg (Ne.symm hk)]
      split_ifs with hx hxc hxl hxl
      · exact absurd (hxc.symm.trans hx) hc.1
      · exact absurd (hx.symm.trans hxl) hk
      · rfl
      · rfl
      · rfl
      · rfl

theorem Alias.lookup_apply (h : GoMap.Sorted es) (x : String) :
    (a.apply es).lookup x = a.find (fun y => es.lookup y) x := by
  unfold Alias.apply Alias.find
  by_cases hc : a.canonical ∈ es.map Prod.fst
  · rw [if_pos hc,if_pos (GoMap.isSome_lookup_iff.mpr hc)]
  · have hnone : es.lookup a.canonical = none := by
      rw [← Option.not_isSome_iff_eq_none,GoMap.isSome_lookup_iff]
      exact hc
    simp only [if_neg hc,hnone,Option.isSome_none,Bool.false_eq_true,if_false]
    by_cases hd : a.drop = true
    · have hnodup : ((es.map (fun e => (a.rename e.1,e.2))).map Prod.fst).Nodup := by
        have hfits : a.fits (es.map Prod.fst) = true := Alias.fits_iff.mpr (.inr ⟨hd,hc⟩)
        have hmap := Alias.nodup_rename hfits (fun _ hk => hk) h.nodup
        rw [List.map_map] at hmap ⊢
        exact hmap
      rw [if_pos hd,GoMap.lookup_ofList hnodup,Alias.lookup_rename hd x hc]
      simp [hd]
    · rw [if_neg hd]
      cases hl : es.lookup a.legacy with
      | none =>
        by_cases hx : x = a.canonical
        · simp [hx,hnone]
        · simp [hx,hd]
      | some j =>
        rw [GoMap.lookup_insert]
        simp [hd]

def aliasesApart (aliases : List Alias) (names : List String) : Bool :=
  decide (aliases.map Alias.canonical).Nodup && decide (aliases.map Alias.legacy).Nodup &&
    aliases.all (fun a => names.contains a.canonical && !(names.contains a.legacy) &&
      (fieldFor names a.legacy).all (fun n => n = a.canonical && a.drop))

structure Alias.Apart (names : List String) (a : Alias) : Prop where
  canonical : a.canonical ∈ names
  legacy : a.legacy ∉ names
  read : ∀ n, fieldFor names a.legacy = some n → n = a.canonical
  renamed : ∀ n, fieldFor names a.legacy = some n → a.drop = true

theorem aliasesApart_iff {aliases : List Alias} {names : List String} :
    aliasesApart aliases names = true ↔ (aliases.map Alias.canonical).Nodup ∧
      (aliases.map Alias.legacy).Nodup ∧ ∀ a ∈ aliases, a.Apart names := by
  simp only [aliasesApart,Bool.and_eq_true,decide_eq_true_eq,List.all_eq_true,and_assoc]
  refine and_congr_right fun _ => and_congr_right fun _ => forall₂_congr fun a _ => ?_
  constructor
  · rintro ⟨hc,hl,hread⟩
    refine ⟨by simpa using hc,by simpa using hl,fun n hn => ?_,fun n hn => ?_⟩
    all_goals
      rw [hn,Option.all_some,Bool.and_eq_true] at hread
      simp_all
  · rintro ⟨hc,hl,hread,hdrop⟩
    refine ⟨by simpa using hc,by simpa using hl,?_⟩
    cases hn : fieldFor names a.legacy with
    | none => rfl
    | some n => simp [hread n hn,hdrop n hn]

theorem fieldFor_of_mem {names : List String} {n : String} (h : n ∈ names) :
    fieldFor names n = some n := if_pos h

variable {aliases : List Alias} {names : List String} {n x : String}

theorem Alias.Apart.find_of_ne (ha : a.Apart names) (hn : a.canonical ≠ n)
    (hx : fieldFor names x = some n) (look : String → Option Json) : a.find look x = look x := by
  have hc : x ≠ a.canonical := by
    intro heq
    rw [heq,fieldFor_of_mem ha.canonical] at hx
    exact hn (Option.some.inj hx)
  have hl : x ≠ a.legacy := by
    intro heq
    exact hn (ha.read n (heq ▸ hx)).symm
  simp [Alias.find,hc,hl]

theorem lookup_applyAll (h : aliasesApart aliases names = true) (hs : GoMap.Sorted es)
    (hx : fieldFor names x = some n) : (aliases.foldl (fun es a => a.apply es) es).lookup x =
      match aliases.find? (fun a => a.canonical = n) with
      | none => es.lookup x
      | some a => a.find (fun y => es.lookup y) x := by
  obtain ⟨hcanonical,hlegacy,hall⟩ := aliasesApart_iff.mp h
  clear h
  induction aliases generalizing es with
  | nil => rfl
  | cons b aliases ih =>
    obtain ⟨hb,hall⟩ := List.forall_mem_cons.mp hall
    obtain ⟨hbc,hcanonical⟩ := List.nodup_cons.mp hcanonical
    obtain ⟨hbl,hlegacy⟩ := List.nodup_cons.mp hlegacy
    have hrest := ih (b.sorted_apply hs) hcanonical hlegacy hall
    rw [List.foldl_cons,hrest,List.find?_cons]
    by_cases hn : b.canonical = n
    · have hnone : aliases.find? (fun a => a.canonical = n) = none := by
        rw [List.find?_eq_none]
        intro a ha heq
        refine hbc ?_
        rw [hn,← of_decide_eq_true heq]
        exact List.mem_map_of_mem ha
      simp only [hn,hnone,decide_true]
      exact Alias.lookup_apply hs x
    · simp only [hn,decide_false]
      cases hfind : aliases.find? (fun a => a.canonical = n) with
      | none =>
        rw [Alias.lookup_apply hs]
        exact hb.find_of_ne hn hx _
      | some a =>
        have ha : a ∈ aliases := List.mem_of_find?_eq_some hfind
        have hac : a.canonical = n := by simpa using List.find?_some hfind
        have hsame : ∀ y, y ≠ b.canonical → y ≠ b.legacy → (b.apply es).lookup y = es.lookup y := by
          intro y hc hl
          rw [Alias.lookup_apply hs]
          simp [Alias.find,hc,hl]
        have hxc : x ≠ b.canonical := by
          intro heq
          rw [heq,fieldFor_of_mem hb.canonical] at hx
          exact hn (Option.some.inj hx)
        have hxl : x ≠ b.legacy := fun heq => hn (hb.read n (heq ▸ hx)).symm
        have hcl : a.canonical ≠ b.legacy := fun heq => hb.legacy (heq ▸ (hall a ha).canonical)
        have hlc : a.legacy ≠ b.canonical := fun heq => (hall a ha).legacy (heq ▸ hb.canonical)
        have hll : a.legacy ≠ b.legacy := fun heq => hbl (heq ▸ List.mem_map_of_mem ha)
        have hcc : a.canonical ≠ b.canonical := fun heq => hn (heq.symm.trans hac)
        simp only [Alias.find,hsame x hxc hxl,hsame _ hcc hcl,hsame _ hlc hll]

end Aliases

section Leaves

def Schema.isLeaf : Schema → Bool
  | .ptr s => s.isLeaf
  | .dict _ => false
  | .struct _ _ => false
  | _ => true

/-- `j` leaves nothing of the value it is decoded over: `null` only empties pointers and slices. -/
def Schema.settles (s : Schema) : Json → Bool
  | .null => match s with
    | .ptr _ => true
    | .slice _ => true
    | _ => false
  | _ => true

theorem Schema.decode_settled : (s : Schema) → s.isLeaf = true → (j : Json) → s.settles j = true →
    (v w : s.Val) → s.decode j v = s.decode j w
  | .bool, _, j, h, _, _ => by cases j <;> first | rfl | cases h
  | .int, _, j, h, _, _ => by cases j <;> first | rfl | cases h
  | .float, _, j, h, _, _ => by cases j <;> first | rfl | cases h
  | .str, _, j, h, _, _ => by cases j <;> first | rfl | cases h
  | .slice _, _, j, _, _, _ => by cases j <;> rfl
  | .ptr s, hleaf, j, _, v, w => by
    by_cases hnull : j = .null
    · rw [hnull]
      rfl
    · have hsettles : s.settles j = true := by
        cases j with
        | null => exact absurd rfl hnull
        | _ => rfl
      have hsame := s.decode_settled hleaf j hsettles (Option.getD v s.zero) (Option.getD w s.zero)
      exact (Schema.decode_ptr hnull v).trans
        ((congrArg (Option.map some) hsame).trans (Schema.decode_ptr hnull w).symm)

theorem Schema.settles_encode : (s : Schema) → s.isLeaf = true → (v : s.Val) →
    s.settles (s.encode v) = true
  | .bool, _, _ => rfl
  | .int, _, _ => rfl
  | .float, _, _ => rfl
  | .str, _, _ => rfl
  | .slice _, _, _ => rfl
  | .ptr _, _, none => rfl
  | .ptr s, hleaf, some v => by
    have hinner := s.settles_encode hleaf v
    rw [Schema.encode_some]
    generalize s.encode v = j at hinner ⊢
    cases j <;> rfl

theorem Schema.decode_leaf_obj : (s : Schema) → s.isLeaf = true → (es : Json.Entries) → (v : s.Val) →
    s.decode (.obj es) v = none
  | .bool, _, _, _ => rfl
  | .int, _, _, _ => rfl
  | .float, _, _, _ => rfl
  | .str, _, _, _ => rfl
  | .slice _, _, _, _ => rfl
  | .ptr s, hleaf, es, v => by
    have hinner := s.decode_leaf_obj hleaf es (Option.getD v s.zero)
    exact congrArg (Option.map some) hinner

theorem Schema.decode_encode_zero : (s : Schema) → s.isLeaf = true →
    s.decode (s.encode s.zero) s.zero = some s.zero
  | .bool, _ => rfl
  | .int, _ => by
    change Json.parseInt (Float.ofInt 0) = some (0 : Int)
    decide
  | .float, _ => Json.Number.ofFloat_val Json.Number.zero
  | .str, _ => rfl
  | .slice _, _ => rfl
  | .ptr _, _ => rfl

end Leaves

inductive Placing where
  | replaces
  | later
  | earlier
  | lost

def Placing.order {α : Type} (old new : List α) : Placing → List α
  | .replaces => new
  | .later => old ++ new
  | .earlier => new ++ old
  | .lost => old

namespace Item

def held (i : Item) : List Json := if i.sent then [i.schema.encode i.val] else []

def settle (i : Item) (l : List Json) : Option i.schema.Val :=
  l.foldlM (fun v j => i.schema.decode j v) i.schema.zero

def kept (i : Item) : Option i.schema.Val := i.settle i.held

def Takes (i : Item) (t : Placing) (j : Json) : Prop :=
  match t with
  | .replaces => True
  | .later => i.schema.settles j = true ∨ i.schema.decode j i.schema.zero = i.kept
  | .earlier => i.schema.decode j i.schema.zero = i.kept
  | .lost => i.schema.decode j i.schema.zero = i.kept

variable {i : Item}

theorem settle_append (i : Item) (l l' : List Json) : i.settle (l ++ l') =
    (i.settle l).bind (fun v => l'.foldlM (fun v j => i.schema.decode j v) v) :=
  List.foldlM_append

theorem foldlM_singleton (i : Item) (j : Json) (v : i.schema.Val) :
    [j].foldlM (fun v j => i.schema.decode j v) v = i.schema.decode j v := by
  rw [List.foldlM_cons]
  cases i.schema.decode j v <;> rfl

theorem settle_singleton (i : Item) (j : Json) :
    i.settle [j] = i.schema.decode j i.schema.zero := foldlM_singleton i j _

theorem takes_iff (hleaf : i.schema.isLeaf = true) {t : Placing} {j : Json} {after : i.schema.Val}
    (hsent : t = .earlier → i.sent = true) (h : i.settle (t.order i.held [j]) = some after) :
    i.schema.decode j i.schema.zero = some after ↔ i.Takes t j := by
  cases t with
  | replaces =>
    rw [Placing.order,settle_singleton] at h
    exact iff_of_true h trivial
  | lost =>
    have hkept : i.kept = some after := h
    rw [Takes,hkept]
  | earlier =>
    have hheld : i.held = [i.schema.encode i.val] := if_pos (hsent rfl)
    rw [Placing.order,settle_append,settle_singleton,hheld] at h
    obtain ⟨w,_,hafter⟩ := Option.bind_eq_some_iff.mp h
    rw [foldlM_singleton,i.schema.decode_settled hleaf _ (i.schema.settles_encode hleaf i.val) w
      i.schema.zero] at hafter
    rw [Takes,kept,hheld,settle_singleton,hafter]
  | later =>
    rw [Placing.order,settle_append] at h
    obtain ⟨w,hkept,hafter⟩ := Option.bind_eq_some_iff.mp h
    rw [foldlM_singleton] at hafter
    rw [Takes,kept,hkept]
    by_cases hsettles : i.schema.settles j = true
    · rw [i.schema.decode_settled hleaf j hsettles w i.schema.zero] at hafter
      exact iff_of_true hafter (.inl hsettles)
    · have hnull : j = .null := by
        cases j with
        | null => rfl
        | _ => exact absurd rfl hsettles
      have hsame : w = after := by
        subst hnull
        rcases i with ⟨tag,s,val⟩
        cases s with
        | ptr s => exact absurd rfl hsettles
        | slice s => exact absurd rfl hsettles
        | dict s => cases hleaf
        | struct aliases fs => cases hleaf
        | _ => exact Option.some.inj hafter
      rw [hsame]
      exact ⟨.inr,fun h => h.resolve_left hsettles⟩

end Item

section Mentions

def meaning (aliases : List Alias) (names : List String) (k : String) : Option String :=
  match aliases.find? (fun a => a.legacy = k) with
  | some a => some a.canonical
  | none => fieldFor names k

def mentions (aliases : List Alias) (names : List String) (n : String) (es : Json.Entries) :
    Json.Entries :=
  es.filter (fun e => meaning aliases names e.1 = some n)

def arriving (names : List String) (n : String) (es : Json.Entries) : List Json :=
  (es.filter (fun e => fieldFor names e.1 = some n)).map Prod.snd

variable {aliases : List Alias} {names : List String} {n k : String} {es : Json.Entries}

theorem arriving_append (es es' : Json.Entries) :
    arriving names n (es ++ es') = arriving names n es ++ arriving names n es' := by
  rw [arriving,List.filter_append,List.map_append]
  rfl

theorem receive_eq_settle {i : Item} (hd : i.tag.dash = false) :
    receive i.schema.decode names i.tag es i.schema.zero = i.settle (arriving names i.tag.name es) := by
  rw [receive,hd,Item.settle,arriving,List.foldlM_map]
  rfl

theorem meaning_of_fieldFor (h : aliasesApart aliases names = true) (hk : fieldFor names k = some n) :
    meaning aliases names k = some n := by
  rw [meaning]
  cases hfind : aliases.find? (fun a => a.legacy = k) with
  | none => exact hk
  | some a =>
    have ha := (aliasesApart_iff.mp h).2.2 a (List.mem_of_find?_eq_some hfind)
    have hlegacy : a.legacy = k := by simpa using List.find?_some hfind
    rw [ha.read n (hlegacy ▸ hk)]

theorem filter_fieldFor_mentions (h : aliasesApart aliases names = true) :
    es.filter (fun e => fieldFor names e.1 = some n) =
      (mentions aliases names n es).filter (fun e => fieldFor names e.1 = some n) := by
  rw [mentions,List.filter_filter]
  refine List.filter_congr fun e _ => ?_
  by_cases hk : fieldFor names e.1 = some n
  · simp [hk,meaning_of_fieldFor h hk]
  · simp [hk]

theorem arriving_of_unmentioned (h : aliasesApart aliases names = true)
    (hm : mentions aliases names n es = []) : arriving names n es = [] := by
  rw [arriving,filter_fieldFor_mentions h,hm]
  rfl

theorem arriving_of_mention (h : aliasesApart aliases names = true) {j : Json}
    (hm : mentions aliases names n es = [(k,j)]) :
    arriving names n es = if fieldFor names k = some n then [j] else [] := by
  rw [arriving,filter_fieldFor_mentions h,hm]
  by_cases hk : fieldFor names k = some n
  · simp [hk]
  · simp [hk]

theorem arriving_held {fs : Fields} {v : fs.Vals} (hnodup : fs.names.Nodup) {i : Item}
    (hi : i ∈ fs.items v) (hd : i.tag.dash = false) :
    arriving fs.names i.tag.name (GoMap.ofList (fs.emit v)) = i.held := by
  have hsublist := fs.emit_sublist v
  have hkeys : ((fs.emit v).map Prod.fst).Nodup := hsublist.nodup hnodup
  have hfilter : (fs.emit v).filter (fun e => fieldFor fs.names e.1 = some i.tag.name) =
      (fs.emit v).filter (fun e => e.1 = i.tag.name) := by
    refine List.filter_congr fun e he => ?_
    rw [fieldFor_of_mem (hsublist.subset (List.mem_map_of_mem he)),Bool.eq_iff_iff]
    simp
  rw [arriving,GoMap.filter_ofList hkeys,hfilter,Fields.filter_emit hnodup hi hd,Item.held]
  cases i.sent <;> rfl

end Mentions

section Pairs

def Fields.Pairs (P : Tag → (s : Schema) → s.Val → s.Val → Prop) :
    (fs : Fields) → fs.Vals → fs.Vals → Prop
  | .nil, _, _ => True
  | .cons tag s rest, v, w => P tag s v.1 w.1 ∧ rest.Pairs P v.2 w.2

theorem Fields.pairs_iff {P : Tag → (s : Schema) → s.Val → s.Val → Prop} {Q : Item → Prop}
    {names : List String} {es : Json.Entries} : (fs : Fields) → (before after : fs.Vals) →
    fs.decode names es fs.zero = some after →
    (∀ i ∈ fs.items before, ∀ w, receive i.schema.decode names i.tag es i.schema.zero = some w →
      (P i.tag i.schema i.val w ↔ Q i)) →
    (fs.Pairs P before after ↔ ∀ i ∈ fs.items before, Q i)
  | .nil, _, _, _, _ => iff_of_true trivial fun _ hi => absurd hi List.not_mem_nil
  | .cons tag s rest, before, after, h, hfields => by
    rw [Fields.decode] at h
    obtain ⟨hhead,hrest⟩ := bind_pair_eq_some.mp h
    obtain ⟨hfield,hfields⟩ := List.forall_mem_cons.mp hfields
    rw [Fields.items,List.forall_mem_cons,Fields.Pairs]
    exact and_congr (hfield after.1 hhead) (rest.pairs_iff before.2 after.2 hrest hfields)

def Asked (mentioned : Json.Entries) (unchanged : Prop) (given : String → Json → Prop) : Prop :=
  match mentioned with
  | [] => unchanged
  | [(k,j)] => given k j
  | _ => True

theorem asked_congr {m : Json.Entries} {p p' : Prop} {g g' : String → Json → Prop}
    (hp : m = [] → (p ↔ p')) (hg : ∀ k j, m = [(k,j)] → (g k j ↔ g' k j)) :
    Asked m p g ↔ Asked m p' g' := by
  cases m with
  | nil => exact hp rfl
  | cons e m =>
    cases m with
    | nil => exact hg e.1 e.2 rfl
    | cons e' m => exact Iff.rfl

/-- The fields have the values that the patch gives them, the default for `null`, and the others
have not changed. -/
def Fields.Edited (aliases : List Alias) (patch : Json.Entries) (fs : Fields) (before after : fs.Vals) :
    Prop :=
  fs.Pairs (fun tag s v w => Asked (mentions aliases fs.names tag.name patch) (w = v)
    (fun _ j => s.decode j s.zero = some w)) before after

def Fields.Taken (aliases : List Alias) (placingOf : Item → String → Json → Placing) (patch : Json.Entries)
    (fs : Fields) (before : fs.Vals) : Prop :=
  ∀ i ∈ fs.items before, Asked (mentions aliases fs.names i.tag.name patch) (i.kept = some i.val)
    (fun k j => i.Takes (placingOf i k j) j)

def Fields.flat (fs : Fields) : Bool :=
  decide fs.names.Nodup && fs.all (fun tag s => !tag.dash && s.isLeaf)

structure Fields.Flat (fs : Fields) : Prop where
  nodup : fs.names.Nodup
  dash : ∀ v, ∀ i ∈ fs.items v, i.tag.dash = false
  leaf : ∀ v, ∀ i ∈ fs.items v, i.schema.isLeaf = true

theorem Fields.flat_of {fs : Fields} (h : fs.flat = true) : fs.Flat := by
  obtain ⟨hnodup,hall⟩ := Bool.and_eq_true_iff.mp h
  refine ⟨of_decide_eq_true hnodup,fun v i hi => ?_,fun v i hi => ?_⟩
  · simpa using (Bool.and_eq_true_iff.mp (fs.all_items hall v i hi)).1
  · exact (Bool.and_eq_true_iff.mp (fs.all_items hall v i hi)).2

structure Item.Served (names : List String) (es mentioned : Json.Entries) (placingOf : Item → String → Json → Placing)
    (i : Item) : Prop where
  unmentioned : mentioned = [] → i.settle (arriving names i.tag.name es) = i.kept
  mentioned : ∀ k j, mentioned = [(k,j)] → i.settle (arriving names i.tag.name es) =
    i.settle ((placingOf i k j).order i.held [j]) ∧ (placingOf i k j = .earlier → i.sent = true)

theorem Item.Served.leaf_iff {names : List String} {es m : Json.Entries}
    {placingOf : Item → String → Json → Placing} {i : Item} (hserved : i.Served names es m placingOf)
    (hleaf : i.schema.isLeaf = true) {w : i.schema.Val}
    (h : i.settle (arriving names i.tag.name es) = some w) :
    Asked m (w = i.val) (fun _ j => i.schema.decode j i.schema.zero = some w) ↔
      Asked m (i.kept = some i.val) (fun k j => i.Takes (placingOf i k j) j) := by
  refine asked_congr ?_ ?_
  · intro hm
    rw [← hserved.unmentioned hm,h,Option.some.injEq]
  · intro k j hm
    obtain ⟨harrive,hsent⟩ := hserved.mentioned k j hm
    exact Item.takes_iff hleaf hsent (harrive.symm.trans h)

theorem Fields.edited_iff {aliases : List Alias} {patch es : Json.Entries} {fs : Fields}
    {before after : fs.Vals} {placingOf : Item → String → Json → Placing} (hflat : fs.Flat)
    (h : fs.decode fs.names es fs.zero = some after)
    (hserved : ∀ i ∈ fs.items before,
      i.Served fs.names es (mentions aliases fs.names i.tag.name patch) placingOf) :
    fs.Edited aliases patch before after ↔ fs.Taken aliases placingOf patch before := by
  refine fs.pairs_iff before after h fun i hi w hw => ?_
  rw [receive_eq_settle (hflat.dash before i hi)] at hw
  exact (hserved i hi).leaf_iff (hflat.leaf before i hi) hw

end Pairs

end PrismGateway.Lib
