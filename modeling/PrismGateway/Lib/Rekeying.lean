import PrismGateway.Lib.Schema

namespace PrismGateway.Lib

variable (key : String → String) (iter : Json.Entries → Json.Entries)

def arrive (aliases : List Alias) (n : String) : String :=
  aliases.foldl (fun k a => a.rename k) (key n)

def Alias.fits (a : Alias) (keys : List String) : Bool :=
  !(keys.contains a.legacy) || (a.drop && !(keys.contains a.canonical))

def aliasesFit : List Alias → List String → Bool
  | [], _ => true
  | a :: aliases, keys => a.fits keys && aliasesFit aliases (keys.map a.rename)

def structFits (aliases : List Alias) (names : List String) : Bool :=
  decide names.Nodup && decide (names.map key).Nodup && aliasesFit aliases (names.map key) &&
    names.all (fun n => (fieldFor names (arrive key aliases n)).all (fun m => m = n))

def incoming (aliases : List Alias) (sent : Json.Entries) : Json.Entries :=
  aliases.foldl (fun es a => a.apply es) (Json.arrivals key iter (GoMap.ofList sent))

variable {key iter}

theorem Alias.rename_injective {a : Alias} {x y : String} (hx : x ≠ a.canonical)
    (hy : y ≠ a.canonical) (h : a.rename x = a.rename y) : x = y := by
  simp only [Alias.rename] at h
  split_ifs at h with h1 h2 h2
  · rw [h1.2,h2.2]
  · exact absurd h.symm hy
  · exact absurd h hx
  · exact h

theorem Alias.rename_eq_self {a : Alias} {k : String} (h : a.drop = true → k ≠ a.legacy) :
    a.rename k = k := by
  rw [Alias.rename,if_neg]
  exact fun hk => h hk.1 hk.2

theorem Alias.fits_iff {a : Alias} {keys : List String} :
    a.fits keys = true ↔ a.legacy ∉ keys ∨ a.drop = true ∧ a.canonical ∉ keys := by
  simp [Alias.fits]

theorem Alias.nodup_rename {a : Alias} {keys l : List String} (hfits : a.fits keys = true)
    (hsub : l ⊆ keys) (hnodup : l.Nodup) : (l.map a.rename).Nodup := by
  refine hnodup.map_on fun x hx y hy h => ?_
  rcases Alias.fits_iff.mp hfits with hl | ⟨_,hc⟩
  · rwa [Alias.rename_eq_self (k := x) fun _ heq => hl (heq ▸ hsub hx),
      Alias.rename_eq_self (k := y) fun _ heq => hl (heq ▸ hsub hy)] at h
  · exact Alias.rename_injective (fun heq => hc (heq ▸ hsub hx)) (fun heq => hc (heq ▸ hsub hy)) h

theorem Alias.map_rename_eq_self {a : Alias} {es : Json.Entries}
    (h : ∀ e ∈ es, a.rename e.1 = e.1) : es.map (fun e => (a.rename e.1,e.2)) = es := by
  conv_rhs => rw [← List.map_id es]
  refine List.map_congr_left fun e he => ?_
  rw [h e he]
  rfl

theorem Alias.apply_perm {a : Alias} {es : Json.Entries} {keys : List String}
    (hfits : a.fits keys = true) (hsub : es.map Prod.fst ⊆ keys) (hnodup : (es.map Prod.fst).Nodup) :
    (a.apply es).Perm (es.map (fun e => (a.rename e.1,e.2))) := by
  rw [Alias.apply]
  split_ifs with hc hd
  · have hl : a.legacy ∉ keys :=
      (Alias.fits_iff.mp hfits).resolve_right fun h => h.2 (hsub hc)
    rw [Alias.map_rename_eq_self]
    intro e he
    exact Alias.rename_eq_self fun _ heq => hl (heq ▸ hsub (List.mem_map_of_mem he))
  · refine GoMap.ofList_perm ?_
    have hmap := Alias.nodup_rename hfits hsub hnodup
    rw [List.map_map] at hmap ⊢
    exact hmap
  · have hl : a.legacy ∉ keys := (Alias.fits_iff.mp hfits).resolve_right fun h => hd h.1
    have hnone : es.lookup a.legacy = none := by
      rw [List.lookup_eq_none_iff]
      intro e he
      rw [bne_iff_ne]
      exact fun heq => hl (heq ▸ hsub (List.mem_map_of_mem he))
    rw [hnone,Alias.map_rename_eq_self]
    exact fun e _ => Alias.rename_eq_self fun h => absurd h hd

theorem aliases_perm (aliases : List Alias) : ∀ {es : Json.Entries} {keys : List String},
    aliasesFit aliases keys = true → es.map Prod.fst ⊆ keys → (es.map Prod.fst).Nodup →
      (aliases.foldl (fun es a => a.apply es) es).Perm
        (es.map (fun e => (aliases.foldl (fun k a => a.rename k) e.1,e.2))) := by
  induction aliases with
  | nil => simp
  | cons a aliases ih =>
    intro es keys hfits hsub hnodup
    obtain ⟨hfit,hfits⟩ := Bool.and_eq_true_iff.mp hfits
    have hperm := Alias.apply_perm hfit hsub hnodup
    have hkeys : ((a.apply es).map Prod.fst).Perm ((es.map Prod.fst).map a.rename) := by
      refine (hperm.map Prod.fst).trans ?_
      rw [List.map_map,List.map_map]
      exact List.Perm.refl _
    have hstep := ih hfits (fun k hk => List.map_subset a.rename hsub (hkeys.subset hk))
      (hkeys.nodup_iff.mpr (Alias.nodup_rename hfit hsub hnodup))
    refine hstep.trans ((hperm.map _).trans ?_)
    rw [List.map_map]
    exact List.Perm.refl _

theorem incoming_perm (hiter : ∀ l, (iter l).Perm l) {aliases : List Alias} {names : List String}
    {sent : Json.Entries} (hfits : structFits key aliases names = true)
    (hsub : sent.map Prod.fst ⊆ names) (hnodup : (sent.map Prod.fst).Nodup) :
    (incoming key iter aliases sent).Perm
      (sent.map (fun e => (arrive key aliases e.1,Json.rekey key iter e.2))) := by
  simp only [structFits,Bool.and_eq_true,decide_eq_true_eq] at hfits
  obtain ⟨⟨⟨_,hkeys⟩,halias⟩,_⟩ := hfits
  have hlist : (GoMap.ofList sent).Perm sent := GoMap.ofList_perm hnodup
  have hinj : (sent.map (fun e => key e.1)).Nodup := by
    have hmap := hnodup.map_on fun x hx y hy => List.inj_on_of_nodup_map hkeys (hsub hx) (hsub hy)
    rwa [List.map_map] at hmap
  have harr : (Json.arrivals key iter (GoMap.ofList sent)).Perm
      (sent.map (fun e => (key e.1,Json.rekey key iter e.2))) :=
    (Json.arrivals_perm hiter ((hlist.map _).nodup_iff.mpr hinj)).trans (hlist.map _)
  have harrKeys : ((Json.arrivals key iter (GoMap.ofList sent)).map Prod.fst).Perm
      ((sent.map Prod.fst).map key) := by
    refine (harr.map Prod.fst).trans ?_
    rw [List.map_map,List.map_map]
    exact List.Perm.refl _
  have hstep := aliases_perm aliases halias
    (fun k hk => List.map_subset key hsub (harrKeys.subset hk)) (Json.sorted_arrivals _).nodup
  refine hstep.trans ((harr.map _).trans ?_)
  rw [List.map_map]
  exact List.Perm.refl _

theorem filter_incoming (hiter : ∀ l, (iter l).Perm l) {aliases : List Alias}
    {names : List String} {sent : Json.Entries} (hfits : structFits key aliases names = true)
    (hsub : sent.map Prod.fst ⊆ names) (hnodup : (sent.map Prod.fst).Nodup) {p : String → Bool}
    {n : String} {r : Bool} (hp : ∀ m ∈ names, p (arrive key aliases m) = true ↔ m = n ∧ r = true)
    {o : Option Json} (ho : sent.filter (fun e => e.1 = n) = o.toList.map (fun j => (n,j))) :
    (incoming key iter aliases sent).filter (fun e => p e.1) =
      if r then o.toList.map (fun j => (arrive key aliases n,Json.rekey key iter j)) else [] := by
  have hperm := (incoming_perm hiter hfits hsub hnodup).filter (fun e => p e.1)
  have hfilter : sent.filter (fun e => p (arrive key aliases e.1)) =
      if r then o.toList.map (fun j => (n,j)) else [] := by
    cases r with
    | false =>
      simp only [Bool.false_eq_true,if_false,List.filter_eq_nil_iff]
      intro e he hpe
      exact Bool.false_ne_true ((hp e.1 (hsub (List.mem_map_of_mem he))).mp hpe).2
    | true =>
      simp only [if_true,← ho]
      refine List.filter_congr fun e he => ?_
      rw [Bool.eq_iff_iff,hp e.1 (hsub (List.mem_map_of_mem he))]
      simp
  rw [List.filter_map] at hperm
  simp only [Function.comp_def] at hperm
  rw [hfilter] at hperm
  cases r with
  | false => simpa using hperm
  | true =>
    cases o with
    | none => simpa using hperm
    | some j => simpa using hperm

def lands (key : String → String) (aliases : List Alias) (names : List String) (tag : Tag) : Bool :=
  !tag.dash && decide (fieldFor names (arrive key aliases tag.name) = some tag.name)

def amend (f : String → Json → Json) (es : Json.Entries) : Json.Entries :=
  es.map (fun e => (e.1,f e.1 e.2))

theorem receive_incoming {α : Type} (decode : Json → α → Option α) (hiter : ∀ l, (iter l).Perm l)
    {aliases : List Alias} {names : List String} {sent : Json.Entries}
    (hfits : structFits key aliases names = true) (hsub : sent.map Prod.fst ⊆ names)
    (hnodup : (sent.map Prod.fst).Nodup) {tag : Tag} {o : Option Json}
    (ho : sent.filter (fun e => e.1 = tag.name) = o.toList.map (fun j => (tag.name,j)))
    (f : String → Json → Json) (v : α) :
    receive decode names tag (amend f (incoming key iter aliases sent)) v =
      if lands key aliases names tag then
        o.elim (some v)
          (fun j => decode (f (arrive key aliases tag.name) (Json.rekey key iter j)) v)
      else some v := by
  cases hd : tag.dash with
  | true => simp [receive,lands,hd]
  | false =>
    have hall := hfits
    simp only [structFits,Bool.and_eq_true,List.all_eq_true] at hall
    have hp : ∀ m ∈ names,
        decide (fieldFor names (arrive key aliases m) = some tag.name) = true ↔
          m = tag.name ∧ decide (fieldFor names (arrive key aliases tag.name) = some tag.name) = true := by
      intro m hm
      simp only [decide_eq_true_eq]
      refine ⟨fun h => ?_,fun h => h.1 ▸ h.2⟩
      have hmn := hall.2 m hm
      rw [h] at hmn
      have heq : tag.name = m := by simpa using hmn
      exact ⟨heq.symm,by rw [heq] at h ⊢; exact h⟩
    have hfilter := filter_incoming hiter hfits hsub hnodup
      (p := fun k => decide (fieldFor names k = some tag.name)) hp ho
    have hamend : (amend f (incoming key iter aliases sent)).filter
        (fun e => fieldFor names e.1 = some tag.name) =
        amend f ((incoming key iter aliases sent).filter (fun e => fieldFor names e.1 = some tag.name)) := by
      rw [amend,List.filter_map]
      rfl
    simp only [receive,lands,hd,Bool.false_eq_true,if_false,hamend,hfilter]
    split_ifs with h1 h2 h2
    · cases o with
      | none => rfl
      | some j => simp [amend]
    · simp [h1] at h2
    · simp [h1] at h2
    · rfl

theorem lookup_incoming (hiter : ∀ l, (iter l).Perm l) {names : List String} {sent : Json.Entries}
    (hfits : structFits key [] names = true) (hsub : sent.map Prod.fst ⊆ names)
    (hnodup : (sent.map Prod.fst).Nodup) {n : String} (hn : n ∈ names) {o : Option Json}
    (ho : sent.filter (fun e => e.1 = n) = o.toList.map (fun j => (n,j))) :
    (incoming key iter [] sent).lookup (key n) = o.map (Json.rekey key iter) := by
  have hkeys := hfits
  simp only [structFits,Bool.and_eq_true,decide_eq_true_eq] at hkeys
  have hp : ∀ m ∈ names, decide (arrive key [] m = key n) = true ↔ m = n ∧ true = true := by
    intro m hm
    simp only [decide_eq_true_eq,and_true]
    exact ⟨fun h => List.inj_on_of_nodup_map hkeys.1.1.2 hm hn h,fun h => h ▸ rfl⟩
  have hfilter := filter_incoming hiter hfits hsub hnodup (p := fun k => decide (k = key n)) hp ho
  rw [GoMap.lookup_eq_head_filter,hfilter]
  cases o with
  | none => rfl
  | some j => rfl

theorem lookup_incoming_eq_none (hiter : ∀ l, (iter l).Perm l) {sent : Json.Entries} {k : String}
    (hk : ∀ m, key m ≠ k) : (incoming key iter [] sent).lookup k = none := by
  rw [List.lookup_eq_none_iff]
  intro e he
  rw [bne_iff_ne]
  intro heq
  obtain ⟨e',_,h⟩ := (Json.mem_keys_arrivals hiter).mp (List.mem_map_of_mem he)
  exact hk e'.1 (h.trans heq.symm)

end PrismGateway.Lib
