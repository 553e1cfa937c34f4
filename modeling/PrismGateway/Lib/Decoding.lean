import PrismGateway.Lib.RoundTrip

namespace PrismGateway.Lib

mutual

def Schema.accepts : Schema → Json → Bool
  | .bool, j => match j with
    | .null => true
    | .bool _ => true
    | _ => false
  | .int, j => match j with
    | .null => true
    | .num x => (Json.parseInt x).isSome
    | _ => false
  | .float, j => match j with
    | .null => true
    | .num x => (Json.Number.ofFloat x).isSome
    | _ => false
  | .str, j => match j with
    | .null => true
    | .str _ => true
    | _ => false
  | .ptr s, j => match j with
    | .null => true
    | j => s.accepts j
  | .slice s, j => match j with
    | .null => true
    | .arr items => items.all s.accepts
    | _ => false
  | .dict s, j => match j with
    | .null => true
    | .obj es => es.all (fun e => s.accepts e.2)
    | _ => false
  | .struct _ fs, j => match j with
    | .null => true
    | .obj es => es.all (fun e => fs.accept (fieldFor fs.names e.1) e.2)
    | _ => false

def Fields.accept : Fields → Option String → Json → Bool
  | .nil, _, _ => true
  | .cons tag s rest, name, j =>
    (tag.dash || name ≠ some tag.name || s.accepts j) && rest.accept name j

end

mutual

def Schema.aliasFree : Schema → Bool
  | .ptr s => s.aliasFree
  | .slice s => s.aliasFree
  | .dict s => s.aliasFree
  | .struct aliases fs => aliases.isEmpty && fs.aliasFree
  | .bool => true
  | .int => true
  | .float => true
  | .str => true

def Fields.aliasFree : Fields → Bool
  | .nil => true
  | .cons _ s rest => s.aliasFree && rest.aliasFree

end

theorem isSome_mapM_iff {α β : Type} {f : α → Option β} {l : List α} :
    (l.mapM f).isSome = l.all (fun a => (f a).isSome) := by
  induction l with
  | nil => rfl
  | cons a l ih =>
    rw [List.mapM_cons,List.all_cons,← ih]
    cases f a with
    | none => rfl
    | some b => cases l.mapM f <;> rfl

theorem isSome_receive {α : Type} {decode : Json → α → Option α} {accepts : Json → Bool}
    (h : ∀ j v, (decode j v).isSome = accepts j) (names : List String) (tag : Tag)
    (es : Json.Entries) (v : α) : (receive decode names tag es v).isSome =
      (tag.dash || es.all (fun e => fieldFor names e.1 ≠ some tag.name || accepts e.2)) := by
  rw [receive]
  cases tag.dash with
  | true => rfl
  | false =>
    simp only [Bool.false_eq_true,if_false,Bool.false_or]
    induction es generalizing v with
    | nil => rfl
    | cons e es ih =>
      rw [List.filter_cons,List.all_cons]
      by_cases hname : fieldFor names e.1 = some tag.name
      · rw [if_pos (by simpa using hname),List.foldlM_cons]
        have hd := h e.2 v
        cases hv : decode e.2 v with
        | none =>
          rw [hv] at hd
          simp [hname,← hd]
        | some w =>
          rw [hv] at hd
          simp only [Option.bind_eq_bind,Option.bind_some,ih]
          simp [hname,← hd]
      · rw [if_neg (by simpa using hname),ih]
        simp [hname]

mutual

theorem Schema.isSome_decode : (s : Schema) → s.aliasFree = true → (j : Json) → (v : s.Val) →
    (s.decode j v).isSome = s.accepts j
  | .bool, _, j, v => by cases j <;> rfl
  | .int, _, j, v => by cases j <;> rfl
  | .float, _, j, v => by cases j <;> rfl
  | .str, _, j, v => by cases j <;> rfl
  | .ptr s, h, j, v => by
    by_cases hnull : j = .null
    · rw [hnull]
      rfl
    · have hptr : s.accepts j = (Schema.ptr s).accepts j := by
        cases j with
        | null => exact absurd rfl hnull
        | _ => rfl
      refine (congrArg Option.isSome (Schema.decode_ptr hnull v)).trans ?_
      exact Option.isSome_map.trans ((s.isSome_decode h j _).trans hptr)
  | .slice s, h, j, v => by
    cases j with
    | arr items =>
      refine (congrArg Option.isSome (Schema.decode_slice s items v)).trans (isSome_mapM_iff.trans ?_)
      exact congrArg items.all (funext fun j => s.isSome_decode h j s.zero)
    | _ => rfl
  | .dict s, h, j, v => by
    cases j with
    | obj es =>
      have hitems : (es.mapM (fun e => (s.decode e.2 s.zero).map (fun x => (e.1,x)))).isSome =
          es.all (fun e => s.accepts e.2) := by
        rw [isSome_mapM_iff]
        refine congrArg es.all (funext fun e => ?_)
        rw [Option.isSome_map,s.isSome_decode h e.2]
      refine (congrArg Option.isSome (Schema.decode_dict s es v)).trans (Eq.trans ?_ hitems)
      cases es.mapM (fun e => (s.decode e.2 s.zero).map (fun x => (e.1,x))) <;> rfl
    | _ => rfl
  | .struct aliases fs, h, j, v => by
    cases j with
    | obj es =>
      obtain ⟨haliases,hfs⟩ := Bool.and_eq_true_iff.mp h
      refine (congrArg Option.isSome (Schema.decode_struct aliases fs es v)).trans ?_
      rw [List.isEmpty_iff.mp haliases]
      exact fs.isSome_decode hfs fs.names es v
    | _ => rfl

theorem Fields.isSome_decode : (fs : Fields) → fs.aliasFree = true → (names : List String) →
    (es : Json.Entries) → (v : fs.Vals) →
    (fs.decode names es v).isSome = es.all (fun e => fs.accept (fieldFor names e.1) e.2)
  | .nil, _, _, es, _ => by
    exact (List.all_eq_true.mpr fun _ _ => rfl).symm
  | .cons tag s rest, h, names, es, v => by
    obtain ⟨hs,hrest⟩ := Bool.and_eq_true_iff.mp h
    have hhead := isSome_receive (fun j v => s.isSome_decode hs j v) names tag es v.1
    have htail := rest.isSome_decode hrest names es v.2
    have hall : es.all (fun e => (Fields.cons tag s rest).accept (fieldFor names e.1) e.2) =
        ((tag.dash || es.all (fun e => fieldFor names e.1 ≠ some tag.name || s.accepts e.2)) &&
          es.all (fun e => rest.accept (fieldFor names e.1) e.2)) := by
      rw [Bool.eq_iff_iff]
      simp only [Fields.accept,List.all_eq_true,Bool.and_eq_true,Bool.or_eq_true]
      constructor
      · intro hes
        refine ⟨?_,fun e he => (hes e he).2⟩
        cases htag : tag.dash with
        | true => exact .inl rfl
        | false => exact .inr fun e he => by simpa [htag] using (hes e he).1
      · rintro ⟨hfield,hes⟩ e he
        refine ⟨?_,hes e he⟩
        rcases hfield with hdash | hfield
        · exact .inl (.inl hdash)
        · exact (hfield e he).imp_left .inr
    rw [hall,← hhead,← htail,Fields.decode]
    cases receive s.decode names tag es v.1 with
    | none => rfl
    | some x => cases rest.decode names es v.2 <;> rfl

end

theorem Fields.accept_iff_items {name : Option String} {j : Json} (fs : Fields) (v : fs.Vals) :
    fs.accept name j = true ↔ ∀ i ∈ fs.items v, i.tag.dash = false → name = some i.tag.name →
      i.schema.accepts j = true := by
  cases fs with
  | nil => simp [Fields.accept,Fields.items]
  | cons tag s rest =>
    rw [Fields.accept,Bool.and_eq_true,rest.accept_iff_items v.2,Fields.items,List.forall_mem_cons]
    refine and_congr_left fun _ => ?_
    cases tag.dash with
    | true => simp
    | false =>
      by_cases hname : name = some tag.name
      · simp [hname]
      · simp [hname]

theorem Schema.accepts_null (s : Schema) : s.accepts .null = true := by
  cases s <;> rfl

theorem Schema.decode_null_zero (s : Schema) : s.decode .null s.zero = some s.zero := by
  cases s <;> rfl

theorem Fields.decode_nil (names : List String) (fs : Fields) (v : fs.Vals) :
    fs.decode names [] v = some v := by
  cases fs with
  | nil => rfl
  | cons tag s rest =>
    have hreceive : receive s.decode names tag [] v.1 = some v.1 := by
      cases htag : tag.dash <;> simp [receive,htag]
    rw [Fields.decode,hreceive,rest.decode_nil names v.2]
    rfl

/-- No key reaches a field of another name: `encoding/json` folds letter case. -/
def Plain (names : List String) (es : Json.Entries) : Prop :=
  ∀ k ∈ es.map Prod.fst, ∀ n ∈ fieldFor names k, k = n

instance (names : List String) (es : Json.Entries) : Decidable (Plain names es) :=
  inferInstanceAs (Decidable (∀ k ∈ es.map Prod.fst, ∀ n ∈ fieldFor names k, k = n))

theorem filter_key_eq {es : Json.Entries} (hnodup : (es.map Prod.fst).Nodup) (n : String) :
    es.filter (fun e => e.1 = n) = (es.lookup n).toList.map (fun j => (n,j)) := by
  induction es with
  | nil => rfl
  | cons e es ih =>
    obtain ⟨k,j⟩ := e
    obtain ⟨hk,hnodup⟩ := List.nodup_cons.mp hnodup
    rw [List.filter_cons,GoMap.lookup_cons_eq]
    by_cases h : k = n
    · have hnone : es.filter (fun e => e.1 = n) = [] := by
        rw [List.filter_eq_nil_iff]
        intro e he heq
        have hmem : e.1 ∈ es.map Prod.fst := List.mem_map_of_mem he
        rw [of_decide_eq_true heq,← h] at hmem
        exact hk hmem
      rw [if_pos (by simpa using h),if_pos h.symm,hnone,h]
      rfl
    · rw [if_neg (by simpa using h),if_neg (Ne.symm h),ih hnodup]

theorem receive_plain {α : Type} (decode : Json → α → Option α) {names : List String} {tag : Tag}
    {es : Json.Entries} (hnodup : (es.map Prod.fst).Nodup) (hplain : Plain names es)
    (hname : tag.name ∈ names) (hdash : tag.dash = false) (v : α) :
    receive decode names tag es v = (es.lookup tag.name).elim (some v) (fun j => decode j v) := by
  have hfilter : es.filter (fun e => fieldFor names e.1 = some tag.name) =
      es.filter (fun e => e.1 = tag.name) := by
    refine List.filter_congr fun e he => ?_
    rw [Bool.eq_iff_iff,decide_eq_true_eq,decide_eq_true_eq]
    constructor
    · intro hfield
      exact hplain e.1 (List.mem_map_of_mem he) tag.name hfield
    · intro heq
      rw [heq,fieldFor,if_pos hname]
  rw [receive,hdash,hfilter,filter_key_eq hnodup]
  cases es.lookup tag.name with
  | none => rfl
  | some j => simp

theorem Fields.value_at {fs : Fields} {es : Json.Entries} {v : fs.Vals}
    (h : fs.decode fs.names es fs.zero = some v) (hnodup : (es.map Prod.fst).Nodup)
    (hplain : Plain fs.names es) {i : Item} (hi : i ∈ fs.items v) (hd : i.tag.dash = false) :
    i.schema.decode ((es.lookup i.tag.name).getD .null) i.schema.zero = some i.val := by
  have hreceive := (fs.decode_eq_some fs.names es v).mp h i hi
  rw [receive_plain _ hnodup hplain (Fields.mem_names_of_mem_items hi hd) hd] at hreceive
  cases hl : es.lookup i.tag.name with
  | none =>
    rw [hl] at hreceive
    exact (Schema.decode_null_zero i.schema).trans hreceive
  | some j =>
    rw [hl] at hreceive
    exact hreceive

def entriesAt (es : Json.Entries) (k : String) : Json.Entries :=
  match es.lookup k with
  | some (.obj m) => m
  | _ => []

theorem decode_entriesAt {fs : Fields} {es : Json.Entries} {k : String} {v : fs.Vals}
    (h : (Schema.struct [] fs).decode ((es.lookup k).getD .null) fs.zero = some v) :
    fs.decode fs.names (entriesAt es k) fs.zero = some v := by
  rw [entriesAt]
  cases hl : es.lookup k with
  | none =>
    rw [hl] at h
    exact (fs.decode_nil fs.names fs.zero).trans h
  | some j =>
    rw [hl] at h
    cases j with
    | obj m => exact h
    | null => exact (fs.decode_nil fs.names fs.zero).trans h
    | _ => cases h

mutual

def Schema.readable : (s : Schema) → s.Val → Bool
  | .int, i => (Json.parseInt (Float.ofInt i)).isSome
  | .ptr _, none => true
  | .ptr s, some v => s.readable v
  | .slice s, l => List.all l s.readable
  | .dict s, m => m.val.all (fun e => s.readable e.2)
  | .struct _ fs, v => fs.readable v
  | .bool, _ => true
  | .float, _ => true
  | .str, _ => true

def Fields.readable : (fs : Fields) → fs.Vals → Bool
  | .nil, _ => true
  | .cons _ s rest, v => s.readable v.1 && rest.readable v.2

end

section Readable

variable {key : String → String} {iter : Json.Entries → Json.Entries}

theorem Fields.accepts_sent (hiter : ∀ l, (iter l).Perm l) (aliases : List Alias)
    (keep : String → Bool) {fs : Fields} {v : fs.Vals} (hfits : structFits key [] fs.names = true)
    (hitems : ∀ i ∈ fs.items v, i.schema.accepts (Json.rekey key iter (i.schema.encode i.val)) = true) :
    (Schema.struct aliases fs).accepts
      (.obj (Json.arrivals key iter (GoMap.ofList (fs.sent keep v)))) = true := by
  rw [Schema.accepts,List.all_eq_true]
  intro e he
  have hsent := (hiter _).subset (GoMap.mem_of_mem_ofList he)
  obtain ⟨entry,hentry,rfl⟩ := List.mem_map.mp hsent
  have hemit := List.mem_of_mem_filter (GoMap.mem_of_mem_ofList hentry)
  rw [fs.emit_eq_items v] at hemit
  obtain ⟨i,hi,rfl⟩ := List.mem_map.mp hemit
  obtain ⟨hitem,hisent⟩ := List.mem_filter.mp hi
  have hd := Item.not_dash_of_sent hisent
  rw [fs.accept_iff_items v]
  intro i' hi' hd' hname
  have hall := hfits
  simp only [structFits,Bool.and_eq_true,List.all_eq_true,decide_eq_true_eq] at hall
  have hfield := hall.2 i.tag.name (Fields.mem_names_of_mem_items hitem hd)
  have harrive : fieldFor fs.names (arrive key [] i.tag.name) = some i'.tag.name := hname
  rw [harrive] at hfield
  have heq : i'.tag.name = i.tag.name := by simpa using hfield
  have hnodup := hall.1.1.1
  rw [fs.names_eq_items v] at hnodup
  have hsame := List.inj_on_of_nodup_map hnodup (List.mem_filter.mpr ⟨hi',by simp [hd']⟩)
    (List.mem_filter.mpr ⟨hitem,by simp [hd]⟩) heq
  rw [hsame]
  exact hitems i hitem

mutual

theorem Schema.accepts_rekey_encode (hiter : ∀ l, (iter l).Perm l) : (s : Schema) →
    s.fits key = true → s.aliasFree = true → (v : s.Val) → s.readable v = true →
    s.accepts (Json.rekey key iter (s.encode v)) = true
  | .bool, _, _, _, _ => rfl
  | .int, _, _, _, h => h
  | .float, _, _, x, _ => congrArg Option.isSome (Json.Number.ofFloat_val x)
  | .str, _, _, _, _ => rfl
  | .ptr _, _, _, none, _ => rfl
  | .ptr s, hfits, hfree, some v, h => by
    simp only [Schema.fits,Bool.and_eq_true,Bool.not_eq_true'] at hfits
    have haccepts := s.accepts_rekey_encode hiter hfits.2 hfree v h
    rw [Schema.encode_some]
    generalize Json.rekey key iter (s.encode v) = j at haccepts
    cases j <;> first | rfl | exact haccepts
  | .slice s, hfits, hfree, l, h => by
    rw [show (Schema.slice s).encode l = .arr (List.map s.encode l) from rfl,Json.rekey_arr]
    refine List.all_eq_true.mpr fun j hj => ?_
    obtain ⟨j',hj',rfl⟩ := List.mem_map.mp hj
    obtain ⟨v,hv,rfl⟩ := List.mem_map.mp hj'
    exact s.accepts_rekey_encode hiter hfits hfree v (List.all_eq_true.mp h v hv)
  | .dict s, hfits, hfree, m, h => by
    rw [show (Schema.dict s).encode m = .obj (m.val.map (fun e => (e.1,s.encode e.2))) from rfl,
      Json.rekey_obj]
    refine List.all_eq_true.mpr fun e he => ?_
    obtain ⟨e',he',rfl⟩ := List.mem_map.mp ((hiter _).subset (GoMap.mem_of_mem_ofList he))
    obtain ⟨v,hv,rfl⟩ := List.mem_map.mp he'
    exact s.accepts_rekey_encode hiter hfits hfree v.2 (List.all_eq_true.mp h v hv)
  | .struct aliases fs, hfits, hfree, v, h => by
    obtain ⟨haliases,hfree⟩ := Bool.and_eq_true_iff.mp hfree
    obtain ⟨hstruct,hfits⟩ := Bool.and_eq_true_iff.mp hfits
    rw [List.isEmpty_iff.mp haliases] at hstruct
    have hall : fs.sent (fun _ => true) v = fs.emit v := List.filter_true _
    have haccepts := Fields.accepts_sent hiter aliases (fun _ => true) hstruct
      (fs.accepts_rekey_encode hiter hfits hfree v h)
    rw [hall] at haccepts
    rw [show (Schema.struct aliases fs).encode v = .obj (GoMap.ofList (fs.emit v)) from rfl,
      Json.rekey_obj]
    exact haccepts

theorem Fields.accepts_rekey_encode (hiter : ∀ l, (iter l).Perm l) : (fs : Fields) →
    fs.fits key = true → fs.aliasFree = true → (v : fs.Vals) → fs.readable v = true →
    ∀ i ∈ fs.items v, i.schema.accepts (Json.rekey key iter (i.schema.encode i.val)) = true
  | .nil, _, _, _, _ => by simp [Fields.items]
  | .cons tag s rest, hfits, hfree, v, h => by
    simp only [Fields.fits,Fields.aliasFree,Fields.readable,Bool.and_eq_true] at hfits hfree h
    rw [Fields.items,List.forall_mem_cons]
    exact ⟨s.accepts_rekey_encode hiter hfits.1 hfree.1 v.1 h.1,
      rest.accepts_rekey_encode hiter hfits.2 hfree.2 v.2 h.2⟩

end

end Readable

section Sent

variable {key : String → String} {iter : Json.Entries → Json.Entries} {fs : Fields} {v : fs.Vals}
  {keep : String → Bool}

theorem plain_of_subset {names : List String} {es : Json.Entries}
    (h : es.map Prod.fst ⊆ names) : Plain names es := by
  intro k hk n hn
  rw [fieldFor,if_pos (h hk)] at hn
  exact Option.some.inj hn

theorem Fields.plain_sent (hiter : ∀ l, (iter l).Perm l) (hfixed : ∀ n ∈ fs.names, key n = n)
    (keep : String → Bool) (v : fs.Vals) :
    Plain fs.names (Json.arrivals key iter (GoMap.ofList (fs.sent keep v))) := by
  refine plain_of_subset fun k hk => ?_
  obtain ⟨e,he,rfl⟩ := (Json.mem_keys_arrivals hiter).mp hk
  have hname : e.1 ∈ fs.names := (fs.emit_sublist v).subset
    (List.mem_map_of_mem (List.mem_of_mem_filter (GoMap.mem_of_mem_ofList he)))
  rwa [hfixed e.1 hname]

theorem Fields.lookup_sent (hiter : ∀ l, (iter l).Perm l) (hfits : structFits key [] fs.names = true)
    {i : Item} (hi : i ∈ fs.items v) (hd : i.tag.dash = false) (hkeep : keep i.tag.name = true)
    (hkey : key i.tag.name = i.tag.name) :
    (Json.arrivals key iter (GoMap.ofList (fs.sent keep v))).lookup i.tag.name =
      if i.sent then some (Json.rekey key iter (i.schema.encode i.val)) else none := by
  have hnodup : fs.names.Nodup := by
    simp only [structFits,Bool.and_eq_true,decide_eq_true_eq] at hfits
    exact hfits.1.1.1
  have hsublist : ((fs.sent keep v).map Prod.fst).Sublist fs.names :=
    (List.filter_sublist.map _).trans (fs.emit_sublist v)
  have hlookup := lookup_incoming hiter hfits hsublist.subset (hsublist.nodup hnodup)
    (Fields.mem_names_of_mem_items hi hd) (Fields.filter_sent hnodup hi hd)
  rw [hkey,hkeep,Bool.true_and] at hlookup
  refine hlookup.trans ?_
  split_ifs <;> rfl

def Item.arrived (key : String → String) (iter : Json.Entries → Json.Entries) (i : Item) : Json :=
  if i.sent then Json.rekey key iter (i.schema.encode i.val) else .null

theorem Item.arrived_cases (key : String → String) (iter : Json.Entries → Json.Entries) (i : Item)
    (hd : i.tag.dash = false) :
    i.arrived key iter = Json.rekey key iter (i.schema.encode i.val) ∨
      i.arrived key iter = .null ∧ i.val = i.schema.zero := by
  rw [Item.arrived]
  cases hsent : i.sent with
  | true => exact .inl rfl
  | false =>
    simp only [Item.sent,hd,Bool.false_or,Bool.not_eq_false',Bool.and_eq_true] at hsent
    exact .inr ⟨rfl,Schema.eq_zero_of_isEmpty hsent.2⟩

theorem Fields.arrived_of_sent (hiter : ∀ l, (iter l).Perm l)
    (hfits : structFits key [] fs.names = true) {i : Item} (hi : i ∈ fs.items v)
    (hd : i.tag.dash = false) (hkeep : keep i.tag.name = true) (hkey : key i.tag.name = i.tag.name) :
    ((Json.arrivals key iter (GoMap.ofList (fs.sent keep v))).lookup i.tag.name).getD .null =
      i.arrived key iter := by
  rw [Fields.lookup_sent hiter hfits hi hd hkeep hkey,Item.arrived]
  split_ifs <;> rfl

theorem Fields.entriesAt_sent (hiter : ∀ l, (iter l).Perm l)
    (hfits : structFits key [] fs.names = true) {tag : Tag} {aliases : List Alias} {inner : Fields}
    {w : inner.Vals} (hi : (⟨tag,.struct aliases inner,w⟩ : Item) ∈ fs.items v)
    (hd : tag.dash = false) (hkeep : keep tag.name = true) (hkey : key tag.name = tag.name) :
    entriesAt (Json.arrivals key iter (GoMap.ofList (fs.sent keep v))) tag.name =
      Json.arrivals key iter (GoMap.ofList (inner.sent (fun _ => true) w)) := by
  have hall : inner.sent (fun _ => true) w = inner.emit w := List.filter_true _
  have hsent : (⟨tag,.struct aliases inner,w⟩ : Item).sent = true := by
    simp [Item.sent,Schema.isEmpty,hd]
  have hlookup := Fields.lookup_sent hiter hfits hi hd hkeep hkey
  rw [if_pos hsent,Schema.encode_struct,Json.rekey_obj] at hlookup
  rw [entriesAt,hlookup,hall]

end Sent

end PrismGateway.Lib
