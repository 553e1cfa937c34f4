import PrismGateway.Lib.Rekeying

namespace PrismGateway.Lib

structure Item where
  tag : Tag
  schema : Schema
  val : schema.Val

def Fields.items : (fs : Fields) → fs.Vals → List Item
  | .nil, _ => []
  | .cons tag s rest, v => ⟨tag,s,v.1⟩ :: rest.items v.2

def Item.sent (i : Item) : Bool := !(i.tag.dash || (i.tag.omitempty && i.schema.isEmpty i.val))

def Item.entry (i : Item) : String × Json := (i.tag.name,i.schema.encode i.val)

theorem Fields.emit_eq_items : (fs : Fields) → (v : fs.Vals) →
    fs.emit v = ((fs.items v).filter Item.sent).map Item.entry
  | .nil, _ => by simp [Fields.emit,Fields.items]
  | .cons tag s rest, v => by
    have ih := rest.emit_eq_items v.2
    by_cases h : (tag.dash || (tag.omitempty && s.isEmpty v.1)) = true
    · simp [Fields.emit,Fields.items,Item.sent,h,ih]
    · simp [Fields.emit,Fields.items,Item.sent,Item.entry,h,ih]

theorem Fields.names_eq_items : (fs : Fields) → (v : fs.Vals) →
    fs.names = ((fs.items v).filter (fun i => !i.tag.dash)).map (fun i => i.tag.name)
  | .nil, _ => by simp [Fields.names,Fields.items]
  | .cons tag s rest, v => by
    have ih := rest.names_eq_items v.2
    cases h : tag.dash with
    | true => simp [Fields.names,Fields.items,h,ih]
    | false => simp [Fields.names,Fields.items,h,ih]

def Fields.all (p : Tag → Schema → Bool) : Fields → Bool
  | .nil => true
  | .cons tag s rest => p tag s && rest.all p

theorem Fields.all_items {p : Tag → Schema → Bool} : (fs : Fields) → fs.all p = true →
    (v : fs.Vals) → ∀ i ∈ fs.items v, p i.tag i.schema = true
  | .nil, _, _ => fun _ hi => absurd hi List.not_mem_nil
  | .cons _ _ rest, h, v => by
    obtain ⟨hhead,hrest⟩ := Bool.and_eq_true_iff.mp h
    exact List.forall_mem_cons.mpr ⟨hhead,rest.all_items hrest v.2⟩

theorem bind_pair_eq_some {α β : Type} {a : Option α} {b : Option β} {p : α × β} :
    (a.bind fun x => b.bind fun y => some (x,y)) = some p ↔ a = some p.1 ∧ b = some p.2 := by
  rcases p with ⟨x,y⟩
  cases a with
  | none => simp
  | some x' =>
    cases b with
    | none => simp
    | some y' => simp

theorem Fields.mem_names_of_mem_items {fs : Fields} {v : fs.Vals} {i : Item} (hi : i ∈ fs.items v)
    (hd : i.tag.dash = false) : i.tag.name ∈ fs.names := by
  rw [fs.names_eq_items v]
  exact List.mem_map_of_mem (List.mem_filter.mpr ⟨hi,by simp [hd]⟩)

theorem Fields.decode_eq_some (names : List String) (es : Json.Entries) : (fs : Fields) →
    (v : fs.Vals) → (fs.decode names es fs.zero = some v ↔ ∀ i ∈ fs.items v,
      receive i.schema.decode names i.tag es i.schema.zero = some i.val)
  | .nil, _ => by
    refine ⟨fun _ i hi => absurd hi List.not_mem_nil,fun _ => rfl⟩
  | .cons tag s rest, v => by
    have ih := rest.decode_eq_some names es v.2
    rw [Fields.items,List.forall_mem_cons,← ih,Fields.decode]
    exact bind_pair_eq_some

mutual

def Schema.Survives (key : String → String) : (s : Schema) → s.Val → Prop
  | .int, i => Json.ExactInt i
  | .ptr s, p => ∀ v, p = some v → s.Survives key v
  | .slice s, l => ∀ v, List.Mem v l → s.Survives key v
  | .dict s, m => ∀ e ∈ m.val, key e.1 = e.1 ∧ s.Survives key e.2
  | .struct aliases fs, v => fs.Survive key (lands key aliases fs.names) v
  | .bool, _ => True
  | .float, _ => True
  | .str, _ => True

def Fields.Survive (key : String → String) (landed : Tag → Bool) : (fs : Fields) → fs.Vals → Prop
  | .nil, _ => True
  | .cons tag s rest, v =>
    (if landed tag then s.Survives key v.1 else v.1 = s.zero) ∧ rest.Survive key landed v.2

end

def Schema.isPtr : Schema → Bool
  | .ptr _ => true
  | _ => false

mutual

def Schema.fits (key : String → String) : Schema → Bool
  | .ptr s => !s.isPtr && s.fits key
  | .slice s => s.fits key
  | .dict s => s.fits key
  | .struct aliases fs => structFits key aliases fs.names && fs.fits key
  | .bool => true
  | .int => true
  | .float => true
  | .str => true

def Fields.fits (key : String → String) : Fields → Bool
  | .nil => true
  | .cons _ s rest => s.fits key && rest.fits key

end

/-- A schema whose field names stay apart under `key`. -/
structure Document (key : String → String) where
  schema : Schema
  fits : schema.fits key = true

theorem Item.not_dash_of_sent {i : Item} (h : i.sent = true) : i.tag.dash = false := by
  simp only [Item.sent,Bool.not_eq_true',Bool.or_eq_false_iff] at h
  exact h.1

theorem filter_sent_sublist (l : List Item) :
    (l.filter Item.sent).Sublist (l.filter (fun i => !i.tag.dash)) :=
  List.monotone_filter_right l fun _ h => by simp [Item.not_dash_of_sent h]

theorem Fields.emit_sublist (fs : Fields) (v : fs.Vals) :
    ((fs.emit v).map Prod.fst).Sublist fs.names := by
  rw [fs.emit_eq_items v,fs.names_eq_items v,List.map_map]
  exact (filter_sent_sublist _).map _

theorem filter_entries_sent {l : List Item} {i : Item}
    (hnodup : ((l.filter (fun i => !i.tag.dash)).map (fun i => i.tag.name)).Nodup)
    (hi : i ∈ l) (hd : i.tag.dash = false) :
    ((l.filter Item.sent).map Item.entry).filter (fun e => e.1 = i.tag.name) =
      (if i.sent then some (i.schema.encode i.val) else none).toList.map (fun j => (i.tag.name,j)) := by
  induction l with
  | nil => cases hi
  | cons a l ih =>
    cases ha : a.tag.dash with
    | true =>
      have hsent : a.sent = false := by simp [Item.sent,ha]
      have hil : i ∈ l := by
        rcases List.mem_cons.mp hi with rfl | h
        · rw [ha] at hd
          cases hd
        · exact h
      simp only [List.filter_cons,ha,Bool.not_true,Bool.false_eq_true,if_false] at hnodup
      simpa [List.filter_cons,hsent] using ih hnodup hil
    | false =>
      simp only [List.filter_cons,ha,Bool.not_false,if_true,List.map_cons,List.nodup_cons] at hnodup
      have hother : ∀ b ∈ l, b.tag.dash = false → a.tag.name ≠ b.tag.name := by
        intro b hb hbd heq
        exact hnodup.1 (heq ▸ List.mem_map_of_mem (List.mem_filter.mpr ⟨hb,by simp [hbd]⟩))
      rcases List.mem_cons.mp hi with rfl | hil
      · have hrest : ((l.filter Item.sent).map Item.entry).filter (fun e => e.1 = i.tag.name) = [] := by
          rw [List.filter_eq_nil_iff]
          intro e he
          obtain ⟨b,hb,rfl⟩ := List.mem_map.mp he
          obtain ⟨hbl,hbs⟩ := List.mem_filter.mp hb
          simp [Item.entry,Ne.symm (hother b hbl (Item.not_dash_of_sent hbs))]
        cases hs : i.sent with
        | true =>
          simp only [List.filter_cons,hs,if_true,List.map_cons,Item.entry,decide_true] at hrest ⊢
          rw [hrest]
          rfl
        | false => simpa [List.filter_cons,hs] using hrest
      · have hne := hother i hil hd
        cases hs : a.sent with
        | true => simpa [List.filter_cons,hs,Item.entry,hne] using ih hnodup.2 hil
        | false => simpa [List.filter_cons,hs] using ih hnodup.2 hil

theorem Fields.filter_emit {fs : Fields} {v : fs.Vals} {i : Item} (hnodup : fs.names.Nodup)
    (hi : i ∈ fs.items v) (hd : i.tag.dash = false) :
    (fs.emit v).filter (fun e => e.1 = i.tag.name) =
      (if i.sent then some (i.schema.encode i.val) else none).toList.map (fun j => (i.tag.name,j)) := by
  rw [fs.emit_eq_items v]
  exact filter_entries_sent (by rwa [fs.names_eq_items v] at hnodup) hi hd

theorem Fields.survive_iff (key : String → String) (landed : Tag → Bool) : (fs : Fields) →
    (v : fs.Vals) → (fs.Survive key landed v ↔ ∀ i ∈ fs.items v,
      if landed i.tag then i.schema.Survives key i.val else i.val = i.schema.zero)
  | .nil, _ => by simp [Fields.Survive,Fields.items]
  | .cons tag s rest, v => by
    rw [Fields.Survive,Fields.items,List.forall_mem_cons,rest.survive_iff key landed v.2]

theorem Schema.eq_zero_of_isEmpty {s : Schema} {v : s.Val} (h : s.isEmpty v = true) :
    v = s.zero := by
  cases s with
  | bool => exact (Bool.not_eq_true' v).mp h
  | int => exact Int.natAbs_eq_zero.mp (of_decide_eq_true h)
  | float => exact Subtype.ext (of_decide_eq_true h)
  | str => exact String.isEmpty_iff.mp h
  | ptr s => exact Option.isNone_iff_eq_none.mp h
  | slice s => exact List.isEmpty_iff.mp h
  | dict s => exact Subtype.ext (List.isEmpty_iff.mp h)
  | struct aliases fs => simp [Schema.isEmpty] at h

theorem Schema.survives_of_isEmpty {key : String → String} {s : Schema} {v : s.Val}
    (h : s.isEmpty v = true) : s.Survives key v := by
  have hz := Schema.eq_zero_of_isEmpty h
  subst hz
  cases s with
  | bool => trivial
  | int => exact (by decide : Json.ExactInt 0)
  | float => trivial
  | str => trivial
  | ptr s =>
    intro v hv
    cases hv
  | slice s =>
    intro v hv
    cases hv
  | dict s =>
    intro e he
    cases he
  | struct aliases fs => cases h

theorem Schema.encode_ne_null {s : Schema} (h : s.isPtr = false) (v : s.Val) :
    s.encode v ≠ .null := by
  intro heq
  cases s with
  | ptr s => cases h
  | _ => cases heq

theorem rekey_ne_null {key : String → String} {iter : Json.Entries → Json.Entries} {j : Json}
    (h : j ≠ .null) : Json.rekey key iter j ≠ .null := by
  cases j with
  | null => exact absurd rfl h
  | _ => simp

theorem mapM_map_eq_some {α β : Type} {f : α → β} {g : β → Option α} {l : List α} :
    (l.map f).mapM g = some l ↔ ∀ x ∈ l, g (f x) = some x := by
  induction l with
  | nil => simp
  | cons a l ih =>
    rw [List.map_cons,List.mapM_cons,List.forall_mem_cons,← ih]
    cases ha : g (f a) with
    | none => simp
    | some b =>
      cases hl : (l.map f).mapM g with
      | none => simp
      | some bs => simp

theorem keys_mapM {β γ : Type} {g : β → Option γ} {es : List (String × β)} :
    ∀ {l : List (String × γ)}, es.mapM (fun e => (g e.2).map (fun x => (e.1,x))) = some l →
      l.map Prod.fst = es.map Prod.fst := by
  induction es with
  | nil => simp
  | cons e es ih =>
    intro l h
    rw [List.mapM_cons] at h
    cases he : g e.2 with
    | none => simp [he] at h
    | some x =>
      cases hl : es.mapM (fun e => (g e.2).map (fun x => (e.1,x))) with
      | none => simp [he,hl] at h
      | some xs =>
        simp only [he,hl,Option.map_some,Option.pure_def,Option.bind_eq_bind,Option.bind_some,
          Option.some.injEq] at h
        rw [← h,List.map_cons,List.map_cons,ih hl]

section RoundTrip

variable {key : String → String} {iter : Json.Entries → Json.Entries}

def Schema.RoundTrips (key : String → String) (iter : Json.Entries → Json.Entries) (s : Schema)
    (v : s.Val) : Prop :=
  s.decode (Json.rekey key iter (s.encode v)) s.zero = some v

theorem roundTrips_ptr {s : Schema} (hs : s.isPtr = false)
    (ih : ∀ v, s.RoundTrips key iter v ↔ s.Survives key v) (p : Option s.Val) :
    (Schema.ptr s).RoundTrips key iter p ↔ ∀ v, p = some v → s.Survives key v := by
  cases p with
  | none => exact ⟨fun _ v hv => (by cases hv),fun _ => rfl⟩
  | some v =>
    have hne : Json.rekey key iter (s.encode v) ≠ .null := rekey_ne_null (s.encode_ne_null hs v)
    have hdecode : (Schema.ptr s).decode (Json.rekey key iter (s.encode v)) none =
        (s.decode (Json.rekey key iter (s.encode v)) s.zero).map some := Schema.decode_ptr hne none
    have hsurvives : (∀ w, some v = some w → s.Survives key w) ↔ s.Survives key v :=
      ⟨fun h => h v rfl,fun h w hw => Option.some.inj hw ▸ h⟩
    have hmap : (s.decode (Json.rekey key iter (s.encode v)) s.zero).map some = some (some v) ↔
        s.RoundTrips key iter v := by
      rw [Option.map_eq_some_iff]
      simp [Schema.RoundTrips]
    rw [hsurvives,← ih v]
    exact (Eq.congr_left hdecode).trans hmap

theorem roundTrips_slice {s : Schema} (ih : ∀ v, s.RoundTrips key iter v ↔ s.Survives key v)
    (l : List s.Val) :
    (Schema.slice s).RoundTrips key iter l ↔ ∀ v ∈ l, s.Survives key v := by
  have hdecode : (Schema.slice s).decode (Json.rekey key iter ((Schema.slice s).encode l)) [] =
      (l.map (fun v => Json.rekey key iter (s.encode v))).mapM (fun j => s.decode j s.zero) := by
    rw [Schema.encode_slice,Json.rekey_arr,Schema.decode_slice,List.map_map]
    rfl
  change (Schema.slice s).decode (Json.rekey key iter ((Schema.slice s).encode l)) [] = some l ↔ _
  rw [hdecode]
  refine mapM_map_eq_some.trans ?_
  exact forall_congr' fun v => forall_congr' fun _ => ih v

theorem decode_dict_eq_some {s : Schema} {es : Json.Entries} (hs : GoMap.Sorted es)
    (m : {l : List (String × s.Val) // GoMap.Sorted l}) :
    (Schema.dict s).decode (.obj es) (⟨[],List.Pairwise.nil⟩ : {l // GoMap.Sorted l}) = some m ↔
      es.mapM (fun e => (s.decode e.2 s.zero).map (fun x => (e.1,x))) = some m.val := by
  rw [Schema.decode_dict]
  cases hl : es.mapM (fun e => (s.decode e.2 s.zero).map (fun x => (e.1,x))) with
  | none => simp
  | some l =>
    have hsorted : GoMap.Sorted l := by
      have hkeys : (l.map Prod.fst).Pairwise (· < ·) := by
        rw [keys_mapM (g := fun j => s.decode j s.zero) hl]
        exact List.Pairwise.map _ (fun _ _ h => h) hs
      exact List.pairwise_map.mp hkeys
    have hofList : GoMap.ofList l = l := GoMap.ofList_eq_of_perm hsorted (List.Perm.refl _)
    simp only [Option.bind_some,List.nil_append,Option.some.injEq,hofList]
    exact Option.some_inj.trans Subtype.ext_iff

theorem roundTrips_dict (hkey : ∀ k, key (key k) = key k) (hiter : ∀ l, (iter l).Perm l)
    {s : Schema} (ih : ∀ v, s.RoundTrips key iter v ↔ s.Survives key v)
    (m : {l : List (String × s.Val) // GoMap.Sorted l}) :
    (Schema.dict s).RoundTrips key iter m ↔ ∀ e ∈ m.val, key e.1 = e.1 ∧ s.Survives key e.2 := by
  have hdecode : (Schema.dict s).RoundTrips key iter m ↔
      (Json.arrivals key iter (m.val.map (fun e => (e.1,s.encode e.2)))).mapM
        (fun e => (s.decode e.2 s.zero).map (fun x => (e.1,x))) = some m.val := by
    rw [← decode_dict_eq_some (Json.sorted_arrivals _),← Json.rekey_obj]
    exact Iff.rfl
  have hvalues (hfixed : ∀ e ∈ m.val, key e.1 = e.1) :
      (Json.arrivals key iter (m.val.map (fun e => (e.1,s.encode e.2)))).mapM
        (fun e => (s.decode e.2 s.zero).map (fun x => (e.1,x))) = some m.val ↔
        ∀ e ∈ m.val, s.Survives key e.2 := by
    have hfixed' : ∀ e ∈ m.val.map (fun e => (e.1,s.encode e.2)), key e.1 = e.1 := by
      intro e he
      obtain ⟨e',he',rfl⟩ := List.mem_map.mp he
      exact hfixed e' he'
    rw [Json.arrivals_eq_of_fixed hiter (m.property.map _) hfixed',List.map_map,mapM_map_eq_some]
    refine forall_congr' fun e => forall_congr' fun _ => ?_
    rw [← ih e.2,Schema.RoundTrips,Option.map_eq_some_iff]
    exact ⟨fun ⟨v,hv,heq⟩ => (by rw [← heq] at hv ⊢; exact hv),fun h => ⟨e.2,h,rfl⟩⟩
  rw [hdecode]
  constructor
  · intro h
    -- every key that comes back is an image of `key`, hence fixed by it
    have hfixed : ∀ e ∈ m.val, key e.1 = e.1 := by
      intro e he
      have hmem : e.1 ∈ m.val.map Prod.fst := List.mem_map_of_mem he
      rw [keys_mapM (g := fun j => s.decode j s.zero) h,Json.mem_keys_arrivals hiter] at hmem
      obtain ⟨e',_,heq⟩ := hmem
      rw [← heq,hkey]
    exact fun e he => ⟨hfixed e he,(hvalues hfixed).mp h e he⟩
  · intro h
    exact (hvalues fun e he => (h e he).1).mpr fun e he => (h e he).2

def Fields.sent (fs : Fields) (keep : String → Bool) (v : fs.Vals) : Json.Entries :=
  (fs.emit v).filter (fun e => keep e.1)

theorem Fields.filter_sent {fs : Fields} {keep : String → Bool} {v : fs.Vals} {i : Item}
    (hnodup : fs.names.Nodup) (hi : i ∈ fs.items v) (hd : i.tag.dash = false) :
    (fs.sent keep v).filter (fun e => e.1 = i.tag.name) =
      (if keep i.tag.name && i.sent then some (i.schema.encode i.val) else none).toList.map
        (fun j => (i.tag.name,j)) := by
  rw [Fields.sent,List.filter_comm,Fields.filter_emit hnodup hi hd]
  cases hk : keep i.tag.name with
  | true => cases i.sent <;> simp [hk]
  | false => cases i.sent <;> simp [hk]

theorem Fields.receive_eq (hiter : ∀ l, (iter l).Perm l) {aliases : List Alias} {fs : Fields}
    (hfits : structFits key aliases fs.names = true) {keep : String → Bool} {v : fs.Vals} {i : Item}
    (hi : i ∈ fs.items v) (f : String → Json → Json) (x : i.schema.Val) :
    receive i.schema.decode fs.names i.tag
        (amend f (incoming key iter aliases (fs.sent keep v))) x =
      if lands key aliases fs.names i.tag && (keep i.tag.name && i.sent) then
        i.schema.decode (f (arrive key aliases i.tag.name)
          (Json.rekey key iter (i.schema.encode i.val))) x
      else some x := by
  cases hd : i.tag.dash with
  | true => simp [receive,lands,hd]
  | false =>
    have hnodup : fs.names.Nodup := by
      simp only [structFits,Bool.and_eq_true,decide_eq_true_eq] at hfits
      exact hfits.1.1.1
    have hsublist : ((fs.sent keep v).map Prod.fst).Sublist fs.names :=
      (List.filter_sublist.map _).trans (fs.emit_sublist v)
    rw [receive_incoming i.schema.decode hiter hfits hsublist.subset (hsublist.nodup hnodup)
      (Fields.filter_sent hnodup hi hd)]
    cases lands key aliases fs.names i.tag with
    | false => rfl
    | true => cases keep i.tag.name && i.sent <;> rfl

theorem Fields.receive_iff (hiter : ∀ l, (iter l).Perm l) {aliases : List Alias} {fs : Fields}
    (hfits : structFits key aliases fs.names = true) {keep : String → Bool} {v : fs.Vals} {i : Item}
    (hi : i ∈ fs.items v) (hkeep : keep i.tag.name = true) {f : String → Json → Json}
    (hf : ∀ j, f (arrive key aliases i.tag.name) (Json.rekey key iter j) = Json.rekey key iter j)
    (ih : i.schema.RoundTrips key iter i.val ↔ i.schema.Survives key i.val) :
    receive i.schema.decode fs.names i.tag
        (amend f (incoming key iter aliases (fs.sent keep v))) i.schema.zero = some i.val ↔
      if lands key aliases fs.names i.tag then i.schema.Survives key i.val
      else i.val = i.schema.zero := by
  rw [Fields.receive_eq hiter hfits hi,hf,hkeep,Bool.true_and]
  cases hlands : lands key aliases fs.names i.tag with
  | false => simp [eq_comm]
  | true =>
    cases hsent : i.sent with
    | true => simpa [Schema.RoundTrips] using ih
    | false =>
      have hd : i.tag.dash = false := by
        simp only [lands,Bool.and_eq_true,Bool.not_eq_true'] at hlands
        exact hlands.1
      have hempty : i.schema.isEmpty i.val = true := by
        simp only [Item.sent,hd,Bool.false_or,Bool.not_eq_false',Bool.and_eq_true] at hsent
        exact hsent.2
      simp [Schema.survives_of_isEmpty hempty,← Schema.eq_zero_of_isEmpty hempty]

theorem roundTrips_struct (hiter : ∀ l, (iter l).Perm l) {aliases : List Alias} {fs : Fields}
    (hfits : structFits key aliases fs.names = true) (v : fs.Vals)
    (ih : ∀ i ∈ fs.items v, (i.schema.RoundTrips key iter i.val ↔ i.schema.Survives key i.val)) :
    (Schema.struct aliases fs).RoundTrips key iter v ↔
      fs.Survive key (lands key aliases fs.names) v := by
  have hsent : fs.sent (fun _ => true) v = fs.emit v := List.filter_true _
  have hdecode : (Schema.struct aliases fs).RoundTrips key iter v ↔
      fs.decode fs.names (amend (fun _ j => j)
        (incoming key iter aliases (fs.sent (fun _ => true) v))) fs.zero = some v := by
    rw [hsent,amend,List.map_id'',incoming,← Schema.decode_struct aliases fs,← Json.rekey_obj]
    · exact Iff.rfl
    · exact fun _ => rfl
  rw [hdecode,fs.decode_eq_some,fs.survive_iff]
  exact forall_congr' fun i => forall_congr' fun hi =>
    Fields.receive_iff hiter hfits hi rfl (fun _ => rfl) (ih i hi)

mutual

theorem Schema.roundTrips_iff (hkey : ∀ k, key (key k) = key k) (hiter : ∀ l, (iter l).Perm l) :
    (s : Schema) → s.fits key = true → (v : s.Val) →
      (s.RoundTrips key iter v ↔ s.Survives key v)
  | .bool, _, _ => ⟨fun _ => trivial,fun _ => rfl⟩
  | .int, _, _ => Iff.rfl
  | .float, _, x => ⟨fun _ => trivial,fun _ => Json.Number.ofFloat_val x⟩
  | .str, _, _ => ⟨fun _ => trivial,fun _ => rfl⟩
  | .ptr s, h, p => by
    simp only [Schema.fits,Bool.and_eq_true,Bool.not_eq_true'] at h
    exact roundTrips_ptr h.1 (s.roundTrips_iff hkey hiter h.2) p
  | .slice s, h, l => roundTrips_slice (s.roundTrips_iff hkey hiter h) l
  | .dict s, h, m => roundTrips_dict hkey hiter (s.roundTrips_iff hkey hiter h) m
  | .struct aliases fs, h, v => by
    simp only [Schema.fits,Bool.and_eq_true] at h
    exact roundTrips_struct hiter h.1 v (fs.roundTrips_iff hkey hiter h.2 v)

theorem Fields.roundTrips_iff (hkey : ∀ k, key (key k) = key k) (hiter : ∀ l, (iter l).Perm l) :
    (fs : Fields) → fs.fits key = true → (v : fs.Vals) → ∀ i ∈ fs.items v,
      (i.schema.RoundTrips key iter i.val ↔ i.schema.Survives key i.val)
  | .nil, _, _ => by simp [Fields.items]
  | .cons tag s rest, h, v => by
    simp only [Fields.fits,Bool.and_eq_true] at h
    rw [Fields.items,List.forall_mem_cons]
    exact ⟨s.roundTrips_iff hkey hiter h.1 v.1,rest.roundTrips_iff hkey hiter h.2 v.2⟩

end

def Fields.keepOnly (keep : String → Bool) : (fs : Fields) → fs.Vals → fs.Vals
  | .nil, v => v
  | .cons tag s rest, v => (if keep tag.name then v.1 else s.zero,rest.keepOnly keep v.2)

def Item.keepOnly (keep : String → Bool) (i : Item) : Item :=
  ⟨i.tag,i.schema,if keep i.tag.name then i.val else i.schema.zero⟩

theorem Fields.items_keepOnly (keep : String → Bool) : (fs : Fields) → (v : fs.Vals) →
    fs.items (fs.keepOnly keep v) = (fs.items v).map (Item.keepOnly keep)
  | .nil, _ => rfl
  | .cons tag s rest, v =>
    congrArg (List.cons (Item.keepOnly keep ⟨tag,s,v.1⟩)) (rest.items_keepOnly keep v.2)

theorem Fields.keepOnly_eq_self {keep : String → Bool} : (fs : Fields) →
    fs.all (fun tag _ => keep tag.name) = true → (v : fs.Vals) → fs.keepOnly keep v = v
  | .nil, _, _ => rfl
  | .cons _ _ rest, h, v => by
    obtain ⟨hhead,hrest⟩ := Bool.and_eq_true_iff.mp h
    exact Prod.ext (if_pos hhead) (rest.keepOnly_eq_self hrest v.2)

theorem Fields.decode_kept_iff (hkey : ∀ k, key (key k) = key k) (hiter : ∀ l, (iter l).Perm l)
    {aliases : List Alias} {fs : Fields} (hfits : (Schema.struct aliases fs).fits key = true)
    (keep : String → Bool) (v : fs.Vals) :
    fs.decode fs.names (incoming key iter aliases (fs.sent keep v)) fs.zero =
        some (fs.keepOnly keep v) ↔
      ∀ i ∈ fs.items v, keep i.tag.name = true →
        if lands key aliases fs.names i.tag then i.schema.Survives key i.val
        else i.val = i.schema.zero := by
  simp only [Schema.fits,Bool.and_eq_true] at hfits
  have hid : incoming key iter aliases (fs.sent keep v) =
      amend (fun _ j => j) (incoming key iter aliases (fs.sent keep v)) := (List.map_id _).symm
  rw [fs.decode_eq_some,fs.items_keepOnly,List.forall_mem_map,hid]
  refine forall_congr' fun i => forall_congr' fun hi => ?_
  cases hkeep : keep i.tag.name with
  | true =>
    have hval : (i.keepOnly keep).val = i.val := if_pos hkeep
    rw [hval]
    refine (Fields.receive_iff hiter hfits.1 hi hkeep (fun _ => rfl)
      (fs.roundTrips_iff hkey hiter hfits.2 v i hi)).trans ?_
    simp
  | false =>
    have hval : (i.keepOnly keep).val = i.schema.zero := if_neg (by simp [hkeep])
    rw [hval]
    refine ⟨fun _ h => (by cases h),fun _ => ?_⟩
    refine (Fields.receive_eq hiter hfits.1 hi _ _).trans (if_neg ?_)
    simp [hkeep]

end RoundTrip

mutual

def Schema.Keeps (key : String → String) : (s : Schema) → s.Val → Prop
  | .int, i => Json.ExactInt i
  | .ptr s, p => ∀ v, p = some v → s.Keeps key v
  | .slice s, l => ∀ v, List.Mem v l → s.Keeps key v
  | .dict s, m => ∀ e ∈ m.val, key e.1 = e.1 ∧ s.Keeps key e.2
  | .struct _ fs, v => fs.Keep key v
  | .bool, _ => True
  | .float, _ => True
  | .str, _ => True

def Fields.Keep (key : String → String) : (fs : Fields) → fs.Vals → Prop
  | .nil, _ => True
  | .cons _ s rest, v => s.Keeps key v.1 ∧ rest.Keep key v.2

end

mutual

def Schema.decidableKeeps (key : String → String) : (s : Schema) → (v : s.Val) →
    Decidable (s.Keeps key v)
  | .int, i => (inferInstance : ∀ i : Int, Decidable (Json.ExactInt i)) i
  | .ptr _, none => .isTrue fun _ h => nomatch h
  | .ptr s, some v => match s.decidableKeeps key v with
    | .isTrue h => .isTrue fun _ hv => Option.some.inj hv ▸ h
    | .isFalse h => .isFalse fun hall => h (hall v rfl)
  | .slice s, l =>
    have := s.decidableKeeps key
    (inferInstance : ∀ l : List s.Val, Decidable (∀ v ∈ l, s.Keeps key v)) l
  | .dict s, m =>
    have := s.decidableKeeps key
    inferInstanceAs (Decidable (∀ e ∈ m.val, key e.1 = e.1 ∧ s.Keeps key e.2))
  | .struct _ fs, v => fs.decidableKeep key v
  | .bool, _ => .isTrue trivial
  | .float, _ => .isTrue trivial
  | .str, _ => .isTrue trivial

def Fields.decidableKeep (key : String → String) : (fs : Fields) → (v : fs.Vals) →
    Decidable (fs.Keep key v)
  | .nil, _ => .isTrue trivial
  | .cons _ s rest, v =>
    have := s.decidableKeeps key v.1
    have := rest.decidableKeep key v.2
    inferInstanceAs (Decidable (_ ∧ _))

end

instance (key : String → String) (s : Schema) (v : s.Val) : Decidable (s.Keeps key v) :=
  s.decidableKeeps key v

mutual

def Schema.allLand (key : String → String) : Schema → Bool
  | .ptr s => s.allLand key
  | .slice s => s.allLand key
  | .dict s => s.allLand key
  | .struct aliases fs => fs.allLand key (lands key aliases fs.names)
  | .bool => true
  | .int => true
  | .float => true
  | .str => true

def Fields.allLand (key : String → String) (landed : Tag → Bool) : Fields → Bool
  | .nil => true
  | .cons tag s rest => landed tag && s.allLand key && rest.allLand key landed

end

mutual

theorem Schema.survives_iff_keeps {key : String → String} : (s : Schema) → s.allLand key = true →
    (v : s.Val) → (s.Survives key v ↔ s.Keeps key v)
  | .bool, _, _ => Iff.rfl
  | .int, _, _ => Iff.rfl
  | .float, _, _ => Iff.rfl
  | .str, _, _ => Iff.rfl
  | .ptr s, h, _ => forall_congr' fun v => forall_congr' fun _ => s.survives_iff_keeps h v
  | .slice s, h, _ => forall_congr' fun v => forall_congr' fun _ => s.survives_iff_keeps h v
  | .dict s, h, _ => forall_congr' fun e => forall_congr' fun _ =>
      and_congr_right fun _ => s.survives_iff_keeps h e.2
  | .struct _ fs, h, v => fs.survive_iff_keep h v

theorem Fields.survive_iff_keep {key : String → String} {landed : Tag → Bool} : (fs : Fields) →
    fs.allLand key landed = true → (v : fs.Vals) → (fs.Survive key landed v ↔ fs.Keep key v)
  | .nil, _, _ => Iff.rfl
  | .cons tag s rest, h, v => by
    simp only [Fields.allLand,Bool.and_eq_true] at h
    rw [Fields.Survive,Fields.Keep,if_pos h.1.1,s.survives_iff_keeps h.1.2 v.1,
      rest.survive_iff_keep h.2 v.2]

end

theorem Fields.keep_iff (key : String → String) : (fs : Fields) → (v : fs.Vals) →
    (fs.Keep key v ↔ ∀ i ∈ fs.items v, i.schema.Keeps key i.val)
  | .nil, _ => ⟨fun _ i hi => absurd hi List.not_mem_nil,fun _ => trivial⟩
  | .cons _ _ rest, v => by
    rw [Fields.items,List.forall_mem_cons,← Fields.keep_iff key rest v.2]
    rfl

theorem Fields.allLand_items {key : String → String} {landed : Tag → Bool} : (fs : Fields) →
    fs.allLand key landed = true → (v : fs.Vals) → ∀ i ∈ fs.items v,
      landed i.tag = true ∧ i.schema.allLand key = true
  | .nil, _, _ => fun _ hi => absurd hi List.not_mem_nil
  | .cons _ _ rest, h, v => by
    simp only [Fields.allLand,Bool.and_eq_true] at h
    exact List.forall_mem_cons.mpr ⟨h.1,rest.allLand_items h.2 v.2⟩

section Identity

variable {iter : Json.Entries → Json.Entries}

theorem arrivals_id_eq_self (hiter : ∀ l, (iter l).Perm l) {es : Json.Entries} (hs : GoMap.Sorted es)
    (h : ∀ e ∈ es, Json.rekey id iter e.2 = e.2) : Json.arrivals id iter es = es := by
  rw [Json.arrivals_eq_of_fixed hiter hs fun _ _ => rfl]
  conv_rhs => rw [← List.map_id es]
  refine List.map_congr_left fun e he => ?_
  rw [h e he]
  rfl

mutual

theorem Schema.rekey_id_encode (hiter : ∀ l, (iter l).Perm l) : (s : Schema) → (v : s.Val) →
    Json.rekey id iter (s.encode v) = s.encode v
  | .bool, _ => Json.rekey_bool _
  | .int, _ => Json.rekey_num _
  | .float, _ => Json.rekey_num _
  | .str, _ => Json.rekey_str _
  | .ptr _, none => Json.rekey_null
  | .ptr s, some v => s.rekey_id_encode hiter v
  | .slice s, l => by
    have hitems (l : List s.Val) : (l.map s.encode).map (Json.rekey id iter) = l.map s.encode := by
      rw [List.map_map]
      exact List.map_congr_left fun v _ => s.rekey_id_encode hiter v
    exact (Json.rekey_arr _).trans (congrArg Json.arr (hitems l))
  | .dict s, m => by
    refine (Json.rekey_obj _).trans (congrArg Json.obj (arrivals_id_eq_self hiter (m.property.map _) ?_))
    intro e he
    obtain ⟨e',_,rfl⟩ := List.mem_map.mp he
    exact s.rekey_id_encode hiter e'.2
  | .struct _ fs, v => by
    refine (Json.rekey_obj _).trans (congrArg Json.obj
      (arrivals_id_eq_self hiter (GoMap.sorted_ofList _) ?_))
    intro e he
    have hemit := GoMap.mem_of_mem_ofList he
    rw [fs.emit_eq_items v] at hemit
    obtain ⟨i,hi,rfl⟩ := List.mem_map.mp hemit
    exact fs.rekey_id_encode hiter v i (List.mem_of_mem_filter hi)

theorem Fields.rekey_id_encode (hiter : ∀ l, (iter l).Perm l) : (fs : Fields) → (v : fs.Vals) →
    ∀ i ∈ fs.items v, Json.rekey id iter (i.schema.encode i.val) = i.schema.encode i.val
  | .nil, _ => fun _ hi => absurd hi List.not_mem_nil
  | .cons _ s rest, v =>
    List.forall_mem_cons.mpr ⟨s.rekey_id_encode hiter v.1,rest.rekey_id_encode hiter v.2⟩

end

theorem Schema.decode_encode_iff {s : Schema} (hfits : s.fits id = true) (hland : s.allLand id = true)
    (v : s.Val) : s.decode (s.encode v) s.zero = some v ↔ s.Keeps id v := by
  have hrekey : Json.rekey id (fun l => l) (s.encode v) = s.encode v :=
    s.rekey_id_encode List.Perm.refl v
  have hiff : s.RoundTrips id (fun l => l) v ↔ s.Survives id v :=
    s.roundTrips_iff (fun _ => rfl) List.Perm.refl hfits v
  rw [← s.survives_iff_keeps hland,← hiff,Schema.RoundTrips,hrekey]

end Identity

end PrismGateway.Lib
