import PrismGateway.Lib.FieldEdit

namespace PrismGateway.Lib

def Json.isNull : Json → Bool
  | .null => true
  | _ => false

section Placings

def placing (aliases : List Alias) (names : List String) (i : Item) (k : String) (j : Json) : Placing :=
  if k = i.tag.name then .replaces
  else if j.isNull then .lost
  else if fieldFor names k = some i.tag.name then
    if i.sent then (if i.tag.name < k then .later else .earlier) else .replaces
  else if i.sent = false ∧ aliases.any (fun a => a.legacy = k && a.canonical = i.tag.name) = true then
    .replaces
  else .lost

def placingOver (names : List String) (i : Item) (k : String) (_ : Json) : Placing :=
  if fieldFor names k = some i.tag.name then .later else .lost

def placingUnder (names : List String) (i : Item) (k : String) (_ : Json) : Placing :=
  if fieldFor names k = some i.tag.name then (if i.sent then .earlier else .replaces) else .lost

def placingAlone (names : List String) (i : Item) (k : String) (_ : Json) : Placing :=
  if fieldFor names k = some i.tag.name then .replaces else .lost

def Placing.within (names : List String) (written : Bool) : Placing → Item → String → Json → Placing
  | .replaces => if written then placing [] names else placingAlone names
  | .later => placingOver names
  | .earlier => placingUnder names
  | .lost => fun _ _ _ => .lost

end Placings

def Schema.Given (spellings : List Alias) : (s : Schema) → Json → s.Val → s.Val → Prop
  | .struct _ fs, .obj es, before, after => fs.Edited spellings es before after
  | .ptr (.struct _ fs), .obj es, before, after =>
    ∃ v, after = some v ∧ fs.Edited spellings es (Option.getD before fs.zero) v
  | s, j, _, after => s.decode j s.zero = some after

def Item.Lands (spellings : List Alias) (t : Placing) (i : Item) (j : Json) : Prop :=
  match i, j with
  | ⟨_,.struct _ fs,v⟩, .obj es => fs.Taken spellings (t.within fs.names true) es v
  | ⟨_,.ptr (.struct _ fs),v⟩, .obj es =>
    fs.Taken spellings (t.within fs.names (Option.isSome v)) es (Option.getD v fs.zero)
  | i, j => i.Takes t j

section Groups

variable {fs : Fields} {spellings : List Alias} {names : List String} {tag : Tag} {es es' : Json.Entries}

theorem receive_append {α : Type} (decode : Json → α → Option α) (v : α) :
    receive decode names tag (es ++ es') v =
      (receive decode names tag es v).bind (receive decode names tag es') := by
  unfold receive
  cases tag.dash with
  | true => rfl
  | false =>
    rw [if_neg Bool.false_ne_true,if_neg Bool.false_ne_true,List.filter_append,List.foldlM_append]
    rfl

theorem bind_pair {α β γ δ : Type} (a : Option α) (b : Option β) (f : α → Option γ) (g : β → Option δ) :
    ((a.bind f).bind fun x => (b.bind g).bind fun y => some (x,y)) =
      (a.bind fun x => b.bind fun y => some (x,y)).bind
        (fun p => (f p.1).bind fun x => (g p.2).bind fun y => some (x,y)) := by
  cases a with
  | none => rfl
  | some x =>
    cases b with
    | none =>
      rw [Option.bind_some]
      cases f x <;> rfl
    | some y => rfl

theorem Fields.decode_append (names : List String) (fs : Fields) (v : fs.Vals) :
    fs.decode names (es ++ es') v = (fs.decode names es v).bind (fs.decode names es') := by
  cases fs with
  | nil => rfl
  | cons tag s rest =>
    have hhead := @receive_append names tag es es' _ s.decode v.1
    have htail := rest.decode_append names v.2
    have hpair := bind_pair (receive s.decode names tag es v.1) (rest.decode names es v.2)
      (receive s.decode names tag es') (rest.decode names es')
    rw [← hhead,← htail] at hpair
    exact hpair

theorem Fields.val_of_mem_zero : (fs : Fields) → ∀ i ∈ fs.items fs.zero, i.val = i.schema.zero
  | .nil => fun _ hi => absurd hi List.not_mem_nil
  | .cons _ _ rest => List.forall_mem_cons.mpr ⟨rfl,rest.val_of_mem_zero⟩

variable {before after : fs.Vals} {patch : Json.Entries}

theorem Fields.edited_over_iff (hflat : fs.Flat) (hapart : aliasesApart spellings fs.names = true)
    (h : fs.decode fs.names (GoMap.ofList (fs.emit before) ++ patch) fs.zero = some after) :
    fs.Edited spellings patch before after ↔ fs.Taken spellings (placingOver fs.names) patch before := by
  refine Fields.edited_iff hflat h fun i hi => ?_
  have hheld := arriving_held hflat.nodup hi (hflat.dash before i hi)
  refine ⟨fun hm => ?_,fun k j hm => ?_⟩
  · rw [arriving_append,hheld,arriving_of_unmentioned hapart hm,List.append_nil]
    rfl
  · rw [arriving_append,hheld,arriving_of_mention hapart hm,placingOver]
    split_ifs
    · exact ⟨rfl,fun h => (by cases h)⟩
    · rw [List.append_nil]
      exact ⟨rfl,fun h => (by cases h)⟩

theorem Fields.edited_under_iff (hflat : fs.Flat) (hapart : aliasesApart spellings fs.names = true)
    (h : fs.decode fs.names (patch ++ GoMap.ofList (fs.emit before)) fs.zero = some after) :
    fs.Edited spellings patch before after ↔ fs.Taken spellings (placingUnder fs.names) patch before := by
  refine Fields.edited_iff hflat h fun i hi => ?_
  have hheld := arriving_held hflat.nodup hi (hflat.dash before i hi)
  refine ⟨fun hm => ?_,fun k j hm => ?_⟩
  · rw [arriving_append,hheld,arriving_of_unmentioned hapart hm,List.nil_append]
    rfl
  · rw [arriving_append,hheld,arriving_of_mention hapart hm,placingUnder]
    by_cases hk : fieldFor fs.names k = some i.tag.name
    · rw [if_pos hk,if_pos hk]
      cases hsent : i.sent with
      | true => exact ⟨rfl,fun _ => rfl⟩
      | false =>
        have hnone : i.held = [] := by simp [Item.held,hsent]
        rw [hnone,List.append_nil]
        exact ⟨rfl,fun h => (by cases h)⟩
    · rw [if_neg hk,if_neg hk]
      exact ⟨rfl,fun h => (by cases h)⟩

theorem Fields.edited_alone_iff (hflat : fs.Flat) (hapart : aliasesApart spellings fs.names = true)
    (h : fs.decode fs.names patch fs.zero = some after) :
    fs.Edited spellings patch fs.zero after ↔
      fs.Taken spellings (placingAlone fs.names) patch fs.zero := by
  refine Fields.edited_iff hflat h fun i hi => ?_
  have hnothing : i.settle [] = i.settle i.held := by
    rw [Item.held]
    split_ifs
    · rw [Item.settle_singleton,fs.val_of_mem_zero i hi,
        i.schema.decode_encode_zero (hflat.leaf fs.zero i hi)]
      rfl
    · rfl
  refine ⟨fun hm => ?_,fun k j hm => ?_⟩
  · rw [arriving_of_unmentioned hapart hm]
    exact hnothing
  · rw [arriving_of_mention hapart hm,placingAlone]
    split_ifs
    · exact ⟨rfl,fun h => (by cases h)⟩
    · exact ⟨hnothing,fun h => (by cases h)⟩

end Groups

end PrismGateway.Lib
