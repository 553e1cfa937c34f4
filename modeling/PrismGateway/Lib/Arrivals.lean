import PrismGateway.Lib.FieldEdit
import PrismGateway.Lib.Paths

namespace PrismGateway.Lib

open Json

inductive Place : Fields → Schema → Type where
  | here {tag : Tag} {s : Schema} {rest : Fields} (hd : tag.dash = false) :
    Place (.cons tag s rest) s
  | there {tag : Tag} {t s : Schema} {rest : Fields} (p : Place rest s) : Place (.cons tag t rest) s

namespace Place

def name : {fs : Fields} → {s : Schema} → Place fs s → String
  | .cons tag _ _, _, .here _ => tag.name
  | _, _, .there p => p.name

def get : {fs : Fields} → {s : Schema} → Place fs s → fs.Vals → s.Val
  | .cons _ _ _, _, .here _, v => v.1
  | .cons _ _ _, _, .there p, v => p.get v.2

theorem get_zero : {fs : Fields} → {s : Schema} → (p : Place fs s) → p.get fs.zero = s.zero
  | .cons _ _ _, _, .here _ => rfl
  | .cons _ _ _, _, .there p => p.get_zero

theorem receive_eq {names : List String} {es : Entries} : {fs : Fields} → {s : Schema} →
    (p : Place fs s) → {v w : fs.Vals} → fs.decode names es v = some w →
    (es.filter (fun e => fieldFor names e.1 = some p.name)).foldlM (fun x e => s.decode e.2 x)
      (p.get v) = some (p.get w)
  | .cons tag s rest, _, .here hd, v, w, h => by
    rw [Fields.decode] at h
    have hhead := (bind_pair_eq_some.mp h).1
    rwa [receive,hd] at hhead
  | .cons tag s rest, _, .there p, v, w, h => by
    rw [Fields.decode] at h
    exact p.receive_eq (bind_pair_eq_some.mp h).2

end Place

inductive Route : Fields → Schema → Type where
  | field {fs : Fields} {s : Schema} (p : Place fs s) : Route fs s
  | inside {fs inner : Fields} {s : Schema} (p : Place fs (.struct [] inner)) (r : Route inner s) :
    Route fs s

structure Leg where
  names : List String
  name : String

def Leg.reaches (s : Leg) (k : String) : Bool := fieldFor s.names k = some s.name

namespace Route

def get : {fs : Fields} → {s : Schema} → Route fs s → fs.Vals → s.Val
  | _, _, .field p, v => p.get v
  | _, _, .inside p r, v => r.get (p.get v)

def legs : {fs : Fields} → {s : Schema} → Route fs s → List Leg
  | fs, _, .field p => [⟨fs.names,p.name⟩]
  | fs, _, .inside p r => ⟨fs.names,p.name⟩ :: r.legs

def path {fs : Fields} {s : Schema} (r : Route fs s) : List String := r.legs.map Leg.name

theorem get_zero : {fs : Fields} → {s : Schema} → (r : Route fs s) → r.get fs.zero = s.zero
  | _, _, .field p => p.get_zero
  | _, _, .inside p r => (congrArg r.get p.get_zero).trans r.get_zero

end Route

def arriveAt : List Leg → Json → List Json
  | [], j => [j]
  | s :: legs, .obj es => (es.filter (fun e => s.reaches e.1)).flatMap (fun e => arriveAt legs e.2)
  | _ :: _, _ => []

def othersAt : List Leg → Json → List Json
  | s :: legs, .obj es => othersAt legs ((es.lookup s.name).getD .null) ++
      (es.filter (fun e => s.reaches e.1 && e.1 ≠ s.name)).flatMap (fun e => arriveAt legs e.2)
  | _, _ => []

theorem othersAt_nil (j : Json) : othersAt [] j = [] := by
  cases j <;> rfl

section Decode

theorem foldlM_flatMap {α β γ : Type} {f : γ → β → Option γ} {g : α → List β} (l : List α) (v : γ) :
    (l.flatMap g).foldlM f v = l.foldlM (fun v a => (g a).foldlM f v) v := by
  induction l generalizing v with
  | nil => rfl
  | cons a l ih =>
    rw [List.flatMap_cons,List.foldlM_append,List.foldlM_cons]
    exact congrArg (fun k => (g a).foldlM f v >>= k) (funext ih)

theorem foldlM_sim {α γ δ : Type} {f : γ → α → Option γ} {f' : δ → α → Option δ} (view : γ → δ)
    (hstep : ∀ a v w, f v a = some w → f' (view v) a = some (view w)) (l : List α) :
    ∀ {v w : γ}, l.foldlM f v = some w → l.foldlM f' (view v) = some (view w) := by
  induction l with
  | nil =>
    intro v w h
    cases h
    rfl
  | cons a l ih =>
    intro v w h
    rw [List.foldlM_cons] at h ⊢
    obtain ⟨x,hx,hw⟩ := Option.bind_eq_some_iff.mp h
    rw [hstep a v x hx]
    exact ih hw

theorem Route.legs_ne_nil {fs : Fields} {s : Schema} (r : Route fs s) : r.legs ≠ [] := by
  cases r <;> exact List.cons_ne_nil _ _

theorem Route.decode_eq : {fs : Fields} → {s : Schema} → (r : Route fs s) → {es : Entries} →
    {v w : fs.Vals} → fs.decode fs.names es v = some w →
    (arriveAt r.legs (.obj es)).foldlM (fun x j => s.decode j x) (r.get v) = some (r.get w)
  | fs, s, .field p, es, v, w, h => by
    have hreceive := p.receive_eq h
    rw [Route.legs,arriveAt,foldlM_flatMap]
    refine (congrArg (fun f => List.foldlM f (p.get v) _) ?_).trans hreceive
    funext x e
    rw [arriveAt,List.foldlM_cons]
    cases s.decode e.2 x <;> rfl
  | fs, s, .inside p r, es, v, w, h => by
    have hreceive := p.receive_eq h
    rw [Route.legs,arriveAt,foldlM_flatMap]
    refine foldlM_sim r.get ?_ _ hreceive
    intro e a b hab
    obtain ⟨k,j⟩ := e
    cases j with
    | obj es => exact r.decode_eq hab
    | null =>
      cases hab
      cases hlegs : r.legs with
      | nil => exact absurd hlegs r.legs_ne_nil
      | cons _ _ => rfl
    | _ => cases hab

end Decode

section Order

def FirstAt : List Leg → Json → Prop
  | s :: legs, .obj es => GoMap.Sorted es ∧
      (∀ e ∈ es, s.reaches e.1 = true → e.1 ≠ s.name → s.name < e.1) ∧
      ∀ j, es.lookup s.name = some j → FirstAt legs j
  | _, _ => True

theorem Place.name_mem : {fs : Fields} → {s : Schema} → (p : Place fs s) → p.name ∈ fs.names
  | .cons tag s rest, _, .here hd => by
    rw [Fields.names,hd]
    exact List.mem_cons_self
  | .cons tag s rest, _, .there p => by
    rw [Fields.names]
    split_ifs
    · exact p.name_mem
    · exact List.mem_cons_of_mem _ p.name_mem

theorem Route.name_mem : {fs : Fields} → {s : Schema} → (r : Route fs s) →
    ∀ x ∈ r.legs, x.name ∈ x.names
  | _, _, .field p => by
    simpa [Route.legs] using p.name_mem
  | _, _, .inside p r => by
    rw [Route.legs,List.forall_mem_cons]
    exact ⟨p.name_mem,r.name_mem⟩

theorem Fields.accept_of_not_mem {n : String} {j : Json} : (fs : Fields) → n ∉ fs.names →
    fs.accept (some n) j = true
  | .nil, _ => rfl
  | .cons tag s rest, h => by
    rw [Fields.names] at h
    rw [Fields.accept,Bool.and_eq_true]
    cases hd : tag.dash with
    | true => exact ⟨rfl,rest.accept_of_not_mem (by simpa [hd] using h)⟩
    | false =>
      simp only [hd,Bool.false_eq_true,if_false,List.mem_cons,not_or] at h
      exact ⟨by simp [h.1],rest.accept_of_not_mem h.2⟩

theorem Place.accept_eq {j : Json} : {fs : Fields} → {s : Schema} → (p : Place fs s) →
    fs.names.Nodup → fs.accept (some p.name) j = s.accepts j
  | .cons tag s rest, _, .here hd, hnodup => by
    rw [Fields.names,hd] at hnodup
    have hrest := rest.accept_of_not_mem (j := j) (List.nodup_cons.mp hnodup).1
    rw [Place.name,Fields.accept,hd,hrest]
    simp
  | .cons tag s rest, _, .there p, hnodup => by
    rw [Fields.names] at hnodup
    rw [Place.name,Fields.accept]
    cases hd : tag.dash with
    | true =>
      rw [if_pos hd] at hnodup
      exact p.accept_eq hnodup
    | false =>
      rw [if_neg (by simp [hd])] at hnodup
      have hne : p.name ≠ tag.name := fun h => (List.nodup_cons.mp hnodup).1 (h ▸ p.name_mem)
      simpa [hne] using p.accept_eq (List.nodup_cons.mp hnodup).2

theorem Leg.reaches_name {s : Leg} (h : s.name ∈ s.names) : s.reaches s.name = true := by
  rw [Leg.reaches,fieldFor_of_mem h]
  exact decide_eq_true rfl

theorem filter_reaches {s : Leg} {es : Entries} (hs : s.name ∈ s.names) (hsorted : GoMap.Sorted es)
    (hfirst : ∀ e ∈ es, s.reaches e.1 = true → e.1 ≠ s.name → s.name < e.1) :
    es.filter (fun e => s.reaches e.1) = (es.lookup s.name).toList.map (fun j => (s.name,j)) ++
      es.filter (fun e => s.reaches e.1 && e.1 ≠ s.name) := by
  have hothers : GoMap.Sorted (es.filter (fun e => s.reaches e.1 && e.1 ≠ s.name)) :=
    List.Pairwise.filter _ hsorted
  have hlater : ∀ e ∈ es.filter (fun e => s.reaches e.1 && e.1 ≠ s.name),
      s.reaches e.1 = true ∧ s.name < e.1 := by
    intro e he
    obtain ⟨he,hkeep⟩ := List.mem_filter.mp he
    obtain ⟨hreaches,hne⟩ := Bool.and_eq_true_iff.mp hkeep
    exact ⟨hreaches,hfirst e he hreaches (of_decide_eq_true hne)⟩
  have hlookup : ∀ x, (es.filter (fun e => s.reaches e.1 && e.1 ≠ s.name)).lookup x =
      if s.reaches x && x ≠ s.name then es.lookup x else none :=
    fun x => GoMap.lookup_filter (fun k => s.reaches k && k ≠ s.name) x es
  cases hown : es.lookup s.name with
  | none =>
    refine GoMap.Sorted.filter_eq hsorted hothers ?_ fun e he => (hlater e he).1
    intro x hx
    rw [hlookup,hx,Bool.true_and]
    split_ifs with hne
    · rfl
    · rw [show x = s.name by simpa using hne]
      exact hown
  | some j =>
    refine GoMap.Sorted.filter_eq hsorted (List.pairwise_cons.mpr ⟨?_,hothers⟩) ?_ ?_
    · exact fun e he => (hlater e he).2
    · intro x hx
      have hcons := GoMap.lookup_cons_eq s.name x j (es.filter (fun e => s.reaches e.1 && e.1 ≠ s.name))
      refine Eq.trans ?_ hcons.symm
      rw [hlookup,hx,Bool.true_and]
      split_ifs with heq hne
      · rw [heq]
        exact hown
      · rfl
      · exact absurd heq (by simpa using hne)
    · exact List.forall_mem_cons.mpr ⟨Leg.reaches_name hs,fun e he => (hlater e he).1⟩

theorem arriveAt_eq {legs : List Leg} (hlegs : ∀ s ∈ legs, s.name ∈ s.names) :
    ∀ {j : Json}, FirstAt legs j →
      arriveAt legs j = (j.read (legs.map Leg.name)).toList ++ othersAt legs j := by
  induction legs with
  | nil =>
    intro j _
    rw [arriveAt,List.map_nil,read_nil]
    cases j <;> rfl
  | cons s legs ih =>
    obtain ⟨hs,hlegs⟩ := List.forall_mem_cons.mp hlegs
    intro j h
    cases j with
    | obj es =>
      obtain ⟨hsorted,hfirst,hinner⟩ := h
      rw [arriveAt,othersAt,filter_reaches hs hsorted hfirst,List.flatMap_append,← List.append_assoc,
        List.map_cons,read_obj]
      congr 1
      cases hown : es.lookup s.name with
      | none => cases legs <;> rfl
      | some j =>
        rw [Option.toList_some,List.map_singleton,List.flatMap_singleton]
        exact ih hlegs (hinner j hown)
    | _ => rfl

end Order

end PrismGateway.Lib
