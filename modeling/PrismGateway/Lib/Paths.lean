import PrismGateway.Lib.FieldEdit
import PrismGateway.Lib.Positions

namespace PrismGateway.Lib.Json

def read : Json → List String → Option Json
  | j, [] => some j
  | .obj es, k :: path => (es.lookup k).bind (fun j => read j path)
  | _, _ :: _ => none

theorem read_nil (j : Json) : j.read [] = some j := by
  cases j <;> rfl

theorem read_obj (es : Entries) (k : String) (path : List String) :
    (Json.obj es).read (k :: path) = (es.lookup k).bind (fun j => j.read path) := rfl

theorem read_append (j : Json) (path path' : List String) :
    j.read (path ++ path') = (j.read path).bind (fun x => x.read path') := by
  induction path generalizing j with
  | nil =>
    rw [List.nil_append,read_nil]
    rfl
  | cons k path ih =>
    cases j with
    | obj es =>
      rw [List.cons_append,read_obj,read_obj]
      cases es.lookup k with
      | none => rfl
      | some j => exact ih j
    | _ => rfl

def textOf : Option Json → String
  | some (.str s) => s
  | _ => ""

def textAt (j : Json) (path : List String) : String := textOf (j.read path)

/-- The entries are a map in which no other key becomes `k`. -/
structure Lone (key : String → String) (es : Entries) (k : String) : Prop where
  sorted : GoMap.Sorted es
  alone : ∀ e ∈ es, key e.1 = k → e.1 = k

def Clear (key : String → String) : Json → List String → Prop
  | .obj es, k :: path => Lone key es k ∧ ∀ j, es.lookup k = some j → Clear key j path
  | _, _ => True

theorem clear_nil (key : String → String) (j : Json) : Clear key j [] := by
  cases j <;> trivial

section Rekey

variable {key : String → String} {iter : Entries → Entries}

theorem textOf_rekey (o : Option Json) : textOf (o.map (rekey key iter)) = textOf o := by
  cases o with
  | none => rfl
  | some j =>
    cases j with
    | null => rw [Option.map_some,rekey_null]
    | bool b => rw [Option.map_some,rekey_bool]
    | num x => rw [Option.map_some,rekey_num]
    | str s => rw [Option.map_some,rekey_str]
    | arr items =>
      rw [Option.map_some,rekey_arr]
      rfl
    | obj es =>
      rw [Option.map_some,rekey_obj]
      rfl

variable (hiter : ∀ l, (iter l).Perm l)

include hiter

theorem mem_arrivals {es : Entries} {e : String × Json} (h : e ∈ arrivals key iter es) :
    ∃ e' ∈ es, (key e'.1,rekey key iter e'.2) = e :=
  List.mem_map.mp ((hiter _).subset (GoMap.mem_of_mem_ofList h))

theorem lookup_arrivals {es : Entries} {k : String} (hk : key k = k) (h : Lone key es k) :
    (arrivals key iter es).lookup k = (es.lookup k).map (rekey key iter) := by
  cases harrived : (arrivals key iter es).lookup k with
  | none =>
    have hnone : es.lookup k = none := by
      cases hlookup : es.lookup k with
      | none => rfl
      | some j =>
        have hmem : k ∈ (arrivals key iter es).map Prod.fst :=
          (mem_keys_arrivals hiter).mpr ⟨(k,j),GoMap.mem_of_lookup hlookup,hk⟩
        have hsome := GoMap.isSome_lookup_iff.mpr hmem
        rw [harrived] at hsome
        cases hsome
    rw [hnone]
    rfl
  | some j =>
    obtain ⟨e,he,heq⟩ := mem_arrivals hiter (GoMap.mem_of_lookup harrived)
    obtain ⟨hkey,rfl⟩ := Prod.mk.inj heq
    have hlookup := GoMap.lookup_of_mem h.sorted.nodup he
    rw [h.alone e he hkey] at hlookup
    rw [hlookup]
    rfl

theorem read_rekey {path : List String} (hpath : ∀ k ∈ path, key k = k) :
    ∀ {j : Json}, Clear key j path →
      (rekey key iter j).read path = (j.read path).map (rekey key iter) := by
  induction path with
  | nil =>
    intro j _
    rw [read_nil,read_nil]
    rfl
  | cons k path ih =>
    obtain ⟨hk,hpath⟩ := List.forall_mem_cons.mp hpath
    intro j h
    cases j with
    | obj es =>
      rw [rekey_obj,read_obj,read_obj,lookup_arrivals hiter hk h.1]
      cases hlookup : es.lookup k with
      | none => rfl
      | some j => exact ih hpath (h.2 j hlookup)
    | null => rw [rekey_null]; rfl
    | bool b => rw [rekey_bool]; rfl
    | num x => rw [rekey_num]; rfl
    | str s => rw [rekey_str]; rfl
    | arr items => rw [rekey_arr]; rfl

theorem textAt_rekey {path : List String} (hpath : ∀ k ∈ path, key k = k) {j : Json}
    (h : Clear key j path) : (rekey key iter j).textAt path = j.textAt path := by
  rw [textAt,read_rekey hiter hpath h,textOf_rekey]
  rfl

end Rekey

section Amend

variable {f : String → Json → Json}

theorem read_amend (es : Entries) (k : String) (path : List String) :
    (Json.obj (amend f es)).read (k :: path) =
      (es.lookup k).bind (fun j => (f k j).read path) := by
  rw [read_obj,lookup_amend]
  cases es.lookup k <;> rfl

theorem Lone.amend {key : String → String} {es : Entries} {k : String} (h : Lone key es k) :
    Lone key (amend f es) k := by
  refine ⟨h.sorted.map (fun e => f e.1 e.2),?_⟩
  intro e he
  obtain ⟨e',he',rfl⟩ := List.mem_map.mp he
  exact h.alone e' he'

theorem clear_amend {key : String → String} {es : Entries} {k : String} {path : List String}
    (h : Lone key es k) (hvalue : ∀ j, es.lookup k = some j → Clear key (f k j) path) :
    Clear key (.obj (amend f es)) (k :: path) := by
  refine ⟨h.amend,?_⟩
  intro j hj
  rw [lookup_amend] at hj
  obtain ⟨j',hj',rfl⟩ := Option.map_eq_some_iff.mp hj
  exact hvalue j' hj'

end Amend

end PrismGateway.Lib.Json
