import PrismGateway.Lib.GoMap
import Mathlib.Algebra.Group.Int.Defs
import Mathlib.Algebra.Group.Nat.Defs
import Mathlib.Data.String.Basic

namespace PrismGateway.Lib

open Float.Model

/-- A document as `interface{}` holds it after `json.Unmarshal`: every number is a `float64` and
every object is a map, kept here as its entries in the order `json.Marshal` writes them. -/
inductive Json where
  | null
  | bool (b : Bool)
  | num (x : Float)
  | str (s : String)
  | arr (items : List Json)
  | obj (entries : List (String × Json))

namespace Json

abbrev Entries := List (String × Json)

mutual

-- One `iter` serves all maps of the document, where Go draws an order for each of them.
def rekey (key : String → String) (iter : Entries → Entries) : Json → Json
  | .arr items => .arr (rekeyItems key iter items)
  | .obj entries => .obj (GoMap.ofList (iter (rekeyEntries key iter entries)))
  | j => j

def rekeyItems (key : String → String) (iter : Entries → Entries) : List Json → List Json
  | [] => []
  | j :: items => rekey key iter j :: rekeyItems key iter items

def rekeyEntries (key : String → String) (iter : Entries → Entries) : Entries → Entries
  | [] => []
  | (k,j) :: entries => (key k,rekey key iter j) :: rekeyEntries key iter entries

end

variable {key : String → String} {iter : Entries → Entries}

theorem rekeyItems_eq_map (items : List Json) :
    rekeyItems key iter items = items.map (rekey key iter) := by
  induction items with
  | nil => simp [rekeyItems]
  | cons j items ih => simp [rekeyItems,ih]

theorem rekeyEntries_eq_map (entries : Entries) :
    rekeyEntries key iter entries = entries.map (fun e => (key e.1,rekey key iter e.2)) := by
  induction entries with
  | nil => simp [rekeyEntries]
  | cons e entries ih =>
    rcases e with ⟨k,j⟩
    simp [rekeyEntries,ih]

@[simp] theorem rekey_null : rekey key iter .null = .null := rfl

@[simp] theorem rekey_bool (b : Bool) : rekey key iter (.bool b) = .bool b := rfl

@[simp] theorem rekey_num (x : Float) : rekey key iter (.num x) = .num x := rfl

@[simp] theorem rekey_str (s : String) : rekey key iter (.str s) = .str s := rfl

@[simp] theorem rekey_arr (items : List Json) :
    rekey key iter (.arr items) = .arr (items.map (rekey key iter)) := by
  rw [rekey,rekeyItems_eq_map]

def arrivals (key : String → String) (iter : Entries → Entries) (entries : Entries) : Entries :=
  GoMap.ofList (iter (entries.map (fun e => (key e.1,rekey key iter e.2))))

@[simp] theorem rekey_obj (entries : Entries) :
    rekey key iter (.obj entries) = .obj (arrivals key iter entries) := by
  rw [rekey,rekeyEntries_eq_map,arrivals]

theorem sorted_arrivals (entries : Entries) : GoMap.Sorted (arrivals key iter entries) :=
  GoMap.sorted_ofList _

theorem arrivals_perm (hiter : ∀ l, (iter l).Perm l) {entries : Entries}
    (h : (entries.map (fun e => key e.1)).Nodup) :
    (arrivals key iter entries).Perm (entries.map (fun e => (key e.1,rekey key iter e.2))) := by
  have hnodup : ((iter (entries.map (fun e => (key e.1,rekey key iter e.2)))).map Prod.fst).Nodup := by
    refine ((hiter _).map Prod.fst).nodup_iff.mpr ?_
    simpa [List.map_map,Function.comp_def] using h
  exact (GoMap.ofList_perm hnodup).trans (hiter _)

theorem mem_keys_arrivals (hiter : ∀ l, (iter l).Perm l) {entries : Entries} {k : String} :
    k ∈ (arrivals key iter entries).map Prod.fst ↔ ∃ e ∈ entries, key e.1 = k := by
  rw [arrivals,GoMap.mem_keys_ofList,((hiter _).map Prod.fst).mem_iff]
  simp

theorem arrivals_eq_of_fixed (hiter : ∀ l, (iter l).Perm l) {entries : Entries}
    (hs : GoMap.Sorted entries) (hfixed : ∀ e ∈ entries, key e.1 = e.1) :
    arrivals key iter entries = entries.map (fun e => (e.1,rekey key iter e.2)) := by
  have hmap : entries.map (fun e => (key e.1,rekey key iter e.2)) =
      entries.map (fun e => (e.1,rekey key iter e.2)) := by
    refine List.map_congr_left fun e he => ?_
    rw [hfixed e he]
  rw [arrivals,hmap]
  exact GoMap.ofList_eq_of_perm (hs.map _) (hiter _)

structure MapOrder where
  iter : Entries → Entries
  perm : ∀ l, (iter l).Perm l

theorem listed_perm (l : Entries) : l.Perm l := .refl l

def integerValue (x : Float) : Option Int :=
  match x.toModel.unpack with
  | .zero _ => some 0
  | .finite s m e _ =>
    let n : Option Nat := match e with
      | .ofNat k => some (m * 2 ^ k)
      | .negSucc k => if 2 ^ (k + 1) ∣ m then some (m / 2 ^ (k + 1)) else none
    n.map (fun n => match s with | .positive => (n : Int) | .negative => -(n : Int))
  | _ => none

def shortestAt (n : Int) (k : Nat) : Option Int :=
  let p : Int := 10 ^ k
  let lo := n / p * p
  let near := if 2 * (n - lo) ≤ p then [lo,lo + p] else [lo + p,lo]
  near.find? (fun m => Float.ofInt m == Float.ofInt n)

def shortestInteger (n : Int) : Int :=
  ((List.range 22).reverse.findSome? (shortestAt n)).getD n

def parseInt (x : Float) : Option Int := do
  let n ← integerValue x
  let m := shortestInteger n
  if n.natAbs < 10 ^ 21 ∧ -2 ^ 63 ≤ m ∧ m < 2 ^ 63 then some m else none

def ExactInt (i : Int) : Prop := parseInt (Float.ofInt i) = some i

instance (i : Int) : Decidable (ExactInt i) := inferInstanceAs (Decidable (_ = _))

def Number := {x : Float // x.isFinite = true ∧ x ≠ -0}

namespace Number

def zero : Number := ⟨0,by decide⟩

def ofFloat (x : Float) : Option Number :=
  if h : x.isFinite = true ∧ x ≠ -0 then some ⟨x,h⟩
  else if x = -0 then some zero else none

theorem ofFloat_val (x : Number) : ofFloat x.val = some x := by
  rw [ofFloat,dif_pos x.property]
  rfl

end Number

end Json

end PrismGateway.Lib
