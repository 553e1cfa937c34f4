import PrismGateway.Lib.GoStrings
import PrismGateway.Lib.Json

namespace PrismGateway.Lib

structure Tag where
  name : String
  omitempty : Bool := false
  dash : Bool := false

structure Alias where
  legacy : String
  canonical : String
  drop : Bool := true

mutual

/-- The Go types `encoding/json` reflects on. A slice or map that may be nil and is not
`omitempty` is a `ptr` to one; elsewhere nil and empty are the same value. -/
inductive Schema where
  | bool
  | int
  | float
  | str
  | ptr (s : Schema)
  | slice (s : Schema)
  | dict (s : Schema)
  | struct (aliases : List Alias) (fs : Fields)

inductive Fields where
  | nil
  | cons (tag : Tag) (s : Schema) (rest : Fields)

end

mutual

def Schema.Val : Schema → Type
  | .bool => Bool
  | .int => Int
  | .float => Json.Number
  | .str => String
  | .ptr s => Option s.Val
  | .slice s => List s.Val
  | .dict s => {l : List (String × s.Val) // GoMap.Sorted l}
  | .struct _ fs => fs.Vals

def Fields.Vals : Fields → Type
  | .nil => Unit
  | .cons _ s rest => s.Val × rest.Vals

end

mutual

def Schema.zero : (s : Schema) → s.Val
  | .bool => false
  | .int => (0 : Int)
  | .float => Json.Number.zero
  | .str => ""
  | .ptr _ => none
  | .slice _ => []
  | .dict _ => ⟨[],List.Pairwise.nil⟩
  | .struct _ fs => fs.zero

def Fields.zero : (fs : Fields) → fs.Vals
  | .nil => ()
  | .cons _ s rest => (s.zero,rest.zero)

end

def Schema.isEmpty : (s : Schema) → s.Val → Bool
  | .bool, b => !b
  | .int, i => Int.natAbs i = 0
  | .float, x => x.val = 0
  | .str, t => String.isEmpty t
  | .ptr _, p => p.isNone
  | .slice _, l => l.isEmpty
  | .dict _, m => m.val.isEmpty
  | .struct _ _, _ => false

def Fields.names : Fields → List String
  | .nil => []
  | .cons tag _ rest => if tag.dash then rest.names else tag.name :: rest.names

mutual

def Schema.encode : (s : Schema) → s.Val → Json
  | .bool, b => .bool b
  | .int, i => .num (Float.ofInt i)
  | .float, x => .num x.val
  | .str, t => .str t
  | .ptr _, none => .null
  | .ptr s, some v => s.encode v
  | .slice s, l => .arr (l.map s.encode)
  | .dict s, m => .obj (m.val.map (fun e => (e.1,s.encode e.2)))
  | .struct _ fs, v => .obj (GoMap.ofList (fs.emit v))

def Fields.emit : (fs : Fields) → fs.Vals → Json.Entries
  | .nil, _ => []
  | .cons tag s rest, v =>
    if tag.dash || (tag.omitempty && s.isEmpty v.1) then rest.emit v.2
    else (tag.name,s.encode v.1) :: rest.emit v.2

end

def foldRune (c : Char) : Char :=
  if 'a' ≤ c ∧ c ≤ 'z' then Char.ofNat (c.toNat - 32)
  else if c = '\u017F' then 'S'
  else if c = '\u212A' then 'K'
  else c

def foldName (s : String) : List Char := (GoStrings.runes s).map foldRune

def fieldFor (names : List String) (k : String) : Option String :=
  if k ∈ names then some k else names.find? (fun n => foldName n = foldName k)

def Alias.rename (a : Alias) (k : String) : String :=
  if a.drop = true ∧ k = a.legacy then a.canonical else k

def Alias.apply (a : Alias) (es : Json.Entries) : Json.Entries :=
  if a.canonical ∈ es.map Prod.fst then es
  else if a.drop then GoMap.ofList (es.map (fun e => (a.rename e.1,e.2)))
  else match es.lookup a.legacy with
    | some j => GoMap.insert a.canonical j es
    | none => es

def receive {α : Type} (decode : Json → α → Option α) (names : List String) (tag : Tag)
    (es : Json.Entries) (v : α) : Option α :=
  if tag.dash then some v
  else (es.filter (fun e => fieldFor names e.1 = some tag.name)).foldlM (fun v e => decode e.2 v) v

mutual

def Schema.decode : (s : Schema) → Json → s.Val → Option s.Val
  | .bool, j, v => match j with
    | .null => some v
    | .bool b => some b
    | _ => none
  | .int, j, v => match j with
    | .null => some v
    | .num x => Json.parseInt x
    | _ => none
  | .float, j, v => match j with
    | .null => some v
    | .num x => Json.Number.ofFloat x
    | _ => none
  | .str, j, v => match j with
    | .null => some v
    | .str t => some t
    | _ => none
  | .ptr s, j, v => match j with
    | .null => some none
    | j => (s.decode j (Option.getD v s.zero)).map some
  | .slice s, j, _ => match j with
    | .null => some []
    | .arr items => items.mapM (fun j => s.decode j s.zero)
    | _ => none
  | .dict s, j, v => match j with
    | .null => some ⟨[],List.Pairwise.nil⟩
    | .obj es => do
      let l ← es.mapM (fun e => (s.decode e.2 s.zero).map (fun x => (e.1,x)))
      some ⟨GoMap.ofList (v.val ++ l),GoMap.sorted_ofList _⟩
    | _ => none
  | .struct aliases fs, j, v => match j with
    | .null => some v
    | .obj es => fs.decode fs.names (aliases.foldl (fun es a => a.apply es) es) v
    | _ => none

def Fields.decode (names : List String) : (fs : Fields) → Json.Entries → fs.Vals → Option fs.Vals
  | .nil, _, _ => some ()
  | .cons tag s rest, es, v => do
    let x ← receive s.decode names tag es v.1
    let xs ← rest.decode names es v.2
    some (x,xs)

end

theorem Schema.encode_some (s : Schema) (v : s.Val) :
    (Schema.ptr s).encode (some v) = s.encode v := rfl

theorem Schema.encode_slice (s : Schema) (l : List s.Val) :
    (Schema.slice s).encode l = .arr (l.map s.encode) := rfl

theorem Schema.encode_struct (aliases : List Alias) (fs : Fields) (v : fs.Vals) :
    (Schema.struct aliases fs).encode v = .obj (GoMap.ofList (fs.emit v)) := rfl

theorem Schema.decode_ptr {s : Schema} {j : Json} (h : j ≠ .null) (v : Option s.Val) :
    (Schema.ptr s).decode j v = (s.decode j (v.getD s.zero)).map some := by
  cases j with
  | null => exact absurd rfl h
  | _ => rfl

theorem Schema.decode_slice (s : Schema) (items : List Json) (v : List s.Val) :
    (Schema.slice s).decode (.arr items) v = items.mapM (fun j => s.decode j s.zero) := rfl

theorem Schema.decode_dict (s : Schema) (es : Json.Entries)
    (m : {l : List (String × s.Val) // GoMap.Sorted l}) :
    (Schema.dict s).decode (.obj es) m =
      (es.mapM (fun e => (s.decode e.2 s.zero).map (fun x => (e.1,x)))).bind
        (fun l => some ⟨GoMap.ofList (m.val ++ l),GoMap.sorted_ofList _⟩) := rfl

theorem Schema.decode_struct (aliases : List Alias) (fs : Fields) (es : Json.Entries) (v : fs.Vals) :
    (Schema.struct aliases fs).decode (.obj es) v =
      fs.decode fs.names (aliases.foldl (fun es a => a.apply es) es) v := rfl

end PrismGateway.Lib
