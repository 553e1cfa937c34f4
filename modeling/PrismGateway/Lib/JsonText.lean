import PrismGateway.Lib.Text

namespace PrismGateway.Lib

structure NumberText where
  chars : List Char
  one_line : '\n' ∉ chars

def NumberText.ofInt (n : Int) : NumberText where
  chars := (toString n).toList
  one_line := by
    intro h
    rcases mem_toString_int h with h | h
    · revert h
      decide
    · revert h
      decide

inductive Doc where
  | null
  | bool (b : Bool)
  | num (n : NumberText)
  | str (s : String)
  | arr (items : List Doc)
  | obj (entries : List (String × Doc))

namespace Doc

def hexDigit (n : ℕ) : Char := if n < 10 then Char.ofNat (48 + n) else Char.ofNat (87 + n)

def hexEscape (c : Char) : List Char :=
  '\\' :: 'u' :: [c.toNat / 4096 % 16,c.toNat / 256 % 16,c.toNat / 16 % 16,c.toNat % 16].map hexDigit

def escape (c : Char) : List Char :=
  if c = '"' then ['\\','"']
  else if c = '\\' then ['\\','\\']
  else if c.toNat = 8 then ['\\','b']
  else if c.toNat = 9 then ['\\','t']
  else if c.toNat = 10 then ['\\','n']
  else if c.toNat = 12 then ['\\','f']
  else if c.toNat = 13 then ['\\','r']
  else if c.toNat < 32 ∨ c = '<' ∨ c = '>' ∨ c = '&' ∨ c.toNat = 0x2028 ∨ c.toNat = 0x2029 then
    hexEscape c
  else [c]

def quote (s : String) : List Char := '"' :: s.toList.flatMap escape ++ ['"']

def commaSeparated : List (List Char) → List Char
  | [] => []
  | [t] => t
  | t :: ts => t ++ ',' :: commaSeparated ts

mutual

def marshal : Doc → List Char
  | .null => "null".toList
  | .bool true => "true".toList
  | .bool false => "false".toList
  | .num n => n.chars
  | .str s => quote s
  | .arr items => '[' :: commaSeparated (marshalItems items) ++ [']']
  | .obj entries => '\x7b' :: commaSeparated (marshalEntries entries) ++ ['\x7d']

def marshalItems : List Doc → List (List Char)
  | [] => []
  | d :: items => d.marshal :: marshalItems items

def marshalEntries : List (String × Doc) → List (List Char)
  | [] => []
  | (k,d) :: entries => (quote k ++ ':' :: d.marshal) :: marshalEntries entries

end

def encode (d : Doc) : List Char := d.marshal ++ ['\n']

theorem hexDigit_ne_newline : ∀ n < 16, '\n' ≠ hexDigit n := by decide

theorem newline_not_mem_hexEscape (c : Char) : '\n' ∉ hexEscape c := by
  have hdigit : ∀ n, '\n' ≠ hexDigit (n % 16) :=
    fun n => hexDigit_ne_newline _ (Nat.mod_lt n (by decide))
  simp [hexEscape,hdigit]

theorem newline_not_mem_escape (c : Char) : '\n' ∉ escape c := by
  unfold escape
  split_ifs with h1 h2 h3 h4 h5 h6 h7 h8
  · decide
  · decide
  · decide
  · decide
  · decide
  · decide
  · decide
  · exact newline_not_mem_hexEscape c
  · intro hmem
    rw [List.mem_singleton] at hmem
    subst hmem
    exact h5 rfl

theorem newline_not_mem_quote (s : String) : '\n' ∉ quote s := by
  have hbody : '\n' ∉ s.toList.flatMap escape := by
    intro hmem
    obtain ⟨c,-,hc⟩ := List.mem_flatMap.mp hmem
    exact newline_not_mem_escape c hc
  simp [quote,hbody]

theorem newline_not_mem_commaSeparated {ts : List (List Char)} (h : ∀ t ∈ ts, '\n' ∉ t) :
    '\n' ∉ commaSeparated ts := by
  induction ts with
  | nil => simp [commaSeparated]
  | cons t ts ih =>
    have ht : '\n' ∉ t := h t List.mem_cons_self
    have hts : '\n' ∉ commaSeparated ts := ih (fun t ht => h t (List.mem_cons_of_mem _ ht))
    cases ts with
    | nil => exact ht
    | cons u us => simp [commaSeparated,ht,hts]

mutual

theorem newline_not_mem_marshal : (d : Doc) → '\n' ∉ d.marshal
  | .null => by simp only [marshal]; decide
  | .bool true => by simp only [marshal]; decide
  | .bool false => by simp only [marshal]; decide
  | .num n => n.one_line
  | .str s => newline_not_mem_quote s
  | .arr items => by
    have hitems := newline_not_mem_commaSeparated (newline_not_mem_marshalItems items)
    simp [marshal,hitems]
  | .obj entries => by
    have hentries := newline_not_mem_commaSeparated (newline_not_mem_marshalEntries entries)
    simp [marshal,hentries]

theorem newline_not_mem_marshalItems : (items : List Doc) → ∀ t ∈ marshalItems items, '\n' ∉ t
  | [] => by simp [marshalItems]
  | d :: items => by
    intro t ht
    rcases List.mem_cons.mp ht with rfl | ht
    · exact newline_not_mem_marshal d
    · exact newline_not_mem_marshalItems items t ht

theorem newline_not_mem_marshalEntries : (entries : List (String × Doc)) →
    ∀ t ∈ marshalEntries entries, '\n' ∉ t
  | [] => by simp [marshalEntries]
  | (k,d) :: entries => by
    intro t ht
    rcases List.mem_cons.mp ht with rfl | ht
    · simp [newline_not_mem_quote k,newline_not_mem_marshal d]
    · exact newline_not_mem_marshalEntries entries t ht

end

end Doc

end PrismGateway.Lib
