import PrismGateway.Lib.JsonText

namespace PrismGateway.Lib.Doc

section Strings

def hexValue (c : Char) : Option ℕ :=
  if '0' ≤ c ∧ c ≤ '9' then some (c.toNat - 48)
  else if 'a' ≤ c ∧ c ≤ 'f' then some (c.toNat - 87)
  else if 'A' ≤ c ∧ c ≤ 'F' then some (c.toNat - 55)
  else none

def fourHex : List Char → Option (ℕ × List Char)
  | a :: b :: c :: d :: rest =>
    (hexValue a).bind fun a => (hexValue b).bind fun b => (hexValue c).bind fun c =>
      (hexValue d).map fun d => (a * 4096 + b * 256 + c * 16 + d,rest)
  | _ => none

def lowSurrogate : List Char → Option (ℕ × List Char)
  | '\\' :: 'u' :: rest => (fourHex rest).filter (fun r => 0xDC00 ≤ r.1 ∧ r.1 < 0xE000)
  | _ => none

def unicodeEscape (l : List Char) : Option (Char × List Char) :=
  (fourHex l).map fun r =>
    if 0xD800 ≤ r.1 ∧ r.1 < 0xE000 then
      match if r.1 < 0xDC00 then lowSurrogate r.2 else none with
      | some (low,rest) => (Char.ofNat (0x10000 + (r.1 - 0xD800) * 1024 + (low - 0xDC00)),rest)
      | none => ('\uFFFD',r.2)
    else (Char.ofNat r.1,r.2)

def unescape (c : Char) : Option Char :=
  if c = '"' ∨ c = '\\' ∨ c = '/' then some c
  else if c = 'b' then some (Char.ofNat 8)
  else if c = 't' then some '\t'
  else if c = 'n' then some '\n'
  else if c = 'f' then some (Char.ofNat 12)
  else if c = 'r' then some '\r'
  else none

def character : List Char → Option (Char × List Char)
  | [] => none
  | c :: rest =>
    if c = '\\' then
      match rest with
      | [] => none
      | e :: rest => if e = 'u' then unicodeEscape rest else (unescape e).map (fun c => (c,rest))
    else if c.toNat < 32 then none
    else some (c,rest)

def unquote : ℕ → List Char → Option (List Char × List Char)
  | 0, _ => none
  | fuel + 1, l =>
    if l.head? = some '"' then some ([],l.tail)
    else (character l).bind fun r => (unquote fuel r.2).map fun t => (r.1 :: t.1,t.2)

theorem hexValue_hexDigit : ∀ n < 16, hexValue (hexDigit n) = some n := by decide

theorem fourHex_hexEscape {c : Char} (h : c.toNat < 65536) (rest : List Char) :
    fourHex ((hexEscape c).drop 2 ++ rest) = some (c.toNat,rest) := by
  have hdigit (n : ℕ) : hexValue (hexDigit (n % 16)) = some (n % 16) :=
    hexValue_hexDigit _ (Nat.mod_lt n (by decide))
  simp only [hexEscape,List.map_cons,List.map_nil,List.drop_succ_cons,List.drop_zero,
    List.cons_append,List.nil_append,fourHex,hdigit,Option.bind_some,Option.map_some,
    Option.some.injEq,Prod.mk.injEq,and_true]
  omega

theorem character_hexEscape {c : Char} (h : c.toNat < 0xD800) (rest : List Char) :
    character (hexEscape c ++ rest) = some (c,rest) := by
  have hfour := fourHex_hexEscape (Nat.lt_trans h (by decide)) rest
  have hcons : hexEscape c ++ rest = '\\' :: 'u' :: ((hexEscape c).drop 2 ++ rest) := rfl
  have hsurrogate : ¬ (0xD800 ≤ c.toNat ∧ c.toNat < 0xE000) := by omega
  rw [hcons]
  simp only [character,if_true,unicodeEscape,hfour,Option.map_some,hsurrogate,if_false,
    Char.ofNat_toNat]

theorem eq_ofNat {c : Char} {n : ℕ} (h : c.toNat = n) : c = Char.ofNat n := by
  rw [← h,Char.ofNat_toNat]

theorem character_escape (c : Char) (rest : List Char) :
    character (escape c ++ rest) = some (c,rest) := by
  unfold escape
  split_ifs with hquote hback h8 h9 h10 h12 h13 hspecial
  · subst hquote
    rfl
  · subst hback
    rfl
  · obtain rfl := eq_ofNat h8
    rfl
  · obtain rfl := eq_ofNat h9
    rfl
  · obtain rfl := eq_ofNat h10
    rfl
  · obtain rfl := eq_ofNat h12
    rfl
  · obtain rfl := eq_ofNat h13
    rfl
  · refine character_hexEscape ?_ rest
    rcases hspecial with h | rfl | rfl | rfl | h | h
    · omega
    · decide
    · decide
    · decide
    · omega
    · omega
  · simp only [not_or] at hspecial
    simp only [List.singleton_append,character,hback,hspecial.1,if_false]

theorem head_escape (c : Char) (rest : List Char) : (escape c ++ rest).head? ≠ some '"' := by
  unfold escape
  split_ifs with hquote
  all_goals simp only [List.cons_append,List.head?_cons,hexEscape,ne_eq,Option.some.injEq]
  all_goals first | exact hquote | decide

theorem unquote_escape (s rest : List Char) {fuel : ℕ} (h : s.length < fuel) :
    unquote fuel (s.flatMap escape ++ '"' :: rest) = some (s,rest) := by
  induction s generalizing fuel with
  | nil =>
    obtain ⟨n,rfl⟩ := Nat.exists_eq_succ_of_ne_zero (Nat.ne_of_gt h)
    rfl
  | cons c s ih =>
    obtain ⟨n,rfl⟩ := Nat.exists_eq_succ_of_ne_zero (Nat.ne_of_gt (Nat.zero_lt_of_lt h))
    have hrest : unquote n (s.flatMap escape ++ '"' :: rest) = some (s,rest) :=
      ih (by simpa using h)
    rw [List.flatMap_cons,List.append_assoc,unquote,if_neg (head_escape c _),character_escape,
      Option.bind_some,hrest]
    rfl

end Strings

section Numbers

def isNumberChar (c : Char) : Bool :=
  c.isDigit || c = '-' || c = '+' || c = '.' || c = 'e' || c = 'E'

def digits1 (l : List Char) : Bool := !l.isEmpty && l.all Char.isDigit

def isExponent : List Char → Bool
  | [] => true
  | c :: l => (c = 'e' || c = 'E') &&
      digits1 (if l.head? = some '+' ∨ l.head? = some '-' then l.tail else l)

def isFraction : List Char → Bool
  | '.' :: c :: l => c.isDigit && isExponent (l.dropWhile Char.isDigit)
  | l => isExponent l

def isUnsigned : List Char → Bool
  | [] => false
  | c :: l => if c = '0' then isFraction l else c.isDigit && isFraction (l.dropWhile Char.isDigit)

def isNumber (l : List Char) : Bool := isUnsigned (if l.head? = some '-' then l.tail else l)

end Numbers

end PrismGateway.Lib.Doc

namespace PrismGateway.Lib.NumberText

def Valid (n : NumberText) : Bool := n.chars.all Doc.isNumberChar && Doc.isNumber n.chars

end PrismGateway.Lib.NumberText

namespace PrismGateway.Lib.Doc

section Values

mutual

def wellFormed : Doc → Bool
  | .num n => n.Valid
  | .arr items => wellFormedItems items
  | .obj entries => wellFormedEntries entries
  | _ => true

def wellFormedItems : List Doc → Bool
  | [] => true
  | d :: items => d.wellFormed && wellFormedItems items

def wellFormedEntries : List (String × Doc) → Bool
  | [] => true
  | (_,d) :: entries => d.wellFormed && wellFormedEntries entries

end

def isWs (c : Char) : Bool := c = ' ' || c = '\t' || c = '\r' || c = '\n'

def skipWs (l : List Char) : List Char := l.dropWhile isWs

theorem newline_not_mem_number (l : List Char) : '\n' ∉ l.takeWhile isNumberChar := by
  intro h
  exact absurd (List.mem_takeWhile_imp h) (by decide)

def number (l : List Char) : Option (Doc × List Char) :=
  if isNumber (l.takeWhile isNumberChar) then
    some (.num ⟨l.takeWhile isNumberChar,newline_not_mem_number l⟩,l.dropWhile isNumberChar)
  else none

def literal (l : List Char) : Option (Doc × List Char) :=
  if "null".toList.isPrefixOf l then some (.null,l.drop 4)
  else if "true".toList.isPrefixOf l then some (.bool true,l.drop 4)
  else if "false".toList.isPrefixOf l then some (.bool false,l.drop 5)
  else none

mutual

def value : ℕ → List Char → Option (Doc × List Char)
  | 0, _ => none
  | fuel + 1, l =>
    match skipWs l with
    | [] => none
    | c :: rest =>
      if c = '"' then (unquote (rest.length + 1) rest).map fun r => (.str (String.ofList r.1),r.2)
      else if c = '[' then
        if (skipWs rest).head? = some ']' then some (.arr [],(skipWs rest).tail)
        else (items fuel rest).map fun r => (.arr r.1,r.2)
      else if c = '\x7b' then
        if (skipWs rest).head? = some '\x7d' then some (.obj [],(skipWs rest).tail)
        else (entries fuel rest).map fun r => (.obj r.1,r.2)
      else (literal (c :: rest)).or (number (c :: rest))

def items : ℕ → List Char → Option (List Doc × List Char)
  | 0, _ => none
  | fuel + 1, l =>
    (value fuel l).bind fun r =>
      match skipWs r.2 with
      | [] => none
      | c :: rest =>
        if c = ',' then (items fuel rest).map fun t => (r.1 :: t.1,t.2)
        else if c = ']' then some ([r.1],rest)
        else none

def entries : ℕ → List Char → Option (List (String × Doc) × List Char)
  | 0, _ => none
  | fuel + 1, l =>
    match skipWs l with
    | [] => none
    | c :: key =>
      if c = '"' then
        (unquote (key.length + 1) key).bind fun k =>
          match skipWs k.2 with
          | [] => none
          | c :: rest =>
            if c = ':' then
              (value fuel rest).bind fun r =>
                match skipWs r.2 with
                | [] => none
                | c :: rest =>
                  if c = ',' then
                    (entries fuel rest).map fun t => ((String.ofList k.1,r.1) :: t.1,t.2)
                  else if c = '\x7d' then some ([(String.ofList k.1,r.1)],rest)
                  else none
            else none
      else none

end

def parse (l : List Char) : Option Doc :=
  (value (l.length + 1) l).bind fun r => if (skipWs r.2).isEmpty then some r.1 else none

example : ((parse "[1, -2.5e3]".toList).isSome,(parse "[01]".toList).isSome,
    (parse "\"\\u0041\"".toList).isSome) = (true,false,true) := by decide +kernel

end Values

section RoundTrip

def Ends (rest : List Char) : Prop := ∀ c, rest.head? = some c → isNumberChar c = false

theorem ends_cons {c : Char} {rest : List Char} (h : isNumberChar c = false) : Ends (c :: rest) := by
  intro d hd
  rw [List.head?_cons,Option.some.injEq] at hd
  exact hd ▸ h

theorem ends_nil : Ends [] := by
  intro c hc
  cases hc

theorem number_append {n : NumberText} (h : n.Valid = true) {rest : List Char} (hrest : Ends rest) :
    number (n.chars ++ rest) = some (.num n,rest) := by
  obtain ⟨hall,hnumber⟩ := Bool.and_eq_true_iff.mp h
  have hstop : rest.takeWhile isNumberChar = [] ∧ rest.dropWhile isNumberChar = rest := by
    cases rest with
    | nil => exact ⟨rfl,rfl⟩
    | cons c rest =>
      have hc := hrest c rfl
      exact ⟨List.takeWhile_cons_of_neg (by simp [hc]),List.dropWhile_cons_of_neg (by simp [hc])⟩
  have htake : (n.chars ++ rest).takeWhile isNumberChar = n.chars := by
    rw [List.takeWhile_append_of_pos (List.all_eq_true.mp hall),hstop.1,List.append_nil]
  have hdrop : (n.chars ++ rest).dropWhile isNumberChar = rest := by
    rw [List.dropWhile_append_of_pos (List.all_eq_true.mp hall),hstop.2]
  simp only [number,htake,hdrop,hnumber,if_true]

theorem ne_of_isNumberChar {c d : Char} (hc : isNumberChar c = true) (hd : isNumberChar d = false) :
    c ≠ d := by
  rintro rfl
  rw [hc] at hd
  cases hd

theorem literal_number {c : Char} (h : isNumberChar c = true) (l : List Char) :
    literal (c :: l) = none := by
  have hn := ne_of_isNumberChar h (d := 'n') (by decide)
  have ht := ne_of_isNumberChar h (d := 't') (by decide)
  have hf := ne_of_isNumberChar h (d := 'f') (by decide)
  simp [literal,hn.symm,ht.symm,hf.symm]

theorem head_valid {n : NumberText} (h : n.Valid = true) :
    ∃ c l, n.chars = c :: l ∧ isNumberChar c = true := by
  obtain ⟨hall,hnumber⟩ := Bool.and_eq_true_iff.mp h
  cases hchars : n.chars with
  | nil =>
    rw [hchars] at hnumber
    cases hnumber
  | cons c l =>
    rw [hchars,List.all_cons,Bool.and_eq_true] at hall
    exact ⟨c,l,rfl,hall.1⟩

theorem skipWs_cons {c : Char} (h : isWs c = false) (l : List Char) : skipWs (c :: l) = c :: l :=
  List.dropWhile_cons_of_neg (by simp [h])

theorem isWs_of_isNumberChar {c : Char} (h : isNumberChar c = true) : isWs c = false := by
  have h1 := ne_of_isNumberChar h (d := ' ') (by decide)
  have h2 := ne_of_isNumberChar h (d := '\t') (by decide)
  have h3 := ne_of_isNumberChar h (d := '\r') (by decide)
  have h4 := ne_of_isNumberChar h (d := '\n') (by decide)
  simp [isWs,h1,h2,h3,h4]

theorem head_marshal (d : Doc) (h : d.wellFormed = true) :
    ∃ c l, d.marshal = c :: l ∧ isWs c = false ∧ c ≠ ']' := by
  cases d with
  | null => exact ⟨_,_,rfl,by decide,by decide⟩
  | bool b =>
    cases b with
    | true => exact ⟨_,_,rfl,by decide,by decide⟩
    | false => exact ⟨_,_,rfl,by decide,by decide⟩
  | num n =>
    obtain ⟨c,l,hchars,hc⟩ := head_valid h
    exact ⟨c,l,hchars,isWs_of_isNumberChar hc,ne_of_isNumberChar hc (by decide)⟩
  | str s => exact ⟨_,_,rfl,by decide,by decide⟩
  | arr items => exact ⟨_,_,by rw [marshal,List.cons_append],by decide,by decide⟩
  | obj entries => exact ⟨_,_,by rw [marshal,List.cons_append],by decide,by decide⟩

theorem length_marshal_pos {d : Doc} (h : d.wellFormed = true) : 0 < d.marshal.length := by
  obtain ⟨c,l,hd,-⟩ := head_marshal d h
  rw [hd]
  exact Nat.succ_pos _

theorem unquote_quote (s : String) (rest : List Char) :
    unquote ((s.toList.flatMap escape ++ '"' :: rest).length + 1)
      (s.toList.flatMap escape ++ '"' :: rest) = some (s.toList,rest) := by
  refine unquote_escape s.toList rest ?_
  have hpos : ∀ c ∈ s.toList, 1 ≤ (escape c).length := by
    intro c _
    unfold escape
    split_ifs <;> simp [hexEscape]
  have hlen := List.length_le_sum_of_one_le (s.toList.map (fun c => (escape c).length)) (by
    intro n hn
    obtain ⟨c,hc,rfl⟩ := List.mem_map.mp hn
    exact hpos c hc)
  rw [List.length_map] at hlen
  rw [List.length_append,List.length_flatMap]
  omega

mutual

theorem value_marshal : (d : Doc) → d.wellFormed = true → (fuel : ℕ) → d.marshal.length ≤ fuel →
    (rest : List Char) → Ends rest → value fuel (d.marshal ++ rest) = some (d,rest)
  | d, hd, 0, hfuel, _, _ => absurd (length_marshal_pos hd) (by omega)
  | .null, _, fuel + 1, _, rest, _ => by simp [marshal,value,skipWs,isWs,literal]
  | .bool true, _, fuel + 1, _, rest, _ => by simp [marshal,value,skipWs,isWs,literal]
  | .bool false, _, fuel + 1, _, rest, _ => by simp [marshal,value,skipWs,isWs,literal]
  | .num n, hd, fuel + 1, _, rest, hrest => by
    obtain ⟨c,l,hchars,hc⟩ := head_valid hd
    have hnumber := number_append hd hrest
    rw [hchars,List.cons_append] at hnumber
    have hskip := skipWs_cons (isWs_of_isNumberChar hc) (l ++ rest)
    have h1 := ne_of_isNumberChar hc (d := '"') (by decide)
    have h2 := ne_of_isNumberChar hc (d := '[') (by decide)
    have h3 := ne_of_isNumberChar hc (d := '\x7b') (by decide)
    rw [marshal,hchars,List.cons_append,value,hskip]
    simp only [h1,h2,h3,if_false,literal_number hc,hnumber,Option.none_or]
  | .str s, _, fuel + 1, _, rest, _ => by
    have hquote := unquote_quote s rest
    have htext : (quote s ++ rest) = '"' :: (s.toList.flatMap escape ++ '"' :: rest) := by
      simp [quote]
    rw [marshal,htext,value,skipWs_cons (by decide)]
    simp only [if_true,hquote,Option.map_some,String.ofList_toList]
  | .arr ds, hd, fuel + 1, hfuel, rest, hrest => by
    have htext : (Doc.arr ds).marshal ++ rest =
        '[' :: (commaSeparated (marshalItems ds) ++ ']' :: rest) := by simp [marshal]
    have hlength : (commaSeparated (marshalItems ds)).length + 2 ≤ fuel + 1 := by
      simpa [marshal] using hfuel
    rw [htext,value,skipWs_cons (by decide)]
    cases ds with
    | nil => simp [marshalItems,commaSeparated,skipWs,isWs]
    | cons d ds =>
      have hwell : d.wellFormed = true ∧ wellFormedItems ds = true := by
        simpa [wellFormed,wellFormedItems] using hd
      obtain ⟨c,l,hhead,hws,hne⟩ := head_marshal d hwell.1
      have hitems := items_marshal d ds hwell.1 hwell.2 fuel (by omega) rest
      have hstart : ∃ l, commaSeparated (marshalItems (d :: ds)) ++ ']' :: rest = c :: l := by
        cases ds with
        | nil => exact ⟨_,by simp [marshalItems,commaSeparated,hhead]; rfl⟩
        | cons e ds => exact ⟨_,by simp [marshalItems,commaSeparated,hhead]; rfl⟩
      obtain ⟨l',hl'⟩ := hstart
      have hhead? : (skipWs (commaSeparated (marshalItems (d :: ds)) ++ ']' :: rest)).head? ≠
          some ']' := by
        rw [hl',skipWs_cons hws]
        simpa using hne
      simp only [(by decide : '[' ≠ '"'),if_false,if_true,hhead?,hitems,Option.map_some]
  | .obj es, hd, fuel + 1, hfuel, rest, hrest => by
    have htext : (Doc.obj es).marshal ++ rest =
        '\x7b' :: (commaSeparated (marshalEntries es) ++ '\x7d' :: rest) := by simp [marshal]
    have hlength : (commaSeparated (marshalEntries es)).length + 2 ≤ fuel + 1 := by
      simpa [marshal] using hfuel
    rw [htext,value,skipWs_cons (by decide)]
    cases es with
    | nil => simp [marshalEntries,commaSeparated,skipWs,isWs]
    | cons e es =>
      obtain ⟨k,d⟩ := e
      have hwell : d.wellFormed = true ∧ wellFormedEntries es = true := by
        simpa [wellFormed,wellFormedEntries] using hd
      have hentries := entries_marshal k d es hwell.1 hwell.2 fuel (by omega) rest
      have hhead? : (skipWs (commaSeparated (marshalEntries ((k,d) :: es)) ++ '\x7d' :: rest)).head? ≠
          some '\x7d' := by
        cases es <;> simp [marshalEntries,commaSeparated,quote,skipWs,isWs]
      simp only [(by decide : '\x7b' ≠ '"'),(by decide : '\x7b' ≠ '['),if_false,if_true,hhead?,
        hentries,Option.map_some]

theorem items_marshal : (d : Doc) → (ds : List Doc) → d.wellFormed = true →
    wellFormedItems ds = true → (fuel : ℕ) →
    (commaSeparated (marshalItems (d :: ds))).length + 1 ≤ fuel → (rest : List Char) →
    items fuel (commaSeparated (marshalItems (d :: ds)) ++ ']' :: rest) = some (d :: ds,rest)
  | _, _, _, _, 0, hfuel, _ => absurd hfuel (by omega)
  | d, [], hd, _, fuel + 1, hfuel, rest => by
    have hlength : d.marshal.length ≤ fuel := by simpa [marshalItems,commaSeparated] using hfuel
    have hvalue := value_marshal d hd fuel hlength (']' :: rest) (ends_cons (by decide))
    simp only [marshalItems,commaSeparated,items,hvalue,Option.bind_some]
    simp [skipWs,isWs]
  | d, e :: ds, hd, hds, fuel + 1, hfuel, rest => by
    have hwell : e.wellFormed = true ∧ wellFormedItems ds = true := by
      simpa [wellFormedItems] using hds
    have htext : commaSeparated (marshalItems (d :: e :: ds)) =
        d.marshal ++ ',' :: commaSeparated (marshalItems (e :: ds)) := rfl
    rw [htext,List.length_append,List.length_cons] at hfuel
    have hpos := length_marshal_pos hd
    have hvalue := value_marshal d hd fuel (by omega)
      (',' :: (commaSeparated (marshalItems (e :: ds)) ++ ']' :: rest)) (ends_cons (by decide))
    have hitems := items_marshal e ds hwell.1 hwell.2 fuel (by omega) rest
    rw [htext,List.append_assoc,List.cons_append,items,hvalue,Option.bind_some]
    simp only [skipWs_cons (by decide : isWs ',' = false),if_true,hitems,Option.map_some]

theorem entries_marshal : (k : String) → (d : Doc) → (es : List (String × Doc)) →
    d.wellFormed = true → wellFormedEntries es = true → (fuel : ℕ) →
    (commaSeparated (marshalEntries ((k,d) :: es))).length + 1 ≤ fuel → (rest : List Char) →
    entries fuel (commaSeparated (marshalEntries ((k,d) :: es)) ++ '\x7d' :: rest) =
      some ((k,d) :: es,rest)
  | _, _, _, _, _, 0, hfuel, _ => absurd hfuel (by omega)
  | k, d, [], hd, _, fuel + 1, hfuel, rest => by
    have htext : commaSeparated (marshalEntries [(k,d)]) ++ '\x7d' :: rest =
        '"' :: (k.toList.flatMap escape ++ '"' :: (':' :: (d.marshal ++ '\x7d' :: rest))) := by
      simp [marshalEntries,commaSeparated,quote]
    have hlength : d.marshal.length ≤ fuel := by
      simp [marshalEntries,commaSeparated] at hfuel
      omega
    have hvalue := value_marshal d hd fuel hlength ('\x7d' :: rest) (ends_cons (by decide))
    have hkey := unquote_quote k (':' :: (d.marshal ++ '\x7d' :: rest))
    rw [htext,entries,skipWs_cons (by decide)]
    simp only [if_true,hkey,Option.bind_some,skipWs_cons (by decide : isWs ':' = false),hvalue,
      skipWs_cons (by decide : isWs '\x7d' = false),String.ofList_toList]
    rfl
  | k, d, (l,e) :: es, hd, hes, fuel + 1, hfuel, rest => by
    have hwell : e.wellFormed = true ∧ wellFormedEntries es = true := by
      simpa [wellFormedEntries] using hes
    have hsplit : commaSeparated (marshalEntries ((k,d) :: (l,e) :: es)) =
        quote k ++ ':' :: d.marshal ++ ',' :: commaSeparated (marshalEntries ((l,e) :: es)) := by
      simp [marshalEntries,commaSeparated]
    have htext : commaSeparated (marshalEntries ((k,d) :: (l,e) :: es)) ++ '\x7d' :: rest =
        '"' :: (k.toList.flatMap escape ++ '"' :: (':' :: (d.marshal ++
          (',' :: (commaSeparated (marshalEntries ((l,e) :: es)) ++ '\x7d' :: rest))))) := by
      rw [hsplit]
      simp [quote]
    rw [hsplit] at hfuel
    simp only [List.length_append,List.length_cons] at hfuel
    have hvalue := value_marshal d hd fuel (by omega)
      (',' :: (commaSeparated (marshalEntries ((l,e) :: es)) ++ '\x7d' :: rest))
      (ends_cons (by decide))
    have hentries := entries_marshal l e es hwell.1 hwell.2 fuel (by omega) rest
    have hkey := unquote_quote k (':' :: (d.marshal ++
      (',' :: (commaSeparated (marshalEntries ((l,e) :: es)) ++ '\x7d' :: rest))))
    rw [htext,entries,skipWs_cons (by decide)]
    simp only [if_true,hkey,Option.bind_some,skipWs_cons (by decide : isWs ':' = false),hvalue,
      skipWs_cons (by decide : isWs ',' = false),String.ofList_toList,hentries,Option.map_some]

end

theorem parse_marshal {d : Doc} (h : d.wellFormed = true) : parse d.marshal = some d := by
  have hvalue := value_marshal d h (d.marshal.length + 1) (Nat.le_succ _) [] ends_nil
  rw [List.append_nil] at hvalue
  rw [parse,hvalue]
  rfl

end RoundTrip

section Accepted

theorem wellFormed_of_number {l : List Char} {r : Doc × List Char} (h : number l = some r) :
    r.1.wellFormed = true := by
  unfold number at h
  split at h
  · next hnumber =>
    cases h
    have hall : (l.takeWhile isNumberChar).all isNumberChar = true := by
      rw [List.all_eq_true]
      intro c hc
      exact List.mem_takeWhile_imp hc
    simp [wellFormed,NumberText.Valid,hall,hnumber]
  · cases h

theorem wellFormed_of_literal {l : List Char} {r : Doc × List Char} (h : literal l = some r) :
    r.1.wellFormed = true := by
  unfold literal at h
  split_ifs at h <;> cases h <;> rfl

theorem wellFormed_of_read (fuel : ℕ) :
    (∀ l r, value fuel l = some r → r.1.wellFormed = true) ∧
      (∀ l r, items fuel l = some r → wellFormedItems r.1 = true) ∧
        (∀ l r, entries fuel l = some r → wellFormedEntries r.1 = true) := by
  induction fuel with
  | zero =>
    refine ⟨?_,?_,?_⟩ <;> intro l r h
    · cases h
    · cases h
    · cases h
  | succ fuel ih =>
    obtain ⟨hvalue,hitems,hentries⟩ := ih
    refine ⟨?_,?_,?_⟩
    · intro l r h
      rw [value] at h
      split at h
      · cases h
      · split_ifs at h
        · obtain ⟨s,-,rfl⟩ := Option.map_eq_some_iff.mp h
          rfl
        · cases h
          rfl
        · obtain ⟨t,ht,rfl⟩ := Option.map_eq_some_iff.mp h
          exact hitems _ _ ht
        · cases h
          rfl
        · obtain ⟨t,ht,rfl⟩ := Option.map_eq_some_iff.mp h
          exact hentries _ _ ht
        · rcases Option.or_eq_some_iff.mp h with hliteral | ⟨-,hnumber⟩
          · exact wellFormed_of_literal hliteral
          · exact wellFormed_of_number hnumber
    · intro l r h
      rw [items] at h
      obtain ⟨d,hd,h⟩ := Option.bind_eq_some_iff.mp h
      have hwell := hvalue _ _ hd
      split at h
      · cases h
      · split_ifs at h
        · obtain ⟨t,ht,rfl⟩ := Option.map_eq_some_iff.mp h
          simp [wellFormedItems,hwell,hitems _ _ ht]
        · cases h
          simp [wellFormedItems,hwell]
    · intro l r h
      rw [entries] at h
      split at h
      · cases h
      · split_ifs at h
        obtain ⟨k,-,h⟩ := Option.bind_eq_some_iff.mp h
        split at h
        · cases h
        · split_ifs at h
          obtain ⟨d,hd,h⟩ := Option.bind_eq_some_iff.mp h
          have hwell := hvalue _ _ hd
          split at h
          · cases h
          · split_ifs at h
            · obtain ⟨t,ht,rfl⟩ := Option.map_eq_some_iff.mp h
              simp [wellFormedEntries,hwell,hentries _ _ ht]
            · cases h
              simp [wellFormedEntries,hwell]

theorem wellFormed_of_parse {l : List Char} {d : Doc} (h : parse l = some d) :
    d.wellFormed = true := by
  obtain ⟨r,hr,h⟩ := Option.bind_eq_some_iff.mp h
  split at h
  · cases h
    exact (wellFormed_of_read _).1 _ _ hr
  · cases h

end Accepted

end PrismGateway.Lib.Doc
