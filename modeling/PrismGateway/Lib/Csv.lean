import PrismGateway.Lib.GoStrings

namespace PrismGateway.Lib.Csv

abbrev Field := List Char

inductive ParseError where
  | bareQuote
  | quote
  | fieldCount
  deriving DecidableEq, Repr

def special (c : Char) : Bool := c = '\n' || c = '\r' || c = '"' || c = ','

def fieldNeedsQuotes : Field → Bool
  | [] => false
  | c :: f => decide (c :: f = ['\\','.']) || (c :: f).any special || GoStrings.isSpace c

def doubled : Field → List Char
  | [] => []
  | c :: f => if c = '"' then '"' :: '"' :: doubled f else c :: doubled f

def writeField (f : Field) : List Char :=
  if fieldNeedsQuotes f then '"' :: (doubled f ++ ['"']) else f

def writeFields : List Field → List Char
  | [] => []
  | [f] => writeField f
  | f :: rest => writeField f ++ ',' :: writeFields rest

theorem writeFields_cons (f g : Field) (rest : List Field) :
    writeFields (f :: g :: rest) = writeField f ++ ',' :: writeFields (g :: rest) := rfl

def write (record : List Field) : List Char := writeFields record ++ ['\n']

def writeAll (records : List (List Field)) : List Char := records.flatMap write

def crlf : List Char → List Char
  | [] => []
  | [c] => [c]
  | c :: d :: rest => if c = '\r' ∧ d = '\n' then crlf (d :: rest) else c :: crlf (d :: rest)

def dropReturn (text : List Char) : List Char :=
  if text.getLast? = some '\r' then text.dropLast else text

/-- Where the reader is: before a record, before a later field, in a plain field, in a quoted one, or
behind a quote of a quoted one. -/
inductive Mode where
  | record
  | field
  | plain
  | quotes
  | quote

def read : Mode → Field → List Field → List Char → Except ParseError (List (List Field))
  | .record, _, _, [] => .ok []
  | .quotes, _, _, [] => .error .quote
  | .field, f, fields, [] | .plain, f, fields, [] | .quote, f, fields, [] => .ok [fields ++ [f]]
  | .record, f, fields, c :: rest =>
    if c = '\n' then read .record [] [] rest
    else if c = '"' then read .quotes [] [] rest
    else if c = ',' then read .field [] [f] rest
    else read .plain [c] fields rest
  | .field, f, fields, c :: rest =>
    if c = '\n' then (read .record [] [] rest).map (fun records => (fields ++ [f]) :: records)
    else if c = '"' then read .quotes f fields rest
    else if c = ',' then read .field [] (fields ++ [f]) rest
    else read .plain (f ++ [c]) fields rest
  | .plain, f, fields, c :: rest =>
    if c = '\n' then (read .record [] [] rest).map (fun records => (fields ++ [f]) :: records)
    else if c = '"' then .error .bareQuote
    else if c = ',' then read .field [] (fields ++ [f]) rest
    else read .plain (f ++ [c]) fields rest
  | .quotes, f, fields, c :: rest =>
    if c = '"' then read .quote f fields rest else read .quotes (f ++ [c]) fields rest
  | .quote, f, fields, c :: rest =>
    if c = '\n' then (read .record [] [] rest).map (fun records => (fields ++ [f]) :: records)
    else if c = '"' then read .quotes (f ++ [c]) fields rest
    else if c = ',' then read .field [] (fields ++ [f]) rest
    else .error .quote

def readAll (text : List Char) : Except ParseError (List (List Field)) :=
  match read .record [] [] (dropReturn (crlf text)) with
  | .error e => .error e
  | .ok [] => .ok []
  | .ok (record :: records) =>
    if records.all (fun r => r.length = record.length) then .ok (record :: records)
    else .error .fieldCount

section Steps

variable (f : Field) (fields : List Field) (c : Char) (rest : List Char)

theorem read_record_cons : read .record f fields (c :: rest) =
    if c = '\n' then read .record [] [] rest
    else if c = '"' then read .quotes [] [] rest
    else if c = ',' then read .field [] [f] rest
    else read .plain [c] fields rest := rfl

theorem read_field_cons : read .field f fields (c :: rest) =
    if c = '\n' then (read .record [] [] rest).map (fun records => (fields ++ [f]) :: records)
    else if c = '"' then read .quotes f fields rest
    else if c = ',' then read .field [] (fields ++ [f]) rest
    else read .plain (f ++ [c]) fields rest := rfl

theorem read_plain_cons : read .plain f fields (c :: rest) =
    if c = '\n' then (read .record [] [] rest).map (fun records => (fields ++ [f]) :: records)
    else if c = '"' then .error .bareQuote
    else if c = ',' then read .field [] (fields ++ [f]) rest
    else read .plain (f ++ [c]) fields rest := rfl

theorem read_quotes_cons : read .quotes f fields (c :: rest) =
    if c = '"' then read .quote f fields rest else read .quotes (f ++ [c]) fields rest := rfl

theorem read_quote_cons : read .quote f fields (c :: rest) =
    if c = '\n' then (read .record [] [] rest).map (fun records => (fields ++ [f]) :: records)
    else if c = '"' then read .quotes (f ++ [c]) fields rest
    else if c = ',' then read .field [] (fields ++ [f]) rest
    else .error .quote := rfl

end Steps

section Reader

variable {f g : Field} {fields record : List Field} {rest : List Char} {c : Char}

theorem read_quotes (f g : Field) (fields : List Field) (rest : List Char) :
    read .quotes f fields (doubled g ++ '"' :: rest) = read .quote (f ++ g) fields rest := by
  induction g generalizing f with
  | nil => simp [doubled,read_quotes_cons]
  | cons c g ih =>
    rw [doubled]
    split_ifs with h
    · subst h
      simp only [List.cons_append,read_quotes_cons,read_quote_cons,if_true,Char.reduceEq,if_false]
      rw [ih,List.append_assoc,List.singleton_append]
    · rw [List.cons_append,read_quotes_cons,if_neg h,ih,List.append_assoc,List.singleton_append]

theorem read_plain (hg : ∀ c ∈ g, special c = false) (f : Field) (fields : List Field)
    (rest : List Char) :
    read .plain f fields (g ++ rest) = read .plain (f ++ g) fields rest := by
  induction g generalizing f with
  | nil => rw [List.nil_append,List.append_nil]
  | cons c g ih =>
    have hc := hg c List.mem_cons_self
    simp only [special,Bool.or_eq_false_iff,decide_eq_false_iff_not] at hc
    obtain ⟨⟨⟨hline,-⟩,hquote⟩,hcomma⟩ := hc
    rw [List.cons_append,read_plain_cons,if_neg hline,if_neg hquote,if_neg hcomma,
      ih (fun d hd => hg d (List.mem_cons_of_mem c hd)),List.append_assoc,List.singleton_append]

theorem read_quote_eq (hc : c = ',' ∨ c = '\n') :
    read .quote f fields (c :: rest) = read .plain f fields (c :: rest) := by
  rcases hc with rfl | rfl <;> simp [read_quote_cons,read_plain_cons]

theorem read_field_eq (hc : c ≠ '"') :
    read .field f fields (c :: rest) = read .plain f fields (c :: rest) := by
  simp [read_field_cons,read_plain_cons,hc]

theorem read_record_eq (hc : c ≠ '\n') :
    read .record [] [] (c :: rest) = read .field [] [] (c :: rest) := by
  simp [read_record_cons,read_field_cons,hc]

theorem read_open (fields : List Field) (rest : List Char) :
    read .field [] fields ('"' :: rest) = read .quotes [] fields rest := by
  simp [read_field_cons]

theorem fieldNeedsQuotes_of_mem (hc : c ∈ f) (h : special c = true) :
    fieldNeedsQuotes f = true := by
  cases f with
  | nil => cases hc
  | cons d f =>
    have hany : (d :: f).any special = true := List.any_eq_true.mpr ⟨c,hc,h⟩
    rw [fieldNeedsQuotes,hany]
    simp

theorem not_special_of_plain (h : ¬fieldNeedsQuotes f = true) : ∀ c ∈ f, special c = false := by
  intro c hc
  by_contra hs
  exact h (fieldNeedsQuotes_of_mem hc (by simpa using hs))

theorem read_writeField (hc : c = ',' ∨ c = '\n') (g : Field) (fields : List Field)
    (rest : List Char) :
    read .field [] fields (writeField g ++ c :: rest) = read .plain g fields (c :: rest) := by
  rw [writeField]
  split_ifs with h
  · rw [List.cons_append,List.append_assoc,List.singleton_append,read_open,read_quotes,
      List.nil_append,read_quote_eq hc]
  · have hplain := not_special_of_plain h
    cases g with
    | nil =>
      rw [List.nil_append,read_field_eq]
      rcases hc with rfl | rfl <;> decide
    | cons d g =>
      have hd := hplain d List.mem_cons_self
      have hquote : d ≠ '"' := by
        rintro rfl
        cases hd
      rw [List.cons_append,read_field_eq hquote,← List.cons_append,read_plain hplain]
      rfl

theorem read_writeFields (g : Field) (gs fields : List Field) (rest : List Char) :
    read .field [] fields (writeFields (g :: gs) ++ '\n' :: rest) =
      (read .record [] [] rest).map (fun records => (fields ++ g :: gs) :: records) := by
  induction gs generalizing g fields with
  | nil =>
    rw [writeFields,read_writeField (.inr rfl),read_plain_cons,if_pos rfl]
  | cons k gs ih =>
    rw [writeFields,List.append_assoc,List.cons_append,read_writeField (.inl rfl),read_plain_cons,
      if_neg (by decide),if_neg (by decide),if_pos rfl,ih,List.append_assoc]
    · rfl
    · simp

def Written (record : List Field) : Prop := record ≠ [] ∧ record ≠ [[]]

theorem writeFields_head (h : Written record) (rest : List Char) :
    ∃ c text, c ≠ '\n' ∧ writeFields record ++ rest = c :: text := by
  cases record with
  | nil => exact absurd rfl h.1
  | cons f fields =>
    cases f with
    | nil =>
      cases fields with
      | nil => exact absurd rfl h.2
      | cons g fields => exact ⟨',',_,by decide,by rw [writeFields_cons]; rfl⟩
    | cons c f =>
      obtain ⟨d,text,hd,htext⟩ : ∃ d text, d ≠ '\n' ∧ writeField (c :: f) = d :: text := by
        rw [writeField]
        split_ifs with hquotes
        · exact ⟨'"',_,by decide,rfl⟩
        · have hc := not_special_of_plain hquotes c List.mem_cons_self
          refine ⟨c,f,?_,rfl⟩
          rintro rfl
          cases hc
      cases fields with
      | nil => exact ⟨d,text ++ rest,hd,by rw [writeFields,htext,List.cons_append]⟩
      | cons g fields =>
        refine ⟨d,text ++ ',' :: writeFields (g :: fields) ++ rest,hd,?_⟩
        rw [writeFields_cons,htext]
        simp

theorem read_writeAll {records : List (List Field)} (h : ∀ record ∈ records, Written record) :
    read .record [] [] (writeAll records) = .ok records := by
  induction records with
  | nil => rfl
  | cons record records ih =>
    have hrecord := h record List.mem_cons_self
    have htail := ih (fun r hr => h r (List.mem_cons_of_mem record hr))
    obtain ⟨c,text,hc,htext⟩ := writeFields_head hrecord ('\n' :: writeAll records)
    have hwrite : writeAll (record :: records) = writeFields record ++ '\n' :: writeAll records := by
      simp [writeAll,write]
    rw [hwrite,htext,read_record_eq hc,← htext]
    cases record with
    | nil => exact absurd rfl hrecord.1
    | cons g gs =>
      rw [read_writeFields,htail]
      rfl

end Reader

section Returns

theorem crlf_eq_self {f : List Char} (h : '\r' ∉ f) : crlf f = f := by
  fun_induction crlf f with
  | case1 => rfl
  | case2 c => rfl
  | case3 c d rest hcd ih => exact absurd (hcd.1 ▸ List.mem_cons_self) h
  | case4 c d rest hcd ih => rw [ih (fun hr => h (List.mem_cons_of_mem c hr))]

theorem crlf_cons {c : Char} (hc : c ≠ '\r') (f : List Char) : crlf (c :: f) = c :: crlf f := by
  cases f with
  | nil => rfl
  | cons d f => rw [crlf,if_neg (fun h => hc h.1)]

theorem crlf_cons_of_head {c : Char} {f : List Char} (h : f.head? ≠ some '\n') :
    crlf (c :: f) = c :: crlf f := by
  cases f with
  | nil => rfl
  | cons d f =>
    rw [crlf,if_neg]
    rintro ⟨-,rfl⟩
    exact h rfl

theorem crlf_append {a : List Char} (h : a.getLast? ≠ some '\r') (b : List Char) :
    crlf (a ++ b) = crlf a ++ crlf b := by
  fun_induction crlf a with
  | case1 => rfl
  | case2 c => exact crlf_cons (fun hc => h (by rw [hc]; rfl)) b
  | case3 c d rest hcd ih =>
    have hlast : (d :: rest).getLast? ≠ some '\r' := by rwa [List.getLast?_cons_cons] at h
    rw [List.cons_append,List.cons_append,crlf,if_pos hcd]
    exact ih hlast
  | case4 c d rest hcd ih =>
    have hlast : (d :: rest).getLast? ≠ some '\r' := by rwa [List.getLast?_cons_cons] at h
    rw [List.cons_append,List.cons_append,crlf,if_neg hcd]
    exact congrArg (c :: ·) (ih hlast)

theorem exists_special_crlf {f : Field} (h : '\r' ∈ f) : ∃ c ∈ crlf f, special c = true := by
  fun_induction crlf f with
  | case1 => cases h
  | case2 c =>
    obtain rfl := List.mem_singleton.mp h
    exact ⟨'\r',List.mem_singleton_self _,by decide⟩
  | case3 c d rest hcd ih =>
    rw [hcd.2,crlf_cons (by decide)]
    exact ⟨'\n',List.mem_cons_self,by decide⟩
  | case4 c d rest hcd ih =>
    rcases List.mem_cons.mp h with hc | hr
    · exact ⟨c,List.mem_cons_self,by rw [← hc]; decide⟩
    · obtain ⟨s,hs,hspecial⟩ := ih hr
      exact ⟨s,List.mem_cons_of_mem c hs,hspecial⟩

theorem fieldNeedsQuotes_crlf (f : Field) : fieldNeedsQuotes (crlf f) = fieldNeedsQuotes f := by
  by_cases h : '\r' ∈ f
  · obtain ⟨c,hc,hspecial⟩ := exists_special_crlf h
    rw [fieldNeedsQuotes_of_mem hc hspecial,fieldNeedsQuotes_of_mem h (by decide)]
  · rw [crlf_eq_self h]

theorem head?_doubled (f : Field) (rest : List Char) (h : rest.head? ≠ some '\n') :
    (doubled f ++ rest).head? = some '\n' ↔ f.head? = some '\n' := by
  cases f with
  | nil => simpa [doubled] using h
  | cons c f =>
    rw [doubled]
    split_ifs with hc
    · subst hc
      simp
    · simp

theorem crlf_doubled (f : Field) : crlf (doubled f ++ ['"']) = doubled (crlf f) ++ ['"'] := by
  induction f with
  | nil => rfl
  | cons c f ih =>
    by_cases hline : c = '\r' ∧ f.head? = some '\n'
    · obtain ⟨rfl,hhead⟩ := hline
      obtain ⟨f,rfl⟩ : ∃ g, f = '\n' :: g := by
        cases f with
        | nil => cases hhead
        | cons d f => exact ⟨f,by rw [Option.some.inj hhead]⟩
      rw [crlf,if_pos ⟨rfl,rfl⟩,← ih]
      simp [doubled,crlf]
    · have hcrlf : crlf (c :: f) = c :: crlf f := by
        by_cases hc : c = '\r'
        · exact crlf_cons_of_head (fun hh => hline ⟨hc,hh⟩)
        · exact crlf_cons hc f
      rw [hcrlf,doubled,doubled]
      split_ifs with hquote
      · rw [List.cons_append,List.cons_append,crlf_cons (by decide),crlf_cons (by decide),ih]
        rfl
      · rw [List.cons_append,List.cons_append,← ih]
        by_cases hc : c = '\r'
        · refine crlf_cons_of_head (fun hh => hline ⟨hc,?_⟩)
          exact (head?_doubled f ['"'] (by decide)).mp hh
        · exact crlf_cons hc _

theorem crlf_writeField (f : Field) : crlf (writeField f) = writeField (crlf f) := by
  rw [writeField,writeField,fieldNeedsQuotes_crlf]
  split_ifs with h
  · rw [crlf_cons (by decide),crlf_doubled]
  · rfl

theorem getLast?_writeField (f : Field) : (writeField f).getLast? ≠ some '\r' := by
  rw [writeField]
  split_ifs with h
  · rw [← List.cons_append,List.getLast?_concat]
    decide
  · intro hlast
    have hs := not_special_of_plain h '\r' (List.mem_of_getLast? hlast)
    cases hs

theorem getLast?_writeFields (record : List Field) : (writeFields record).getLast? ≠ some '\r' := by
  fun_induction writeFields record with
  | case1 => simp
  | case2 f => exact getLast?_writeField f
  | case3 f rest hrest ih =>
    rw [List.getLast?_append,List.getLast?_cons]
    cases h : (writeFields rest).getLast? with
    | none => simp
    | some c =>
      rw [h] at ih
      simpa using ih

theorem crlf_writeFields (record : List Field) :
    crlf (writeFields record) = writeFields (record.map crlf) := by
  induction record with
  | nil => rfl
  | cons f rest ih =>
    cases rest with
    | nil => exact crlf_writeField f
    | cons g rest =>
      rw [writeFields_cons,crlf_append (getLast?_writeField f),crlf_cons (by decide),ih,crlf_writeField]
      rfl

theorem crlf_writeAll (records : List (List Field)) :
    crlf (writeAll records) = writeAll (records.map (fun record => record.map crlf)) := by
  induction records with
  | nil => rfl
  | cons record records ih =>
    have hsplit : writeAll (record :: records) =
        writeFields record ++ '\n' :: writeAll records := by simp [writeAll,write]
    rw [hsplit,crlf_append (getLast?_writeFields record),crlf_cons (by decide),ih,crlf_writeFields]
    simp [writeAll,write]

theorem dropReturn_writeAll (records : List (List Field)) :
    dropReturn (writeAll records) = writeAll records := by
  rw [dropReturn,if_neg]
  rcases List.eq_nil_or_concat records with rfl | ⟨init,last,rfl⟩
  · decide
  · rw [List.concat_eq_append,writeAll,List.flatMap_append,List.flatMap_singleton,write,← List.append_assoc,
      List.getLast?_concat]
    decide

theorem crlf_eq_nil {f : Field} : crlf f = [] ↔ f = [] := by
  fun_induction crlf f with
  | case1 => simp
  | case2 c => simp
  | case3 c d rest hcd ih => simpa using ih
  | case4 c d rest hcd ih => simp

theorem Written.crlf {record : List Field} (h : Written record) : Written (record.map crlf) := by
  refine ⟨by simpa using h.1,?_⟩
  intro hempty
  obtain ⟨f,rfl,hf⟩ := List.map_eq_singleton_iff.mp hempty
  exact h.2 (by rw [crlf_eq_nil.mp hf])

theorem readAll_writeAll {records : List (List Field)} {width : ℕ}
    (hwritten : ∀ record ∈ records, Written record)
    (hwidth : ∀ record ∈ records, record.length = width) :
    readAll (writeAll records) = .ok (records.map (fun record => record.map Csv.crlf)) := by
  have hread : read .record [] [] (writeAll (records.map (fun record => record.map Csv.crlf))) =
      .ok (records.map (fun record => record.map Csv.crlf)) := by
    apply read_writeAll
    intro record hrecord
    obtain ⟨r,hr,rfl⟩ := List.mem_map.mp hrecord
    exact (hwritten r hr).crlf
  rw [readAll,crlf_writeAll,dropReturn_writeAll,hread]
  cases records with
  | nil => rfl
  | cons record records =>
    have hall : (records.map (fun record => record.map Csv.crlf)).all
        (fun r => r.length = (record.map Csv.crlf).length) = true := by
      rw [List.all_map,List.all_eq_true]
      intro r hr
      simp [hwidth r (List.mem_cons_of_mem record hr),hwidth record List.mem_cons_self]
    simp only [List.map_cons,hall,if_true]

end Returns

end PrismGateway.Lib.Csv
