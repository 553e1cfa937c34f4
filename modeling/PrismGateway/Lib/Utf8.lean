import Mathlib.Data.List.Basic
import PrismGateway.Lib.Framing

namespace PrismGateway.Lib.Utf8

def encode (l : List Char) : List UInt8 := l.flatMap String.utf8EncodeChar

def decode : List UInt8 → List Char
  | [] => []
  | b :: rest =>
    match (b :: rest).toByteArray.utf8DecodeChar? 0 with
    | some c => c :: decode ((b :: rest).drop c.utf8Size)
    | none => '\uFFFD' :: decode rest
termination_by l => l.length
decreasing_by
  · have hpos := c.utf8Size_pos
    simp only [List.length_drop,List.length_cons]
    omega
  · simp

theorem encode_append (l m : List Char) : encode (l ++ m) = encode l ++ encode m :=
  List.flatMap_append

theorem decode_encode (l : List Char) : decode (encode l) = l := by
  induction l with
  | nil => simp [encode,decode]
  | cons c l ih =>
    have hread : (encode (c :: l)).toByteArray.utf8DecodeChar? 0 = some c :=
      List.utf8DecodeChar?_utf8Encode_cons
    have hsplit : encode (c :: l) = String.utf8EncodeChar c ++ encode l := rfl
    have hdrop : (encode (c :: l)).drop c.utf8Size = encode l := by
      rw [hsplit,← String.length_utf8EncodeChar c,List.drop_left]
    cases hbytes : encode (c :: l) with
    | nil =>
      have hnil := (List.append_eq_nil_iff.mp (hsplit.symm.trans hbytes)).1
      exact absurd hnil String.utf8EncodeChar_ne_nil
    | cons b rest =>
      rw [hbytes] at hread hdrop
      rw [decode,hread]
      simp only [hdrop,ih]

theorem ofNat_ne_newline {n k : ℕ} (hk : 11 ≤ k) (hn : n + k < 256) : 10 ≠ UInt8.ofNat (n + k) := by
  intro heq
  have hnat := congrArg UInt8.toNat heq
  rw [UInt8.toNat_ofNat'] at hnat
  change 10 = (n + k) % 256 at hnat
  omega

theorem eq_newline_of_mem {c : Char} (h : 10 ∈ String.utf8EncodeChar c) : c = '\n' := by
  revert h
  fun_cases String.utf8EncodeChar c with
  | case1 v hv =>
    intro h
    have hnat := congrArg UInt8.toNat (List.mem_singleton.mp h)
    rw [UInt8.toNat_ofNat'] at hnat
    have hv' : c.toNat ≤ 127 := hv
    have hten : c.toNat = 10 := by
      change 10 = c.toNat % 256 at hnat
      omega
    rw [← Char.ofNat_toNat c,hten]
  | case2 v =>
    intro h
    simp only [List.mem_cons,List.not_mem_nil,or_false] at h
    rcases h with h | h <;> exact absurd h (ofNat_ne_newline (by decide) (by omega))
  | case3 v =>
    intro h
    simp only [List.mem_cons,List.not_mem_nil,or_false] at h
    rcases h with h | h | h <;> exact absurd h (ofNat_ne_newline (by decide) (by omega))
  | case4 v =>
    intro h
    simp only [List.mem_cons,List.not_mem_nil,or_false] at h
    rcases h with h | h | h | h <;> exact absurd h (ofNat_ne_newline (by decide) (by omega))

theorem newline_not_mem_encode {l : List Char} (h : '\n' ∉ l) : 10 ∉ encode l := by
  intro hmem
  obtain ⟨c,hc,hbyte⟩ := List.mem_flatMap.mp hmem
  exact h (eq_newline_of_mem hbyte ▸ hc)

theorem head_encode_ne {d : Char} (h : d ≠ '\n') (l : List Char) :
    ∃ b rest, encode (d :: l) = b :: rest ∧ b ≠ 10 := by
  cases hbytes : String.utf8EncodeChar d with
  | nil => exact absurd hbytes String.utf8EncodeChar_ne_nil
  | cons b rest =>
    refine ⟨b,rest ++ encode l,?_,?_⟩
    · change String.utf8EncodeChar d ++ encode l = _
      rw [hbytes,List.cons_append]
    · rintro rfl
      exact h (eq_newline_of_mem (hbytes ▸ List.mem_cons_self))

theorem cut_encode (l acc : List Char) :
    Framing.cut 10 (encode l) (encode acc.reverse).reverse =
      ((Framing.cut '\n' l acc).1.map encode,encode (Framing.cut '\n' l acc).2) := by
  have hopen (c : Char) (rest acc : List Char) (hc : c ≠ '\n') :
      Framing.cut 10 (encode (c :: rest)) (encode acc.reverse).reverse =
        Framing.cut 10 (encode rest) (encode (c :: acc).reverse).reverse := by
    have hbytes : 10 ∉ String.utf8EncodeChar c := fun hmem => hc (eq_newline_of_mem hmem)
    have hsplit : encode (c :: rest) = String.utf8EncodeChar c ++ encode rest := rfl
    rw [hsplit,Framing.cut_skip 10 hbytes,List.reverse_cons,encode_append,List.reverse_append]
    congr 2
    simp [encode]
  fun_induction Framing.cut '\n' l acc with
  | case1 c d rest acc hmarks r ih =>
    obtain ⟨rfl,rfl⟩ := hmarks
    have hsplit : encode ('\n' :: '\n' :: rest) = 10 :: 10 :: encode rest := rfl
    rw [hsplit,Framing.cut,if_pos ⟨rfl,rfl⟩]
    have hrest : Framing.cut 10 (encode rest) [] = _ := ih
    simp only [r,List.map_cons,List.reverse_reverse,hrest]
  | case2 c d rest acc hmarks ih =>
    rw [← ih]
    by_cases hc : c = '\n'
    · subst hc
      have hd : d ≠ '\n' := fun hd => hmarks ⟨rfl,hd⟩
      obtain ⟨b,bytes,hbytes,hb⟩ := head_encode_ne hd rest
      have hsplit : encode ('\n' :: d :: rest) = 10 :: encode (d :: rest) := rfl
      rw [hsplit,hbytes,Framing.cut,if_neg fun hboth => hb hboth.2,List.reverse_cons,encode_append,
        List.reverse_append]
      rfl
    · exact hopen c (d :: rest) acc hc
  | case3 c acc =>
    by_cases hc : c = '\n'
    · subst hc
      have hline : encode ['\n'] = [10] := rfl
      rw [hline,Framing.cut,List.reverse_cons,List.reverse_cons,encode_append,List.reverse_reverse]
      rfl
    · rw [hopen c [] acc hc]
      change ([],(encode (c :: acc).reverse).reverse.reverse) = _
      rw [List.reverse_reverse]
      rfl
  | case4 acc => simp [encode,Framing.cut]

theorem encode_cons (c : Char) (l : List Char) :
    encode (c :: l) = String.utf8EncodeChar c ++ encode l := rfl

theorem prefix_head {c d : Char} {l m : List Char} (h : encode (c :: l) <+: encode (d :: m)) :
    c = d := by
  obtain ⟨rest,hrest⟩ := h
  have hread (e : Char) (bytes : List UInt8) :
      (String.utf8EncodeChar e ++ bytes).toByteArray.utf8DecodeChar? 0 = some e := by
    rw [List.toByteArray_append]
    exact ByteArray.utf8DecodeChar?_utf8EncodeChar_append
  have hd : (encode (d :: m)).toByteArray.utf8DecodeChar? 0 = some d := hread d (encode m)
  rw [← hrest,encode_cons,List.append_assoc,hread] at hd
  exact Option.some.inj hd

theorem prefix_of_encode {a b : List Char} (h : encode a <+: encode b) : a <+: b := by
  induction a generalizing b with
  | nil => exact List.nil_prefix
  | cons c a ih =>
    cases b with
    | nil =>
      have hnil := (List.append_eq_nil_iff.mp (List.prefix_nil.mp h)).1
      exact absurd hnil String.utf8EncodeChar_ne_nil
    | cons d b =>
      obtain rfl := prefix_head h
      rw [encode_cons,encode_cons,List.prefix_append_right_inj] at h
      exact List.cons_prefix_cons.mpr ⟨rfl,ih h⟩

theorem encode_synchronizes {c d : Char} {x rest tail : List UInt8} (hx : x ≠ [])
    (h : x ++ (String.utf8EncodeChar c ++ rest) = String.utf8EncodeChar d ++ tail) :
    (String.utf8EncodeChar d).length ≤ x.length := by
  by_contra hlt
  have hin : x.length < (String.utf8EncodeChar d).length := Nat.lt_of_not_le hlt
  have hpos : 0 < (String.utf8EncodeChar c).length := by
    rw [String.length_utf8EncodeChar]
    exact c.utf8Size_pos
  have hbyte : (String.utf8EncodeChar c)[0] = (String.utf8EncodeChar d)[x.length] := by
    have hat := congrArg (·[x.length]?) h
    simp only [List.getElem?_append_right (Nat.le_refl _),Nat.sub_self,
      List.getElem?_append_left hpos,List.getElem?_append_left hin,
      List.getElem?_eq_getElem hpos,List.getElem?_eq_getElem hin] at hat
    exact Option.some.inj hat
  have hfirst : (String.utf8EncodeChar d)[x.length].IsUTF8FirstByte :=
    hbyte ▸ UInt8.isUTF8FirstByte_getElem_utf8EncodeChar.mpr rfl
  exact hx (List.length_eq_zero_iff.mp (UInt8.isUTF8FirstByte_getElem_utf8EncodeChar.mp hfirst))

theorem infix_of_encode {a b : List Char} (h : encode a <:+: encode b) : a <:+: b := by
  cases a with
  | nil => exact List.nil_infix
  | cons c a =>
    obtain ⟨x,y,hxy⟩ := h
    induction b generalizing x with
    | nil =>
      have hnil := (List.append_eq_nil_iff.mp (List.append_eq_nil_iff.mp hxy).1).2
      exact absurd (List.append_eq_nil_iff.mp hnil).1 String.utf8EncodeChar_ne_nil
    | cons d b ih =>
      by_cases hx : x = []
      · subst hx
        exact (prefix_of_encode ⟨y,hxy⟩).isInfix
      · rw [encode_cons,encode_cons,List.append_assoc,List.append_assoc] at hxy
        have hle := encode_synchronizes hx hxy
        have htake : x.take (String.utf8EncodeChar d).length = String.utf8EncodeChar d := by
          have hcut := congrArg (List.take (String.utf8EncodeChar d).length) hxy
          rwa [List.take_append_of_le_length hle,List.take_left] at hcut
        rw [← List.take_append_drop (String.utf8EncodeChar d).length x,htake,List.append_assoc,
          List.append_cancel_left_eq] at hxy
        refine (ih (x.drop (String.utf8EncodeChar d).length) ?_).trans (List.suffix_cons d b).isInfix
        rw [encode_cons,List.append_assoc,List.append_assoc,hxy]

theorem infix_encode_iff {a b : List Char} : encode a <:+: encode b ↔ a <:+: b := by
  refine ⟨infix_of_encode,?_⟩
  rintro ⟨x,y,rfl⟩
  exact ⟨encode x,encode y,by rw [encode_append,encode_append]⟩

end PrismGateway.Lib.Utf8
