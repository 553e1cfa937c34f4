import Mathlib.Data.List.Forall2
import PrismGateway.Lib.Utf8
import PrismGateway.Router.Stages

namespace PrismGateway.Router.KeywordSearch

open Lib Config

-- a Go string is its bytes; an answer of none is the panic of an index out of range
def lowerByte (c : UInt8) : UInt8 :=
  if 'A'.toUInt8 ≤ c ∧ c ≤ 'Z'.toUInt8 then c + ('a'.toUInt8 - 'A'.toUInt8) else c

def toLower (s : List UInt8) : List UInt8 := s.map lowerByte

def scan (s substr : List UInt8) (i j : ℕ) : Option ℕ :=
  if j < substr.length then do
    let c ← s[i + j]?
    let d ← substr[j]?
    if c = d then scan s substr i (j + 1) else some j
  else some j
termination_by substr.length - j

def searchFrom (s substr : List UInt8) (i : ℕ) : Option ℤ :=
  if i ≤ s.length - substr.length then do
    let j ← scan s substr i 0
    if j = substr.length then some (i : ℤ) else searchFrom s substr (i + 1)
  else some (-1)
termination_by s.length - substr.length + 1 - i

def indexOfSubstr (s substr : List UInt8) : Option ℤ :=
  if substr.length = 0 then some 0
  else if s.length < substr.length then some (-1)
  else searchFrom s substr 0

def contains (s substr : List UInt8) : Option Bool :=
  if substr.length ≤ s.length then (indexOfSubstr s substr).map fun i => decide (0 ≤ i)
  else some false

-- the loop over a condition's keywords
def foundAny (combinedText : List UInt8) : List (List UInt8) → Option Bool
  | [] => some false
  | keyword :: rest => do
    if ← contains combinedText (toLower keyword) then some true else foundAny combinedText rest

def combinedText (messages : List (List UInt8)) : List UInt8 :=
  toLower (messages.foldl (fun text msg => text ++ (msg ++ [' '.toUInt8])) [])

def Cased (a b : UInt8) : Prop := 65 ≤ a ∧ a ≤ 90 ∧ b = a + 32

def SameLetter (a b : UInt8) : Prop := a = b ∨ Cased a b ∨ Cased b a

/-- The text `t` stands in `s` at the position `k`, up to the case of ASCII letters. -/
def OccursAt (s t : List UInt8) (k : ℕ) : Prop :=
  ∃ pre mid post, s = pre ++ mid ++ post ∧ pre.length = k ∧ mid.Forall₂ SameLetter t

def Occurs (s t : List UInt8) : Prop := ∃ k, OccursAt s t k

def IsFirst (P : ℕ → Prop) (r : ℤ) : Prop :=
  (r = -1 ∧ ∀ k, ¬P k) ∨ ∃ k : ℕ, r = k ∧ P k ∧ ∀ l < k, ¬P l

def spaced (messages : List (List UInt8)) : List UInt8 :=
  (messages.map (· ++ [' '.toUInt8])).flatten

def joined (messages : List (List UInt8)) : List UInt8 := [' '.toUInt8].intercalate messages

def bytes (s : String) : List UInt8 := Utf8.encode s.toList

section Letters

theorem lowerByte_other {c : UInt8} (h : ¬(65 ≤ c ∧ c ≤ 90)) : lowerByte c = c := if_neg h

theorem lowerByte_upper {c : UInt8} (hlow : 65 ≤ c) (hhigh : c ≤ 90) : lowerByte c = c + 32 :=
  if_pos ⟨hlow,hhigh⟩

theorem lowerByte_cased {a b : UInt8} (h : Cased a b) : lowerByte a = lowerByte b := by
  obtain ⟨hlow,hhigh,rfl⟩ := h
  have hgt : ¬a + 32 ≤ 90 := by
    rw [UInt8.le_iff_toNat_le] at hlow hhigh ⊢
    rw [UInt8.toNat_add]
    change 65 ≤ a.toNat at hlow
    change a.toNat ≤ 90 at hhigh
    change ¬(a.toNat + 32) % 256 ≤ 90
    omega
  rw [lowerByte_upper hlow hhigh,lowerByte_other fun h => hgt h.2]

theorem lowerByte_eq_iff {a b : UInt8} : lowerByte a = lowerByte b ↔ SameLetter a b := by
  constructor
  · intro h
    by_cases ha : 65 ≤ a ∧ a ≤ 90 <;> by_cases hb : 65 ≤ b ∧ b ≤ 90
    · rw [lowerByte_upper ha.1 ha.2,lowerByte_upper hb.1 hb.2] at h
      exact .inl ((UInt8.add_left_inj 32).mp h)
    · rw [lowerByte_upper ha.1 ha.2,lowerByte_other hb] at h
      exact .inr (.inl ⟨ha.1,ha.2,h.symm⟩)
    · rw [lowerByte_upper hb.1 hb.2,lowerByte_other ha] at h
      exact .inr (.inr ⟨hb.1,hb.2,h⟩)
    · rw [lowerByte_other ha,lowerByte_other hb] at h
      exact .inl h
  · rintro (rfl | h | h)
    · rfl
    · exact lowerByte_cased h
    · exact (lowerByte_cased h).symm

theorem toLower_eq_iff {s t : List UInt8} : toLower s = toLower t ↔ s.Forall₂ SameLetter t := by
  rw [← List.forall₂_eq_eq_eq,toLower,toLower,List.forall₂_map_left_iff,List.forall₂_map_right_iff]
  simp only [lowerByte_eq_iff]

theorem occursAt_iff {s t : List UInt8} {k : ℕ} :
    OccursAt s t k ↔ k ≤ (toLower s).length ∧ toLower t <+: (toLower s).drop k := by
  constructor
  · rintro ⟨pre,mid,post,rfl,rfl,hmid⟩
    refine ⟨?_,toLower post,?_⟩
    · simp only [toLower,List.length_map,List.length_append]
      omega
    · rw [← toLower_eq_iff.mpr hmid,toLower,toLower,toLower,List.map_append,List.map_append,
        List.append_assoc,List.drop_left' (List.length_map _)]
  · rintro ⟨hk,post,hpost⟩
    rw [toLower,List.length_map] at hk
    have hdrop : (toLower s).drop k = toLower (s.drop k) := List.map_drop.symm
    have hmid : toLower ((s.drop k).take t.length) = toLower t := by
      have hcut := congrArg (List.take (toLower t).length) hpost
      rw [List.take_left,hdrop] at hcut
      rw [hcut,toLower,toLower,toLower,List.length_map,List.map_take]
    refine ⟨s.take k,(s.drop k).take t.length,(s.drop k).drop t.length,?_,
      List.length_take_of_le hk,toLower_eq_iff.mp hmid⟩
    rw [List.append_assoc,List.take_append_drop,List.take_append_drop]

theorem occurs_iff_lower {s t : List UInt8} : Occurs s t ↔ toLower t <:+: toLower s := by
  constructor
  · rintro ⟨k,hk⟩
    exact (occursAt_iff.mp hk).2.isInfix.trans (List.drop_suffix k _).isInfix
  · rintro ⟨pre,post,h⟩
    refine ⟨pre.length,occursAt_iff.mpr ⟨?_,post,?_⟩⟩
    · rw [← h,List.append_assoc,List.length_append]
      exact Nat.le_add_right _ _
    · rw [← h,List.append_assoc,List.drop_left]

end Letters

section Search

variable {s t : List UInt8}

theorem scan_spec {i j : ℕ} (hi : i + t.length ≤ s.length) (hj : j ≤ t.length) :
    ∃ k, scan s t i j = some k ∧ (k = t.length ↔ t.drop j <+: s.drop (i + j)) := by
  induction hleft : t.length - j generalizing j with
  | zero =>
    obtain rfl : j = t.length := by omega
    rw [scan,if_neg (lt_irrefl _),List.drop_length]
    exact ⟨_,rfl,iff_of_true rfl List.nil_prefix⟩
  | succ left ih =>
    have hlt : j < t.length := by omega
    have hin : i + j < s.length := by omega
    rw [scan,if_pos hlt,List.getElem?_eq_getElem hin,List.getElem?_eq_getElem hlt,
      List.drop_eq_getElem_cons hlt,List.drop_eq_getElem_cons hin,List.cons_prefix_cons]
    simp only [Option.bind_eq_bind,Option.bind_some]
    split
    case isTrue hsame =>
      obtain ⟨k,hk,hiff⟩ := ih (j := j + 1) hlt (by omega)
      refine ⟨k,hk,hiff.trans ?_⟩
      rw [← Nat.add_assoc]
      exact (and_iff_right hsame.symm).symm
    case isFalse hdiff =>
      exact ⟨j,rfl,iff_of_false hlt.ne fun h => hdiff h.1.symm⟩

theorem searchFrom_spec (hfits : t.length ≤ s.length) (hpos : 0 < t.length) {i : ℕ}
    (hbefore : ∀ l < i, ¬t <+: s.drop l) :
    ∃ r, searchFrom s t i = some r ∧ IsFirst (fun k => t <+: s.drop k) r := by
  induction hleft : s.length - t.length + 1 - i generalizing i with
  | zero =>
    refine ⟨-1,by rw [searchFrom,if_neg (by omega)],.inl ⟨rfl,fun k hk => ?_⟩⟩
    have hlen := hk.length_le
    rw [List.length_drop] at hlen
    exact hbefore k (by omega) hk
  | succ left ih =>
    obtain ⟨j,hj,hiff⟩ := scan_spec (s := s) (t := t) (i := i) (by omega) (Nat.zero_le _)
    rw [List.drop_zero,Nat.add_zero] at hiff
    rw [searchFrom,if_pos (by omega),hj,Option.bind_eq_bind,Option.bind_some]
    split
    case isTrue hall => exact ⟨i,rfl,.inr ⟨i,rfl,hiff.mp hall,hbefore⟩⟩
    case isFalse hpart =>
      refine ih (fun l hl => ?_) (by omega)
      rcases Nat.lt_succ_iff_lt_or_eq.mp hl with hl | rfl
      · exact hbefore l hl
      · exact fun h => hpart (hiff.mpr h)

theorem indexOfSubstr_spec (s t : List UInt8) :
    ∃ r, indexOfSubstr s t = some r ∧ IsFirst (fun k => k ≤ s.length ∧ t <+: s.drop k) r := by
  unfold indexOfSubstr
  split_ifs with hempty hlong
  · obtain rfl : t = [] := List.length_eq_zero_iff.mp hempty
    exact ⟨0,rfl,.inr ⟨0,rfl,⟨Nat.zero_le _,List.nil_prefix⟩,fun l hl => absurd hl l.not_lt_zero⟩⟩
  · refine ⟨-1,rfl,.inl ⟨rfl,fun k hk => ?_⟩⟩
    have hlen := hk.2.length_le
    rw [List.length_drop] at hlen
    omega
  · have hpos : 0 < t.length := Nat.pos_of_ne_zero hempty
    have hinside (k : ℕ) : (k ≤ s.length ∧ t <+: s.drop k) ↔ t <+: s.drop k := by
      refine and_iff_right_of_imp fun h => ?_
      have hlen := h.length_le
      rw [List.length_drop] at hlen
      omega
    simp only [hinside]
    exact searchFrom_spec (Nat.le_of_not_lt hlong) hpos fun l hl => absurd hl l.not_lt_zero

theorem IsFirst.nonneg_iff {P : ℕ → Prop} {r : ℤ} (h : IsFirst P r) : 0 ≤ r ↔ ∃ k, P k := by
  rcases h with ⟨rfl,hnone⟩ | ⟨k,rfl,hk,-⟩
  · exact iff_of_false (by decide) fun ⟨k,hk⟩ => hnone k hk
  · exact iff_of_true (Int.natCast_nonneg k) ⟨k,hk⟩

theorem indexOfSubstr_first (s t : List UInt8) :
    ∃ r, indexOfSubstr (toLower s) (toLower t) = some r ∧ IsFirst (OccursAt s t) r := by
  obtain ⟨r,hr,hfirst⟩ := indexOfSubstr_spec (toLower s) (toLower t)
  simp only [← occursAt_iff] at hfirst
  exact ⟨r,hr,hfirst⟩

theorem contains_eq (s t : List UInt8) :
    ∃ b, contains (toLower s) (toLower t) = some b ∧ (b = true ↔ Occurs s t) := by
  unfold contains
  split_ifs with hfits
  · obtain ⟨r,hr,hfirst⟩ := indexOfSubstr_first s t
    rw [hr]
    exact ⟨_,rfl,decide_eq_true_iff.trans hfirst.nonneg_iff⟩
  · refine ⟨false,rfl,iff_of_false Bool.false_ne_true fun h => hfits ?_⟩
    exact (occurs_iff_lower.mp h).length_le

end Search

section Rules

theorem foundAny_eq (text : List UInt8) (keywords : List (List UInt8)) :
    ∃ b, foundAny (toLower text) keywords = some b ∧
      (b = true ↔ ∃ keyword ∈ keywords, Occurs text keyword) := by
  induction keywords with
  | nil => exact ⟨false,rfl,by simp⟩
  | cons keyword rest ih =>
    obtain ⟨b,hb,hfound⟩ := contains_eq text keyword
    rw [foundAny,hb,Option.bind_eq_bind,Option.bind_some]
    cases b with
    | true => exact ⟨true,rfl,iff_of_true rfl ⟨keyword,List.mem_cons_self,hfound.mp rfl⟩⟩
    | false =>
      obtain ⟨c,hc,hrest⟩ := ih
      have hnot : ¬Occurs text keyword := fun h => Bool.false_ne_true (hfound.mpr h)
      refine ⟨c,hc,hrest.trans ?_⟩
      rw [List.exists_mem_cons_iff,or_iff_right hnot]

theorem combinedText_eq (messages : List (List UInt8)) :
    combinedText messages = toLower (spaced messages) := by
  rw [combinedText,List.foldl_append_eq_append,List.nil_append,spaced]

theorem spaced_eq {messages : List (List UInt8)} (h : messages ≠ []) :
    spaced messages = joined messages ++ [' '.toUInt8] := by
  induction messages with
  | nil => exact absurd rfl h
  | cons msg rest ih =>
    have hsplit : spaced (msg :: rest) = msg ++ [' '.toUInt8] ++ spaced rest := rfl
    by_cases hrest : rest = []
    · subst hrest
      rw [hsplit,joined,List.intercalate_singleton]
      exact List.append_nil _
    · rw [hsplit,ih hrest,joined,joined,List.intercalate_cons_of_ne_nil hrest,List.append_assoc,
        List.append_assoc,List.append_assoc]

theorem occurs_iff {s t : List UInt8} : Occurs s t ↔ ∃ mid, mid <:+: s ∧ mid.Forall₂ SameLetter t := by
  constructor
  · rintro ⟨_,pre,mid,post,rfl,-,hmid⟩
    exact ⟨mid,⟨pre,post,rfl⟩,hmid⟩
  · rintro ⟨mid,⟨pre,post,rfl⟩,hmid⟩
    exact ⟨pre.length,pre,mid,post,rfl,rfl,hmid⟩

theorem lowerByte_eq_space {c : UInt8} (h : lowerByte c = ' '.toUInt8) : c = ' '.toUInt8 := by
  by_cases hupper : 65 ≤ c ∧ c ≤ 90
  · rw [lowerByte_upper hupper.1 hupper.2] at h
    rw [(UInt8.add_left_inj 32).mp (h.trans (by decide : ' '.toUInt8 = 0 + 32))] at hupper
    exact absurd hupper (by decide)
  · rwa [lowerByte_other hupper] at h

theorem getLast_toLower {keyword : List UInt8}
    (h : (toLower keyword).getLast? = some ' '.toUInt8) : keyword.getLast? = some ' '.toUInt8 := by
  rw [toLower,List.getLast?_map] at h
  obtain ⟨c,hc,hlower⟩ := Option.map_eq_some_iff.mp h
  rw [hc,lowerByte_eq_space hlower]

theorem occurs_spaced_iff {messages : List (List UInt8)} {keyword : List UInt8}
    (h : keyword.getLast? ≠ some ' '.toUInt8) :
    Occurs (spaced messages) keyword ↔ Occurs (joined messages) keyword := by
  by_cases hnone : messages = []
  · subst hnone
    rfl
  rw [spaced_eq hnone,occurs_iff,occurs_iff]
  refine exists_congr fun mid => and_congr_left fun hmid => ?_
  rw [List.infix_concat_iff]
  refine or_iff_right_of_imp fun hsuffix => ?_
  rcases mid.eq_nil_or_concat with rfl | ⟨front,last,rfl⟩
  · exact List.nil_infix
  · rw [List.concat_eq_append] at hsuffix hmid ⊢
    obtain ⟨pre,hpre⟩ := hsuffix
    rw [← List.append_assoc] at hpre
    obtain rfl : last = ' '.toUInt8 := (List.append_singleton_inj.mp hpre).2
    refine absurd (getLast_toLower ?_) h
    rw [← toLower_eq_iff.mpr hmid,toLower,List.map_append]
    exact List.getLast?_concat

theorem lowerByte_large {n k : ℕ} (hk : 91 ≤ k) (hn : n + k < 256) :
    lowerByte (UInt8.ofNat (n + k)) = UInt8.ofNat (n + k) := by
  refine lowerByte_other fun h => ?_
  have hle := UInt8.le_iff_toNat_le.mp h.2
  rw [UInt8.toNat_ofNat'] at hle
  change (n + k) % 256 ≤ 90 at hle
  omega

theorem encodeChar_toLower (c : Char) :
    String.utf8EncodeChar c.toLower = (String.utf8EncodeChar c).map lowerByte := by
  by_cases hascii : c.toNat < 128
  · have hall : ∀ n < 128, String.utf8EncodeChar (Char.ofNat n).toLower =
        (String.utf8EncodeChar (Char.ofNat n)).map lowerByte := by decide
    have hc := hall c.toNat hascii
    rwa [Char.ofNat_toNat] at hc
  have hkept : c.toLower = c := by
    refine dif_neg fun h => hascii ?_
    exact Nat.lt_of_le_of_lt (UInt32.le_iff_toNat_le.mp h.2) (by decide)
  rw [hkept]
  fun_cases String.utf8EncodeChar c with
  | case1 v hv => exact absurd (Nat.lt_succ_of_le hv) hascii
  | case2 v =>
    simp only [List.map_cons,List.map_nil]
    rw [lowerByte_large (by decide) (by omega),lowerByte_large (by decide) (by omega)]
  | case3 v =>
    simp only [List.map_cons,List.map_nil]
    rw [lowerByte_large (by decide) (by omega),lowerByte_large (by decide) (by omega),
      lowerByte_large (by decide) (by omega)]
  | case4 v =>
    simp only [List.map_cons,List.map_nil]
    rw [lowerByte_large (by decide) (by omega),lowerByte_large (by decide) (by omega),
      lowerByte_large (by decide) (by omega),lowerByte_large (by decide) (by omega)]

theorem bytes_toLower (s : String) : bytes (Router.toLower s) = toLower (bytes s) := by
  rw [bytes,Router.toLower,String.toList_map,bytes]
  generalize s.toList = l
  induction l with
  | nil => rfl
  | cons c l ih =>
    rw [List.map_cons,Utf8.encode_cons,ih,encodeChar_toLower,Utf8.encode_cons,toLower,toLower,
      List.map_append]

theorem contains_bytes (s t : String) :
    GoStrings.contains (Router.toLower s) (Router.toLower t) = true ↔ Occurs (bytes s) (bytes t) := by
  rw [occurs_iff_lower,← bytes_toLower,← bytes_toLower,bytes,bytes,Utf8.infix_encode_iff,
    GoStrings.contains,GoStrings.runes_eq_toList,GoStrings.runes_eq_toList,List.any_eq_true,
    List.infix_iff_prefix_suffix]
  simp only [List.mem_tails,List.isPrefixOf_iff_prefix,and_comm]

theorem bytes_append (s t : String) : bytes (s ++ t) = bytes s ++ bytes t := by
  rw [bytes,String.toList_append,Utf8.encode_append,bytes,bytes]

theorem combined_bytes (messages : List String) :
    bytes (String.join (messages.map (· ++ " "))) = spaced (messages.map bytes) := by
  induction messages with
  | nil => rfl
  | cons msg rest ih =>
    rw [List.map_cons,String.join_cons,bytes_append,bytes_append,ih]
    rfl

theorem evaluateCondition_iff (messages : List String) (cond : SmartRuleCondition) :
    evaluateCondition (prompt messages) cond = true ↔
      evaluateCondition (prompt messages) { cond with contains := [] } = true ∧
        (cond.contains = [] ∨
          ∃ keyword ∈ cond.contains, Occurs (spaced (messages.map bytes)) (bytes keyword)) := by
  have hkeywords : cond.contains.any (fun keyword =>
      GoStrings.contains (prompt messages).combinedText (Router.toLower keyword)) = true ↔
      ∃ keyword ∈ cond.contains, Occurs (spaced (messages.map bytes)) (bytes keyword) := by
    simp only [List.any_eq_true,prompt,contains_bytes,combined_bytes]
  simp only [evaluateCondition,Bool.and_eq_true,Bool.or_eq_true,hkeywords,List.isEmpty_iff,
    List.isEmpty_nil,Bool.true_or,and_true]
  exact and_right_comm

theorem keyword_search :
    (∀ s t : List UInt8, ∃ b, contains (toLower s) (toLower t) = some b ∧ (b = true ↔ Occurs s t)) ∧
    (∀ s t : List UInt8, ∃ r,
      indexOfSubstr (toLower s) (toLower t) = some r ∧ IsFirst (OccursAt s t) r) ∧
    (∀ messages keywords : List (List UInt8), ∃ b,
      foundAny (combinedText messages) keywords = some b ∧
        (b = true ↔ ∃ keyword ∈ keywords, Occurs (spaced messages) keyword)) ∧
    (∀ (messages : List String) (cond : SmartRuleCondition),
      evaluateCondition (prompt messages) cond = true ↔
        evaluateCondition (prompt messages) { cond with contains := [] } = true ∧
          (cond.contains = [] ∨
            ∃ keyword ∈ cond.contains, Occurs (spaced (messages.map bytes)) (bytes keyword))) ∧
    ∀ (messages : List (List UInt8)) (keyword : List UInt8),
      keyword.getLast? ≠ some ' '.toUInt8 →
        (Occurs (spaced messages) keyword ↔ Occurs (joined messages) keyword) := by
  refine ⟨contains_eq,indexOfSubstr_first,fun messages keywords => ?_,evaluateCondition_iff,
    fun _ _ h => occurs_spaced_iff h⟩
  rw [combinedText_eq]
  exact foundAny_eq (spaced messages) keywords

theorem spaced_hello : Occurs (spaced [bytes "hello"]) (bytes "hello ") :=
  ⟨0,occursAt_iff.mpr ⟨Nat.zero_le _,by decide⟩⟩

theorem trailing_space_found :
    ¬∀ (messages : List String) (cond : SmartRuleCondition),
      evaluateCondition (prompt messages) cond = true ↔
        evaluateCondition (prompt messages) { cond with contains := [] } = true ∧
          (cond.contains = [] ∨
            ∃ keyword ∈ cond.contains, Occurs (joined (messages.map bytes)) (bytes keyword)) := by
  intro h
  have hmatch := (evaluateCondition_iff ["hello"] { contains := ["hello "] }).mpr
    ⟨rfl,.inr ⟨"hello ",List.mem_singleton_self _,spaced_hello⟩⟩
  obtain ⟨-,hnil | ⟨keyword,hkeyword,hoccurs⟩⟩ := (h _ _).mp hmatch
  · exact absurd hnil (List.cons_ne_nil _ _)
  · obtain rfl := List.mem_singleton.mp hkeyword
    exact absurd (occurs_iff_lower.mp hoccurs).length_le (by decide)

end Rules

end PrismGateway.Router.KeywordSearch
