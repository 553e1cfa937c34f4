import Mathlib.Data.Int.Log
import Mathlib.Data.List.DropRight
import Mathlib.Data.Rat.Floor
import PrismGateway.Lib.JsonNumbers

namespace PrismGateway.Lib

namespace NumberText

structure Parts where
  negative : Bool
  whole : List Char
  fraction : List Char
  exponent : Option ℤ

def dotted : List Char → List Char
  | [] => []
  | l => '.' :: l

def exponentChars : Option ℤ → List Char
  | none => []
  | some e => 'e' :: (if e < 0 then '-' else '+') :: Nat.toDigits 10 e.natAbs

def Parts.unsigned (p : Parts) : List Char := p.whole ++ (dotted p.fraction ++ exponentChars p.exponent)

def Parts.chars (p : Parts) : List Char := if p.negative then '-' :: p.unsigned else p.unsigned

def Leading (l : List Char) : Prop := ∃ c t, l = c :: t ∧ c ≠ '0'

def Digits (l : List Char) : Prop := ∀ c ∈ l, c.isDigit = true

structure Parts.Proper (p : Parts) : Prop where
  whole : p.whole = ['0'] ∨ Leading p.whole
  wholeDigits : Digits p.whole
  fractionDigits : Digits p.fraction

theorem digits_toDigits (n : ℕ) : Digits (Nat.toDigits 10 n) := fun _ hc =>
  Nat.isDigit_of_mem_toDigits (by decide) (by decide) hc

theorem leading_toDigits {n : ℕ} (h : 0 < n) : Leading (Nat.toDigits 10 n) := by
  obtain ⟨c,l,hl,hzero⟩ := head_toDigits n
  refine ⟨c,l,hl,fun hc => ?_⟩
  have hsame : Nat.toDigits 10 n = Nat.toDigits 10 0 := by rw [hl,hc,hzero hc]; rfl
  have heq := Nat.repr_injective
    (show n.repr = (0 : ℕ).repr by rw [Nat.repr_eq_ofList_toDigits,hsame]; rfl)
  omega

theorem dropWhile_digits {l t : List Char} (h : Digits l) (ht : ∀ c, t.head? = some c → c.isDigit = false) :
    (l ++ t).dropWhile Char.isDigit = t := by
  rw [List.dropWhile_append_of_pos h]
  cases t with
  | nil => rfl
  | cons c t => rw [List.dropWhile_cons_of_neg (by rw [ht c rfl]; exact Bool.false_ne_true)]

theorem head_exponentChars {e : Option ℤ} {c : Char} (h : (exponentChars e).head? = some c) : c = 'e' := by
  cases e with
  | none => cases h
  | some e => exact (Option.some.inj h).symm

theorem isExponent_exponentChars (e : Option ℤ) : Doc.isExponent (exponentChars e) = true := by
  cases e with
  | none => rfl
  | some e =>
    obtain ⟨c,l,hl,-⟩ := head_toDigits e.natAbs
    have hdigits : Doc.digits1 (Nat.toDigits 10 e.natAbs) = true := by
      rw [Doc.digits1,List.all_eq_true.mpr (digits_toDigits e.natAbs),hl]
      rfl
    rw [exponentChars,Doc.isExponent]
    split_ifs with h hsign hsign
    · exact hdigits
    · exact absurd (.inr rfl) hsign
    · exact hdigits
    · exact absurd (.inl rfl) hsign

theorem isFraction_dotted {f : List Char} (h : Digits f) (e : Option ℤ) :
    Doc.isFraction (dotted f ++ exponentChars e) = true := by
  have hexponent := isExponent_exponentChars e
  cases f with
  | nil =>
    cases e with
    | none => rfl
    | some e => exact hexponent
  | cons c f =>
    have hrest : (f ++ exponentChars e).dropWhile Char.isDigit = exponentChars e :=
      dropWhile_digits (fun d hd => h d (List.mem_cons_of_mem _ hd))
        (fun d hd => by rw [head_exponentChars hd]; rfl)
    show (c.isDigit && Doc.isExponent ((f ++ exponentChars e).dropWhile Char.isDigit)) = true
    rw [hrest,hexponent,h c List.mem_cons_self]
    rfl

theorem head_dotted {f : List Char} {e : Option ℤ} {c : Char}
    (h : (dotted f ++ exponentChars e).head? = some c) : c.isDigit = false := by
  cases f with
  | nil => rw [head_exponentChars h]; rfl
  | cons d f =>
    cases h
    rfl

namespace Parts

variable {p : Parts}

theorem Proper.isUnsigned (h : p.Proper) : Doc.isUnsigned p.unsigned = true := by
  have hfraction := isFraction_dotted h.fractionDigits p.exponent
  rcases h.whole with hwhole | ⟨c,t,hwhole,hc⟩
  · rw [unsigned,hwhole]
    exact hfraction
  · have hdigits := h.wholeDigits
    rw [hwhole] at hdigits
    have hrest : (t ++ (dotted p.fraction ++ exponentChars p.exponent)).dropWhile Char.isDigit =
        dotted p.fraction ++ exponentChars p.exponent :=
      dropWhile_digits (fun d hd => hdigits d (List.mem_cons_of_mem _ hd)) (fun d hd => head_dotted hd)
    rw [unsigned,hwhole,List.cons_append,Doc.isUnsigned,if_neg hc,hrest,hfraction,
      hdigits c List.mem_cons_self]
    rfl

theorem Proper.head_ne (h : p.Proper) : p.unsigned.head? ≠ some '-' := by
  rcases h.whole with hwhole | ⟨c,t,hwhole,-⟩
  · rw [unsigned,hwhole]
    exact fun hminus => absurd (Option.some.inj hminus) (by decide)
  · have hc := h.wholeDigits c (by rw [hwhole]; exact List.mem_cons_self)
    rw [unsigned,hwhole]
    intro hminus
    rw [Option.some.inj hminus] at hc
    exact absurd hc (by decide)

theorem Proper.isNumber (h : p.Proper) : Doc.isNumber p.chars = true := by
  rw [chars,Doc.isNumber]
  cases p.negative with
  | false => exact (congrArg Doc.isUnsigned (if_neg h.head_ne)).trans h.isUnsigned
  | true => exact h.isUnsigned

theorem Proper.isNumberChar (h : p.Proper) : ∀ c ∈ p.chars, Doc.isNumberChar c = true := by
  have hdigit : ∀ {l : List Char}, Digits l → ∀ c ∈ l, Doc.isNumberChar c = true := by
    intro l hl c hc
    simp [Doc.isNumberChar,hl c hc]
  have hdotted : ∀ c ∈ dotted p.fraction, Doc.isNumberChar c = true := by
    intro c hc
    cases hf : p.fraction with
    | nil =>
      rw [hf] at hc
      cases hc
    | cons d f =>
      rw [hf] at hc
      rcases List.mem_cons.mp hc with rfl | hc
      · rfl
      · exact hdigit (hf ▸ h.fractionDigits) c hc
  have hexponent : ∀ c ∈ exponentChars p.exponent, Doc.isNumberChar c = true := by
    intro c hc
    cases he : p.exponent with
    | none =>
      rw [he] at hc
      cases hc
    | some e =>
      rw [he] at hc
      rcases List.mem_cons.mp hc with rfl | hc
      · rfl
      · rcases List.mem_cons.mp hc with rfl | hc
        · split_ifs <;> rfl
        · exact hdigit (digits_toDigits e.natAbs) c hc
  have hunsigned : ∀ c ∈ p.unsigned, Doc.isNumberChar c = true := by
    intro c hc
    rcases List.mem_append.mp hc with hc | hc
    · exact hdigit h.wholeDigits c hc
    · rcases List.mem_append.mp hc with hc | hc
      · exact hdotted c hc
      · exact hexponent c hc
  intro c hc
  rw [chars] at hc
  split_ifs at hc
  · rcases List.mem_cons.mp hc with rfl | hc
    · rfl
    · exact hunsigned c hc
  · exact hunsigned c hc

def Proper.text (h : p.Proper) : NumberText where
  chars := p.chars
  one_line hc := absurd (h.isNumberChar _ hc) (by decide)

theorem Proper.valid (h : p.Proper) : h.text.Valid = true := by
  rw [Valid,Bool.and_eq_true]
  exact ⟨List.all_eq_true.mpr h.isNumberChar,h.isNumber⟩

end Parts

end NumberText

namespace FloatText

open NumberText

/-- A finite float by its bits: its sign and `mant * 2 ^ exp`. -/
structure Binary where
  negative : Bool
  mant : ℕ
  exp : ℤ

def binary (x : Float) : Option Binary :=
  let bits := x.toBits.toNat
  let negative := decide (2 ^ 63 ≤ bits)
  let biased : ℕ := bits / 2 ^ 52 % 2 ^ 11
  let mant := bits % 2 ^ 52
  if biased = 2047 then none
  else if biased = 0 then some ⟨negative,mant,-1074⟩
  else some ⟨negative,mant + 2 ^ 52,(biased : ℤ) - 1075⟩

namespace Binary

variable (b : Binary)

def value : ℚ := b.mant * 2 ^ b.exp

-- Below a power of two the floats lie twice as close.
def lower : ℚ :=
  if 2 ^ 52 < b.mant ∨ b.exp = -1074 ∨ b.mant < 2 ^ 52 then (2 * b.mant - 1) * 2 ^ (b.exp - 1)
  else (4 * b.mant - 1) * 2 ^ (b.exp - 2)

def upper : ℚ := (2 * b.mant + 1) * 2 ^ (b.exp - 1)

def reads (d : ℚ) : Bool :=
  if b.mant % 2 = 0 then b.lower ≤ d && d ≤ b.upper else b.lower < d && d < b.upper

end Binary

/-- `digits * 10 ^ place`. -/
structure Decimal where
  digits : ℕ
  place : ℤ
  pos : 0 < digits

def scaled (v : ℚ) (n : ℕ) : ℚ := v / 10 ^ (Int.log 10 v - n)

theorem floor_scaled_pos {v : ℚ} (h : 0 < v) (n : ℕ) : 0 < ⌊scaled v n⌋₊ := by
  have hlog : (10 : ℚ) ^ Int.log 10 v ≤ v := Int.zpow_log_le_self (by decide) h
  have hplace : (0 : ℚ) < 10 ^ (Int.log 10 v - n) := zpow_pos (by norm_num) _
  have hle : (10 : ℚ) ^ (Int.log 10 v - n) ≤ 10 ^ Int.log 10 v :=
    zpow_le_zpow_right₀ (by norm_num) (by omega)
  exact Nat.floor_pos.mpr ((one_le_div hplace).mpr (hle.trans hlog))

def withDigits (b : Binary) (h : 0 < b.value) (n : ℕ) : Option Decimal :=
  let place := Int.log 10 b.value - n
  let q := scaled b.value n
  let down : Decimal := ⟨⌊q⌋₊,place,floor_scaled_pos h n⟩
  let up : Decimal := ⟨⌊q⌋₊ + 1,place,Nat.succ_pos _⟩
  let near := q - ⌊q⌋₊ < 1 / 2 ∨ (q - ⌊q⌋₊ = 1 / 2 ∧ ⌊q⌋₊ % 2 = 0)
  match b.reads (⌊q⌋₊ * 10 ^ place),b.reads ((⌊q⌋₊ + 1 : ℕ) * 10 ^ place) with
  | true,true => some (if near then down else up)
  | true,false => some down
  | false,true => some up
  | false,false => none

-- Seventeen digits are always enough.
def shortest (b : Binary) (h : 0 < b.value) : Decimal :=
  ((List.range 17).findSome? (withDigits b h)).getD
    ⟨⌊scaled b.value 16⌋₊,Int.log 10 b.value - 16,floor_scaled_pos h 16⟩

namespace Decimal

variable (d : Decimal)

def chars : List Char := (Nat.toDigits 10 d.digits).rdropWhile (· = '0')

def point : ℤ := (Nat.toDigits 10 d.digits).length + d.place

def whole : List Char :=
  if 0 < d.point then d.chars.take d.point.toNat ++ List.replicate (d.point.toNat - d.chars.length) '0'
  else ['0']

def fraction : List Char :=
  if d.point < d.chars.length then List.replicate (-d.point).toNat '0' ++ d.chars.drop d.point.toNat else []

theorem digits_chars : Digits d.chars := fun c hc =>
  digits_toDigits d.digits c ((List.rdropWhile_prefix (· = '0') _).subset hc)

theorem leading_chars : Leading d.chars := by
  obtain ⟨c,l,hl,hc⟩ := leading_toDigits d.pos
  have hprefix : d.chars <+: c :: l := hl ▸ List.rdropWhile_prefix (· = '0') _
  cases hchars : d.chars with
  | nil =>
    have hall := List.rdropWhile_eq_nil_iff.mp hchars c (by rw [hl]; exact List.mem_cons_self)
    exact absurd (of_decide_eq_true hall) hc
  | cons e t =>
    rw [hchars] at hprefix
    exact ⟨e,t,rfl,(List.cons_prefix_cons.mp hprefix).1 ▸ hc⟩

theorem digits_append {l m : List Char} (hl : Digits l) (hm : Digits m) : Digits (l ++ m) := by
  intro c hc
  rcases List.mem_append.mp hc with hc | hc
  · exact hl c hc
  · exact hm c hc

theorem digits_zeros (n : ℕ) : Digits (List.replicate n '0') := by
  intro c hc
  rw [List.eq_of_mem_replicate hc]
  rfl

theorem proper_plain (negative : Bool) : (Parts.mk negative d.whole d.fraction none).Proper := by
  have hfirst : Digits (d.chars.take d.point.toNat) := fun c hc => d.digits_chars c (List.mem_of_mem_take hc)
  have hlast : Digits (d.chars.drop d.point.toNat) := fun c hc => d.digits_chars c (List.mem_of_mem_drop hc)
  refine ⟨?_,?_,?_⟩
  · show d.whole = ['0'] ∨ Leading d.whole
    rw [whole]
    split_ifs with h
    · obtain ⟨c,t,hchars,hc⟩ := d.leading_chars
      obtain ⟨n,hn⟩ : ∃ n, d.point.toNat = n + 1 := ⟨d.point.toNat - 1,by omega⟩
      refine .inr ⟨c,t.take n ++ List.replicate (d.point.toNat - d.chars.length) '0',?_,hc⟩
      rw [hn,hchars]
      rfl
    · exact .inl rfl
  · show Digits d.whole
    rw [whole]
    split_ifs
    · exact digits_append hfirst (digits_zeros _)
    · exact digits_zeros 1
  · show Digits d.fraction
    rw [fraction]
    split_ifs
    · exact digits_append (digits_zeros _) hlast
    · exact digits_zeros 0

theorem proper_scientific (negative : Bool) (e : ℤ) :
    (Parts.mk negative (d.chars.take 1) (d.chars.drop 1) (some e)).Proper where
  whole := by
    obtain ⟨c,t,hchars,hc⟩ := d.leading_chars
    exact .inr ⟨c,[],by rw [hchars]; rfl,hc⟩
  wholeDigits c hc := d.digits_chars c (List.mem_of_mem_take hc)
  fractionDigits c hc := d.digits_chars c (List.mem_of_mem_drop hc)

end Decimal

theorem proper_zero (negative : Bool) : (Parts.mk negative ['0'] [] none).Proper where
  whole := .inl rfl
  wholeDigits := Decimal.digits_zeros 1
  fractionDigits := Decimal.digits_zeros 0

def format (x : Float) (b : Binary) : {n : NumberText // n.Valid = true} :=
  if h : 0 < b.value then
    let d := shortest b h
    if x.abs < 1e-6 ∨ 1e21 ≤ x.abs then
      ⟨(d.proper_scientific b.negative (d.point - 1)).text,(d.proper_scientific _ _).valid⟩
    else ⟨(d.proper_plain b.negative).text,(d.proper_plain _).valid⟩
  else ⟨(proper_zero b.negative).text,(proper_zero _).valid⟩

def unsupported (x : Float) : String := if x.isNaN then "NaN" else if x < 0 then "-Inf" else "+Inf"

def marshal (x : Float) : Except String {n : NumberText // n.Valid = true} :=
  match binary x with
  | none => .error ("json: unsupported value: " ++ unsupported x)
  | some b => .ok (format x b)

example : [0.1,100,1e-7,5e-324,1e21,-2.5,0].map (fun x => (marshal x).map (fun n => String.ofList n.1.chars)) =
    ["0.1","100","1e-7","5e-324","1e+21","-2.5","0"].map .ok := by decide +kernel

end FloatText

end PrismGateway.Lib
