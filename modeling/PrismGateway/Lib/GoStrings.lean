import Mathlib.Algebra.Group.Int.Defs
import Mathlib.Algebra.Group.Nat.Defs
import Mathlib.Data.List.Infix

namespace PrismGateway.Lib.GoStrings

def runes (s : String) : List Char :=
  let bytes := s.toByteArray.data.toList
  if bytes.all (fun b => b.toNat < 128) then bytes.map (fun b => Char.ofNat b.toNat) else s.toList

theorem bytes_eq_flatMap (s : String) :
    s.toByteArray.data.toList = s.toList.flatMap String.utf8EncodeChar := by
  rw [← String.utf8Encode_toList,List.utf8Encode]
  simp

theorem map_utf8EncodeChar {c : Char} (h : ∀ b ∈ String.utf8EncodeChar c, b.toNat < 128) :
    (String.utf8EncodeChar c).map (fun b => Char.ofNat b.toNat) = [c] := by
  have large (n : Nat) : 128 ≤ (UInt8.ofNat (n % 64 + 128)).toNat := by
    rw [UInt8.toNat_ofNat']
    omega
  revert h
  fun_cases String.utf8EncodeChar c with
  | case1 v hv =>
    intro _
    have hbyte : (UInt8.ofNat v).toNat = c.toNat := by
      rw [UInt8.toNat_ofNat']
      exact Nat.mod_eq_of_lt (Nat.lt_of_le_of_lt hv (by decide))
    rw [List.map_singleton,hbyte,Char.ofNat_toNat]
  | _ =>
    intro h
    exact absurd (h _ (List.mem_of_getLast? rfl)) (Nat.not_lt.mpr (large c.val.toNat))

theorem runes_eq_toList (s : String) : runes s = s.toList := by
  simp only [runes,bytes_eq_flatMap,List.all_eq_true,decide_eq_true_eq]
  split_ifs with h
  · generalize s.toList = l at h
    induction l with
    | nil => rfl
    | cons c l ih =>
      simp only [List.flatMap_cons,List.mem_append] at h
      have htail := ih fun b hb => h b (.inr hb)
      rw [List.flatMap_cons,List.map_append,map_utf8EncodeChar fun b hb => h b (.inl hb),htail]
      rfl
  · rfl

def isSpace (c : Char) : Bool :=
  c = ' ' || ('\t' ≤ c && c ≤ '\r') || c = '\u0085' || c = '\u00A0' || c = '\u1680' ||
    ('\u2000' ≤ c && c ≤ '\u200A') || c = '\u2028' || c = '\u2029' || c = '\u202F' ||
    c = '\u205F' || c = '\u3000'

def trimSpace (s : String) : String :=
  String.ofList ((((runes s).dropWhile isSpace).reverse.dropWhile isSpace).reverse)

-- U+0130 and U+212A are the only code points outside ASCII whose lower case is an ASCII letter
def toLowerRune (c : Char) : Char :=
  if c = '\u0130' then 'i' else if c = '\u212A' then 'k' else c.toLower

def toLower (s : String) : String :=
  String.ofList ((runes s).map toLowerRune)

def contains (s sub : String) : Bool :=
  (runes s).tails.any ((runes sub).isPrefixOf ·)

def cutPrefix (start s : String) : Option String :=
  if start.toList.isPrefixOf s.toList then some (String.ofList (s.toList.drop start.length)) else none

def atoi (s : String) : Option Int :=
  let signed : Bool × List Char := match s.toList with
    | '-' :: digits => (true,digits)
    | '+' :: digits => (false,digits)
    | digits => (false,digits)
  let n : Int := signed.2.foldl (fun n c => 10 * n + (c.toNat - '0'.toNat : Nat)) 0
  let v : Int := if signed.1 then -n else n
  if signed.2 ≠ [] ∧ signed.2.all Char.isDigit ∧ -2 ^ 63 ≤ v ∧ v < 2 ^ 63 then some v else none

example : (atoi "-12",atoi "+7",atoi "",atoi "1x") = (some (-12),some 7,none,none) := by decide

end PrismGateway.Lib.GoStrings
