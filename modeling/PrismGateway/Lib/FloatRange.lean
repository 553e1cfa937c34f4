import PrismGateway.Lib.FloatOrder

namespace PrismGateway.Lib

open Float.Model UnpackedFloat

def Normal (lo hi : ℤ) : UnpackedFloat → Prop
  | .finite .positive m e _ => 2 ^ 52 ≤ m ∧ m < 2 ^ 53 ∧ lo ≤ e ∧ e ≤ hi
  | _ => False

def Nonnegative : UnpackedFloat → Prop
  | .zero .positive => True
  | .finite .positive _ _ _ => True
  | .infinity .positive => True
  | _ => False

theorem Normal.nonnegative {lo hi : ℤ} {u : UnpackedFloat} (h : Normal lo hi u) :
    Nonnegative u := by
  cases u with
  | finite s m e hp =>
    cases s with
    | positive => trivial
    | negative => exact h.elim
  | _ => exact h.elim

theorem Nonnegative.number {u : UnpackedFloat} (h : Nonnegative u) : u.isNaN = false := by
  cases u with
  | notANumber => exact h.elim
  | _ => rfl

theorem shifted_mantissa (em : ExtendedMantissa) (n : ℕ) :
    (em >>> n).mantissa = em.mantissa / 2 ^ n := by
  induction n with
  | zero => exact (Nat.div_one _).symm
  | succ n ih =>
    change (em >>> n).mantissa / 2 = _
    rw [ih,Nat.div_div_eq_div_mul,pow_succ]

theorem given_mantissa (m : ℕ) (acc : Accuracy) :
    (ExtendedMantissa.ofMantissaAndAccuracy m acc).mantissa = m := by
  cases acc with
  | exact => rfl
  | inexact o => cases o <;> rfl

theorem rounded_bounds (em : ExtendedMantissa) :
    em.mantissa ≤ em.roundedMantissa ∧ em.roundedMantissa ≤ em.mantissa + 1 := by
  obtain ⟨m,r,s⟩ := em
  cases r <;> cases s
  · exact ⟨le_rfl,Nat.le_succ m⟩
  · exact ⟨le_rfl,Nat.le_succ m⟩
  · have hmod : m % 2 < 2 := Nat.mod_lt m (by decide)
    exact ⟨Nat.le_add_right m _,Nat.add_le_add_left (Nat.le_of_lt_succ hmod) m⟩
  · exact ⟨Nat.le_succ m,le_rfl⟩

theorem target_eq {m : ℕ} {e : ℤ} (he : -1074 ≤ e + m.log2 - 52) :
    Format.binary64.targetExponent (totalExponent m e) = e + m.log2 - 52 := by
  change max ((m.log2 : ℤ) + 1 + e - 53) (-1074) = _
  omega

theorem shift_full {m : ℕ} {e : ℤ} (acc : Accuracy) (hm : 2 ^ 52 ≤ m)
    (he : -1074 ≤ e + m.log2 - 52) :
    (shiftToTargetExponent Format.binary64 m e acc).1.mantissa = m / 2 ^ (m.log2 - 52) ∧
      (shiftToTargetExponent Format.binary64 m e acc).2 = e + m.log2 - 52 := by
  have hlog : 52 ≤ m.log2 := (Nat.le_log2 (by omega)).mpr hm
  have hamount : (e + m.log2 - 52 - e).toNat = m.log2 - 52 := by omega
  constructor
  · change (ExtendedMantissa.ofMantissaAndAccuracy m acc >>>
      (Format.binary64.targetExponent (totalExponent m e) - e).toNat : ExtendedMantissa).mantissa = _
    rw [target_eq he,hamount,shifted_mantissa,given_mantissa]
  · change e + ((_ : ℕ) : ℤ) = _
    rw [target_eq he,hamount]
    omega

theorem full_quotient {m : ℕ} (hm : 2 ^ 52 ≤ m) :
    2 ^ 52 ≤ m / 2 ^ (m.log2 - 52) ∧ m / 2 ^ (m.log2 - 52) < 2 ^ 53 := by
  have hlog : 52 ≤ m.log2 := (Nat.le_log2 (by omega)).mpr hm
  constructor
  · rw [Nat.le_div_iff_mul_le (Nat.two_pow_pos _),← pow_add,show 52 + (m.log2 - 52) = m.log2 by omega]
    exact Nat.log2_self_le (by omega)
  · rw [Nat.div_lt_iff_lt_mul (Nat.two_pow_pos _),← pow_add,
      show 53 + (m.log2 - 52) = m.log2 + 1 by omega]
    exact Nat.lt_log2_self

theorem round_normal {m : ℕ} {e : ℤ} (acc : Accuracy) (hm : 2 ^ 52 ≤ m)
    (he : -1074 ≤ e + m.log2 - 52) :
    Normal (e + m.log2 - 52) (e + m.log2 - 51)
      (roundWithAccuracy Format.binary64 .positive m e acc) := by
  obtain ⟨hmantissa,hexponent⟩ := shift_full acc hm he
  obtain ⟨hlow,hhigh⟩ := rounded_bounds (shiftToTargetExponent Format.binary64 m e acc).1
  obtain ⟨hfull,hbelow⟩ := full_quotient hm
  rw [hmantissa] at hlow hhigh
  unfold roundWithAccuracy
  generalize shiftToTargetExponent Format.binary64 m e acc = first at *
  obtain ⟨em,e₁⟩ := first
  dsimp only at hmantissa hexponent hlow hhigh ⊢
  have hr : 2 ^ 52 ≤ em.roundedMantissa := hfull.trans hlow
  have hlog : 52 ≤ em.roundedMantissa.log2 := (Nat.le_log2 (by omega)).mpr hr
  have hcarry : em.roundedMantissa.log2 < 54 := (Nat.log2_lt (by omega)).mpr (by omega)
  obtain ⟨hsecond,hexp⟩ := shift_full (e := e₁) .exact hr (by omega)
  obtain ⟨hfull,hbelow⟩ := full_quotient hr
  rw [← hsecond] at hfull hbelow
  rw [dif_neg (by omega)]
  exact ⟨hfull,hbelow,by omega,by omega⟩

theorem sign_packed (s : Sign) (e : BitVec 11) (m : BitVec 52) :
    Sign.ofBitVec (unpackSign (packComponents Format.binary64 s e m)) = s := by
  unfold unpackSign packComponents BitVec.extractLsb
  rw [BitVec.extractLsb'_append_eq_of_le (by decide),BitVec.extractLsb'_append_eq_of_le (by decide)]
  cases s with
  | negative => rfl
  | positive => rfl

theorem unpack_nonnegative {b : BitVec Format.binary64.numBits}
    (hsign : Sign.ofBitVec (unpackSign b) = .positive)
    (h : unpackExponent b = -1#11 → unpackMantissa b = 0#52) :
    Nonnegative (unpack Format.binary64 b) := by
  unfold UnpackedFloat.unpack
  dsimp only
  by_cases hinf : unpackExponent b = -1#11
  · rw [if_pos hinf,if_pos (h hinf),hsign]
    trivial
  rw [if_neg hinf]
  by_cases hzero : unpackExponent b = 0#11
  · rw [if_pos hzero]
    by_cases hsub : unpackMantissa b = 0#52
    · rw [dif_pos hsub,hsign]
      trivial
    · rw [dif_neg hsub,hsign]
      trivial
  · rw [if_neg hzero,hsign]
    trivial

theorem nonnegative_packed {e : BitVec 11} {m : BitVec 52} (h : e = -1#11 → m = 0#52) :
    Nonnegative (unpack Format.binary64 (packComponents Format.binary64 .positive e m)) := by
  refine unpack_nonnegative (sign_packed .positive e m) ?_
  rw [unpackMantissa_packComponents,unpackExponent_packComponents]
  exact h

theorem Nonnegative.packed {u : UnpackedFloat} (h : Nonnegative u) :
    Nonnegative (pack u).unpack := by
  cases u with
  | notANumber => exact h.elim
  | infinity s =>
    cases s with
    | negative => exact h.elim
    | positive => exact nonnegative_packed fun _ => rfl
  | zero s =>
    cases s with
    | negative => exact h.elim
    | positive => exact nonnegative_packed fun _ => rfl
  | finite s m e hp =>
    cases s with
    | negative => exact h.elim
    | positive =>
      change Nonnegative (unpack Format.binary64 (UnpackedFloat.pack Format.binary64 _))
      unfold UnpackedFloat.pack
      dsimp only
      split_ifs with hover hnormal
      · exact nonnegative_packed fun _ => rfl
      · refine nonnegative_packed fun heq => absurd (congrArg BitVec.toNat heq) ?_
        change ¬_ % 2 ^ 11 = 2047
        change ¬2 ^ 11 ≤ _ at hover
        omega
      · exact nonnegative_packed fun heq => absurd heq (by decide)

theorem zero_packed : (pack (.zero .positive)).unpack = .zero .positive := by
  rfl

theorem leading_bit {w : ℕ} (v : BitVec w) : (1#1 ++ v).toNat = 2 ^ w + v.toNat := by
  rw [BitVec.toNat_append,← Nat.shiftLeft_add_eq_or_of_lt v.isLt,Nat.shiftLeft_eq]
  exact congrArg (· + v.toNat) (one_mul _)

theorem unpack_normal {lo hi : ℤ} {b : BitVec Format.binary64.numBits} {n : ℕ}
    (hsign : Sign.ofBitVec (unpackSign b) = .positive) (hn : (unpackExponent b).toNat = n)
    (hpos : 0 < n) (hbelow : n < 2047) (hlo : lo + 1075 ≤ n) (hhi : n ≤ hi + 1075) :
    Normal lo hi (unpack Format.binary64 b) := by
  have hinf : unpackExponent b ≠ -1#11 := by
    intro heq
    have hnat : n = 2047 := hn.symm.trans (congrArg BitVec.toNat heq)
    omega
  have hzero : unpackExponent b ≠ 0#11 := by
    intro heq
    have hnat : n = 0 := hn.symm.trans (congrArg BitVec.toNat heq)
    omega
  unfold UnpackedFloat.unpack
  dsimp only
  rw [if_neg hinf,if_neg hzero,hsign]
  refine ⟨?_,(1#1 ++ unpackMantissa b).isLt,?_,?_⟩
  · rw [leading_bit]
    exact Nat.le_add_right _ _
  · change lo ≤ ((unpackExponent b).toNat : ℤ) - 1075
    omega
  · change ((unpackExponent b).toNat : ℤ) - 1075 ≤ hi
    omega

theorem Normal.packed {lo hi : ℤ} {u : UnpackedFloat} (h : Normal lo hi u) (hlo : -1074 ≤ lo)
    (hhi : hi ≤ 970) : Normal lo hi (pack u).unpack := by
  cases u with
  | finite s m e hp =>
    cases s with
    | negative => exact h.elim
    | positive =>
      obtain ⟨hfull,hbelow,hle,hge⟩ := h
      have hlog : m.log2 = 52 := (Nat.log2_eq_iff (by omega)).mpr ⟨hfull,hbelow⟩
      have hbiased : (e + Format.binary64.exponentBias + (52 : ℕ)).toNat = (e + 1075).toNat := by
        change (e + 1023 + 52).toNat = _
        rw [add_assoc]
        rfl
      have hvalue : (BitVec.ofNat 11 (e + 1075).toNat).toNat = (e + 1075).toNat :=
        Nat.mod_eq_of_lt (by omega)
      change Normal lo hi (unpack Format.binary64 (UnpackedFloat.pack Format.binary64 _))
      unfold UnpackedFloat.pack
      dsimp only
      rw [hbiased,hlog,if_neg (by omega),if_pos (show 52 + 1 = Format.binary64.mantissaBits from rfl)]
      refine unpack_normal (n := (e + 1075).toNat) (sign_packed _ _ _) ?_ (by omega) (by omega)
        (by omega) (by omega)
      rw [unpackExponent_packComponents]
      exact hvalue
  | _ => exact h.elim

theorem Normal.mono {a b c d : ℤ} {u : UnpackedFloat} (h : Normal a b u) (hl : c ≤ a)
    (hr : b ≤ d) : Normal c d u := by
  cases u with
  | finite s m e hp =>
    cases s with
    | negative => exact h.elim
    | positive => exact ⟨h.1,h.2.1,hl.trans h.2.2.1,h.2.2.2.trans hr⟩
  | _ => exact h.elim

theorem Normal.parts {a b : ℤ} {u : UnpackedFloat} (h : Normal a b u) :
    ∃ m e hp, u = .finite .positive m e hp ∧ 2 ^ 52 ≤ m ∧ m < 2 ^ 53 ∧ a ≤ e ∧ e ≤ b := by
  cases u with
  | finite s m e hp =>
    cases s with
    | negative => exact h.elim
    | positive => exact ⟨m,e,hp,rfl,h⟩
  | _ => exact h.elim

theorem mul_normal {a b c d : ℤ} {u v : UnpackedFloat} (hu : Normal a b u) (hv : Normal c d v)
    (h : -1126 ≤ a + c) :
    Normal (a + c + 52) (b + d + 54) (UnpackedFloat.mul Format.binary64 u v) := by
  obtain ⟨m₁,e₁,hp₁,rfl,hl₁,hr₁,ha,hb⟩ := hu.parts
  obtain ⟨m₂,e₂,hp₂,rfl,hl₂,hr₂,hc,hd⟩ := hv.parts
  have hlow : 2 ^ 104 ≤ m₁ * m₂ := (Nat.mul_le_mul hl₁ hl₂).trans' (by decide)
  have hhigh : m₁ * m₂ < 2 ^ 106 := (Nat.mul_lt_mul'' hr₁ hr₂).trans_eq (pow_add 2 53 53).symm
  have hne : m₁ * m₂ ≠ 0 := by omega
  have hlog : 104 ≤ (m₁ * m₂).log2 := (Nat.le_log2 hne).mpr hlow
  have hlog' : (m₁ * m₂).log2 < 106 := (Nat.log2_lt hne).mpr hhigh
  exact (round_normal .exact (hlow.trans' (by decide)) (by omega)).mono (by omega) (by omega)

theorem div_normal {a b c d : ℤ} {u v : UnpackedFloat} (hu : Normal a b u) (hv : Normal c d v)
    (h : -1021 ≤ a - d) :
    Normal (a - d - 53) (b - c - 51) (UnpackedFloat.div Format.binary64 u v) := by
  obtain ⟨m₁,e₁,hp₁,rfl,hl₁,hr₁,ha,hb⟩ := hu.parts
  obtain ⟨m₂,e₂,hp₂,rfl,hl₂,hr₂,hc,hd⟩ := hv.parts
  have hlog₁ : m₁.log2 = 52 := (Nat.log2_eq_iff (by omega)).mpr ⟨hl₁,hr₁⟩
  have hlog₂ : m₂.log2 = 52 := (Nat.log2_eq_iff (by omega)).mpr ⟨hl₂,hr₂⟩
  -- the quotient is taken from a dividend of 53 bits more
  have htarget : min (e₁ - e₂) (Format.binary64.targetExponent
      (totalExponent m₁ e₁ - totalExponent m₂ e₂)) = e₁ - e₂ - 53 := by
    change min _ (max ((m₁.log2 : ℤ) + 1 + e₁ - (m₂.log2 + 1 + e₂) - 53) (-1074)) = _
    omega
  have hcore : UnpackedFloat.div Format.binary64 (.finite .positive m₁ e₁ hp₁)
      (.finite .positive m₂ e₂ hp₂) = roundWithAccuracy Format.binary64 .positive
        (m₁ * 2 ^ 53 / m₂) (e₁ - e₂ - 53) (accuracyOfFraction (m₁ * 2 ^ 53 % m₂) m₂) := by
    change roundWithAccuracy Format.binary64 .positive (m₁ <<< _ / m₂) _
      (accuracyOfFraction (m₁ <<< _ % m₂) m₂) = _
    rw [htarget,show (e₁ - e₂ - (e₁ - e₂ - 53)).toNat = 53 by omega,Nat.shiftLeft_eq]
  have hlow : 2 ^ 52 ≤ m₁ * 2 ^ 53 / m₂ := by
    rw [Nat.le_div_iff_mul_le hp₂]
    omega
  have hhigh : m₁ * 2 ^ 53 / m₂ < 2 ^ 54 := by
    rw [Nat.div_lt_iff_lt_mul hp₂]
    omega
  have hne : m₁ * 2 ^ 53 / m₂ ≠ 0 := by omega
  have hlog : 52 ≤ (m₁ * 2 ^ 53 / m₂).log2 := (Nat.le_log2 hne).mpr hlow
  have hlog' : (m₁ * 2 ^ 53 / m₂).log2 < 54 := (Nat.log2_lt hne).mpr hhigh
  rw [hcore]
  exact (round_normal _ hlow (by omega)).mono (by omega) (by omega)

theorem round_nonnegative (m : ℕ) (e : ℤ) (acc : Accuracy) :
    Nonnegative (roundWithAccuracy Format.binary64 .positive m e acc) := by
  unfold roundWithAccuracy
  generalize shiftToTargetExponent Format.binary64 m e acc = first
  dsimp only
  generalize (shiftToTargetExponent Format.binary64 first.1.roundedMantissa first.2 .exact) = second
  by_cases hzero : second.1.mantissa = 0
  · rw [dif_pos hzero]
    trivial
  · rw [dif_neg hzero]
    trivial

theorem normalize_nonnegative {m : ℤ} (e : ℤ) (h : 0 ≤ m) :
    Nonnegative (UnpackedFloat.normalize Format.binary64 m e .positive) := by
  unfold UnpackedFloat.normalize
  split
  · next hlt => exact absurd (compare_lt_iff_lt.mp hlt) (not_lt.mpr h)
  · trivial
  · exact round_nonnegative _ _ _

theorem Nonnegative.parts {u : UnpackedFloat} (h : Nonnegative u) :
    u = .zero .positive ∨ u = .infinity .positive ∨ ∃ m e hp, u = .finite .positive m e hp := by
  cases u with
  | notANumber => exact h.elim
  | zero s =>
    cases s with
    | negative => exact h.elim
    | positive => exact .inl rfl
  | infinity s =>
    cases s with
    | negative => exact h.elim
    | positive => exact .inr (.inl rfl)
  | finite s m e hp =>
    cases s with
    | negative => exact h.elim
    | positive => exact .inr (.inr ⟨m,e,hp,rfl⟩)

theorem add_nonnegative {u v : UnpackedFloat} (hu : Nonnegative u) (hv : Nonnegative v) :
    Nonnegative (UnpackedFloat.add Format.binary64 u v) := by
  obtain rfl | rfl | ⟨m₁,e₁,hp₁,rfl⟩ := hu.parts
  · obtain rfl | rfl | ⟨m₂,e₂,hp₂,rfl⟩ := hv.parts
    · trivial
    · trivial
    · trivial
  · obtain rfl | rfl | ⟨m₂,e₂,hp₂,rfl⟩ := hv.parts
    · trivial
    · trivial
    · trivial
  · obtain rfl | rfl | ⟨m₂,e₂,hp₂,rfl⟩ := hv.parts
    · trivial
    · trivial
    · exact normalize_nonnegative _ (Int.add_nonneg (Int.natCast_nonneg _) (Int.natCast_nonneg _))

theorem div_nonnegative {u v : UnpackedFloat}
    (hu : u = .zero .positive ∨ ∃ m e hp, u = .finite .positive m e hp) (hv : Nonnegative v)
    (hpos : v ≠ .zero .positive) : Nonnegative (UnpackedFloat.div Format.binary64 u v) := by
  obtain rfl | rfl | ⟨m₂,e₂,hp₂,rfl⟩ := hv.parts
  · exact absurd rfl hpos
  · obtain rfl | ⟨m,e,hp,rfl⟩ := hu
    · trivial
    · trivial
  · obtain rfl | ⟨m,e,hp,rfl⟩ := hu
    · trivial
    · exact round_nonnegative _ _ _

theorem whole_normal {n : ℕ} (hpos : 0 < n) (h : n < 2 ^ 53) :
    Normal (-52) 1 (UnpackedFloat.ofNat Format.binary64 n) := by
  have hlog : n.log2 < 53 := (Nat.log2_lt hpos.ne').mpr h
  have htarget : Format.binary64.targetExponent (totalExponent n 0) = (n.log2 : ℤ) - 52 := by
    rw [target_eq (by omega)]
    omega
  have hround : UnpackedFloat.ofNat Format.binary64 n =
      roundWithAccuracy Format.binary64 .positive (n * 2 ^ (52 - n.log2)) (n.log2 - 52) .exact := by
    change UnpackedFloat.normalize Format.binary64 n 0 .positive = _
    unfold UnpackedFloat.normalize
    rw [compare_gt_iff_gt.mpr (Int.natCast_pos.mpr hpos)]
    change UnpackedFloat.round Format.binary64 .positive n 0 = _
    unfold UnpackedFloat.round decreaseExponent
    rw [htarget]
    dsimp only
    rw [show (0 - ((n.log2 : ℤ) - 52)).toNat = 52 - n.log2 by omega,Nat.shiftLeft_eq,
      show (0 : ℤ) - ((52 - n.log2 : ℕ) : ℤ) = n.log2 - 52 by omega]
  have hlow : 2 ^ 52 ≤ n * 2 ^ (52 - n.log2) := by
    calc 2 ^ 52 = 2 ^ n.log2 * 2 ^ (52 - n.log2) := by rw [← pow_add]; congr 1; omega
      _ ≤ n * 2 ^ (52 - n.log2) := Nat.mul_le_mul_right _ (Nat.log2_self_le hpos.ne')
  have hhigh : n * 2 ^ (52 - n.log2) < 2 ^ 53 := by
    calc n * 2 ^ (52 - n.log2) < 2 ^ (n.log2 + 1) * 2 ^ (52 - n.log2) :=
          Nat.mul_lt_mul_of_pos_right Nat.lt_log2_self (Nat.two_pow_pos _)
      _ = 2 ^ 53 := by rw [← pow_add]; congr 1; omega
  have hfull : (n * 2 ^ (52 - n.log2)).log2 = 52 := (Nat.log2_eq_iff (by omega)).mpr ⟨hlow,hhigh⟩
  rw [hround]
  exact (round_normal .exact hlow (by omega)).mono (by omega) (by omega)

def unpacked (x : Float) : UnpackedFloat := x.toModel.unpack

theorem count_normal {n : ℕ} (hpos : 0 < n) (h : n < 2 ^ 53) :
    Normal (-52) 3 (unpacked (Float.ofNat n)) := by
  have hone : Normal (-52) (-52) (unpacked (Float.ofBits 0x3FF0000000000000)) :=
    ⟨by decide,by decide,by decide,by decide⟩
  have hn : Normal (-52) 1 (unpacked n.toUInt64.toFloat) := by
    have hnat : n.toUInt64.toNat = n := Nat.mod_eq_of_lt (h.trans (by decide))
    have := (whole_normal hpos h).packed (by decide) (by decide)
    rw [← hnat] at this
    exact this
  have heq : Float.ofNat n = n.toUInt64.toFloat * Float.ofBits 0x3FF0000000000000 := by
    change (if h : n < 2 ^ 53 ∧ 0 ≤ 22 then _ else _ : Float) = _
    rw [dif_pos ⟨h,by decide⟩]
    rfl
  rw [heq]
  exact ((mul_normal hn hone (by decide)).mono le_rfl le_rfl).packed (by decide) (by decide)

theorem count_zero : unpacked (Float.ofNat 0) = .zero .positive := by
  rfl

def Tame (lo hi : ℤ) (x : Float) : Prop :=
  unpacked x = .zero .positive ∨ Normal lo hi (unpacked x)

theorem Tame.nonnegative {lo hi : ℤ} {x : Float} (h : Tame lo hi x) :
    Nonnegative (unpacked x) := by
  rcases h with hzero | hn
  · rw [hzero]
    trivial
  · exact hn.nonnegative

theorem normal_ratio {a n : ℕ} (ha : a ≤ n) (hpos : 0 < a) (hn : n < 2 ^ 53) :
    Normal (-108) 4 (unpacked (Float.ofNat a / Float.ofNat n)) := by
  have hnum : Normal (-52) 3 (unpacked (Float.ofNat a)) := count_normal hpos (ha.trans_lt hn)
  have hden : Normal (-52) 3 (unpacked (Float.ofNat n)) := count_normal (hpos.trans_le ha) hn
  exact (div_normal hnum hden (by decide)).packed (by decide) (by decide)

theorem positive_of_normal {lo hi : ℤ} {x : Float} (h : Normal lo hi (unpacked x)) : 0 < x := by
  refine (float_lt_iff (by decide) h.nonnegative.number).mpr ?_
  obtain ⟨m,e,hp,hx,-⟩ := h.parts
  change _ < unpackedKey (unpacked x)
  rw [hx]
  exact Prod.Lex.toLex_lt_toLex.mpr (.inl one_pos)

theorem tame_ratio {a n : ℕ} (ha : a ≤ n) (hpos : 0 < n) (hn : n < 2 ^ 53) :
    Tame (-108) 4 (Float.ofNat a / Float.ofNat n) := by
  have hden : Normal (-52) 3 (unpacked (Float.ofNat n)) := count_normal hpos hn
  rcases a.eq_zero_or_pos with rfl | hapos
  · left
    obtain ⟨m,e,hp,heq,-⟩ := hden.parts
    change (pack (UnpackedFloat.div Format.binary64 (unpacked (Float.ofNat 0))
      (unpacked (Float.ofNat n)))).unpack = _
    rw [count_zero,heq]
    exact zero_packed
  · exact .inr (normal_ratio ha hapos hn)

theorem tame_mul {a b c d : ℤ} {x y : Float} (hx : Tame a b x) (hy : Tame c d y)
    (hlo : -1126 ≤ a + c) (hhi : b + d ≤ 916) : Tame (a + c + 52) (b + d + 54) (x * y) := by
  change (pack (UnpackedFloat.mul Format.binary64 (unpacked x) (unpacked y))).unpack = _ ∨
    Normal _ _ (pack (UnpackedFloat.mul Format.binary64 (unpacked x) (unpacked y))).unpack
  rcases hx with hx | hx
  · left
    rw [hx]
    rcases hy with hy | hy
    · rw [hy]
      exact zero_packed
    · obtain ⟨m,e,hp,heq,-⟩ := hy.parts
      rw [heq]
      exact zero_packed
  · rcases hy with hy | hy
    · left
      obtain ⟨m,e,hp,heq,-⟩ := hx.parts
      rw [heq,hy]
      exact zero_packed
    · exact .inr ((mul_normal hx hy hlo).packed (by omega) (by omega))

theorem nonnegative_sum {x y : Float} (hx : Nonnegative (unpacked x))
    (hy : Nonnegative (unpacked y)) : Nonnegative (unpacked (x + y)) :=
  (add_nonnegative hx hy).packed

theorem nonnegative_quotient {a b : ℤ} {x y : Float} (hx : Tame a b x)
    (hy : Nonnegative (unpacked y)) (hpos : 0 < y) : Nonnegative (unpacked (x / y)) := by
  have hne : unpacked y ≠ .zero .positive := by
    intro hzero
    have hlt : floatKey 0 < unpackedKey (unpacked y) := (float_lt_iff (by decide) hy.number).mp hpos
    rw [hzero] at hlt
    exact lt_irrefl _ hlt
  have hdiv : Nonnegative (UnpackedFloat.div Format.binary64 (unpacked x) (unpacked y)) := by
    rcases hx with hx | hx
    · exact div_nonnegative (.inl hx) hy hne
    · obtain ⟨m,e,hp,heq,-⟩ := hx.parts
      exact div_nonnegative (.inr ⟨m,e,hp,heq⟩) hy hne
  exact hdiv.packed

theorem minus_one_le {x : Float} (h : Nonnegative (unpacked x)) : -1.0 ≤ x := by
  have hkey : floatKey (-1.0) < unpackedKey (unpacked x) := by
    have hminus : floatKey (-1.0) < toLex (0,toLex (0,0)) := by decide
    obtain hx | hx | ⟨m,e,hp,hx⟩ := h.parts
    · rw [hx]
      exact hminus
    · rw [hx]
      exact hminus.trans (by decide)
    · rw [hx]
      exact hminus.trans (Prod.Lex.toLex_lt_toLex.mpr (.inl one_pos))
  exact (float_le_iff (by decide) h.number).mpr hkey.le

theorem numbers_of_le {x y : Float} (h : x ≤ y) : x.isNaN = false ∧ y.isNaN = false := by
  have hle : (unpacked x).le (unpacked y) = true := decide_eq_true_iff.mp h
  change (unpacked x).isNaN = false ∧ (unpacked y).isNaN = false
  cases hx : unpacked x with
  | notANumber =>
    rw [hx] at hle
    cases hle
  | _ =>
    cases hy : unpacked y with
    | notANumber =>
      rw [hx,hy] at hle
      cases hle
    | _ => exact ⟨rfl,rfl⟩

theorem not_below_of_le {x y : Float} (h : x ≤ y) : ¬y < x := by
  obtain ⟨hx,hy⟩ := numbers_of_le h
  intro hlt
  exact absurd ((float_le_iff hx hy).mp h) (not_le.mpr ((float_lt_iff hy hx).mp hlt))

end PrismGateway.Lib
