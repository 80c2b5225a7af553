import RouteScript.Settings.Conversion

/-!
The integers that are floats.

An integer becomes the float nearest to it, and an infinite one if there is none. That is
so from half way between the largest float and `2 ^ 1024` on (`isInf_ofNat_iff`), where the
nearest number of 53 bits would be `2 ^ 1024` itself.

An integer of more than 53 bits is rounded in the unpacked form, which shifts its mantissa
one bit at a time and keeps of the bits that are dropped only what rounding needs (`cut`).
What counts in the end is the exponent (`isInf_pack`), and that grows by one more than the
shift exactly if the first 54 bits are all set (`roundedMantissa_eq_iff`). A smaller integer
is multiplied by a power of ten, here the first.

So a conversion to a float fails from that bound on and is the nearest float below it
(`Value.floatOfInt_eq`).
-/

namespace RouteScript

namespace FloatRange

open Float.Model (Format totalExponent UnpackedFloat)
open Float.Model.UnpackedFloat

/-! ### Shifting -/

/-- A mantissa without its last `d` bits, of which only what rounding needs is kept. -/
def cut (m d : Nat) : ExtendedMantissa := (⟨m, false, false⟩ : ExtendedMantissa) >>> d

theorem cut_succ (m d : Nat) : cut m (d + 1) = (cut m d).shiftRightOne := rfl

theorem mantissa_cut (m d : Nat) : (cut m d).mantissa = m / Nat.pow 2 d := by
  induction d with
  | zero => exact (Nat.div_one m).symm
  | succ d ih =>
    rw [cut_succ, ExtendedMantissa.shiftRightOne, ih]
    exact Nat.div_div_eq_div_mul ..

/-- The round bit is the last bit that was dropped. -/
theorem roundBit_cut (m d : Nat) : (cut m (d + 1)).roundBit = (m / Nat.pow 2 d % 2 != 0) := by
  rw [← mantissa_cut]
  rfl

/-- Rounding adds one or nothing: one only behind a round bit, and then always to an odd
mantissa. -/
theorem roundedMantissa_cases (em : ExtendedMantissa) :
    (em.roundedMantissa = em.mantissa ∧ (em.roundBit = true → em.mantissa % 2 = 0)) ∨
      (em.roundedMantissa = em.mantissa + 1 ∧ em.roundBit = true) := by
  obtain ⟨m, round, sticky⟩ := em
  cases round <;> cases sticky <;>
    simp [ExtendedMantissa.roundedMantissa, ExtendedMantissa.accuracy,
      Accuracy.roundToNearestEven]
  omega

theorem targetExponent_binary64 (t : Int) :
    Format.binary64.targetExponent t = max (t - 53) (-1074) := rfl

/-- A mantissa of at least 53 bits is brought down to 53, unless the exponent is that of a
subnormal number. -/
theorem shiftToTargetExponent_of_large {m d : Nat} {e : Int} (bits : m.log2 = 52 + d)
    (normal : -1074 ≤ e + d) :
    shiftToTargetExponent Format.binary64 m e .exact = (cut m d, e + d) := by
  have target : Format.binary64.targetExponent (totalExponent m e) = e + d := by
    rw [targetExponent_binary64, totalExponent, bits]
    omega
  have amount : (e + d - e).toNat = d := by omega
  simp only [shiftToTargetExponent, shiftToExponent, target, amount,
    ExtendedMantissa.ofMantissaAndAccuracy]
  rfl

theorem mantissa_cut_bounds {m d : Nat} (bits : m.log2 = 52 + d) :
    Nat.pow 2 52 ≤ (cut m d).mantissa ∧ (cut m d).mantissa < Nat.pow 2 53 := by
  have pos : m ≠ 0 := by
    rintro rfl
    rw [Nat.log2_zero] at bits
    omega
  have lower : Nat.pow 2 (52 + d) ≤ m := bits ▸ Nat.log2_self_le pos
  have upper : m < Nat.pow 2 (53 + d) := by
    have next : m.log2 + 1 = 53 + d := by omega
    exact next ▸ Nat.lt_log2_self
  have split (n : Nat) : Nat.pow 2 (n + d) = Nat.pow 2 n * Nat.pow 2 d := Nat.pow_add 2 n d
  rw [split] at lower upper
  rw [mantissa_cut]
  exact ⟨(Nat.le_div_iff_mul_le (Nat.two_pow_pos d)).mpr lower,
    (Nat.div_lt_iff_lt_mul (Nat.two_pow_pos d)).mpr upper⟩

/-! ### Rounding -/

theorem log2_eq {r : Nat} (lower : Nat.pow 2 52 ≤ r) (upper : r < Nat.pow 2 53) :
    r.log2 = 52 := by
  have pos : r ≠ 0 := by
    rintro rfl
    exact absurd lower (by decide)
  have least : 52 ≤ r.log2 := (Nat.le_log2 pos).mpr lower
  have most : r.log2 < 53 := (Nat.log2_lt pos).mpr upper
  omega

/-- The float of a mantissa and an exponent at the end of rounding. -/
def rounded (s : Sign) (x : ExtendedMantissa × Int) : UnpackedFloat :=
  if h : x.1.mantissa = 0 then .zero s
  else .finite s x.1.mantissa x.2 (Nat.pos_of_ne_zero h)

/-- Rounding shifts twice; the second time is for a mantissa that grew by rounding. -/
theorem roundWithAccuracy_eq (s : Sign) {m : Nat} {e : Int} {a : Accuracy}
    {x : ExtendedMantissa × Int} (shifted : shiftToTargetExponent Format.binary64 m e a = x) :
    roundWithAccuracy Format.binary64 s m e a =
      rounded s (shiftToTargetExponent Format.binary64 x.1.roundedMantissa x.2 .exact) := by
  subst shifted
  rfl

theorem rounded_of_pos (s : Sign) {em : ExtendedMantissa} (pos : 0 < em.mantissa) (e : Int) :
    rounded s (em, e) = .finite s em.mantissa e pos := dif_neg (Nat.ne_of_gt pos)

/-- A mantissa of at least 53 bits is rounded to one of 53. The exponent grows by the number of
bits that are dropped, and by one more if rounding up makes a mantissa of 54 bits. -/
theorem roundWithAccuracy_of_large (s : Sign) {m d : Nat} {e : Int} (bits : m.log2 = 52 + d)
    (normal : -1074 ≤ e + d) :
    ∃ r h, r.log2 = 52 ∧
      ((cut m d).roundedMantissa ≠ Nat.pow 2 53 ∧
        roundWithAccuracy Format.binary64 s m e .exact = .finite s r (e + d) h ∨
      (cut m d).roundedMantissa = Nat.pow 2 53 ∧
        roundWithAccuracy Format.binary64 s m e .exact =
          .finite s r (e + d + 1) h) := by
  obtain ⟨lower, upper⟩ := mantissa_cut_bounds bits
  rw [roundWithAccuracy_eq s (shiftToTargetExponent_of_large bits normal)]
  by_cases full : (cut m d).roundedMantissa = Nat.pow 2 53
  · have log : (Nat.pow 2 53).log2 = 52 + 1 := Nat.log2_two_pow
    have again := shiftToTargetExponent_of_large (e := e + d) log (by omega)
    refine ⟨(cut (Nat.pow 2 53) 1).mantissa, by decide, by decide, .inr ⟨full, ?_⟩⟩
    rw [full, again]
    exact rounded_of_pos s (by decide) _
  · have fits : Nat.pow 2 52 ≤ (cut m d).roundedMantissa ∧
        (cut m d).roundedMantissa < Nat.pow 2 53 := by
      rcases roundedMantissa_cases (cut m d) with ⟨eq, -⟩ | ⟨eq, -⟩ <;> omega
    have log := log2_eq fits.1 fits.2
    have again := shiftToTargetExponent_of_large (d := 0) (e := e + d) log (by omega)
    have whole : (cut (cut m d).roundedMantissa 0).mantissa = (cut m d).roundedMantissa := rfl
    have pos : 0 < (cut (cut m d).roundedMantissa 0).mantissa :=
      Nat.lt_of_lt_of_le (by decide) (whole ▸ fits.1)
    refine ⟨(cut m d).roundedMantissa, whole ▸ pos, log, .inl ⟨full, ?_⟩⟩
    rw [again, Int.natCast_zero, Int.add_zero]
    exact rounded_of_pos s pos _

/-! ### Infinite floats -/

/-- Whether what is unpacked is infinite is a matter of its exponent and mantissa. -/
theorem isInf_unpack {b : BitVec Format.binary64.numBits} :
    (unpack Format.binary64 b).isInf = true ↔
      unpackExponent b = -1#_ ∧ unpackMantissa b = 0#_ := by
  delta unpack
  dsimp only
  by_cases top : unpackExponent b = -1#_
  · rw [if_pos top]
    by_cases zero : unpackMantissa b = 0#_
    · rw [if_pos zero]
      exact ⟨fun _ => ⟨top, zero⟩, fun _ => rfl⟩
    · rw [if_neg zero]
      exact ⟨nofun, fun both => absurd both.2 zero⟩
  · have finite : ∀ x : UnpackedFloat, x.isInf = false → (x.isInf = true ↔
        unpackExponent b = -1#_ ∧ unpackMantissa b = 0#_) := by
      intro x no
      rw [no]
      exact ⟨nofun, fun both => absurd both.1 top⟩
    rw [if_neg top]
    by_cases low : unpackExponent b = 0#_
    · rw [if_pos low]
      by_cases zero : unpackMantissa b = 0#_
      · rw [dif_pos zero]
        exact finite _ rfl
      · rw [dif_neg zero]
        exact finite _ rfl
    · rw [if_neg low]
      exact finite _ rfl

/-- How a finite float is packed. -/
theorem pack_finite (s : Sign) {m : Nat} {e : Int} (h : 0 < m) :
    pack Format.binary64 (.finite s m e h) =
      if 2048 ≤ (e + 1023 + 52).toNat + 1 then packedInfinity Format.binary64 s
      else if m.log2 + 1 = 53 then
        packComponents Format.binary64 s (BitVec.ofNat 11 (e + 1023 + 52).toNat) (BitVec.ofNat 52 m)
      else packComponents Format.binary64 s 0#11 (BitVec.ofNat 52 m) := rfl

/-- A float is infinite if its exponent is too large. -/
theorem isInf_pack {s : Sign} {m : Nat} {e : Int} (h : 0 < m) :
    (Float.Model.pack (.finite s m e h)).isInf = true ↔ 972 ≤ e := by
  change (unpack Format.binary64 (pack Format.binary64 (.finite s m e h))).isInf = true ↔ _
  rw [isInf_unpack, pack_finite]
  by_cases large : 972 ≤ e
  · rw [if_pos (by omega), packedInfinity, unpackExponent_packComponents,
      unpackMantissa_packComponents]
    exact ⟨fun _ => large, fun _ => ⟨rfl, rfl⟩⟩
  · rw [if_neg (by omega)]
    refine ⟨fun top => absurd top.1 ?_, fun le => absurd le large⟩
    split
    · rw [unpackExponent_packComponents]
      intro same
      have value := congrArg BitVec.toNat same
      change (e + 1023 + 52).toNat % 2048 = 2047 at value
      omega
    · rw [unpackExponent_packComponents]
      decide

/-! ### Integers -/

theorem mul_finite (spec : Format) (s t : Sign) {m n : Nat} (e f : Int) (hm : 0 < m)
    (hn : 0 < n) : UnpackedFloat.mul spec (.finite s m e hm) (.finite t n f hn) =
      roundWithAccuracy spec (s * t) (m * n) (e + f) .exact := rfl

theorem log2_mul_two_pow {m : Nat} (pos : m ≠ 0) (d : Nat) :
    (m * Nat.pow 2 d).log2 = m.log2 + d := by
  have pos' : m * Nat.pow 2 d ≠ 0 := Nat.mul_ne_zero pos (Nat.ne_of_gt (Nat.two_pow_pos d))
  have split (n : Nat) : Nat.pow 2 (n + d) = Nat.pow 2 n * Nat.pow 2 d := Nat.pow_add 2 n d
  apply Nat.le_antisymm
  · refine Nat.le_of_lt_succ ((Nat.log2_lt pos').mpr ?_)
    change _ < Nat.pow 2 (m.log2 + d + 1)
    rw [Nat.add_right_comm, split]
    exact Nat.mul_lt_mul_of_pos_right Nat.lt_log2_self (Nat.two_pow_pos d)
  · refine (Nat.le_log2 pos').mpr ?_
    change Nat.pow 2 (m.log2 + d) ≤ _
    rw [split]
    exact Nat.mul_le_mul_right _ (Nat.log2_self_le pos)

/-- An integer of more than 53 bits is rounded in the unpacked form. -/
theorem ofNat_of_large {m : Nat} (large : Nat.pow 2 53 ≤ m) :
    Float.ofNat m = ⟨Float.Model.pack
      (roundWithAccuracy Format.binary64 .positive (m * Nat.pow 2 53) (-53) .exact)⟩ := by
  have indirect : ¬ (m < Nat.pow 2 53 ∧ 0 ≤ 22) := by
    omega
  have pos : m ≠ 0 := by
    rintro rfl
    exact absurd large (by decide)
  have unpacked : UnpackedFloat.ofScientific Format.binary64 m 0 =
      roundWithAccuracy Format.binary64 .positive (m * Nat.pow 2 53) (-53) .exact := by
    rw [UnpackedFloat.ofScientific, dif_neg pos, if_neg (by change ¬ (0 : Int) > 2048; omega),
      if_neg (by change ¬ (0 : Int) < -(2048 + m.log2); omega), if_pos (by decide), mul_finite]
    change roundWithAccuracy _ _ (m <<< 53 * 1) _ _ = _
    rw [Nat.mul_one, Nat.shiftLeft_eq]
    rfl
  change Float.ofScientific m false 0 = _
  rw [Float.ofScientific, dif_neg indirect, ← unpacked]
  rfl

/-- The least integer that is too large for a float, half way from the largest float to
`2 ^ 1024`. -/
def firstOverflow : Nat := Nat.pow 2 1024 - Nat.pow 2 970

-- With the exponent behind an equation nobody tries to work out the power.
theorem firstOverflow_eq {k : Nat} (last : k = 970) :
    firstOverflow = (Nat.pow 2 54 - 1) * Nat.pow 2 k := by
  subst last
  decide +kernel

/-- An integer of more than 54 bits is rounded up to one of a further bit exactly if its first
54 bits are all set. -/
theorem roundedMantissa_eq_iff {m k : Nat} (bits : m.log2 = 53 + k) :
    (cut (m * Nat.pow 2 53) (k + 53 + 1)).roundedMantissa = Nat.pow 2 53 ↔
      (Nat.pow 2 54 - 1) * Nat.pow 2 k ≤ m := by
  have pos : 0 < Nat.pow 2 k := Nat.two_pow_pos k
  have front : m * Nat.pow 2 53 / Nat.pow 2 (k + 53) = m / Nat.pow 2 k := by
    have split : Nat.pow 2 (k + 53) = Nat.pow 2 k * Nat.pow 2 53 := Nat.pow_add 2 k 53
    rw [split]
    exact Nat.mul_div_mul_right _ _ (Nat.two_pow_pos 53)
  have mantissa : (cut (m * Nat.pow 2 53) (k + 53 + 1)).mantissa = m / Nat.pow 2 k / 2 := by
    rw [← front, ← mantissa_cut]
    rfl
  have round : (cut (m * Nat.pow 2 53) (k + 53 + 1)).roundBit = (m / Nat.pow 2 k % 2 != 0) := by
    rw [roundBit_cut, front]
  have short : m / Nat.pow 2 k < Nat.pow 2 54 := by
    refine (Nat.div_lt_iff_lt_mul pos).mpr ?_
    have split : Nat.pow 2 (54 + k) = Nat.pow 2 54 * Nat.pow 2 k := Nat.pow_add 2 54 k
    have upper : m < Nat.pow 2 (m.log2 + 1) := Nat.lt_log2_self
    rw [bits, Nat.add_right_comm] at upper
    exact split ▸ upper
  refine Iff.trans ?_ (Nat.le_div_iff_mul_le pos)
  have value₅₃ : Nat.pow 2 53 = 9007199254740992 := rfl
  have value₅₄ : Nat.pow 2 54 = 18014398509481984 := rfl
  rcases roundedMantissa_cases (cut (m * Nat.pow 2 53) (k + 53 + 1)) with ⟨eq, even⟩ | ⟨eq, odd⟩
  · rw [eq, mantissa]
    rw [mantissa, round] at even
    have even' : m / Nat.pow 2 k % 2 ≠ 0 → m / Nat.pow 2 k / 2 % 2 = 0 := by
      simpa using even
    omega
  · rw [eq, mantissa]
    rw [round] at odd
    have odd' : m / Nat.pow 2 k % 2 ≠ 0 := by simpa using odd
    omega

theorem isInf_ofNat_of_large {m : Nat} (large : Nat.pow 2 53 ≤ m) :
    (Float.ofNat m).isInf = true ↔ firstOverflow ≤ m := by
  obtain ⟨k, last⟩ : ∃ k, k = 970 := ⟨970, rfl⟩
  have pos : m ≠ 0 := by
    rintro rfl
    exact absurd large (by decide)
  have bits : (m * Nat.pow 2 53).log2 = 52 + (m.log2 + 1) := by
    rw [log2_mul_two_pow pos]
    omega
  obtain ⟨r, h, -, fate⟩ := roundWithAccuracy_of_large .positive (e := -53) bits (by omega)
  rw [ofNat_of_large large, firstOverflow_eq last]
  change (Float.Model.pack _).isInf = true ↔ _
  rcases Nat.lt_trichotomy m.log2 (53 + k) with short | full | long
  · have small : m < Nat.pow 2 (53 + k) := (Nat.log2_lt pos).mp short
    have split : Nat.pow 2 (53 + k) = Nat.pow 2 53 * Nat.pow 2 k := Nat.pow_add 2 53 k
    have below : Nat.pow 2 53 * Nat.pow 2 k ≤ (Nat.pow 2 54 - 1) * Nat.pow 2 k :=
      Nat.mul_le_mul_right _ (by decide)
    rcases fate with ⟨-, eq⟩ | ⟨-, eq⟩ <;> rw [eq, isInf_pack] <;> omega
  · rw [← roundedMantissa_eq_iff full]
    have width : m.log2 + 1 = k + 53 + 1 := by omega
    rw [width] at fate
    rcases fate with ⟨grown, eq⟩ | ⟨grown, eq⟩ <;> rw [eq, isInf_pack]
    · exact ⟨fun le => by omega, fun full => absurd full grown⟩
    · exact ⟨fun _ => grown, fun _ => by omega⟩
  · have big : Nat.pow 2 (54 + k) ≤ m := (Nat.le_log2 pos).mp (by omega)
    have split : Nat.pow 2 (54 + k) = Nat.pow 2 54 * Nat.pow 2 k := Nat.pow_add 2 54 k
    have above : (Nat.pow 2 54 - 1) * Nat.pow 2 k ≤ Nat.pow 2 54 * Nat.pow 2 k :=
      Nat.mul_le_mul_right _ (Nat.sub_le ..)
    rcases fate with ⟨-, eq⟩ | ⟨-, eq⟩ <;> rw [eq, isInf_pack] <;> omega

theorem ofNat_eq_round {m : Nat} (pos : m ≠ 0) :
    UnpackedFloat.ofNat Format.binary64 m = UnpackedFloat.round Format.binary64 .positive m 0 := by
  have order : compare (m : Int) 0 = .gt := by
    rw [Int.compare_eq_gt]
    omega
  simp only [UnpackedFloat.ofNat, UnpackedFloat.ofInt, UnpackedFloat.normalize, order,
    Int.toNat_natCast]

/-- A small integer is a float of 53 bits. -/
theorem ofNat_of_small {m : Nat} (pos : m ≠ 0) (small : m < Nat.pow 2 53) :
    ∃ n e h, n.log2 = 52 ∧ -52 ≤ e ∧ e ≤ 1 ∧
      UnpackedFloat.ofNat Format.binary64 m = .finite .positive n e h := by
  have bits : m.log2 < 53 := (Nat.log2_lt pos).mpr small
  have target : Format.binary64.targetExponent (totalExponent m 0) = m.log2 - 52 := by
    rw [targetExponent_binary64, totalExponent]
    omega
  have amount : (0 - ((m.log2 : Int) - 52)).toNat = 52 - m.log2 := by omega
  have log : (m <<< (52 - m.log2)).log2 = 52 + 0 := by
    rw [Nat.shiftLeft_eq]
    exact (log2_mul_two_pow pos _).trans (by omega)
  have round : UnpackedFloat.round Format.binary64 .positive m 0 =
      roundWithAccuracy Format.binary64 .positive (m <<< (52 - m.log2))
        (0 - ((52 - m.log2 : Nat) : Int)) .exact := by
    simp only [UnpackedFloat.round, decreaseExponent, target, amount]
  rw [ofNat_eq_round pos, round]
  obtain ⟨r, h, log', fate⟩ := roundWithAccuracy_of_large .positive
    (e := 0 - ((52 - m.log2 : Nat) : Int)) log (by omega)
  rcases fate with ⟨-, eq⟩ | ⟨-, eq⟩
  · exact ⟨r, _, h, log', by omega, by omega, eq⟩
  · exact ⟨r, _, h, log', by omega, by omega, eq⟩

/-- A float of a middling exponent is unpacked with that exponent. -/
theorem unpack_pack (s : Sign) {n : Nat} {e : Int} (h : 0 < n) (bits : n.log2 = 52)
    (least : -52 ≤ e) (most : e ≤ 1) :
    ∃ t k h', k < Nat.pow 2 53 ∧
      (Float.Model.pack (.finite s n e h)).unpack = .finite t k e h' := by
  have value : (BitVec.ofNat 11 (e + 1023 + 52).toNat).toNat = (e + 1023 + 52).toNat := by
    change (e + 1023 + 52).toNat % 2048 = _
    omega
  have top : BitVec.ofNat 11 (e + 1023 + 52).toNat ≠ -1#_ := by
    intro same
    have full : _ = 2047 := congrArg BitVec.toNat same
    omega
  have bottom : BitVec.ofNat 11 (e + 1023 + 52).toNat ≠ 0#_ := by
    intro same
    have none : _ = 0 := congrArg BitVec.toNat same
    omega
  -- What is unpacked has some mantissa, and the exponent is all that matters of the rest.
  have finite : ∀ (t : Sign) (b : BitVec 53) (pos : 0 < b.toNat) (f : Int), f = e →
      ∃ t' k h', k < Nat.pow 2 53 ∧
        UnpackedFloat.finite t b.toNat f pos = .finite t' k e h' := by
    rintro t b pos f rfl
    exact ⟨t, b.toNat, pos, b.isLt, rfl⟩
  change ∃ t k h', _ ∧ unpack Format.binary64 (pack Format.binary64 (.finite s n e h)) = _
  rw [pack_finite, if_neg (by omega), if_pos (by rw [bits])]
  delta unpack
  dsimp only
  rw [unpackExponent_packComponents, if_neg top, if_neg bottom]
  refine finite _ _ _ _ ?_
  change ((BitVec.ofNat 11 (e + 1023 + 52).toNat).toNat : Int) - (1023 + 52) = e
  omega

theorem isInf_ofNat_of_small {m : Nat} (small : m < Nat.pow 2 53) :
    (Float.ofNat m).isInf = false := by
  have direct : m < Nat.pow 2 53 ∧ 0 ≤ 22 := ⟨small, by decide⟩
  have product : Float.ofNat m = m.toUInt64.toFloat * Float.ofBits 0x3FF0000000000000 := by
    change Float.ofScientific m false 0 = _
    rw [Float.ofScientific, dif_pos direct]
    rfl
  have one : (Float.Model.ofBits 0x3FF0000000000000).unpack =
      .finite .positive (Nat.pow 2 52) (-52) (by decide) := by
    rfl
  rw [product]
  change (Float.Model.pack (UnpackedFloat.mul Format.binary64
    (Float.Model.ofUInt64 m.toUInt64).unpack
    (Float.Model.ofBits 0x3FF0000000000000).unpack)).isInf = false
  have value : m.toUInt64.toNat = m := by
    exact Nat.mod_eq_of_lt (Nat.lt_trans small (by decide))
  change (Float.Model.pack (UnpackedFloat.mul Format.binary64
    (Float.Model.pack (UnpackedFloat.ofNat Format.binary64 m.toUInt64.toNat)).unpack
    (Float.Model.ofBits 0x3FF0000000000000).unpack)).isInf = false
  rw [one, value]
  by_cases pos : m = 0
  · subst pos
    decide +kernel
  · obtain ⟨n, e, h, log, least, most, eq⟩ := ofNat_of_small pos small
    obtain ⟨s, k, h', short, eq'⟩ := unpack_pack .positive h log least most
    have bits : (k * Nat.pow 2 52).log2 = 52 + k.log2 := by
      rw [log2_mul_two_pow (Nat.ne_of_gt h')]
      omega
    have few : k.log2 < 53 := (Nat.log2_lt (Nat.ne_of_gt h')).mpr short
    rw [eq, eq', mul_finite]
    obtain ⟨r, h'', -, fate⟩ := roundWithAccuracy_of_large (s * .positive) (e := e + -52) bits
      (by omega)
    rw [Bool.eq_false_iff]
    rcases fate with ⟨-, eq⟩ | ⟨-, eq⟩ <;> rw [eq, Ne, isInf_pack] <;> omega

/-- The integers up to half way from the largest float to `2 ^ 1024` are floats. -/
theorem isInf_ofNat_iff (m : Nat) : (Float.ofNat m).isInf = true ↔ firstOverflow ≤ m := by
  rcases Nat.lt_or_ge m (Nat.pow 2 53) with small | large
  · have above : Nat.pow 2 53 ≤ firstOverflow := by decide +kernel
    rw [isInf_ofNat_of_small small]
    exact ⟨nofun, fun large => absurd (Nat.le_trans above large) (Nat.not_le.mpr small)⟩
  · exact isInf_ofNat_of_large large

/-- The powers of two below `2 ^ 1024` are floats. -/
theorem two_pow_lt_firstOverflow {a : Nat} (h : a < 1024) : Nat.pow 2 a < firstOverflow := by
  obtain ⟨k, last⟩ : ∃ k, k = 970 := ⟨970, rfl⟩
  have split : Nat.pow 2 (53 + k) = Nat.pow 2 53 * Nat.pow 2 k := Nat.pow_add 2 53 k
  rw [firstOverflow_eq last]
  calc Nat.pow 2 a ≤ Nat.pow 2 (53 + k) := Nat.pow_le_pow_right (by decide) (by omega)
    _ = Nat.pow 2 53 * Nat.pow 2 k := split
    _ < (Nat.pow 2 54 - 1) * Nat.pow 2 k :=
      Nat.mul_lt_mul_of_pos_right (by decide) (Nat.two_pow_pos k)

theorem firstOverflow_le_two_pow {a : Nat} (h : a = 1024) : firstOverflow ≤ Nat.pow 2 a := by
  subst h
  decide +kernel

end FloatRange

/-- An integer is converted to the nearest float unless it is too large for one. -/
theorem Value.floatOfInt_eq (n : Int) :
    floatOfInt n = if FloatRange.firstOverflow ≤ n.natAbs then .error .integerTooLarge
      else .ok (Float.ofInt n) := by
  have infinite := FloatRange.isInf_ofNat_iff n.natAbs
  unfold floatOfInt
  by_cases large : FloatRange.firstOverflow ≤ n.natAbs
  · rw [if_pos large]
    exact if_pos (infinite.mpr large)
  · rw [if_neg large]
    refine (if_neg (mt infinite.mp large)).trans ?_
    cases n with
    | ofNat k => rfl
    | negSucc k => exact congrArg Except.ok (if_pos (Int.negSucc_lt_zero k))

end RouteScript
