import Mathlib.Data.Int.Log
import Mathlib.Data.Rat.Floor
import Mathlib.Tactic.Linarith
import Mathlib.Tactic.FieldSimp
import Mathlib.Tactic.Ring

/-!
IEEE binary32 rounding of rational numbers, to nearest with ties to even, in
the range where no result overflows or is subnormal. A number with a 24-bit
significand is representable and is left alone by rounding; hence rounding
twice is rounding once.
-/

namespace Library.Binary32

/-- The nearest integer, a tie going to the even one. -/
def roundEven (q : ℚ) : ℤ :=
  let low := ⌊q⌋
  let rest := q - low
  if rest < 1 / 2 then low
  else if 1 / 2 < rest then low + 1
  else if low % 2 = 0 then low else low + 1

/-- The weight of the last of the 24 significand bits of `q`. -/
def ulp (q : ℚ) : ℚ := 2 ^ (Int.log 2 |q| - 23)

def round (q : ℚ) : ℚ := roundEven (q / ulp q) * ulp q

theorem ulp_pos (q : ℚ) : 0 < ulp q := zpow_pos (by norm_num) _

@[simp] theorem roundEven_intCast (n : ℤ) : roundEven (n : ℚ) = n := by
  simp [roundEven]

@[simp] theorem round_zero : round 0 = 0 := by
  simp [round, roundEven]

/-- Rounding to an integer never passes an integer bound. -/
theorem roundEven_le {q : ℚ} {n : ℤ} (h : q ≤ n) : roundEven q ≤ n := by
  have hlow : ⌊q⌋ ≤ n := by
    have := Int.floor_le q
    exact_mod_cast this.trans h
  by_cases heq : ⌊q⌋ = n
  · have hq : q = n := le_antisymm h (by rw [← heq]; exact Int.floor_le q)
    rw [hq, roundEven_intCast]
  · simp only [roundEven]
    split_ifs <;> omega

theorem le_roundEven {q : ℚ} {n : ℤ} (h : (n : ℚ) ≤ q) : n ≤ roundEven q := by
  have hlow : n ≤ ⌊q⌋ := Int.le_floor.mpr h
  simp only [roundEven]
  split_ifs <;> omega

theorem abs_roundEven_le {q : ℚ} {n : ℤ} (h : |q| ≤ n) : |roundEven q| ≤ n := by
  obtain ⟨hlow, hhigh⟩ := abs_le.mp h
  exact abs_le.mpr ⟨le_roundEven (by push_cast; exact hlow), roundEven_le hhigh⟩

/-- The significand of every rational lies below `2 ^ 24`. -/
theorem abs_div_ulp_lt (q : ℚ) : |q / ulp q| < 2 ^ 24 := by
  rw [abs_div, abs_of_pos (ulp_pos q), div_lt_iff₀ (ulp_pos q)]
  have h := Int.lt_zpow_succ_log_self (b := 2) (by norm_num) |q|
  have hsplit : (2 : ℚ) ^ 24 * ulp q = 2 ^ (Int.log 2 |q| + 1) := by
    rw [ulp, ← zpow_natCast, ← zpow_add₀ (by norm_num)]
    congr 1
    push_cast
    ring
  rw [hsplit]
  exact_mod_cast h

/-- A rational with a significand of at most 24 bits. -/
def Representable (q : ℚ) : Prop := ∃ m k : ℤ, |m| ≤ 2 ^ 24 ∧ q = m * 2 ^ k

theorem representable_round (q : ℚ) : Representable (round q) := by
  refine ⟨roundEven (q / ulp q), Int.log 2 |q| - 23, ?_, rfl⟩
  exact abs_roundEven_le (by exact_mod_cast (abs_div_ulp_lt q).le)

theorem representable_intCast {n : ℤ} (h : |n| ≤ 2 ^ 24) : Representable (n : ℚ) :=
  ⟨n, 0, h, by simp⟩

/-- Rounding leaves a representable number alone: measured in its own last
place it is an integer. -/
theorem round_of_representable {q : ℚ} (h : Representable q) : round q = q := by
  obtain ⟨m, k, hm, rfl⟩ := h
  by_cases hzero : m = 0
  · simp [hzero]
  set q : ℚ := m * 2 ^ k with hq
  have hk : (0 : ℚ) < 2 ^ k := zpow_pos (by norm_num) k
  have habs : |q| = |(m : ℚ)| * 2 ^ k := by rw [hq, abs_mul, abs_of_pos hk]
  have hmpos : (0 : ℚ) < |(m : ℚ)| := abs_pos.mpr (by exact_mod_cast hzero)
  have hpos : 0 < |q| := by rw [habs]; positivity
  have hmle : |(m : ℚ)| ≤ 2 ^ 24 := by exact_mod_cast hm
  have hlow : (2 : ℚ) ^ Int.log 2 |q| ≤ |(m : ℚ)| * 2 ^ k :=
    (Int.zpow_log_le_self (b := 2) (by norm_num) hpos).trans_eq habs
  suffices hint : ∃ n : ℤ, q / ulp q = n by
    obtain ⟨n, hn⟩ := hint
    rw [round, hn, roundEven_intCast, ← hn, div_mul_cancel₀ _ (ulp_pos q).ne']
  have hbound : Int.log 2 |q| ≤ k + 24 := by
    by_contra hlt
    have hmono : (2 : ℚ) ^ (k + 25) ≤ 2 ^ Int.log 2 |q| :=
      zpow_le_zpow_right₀ (by norm_num) (by omega)
    have hsplit : (2 : ℚ) ^ (k + 25) = 2 ^ 25 * 2 ^ k := by
      rw [zpow_add₀ (by norm_num), mul_comm]
      norm_num
    nlinarith
  by_cases hshift : Int.log 2 |q| - 23 ≤ k
  · refine ⟨m * 2 ^ (k - (Int.log 2 |q| - 23)).toNat, ?_⟩
    have hexp : ((k - (Int.log 2 |q| - 23)).toNat : ℤ) = k - (Int.log 2 |q| - 23) :=
      Int.toNat_of_nonneg (by omega)
    rw [ulp, hq, mul_div_assoc, ← zpow_sub₀ (by norm_num), ← hq, ← hexp, zpow_natCast]
    push_cast
    rfl
  · -- the last place lies above `k`, so the significand is exactly `±2 ^ 24`
    have hlog : Int.log 2 |q| = k + 24 := by omega
    have hfull : |(m : ℚ)| = 2 ^ 24 := by
      apply le_antisymm hmle
      rw [hlog, zpow_add₀ (by norm_num), mul_comm ((2 : ℚ) ^ k)] at hlow
      have := le_of_mul_le_mul_right hlow hk
      exact_mod_cast this
    have hulp : ulp q = 2 * 2 ^ k := by
      rw [ulp, hlog, show k + 24 - 23 = 1 + k by ring, zpow_add₀ (by norm_num), zpow_one]
    rcases abs_eq (by norm_num) |>.mp hfull with hm' | hm'
    · exact ⟨2 ^ 23, by rw [hulp, hq, hm']; field_simp; norm_num⟩
    · exact ⟨-2 ^ 23, by rw [hulp, hq, hm']; field_simp; norm_num⟩

theorem roundEven_neg (q : ℚ) : roundEven (-q) = -roundEven q := by
  by_cases hint : ((⌊q⌋ : ℤ) : ℚ) = q
  · rw [← hint, ← Int.cast_neg, roundEven_intCast, roundEven_intCast]
  · have hlow := Int.floor_le q
    have hhigh := Int.lt_floor_add_one q
    have hstrict : (⌊q⌋ : ℚ) < q := lt_of_le_of_ne hlow hint
    have hfloor : ⌊-q⌋ = -⌊q⌋ - 1 := by
      apply Int.floor_eq_iff.mpr
      push_cast
      constructor <;> linarith
    simp only [roundEven, hfloor]
    push_cast
    by_cases hless : q - ⌊q⌋ < 1 / 2
    · rw [if_neg (by linarith), if_pos (by linarith), if_pos hless]
      omega
    · by_cases hmore : 1 / 2 < q - ⌊q⌋
      · rw [if_pos (by linarith), if_neg hless, if_pos hmore]
        omega
      · -- a tie: one of the two neighbours is even
        rw [if_neg (by linarith), if_neg (by linarith), if_neg hless, if_neg hmore]
        split_ifs <;> omega

theorem round_neg (q : ℚ) : round (-q) = -round q := by
  have hulp : ulp (-q) = ulp q := by simp [ulp]
  rw [round, hulp, neg_div, roundEven_neg, round]
  push_cast
  ring

/-- Rounding never passes a representable number. -/
theorem le_round {q r : ℚ} (hr : Representable r) (h : r ≤ q) : r ≤ round q := by
  by_cases hzero : q = 0
  · rw [hzero] at h ⊢
    rwa [round_zero]
  have hpos : 0 < |q| := abs_pos.mpr hzero
  have hu := ulp_pos q
  have hbinade : (2 : ℚ) ^ 23 * ulp q = 2 ^ Int.log 2 |q| := by
    rw [ulp, ← zpow_natCast, ← zpow_add₀ (by norm_num)]
    congr 1
    push_cast
    ring
  have hlow : (2 : ℚ) ^ 23 * ulp q ≤ |q| := by
    rw [hbinade]
    exact Int.zpow_log_le_self (b := 2) (by norm_num) hpos
  have hmultiple (n : ℤ) (hn : n * ulp q ≤ q) : n * ulp q ≤ round q := by
    have hquotient : (n : ℚ) ≤ q / ulp q := (le_div_iff₀ hu).mpr hn
    have hrounded : (n : ℚ) ≤ roundEven (q / ulp q) := by exact_mod_cast le_roundEven hquotient
    exact mul_le_mul_of_nonneg_right hrounded hu.le
  obtain ⟨m, k, hm, rfl⟩ := hr
  by_cases hshift : Int.log 2 |q| - 23 ≤ k
  · have hexp : ((k - (Int.log 2 |q| - 23)).toNat : ℤ) = k - (Int.log 2 |q| - 23) :=
      Int.toNat_of_nonneg (by omega)
    have hsame : (m : ℚ) * 2 ^ k =
        ((m * 2 ^ (k - (Int.log 2 |q| - 23)).toNat : ℤ) : ℚ) * ulp q := by
      push_cast
      rw [← zpow_natCast, hexp, ulp, mul_assoc, ← zpow_add₀ (by norm_num)]
      congr 2
      ring
    rw [hsame] at h ⊢
    exact hmultiple _ h
  · -- `m * 2 ^ k` lies below the binade of `q`
    have hsmall : |(m : ℚ) * 2 ^ k| ≤ 2 ^ 23 * ulp q := by
      have hk : (0 : ℚ) < 2 ^ k := zpow_pos (by norm_num) k
      have hm' : |(m : ℚ)| ≤ 2 ^ 24 := by exact_mod_cast hm
      have hpow : (2 : ℚ) ^ 24 * 2 ^ k ≤ 2 ^ Int.log 2 |q| := by
        rw [← zpow_natCast, ← zpow_add₀ (by norm_num)]
        apply zpow_le_zpow_right₀ (by norm_num)
        push_cast
        omega
      rw [hbinade, abs_mul, abs_of_pos hk]
      exact (mul_le_mul_of_nonneg_right hm' hk.le).trans hpow
    rcases lt_or_gt_of_ne hzero with hneg | hpos'
    · have heq : (m : ℚ) * 2 ^ k = q := by
        rw [abs_of_neg hneg] at hlow
        have := (abs_le.mp hsmall).1
        linarith
      rw [heq, round_of_representable ⟨m, k, hm, heq.symm⟩]
    · rw [abs_of_pos hpos'] at hlow
      have hbase := hmultiple (2 ^ 23) (by push_cast; exact hlow)
      push_cast at hbase
      exact ((le_abs_self _).trans hsmall).trans hbase

theorem Representable.neg {r : ℚ} (h : Representable r) : Representable (-r) := by
  obtain ⟨m, k, hm, rfl⟩ := h
  refine ⟨-m, k, by rwa [abs_neg], ?_⟩
  push_cast
  ring

theorem round_le {q r : ℚ} (hr : Representable r) (h : q ≤ r) : round q ≤ r := by
  have hneg := le_round hr.neg (neg_le_neg h)
  rw [round_neg] at hneg
  exact neg_le_neg_iff.mp hneg

theorem roundEven_mono {p q : ℚ} (h : p ≤ q) : roundEven p ≤ roundEven q := by
  have hfloor : ⌊p⌋ ≤ ⌊q⌋ := Int.floor_le_floor h
  by_cases heq : ⌊p⌋ = ⌊q⌋
  · have hrest : p - ⌊q⌋ ≤ q - ⌊q⌋ := by linarith
    simp only [roundEven, heq]
    split_ifs <;> first | omega | (exfalso; linarith)
  · have hhigh : roundEven p ≤ ⌊p⌋ + 1 := by
      apply roundEven_le
      push_cast
      exact (Int.lt_floor_add_one p).le
    have hlow : ⌊q⌋ ≤ roundEven q := le_roundEven (Int.floor_le q)
    omega

/-- Two positive numbers share a binade, or a power of two separates them. -/
theorem round_mono_of_pos {p q : ℚ} (hp : 0 < p) (h : p ≤ q) : round p ≤ round q := by
  have hq : 0 < q := hp.trans_le h
  have hlog : Int.log 2 |p| ≤ Int.log 2 |q| := by
    rw [abs_of_pos hp, abs_of_pos hq]
    exact Int.log_mono_right hp h
  by_cases heq : Int.log 2 |p| = Int.log 2 |q|
  · have hulp : ulp p = ulp q := by rw [ulp, ulp, heq]
    have hu := ulp_pos q
    have hquotient : roundEven (p / ulp q) ≤ roundEven (q / ulp q) :=
      roundEven_mono (div_le_div_of_nonneg_right h hu.le)
    rw [round, round, hulp]
    exact mul_le_mul_of_nonneg_right (by exact_mod_cast hquotient) hu.le
  · have hpower : Representable ((2 : ℚ) ^ Int.log 2 |q|) :=
      ⟨1, Int.log 2 |q|, by norm_num, by norm_num⟩
    have hbelow : p ≤ 2 ^ Int.log 2 |q| := by
      have hnext := Int.lt_zpow_succ_log_self (b := 2) (by norm_num) |p|
      have hstep : (2 : ℚ) ^ (Int.log 2 |p| + 1) ≤ 2 ^ Int.log 2 |q| :=
        zpow_le_zpow_right₀ (by norm_num) (by omega)
      rw [abs_of_pos hp] at hnext hstep
      push_cast at hnext
      exact hnext.le.trans hstep
    have habove : (2 : ℚ) ^ Int.log 2 |q| ≤ q := by
      have hself := Int.zpow_log_le_self (b := 2) (by norm_num) (abs_pos.mpr hq.ne')
      rw [abs_of_pos hq] at hself ⊢
      exact_mod_cast hself
    exact (round_le hpower hbelow).trans (le_round hpower habove)

theorem round_mono {p q : ℚ} (h : p ≤ q) : round p ≤ round q := by
  have hzero : Representable 0 := ⟨0, 0, by norm_num, by norm_num⟩
  rcases lt_or_ge 0 p with hp | hp
  · exact round_mono_of_pos hp h
  · rcases lt_or_ge q 0 with hq | hq
    · have hneg := round_mono_of_pos (neg_pos.mpr hq) (neg_le_neg h)
      rw [round_neg, round_neg] at hneg
      exact neg_le_neg_iff.mp hneg
    · exact (round_le hzero hp).trans (le_round hzero hq)

section Quotients

variable {k : ℤ} {d : ℕ}

/-- The quotients of small integers stay clear of the next integer. -/
theorem representable_below (n : ℤ) (h : |n| ≤ 2 ^ 16) : Representable (n + 1 - 2 ^ (-7 : ℤ)) := by
  refine ⟨(n + 1) * 2 ^ 7 - 1, -7, ?_, ?_⟩
  · have hbounds := abs_le.mp h
    rw [abs_le]
    constructor <;> omega
  · push_cast
    norm_num
    ring

theorem representable_above (n : ℤ) (h : |n| ≤ 2 ^ 16) : Representable (n + 2 ^ (-7 : ℤ)) := by
  refine ⟨n * 2 ^ 7 + 1, -7, ?_, ?_⟩
  · have hbounds := abs_le.mp h
    rw [abs_le]
    constructor <;> omega
  · push_cast
    norm_num
    ring

/-- Rounding the quotient of two small integers does not change its floor. -/
theorem floor_round_div (hd : 0 < d) (hd' : d ≤ 2 ^ 7) (hk : |k| ≤ 2 ^ 16) :
    ⌊round (k / d)⌋ = k / d := by
  have hdpos : (0 : ℚ) < d := by exact_mod_cast hd
  have hdle : (d : ℚ) ≤ 128 := by exact_mod_cast hd'
  have hsplit : k = d * (k / d) + k % d := (Int.mul_ediv_add_emod k d).symm
  have hlow : 0 ≤ k % d := Int.emod_nonneg k (by omega)
  have hhigh : k % d ≤ d - 1 := by
    have := Int.emod_lt_of_pos k (show (0 : ℤ) < d by omega)
    omega
  have hn : |k / (d : ℤ)| ≤ 2 ^ 16 := by
    obtain ⟨hklow, hkhigh⟩ := abs_le.mp hk
    rw [abs_le]
    constructor
    · apply Int.le_ediv_of_mul_le (by omega)
      nlinarith
    · apply Int.ediv_le_of_le_mul (by omega)
      nlinarith
  have hq : (k : ℚ) / d = (k / (d : ℤ) : ℤ) + (k % (d : ℤ) : ℤ) / (d : ℚ) := by
    rw [eq_comm, ← sub_eq_zero]
    have hcast : (k : ℚ) = d * (k / (d : ℤ) : ℤ) + (k % (d : ℤ) : ℤ) := by exact_mod_cast hsplit
    field_simp
    linarith
  have hrest : (k % (d : ℤ) : ℤ) / (d : ℚ) ≤ 1 - 2 ^ (-7 : ℤ) := by
    have hhigh' : ((k % (d : ℤ) : ℤ) : ℚ) ≤ d - 1 := by exact_mod_cast hhigh
    rw [div_le_iff₀ hdpos]
    norm_num
    linarith
  have hrest' : 0 ≤ (k % (d : ℤ) : ℤ) / (d : ℚ) := by
    apply div_nonneg _ hdpos.le
    exact_mod_cast hlow
  apply Int.floor_eq_iff.mpr
  constructor
  · apply le_round
    · apply representable_intCast
      exact hn.trans (by norm_num)
    · rw [hq]
      linarith
  · have hbelow := round_le (representable_below _ hn) (by rw [hq]; linarith : (k : ℚ) / d ≤ _)
    have hgap : (0 : ℚ) < 2 ^ (-7 : ℤ) := by positivity
    linarith

/-- Nor does it move the quotient past a small integer. -/
theorem lt_round_div_iff {n : ℤ} (hd : 0 < d) (hd' : d ≤ 2 ^ 7) (hn : |n| ≤ 2 ^ 16) :
    (n : ℚ) < round (k / d) ↔ n * d < k := by
  have hdpos : (0 : ℚ) < d := by exact_mod_cast hd
  have hdle : (d : ℚ) ≤ 128 := by exact_mod_cast hd'
  constructor
  · intro h
    by_contra hle
    have hquotient : (k : ℚ) / d ≤ n := by
      rw [div_le_iff₀ hdpos]
      exact_mod_cast not_lt.mp hle
    have hrounded := round_le (representable_intCast (hn.trans (by norm_num))) hquotient
    linarith
  · intro h
    have hnext : (n : ℚ) * d + 1 ≤ k := by exact_mod_cast h
    have hquotient : (n : ℚ) + 2 ^ (-7 : ℤ) ≤ k / d := by
      rw [le_div_iff₀ hdpos, add_mul]
      norm_num
      linarith
    have hrounded := le_round (representable_above n hn) hquotient
    have hgap : (0 : ℚ) < 2 ^ (-7 : ℤ) := by positivity
    linarith

end Quotients

theorem round_round (q : ℚ) : round (round q) = round q :=
  round_of_representable (representable_round q)

/-- Rounding an integer gives an integer: below `2 ^ 24` the integer itself,
above it a multiple of a positive power of two. -/
theorem round_intCast_isInt (n : ℤ) : ∃ m : ℤ, round n = m := by
  by_cases hsmall : |n| ≤ 2 ^ 24
  · exact ⟨n, round_of_representable (representable_intCast hsmall)⟩
  · have hlog : 23 ≤ Int.log 2 |(n : ℚ)| := by
      apply (Int.zpow_le_iff_le_log (by norm_num) _).mp
      · have hbig : (2 : ℚ) ^ 24 ≤ |(n : ℚ)| := by exact_mod_cast (not_le.mp hsmall).le
        refine le_trans ?_ hbig
        norm_num
      · exact abs_pos.mpr (by rintro h; apply hsmall; simp_all)
    have hexp : ((Int.log 2 |(n : ℚ)| - 23).toNat : ℤ) = Int.log 2 |(n : ℚ)| - 23 :=
      Int.toNat_of_nonneg (by omega)
    refine ⟨roundEven (n / ulp n) * 2 ^ (Int.log 2 |(n : ℚ)| - 23).toNat, ?_⟩
    conv_lhs => rw [round, ulp, ← hexp, zpow_natCast]
    rw [ulp, ← hexp, zpow_natCast]
    push_cast
    rfl

/-- The conversion of an `int` to `float`, an integer again. -/
def ofInt (n : ℤ) : ℤ := if n.natAbs ≤ 2 ^ 24 then n else ⌊round n⌋

theorem ofInt_of_le {n : ℤ} (h : n.natAbs ≤ 2 ^ 24) : ofInt n = n := if_pos h

/-- The shortcut for small integers agrees with rounding. -/
theorem round_intCast (n : ℤ) : round n = ofInt n := by
  by_cases hsmall : n.natAbs ≤ 2 ^ 24
  · rw [ofInt_of_le hsmall]
    refine round_of_representable (representable_intCast ?_)
    rw [Int.abs_eq_natAbs]
    exact_mod_cast hsmall
  · obtain ⟨m, hm⟩ := round_intCast_isInt n
    rw [ofInt, if_neg hsmall, hm, Int.floor_intCast]

theorem ofInt_ofInt (n : ℤ) : ofInt (ofInt n) = ofInt n := by
  have h : ((ofInt (ofInt n) : ℤ) : ℚ) = ofInt n := by
    rw [← round_intCast, ← round_intCast, round_round]
  exact_mod_cast h

theorem ofInt_mono {m n : ℤ} (h : m ≤ n) : ofInt m ≤ ofInt n := by
  have hround : round (m : ℚ) ≤ round n := round_mono (by exact_mod_cast h)
  rw [round_intCast, round_intCast] at hround
  exact_mod_cast hround

/-- Storing an integer loses less than one part in `2 ^ 23`. -/
theorem sub_le_ofInt {n : ℤ} (hn : 0 ≤ n) : n - n / 2 ^ 23 ≤ ofInt n := by
  by_cases hsmall : n.natAbs ≤ 2 ^ 24
  · rw [ofInt_of_le hsmall]
    omega
  · obtain ⟨size, rfl⟩ := Int.eq_ofNat_of_zero_le hn
    -- the last of 24 places of `size` weighs `place`
    set place : ℕ := 2 ^ (Nat.log 2 size - 23) with hplace
    have hlog : 23 ≤ Nat.log 2 size := by
      apply (Nat.le_log_iff_pow_le (by norm_num) (by omega)).mpr
      omega
    have hlow : place * 2 ^ 23 ≤ size := by
      have hpow := Nat.pow_log_le_self 2 (show size ≠ 0 by omega)
      rwa [show Nat.log 2 size = Nat.log 2 size - 23 + 23 by omega, pow_add] at hpow
    have hhigh : size < place * 2 ^ 24 := by
      have hpow := Nat.lt_pow_succ_log_self (b := 2) (by norm_num) size
      rwa [show (Nat.log 2 size).succ = Nat.log 2 size - 23 + 24 by omega, pow_add] at hpow
    have hpos : 0 < place := Nat.two_pow_pos _
    have hfits : size / place ≤ 2 ^ 24 := (Nat.div_lt_of_lt_mul hhigh).le
    have hcut : Representable (((place * (size / place) : ℕ) : ℤ) : ℚ) := by
      refine ⟨(size / place : ℕ), (Nat.log 2 size - 23 : ℕ), ?_, ?_⟩
      · rw [Nat.abs_cast]
        exact_mod_cast hfits
      · rw [hplace]
        push_cast
        rw [mul_comm, zpow_natCast]
    have hbelow : place * (size / place) ≤ size := Nat.mul_div_le size place
    have hround := le_round hcut (by exact_mod_cast hbelow : _ ≤ ((size : ℤ) : ℚ))
    rw [round_intCast] at hround
    have hstored : ((place * (size / place) : ℕ) : ℤ) ≤ ofInt size := by exact_mod_cast hround
    have hlost : size < place * (size / place) + place := Nat.lt_mul_div_succ size hpos
    have hplaces : place ≤ size / 2 ^ 23 := (Nat.le_div_iff_mul_le (by norm_num)).mpr hlow
    omega

/-- A way of storing ints in floats: it keeps their order, leaves what it has
stored alone, and stores 0 and 1 exactly. -/
structure Rounding where
  store : ℤ → ℤ
  mono : ∀ {m n}, m ≤ n → store m ≤ store n
  idem : ∀ n, store (store n) = store n
  zero : store 0 = 0
  one : store 1 = 1

namespace Rounding

def exact : Rounding := ⟨id, id, fun _ => rfl, rfl, rfl⟩

def binary32 : Rounding :=
  ⟨ofInt, ofInt_mono, ofInt_ofInt, ofInt_of_le (by decide), ofInt_of_le (by decide)⟩

end Rounding

/-- An integer that a binary32 number holds exactly. -/
structure IntFloat where
  val : ℤ
  exact : ofInt val = val

namespace IntFloat

@[ext] theorem ext {x y : IntFloat} (h : x.val = y.val) : x = y := by
  cases x
  cases y
  cases h
  rfl

instance : DecidableEq IntFloat := fun _ _ =>
  decidable_of_iff _ ⟨ext, congrArg val⟩

/-- Store an `int` in a `float`. -/
def cast (n : ℤ) : IntFloat := ⟨ofInt n, ofInt_ofInt n⟩

@[simp] theorem cast_val (x : IntFloat) : cast x.val = x := ext x.exact

theorem val_cast_of_le {n : ℤ} (h : n.natAbs ≤ 2 ^ 24) : (cast n).val = n :=
  ofInt_of_le h

/-- Storing an integer never passes one that is stored exactly. -/
theorem le_cast {m n : ℤ} (hm : |m| ≤ 2 ^ 24) (h : m ≤ n) : m ≤ (cast n).val := by
  have hrounded := le_round (representable_intCast hm) (by exact_mod_cast h : (m : ℚ) ≤ n)
  rw [round_intCast] at hrounded
  exact_mod_cast hrounded

theorem cast_le {m n : ℤ} (hm : |m| ≤ 2 ^ 24) (h : n ≤ m) : (cast n).val ≤ m := by
  have hrounded := round_le (representable_intCast hm) (by exact_mod_cast h : (n : ℚ) ≤ m)
  rw [round_intCast] at hrounded
  exact_mod_cast hrounded

theorem le_cast_iff {m n : ℤ} (hm : |m| < 2 ^ 24) : m ≤ (cast n).val ↔ m ≤ n := by
  obtain ⟨hlow, hhigh⟩ := abs_lt.mp hm
  constructor
  · intro h
    by_contra hlt
    have hbelow : (cast n).val ≤ m - 1 := cast_le (by rw [abs_le]; constructor <;> omega) (by omega)
    omega
  · exact le_cast hm.le

theorem cast_le_iff {m n : ℤ} (hm : |m| < 2 ^ 24) : (cast n).val ≤ m ↔ n ≤ m := by
  obtain ⟨hlow, hhigh⟩ := abs_lt.mp hm
  constructor
  · intro h
    by_contra hlt
    have habove : m + 1 ≤ (cast n).val := le_cast (by rw [abs_le]; constructor <;> omega) (by omega)
    omega
  · exact cast_le hm.le

instance : Add IntFloat := ⟨fun x y => cast (x.val + y.val)⟩
instance : Sub IntFloat := ⟨fun x y => cast (x.val - y.val)⟩
instance : Mul IntFloat := ⟨fun x y => cast (x.val * y.val)⟩
instance : LE IntFloat := ⟨fun x y => x.val ≤ y.val⟩

instance (x y : IntFloat) : Decidable (x ≤ y) := inferInstanceAs (Decidable (x.val ≤ y.val))

theorem le_def {x y : IntFloat} : x ≤ y ↔ x.val ≤ y.val := Iff.rfl

section Exact

variable {x y : IntFloat}

theorem val_add (h : (x.val + y.val).natAbs ≤ 2 ^ 24) : (x + y).val = x.val + y.val :=
  ofInt_of_le h

theorem val_sub (h : (x.val - y.val).natAbs ≤ 2 ^ 24) : (x - y).val = x.val - y.val :=
  ofInt_of_le h

theorem val_mul (h : (x.val * y.val).natAbs ≤ 2 ^ 24) : (x * y).val = x.val * y.val :=
  ofInt_of_le h

end Exact

end IntFloat

end Library.Binary32
