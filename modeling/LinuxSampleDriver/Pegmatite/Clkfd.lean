import LinuxSampleDriver.Pegmatite.Arith

/-!
# The fractional divider (`clkfd.c`)

The UART clocks divide their parent by a fraction: the output is `parent * D / (2 * N)` for a
numerator `N` in bits 16 to 31 and a denominator `D` in bits 0 to 15 of the word at `config + 8`.
`pegmatite_clkfd_set_rate` and `pegmatite_clkfd_round_rate` search for the pair in the same way
(`fdSearch`): from `N = parent / rate` and `D = 1` they double `D`, and the dividend with it, until
the quotient needs 17 bits, keeping the last quotient that fitted as `N`; then they raise `N` until
the output is at most `rate` or `N` reaches `0xffff`. `set_rate` writes the pair, `round_rate`
returns the output it gives.

So the two agree whenever the pair fits its fields (`recalc_setRate_of_fits`). Nothing in the
search keeps it there. For a rate between half the parent rate and the parent rate, `D` ends at
`0x10000`, whose field is 0, and `recalc_rate` reads back 0 where `round_rate` returned a positive
rate (`clkfd_denom_overflows`).
-/

namespace LinuxSampleDriver

namespace Pegmatite

/-- `FD_NUM_SHIFT`. -/
def fdNumShift : Nat := 16

/-- `FD_MASK`. -/
def fdMask : Nat := 0xffff

/-- `~0xffff` as an `unsigned int`. -/
def fdHighBits : Nat := 0xffff0000

/-- `pegmatite_clkfd_recalc_rate` on the word `val` at `config + 8`. -/
def pegmatiteClkfdRecalcRate (val : BitVec 32) (parent_rate : Nat) : ClkM Nat := do
  let num := (val >>> fdNumShift).toNat &&& fdMask
  let denom := val.toNat &&& fdMask
  let rate ← cdiv (parent_rate * denom) (u32 (2 * num))
  pure (u32 rate)

/-- The variables of the search: `a`, `num`, `tmp` and `denom`. -/
structure FdSearch where
  a : Nat
  num : Nat
  tmp : Nat
  denom : Nat
  deriving DecidableEq, Repr

/-- The first loop of both callbacks: `while ((tmp & ~0xffff) == 0) { num = tmp; a <<= 1;
denom <<= 1; tmp = (unsigned int)div64_ul(a, rate); }`. -/
def fdNormalise (rate fuel : Nat) (s : FdSearch) : ClkM FdSearch :=
  whileLoop (fun s => pure (decide (s.tmp &&& fdHighBits = 0)))
    (fun s => do
      let a := u64 (s.a * 2)
      let tmp ← cdiv a rate
      pure ⟨a, s.tmp, u32 tmp, u32 (s.denom * 2)⟩) fuel s

/-- The second loop of both callbacks, on `num` and the rate it gives (`tmp` in `set_rate`,
`calc_rate` in `round_rate`): `while (tmp > rate) { if (num >= 0xffff) break; ++num;
tmp = div64_ul((u64)parent_rate * denom, 2 * num); }`. The `break` comes before any change, so it
is part of the test. -/
def fdRaiseNum (parent_rate rate denom fuel : Nat) (s : Nat × Nat) : ClkM (Nat × Nat) :=
  whileLoop (fun s => pure (decide (s.2 > rate) && decide (s.1 < 0xffff)))
    (fun s => do
      let num := u32 (s.1 + 1)
      let tmp ← cdiv (parent_rate * denom) (u32 (2 * num))
      pure (num, u32 tmp)) fuel s

/-- The search both callbacks run: the numerator and denominator it ends with, and the rate they
give. -/
def fdSearch (fuel rate parent_rate : Nat) : ClkM (Nat × Nat × Nat) := do
  let tmp ← cdiv parent_rate rate
  let s ← fdNormalise rate fuel ⟨parent_rate, u32 tmp, u32 tmp, 1⟩
  let tmp ← cdiv (parent_rate * s.denom) (u32 (2 * s.num))
  let r ← fdRaiseNum parent_rate rate s.denom fuel (s.num, u32 tmp)
  pure (r.1, s.denom, r.2)

/-- `pegmatite_clkfd_set_rate`: the word it writes at `config + 8`. -/
def pegmatiteClkfdSetRate (fuel rate parent_rate : Nat) : ClkM (BitVec 32) :=
  if parent_rate > rate then do
    let r ← fdSearch fuel rate parent_rate
    pure (BitVec.ofNat 32 (r.1 <<< fdNumShift) ||| BitVec.ofNat 32 (r.2.1 &&& fdMask))
  else pure 0x80008000#32

/-- `pegmatite_clkfd_round_rate`: the `unsigned long` rate the search ends with, returned as a
`long`. -/
def pegmatiteClkfdRoundRate (fuel rate parent_rate : Nat) : ClkM Int := do
  let r ← fdSearch fuel rate parent_rate
  pure (s32 r.2.2)

/-! ## Reading back the word `set_rate` writes -/

theorem testBit_fdHighBits (i : Nat) : fdHighBits.testBit i = decide (16 ≤ i ∧ i < 32) := by
  rw [show fdHighBits = (2 ^ 16 - 1) <<< 16 by decide, Nat.testBit_shiftLeft,
    Nat.testBit_two_pow_sub_one]
  by_cases h : 16 ≤ i
  · simp [h]; omega
  · simp [h]

/-- The first loop's test `(tmp & ~0xffff) == 0` on an `unsigned int`: `tmp` fits 16 bits. -/
theorem and_fdHighBits_eq_zero_iff {t : Nat} (ht : t < 2 ^ 32) :
    t &&& fdHighBits = 0 ↔ t < 2 ^ 16 := by
  constructor
  · intro h
    apply Nat.lt_pow_two_of_testBit
    intro i hi
    by_cases hi' : i < 32
    · simpa [Nat.testBit_and, testBit_fdHighBits, hi, hi'] using congrArg (Nat.testBit · i) h
    · exact Nat.testBit_lt_two_pow (lt_of_lt_of_le ht (Nat.pow_le_pow_right (by decide) (by omega)))
  · intro h
    apply Nat.eq_of_testBit_eq
    intro i
    rw [Nat.testBit_and, testBit_fdHighBits, Nat.zero_testBit]
    by_cases hi : 16 ≤ i
    · rw [Nat.testBit_lt_two_pow (lt_of_lt_of_le h (Nat.pow_le_pow_right (by decide) hi))]
      rfl
    · simp [hi]

/-- The word `set_rate` writes for a numerator that fits 16 bits holds it in bits 16 to 31 and the
low 16 bits of the denominator below it. -/
theorem fdWord_fields {num denom : Nat} (hnum : num ≤ fdMask) :
    ((BitVec.ofNat 32 (num <<< fdNumShift) ||| BitVec.ofNat 32 (denom &&& fdMask)) >>>
        fdNumShift).toNat &&& fdMask = num ∧
      (BitVec.ofNat 32 (num <<< fdNumShift) ||| BitVec.ofNat 32 (denom &&& fdMask)).toNat &&&
        fdMask = denom % 2 ^ 16 := by
  have hmask : ∀ n, n &&& fdMask = n % 2 ^ 16 := fun n => Nat.and_pow_two_sub_one_eq_mod n 16
  have hlt : denom % 2 ^ 16 < 2 ^ 16 := Nat.mod_lt _ (by decide)
  unfold fdMask at hnum
  have hword : (BitVec.ofNat 32 (num <<< fdNumShift) ||| BitVec.ofNat 32 (denom &&& fdMask)).toNat =
      2 ^ 16 * num + denom % 2 ^ 16 := by
    rw [BitVec.toNat_or, BitVec.toNat_ofNat, BitVec.toNat_ofNat, hmask, fdNumShift,
      Nat.shiftLeft_eq, Nat.mod_eq_of_lt (by omega), Nat.mod_eq_of_lt (by omega), Nat.mul_comm num,
      Nat.mul_add_lt_is_or hlt]
  rw [BitVec.toNat_ushiftRight, hword, hmask, hmask, fdNumShift, Nat.shiftRight_eq_div_pow,
    Nat.mul_add_div (by decide), Nat.div_eq_of_lt hlt, Nat.add_zero, Nat.mul_add_mod, Nat.mod_mod]
  exact ⟨Nat.mod_eq_of_lt (by omega), rfl⟩

/-! ## The search -/

/-- The rate the search returns is the one its numerator and denominator give. -/
theorem fdSearch_calc {fuel rate parent_rate num denom calc_rate : Nat}
    (h : fdSearch fuel rate parent_rate = .ok (num, denom, calc_rate)) :
    calc_rate = u32 (parent_rate * denom / u32 (2 * num)) := by
  simp only [fdSearch, bind_eq_ok] at h
  obtain ⟨-, -, s, -, tmp, htmp, r, hr, h⟩ := h
  cases h
  refine whileLoop_inv (fun r => r.2 = u32 (parent_rate * s.denom / u32 (2 * r.1)))
    (fun t t' _ hb => ?_) fuel _ r (by rw [(cdiv_eq_ok.mp htmp).2]) hr
  obtain ⟨q, hq, hb⟩ := bind_eq_ok.mp hb
  cases hb
  rw [(cdiv_eq_ok.mp hq).2]

/-- `set_rate` and `round_rate` agree through `recalc_rate` whenever the pair the search ends with
fits its fields (a numerator in `[1, 0xffff]` and a denominator below `0x10000`): `round_rate`
returns, as a `long`, the rate `recalc_rate` reads back from the word `set_rate` writes. -/
theorem recalc_setRate_of_fits {fuel rate parent_rate num denom calc_rate : Nat}
    (hgt : rate < parent_rate)
    (hsearch : fdSearch fuel rate parent_rate = .ok (num, denom, calc_rate)) (hnum : 0 < num)
    (hnum' : num ≤ fdMask) (hden : denom < 2 ^ 16) :
    pegmatiteClkfdRoundRate fuel rate parent_rate = .ok (s32 calc_rate) ∧
      ∃ val, pegmatiteClkfdSetRate fuel rate parent_rate = .ok val ∧
        pegmatiteClkfdRecalcRate val parent_rate = .ok calc_rate := by
  obtain ⟨hn, hd⟩ := @fdWord_fields num denom hnum'
  refine ⟨by rw [pegmatiteClkfdRoundRate, hsearch]; rfl, _,
    by rw [pegmatiteClkfdSetRate, if_pos hgt, hsearch]; rfl, ?_⟩
  have h2 : 0 < u32 (2 * num) := by
    rw [u32_of_lt (by unfold fdMask at hnum'; omega)]; omega
  simp only [pegmatiteClkfdRecalcRate, hn, hd, Nat.mod_eq_of_lt hden, cdiv_of_pos _ h2,
    fdSearch_calc hsearch]
  rfl

/-- 1000 from a parent at 3000, with twenty passes allowed. -/
theorem recalc_setRate_of_fits_1000 :
    pegmatiteClkfdRoundRate 20 1000 3000 = .ok 1000 ∧
      ∃ val, pegmatiteClkfdSetRate 20 1000 3000 = .ok val ∧
        pegmatiteClkfdRecalcRate val 3000 = .ok 1000 :=
  have h := recalc_setRate_of_fits (by decide)
    (show fdSearch 20 1000 3000 = .ok (49152, 32768, 1000) by decide) (by decide) (by decide)
    (by decide)
  ⟨h.1.trans rfl, h.2⟩

/-! ## Rates between half the parent rate and the parent rate -/

/-- For a rate in `(parent / 2, parent)`, `parent * 2 ^ j / rate` lies in `[2 ^ j, 2 ^ (j + 1))`. -/
theorem pow_div_bounds {p r : Nat} (hlo : r < p) (hhi : p < 2 * r) (j : Nat) :
    2 ^ j ≤ p * 2 ^ j / r ∧ p * 2 ^ j / r < 2 ^ (j + 1) := by
  have hr : 0 < r := by omega
  refine ⟨(Nat.le_div_iff_mul_le hr).mpr ?_, (Nat.div_lt_iff_lt_mul hr).mpr ?_⟩
  · rw [Nat.mul_comm]
    exact Nat.mul_le_mul_right _ hlo.le
  · calc p * 2 ^ j < 2 * r * 2 ^ j := Nat.mul_lt_mul_of_pos_right hhi (Nat.two_pow_pos j)
      _ = 2 ^ (j + 1) * r := by rw [Nat.pow_succ]; ac_rfl

/-- The first loop's states for a rate in `(parent / 2, parent)`: after `j` passes `a` is
`parent * 2 ^ j`, `tmp` is `parent * 2 ^ j / rate` and `denom` is `2 ^ j`. -/
def fdNormaliseTrace (parent_rate rate j : Nat) : FdSearch :=
  ⟨parent_rate * 2 ^ j, if j = 0 then 1 else parent_rate * 2 ^ (j - 1) / rate,
    parent_rate * 2 ^ j / rate, 2 ^ j⟩

/-- Along that trace the first loop's test holds exactly before the sixteenth pass: the quotient
fits 16 bits until `denom = 0x10000`. -/
theorem fdNormaliseTrace_test {rate parent_rate : Nat} (hlo : rate < parent_rate)
    (hhi : parent_rate < 2 * rate) {j : Nat} (hj : j ≤ 16) :
    (fdNormaliseTrace parent_rate rate j).tmp &&& fdHighBits = 0 ↔ j < 16 := by
  obtain ⟨hb1, hb2⟩ := pow_div_bounds hlo hhi j
  have h17 : 2 ^ (j + 1) ≤ 2 ^ 17 := Nat.pow_le_pow_right (by decide) (by omega)
  simp only [fdNormaliseTrace]
  rw [and_fdHighBits_eq_zero_iff (by omega)]
  constructor
  · intro h
    by_contra hj'
    obtain rfl : j = 16 := by omega
    omega
  · intro hj'
    have : 2 ^ (j + 1) ≤ 2 ^ 16 := Nat.pow_le_pow_right (by decide) hj'
    omega

/-- For a rate in `(parent / 2, parent)` the first loop makes 16 passes, and its quotient first
needs 17 bits with `denom = 0x10000`. -/
theorem fdNormalise_half {rate parent_rate : Nat} (hlo : rate < parent_rate)
    (hhi : parent_rate < 2 * rate) (hp : parent_rate < 2 ^ 32) {fuel : Nat} (hfuel : 16 < fuel) :
    fdNormalise rate fuel ⟨parent_rate, u32 (parent_rate / rate), u32 (parent_rate / rate), 1⟩ =
      .ok (fdNormaliseTrace parent_rate rate 16) := by
  have hr : 0 < rate := by omega
  have hstart : (⟨parent_rate, u32 (parent_rate / rate), u32 (parent_rate / rate), 1⟩ : FdSearch) =
      fdNormaliseTrace parent_rate rate 0 := by
    simp [fdNormaliseTrace, Nat.div_eq_of_lt_le (by omega : 1 * rate ≤ parent_rate)
      (by omega : parent_rate < (1 + 1) * rate), u32]
  rw [hstart]
  refine whileLoop_trace _ 16 (fun j hj => ⟨?_, ?_⟩) ?_ fuel hfuel
  · rw [decide_eq_true ((fdNormaliseTrace_test hlo hhi hj.le).mpr hj)]
    rfl
  · have hbig : parent_rate * 2 ^ (j + 1) < 2 ^ 64 :=
      calc parent_rate * 2 ^ (j + 1) < 2 ^ 32 * 2 ^ 16 :=
            Nat.mul_lt_mul_of_lt_of_le hp (Nat.pow_le_pow_right (by decide) hj) (by decide)
        _ < 2 ^ 64 := by decide
    have hq : parent_rate * 2 ^ (j + 1) / rate < 2 ^ 32 := by
      have := (pow_div_bounds hlo hhi (j + 1)).2
      have : 2 ^ (j + 1 + 1) ≤ 2 ^ 32 := Nat.pow_le_pow_right (by decide) (by omega)
      omega
    have hd : 2 ^ (j + 1) < 2 ^ 32 := Nat.pow_lt_pow_right (by decide) (by omega)
    simp only [fdNormaliseTrace, bind, Except.bind, Nat.mul_assoc, ← Nat.pow_succ,
      u64_of_lt hbig, cdiv_of_pos _ hr, pure, Except.pure, u32_of_lt hq, u32_of_lt hd,
      Nat.add_sub_cancel, Nat.add_one_ne_zero, if_false]
  · rw [decide_eq_false ((fdNormaliseTrace_test hlo hhi le_rfl).not.mpr (Nat.lt_irrefl 16))]
    rfl

/-- With denominator `0x10000` and a numerator in `[0x8000, 0xffff]`, the second loop's quotient
divides by a nonzero `2 * num` and fits an `unsigned long`. -/
theorem fdQuot_high {parent_rate n : Nat} (hp : parent_rate < 2 ^ 32) (h1 : 2 ^ 15 ≤ n)
    (h2 : n ≤ 0xffff) :
    cdiv (parent_rate * 2 ^ 16) (u32 (2 * n)) = .ok (parent_rate * 2 ^ 16 / (2 * n)) ∧
      u32 (parent_rate * 2 ^ 16 / (2 * n)) = parent_rate * 2 ^ 16 / (2 * n) := by
  rw [u32_of_lt (by omega), cdiv_of_pos _ (by omega)]
  refine ⟨rfl, u32_of_lt (lt_of_le_of_lt (Nat.div_le_of_le_mul ?_) hp)⟩
  calc parent_rate * 2 ^ 16 = 2 ^ 16 * parent_rate := Nat.mul_comm _ _
    _ ≤ 2 * n * parent_rate := Nat.mul_le_mul_right _ (by omega)

/-- The second loop with denominator `0x10000`, from a numerator in `[0x8000, 0xffff]`: it ends
with the numerator still in that range and the rate it gives. -/
theorem fdRaiseNum_high (rate : Nat) {parent_rate n : Nat} (fuel : Nat) (hp : parent_rate < 2 ^ 32)
    (h1 : 2 ^ 15 ≤ n) (h2 : n ≤ 0xffff) (hfuel : 2 ^ 15 < fuel) :
    ∃ r, fdRaiseNum parent_rate rate (2 ^ 16) fuel (n, parent_rate * 2 ^ 16 / (2 * n)) = .ok r ∧
      2 ^ 15 ≤ r.1 ∧ r.1 ≤ 0xffff ∧ r.2 = parent_rate * 2 ^ 16 / (2 * r.1) := by
  unfold fdRaiseNum
  refine Exists.imp (fun r h => ⟨h.1, h.2.1⟩) (whileLoop_terminates
    (fun s : Nat × Nat => 2 ^ 15 ≤ s.1 ∧ s.1 ≤ 0xffff ∧ s.2 = parent_rate * 2 ^ 16 / (2 * s.1))
    (fun s => 0xffff - s.1) ?_ fuel _ ⟨h1, h2, rfl⟩ (by dsimp only; omega))
  rintro s ⟨hs1, hs2, -⟩
  by_cases hc : s.2 > rate ∧ s.1 < 0xffff
  · obtain ⟨hq, hq'⟩ := @fdQuot_high parent_rate (s.1 + 1) hp (by omega) (by omega)
    refine .inr ⟨by simp [hc]; rfl, (s.1 + 1, parent_rate * 2 ^ 16 / (2 * (s.1 + 1))), ?_,
      ⟨by omega, by omega, rfl⟩, by dsimp only; omega⟩
    simp only [bind, Except.bind, u32_of_lt (show s.1 + 1 < 2 ^ 32 by omega), hq, hq']
    rfl
  · rw [Decidable.not_and_iff_or_not] at hc
    refine .inl ?_
    rcases hc with hc | hc <;> simp [hc] <;> rfl

/-- For a rate in `(parent / 2, parent)` the search ends with denominator `0x10000`, whose field is
0: `set_rate` writes a zero denominator, `recalc_rate` reads back 0, and `round_rate` returns a
positive rate, as a `long`. -/
theorem clkfd_denom_overflows {rate parent_rate : Nat} (hlo : rate < parent_rate)
    (hhi : parent_rate < 2 * rate) (hp : parent_rate < 2 ^ 32) {fuel : Nat} (hfuel : 2 ^ 16 < fuel) :
    ∃ num calc_rate val, fdSearch fuel rate parent_rate = .ok (num, 2 ^ 16, calc_rate) ∧
      pegmatiteClkfdSetRate fuel rate parent_rate = .ok val ∧ val.toNat &&& fdMask = 0 ∧
      pegmatiteClkfdRecalcRate val parent_rate = .ok 0 ∧
      pegmatiteClkfdRoundRate fuel rate parent_rate = .ok (s32 calc_rate) ∧ 0 < calc_rate := by
  have hr : 0 < rate := by omega
  obtain ⟨hn15, hn16⟩ := pow_div_bounds hlo hhi 15
  obtain ⟨hq, hq'⟩ := fdQuot_high hp hn15 (by omega)
  obtain ⟨r, hraise, hr1, hr1', hr2⟩ := fdRaiseNum_high rate fuel hp hn15 (by omega) (by omega)
  have hsearch : fdSearch fuel rate parent_rate = .ok (r.1, 2 ^ 16, r.2) := by
    simp only [fdSearch, bind, Except.bind, cdiv_of_pos _ hr, pure, Except.pure]
    rw [fdNormalise_half hlo hhi hp (by omega)]
    simp only [fdNormaliseTrace, show (16 : Nat) ≠ 0 by decide, if_false, hq, hq']
    rw [hraise]
  obtain ⟨hn, hd⟩ := @fdWord_fields r.1 (2 ^ 16) hr1'
  refine ⟨r.1, r.2, _, hsearch, by rw [pegmatiteClkfdSetRate, if_pos hlo, hsearch]; rfl, hd, ?_,
    by rw [pegmatiteClkfdRoundRate, hsearch]; rfl, ?_⟩
  · simp only [pegmatiteClkfdRecalcRate, hn, hd, Nat.mod_self, Nat.mul_zero, Nat.zero_div, bind,
      Except.bind,
      cdiv_of_pos _ (show 0 < u32 (2 * r.1) by rw [u32_of_lt (by omega)]; omega)]
    rfl
  · rw [hr2]
    exact Nat.div_pos (by omega) (by omega)

/-- A parent rate of 3 and a rate of 2: the search ends with denominator `0x10000`. -/
theorem clkfd_denom_overflows_three_two :
    ∃ num calc_rate val, fdSearch (2 ^ 16 + 1) 2 3 = .ok (num, 2 ^ 16, calc_rate) ∧
      pegmatiteClkfdSetRate (2 ^ 16 + 1) 2 3 = .ok val ∧ val.toNat &&& fdMask = 0 ∧
      pegmatiteClkfdRecalcRate val 3 = .ok 0 ∧
      pegmatiteClkfdRoundRate (2 ^ 16 + 1) 2 3 = .ok (s32 calc_rate) ∧ 0 < calc_rate :=
  clkfd_denom_overflows (by decide) (by decide) (by decide) (by decide)

end Pegmatite

end LinuxSampleDriver
