import LinuxSampleDriver.Pegmatite.Arith

/-!
# The PLL (`pll.c`)

A pegmatite PLL multiplies its divided reference: from `parent / refdiv` it makes a VCO frequency
`fvco`, and its output is `fvco` divided by a post-divider `vcodiv = 1 << clkout_div_sel`.
`pegmatite_pll_set_rate` and `pegmatite_pll_round_rate` run the same search. They pick `vcodiv`
(in deskew mode the largest power of two keeping `rate * vcodiv` within 3 GHz; otherwise the least
`vcodiv` bringing it into `[1 GHz, 4 GHz]`), then the reference divider whose rate comes nearest
`rate`, and compute the feedback divider `fbdiv` for it. `set_rate` programs `refdiv`, `fbdiv`, the
post-divider select for `vcodiv` and, outside deskew mode, a frequency offset; `recalc_rate` reads
them back. `round_rate` returns the rate of the divider it found, or `rate` itself when a
frequency offset within 5% can make up the difference.

`recalc_rate` reads back exactly the fields `set_rate` wrote, whatever the registers held before
(`pegmatitePllRecalcRate_pllProgram`), yet the three callbacks do not compute one rate. In deskew
mode `round_rate`'s last step divides by `refdiv` where the other two divide by `refdiv * vcodiv`,
and a `vcodiv` that is not a power of two, which the non-deskew search gives for 400 MHz, has no
post-divider select: `set_rate` programs select 0, a post-divider of 1
(`pll_recalc_setRate_mismatch`). The searches do not always end:
outside deskew mode `set_rate`'s `vcodiv` search ends exactly for the rates in `[1, 4 GHz]`
(`pllSetVcodivSearch_ends_iff`), `round_rate`'s never ends for 0 or above 4 GHz either, and in
deskew mode `set_rate`'s `vcodiv` doubles through 32 bits to 0 for a rate of 1
(`pegmatitePll_vcodiv_diverges`).

The register writes are modelled as the code makes them, on plain storage: the lock wait, which
reads `lock_state` at most 1001 times and changes nothing, is left out.
-/

namespace LinuxSampleDriver

namespace Pegmatite

/-- The registers of `struct pll_regs` that the callbacks write or read back (`lock_state` and
`reserve_out` are not among them). -/
structure PllRegs where
  rst_prediv : BitVec 32
  mult_postdiv : BitVec 32
  kvco : BitVec 32
  misc : BitVec 32
  feedback_mode_deskew : BitVec 32
  offset_mode : BitVec 32
  fixed_mode_ssc_mode : BitVec 32
  ssc_freq_ssc_range : BitVec 32
  clk_control_marvell_test : BitVec 32
  deriving DecidableEq, Repr

/-- A field of a PLL register, by its `_MASK` and `_SHIFT`. -/
structure PllField where
  mask : Nat
  shift : Nat

/-- `MASK << SHIFT` as a register word. -/
def PllField.bits (f : PllField) : BitVec 32 := BitVec.ofNat 32 (f.mask <<< f.shift)

/-- `(x & MASK) << SHIFT` as a register word. -/
def PllField.place (f : PllField) (x : Nat) : BitVec 32 := BitVec.ofNat 32 ((x &&& f.mask) <<< f.shift)

/-- `(val >> SHIFT) & MASK`. -/
def PllField.get (f : PllField) (val : BitVec 32) : Nat := (val >>> f.shift).toNat &&& f.mask

/-- `REFDIV`. -/
def refdivField : PllField := ⟨0x1ff, 0⟩
/-- `PLL_BW_SEL`. -/
def pllBwSelField : PllField := ⟨0x1, 15⟩
/-- `ICP`. -/
def icpField : PllField := ⟨0xf, 5⟩
/-- `CLKOUT_SE_DIV_SEL`. -/
def clkoutSeDivSelField : PllField := ⟨0x7, 0⟩
/-- `CLKOUT_DIFF_DIV_SEL`. -/
def clkoutDiffDivSelField : PllField := ⟨0x7, 8⟩
/-- `FBDIV`. -/
def fbdivField : PllField := ⟨0x1ff, 16⟩
/-- `CLKOUT_SOURCE_SEL`. -/
def clkoutSourceSelField : PllField := ⟨0x1, 16⟩
/-- `CLKOUT_DIF_EN`. -/
def clkoutDifEnField : PllField := ⟨0x1, 17⟩
/-- `PI_LOOP_MODE`. -/
def piLoopModeField : PllField := ⟨0x1, 20⟩
/-- `FREQ_OFFSET`. -/
def freqOffsetField : PllField := ⟨0x1ffff, 3⟩
/-- `FREQ_OFFSET_VALID`. -/
def freqOffsetValidField : PllField := ⟨0x1, 1⟩
/-- `FREQ_OFFSET_EN`. -/
def freqOffsetEnField : PllField := ⟨0x1, 0⟩
/-- `FREQ_OFFSET_INTPR`. -/
def freqOffsetIntprField : PllField := ⟨0x7, 24⟩
/-- `FREQ_OFFSET_FD`. -/
def freqOffsetFdField : PllField := ⟨0x3, 22⟩
/-- `KVCO`. -/
def kvcoField : PllField := ⟨0xf, 0⟩
/-- `FBCLK_EXT`. -/
def fbclkExtField : PllField := ⟨0x1, 16⟩
/-- `PU`. -/
def puField : PllField := ⟨0x1, 17⟩
/-- `PI_EN`. -/
def piEnField : PllField := ⟨0x1, 1⟩
/-- `BYPASS_EN`. -/
def bypassEnField : PllField := ⟨0x1, 16⟩
/-- `RESET`. -/
def resetField : PllField := ⟨0x1, 16⟩
/-- `RESET_SSC`. -/
def resetSscField : PllField := ⟨0x1, 17⟩
/-- `RESET_PI`. -/
def resetPiField : PllField := ⟨0x1, 18⟩
/-- `VDDL_DESKEW_MASK << VDDL_SHIFT`. -/
def vddlDeskewField : PllField := ⟨0x5, 0⟩

/-- `CLK_DET_MASK`. -/
def clkDetMask : Nat := 0x4

/-! ## Reading a field back

`recalc_rate` reads each field as `(val >> SHIFT) & MASK`; `set_rate` writes it as
`val & ~(MASK << SHIFT) | (x & MASK) << SHIFT`. For a field that fits in the word, a read
distributes over the word's `|` and `&`, sees its own `MASK << SHIFT` as `MASK`, and sees a constant
that shares no bit with it as 0 (and that constant's complement as `MASK`). With these rules every
read of a word `set_rate` wrote comes out as the value it wrote, whatever the word held before. -/

namespace PllField

variable (f : PllField)

theorem testBit_get (w : BitVec 32) (i : Nat) :
    (f.get w).testBit i = (w.getLsbD (f.shift + i) && f.mask.testBit i) := by
  simp only [get, Nat.testBit_and, BitVec.testBit_toNat, BitVec.getLsbD_ushiftRight]

@[simp] theorem get_or (w v : BitVec 32) : f.get (w ||| v) = f.get w ||| f.get v :=
  Nat.eq_of_testBit_eq fun i => by
    simp only [testBit_get, Nat.testBit_or, BitVec.getLsbD_or, Bool.and_or_distrib_right]

@[simp] theorem get_and (w v : BitVec 32) : f.get (w &&& v) = f.get w &&& f.get v :=
  Nat.eq_of_testBit_eq fun i => by
    simp only [testBit_get, Nat.testBit_and, BitVec.getLsbD_and]
    cases w.getLsbD (f.shift + i) <;> cases f.mask.testBit i <;> simp

@[simp] theorem get_and_mask (w : BitVec 32) : f.get w &&& f.mask = f.get w := by
  rw [get, Nat.and_assoc, Nat.and_self]

@[simp] theorem get_or_mask (w : BitVec 32) : f.get w ||| f.mask = f.mask :=
  Nat.eq_of_testBit_eq fun i => by
    rw [Nat.testBit_or, testBit_get]
    cases f.mask.testBit i <;> simp

variable {f}

/-- Every bit of a field that fits in the word lies below bit 32. -/
theorem shift_add_lt (hf : f.mask <<< f.shift < 2 ^ 32) {i : Nat} (hi : f.mask.testBit i = true) :
    f.shift + i < 32 := by
  by_contra h
  have hlt : f.mask <<< f.shift < 2 ^ (f.shift + i) :=
    lt_of_lt_of_le hf (Nat.pow_le_pow_right (by decide) (by omega))
  have h1 := Nat.testBit_lt_two_pow hlt
  simp [Nat.testBit_shiftLeft, hi] at h1

/-- A constant that shares no bit with the field reads as 0 there ... -/
theorem get_ofNat_of_apart {c : Nat} (h : c &&& f.mask <<< f.shift = 0) :
    f.get (BitVec.ofNat 32 c) = 0 :=
  Nat.eq_of_testBit_eq fun i => by
    have := congrArg (Nat.testBit · (f.shift + i)) h
    simp only [Nat.testBit_and, Nat.testBit_shiftLeft, Nat.zero_testBit] at this
    simp only [testBit_get, BitVec.getLsbD_ofNat, Nat.zero_testBit]
    cases hm : f.mask.testBit i <;> simp_all

/-- ... and its complement reads as the whole mask. -/
theorem get_not_ofNat_of_apart (hf : f.mask <<< f.shift < 2 ^ 32) {c : Nat}
    (h : c &&& f.mask <<< f.shift = 0) : f.get (~~~BitVec.ofNat 32 c) = f.mask :=
  Nat.eq_of_testBit_eq fun i => by
    have := congrArg (Nat.testBit · (f.shift + i)) h
    simp only [Nat.testBit_and, Nat.testBit_shiftLeft, Nat.zero_testBit] at this
    rw [testBit_get, BitVec.getLsbD_not, BitVec.getLsbD_ofNat]
    cases hm : f.mask.testBit i
    · simp
    · simpa [shift_add_lt hf hm, hm] using this

theorem get_bits_of_apart {g : PllField} (h : g.mask <<< g.shift &&& f.mask <<< f.shift = 0) :
    f.get g.bits = 0 :=
  get_ofNat_of_apart h

theorem get_not_bits_of_apart (hf : f.mask <<< f.shift < 2 ^ 32) {g : PllField}
    (h : g.mask <<< g.shift &&& f.mask <<< f.shift = 0) : f.get (~~~g.bits) = f.mask :=
  get_not_ofNat_of_apart hf h

theorem get_bits_self (hf : f.mask <<< f.shift < 2 ^ 32) : f.get f.bits = f.mask :=
  Nat.eq_of_testBit_eq fun i => by
    rw [testBit_get, bits, BitVec.getLsbD_ofNat]
    cases hm : f.mask.testBit i
    · simp
    · simp [shift_add_lt hf hm, Nat.testBit_shiftLeft, hm]

theorem get_not_bits_self (hf : f.mask <<< f.shift < 2 ^ 32) : f.get (~~~f.bits) = 0 :=
  Nat.eq_of_testBit_eq fun i => by
    rw [testBit_get, BitVec.getLsbD_not, bits, BitVec.getLsbD_ofNat]
    cases hm : f.mask.testBit i
    · simp
    · simp [shift_add_lt hf hm, Nat.testBit_shiftLeft, hm]

/-- A value written to a field reads back masked ... -/
theorem get_place_self (hf : f.mask <<< f.shift < 2 ^ 32) (x : Nat) :
    f.get (f.place x) = x &&& f.mask :=
  Nat.eq_of_testBit_eq fun i => by
    rw [testBit_get, place, BitVec.getLsbD_ofNat, Nat.testBit_and]
    cases hm : f.mask.testBit i
    · simp
    · simp [shift_add_lt hf hm, Nat.testBit_shiftLeft, hm]

/-- ... and is not seen by a field that shares no bit with it. -/
theorem get_place_of_apart {g : PllField} (h : g.mask <<< g.shift &&& f.mask <<< f.shift = 0)
    (x : Nat) : f.get (g.place x) = 0 :=
  Nat.eq_of_testBit_eq fun i => by
    have := congrArg (Nat.testBit · (f.shift + i)) h
    simp only [Nat.testBit_and, Nat.testBit_shiftLeft, Nat.zero_testBit] at this
    simp [testBit_get, place, BitVec.getLsbD_ofNat, Nat.testBit_shiftLeft, Nat.testBit_and]
    intro _ _ _ _
    simp_all

/-- The word test `val & (MASK << SHIFT)` is a test of the field's read. -/
theorem and_bits_eq_zero_iff (hf : f.mask <<< f.shift < 2 ^ 32) (w : BitVec 32) :
    w &&& f.bits = 0 ↔ f.get w = 0 := by
  constructor
  · intro h
    have := congrArg f.get h
    rwa [get_and, get_bits_self hf, get_and_mask, show (0 : BitVec 32) = BitVec.ofNat 32 0 from rfl,
      get_ofNat_of_apart (Nat.zero_and _)] at this
  · intro h
    apply BitVec.eq_of_getLsbD_eq
    intro j
    have := congrArg (Nat.testBit · (j - f.shift)) h
    simp only [testBit_get, Nat.zero_testBit] at this
    simp only [BitVec.getLsbD_and, bits, BitVec.getLsbD_ofNat, Nat.testBit_shiftLeft,
      BitVec.getLsbD_zero]
    by_cases hj : f.shift ≤ j
    · rw [Nat.add_sub_cancel' hj] at this
      cases hw : w.getLsbD j <;> simp_all
    · simp [hj]

theorem and_bits_eq_bits_iff (hf : f.mask <<< f.shift < 2 ^ 32) (w : BitVec 32) :
    w &&& f.bits = f.bits ↔ f.get w = f.mask := by
  constructor
  · intro h
    have := congrArg f.get h
    rwa [get_and, get_bits_self hf, get_and_mask] at this
  · intro h
    apply BitVec.eq_of_getLsbD_eq
    intro j
    have := congrArg (Nat.testBit · (j - f.shift)) h
    simp only [testBit_get] at this
    simp only [BitVec.getLsbD_and, bits, BitVec.getLsbD_ofNat, Nat.testBit_shiftLeft]
    by_cases hj : f.shift ≤ j
    · rw [Nat.add_sub_cancel' hj] at this
      cases hw : w.getLsbD j <;> simp_all
    · simp [hj]

end PllField

/-! ## `recalc_rate` -/

/-- The rate `pegmatite_pll_recalc_rate` computes from the fields it read: `vcodiv = 1 <<
clkout_div_sel`, the rate `parent * fbdiv / (refdiv * vcodiv)`, times 4 outside deskew mode, and
there the frequency offset applied. -/
def pllRecalcFromFields (deskew : Bool) (parent_rate refdiv clkout_div_sel fbdiv freq_offset : Nat) :
    ClkM Nat := do
  let vcodiv := u32 (1 <<< clkout_div_sel)
  if deskew then
    let c ← cdiv (parent_rate * fbdiv) (u32 (refdiv * vcodiv))
    return u32 c
  let c ← cdiv (parent_rate * 4 * fbdiv) (u32 (refdiv * vcodiv))
  let calc_rate := u32 c
  if freq_offset = 0 then return calc_rate
  let offset_percent : Int := ((freq_offset &&& 0xffff : Nat) : Int)
  let divider := 1048576 + offset_percent
  let offset_percent ← divS64 (offset_percent * 100000000) divider
  let freq_bump ← divS64 (calc_rate * offset_percent) 100000000
  if freq_offset &&& 0x10000 ≠ 0 then return ofInt32 (calc_rate + freq_bump)
  else return ofInt32 (calc_rate - freq_bump)

/-- `pegmatite_pll_recalc_rate` in deskew mode `deskew` (the node's `deskew` property): the parent
rate in bypass, 0 when powered down or in reset, and otherwise the rate of the fields it reads. -/
def pegmatitePllRecalcRate (deskew : Bool) (regs : PllRegs) (parent_rate : Nat) : ClkM Nat := do
  let val := regs.fixed_mode_ssc_mode
  if val &&& bypassEnField.bits ≠ 0 then return parent_rate
  if val &&& puField.bits ≠ puField.bits then return 0
  let val := regs.rst_prediv
  if val &&& resetField.bits ≠ 0 then return 0
  let refdiv := refdivField.get val
  let clkout_div_sel := clkoutSeDivSelField.get regs.mult_postdiv
  let fbdiv := fbdivField.get regs.mult_postdiv
  let val := regs.offset_mode
  let freq_offset := if freqOffsetEnField.get val ≠ 0 then freqOffsetField.get val else 0
  pllRecalcFromFields deskew parent_rate refdiv clkout_div_sel fbdiv freq_offset

/-! ## The searches of `set_rate` and `round_rate` -/

/-- `set_rate`'s `vcodiv` in deskew mode, an `unsigned int`: `if (rate > 0) { while ((u64)rate *
vcodiv <= 3000000000) vcodiv *= 2; vcodiv /= 2; }` from `vcodiv = 1`. -/
def pllSetVcodivDeskew (fuel rate : Nat) : ClkM Nat :=
  if rate > 0 then do
    let v ← whileLoop (fun v => pure (decide (rate * v ≤ 3000000000))) (fun v => pure (u32 (v * 2)))
      fuel 1
    pure (v / 2)
  else pure 1

/-- `set_rate`'s `vcodiv` outside deskew mode: `while ((u64)rate * vcodiv < 1000000000 ||
(u64)rate * vcodiv > 4000000000) vcodiv++;` from `vcodiv = 1`. -/
def pllSetVcodivSearch (fuel rate : Nat) : ClkM Nat :=
  whileLoop (fun v => pure (decide (rate * v < 1000000000 ∨ rate * v > 4000000000)))
    (fun v => pure (u32 (v + 1))) fuel 1

/-- An `int`, held as its 32-bit pattern, converted to `unsigned long long`. -/
def intToU64 (v : Nat) : Nat := if v < 2 ^ 31 then v else v + (2 ^ 64 - 2 ^ 32)

/-- `round_rate`'s `vcodiv` in deskew mode: the loop of `set_rate` on an `int vcodiv`, which
`(unsigned long long)` sign-extends and `/= 2` divides toward zero. -/
def pllRoundVcodivDeskew (fuel rate : Nat) : ClkM Nat :=
  if rate > 0 then do
    let v ← whileLoop (fun v => pure (decide (u64 (rate * intToU64 v) ≤ 3000000000)))
      (fun v => pure (u32 (v * 2))) fuel 1
    pure (ofInt32 ((toLong v).tdiv 2))
  else pure 1

/-- `round_rate`'s `vcodiv` outside deskew mode, on an `int vcodiv`. -/
def pllRoundVcodivSearch (fuel rate : Nat) : ClkM Nat :=
  whileLoop (fun v => pure (decide (u64 (rate * intToU64 v) < 1000000000 ∨
      u64 (rate * intToU64 v) > 4000000000)))
    (fun v => pure (u32 (v + 1))) fuel 1

/-- `while (parent_rate / refdiv > 32000000) refdiv++;` from `refdiv = 1`. -/
def pllRefdivStart (fuel parent_rate : Nat) : ClkM Nat :=
  whileLoop (fun refdiv => do
      let q ← cdiv parent_rate refdiv
      pure (decide (q > 32000000)))
    (fun refdiv => pure (u32 (refdiv + 1))) fuel 1

/-- The block both callbacks repeat for a reference divider: `frefdiv`, `fbdiv`, and the rate
without frequency offset, `do_div`ed by `refdiv * vcodiv`. -/
def pllCalcRate (deskew : Bool) (parent_rate fvco vcodiv refdiv : Nat) : ClkM (Nat × Nat × Nat) := do
  let frefdiv ← cdiv parent_rate refdiv
  let fbdiv ← if deskew then cdiv fvco (u32 (frefdiv * vcodiv)) else cdiv (fvco / 4) frefdiv
  let calc_rate_64 := if deskew then parent_rate * fbdiv else u64 (parent_rate * 4 * fbdiv)
  let c ← cdiv calc_rate_64 (u32 (refdiv * vcodiv))
  pure (frefdiv, fbdiv, u32 c)

/-- The loop over reference dividers, on `(refdiv, best_refdiv, best_calc_rate)`: while
`parent_rate / refdiv >= 8000000`, keep `refdiv` when its rate is nearer `rate` than the best so
far, by the kernel's `abs` of the `unsigned long` differences. -/
def pllRefdivSearch (deskew : Bool) (fuel rate parent_rate fvco vcodiv : Nat)
    (s : Nat × Nat × Nat) : ClkM (Nat × Nat × Nat) :=
  whileLoop (fun s => do
      let q ← cdiv parent_rate s.1
      pure (decide (q ≥ 8000000)))
    (fun s => do
      let r ← pllCalcRate deskew parent_rate fvco vcodiv s.1
      let best := if kabs (usub s.2.2 rate) > kabs (usub r.2.2 rate) then (s.1, r.2.2)
        else (s.2.1, s.2.2)
      pure (u32 (s.1 + 1), best)) fuel s

/-- The reference divider both callbacks settle on for `vcodiv` and `fvco`. -/
def pllBestRefdiv (deskew : Bool) (fuel rate parent_rate fvco vcodiv : Nat) : ClkM Nat := do
  let refdiv ← pllRefdivStart fuel parent_rate
  let r ← pllCalcRate deskew parent_rate fvco vcodiv refdiv
  let s ← pllRefdivSearch deskew fuel rate parent_rate fvco vcodiv (u32 (refdiv + 1), refdiv, r.2.2)
  pure s.2.1

/-! ## `set_rate` -/

/-- The `switch (vcodiv)` of `set_rate`: the post-divider select of the powers of two up to 128;
any other `vcodiv` leaves it at its initial 0. -/
def pllClkoutDivSel (vcodiv : Nat) : Nat :=
  match vcodiv with
  | 1 => 0
  | 2 => 1
  | 4 => 2
  | 8 => 3
  | 16 => 4
  | 32 => 5
  | 64 => 6
  | 128 => 7
  | _ => 0

/-- The KVCO frequency range for `fvco`; 0 outside `[1.2 GHz, 3 GHz)`. -/
def pllKvco (fvco : Nat) : Nat :=
  if 1200000000 ≤ fvco ∧ fvco < 1350000000 then 8
  else if 1350000000 ≤ fvco ∧ fvco < 1500000000 then 9
  else if 1500000000 ≤ fvco ∧ fvco < 1750000000 then 10
  else if 1750000000 ≤ fvco ∧ fvco < 2000000000 then 11
  else if 2000000000 ≤ fvco ∧ fvco < 2200000000 then 12
  else if 2200000000 ≤ fvco ∧ fvco < 2400000000 then 13
  else if 2400000000 ≤ fvco ∧ fvco < 2600000000 then 14
  else if 2600000000 ≤ fvco ∧ fvco < 3000000000 then 15
  else 0

/-- `(pll_bw_sel, icp)` for the divided reference rate `frefdiv`; `(0, 0)` outside
`[8 MHz, 32 MHz)`. -/
def pllChargePump (frefdiv : Nat) : Nat × Nat :=
  if 8000000 ≤ frefdiv ∧ frefdiv < 9000000 then (0, 3)
  else if 9000000 ≤ frefdiv ∧ frefdiv < 11000000 then (0, 2)
  else if 11000000 ≤ frefdiv ∧ frefdiv < 13000000 then (0, 1)
  else if 13000000 ≤ frefdiv ∧ frefdiv < 16000000 then (0, 0)
  else if 16000000 ≤ frefdiv ∧ frefdiv < 18000000 then (1, 7)
  else if 18000000 ≤ frefdiv ∧ frefdiv < 22000000 then (1, 6)
  else if 22000000 ≤ frefdiv ∧ frefdiv < 26000000 then (1, 5)
  else if 26000000 ≤ frefdiv ∧ frefdiv < 32000000 then (1, 4)
  else (0, 0)

/-- The frequency offset `set_rate` programs outside deskew mode when its rate misses `rate`: the
sign in bit 16 and `2 ^ 20 * |offset| / (1 + offset)` below it, from the offset
`(calc_rate - fvco) / fvco` in units of `10 ^ -8`. No `s64` product here can overflow. -/
def pllFreqOffset (calc_rate fvco : Nat) : ClkM Nat := do
  let offset_percent ← divS64 (((calc_rate : Int) - fvco) * 100000000) fvco
  let freq_offset := if offset_percent > 0 then 0 else 0x10000
  let divider := 100000000 + offset_percent
  let offset_percent ← divS64 ((offset_percent.natAbs : Int) * 1048576) divider
  pure (freq_offset ||| (0xffff &&& ofInt32 offset_percent))

/-- The register writes of `set_rate`, in its order, from bypass on to bypass off. -/
def pllProgram (deskew : Bool) (regs : PllRegs)
    (refdiv pll_bw_sel icp clkout_div_sel fbdiv freq_offset kvco : Nat) : PllRegs :=
  let fixed := regs.fixed_mode_ssc_mode ||| bypassEnField.bits
  let rst := regs.rst_prediv ||| resetField.bits ||| resetPiField.bits ||| resetSscField.bits
  let fixed := fixed ||| puField.bits ||| piEnField.bits
  let rst := rst &&& ~~~refdivField.bits ||| refdivField.place refdiv
  let misc := regs.misc &&& ~~~pllBwSelField.bits &&& ~~~icpField.bits |||
    pllBwSelField.place pll_bw_sel ||| icpField.place icp
  let misc := if deskew then misc ||| vddlDeskewField.bits else misc
  let mult_postdiv := regs.mult_postdiv &&& ~~~clkoutSeDivSelField.bits &&&
    ~~~clkoutDiffDivSelField.bits &&& ~~~fbdivField.bits |||
    clkoutSeDivSelField.place clkout_div_sel ||| clkoutDiffDivSelField.place clkout_div_sel |||
    fbdivField.place fbdiv
  let control := regs.clk_control_marvell_test ||| clkoutSourceSelField.bits
  let control := if deskew then control ||| clkoutDifEnField.bits else control
  let offset_mode :=
    if deskew then regs.offset_mode &&& ~~~freqOffsetIntprField.bits &&& ~~~freqOffsetFdField.bits
    else
      let val := regs.offset_mode &&& ~~~freqOffsetField.bits &&& ~~~freqOffsetValidField.bits |||
        piLoopModeField.bits ||| freqOffsetEnField.bits
      if freq_offset ≠ 0 then val ||| freqOffsetField.place freq_offset ||| freqOffsetValidField.bits
      else val
  let kvco := regs.kvco &&& ~~~kvcoField.bits ||| kvcoField.place kvco
  let feedback := if deskew then regs.feedback_mode_deskew ||| fbclkExtField.bits
    else regs.feedback_mode_deskew
  let rst := rst &&& ~~~resetField.bits &&& ~~~resetPiField.bits &&& ~~~resetSscField.bits
  let fixed := fixed &&& ~~~bypassEnField.bits
  let fixed := if deskew then fixed &&& ~~~piEnField.bits &&& ~~~(BitVec.ofNat 32 clkDetMask)
    else fixed
  ⟨rst, mult_postdiv, kvco, misc, feedback, offset_mode, fixed, 0, control⟩

/-- `pegmatite_pll_set_rate`: the registers after its writes. -/
def pegmatitePllSetRate (deskew : Bool) (fuel rate parent_rate : Nat) (regs : PllRegs) :
    ClkM PllRegs := do
  let vcodiv ← if deskew then pllSetVcodivDeskew fuel rate else pllSetVcodivSearch fuel rate
  let clkout_div_sel := pllClkoutDivSel vcodiv
  let fvco := u32 (rate * vcodiv)
  let kvco := pllKvco fvco
  let refdiv ← pllBestRefdiv deskew fuel rate parent_rate fvco vcodiv
  let r ← pllCalcRate deskew parent_rate fvco vcodiv refdiv
  let pump := pllChargePump r.1
  let freq_offset ← if r.2.2 ≠ rate ∧ deskew = false then pllFreqOffset r.2.2 fvco else pure 0
  pure (pllProgram deskew regs refdiv pump.1 pump.2 clkout_div_sel r.2.1 freq_offset kvco)

/-! ## `round_rate` -/

/-- `round_rate`'s last rate for the reference divider it chose. In deskew mode it divides by
`refdiv` alone, where `pllCalcRate` divides by `refdiv * vcodiv`. -/
def pllRoundFinal (deskew : Bool) (parent_rate fvco vcodiv refdiv : Nat) : ClkM Nat := do
  let frefdiv ← cdiv parent_rate refdiv
  let fbdiv ← if deskew then cdiv fvco (u32 (frefdiv * vcodiv)) else cdiv (fvco / 4) frefdiv
  let c ← if deskew then cdiv (parent_rate * fbdiv) refdiv
    else cdiv (u64 (parent_rate * 4 * fbdiv)) (u32 (refdiv * vcodiv))
  pure (u32 c)

/-- `pegmatite_pll_round_rate`; its `parent_rate` is the `unsigned int` `*prate`, and the rate it
settles on, `rate` or `calc_rate`, is returned as a `long`. -/
def pegmatitePllRoundRate (deskew : Bool) (fuel rate parent_rate : Nat) : ClkM Int := do
  let parent_rate := u32 parent_rate
  let vcodiv ← if deskew then pllRoundVcodivDeskew fuel rate else pllRoundVcodivSearch fuel rate
  let fvco := u32 (rate * vcodiv)
  let refdiv ← pllBestRefdiv deskew fuel rate parent_rate fvco vcodiv
  let calc_rate ← pllRoundFinal deskew parent_rate fvco vcodiv refdiv
  if calc_rate ≠ rate ∧ deskew = false then
    let offset_percent ← divS64 (((calc_rate : Int) - fvco) * 100000000) fvco
    if offset_percent.natAbs ≤ 5000000 then return s32 rate
  return s32 calc_rate

/-! ## What `recalc_rate` reads after `set_rate` -/

open PllField in
/-- `recalc_rate` on the registers `pllProgram` wrote reads back the fields it wrote, masked to
their widths, whatever the registers held before: the bypass and reset bits are clear and the PLL
is powered up. Outside deskew mode the frequency offset field is enabled, and in deskew mode the
rate does not depend on it. -/
theorem pegmatitePllRecalcRate_pllProgram (deskew : Bool) (regs : PllRegs)
    (refdiv pll_bw_sel icp clkout_div_sel fbdiv freq_offset kvco parent_rate : Nat) :
    pegmatitePllRecalcRate deskew
        (pllProgram deskew regs refdiv pll_bw_sel icp clkout_div_sel fbdiv freq_offset kvco)
        parent_rate =
      pllRecalcFromFields deskew parent_rate (refdiv &&& refdivField.mask)
        (clkout_div_sel &&& clkoutSeDivSelField.mask) (fbdiv &&& fbdivField.mask)
        (freq_offset &&& freqOffsetField.mask) := by
  have hen : freqOffsetEnField.mask ≠ 0 := by decide
  by_cases hfo : freq_offset = 0 <;> cases deskew <;>
    simp (disch := decide) only [pegmatitePllRecalcRate, pllProgram, hfo, hen, ne_eq,
      not_false_eq_true, not_true_eq_false, Bool.false_eq_true, if_true, if_false, ite_self,
      pure_bind, and_bits_eq_zero_iff, and_bits_eq_bits_iff, get_or, get_and, get_and_mask,
      get_or_mask, get_bits_self, get_not_bits_self, get_bits_of_apart, get_not_bits_of_apart,
      get_place_self, get_place_of_apart, get_not_ofNat_of_apart, Nat.and_zero, Nat.zero_and,
      Nat.or_zero, Nat.zero_or, Nat.and_assoc, Nat.and_self] <;>
    rfl

/-- `recalc_rate` after `set_rate` and `round_rate` disagree, whatever the registers held, for
100 MHz from a 25 MHz parent in deskew mode (`vcodiv` 16, `refdiv` 1, `fbdiv` 4: `round_rate`
divides by 1, `recalc_rate` by 16) and for 400 MHz outside deskew mode (`vcodiv` 3, which has no
post-divider select: `set_rate` programs select 0, and `recalc_rate` divides by 1 where the other
two divided by 3). -/
theorem pll_recalc_setRate_mismatch (regs : PllRegs) :
    (pegmatitePllSetRate true 64 100000000 25000000 regs >>= fun r =>
        pegmatitePllRecalcRate true r 25000000) = .ok 6250000 ∧
      pegmatitePllRoundRate true 64 100000000 25000000 = .ok 100000000 ∧
      (pegmatitePllSetRate false 64 400000000 25000000 regs >>= fun r =>
        pegmatitePllRecalcRate false r 25000000) = .ok 1200000000 ∧
      pegmatitePllRoundRate false 64 400000000 25000000 = .ok 400000000 := by
  refine ⟨?_, by decide, ?_, by decide⟩
  · rw [show pegmatitePllSetRate true 64 100000000 25000000 regs =
        .ok (pllProgram true regs 1 1 5 4 4 0 10) from rfl, ok_bind,
      pegmatitePllRecalcRate_pllProgram]
    decide
  · rw [show pegmatitePllSetRate false 64 400000000 25000000 regs =
        .ok (pllProgram false regs 1 1 5 0 12 0 8) from rfl, ok_bind,
      pegmatitePllRecalcRate_pllProgram]
    decide

/-! ## Which searches end -/

/-- Outside deskew mode, for a rate of 0 or above 4 GHz no multiple of the rate lies in
`[1 GHz, 4 GHz]`, and `set_rate`'s `vcodiv` search never ends. -/
theorem pllSetVcodivSearch_diverges {rate : Nat} (hrate : rate = 0 ∨ 4000000000 < rate)
    (fuel : Nat) : pllSetVcodivSearch fuel rate = throw .outOfFuel := by
  have hout : ∀ v, rate * v < 1000000000 ∨ rate * v > 4000000000 := fun v => by
    rcases hrate with rfl | hr
    · exact Or.inl (by omega)
    · rcases Nat.eq_zero_or_pos v with rfl | hv
      · exact Or.inl (by omega)
      · exact Or.inr (lt_of_lt_of_le hr (Nat.le_mul_of_pos_right rate hv))
  exact whileLoop_diverges (fun _ => True)
    (fun v _ => ⟨by rw [decide_eq_true (hout v)]; rfl, _, rfl, trivial⟩) fuel 1 trivial

/-- For a rate in `[1, 4 GHz]` the non-deskew search of `set_rate` ends at the least `vcodiv`
with `rate * vcodiv` at least 1 GHz, `ceil (10 ^ 9 / rate)`, once it may make that many tests. -/
theorem pllSetVcodivSearch_ends {rate : Nat} (hr : 0 < rate) (h4 : rate ≤ 4000000000) {fuel : Nat}
    (hfuel : (999999999 + rate) / rate ≤ fuel) :
    pllSetVcodivSearch fuel rate = .ok ((999999999 + rate) / rate) := by
  obtain ⟨v, hv⟩ : ∃ v, (999999999 + rate) / rate = v := ⟨_, rfl⟩
  have hle : v * rate ≤ 999999999 + rate := by rw [← hv]; exact Nat.div_mul_le_self _ _
  have hlo : 1000000000 ≤ v * rate := by
    have := Nat.lt_div_mul_add (a := 999999999 + rate) hr
    rw [hv] at this
    omega
  have hv1 : 1 ≤ v := Nat.pos_of_ne_zero fun h => by rw [h, Nat.zero_mul] at hlo; omega
  have hhi : v * rate ≤ 4000000000 := by
    rcases Nat.lt_or_ge rate 1000000000 with hlt | hge
    · omega
    · have : v < 2 := Nat.lt_of_mul_lt_mul_right (a := rate) (by omega)
      rw [show v = 1 by omega, Nat.one_mul]
      exact h4
  have hv32 : v < 2 ^ 32 := by
    rw [← hv]
    exact lt_of_le_of_lt (Nat.div_le_of_le_mul (by omega)) (by decide : 1000000000 < 2 ^ 32)
  obtain ⟨n, rfl⟩ : ∃ n, v = n + 1 := ⟨v - 1, by omega⟩
  rw [hv] at hfuel ⊢
  refine whileLoop_trace (fun j => j + 1) n (fun j hj => ⟨?_, ?_⟩) ?_ fuel hfuel
  · have : (j + 1 + 1) * rate ≤ (n + 1) * rate := Nat.mul_le_mul_right _ (by omega)
    rw [Nat.add_mul (j + 1)] at this
    dsimp only
    rw [decide_eq_true (Or.inl (by rw [Nat.mul_comm]; omega))]
    rfl
  · show Except.ok (u32 (j + 1 + 1)) = _
    rw [u32_of_lt (by omega)]
  · dsimp only
    rw [decide_eq_false (by rw [Nat.mul_comm]; omega)]
    rfl

/-- So the non-deskew search of `set_rate` ends, for some bound on its tests, exactly for the
rates in `[1, 4 GHz]`. -/
theorem pllSetVcodivSearch_ends_iff (rate : Nat) :
    (∃ fuel vcodiv, pllSetVcodivSearch fuel rate = .ok vcodiv) ↔ 0 < rate ∧ rate ≤ 4000000000 := by
  constructor
  · rintro ⟨fuel, vcodiv, h⟩
    by_contra hc
    rw [pllSetVcodivSearch_diverges (by omega) fuel] at h
    cases h
  · rintro ⟨hr, h4⟩
    exact ⟨_, _, pllSetVcodivSearch_ends hr h4 le_rfl⟩

/-- An `int vcodiv` at or above `2 ^ 31` is negative: its sign extension times a positive rate
below `2 ^ 32` is, as a `u64`, `2 ^ 64` less the rate times its magnitude `2 ^ 32 - vcodiv`. -/
theorem u64_mul_intToU64_of_ge {rate v : Nat} (hr : 0 < rate) (hr32 : rate < 2 ^ 32)
    (hv : 2 ^ 31 ≤ v) (hv32 : v < 2 ^ 32) :
    u64 (rate * intToU64 v) = 2 ^ 64 - rate * (2 ^ 32 - v) := by
  have hd : rate * (2 ^ 32 - v) ≤ 2 ^ 63 := calc
    rate * (2 ^ 32 - v) ≤ 2 ^ 32 * 2 ^ 31 := Nat.mul_le_mul hr32.le (by omega)
    _ = 2 ^ 63 := by decide
  have hpos : 0 < rate * (2 ^ 32 - v) := Nat.mul_pos hr (by omega)
  have h1 : rate * (v + (2 ^ 64 - 2 ^ 32)) + rate * (2 ^ 32 - v) = rate * 2 ^ 64 := by
    rw [← Nat.mul_add]; congr 1; omega
  have h2 : rate * 2 ^ 64 = 2 ^ 64 * (rate - 1) + 2 ^ 64 := by
    rw [Nat.mul_comm, ← Nat.mul_succ, Nat.succ_eq_add_one, Nat.sub_add_cancel hr]
  rw [intToU64, if_neg (by omega), u64,
    show rate * (v + (2 ^ 64 - 2 ^ 32)) = 2 ^ 64 * (rate - 1) + (2 ^ 64 - rate * (2 ^ 32 - v)) by
      omega,
    Nat.mul_add_mod, Nat.mod_eq_of_lt (by omega)]

/-- `round_rate`'s search on an `int vcodiv` does not end either for a rate of 0 or above 4 GHz
that is an `unsigned long`: once `vcodiv` passes `INT_MAX` its sign extension makes the product
larger still. -/
theorem pllRoundVcodivSearch_diverges {rate : Nat}
    (hrate : rate = 0 ∨ 4000000000 < rate ∧ rate < 2 ^ 32) (fuel : Nat) :
    pllRoundVcodivSearch fuel rate = throw .outOfFuel := by
  have hout : ∀ v, v < 2 ^ 32 → u64 (rate * intToU64 v) < 1000000000 ∨
      u64 (rate * intToU64 v) > 4000000000 := fun v hv => by
    rcases hrate with rfl | ⟨hlo, hhi⟩
    · left; simp [u64]
    rcases Nat.lt_or_ge v (2 ^ 31) with hv31 | hv31
    · rcases Nat.eq_zero_or_pos v with rfl | hv0
      · left; simp [u64, intToU64]
      · right
        have hle : rate * v < 2 ^ 64 := calc
          rate * v < 2 ^ 32 * 2 ^ 31 := Nat.mul_lt_mul'' hhi hv31
          _ ≤ 2 ^ 64 := by decide
        rw [intToU64, if_pos hv31, u64_of_lt hle]
        exact lt_of_lt_of_le hlo (Nat.le_mul_of_pos_right rate hv0)
    · right
      have hd : rate * (2 ^ 32 - v) ≤ 2 ^ 32 * 2 ^ 31 := Nat.mul_le_mul hhi.le (by omega)
      rw [u64_mul_intToU64_of_ge (by omega) hhi hv31 hv]
      omega
  exact whileLoop_diverges (fun v => v < 2 ^ 32)
    (fun v hv => ⟨by rw [decide_eq_true (hout v hv)]; rfl, _, rfl, Nat.mod_lt _ (by decide)⟩)
    fuel 1 (by decide)

/-- In deskew mode for a rate of 1 `set_rate`'s `unsigned int vcodiv` doubles through the powers
of two to `2 ^ 31` and then wraps to 0, which stays 0: the product never passes 3 GHz. -/
theorem pllSetVcodivDeskew_one_diverges (fuel : Nat) :
    pllSetVcodivDeskew fuel 1 = throw .outOfFuel := by
  have hstep : ∀ v, (∃ k ≤ 32, v = 2 ^ k % 2 ^ 32) →
      (pure (decide (1 * v ≤ 3000000000)) : ClkM Bool) = .ok true ∧
        ∃ v', (pure (u32 (v * 2)) : ClkM Nat) = .ok v' ∧ ∃ k ≤ 32, v' = 2 ^ k % 2 ^ 32 := by
    rintro v ⟨k, hk, rfl⟩
    rcases Nat.lt_or_ge k 32 with hk32 | hk32
    · have hpow : 2 ^ k ≤ 2 ^ 31 := Nat.pow_le_pow_right (by decide) (by omega)
      rw [Nat.mod_eq_of_lt (Nat.pow_lt_pow_right (by decide) hk32)]
      refine ⟨by rw [decide_eq_true (by omega)]; rfl, _, rfl, k + 1, by omega, ?_⟩
      rw [u32, ← Nat.pow_succ]
    · obtain rfl : k = 32 := by omega
      exact ⟨rfl, _, rfl, 32, le_refl _, rfl⟩
  unfold pllSetVcodivDeskew
  rw [if_pos Nat.one_pos, whileLoop_diverges _ hstep fuel 1 ⟨0, by omega, rfl⟩]
  rfl

/-- The `vcodiv` searches do not always end, for rates an `unsigned long` holds: outside deskew
mode neither `set_rate` nor `round_rate` returns for a rate of 0 or above 4 GHz, and in deskew mode
`set_rate` does not return for a rate of 1, whatever the bound on their passes. -/
theorem pegmatitePll_vcodiv_diverges (fuel parent_rate : Nat) (regs : PllRegs) {rate : Nat}
    (hrate : rate = 0 ∨ 4000000000 < rate ∧ rate < 2 ^ 32) :
    pegmatitePllSetRate false fuel rate parent_rate regs = throw .outOfFuel ∧
      pegmatitePllRoundRate false fuel rate parent_rate = throw .outOfFuel ∧
      pegmatitePllSetRate true fuel 1 parent_rate regs = throw .outOfFuel := by
  refine ⟨?_, ?_, ?_⟩
  · simp only [pegmatitePllSetRate, Bool.false_eq_true, if_false,
      pllSetVcodivSearch_diverges (hrate.imp_right And.left)]
    rfl
  · simp only [pegmatitePllRoundRate, Bool.false_eq_true, if_false,
      pllRoundVcodivSearch_diverges hrate]
    rfl
  · simp only [pegmatitePllSetRate, if_true, pllSetVcodivDeskew_one_diverges]
    rfl

theorem pegmatitePll_vcodiv_diverges_max :
    (4294967295 = 0 ∨ 4000000000 < 4294967295 ∧ 4294967295 < 2 ^ 32) ∧
      pegmatitePllSetRate false 64 4294967295 25000000 ⟨0, 0, 0, 0, 0, 0, 0, 0, 0⟩ =
          throw .outOfFuel ∧
        pegmatitePllRoundRate false 64 4294967295 25000000 = throw .outOfFuel ∧
        pegmatitePllSetRate true 64 1 25000000 ⟨0, 0, 0, 0, 0, 0, 0, 0, 0⟩ = throw .outOfFuel :=
  ⟨Or.inr ⟨by decide, by decide⟩,
    pegmatitePll_vcodiv_diverges 64 25000000 _ (Or.inr ⟨by decide, by decide⟩)⟩

end Pegmatite

end LinuxSampleDriver
