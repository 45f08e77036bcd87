import LinuxSampleDriver.Pegmatite.Arith

/-!
# The clock generator (`clkgen`)

A clkgen clock divides its parent in one of two ways, fixed by its device-tree node. A `use-div-sel`
clock (the DDR clock) has one bit, bit 20 of `config`, choosing between `/2` and `/4`. The others
have a high and a low divider field in `config`, whose sum divides the parent, and maybe a
predivider whose value the hardware holds in the status word at `config + 4`.
`pegmatite_clkgen_set_rate` writes `config`; `pegmatite_clkgen_recalc_rate` reads bit 20 of
`config`, or the divider fields of the status word, which reflect those of `config`
(`ClkgenRegs.reflect`).

`pegmatite_clkgen_round_rate` returns the parent rate unchanged whenever the rate asked for is at
least the parent rate. For a `use-div-sel` clock `set_rate` still programs `/2` then, so
`recalc_rate` reads back half the rate `round_rate` promised (`clkgen_divSelect_mismatch`).
-/

namespace LinuxSampleDriver

namespace Pegmatite

/-- `HIDIV_MASK`, also `LODIV_MASK` and `PRE_DIV_VAL_MASK`. -/
def clkgenFieldMask : Nat := 0xff

/-- `HIDIV_SHIFT`. -/
def hidivShift : Nat := 16

/-- `LODIV_SHIFT`. -/
def lodivShift : Nat := 8

/-- `DIV_SEL_SHIFT`. -/
def divSelShift : Nat := 20

/-- `PRE_DIV_ENB_SHIFT`. -/
def preDivEnbShift : Nat := 2

/-- The fields of `struct pegmatite_clkgen` that the callbacks read, from the device tree:
`max-divide` (read as a `u32`), `use-div-sel`, the negation of `no-prediv`, and `prediv-shift`. -/
structure PegmatiteClkgen where
  max_divide : Nat
  use_div_select : Bool
  use_prediv : Bool
  prediv_shift : Nat
  deriving DecidableEq, Repr

/-- The two words the callbacks use: `config`, and the status word at `config + 4`. -/
structure ClkgenRegs where
  config : BitVec 32
  status : BitVec 32
  deriving DecidableEq, Repr

/-- The field of `val` at `shift`, eight bits wide: `(val >> shift) & 0xff`. A shift of 32 or more,
which C leaves undefined, reads 0. -/
def clkgenField (val : BitVec 32) (shift : Nat) : Nat := (val >>> shift).toNat &&& clkgenFieldMask

/-- `pegmatite_clkgen_recalc_rate`. -/
def pegmatiteClkgenRecalcRate (gen : PegmatiteClkgen) (regs : ClkgenRegs) (parent_rate : Nat) :
    ClkM Nat :=
  if gen.use_div_select then
    if regs.config &&& BitVec.ofNat 32 (1 <<< divSelShift) ≠ 0 then pure (parent_rate / 4)
    else pure (parent_rate / 2)
  else do
    let val := regs.status
    let rate ← if gen.use_prediv ∧ val &&& BitVec.ofNat 32 (1 <<< preDivEnbShift) ≠ 0 then
        cdiv parent_rate (clkgenField val gen.prediv_shift)
      else pure parent_rate
    let hidiv := clkgenField val hidivShift
    let lodiv := clkgenField val lodivShift
    if lodiv ≠ 0 ∧ hidiv ≠ 0 then cdiv rate (lodiv + hidiv) else pure rate

/-- The divider both `set_rate` and `round_rate` choose for `parent_rate > rate`: the quotient,
raised by one when that brings `parent_rate / div` nearer to `rate` (by the kernel's `abs` of the
`unsigned long` differences), and capped at `max_divide`. -/
def clkgenDivider (max_divide rate parent_rate : Nat) : ClkM Nat := do
  let div ← cdiv parent_rate rate
  let lo ← cdiv parent_rate div
  let hi ← cdiv parent_rate (u32 (div + 1))
  let div := if kabs (usub rate lo) > kabs (usub rate hi) then u32 (div + 1) else div
  pure (if div > max_divide then max_divide else div)

/-- The divider fields of `set_rate` without `use-div-sel`: `hidiv`, `lodiv` and `prediv`. -/
def clkgenSetDividers (gen : PegmatiteClkgen) (regs : ClkgenRegs) (rate parent_rate : Nat) :
    ClkM (Nat × Nat × Nat) :=
  if parent_rate > rate then do
    let q ← if gen.use_prediv then cdiv parent_rate gen.max_divide else pure 0
    let prediv := if gen.use_prediv ∧ q > rate then clkgenField regs.status gen.prediv_shift else 0
    let parent_rate ← if prediv ≠ 0 then cdiv parent_rate prediv else pure parent_rate
    if parent_rate > rate then do
      let div ← clkgenDivider gen.max_divide rate parent_rate
      pure (div / 2, div - div / 2, prediv)
    else pure (0, 0, prediv)
  else pure (0, 0, 0)

/-- `pegmatite_clkgen_set_rate`: the registers after its write of `config`. -/
def pegmatiteClkgenSetRate (gen : PegmatiteClkgen) (regs : ClkgenRegs) (rate parent_rate : Nat) :
    ClkM ClkgenRegs :=
  if gen.use_div_select then
    let div_sel := if parent_rate / 2 > rate then 1 else 0
    let val := regs.config &&& ~~~(BitVec.ofNat 32 (1 <<< divSelShift)) |||
      BitVec.ofNat 32 (div_sel <<< divSelShift)
    pure { regs with config := val }
  else do
    let (hidiv, lodiv, prediv) ← clkgenSetDividers gen regs rate parent_rate
    let val := if prediv ≠ 0 then regs.config ||| BitVec.ofNat 32 (1 <<< preDivEnbShift)
      else regs.config &&& ~~~(BitVec.ofNat 32 (1 <<< preDivEnbShift))
    let val := val &&& ~~~(BitVec.ofNat 32 (clkgenFieldMask <<< hidivShift)) &&&
      ~~~(BitVec.ofNat 32 (clkgenFieldMask <<< lodivShift)) |||
      BitVec.ofNat 32 ((hidiv &&& clkgenFieldMask) <<< hidivShift) |||
      BitVec.ofNat 32 ((lodiv &&& clkgenFieldMask) <<< lodivShift)
    pure { regs with config := val }

/-- `pegmatite_clkgen_round_rate`: each `unsigned int` rate it settles on is returned as a
`long`. -/
def pegmatiteClkgenRoundRate (gen : PegmatiteClkgen) (regs : ClkgenRegs) (rate parent_rate : Nat) :
    ClkM Int := do
  let calc_rate := u32 parent_rate
  if calc_rate ≤ rate then return s32 calc_rate
  if gen.use_div_select then
    return s32 (if calc_rate / 2 ≤ rate then calc_rate / 2 else calc_rate / 4)
  let q ← if gen.use_prediv then cdiv calc_rate gen.max_divide else pure 0
  let prediv := if gen.use_prediv ∧ q > rate then clkgenField regs.status gen.prediv_shift else 0
  let calc_rate ← if prediv ≠ 0 then cdiv calc_rate prediv else pure calc_rate
  if gen.use_prediv ∧ q > rate ∧ calc_rate ≤ rate then return s32 calc_rate
  let div ← clkgenDivider gen.max_divide rate calc_rate
  return s32 (← cdiv calc_rate div)

/-- The divider fields of the status word: `PRE_DIV_ENB`, `HIDIV` and `LODIV`. -/
def clkgenDividerFields : BitVec 32 :=
  BitVec.ofNat 32 (1 <<< preDivEnbShift) ||| BitVec.ofNat 32 (clkgenFieldMask <<< hidivShift) |||
    BitVec.ofNat 32 (clkgenFieldMask <<< lodivShift)

/-- The registers once the status word reflects the divider fields last written to `config`; the
rest of the status word, the predivider value among it, is kept. -/
def ClkgenRegs.reflect (regs : ClkgenRegs) : ClkgenRegs :=
  { regs with status := regs.status &&& ~~~clkgenDividerFields ||| regs.config &&& clkgenDividerFields }

/-! ## A rate at least the parent rate -/

/-- A `use-div-sel` clock asked for a rate at least its parent rate `p > 0`: `round_rate` returns
`p` (as a `long`), but `set_rate` clears the divide-by-four bit, and `recalc_rate` on the
registers it writes reads back `p / 2`, whatever the status word reflects. -/
theorem clkgen_divSelect_mismatch (gen : PegmatiteClkgen) (hsel : gen.use_div_select = true)
    (regs : ClkgenRegs) {rate parent_rate : Nat} (hp : 0 < parent_rate) (hle : parent_rate ≤ rate)
    (h32 : parent_rate < 2 ^ 32) :
    pegmatiteClkgenRoundRate gen regs rate parent_rate = .ok (s32 parent_rate) ∧
      ∃ regs', pegmatiteClkgenSetRate gen regs rate parent_rate = .ok regs' ∧
        pegmatiteClkgenRecalcRate gen regs'.reflect parent_rate = .ok (parent_rate / 2) ∧
        parent_rate / 2 < parent_rate := by
  refine ⟨?_, _, by simp only [pegmatiteClkgenSetRate, hsel, if_true]; rfl, ?_, by omega⟩
  · simp [pegmatiteClkgenRoundRate, u32_of_lt h32, hle]
    rfl
  · have hbit : (regs.config &&& ~~~(BitVec.ofNat 32 (1 <<< divSelShift)) |||
        BitVec.ofNat 32 ((if parent_rate / 2 > rate then 1 else 0) <<< divSelShift)) &&&
        BitVec.ofNat 32 (1 <<< divSelShift) = 0 := by
      rw [if_neg (by omega)]
      apply BitVec.eq_of_getLsbD_eq
      intro i
      simp only [BitVec.getLsbD_and, BitVec.getLsbD_or, BitVec.getLsbD_not, BitVec.getLsbD_ofNat]
      cases (regs.config).getLsbD i
      · simp
      · simp
        intro h h'
        exact h.resolve_left (by omega)
    simp only [pegmatiteClkgenRecalcRate, ClkgenRegs.reflect, hsel, if_true, hbit, ne_eq,
      not_true_eq_false, if_false]
    rfl

/-- A DDR-style clock of the default `max-divide` with a parent rate and a rate of 100. -/
theorem clkgen_divSelect_mismatch_100 :
    pegmatiteClkgenRoundRate ⟨16, true, true, 27⟩ ⟨0, 0⟩ 100 100 = .ok 100 ∧
      ∃ regs', pegmatiteClkgenSetRate ⟨16, true, true, 27⟩ ⟨0, 0⟩ 100 100 = .ok regs' ∧
        pegmatiteClkgenRecalcRate ⟨16, true, true, 27⟩ regs'.reflect 100 = .ok (100 / 2) ∧
        100 / 2 < 100 :=
  have h := clkgen_divSelect_mismatch ⟨16, true, true, 27⟩ rfl ⟨0, 0⟩ (by decide) (by decide)
    (by decide)
  ⟨h.1.trans rfl, h.2⟩

end Pegmatite

end LinuxSampleDriver
