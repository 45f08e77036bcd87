import LinuxSampleDriver.Pegmatite.Arith
import LinuxSampleDriver.Pegmatite.Pll

/-!
# The LVDS-safe divider (`clklvdsafe.c`)

The LVDS-safe clock divides its parent by `(hidiv + 1) + (lodiv + 1)`, a total between 2 and
512, from two 8-bit fields of its register. Its callbacks do nothing, or return 0, while the parent
clock is disabled or a rate is 0. `pegmatite_clklvdsafe_set_rate` clamps the total divider
`parent / rate` into `[2, 512]` before it tries the next divider up; `pegmatite_clklvdsafe_round_rate`
tries it first and clamps after. For a rate above the parent rate that total is 0, and
`round_rate` divides the parent rate by it: it divides by zero exactly then
(`pegmatiteClklvdsafeRoundRate_divideByZero_iff`).

For every rate up to the parent rate the two orders meet: both land on the same divider, the
register `set_rate` writes holds it in its two fields (read back with the field rules of the PLL
module, the same `_MASK`/`_SHIFT` pattern), and `recalc_rate` then reports exactly what
`round_rate` offered, the `long` it returns read back as an `unsigned long`
(`pegmatiteClklvdsafe_recalc_setRate`).

`enable` and the file's disable callback flip the `CLKOUT` bit and keep the divider, and
`set_rate` keeps `CLKOUT`; so over every run of the three, seen through `is_enabled` and
`recalc_rate`, the clock is a switch with the rate `round_rate` last offered
(`lvdsafeRun_refines`).
-/

namespace LinuxSampleDriver

namespace Pegmatite

/-- `HIDIV_MASK`, also `LODIV_MASK`. -/
def lvdsafeFieldMask : Nat := 0xff

/-- `HIDIV_SHIFT`; `LODIV_SHIFT` is 0. -/
def lvdsafeHidivShift : Nat := 8

/-- `HIDIV_MASK + 1 + LODIV_MASK + 1`, the largest total divider. -/
def lvdsafeMaxDiv : Nat := lvdsafeFieldMask + 1 + lvdsafeFieldMask + 1

/-- `pegmatite_clklvdsafe_recalc_rate` on the register word `val`; `parent_enabled` is
`__clk_is_enabled(parent_clk)`. -/
def pegmatiteClklvdsafeRecalcRate (parent_enabled : Bool) (val : BitVec 32) (parent_rate : Nat) :
    ClkM Nat :=
  if parent_rate = 0 ∨ parent_enabled = false then pure 0
  else
    let hidiv := (val >>> lvdsafeHidivShift).toNat &&& lvdsafeFieldMask
    let lodiv := val.toNat &&& lvdsafeFieldMask
    cdiv parent_rate (hidiv + 1 + lodiv + 1)

/-- The step both callbacks take below the largest divider: go to `totaldiv + 1` when
`parent / (totaldiv + 1)` is nearer to `rate`, by the kernel's `abs` of the `unsigned long`
differences. -/
def lvdsafeNextDiv (rate parent_rate totaldiv : Nat) : ClkM Nat :=
  if totaldiv < lvdsafeMaxDiv then do
    let lo ← cdiv parent_rate totaldiv
    let hi ← cdiv parent_rate (u32 (totaldiv + 1))
    pure (if kabs (usub rate lo) > kabs (usub rate hi) then u32 (totaldiv + 1) else totaldiv)
  else pure totaldiv

/-- `if (totaldiv < 1 + 1) totaldiv = 1 + 1; if (totaldiv > 512) totaldiv = 512;` -/
def lvdsafeClamp (totaldiv : Nat) : Nat :=
  let totaldiv := if totaldiv < 1 + 1 then 1 + 1 else totaldiv
  if totaldiv > lvdsafeMaxDiv then lvdsafeMaxDiv else totaldiv

/-- `pegmatite_clklvdsafe_set_rate`: the register word after the call, unchanged when it returns
early. -/
def pegmatiteClklvdsafeSetRate (parent_enabled : Bool) (val : BitVec 32) (rate parent_rate : Nat) :
    ClkM (BitVec 32) :=
  if parent_rate = 0 ∨ rate = 0 ∨ parent_enabled = false then pure val
  else do
    let totaldiv ← cdiv parent_rate rate
    let totaldiv ← lvdsafeNextDiv rate parent_rate (lvdsafeClamp totaldiv)
    let totaldiv := lvdsafeClamp totaldiv
    let lodiv := totaldiv / 2
    let hidiv := totaldiv - lodiv
    pure (val &&& ~~~(BitVec.ofNat 32 (lvdsafeFieldMask <<< lvdsafeHidivShift)) &&&
      ~~~(BitVec.ofNat 32 lvdsafeFieldMask) |||
      BitVec.ofNat 32 (((hidiv - 1) &&& lvdsafeFieldMask) <<< lvdsafeHidivShift) |||
      BitVec.ofNat 32 ((lodiv - 1) &&& lvdsafeFieldMask))

/-- `pegmatite_clklvdsafe_round_rate`: the `unsigned long` quotient returned as a `long`. -/
def pegmatiteClklvdsafeRoundRate (parent_enabled : Bool) (rate parent_rate : Nat) : ClkM Int :=
  if rate = 0 ∨ parent_rate = 0 ∨ parent_enabled = false then pure 0
  else do
    let totaldiv ← cdiv parent_rate rate
    let totaldiv ← lvdsafeNextDiv rate parent_rate totaldiv
    return s32 (← cdiv parent_rate (lvdsafeClamp totaldiv))

/-- `CLKOUT_MASK`. -/
def lvdsafeClkoutMask : Nat := 0x1

/-- `CLKOUT_SHIFT`. -/
def lvdsafeClkoutShift : Nat := 31

/-- `pegmatite_clklvdsafe_is_enabled`: the `CLKOUT` bit while the parent runs, 0 otherwise. -/
def pegmatiteClklvdsafeIsEnabled (parent_enabled : Bool) (val : BitVec 32) : Nat :=
  if parent_enabled then (val >>> lvdsafeClkoutShift).toNat &&& lvdsafeClkoutMask else 0

/-- `pegmatite_clklvdsafe_enable`: the word it writes back, `CLKOUT` set. -/
def pegmatiteClklvdsafeEnable (val : BitVec 32) : BitVec 32 :=
  val ||| BitVec.ofNat 32 (lvdsafeClkoutMask <<< lvdsafeClkoutShift)

namespace Clklvdsafe

/-- The disable callback of `clklvdsafe.c`, a static function named `pegmatite_clkgate_disable`
like the gate driver's: nothing while the parent is stopped, otherwise `CLKOUT` cleared. -/
def pegmatiteClkgateDisable (parent_enabled : Bool) (val : BitVec 32) : BitVec 32 :=
  if parent_enabled then val &&& ~~~(BitVec.ofNat 32 (lvdsafeClkoutMask <<< lvdsafeClkoutShift))
  else val

end Clklvdsafe

/-- The calls of the clock framework on the LVDS-safe clock, made one at a time. -/
inductive LvdsafeOp
  | enable
  | disable
  | setRate (rate : Nat)
  deriving DecidableEq, Repr

/-- The register after a call, from its value `val`; the parent's state and rate stay fixed. -/
def LvdsafeOp.apply (parent_enabled : Bool) (parent_rate : Nat) :
    LvdsafeOp → BitVec 32 → ClkM (BitVec 32)
  | .enable, val => pure (pegmatiteClklvdsafeEnable val)
  | .disable, val => pure (Clklvdsafe.pegmatiteClkgateDisable parent_enabled val)
  | .setRate rate, val => pegmatiteClklvdsafeSetRate parent_enabled val rate parent_rate

/-- The register after a run of calls. -/
def lvdsafeRun (parent_enabled : Bool) (parent_rate : Nat) :
    List LvdsafeOp → BitVec 32 → ClkM (BitVec 32)
  | [], val => pure val
  | op :: ops, val =>
    op.apply parent_enabled parent_rate val >>= lvdsafeRun parent_enabled parent_rate ops

/-- `set_rate` is asked for a positive rate no higher than the parent's. -/
def LvdsafeOp.InRange (parent_rate : Nat) : LvdsafeOp → Prop
  | .setRate rate => 0 < rate ∧ rate ≤ parent_rate
  | _ => True

instance (parent_rate : Nat) : DecidablePred (LvdsafeOp.InRange parent_rate)
  | .setRate _ => inferInstanceAs (Decidable (_ ∧ _))
  | .enable | .disable => isTrue trivial

/-- What the clock framework sees of the clock while its parent runs: `is_enabled` and
`recalc_rate`. -/
structure LvdsafeView where
  enabled : Nat
  rate : ClkM Nat
  deriving DecidableEq

/-- The view of a register value. -/
def lvdsafeView (parent_rate : Nat) (val : BitVec 32) : LvdsafeView :=
  ⟨pegmatiteClklvdsafeIsEnabled true val, pegmatiteClklvdsafeRecalcRate true val parent_rate⟩

/-- What the framework expects of each call: `enable` and `disable` switch the clock on and off,
and `set_rate` makes it report the rate `round_rate` offered, the `long` taken back as the
`unsigned long` a rate is. -/
def LvdsafeOp.spec (parent_rate : Nat) (v : LvdsafeView) : LvdsafeOp → LvdsafeView
  | .enable => { v with enabled := 1 }
  | .disable => { v with enabled := 0 }
  | .setRate rate =>
    { v with rate := ofInt32 <$> pegmatiteClklvdsafeRoundRate true rate parent_rate }

theorem lvdsafeClamp_pos (totaldiv : Nat) : 0 < lvdsafeClamp totaldiv := by
  unfold lvdsafeClamp lvdsafeMaxDiv lvdsafeFieldMask
  dsimp only
  split_ifs <;> omega

/-- The rounding step divides by the total divider it starts from: it faults on 0 ... -/
theorem lvdsafeNextDiv_zero (rate parent_rate : Nat) :
    lvdsafeNextDiv rate parent_rate 0 = throw .divideByZero := rfl

/-- ... and on nothing else. -/
theorem lvdsafeNextDiv_ok (rate parent_rate : Nat) {totaldiv : Nat} (h : 0 < totaldiv) :
    ∃ t, lvdsafeNextDiv rate parent_rate totaldiv = .ok t := by
  unfold lvdsafeNextDiv
  split_ifs with hmax
  · have h1 : 0 < u32 (totaldiv + 1) := by
      unfold lvdsafeMaxDiv lvdsafeFieldMask at hmax
      rw [u32_of_lt (by omega)]; omega
    simp only [cdiv_of_pos _ h, cdiv_of_pos _ h1, pure_bind]
    exact ⟨_, rfl⟩
  · exact ⟨totaldiv, rfl⟩

/-- `round_rate` divides by zero exactly when the parent clock is enabled and the rate asked for
is above a positive parent rate: the total divider `parent / rate` is then 0, and the rounding
step divides by it before any clamp. -/
theorem pegmatiteClklvdsafeRoundRate_divideByZero_iff (parent_enabled : Bool)
    (rate parent_rate : Nat) :
    pegmatiteClklvdsafeRoundRate parent_enabled rate parent_rate = throw .divideByZero ↔
      parent_enabled = true ∧ 0 < parent_rate ∧ parent_rate < rate := by
  unfold pegmatiteClklvdsafeRoundRate
  by_cases hearly : rate = 0 ∨ parent_rate = 0 ∨ parent_enabled = false
  · rw [if_pos hearly]
    refine iff_of_false nofun ?_
    rintro ⟨he, hp, hlt⟩
    rcases hearly with h | h | h <;> simp_all
  rw [if_neg hearly]
  simp only [not_or, Bool.not_eq_false] at hearly
  obtain ⟨hr, hp, he⟩ := hearly
  rw [cdiv_of_pos _ (Nat.pos_of_ne_zero hr), pure_bind]
  by_cases hlt : parent_rate < rate
  · rw [Nat.div_eq_of_lt hlt, lvdsafeNextDiv_zero]
    exact iff_of_true rfl ⟨he, Nat.pos_of_ne_zero hp, hlt⟩
  · obtain ⟨t, ht⟩ := lvdsafeNextDiv_ok rate parent_rate
      (Nat.div_pos (Nat.not_lt.mp hlt) (Nat.pos_of_ne_zero hr))
    refine iff_of_false ?_ (fun h => hlt h.2.2)
    rw [ht, ok_bind, cdiv_of_pos _ (lvdsafeClamp_pos t)]
    nofun

/-! ## What `set_rate` programs -/

/-! The masks of `clklvdsafe.c` are the fields `⟨0xff, 8⟩` (`HIDIV`), `⟨0xff, 0⟩` (`LODIV`) and
`⟨1, 31⟩` (`CLKOUT`) of `pll.c`'s field calculus. -/

theorem lvdsafe_hidiv_bits :
    BitVec.ofNat 32 (lvdsafeFieldMask <<< lvdsafeHidivShift) = PllField.bits ⟨0xff, 8⟩ := rfl

theorem lvdsafe_lodiv_bits : BitVec.ofNat 32 lvdsafeFieldMask = PllField.bits ⟨0xff, 0⟩ := rfl

theorem lvdsafe_clkout_bits :
    BitVec.ofNat 32 (lvdsafeClkoutMask <<< lvdsafeClkoutShift) = PllField.bits ⟨1, 31⟩ := rfl

theorem lvdsafe_hidiv_place (x : Nat) :
    BitVec.ofNat 32 ((x &&& lvdsafeFieldMask) <<< lvdsafeHidivShift) = PllField.place ⟨0xff, 8⟩ x :=
  rfl

theorem lvdsafe_lodiv_place (x : Nat) :
    BitVec.ofNat 32 (x &&& lvdsafeFieldMask) = PllField.place ⟨0xff, 0⟩ x := rfl

/-- The word `set_rate` writes for the total divider `t`, read back as `recalc_rate` reads it: the
two fields add up to `t` again, whatever the word held before. -/
theorem lvdsafe_fields_readBack (val : BitVec 32) {t : Nat} (h2 : 2 ≤ t)
    (h512 : t ≤ lvdsafeMaxDiv) :
    let w := val &&& ~~~(BitVec.ofNat 32 (lvdsafeFieldMask <<< lvdsafeHidivShift)) &&&
      ~~~(BitVec.ofNat 32 lvdsafeFieldMask) |||
      BitVec.ofNat 32 (((t - t / 2 - 1) &&& lvdsafeFieldMask) <<< lvdsafeHidivShift) |||
      BitVec.ofNat 32 ((t / 2 - 1) &&& lvdsafeFieldMask)
    ((w >>> lvdsafeHidivShift).toNat &&& lvdsafeFieldMask) + 1 +
      (w.toNat &&& lvdsafeFieldMask) + 1 = t := by
  intro w
  have hmask : ∀ x, x < 2 ^ 8 → x &&& 0xff = x := fun x hx => by
    rw [show (0xff : Nat) = 2 ^ 8 - 1 from rfl, Nat.and_pow_two_sub_one_eq_mod, Nat.mod_eq_of_lt hx]
  unfold lvdsafeMaxDiv lvdsafeFieldMask at h512
  change PllField.get ⟨0xff, 8⟩ w + 1 + PllField.get ⟨0xff, 0⟩ w + 1 = t
  simp only [w, PllField.get_or, PllField.get_and, lvdsafe_hidiv_place, lvdsafe_lodiv_place,
    lvdsafe_hidiv_bits, lvdsafe_lodiv_bits]
  rw [PllField.get_not_bits_self (by decide),
    PllField.get_not_bits_of_apart (by decide) (by decide), PllField.get_place_self (by decide),
    PllField.get_place_of_apart (by decide), PllField.get_not_bits_self (by decide),
    PllField.get_not_bits_of_apart (by decide) (by decide), PllField.get_place_self (by decide),
    PllField.get_place_of_apart (by decide)]
  simp only [Nat.and_zero, Nat.zero_and, Nat.zero_or, Nat.or_zero,
    hmask _ (show t / 2 - 1 < 2 ^ 8 by omega), hmask _ (show t - t / 2 - 1 < 2 ^ 8 by omega)]
  omega

/-- The clamp as a `min` and a `max`. -/
theorem lvdsafeClamp_eq (t : Nat) : lvdsafeClamp t = min (max t 2) lvdsafeMaxDiv := by
  unfold lvdsafeClamp
  dsimp only
  split_ifs <;> omega

/-- The clamp lands in `[2, 512]`. -/
theorem lvdsafeClamp_mem (t : Nat) : 2 ≤ lvdsafeClamp t ∧ lvdsafeClamp t ≤ lvdsafeMaxDiv := by
  rw [lvdsafeClamp_eq]
  exact ⟨le_min (le_max_right _ _) (by decide), min_le_right _ _⟩

/-- The rounding step from a positive divider goes up by at most one, and never from the
largest. -/
theorem lvdsafeNextDiv_spec (rate parent_rate : Nat) {t : Nat} (h : 0 < t) :
    ∃ t', lvdsafeNextDiv rate parent_rate t = .ok t' ∧ t ≤ t' ∧ t' ≤ t + 1 ∧
      (lvdsafeMaxDiv ≤ t → t' = t) := by
  unfold lvdsafeNextDiv
  split_ifs with hmax
  · have h1 : u32 (t + 1) = t + 1 :=
      u32_of_lt (by unfold lvdsafeMaxDiv lvdsafeFieldMask at hmax; omega)
    simp only [cdiv_of_pos _ h, h1, cdiv_of_pos _ (Nat.succ_pos t), pure_bind]
    split_ifs
    · exact ⟨t + 1, rfl, by omega, le_refl _, fun h' => absurd h' (by omega)⟩
    · exact ⟨t, rfl, le_refl _, by omega, fun _ => rfl⟩
  · exact ⟨t, rfl, le_refl _, by omega, fun _ => rfl⟩

/-- Where `parent / rate` is 1, the step from 2 stays at 2: below `LONG_MAX` the kernel's `abs`
is the distance, and `parent / 2` is at least as near to the rate as `parent / 3`. -/
theorem lvdsafeNextDiv_two {rate parent_rate : Nat} (hle : rate ≤ parent_rate)
    (hlt : parent_rate < 2 * rate) (hp : parent_rate < 2 ^ 31) :
    lvdsafeNextDiv rate parent_rate 2 = .ok 2 := by
  have hr : rate < 2 ^ 31 := by omega
  simp only [lvdsafeNextDiv, show 2 < lvdsafeMaxDiv from by decide, if_true,
    cdiv_of_pos _ (show 0 < 2 by decide), u32_of_lt (show 2 + 1 < 2 ^ 32 by decide),
    cdiv_of_pos _ (show 0 < 2 + 1 by decide), pure_bind,
    kabs_usub hr (show parent_rate / 2 < 2 ^ 31 by omega),
    kabs_usub hr (show parent_rate / (2 + 1) < 2 ^ 31 by omega)]
  rw [if_neg (by omega)]
  rfl

/-- `set_rate` clamps before the rounding step and `round_rate` after it; from a total divider
`parent / rate` of at least 1 the two land on the same clamped divider. -/
theorem lvdsafe_divider_agree {rate parent_rate : Nat} (hr : 0 < rate) (hle : rate ≤ parent_rate)
    (hp : parent_rate < 2 ^ 31) :
    ∃ t t', lvdsafeNextDiv rate parent_rate (lvdsafeClamp (parent_rate / rate)) = .ok t ∧
      lvdsafeNextDiv rate parent_rate (parent_rate / rate) = .ok t' ∧
      lvdsafeClamp t = lvdsafeClamp t' := by
  have h1 : 1 ≤ parent_rate / rate := (Nat.one_le_div_iff hr).mpr hle
  have hM : lvdsafeMaxDiv = 512 := rfl
  obtain ⟨t', ht', hlo, hhi, hmax⟩ := lvdsafeNextDiv_spec rate parent_rate h1
  simp only [lvdsafeClamp_eq, hM] at hmax ⊢
  rcases Nat.lt_or_ge (parent_rate / rate) 2 with hone | htwo
  · -- `parent / rate = 1`: `set_rate` starts its step from 2 and stays there
    have hlt : parent_rate < 2 * rate := by rw [Nat.div_lt_iff_lt_mul hr] at hone; omega
    refine ⟨2, t', ?_, ht', by omega⟩
    rw [show min (max (parent_rate / rate) 2) 512 = 2 by omega]
    exact lvdsafeNextDiv_two hle hlt hp
  rcases Nat.lt_or_ge (parent_rate / rate) 512 with hin | hbig
  · -- in range the clamp does nothing and both take the same step
    rw [show min (max (parent_rate / rate) 2) 512 = parent_rate / rate by omega]
    exact ⟨t', t', ht', ht', rfl⟩
  · -- from the largest divider neither steps
    obtain ⟨t, ht, -, -, hmax'⟩ := lvdsafeNextDiv_spec rate parent_rate (t := 512) (by decide)
    rw [show min (max (parent_rate / rate) 2) 512 = 512 by omega]
    refine ⟨t, t', ht, ht', ?_⟩
    rw [hmax' le_rfl, hmax hbig]
    omega

/-- For a rate up to a parent rate below `LONG_MAX`, `recalc_rate` after `set_rate` reports exactly
the rate `round_rate` offered, whatever the register held before and whether the parent is
enabled or not. -/
theorem pegmatiteClklvdsafe_recalc_setRate (parent_enabled : Bool) (val : BitVec 32)
    {rate parent_rate : Nat} (hr : 0 < rate) (hle : rate ≤ parent_rate)
    (hp : parent_rate < 2 ^ 31) :
    (pegmatiteClklvdsafeSetRate parent_enabled val rate parent_rate >>= fun val' =>
      pegmatiteClklvdsafeRecalcRate parent_enabled val' parent_rate) =
    ofInt32 <$> pegmatiteClklvdsafeRoundRate parent_enabled rate parent_rate := by
  have hp0 : parent_rate ≠ 0 := by omega
  cases parent_enabled
  · simp [pegmatiteClklvdsafeSetRate, pegmatiteClklvdsafeRecalcRate, pegmatiteClklvdsafeRoundRate]
    rfl
  obtain ⟨t, t', ht, ht', heq⟩ := lvdsafe_divider_agree hr hle hp
  obtain ⟨h2, h512⟩ := lvdsafeClamp_mem t
  simp only [pegmatiteClklvdsafeSetRate, pegmatiteClklvdsafeRoundRate, hr.ne', hp0, or_self,
    or_false, false_or, if_false, cdiv_of_pos _ hr, pure_bind, ht, ht', ok_bind,
    Bool.true_eq_false, pegmatiteClklvdsafeRecalcRate]
  have hq : parent_rate / lvdsafeClamp t' < 2 ^ 32 := by
    have := Nat.div_le_self parent_rate (lvdsafeClamp t'); omega
  rw [lvdsafe_fields_readBack val h2 h512, heq, cdiv_of_pos _ (lvdsafeClamp_pos t'), pure_bind,
    map_pure, ofInt32_s32 hq]

/-! ## Gating, and runs of calls -/

/-- `recalc_rate` while the parent runs, on the two divider fields. -/
theorem lvdsafe_recalc_eq (val : BitVec 32) (parent_rate : Nat) :
    pegmatiteClklvdsafeRecalcRate true val parent_rate =
      if parent_rate = 0 then pure 0
      else
        cdiv parent_rate (PllField.get ⟨0xff, 8⟩ val + 1 + PllField.get ⟨0xff, 0⟩ val + 1) := by
  simp only [pegmatiteClklvdsafeRecalcRate, Bool.true_eq_false, or_false]
  rfl

/-- `is_enabled` while the parent runs is the `CLKOUT` field. -/
theorem lvdsafe_isEnabled_eq (val : BitVec 32) :
    pegmatiteClklvdsafeIsEnabled true val = PllField.get ⟨1, 31⟩ val := rfl

/-- `enable` touches neither divider field, and sets `CLKOUT`. -/
theorem lvdsafe_enable_fields (val : BitVec 32) :
    let val' := pegmatiteClklvdsafeEnable val
    PllField.get ⟨0xff, 8⟩ val' = PllField.get ⟨0xff, 8⟩ val ∧
      PllField.get ⟨0xff, 0⟩ val' = PllField.get ⟨0xff, 0⟩ val ∧ PllField.get ⟨1, 31⟩ val' = 1 := by
  intro val'
  simp only [val', pegmatiteClklvdsafeEnable, PllField.get_or, lvdsafe_clkout_bits]
  rw [PllField.get_bits_of_apart (by decide), PllField.get_bits_of_apart (by decide),
    PllField.get_bits_self (by decide)]
  simp only [Nat.or_zero, true_and]
  exact PllField.get_or_mask ⟨1, 31⟩ val

/-- The disable callback touches neither divider field, and clears `CLKOUT` while the parent
runs. -/
theorem lvdsafe_disable_fields (val : BitVec 32) :
    let val' := Clklvdsafe.pegmatiteClkgateDisable true val
    PllField.get ⟨0xff, 8⟩ val' = PllField.get ⟨0xff, 8⟩ val ∧
      PllField.get ⟨0xff, 0⟩ val' = PllField.get ⟨0xff, 0⟩ val ∧
      PllField.get ⟨1, 31⟩ val' = 0 := by
  intro val'
  simp only [val', Clklvdsafe.pegmatiteClkgateDisable, if_true, PllField.get_and,
    lvdsafe_clkout_bits]
  rw [PllField.get_not_bits_of_apart (by decide) (by decide),
    PllField.get_not_bits_of_apart (by decide) (by decide), PllField.get_not_bits_self (by decide)]
  exact ⟨PllField.get_and_mask _ val, PllField.get_and_mask _ val, Nat.and_zero _⟩

/-- Whatever `set_rate` writes keeps `CLKOUT`. -/
theorem lvdsafe_setRate_clkout {parent_enabled : Bool} {val val' : BitVec 32}
    {rate parent_rate : Nat}
    (h : pegmatiteClklvdsafeSetRate parent_enabled val rate parent_rate = .ok val') :
    PllField.get ⟨1, 31⟩ val' = PllField.get ⟨1, 31⟩ val := by
  unfold pegmatiteClklvdsafeSetRate at h
  split_ifs at h
  · cases h; rfl
  · obtain ⟨_, -, h⟩ := bind_eq_ok.mp h
    obtain ⟨_, -, h⟩ := bind_eq_ok.mp h
    cases h
    simp only [PllField.get_or, PllField.get_and, lvdsafe_hidiv_place, lvdsafe_lodiv_place,
      lvdsafe_hidiv_bits, lvdsafe_lodiv_bits]
    rw [PllField.get_not_bits_of_apart (by decide) (by decide),
      PllField.get_not_bits_of_apart (by decide) (by decide),
      PllField.get_place_of_apart (by decide), PllField.get_place_of_apart (by decide)]
    simp only [Nat.or_zero, Nat.and_assoc, Nat.and_self]
    exact PllField.get_and_mask ⟨1, 31⟩ val

/-- `set_rate` never faults: its divisions are by the rate it has checked and by a clamped
divider. -/
theorem lvdsafe_setRate_ok (parent_enabled : Bool) (val : BitVec 32) (rate parent_rate : Nat) :
    ∃ val', pegmatiteClklvdsafeSetRate parent_enabled val rate parent_rate = .ok val' := by
  unfold pegmatiteClklvdsafeSetRate
  split_ifs with h
  · exact ⟨val, rfl⟩
  · obtain ⟨t, ht⟩ :=
      lvdsafeNextDiv_ok rate parent_rate (lvdsafeClamp_pos (parent_rate / rate))
    rw [cdiv_of_pos _ (Nat.pos_of_ne_zero fun h0 => h (.inr (.inl h0))), pure_bind, ht, ok_bind]
    exact ⟨_, rfl⟩

/-- One call, seen through the view, is the call of the framework's model. -/
theorem LvdsafeOp.apply_view {parent_rate : Nat} (hp : parent_rate < 2 ^ 31) {op : LvdsafeOp}
    (hop : op.InRange parent_rate) (val : BitVec 32) :
    ∃ val', op.apply true parent_rate val = .ok val' ∧
      lvdsafeView parent_rate val' = op.spec parent_rate (lvdsafeView parent_rate val) := by
  cases op with
  | enable =>
    obtain ⟨hh, hl, hc⟩ := lvdsafe_enable_fields val
    exact ⟨_, rfl, by simp only [lvdsafeView, LvdsafeOp.spec, lvdsafe_isEnabled_eq,
      lvdsafe_recalc_eq, hh, hl, hc]⟩
  | disable =>
    obtain ⟨hh, hl, hc⟩ := lvdsafe_disable_fields val
    exact ⟨_, rfl, by simp only [lvdsafeView, LvdsafeOp.spec, lvdsafe_isEnabled_eq,
      lvdsafe_recalc_eq, hh, hl, hc]⟩
  | setRate rate =>
    obtain ⟨val', hset⟩ := lvdsafe_setRate_ok true val rate parent_rate
    have hrate := pegmatiteClklvdsafe_recalc_setRate true val hop.1 hop.2 hp
    rw [hset, ok_bind] at hrate
    exact ⟨val', hset, by simp only [lvdsafeView, LvdsafeOp.spec, lvdsafe_isEnabled_eq,
      lvdsafe_setRate_clkout hset, hrate]⟩

/-- While the parent runs at a rate below `LONG_MAX`, every run of `enable`, `disable` and
`set_rate` calls for rates up to the parent's completes, and seen through `is_enabled` and
`recalc_rate` it is the run of the framework's model: the clock is on after an `enable` and off
after a `disable`, and reports the rate `round_rate` offered at the last `set_rate`. -/
theorem lvdsafeRun_refines {parent_rate : Nat} (hp : parent_rate < 2 ^ 31) :
    ∀ (ops : List LvdsafeOp) (val : BitVec 32), (∀ op ∈ ops, op.InRange parent_rate) →
      ∃ val', lvdsafeRun true parent_rate ops val = .ok val' ∧
        lvdsafeView parent_rate val' =
          ops.foldl (LvdsafeOp.spec parent_rate) (lvdsafeView parent_rate val)
  | [], val, _ => ⟨val, rfl, rfl⟩
  | op :: ops, val, hops => by
    obtain ⟨v1, h1, hv1⟩ := LvdsafeOp.apply_view hp (hops op (List.mem_cons_self _ _)) val
    obtain ⟨v2, h2, hv2⟩ :=
      lvdsafeRun_refines hp ops v1 fun o ho => hops o (List.mem_cons_of_mem _ ho)
    refine ⟨v2, by rw [lvdsafeRun, h1, ok_bind, h2], ?_⟩
    rw [hv2, hv1, List.foldl_cons]

/-- From a cleared register with the parent at 100: enable, ask for 60, disable; the clock ends
off and reports 50. -/
theorem lvdsafeRun_refines_60 :
    (∀ op ∈ [LvdsafeOp.enable, .setRate 60, .disable], op.InRange 100) ∧
      ∃ val', lvdsafeRun true 100 [.enable, .setRate 60, .disable] 0 = .ok val' ∧
        lvdsafeView 100 val' = ⟨0, .ok 50⟩ := by
  have hin : ∀ op ∈ [LvdsafeOp.enable, .setRate 60, .disable], op.InRange 100 := by decide
  obtain ⟨val', h, hv⟩ := lvdsafeRun_refines (by decide) _ 0 hin
  exact ⟨hin, val', h, hv.trans (by decide)⟩

end Pegmatite

end LinuxSampleDriver
