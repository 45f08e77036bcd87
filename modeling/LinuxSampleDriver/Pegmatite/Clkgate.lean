import LinuxSampleDriver.Pegmatite.Arith

/-!
# The clock gate `clkgate.c`

A gate is one `config` register: bit 1 (`CLK_EN_MASK`) runs the clock and, on a gate whose
`reset` property is set, bit 0 (`CLK_RESET_MASK`) takes its block out of reset. `enable` sets the
enable bit and then the reset bit, each with a write of its own; `disable` clears the reset bit
and then the enable bit, and with `debug_clkdisable` reads the status register and warns unless
its success bit is set. `is_enabled` reads the enable bit and, on a gate with a reset, the reset
bit as well.

An operation is the list of values it writes to `config`, in order; the register then holds the
last. Seen through `is_enabled`, which returns 1 or 0, the gate is an on/off switch: each
operation sets the switch whatever the register held (`clkgateOn_apply`), and a whole run is a run
of the switch (`clkgateRun_refines`). The order of the writes never has a block out of reset
while its clock is stopped, at any write of any run (`clkgateRunWrites_safe`).
-/

namespace LinuxSampleDriver

namespace Pegmatite

/-- `CLK_EN_MASK` -/
def clkEnMask : BitVec 32 := 2#32

/-- `CLK_RESET_MASK` -/
def clkResetMask : BitVec 32 := 1#32

/-- `CLK_STATUS_SUCCESS_MASK`, a bit of the status register at `CLK_STATUS_OFFSET`. -/
def clkStatusSuccessMask : BitVec 32 := 0x8#32

/-- `pegmatite_clkgate_is_enabled` on the value `val` of `config`; `reset` is `gate->reset`. -/
def pegmatiteClkgateIsEnabled (reset : Nat) (val : BitVec 32) : Int :=
  let r : Int := if reset ≠ 0 then (if val &&& clkResetMask ≠ 0 then 1 else 0) else 1
  if val &&& clkEnMask ≠ 0 then r else 0

/-- `pegmatite_clkgate_enable`: the values it writes to `config`, from the value `val` it read. -/
def pegmatiteClkgateEnable (reset : Nat) (val : BitVec 32) : List (BitVec 32) :=
  let val := val ||| clkEnMask
  if reset ≠ 0 then [val, val ||| clkResetMask] else [val]

/-- `pegmatite_clkgate_disable`: the values it writes to `config`, from the value `val` it read. -/
def pegmatiteClkgateDisable (reset : Nat) (val : BitVec 32) : List (BitVec 32) :=
  let first := if reset ≠ 0 then [val &&& ~~~clkResetMask] else []
  let val := if reset ≠ 0 then val &&& ~~~clkResetMask else val
  first ++ [val &&& ~~~clkEnMask]

/-- The `WARN` at the end of `pegmatite_clkgate_disable`, on the status register it reads. -/
def pegmatiteClkgateDisableWarns (debug_clkdisable : Bool) (status : BitVec 32) : Bool :=
  debug_clkdisable && status &&& clkStatusSuccessMask = 0

/-- The calls of the clock framework on one gate, which it makes one at a time. -/
inductive ClkgateOp
  | enable
  | disable
  deriving DecidableEq, Repr

/-- The values an operation writes to `config`. -/
def ClkgateOp.writes (reset : Nat) : ClkgateOp → BitVec 32 → List (BitVec 32)
  | .enable, val => pegmatiteClkgateEnable reset val
  | .disable, val => pegmatiteClkgateDisable reset val

/-- `config` after an operation: its last write. -/
def ClkgateOp.apply (reset : Nat) (op : ClkgateOp) (val : BitVec 32) : BitVec 32 :=
  (op.writes reset val).getLastD val

/-- `config` after a run. -/
def clkgateRun (reset : Nat) (ops : List ClkgateOp) (val : BitVec 32) : BitVec 32 :=
  ops.foldl (fun val op => op.apply reset val) val

/-- Every value a run writes to `config`, in order. -/
def clkgateRunWrites (reset : Nat) : List ClkgateOp → BitVec 32 → List (BitVec 32)
  | [], _ => []
  | op :: ops, val => op.writes reset val ++ clkgateRunWrites reset ops (op.apply reset val)

/-- `of_pegmatite_clkgate_setup`: `gate->reset` is the `reset` property or 0, and an
`always-used` gate is enabled. -/
def ofPegmatiteClkgateSetup (reset_prop : Option Nat) (always_used : Bool) (val : BitVec 32) :
    Nat × BitVec 32 :=
  let reset := reset_prop.getD 0
  (reset, if always_used then ClkgateOp.enable.apply reset val else val)

/-! ## The two bits -/

@[simp] theorem getLsbD_clkEnMask (i : Nat) : clkEnMask.getLsbD i = decide (i = 1) :=
  getLsbD_ofNat_two_pow (k := 1) (by decide) i

@[simp] theorem getLsbD_clkResetMask (i : Nat) : clkResetMask.getLsbD i = decide (i = 0) :=
  getLsbD_ofNat_two_pow (k := 0) (by decide) i

@[simp] theorem and_clkEnMask_eq_zero (v : BitVec 32) :
    v &&& clkEnMask = 0#32 ↔ v.getLsbD 1 = false := by
  simpa using (and_ofNat_two_pow_ne_zero_iff v (k := 1) (by decide)).not

@[simp] theorem and_clkResetMask_eq_zero (v : BitVec 32) :
    v &&& clkResetMask = 0#32 ↔ v.getLsbD 0 = false := by
  simpa using (and_ofNat_two_pow_ne_zero_iff v (k := 0) (by decide)).not

/-! ## Each operation -/

/-- The gate reads as running, as the clock framework's on/off view of `is_enabled`. -/
def clkgateOn (reset : Nat) (val : BitVec 32) : Bool := pegmatiteClkgateIsEnabled reset val ≠ 0

/-- What the clock framework expects of a gate: `enable` turns it on, `disable` off. -/
def ClkgateOp.switch (_b : Bool) : ClkgateOp → Bool
  | .enable => true
  | .disable => false

/-- After `enable` the gate reads as running, after `disable` as stopped, whatever `config`
held. -/
theorem clkgateOn_apply (reset : Nat) (op : ClkgateOp) (val : BitVec 32) (b : Bool) :
    clkgateOn reset (op.apply reset val) = op.switch b := by
  cases op <;> by_cases hr : reset = 0 <;>
    simp [clkgateOn, pegmatiteClkgateIsEnabled, ClkgateOp.apply, ClkgateOp.writes,
      pegmatiteClkgateEnable, pegmatiteClkgateDisable, ClkgateOp.switch, hr]

/-- A block is out of reset only while its clock runs. -/
def ClkgateSafe (reset : Nat) (val : BitVec 32) : Prop :=
  reset ≠ 0 → val &&& clkResetMask ≠ 0 → val &&& clkEnMask ≠ 0

/-- `enable` starts the clock before it releases the reset, and `disable` asserts the reset
before it stops the clock: every value either writes is safe, whatever `config` held. -/
theorem ClkgateOp.writes_safe (reset : Nat) (op : ClkgateOp) (val : BitVec 32) :
    ∀ w ∈ op.writes reset val, ClkgateSafe reset w := by
  intro w hw
  cases op <;> by_cases hr : reset = 0 <;>
    simp [ClkgateOp.writes, pegmatiteClkgateEnable, pegmatiteClkgateDisable, hr] at hw <;>
    rcases hw with rfl | rfl <;> simp [ClkgateSafe, hr]

/-! ## Runs -/

/-- Seen through `is_enabled`, a run of the gate is a run of the on/off switch. -/
theorem clkgateRun_refines (reset : Nat) :
    ∀ (ops : List ClkgateOp) (val : BitVec 32),
      clkgateOn reset (clkgateRun reset ops val) = ops.foldl ClkgateOp.switch (clkgateOn reset val)
  | [], _ => rfl
  | op :: ops, val => by
    rw [clkgateRun, List.foldl_cons, ← clkgateRun, clkgateRun_refines reset ops,
      clkgateOn_apply reset op val (clkgateOn reset val), List.foldl_cons]

/-- No write of any run has a block out of reset while its clock is stopped. -/
theorem clkgateRunWrites_safe (reset : Nat) :
    ∀ (ops : List ClkgateOp) (val : BitVec 32), ∀ w ∈ clkgateRunWrites reset ops val,
      ClkgateSafe reset w
  | [], _, w, hw => by simp [clkgateRunWrites] at hw
  | op :: ops, val, w, hw => by
    rcases List.mem_append.1 hw with hw | hw
    · exact op.writes_safe reset val w hw
    · exact clkgateRunWrites_safe reset ops _ w hw

/-- A gate with a reset, enabled and then disabled from a cleared register: its write of both
bits is safe. -/
theorem clkgateRunWrites_safe_both :
    3#32 ∈ clkgateRunWrites 1 [.enable, .disable] 0 ∧ ClkgateSafe 1 3#32 :=
  have hmem : 3#32 ∈ clkgateRunWrites 1 [.enable, .disable] 0 := by decide
  ⟨hmem, clkgateRunWrites_safe 1 _ _ _ hmem⟩

end Pegmatite

end LinuxSampleDriver
