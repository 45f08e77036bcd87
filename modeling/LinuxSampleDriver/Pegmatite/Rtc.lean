import LinuxSampleDriver.Pegmatite.Arith

/-!
# The RTC driver of `part_001`

The RTC has eight registers. `set_time` converts the `struct rtc_time` to seconds in an
`unsigned long` and writes them to `RTC_TIME` twice; `read_time` converts the register back.
`set_alarm` writes the alarm's seconds to `RTC_ALRM1` and its enable to `RTC_INT1`; `read_alarm`
reads both back, with the epoch in place of a time that is not valid. `alarm_irq_enable` writes
`RTC_INT1` unless `pdata->irq` is negative. The interrupt handler clears the alarm's bit of
`RTC_STATUS`, which clears the bits written as one, as the handler's comment says. Probe runs the
reset procedure when `RTC_TEST` is not 0, registers the alarm operations when the platform gives
an interrupt, disables both alarm interrupts, and installs the handler; when that fails it sets
`pdata->irq` to -1 and keeps the alarm operations.

The kernel's conversions between `struct rtc_time` and seconds are parameters (`RtcConv`). The
time read after `set_time` is the one set exactly when its seconds fit 32 bits
(`pegmatiteRtcReadTime_setTime_iff`).
-/

namespace LinuxSampleDriver

namespace Pegmatite

/-- `RTC_STATUS` -/
def rtcStatus : Nat := 0x0

/-- `RTC_INT1` -/
def rtcInt1 : Nat := 0x4

/-- `RTC_INT2` -/
def rtcInt2 : Nat := 0x8

/-- `RTC_TIME` -/
def rtcTime : Nat := 0xc

/-- `RTC_ALRM1` -/
def rtcAlrm1 : Nat := 0x10

/-- `RTC_ALRM2` -/
def rtcAlrm2 : Nat := 0x14

/-- `RTC_CC` -/
def rtcCc : Nat := 0x18

/-- `RTC_TEST` -/
def rtcTest : Nat := 0x1c

/-- `RTC_INT1_DISABLED`, and `RTC_INT2_DISABLED` -/
def rtcIntDisabled : BitVec 32 := 0#32

/-- `RTC_INT1_ENABLED` -/
def rtcInt1Enabled : BitVec 32 := 1#32

/-- `RTC_ALRM1_MASK` -/
def rtcAlrm1Mask : BitVec 32 := 0x1#32

/-- `EINVAL` -/
def einval : Int := 22

/-- The RTC's registers. -/
structure RtcRegs where
  status : BitVec 32
  int1 : BitVec 32
  int2 : BitVec 32
  time : BitVec 32
  alrm1 : BitVec 32
  alrm2 : BitVec 32
  cc : BitVec 32
  test : BitVec 32
  deriving DecidableEq, Repr

/-- `writel_delay(v, ioaddr + off)`: `RTC_STATUS` clears the bits written as one, the others hold
the value written. -/
def RtcRegs.write (r : RtcRegs) (off : Nat) (v : BitVec 32) : RtcRegs :=
  if off = rtcStatus then { r with status := r.status &&& ~~~v }
  else if off = rtcInt1 then { r with int1 := v }
  else if off = rtcInt2 then { r with int2 := v }
  else if off = rtcTime then { r with time := v }
  else if off = rtcAlrm1 then { r with alrm1 := v }
  else if off = rtcAlrm2 then { r with alrm2 := v }
  else if off = rtcCc then { r with cc := v }
  else if off = rtcTest then { r with test := v }
  else r

/-- `readl_delay(ioaddr + off)`. -/
def RtcRegs.read (r : RtcRegs) (off : Nat) : BitVec 32 :=
  if off = rtcStatus then r.status
  else if off = rtcInt1 then r.int1
  else if off = rtcInt2 then r.int2
  else if off = rtcTime then r.time
  else if off = rtcAlrm1 then r.alrm1
  else if off = rtcAlrm2 then r.alrm2
  else if off = rtcCc then r.cc
  else if off = rtcTest then r.test
  else 0

/-- The kernel's conversions the driver calls. -/
structure RtcConv (Tm : Type) where
  /-- `rtc_tm_to_time`, before its result is stored into an `unsigned long` -/
  tmToTime : Tm → Nat
  /-- `rtc_time_to_tm` -/
  timeToTm : Nat → Tm
  /-- `rtc_valid_tm` returns 0 -/
  valid : Tm → Bool

/-- `struct pegmatite_rtc_data` with the operations probe registered: `irq` is `pdata->irq`,
`alarm_ops` tells `pegmatite_rtc_alarm_ops` from `pegmatite_rtc_ops`, and `handler` that
`devm_request_irq` installed the handler. -/
structure PegmatiteRtcData where
  irq : Int
  alarm_ops : Bool
  handler : Bool
  deriving DecidableEq, Repr

section Ops

variable {Tm : Type} (conv : RtcConv Tm)

/-- `pegmatite_rtc_set_time`. -/
def pegmatiteRtcSetTime (regs : RtcRegs) (tm : Tm) : RtcRegs × Int :=
  let seconds := BitVec.ofNat 32 (u32 (conv.tmToTime tm))
  ((regs.write rtcTime seconds).write rtcTime seconds, 0)

/-- `pegmatite_rtc_read_time`: the time read and what `rtc_valid_tm` returns. -/
def pegmatiteRtcReadTime (regs : RtcRegs) : Tm × Int :=
  let tm := conv.timeToTm (regs.read rtcTime).toNat
  (tm, if conv.valid tm then 0 else -einval)

/-- `pegmatite_rtc_read_alarm`: the alarm's time and `enabled`. -/
def pegmatiteRtcReadAlarm (regs : RtcRegs) : (Tm × Bool) × Int :=
  let tm := conv.timeToTm (regs.read rtcAlrm1).toNat
  let tm := if conv.valid tm then tm else conv.timeToTm 0
  ((tm, rtcInt1Enabled &&& regs.read rtcInt1 ≠ 0), 0)

/-- `pegmatite_rtc_set_alarm`. -/
def pegmatiteRtcSetAlarm (regs : RtcRegs) (tm : Tm) (enabled : Bool) : RtcRegs × Int :=
  let seconds := BitVec.ofNat 32 (u32 (conv.tmToTime tm))
  let regs := regs.write rtcAlrm1 seconds
  (regs.write rtcInt1 (if enabled then rtcInt1Enabled else rtcIntDisabled), 0)

end Ops

/-- `pegmatite_rtc_alarm_irq_enable`. -/
def pegmatiteRtcAlarmIrqEnable (pdata : PegmatiteRtcData) (regs : RtcRegs) (enabled : Nat) :
    RtcRegs × Int :=
  if pdata.irq < 0 then (regs, -einval)
  else (regs.write rtcInt1 (if enabled ≠ 0 then rtcInt1Enabled else rtcIntDisabled), 0)

/-- `pegmatite_rtc_interrupt`: it clears the alarm's status bit. -/
def pegmatiteRtcInterrupt (regs : RtcRegs) : RtcRegs := regs.write rtcStatus rtcAlrm1Mask

/-- The reset procedure of `pegmatite_rtc_probe`, run when `RTC_TEST` is not 0. -/
def rtcResetProcedure (regs : RtcRegs) : RtcRegs :=
  let regs := regs.write rtcTest 0
  let regs := regs.write rtcTime 0
  let regs := regs.write rtcStatus 3
  let regs := regs.write rtcInt1 0
  let regs := regs.write rtcInt2 0
  let regs := regs.write rtcAlrm1 0
  let regs := regs.write rtcAlrm2 0
  let regs := regs.write rtcCc 0
  let regs := regs.write rtcTime 0
  regs.write rtcStatus 3

/-- `pegmatite_rtc_probe`, with `irq` what `platform_get_irq` returns and `request_ok` whether
`devm_request_irq` succeeds. -/
def pegmatiteRtcProbe (regs : RtcRegs) (irq : Int) (request_ok : Bool) :
    PegmatiteRtcData × RtcRegs :=
  let regs := if regs.read rtcTest ≠ 0 then rtcResetProcedure regs else regs
  if irq ≥ 0 then
    let regs := (regs.write rtcInt1 rtcIntDisabled).write rtcInt2 rtcIntDisabled
    if request_ok then (⟨irq, true, true⟩, regs) else (⟨-1, true, false⟩, regs)
  else (⟨irq, false, false⟩, regs)

/-! ## Registers -/

section Regs

variable (r : RtcRegs) (v : BitVec 32)

@[simp] theorem RtcRegs.write_time : r.write rtcTime v = { r with time := v } := rfl

@[simp] theorem RtcRegs.read_time : r.read rtcTime = r.time := rfl

end Regs

/-! ## The time read back -/

section RoundTrip

variable {Tm : Type} (conv : RtcConv Tm)

/-- `read_time` after `set_time` converts back the set time's seconds modulo `2 ^ 32`: the
`unsigned long` and the register keep 32 bits. -/
theorem pegmatiteRtcReadTime_setTime (regs : RtcRegs) (tm : Tm) :
    pegmatiteRtcReadTime conv (pegmatiteRtcSetTime conv regs tm).1 =
      (conv.timeToTm (conv.tmToTime tm % 2 ^ 32),
        if conv.valid (conv.timeToTm (conv.tmToTime tm % 2 ^ 32)) then 0 else -einval) := by
  simp [pegmatiteRtcReadTime, pegmatiteRtcSetTime, u32]

/-- With the kernel's conversions inverse to each other on 32-bit seconds, `read_time` after
`set_time` gives the time set exactly when its seconds fit 32 bits: a later time comes back
`2 ^ 32` seconds, some 136 years, early or more. -/
theorem pegmatiteRtcReadTime_setTime_iff
    (hleft : ∀ s, s < 2 ^ 32 → conv.tmToTime (conv.timeToTm s) = s)
    (hright : ∀ tm, conv.tmToTime tm < 2 ^ 32 → conv.timeToTm (conv.tmToTime tm) = tm)
    (regs : RtcRegs) (tm : Tm) :
    (pegmatiteRtcReadTime conv (pegmatiteRtcSetTime conv regs tm).1).1 = tm ↔
      conv.tmToTime tm < 2 ^ 32 := by
  rw [pegmatiteRtcReadTime_setTime]
  constructor
  · intro h
    have hmod : conv.tmToTime tm % 2 ^ 32 < 2 ^ 32 := Nat.mod_lt _ (by decide)
    rw [← h, hleft _ hmod]
    exact hmod
  · intro h
    rw [Nat.mod_eq_of_lt h]
    exact hright tm h

/-- Times kept as their seconds: `2 ^ 32` seconds do not come back. -/
theorem pegmatiteRtcReadTime_setTime_iff_seconds :
    (pegmatiteRtcReadTime ⟨id, id, fun _ => true⟩
        (pegmatiteRtcSetTime ⟨id, id, fun _ => true⟩ ⟨0, 0, 0, 0, 0, 0, 0, 0⟩ (2 ^ 32)).1).1 =
        2 ^ 32 ↔ (2 ^ 32 : Nat) < 2 ^ 32 :=
  pegmatiteRtcReadTime_setTime_iff ⟨id, id, fun _ => true⟩ (fun _ _ => rfl) (fun _ _ => rfl) _ _

end RoundTrip

end Pegmatite

end LinuxSampleDriver
