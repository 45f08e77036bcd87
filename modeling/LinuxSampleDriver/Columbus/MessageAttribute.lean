import LinuxSampleDriver.Columbus.SendMessage
import LinuxSampleDriver.Columbus.ChannelRace
import LinuxSampleDriver.Columbus.Sysfs

/-!
# The sysfs `message` attribute

The binary attribute `message` is how user space talks to a DSP. A write sends its bytes on a
channel, and a read receives one message. Each handler takes a channel for the tuple the other
attributes have set, makes one transfer on it and puts the channel back.

The write leaves the two channel tables balanced when it returns: every slot is used exactly when
it was before, and the slot it took is left as `clear_ipc_channel` leaves it
(`columbusIpcMessageWrite_channels`).

The read copies `len` bytes from the buffer `columbus_ipc_receive_message` handed back and returns
`len`; it never looks at the receive's return value. It copies the partner's message only when the
header's command is `IPC_DATA_READ`, `kmalloc` succeeded and the end-of-message test held
(`columbusIpcMessageRead_copies`). Otherwise the bytes come from memory nothing wrote: the fresh
`kmalloc` buffer when the test fails, and the uninitialised `msg_buf` for any other command.
-/

namespace LinuxSampleDriver

namespace Columbus

/-! ## Get and put -/

/-- `columbus_ipc_get_channel` on a tuple that passes its checks either finds no free slot and
changes nothing, or hands back a slot whose `columbus_ipc_put_channel` restores every slot's
`used` flag. -/
theorem getChannel_putChannel (chs : Channels) {partner operation mode appointed_channel : Int}
    (hpre : GetChannelPre partner operation mode appointed_channel) :
    columbusIpcGetChannel chs partner operation mode appointed_channel = (chs, none) ∨
      ∃ chs' h, columbusIpcGetChannel chs partner operation mode appointed_channel =
          (chs', some h) ∧
        ∀ h', ((columbusIpcPutChannel chs' h).get h').used = (chs.get h').used ∧
          ((columbusIpcPutChannel chs' h).get h' = chs.get h' ∨
            (columbusIpcPutChannel chs' h).get h' = clearIpcChannel) := by
  rcases getChannelClaim_cases chs hpre with hc | ⟨i, -, hu, hc⟩
  · exact .inl (by simp only [columbusIpcGetChannel, hc])
  simp only [columbusIpcGetChannel, hc]
  refine .inr ⟨_, _, rfl, fun h' => ?_⟩
  by_cases hh : h' = ⟨getChannels partner, i⟩
  · subst hh
    simp only [columbusIpcPutChannel, Channels.get_set, if_true, or_true, and_true]
    exact hu.symm
  · simp only [columbusIpcPutChannel, stampChannel, Channels.get_set, if_neg hh, true_or,
      and_self]

/-! ## The write -/

/-- `columbus_ipc_message_write`: a channel for the sysfs tuple, `src_size` bytes of `src` sent on
it from `current_page`, and the channel put back once the send returns; `-EINVAL` when no channel
could be had. The send's channel number is the slot's index, which `channel2num` computes. -/
def columbusIpcMessageWrite (cfg : IpcInternal) (info : ColumbusIpcInfo) (sys : SysfsState)
    (chs : Channels) (regs : SramRegs) (mem : Nat → BitVec 8) (src : Nat → BitVec 8)
    (src_size : Nat) (reads : Nat → BitVec 32) (fuel : Nat) : Channels × SendOutcome :=
  match columbusIpcGetChannel chs sys.current_partner sys.current_operation sys.current_mode
      sys.current_channel with
  | (chs, none) => (chs, ⟨regs, mem, [], true, some (-einval)⟩)
  | (chs, some h) =>
    let o := columbusIpcSendMessage cfg info regs mem h.index src src_size sys.current_page
      reads fuel
    match o.ret with
    | some _ => (columbusIpcPutChannel chs h, o)
    | none => (chs, o)

section Write

variable (cfg : IpcInternal) (info : ColumbusIpcInfo) (sys : SysfsState) (chs : Channels)
  (regs : SramRegs) (mem : Nat → BitVec 8) (src : Nat → BitVec 8) (src_size : Nat)
  (reads : Nat → BitVec 32) (fuel : Nat)

/-- A sysfs write that returns, on a tuple that passes the `IPC_BUG` checks of
`columbus_ipc_get_channel`, neither leaks nor takes a channel: every slot of both tables is used
exactly when it was before, and a slot it changed is left as `clear_ipc_channel` leaves it. -/
theorem columbusIpcMessageWrite_channels
    (hpre : GetChannelPre sys.current_partner sys.current_operation sys.current_mode
      sys.current_channel) {r : Int}
    (hret : (columbusIpcMessageWrite cfg info sys chs regs mem src src_size reads fuel).2.ret =
      some r) (h : Handle) :
    let chs' := (columbusIpcMessageWrite cfg info sys chs regs mem src src_size reads fuel).1
    (chs'.get h).used = (chs.get h).used ∧ (chs'.get h = chs.get h ∨ chs'.get h = clearIpcChannel) := by
  intro chs'
  rcases getChannel_putChannel chs hpre with hc | ⟨chs₁, h₁, hc, hput⟩
  · simp only [chs', columbusIpcMessageWrite, hc, true_or, and_self]
  cases ho : (columbusIpcSendMessage cfg info regs mem h₁.index src src_size sys.current_page
      reads fuel).ret with
  | none =>
    simp only [columbusIpcMessageWrite, hc, ho] at hret
    cases hret
  | some _ =>
    simp only [chs', columbusIpcMessageWrite, hc, ho]
    exact hput h

/-- A poll-mode send of a hundred bytes to the RF DSP on any free channel, from zeroed tables:
slot 0 is taken, and given back cleared. -/
theorem columbusIpcMessageWrite_channels_rf0 :
    let chs' := (columbusIpcMessageWrite ⟨0, 1⟩ sampleInfo ⟨0, 0, 1, -1, -1⟩
      (fun _ _ => IpcChannel.zero) SramRegs.allFree (fun _ => 0) (fun _ => 7) 100 (fun _ => 0) 1).1
    (chs'.get ⟨.rf, 0⟩).used = IpcChannel.zero.used ∧
      (chs'.get ⟨.rf, 0⟩ = IpcChannel.zero ∨ chs'.get ⟨.rf, 0⟩ = clearIpcChannel) :=
  columbusIpcMessageWrite_channels ⟨0, 1⟩ sampleInfo ⟨0, 0, 1, -1, -1⟩ (fun _ _ => IpcChannel.zero)
    SramRegs.allFree (fun _ => 0) (fun _ => 7) 100 (fun _ => 0) 1 (by decide) (r := 100)
    (by decide) ⟨.rf, 0⟩

end Write

/-! ## The read -/

/-- What `columbus_ipc_message_read` leaves: its return value, and the buffer its `memcpy` copies
from with the number of bytes it copies (`none` where it returns before the copy). -/
structure ReadOutcome where
  ret : Int
  copied : Option (MessageBuf × Nat)
  deriving DecidableEq, Repr

/-- `columbus_ipc_message_read` at offset `src_off` into a sysfs buffer of `src_size` bytes. The
receive runs on the slot `columbus_ipc_get_channel` stamped, reading its partner and mode back
from it; `hdr` is the header it reads once the partner has signalled, and `kmalloc_ok` whether its
`kmalloc` returned memory. Where the receive returns without setting `*message` and `*len`, the
read's own `msg` is as uninitialised as `msg_buf`, and its `len` holds `stale_len`. `none` where an
`IPC_BUG` check fails: the receive's, or `len > src_size`. -/
def columbusIpcMessageRead (cfg : IpcInternal) (info : ColumbusIpcInfo) (sys : SysfsState)
    (chs : Channels) (src_off : Int) (src_size : Nat) (hdr : IpcHeader) (kmalloc_ok : Bool)
    (stale_len : Nat) : Channels × Option ReadOutcome :=
  if src_off ≠ 0 then (chs, some ⟨0, none⟩)
  else
    match columbusIpcGetChannel chs sys.current_partner sys.current_operation sys.current_mode
        sys.current_channel with
    | (chs, none) => (chs, some ⟨-einval, none⟩)
    | (chs, some h) =>
      match receiveMessage cfg info (chs.get h).partner (chs.get h).mode hdr kmalloc_ok with
      | none => (chs, none)
      | some o =>
        let copy := o.out.getD (.uninitialised, stale_len)
        if copy.2 > src_size then (chs, none)
        else (columbusIpcPutChannel chs h, some ⟨sizeToInt copy.2, some copy⟩)

/-- Where a receive that returns leaves `*message` and `*len`: for `IPC_DATA_READ`, the fresh
buffer, filled exactly when the end-of-message test held, or nothing after `-ENOMEM`; for any
other command, the uninitialised `msg_buf`. -/
theorem receiveMessage_out {cfg : IpcInternal} {info : ColumbusIpcInfo} {partner mode : Int}
    {hdr : IpcHeader} {kmalloc_ok : Bool} {o : ReceiveOutcome}
    (h : receiveMessage cfg info partner mode hdr kmalloc_ok = some o) :
    o.out = if hdr.command = cfg.ipc_data_read then
      (if kmalloc_ok then some (.fresh hdr.data0.toNat
        (hdr.data1 >>> 16 == BitVec.ofNat 32 cfg.ipc_end_msg), hdr.data0.toNat) else none)
      else some (.uninitialised, hdr.data0.toNat) := by
  unfold receiveMessage at h
  by_cases hmode : mode ≠ ipcCommunicationInt ∧ mode ≠ ipcCommunicationPoll
  · rw [if_pos hmode] at h
    cases h
  rw [if_neg hmode] at h
  by_cases hcmd : hdr.command = cfg.ipc_data_read
  · rw [if_pos hcmd] at h ⊢
    obtain ⟨⟨msg, n, eom⟩, hdec, rfl⟩ := Option.map_eq_some'.mp h
    obtain ⟨-, -, -, -, -, -, rfl⟩ := decodeHeader_eq_some_iff.mp hdec
    cases kmalloc_ok <;> rfl
  · rw [if_neg hcmd] at h ⊢
    cases h
    rfl

section Read

variable {cfg : IpcInternal} {info : ColumbusIpcInfo} {sys : SysfsState} {chs : Channels}
  {src_off : Int} {src_size : Nat} {hdr : IpcHeader} {kmalloc_ok : Bool} {stale_len : Nat}

/-- The three ways a read returns: at a nonzero offset, with nothing; without a channel, with
`-EINVAL`; or through a receive that returned and the length check, with the copy and the channel
put back. -/
theorem columbusIpcMessageRead_cases {o : ReadOutcome}
    (hread : (columbusIpcMessageRead cfg info sys chs src_off src_size hdr kmalloc_ok
      stale_len).2 = some o) :
    let chs' := (columbusIpcMessageRead cfg info sys chs src_off src_size hdr kmalloc_ok
      stale_len).1
    (src_off ≠ 0 ∧ o = ⟨0, none⟩ ∧ chs' = chs) ∨
      (columbusIpcGetChannel chs sys.current_partner sys.current_operation sys.current_mode
        sys.current_channel = (chs', none) ∧ o = ⟨-einval, none⟩) ∨
      ∃ chs₁ h r,
        columbusIpcGetChannel chs sys.current_partner sys.current_operation sys.current_mode
          sys.current_channel = (chs₁, some h) ∧
        receiveMessage cfg info (chs₁.get h).partner (chs₁.get h).mode hdr kmalloc_ok =
          some r ∧
        (r.out.getD (.uninitialised, stale_len)).2 ≤ src_size ∧
        o = ⟨sizeToInt (r.out.getD (.uninitialised, stale_len)).2,
          some (r.out.getD (.uninitialised, stale_len))⟩ ∧
        chs' = columbusIpcPutChannel chs₁ h := by
  intro chs'
  by_cases hoff : src_off ≠ 0
  · have e : columbusIpcMessageRead cfg info sys chs src_off src_size hdr kmalloc_ok stale_len =
        (chs, some ⟨0, none⟩) := if_pos hoff
    rw [e] at hread
    exact .inl ⟨hoff, (Option.some.inj hread).symm, congrArg Prod.fst e⟩
  rcases hget : columbusIpcGetChannel chs sys.current_partner sys.current_operation
    sys.current_mode sys.current_channel with ⟨chs₁, _ | h⟩
  · have e : columbusIpcMessageRead cfg info sys chs src_off src_size hdr kmalloc_ok stale_len =
        (chs₁, some ⟨-einval, none⟩) := by
      simp only [columbusIpcMessageRead, if_neg hoff, hget]
    rw [e] at hread
    exact .inr (.inl ⟨by simp only [chs', e], (Option.some.inj hread).symm⟩)
  rcases hrecv : receiveMessage cfg info (chs₁.get h).partner (chs₁.get h).mode hdr kmalloc_ok
    with _ | r
  · have e : (columbusIpcMessageRead cfg info sys chs src_off src_size hdr kmalloc_ok
        stale_len).2 = none := by
      simp only [columbusIpcMessageRead, if_neg hoff, hget, hrecv]
    rw [e] at hread
    cases hread
  by_cases hlen : (r.out.getD (.uninitialised, stale_len)).2 > src_size
  · have e : (columbusIpcMessageRead cfg info sys chs src_off src_size hdr kmalloc_ok
        stale_len).2 = none := by
      simp only [columbusIpcMessageRead, if_neg hoff, hget, hrecv, if_pos hlen]
    rw [e] at hread
    cases hread
  · have e : columbusIpcMessageRead cfg info sys chs src_off src_size hdr kmalloc_ok stale_len =
        (columbusIpcPutChannel chs₁ h,
          some ⟨sizeToInt (r.out.getD (.uninitialised, stale_len)).2,
            some (r.out.getD (.uninitialised, stale_len))⟩) := by
      simp only [columbusIpcMessageRead, if_neg hoff, hget, hrecv, if_neg hlen]
    rw [e] at hread
    exact .inr (.inr ⟨chs₁, h, r, rfl, hrecv, Nat.le_of_not_gt hlen,
      (Option.some.inj hread).symm, congrArg Prod.fst e⟩)

/-- A read that copies, copies the partner's message exactly when the header's command is
`IPC_DATA_READ`, `kmalloc` succeeded and the end-of-message test held; it returns the number of
bytes it copied, which fits the sysfs buffer. -/
theorem columbusIpcMessageRead_copies {r : Int} {buf : MessageBuf} {n : Nat}
    (hread : (columbusIpcMessageRead cfg info sys chs src_off src_size hdr kmalloc_ok
      stale_len).2 = some ⟨r, some (buf, n)⟩) :
    r = sizeToInt n ∧ n ≤ src_size ∧
      (buf = .fresh n true ↔ hdr.command = cfg.ipc_data_read ∧ kmalloc_ok = true ∧
        hdr.data1 >>> 16 = BitVec.ofNat 32 cfg.ipc_end_msg) := by
  rcases columbusIpcMessageRead_cases hread with ⟨-, ho, -⟩ | ⟨-, ho⟩ |
    ⟨_, _, o, -, hrecv, hlen, ho, -⟩
  · cases ho
  · cases ho
  simp only [ReadOutcome.mk.injEq, Option.some.injEq] at ho
  obtain ⟨rfl, hc⟩ := ho
  rw [← hc] at hlen ⊢
  refine ⟨rfl, hlen, ?_⟩
  rw [receiveMessage_out hrecv] at hc
  by_cases hcmd : hdr.command = cfg.ipc_data_read
  · cases kmalloc_ok
    · simp only [if_pos hcmd, Bool.false_eq_true, if_false, Option.getD_none,
        Prod.mk.injEq] at hc
      obtain ⟨rfl, rfl⟩ := hc
      simp
    · simp only [if_pos hcmd, if_true, Option.getD_some, Prod.mk.injEq] at hc
      obtain ⟨rfl, rfl⟩ := hc
      simp [hcmd]
  · simp only [if_neg hcmd, Option.getD_some, Prod.mk.injEq] at hc
    obtain ⟨rfl, rfl⟩ := hc
    simp [hcmd]

/-- A read from the RF DSP of an `IPC_DATA_READ` header without the end-of-message marker copies
the hundred bytes of a buffer `kmalloc` returned and nothing wrote. -/
theorem columbusIpcMessageRead_copies_unfilled :
    (columbusIpcMessageRead ⟨1, 1⟩ sampleInfo ⟨0, 1, 1, -1, -1⟩ (fun _ _ => IpcChannel.zero) 0
        4096 ⟨1, 0x72600000, 100, 0⟩ true 0).2 = some ⟨100, some (.fresh 100 false, 100)⟩ ∧
      (100 : Int) = sizeToInt 100 ∧ 100 ≤ 4096 ∧
      (MessageBuf.fresh 100 false = .fresh 100 true ↔
        (⟨1, 0x72600000, 100, 0⟩ : IpcHeader).command = (⟨1, 1⟩ : IpcInternal).ipc_data_read ∧
          true = true ∧ (⟨1, 0x72600000, 100, 0⟩ : IpcHeader).data1 >>> 16 =
            BitVec.ofNat 32 (⟨1, 1⟩ : IpcInternal).ipc_end_msg) :=
  have h : (columbusIpcMessageRead ⟨1, 1⟩ sampleInfo ⟨0, 1, 1, -1, -1⟩
      (fun _ _ => IpcChannel.zero) 0 4096 ⟨1, 0x72600000, 100, 0⟩ true 0).2 =
      some ⟨100, some (.fresh 100 false, 100)⟩ := by decide
  ⟨h, columbusIpcMessageRead_copies h⟩

end Read

end Columbus

end LinuxSampleDriver
