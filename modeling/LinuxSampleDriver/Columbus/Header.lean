import LinuxSampleDriver.Columbus.Alloc
import LinuxSampleDriver.Columbus.Channel

/-!
# The transfer header

A message crosses between the A7 and a DSP as four 32-bit header registers: a command, an
address, a length (`data0`) and `page | IPC_END_MSG << 16` (`data1`). `columbus_ipc_send_message`
writes the `A7TOxxIPC*` set; the retrieve part of `columbus_ipc_receive_message` reads the
`xxTOA7IPC*` set and decodes the address with `is_valid_address`, `address_from_a7_view` and
`phy2vir`.

The two ends do not use the same address map. Send writes the A7-view physical address
`sram_phy + page * 1024` (its comment says the DSP side ignores it and reads the page from
`data1`); the decoder expects the partner-view address `COLUMBUS_SRAM_RF_VIEW + offset` or
`COLUMBUS_SRAM_PLC_VIEW + offset`. `sendHeader_decodeHeader` says what survives: the command, the
length, the page index in `data1` and the end-of-message marker always, the address exactly when
`sram_phy` is the partner's view base.

`IPC_DATA_READ` and `IPC_END_MSG` come from `columbus_ipc_internal.h`, which the repository does not
include; they are the fields of `IpcInternal`.
-/

namespace LinuxSampleDriver

namespace Columbus

/-- `COLUMBUS_SRAM_RF_VIEW`: the base of the shared RAM in the RF DSP's address map. -/
def columbusSramRfView : Nat := 0x72600000

/-- `COLUMBUS_SRAM_PLC_VIEW`: the base of the shared RAM in the PLC DSP's address map. -/
def columbusSramPlcView : Nat := 0x61600000

/-- The two values of `columbus_ipc_internal.h` the transfer code uses: the command
`IPC_DATA_READ` and the end-of-message marker `IPC_END_MSG`. -/
structure IpcInternal where
  ipc_data_read : BitVec 32
  ipc_end_msg : Nat

/-- The four header registers of one direction of one partner. -/
structure IpcHeader where
  command : BitVec 32
  address : BitVec 32
  data0 : BitVec 32
  data1 : BitVec 32
  deriving DecidableEq, Repr

/-- The header `columbus_ipc_send_message` writes, the same for both partners, for `len` bytes in
page `page_num`; each `iowrite32` keeps the low 32 bits of its value. -/
def sendHeader (cfg : IpcInternal) (info : ColumbusIpcInfo) (page_num len : Nat) : IpcHeader where
  command := cfg.ipc_data_read
  address := BitVec.ofNat 32 (info.sram_phy + page_num * columbusIpcPageSize)
  data0 := BitVec.ofNat 32 len
  data1 := BitVec.ofNat 32 (page_num ||| cfg.ipc_end_msg <<< 16)

/-- The partner's view base that both branches of `is_valid_address` and of
`address_from_a7_view` use: the RF view for `IPC_PARTNER_RF_DSP`, the PLC view otherwise. -/
def sramView (partner : Int) : Nat :=
  if partner = ipcPartnerRfDsp then columbusSramRfView else columbusSramPlcView

/-- `is_valid_address`: the address lies in the partner's 32 KiB window. Its `IPC_BUG` on an
address that is not page aligned is checked by `decodeHeader`. -/
def isValidAddress (partner : Int) (address : Nat) : Bool :=
  decide (sramView partner ≤ address ∧ address < sramView partner + columbusIpcSramSize)

/-- `address_from_a7_view`. -/
def addressFromA7View (info : ColumbusIpcInfo) (partner : Int) (address : Nat) : Nat :=
  info.sram_phy + (address - sramView partner)

/-- `phy2vir`; `none` where its `IPC_BUG` range check fails. -/
def phy2vir (info : ColumbusIpcInfo) (address : Nat) : Option Nat :=
  if address < info.sram_phy ∨ address ≥ info.sram_phy + columbusIpcSramSize then none
  else some (info.sram + (address - info.sram_phy))

/-- The decoding in `columbus_ipc_receive_message` of a header whose command is `IPC_DATA_READ`:
the virtual address `msg` of the message, its length and whether the end-of-message test
`(data1 >> 16) == IPC_END_MSG` holds. `none` where the command differs or an `IPC_BUG` check fails:
the address is outside the window or not page aligned, `phy2vir` is out of range, or the length is
above 32 KiB. -/
def decodeHeader (cfg : IpcInternal) (info : ColumbusIpcInfo) (partner : Int) (hdr : IpcHeader) :
    Option (Nat × Nat × Bool) :=
  let address := hdr.address.toNat
  if hdr.command = cfg.ipc_data_read ∧ isValidAddress partner address = true ∧
      address % columbusIpcPageSize = 0 then
    (phy2vir info (addressFromA7View info partner address)).bind fun msg =>
      if hdr.data0.toNat ≤ columbusIpcSramSize then
        some (msg, hdr.data0.toNat, hdr.data1 >>> 16 == BitVec.ofNat 32 cfg.ipc_end_msg)
      else none
  else none

/-! ## The decoder -/

/-- The spec of the decoder: it accepts exactly the headers that pass the checks, and then
returns the window offset of the address on the A7's virtual base. `phy2vir`'s own check never
fails after `is_valid_address`, since the physical shared RAM lies below `2 ^ 32`. -/
theorem decodeHeader_eq_some_iff {cfg : IpcInternal} {info : ColumbusIpcInfo} {partner : Int}
    {hdr : IpcHeader} {msg n : Nat} {eom : Bool} :
    decodeHeader cfg info partner hdr = some (msg, n, eom) ↔
      hdr.command = cfg.ipc_data_read ∧ isValidAddress partner hdr.address.toNat = true ∧
        hdr.address.toNat % columbusIpcPageSize = 0 ∧
        msg = info.sram + (hdr.address.toNat - sramView partner) ∧ n = hdr.data0.toNat ∧
        n ≤ columbusIpcSramSize ∧ eom = (hdr.data1 >>> 16 == BitVec.ofNat 32 cfg.ipc_end_msg) := by
  unfold decodeHeader
  by_cases hchk : hdr.command = cfg.ipc_data_read ∧ isValidAddress partner hdr.address.toNat = true ∧
      hdr.address.toNat % columbusIpcPageSize = 0
  · obtain ⟨hc, hv, ha⟩ := hchk
    have hwin := of_decide_eq_true hv
    have hphy : phy2vir info (addressFromA7View info partner hdr.address.toNat) =
        some (info.sram + (hdr.address.toNat - sramView partner)) := by
      unfold phy2vir addressFromA7View
      rw [if_neg (by omega)]
      congr 2
      omega
    simp only [hc, hv, ha, true_and, if_true, hphy, Option.some_bind]
    split_ifs with hlen
    · simp only [Option.some.injEq, Prod.mk.injEq]
      constructor
      · rintro ⟨rfl, rfl, rfl⟩
        exact ⟨rfl, rfl, hlen, rfl⟩
      · rintro ⟨rfl, rfl, -, rfl⟩
        exact ⟨rfl, rfl, rfl⟩
    · simp only [reduceCtorEq, false_iff]
      omega
  · rw [if_neg hchk]
    simp only [reduceCtorEq, false_iff]
    tauto

theorem sramView_mod_pageSize (partner : Int) : sramView partner % columbusIpcPageSize = 0 := by
  unfold sramView; split_ifs <;> decide

/-- For both partners and every configuration, the header naming the last page of the partner's
window with a 2 KiB length passes every check of the decoder, and the copy's source runs 1 KiB past
the end of the shared RAM. -/
theorem decodeHeader_copy_overruns (cfg : IpcInternal) (info : ColumbusIpcInfo) (partner : Int)
    (data1 : BitVec 32) :
    decodeHeader cfg info partner ⟨cfg.ipc_data_read,
        BitVec.ofNat 32 (sramView partner + 31 * columbusIpcPageSize), BitVec.ofNat 32 2048, data1⟩ =
      some (info.sram + 31 * columbusIpcPageSize, 2048,
        data1 >>> 16 == BitVec.ofNat 32 cfg.ipc_end_msg) ∧
      info.sram + columbusIpcSramSize < info.sram + 31 * columbusIpcPageSize + 2048 := by
  have hview : sramView partner + 31 * columbusIpcPageSize < 2 ^ 32 := by
    unfold sramView; split_ifs <;> decide
  have ha : (BitVec.ofNat 32 (sramView partner + 31 * columbusIpcPageSize)).toNat =
      sramView partner + 31 * columbusIpcPageSize := by
    rw [BitVec.toNat_ofNat, Nat.mod_eq_of_lt hview]
  have hmod := sramView_mod_pageSize partner
  unfold columbusIpcSramSize columbusIpcPageSize at *
  refine ⟨decodeHeader_eq_some_iff.mpr ⟨rfl, ?_, ?_, ?_, rfl, by decide, rfl⟩, by omega⟩
  · simp only [isValidAddress, ha, columbusIpcSramSize, decide_eq_true_eq]
    omega
  · simp only [ha, columbusIpcPageSize]
    omega
  · simp only [ha]
    omega

/-! ## What a receive call hands back -/

/-- `ENOMEM`. -/
def enomem : Int := 12

/-- What `*message` points to when a receive call returns. -/
inductive MessageBuf
  /-- a buffer of `size` bytes that `kmalloc` returned in this call; `filled` is whether the
  payload was copied into it (the end-of-message test held) -/
  | fresh (size : Nat) (filled : Bool)
  /-- the local `msg_buf`, never assigned on this path -/
  | uninitialised
  deriving DecidableEq, Repr

/-- The end of a `columbus_ipc_receive_message` call: its return value, and `*message` and `*len`
where the call sets them. -/
structure ReceiveOutcome where
  ret : Int
  out : Option (MessageBuf × Nat)
  deriving DecidableEq, Repr

/-- `*message = msg_buf; *len = data0; return *len;`, the end of both paths of
`columbus_ipc_receive_message` that do not fail; `return` reads the 32-bit `size_t` as an `int`. -/
def receiveReturn (hdr : IpcHeader) (msg_buf : MessageBuf) : ReceiveOutcome :=
  ⟨hdr.data0.toInt, some (msg_buf, hdr.data0.toNat)⟩

/-- The part of `columbus_ipc_receive_message` after its ack and its wait, on the header `hdr` it
then reads; `kmalloc_ok` is whether `kmalloc` returned memory. `none` where an `IPC_BUG` check
fails: a wait mode other than interrupt and poll, or a header with command `IPC_DATA_READ` that
`decodeHeader` rejects. -/
def receiveMessage (cfg : IpcInternal) (info : ColumbusIpcInfo) (partner mode : Int)
    (hdr : IpcHeader) (kmalloc_ok : Bool) : Option ReceiveOutcome :=
  if mode ≠ ipcCommunicationInt ∧ mode ≠ ipcCommunicationPoll then none
  else if hdr.command = cfg.ipc_data_read then
    (decodeHeader cfg info partner hdr).map fun r =>
      if kmalloc_ok then receiveReturn hdr (.fresh hdr.data0.toNat r.2.2) else ⟨-enomem, none⟩
  else some (receiveReturn hdr .uninitialised)

/-- The promise of the comment above `columbus_ipc_receive_message`: a negative error, or `n ≥ 0`
with `*len = n` and `*message` a buffer of at least `n` bytes allocated in the call, which the
caller copies from and frees. -/
def ReceiveContract (o : ReceiveOutcome) : Prop :=
  o.ret < 0 ∨
    ∃ size filled, 0 ≤ o.ret ∧ o.out = some (.fresh size filled, o.ret.toNat) ∧ o.ret.toNat ≤ size

/-- A call that returns keeps the promise exactly when the header's command is `IPC_DATA_READ`, or
its `data0` reads as a negative `int`: any other command returns `data0` with `*message` the
uninitialised `msg_buf`. -/
theorem receiveMessage_contract_iff {cfg : IpcInternal} {info : ColumbusIpcInfo}
    {partner mode : Int} {hdr : IpcHeader} {kmalloc_ok : Bool} {o : ReceiveOutcome}
    (h : receiveMessage cfg info partner mode hdr kmalloc_ok = some o) :
    ReceiveContract o ↔ hdr.command = cfg.ipc_data_read ∨ hdr.data0.toInt < 0 := by
  unfold receiveMessage at h
  by_cases hmode : mode ≠ ipcCommunicationInt ∧ mode ≠ ipcCommunicationPoll
  · rw [if_pos hmode] at h
    cases h
  rw [if_neg hmode] at h
  by_cases hcmd : hdr.command = cfg.ipc_data_read
  · rw [if_pos hcmd] at h
    obtain ⟨⟨msg, n, eom⟩, hdec, ho⟩ := Option.map_eq_some'.mp h
    obtain ⟨-, -, -, -, rfl, hn, -⟩ := decodeHeader_eq_some_iff.mp hdec
    have hint : hdr.data0.toInt = hdr.data0.toNat := by
      rw [BitVec.toInt_eq_toNat_cond, if_pos (by unfold columbusIpcSramSize at hn; omega)]
    refine iff_of_true ?_ (.inl hcmd)
    subst ho
    cases kmalloc_ok
    · exact .inl (by simp [enomem])
    · refine .inr ⟨hdr.data0.toNat, eom, ?_, by simp [receiveReturn, hint], by simp [receiveReturn, hint]⟩
      simp only [receiveReturn, hint, if_true]
      omega
  · rw [if_neg hcmd] at h
    cases h
    simp only [ReceiveContract, receiveReturn, hcmd, false_or, Option.some.injEq, Prod.mk.injEq,
      reduceCtorEq, false_and, and_false, exists_false, or_false]

/-- A poll-mode receive from the RF DSP that reads command 0 and length 100, with `IPC_DATA_READ`
set to 1: the contract fails, and so do both conditions. -/
theorem receiveMessage_contract_iff_cmd0 :
    (ReceiveContract ⟨100, some (.uninitialised, 100)⟩ ↔
      (⟨0, 0, 100, 0⟩ : IpcHeader).command = (⟨1, 1⟩ : IpcInternal).ipc_data_read ∨
        (⟨0, 0, 100, 0⟩ : IpcHeader).data0.toInt < 0) :=
  @receiveMessage_contract_iff ⟨1, 1⟩ sampleInfo ipcPartnerRfDsp ipcCommunicationPoll
    ⟨0, 0, 100, 0⟩ true _ (by decide)

/-- With `IPC_DATA_READ` and `IPC_END_MSG` set to `1`, a poll-mode receive from the RF DSP that
reads command `0` and length `100` returns `100` with `*message` the uninitialised `msg_buf`. -/
theorem receiveMessage_uninitialised :
    receiveMessage ⟨1, 1⟩ sampleInfo ipcPartnerRfDsp ipcCommunicationPoll ⟨0, 0, 100, 0⟩ true =
        some ⟨100, some (.uninitialised, 100)⟩ ∧
      ¬ ReceiveContract ⟨100, some (.uninitialised, 100)⟩ := by
  refine ⟨by decide, ?_⟩
  rintro (h | ⟨_, _, -, h, -⟩)
  · exact absurd h (by decide)
  · cases h

/-! ## What send writes -/

/-- `data1` packs the page index below the marker when both fit 16 bits. -/
theorem page_or_endMsg {page_num end_msg : Nat} (hp : page_num < 2 ^ 16) :
    page_num ||| end_msg <<< 16 = 2 ^ 16 * end_msg + page_num := by
  rw [Nat.or_comm, Nat.shiftLeft_eq, Nat.mul_comm, Nat.mul_add_lt_is_or hp]

/-- The four fields of the header send writes for a page of the shared RAM. -/
theorem sendHeader_fields (cfg : IpcInternal) (info : ColumbusIpcInfo) {p len : Nat}
    (hp : p < sharedRamPageNum) (hlen : len ≤ columbusIpcSramSize)
    (hend : cfg.ipc_end_msg < 2 ^ 16) :
    (sendHeader cfg info p len).address.toNat = info.sram_phy + p * columbusIpcPageSize ∧
      (sendHeader cfg info p len).data0.toNat = len ∧
      (sendHeader cfg info p len).data1.toNat = 2 ^ 16 * cfg.ipc_end_msg + p := by
  have hfit := info.sram_phy_fits
  unfold sharedRamPageNum at hp
  unfold columbusIpcSramSize at hlen hfit
  simp only [sendHeader, BitVec.toNat_ofNat, page_or_endMsg (show p < 2 ^ 16 by omega)]
  unfold columbusIpcPageSize
  refine ⟨Nat.mod_eq_of_lt (by omega), Nat.mod_eq_of_lt (by omega), Nat.mod_eq_of_lt (by omega)⟩

/-- Send's header against receive's decoder. Whatever `sram_phy` is, the header carries
`IPC_DATA_READ`, the length in `data0`, the page index in the low half of `data1` and the marker
in its high half, so that the decoder's end-of-message test holds; its address is the A7-view
`sram_phy + p * 1024`. The decoder maps that header back to page `p` exactly when `sram_phy` is
the partner's view base, so for at least one of the two partners it never does. -/
theorem sendHeader_decodeHeader (cfg : IpcInternal) (info : ColumbusIpcInfo) (partner : Int)
    {p len : Nat} (hp : p < sharedRamPageNum) (hlen : len ≤ columbusIpcSramSize)
    (hend : cfg.ipc_end_msg < 2 ^ 16) :
    (sendHeader cfg info p len).command = cfg.ipc_data_read ∧
      (sendHeader cfg info p len).address.toNat = info.sram_phy + p * columbusIpcPageSize ∧
      (sendHeader cfg info p len).data0.toNat = len ∧
      (sendHeader cfg info p len).data1.toNat % 2 ^ 16 = p ∧
      ((sendHeader cfg info p len).data1 >>> 16).toNat = cfg.ipc_end_msg ∧
      (decodeHeader cfg info partner (sendHeader cfg info p len) =
          some (info.sram + p * columbusIpcPageSize, len, true) ↔
        info.sram_phy = sramView partner) := by
  obtain ⟨haddr, hdata0, hdata1⟩ := sendHeader_fields cfg info hp hlen hend
  have hp16 : p < 2 ^ 16 := by unfold sharedRamPageNum at hp; omega
  have hlow : (sendHeader cfg info p len).data1.toNat % 2 ^ 16 = p := by
    rw [hdata1, Nat.mul_add_mod, Nat.mod_eq_of_lt hp16]
  have hhigh : ((sendHeader cfg info p len).data1 >>> 16).toNat = cfg.ipc_end_msg := by
    rw [BitVec.toNat_ushiftRight, hdata1, Nat.shiftRight_eq_div_pow, Nat.mul_add_div (by decide),
      Nat.div_eq_of_lt hp16, Nat.add_zero]
  have heom : ((sendHeader cfg info p len).data1 >>> 16 ==
      BitVec.ofNat 32 cfg.ipc_end_msg) = true := by
    rw [beq_iff_eq]
    apply BitVec.eq_of_toNat_eq
    rw [hhigh, BitVec.toNat_ofNat, Nat.mod_eq_of_lt (by omega)]
  refine ⟨rfl, haddr, hdata0, hlow, hhigh, ?_⟩
  have hview : sramView partner % 1024 = 0 := by
    unfold sramView; split_ifs <;> decide
  have hcmd : (sendHeader cfg info p len).command = cfg.ipc_data_read := rfl
  rw [decodeHeader_eq_some_iff, haddr, hdata0, heom]
  simp only [hcmd, isValidAddress, decide_eq_true_eq, true_and, and_true, hlen]
  unfold sharedRamPageNum at hp
  unfold columbusIpcPageSize columbusIpcSramSize
  omega

/-- A shared RAM whose physical base is the RF view. -/
def rfViewInfo : ColumbusIpcInfo := ⟨0xf0000000, columbusSramRfView, by decide, by decide, by decide⟩

theorem sendHeader_decodeHeader_rfView :
    decodeHeader ⟨0, 1⟩ rfViewInfo ipcPartnerRfDsp (sendHeader ⟨0, 1⟩ rfViewInfo 3 100) =
      some (rfViewInfo.sram + 3 * columbusIpcPageSize, 100, true) :=
  (sendHeader_decodeHeader ⟨0, 1⟩ rfViewInfo ipcPartnerRfDsp (show 3 < sharedRamPageNum by decide)
    (show 100 ≤ columbusIpcSramSize by decide) (by decide)).2.2.2.2.2.2 (by decide)

/-- With `sram_phy` anywhere but the RF view, here `0x40000000`, the header send writes for page 0
fails `is_valid_address` on the RF side. The constants are set to `0` and `1`; the address check
does not read them. -/
theorem sendHeader_rf_rejected :
    decodeHeader ⟨0, 1⟩ sampleInfo ipcPartnerRfDsp (sendHeader ⟨0, 1⟩ sampleInfo 0 1) = none := by
  decide

end Columbus

end LinuxSampleDriver
