import Mathlib.Logic.Function.Basic

/-!
# The channel tables

A7 code talks to a partner DSP over a channel, a slot of one of two static tables of sixteen
`struct ipc_channel`, `ipc_rf_channel[]` and `ipc_plc_channel[]`. `columbus_ipc_get_channel`
claims a slot under the partner's table mutex (`get_free_channel`: the appointed slot if it is
unused, otherwise the first unused slot below the bound of the wait mode), drops the mutex, and
only then stamps it with `set_ipc_channel`; `columbus_ipc_put_channel` clears the slot under the
mutex. A handle is the address of its slot, here the table and the index.

The get is split into the section under the mutex (`getChannelClaim`) and the stamp
(`stampChannel`) so that `ChannelRace` can interleave them. `GetChannelPre` collects the `IPC_BUG`
checks on the arguments of a get, the contract `Sysfs` is checked against.
-/

namespace LinuxSampleDriver

namespace Columbus

/-! ## Constants of `misc/columbus_ipc.h` and `columbus_ipc.c` -/

/-- `IPC_PARTNER_RF_DSP`. -/
def ipcPartnerRfDsp : Int := 0

/-- `IPC_PARTNER_PLC_DSP`. -/
def ipcPartnerPlcDsp : Int := 1

/-- `IPC_SEND_OPERATION`. -/
def ipcSendOperation : Int := 0

/-- `IPC_RECEIVE_OPERATION`. -/
def ipcReceiveOperation : Int := 1

/-- `IPC_COMMUNICATION_INT`. -/
def ipcCommunicationInt : Int := 0

/-- `IPC_COMMUNICATION_POLL`. -/
def ipcCommunicationPoll : Int := 1

/-- `COLUMBUS_IPC_INVALID`. -/
def columbusIpcInvalid : Int := -1

/-- `IPC_CHANNEL_USED`. -/
def ipcChannelUsed : Int := 1

/-- `IPC_CHANNEL_UNUSED`. -/
def ipcChannelUnused : Int := 0

/-- `IPC_IRQ_CHANNEL_NUM`: channels 0 to 7 of each partner have an interrupt line. -/
def ipcIrqChannelNum : Nat := 8

/-- `A7_RF_IPC_CHANNEL_NUM`, also the size of the PLC table. -/
def a7RfIpcChannelNum : Nat := 16

/-- `COLUMBUS_IPC_REQ_MAGIC_1`. -/
def columbusIpcReqMagic1 : BitVec 32 := 0x49504331

/-- `COLUMBUS_IPC_REQ_MAGIC_2`. -/
def columbusIpcReqMagic2 : BitVec 32 := 0x49504332

/-! ## Slots, tables and handles -/

/-- `struct ipc_channel`. -/
structure IpcChannel where
  magic_1 : BitVec 32
  used : Int
  partner : Int
  operation : Int
  mode : Int
  magic_2 : BitVec 32
  deriving DecidableEq, Repr

/-- A slot of the zero-initialised static tables. -/
def IpcChannel.zero : IpcChannel := ⟨0, 0, 0, 0, 0, 0⟩

/-- The two static tables. -/
inductive ChannelTable
  | rf
  | plc
  deriving DecidableEq, Repr

/-- Both tables, slot by slot; a slot `i` is one of the array's for `i < 16`. -/
def Channels := ChannelTable → Nat → IpcChannel

/-- A `channel_handle`: the address of slot `index` of `table`. -/
structure Handle where
  table : ChannelTable
  index : Nat
  deriving DecidableEq, Repr

/-- The slot a handle points at. -/
def Channels.get (chs : Channels) (h : Handle) : IpcChannel := chs h.table h.index

/-- A store to the slot a handle points at. -/
def Channels.set (chs : Channels) (h : Handle) (c : IpcChannel) : Channels :=
  Function.update chs h.table (Function.update (chs h.table) h.index c)

@[simp] theorem Channels.get_set (chs : Channels) (h h' : Handle) (c : IpcChannel) :
    (chs.set h c).get h' = if h' = h then c else chs.get h' := by
  obtain ⟨t, i⟩ := h
  obtain ⟨t', i'⟩ := h'
  by_cases ht : t' = t
  · subst ht
    by_cases hi : i' = i
    · subst hi; simp [Channels.get, Channels.set]
    · simp [Channels.get, Channels.set, hi]
  · simp [Channels.get, Channels.set, ht]

/-! ## The functions -/

/-- `get_channels`: the table of a partner; anything but `IPC_PARTNER_RF_DSP` selects the PLC
table. -/
def getChannels (partner : Int) : ChannelTable :=
  if partner = ipcPartnerRfDsp then .rf else .plc

/-- `get_max_channel`: interrupt mode may only use the slots that have an interrupt line. -/
def getMaxChannel (_operation mode : Int) : Nat :=
  if mode = ipcCommunicationInt then ipcIrqChannelNum else a7RfIpcChannelNum

/-- The loop of `get_free_channel` over slots `i`, `i + 1`, ... below `max_channel`, with `fuel`
iterations left: the first unused slot. -/
def scanFreeChannel (chans : Nat → IpcChannel) (max_channel : Nat) : (i fuel : Nat) → Option Nat
  | _, 0 => none
  | i, fuel + 1 =>
    if i < max_channel then
      if (chans i).used = ipcChannelUnused then some i
      else scanFreeChannel chans max_channel (i + 1) fuel
    else none

/-- `get_free_channel` on one table: the table with the claimed slot marked used, and the slot.
An appointed index below `COLUMBUS_IPC_INVALID` is outside the array, which its `IPC_BUG` rules
out; the model reads it as slot 0. -/
def getFreeChannel (chans : Nat → IpcChannel) (max_channel : Nat) (appointed_channel : Int) :
    (Nat → IpcChannel) × Option Nat :=
  let claim := fun i => (Function.update chans i { chans i with used := ipcChannelUsed }, some i)
  if appointed_channel ≠ columbusIpcInvalid then
    if (chans appointed_channel.toNat).used = ipcChannelUnused then claim appointed_channel.toNat
    else (chans, none)
  else
    match scanFreeChannel chans max_channel 0 max_channel with
    | some i => claim i
    | none => (chans, none)

/-- `set_ipc_channel`. -/
def setIpcChannel (channel : IpcChannel) (partner operation mode : Int) : IpcChannel :=
  { channel with magic_1 := columbusIpcReqMagic1, mode := mode, operation := operation,
                 partner := partner, magic_2 := columbusIpcReqMagic2 }

/-- The slot as `clear_ipc_channel` leaves it: every field `COLUMBUS_IPC_INVALID`, the unsigned
magic words included, and the slot unused. -/
def clearIpcChannel : IpcChannel :=
  { used := ipcChannelUnused, mode := columbusIpcInvalid, operation := columbusIpcInvalid,
    partner := columbusIpcInvalid, magic_1 := BitVec.ofInt 32 columbusIpcInvalid,
    magic_2 := BitVec.ofInt 32 columbusIpcInvalid }

/-- The section of `columbus_ipc_get_channel` under the partner's table mutex. -/
def getChannelClaim (chs : Channels) (partner operation mode appointed_channel : Int) :
    Channels × Option Handle :=
  let table := getChannels partner
  let r := getFreeChannel (chs table) (getMaxChannel operation mode) appointed_channel
  (Function.update chs table r.1, r.2.map fun i => ⟨table, i⟩)

/-- The `set_ipc_channel` call of `columbus_ipc_get_channel`, made after the mutex is dropped. -/
def stampChannel (chs : Channels) (h : Handle) (partner operation mode : Int) : Channels :=
  chs.set h (setIpcChannel (chs.get h) partner operation mode)

/-- `columbus_ipc_get_channel`: the claim, then the stamp. -/
def columbusIpcGetChannel (chs : Channels) (partner operation mode appointed_channel : Int) :
    Channels × Option Handle :=
  match getChannelClaim chs partner operation mode appointed_channel with
  | (chs, some h) => (stampChannel chs h partner operation mode, some h)
  | (chs, none) => (chs, none)

/-- `columbus_ipc_put_channel`: the slot cleared under the mutex. -/
def columbusIpcPutChannel (chs : Channels) (h : Handle) : Channels :=
  chs.set h clearIpcChannel

/-- What the `IPC_BUG` checks of `columbus_ipc_get_channel` and of its `get_free_channel` call
require of the arguments. -/
def GetChannelPre (partner operation mode appointed_channel : Int) : Prop :=
  (partner = ipcPartnerRfDsp ∨ partner = ipcPartnerPlcDsp) ∧
    (operation = ipcSendOperation ∨ operation = ipcReceiveOperation) ∧
    (mode = ipcCommunicationInt ∨ mode = ipcCommunicationPoll) ∧
    (appointed_channel = columbusIpcInvalid ∨
      (0 ≤ appointed_channel ∧ appointed_channel < getMaxChannel operation mode))

instance (partner operation mode appointed_channel : Int) :
    Decidable (GetChannelPre partner operation mode appointed_channel) :=
  inferInstanceAs (Decidable (_ ∧ _ ∧ _ ∧ _))

/-! ## The scan -/

/-- The scan finds the first unused slot from `i` below its bound, and finds none only if every
such slot is used. -/
theorem scanFreeChannel_spec (chans : Nat → IpcChannel) (max_channel : Nat) :
    ∀ i fuel,
      (∀ j, scanFreeChannel chans max_channel i fuel = some j →
        i ≤ j ∧ j < max_channel ∧ (chans j).used = ipcChannelUnused ∧
          ∀ k, i ≤ k → k < j → (chans k).used ≠ ipcChannelUnused) ∧
      (scanFreeChannel chans max_channel i fuel = none →
        ∀ k, i ≤ k → k < max_channel → k < i + fuel → (chans k).used ≠ ipcChannelUnused)
  | i, 0 => ⟨fun _ h => (by cases h), fun _ _ _ _ hk => by omega⟩
  | i, fuel + 1 => by
    obtain ⟨ihs, ihn⟩ := scanFreeChannel_spec chans max_channel (i + 1) fuel
    simp only [scanFreeChannel]
    split_ifs with hi hu
    · exact ⟨fun j hj => (by cases hj; exact ⟨Nat.le_refl i, hi, hu, fun k h1 h2 => by omega⟩),
        fun h => (by cases h)⟩
    · refine ⟨fun j hj => ?_, fun hn k h1 h2 h3 => ?_⟩
      · obtain ⟨h1, h2, h3, h4⟩ := ihs j hj
        refine ⟨by omega, h2, h3, fun k hk1 hk2 => ?_⟩
        rcases Nat.eq_or_lt_of_le hk1 with rfl | hk1
        · exact hu
        · exact h4 k hk1 hk2
      · rcases Nat.eq_or_lt_of_le h1 with rfl | h1
        · exact hu
        · exact ihn hn k h1 h2 (by omega)
    · exact ⟨fun j hj => (by cases hj), fun _ k h1 h2 _ => by omega⟩

end Columbus

end LinuxSampleDriver
