import LinuxSampleDriver.Columbus.Channel

/-!
# The sysfs front-end

The debug interface keeps five globals, `current_partner`, `current_operation`, `current_mode`,
`current_channel` and `current_page`, all `COLUMBUS_IPC_INVALID` at load. Each has a store
handler that parses the written text with `kstrtoint` and either stores the value or returns
`-EINVAL`; reading or writing the `message` attribute passes the first four to
`columbus_ipc_get_channel` as they stand.

The partner, operation, mode and page handlers share one shape, `sysfsStore`, applied to each
attribute's field and its accepted values. The channel handler has a body of its own: it checks
the value against the bound of the mode stored at that moment, and only from above. A write is
given by what `kstrtoint` made of the text, `none` when it failed.

`SysfsInv` is what the handlers do keep, for every sequence of writes; `getChannelPre_messageArgs_iff`
says which tuples then still fail `GetChannelPre`; `messageArgs_negative_channel` is a run that
reaches `columbus_ipc_get_channel` with channel -5.
-/

namespace LinuxSampleDriver

namespace Columbus

/-- `EINVAL`. -/
def einval : Int := 22

/-- The globals behind the sysfs attributes. -/
structure SysfsState where
  current_partner : Int
  current_operation : Int
  current_mode : Int
  current_channel : Int
  current_page : Int
  deriving DecidableEq, Repr

/-- The globals at load time. -/
def SysfsState.init : SysfsState :=
  ⟨columbusIpcInvalid, columbusIpcInvalid, columbusIpcInvalid, columbusIpcInvalid,
    columbusIpcInvalid⟩

/-- The shape of the partner, operation, mode and page store handlers: a value that parsed and
is accepted is stored and the handler returns `len`; otherwise `-EINVAL` and nothing changes. -/
def sysfsStore (store : SysfsState → Int → SysfsState) (accept : Int → Prop)
    [DecidablePred accept] (s : SysfsState) (buf : Option Int) (len : Int) : SysfsState × Int :=
  match buf with
  | none => (s, -einval)
  | some v => if accept v then (store s v, len) else (s, -einval)

/-- `columbus_ipc_partner_write`. -/
def columbusIpcPartnerWrite : SysfsState → Option Int → Int → SysfsState × Int :=
  sysfsStore (fun s v => { s with current_partner := v })
    (fun v => v = ipcPartnerRfDsp ∨ v = ipcPartnerPlcDsp)

/-- `columbus_ipc_operation_write`. -/
def columbusIpcOperationWrite : SysfsState → Option Int → Int → SysfsState × Int :=
  sysfsStore (fun s v => { s with current_operation := v })
    (fun v => v = ipcSendOperation ∨ v = ipcReceiveOperation)

/-- `columbus_ipc_mode_write`. -/
def columbusIpcModeWrite : SysfsState → Option Int → Int → SysfsState × Int :=
  sysfsStore (fun s v => { s with current_mode := v })
    (fun v => v = ipcCommunicationInt ∨ v = ipcCommunicationPoll)

/-- `page_store`: any value that parses. -/
def pageStore : SysfsState → Option Int → Int → SysfsState × Int :=
  sysfsStore (fun s v => { s with current_page := v }) (fun _ => True)

/-- `columbus_ipc_channel_write`: the bound depends on the mode stored at the time, and only the
upper end is checked. -/
def columbusIpcChannelWrite (s : SysfsState) (buf : Option Int) (len : Int) : SysfsState × Int :=
  match buf with
  | none => (s, -einval)
  | some channel =>
    if s.current_mode = columbusIpcInvalid then (s, -einval)
    else if s.current_mode = ipcCommunicationPoll ∧ channel ≥ a7RfIpcChannelNum then (s, -einval)
    else if s.current_mode = ipcCommunicationInt ∧ channel ≥ ipcIrqChannelNum then (s, -einval)
    else ({ s with current_channel := channel }, len)

/-- The arguments `columbus_ipc_message_read` and `columbus_ipc_message_write` pass to
`columbus_ipc_get_channel`: partner, operation, mode, channel. -/
def SysfsState.messageArgs (s : SysfsState) : Int × Int × Int × Int :=
  (s.current_partner, s.current_operation, s.current_mode, s.current_channel)

/-- A write to one of the attributes, as `kstrtoint` parsed it. -/
inductive SysfsWrite
  | partner (buf : Option Int)
  | operation (buf : Option Int)
  | mode (buf : Option Int)
  | channel (buf : Option Int)
  | page (buf : Option Int)

/-- The globals after a write, whatever the handler returned. -/
def SysfsState.write (s : SysfsState) : SysfsWrite → SysfsState
  | .partner buf => (columbusIpcPartnerWrite s buf 0).1
  | .operation buf => (columbusIpcOperationWrite s buf 0).1
  | .mode buf => (columbusIpcModeWrite s buf 0).1
  | .channel buf => (columbusIpcChannelWrite s buf 0).1
  | .page buf => (pageStore s buf 0).1

/-- The globals after a sequence of writes from load. -/
def SysfsState.run (ws : List SysfsWrite) : SysfsState :=
  ws.foldl SysfsState.write SysfsState.init

/-! ## What the handlers keep -/

/-- What every sequence of writes keeps: partner, operation and mode are unset or valid, and the
channel is below 16. -/
def SysfsInv (s : SysfsState) : Prop :=
  (s.current_partner = columbusIpcInvalid ∨ s.current_partner = ipcPartnerRfDsp ∨
      s.current_partner = ipcPartnerPlcDsp) ∧
    (s.current_operation = columbusIpcInvalid ∨ s.current_operation = ipcSendOperation ∨
      s.current_operation = ipcReceiveOperation) ∧
    (s.current_mode = columbusIpcInvalid ∨ s.current_mode = ipcCommunicationInt ∨
      s.current_mode = ipcCommunicationPoll) ∧
    s.current_channel < a7RfIpcChannelNum

/-- A store keeps the invariant if storing any accepted value does. -/
theorem SysfsInv.of_sysfsStore {store : SysfsState → Int → SysfsState} {accept : Int → Prop}
    [DecidablePred accept] {s : SysfsState} (h : SysfsInv s)
    (hstore : ∀ v, accept v → SysfsInv (store s v)) (buf : Option Int) (len : Int) :
    SysfsInv (sysfsStore store accept s buf len).1 := by
  unfold sysfsStore
  rcases buf with _ | v
  · exact h
  · by_cases hv : accept v
    · simpa [hv] using hstore v hv
    · simpa [hv] using h

theorem SysfsInv.write {s : SysfsState} (h : SysfsInv s) (w : SysfsWrite) :
    SysfsInv (s.write w) := by
  obtain ⟨hp, ho, hm, hc⟩ := h
  cases w with
  | partner buf => exact SysfsInv.of_sysfsStore ⟨hp, ho, hm, hc⟩ (fun _ hv => ⟨.inr hv, ho, hm, hc⟩) buf 0
  | operation buf =>
    exact SysfsInv.of_sysfsStore ⟨hp, ho, hm, hc⟩ (fun _ hv => ⟨hp, .inr hv, hm, hc⟩) buf 0
  | mode buf => exact SysfsInv.of_sysfsStore ⟨hp, ho, hm, hc⟩ (fun _ hv => ⟨hp, ho, .inr hv, hc⟩) buf 0
  | page buf => exact SysfsInv.of_sysfsStore ⟨hp, ho, hm, hc⟩ (fun _ _ => ⟨hp, ho, hm, hc⟩) buf 0
  | channel buf =>
    simp only [SysfsState.write, columbusIpcChannelWrite]
    rcases buf with _ | v
    · exact ⟨hp, ho, hm, hc⟩
    · simp only [columbusIpcInvalid, ipcCommunicationPoll, ipcCommunicationInt, a7RfIpcChannelNum,
        ipcIrqChannelNum] at hm ⊢
      split_ifs
      · exact ⟨hp, ho, hm, hc⟩
      · exact ⟨hp, ho, hm, hc⟩
      · exact ⟨hp, ho, hm, hc⟩
      · exact ⟨hp, ho, hm, by simp only [a7RfIpcChannelNum]; omega⟩

theorem SysfsInv.run (ws : List SysfsWrite) : SysfsInv (SysfsState.run ws) := by
  suffices ∀ s, SysfsInv s → SysfsInv (ws.foldl SysfsState.write s) from
    this _ ⟨.inl rfl, .inl rfl, .inl rfl, by decide⟩
  induction ws with
  | nil => exact fun _ h => h
  | cons w ws ih => exact fun s h => ih _ (h.write w)

/-- After any sequence of writes, the tuple passed to `columbus_ipc_get_channel` passes its
checks exactly when partner, operation and mode have been set and the channel is unset, or is
not negative and, in interrupt mode, below 8: the handlers guarantee nothing else. -/
theorem getChannelPre_messageArgs_iff (ws : List SysfsWrite) :
    let a := (SysfsState.run ws).messageArgs
    GetChannelPre a.1 a.2.1 a.2.2.1 a.2.2.2 ↔
      a.1 ≠ columbusIpcInvalid ∧ a.2.1 ≠ columbusIpcInvalid ∧ a.2.2.1 ≠ columbusIpcInvalid ∧
        (a.2.2.2 = columbusIpcInvalid ∨
          (0 ≤ a.2.2.2 ∧ (a.2.2.1 = ipcCommunicationInt → a.2.2.2 < ipcIrqChannelNum))) := by
  obtain ⟨hp, ho, hm, hc⟩ := SysfsInv.run ws
  simp only [SysfsState.messageArgs, GetChannelPre, getMaxChannel]
  simp only [columbusIpcInvalid, ipcPartnerRfDsp, ipcPartnerPlcDsp, ipcSendOperation,
    ipcReceiveOperation, ipcCommunicationInt, ipcCommunicationPoll, ipcIrqChannelNum,
    a7RfIpcChannelNum] at hp ho hm hc ⊢
  split_ifs <;> omega

/-! ## A run past the checks -/

/-- Mode poll, partner RF, operation receive, then channel -5: every write is accepted, and the
tuple the next read of `message` passes to `columbus_ipc_get_channel` fails its checks. -/
theorem messageArgs_negative_channel :
    (SysfsState.run [.mode (some ipcCommunicationPoll), .partner (some ipcPartnerRfDsp),
        .operation (some ipcReceiveOperation), .channel (some (-5))]).messageArgs =
        (ipcPartnerRfDsp, ipcReceiveOperation, ipcCommunicationPoll, -5) ∧
      ¬ GetChannelPre ipcPartnerRfDsp ipcReceiveOperation ipcCommunicationPoll (-5) := by
  decide

end Columbus

end LinuxSampleDriver
