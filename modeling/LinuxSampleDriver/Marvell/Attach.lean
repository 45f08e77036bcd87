import Mathlib.Logic.Function.Basic
import Mathlib.Data.List.Nodup

/-!
# Attaching and detaching ports of the Marvell IPC driver

Each IPC device keeps the list `open_ports` of attached ports and a count `open_count`; its
interrupt handler is requested when the first port is attached and freed when the last one is
detached. `ipc_attach` first looks for a port with the same number in `find_device_port`, which
takes and releases `list_sem`, and then takes `list_sem` again to allocate and insert the new
port. `ipc_detach` removes, under `list_sem`, the first port of the list with the handle's port
number.

Every `list_sem` section is one step here, and the steps of different threads interleave. The
count, the list and the interrupt stay in step over every run (`AttachInv`), but the window between
the two sections of an attach lets two attaches of one port number both insert
(`ipcAttach_duplicate_port`). That window is the whole of it: in runs where each attach's two
sections follow each other, port numbers stay distinct on every device, every handle a thread holds
is a port on its device's list and no other thread's, so a detach frees its caller's own port
(`ipcSys_serial_handles`).
-/

namespace LinuxSampleDriver

namespace Marvell

/-- The fields of `ipc_port_config_t` the list code reads: the device it belongs to and its port
number. `id` stands for the address `kmalloc` returned, telling apart two ports with the same
number. -/
structure IpcPort where
  id : Nat
  ipc_device : Nat
  port_number : Nat
  deriving DecidableEq, Repr

/-- The fields of `ipc_device_config_t` the attach and detach code reads and writes;
`irq_requested` records whether `request_irq` was called and not yet matched by `free_irq`. -/
structure IpcDevice where
  open_ports : List IpcPort
  open_count : Int
  irq_requested : Bool
  deriving DecidableEq, Repr

/-- A device as `ipc_platform_probe` leaves it. -/
def IpcDevice.probed : IpcDevice := ⟨[], 0, false⟩

/-- Where a thread is in `ipc_attach` or after it. -/
inductive AttachThread
  | idle
  /-- `find_device_port` found no port with this number; `list_sem` is free again -/
  | notFound (device_index port_number : Nat)
  /-- the call returned this handle -/
  | returned (port : Option IpcPort)

/-- The device table `ipc_devices[0 .. num_ipc_devices)`, the next address `kmalloc` hands out,
and the threads. -/
structure IpcSys where
  ipc_devices : List IpcDevice
  next_id : Nat
  thread : Nat → AttachThread

/-- One `list_sem` section of one thread. -/
inductive IpcAct
  /-- `ipc_attach` up to and including `find_device_port` -/
  | attachFind (t device_index port_number : Nat)
  /-- the section of `ipc_attach` that allocates and inserts; `kmalloc_ok` is whether `kmalloc`
  returned memory -/
  | attachInsert (t : Nat) (kmalloc_ok : Bool)
  /-- `ipc_detach` on the handle the thread holds -/
  | detach (t : Nat)

/-- `find_device_port`: the first port of the list with this number. -/
def findDevicePort (device : IpcDevice) (port_number : Nat) : Option IpcPort :=
  device.open_ports.find? fun p => p.port_number = port_number

/-- The list with its first port of this number removed (`list_del` in the loop of
`ipc_detach`), if there is one. -/
def removeFirstPort : List IpcPort → Nat → Option (List IpcPort)
  | [], _ => none
  | p :: ps, port_number =>
    if p.port_number = port_number then some ps
    else (removeFirstPort ps port_number).map (p :: ·)

/-- The insert section of `ipc_attach` on a device, for a port that `kmalloc` returned. -/
def attachInsert (device : IpcDevice) (port : IpcPort) : IpcDevice :=
  { open_ports := device.open_ports ++ [port],
    open_count := device.open_count + 1,
    irq_requested := if device.open_count = 0 then true else device.irq_requested }

/-- The section of `ipc_detach` on a device: remove the first port with the number, and free the
interrupt if the count drops to zero; `none` if no port has that number. -/
def detachPort (device : IpcDevice) (port_number : Nat) : Option IpcDevice :=
  (removeFirstPort device.open_ports port_number).map fun ports =>
    { open_ports := ports,
      open_count := device.open_count - 1,
      irq_requested := if device.open_count - 1 = 0 then false else device.irq_requested }

/-- A step; a thread not at the point where the step applies does nothing. -/
def IpcSys.next (s : IpcSys) : IpcAct → IpcSys
  | .attachFind t device_index port_number =>
    match s.thread t with
    | .idle =>
      match s.ipc_devices[device_index]? with
      | none => { s with thread := Function.update s.thread t (.returned none) }
      | some device =>
        match findDevicePort device port_number with
        | some _ => { s with thread := Function.update s.thread t (.returned none) }
        | none => { s with thread := Function.update s.thread t (.notFound device_index port_number) }
    | _ => s
  | .attachInsert t kmalloc_ok =>
    match s.thread t with
    | .notFound device_index port_number =>
      match s.ipc_devices[device_index]?, kmalloc_ok with
      | some device, true =>
        let port : IpcPort := ⟨s.next_id, device_index, port_number⟩
        { ipc_devices := s.ipc_devices.set device_index (attachInsert device port),
          next_id := s.next_id + 1,
          thread := Function.update s.thread t (.returned (some port)) }
      | _, _ => { s with thread := Function.update s.thread t (.returned none) }
    | _ => s
  | .detach t =>
    match s.thread t with
    | .returned (some port) =>
      match s.ipc_devices[port.ipc_device]? with
      | some device =>
        match detachPort device port.port_number with
        | some device' =>
          { s with ipc_devices := s.ipc_devices.set port.ipc_device device',
                   thread := Function.update s.thread t .idle }
        | none => { s with thread := Function.update s.thread t .idle }
      | none => { s with thread := Function.update s.thread t .idle }
    | _ => s

/-- The steps in order. -/
def IpcSys.run (s : IpcSys) (acts : List IpcAct) : IpcSys := acts.foldl IpcSys.next s

/-! ## What every run keeps -/

/-- A device's count is the length of its list, and its interrupt is requested exactly while the
count is positive. -/
def DeviceInv (device : IpcDevice) : Prop :=
  device.open_count = device.open_ports.length ∧ (device.irq_requested = true ↔ 0 < device.open_count)

/-- Every device keeps `DeviceInv`. -/
def AttachInv (s : IpcSys) : Prop := ∀ device ∈ s.ipc_devices, DeviceInv device

theorem removeFirstPort_length : ∀ {ports ports' : List IpcPort} {port_number : Nat},
    removeFirstPort ports port_number = some ports' → ports'.length + 1 = ports.length
  | [], _, _, h => by cases h
  | p :: ps, ports', port_number, h => by
    unfold removeFirstPort at h
    split_ifs at h
    · cases h; rfl
    · obtain ⟨ps', hps', rfl⟩ := Option.map_eq_some'.mp h
      simpa using removeFirstPort_length hps'

theorem DeviceInv.attachInsert {device : IpcDevice} (h : DeviceInv device) (port : IpcPort) :
    DeviceInv (attachInsert device port) := by
  obtain ⟨hc, hi⟩ := h
  have hpos : 0 ≤ device.open_count := by omega
  refine ⟨by simp [Marvell.attachInsert, hc], ?_⟩
  simp only [Marvell.attachInsert]
  split_ifs with h0
  · exact iff_of_true rfl (by omega)
  · rw [hi]
    omega

theorem DeviceInv.detachPort {device device' : IpcDevice} (h : DeviceInv device)
    {port_number : Nat} (hd : detachPort device port_number = some device') : DeviceInv device' := by
  obtain ⟨hc, hi⟩ := h
  obtain ⟨ports, hports, rfl⟩ := Option.map_eq_some'.mp hd
  have hlen := removeFirstPort_length hports
  refine ⟨by simp only; omega, ?_⟩
  simp only
  split_ifs with h0
  · exact iff_of_false not_false (by omega)
  · rw [hi]
    omega

theorem AttachInv.set {s : IpcSys} (h : AttachInv s) {i : Nat} {device : IpcDevice}
    (hd : DeviceInv device) : ∀ d ∈ s.ipc_devices.set i device, DeviceInv d := fun d hmem =>
  (List.mem_or_eq_of_mem_set hmem).elim (h d) (fun e => e ▸ hd)

/-- Everything a step does to the device table: nothing, or it replaces one device by one that
keeps `DeviceInv`. -/
theorem IpcSys.next_devices (s : IpcSys) (a : IpcAct) :
    (s.next a).ipc_devices = s.ipc_devices ∨
      ∃ i device device', s.ipc_devices[i]? = some device ∧
        (DeviceInv device → DeviceInv device') ∧
        (s.next a).ipc_devices = s.ipc_devices.set i device' := by
  cases a with
  | attachFind t device_index port_number =>
    left
    cases hth : s.thread t <;> simp only [IpcSys.next, hth]
    split
    · rfl
    · split <;> rfl
  | attachInsert t kmalloc_ok =>
    cases hth : s.thread t with
    | notFound device_index port_number =>
      cases hdev : s.ipc_devices[device_index]? with
      | none => left; simp [IpcSys.next, hth, hdev]
      | some device =>
        cases kmalloc_ok
        · left; simp [IpcSys.next, hth, hdev]
        · exact .inr ⟨_, device, _, hdev, fun h => h.attachInsert ⟨s.next_id, device_index, port_number⟩,
            by simp [IpcSys.next, hth, hdev]⟩
    | idle | returned _ => left; simp [IpcSys.next, hth]
  | detach t =>
    cases hth : s.thread t with
    | returned port =>
      cases port with
      | none => left; simp [IpcSys.next, hth]
      | some port =>
        cases hdev : s.ipc_devices[port.ipc_device]? with
        | none => left; simp [IpcSys.next, hth, hdev]
        | some device =>
          cases hd : detachPort device port.port_number with
          | none => left; simp [IpcSys.next, hth, hdev, hd]
          | some device' =>
            exact .inr ⟨_, device, device', hdev, fun h => h.detachPort hd,
              by simp [IpcSys.next, hth, hdev, hd]⟩
    | idle | notFound _ _ => left; simp [IpcSys.next, hth]

theorem AttachInv.next {s : IpcSys} (h : AttachInv s) (a : IpcAct) : AttachInv (s.next a) := by
  rcases s.next_devices a with e | ⟨i, device, device', hdev, hkeep, e⟩
  · rw [AttachInv, e]; exact h
  · rw [AttachInv, e]
    exact h.set (hkeep (h device (List.getElem?_mem hdev)))

/-- Over every interleaving of attach and detach sections from freshly probed devices, each
device's count equals the length of its list and its interrupt is requested exactly while the
count is positive. -/
theorem AttachInv.run {s : IpcSys} (h : AttachInv s) (acts : List IpcAct) :
    AttachInv (s.run acts) := by
  induction acts generalizing s with
  | nil => exact h
  | cons a acts ih => exact ih (h.next a)

theorem attachInv_probed (n : Nat) (thread : Nat → AttachThread) (next_id : Nat) :
    AttachInv ⟨List.replicate n IpcDevice.probed, next_id, thread⟩ := fun d hd => by
  rw [List.eq_of_mem_replicate hd]
  exact ⟨rfl, by simp [IpcDevice.probed]⟩

/-- From freshly probed devices, over every interleaving of attach and detach sections, each
device's `open_count` is the length of its list and its interrupt is requested exactly while the
count is positive. -/
theorem ipcSys_deviceInv (n next_id : Nat) (thread : Nat → AttachThread) (acts : List IpcAct) :
    ∀ device ∈ (IpcSys.run ⟨List.replicate n IpcDevice.probed, next_id, thread⟩ acts).ipc_devices,
      DeviceInv device :=
  (attachInv_probed n thread next_id).run acts

/-- One device, after one attach of port 5. -/
theorem ipcSys_deviceInv_port5 :
    (⟨[⟨0, 0, 5⟩], 1, true⟩ : IpcDevice) ∈ (IpcSys.run ⟨[IpcDevice.probed], 0, fun _ => .idle⟩
        [.attachFind 0 0 5, .attachInsert 0 true]).ipc_devices ∧
      DeviceInv ⟨[⟨0, 0, 5⟩], 1, true⟩ :=
  have hmem : (⟨[⟨0, 0, 5⟩], 1, true⟩ : IpcDevice) ∈ (IpcSys.run
      ⟨List.replicate 1 IpcDevice.probed, 0, fun _ => .idle⟩
      [.attachFind 0 0 5, .attachInsert 0 true]).ipc_devices := by decide
  ⟨hmem, ipcSys_deviceInv 1 0 _ _ _ hmem⟩

/-! ## Two attaches of one port -/

/-- Two threads attach port 5 of one device: both look it up before either inserts, and both
insert. -/
theorem ipcAttach_duplicate_port :
    ((IpcSys.run ⟨[IpcDevice.probed], 0, fun _ => .idle⟩
        [.attachFind 0 0 5, .attachFind 1 0 5, .attachInsert 0 true, .attachInsert 1 true]).ipc_devices.map
      fun d => d.open_ports.map IpcPort.port_number) = [[5, 5]] := by
  decide

/-! ## Attaches that do not overlap -/

/-- A call as one unit: an attach whose two `list_sem` sections run back to back, or a detach. -/
inductive SerialCall
  | attach (t device_index port_number : Nat) (kmalloc_ok : Bool)
  | detach (t : Nat)

/-- The sections a call runs. -/
def SerialCall.acts : SerialCall → List IpcAct
  | .attach t device_index port_number kmalloc_ok =>
    [.attachFind t device_index port_number, .attachInsert t kmalloc_ok]
  | .detach t => [.detach t]

/-- What calls that do not overlap keep. -/
structure SerialInv (s : IpcSys) : Prop where
  /-- no thread is stopped between the two sections of an attach -/
  no_window : ∀ t device_index port_number, s.thread t ≠ .notFound device_index port_number
  /-- on every device no two ports share a number -/
  nodup : ∀ device ∈ s.ipc_devices, (device.open_ports.map IpcPort.port_number).Nodup
  /-- every port on a list came from an earlier `kmalloc` -/
  fresh : ∀ device ∈ s.ipc_devices, ∀ p ∈ device.open_ports, p.id < s.next_id
  /-- a handle a thread holds is a port on its device's list -/
  held : ∀ t port, s.thread t = .returned (some port) →
    ∃ device, s.ipc_devices[port.ipc_device]? = some device ∧ port ∈ device.open_ports
  /-- no two threads hold one port -/
  one_holder : ∀ t t' port, s.thread t = .returned (some port) →
    s.thread t' = .returned (some port) → t = t'

theorem IpcSys.run_append (s : IpcSys) (acts acts' : List IpcAct) :
    s.run (acts ++ acts') = (s.run acts).run acts' :=
  List.foldl_append _ _ _ _

theorem removeFirstPort_sublist : ∀ {ports ports' : List IpcPort} {port_number : Nat},
    removeFirstPort ports port_number = some ports' → ports'.Sublist ports
  | [], _, _, h => by cases h
  | p :: ps, ports', port_number, h => by
    unfold removeFirstPort at h
    split_ifs at h
    · cases h; exact List.sublist_cons_self p ps
    · obtain ⟨ps', hps', rfl⟩ := Option.map_eq_some'.mp h
      exact (removeFirstPort_sublist hps').cons_cons p

/-- `list_del` takes out only a port of the number. -/
theorem removeFirstPort_mem : ∀ {ports ports' : List IpcPort} {port_number : Nat},
    removeFirstPort ports port_number = some ports' →
      ∀ q ∈ ports, q.port_number ≠ port_number → q ∈ ports'
  | [], _, _, h => by cases h
  | p :: ps, ports', port_number, h => by
    intro q hq hne
    unfold removeFirstPort at h
    split_ifs at h with hp
    · cases h
      exact (List.mem_cons.mp hq).resolve_left fun e => hne (e ▸ hp)
    · obtain ⟨ps', hps', rfl⟩ := Option.map_eq_some'.mp h
      rcases List.mem_cons.mp hq with rfl | hq
      · exact List.mem_cons_self _ _
      · exact List.mem_cons_of_mem _ (removeFirstPort_mem hps' q hq hne)

/-- An insert after `find_device_port` found no port of the number keeps the numbers distinct. -/
theorem nodup_attachInsert {device : IpcDevice} {port : IpcPort}
    (hfind : findDevicePort device port.port_number = none)
    (h : (device.open_ports.map IpcPort.port_number).Nodup) :
    ((attachInsert device port).open_ports.map IpcPort.port_number).Nodup := by
  have hnot : port.port_number ∉ device.open_ports.map IpcPort.port_number := fun hm => by
    obtain ⟨q, hq, he⟩ := List.mem_map.mp hm
    exact List.find?_eq_none.mp hfind q hq (decide_eq_true he)
  simpa only [attachInsert, List.map_append, List.map_singleton, List.concat_eq_append] using
    h.concat hnot

theorem nodup_detachPort {device device' : IpcDevice} {port_number : Nat}
    (hd : detachPort device port_number = some device')
    (h : (device.open_ports.map IpcPort.port_number).Nodup) :
    (device'.open_ports.map IpcPort.port_number).Nodup := by
  obtain ⟨ports, hports, rfl⟩ := Option.map_eq_some'.mp hd
  exact h.sublist ((removeFirstPort_sublist hports).map _)

/-- A port on its device's list stays there when one entry of the table is replaced by a device
that keeps it. -/
theorem held_set {devices : List IpcDevice} {i : Nat} {device device' : IpcDevice} {port : IpcPort}
    (hdev : devices[i]? = some device)
    (hheld : ∃ d, devices[port.ipc_device]? = some d ∧ port ∈ d.open_ports)
    (hkeep : port ∈ device.open_ports → port ∈ device'.open_ports) :
    ∃ d, (devices.set i device')[port.ipc_device]? = some d ∧ port ∈ d.open_ports := by
  obtain ⟨d, hd, hp⟩ := hheld
  by_cases hi : port.ipc_device = i
  · rw [hi, hdev] at hd
    cases hd
    exact ⟨_, by rw [hi]; exact List.getElem?_set_self (List.getElem?_eq_some_iff.mp hdev).1,
      hkeep hp⟩
  · exact ⟨d, (List.getElem?_set_ne (Ne.symm hi)).trans hd, hp⟩

section Serial

variable {s : IpcSys}

/-- A thread that ends a call holding nothing: `idle` after a detach, or `NULL` returned. -/
theorem SerialInv.setThread (h : SerialInv s) (t : Nat) {x : AttachThread}
    (hx : ∀ d p, x ≠ .notFound d p) (hnone : ∀ port, x ≠ .returned (some port)) :
    SerialInv { s with thread := Function.update s.thread t x } where
  no_window t' d p := by
    by_cases ht : t' = t
    · subst ht; simpa using hx d p
    · simpa [ht] using h.no_window t' d p
  nodup := h.nodup
  fresh := h.fresh
  held t' port := by
    by_cases ht : t' = t
    · subst ht; simpa using fun e => absurd e (hnone port)
    · simpa [ht] using h.held t' port
  one_holder t₁ t₂ port h₁ h₂ := by
    by_cases ht₁ : t₁ = t
    · subst ht₁; exact absurd (by simpa using h₁) (hnone port)
    by_cases ht₂ : t₂ = t
    · subst ht₂; exact absurd (by simpa using h₂) (hnone port)
    exact h.one_holder t₁ t₂ port (by simpa [ht₁] using h₁) (by simpa [ht₂] using h₂)

/-- The insert section after a lookup that found nothing: the new port is the caller's alone. -/
theorem SerialInv.insert (h : SerialInv s) {t device_index port_number : Nat}
    {device : IpcDevice} (hdev : s.ipc_devices[device_index]? = some device)
    (hf : findDevicePort device port_number = none) :
    SerialInv { ipc_devices := s.ipc_devices.set device_index
                  (attachInsert device ⟨s.next_id, device_index, port_number⟩),
                next_id := s.next_id + 1,
                thread := Function.update s.thread t
                  (.returned (some ⟨s.next_id, device_index, port_number⟩)) } := by
  have hlt : device_index < s.ipc_devices.length := (List.getElem?_eq_some_iff.mp hdev).1
  have hmem : device ∈ s.ipc_devices := List.getElem?_mem hdev
  /- a thread now holds the new port, or a port it held before, which is older -/
  have hholds : ∀ t' port, Function.update s.thread t
      (.returned (some ⟨s.next_id, device_index, port_number⟩)) t' = .returned (some port) →
      t' = t ∧ port = ⟨s.next_id, device_index, port_number⟩ ∨
        s.thread t' = .returned (some port) ∧ port.id < s.next_id := by
    intro t' port ht'
    by_cases ht : t' = t
    · subst ht
      simp only [Function.update_same, AttachThread.returned.injEq, Option.some.injEq] at ht'
      exact .inl ⟨rfl, ht'.symm⟩
    · simp only [Function.update_noteq ht] at ht'
      obtain ⟨d, hd, hp⟩ := h.held t' port ht'
      exact .inr ⟨ht', h.fresh d (List.getElem?_mem hd) port hp⟩
  refine ⟨fun t' d p => ?_, fun d hd => ?_, fun d hd q hq => ?_, fun t' port ht' => ?_,
    fun t₁ t₂ port h₁ h₂ => ?_⟩
  · by_cases ht : t' = t
    · subst ht; simp
    · simpa [ht] using h.no_window t' d p
  · rcases List.mem_or_eq_of_mem_set hd with hd | rfl
    · exact h.nodup d hd
    · exact nodup_attachInsert hf (h.nodup device hmem)
  · rcases List.mem_or_eq_of_mem_set hd with hd | rfl
    · exact Nat.lt_succ_of_lt (h.fresh d hd q hq)
    · simp only [attachInsert, List.mem_append, List.mem_singleton] at hq
      rcases hq with hq | rfl
      · exact Nat.lt_succ_of_lt (h.fresh device hmem q hq)
      · exact Nat.lt_succ_self _
  · rcases hholds t' port ht' with ⟨-, rfl⟩ | ⟨ht', -⟩
    · exact ⟨_, List.getElem?_set_self hlt, by simp [attachInsert]⟩
    · exact held_set hdev (h.held t' port ht') fun hp => by simp [attachInsert, hp]
  · rcases hholds _ _ h₁ with ⟨rfl, rfl⟩ | ⟨h₁, hl₁⟩ <;>
      rcases hholds _ _ h₂ with ⟨rfl, hp⟩ | ⟨h₂, hl₂⟩
    · rfl
    · exact absurd hl₂ (Nat.lt_irrefl _)
    · subst hp; exact absurd hl₁ (Nat.lt_irrefl _)
    · exact h.one_holder _ _ _ h₁ h₂

/-- The detach section on a handle the caller holds takes out that port and no other thread's. -/
theorem SerialInv.remove (h : SerialInv s) {t : Nat} {port : IpcPort}
    {device device' : IpcDevice} (hth : s.thread t = .returned (some port))
    (hdev : s.ipc_devices[port.ipc_device]? = some device)
    (hd : detachPort device port.port_number = some device') :
    SerialInv { s with ipc_devices := s.ipc_devices.set port.ipc_device device',
                       thread := Function.update s.thread t .idle } := by
  obtain ⟨ports, hports, rfl⟩ := Option.map_eq_some'.mp hd
  have hmem : device ∈ s.ipc_devices := List.getElem?_mem hdev
  have hquiet := h.setThread t (x := .idle) nofun nofun
  refine ⟨hquiet.no_window, fun d hd' => ?_, fun d hd' q hq => ?_, fun t' q ht' => ?_,
    hquiet.one_holder⟩
  · rcases List.mem_or_eq_of_mem_set hd' with hd' | rfl
    · exact h.nodup d hd'
    · exact nodup_detachPort hd (h.nodup device hmem)
  · rcases List.mem_or_eq_of_mem_set hd' with hd' | rfl
    · exact h.fresh d hd' q hq
    · exact h.fresh device hmem q ((removeFirstPort_sublist hports).subset hq)
  · have ht : t' ≠ t := by rintro rfl; simp at ht'
    simp only [Function.update_noteq ht] at ht'
    refine held_set hdev (h.held t' q ht') fun hq => removeFirstPort_mem hports q hq fun e => ?_
    /- the caller's port is on the list too, and numbers are distinct there -/
    obtain ⟨d, hd', hp⟩ := h.held t port hth
    rw [hdev] at hd'
    cases hd'
    exact ht (h.one_holder t' t port
      (List.inj_on_of_nodup_map (h.nodup device hmem) hq hp e ▸ ht') hth)

/-- An attach whose sections run back to back: lookup and insert see the same list. -/
theorem SerialInv.attach (h : SerialInv s) (t device_index port_number : Nat)
    (kmalloc_ok : Bool) :
    SerialInv ((s.next (.attachFind t device_index port_number)).next
      (.attachInsert t kmalloc_ok)) := by
  cases hth : s.thread t with
  | notFound d p => exact absurd hth (h.no_window t d p)
  | returned port => simpa only [IpcSys.next, hth] using h
  | idle =>
    have hnull := h.setThread t (x := .returned none) nofun nofun
    cases hdev : s.ipc_devices[device_index]? with
    | none => simpa [IpcSys.next, hth, hdev] using hnull
    | some device =>
      cases hf : findDevicePort device port_number with
      | some _ => simpa [IpcSys.next, hth, hdev, hf] using hnull
      | none =>
        cases kmalloc_ok
        · simpa [IpcSys.next, hth, hdev, hf] using hnull
        · simpa [IpcSys.next, hth, hdev, hf] using h.insert (t := t) hdev hf

theorem SerialInv.detach (h : SerialInv s) (t : Nat) : SerialInv (s.next (.detach t)) := by
  have hidle := h.setThread t (x := .idle) nofun nofun
  cases hth : s.thread t with
  | returned port =>
    cases port with
    | none => simpa only [IpcSys.next, hth] using h
    | some port =>
      cases hdev : s.ipc_devices[port.ipc_device]? with
      | none => simpa [IpcSys.next, hth, hdev] using hidle
      | some device =>
        cases hd : detachPort device port.port_number with
        | none => simpa [IpcSys.next, hth, hdev, hd] using hidle
        | some device' => simpa [IpcSys.next, hth, hdev, hd] using h.remove hth hdev hd
  | idle | notFound _ _ => simpa only [IpcSys.next, hth] using h

theorem SerialInv.call (h : SerialInv s) : ∀ c : SerialCall, SerialInv (s.run c.acts)
  | .attach t device_index port_number kmalloc_ok => h.attach t device_index port_number kmalloc_ok
  | .detach t => h.detach t

theorem SerialInv.calls (h : SerialInv s) (calls : List SerialCall) :
    SerialInv (s.run (calls.flatMap SerialCall.acts)) := by
  induction calls generalizing s with
  | nil => exact h
  | cons c calls ih => rw [List.flatMap_cons, IpcSys.run_append]; exact ih (h.call c)

end Serial

/-- Freshly probed devices and idle threads: no lists, no handles. -/
theorem serialInv_probed (n next_id : Nat) :
    SerialInv ⟨List.replicate n IpcDevice.probed, next_id, fun _ => .idle⟩ where
  no_window _ _ _ h := AttachThread.noConfusion h
  nodup d hd := by rw [List.eq_of_mem_replicate hd]; exact List.nodup_nil
  fresh d hd q hq := by rw [List.eq_of_mem_replicate hd] at hq; cases hq
  held _ _ h := AttachThread.noConfusion h
  one_holder _ _ _ h := AttachThread.noConfusion h

/-- From freshly probed devices and idle threads, over every sequence of calls in which each
attach's lookup and insert follow each other (the detaches anywhere): no device holds two ports
with one number, every handle a thread holds is a port on its device's list, and no two threads
hold the same port. A detach therefore frees its caller's own port. -/
theorem ipcSys_serial_handles (n next_id : Nat) (calls : List SerialCall) :
    let s := IpcSys.run ⟨List.replicate n IpcDevice.probed, next_id, fun _ => .idle⟩
      (calls.flatMap SerialCall.acts)
    (∀ device ∈ s.ipc_devices, (device.open_ports.map IpcPort.port_number).Nodup) ∧
      (∀ t port, s.thread t = .returned (some port) →
        ∃ device, s.ipc_devices[port.ipc_device]? = some device ∧ port ∈ device.open_ports) ∧
      (∀ t t' port, s.thread t = .returned (some port) → s.thread t' = .returned (some port) →
        t = t') := by
  have h := (serialInv_probed n next_id).calls calls
  exact ⟨h.nodup, h.held, h.one_holder⟩

end Marvell

end LinuxSampleDriver
