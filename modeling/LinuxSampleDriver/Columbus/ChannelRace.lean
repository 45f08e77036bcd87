import LinuxSampleDriver.Columbus.Channel

/-!
# Gets and puts from many threads

Any number of A7 threads get and put channels of both partners. A get is two steps: the claim
under the partner's table mutex, and the stamp `set_ipc_channel` after the mutex is dropped; a put
clears the slot under the mutex, and is made only on a handle its thread holds. Between the
steps of different threads everything interleaves.

The invariant `ChannelInv` ties the `used` flags to the live handles: a slot is used exactly when
one thread holds it, no two threads hold the same slot, a claimed slot is below the bound of its
mode, and a stamped slot carries its holder's partner, operation, mode and both magic words.
`ChannelInv.next` proves one step keeps it, and `channelTables_exclusive` reads the mutual
exclusion, the stamp and the first-fit claim off it for every reachable state.
-/

namespace LinuxSampleDriver

namespace Columbus

/-- Where a thread is in its use of one channel. -/
inductive ChannelThread
  | idle
  /-- the claim returned `h` and the mutex is dropped, `set_ipc_channel` has not run yet -/
  | claimed (h : Handle) (partner operation mode : Int)
  /-- `columbus_ipc_get_channel` returned `h` -/
  | holding (h : Handle)

/-- The handle a thread has, if any. -/
def ChannelThread.handle? : ChannelThread → Option Handle
  | .idle => none
  | .claimed h _ _ _ => some h
  | .holding h => some h

/-- The channel tables and the threads using them. -/
structure ChannelSys where
  chans : Channels
  thread : Nat → ChannelThread

/-- One step of one thread. -/
inductive ChannelAct
  | get (t : Nat) (partner operation mode appointed_channel : Int)
  | stamp (t : Nat)
  | put (t : Nat)

/-- The static tables before any call, and no thread in a call. -/
def ChannelSys.init : ChannelSys := ⟨fun _ _ => IpcChannel.zero, fun _ => .idle⟩

/-- A step; a thread not at the point where the step applies does nothing. -/
def ChannelSys.next (s : ChannelSys) : ChannelAct → ChannelSys
  | .get t partner operation mode appointed_channel =>
    match s.thread t with
    | .idle =>
      let r := getChannelClaim s.chans partner operation mode appointed_channel
      ⟨r.1, Function.update s.thread t
        (match r.2 with
          | some h => .claimed h partner operation mode
          | none => .idle)⟩
    | _ => s
  | .stamp t =>
    match s.thread t with
    | .claimed h partner operation mode =>
      ⟨stampChannel s.chans h partner operation mode, Function.update s.thread t (.holding h)⟩
    | _ => s
  | .put t =>
    match s.thread t with
    | .holding h => ⟨columbusIpcPutChannel s.chans h, Function.update s.thread t .idle⟩
    | _ => s

/-- The callers' side: a get passes arguments that satisfy `get_channel`'s checks. -/
def ChannelAct.Allowed : ChannelAct → Prop
  | .get _ partner operation mode appointed_channel =>
    GetChannelPre partner operation mode appointed_channel
  | _ => True

/-- The states some interleaving of allowed steps reaches. -/
inductive ChannelSys.Reachable : ChannelSys → Prop
  | init : ChannelSys.Reachable ChannelSys.init
  | step {s : ChannelSys} (a : ChannelAct) :
      ChannelSys.Reachable s → a.Allowed → ChannelSys.Reachable (s.next a)

/-- Some thread holds `h`, claimed or stamped. -/
def ChannelSys.Held (s : ChannelSys) (h : Handle) : Prop :=
  ∃ t, (s.thread t).handle? = some h

/-- A slot stamped for the handle that points at it: both magic words, a valid operation and
mode, its partner's table is the handle's table, and the handle is below the bound of its mode. -/
def StampedFor (c : IpcChannel) (h : Handle) : Prop :=
  c.magic_1 = columbusIpcReqMagic1 ∧ c.magic_2 = columbusIpcReqMagic2 ∧
    (c.partner = ipcPartnerRfDsp ∨ c.partner = ipcPartnerPlcDsp) ∧
    getChannels c.partner = h.table ∧
    (c.operation = ipcSendOperation ∨ c.operation = ipcReceiveOperation) ∧
    (c.mode = ipcCommunicationInt ∨ c.mode = ipcCommunicationPoll) ∧
    h.index < getMaxChannel c.operation c.mode ∧
    (c.mode = ipcCommunicationInt → h.index < ipcIrqChannelNum)

/-- The invariant of the channel tables. -/
structure ChannelInv (s : ChannelSys) : Prop where
  exclusive : ∀ t t' h, t ≠ t' → (s.thread t).handle? = some h → (s.thread t').handle? ≠ some h
  unused_iff : ∀ h, (s.chans.get h).used = ipcChannelUnused ↔ ¬ s.Held h
  claimed : ∀ t h partner operation mode, s.thread t = .claimed h partner operation mode →
    GetChannelPre partner operation mode columbusIpcInvalid ∧ h.table = getChannels partner ∧
      h.index < getMaxChannel operation mode
  holding : ∀ t h, s.thread t = .holding h → StampedFor (s.chans.get h) h

theorem ChannelInv.init : ChannelInv ChannelSys.init where
  exclusive _ _ _ _ h := by simp [ChannelSys.init, ChannelThread.handle?] at h
  unused_iff h := by
    simp [ChannelSys.init, ChannelSys.Held, ChannelThread.handle?, Channels.get, IpcChannel.zero,
      ipcChannelUnused]
  claimed _ _ _ _ _ h := by simp [ChannelSys.init] at h
  holding _ _ h := by simp [ChannelSys.init] at h

/-! ## One step -/

/-- Everything a claim can do: nothing, or mark one unused slot below the bound used and return
it. -/
theorem getChannelClaim_cases (chs : Channels) {partner operation mode appointed_channel : Int}
    (hpre : GetChannelPre partner operation mode appointed_channel) :
    getChannelClaim chs partner operation mode appointed_channel = (chs, none) ∨
      ∃ i, i < getMaxChannel operation mode ∧
        (chs.get ⟨getChannels partner, i⟩).used = ipcChannelUnused ∧
        getChannelClaim chs partner operation mode appointed_channel =
          (chs.set ⟨getChannels partner, i⟩
            { chs.get ⟨getChannels partner, i⟩ with used := ipcChannelUsed },
            some ⟨getChannels partner, i⟩) := by
  have hsame : Function.update chs (getChannels partner) (chs (getChannels partner)) = chs :=
    Function.update_eq_self _ _
  by_cases ha : appointed_channel ≠ columbusIpcInvalid
  · have hlt : appointed_channel.toNat < getMaxChannel operation mode := by
      rcases hpre.2.2.2 with h | ⟨h0, h1⟩
      · exact absurd h ha
      · omega
    by_cases hu : (chs (getChannels partner) appointed_channel.toNat).used = ipcChannelUnused
    · exact .inr ⟨_, hlt, hu, by simp only [getChannelClaim, getFreeChannel, if_pos ha, if_pos hu]; rfl⟩
    · exact .inl (by simp [getChannelClaim, getFreeChannel, ha, hu, hsame])
  · cases hscan : scanFreeChannel (chs (getChannels partner)) (getMaxChannel operation mode) 0
        (getMaxChannel operation mode) with
    | none => exact .inl (by simp [getChannelClaim, getFreeChannel, ha, hscan, hsame])
    | some i =>
      obtain ⟨-, hlt, hu, -⟩ := (scanFreeChannel_spec _ _ 0 _).1 i hscan
      exact .inr ⟨i, hlt, hu, by simp only [getChannelClaim, getFreeChannel, if_neg ha, hscan]; rfl⟩

theorem handle?_update (thread : Nat → ChannelThread) (t t' : Nat) (x : ChannelThread) :
    (Function.update thread t x t').handle? = if t' = t then x.handle? else (thread t').handle? := by
  by_cases h : t' = t
  · subst h; simp
  · simp [h]

/-- A thread that takes a handle takes one no other thread holds; the others keep theirs. -/
theorem ChannelInv.exclusive_update {s : ChannelSys} (hinv : ChannelInv s) {t : Nat}
    {x : ChannelThread} (hx : ∀ h, x.handle? = some h → (s.thread t).handle? = some h ∨ ¬ s.Held h) :
    ∀ t₁ t₂ h, t₁ ≠ t₂ → (Function.update s.thread t x t₁).handle? = some h →
      (Function.update s.thread t x t₂).handle? ≠ some h := by
  intro t₁ t₂ h hne h₁ h₂
  rw [handle?_update] at h₁ h₂
  split_ifs at h₁ h₂ with e₁ e₂ e₂
  · exact hne (e₁.trans e₂.symm)
  · rcases hx h h₁ with ht | hfree
    · exact hinv.exclusive t t₂ h (fun e => e₂ e.symm) ht h₂
    · exact hfree ⟨t₂, h₂⟩
  · rcases hx h h₂ with ht | hfree
    · exact hinv.exclusive t t₁ h (fun e => e₁ e.symm) ht h₁
    · exact hfree ⟨t₁, h₁⟩
  · exact hinv.exclusive t₁ t₂ h hne h₁ h₂

/-- Who holds what after thread `t` moves to `x`. -/
theorem held_update (s : ChannelSys) (chans : Channels) (t : Nat) (x : ChannelThread) (h : Handle) :
    ChannelSys.Held ⟨chans, Function.update s.thread t x⟩ h ↔
      x.handle? = some h ∨ ∃ t', t' ≠ t ∧ (s.thread t').handle? = some h := by
  simp only [ChannelSys.Held, handle?_update]
  constructor
  · rintro ⟨t', ht'⟩
    split_ifs at ht' with e
    · exact .inl ht'
    · exact .inr ⟨t', e, ht'⟩
  · rintro (hx | ⟨t', e, ht'⟩)
    · exact ⟨t, by simp [hx]⟩
    · exact ⟨t', by simp [e, ht']⟩

/-- The other threads hold what they held, less the handle of `t`. -/
theorem ChannelInv.held_others {s : ChannelSys} (hinv : ChannelInv s) {t : Nat} {h : Handle} :
    (∃ t', t' ≠ t ∧ (s.thread t').handle? = some h) ↔
      s.Held h ∧ (s.thread t).handle? ≠ some h := by
  constructor
  · rintro ⟨t', e, h'⟩
    exact ⟨⟨t', h'⟩, fun ht => hinv.exclusive t t' h (fun e' => e e'.symm) ht h'⟩
  · rintro ⟨⟨t', h'⟩, hne⟩
    exact ⟨t', fun e => hne (e ▸ h'), h'⟩

theorem ipcChannelUsed_ne_unused : ipcChannelUsed ≠ ipcChannelUnused := by decide

/-- A claim keeps the invariant: the slot it marks used was held by no thread. -/
theorem ChannelInv.next_get {s : ChannelSys} (hinv : ChannelInv s) {t : Nat}
    {partner operation mode appointed_channel : Int}
    (hpre : GetChannelPre partner operation mode appointed_channel) :
    ChannelInv (s.next (.get t partner operation mode appointed_channel)) := by
  cases hth : s.thread t with
  | claimed _ _ _ _ | holding _ => simpa only [ChannelSys.next, hth] using hinv
  | idle =>
  rcases getChannelClaim_cases s.chans hpre with hc | ⟨i, hlt, hu, hc⟩
  · have hsame : s.next (.get t partner operation mode appointed_channel) = s := by
      simp only [ChannelSys.next, hth, hc]
      rw [← hth, Function.update_eq_self]
    rwa [hsame]
  · generalize hTdef : (⟨getChannels partner, i⟩ : Handle) = hT at hu hc
    have hfree : ¬ s.Held hT := (hinv.unused_iff hT).mp hu
    have hnext : s.next (.get t partner operation mode appointed_channel) =
        ⟨s.chans.set hT { s.chans.get hT with used := ipcChannelUsed },
          Function.update s.thread t (.claimed hT partner operation mode)⟩ := by
      simp only [ChannelSys.next, hth, hc]
    have hheld : ∀ h, ChannelSys.Held (s.next (.get t partner operation mode appointed_channel)) h ↔
        h = hT ∨ s.Held h := fun h => by
      rw [hnext, held_update, hinv.held_others, hth]
      simp [ChannelThread.handle?, eq_comm]
    rw [hnext] at hheld ⊢
    refine ⟨hinv.exclusive_update fun h hx => .inr ?_, fun h => ?_, fun t' h p o m ht' => ?_,
      fun t' h ht' => ?_⟩
    · simp only [ChannelThread.handle?, Option.some.injEq] at hx
      exact hx ▸ hfree
    · rw [hheld h, Channels.get_set]
      by_cases e : h = hT
      · simp [e, ipcChannelUsed_ne_unused]
      · simp [e, hinv.unused_iff h]
    · dsimp only at ht'
      by_cases e : t' = t
      · subst e
        simp only [Function.update_same, ChannelThread.claimed.injEq] at ht'
        obtain ⟨rfl, rfl, rfl, rfl⟩ := ht'
        exact ⟨⟨hpre.1, hpre.2.1, hpre.2.2.1, .inl rfl⟩, hTdef ▸ rfl, hTdef ▸ hlt⟩
      · rw [Function.update_noteq e] at ht'
        exact hinv.claimed t' h p o m ht'
    · dsimp only at ht' ⊢
      by_cases e : t' = t
      · subst e
        simp at ht'
      · rw [Function.update_noteq e] at ht'
        have hne : h ≠ hT := fun e' => hfree ⟨t', by rw [ht', e']; rfl⟩
        simpa only [Channels.get_set, if_neg hne] using hinv.holding t' h ht'

/-- `set_ipc_channel` with arguments that passed `get_channel`'s checks stamps the slot for its
handle. -/
theorem stampedFor_setIpcChannel (c : IpcChannel) {h : Handle} {partner operation mode : Int}
    (hpre : GetChannelPre partner operation mode columbusIpcInvalid)
    (htable : h.table = getChannels partner) (hlt : h.index < getMaxChannel operation mode) :
    StampedFor (setIpcChannel c partner operation mode) h := by
  refine ⟨rfl, rfl, hpre.1, htable.symm, hpre.2.1, hpre.2.2.1, hlt, fun hm => ?_⟩
  simp only [setIpcChannel] at hm
  simpa [getMaxChannel, hm] using hlt

/-- The stamp keeps the invariant: only the stamping thread touches its slot. -/
theorem ChannelInv.next_stamp {s : ChannelSys} (hinv : ChannelInv s) (t : Nat) :
    ChannelInv (s.next (.stamp t)) := by
  cases hth : s.thread t with
  | idle | holding _ => simpa only [ChannelSys.next, hth] using hinv
  | claimed h partner operation mode =>
  obtain ⟨hpre, htable, hlt⟩ := hinv.claimed t h partner operation mode hth
  have hnext : s.next (.stamp t) =
      ⟨stampChannel s.chans h partner operation mode, Function.update s.thread t (.holding h)⟩ := by
    simp only [ChannelSys.next, hth]
  have hheld : ∀ h', ChannelSys.Held (s.next (.stamp t)) h' ↔ s.Held h' := fun h' => by
    rw [hnext, held_update, hinv.held_others, hth]
    simp only [ChannelThread.handle?, Option.some.injEq]
    exact ⟨fun e => e.elim (fun e => e ▸ ⟨t, by rw [hth]; rfl⟩) And.left,
      fun hh => (em (h = h')).imp id fun e => ⟨hh, fun e' => e (Option.some.inj e')⟩⟩
  rw [hnext] at hheld ⊢
  refine ⟨hinv.exclusive_update fun h' hx => .inl (by rw [hth]; exact hx), fun h' => ?_,
    fun t' h' p o m ht' => ?_, fun t' h' ht' => ?_⟩
  · rw [hheld h', ← hinv.unused_iff h', stampChannel, Channels.get_set]
    split_ifs with e
    · rw [e]; rfl
    · rfl
  · dsimp only at ht'
    by_cases e : t' = t
    · subst e; simp at ht'
    · rw [Function.update_noteq e] at ht'
      exact hinv.claimed t' h' p o m ht'
  · dsimp only at ht' ⊢
    by_cases e : t' = t
    · subst e
      simp only [Function.update_same, ChannelThread.holding.injEq] at ht'
      subst ht'
      simpa only [stampChannel, Channels.get_set, if_pos rfl] using
        stampedFor_setIpcChannel _ hpre htable hlt
    · rw [Function.update_noteq e] at ht'
      have hne : h' ≠ h := fun e' =>
        hinv.exclusive t t' h (fun e'' => e e''.symm) (by rw [hth]; rfl) (by rw [ht', e']; rfl)
      simpa only [stampChannel, Channels.get_set, if_neg hne] using hinv.holding t' h' ht'

/-- The put keeps the invariant: the cleared slot was held by its thread alone. -/
theorem ChannelInv.next_put {s : ChannelSys} (hinv : ChannelInv s) (t : Nat) :
    ChannelInv (s.next (.put t)) := by
  cases hth : s.thread t with
  | idle | claimed _ _ _ _ => simpa only [ChannelSys.next, hth] using hinv
  | holding h =>
  have hnext : s.next (.put t) =
      ⟨columbusIpcPutChannel s.chans h, Function.update s.thread t .idle⟩ := by
    simp only [ChannelSys.next, hth]
  have hheld : ∀ h', ChannelSys.Held (s.next (.put t)) h' ↔ s.Held h' ∧ h ≠ h' := fun h' => by
    rw [hnext, held_update, hinv.held_others, hth]
    simp [ChannelThread.handle?]
  rw [hnext] at hheld ⊢
  refine ⟨hinv.exclusive_update fun h' hx => by simp [ChannelThread.handle?] at hx, fun h' => ?_,
    fun t' h' p o m ht' => ?_, fun t' h' ht' => ?_⟩
  · rw [hheld h', columbusIpcPutChannel, Channels.get_set]
    split_ifs with e
    · subst e; simp [clearIpcChannel]
    · rw [hinv.unused_iff h']; simp [Ne.symm e]
  · dsimp only at ht'
    by_cases e : t' = t
    · subst e; simp at ht'
    · rw [Function.update_noteq e] at ht'
      exact hinv.claimed t' h' p o m ht'
  · dsimp only at ht' ⊢
    by_cases e : t' = t
    · subst e; simp at ht'
    · rw [Function.update_noteq e] at ht'
      have hne : h' ≠ h := fun e' =>
        hinv.exclusive t t' h (fun e'' => e e''.symm) (by rw [hth]; rfl) (by rw [ht', e']; rfl)
      simpa only [columbusIpcPutChannel, Channels.get_set, if_neg hne] using hinv.holding t' h' ht'

theorem ChannelInv.next {s : ChannelSys} (hinv : ChannelInv s) {a : ChannelAct}
    (ha : a.Allowed) : ChannelInv (s.next a) := by
  cases a with
  | get t partner operation mode appointed_channel => exact hinv.next_get ha
  | stamp t => exact hinv.next_stamp t
  | put t => exact hinv.next_put t

theorem ChannelSys.Reachable.inv {s : ChannelSys} (hs : s.Reachable) : ChannelInv s := by
  induction hs with
  | init => exact ChannelInv.init
  | step a _ ha ih => exact ih.next ha

/-! ## Mutual exclusion, stamps and first fit -/

/-- In every state an interleaving of gets and puts reaches: no slot of either table is held by
two threads; a stamped handle lies in the table of its stamped partner, with a valid operation
and mode, both magic words, and an index below the bound of its mode (below 8 in interrupt
mode); and a get without an index finds nothing only if every slot below the bound is held,
and otherwise claims the lowest slot no thread holds. -/
theorem channelTables_exclusive {s : ChannelSys} (hs : s.Reachable) :
    (∀ t t' h, t ≠ t' → (s.thread t).handle? = some h → (s.thread t').handle? ≠ some h) ∧
      (∀ t h, s.thread t = .holding h → StampedFor (s.chans.get h) h) ∧
      ∀ partner operation mode, GetChannelPre partner operation mode columbusIpcInvalid →
        ((getChannelClaim s.chans partner operation mode columbusIpcInvalid).2 = none ↔
          ∀ i, i < getMaxChannel operation mode → s.Held ⟨getChannels partner, i⟩) ∧
        ∀ h, (getChannelClaim s.chans partner operation mode columbusIpcInvalid).2 = some h →
          h.table = getChannels partner ∧ h.index < getMaxChannel operation mode ∧ ¬ s.Held h ∧
            ∀ i, i < h.index → s.Held ⟨getChannels partner, i⟩ := by
  have hinv := hs.inv
  refine ⟨hinv.exclusive, hinv.holding, fun partner operation mode _ => ?_⟩
  have hheld : ∀ i, (s.chans (getChannels partner) i).used ≠ ipcChannelUnused ↔
      s.Held ⟨getChannels partner, i⟩ := fun i => by
    rw [Ne, show s.chans (getChannels partner) i = s.chans.get ⟨getChannels partner, i⟩ from rfl,
      hinv.unused_iff, not_not]
  obtain ⟨hsome, hnone⟩ :=
    scanFreeChannel_spec (s.chans (getChannels partner)) (getMaxChannel operation mode) 0
      (getMaxChannel operation mode)
  have hclaim : (getChannelClaim s.chans partner operation mode columbusIpcInvalid).2 =
      (scanFreeChannel (s.chans (getChannels partner)) (getMaxChannel operation mode) 0
        (getMaxChannel operation mode)).map fun i => ⟨getChannels partner, i⟩ := by
    simp only [getChannelClaim, getFreeChannel, ne_eq, not_true_eq_false, if_false]
    split <;> simp_all
  rw [hclaim]
  constructor
  · rw [Option.map_eq_none']
    refine ⟨fun h i hi => (hheld i).mp (hnone h i (Nat.zero_le _) hi (by omega)), fun h => ?_⟩
    cases hscan : scanFreeChannel (s.chans (getChannels partner)) (getMaxChannel operation mode) 0
        (getMaxChannel operation mode) with
    | none => rfl
    | some j =>
      obtain ⟨-, hj, hu, -⟩ := hsome j hscan
      exact absurd ((hheld j).mpr (h j hj)) (not_not.mpr hu)
  · intro h hh
    obtain ⟨j, hscan, rfl⟩ := Option.map_eq_some'.mp hh
    obtain ⟨-, hj, hu, hlow⟩ := hsome j hscan
    exact ⟨rfl, hj, fun hh' => (hheld j).mpr hh' hu,
      fun i hi => (hheld i).mp (hlow i (Nat.zero_le _) hi)⟩

/-- Thread 0 after getting a poll-mode send channel of the RF partner. -/
def sampleChannelSys : ChannelSys :=
  (ChannelSys.init.next (.get 0 ipcPartnerRfDsp ipcSendOperation ipcCommunicationPoll
    columbusIpcInvalid)).next (.stamp 0)

theorem sampleChannelSys_stamped : StampedFor (sampleChannelSys.chans.get ⟨.rf, 0⟩) ⟨.rf, 0⟩ :=
  (channelTables_exclusive (.step (.stamp 0) (.step (.get 0 ipcPartnerRfDsp ipcSendOperation
    ipcCommunicationPoll columbusIpcInvalid) .init (show GetChannelPre _ _ _ _ by decide))
    trivial)).2.1 0 ⟨.rf, 0⟩ rfl

end Columbus

end LinuxSampleDriver
