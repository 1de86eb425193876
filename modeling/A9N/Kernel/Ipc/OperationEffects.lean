import A9N.Kernel.Ipc.Effects

/-!
# The effects of the operations

Which permissions each operation needs: those of the process that made it, of the process it finds
at the head of a queue, of the caller it answers or drops, and of the target of a control-block
operation.
-/

namespace A9N.Kernel

open Hal Outcome

namespace SystemState

open ProcState

variable {e : Entry} {may : Access → Prop} {owner target : ProcessId} {start st : SystemState}

/-! ## Ports that an operation finds as it left them -/

theorem discardReply_ports (owner : ProcessId) (st : SystemState) :
    (st.discardReply e owner).state.ports = st.ports := by
  have hcancelled : ∀ client, (st.cancelReply e client true).state.ports = st.ports := by
    intro client
    unfold SystemState.cancelReply
    apply (completeRevokedWait_frame client _).2.1.trans
    unfold dropReply forgetClient
    split
    · split <;> rfl
    · rfl
  unfold discardReply
  split
  · rfl
  · apply andThen_keeps (P := fun state : SystemState => state.ports = st.ports)
    · split
      · exact hcancelled _
      · rfl
    · exact fun _ _ hdone => hdone

theorem completeReply_ports (enqueue : Bool) (owner : ProcessId) (info : Word) (st : SystemState) :
    (st.completeReply e enqueue owner info).Post (fun _ st' => st'.ports = st.ports)
      fun _ _ => True := by
  unfold completeReply
  split
  · rfl
  · split
    · trivial
    next client _ =>
      unfold replyTo
      split
      · apply Outcome.Post.andThen (Q := fun _ st' => st'.ports = st.ports)
        · have halike := (Alike.refl st).applyInvalidKernelCallReplyContext (e := e) owner client info
          exact post_true_of_state halike.ports
        · intro _ st1 hports
          unfold completeFaultReplyWithoutMessageTransfer
          exact Outcome.Post.transformError (post_true_of_state hports)
      · apply Outcome.Post.andThen (Q := fun _ st' => st'.ports = st.ports)
        · exact (transferDirectMessage_post client owner info st).mono (fun _ _ h => h.ports)
            fun _ _ _ => trivial
        · intro _ st1 hports
          dsimp only
          split
          · exact Outcome.Post.transformError (post_true_of_state hports)
          · exact hports

theorem affinity_of_repliesDirectly {client : ProcessId} {port info : Word}
    (hclient : (st.contexts owner).destinationReplyTarget = some client)
    (hdirect : st.repliesDirectly e owner port info = true) :
    st.proc.affinity e.platform client = st.proc.affinity e.platform owner := by
  unfold SystemState.repliesDirectly at hdirect
  rw [hclient] at hdirect
  have hcore := (of_decide_eq_true hdirect).2.2.2.2.1
  unfold ProcState.affinity
  split
  next hsmp => rw [hcore.resolve_left (by simp [hsmp])]
  · rfl

structure Walk (e : Entry) (may : Access → Prop) (speaks : ProcessId → Prop) where
  drops : ProcessId → Prop
  inv : Invariant may
  before : Invariant may
  now : ∀ {st}, Keeps before st → Keeps inv st
  neighbour : ∀ {st owner client}, Keeps inv st → speaks owner →
    st.proc.affinity e.platform client = st.proc.affinity e.platform owner → speaks client
  schedule : ∀ {st}, Keeps inv st → Keeps inv
    (st.onProc fun proc => proc.tryScheduleAndSwitch e.platform e.root e.core).state
  leave : ∀ {st owner}, Keeps inv st → speaks owner → Keeps inv
    (st.onProc fun proc => proc.tryScheduleAndSwitchFor e.platform e.root owner).state
  wake : ∀ {st current target}, Keeps inv st → speaks current → Moves may target → Keeps inv
    (st.onProc fun proc => proc.markScheduled e.platform e.sendIpi current target).state
  drop : ∀ {st target}, Keeps inv st → drops target → Moves may target → Keeps inv
    (st.onProc fun proc => proc.markScheduled e.platform e.sendIpi target target).state
  preempt : ∀ {st current target}, Keeps before st → speaks current → Moves may target →
    Keeps inv (st.onProc fun proc =>
      proc.markScheduledWithPreemption e.platform e.root e.sendIpi current target).state
  direct : ∀ {st current target}, Keeps inv st → speaks current → Moves may target →
    Keeps inv (st.onProc fun proc =>
      proc.tryDirectScheduleAndSwitch e.platform e.root e.sendIpi current target).state
  directHere : ∀ {st owner target}, Keeps inv st → speaks owner → speaks target →
    Keeps inv (st.onProc fun proc => proc.tryDirectScheduleAndSwitchLocal e.platform e.root
      (proc.affinity e.platform owner) target).state
  suspend : ∀ {st target} (core : Nat), Keeps inv st → may (.status target .blockedSuspend) →
    Keeps inv (st.onProc fun proc => proc.markSuspended core target).state
  idle : ∀ {st target} (core : Nat), Keeps inv st → may (.status target .blockedSuspend) →
    Keeps inv (st.onProc fun proc => proc.switchToIdle e.platform e.root core).state
  signal : ∀ {st} (core : Nat), Keeps inv st →
    Keeps inv (st.onProc fun proc => proc.rescheduleCore e.platform e.sendIpi core).state
  clearPending : ∀ {st} (core : Nat) (target : ProcessId), Keeps inv st →
    Keeps inv { st with proc := st.proc.clearPending core target }

structure Acts (may : Access → Prop) (id : ProcessId) : Prop extends Handles may id where
  fault : may (.fault id)
  identify : may (.identify id)
  wait : may (.status id .blockedWait)
  blockedFault : may (.status id .blockedFault)

structure Fails (e : Entry) (may : Access → Prop) (drops : ProcessId → Prop) (st : SystemState)
    (id : ProcessId) : Prop extends Errs e may id where
  drops : drops id ∨ (st.contexts id).faultReason ≠ .none

theorem Fails.congr {drops : ProcessId → Prop} {st st' : SystemState} {id : ProcessId}
    (h : Fails e may drops st id)
    (hfault : (st'.contexts id).faultReason = (st.contexts id).faultReason) :
    Fails e may drops st' id := ⟨h.toErrs, by rw [hfault]; exact h.drops⟩

namespace Keeps

variable {speaks : ProcessId → Prop} {w : Walk e may speaks}

theorem waitAt (h : Keeps w.inv st) (port : Word) (hspeaks : speaks owner) :
    Keeps w.inv (st.waitAt e port owner).state := by
  unfold SystemState.waitAt
  exact transformError (w.leave (h.pushIpcQueue port owner) hspeaks) _

theorem andThen_of_state {ε α β : Type} {o : Outcome ε SystemState α} {P : SystemState → Prop}
    (h : Keeps w.inv o.state) (hstate : o.Post (fun _ => P) fun _ _ => True)
    {next : α → SystemState → Outcome ε SystemState β}
    (hnext : ∀ value state, P state → Keeps w.inv state → Keeps w.inv (next value state).state) :
    Keeps w.inv (o.andThen next).state := by
  obtain ⟨_ | _, state⟩ := o
  · exact h
  · exact hnext _ _ hstate h

theorem completeRevokedWait (h : Keeps w.inv st) (htarget : Fails e may w.drops st target) :
    Keeps w.inv (st.completeRevokedWait e target).state := by
  unfold SystemState.completeRevokedWait
  apply (writeMessageRegisters _ htarget.results h).andThen_of_state
    (P := fun state => state.contexts = st.contexts) (post_true_of_state (writeMessageRegisters_frame target [(0, 0), (1, 0)] st).1)
  intro _ st1 hcontexts1 hwritten
  split
  · exact hwritten.setStatus htarget.suspend
  next hfault =>
    rw [hcontexts1] at hfault
    have hdrops := htarget.drops.resolve_right hfault
    split
    all_goals first
      | exact hwritten
      | exact transformError (w.drop hwritten hdrops htarget.toMoves) _

theorem cancelReply (h : Keeps w.inv st) (htarget : Fails e may w.drops st target) :
    Keeps w.inv (st.cancelReply e target true).state := by
  unfold SystemState.cancelReply
  apply (h.dropReply target).completeRevokedWait
  exact htarget.congr (dropReply_faultReason st target target)

/-! ## IPC ports -/

section IpcPort

section

variable (h : Keeps w.inv st)
include h

theorem tryDeliverPendingBindedNotification (hmay : ∀ index, may (.registers owner index))
    (hbound : ∀ port, e.boundNotification owner = some port → may (.consume port)) :
    Keeps w.inv (st.tryDeliverPendingBindedNotification e owner).state := by
  unfold SystemState.tryDeliverPendingBindedNotification
  split
  · exact h
  next port hport =>
    split
    · apply andThen (writeMessageRegisters _ (fun _ _ => hmay _) (h.consume (hbound port hport)))
      exact fun _ _ hwritten => hwritten
    · exact h

theorem sendTo (hspeaks : speaks owner) (hidentify : may (.identify owner))
    (hreceiver : Handles may target) (self : PortSlot) (info : Word) :
    Keeps w.inv (st.sendTo e owner self info target).state := by
  have hidentified : Keeps w.inv ((st.setStatus target .ready).identify owner self) :=
    identify (h.setStatus hreceiver.ready) hidentify self
  apply (hidentified.transferMessage hreceiver.registers self.port owner info).andThen
  exact fun _ _ hmoved => transformError (w.wake hmoved hspeaks hreceiver.toMoves) _

theorem operationSend (hspeaks : speaks owner) (hidentify : may (.identify owner))
    (hsend : may (.status owner .blockedSend)) (self : PortSlot) (info : Word)
    (hhead : (st.ports self.port).state = .readyToReceive →
      ∀ id, (st.ports self.port).queueHead = some id → Handles may id) :
    Keeps w.inv (st.operationSend e owner self info).state := by
  refine operationSend_cases (motive := fun o => Keeps w.inv o.state) h h ?_ ?_
  · intro _
    exact waitAt (identify (setStatus (h.modifyPort _ _) hsend) hidentify self) self.port hspeaks
  · intro hstate
    apply h.popIpcQueue_andThen self.port (hhead hstate)
    exact fun receiver st1 hreceiver hpopped =>
      hpopped.sendTo hspeaks hidentify hreceiver self info

theorem tryReceiveFromReadySender (hspeaks : speaks owner)
    (hmay : ∀ index, may (.registers owner index)) (port : Word) (hhead : (st.ports port).state = .readyToSend →
      ∀ id, (st.ports port).queueHead = some id → Moves may id) :
    Keeps w.inv (st.tryReceiveFromReadySender e port owner).state := by
  unfold SystemState.tryReceiveFromReadySender
  split
  · exact h
  next hstate =>
    apply h.popIpcQueue_andThen port (hhead (not_not.mp hstate))
    intro sender st1 hsender hpopped
    have hcalled : ∀ st2, Keeps w.inv st2 →
        Keeps w.inv ((st2.linkReply owner sender).setStatus sender .blockedReply) :=
      fun st2 hmoved => (hmoved.linkReply owner sender).setStatus hsender.reply
    split
    · exact hpopped
    · split
      · exact (hpopped.transferFaultMessage hmay port sender).andThen fun _ => hcalled
      · apply (hpopped.transferMessage hmay port sender _).andThen
        intro _ st2 hmoved
        split
        · exact hcalled st2 hmoved
        · apply transformError
          refine w.wake (setStatus (hmoved.context owner _ fun _ => ?_) hsender.ready) hspeaks hsender
          rfl

theorem receiveWithoutSender (hspeaks : speaks owner) (howner : Handles may owner)
    (hreceive : may (.status owner .blockedReceive))
    (hbound : ∀ port, e.boundNotification owner = some port → may (.consume port))
    (port info : Word) : Keeps w.inv (st.receiveWithoutSender e owner port info).state := by
  unfold SystemState.receiveWithoutSender
  apply (h.tryDeliverPendingBindedNotification howner.registers hbound).andThen
  intro delivered st1 hdelivered
  split
  · exact hdelivered
  · split
    · exact hdelivered
    · exact waitAt (setStatus (hdelivered.modifyPort _ _) hreceive) port hspeaks

theorem discardReply (owner : ProcessId)
    (hclient : (st.contexts owner).destinationReplyState ≠ .none → ∀ client,
      (st.contexts owner).destinationReplyTarget = some client → Fails e may w.drops st client) :
    Keeps w.inv (st.discardReply e owner).state := by
  unfold SystemState.discardReply
  split
  · exact h
  next howes =>
    apply andThen
    · cases hcase : (st.contexts owner).destinationReplyTarget with
      | none => exact h
      | some client => exact h.cancelReply (hclient howes client hcase)
    · intro _ _ hcancelled
      exact context hcancelled owner (fun context =>
        { context with destinationReplyState := .none, destinationReplyTarget := none })
        fun _ => rfl

theorem operationReceive (hspeaks : speaks owner) (howner : Handles may owner)
    (hreceive : may (.status owner .blockedReceive))
    (hbound : ∀ port, e.boundNotification owner = some port → may (.consume port))
    (self : PortSlot) (info : Word)
    (hclient : self.rights &&& Slot.read ≠ 0 → (st.contexts owner).destinationReplyState ≠ .none →
      ∀ client, (st.contexts owner).destinationReplyTarget = some client →
        Fails e may w.drops st client)
    (hhead : (st.ports self.port).state = .readyToSend →
      ∀ id, (st.ports self.port).queueHead = some id → Moves may id) :
    Keeps w.inv (st.operationReceive e owner self info).state := by
  unfold SystemState.operationReceive
  split
  · exact h
  next hreads =>
    apply (h.discardReply owner (hclient hreads)).andThen_of_state (P := fun state => state.ports = st.ports)
      (post_true_of_state (discardReply_ports owner st))
    intro _ st1 hports1 hdiscarded
    split
    · exact hdiscarded.receiveWithoutSender hspeaks howner hreceive hbound self.port info
    · exact hdiscarded.receiveWithoutSender hspeaks howner hreceive hbound self.port info
    · apply hdiscarded.tryReceiveFromReadySender hspeaks howner.registers self.port
      rwa [hports1]

theorem callTo (hspeaks : speaks owner) (hreply : may (.status owner .blockedReply))
    (hidentify : may (.identify owner)) (hreceiver : Handles may target) (self : PortSlot)
    (info : Word) : Keeps w.inv (st.callTo e owner self info target).state := by
  have hidentified : Keeps w.inv (st.identify owner self) := h.identify hidentify self
  have hlinked : Keeps w.inv ((((st.identify owner self).linkReply target
      owner).setStatus owner .blockedReply).modifyContext owner fun context =>
        { context with sourceReplyState := .wait }) :=
    context (setStatus (hidentified.linkReply target owner) hreply) owner _ fun _ => rfl
  unfold SystemState.callTo
  dsimp only
  split
  · exact hidentified
  · apply (hlinked.transferMessage hreceiver.registers self.port owner info).andThen
    intro _ st2 hmoved
    exact transformError (w.direct (hmoved.setStatus hreceiver.ready) hspeaks hreceiver.toMoves) _

theorem operationCall (hspeaks : speaks owner) (howner : Handles may owner)
    (hidentify : may (.identify owner)) (hsend : may (.status owner .blockedSend))
    (hbound : ∀ port, e.boundNotification owner = some port → may (.consume port))
    (self : PortSlot) (info : Word)
    (hhead : (st.ports self.port).state = .readyToReceive →
      ∀ id, (st.ports self.port).queueHead = some id → Handles may id) :
    Keeps w.inv (st.operationCall e owner self info).state := by
  refine operationCall_cases (motive := fun o => Keeps w.inv o.state) h h ?_ ?_
  · intro _
    apply (h.tryDeliverPendingBindedNotification howner.registers hbound).andThen
    intro delivered st1 hdelivered
    split
    · exact hdelivered
    · apply waitAt _ self.port hspeaks
      exact identify (context (setStatus (hdelivered.modifyPort _ _) hsend) owner _ fun _ => by rfl)
        hidentify self
  · intro hstate
    apply h.popIpcQueue_andThen self.port (hhead hstate)
    exact fun receiver st1 hreceiver hpopped =>
      hpopped.callTo hspeaks howner.reply hidentify hreceiver self info

end

theorem restoreRegisters (hmay : ∀ index, may (.registers target index)) (owner : ProcessId) (count index : Nat)
    (h : Keeps w.inv st) :
    Keeps w.inv (st.restoreRegisters e owner target count index).state := by
  induction count generalizing index st with
  | zero => exact h
  | succ count ih =>
    unfold SystemState.restoreRegisters
    split
    · exact h
    · exact ih _ (h.write (.registers target index _ (hmay _)) rfl)

theorem completeFaultReplyWithoutMessageTransfer (h : Keeps w.inv st)
    (hspeaks : speaks owner) (htarget : Moves may target) (hfault : may (.fault target)) :
    Keeps w.inv (st.completeFaultReplyWithoutMessageTransfer e owner target).state := by
  unfold SystemState.completeFaultReplyWithoutMessageTransfer
  apply transformError
  refine w.wake ?_ hspeaks htarget
  exact fault ((h.setStatus htarget.ready).unlinkReply owner target) hfault
    (fun context => { context with faultReason := .none }) fun _ => rfl

theorem replyTo (h : Keeps w.inv st) (hspeaks : speaks owner) (htarget : Handles may target)
    (hfault : may (.fault target)) (enqueue : Bool) (info : Word) :
    Keeps w.inv (st.replyTo e enqueue owner target info).state := by
  unfold SystemState.replyTo
  split
  · apply andThen
    · unfold applyInvalidKernelCallReplyContext
      split
      · exact h
      · split
        · exact h
        · exact restoreRegisters htarget.registers owner _ 0 h
    · exact fun _ _ hrestored => hrestored.completeFaultReplyWithoutMessageTransfer hspeaks
        htarget.toMoves hfault
  · apply (h.transferDirectMessage htarget.registers owner info).andThen
    intro _ st1 hmoved
    have hanswered := (hmoved.setStatus htarget.ready).unlinkReply owner target
    dsimp only
    split
    · exact transformError (w.wake hanswered hspeaks htarget.toMoves) _
    · exact hanswered

section Reply

variable (hspeaks : speaks owner)
  (hclient : ∀ client, (st.contexts owner).destinationReplyTarget = some client →
    Handles may client ∧ may (.fault client))

include hspeaks hclient

theorem completeReply (h : Keeps w.inv st) (enqueue : Bool) (info : Word) :
    Keeps w.inv (st.completeReply e enqueue owner info).state := by
  unfold SystemState.completeReply
  split
  · exact h
  · split
    · exact h
    next client hcase =>
      exact h.replyTo hspeaks (hclient client hcase).1 (hclient client hcase).2 enqueue info

theorem operationReply (h : Keeps w.inv st) (howner : Handles may owner) (info : Word) :
    Keeps w.inv (st.operationReply e owner info).state := by
  unfold SystemState.operationReply
  split
  · exact h
  · split
    · exact h
    next client hcase =>
      apply (h.replyTo hspeaks (hclient client hcase).1 (hclient client hcase).2 true info).andThen
      intro _ st1 hreplied
      exact transformError (w.direct (hreplied.setStatus howner.ready) hspeaks howner.toMoves) _

theorem operationReplyReceive (h : Keeps w.inv st) (howner : Handles may owner)
    (hreceive : may (.status owner .blockedReceive))
    (hbound : ∀ port, e.boundNotification owner = some port → may (.consume port))
    (self : PortSlot) (info : Word)
    (hhead : (st.ports self.port).state = .readyToSend →
      ∀ id, (st.ports self.port).queueHead = some id → Moves may id) :
    Keeps w.inv (st.operationReplyReceive e owner self info).state := by
  unfold SystemState.operationReplyReceive
  split
  · exact h
  · dsimp only
    split
    next hdirect =>
      apply (completeReply hspeaks hclient h false info).andThen
      intro _ st1 hreplied
      have hwaits : Keeps w.inv (((st1.modifyPort self.port fun port =>
          { port with state := .readyToReceive }).setStatus owner .blockedReceive).pushIpcQueue
            self.port owner) :=
        pushIpcQueue (setStatus (hreplied.modifyPort _ _) hreceive) self.port owner
      cases hcase : (st.contexts owner).destinationReplyTarget with
      | none => exact hwaits
      | some client =>
        exact transformError (w.directHere hwaits hspeaks
          (w.neighbour h hspeaks (affinity_of_repliesDirectly hcase hdirect))) _
    · apply (completeReply hspeaks hclient h true info).andThen_of_state
        (completeReply_ports true owner info st)
      intro _ st1 hports1 hreplied
      split
      · apply hreplied.tryReceiveFromReadySender hspeaks howner.registers self.port
        rwa [hports1]
      · exact hreplied.receiveWithoutSender hspeaks howner hreceive hbound self.port info
      · exact hreplied.receiveWithoutSender hspeaks howner hreceive hbound self.port info

end Reply

section

variable (h : Keeps w.inv st) (hspeaks : speaks owner)
include h hspeaks

theorem faultWait (hfault : may (.status owner .blockedFault)) (port : Word) :
    Keeps w.inv (st.faultWait e owner port).state := by
  unfold SystemState.faultWait
  exact waitAt (context (h.setStatus hfault) owner _ fun _ => by rfl) port hspeaks

theorem operationFaultCall (hidentify : may (.identify owner))
    (hfault : may (.status owner .blockedFault)) (self : PortSlot)
    (hhead : (st.ports self.port).state = .readyToReceive →
      ∀ id, (st.ports self.port).queueHead = some id → Handles may id) :
    Keeps w.inv (st.operationFaultCall e owner self).state := by
  have hidentified : Keeps w.inv (st.identify owner self) := h.identify hidentify self
  unfold SystemState.operationFaultCall
  split
  · exact h.setStatus hfault
  · dsimp only
    have hwaits : Keeps w.inv (((st.identify owner self).modifyPort self.port fun port =>
        { port with state := .readyToSend }).faultWait e owner self.port).state :=
      faultWait (hidentified.modifyPort _ _) hspeaks hfault self.port
    split
    · exact hwaits
    · exact hwaits
    next hstate =>
      apply hidentified.popIpcQueue_andThen self.port (hhead hstate)
      intro receiver st1 hreceiver hpopped
      have hlinked : Keeps w.inv (((st1.linkReply receiver owner).setStatus owner
          .blockedFault).modifyContext owner fun context =>
            { context with sourceReplyState := .wait }) :=
        context (setStatus (hpopped.linkReply receiver owner) hfault) owner _ fun _ => rfl
      split
      · exact hpopped.faultWait hspeaks hfault self.port
      · apply (hlinked.transferFaultMessage hreceiver.registers self.port owner).andThen
        intro _ st2 hmoved
        exact transformError (w.direct (hmoved.setStatus hreceiver.ready) hspeaks
          hreceiver.toMoves) _

end

end IpcPort

/-! ## Notification ports -/

section NotificationPort

theorem before_andThen {ε α β : Type} {o : Outcome ε SystemState α} (h : Keeps w.before o.state)
    {next : α → SystemState → Outcome ε SystemState β}
    (hnext : ∀ value state, Keeps w.before state → Keeps w.inv (next value state).state) :
    Keeps w.inv (o.andThen next).state := by
  obtain ⟨_ | _, state⟩ := o
  · exact w.now h
  · exact hnext _ _ h

theorem popNotificationQueue_andThen {β : Type} (h : Keeps w.before st) (port : Word)
    (hhead : ∀ target, (st.notifications port).queueHead = some target → Handles may target)
    {next : ProcessId → SystemState → Outcome CapabilityError SystemState β}
    (hnext : ∀ target state, Handles may target → Keeps w.before state →
      Keeps w.inv (next target state).state) :
    Keeps w.inv (((st.popNotificationQueue port).transformError
      convertKernelToCapabilityError).andThen next).state := by
  have hpopped := h.popNotificationQueue port
  cases hcase : (st.notifications port).queueHead with
  | none =>
    unfold SystemState.popNotificationQueue
    rw [hcase]
    exact w.now h
  | some target =>
    rw [popNotificationQueue_of_head hcase]
    exact hnext target _ (hhead target hcase) hpopped

theorem tryWakeBindedProcess (h : Keeps w.before st) {port : Word} {current : ProcessId}
    (hspeaks : speaks current) (hconsume : may (.consume port))
    (htarget : ∀ id, (st.notifications port).bindedProcess = some id →
      (st.proc.processes id).status = .blockedReceive → Handles may id) :
    Keeps w.inv (st.tryWakeBindedProcess e port current).state := by
  unfold SystemState.tryWakeBindedProcess
  split
  · exact w.now h
  next target hbinded =>
    split
    · exact w.now h
    next hstatus =>
      have hhandles := htarget target hbinded (not_not.mp hstatus)
      split
      · exact w.now h
      next ipcPort _ =>
        apply before_andThen ((h.removeIpcQueue ipcPort target).transformError _)
        intro _ st1 hremoved
        apply before_andThen (writeMessageRegisters _ (fun _ _ => hhandles.registers _)
          (hremoved.consume hconsume))
        intro _ st2 hwritten
        apply transformError
        refine w.preempt ?_ hspeaks hhandles.toMoves
        exact context (hwritten.setStatus hhandles.ready) target
          (fun context => { context with currentIpcPort := none, currentNotificationPort := none })
          fun _ => rfl

theorem deliverFlag {i : Invariant may} (h : Keeps i st) {port : Word}
    (hconsume : may (.consume port)) (hmay : ∀ index, may (.registers target index)) :
    Keeps i (st.deliverFlag e port target).state := by
  unfold SystemState.deliverFlag
  exact writeMessageRegisters _ (fun _ _ => hmay _) (h.consume hconsume)

theorem operationNotify (h : Keeps w.before st) {current : ProcessId} (hspeaks : speaks current)
    (self : PortSlot) (hnotify : may (.notify self.port self.identifier))
    (hconsume : may (.consume self.port))
    (hbinded : ∀ id, (st.notifications self.port).bindedProcess = some id →
      (st.proc.processes id).status = .blockedReceive → Handles may id)
    (hhead : ∀ id, (st.notifications self.port).queueHead = some id → Handles may id) :
    Keeps w.inv (st.operationNotify e current self).state := by
  have hnotified : Keeps w.before (st.modifyNotification self.port fun port =>
      port.notify self.identifier) := h.write (.notify self.port self.identifier hnotify) rfl
  unfold SystemState.operationNotify
  split
  · exact w.now h
  · dsimp only
    split
    · apply hnotified.tryWakeBindedProcess hspeaks hconsume
      simpa [modifyNotification_notifications, NotificationPort.notify] using hbinded
    · split
      · exact w.now hnotified
      · split
        · exact w.now hnotified
        · apply hnotified.popNotificationQueue_andThen self.port
          · simpa [modifyNotification_notifications, NotificationPort.notify] using hhead
          · intro target st1 htarget hpopped
            apply before_andThen (deliverFlag hpopped hconsume htarget.registers)
            exact fun _ _ hdelivered =>
              transformError (w.preempt hdelivered hspeaks htarget.toMoves) _

theorem operationWait (h : Keeps w.inv st) (hspeaks : speaks owner) (howner : Handles may owner)
    (hwait : may (.status owner .blockedWait)) (self : PortSlot)
    (hconsume : may (.consume self.port)) :
    Keeps w.inv (st.operationWait e owner self).state := by
  unfold SystemState.operationWait
  split
  · exact h
  · split
    · exact h
    · split
      · exact h.deliverFlag hconsume howner.registers
      · apply transformError
        refine w.leave (pushNotificationQueue (setStatus (h.queue _ _ fun _ => ?_) hwait) _
          owner) hspeaks
        rfl

theorem operationPoll (h : Keeps w.inv st) (hmay : ∀ index, may (.registers owner index)) (self : PortSlot)
    (hconsume : may (.consume self.port)) :
    Keeps w.inv (st.operationPoll e owner self).state := by
  unfold SystemState.operationPoll
  split
  · exact h
  · split
    · exact h
    · split
      · exact h.deliverFlag hconsume hmay
      · exact writeMessageRegisters _ (fun _ _ => hmay _) h

end NotificationPort

/-! ## Process control blocks -/

section ControlBlock

theorem clearFault (h : Keeps w.inv st) (hfault : may (.fault target)) :
    Keeps w.inv (st.clearFault target) :=
  h.fault hfault (fun context => { context with
    faultReason := .none, faultCode := 0, archFaultCode := 0, faultAddress := 0 }) fun _ => rfl

theorem readRegisters (hmay : ∀ index, may (.registers owner index)) (target : ProcessId) (count index : Nat)
    (h : Keeps w.inv st) :
    Keeps w.inv (st.readRegisters e owner target count index).state := by
  induction count generalizing index st with
  | zero => exact h
  | succ count ih =>
    unfold SystemState.readRegisters
    apply ((h.configureMessageRegister (fun _ => hmay _) _).transformError _).andThen
    exact fun _ _ hread => ih _ hread

theorem operationReadRegister (h : Keeps w.inv st) (hmay : ∀ index, may (.registers owner index))
    (target : ProcessId) : Keeps w.inv (st.operationReadRegister e owner target).state := by
  unfold SystemState.operationReadRegister
  dsimp only
  split
  · exact h
  · exact readRegisters hmay target _ 0 h

theorem writeRegisters (hmay : ∀ index, may (.registers target index)) (owner : ProcessId) (count index : Nat)
    (h : Keeps w.inv st) :
    Keeps w.inv (st.writeRegisters e owner target count index).state := by
  induction count generalizing index st with
  | zero => exact h
  | succ count ih =>
    unfold SystemState.writeRegisters
    split
    · exact h
    · exact ih _ (h.write (.registers target index _ (hmay _)) rfl)

section

variable (h : Keeps w.inv st)
include h

theorem operationWriteRegister (hmay : ∀ index, may (.registers target index))
    (owner : ProcessId) : Keeps w.inv (st.operationWriteRegister e owner target).state := by
  unfold SystemState.operationWriteRegister
  dsimp only
  split
  · exact h
  · exact writeRegisters hmay owner _ 0 h

theorem detachFromWaitQueues (target : ProcessId) :
    Keeps w.inv (st.detachFromWaitQueues target).state := by
  unfold SystemState.detachFromWaitQueues
  apply andThen
  · unfold detachFromIpcQueue
    split
    · exact h
    · exact (h.removeIpcQueue _ target).transformError _
  · intro _ st1 hdetached
    unfold detachFromNotificationQueue
    split
    · exact hdetached
    · exact (hdetached.removeNotificationQueue _ target).transformError _

theorem cancelOwnWait (target : ProcessId) :
    Keeps w.inv (st.cancelOwnWait e target).state :=
  (h.detachFromWaitQueues target).andThen fun _ _ hdetached => hdetached.cancelReply_quietly target

theorem operationResume (hspeaks : speaks owner) (htarget : Moves may target)
    (hfault : may (.fault target)) : Keeps w.inv (st.operationResume e owner target).state := by
  unfold SystemState.operationResume
  split
  · exact h
  · apply (h.cancelOwnWait target).andThen
    intro _ st1 hcancelled
    exact transformError (w.wake (setStatus (hcancelled.clearFault hfault) htarget.ready) hspeaks
      htarget) _

theorem restartSyscall
    (hmay : may (.registers target (instructionPointerIndex e.platform.architecture))) :
    Keeps w.inv (st.restartSyscall e target) := h.write (.registers target _ _ hmay) rfl

theorem servicePendingStopRequest (hsuspend : may (.status target .blockedSuspend))
    (hmay : may (.registers target (instructionPointerIndex e.platform.architecture)))
    (core : Nat) : Keeps w.inv (st.servicePendingStopRequest e core target).state := by
  have hstopped : Keeps w.inv
      (st.onProc fun proc => proc.switchToIdle e.platform e.root core).state :=
    w.idle core h hsuspend
  unfold SystemState.servicePendingStopRequest
  dsimp only
  generalize st.onProc (fun proc => proc.switchToIdle e.platform e.root core) = stopped at hstopped
  obtain ⟨_ | _, st1⟩ := stopped
  · exact w.clearPending core target hstopped
  · dsimp only
    split
    · exact w.clearPending core target (hstopped.restartSyscall hmay)
    · exact w.clearPending core target hstopped

theorem stopProcessForReclamation (hsuspend : may (.status target .blockedSuspend))
    (hmay : (st.proc.cpus (st.proc.processes target).coreAffinity.toNat).currentProcess =
      some target → may (.registers target (instructionPointerIndex e.platform.architecture))) :
    Keeps w.inv (st.stopProcessForReclamation e target).state := by
  unfold SystemState.stopProcessForReclamation
  dsimp only
  split
  · exact h
  · apply andThen_of_state (w.suspend _ h hsuspend)
      (P := fun state => ∀ core, (state.proc.cpus core).currentProcess =
        (st.proc.cpus core).currentProcess)
    · exact post_true_of_state
        (Touches.currentProcess ((Touches.refl st.proc).markSuspended (by simp) _))
    · intro _ st1 hcurrent hsuspended
      have hcleared := w.clearPending (st.proc.processes target).coreAffinity.toNat target hsuspended
      split
      · exact hcleared
      next hrunning =>
        split
        · exact w.idle _ hcleared hsuspend
        · have hregisters :
              may (.registers target (instructionPointerIndex e.platform.architecture)) := by
            apply hmay
            rw [← hcurrent]
            have hthis := (not_or.mp hrunning).1
            unfold ProcState.clearPending modifyCpu at hthis
            simp only [Function.update_self] at hthis
            split_ifs at hthis <;> exact not_not.mp hthis
          exact (w.signal _ hcleared).andThen fun _ _ hsent =>
            hsent.servicePendingStopRequest hsuspend hregisters _

theorem operationSuspend (htarget : Errs e may target)
    (hcounter : may (.registers target (instructionPointerIndex e.platform.architecture)))
    (hfault : may (.fault target)) :
    Keeps w.inv (st.operationSuspend e target).state := by
  unfold SystemState.operationSuspend
  apply ((h.stopProcessForReclamation htarget.suspend fun _ => hcounter).transformError _).andThen
  intro _ st1 hstopped
  apply andThen
  · split
    · exact writeMessageRegisters _ htarget.results hstopped
    · exact hstopped
  · intro _ st2 hreported
    apply (hreported.cancelOwnWait target).andThen
    intro _ st3 hcancelled
    dsimp only
    split
    · exact (hcancelled.restartSyscall hcounter).clearFault hfault
    · exact hcancelled.clearFault hfault

end

end ControlBlock

/-! ## Revocations -/

section Revocation

theorem revokeWaiters (port : Word) (steps : Nat) (h : Keeps w.inv st)
    (hwaiter : ∀ id, st.HeldBy id (.ipcPort port) → Fails e may w.drops st id) :
    Keeps w.inv (st.revokeWaiters e port steps).state := by
  -- the queue only gets shorter, so what is assumed of its members holds of those that remain
  induction steps generalizing st with
  | zero => exact h
  | succ steps ih =>
    unfold SystemState.revokeWaiters
    cases hhead : (st.ports port).queueHead with
    | none => exact h
    | some target =>
      have htarget := hwaiter target ⟨target, hhead, .refl⟩
      have hpopped := h.popIpcQueue port
      have honly := (IpcOnly.refl st).popIpcQueue port
      have hshorter : ∀ id, (st.popIpcQueue port).state.HeldBy id (.ipcPort port) →
          st.HeldBy id (.ipcPort port) := fun id => HeldBy.of_popIpcQueue
      dsimp only
      rw [popIpcQueue_of_head hhead]
      generalize (st.popIpcQueue port).state = st1 at hpopped honly hshorter
      set st2 := st1.modifyContext target fun context =>
        { context with sourceReplyState := .none, sourceReplyTarget := none } with hst2
      have h2 : Keeps w.inv st2 := hpopped.context target (fun context =>
          { context with sourceReplyState := .none, sourceReplyTarget := none }) fun _ => rfl
      have hframe : ∀ id, (st2.contexts id).nextIpcQueue = (st1.contexts id).nextIpcQueue ∧
          (st2.contexts id).faultReason = (st.contexts id).faultReason := by
        intro id
        rw [hst2, modifyContext_contexts, ← honly.field IpcContext.faultReason (fun _ => rfl) id]
        split_ifs with hid
        · simp [hid]
        · exact ⟨rfl, rfl⟩
      have hwoken := h2.completeRevokedWait (htarget.congr (hframe target).2)
      obtain ⟨hcontexts, hports, -⟩ := completeRevokedWait_frame (e := e) target st2
      change Keeps w.inv ((st2.completeRevokedWait e target).andThen _).state
      generalize st2.completeRevokedWait e target = o at hwoken hcontexts hports
      obtain ⟨_ | _, st3⟩ := o
      · exact hwoken
      · dsimp only at hcontexts hports
        refine ih hwoken fun id hheld => (hwaiter id (hshorter id ?_)).congr ?_
        · unfold HeldBy at hheld ⊢
          rw [hcontexts, hports] at hheld
          simp only [fun id => (hframe id).1] at hheld
          exact hheld
        · rw [hcontexts]
          exact (hframe id).2

theorem revokeIpcPort (h : Keeps w.inv st) (port : Word)
    (hwaiter : ∀ id, st.HeldBy id (.ipcPort port) → Fails e may w.drops st id) :
    Keeps w.inv (st.revokeIpcPort e port).state :=
  (revokeWaiters port _ h hwaiter).andThen fun _ _ hdone =>
    Keeps.modifyPort hdone port fun port => { port with state := .wait }

theorem revokeNotificationWaiters (port : Word) (steps : Nat) (h : Keeps w.inv st)
    (hwaiter : ∀ id, st.HeldBy id (.notificationPort port) → Fails e may w.drops st id) :
    Keeps w.inv (st.revokeNotificationWaiters e port steps).state := by
  induction steps generalizing st with
  | zero => exact h
  | succ steps ih =>
    unfold SystemState.revokeNotificationWaiters
    cases hhead : (st.notifications port).queueHead with
    | none => exact h
    | some target =>
      have htarget := hwaiter target ⟨target, hhead, .refl⟩
      have hpopped := h.popNotificationQueue port
      have honly := (NotificationOnly.refl st).popNotificationQueue port
      have hshorter : ∀ id, (st.popNotificationQueue port).state.HeldBy id
          (.notificationPort port) → st.HeldBy id (.notificationPort port) :=
        fun id => HeldBy.of_popNotificationQueue
      dsimp only
      rw [popNotificationQueue_of_head hhead]
      generalize (st.popNotificationQueue port).state = st1 at hpopped honly hshorter
      have hwoken := hpopped.completeRevokedWait (htarget.congr
        (honly.field IpcContext.faultReason (fun _ => rfl) target))
      obtain ⟨hcontexts, -, hports⟩ := completeRevokedWait_frame (e := e) target st1
      change Keeps w.inv ((st1.completeRevokedWait e target).andThen _).state
      generalize st1.completeRevokedWait e target = o at hwoken hcontexts hports
      obtain ⟨_ | _, st3⟩ := o
      · exact hwoken
      · dsimp only at hcontexts hports
        refine ih hwoken fun id hheld => (hwaiter id (hshorter id ?_)).congr ?_
        · unfold HeldBy at hheld ⊢
          rwa [hcontexts, hports] at hheld
        · rw [hcontexts]
          exact honly.field IpcContext.faultReason (fun _ => rfl) id

theorem revokeNotificationPort (h : Keeps w.inv st) (port : Word)
    (hconsume : may (.consume port)) (hunbind : may (.unbind port))
    (hwaiter : ∀ id, st.HeldBy id (.notificationPort port) → Fails e may w.drops st id) :
    Keeps w.inv (st.revokeNotificationPort e port).state := by
  apply (revokeNotificationWaiters port _ h hwaiter).andThen
  intro _ st1 hdone
  have hconsumed := (hdone.consume hconsume).write (.unbind port hunbind) rfl
  have hidle := hconsumed.queue port (fun port => { port with state := .wait }) fun _ => rfl
  have heq : (((st1.modifyNotification port NotificationPort.consume).modifyNotification port
      fun port => { port with bindedProcess := none }).modifyNotification port fun port =>
        { port with state := .wait }) = st1.modifyNotification port fun port =>
          { port.consume with bindedProcess := none, state := .wait } := by
    simp [SystemState.modifyNotification]
  rw [heq] at hidle
  exact hidle

theorem wakeCaller (h : Keeps w.inv st) (target : ProcessId)
    (hclient : ∀ client, (st.contexts target).destinationReplyTarget = some client →
      Fails e may w.drops st client) : Keeps w.inv (st.wakeCaller e target).state := by
  unfold SystemState.wakeCaller
  cases hcase : (st.contexts target).destinationReplyTarget with
  | none => exact h
  | some client => exact h.cancelReply (hclient client hcase)

theorem revokeProcess (h : Keeps w.inv st) (hsuspend : may (.status target .blockedSuspend))
    (hreset : may (.reset target))
    (hmay : (st.proc.cpus (st.proc.processes target).coreAffinity.toNat).currentProcess =
      some target → may (.registers target (instructionPointerIndex e.platform.architecture)))
    (hclient : ∀ client, (st.contexts target).destinationReplyTarget = some client →
      Fails e may w.drops st client) : Keeps w.inv (st.revokeProcess e target).state := by
  unfold SystemState.revokeProcess
  apply andThen_of_state ((h.stopProcessForReclamation hsuspend hmay).transformError _)
    (P := fun state => state.contexts = st.contexts)
    (Outcome.Post.transformError (post_true_of_state
      (stopProcessForReclamation_contexts target st)))
  intro _ st1 hcontexts1 hstopped
  apply andThen_of_state (hstopped.detachFromWaitQueues target) (P := fun state => ∀ id,
      (state.contexts id).faultReason = (st1.contexts id).faultReason ∧
        (state.contexts id).destinationReplyTarget = (st1.contexts id).destinationReplyTarget)
    (post_true_of_state (detachFromWaitQueues_frame target st1))
  intro _ st2 hkept hdetached
  rw [hcontexts1] at hkept
  apply (hdetached.wakeCaller target fun client hcase =>
    (hclient client (by rw [← (hkept target).2, hcase])).congr (hkept client).1).andThen
  intro _ st3 hwoken
  apply (hwoken.cancelReply_quietly target).andThen
  intro _ st4 hcancelled
  have hleft : Keeps w.inv (st4.modifyContext target fun context => { context with buffer := none }) :=
    hcancelled.context target _ fun _ => rfl
  dsimp only [ok_state]
  split
  · exact hleft.write (.reset target _ hreset) rfl
  · exact hleft

end Revocation

theorem reportResult {o : Outcome CapabilityError SystemState Unit}
    (h : Keeps w.inv o.state) (hmay : ∀ index < 2,
      may (.registers owner (messageRegisterIndex e.platform.architecture index))) :
    Keeps w.inv (SystemState.reportResult e owner o) := by
  unfold SystemState.reportResult
  split
  · exact h.configureMessageRegister (fun _ => hmay 0 (by decide)) 1
  · exact (h.configureMessageRegister (fun _ => hmay 0 (by decide)) 0).configureMessageRegister
      (fun _ => hmay 1 (by decide)) _

end Keeps

/-! ## Entries -/

def operation (e : Entry) (st : SystemState) (owner : ProcessId) : Nat :=
  (st.messageRegister e owner operationTypeIndex).toNat

structure PortGranted (e : Entry) (may : Access → Prop) (drops : ProcessId → Prop)
    (owner : ProcessId) (st : SystemState) (slot : PortSlot) : Prop where
  send : st.operation e owner = 1 ∨ st.operation e owner = 3 → may (.status owner .blockedSend)
  receive : st.operation e owner = 2 ∨ st.operation e owner = 5 →
    may (.status owner .blockedReceive)
  bound : st.operation e owner = 2 ∨ st.operation e owner = 3 ∨ st.operation e owner = 5 →
    ∀ port, e.boundNotification owner = some port → may (.consume port)
  receiver : (st.ports slot.port).state = .readyToReceive →
    ∀ id, (st.ports slot.port).queueHead = some id → Handles may id
  sender : (st.ports slot.port).state = .readyToSend →
    ∀ id, (st.ports slot.port).queueHead = some id → Moves may id
  client : ∀ client, (st.contexts owner).destinationReplyTarget = some client →
    (st.operation e owner = 2 → slot.rights &&& Slot.read ≠ 0 →
      (st.contexts owner).destinationReplyState ≠ .none → Fails e may drops st client) ∧
    (st.operation e owner = 4 ∨ st.operation e owner = 5 → Handles may client ∧ may (.fault client))

def CallbackGranted (e : Entry) (may : Access → Prop) (drops : ProcessId → Prop)
    (st : SystemState) : Callback → Prop
  | .ipcPort port => ∀ id, st.HeldBy id (.ipcPort port) → Fails e may drops st id
  | .notificationPort port => may (.consume port) ∧ may (.unbind port) ∧
      ∀ id, st.HeldBy id (.notificationPort port) → Fails e may drops st id
  | .process target => may (.status target .blockedSuspend) ∧ may (.reset target) ∧
      (∀ core, (st.proc.cpus core).currentProcess = some target →
        may (.registers target (instructionPointerIndex e.platform.architecture))) ∧
      ∀ client, (st.contexts target).destinationReplyTarget = some client →
        Fails e may drops st client

def CallbacksGranted (e : Entry) (may : Access → Prop) (drops : ProcessId → Prop) :
    List Callback → SystemState → Prop
  | [], _ => True
  | callback :: rest, st => CallbackGranted e may drops st callback ∧
      ∀ st', st.runCallback e callback = .ok () st' → CallbacksGranted e may drops rest st'

def InvocationGranted {speaks : ProcessId → Prop} (w : Walk e may speaks) (owner : ProcessId)
    (st : SystemState) : Invocation → Prop
  | .ipcPort self => PortGranted e may w.drops owner st self
  | .notificationPort self =>
    (st.operation e owner = 1 → may (.notify self.port self.identifier)) ∧
    may (.consume self.port) ∧
    (∀ id, (st.notifications self.port).bindedProcess = some id →
      (st.proc.processes id).status = .blockedReceive → Handles may id) ∧
    ∀ id, (st.notifications self.port).queueHead = some id → Handles may id
  | .processControlBlock target =>
    (st.operation e owner = 1 → Keeps w.inv (st.operationConfigure e owner target).state) ∧
    (st.operation e owner = 3 → ∀ index, may (.registers target index)) ∧
    (st.operation e owner = 4 → Moves may target ∧ may (.fault target)) ∧
    (st.operation e owner = 5 → Errs e may target ∧ may (.fault target) ∧
      may (.registers target (instructionPointerIndex e.platform.architecture)))
  | .other callbacks _ => CallbacksGranted e may w.drops callbacks st
  | _ => True

namespace Keeps

variable {speaks : ProcessId → Prop} {w : Walk e may speaks}

theorem executeIpcPort (h : Keeps w.inv st) (hspeaks : speaks owner) (howner : Acts may owner)
    (self : PortSlot) (hgranted : PortGranted e may w.drops owner st self) :
    Keeps w.inv (st.executeIpcPort e owner self).state := by
  unfold SystemState.executeIpcPort
  dsimp only
  split
  · exact h
  · split
    next hop =>
      exact h.operationSend hspeaks howner.identify (hgranted.send (.inl hop)) self _
        hgranted.receiver
    next hop =>
      exact h.operationReceive hspeaks howner.toHandles (hgranted.receive (.inl hop))
        (hgranted.bound (.inl hop)) self _
        (fun hreads howes client hclient => (hgranted.client client hclient).1 hop hreads howes)
        hgranted.sender
    next hop =>
      exact h.operationCall hspeaks howner.toHandles howner.identify
        (hgranted.send (.inr hop)) (hgranted.bound (.inr (.inl hop))) self _ hgranted.receiver
    next hop =>
      exact operationReply hspeaks
        (fun client hclient => (hgranted.client client hclient).2 (.inl hop)) h howner.toHandles _
    next hop =>
      exact operationReplyReceive hspeaks
        (fun client hclient => (hgranted.client client hclient).2 (.inr hop)) h howner.toHandles
        (hgranted.receive (.inr hop)) (hgranted.bound (.inr (.inr hop))) self _ hgranted.sender
    · split <;> exact h
    · exact h

theorem executeNotificationPort (h : Keeps w.before st) (hspeaks : speaks owner)
    (howner : Acts may owner) (self : PortSlot)
    (hgranted : InvocationGranted w owner st (.notificationPort self)) :
    Keeps w.inv (st.executeNotificationPort e owner self).state := by
  obtain ⟨hnotify, hconsume, hbinded, hhead⟩ := hgranted
  unfold SystemState.executeNotificationPort
  split
  next hop => exact h.operationNotify hspeaks self (hnotify hop) hconsume hbinded hhead
  · exact (w.now h).operationWait hspeaks howner.toHandles howner.wait self hconsume
  · exact (w.now h).operationPoll howner.registers self hconsume
  · split <;> exact w.now h
  · exact w.now h

theorem executeProcessControlBlock (h : Keeps w.inv st) (hspeaks : speaks owner)
    (howner : Acts may owner) (target : ProcessId)
    (hgranted : InvocationGranted w owner st (.processControlBlock target)) :
    Keeps w.inv (st.executeProcessControlBlock e owner target).state := by
  obtain ⟨hconfigure, hwrite, hresume, hsuspend⟩ := hgranted
  unfold SystemState.executeProcessControlBlock
  split
  next hop => exact hconfigure hop
  · exact h.operationReadRegister howner.registers target
  next hop => exact h.operationWriteRegister (hwrite hop) owner
  next hop => exact h.operationResume hspeaks (hresume hop).1 (hresume hop).2
  next hop => exact h.operationSuspend (hsuspend hop).1 (hsuspend hop).2.2 (hsuspend hop).2.1
  · exact h

theorem runCallback (h : Keeps w.inv st) (callback : Callback)
    (hgranted : CallbackGranted e may w.drops st callback) :
    Keeps w.inv (st.runCallback e callback).state := by
  cases callback with
  | ipcPort port => exact h.revokeIpcPort port hgranted
  | notificationPort port => exact h.revokeNotificationPort port hgranted.1 hgranted.2.1 hgranted.2.2
  | process target =>
    exact h.revokeProcess hgranted.1 hgranted.2.1 (hgranted.2.2.1 _) hgranted.2.2.2

theorem runCallbacks (callbacks : List Callback) (h : Keeps w.inv st)
    (hgranted : CallbacksGranted e may w.drops callbacks st) :
    Keeps w.inv (st.runCallbacks e callbacks).state := by
  induction callbacks generalizing st with
  | nil => exact h
  | cons callback rest ih =>
    have hrun := h.runCallback callback hgranted.1
    have hrest := hgranted.2
    unfold SystemState.runCallbacks
    generalize st.runCallback e callback = o at hrest hrun
    obtain ⟨_ | _, st1⟩ := o
    · exact hrun
    · exact ih hrun (hrest st1 rfl)

theorem handleCapabilityCall (h : Keeps w.before st) (hspeaks : speaks owner)
    (howner : Acts may owner) (invocation : Invocation)
    (hgranted : InvocationGranted w owner st invocation) :
    Keeps w.inv (st.handleCapabilityCall e owner invocation) := by
  have hnow := w.now h
  have hresult := (howner.errs e).result
  cases invocation with
  | unconfigured => exact hnow
  | invalid => exact reportResult (o := .error .invalidDescriptor st) hnow hresult
  | ipcPort self => exact reportResult (hnow.executeIpcPort hspeaks howner self hgranted) hresult
  | notificationPort self =>
    exact reportResult (h.executeNotificationPort hspeaks howner self hgranted) hresult
  | processControlBlock target =>
    exact reportResult (hnow.executeProcessControlBlock hspeaks howner target hgranted) hresult
  | other callbacks result =>
    apply reportResult _ hresult
    exact (runCallbacks callbacks hnow hgranted).andThen fun _ _ hdone => hdone

theorem handleFault (h : Keeps w.inv st) (type : FaultType) (code archCode address : Word)
    (hcurrent : ∀ id, (st.proc.cpus e.core).currentProcess = some id → speaks id ∧ Acts may id)
    (hreceiver : ∀ port, (st.ports port).state = .readyToReceive →
      ∀ id, (st.ports port).queueHead = some id → Handles may id) :
    Keeps w.inv (st.handleFault e type code archCode address) := by
  unfold SystemState.handleFault
  split
  · exact h
  · split
    · exact w.schedule h
    next current hcase =>
      obtain ⟨hspeaks, hacts⟩ := hcurrent current hcase
      have hrecorded : Keeps w.inv (st.modifyContext current fun context =>
          { context with faultReason := type, faultCode := code, archFaultCode := archCode,
                         faultAddress := address }) :=
        h.fault hacts.fault _ fun _ => rfl
      dsimp only
      apply orElse_keeps (P := Keeps w.inv)
      · unfold deliverFault
        split
        · exact hrecorded.setStatus hacts.suspend
        next self _ =>
          apply orElse_keeps (P := Keeps w.inv)
          · exact hrecorded.operationFaultCall hspeaks hacts.identify
              hacts.blockedFault self (hreceiver self.port)
          · exact fun _ _ hfailed => setStatus hfailed hacts.suspend
      · exact fun _ _ hfailed => w.schedule hfailed

end Keeps

end SystemState

end A9N.Kernel
