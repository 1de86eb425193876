import A9N.Kernel.Capability.ReclamationSteps

/-!
# The recursive functions only take the steps

One lemma per callback, over any remover that takes the steps, and an induction on the
nesting bound for `remove_slot` itself.
-/

namespace A9N.Kernel

open CapState Run

namespace Config

variable {σ : Type} {stack : List Frame} {st st' : CapState σ} {target id : SlotId}

/-- A failed `remove_slot(id)`: nothing happened, or an activation for `id` was given up. -/
def Failed (target : SlotId) (stack : List Frame) (st : CapState σ) (id : SlotId)
    (st' : CapState σ) : Prop :=
  (st.slots id).reclaiming = true ∧ st' = st ∨
    ∃ frame st1, frame.slot = id ∧ frame.phase.interrupted ∧
      Steps true target ⟨stack, st⟩ ⟨frame :: stack, st1⟩ ∧ st' = st1.unpin id

theorem Failed.steps (h : Failed target stack st id st') (hinner : stack ≠ []) :
    Steps true target ⟨stack, st⟩ ⟨stack, st'⟩ := by
  obtain ⟨-, h⟩ | ⟨frame, st1, hslot, hphase, hsteps, h⟩ := h
  · rw [h]
    exact Steps.refl _
  · rw [h, ← hslot]
    exact Relation.ReflTransGen.tail hsteps (.inr ⟨rfl, .unpin frame hphase hinner⟩)

/-- What a part of a call does that succeeds. It leaves the Nodes it has entered. -/
structure Ran (target : SlotId) (stack : List Frame) (st st' : CapState σ) : Prop where
  steps : Steps false target ⟨stack, st⟩ ⟨stack, st'⟩
  scopes : st'.activeNodeReclamations = st.activeNodeReclamations

theorem Ran.refl (st : CapState σ) : Ran target stack st st := ⟨Steps.refl _, rfl⟩

theorem Ran.trans {st'' : CapState σ} (h : Ran target stack st st')
    (h' : Ran target stack st' st'') : Ran target stack st st'' :=
  ⟨h.steps.trans h'.steps, h'.scopes.trans h.scopes⟩

/-- What every `remove_slot` does. -/
def RemoveSpec (remove : Remover σ) : Prop :=
  ∀ target stack st id, Called target ⟨stack, st⟩ id →
    (remove st id).Post
      (fun _ st' => Ran target stack st st' ∧ ¬ st'.Occupied id)
      (fun _ st' => Failed target stack st id st')

def RunSpec {ε : Type} (target : SlotId) (stack : List Frame) (st : CapState σ)
    (r : Run ε (CapState σ) Unit) (Q : CapState σ → Prop) : Prop :=
  r.Post (fun _ st' => Ran target stack st st' ∧ Q st')
    (fun _ st' => Steps true target ⟨stack, st⟩ ⟨stack, st'⟩)

namespace RunSpec

variable {ε ε' : Type} {r : Run ε (CapState σ) Unit} {Q R : CapState σ → Prop}

theorem ok (hran : Ran target stack st st') (hQ : Q st') :
    RunSpec target stack st (ok () st' : Run ε (CapState σ) Unit) Q :=
  post_ok ⟨hran, hQ⟩

theorem error {e : ε} (hsteps : Steps true target ⟨stack, st⟩ ⟨stack, st'⟩) :
    RunSpec target stack st (error e st') Q :=
  post_error hsteps

theorem mono (h : RunSpec target stack st r Q)
    (hQ : ∀ st', Ran target stack st st' → Q st' → R st') : RunSpec target stack st r R :=
  Run.Post.mono h (fun _ st' h' => ⟨h'.1, hQ st' h'.1 h'.2⟩) fun _ _ h' => h'

theorem after (hran : Ran target stack st st') (h : RunSpec target stack st' r Q) :
    RunSpec target stack st r Q :=
  Run.Post.mono h (fun _ _ h' => ⟨hran.trans h'.1, h'.2⟩) fun _ _ h' => hran.steps.mayFail.trans h'

theorem andThen {next : Unit → CapState σ → Run ε (CapState σ) Unit} (h : RunSpec target stack st r Q)
    (hnext : ∀ st', Ran target stack st st' → Q st' → RunSpec target stack st' (next () st') R) :
    RunSpec target stack st (r.andThen next) R :=
  Run.Post.andThen h fun _ st' hst' => (hnext st' hst'.1 hst'.2).after hst'.1

theorem transformError {f : ε → ε'} (h : RunSpec target stack st r Q) :
    RunSpec target stack st (r.transformError f) Q :=
  Run.Post.transformError h

theorem of_remove {remove : Remover σ} (h : RemoveSpec remove) {frame : Frame}
    (hcalled : Called target ⟨frame :: stack, st⟩ id) :
    RunSpec target (frame :: stack) st (remove st id) fun st' => ¬ st'.Occupied id := by
  refine (h target _ st id hcalled).mono (fun _ _ h => h) ?_
  intro _ st' h'
  exact h'.steps (List.cons_ne_nil _ _)

theorem of_outside {o : Outcome ε (CapState σ) Unit}
    (hstate : ∃ bindedProcess irqUsed objects, o.state = { st with
        bindedProcess := bindedProcess, irqUsed := irqUsed, objects := objects } ∧
      ∀ port process, bindedProcess port = some process → st.bindedProcess port = some process) :
    RunSpec target stack st (some o) fun _ => True := by
  obtain ⟨bindedProcess, irqUsed, objects, ho, hbinded⟩ := hstate
  have hran : Ran target stack st o.state := by
    rw [ho]
    exact ⟨(Step.outside bindedProcess irqUsed objects hbinded).steps, rfl⟩
  obtain ⟨_ | _, state⟩ := o
  · exact post_some hran.steps.mayFail
  · exact post_some ⟨hran, trivial⟩

theorem onObjects (f : σ → Outcome ε σ Unit) :
    RunSpec target stack st (some (st.onObjects f)) fun _ => True :=
  of_outside ⟨st.bindedProcess, st.irqUsed, _, rfl, fun _ _ h => h⟩

end RunSpec

theorem ran_objects (objects : σ) : Ran target stack st { st with objects := objects } :=
  ⟨(Step.outside st.bindedProcess st.irqUsed objects fun _ _ h => h).steps, rfl⟩

theorem ran_setIrqUnused (number : Nat) : Ran target stack st (st.setIrqUnused number) :=
  ⟨(Step.outside st.bindedProcess _ st.objects fun _ _ h => h).steps, rfl⟩

theorem unbindProcess_outside (port process : Word) :
    ∃ bindedProcess irqUsed objects, (st.unbindProcess port process).state = { st with
        bindedProcess := bindedProcess, irqUsed := irqUsed, objects := objects } ∧
      ∀ port process, bindedProcess port = some process → st.bindedProcess port = some process := by
  rw [unbindProcess]
  split
  · exact ⟨st.bindedProcess, st.irqUsed, st.objects, rfl, fun _ _ h => h⟩
  · refine ⟨Function.update st.bindedProcess port none, st.irqUsed, st.objects, rfl, ?_⟩
    intro other process hp
    by_cases ho : other = port
    · simp [ho] at hp
    · simpa [ho] using hp

theorem ran_unbindProcess (port process : Word) :
    Ran target stack st (st.unbindProcess port process).state := by
  obtain ⟨bindedProcess, irqUsed, objects, hstate, hbinded⟩ :=
    @unbindProcess_outside σ st port process
  rw [hstate]
  exact ⟨(Step.outside bindedProcess irqUsed objects hbinded).steps, rfl⟩

theorem genericRevoke_spec {last : SlotId} {removing : Bool} {record : Revocation}
    (hcomponent : record.object.component = some .generic) :
    RunSpec target (⟨id, last, removing, .callback record⟩ :: stack) st (some (st.genericRevoke id))
      fun _ => True := by
  rw [genericRevoke]
  split_ifs with hchild
  · exact RunSpec.error (Steps.refl _)
  · have hstep : Step target ⟨⟨id, last, removing, .callback record⟩ :: stack, st⟩
        ⟨⟨id, last, removing, .callback record⟩ :: stack, st.resetWatermark id⟩ :=
      .reset id last removing record hcomponent (by simpa using hchild)
    exact RunSpec.ok ⟨hstep.steps, rfl⟩ trivial

section Callbacks

variable {remove : Remover σ} (hremove : RemoveSpec remove) (ops : ObjectOps σ)
  {last : SlotId} {removing : Bool} {record : Revocation}

include hremove

section

variable {address : Word} (hcomponent : record.object.component = some (.node address))
include hcomponent

theorem nodeRevokeLoop_spec (steps index : Nat)
    (htotal : index + steps = (st.nodes address).slotTotal.toNat)
    (hdone : ∀ i < index, SlotId.node address i = id ∨ ¬ st.Occupied (.node address i)) :
    RunSpec target (⟨id, last, removing, .entered record⟩ :: stack) st
      (nodeRevokeLoop remove address id steps index st)
      fun st' => Emptied st' id record.object := by
  induction steps generalizing index st with
  | zero =>
    refine RunSpec.ok (Ran.refl _) ?_
    rw [Nat.add_zero] at htotal
    simp only [Emptied, hcomponent]
    rw [← htotal]
    exact hdone
  | succ steps ih =>
    -- the slots up to `index` are done in the state the iteration leaves
    have extend : ∀ st' : CapState σ, st'.nodes = st.nodes →
        (∀ a, ¬ st.Occupied a → ¬ st'.Occupied a) →
        (SlotId.node address index = id ∨ ¬ st'.Occupied (.node address index)) →
        RunSpec target (⟨id, last, removing, .entered record⟩ :: stack) st'
          (nodeRevokeLoop remove address id steps (index + 1) st')
          fun st' => Emptied st' id record.object := by
      intro st' hnodes hempty hindex
      refine ih (index + 1) (by rw [hnodes]; omega) ?_
      intro i hi
      by_cases hlast : i = index
      · rw [hlast]
        exact hindex
      · exact (hdone i (by omega)).imp_right (hempty _)
    have hlt : index < (st.nodes address).slotTotal.toNat := by omega
    rw [nodeRevokeLoop]
    split_ifs with hslots hself hsame htype
    · exact extend st rfl (fun _ h => h) (.inl hself)
    · have hstep : Step target ⟨⟨id, last, removing, .entered record⟩ :: stack, st⟩
          ⟨⟨id, last, removing, .entered record⟩ :: stack,
            st.unlinkAndClearSlot (.node address index)⟩ :=
        .detach id last removing record address index hcomponent hlt hself hsame
      exact RunSpec.after ⟨hstep.steps, by simp⟩ (extend _ (by simp) (fun _ h => hstep.not_occupied h)
        (.inr (by simp [unlinkAndClearSlot_occupied])))
    · have hcalled : Called target ⟨⟨id, last, removing, .entered record⟩ :: stack, st⟩
          (.node address index) := by
        simp only [Called, Frame.Calls, CapState.Holds, hcomponent]
        exact ⟨hself, hsame, index, hlt, rfl⟩
      refine (RunSpec.of_remove hremove hcalled).transformError.andThen ?_
      intro st' hran hempty
      exact extend st' hran.steps.nodes (fun _ h => hran.steps.not_occupied h) (.inr hempty)
    · exact extend st rfl (fun _ h => h) (.inr htype)
    · exact RunSpec.error (Steps.refl _)

theorem nodeRevoke_spec (hactive : address ∉ st.activeNodeReclamations) :
    RunSpec target (⟨id, last, removing, .callback record⟩ :: stack) st
      (nodeRevoke remove st address id) fun st' => Emptied st' id record.object := by
  have hidle : ¬ st.isReclaiming (.node address) = true := by
    simpa [isReclaiming] using hactive
  have hloop : RunSpec target (⟨id, last, removing, .entered record⟩ :: stack) (st.enterNode address)
      (nodeRevokeLoop remove address id (st.nodes address).slotTotal.toNat 0
        (st.enterNode address)) fun st' => Emptied st' id record.object :=
    nodeRevokeLoop_spec hremove hcomponent _ 0 (Nat.zero_add _)
      (fun i hi => absurd hi (Nat.not_lt_zero i))
  have hfirst : Step target ⟨⟨id, last, removing, .callback record⟩ :: stack, st⟩
      ⟨⟨id, last, removing, .entered record⟩ :: stack, st.enterNode address⟩ :=
    .enter id last removing record address hcomponent hactive
  rw [nodeRevoke, if_neg hidle]
  refine Run.Post.onExit (Run.Post.mono hloop ?_ ?_)
  · intro _ st' h'
    refine ⟨⟨(hfirst.steps.trans h'.1.steps).tail
      (.leave id last removing record address hcomponent), ?_⟩, ?_⟩
    · exact congrArg List.tail h'.1.scopes
    · simpa only [Emptied, leaveNode, CapState.Occupied] using h'.2
  · intro _ st' h'
    exact (hfirst.steps.trans h').tail (.leave id last removing record address hcomponent)

end

section

variable {process : Word}
  (hcomponent : record.object.component = some (.processControlBlock process))
include hcomponent

theorem removeOwnedSlot_spec (field : ProcessSlot) :
    RunSpec target (⟨id, last, removing, .callback record⟩ :: stack) st
      ((remove st (.process process field)).onExit fun st =>
        if field = .bufferFrame then st.clearBuffer process else st)
      fun st' => ¬ st'.Occupied (.process process field) := by
  by_cases hfield : field = .bufferFrame
  · have hcalled : Called target ⟨⟨id, last, removing, .releasing record⟩ :: stack, st⟩
        (.process process field) := by
      simp only [Called, Frame.Calls]
      exact ⟨process, hcomponent, by rw [hfield]⟩
    have hfirst : Step target ⟨⟨id, last, removing, .callback record⟩ :: stack, st⟩
        ⟨⟨id, last, removing, .releasing record⟩ :: stack, st⟩ :=
      .release id last removing record process hcomponent
    have hgive : ∀ st' : CapState σ,
        Step target ⟨⟨id, last, removing, .releasing record⟩ :: stack, st'⟩
          ⟨⟨id, last, removing, .callback record⟩ :: stack, st'.clearBuffer process⟩ :=
      fun st' => .clearBuffer id last removing record process hcomponent
    simp only [if_pos hfield]
    refine Run.Post.onExit (Run.Post.mono (RunSpec.of_remove hremove hcalled) ?_ ?_)
    · intro _ st' h'
      exact ⟨⟨(hfirst.steps.trans h'.1.steps).tail (hgive st'), h'.1.scopes⟩,
        (hgive st').not_occupied h'.2⟩
    · intro _ st' h'
      exact (hfirst.steps.trans h').tail (hgive st')
  · have hcalled : Called target ⟨⟨id, last, removing, .callback record⟩ :: stack, st⟩
        (.process process field) := by
      simp only [Called, Frame.Calls, CapState.Holds, hcomponent]
      exact ⟨by simp, by simp [hfield], field, rfl⟩
    simp only [if_neg hfield]
    exact Run.Post.onExit (RunSpec.of_remove hremove hcalled)

theorem removeOwnedSlots_spec (fields : List ProcessSlot) :
    RunSpec target (⟨id, last, removing, .callback record⟩ :: stack) st
      (removeOwnedSlots remove process fields st)
      fun st' => ∀ field ∈ fields, ¬ st'.Occupied (.process process field) := by
  induction fields generalizing st with
  | nil => exact RunSpec.ok (Ran.refl _) (by simp)
  | cons field fields ih =>
    rw [removeOwnedSlots]
    refine (removeOwnedSlot_spec hremove hcomponent field).transformError.andThen ?_
    intro st' _ hempty
    refine RunSpec.mono ih ?_
    intro st'' hran hfields other hother
    rcases List.mem_cons.mp hother with hother | hother
    · rw [hother]
      exact hran.steps.not_occupied hempty
    · exact hfields other hother

theorem removeBoundNotification_spec :
    RunSpec target (⟨id, last, removing, .callback record⟩ :: stack) st
      (removeBoundNotification remove process st)
      fun st' => ¬ st'.Occupied (.process process .bindedNotificationPort) := by
  have hcalled : ∀ st' : CapState σ, Called target ⟨⟨id, last, removing, .callback record⟩ :: stack, st'⟩
      (.process process .bindedNotificationPort) := by
    intro st'
    simp only [Called, Frame.Calls, CapState.Holds, hcomponent]
    exact ⟨by simp, by simp, _, rfl⟩
  rw [removeBoundNotification]
  refine RunSpec.after ?_ (RunSpec.of_remove hremove (hcalled _)).transformError
  split
  · exact ran_unbindProcess _ process
  · exact Ran.refl _

theorem processControlBlockRevoke_spec :
    RunSpec target (⟨id, last, removing, .callback record⟩ :: stack) st
      (processControlBlockRevoke remove ops st process)
      fun st' => Emptied st' id record.object := by
  rw [processControlBlockRevoke]
  refine (RunSpec.onObjects _).andThen ?_
  intro st1 _ _
  refine (removeOwnedSlots_spec hremove hcomponent _).andThen ?_
  intro st2 _ howned
  refine RunSpec.after (ran_objects _) ((removeBoundNotification_spec hremove hcomponent).mono ?_)
  intro st' hran hbound
  have hempty : ∀ field ∈ ownedSlots, ¬ st'.Occupied (.process process field) :=
    fun field hfield => hran.steps.not_occupied (howned field hfield)
  simp only [Emptied, hcomponent]
  intro field
  cases field with
  | bindedNotificationPort => exact hbound
  | rootSlot | rootAddressSpace | bufferFrame | resolverPort =>
    exact hempty _ (by simp [ownedSlots])

end

section

variable {port : Word} (hcomponent : record.object.component = some (.notificationPort port))
include hcomponent

theorem releaseBinding_spec : RunSpec target (⟨id, last, removing, .callback record⟩ :: stack) st
      (releaseBinding remove st port id) fun _ => True := by
  rw [releaseBinding]
  split
  · exact RunSpec.ok (Ran.refl _) trivial
  · rename_i process hprocess
    refine RunSpec.andThen (Q := fun _ => True) (RunSpec.of_outside ?_) ?_
    · rw [Outcome.transformError_state]
      exact unbindProcess_outside port process
    · intro st' _ _
      dsimp only
      split_ifs with hbound
      · have hcalled : Called target ⟨⟨id, last, removing, .callback record⟩ :: stack, st'⟩
            (.process process .bindedNotificationPort) := by
          simp only [Called, Frame.Calls, CapState.Holds, hcomponent]
          exact ⟨by simp, by simp, hbound.1, hbound.2, process, rfl⟩
        exact (RunSpec.of_remove hremove hcalled).transformError.mono fun _ _ _ => trivial
      · exact RunSpec.ok (Ran.refl _) trivial

theorem notificationPortRevoke_spec :
    RunSpec target (⟨id, last, removing, .callback record⟩ :: stack) st
      (notificationPortRevoke remove ops st port id) fun _ => True := by
  rw [notificationPortRevoke]
  refine (RunSpec.onObjects _).andThen ?_
  intro st1 _ _
  refine (releaseBinding_spec hremove hcomponent).andThen ?_
  intro st2 _ _
  exact RunSpec.ok (ran_objects _) trivial

end

theorem interruptPortRevoke_spec (hobject : record.object = st.slots id)
    (hcomponent : record.object.component = some .interruptPort) :
    RunSpec target (⟨id, last, removing, .callback record⟩ :: stack) st
      (interruptPortRevoke remove ops st id) fun _ => True := by
  rw [interruptPortRevoke]
  split_ifs with hirq
  · exact RunSpec.error (Steps.refl _)
  · refine RunSpec.andThen (Q := fun _ => True) (RunSpec.of_outside ?_) ?_
    · rw [Outcome.transformError_state]
      exact ⟨st.bindedProcess, st.irqUsed, _, rfl, fun _ _ h => h⟩
    · intro st1 _ _
      have hcalled : Called target ⟨⟨id, last, removing, .callback record⟩ :: stack, st1⟩
          (.irq (st.slots id).data.first.toNat) := by
        simp only [Called, Frame.Calls, CapState.Holds, hcomponent]
        exact ⟨by simp, by simp, by rw [hobject]⟩
      refine (RunSpec.of_remove hremove hcalled).transformError.andThen ?_
      intro st2 _ _
      exact RunSpec.ok (ran_setIrqUnused _) trivial

theorem interruptRegionRevoke_spec
    (hcomponent : record.object.component = some .interruptRegion) (steps number : Nat) :
    RunSpec target (⟨id, last, removing, .callback record⟩ :: stack) st
      (interruptRegionRevoke remove steps number st) fun _ => True := by
  induction steps generalizing number st with
  | zero => exact RunSpec.ok (Ran.refl _) trivial
  | succ steps ih =>
    have hcalled : Called target ⟨⟨id, last, removing, .callback record⟩ :: stack,
        st.setIrqUnused number⟩ (.irq number) := by
      simp only [Called, Frame.Calls, CapState.Holds, hcomponent]
      exact ⟨by simp, by simp, number, rfl⟩
    rw [interruptRegionRevoke]
    refine RunSpec.after (ran_setIrqUnused number) ?_
    exact (RunSpec.of_remove hremove hcalled).transformError.andThen
      fun st' _ _ => ih (number + 1)

theorem componentRevoke_spec (hobject : record.object = st.slots id) {component : Component}
    (hcomponent : record.object.component = some component)
    (hidle : st.isReclaiming component = false) :
    RunSpec target (⟨id, last, removing, .callback record⟩ :: stack) st
      (componentRevoke remove ops st component id)
      fun st' => Emptied st' id record.object := by
  -- the objects that own no slots have nothing to show
  have owns : ∀ {r : Run CapabilityError (CapState σ) Unit},
      (∀ address, component ≠ .node address) → (∀ process, component ≠ .processControlBlock process) →
      RunSpec target (⟨id, last, removing, .callback record⟩ :: stack) st r (fun _ => True) →
      RunSpec target (⟨id, last, removing, .callback record⟩ :: stack) st r
        fun st' => Emptied st' id record.object := by
    intro r hnode hprocess h
    refine h.mono fun st' _ _ => ?_
    cases component <;> simp_all [Emptied]
  cases component with
  | node address =>
    exact nodeRevoke_spec hremove hcomponent (by simpa [isReclaiming] using hidle)
  | processControlBlock process => exact processControlBlockRevoke_spec hremove ops hcomponent
  | generic => exact owns (by simp) (by simp) (genericRevoke_spec hcomponent)
  | ipcPort port => exact owns (by simp) (by simp) (RunSpec.onObjects _)
  | notificationPort port =>
    exact owns (by simp) (by simp) (notificationPortRevoke_spec hremove ops hcomponent)
  | interruptPort =>
    exact owns (by simp) (by simp) (interruptPortRevoke_spec hremove ops hobject hcomponent)
  | interruptRegion =>
    exact owns (by simp) (by simp) (interruptRegionRevoke_spec hremove hcomponent _ _)
  | addressSpace | pageTable | frame | ioPort | virtualCpu _ =>
    exact owns (by simp) (by simp) (RunSpec.ok (Ran.refl _) trivial)

theorem removeDescendants_spec (fuel : Nat) :
    RunSpec target (⟨id, last, removing, .descendants⟩ :: stack) st
      (removeDescendants remove id last fuel st)
      fun st' => ∀ next, (st'.slots last).nextSlot = some next →
        ¬ (st'.slots id).depth < (st'.slots next).depth := by
  induction fuel generalizing st with
  | zero => exact post_none
  | succ fuel ih =>
    rw [removeDescendants]
    split
    · rename_i hnone
      refine RunSpec.ok (Ran.refl _) ?_
      intro next hnext
      simp [hnone] at hnext
    · rename_i next hnext
      split_ifs with hdepth
      · have hcalled : Called target ⟨⟨id, last, removing, .descendants⟩ :: stack, st⟩ next :=
          ⟨hnext, hdepth⟩
        exact (RunSpec.of_remove hremove hcalled).andThen fun st' _ _ => ih
      · refine RunSpec.ok (Ran.refl _) ?_
        intro other hother
        rw [hnext, Option.some.injEq] at hother
        rwa [← hother]

def Finished (frame : Frame) : Prop :=
  frame.phase = .reentered ∨ ∃ record, frame.phase = .completed record

theorem revokeObject_spec (hend : ∀ next, (st.slots last).nextSlot = some next →
      ¬ (st.slots id).depth < (st.slots next).depth) :
    (revokeObject remove ops st id).Post
      (fun _ st' => ∃ phase, Finished ⟨id, last, removing, phase⟩ ∧
        Steps false target ⟨⟨id, last, removing, .descendants⟩ :: stack, st⟩
          ⟨⟨id, last, removing, phase⟩ :: stack, st'⟩ ∧
        st'.activeNodeReclamations = st.activeNodeReclamations)
      (fun _ st' => ∃ phase, phase.interrupted ∧
        Steps true target ⟨⟨id, last, removing, .descendants⟩ :: stack, st⟩
          ⟨⟨id, last, removing, phase⟩ :: stack, st'⟩) := by
  rw [revokeObject]
  split
  · exact post_none
  · rename_i component hcomponent
    let record : Revocation := ⟨id, st.slots id, st.hasChild id, st.activeNodeReclamations⟩
    have hbegin : Step target ⟨⟨id, last, removing, .descendants⟩ :: stack, st⟩
        ⟨⟨id, last, removing, .callback record⟩ :: stack, st⟩ :=
      .begin id last removing (by simp [hcomponent]) hend
    refine Run.Post.transformError ?_
    rw [runCallback]
    by_cases hreentered : st.isReclaiming component = true
    · -- only a Node can be in the middle of its own callback
      cases component with
      | node address =>
        have hactive : address ∈ st.activeNodeReclamations := by
          simpa [isReclaiming] using hreentered
        have hstep : Step target ⟨⟨id, last, removing, .callback record⟩ :: stack, st⟩
            ⟨⟨id, last, removing, .reentered⟩ :: stack, st⟩ :=
          .reenter id last removing record address hcomponent hactive
        simp only [componentRevoke, nodeRevoke, hreentered, if_true]
        exact post_ok ⟨_, .inl rfl, hbegin.steps.tail hstep, rfl⟩
      | _ => simp [isReclaiming] at hreentered
    · have hidle : st.isReclaiming component = false := by simpa using hreentered
      have hrun : RunSpec target (⟨id, last, removing, .callback record⟩ :: stack) st
          (componentRevoke remove ops st component id)
          fun st' => Emptied st' id record.object :=
        componentRevoke_spec hremove ops rfl hcomponent hidle
      refine Run.Post.andThen (Run.Post.mono hrun (fun _ _ h => h) ?_) ?_
      · intro _ st' h'
        exact ⟨.callback record, trivial, hbegin.steps.trans h'⟩
      · intro _ st' h'
        rw [hidle]
        refine post_ok ⟨.completed record, .inr ⟨record, rfl⟩, ?_, h'.1.scopes⟩
        refine (hbegin.steps.trans h'.1.steps).tail (.complete id last removing record h'.2 ?_)
        intro address hnode
        rw [h'.1.scopes]
        have hnode' : component = .node address := Option.some.inj (hcomponent.symm.trans hnode)
        rw [hnode'] at hidle
        simpa [isReclaiming] using hidle

theorem revokeSlotWith_spec (fuel : Nat) (hcalled : Called target ⟨stack, st⟩ id)
    (hremoving : removing = true → st.hasSibling id = false)
    (hrevoking : removing = false → stack = []) :
    (revokeSlotWith remove ops fuel st id).Post
      (fun _ st' => ∃ frame st1, frame.slot = id ∧ frame.removing = removing ∧ Finished frame ∧
        Steps false target ⟨stack, st⟩ ⟨frame :: stack, st1⟩ ∧
        st1.activeNodeReclamations = st.activeNodeReclamations ∧ st' = st1.unpin id)
      (fun _ st' => ((st.slots id).type = .none ∨ (st.slots id).component = none ∨
          (st.slots id).reclaiming = true) ∧ st' = st ∨
        ∃ frame st1, frame.slot = id ∧ frame.phase.interrupted ∧
          Steps true target ⟨stack, st⟩ ⟨frame :: stack, st1⟩ ∧ st' = st1.unpin id) := by
  rw [revokeSlotWith]
  dsimp only
  split_ifs with hrefused
  · exact post_error (.inl ⟨hrefused, rfl⟩)
  · obtain ⟨htype, hcomponent, hpin⟩ := by simpa only [not_or] using hrefused
    have hfirst : Step target ⟨stack, st⟩
        ⟨⟨id, (st.pin id).lastAliasInGroup id, removing, .descendants⟩ :: stack, st.pin id⟩ :=
      .pin id removing hcalled (by simpa using hpin) htype hcomponent hremoving hrevoking
    have hloop : RunSpec target (⟨id, (st.pin id).lastAliasInGroup id, removing, .descendants⟩ :: stack)
        (st.pin id) (removeDescendants remove id ((st.pin id).lastAliasInGroup id) fuel
          (st.pin id)) _ :=
      removeDescendants_spec hremove fuel
    refine Run.Post.onExit (Run.Post.andThen (Run.Post.mono hloop (fun _ _ h => h) ?_) ?_)
    · intro _ st' h'
      exact .inr ⟨⟨id, _, removing, .descendants⟩, st', rfl, trivial, hfirst.steps.trans h', rfl⟩
    · intro _ st' h'
      have hobject := @revokeObject_spec σ stack st' target id remove hremove ops _ removing h'.2
      refine hobject.mono ?_ ?_
      · intro _ st'' h''
        obtain ⟨phase, hphase, hsteps, hscopes⟩ := h''
        exact ⟨_, st'', rfl, rfl, hphase, (hfirst.steps.trans h'.1.steps).trans hsteps,
          hscopes.trans h'.1.scopes, rfl⟩
      · intro _ st'' h''
        obtain ⟨phase, hphase, hsteps⟩ := h''
        exact .inr ⟨_, st'', rfl, hphase,
          (hfirst.steps.trans h'.1.steps.mayFail).trans hsteps, rfl⟩

theorem removeSlotWith_spec (fuel : Nat) :
    RemoveSpec (removeSlotWith (revokeSlotWith remove ops fuel)) := by
  intro target stack st id hcalled
  have hcleared : ¬ (st.unlinkAndClearSlot id).Occupied id := by
    simp [unlinkAndClearSlot_occupied]
  rw [removeSlotWith]
  split_ifs with hpin hany htype hsibling hcomponent
  · obtain ⟨component, hcomponent, hreclaiming⟩ := Option.any_eq_true _ _ |>.mp hany
    cases component with
    | node address =>
      have hactive : address ∈ st.activeNodeReclamations := by
        simpa [isReclaiming] using hreclaiming
      exact post_ok ⟨⟨(Step.breakCycle id address hcalled hpin hcomponent hactive).steps,
        unlinkAndClearSlot_activeNodeReclamations _ _⟩, hcleared⟩
    | _ => simp [isReclaiming] at hreclaiming
  · exact post_error (.inl ⟨hpin, rfl⟩)
  · have hempty : ¬ st.Occupied id := by simpa [CapState.Occupied] using htype
    exact post_ok ⟨⟨(Step.clearEmpty id hcalled (by simpa using hpin) hempty).steps,
      unlinkAndClearSlot_activeNodeReclamations _ _⟩, hcleared⟩
  · exact post_ok
      ⟨⟨(Step.clearAlias id hcalled (by simpa using hpin) htype hsibling).steps,
        unlinkAndClearSlot_activeNodeReclamations _ _⟩, hcleared⟩
  · exact post_ok
      ⟨⟨(Step.clearDangling id hcalled (by simpa using hpin) htype hcomponent).steps,
        unlinkAndClearSlot_activeNodeReclamations _ _⟩, hcleared⟩
  · have hrevoke := @revokeSlotWith_spec σ stack st target id remove hremove ops true fuel hcalled
      (fun _ => by simpa using hsibling) (fun h => by simp at h)
    refine Run.Post.andThen (Run.Post.transformError (Run.Post.mono hrevoke (fun _ _ h => h) ?_)) ?_
    · intro _ st' h'
      obtain ⟨hrefused, -⟩ | h' := h'
      · simp [htype, hcomponent, hpin] at hrefused
      · exact .inr h'
    · intro _ st' h'
      obtain ⟨⟨slot, last, removing, phase⟩, st1, hslot, hrem, hphase, hsteps, hscopes, hst'⟩ := h'
      dsimp only at hslot hrem
      subst hslot hrem hst'
      exact post_ok ⟨⟨hsteps.tail (.finalise slot last phase hphase),
        (unlinkAndClearSlot_activeNodeReclamations _ _).trans hscopes⟩,
        by simp [unlinkAndClearSlot_occupied]⟩

end Callbacks

theorem removeSlot_spec (ops : ObjectOps σ) (fuel : Nat) : RemoveSpec (removeSlot ops fuel) := by
  induction fuel with
  | zero =>
    intro target stack st id _
    exact post_none
  | succ fuel ih => exact removeSlotWith_spec ih ops fuel

theorem revokeSlot_spec (ops : ObjectOps σ) (fuel : Nat) (st : CapState σ) (id : SlotId) :
    (revokeSlot ops fuel st id).Post
      (fun _ st' => ∃ frame st1, frame.slot = id ∧ frame.removing = false ∧ Finished frame ∧
        Steps false id ⟨[], st⟩ ⟨[frame], st1⟩ ∧
        st1.activeNodeReclamations = st.activeNodeReclamations ∧ st' = st1.unpin id)
      (fun _ st' => ((st.slots id).type = .none ∨ (st.slots id).component = none ∨
          (st.slots id).reclaiming = true) ∧ st' = st ∨
        ∃ frame st1, frame.slot = id ∧ frame.phase.interrupted ∧
          Steps true id ⟨[], st⟩ ⟨[frame], st1⟩ ∧ st' = st1.unpin id) :=
  revokeSlotWith_spec (removeSlot_spec ops fuel) ops fuel rfl (fun h => by simp at h)
    fun _ => rfl

end Config

end A9N.Kernel
