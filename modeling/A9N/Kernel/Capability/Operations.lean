import A9N.Kernel.Capability.IoPort
import A9N.Kernel.Capability.Reclamation

/-!
# Invocations that change capabilities

`capability_node.cpp`, `interrupt_region.cpp`, `interrupt_port.cpp` and the capability half of
`process_control_block.cpp`. A process names a slot by a descriptor in its first message register
and the object in that slot reads the others.
-/

namespace A9N.Kernel

abbrev Message := Nat → Word

namespace CapState

variable {σ : Type}

/-! ## Nodes -/

inductive NodeTransfer
  | copy | move | mint
deriving DecidableEq, Repr

/-- `capability_node::operation_transfer`. Every failed lookup is an invalid argument. -/
def operationTransfer (st : CapState σ) (operation : NodeTransfer) (owner : Word) (self : SlotId)
    (node : Word) (message : Message) : Outcome CapabilityError (CapState σ) Unit :=
  if ¬ (st.slots self).hasRights (Slot.read ||| Slot.write) then .error .illegalOperation st
  else
    let newRights := if operation = .mint then message 4 else 0
    match st.retrieveSlot (.node node) (message 2) with
    | .error _ => .error .invalidArgument st
    | .ok destination =>
      match st.lookup owner (message 3) with
      | .error _ => .error .invalidArgument st
      | .ok source =>
        if operation = .move then
          (st.tryMoveCapabilitySlot destination source).transformError
            convertKernelToCapabilityError
        else if (st.slots source).rights &&& Slot.copy = 0 then .error .permissionDenied st
        else if operation = .mint ∧
            (st.slots source).rights.setWidth 64 &&& newRights ≠ newRights then
          .error .permissionDenied st
        else
          ((st.tryCopyCapabilitySlot destination source).transformError
            convertKernelToCapabilityError).andThen fun _ st =>
              if operation = .mint then
                .ok () (st.modifySlot destination fun slot =>
                  { slot with rights := newRights.setWidth 8 })
              else .ok () st

def operationDemote (st : CapState σ) (self : SlotId) (node : Word) (message : Message) :
    Outcome CapabilityError (CapState σ) Unit :=
  if (st.slots self).rights &&& Slot.write = 0 then .error .illegalOperation st
  else
    match st.retrieveSlot (.node node) (message 2) with
    | .error _ => .error .invalidArgument st
    | .ok target =>
      if (st.slots target).rights.setWidth 64 &&& message 4 ≠ message 4 then
        .error .permissionDenied st
      else
        .ok () (st.modifySlot target fun slot => { slot with rights := (message 4).setWidth 8 })

def operationRevoke (st : CapState σ) (ops : ObjectOps σ) (fuel : Nat) (self : SlotId) (node : Word)
    (message : Message) : Run CapabilityError (CapState σ) Unit :=
  if ¬ (st.slots self).hasRights (Slot.read ||| Slot.write) then .error .permissionDenied st
  else
    match st.retrieveSlot (.node node) (message 2) with
    | .error _ => .error .invalidArgument st
    | .ok target =>
      if (st.slots target).type = .none ∨ (st.slots target).component = none then
        .error .invalidDescriptor st
      -- an alias with fewer rights can be removed, but its object cannot be reset through it
      else if ¬ (st.slots target).hasRights (Slot.read ||| Slot.write) then
        .error .permissionDenied st
      else (revokeSlot ops fuel st target).transformError convertKernelToCapabilityError

def operationRemove (st : CapState σ) (ops : ObjectOps σ) (fuel : Nat) (self : SlotId) (node : Word)
    (message : Message) : Run CapabilityError (CapState σ) Unit :=
  if ¬ (st.slots self).hasRights (Slot.read ||| Slot.write) then .error .permissionDenied st
  else
    match st.retrieveSlot (.node node) (message 2) with
    | .error _ => .error .invalidArgument st
    | .ok target => (removeSlot ops fuel st target).transformError convertKernelToCapabilityError

def nodeExecute (st : CapState σ) (ops : ObjectOps σ) (fuel : Nat) (owner : Word) (self : SlotId)
    (node : Word) (message : Message) : Run CapabilityError (CapState σ) Unit :=
  match (message 1).toNat with
  | 1 => some (st.operationTransfer .copy owner self node message)
  | 2 => some (st.operationTransfer .move owner self node message)
  | 3 => some (st.operationTransfer .mint owner self node message)
  | 4 => some (st.operationDemote self node message)
  | 5 => st.operationRevoke ops fuel self node message
  | 6 => st.operationRemove ops fuel self node message
  | _ => .error .illegalOperation st

/-! ## Interrupts -/

def getEmptyCapabilitySlot (st : CapState σ) (owner descriptor index : Word) :
    Except CapabilityLookupError SlotId :=
  match st.lookup owner descriptor with
  | .error e => .error e
  | .ok slot =>
    if (st.slots slot).type ≠ .node then .error .terminal
    else
      match (st.slots slot).component with
      | none => .error .unexpected
      | some component =>
        match st.retrieveSlot component index with
        | .error e => .error e
        | .ok target =>
          if (st.slots target).type ≠ .none then .error .unavailable else .ok target

def tryConfigureInterruptPortSlot (st : CapState σ) (id : SlotId) (irqNumber : Word) (object : Nat) :
    CapState σ :=
  st.setSlot id { component := some .interruptPort, type := .interruptPort, rights := Slot.all
                  data := { first := irqNumber }, object := object }

def setIrqUsed (st : CapState σ) (number : Nat) : CapState σ :=
  { st with irqUsed := Function.update st.irqUsed number true }

/-- `interrupt_region::operation_make_port`. The new port is a new object of the history. -/
def operationMakePort (st : CapState σ) (owner : Word) (self : SlotId) (message : Message) :
    Outcome CapabilityError (CapState σ) Unit :=
  if (st.slots self).rights &&& Slot.write = 0 then .error .permissionDenied st
  else
    match st.getEmptyCapabilitySlot owner (message 3) (message 4) with
    | .error _ => .error .invalidDescriptor st
    | .ok target =>
      let irqNumber := message 2
      if irqNumberMax ≤ irqNumber.toNat then .error .invalidArgument st
      else if st.irqUsed irqNumber.toNat then .error .illegalOperation st
      else
        let st := (st.setIrqUsed irqNumber.toNat).tryConfigureInterruptPortSlot target irqNumber
          st.objectCount
        .ok () ({ st with objectCount := st.objectCount + 1 }.insertChild self target)

def operationBindNotificationPort (st : CapState σ) (owner : Word) (self : SlotId)
    (message : Message) : Outcome CapabilityError (CapState σ) Unit :=
  match st.lookup owner (message 2) with
  | .error _ => .error .invalidDescriptor st
  | .ok source =>
    let irqNumber := (st.slots self).data.first.toNat
    if (st.slots source).type ≠ .notificationPort then .error .invalidDescriptor st
    else if irqNumberMax ≤ irqNumber then
      .error (convertKernelToCapabilityError .unsupported) st
    else if (st.slots (.irq irqNumber)).type ≠ .none then .error .illegalOperation st
    else
      (st.tryCopyCapabilitySlot (.irq irqNumber) source).transformError
        convertKernelToCapabilityError

def operationUnbindNotificationPort (st : CapState σ) (ops : ObjectOps σ) (fuel : Nat)
    (self : SlotId) : Run CapabilityError (CapState σ) Unit :=
  let irqNumber := (st.slots self).data.first.toNat
  if irqNumberMax ≤ irqNumber then .error (convertKernelToCapabilityError .unsupported) st
  else if (st.slots (.irq irqNumber)).type = .none then .ok () st
  else (removeSlot ops fuel st (.irq irqNumber)).transformError convertKernelToCapabilityError

/-- `interrupt_port::execute`. Neither ACK nor GET_IRQ_NUMBER changes a capability. -/
def interruptPortExecute (st : CapState σ) (ops : ObjectOps σ) (fuel : Nat) (owner : Word)
    (self : SlotId) (message : Message) : Run CapabilityError (CapState σ) Unit :=
  match (message 1).toNat with
  | 1 => some (st.operationBindNotificationPort owner self message)
  | 2 => st.operationUnbindNotificationPort ops fuel self
  | 3 | 4 => .ok () st
  | _ => .error .illegalOperation st

/-! ## Process control blocks -/

/-- What `configure_address_space`, `configure_root_node` and their kind have in common: give up
what the process held and copy the named capability into its place. -/
def configureSlot (st : CapState σ) (ops : ObjectOps σ) (fuel : Nat) (field : ProcessSlot)
    (type : CapabilityType) (convert : KernelError → CapabilityError) (owner target : Word)
    (descriptor : Word) (configured : SlotId → CapState σ → CapState σ) :
    Run CapabilityError (CapState σ) Unit :=
  match st.lookup owner descriptor with
  | .error _ => .error .invalidDescriptor st
  | .ok source =>
    if (st.slots source).type ≠ type then .error .invalidDescriptor st
    else
      ((removeSlot ops fuel st (.process target field)).transformError
        fun _ => CapabilityError.fatal).andThen fun _ st =>
          some (((st.tryCopyCapabilitySlot (.process target field) source).transformError
            convert).andThen fun _ st => .ok () (configured source st))

/-- The errors `configure_address_space` makes of a failed copy. -/
def convertCopyError : KernelError → CapabilityError
  | .initFirst => .invalidDescriptor
  | .permissionDenied => .permissionDenied
  | _ => .invalidArgument

def configureAddressSpace (st : CapState σ) (ops : ObjectOps σ) (fuel : Nat)
    (owner target descriptor : Word) : Run CapabilityError (CapState σ) Unit :=
  st.configureSlot ops fuel .rootAddressSpace .addressSpace convertCopyError owner target descriptor
    fun _ st => st

def configureRootNode (st : CapState σ) (ops : ObjectOps σ) (fuel : Nat)
    (owner target descriptor : Word) : Run CapabilityError (CapState σ) Unit :=
  st.configureSlot ops fuel .rootSlot .node convertKernelToCapabilityError owner target descriptor
    fun _ st => st

def configureFrameIpcBuffer (st : CapState σ) (ops : ObjectOps σ) (fuel : Nat)
    (owner target descriptor : Word) : Run CapabilityError (CapState σ) Unit :=
  st.configureSlot ops fuel .bufferFrame .frame convertKernelToCapabilityError owner target descriptor
    fun source st => { st with
      buffer := Function.update st.buffer target
        (some (physicalToVirtualAddress (st.slots source).data.first)) }

def bindProcess (st : CapState σ) (port process : Word) : Outcome KernelError (CapState σ) Unit :=
  if (st.bindedProcess port).any (· ≠ process) then .error .illegalArgument st
  else .ok () { st with bindedProcess := Function.update st.bindedProcess port (some process) }

/-- The old port forgets the process; the result of `unbind_process` is dropped. -/
def unbindOldPort (st : CapState σ) (target : Word) : CapState σ :=
  let bound := st.slots (.process target .bindedNotificationPort)
  match bound.type, bound.component with
  | .notificationPort, some (.notificationPort port) => (st.unbindProcess port target).state
  | _, _ => st

def configureNotificationPort (st : CapState σ) (ops : ObjectOps σ) (fuel : Nat)
    (owner target descriptor : Word) : Run CapabilityError (CapState σ) Unit :=
  match st.lookup owner descriptor with
  | .error _ => .error .invalidDescriptor st
  | .ok source =>
    match (st.slots source).type, (st.slots source).component with
    | .notificationPort, some (.notificationPort port) =>
      let field := SlotId.process target .bindedNotificationPort
      ((removeSlot ops fuel (st.unbindOldPort target) field).transformError
        fun _ => CapabilityError.fatal).andThen fun _ st =>
          some (((st.bindProcess port target).transformError
            convertKernelToCapabilityError).andThen fun _ st =>
              (st.tryCopyCapabilitySlot field source).transformError
                convertKernelToCapabilityError)
    | _, _ => .error .invalidDescriptor st

def configureIpcPortResolver (st : CapState σ) (ops : ObjectOps σ) (fuel : Nat)
    (owner target descriptor : Word) : Run CapabilityError (CapState σ) Unit :=
  st.configureSlot ops fuel .resolverPort .ipcPort convertKernelToCapabilityError owner target
    descriptor fun _ st => st

/-- The table `capability_configurations`, in ABI order: flag, message register and function. -/
def capabilityConfigurations (ops : ObjectOps σ) (fuel : Nat) (owner target : Word) :
    List (Nat × Nat × (Word → CapState σ → Run CapabilityError (CapState σ) Unit)) :=
  [(0, 3, fun descriptor st => st.configureAddressSpace ops fuel owner target descriptor),
    (1, 4, fun descriptor st => st.configureRootNode ops fuel owner target descriptor),
    (2, 5, fun descriptor st => st.configureFrameIpcBuffer ops fuel owner target descriptor),
    (3, 6, fun descriptor st => st.configureNotificationPort ops fuel owner target descriptor),
    (4, 7, fun descriptor st => st.configureIpcPortResolver ops fuel owner target descriptor)]

def configureLoop (message : Message) :
    List (Nat × Nat × (Word → CapState σ → Run CapabilityError (CapState σ) Unit)) →
      CapState σ → Run CapabilityError (CapState σ) Unit
  | [], st => .ok () st
  | (flag, index, configure) :: rest, st =>
    if (message 2).getLsbD flag then
      (configure (message index) st).andThen fun _ st => configureLoop message rest st
    else configureLoop message rest st

/-- `process_control_block::operation_configure` as far as capabilities go. Registers, priority and
affinity are configured behind the loop. -/
def operationConfigure (st : CapState σ) (ops : ObjectOps σ) (fuel : Nat) (owner target : Word)
    (message : Message) : Run CapabilityError (CapState σ) Unit :=
  configureLoop message (capabilityConfigurations ops fuel owner target) st

/-! ## All objects -/

def genericExecute (st : CapState σ) (p : Platform) (ops : ObjectOps σ) (owner : Word)
    (self : SlotId) (message : Message) : Outcome CapabilityError (CapState σ) Unit :=
  if message 1 = 0 then
    st.convert p ops owner self
      { capabilityType := message 2, specificBits := message 3, count := message 4
        rootDescriptor := message 5, slotIndex := message 6 }
  else .error .illegalOperation st

/-- `io_port_capability::execute` as far as capabilities go: READ and WRITE change none. -/
def ioPortMintExecute (st : CapState σ) (owner : Word) (self : SlotId) (message : Message) :
    Outcome CapabilityError (CapState σ) Unit :=
  if (message 1).toNat = 3 then
    st.ioPortMint owner self ⟨message 2, message 3⟩ (message 4) (message 5)
  else .ok () st

def execute (st : CapState σ) (p : Platform) (ops : ObjectOps σ) (fuel : Nat) (owner : Word)
    (self : SlotId) (message : Message) : Run CapabilityError (CapState σ) Unit :=
  match (st.slots self).component with
  | none => .error .fatal st
  | some (.node address) => st.nodeExecute ops fuel owner self address message
  | some .generic => some (st.genericExecute p ops owner self message)
  | some .ioPort => some (st.ioPortMintExecute owner self message)
  | some .interruptRegion =>
    if message 1 = 1 then some (st.operationMakePort owner self message)
    else .error .illegalOperation st
  | some .interruptPort => st.interruptPortExecute ops fuel owner self message
  | some (.processControlBlock target) =>
    if message 1 = 1 then st.operationConfigure ops fuel owner target message else .ok () st
  | some .addressSpace | some .pageTable | some .frame | some (.ipcPort _)
  | some (.notificationPort _) | some (.virtualCpu _) => .ok () st

/-- `handle_capability_call`: find the slot and call its object. -/
def invoke (st : CapState σ) (p : Platform) (ops : ObjectOps σ) (fuel : Nat) (owner : Word)
    (message : Message) : Run CapabilityError (CapState σ) Unit :=
  match st.lookup owner (message 0) with
  | .error _ => .error .invalidDescriptor st
  | .ok self =>
    if (st.slots self).type = .none then .error .invalidDescriptor st
    else st.execute p ops fuel owner self message

def InvokeStep (p : Platform) (ops : ObjectOps σ) (st st' : CapState σ) : Prop :=
  ∃ fuel owner message o, st.invoke p ops fuel owner message = some o ∧ st' = o.state

end CapState

/-! ## A first process

Its root Node has sixteen slots: the process itself, the Node, a megabyte of memory and the Frame of
its IPC buffer. -/

def rootDescriptor (index : Nat) : Word := 0x0400000000000000 ||| BitVec.ofNat 64 index <<< 52

def initTable : SlotId → Slot
  | .process 0x9000 .rootSlot =>
    { component := some (.node 0x2000), type := .node, rights := Slot.all
      nextSlot := some (.node 0x2000 1) }
  | .node 0x2000 1 =>
    { component := some (.node 0x2000), type := .node, rights := Slot.all
      previewSlot := some (.process 0x9000 .rootSlot) }
  | .node 0x2000 0 =>
    { component := some (.processControlBlock 0x9000), type := .processControlBlock
      rights := Slot.all, object := 1 }
  | .node 0x2000 2 =>
    { component := some .generic, type := .generic, rights := Slot.read ||| Slot.write
      data := { first := 0x100000, second := 20, third := 0x100000 }, object := 2 }
  | .node 0x2000 3 =>
    { component := some .frame, type := .frame, rights := Slot.all
      data := { first := 0x7000, third := 12 }, object := 3
      nextSlot := some (.process 0x9000 .bufferFrame) }
  | .process 0x9000 .bufferFrame =>
    { component := some .frame, type := .frame, rights := Slot.all
      data := { first := 0x7000, third := 12 }, object := 3
      previewSlot := some (.node 0x2000 3) }
  | _ => Slot.init

def initBoot : CapState Unit where
  slots := initTable
  nodes address := if address = 0x2000 then { radixBits := 4, hasSlots := true } else {}
  slotCount := 21
  buffer process := if process = 0x9000 then some (physicalToVirtualAddress 0x7000) else none
  bindedProcess _ := none
  irqUsed _ := false
  objects := ()
  objectCount := 4

def CapState.invoked (st : CapState Unit) (message : List Word) : CapState Unit :=
  match st.invoke samplePlatform sampleOps 8 0x9000 fun i => message.getD i 0 with
  | some o => o.state
  | none => st

theorem CapState.invokeStep_invoked {st : CapState Unit} {message : List Word}
    (h : (st.invoke samplePlatform sampleOps 8 0x9000 fun i => message.getD i 0).isSome = true) :
    CapState.InvokeStep samplePlatform sampleOps st (st.invoked message) := by
  obtain ⟨o, ho⟩ := Option.isSome_iff_exists.mp h
  exact ⟨8, 0x9000, _, o, ho, by rw [invoked, ho]⟩

def convertMessage (type specificBits : Word) (index : Nat) : List Word :=
  [rootDescriptor 2, 0, type, specificBits, 1, rootDescriptor 1, BitVec.ofNat 64 index]

end A9N.Kernel
