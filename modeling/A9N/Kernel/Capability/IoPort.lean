import A9N.Kernel.Capability.Transfer

/-!
# I/O ports

`io_port_capability.cpp` and the port access of the two HALs. A slot carries the range of port
addresses it stands for.
-/

namespace A9N.Hal

open Kernel

inductive PortAccess
  | read (port : Nat)
  | write (port : Nat) (value : BitVec 8)
deriving DecidableEq, Repr

namespace PortAccess

def port : PortAccess → Nat
  | .read port => port
  | .write port _ => port

end PortAccess

def isPortWidth (byteWidth : Word) : Bool := byteWidth == 1 || byteWidth == 2 || byteWidth == 4

def portAddresses (address byteWidth : Word) : List Nat :=
  (List.range byteWidth.toNat).map (address.toNat % 2 ^ 16 + ·)

def readIoPort (architecture : Architecture) (device : Nat → BitVec 8) (address byteWidth : Word) :
    Except HalError (Word × List PortAccess) :=
  match architecture with
  | .x86_64 =>
    if isPortWidth byteWidth then
      .ok ((portAddresses address byteWidth).foldr
          (fun port word => word <<< 8 ||| (device port).zeroExtend 64) 0,
        (portAddresses address byteWidth).map .read)
    else .error .illegalArgument
  | .aarch64 => .error .unsupported

def writeIoPort (architecture : Architecture) (address byteWidth data : Word) :
    Except HalError (List PortAccess) :=
  match architecture with
  | .x86_64 =>
    if isPortWidth byteWidth then
      .ok ((List.range byteWidth.toNat).map fun i =>
        .write (address.toNat % 2 ^ 16 + i) ((data >>> (8 * i)).truncate 8))
    else .error .illegalArgument
  | .aarch64 => .error .unsupported

theorem mem_portAddresses {address byteWidth : Word} {port : Nat} :
    port ∈ portAddresses address byteWidth ↔
      address.toNat % 2 ^ 16 ≤ port ∧ port < address.toNat % 2 ^ 16 + byteWidth.toNat := by
  unfold portAddresses
  rw [List.mem_map]
  constructor
  · rintro ⟨i, hi, rfl⟩
    rw [List.mem_range] at hi
    omega
  · rintro ⟨hle, hlt⟩
    exact ⟨port - address.toNat % 2 ^ 16, List.mem_range.mpr (by omega), by omega⟩

end A9N.Hal

namespace A9N.Kernel

open Hal (PortAccess portAddresses isPortWidth readIoPort writeIoPort)

structure IoPortAddressRange where
  min : Word
  max : Word
deriving DecidableEq, Repr

namespace IoPortAddressRange

def Contains (range : IoPortAddressRange) (port : Nat) : Prop :=
  range.min.toNat ≤ port ∧ port ≤ range.max.toNat

def Within (range outer : IoPortAddressRange) : Prop :=
  outer.min ≤ range.min ∧ range.max ≤ outer.max

theorem Within.trans {a b c : IoPortAddressRange} (hab : a.Within b) (hbc : b.Within c) :
    a.Within c :=
  ⟨BitVec.le_trans hbc.1 hab.1, BitVec.le_trans hab.2 hbc.2⟩

end IoPortAddressRange

def judgeRangeIsSubset (currentRange newRange : IoPortAddressRange) : Except CapabilityError Unit :=
  if newRange.min > newRange.max then .error .invalidArgument
  else if newRange.min < currentRange.min ∨ newRange.max > currentRange.max then
    .error .permissionDenied
  else .ok ()

def isAddressIsInRange (range : IoPortAddressRange) (address : Word) : Bool :=
  decide (address ≥ range.min) && decide (address ≤ range.max)

def convertSlotDataToAddressRange (data : SlotData) : IoPortAddressRange := ⟨data.first, data.second⟩

def convertAddressRangeToSlotData (range : IoPortAddressRange) : SlotData :=
  { first := range.min, second := range.max }

def Slot.portRange (slot : Slot) : IoPortAddressRange := convertSlotDataToAddressRange slot.data

theorem judgeRangeIsSubset_within {currentRange newRange : IoPortAddressRange}
    (hok : judgeRangeIsSubset currentRange newRange = .ok ()) : newRange.Within currentRange := by
  unfold judgeRangeIsSubset at hok
  split at hok
  · cases hok
  · split at hok
    · cases hok
    next houtside =>
      rw [not_or] at houtside
      exact ⟨BitVec.not_lt.mp houtside.1, BitVec.not_lt.mp houtside.2⟩

namespace CapState

variable {σ : Type}

def tryConfigureIoPortSlot (st : CapState σ) (id : SlotId) (range : IoPortAddressRange) :
    CapState σ :=
  st.setSlot id { component := some .ioPort, type := .ioPort, rights := Slot.all
                  data := convertAddressRangeToSlotData range }

/-- `io_port_capability::operation_mint` on the slot `self`, invoked by the process `owner`. -/
def ioPortMint (st : CapState σ) (owner : Word) (self : SlotId) (newRange : IoPortAddressRange)
    (destinationNode destinationIndex : Word) : Outcome CapabilityError (CapState σ) Unit :=
  if ¬ (st.slots self).hasRights Slot.copy then .error .permissionDenied st
  else
    match judgeRangeIsSubset (st.slots self).portRange newRange with
    | .error e => .error e st
    | .ok () =>
      match st.tryGetSlotFromNodeAndIndex owner destinationNode destinationIndex with
      | .error e => .error (convertKernelToCapabilityError e) st
      | .ok destination =>
        if (st.slots destination).type ≠ .none then .error .invalidArgument st
        else
          let st := st.tryConfigureIoPortSlot destination newRange
          let st := st.modifySlot destination fun slot =>
            { slot with rights := (st.slots self).rights }
          if (st.slots self).isSameObject (st.slots destination) then
            .ok () (st.insertSibling self destination)
          else .ok () (st.insertChild self destination)

end CapState

/-- `io_port_capability::operation_write`: the bytes it puts out. -/
def ioPortWrite (architecture : Architecture) (self : Slot) (port byteWidth data : Word) :
    Except CapabilityError (List PortAccess) :=
  if ¬ self.hasRights Slot.write then .error .permissionDenied
  else if ¬ isAddressIsInRange self.portRange port then .error .permissionDenied
  else
    match writeIoPort architecture port byteWidth data with
    | .error _ => .error .fatal
    | .ok accesses => .ok accesses

/-- `io_port_capability::operation_read`: no range is checked. -/
def ioPortRead (architecture : Architecture) (device : Nat → BitVec 8) (self : Slot)
    (port byteWidth : Word) : Except CapabilityError (Word × List PortAccess) :=
  if ¬ self.hasRights Slot.read then .error .permissionDenied
  else
    match readIoPort architecture device port byteWidth with
    | .error _ => .error .fatal
    | .ok result => .ok result

/-- `io_port_capability::execute` with the message registers of the caller. The state also records
the port accesses; the value is what READ returns in `READ_DATA`. -/
def ioPortExecute {σ : Type} (p : Platform) (device : Nat → BitVec 8) (st : CapState σ)
    (owner : Word) (self : SlotId) (message : Nat → Word) :
    Outcome CapabilityError (CapState σ × List PortAccess) (Option Word) :=
  match (message 1).toNat with
  | 1 =>
    match ioPortRead p.architecture device (st.slots self) (message 2) (message 3) with
    | .error e => .error e (st, [])
    | .ok (data, accesses) => .ok (some data) (st, accesses)
  | 2 =>
    match ioPortWrite p.architecture (st.slots self) (message 2) (message 3) (message 4) with
    | .error e => .error e (st, [])
    | .ok accesses => .ok none (st, accesses)
  | 3 =>
    let o := st.ioPortMint owner self ⟨message 2, message 3⟩ (message 4) (message 5)
    ⟨o.result.map fun _ => none, (o.state, [])⟩
  | _ => .error .illegalOperation (st, [])

/-! ### What MINT changes -/

namespace CapState

variable {σ : Type} {st : CapState σ}

theorem insertSibling_type_data (st : CapState σ) (id sibling a : SlotId) :
    ((st.insertSibling id sibling).slots a).type = (st.slots a).type ∧
      ((st.insertSibling id sibling).slots a).data = (st.slots a).data := by
  have hcontent := Slot.content_fields (insert_content
    (st.modifySlot sibling fun slot => { slot with depth := (st.slots id).depth }) id sibling a)
  rw [modifySlot_slots] at hcontent
  split_ifs at hcontent with ha
  · rw [ha] at hcontent ⊢
    exact ⟨hcontent.2.1, hcontent.2.2.2.2.1⟩
  · exact ⟨hcontent.2.1, hcontent.2.2.2.2.1⟩

theorem insertChild_type_data (st : CapState σ) (parent child a : SlotId) :
    ((st.insertChild parent child).slots a).type = (st.slots a).type ∧
      ((st.insertChild parent child).slots a).data = (st.slots a).data := by
  unfold insertChild
  dsimp only
  generalize hdeeper : st.modifySlot child (fun slot => { slot with depth := _ }) = deeper
  have hcontent := Slot.content_fields (insert_content deeper (deeper.lastAliasInGroup parent) child a)
  rw [hcontent.2.1, hcontent.2.2.2.2.1, ← hdeeper, modifySlot_slots]
  split_ifs with ha
  · rw [ha]
    exact ⟨rfl, rfl⟩
  · exact ⟨rfl, rfl⟩

theorem ioPortMint_post (st : CapState σ) (owner : Word) (self : SlotId)
    (newRange : IoPortAddressRange) (node index : Word) :
    (st.ioPortMint owner self newRange node index).Post
      (fun _ st' => ∃ destination, (st.slots destination).type = .none ∧
        newRange.Within (st.slots self).portRange ∧ (st'.slots destination).portRange = newRange ∧
        ∀ a, a ≠ destination → (st'.slots a).type = (st.slots a).type ∧
          (st'.slots a).data = (st.slots a).data)
      (fun _ st' => st' = st) := by
  unfold ioPortMint
  split
  · exact rfl
  · split
    · exact rfl
    next hsubset =>
      split
      · exact rfl
      next destination _ =>
        split
        · exact rfl
        next hempty =>
          dsimp only
          generalize hfilled : (st.tryConfigureIoPortSlot destination newRange).modifySlot
            destination (fun slot => { slot with rights := _ }) = filled
          have hself : (filled.slots destination).data = convertAddressRangeToSlotData newRange := by
            rw [← hfilled, modifySlot_slots, if_pos rfl, tryConfigureIoPortSlot, setSlot_slots_self]
          have hother : ∀ a, a ≠ destination → filled.slots a = st.slots a := by
            intro a ha
            rw [← hfilled, modifySlot_slots, if_neg ha, tryConfigureIoPortSlot,
              setSlot_slots_of_ne _ _ ha]
          -- linking the slot changes no type and no data
          have hlinked : ∀ st' : CapState σ, (∀ a, (st'.slots a).type = (filled.slots a).type ∧
              (st'.slots a).data = (filled.slots a).data) → ∃ destination,
              (st.slots destination).type = .none ∧ newRange.Within (st.slots self).portRange ∧
              (st'.slots destination).portRange = newRange ∧
              ∀ a, a ≠ destination → (st'.slots a).type = (st.slots a).type ∧
                (st'.slots a).data = (st.slots a).data := by
            intro st' hsame
            refine ⟨destination, not_not.mp hempty, judgeRangeIsSubset_within hsubset, ?_, ?_⟩
            · rw [Slot.portRange, (hsame destination).2, hself]
              rfl
            · intro a ha
              rw [← hother a ha]
              exact hsame a
          split
          · exact hlinked _ (insertSibling_type_data _ _ _)
          · exact hlinked _ (insertChild_type_data _ _ _)

end CapState

/-! ### Runs -/

/-- Capabilities and, as a ghost, the ranges of the slots that each slot was minted from. -/
structure IoPorts (σ : Type) where
  cap : CapState σ
  origins : SlotId → List IoPortAddressRange

/-- The steps of any number of processes: an operation on an I/O port, whose MINT extends the
chain of `self`, or an operation on other capabilities. Those copy, move or remove I/O ports and
make none. -/
inductive IoPortStep {σ : Type} (p : Platform) : IoPorts σ → IoPorts σ → Prop
  | execute {s : IoPorts σ} (device : Nat → BitVec 8) (owner : Word) (self : SlotId)
      (message : Nat → Word) (hself : (s.cap.slots self).type = .ioPort) :
      IoPortStep p s
        { cap := (ioPortExecute p device s.cap owner self message).state.1
          origins := fun id =>
            if (s.cap.slots id).type = .ioPort then s.origins id
            else (s.cap.slots self).portRange :: s.origins self }
  | other {s : IoPorts σ} (cap : CapState σ) (source : SlotId → SlotId)
      (hsource : ∀ id, (cap.slots id).type = .ioPort →
        (s.cap.slots (source id)).type = .ioPort ∧
          (cap.slots id).data = (s.cap.slots (source id)).data) :
      IoPortStep p s ⟨cap, fun id => s.origins (source id)⟩

def IoPorts.Nested {σ : Type} (s : IoPorts σ) : Prop :=
  ∀ id, (s.cap.slots id).type = .ioPort →
    ∀ range ∈ s.origins id, (s.cap.slots id).portRange.Within range

theorem IoPorts.Nested.step {σ : Type} {p : Platform} {s s' : IoPorts σ} (h : s.Nested)
    (hstep : IoPortStep p s s') : s'.Nested := by
  cases hstep with
  | other cap source hsource =>
    intro id hid range hrange
    obtain ⟨htype, hdata⟩ := hsource id hid
    have hwithin := h (source id) htype range hrange
    unfold Slot.portRange at hwithin ⊢
    rwa [← hdata] at hwithin
  | execute device owner self message hself =>
    have hsame : ∀ st' : CapState σ, (∀ a, (st'.slots a).type = (s.cap.slots a).type ∧
        (st'.slots a).data = (s.cap.slots a).data) → IoPorts.Nested ⟨st', fun id =>
          if (s.cap.slots id).type = .ioPort then s.origins id
          else (s.cap.slots self).portRange :: s.origins self⟩ := by
      intro st' hst' id hid range hrange
      dsimp only at hid hrange ⊢
      rw [(hst' id).1] at hid
      rw [if_pos hid] at hrange
      rw [Slot.portRange, (hst' id).2]
      exact h id hid range hrange
    unfold ioPortExecute
    split
    · split
      · exact hsame _ fun _ => ⟨rfl, rfl⟩
      · exact hsame _ fun _ => ⟨rfl, rfl⟩
    · split
      · exact hsame _ fun _ => ⟨rfl, rfl⟩
      · exact hsame _ fun _ => ⟨rfl, rfl⟩
    · have hpost := s.cap.ioPortMint_post owner self ⟨message 2, message 3⟩ (message 4) (message 5)
      generalize s.cap.ioPortMint owner self _ _ _ = o at hpost
      obtain ⟨_ | _, st'⟩ := o
      · cases hpost
        exact hsame _ fun _ => ⟨rfl, rfl⟩
      · obtain ⟨destination, hempty, hwithin, hrange', hother⟩ := hpost
        intro id hid range hrange
        dsimp only at hid hrange ⊢
        by_cases hd : id = destination
        · -- the minted slot: the range of `self`, then the ranges above it
          rw [hd] at hrange ⊢
          rw [if_neg (by rw [hempty]; decide), List.mem_cons] at hrange
          rw [hrange']
          rcases hrange with rfl | hrange
          · exact hwithin
          · exact hwithin.trans (h self hself range hrange)
        · rw [(hother id hd).1] at hid
          rw [if_pos hid] at hrange
          rw [Slot.portRange, (hother id hd).2]
          exact h id hid range hrange
    · exact hsame _ fun _ => ⟨rfl, rfl⟩

/-- What `operation_write` and `write_io_port` test before they put out the first byte. -/
def WriteAccepted (architecture : Architecture) (self : Slot) (port byteWidth : Word) : Prop :=
  architecture = .x86_64 ∧ self.hasRights Slot.write = true ∧
    isAddressIsInRange self.portRange port = true ∧ isPortWidth byteWidth = true

section

variable {architecture : Architecture} {self : Slot} {port byteWidth : Word}

theorem ioPortWrite_accepted (h : WriteAccepted architecture self port byteWidth) (data : Word) :
    ∃ accesses, ioPortWrite architecture self port byteWidth data = .ok accesses ∧
      accesses.map PortAccess.port = portAddresses port byteWidth := by
  obtain ⟨rfl, hright, hrange, hwidth⟩ := h
  unfold ioPortWrite writeIoPort
  rw [if_neg (not_not.mpr hright), if_neg (not_not.mpr hrange), if_pos hwidth]
  exact ⟨_, rfl, List.map_map.trans rfl⟩

theorem ioPortWrite_refused (h : ¬ WriteAccepted architecture self port byteWidth) (data : Word) :
    ∃ e, ioPortWrite architecture self port byteWidth data = .error e := by
  unfold ioPortWrite
  split
  · exact ⟨_, rfl⟩
  next hright =>
    split
    · exact ⟨_, rfl⟩
    next hrange =>
      cases architecture with
      | aarch64 => exact ⟨_, rfl⟩
      | x86_64 =>
        have hwidth : isPortWidth byteWidth = false := by
          by_contra hne
          exact h ⟨rfl, not_not.mp hright, not_not.mp hrange, Bool.not_eq_false _ ▸ hne⟩
        exact ⟨.fatal, by simp [writeIoPort, hwidth]⟩

end

theorem isPortWidth_pos {byteWidth : Word} (h : isPortWidth byteWidth = true) :
    0 < byteWidth.toNat := by
  unfold isPortWidth at h
  rw [Bool.or_eq_true, Bool.or_eq_true, beq_iff_eq, beq_iff_eq, beq_iff_eq] at h
  rcases h with (rfl | rfl) | rfl <;> decide

/-- In every run of MINTs from the boot capabilities a port is within all the ports it was minted
from, and a WRITE stays in the range of its slot exactly if, where it is accepted, the bytes from the
low 16 bits of the address on do so. -/
theorem run_ioPortWrite_confined {σ : Type} {p : Platform} {s₀ s : IoPorts σ}
    (hboot : ∀ id, (s₀.cap.slots id).type = .ioPort → s₀.origins id = [])
    (hrun : Relation.ReflTransGen (IoPortStep p) s₀ s) {self : SlotId}
    (hself : (s.cap.slots self).type = .ioPort) :
    (∀ range ∈ s.origins self, (s.cap.slots self).portRange.Within range) ∧
    ∀ (device : Nat → BitVec 8) (owner : Word) (message : Nat → Word), message 1 = 2 →
      ((∀ access ∈ (ioPortExecute p device s.cap owner self message).state.2,
          (s.cap.slots self).portRange.Contains access.port) ↔
        (WriteAccepted p.architecture (s.cap.slots self) (message 2) (message 3) →
          (s.cap.slots self).portRange.min.toNat ≤ (message 2).toNat % 2 ^ 16 ∧
            (message 2).toNat % 2 ^ 16 + (message 3).toNat ≤
              (s.cap.slots self).portRange.max.toNat + 1)) := by
  have hnested : s.Nested := by
    clear hself
    induction hrun with
    | refl =>
      intro id hid range hrange
      rw [hboot id hid] at hrange
      cases hrange
    | tail _ hstep ih => exact ih.step hstep
  refine ⟨hnested self hself, fun device owner message hwrite => ?_⟩
  have hexecute : ioPortExecute p device s.cap owner self message =
      match ioPortWrite p.architecture (s.cap.slots self) (message 2) (message 3) (message 4) with
      | .error e => .error e (s.cap, [])
      | .ok accesses => .ok none (s.cap, accesses) := by
    unfold ioPortExecute
    rw [hwrite]
    rfl
  rw [hexecute]
  by_cases haccepted : WriteAccepted p.architecture (s.cap.slots self) (message 2) (message 3)
  · obtain ⟨accesses, hok, hports⟩ := ioPortWrite_accepted haccepted (message 4)
    have hpos := isPortWidth_pos haccepted.2.2.2
    -- the first and the last byte decide
    have hall : (∀ access ∈ accesses, (s.cap.slots self).portRange.Contains access.port) ↔
        ∀ port ∈ portAddresses (message 2) (message 3),
          (s.cap.slots self).portRange.Contains port := by
      rw [← hports, List.forall_mem_map]
    rw [hok, Outcome.ok_state, hall]
    unfold IoPortAddressRange.Contains
    simp only [Hal.mem_portAddresses, haccepted, true_imp_iff]
    constructor
    · intro h
      have hfirst := h ((message 2).toNat % 2 ^ 16) ⟨le_refl _, by omega⟩
      have hlast := h ((message 2).toNat % 2 ^ 16 + (message 3).toNat - 1) ⟨by omega, by omega⟩
      exact ⟨hfirst.1, by omega⟩
    · rintro ⟨hmin, hmax⟩ port ⟨hle, hlt⟩
      omega
  · obtain ⟨e, herror⟩ := ioPortWrite_refused haccepted (message 4)
    rw [herror]
    exact iff_of_true (fun _ hnone => by cases hnone) fun h => absurd h haccepted

/-! ### A write beyond the range -/

/-- A process whose root Node, of four slots, holds itself and the boot I/O port. -/
def ioPortBoot : IoPorts Unit where
  cap := {
    slots := fun id =>
      if id = .process 0x9000 .rootSlot ∨ id = .node 0x2000 1 then
        { component := some (.node 0x2000), type := .node, rights := Slot.all }
      else if id = .node 0x2000 0 then
        { component := some .ioPort, type := .ioPort, rights := Slot.all
          data := { first := 0, second := 0xffffffffffffffff } }
      else Slot.init
    nodes := fun address => if address = 0x2000 then { radixBits := 2, hasSlots := true } else {}
    slotCount := 9
    buffer := fun _ => none
    bindedProcess := fun _ => none
    irqUsed := fun _ => false
    objects := () }
  origins _ := []

def mintMessage (min max : Word) : Nat → Word
  | 1 => 3
  | 2 => min
  | 3 => max
  | 4 => 0x0240000000000000
  | 5 => 2
  | _ => 0

def writeMessage (port byteWidth data : Word) : Nat → Word
  | 1 => 2
  | 2 => port
  | 3 => byteWidth
  | 4 => data
  | _ => 0

/-- The boot port and, in the third slot, a port for the range from `min` to `max`. -/
def mintedPorts (min max : Word) : IoPorts Unit where
  cap := (ioPortExecute samplePlatform (fun _ => 0) ioPortBoot.cap 0x9000 (.node 0x2000 0)
    (mintMessage min max)).state.1
  origins id :=
    if (ioPortBoot.cap.slots id).type = .ioPort then []
    else [(ioPortBoot.cap.slots (.node 0x2000 0)).portRange]

theorem mintedPorts_reachable (min max : Word) :
    Relation.ReflTransGen (IoPortStep samplePlatform) ioPortBoot (mintedPorts min max) :=
  .single (.execute (fun _ => 0) 0x9000 (.node 0x2000 0) (mintMessage min max) rfl)

/-- Four bytes written at the only address of a range reach the three addresses behind it, and an
address above 16 bits reaches the port it is truncated to. -/
theorem ioPortWrite_outside :
    (∀ id, (ioPortBoot.cap.slots id).type = .ioPort → ioPortBoot.origins id = []) ∧
      Relation.ReflTransGen (IoPortStep samplePlatform) ioPortBoot (mintedPorts 0x60 0x60) ∧
      ((mintedPorts 0x60 0x60).cap.slots (.node 0x2000 2)).type = .ioPort ∧
      ((mintedPorts 0x60 0x60).cap.slots (.node 0x2000 2)).portRange = ⟨0x60, 0x60⟩ ∧
      (ioPortExecute samplePlatform (fun _ => 0) (mintedPorts 0x60 0x60).cap 0x9000
        (.node 0x2000 2) (writeMessage 0x60 4 0)).state.2 =
          [.write 0x60 0, .write 0x61 0, .write 0x62 0, .write 0x63 0] ∧
      Relation.ReflTransGen (IoPortStep samplePlatform) ioPortBoot (mintedPorts 0x10060 0x10060) ∧
      ((mintedPorts 0x10060 0x10060).cap.slots (.node 0x2000 2)).portRange = ⟨0x10060, 0x10060⟩ ∧
      (ioPortExecute samplePlatform (fun _ => 0) (mintedPorts 0x10060 0x10060).cap 0x9000
        (.node 0x2000 2) (writeMessage 0x10060 1 0xab)).state.2 = [.write 0x60 0xab] :=
  ⟨fun _ _ => rfl, mintedPorts_reachable _ _, by decide +kernel, by decide +kernel,
    by decide +kernel, mintedPorts_reachable _ _, by decide +kernel, by decide +kernel⟩

theorem run_ioPortWrite_confined_minted :
    ((mintedPorts 0x60 0x63).cap.slots (.node 0x2000 2)).portRange.Within ⟨0, 0xffffffffffffffff⟩ ∧
      ∀ access ∈ (ioPortExecute samplePlatform (fun _ => 0) (mintedPorts 0x60 0x63).cap 0x9000
        (.node 0x2000 2) (writeMessage 0x60 4 0)).state.2,
          ((mintedPorts 0x60 0x63).cap.slots (.node 0x2000 2)).portRange.Contains access.port := by
  have hconfined := run_ioPortWrite_confined (fun _ _ => rfl) (mintedPorts_reachable 0x60 0x63)
    (show ((mintedPorts 0x60 0x63).cap.slots (.node 0x2000 2)).type = .ioPort by decide +kernel)
  exact ⟨hconfined.1 _ (by decide +kernel),
    (hconfined.2 (fun _ => 0) 0x9000 (writeMessage 0x60 4 0) rfl).mpr
      fun _ => ⟨by decide +kernel, by decide +kernel⟩⟩

end A9N.Kernel
