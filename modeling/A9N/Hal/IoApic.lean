import A9N.Framework.Bytes
import A9N.Kernel.Process.Process

/-!
# The IO APIC and the MADT

`apic.cpp` and `smp.hpp`. The firmware describes the interrupt controllers in the MADT, a header
and entries of various lengths.
-/

namespace A9N.Hal.X86

open Window

open A9N.Kernel (HalError cpuCountMax)

structure InterruptSourceOverride where
  valid : Bool := false
  irqSource : Nat := 0
  globalSystemInterrupt : Nat := 0
  flags : Nat := 0

/-- `io_apic`, with the registers of the device behind the select register and the window. `mapped`
says that both pointers are set. -/
structure IoApic where
  id : Nat := 0
  baseAddress : Nat := 0
  globalInterruptBase : Nat := 0
  interruptSourceOverrides : Nat → InterruptSourceOverride := fun _ => {}
  mapped : Bool := true
  registers : Nat → BitVec 32 := fun _ => 0

def IoApic.setOverride (apic : IoApic) (entry : InterruptSourceOverride) : IoApic :=
  { apic with interruptSourceOverrides :=
      Function.update apic.interruptSourceOverrides entry.irqSource entry }

/-! ## The entries of the MADT -/

section Madt

variable {σ : Type}

def madtSize : Nat := 44

/-- The bytes that belong to the table at `table`, by the length in its header. -/
def madtWindow (bytes : Nat → BitVec 8) (table : Nat) : Window :=
  ⟨bytes, table, table + littleAt bytes 4 (table + 4)⟩

def madtEntries (window : Window) (visit : Nat → BitVec 8 → σ → Checked σ) : Nat → Nat → σ → Checked σ
  | 0, pointer, state => if pointer < window.stop then .error .unfinished else .ok state
  | rounds + 1, pointer, state =>
    if pointer < window.stop then do
      let type ← window.byte pointer
      let state ← visit pointer type state
      let length ← window.byte (pointer + 1)
      madtEntries window visit rounds (pointer + length.toNat) state
    else .ok state

/-- The entries that `io_apic::configure_from_madt` looks into. -/
def visitIoApic (window : Window) (entry : Nat) (type : BitVec 8) (apic : IoApic) :
    Checked IoApic :=
  if type = 1 then do
    let id ← window.byte (entry + 2)
    let address ← window.little 4 (entry + 4)
    let base ← window.little 4 (entry + 8)
    return { apic with id := id.toNat, baseAddress := address, globalInterruptBase := base }
  else if type = 2 then do
    let source ← window.byte (entry + 3)
    if source.toNat < 16 then do
      let interrupt ← window.little 4 (entry + 4)
      let flags ← window.little 2 (entry + 8)
      return apic.setOverride ⟨true, source.toNat, interrupt, flags⟩
    else return apic
  else return apic

/-- The null pointer is refused, which is reported as an error of the call. -/
def configureFromMadt (bytes : Nat → BitVec 8) (table rounds : Nat) (apic : IoApic) :
    Checked (Except HalError IoApic) :=
  if table = 0 then return .error .illegalArgument
  else do
    let apic ← madtEntries (madtWindow bytes table) (visitIoApic (madtWindow bytes table)) rounds
      (table + madtSize) apic
    return .ok apic

def addProcessor (flags : Nat) (readId : Checked Nat) (ids : List Nat) : Checked (List Nat) :=
  if flags % 2 = 1 ∧ ids.length < cpuCountMax then do
    let id ← readId
    return ids ++ [id]
  else return ids

/-- The entries that `create_smp_info` looks into. -/
def visitProcessor (window : Window) (entry : Nat) (type : BitVec 8) (ids : List Nat) :
    Checked (List Nat) :=
  if type = 0 then do
    let flags ← window.little 4 (entry + 4)
    addProcessor flags ((·.toNat) <$> window.byte (entry + 3)) ids
  else if type = 9 then do
    let flags ← window.little 4 (entry + 8)
    addProcessor flags (window.little 4 (entry + 4)) ids
  else return ids

/-- `current_madt` refuses a null pointer before `create_smp_info` can. -/
def createSmpInfo (bytes : Nat → BitVec 8) (table rounds : Nat) :
    Checked (Except HalError (List Nat)) :=
  if table = 0 then return .error .noSuchAddress
  else do
    let ids ← madtEntries (madtWindow bytes table) (visitProcessor (madtWindow bytes table)) rounds
      (table + madtSize) []
    return .ok ids

/-! ### Which tables can be walked -/

/-- From `pointer` on, the fields that are read of an entry end within the table, and no entry has the
length zero. -/
inductive Chained (window : Window) (fields : Nat → Nat) : Nat → Prop
  | finish {pointer : Nat} (h : window.stop ≤ pointer) : Chained window fields pointer
  | entry {pointer : Nat} (hfields : pointer + fields pointer ≤ window.stop)
      (hlength : window.bytes (pointer + 1) ≠ 0)
      (hrest : Chained window fields (pointer + (window.bytes (pointer + 1)).toNat)) :
      Chained window fields pointer

/-- The size of the part of an entry that `configure_from_madt` reads. -/
def ioApicFields (bytes : Nat → BitVec 8) (entry : Nat) : Nat :=
  if bytes entry = 1 then 12
  else if bytes entry = 2 then if (bytes (entry + 3)).toNat < 16 then 10 else 4
  else 2

/-- The size of the part of an entry that `create_smp_info` reads. -/
def processorFields (bytes : Nat → BitVec 8) (entry : Nat) : Nat :=
  if bytes entry = 0 then 8 else if bytes entry = 9 then 12 else 2

variable {window : Window} {visit : Nat → BitVec 8 → σ → Checked σ} {fields : Nat → Nat}

theorem madtEntries_returns_iff
    (hvisit : ∀ pointer state, window.start ≤ pointer → pointer + 1 < window.stop →
      (Returns (visit pointer (window.bytes pointer) state) (fun _ => True) ↔
        pointer + fields pointer ≤ window.stop)) (hfields : ∀ pointer, 2 ≤ fields pointer)
    {pointer : Nat} (hstart : window.start ≤ pointer) (state : σ) :
    (∃ rounds, Returns (madtEntries window visit rounds pointer state) fun _ => True) ↔
      Chained window fields pointer := by
  constructor
  · rintro ⟨rounds, h⟩
    induction rounds generalizing pointer state with
    | zero =>
      rw [madtEntries] at h
      split at h
      · exact absurd h (not_returns_error _)
      case isFalse hstop => exact .finish (not_lt.mp hstop)
    | succ rounds ih =>
      rw [madtEntries] at h
      split at h
      · simp only [returns_bind_iff, returns_byte_iff hstart,
          returns_byte_iff (Nat.le_succ_of_le hstart)] at h
        obtain ⟨hstop, state', hvisited, hlength, hrest⟩ := h
        have hfits := (hvisit pointer state hstart hlength).mp ⟨state', hvisited, trivial⟩
        have hchained := ih (by omega) state' hrest
        -- an entry of length zero is met again, one round less from the end
        by_cases hzero : window.bytes (pointer + 1) = 0
        · rw [hzero] at hchained
          exact hchained
        · exact .entry hfits hzero hchained
      case isFalse hstop => exact .finish (not_lt.mp hstop)
  · intro h
    induction h generalizing state with
    | finish hstop =>
      refine ⟨0, ?_⟩
      rw [madtEntries, if_neg (not_lt.mpr hstop)]
      simp
    | @entry pointer hfits hlength hrest ih =>
      have htwo := hfields pointer
      obtain ⟨state', hvisited, -⟩ := (hvisit pointer state hstart (by omega)).mpr hfits
      obtain ⟨rounds, hrounds⟩ := ih (by omega) state'
      refine ⟨rounds + 1, ?_⟩
      rw [madtEntries, if_pos (by omega)]
      simp only [returns_bind_iff, returns_byte_iff hstart,
        returns_byte_iff (Nat.le_succ_of_le hstart)]
      exact ⟨by omega, state', hvisited, by omega, hrounds⟩

theorem two_le_ioApicFields {bytes : Nat → BitVec 8} (entry : Nat) :
    2 ≤ ioApicFields bytes entry := by
  unfold ioApicFields
  split_ifs <;> decide

theorem two_le_processorFields {bytes : Nat → BitVec 8} (entry : Nat) :
    2 ≤ processorFields bytes entry := by
  unfold processorFields
  split_ifs <;> decide

theorem visitIoApic_returns_iff (entry : Nat) (apic : IoApic) (hstart : window.start ≤ entry)
    (hheader : entry + 1 < window.stop) :
    Returns (visitIoApic window entry (window.bytes entry) apic) (fun _ => True) ↔
      entry + ioApicFields window.bytes entry ≤ window.stop := by
  have hbyte : ∀ offset, window.start ≤ entry + offset := fun offset => by omega
  unfold visitIoApic ioApicFields
  split_ifs with hioApic hoverride hisa
  · simp only [returns_bind_iff, returns_byte_iff (hbyte _),
      returns_little_iff (hbyte _), returns_pure_iff, and_true]
    omega
  · simp only [returns_bind_iff, returns_byte_iff (hbyte _), hisa, if_true,
      returns_little_iff (hbyte _), returns_pure_iff, and_true]
    omega
  · simp only [returns_bind_iff, returns_byte_iff (hbyte _), hisa, if_false,
      returns_pure_iff, and_true]
    omega
  · simp only [returns_pure_iff, true_iff]
    omega

theorem addProcessor_returns {readId : Checked Nat} (flags : Nat) (ids : List Nat)
    (hread : Returns readId fun _ => True) : Returns (addProcessor flags readId ids) fun _ => True := by
  unfold addProcessor
  split_ifs
  · exact hread.bind fun _ _ => by simp
  · simp

theorem visitProcessor_returns_iff (entry : Nat) (ids : List Nat) (hstart : window.start ≤ entry)
    (hheader : entry + 1 < window.stop) :
    Returns (visitProcessor window entry (window.bytes entry) ids) (fun _ => True) ↔
      entry + processorFields window.bytes entry ≤ window.stop := by
  have hbyte : ∀ offset, window.start ≤ entry + offset := fun offset => by omega
  unfold visitProcessor processorFields
  split_ifs
  · rw [returns_bind_iff, returns_little_iff (hbyte _)]
    constructor
    · exact fun h => h.1
    · intro h
      refine ⟨h, addProcessor_returns _ _ ?_⟩
      rw [returns_map_iff, returns_byte_iff (hbyte _)]
      exact ⟨by omega, trivial⟩
  · rw [returns_bind_iff, returns_little_iff (hbyte _)]
    constructor
    · exact fun h => h.1
    · intro h
      refine ⟨h, addProcessor_returns _ _ ?_⟩
      rw [returns_little_iff (hbyte _)]
      exact ⟨by omega, trivial⟩
  · simp only [returns_pure_iff, true_iff]
    omega

/-- The walks over a MADT end with all reads in the table exactly if its entries are chained: each of
them has a length, and the fields that the walk reads of it. -/
theorem madt_walks_return_iff (bytes : Nat → BitVec 8) {table : Nat} (htable : table ≠ 0) :
    (∀ apic, (∃ rounds, Returns (configureFromMadt bytes table rounds apic) fun _ => True) ↔
        Chained (madtWindow bytes table) (ioApicFields bytes) (table + madtSize)) ∧
      ((∃ rounds, Returns (createSmpInfo bytes table rounds) fun _ => True) ↔
        Chained (madtWindow bytes table) (processorFields bytes) (table + madtSize)) := by
  have hstart : (madtWindow bytes table).start ≤ table + madtSize := Nat.le_add_right _ _
  constructor
  · intro apic
    refine Iff.trans ?_ (madtEntries_returns_iff visitIoApic_returns_iff ?_ hstart apic)
    · simp [configureFromMadt, htable]
    · exact two_le_ioApicFields
  · refine Iff.trans ?_ (madtEntries_returns_iff visitProcessor_returns_iff ?_ hstart [])
    · simp [createSmpInfo, htable]
    · exact two_le_processorFields

/-- A processor, an IO APIC at `0xfec00000`, and an override of the ISA interrupt 0 by 2. -/
def sampleMadt : Nat → BitVec 8
  | 0x1004 => 74
  | 0x102d => 8
  | 0x1030 => 1
  | 0x1034 => 1
  | 0x1035 => 12
  | 0x103a => 0xc0
  | 0x103b => 0xfe
  | 0x1040 => 2
  | 0x1041 => 10
  | 0x1044 => 2
  | _ => 0

theorem madt_walks_return_sampleMadt :
    (∃ rounds, Returns (configureFromMadt sampleMadt 0x1000 rounds {}) fun _ => True) ∧
      ∃ rounds, Returns (createSmpInfo sampleMadt 0x1000 rounds) fun _ => True := by
  have hwalks := madt_walks_return_iff sampleMadt (show 0x1000 ≠ 0 by decide)
  refine ⟨(hwalks.1 {}).mpr ?_, hwalks.2.mpr ?_⟩
  all_goals
    exact .entry (by decide) (by decide) (.entry (by decide) (by decide)
      (.entry (by decide) (by decide) (.finish (by decide))))

/-- A table of one entry without a length, and a table that is cut off in an entry for an IO APIC. -/
def emptyEntryMadt : Nat → BitVec 8
  | 0x1004 => 46
  | 0x102c => 3
  | _ => 0

def cutMadt : Nat → BitVec 8
  | 0x1004 => 46
  | 0x102c => 1
  | 0x102d => 12
  | _ => 0

theorem madt_walks_stray :
    madtSize ≤ littleAt emptyEntryMadt 4 0x1004 ∧ madtSize ≤ littleAt cutMadt 4 0x1004 ∧
      (∀ rounds, ¬ Returns (configureFromMadt emptyEntryMadt 0x1000 rounds {}) fun _ => True) ∧
      (∀ rounds, ¬ Returns (createSmpInfo emptyEntryMadt 0x1000 rounds) fun _ => True) ∧
      ∀ rounds, configureFromMadt cutMadt 0x1000 (rounds + 1) {} = .error .outside := by
  have hstuck : ∀ fields, ¬ Chained (madtWindow emptyEntryMadt 0x1000) fields (0x1000 + madtSize) := by
    intro fields h
    cases h with
    | finish hstop => exact absurd hstop (by decide)
    | entry _ hlength _ => exact hlength (by decide)
  refine ⟨by decide, by decide, fun rounds h => ?_, fun rounds h => ?_, fun rounds => rfl⟩
  · refine hstuck _ ((madtEntries_returns_iff visitIoApic_returns_iff two_le_ioApicFields
      (by decide) {}).mp ⟨rounds, ?_⟩)
    simpa [configureFromMadt] using h
  · refine hstuck _ ((madtEntries_returns_iff visitProcessor_returns_iff two_le_processorFields
      (by decide) []).mp ⟨rounds, ?_⟩)
    simpa [createSmpInfo] using h

end Madt

/-! ## Masking the pins -/

namespace IoApic

def versionIndex : Nat := 0x01
def redirectionTable : Nat := 0x10
def ioBase : Nat := 0x30

def read (apic : IoApic) (index : Nat) : Outcome HalError IoApic (BitVec 32) :=
  if apic.mapped then .ok (apic.registers index) apic else .error .noSuchAddress apic

def write (apic : IoApic) (index : Nat) (value : BitVec 32) : Outcome HalError IoApic Unit :=
  if apic.mapped then .ok () { apic with registers := Function.update apic.registers index value }
  else .error .noSuchAddress apic

def makeRedirectEntry (vector deliveryMode : BitVec 8) (destinationMode deliveryStatus pinPolarity
    triggerMode mask : Bool) (destination : BitVec 8) : BitVec 64 :=
  vector.setWidth 64 ||| deliveryMode.setWidth 64 <<< 8 |||
    (BitVec.ofBool destinationMode).setWidth 64 <<< 11 |||
    (BitVec.ofBool deliveryStatus).setWidth 64 <<< 12 |||
    (BitVec.ofBool pinPolarity).setWidth 64 <<< 13 |||
    (BitVec.ofBool triggerMode).setWidth 64 <<< 15 ||| (BitVec.ofBool mask).setWidth 64 <<< 16 |||
    destination.setWidth 64 <<< 56

def configureEntry (apic : IoApic) (pin : Nat) (data : BitVec 64) : Outcome HalError IoApic Unit :=
  (apic.write (redirectionTable + pin * 2) (data.setWidth 32)).andThen fun _ apic =>
    apic.write (redirectionTable + pin * 2 + 1) ((data >>> 32).setWidth 32)

def resolveGlobalSystemInterrupt (apic : IoApic) (irq : Nat) : Nat :=
  if irq < 16 ∧ (apic.interruptSourceOverrides irq).valid then
    (apic.interruptSourceOverrides irq).globalSystemInterrupt
  else irq

def resolveInterruptFlags (apic : IoApic) (irq : Nat) : Nat :=
  if irq < 16 ∧ (apic.interruptSourceOverrides irq).valid then
    (apic.interruptSourceOverrides irq).flags
  else if 16 ≤ irq ∧ irq ≤ 23 then 0x0f
  else 0

def configureIrq (apic : IoApic) (irq : Nat) (mask : Bool) : Outcome HalError IoApic Unit :=
  let interrupt := apic.resolveGlobalSystemInterrupt irq
  if interrupt < apic.globalInterruptBase then .error .illegalArgument apic
  else
    let pin := interrupt - apic.globalInterruptBase
    let flags := apic.resolveInterruptFlags irq
    let entry := makeRedirectEntry (BitVec.ofNat 8 (ioBase + irq)) 0 false false (flags % 4 = 3)
      (flags / 4 % 4 = 3) mask 0
    apic.configureEntry (pin % 2 ^ 8) entry

def disableInterrupt (apic : IoApic) (irq : Nat) : Outcome HalError IoApic Unit :=
  apic.configureIrq irq true

def disableLoop : Nat → Nat → IoApic → Outcome HalError IoApic Unit
  | 0, _, apic => .ok () apic
  | remaining + 1, irq, apic =>
    (apic.disableInterrupt irq).andThen fun _ apic => disableLoop remaining (irq + 1) apic

/-- The last entry of the redirection table, as the version register gives it. -/
def lastEntry (version : BitVec 32) : Nat := (version.toNat >>> 16) % 2 ^ 8

def disableInterruptAll (apic : IoApic) : Outcome HalError IoApic Unit :=
  (apic.read versionIndex).andThen fun version apic =>
    disableLoop ((lastEntry version + 1) % 2 ^ 8) 0 apic

def masked (apic : IoApic) (pin : Nat) : Bool :=
  (apic.registers (redirectionTable + pin * 2)).getLsbD 16

def pinOf (apic : IoApic) (irq : Nat) : Nat :=
  (apic.resolveGlobalSystemInterrupt irq - apic.globalInterruptBase) % 2 ^ 8

variable {apic : IoApic}

theorem makeRedirectEntry_mask (vector deliveryMode : BitVec 8) (destinationMode deliveryStatus
    pinPolarity triggerMode mask : Bool) (destination : BitVec 8) :
    ((makeRedirectEntry vector deliveryMode destinationMode deliveryStatus pinPolarity triggerMode
      mask destination).setWidth 32).getLsbD 16 = mask := by
  simp [makeRedirectEntry]

structure MasksToo (apic : IoApic) (P : Nat → Prop) (apic' : IoApic) : Prop where
  base : apic'.globalInterruptBase = apic.globalInterruptBase
  overrides : apic'.interruptSourceOverrides = apic.interruptSourceOverrides
  masks : ∀ pin, apic'.masked pin = true ↔ apic.masked pin = true ∨ P pin

theorem MasksToo.pinOf {P : Nat → Prop} {apic' : IoApic} (h : MasksToo apic P apic') (irq : Nat) :
    apic'.pinOf irq = apic.pinOf irq := by
  unfold IoApic.pinOf resolveGlobalSystemInterrupt
  rw [h.base, h.overrides]

theorem configureEntry_masks (pin : Nat) (data : BitVec 64)
    (hmask : (data.setWidth 32).getLsbD 16 = true) :
    (apic.configureEntry pin data).Post (fun _ => MasksToo apic (pin = ·)) fun _ _ => True := by
  unfold configureEntry write
  split
  case isTrue hmapped =>
    rw [Outcome.andThen_ok, if_pos hmapped, Outcome.post_ok]
    refine ⟨rfl, rfl, fun other => ?_⟩
    unfold masked
    have hhigh : redirectionTable + other * 2 ≠ redirectionTable + pin * 2 + 1 := by omega
    dsimp only
    rw [Function.update_of_ne hhigh]
    by_cases heq : pin = other
    · rw [heq, Function.update_self, hmask]
      simp
    · have hlow : redirectionTable + other * 2 ≠ redirectionTable + pin * 2 := by omega
      rw [Function.update_of_ne hlow]
      simp [heq]
  case isFalse => trivial

theorem disableInterrupt_masks (irq : Nat) : (apic.disableInterrupt irq).Post
    (fun _ => MasksToo apic (apic.pinOf irq = ·)) fun _ _ => True := by
  unfold disableInterrupt configureIrq
  dsimp only
  split
  · trivial
  · exact configureEntry_masks _ _ (makeRedirectEntry_mask ..)

theorem disableLoop_masks (remaining irq : Nat) : (disableLoop remaining irq apic).Post
    (fun _ => MasksToo apic fun pin => ∃ passed < remaining, apic.pinOf (irq + passed) = pin)
    fun _ _ => True := by
  induction remaining generalizing irq apic with
  | zero => exact ⟨rfl, rfl, fun pin => by simp [disableLoop]⟩
  | succ remaining ih =>
    rw [disableLoop]
    apply (disableInterrupt_masks irq).andThen
    intro _ apic1 hfirst
    refine (ih (irq + 1)).mono (fun _ apic2 hrest => ⟨hrest.base.trans hfirst.base,
      hrest.overrides.trans hfirst.overrides, fun pin => ?_⟩) fun _ _ h => h
    rw [hrest.masks, hfirst.masks, or_assoc]
    refine or_congr_right ?_
    simp only [hfirst.pinOf]
    constructor
    · rintro (hpin | ⟨passed, hpassed, hpin⟩)
      · exact ⟨0, by omega, hpin⟩
      · exact ⟨passed + 1, by omega, by rwa [show irq + (passed + 1) = irq + 1 + passed by omega]⟩
    · rintro ⟨_ | passed, hpassed, hpin⟩
      · exact .inl hpin
      · exact .inr ⟨passed, by omega, by rwa [show irq + 1 + passed = irq + (passed + 1) by omega]⟩

/-- A call that succeeds leaves every pin masked exactly if the pins that were not masked before are
those of interrupts that the loop passes. -/
theorem disableInterruptAll_masks_iff (apic : IoApic)
    (hsucceeded : apic.disableInterruptAll.succeeded = true) :
    (∀ pin ≤ lastEntry (apic.registers versionIndex),
        apic.disableInterruptAll.state.masked pin = true) ↔
      ∀ pin ≤ lastEntry (apic.registers versionIndex), apic.masked pin = true ∨
        ∃ irq < (lastEntry (apic.registers versionIndex) + 1) % 2 ^ 8, apic.pinOf irq = pin := by
  have hpost : apic.disableInterruptAll.Post (fun _ => MasksToo apic fun pin =>
      ∃ irq < (lastEntry (apic.registers versionIndex) + 1) % 2 ^ 8, apic.pinOf irq = pin)
      fun _ _ => True := by
    unfold disableInterruptAll read
    split
    · rw [Outcome.andThen_ok]
      exact (disableLoop_masks _ 0).mono (fun _ _ h => by simpa only [Nat.zero_add] using h)
        fun _ _ h => h
    · trivial
  generalize apic.disableInterruptAll = o at hpost hsucceeded
  obtain ⟨_ | _, apic'⟩ := o
  · cases hsucceeded
  · exact forall₂_congr fun pin _ => hpost.masks pin

def twentyFourPins : IoApic := { registers := fun index => if index = 1 then 0x170011 else 0 }

theorem disableInterruptAll_masks_iff_twentyFourPins :
    twentyFourPins.disableInterruptAll.succeeded = true ∧
      ∀ pin ≤ 23, twentyFourPins.disableInterruptAll.state.masked pin = true := by
  refine ⟨by decide +kernel, ?_⟩
  apply (disableInterruptAll_masks_iff twentyFourPins (by decide +kernel)).mpr
  decide +kernel

/-- The same device as it is wired in most machines: the timer, interrupt 0, is at pin 2. -/
def timerAtPinTwo : IoApic := twentyFourPins.setOverride ⟨true, 0, 2, 0⟩

def allPins : IoApic := { registers := fun index => if index = 1 then 0xff0011 else 0 }

theorem disableInterruptAll_leaves_pins :
    timerAtPinTwo.disableInterruptAll.succeeded = true ∧
      timerAtPinTwo.disableInterruptAll.state.masked 0 = false ∧
      allPins.disableInterruptAll.succeeded = true ∧
      ∀ pin ≤ 255, allPins.disableInterruptAll.state.masked pin = false := by
  decide +kernel

end IoApic

end A9N.Hal.X86
