import A9N.Kernel.Process.Process

/-!
# Context switches of the two HALs

`switch_context` of `hal/x86_64` and `hal/aarch64`, reduced to the translation root. Entry 511 of
every root table holds the set of cores that have the table loaded; only SMP builds write it.
-/

namespace A9N.Hal

open Kernel

def descriptorAddressMask : Word := 0x0000fffffffff000

/-- The table a translation-root register refers to: `TTBR0_EL1` also carries an ASID. -/
def translationRoot (architecture : Architecture) (register : Word) : Word :=
  match architecture with
  | .x86_64 => register
  | .aarch64 => register &&& descriptorAddressMask

def writeAddressSpaceOwners (st : ProcState) (root owners : Word) : ProcState :=
  { st with owners := Function.update st.owners root owners }

def loadRoot (st : ProcState) (core : Nat) (root : Word) : ProcState :=
  { st with hardwareRoot := Function.update st.hardwareRoot core root }

def ownerBit (process : Process) : Word := shiftLeft 1 (process.coreAffinity &&& 63)

def replaceRoot (p : Platform) (st : ProcState) (core : Nat) (currentRoot nextRoot owner : Word) :
    ProcState :=
  let st := if p.smpEnabled then
    writeAddressSpaceOwners st nextRoot (st.owners nextRoot ||| owner) else st
  let st := loadRoot st core nextRoot
  if p.smpEnabled ∧ (p.architecture = .x86_64 ∨ currentRoot ≠ 0) then
    writeAddressSpaceOwners st currentRoot (st.owners currentRoot &&& ~~~owner)
  else st

/-- `switch_context` on `core`. `root` gives the address in each process's address-space slot. -/
def switchContext (p : Platform) (root : ProcessId → Word) (core : Nat) (next : ProcessId)
    (st : ProcState) : Outcome HalError ProcState Unit :=
  let currentRoot := translationRoot p.architecture (st.hardwareRoot core)
  let nextRoot := root next
  if nextRoot = 0 then .error .noSuchAddress st
  else if currentRoot = nextRoot then .ok () st
  else .ok () (replaceRoot p st core currentRoot nextRoot (ownerBit (st.processes next)))

end A9N.Hal
