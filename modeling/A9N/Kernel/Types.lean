import A9N.Framework.Word
import A9N.Framework.Outcome

/-!
# Enumerations and build parameters

The error and type enumerations shared by the kernel and the HAL, and the constants that a
build of the kernel fixes.
-/

namespace A9N.Kernel

inductive CapabilityType
  | none | debug | node | generic | addressSpace | pageTable | frame | processControlBlock
  | ipcPort | notificationPort | interruptRegion | interruptPort | ioPort | virtualCpu
  | virtualAddressSpace | virtualPageTable
deriving DecidableEq, Repr

inductive CapabilityError
  | illegalOperation | permissionDenied | invalidDescriptor | invalidDepth | invalidArgument
  | fatal | debugUnimplemented
deriving DecidableEq, Repr

inductive KernelError
  | permissionDenied | illegalArgument | illegalDevice | noSuchDevice | noSuchAddress
  | unsupported | tryAgain | unexpected | initFirst | halError
deriving DecidableEq, Repr

inductive CapabilityLookupError
  | terminal | indexOutOfRange | unavailable | empty | unexpected
deriving DecidableEq, Repr

def convertKernelToCapabilityError (_ : KernelError) : CapabilityError := .fatal

inductive HalError
  | permissionDenied | illegalArgument | illegalDevice | noSuchDevice | noSuchAddress
  | unsupported | tryAgain | unexpected | initFirst | timeout
deriving DecidableEq, Repr

def convertHalToKernelError (_ : HalError) : KernelError := .halError

inductive MemoryMapType
  | free | device | reserved
deriving DecidableEq, Repr

inductive Architecture
  | x86_64 | aarch64
deriving DecidableEq, Repr

/-- What the build fixes: the target, its page sizes and the sizes of the kernel's objects. -/
structure Platform where
  architecture : Architecture
  smpEnabled : Bool
  support2MiBPage : Bool
  support1GiBPage : Bool
  processControlBlockBytes : Word
  ipcPortBytes : Word
  notificationPortBytes : Word
  virtualCpuBytes : Word
  sizes_le : processControlBlockBytes.toNat ≤ 2 ^ 32 ∧ ipcPortBytes.toNat ≤ 2 ^ 32 ∧
    notificationPortBytes.toNat ≤ 2 ^ 32 ∧ virtualCpuBytes.toNat ≤ 2 ^ 32
  sizes_pos : 0 < processControlBlockBytes.toNat ∧ 0 < ipcPortBytes.toNat ∧
    0 < notificationPortBytes.toNat ∧ 0 < virtualCpuBytes.toNat

/-- The x86_64 build, with the `sizeof` of its four kinds of object. -/
def samplePlatform : Platform where
  architecture := .x86_64
  smpEnabled := true
  support2MiBPage := true
  support1GiBPage := true
  processControlBlockBytes := 3008
  ipcPortBytes := 32
  notificationPortBytes := 56
  virtualCpuBytes := 65536
  sizes_le := by decide
  sizes_pos := by decide

end A9N.Kernel
