import A9N.Framework.Word
import A9N.Framework.Outcome
import A9N.Framework.Run
import A9N.Framework.Links
import A9N.Framework.Queue
import A9N.Framework.Ranges
import A9N.Framework.Tiling
import A9N.Framework.Bytes
import A9N.Liba9n.Calculate
import A9N.Kernel.Types
import A9N.Kernel.Boot.Init
import A9N.Kernel.Boot.InitGenerics
import A9N.Kernel.Capability.Slot
import A9N.Kernel.Capability.Node
import A9N.Kernel.Capability.Generic
import A9N.Kernel.Capability.Confinement
import A9N.Kernel.Capability.Dependency
import A9N.Kernel.Capability.Reclamation
import A9N.Kernel.Capability.ReclamationSteps
import A9N.Kernel.Capability.ReclamationSound
import A9N.Kernel.Capability.Shrinking
import A9N.Kernel.Capability.ReclamationInvariant
import A9N.Kernel.Capability.Transfer
import A9N.Kernel.Capability.IoPort
import A9N.Kernel.Capability.ReclamationHistory
import A9N.Kernel.Capability.ReclamationReach
import A9N.Kernel.Capability.Segments
import A9N.Kernel.Capability.ReclamationOrder
import A9N.Kernel.Capability.SlotTable
import A9N.Kernel.Capability.ReclamationFailure
import A9N.Kernel.Capability.RevokeComplete
import A9N.Kernel.Process.Process
import A9N.Kernel.Process.Scheduler
import A9N.Kernel.Process.Touches
import A9N.Hal.Context
import A9N.Hal.Owners
import A9N.Hal.X86Paging
import A9N.Hal.X86Walk
import A9N.Hal.Aarch64Paging
import A9N.Hal.OwnerBitmap
import A9N.Hal.Aarch64Boot
import A9N.Hal.BootMemoryMap
import A9N.Hal.BootMapExact
import A9N.Hal.BootReservations
import A9N.Kernel.Process.ProcessManager
import A9N.Kernel.Process.AddressSpace
import A9N.Kernel.Process.ReadyQueues
import A9N.Kernel.Process.Levels
import A9N.Kernel.Process.PrioritySelection
import A9N.Kernel.Process.FifoRefinement
import A9N.Kernel.Ipc.System
import A9N.Kernel.Ipc.Routing
import A9N.Kernel.Ipc.IpcPort
import A9N.Kernel.Ipc.NotificationPort
import A9N.Kernel.Ipc.Messages
import A9N.Kernel.Ipc.ProcessControlBlock
import A9N.Kernel.Ipc.Entries
import A9N.Kernel.Ipc.Coherence
import A9N.Kernel.Ipc.Alike
import A9N.Kernel.Ipc.Moves
import A9N.Kernel.Ipc.WaitQueues
import A9N.Kernel.Ipc.Switches
import A9N.Kernel.Ipc.IpcOperations
import A9N.Kernel.Ipc.NotificationOperations
import A9N.Kernel.Ipc.ControlOperations
import A9N.Kernel.Ipc.Revocations
import A9N.Kernel.Ipc.EntryInvariant
import A9N.Kernel.Ipc.SystemRuns
import A9N.Kernel.Ipc.PortQueues
import A9N.Kernel.Ipc.MessageLengths
import A9N.Kernel.Ipc.Placement
import A9N.Kernel.Ipc.ReplyDuality
import A9N.Kernel.Ipc.RemoteReschedule
import A9N.Kernel.Ipc.Signals
import A9N.Kernel.Ipc.EntrySignals
import A9N.Kernel.Ipc.Effects
import A9N.Kernel.Ipc.OperationEffects
import A9N.Kernel.Ipc.Bystanders
import A9N.Kernel.Ipc.Provenance
import A9N.Kernel.Ipc.Bindings
import A9N.Kernel.Ipc.BoundReceivers
import A9N.Kernel.Capability.NodeFootprint
import A9N.Kernel.Capability.DescriptorResolution
import A9N.Kernel.Capability.Capacity
import A9N.Kernel.Capability.Operations
import A9N.Kernel.Capability.MoveCapabilities
import A9N.Kernel.Ipc.ReplyReceivePaths
import A9N.Kernel.Ipc.Rendezvous
import A9N.Kernel.Ipc.SuspendTwice
import A9N.Hal.IoApic
import A9N.Hal.InitElf
import A9N.Hal.DeviceTree
import A9N.Kernel.Utility.Print
import A9N.Kernel.Utility.PrintLines
