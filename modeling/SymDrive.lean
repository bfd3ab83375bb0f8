import SymDrive.Library.Checked
import SymDrive.Library.Buckets
import SymDrive.Library.Chains
import SymDrive.Gtf.Globals
import SymDrive.Gtf.Hashtable
import SymDrive.Gtf.LinkedTable
import SymDrive.Gtf.TableIterator
import SymDrive.Gtf.TestState
import SymDrive.Gtf.ObjectTracker
import SymDrive.Gtf.LockState
import SymDrive.Gtf.LockCalls
import SymDrive.Gtf.BlockingContext
import SymDrive.Gtf.Framework
import SymDrive.Gtf.MiscChecks
import SymDrive.Gtf.LockRefinement
import SymDrive.Gtf.RwLocks
import SymDrive.Gtf.AddressReuse
import SymDrive.Library.GuardedLoads
import SymDrive.Library.WorkList
import SymDrive.Library.Walks
import SymDrive.Gtf.AssertHandling
import SymDrive.Gtf.EnterExit
import SymDrive.Gtf.BadPath
import SymDrive.Gtf.DriverState
import SymDrive.Gtf.PciDevice
import SymDrive.Gtf.BusRegistration
import SymDrive.Gtf.I2cDevices
import SymDrive.Gtf.EntryPoints
import SymDrive.Gtf.NetLifecycle
import SymDrive.Gtf.IrqTable
import SymDrive.Gtf.CallStack
import SymDrive.Gtf.ContextStacks
import SymDrive.Gtf.ContextBalance
import SymDrive.Gtf.Allocators
import SymDrive.Gtf.AllocPairs
import SymDrive.Gtf.AllocFailure
import SymDrive.Gtf.RecordedSizes
import SymDrive.Gtf.NewObjects
import SymDrive.Gtf.EntryReads
import SymDrive.Gtf.TableGrowth
import SymDrive.Gtf.FunctionTracker
import SymDrive.Gtf.CachedChecks
import SymDrive.Cil.DriverFile
import SymDrive.Cil.PrepostfnPlacement
import SymDrive.Gtf.InterruptInjection
import SymDrive.Gtf.InterruptThrottle
import SymDrive.Gtf.InjectedHandlers
import SymDrive.Gtf.IoctlCapable
import SymDrive.Library.WrappingClock
import SymDrive.Gtf.SlowTimers
import SymDrive.Gtf.CalloutReset
import SymDrive.Gtf.DmaPool
import SymDrive.Gtf.DmaRecords
import SymDrive.Gtf.DmaCallbacks
import SymDrive.Cil.GeneratedCode
import SymDrive.Cil.GeneratedScopes
import SymDrive.Cil.Scoping
import SymDrive.Cil.Signatures
import SymDrive.Cil.StubRuns
import SymDrive.Library.Stacks
import SymDrive.Cil.GeneratedPasses
import SymDrive.Gtf.BypassChecks
import SymDrive.Cil.StubPasses
import SymDrive.Cil.ConversionTypes
import SymDrive.Cil.TypeAttributes
import SymDrive.Cil.LocalVariables
import SymDrive.Cil.InterestingFns
import SymDrive.Cil.Syntax
import SymDrive.Cil.Cfg
import SymDrive.Cil.Prioritization
import SymDrive.Cil.UnusedLabels
import SymDrive.Library.Marking
import SymDrive.Cil.UnusedGlobals
import SymDrive.Cil.BranchHints
import SymDrive.Cil.CallBlocks
import SymDrive.Cil.Instrument
import SymDrive.Cil.Records
import SymDrive.Cil.Redirect
import SymDrive.Cil.LoopBalance
import SymDrive.Cil.LoopShape
import SymDrive.Cil.EntryExitCalls
import SymDrive.Library.Stepping
import SymDrive.Cil.OneRet
import SymDrive.Cil.OneRetRuns
import SymDrive.Cil.ControlFlow
import SymDrive.Cil.Threads
