import TpmPlatform.Runs
import TpmPlatform.Journal
import TpmPlatform.Cell
import TpmPlatform.OpenFile
import TpmPlatform.Latch
import TpmPlatform.Words
import TpmPlatform.Linking
import TpmPlatform.Bytes
import TpmPlatform.FlatArray
import TpmPlatform.Error
import TpmPlatform.Nvmem
import TpmPlatform.Clock
import TpmPlatform.ClockRuns
import TpmPlatform.ClockTolerance
import TpmPlatform.ClockBounce
import TpmPlatform.ClockSafety
import TpmPlatform.ClockSlowdown
import TpmPlatform.PlatformState
import TpmPlatform.PlatApi
import TpmPlatform.RuntimeState
import TpmPlatform.RuntimeStateSteps
import TpmPlatform.Platform
import TpmPlatform.PlatformSteps
import TpmPlatform.StateImage
import TpmPlatform.Ownership
import TpmPlatform.Notifications
import TpmPlatform.WellFormed
import TpmPlatform.HostRuns
import TpmPlatform.Harness
import TpmPlatform.PowerCycle
import TpmPlatform.NvPersistence
import TpmPlatform.RestoreErrors
import TpmPlatform.Panics
import TpmPlatform.Migration
import TpmPlatform.SaveBuffer
import TpmPlatform.SequenceSlots
import TpmPlatform.TryLock
import TpmPlatform.SecondInitialize
import TpmPlatform.FailureMode
import TpmPlatform.ResetErrors
import TpmPlatform.BackingStore
import TpmPlatform.NvAccess
import TpmPlatform.NvGuarded
import TpmPlatform.EntropyRuns
import TpmPlatform.EntropyHistory
import TpmPlatform.Noop
import TpmPlatform.Pcr
import TpmPlatform.CodePointers
import TpmPlatform.MigrationChain
import TpmPlatform.Lineage
import TpmPlatform.ExecuteCommand
import TpmPlatform.CommandRuns
import TpmPlatform.Symbols
import TpmPlatform.Namespacing
import TpmPlatform.SideBySide
import TpmPlatform.CrateSymbols
import TpmPlatform.ToolDiscovery
import TpmPlatform.BuildScript
import TpmPlatform.Fallible
import TpmPlatform.BuildLinks
import TpmPlatform.FileTree
import TpmPlatform.FetchSymcrypt
import TpmPlatform.FetchRuns
import TpmPlatform.Toml
import TpmPlatform.FetchBuild
