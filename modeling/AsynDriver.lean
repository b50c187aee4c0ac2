import AsynDriver.Library.Machine
import AsynDriver.Library.LinkedList
import AsynDriver.Library.Traversal
import AsynDriver.Library.CNumber
import AsynDriver.Library.Progress
import AsynDriver.Library.Escape
import AsynDriver.Library.Codec
import AsynDriver.Library.Xdr
import AsynDriver.Library.Settings
import AsynDriver.Library.UnderLock
import AsynDriver.Library.CString
import AsynDriver.Library.LockOrder
import AsynDriver.Library.Memory
import AsynDriver.Library.RingBuffer
import AsynDriver.Library.Rounding
import AsynDriver.Library.BitField
import AsynDriver.Library.Loop
import AsynDriver.Library.Delimited
import AsynDriver.Library.Places
import AsynDriver.Library.Posting
import AsynDriver.Manager.Types
import AsynDriver.Manager.QueueState
import AsynDriver.Manager.QueueMachine
import AsynDriver.Manager.QueueInvariant
import AsynDriver.Manager.QueueSections
import AsynDriver.Manager.QueueOwnership
import AsynDriver.Manager.QueueSteps
import AsynDriver.Manager.QueuePlaces
import AsynDriver.Manager.CallbackChoice
import AsynDriver.Manager.CancelSafety
import AsynDriver.Manager.BlockHolder
import AsynDriver.Manager.QueueOrder
import AsynDriver.Manager.InterposeInterface
import AsynDriver.Manager.QueueLockPort
import AsynDriver.Manager.LockPortView
import AsynDriver.Manager.LockPortSafety
import AsynDriver.Manager.LockPortFailure
import AsynDriver.Manager.LockPortNotify
import AsynDriver.Manager.FreeList
import AsynDriver.Manager.FreeListView
import AsynDriver.Manager.FreeListSafety
import AsynDriver.Manager.WaitConnect
import AsynDriver.Manager.WaitConnectView
import AsynDriver.Manager.WaitConnectSteps
import AsynDriver.Manager.WaitConnectSafety
import AsynDriver.Manager.InterruptList
import AsynDriver.Manager.Shutdown
import AsynDriver.Manager.InterruptListSafety
import AsynDriver.Manager.ExceptionList
import AsynDriver.Manager.ExceptionListSafety
import AsynDriver.Manager.PortConnect
import AsynDriver.Manager.PortConnectSafety
import AsynDriver.Manager.MemList
import AsynDriver.Manager.MemListSafety
import AsynDriver.Interfaces.InterruptUsers
import AsynDriver.Interfaces.InterruptUsersSteps
import AsynDriver.Interfaces.InterruptUsersSafety
import AsynDriver.Miscellaneous.Octet
import AsynDriver.Miscellaneous.InterposeEos
import AsynDriver.Miscellaneous.EosStream
import AsynDriver.Miscellaneous.EosEnd
import AsynDriver.Miscellaneous.EosTerminators
import AsynDriver.Miscellaneous.EosMemory
import AsynDriver.Miscellaneous.InterposeCom
import AsynDriver.Miscellaneous.ComXBuf
import AsynDriver.Miscellaneous.ComStream
import AsynDriver.Miscellaneous.ComWrite
import AsynDriver.Miscellaneous.SlowWrite
import AsynDriver.Miscellaneous.ComPortOption
import AsynDriver.Miscellaneous.ComPortReply
import AsynDriver.Miscellaneous.InterposeLayers
import AsynDriver.Miscellaneous.LayerForwarding
import AsynDriver.Miscellaneous.RestoreSettings
import AsynDriver.PortDriver.ParamVal
import AsynDriver.PortDriver.ParamList
import AsynDriver.PortDriver.ChangedParams
import AsynDriver.PortDriver.NestedCallbacks
import AsynDriver.PortDriver.CreateParam
import AsynDriver.PortDriver.DefaultMethods
import AsynDriver.PortDriver.FlushOctet
import AsynDriver.PortDriver.WriteRead
import AsynDriver.Interfaces.SyncIO
import AsynDriver.Interfaces.SyncIOTransactions
import AsynDriver.DevGpib.SrqWait
import AsynDriver.DevGpib.SrqWaitSteps
import AsynDriver.DevGpib.SrqWaitHold
import AsynDriver.DevGpib.SrqWaitSafety
import AsynDriver.DevGpib.Processing
import AsynDriver.DevGpib.ProcessingSteps
import AsynDriver.DevGpib.ProcessingSafety
import AsynDriver.DevGpib.InputEos
import AsynDriver.DevGpib.ArbitraryBlock
import AsynDriver.DevGpib.ArbitraryBlockReply
import AsynDriver.Gpib.PollTable
import AsynDriver.Gpib.PollPasses
import AsynDriver.Gpib.SrqRequest
import AsynDriver.Gpib.Terminator
import AsynDriver.Usbtmc.BulkOut
import AsynDriver.Usbtmc.BulkIn
import AsynDriver.Usbtmc.BulkInLimits
import AsynDriver.Vxi11.Links
import AsynDriver.Vxi11.Write
import AsynDriver.Vxi11.Read
import AsynDriver.Vxi11.CoreXdr
import AsynDriver.GsIP488.TransferSafety
import AsynDriver.Manager.TraceFiles
import AsynDriver.Manager.TraceListeners
import AsynDriver.Miscellaneous.TraceMaskString
import AsynDriver.Prologix.Driver
import AsynDriver.Prologix.Write
import AsynDriver.Prologix.Read
import AsynDriver.Prologix.Eos
import AsynDriver.Serial.IPPort
import AsynDriver.Serial.IPPortSafety
import AsynDriver.Serial.IPServerPort
import AsynDriver.Serial.SerialPort
import AsynDriver.Serial.SerialOptions
import AsynDriver.Serial.UDPServerPort
import AsynDriver.Serial.SerialTimeouts
import AsynDriver.Serial.FTDIPort
import AsynDriver.Serial.FTDIOptions
import AsynDriver.Serial.FTDITransfer
import AsynDriver.DevEpics.DevPvt
import AsynDriver.DevEpics.ScalarInput
import AsynDriver.DevEpics.ScalarInputRuns
import AsynDriver.DevEpics.ScalarOutput
import AsynDriver.DevEpics.ScalarOutputRuns
import AsynDriver.DevEpics.ArrayElement
import AsynDriver.DevEpics.XXXArray
import AsynDriver.DevEpics.XXXArrayRuns
import AsynDriver.DevEpics.XXXArrayLatest
import AsynDriver.DevEpics.Octet
import AsynDriver.DevEpics.OctetRuns
import AsynDriver.DevEpics.ParseLink
import AsynDriver.DevEpics.LinkForm
import AsynDriver.DevEpics.Average
import AsynDriver.DevEpics.AverageRuns
import AsynDriver.DevEpics.TimeSeries
import AsynDriver.DevEpics.TimeSeriesLock
import AsynDriver.DevEpics.ReadbackLocks
import AsynDriver.DevEpics.LinkBits
import AsynDriver.DevEpics.MbboDirect
import AsynDriver.AsynRecord.TraceLocks
import AsynDriver.AsynRecord.Connect
import AsynDriver.AsynRecord.ConnectSafety
import AsynDriver.AsynRecord.InterruptScan
import AsynDriver.AsynRecord.InterruptScanSafety
import AsynDriver.AsynRecord.GotValue
import AsynDriver.AsynRecord.Options
import AsynDriver.AsynRecord.TranslateEscape
import AsynDriver.AsynRecord.Monitor
import AsynDriver.AsynRecord.MonitorView
