import AsDt1.Lib.Machine
import AsDt1.Lib.Lists
import AsDt1.Lib.Worker
import AsDt1.Lib.Routine
import AsDt1.Lib.Ledger
import AsDt1.Lib.Octets
import AsDt1.Lib.LatestValues
import AsDt1.Lib.Binary32
import AsDt1.Lib.Yaml
import AsDt1.Lib.Covariance
import AsDt1.Lib.Total
import AsDt1.Lib.Delimited
import AsDt1.Lib.Simulation
import AsDt1.Source.Modes
import AsDt1.Source.Parameters
import AsDt1.Source.SerialWorker
import AsDt1.Source.V4l2Worker
import AsDt1.Source.Lifecycle
import AsDt1.Source.WorkerHandles
import AsDt1.Source.Driver
import AsDt1.Source.Discovery
import AsDt1.Source.PointCloud2
import AsDt1.Source.Combiner
import AsDt1.Source.CombinerRounds
import AsDt1.Source.CombinerRuns
import AsDt1.Source.PointLoop
import AsDt1.Source.ImuMessage
import AsDt1.Source.ImuFusion
import AsDt1.Source.NodeRuns
import AsDt1.Source.FrameData
import AsDt1.Source.HistFrame
import AsDt1.Source.HistDots
import AsDt1.Source.DriverCloud
import AsDt1.Source.SerialPort
import AsDt1.Source.SerialReader
import AsDt1.Source.SerialReads
import AsDt1.Source.CdcStream
import AsDt1.Source.StreamReads
import AsDt1.Source.Handshake
import AsDt1.Source.RestOfRun
import AsDt1.Source.PortWaits
import AsDt1.Source.StoppedWorker
import AsDt1.Source.CalibrationParser
import AsDt1.Source.CaptureLoop
import AsDt1.Source.HardwareId
import AsDt1.Source.SerialImpl
import AsDt1.Source.SerialTransfers
import AsDt1.Source.SerialLines
import AsDt1.Source.PortSimulation
import AsDt1.Source.LibraryPort
import AsDt1.Source.TimelyReads
import AsDt1.Source.WorkerCalls
import AsDt1.Source.PortDescriptors
import AsDt1.Source.ListPorts
import AsDt1.Source.DriverMessages
import AsDt1.Guarantees.ParameterRollback
import AsDt1.Guarantees.ParameterRestart
import AsDt1.Guarantees.SessionIsolation
import AsDt1.Guarantees.ClockOffset
import AsDt1.Guarantees.QuietAfterStop
import AsDt1.Guarantees.VideoDescriptors
import AsDt1.Guarantees.Destruction
import AsDt1.Guarantees.CameraPairing
import AsDt1.Guarantees.MergedPointTime
import AsDt1.Guarantees.CloudReuse
import AsDt1.Guarantees.CloudTransform
import AsDt1.Guarantees.CombinedStamps
import AsDt1.Guarantees.FusedStamps
import AsDt1.Guarantees.RingNumbers
import AsDt1.Guarantees.MergedLayout
import AsDt1.Guarantees.PayloadPoints
import AsDt1.Guarantees.HistogramPoints
import AsDt1.Guarantees.CloudEncoding
import AsDt1.Guarantees.FrameTransforms
import AsDt1.Guarantees.ImuClock
import AsDt1.Guarantees.AcceptedParameters
import AsDt1.Guarantees.FrameRecovery
import AsDt1.Guarantees.CloudStamps
import AsDt1.Guarantees.ConfirmedMode
import AsDt1.Guarantees.ReadTermination
import AsDt1.Guarantees.FailedTimestamps
import AsDt1.Guarantees.RebootFailure
import AsDt1.Guarantees.PortMatching
import AsDt1.Guarantees.CalibrationEntries
import AsDt1.Guarantees.FusedCovariance
import AsDt1.Guarantees.BufferQueue
import AsDt1.Guarantees.TimestampLines
import AsDt1.Guarantees.HardwareId
import AsDt1.Guarantees.SerialTransfers
import AsDt1.Guarantees.LibraryFrames
import AsDt1.Guarantees.SerialDescriptors
import AsDt1.Guarantees.CommandProtocol
import AsDt1.Guarantees.PortListing
import AsDt1.Guarantees.BroadcastFrames
import AsDt1.Guarantees.TopicMessages
