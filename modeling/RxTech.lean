import RxTech.Core.OwnershipProperties
import RxTech.Core.CompletenessProperties
import RxTech.Core.CompletionProperties
import RxTech.Core.AdjudicationProperties
import RxTech.Core.RejectionProperties
import RxTech.Core.BackpressureProperties
import RxTech.Core.StreamProperties
import RxTech.Core.TimeoutProperties
import RxTech.Core.WireControlProperties
import RxTech.Core.AccountingProperties
import RxTech.Core.StorageProperties
import RxTech.Core.DeliveryProperties
import RxTech.Output.RingCapacity
import RxTech.Output.SpscRingProperties
import RxTech.Core.OrderProperties
import RxTech.Core.StagingProperties
import RxTech.Core.AnnouncementProperties
import RxTech.Core.TimeoutCut
import RxTech.Core.VerificationProperties
import RxTech.Core.FixedModeProperties
import RxTech.Core.BurstIndependence
import RxTech.Ingress.FrameDecoders
import RxTech.Sender.ProtocolSenderProperties
import RxTech.Protocol.FragmentOrder
import RxTech.Protocol.ReassemblyTermination
import RxTech.Ingress.FileReplayProperties
import RxTech.Runtime.RecorderProperties
import RxTech.Replay.FrameBuilderProperties
import RxTech.Replay.HeaderChecksum
import RxTech.Protocol.DataOrderProperties
import RxTech.Runtime.ConfigFileProperties
import RxTech.Runtime.MergeConfig
import RxTech.App.ValidateConfig
import RxTech.Runtime.RetentionProperties
import RxTech.Runtime.RecordingRoundTrip
import RxTech.Runtime.SegmentNames
import RxTech.Core.SummaryProperties
import RxTech.Output.SlowConsumer
import RxTech.Core.PacketConservation
import RxTech.Core.OutputGaps
import RxTech.Ingress.ArpResponder
import RxTech.Ingress.DpdkIngress
import RxTech.Ingress.LinuxSocketIngress
import RxTech.Core.SmallRings
import RxTech.Core.OwnerStreams
import RxTech.Ingress.FrameArrival
import RxTech.Sender.SenderStream
import RxTech.Sender.EndToEnd
import RxTech.Core.HandledDatagrams
import RxTech.Tools.RawbinProtocolDump
import RxTech.Tools.DumpedRows
import RxTech.Library.Pacing
import RxTech.Replay.ReplaySender
import RxTech.Replay.ReplayArrival
import RxTech.Library.CommandLine
import RxTech.Replay.ReplayConfig
import RxTech.Library.Grouping
import RxTech.Sidecar.RuntimeState
import RxTech.Sidecar.CapturedReport
import RxTech.Sidecar.RunSummary
import RxTech.Sidecar.RunSummaryProperties
import RxTech.App.CliArgs
import RxTech.Library.PathComponents
import RxTech.App.RunArtifacts
import RxTech.App.RunApp
