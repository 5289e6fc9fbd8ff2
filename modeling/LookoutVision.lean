import LookoutVision.ConfigurationHistory
import LookoutVision.StartedModel
import LookoutVision.CapsGeometry
import LookoutVision.FrameBitmap
import LookoutVision.FrameResult
import LookoutVision.SharedFrame
import LookoutVision.SegmentLength
import LookoutVision.SegmentName
import LookoutVision.FrameIsolation
import LookoutVision.OutcomeText
import LookoutVision.LatestVerdict
import LookoutVision.PropertyReadBack
import LookoutVision.PollingBounds
import LookoutVision.UpInTime
import LookoutVision.FloatText
import LookoutVision.MqttPublisher
import LookoutVision.PublishedReports
import LookoutVision.GrowthFailure
import LookoutVision.MappingLeak
import LookoutVision.OwnedHeap
import LookoutVision.ResultOwnership
import LookoutVision.Agreement
import LookoutVision.ElementMemory
import LookoutVision.MemoryRefinement
import LookoutVision.AgentContract
import LookoutVision.MemoryLedger
import LookoutVision.BuildAgreement
import LookoutVision.SlowAgent
import LookoutVision.StreamText
import LookoutVision.VerdictRefinement
import LookoutVision.Transcript
import LookoutVision.SignificantDigits
import LookoutVision.PrintedVerdicts
import LookoutVision.UnlockedEntries
import LookoutVision.SequentialEntries
import LookoutVision.PublisherMemory
import LookoutVision.PublishedVerdicts
