import Llfix.Constants
import Llfix.Converters
import Llfix.Lib.GuardedRun
import Llfix.Connectors
import Llfix.FixUtilities
import Llfix.Messages
import Llfix.FixSession
import Llfix.AdminUtility
import Llfix.SessionEffects
import Llfix.ReceivedMessage
import Llfix.FixServer
import Llfix.FixClient
import Llfix.Server.Effects
import Llfix.Server.Messages
import Llfix.Client.Messages
import Llfix.CounterLaw
import Llfix.Server.RefusedLogons
import Llfix.Client.LogonRecovery
import Llfix.Lib.ChainTable
import Llfix.Dictionary
import Llfix.Lib.LinkedNodes
import Llfix.NodeDictionary
import Llfix.DictionaryChains
import Llfix.DictionaryRefinement
import Llfix.GenerationStamps
import Llfix.UnknownSessionContext
import Llfix.Client.DeliveryOrder
import Llfix.OutgoingCounter
import Llfix.OutgoingStream
import Llfix.Lib.SlotHistory
import Llfix.Throttler
import Llfix.SPSCBoundedQueue
import Llfix.AdminQueueOrder
import Llfix.RxBuffer
import Llfix.RxScan
import Llfix.RxRemainder
import Llfix.RxBounds
import Llfix.RxChunks
import Llfix.Encoding
import Llfix.Retransmission
import Llfix.Client.Retransmission
import Llfix.Server.Retransmission
import Llfix.MutualGap
import Llfix.Lib.MappedFile
import Llfix.MessageSerialiser
import Llfix.SerialisedFiles
import Llfix.OutgoingCache
import Llfix.RestartEquivalence
import Llfix.ResendCache
import Llfix.SerialisedRuns
import Llfix.CrashRecovery
import Llfix.RxOverlap
import Llfix.Decimal
import Llfix.Parser
import Llfix.Server.Connections
import Llfix.Server.ReceivedBytes
import Llfix.Server.SlotIsolation
import Llfix.Server.LiveConnections
import Llfix.Server.PeerTables
import Llfix.Server.DisabledSessions
import Llfix.Server.AuthenticationGate
import Llfix.ManagementConnections
import Llfix.ConnectionIsolation
import Llfix.TagNumbers
import Llfix.Checksum
import Llfix.ChecksumSpelling
import Llfix.EncodedFields
import Llfix.EncodeParse
import Llfix.ChecksumEncoding
import Llfix.OutgoingMessage
import Llfix.Replay
import Llfix.GapFillReplay
import Llfix.ReplayIndependence
import Llfix.GapFillAnswers
import Llfix.ControlNumbers
import Llfix.MsgTypeCodes
import Llfix.DeserialiseBounds
import Llfix.SizedFiles
import Llfix.TargetBuffer
import Llfix.EncodeBounds
import Llfix.BinaryReplay
import Llfix.Lib.GroupScan
import Llfix.RepeatingGroups
import Llfix.BinaryFields
import Llfix.ReceiveLoops
import Llfix.FixedPoint
import Llfix.IntegerRoundTrip
import Llfix.TagAccess
import Llfix.Server.TagAccess
import Llfix.Client.ReceivedBytes
import Llfix.Client.TagAccess
import Llfix.CanonicalIntegers
import Llfix.CommandFraming
import Llfix.FixDeserialiser
import Llfix.ConfigurationRoundTrip
import Llfix.DisabledSessions
import Llfix.Client.LiveConnections
import Llfix.RejectedMessages
import Llfix.Timestamps
import Llfix.SessionSchedule
import Llfix.LinkedSides
import Llfix.ResendConvergence
import Llfix.SilentPeers
