import Msomeip.Tp.RoundTrip
import Msomeip.Tp.Confluence
import Msomeip.Sd.ParserBounds
import Msomeip.Sd.ParserDecode
import Msomeip.Sd.Withdrawals
import Msomeip.Sd.WireTtl
import Msomeip.Sd.Availability
import Msomeip.Sd.Callbacks
import Msomeip.Sd.OfferEndpoints
import Msomeip.Runtime.Routing
import Msomeip.Runtime.FrameSizes
import Msomeip.Runtime.SdRecognition
import Msomeip.Runtime.StaleSegments
import Msomeip.Runtime.LockOrder
import Msomeip.Runtime.Singleton
import Msomeip.Application.RemoteCalls
import Msomeip.Application.Completion
import Msomeip.Application.SessionIds
import Msomeip.Application.Eventgroups
import Msomeip.Application.Replies
import Msomeip.Application.RequestIds
import Msomeip.Application.Answers
import Msomeip.Service.Fields
import Msomeip.Service.Dispatch
import Msomeip.Service.SharedEvents
import Msomeip.Service.ProxyAvailability
import Msomeip.Transport.TcpFraming
import Msomeip.Transport.StopDeadlock
import Msomeip.Transport.EndpointConsistency
import Msomeip.Shm.CommandQueue
import Msomeip.Shm.Lookups
import Msomeip.Message.TypedFifo
import Msomeip.Tp.Partition
import Msomeip.Tp.Soundness
import Msomeip.Transport.Streams
import Msomeip.Service.Results
import Msomeip.Tp.Offsets
import Msomeip.Shm.ResponseDrain
import Msomeip.Shm.Segment
import Msomeip.Application.Silence
import Msomeip.Shm.RegistryBounds
import Msomeip.Message.PayloadReads
import Msomeip.Sd.Retries
import Msomeip.Sd.ElementCodecs
import Msomeip.Sd.Freshness
import Msomeip.Sd.Duplicates
import Msomeip.Service.SharedEventgroups
