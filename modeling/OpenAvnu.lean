import OpenAvnu.MaapNetwork
import OpenAvnu.MaapQueue
import OpenAvnu.MaapNet
import OpenAvnu.MrpRejoin
import OpenAvnu.MrpBounds
import OpenAvnu.MrpOverflow
import OpenAvnu.MrpTimers
import OpenAvnu.MrpdBuffers
import OpenAvnu.MrpLists
import OpenAvnu.MsrpPruning
import OpenAvnu.MsrpNotices
import OpenAvnu.MsrpListeners
import OpenAvnu.MaapProtocol
import OpenAvnu.MaapProbes
import OpenAvnu.AvtpRx
import OpenAvnu.RingSocket
import OpenAvnu.TalkerStream
import OpenAvnu.MrpRequests
import OpenAvnu.EndpointReservation
import OpenAvnu.EndpointSrp
import OpenAvnu.AcmpPosts
import OpenAvnu.AcmpAnswers
import OpenAvnu.AcmpTalkerLedger
import OpenAvnu.AcmpTalkerSessions
import OpenAvnu.AcmpRefused
import OpenAvnu.AcmpLoops
import OpenAvnu.AecpQueue
import OpenAvnu.AecpReadBack
import OpenAvnu.AecpFrame
import OpenAvnu.AecpParse
import OpenAvnu.AemLookup
import OpenAvnu.Eui64set
import OpenAvnu.MapH264
import OpenAvnu.MapMpeg2ts
import OpenAvnu.Timespecs
import OpenAvnu.FixedTimestamps
import OpenAvnu.RingQueues
import OpenAvnu.OpenavbTraversal
import OpenAvnu.Shaper
import OpenAvnu.MaapDuel
