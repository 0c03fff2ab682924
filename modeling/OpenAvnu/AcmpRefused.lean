import OpenAvnu.AcmpListenerBinding
import OpenAvnu.AcmpTalkerBooks
import OpenAvnu.AcmpTraffic

/-!
# Refused ACMP connections

Both machines write a connection into their tables before they start the stream.
-/

namespace OpenAvnu.AcmpTalker

open Acmp List

variable {myId:BitVec 64} {m:CommandResponse} {env:Env} {s s':State}

end OpenAvnu.AcmpTalker

namespace OpenAvnu.AcmpListener

open Acmp List

variable {cfg:Config} {m:CommandResponse} {env:Env} {s s':State}

abbrev Report (α:Type) := α×(BitVec 64×UInt16)×BitVec 64×BitVec 48×UInt16
def reported (info:ListenerStreamInfo) : Report Bool :=
 (info.connected,(info.talkerEntityId,info.talkerUniqueId),info.streamId,info.streamDestMac,info.streamVlanId)
def newlySent (s s':State) : List Sent := s'.sent.drop s.sent.length

end OpenAvnu.AcmpListener

namespace OpenAvnu.AcmpRefused

open OpenAvnu.Acmp OpenAvnu.Runs List

end OpenAvnu.AcmpRefused
