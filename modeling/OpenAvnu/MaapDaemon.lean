import OpenAvnu.MaapClient

/-!
# MAAP commands, packets and timers

The entry points of `maap/common/maap.c`.
-/

namespace OpenAvnu.MaapDaemon

open Intervals MaapPacket MaapTimer MaapClient

def blank (destMac srcMac:Nat) : Client where
 initialized := false
 destMac:=destMac
 srcMac:=srcMac
 addressBase:=0
 rangeLen:=0
 ranges:=.nil
 store:=fun _=>none
 timerQueue:=[]
 timer:=none
 maxid:=0
 notifies:=[]
 queued:=[]
 mallocs:=0
 callocs:=0
 draws:=0
 readings:=0
 late:=false

def maapInitClient (mc:Client) (sender rangeAddressBase rangeLen:Nat) : Client×Int :=
 if mc.initialized then
  if rangeAddressBase=mc.addressBase ∧ rangeLen=mc.rangeLen then
   (mc.informInitialized sender .none,0)
  else (mc.informInitialized sender .alreadyInitialized,-1)
 else
  ({mc with
   addressBase:=rangeAddressBase
   rangeLen:=rangeLen
   ranges:=.nil
   timerQueue:=[]
   maxid:=0
   notifies:=[]
   initialized:=true}.informInitialized sender .none,0)

def newRange (env:Env) (mc:Client) (id:Int) (sender:Nat) : Range where
 id := id
 state:=.probing
 counter:=maapProbeRetransmits
 overlapping:=false
 nextActTime:=env.clock mc.readings
 interval:=none
 sender:=sender

def withRange (mc:Client) (range:Range) : Client :=
 {mc with
   store:=fun r=>if r=mc.mallocs then some range else mc.store r
   mallocs:=mc.mallocs+1
   readings:=mc.readings+1}

def freeRange (mc:Client) (ref:Nat) : Client :=
 {mc with store:=fun r=>if r=ref then none else mc.store r}
def setState (mc:Client) (ref:Nat) (state:MaapState) : Client :=
 mc.modifyRange ref fun range=>{range with state:=state}
def setCounter (mc:Client) (ref:Nat) (counter:Nat) : Client :=
 mc.modifyRange ref fun range=>{range with counter:=counter}
def setOverlapping (mc:Client) (ref:Nat) (overlapping:Bool) : Client :=
 mc.modifyRange ref fun range=>{range with overlapping:=overlapping}
def probeReservation (env:Env) (mc:Client) (ref:Nat) : Client :=
 (((mc.informAcquiring ref).scheduleTimer env ref).startTimer).sendProbe ref

def reserveFresh (env:Env) (mc:Client) (range:Range) (sender attemptBase length:Nat) : Client×Bool :=
 let ref:=mc.mallocs
 let assigned:=(withRange mc range).assignInterval env ref attemptBase (uint16 length)
 if assigned.2 then (probeReservation env assigned.1 ref,true)
 else
  (freeRange (assigned.1.informNotAcquired sender (-1) length .reserveNotAvailable) ref,false)

def maapReserveRange (env:Env) (mc:Client) (sender attemptBase length:Nat) : Client×Int :=
 if !mc.initialized then
  (mc.informNotAcquired sender (-1) length .requiresInitialization,-1)
 else if 0xFFFF<length ∨ mc.rangeLen<length then
  (mc.informNotAcquired sender (-1) length .reserveNotAvailable,-1)
 else if !env.malloc mc.mallocs then
  ({mc with mallocs:=mc.mallocs+1}.informNotAcquired sender (-1) length .outOfMemory,-1)
 else
  let id:=mc.maxid+1
  let reserved:=reserveFresh env {mc with maxid:=id} (newRange env mc id sender) sender
   attemptBase length
  (reserved.1,if reserved.2 then id else -1)

def findRange (mc:Client) (id:Int) (test:MaapState → Bool) : Option Nat :=
 mc.timerQueue.find? fun ref=>decide ((mc.range ref).id=id)&&test (mc.range ref).state
def releaseAt (mc:Client) (node ref:Nat) : Client := setState (mc.removeRangeInterval node) ref .released

def maapReleaseRange (mc:Client) (sender:Nat) (id:Int) : Client×Int :=
 if !mc.initialized then
  (mc.informReleased sender id none .requiresInitialization,-1)
 else match findRange mc id (fun state=>decide (state ≠ .released)) with
  | none=>(mc.informReleased sender id none .releaseInvalidId,-1)
  | some ref=>
   let owner:=(mc.range ref).sender
   let mc:=mc.informReleased sender id (some ref) .none
   let mc:=if sender≠owner then mc.informReleased owner id (some ref) .none else mc
   (releaseAt mc ((mc.range ref).interval.getD 0) ref,0)

def maapRangeStatus (mc:Client) (sender:Nat) (id:Int) : Client :=
 if !mc.initialized then mc.informStatus sender id none .requiresInitialization
 else match findRange mc id (fun state=>decide (state=.defending)) with
  | none=>mc.informStatus sender id none .releaseInvalidId
  | some ref=>mc.informStatus sender id (some ref) .none

def flagOverlaps (start count:Nat) : Nat → Option (Entry Nat) → Client → Nat → Client×Nat
 | 0, _, mc, num=>(mc,num)
 | _, none, mc, num=>(mc,num)
 | fuel+1, some (node,iv), mc, num=>
  if intervalCheckOverlap iv start count then
   let mc':=match iv.data with
    | some ref=>setOverlapping mc ref true
    | none=>mc
   flagOverlaps start count fuel (nextInterval mc'.ranges node) mc' (num+1)
  else (mc,num)

def findFlagged (mc:Client) : Nat → Option (Entry Nat) → Option (Nat×Interval Nat ×
 Nat)
 | 0, _=>none
 | _, none=>none
 | fuel+1, some (node,iv)=>
  match iv.data with
  | some ref=>
   if (mc.range ref).overlapping then some (node,iv,ref)
   else findFlagged mc fuel (nextInterval mc.ranges node)
  | none=>findFlagged mc fuel (nextInterval mc.ranges node)

/-- `iv->high - iv->low + 1`, passed on as a `uint16_t`. -/
def sizeOf16 (iv:Interval Nat) : Nat := uint16
 (uint32 (iv.high+1+(2^32-iv.low)))

def giveUp (mc:Client) (node:Nat) (iv:Interval Nat) (ref:Nat) : Client :=
 releaseAt (mc.informNotAcquired (mc.range ref).sender (mc.range ref).id
  (uint32 (iv.high+1+(2^32-iv.low))) .reserveNotAvailable) node ref
def reprobe (env:Env) (mc:Client) (node ref:Nat) : Client :=
 ((setCounter ((mc.informAcquiring ref).removeRangeInterval node) ref
  maapProbeRetransmits).scheduleTimer env ref).sendProbe ref
def relocate (env:Env) (mc:Client) (node:Nat) (iv:Interval Nat) (ref:Nat) : Client :=
 let assigned:={mc with ranges:=mc.ranges.setData node none}.assignInterval env ref 0
  (sizeOf16 iv)
 if assigned.2 then reprobe env assigned.1 node ref else giveUp assigned.1 node iv ref
def probeReplacement (env:Env) (mc:Client) (sender:Nat) (id:Int) (ref fresh:Nat) : Client :=
 (((mc.scheduleTimer env fresh).sendProbe fresh).informYielded sender id (some ref)
  .none).informAcquiring fresh

def requestReplacement (env:Env) (mc:Client) (iv:Interval Nat) (ref:Nat) : Client
 :=
 let sender:=(mc.range ref).sender
 let id:=(mc.range ref).id
 let fresh:=mc.mallocs
 if !env.malloc fresh then
  {mc with mallocs:=fresh+1}.informYielded sender id (some ref) .outOfMemory
 else
  let assigned:=(withRange mc (newRange env mc id sender)).assignInterval env fresh 0
   (sizeOf16 iv)
  if assigned.2 then probeReplacement env assigned.1 sender id ref fresh
  else freeRange (assigned.1.informYielded sender id (some ref) .reserveNotAvailable) fresh

def reactTo (env:Env) (p:Packet) (mc:Client) (node:Nat) (iv:Interval Nat)
 (ref:Nat) : Client :=
 match (mc.range ref).state with
 | .probing=>
  if p.messageType=maapProbe ∧ compareMacAddresses mc.srcMac p.sa then mc
  else relocate env mc node iv ref
 | .defending=>
  if p.messageType=maapProbe then
   mc.sendDefend ref p.requestedStartAddress p.requestedCount p.sa
  else if compareMacAddresses mc.srcMac p.sa then mc
  else releaseAt (requestReplacement env mc iv ref) node ref
 | _=>mc

/-- One round of the loop: the flag is cleared, then the range reacts. -/
def resolveConflict (env:Env) (p:Packet) (mc:Client) (node:Nat) (iv:Interval Nat)
 (ref:Nat) : Client := reactTo env p (setOverlapping mc ref false) node iv ref

def resolveConflicts (env:Env) (p:Packet) (start:Nat) : Nat → Client → Client
 | 0, mc=>mc
 | num+1, mc=>
  match findFlagged mc mc.ranges.size
   (searchInterval mc.ranges start p.requestedCount) with
  | some (node,iv,ref)=>
   resolveConflicts env p start num (resolveConflict env p mc node iv ref)
  | none=>mc

def outsidePool (mc:Client) (p:Packet) : Bool :=
 decide (uint64 (p.requestedStartAddress+p.requestedCount+(2^64-1)) < mc.addressBase) ||
  decide (uint64 (mc.addressBase+mc.rangeLen+(2^64-1))<p.requestedStartAddress)
def packetStart (mc:Client) (p:Packet) : Nat := uint32 (p.requestedStartAddress+(2^64-mc.addressBase))
def flagPacket (mc:Client) (p:Packet) : Client×Nat :=
 flagOverlaps (packetStart mc p) p.requestedCount mc.ranges.size
  (searchInterval mc.ranges (packetStart mc p) p.requestedCount) mc 0
def handleOverlaps (env:Env) (mc:Client) (p:Packet) : Client :=
 resolveConflicts env p (packetStart mc p) (flagPacket mc p).2 (flagPacket mc p).1
def recognized (p:Packet) : Bool :=
 decide (p.ethertype=maapType ∧ p.subtype=maapSubtype ∧ p.controlDataLength=16) &&
  decide (p.version=0)&&decide (maapProbe≤p.messageType ∧ p.messageType ≤ maapAnnounce)

def maapHandlePacket (env:Env) (mc:Client) (stream:List UInt8) : Client×Int :=
 if stream.length < maapPktSize then (mc,-1)
 else
  let p:=unpackMaap stream
  if !recognized p then (mc,-1)
  else if outsidePool mc p then (mc,0)
  else ((handleOverlaps env mc p).startTimer,0)

/-- The source address of the packet that `maap_yield_range` makes up. -/
def yieldMac : Nat := 0x010000000000
def yieldPacket (mc:Client) (ref:Nat) : Packet :=
 {initPacket yieldMac yieldMac with
   messageType:=maapAnnounce
   requestedStartAddress:=mc.getStartAddress ref
   requestedCount:=uint16 (mc.getCount ref)}

def maapYieldRange (env:Env) (mc:Client) (sender:Nat) (id:Int) : Client×Int :=
 if !mc.initialized then
  (mc.informYielded sender id none .requiresInitialization,-1)
 else match findRange mc id (fun state=>decide (state=.defending)) with
  | none=>(mc.informYielded sender id none .releaseInvalidId,-1)
  | some ref=>((maapHandlePacket env mc (packMaap (yieldPacket mc ref))).1,0)

def handleProbeTimer (env:Env) (mc:Client) (ref:Nat) : Client :=
 if (mc.range ref).counter=0 then
  ((setState (mc.informAcquired ref .none) ref .defending).scheduleTimer env ref).sendAnnounce ref
 else
  ((setCounter mc ref ((mc.range ref).counter-1)).scheduleTimer env ref).sendProbe ref
def handleDefendTimer (env:Env) (mc:Client) (ref:Nat) : Client := (mc.scheduleTimer env ref).sendAnnounce ref

def handleDue (env:Env) (mc:Client) (ref:Nat) : Client :=
 match (mc.range ref).state with
 | .probing=>handleProbeTimer env mc ref
 | .defending=>handleDefendTimer env mc ref
 | .released=>freeRange mc ref
 | .invalid=>mc

/-- The loop of `maap_handle_timer`; `none` if it takes more than `fuel` rounds. -/
def handleTimers (env:Env) (currenttime:Time) : Nat → Client → Option Client
 | fuel, mc=>
  match mc.timerQueue with
  | []=>some mc
  | ref::rest=>
   if timePassed currenttime (mc.range ref).nextActTime then
    match fuel with
    | 0=>none
    | fuel+1=>
     handleTimers env currenttime fuel
      (handleDue env {mc with timerQueue:=rest} ref)
   else some mc

def maapHandleTimer (env:Env) (fuel:Nat) (mc:Client) : Option Client :=
 (handleTimers env (env.clock mc.readings) fuel {mc with readings:=mc.readings+1}).map
  Client.startTimer

end OpenAvnu.MaapDaemon
