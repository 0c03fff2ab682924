import Mathlib.Data.List.Perm.Basic
import OpenAvnu.Intervals
import OpenAvnu.MaapPacket

/-!
# Timer and state of a MAAP client

`maap_timer_linux.c` and the queue surgery of `schedule_timer`. The queue is a list of range
addresses.
-/

namespace OpenAvnu.MaapTimer

open List

structure Time where
 (sec nsec:Nat)
 deriving DecidableEq, Repr

instance : Inhabited Time := ⟨⟨0,0⟩⟩

def timeAdd (a b:Time) : Time :=
 if a.nsec+b.nsec > 1000000000 then ⟨a.sec+b.sec+1,a.nsec+b.nsec-1000000000⟩
 else ⟨a.sec+b.sec,a.nsec+b.nsec⟩

def timeCmp (a b:Time) : Int :=
 if a.sec<b.sec then -1
 else if a.sec > b.sec then 1
 else if a.nsec<b.nsec then -1
 else if a.nsec > b.nsec then 1
 else 0

def timePassed (current target:Time) : Bool :=
 if current.sec<target.sec then false
 else if current.sec=target.sec ∧ current.nsec<target.nsec then false
 else true
def timeSetFromNanos (nsec:Nat) : Time := ⟨nsec/1000000000,nsec-nsec/1000000000*1000000000⟩
def walkTimers (due:Nat → Time) (ref:Nat) : List Nat → List Nat
 | []=>[ref]
 | rp::rest=>
  if timeCmp (due rp) (due ref)≤0 then rp::walkTimers due ref rest
  else ref::rp::rest
def addTimer (due:Nat → Time) (ref:Nat) : List Nat → List Nat
 | []=>[ref]
 | head::rest=>
  if timeCmp (due ref) (due head)<0 then ref::head::rest
  else head::walkTimers due ref rest
def requeueTimer (due:Nat → Time) (ref:Nat) (queue:List Nat) : List Nat := addTimer due ref (queue.erase ref)

variable (due:Nat → Time) (ref:Nat) (queue:List Nat)

lemma walkTimers_perm : (walkTimers due ref queue).Perm (ref::queue) := by
 induction queue with
 | nil=>exact List.Perm.refl _
 | cons rp rest ih=>
  simp only[walkTimers]
  split
  · exact (ih.cons rp).trans (Perm.swap ref rp rest)
  · exact List.Perm.refl _

lemma addTimer_perm : (addTimer due ref queue).Perm (ref::queue) := by
 cases queue with
 | nil=>exact List.Perm.refl _
 | cons head rest=>
  simp only[addTimer]
  split
  · exact List.Perm.refl _
  · exact ((walkTimers_perm due ref rest).cons head).trans (Perm.swap ref head rest)

lemma requeueTimer_perm : (requeueTimer due ref queue).Perm (ref::queue.erase ref) := addTimer_perm due ref _

lemma mem_requeueTimer {due:Nat → Time} {ref r:Nat} {queue:List Nat} :
 r∈requeueTimer due ref queue↔r=ref ∨ r∈queue := by
 rw[(requeueTimer_perm due ref queue).mem_iff,mem_cons]
 by_cases h:r=ref
 · simp[h]
 · simp[h,mem_erase_of_ne h]

lemma nodup_requeueTimer {due:Nat → Time} {ref:Nat} {queue:List Nat}
 (h:queue.Nodup) : (requeueTimer due ref queue).Nodup := by
 rw[(requeueTimer_perm due ref queue).nodup_iff,nodup_cons]
 exact ⟨h.not_mem_erase,h.erase ref⟩

end OpenAvnu.MaapTimer

/-! ## MAAP client state -/

namespace OpenAvnu.MaapClient

open Intervals MaapPacket MaapTimer List

def uint64 (n:Nat) : Nat := n%2^64
def uint16 (n:Nat) : Nat := n%2^16

inductive MaapState where
 | invalid | probing | defending | released
 deriving DecidableEq, Repr

inductive NotifyTag where
 | initialized | acquiring | acquired | released | status | yielded
 deriving DecidableEq, Repr

inductive NotifyError where
 | none | requiresInitialization | alreadyInitialized | reserveNotAvailable
 | releaseInvalidId | outOfMemory
 deriving DecidableEq, Repr

structure Notify where
 kind:NotifyTag
 id:Int
 (start count:Nat)
 result:NotifyError
 deriving DecidableEq, Repr

structure Range where
 id:Int
 state:MaapState
 counter:Nat
 overlapping:Bool
 nextActTime:Time
 interval:Option Nat
 sender:Nat
 deriving DecidableEq, Repr

instance : Inhabited Range := ⟨⟨0,.invalid,0,false,default,none,0⟩⟩

/-- The outcomes of `random()`, of the monotonic clock and of `malloc`, call by call. -/
structure Env where
 random:Nat → Nat
 clock:Nat → Time
 malloc:Nat → Bool

structure Client where
 initialized:Bool
 (destMac srcMac addressBase rangeLen:Nat)
 ranges:Tree Nat
 store:Nat → Option Range
 timerQueue:List Nat
 /-- deadline last passed to `Time_setTimer` -/
 timer:Option Time
 maxid:Int
 notifies:List (Nat×Notify)
 /-- packets queued for transmission, oldest first -/
 queued:List (List UInt8)
 (mallocs callocs draws readings:Nat)
 /-- Not in the source: an `assign_interval` inserted on its last attempt. -/
 late:Bool

def maapProbeRetransmits : Nat := 3
def maapProbeIntervalBase : Nat := 500
def maapProbeIntervalVariation : Nat := 100
def maapAnnounceIntervalBase : Nat := 30000
def maapAnnounceIntervalVariation : Nat := 2000

namespace Client

variable (env:Env) (mc:Client)

def modifyRange (ref:Nat) (f:Range → Range) : Client :=
 {mc with store:=fun r=>if r=ref then (mc.store r).map f else mc.store r}
def range (ref:Nat) : Range := (mc.store ref).getD default
def intervalOf (ref:Nat) : Interval Nat := ((mc.range ref).interval.bind mc.ranges.lookup).getD ⟨0,0,none⟩
def getCount (ref:Nat) : Nat := uint32 ((mc.intervalOf ref).high+1+(2^32-(mc.intervalOf ref).low))
def getStartAddress (ref:Nat) : Nat := uint64 (mc.addressBase+(mc.intervalOf ref).low)
def getEndAddress (ref:Nat) : Nat := uint64 (mc.addressBase+(mc.intervalOf ref).high)
def sendPacket (p:Packet) : Client := {mc with queued:=mc.queued++[packMaap p]}
def claimPacket (messageType ref:Nat) : Packet :=
 {initPacket mc.destMac mc.srcMac with
   messageType:=messageType
   requestedStartAddress:=mc.getStartAddress ref
   requestedCount:=uint16 (mc.getCount ref)}
def sendProbe (ref:Nat) : Client := mc.sendPacket (mc.claimPacket maapProbe ref)
def sendAnnounce (ref:Nat) : Client := mc.sendPacket (mc.claimPacket maapAnnounce ref)

def defendPacket (ref start count destination:Nat) : Packet :=
 let conflictStart:=max (mc.getStartAddress ref) start
 let conflictEnd:=min (mc.getEndAddress ref) (uint64 (start+count+(2^64-1)))
 {initPacket mc.destMac mc.srcMac with
   da:=destination
   messageType:=maapDefend
   requestedStartAddress:=start
   requestedCount:=count
   conflictStartAddress:=conflictStart
   conflictCount:=uint16 (conflictEnd+1+(2^64-conflictStart))}

def sendDefend (ref start count destination:Nat) : Client :=
 mc.sendPacket (mc.defendPacket ref start count destination)
def addNotify (sender:Nat) (note:Notify) : Client :=
 {mc with notifies:=mc.notifies++[(sender,note)]}
def informInitialized (sender:Nat) (result:NotifyError) : Client :=
 mc.addNotify sender ⟨.initialized,-1,mc.addressBase,mc.rangeLen,result⟩
def informRange (kind:NotifyTag) (sender:Nat) (id:Int) (ref:Nat)
 (result:NotifyError) : Client := mc.addNotify sender ⟨kind,id,mc.getStartAddress ref,mc.getCount ref,result⟩
def informAcquiring (ref:Nat) : Client :=
 mc.informRange .acquiring (mc.range ref).sender (mc.range ref).id ref .none
def informAcquired (ref:Nat) (result:NotifyError) : Client :=
 mc.informRange .acquired (mc.range ref).sender (mc.range ref).id ref result
def informNotAcquired (sender:Nat) (id:Int) (rangeSize:Nat) (result:NotifyError) : Client :=
 mc.addNotify sender ⟨.acquired,id,0,rangeSize,result⟩

/-- `inform_released`, `inform_status` and `inform_yielded`: the range may be missing. -/
def informMaybe (kind:NotifyTag) (sender:Nat) (id:Int) (ref:Option Nat)
 (result:NotifyError) : Client :=
 match ref with
 | some r=>mc.informRange kind sender id r result
 | none=>mc.addNotify sender ⟨kind,id,0,0,result⟩

def informReleased := mc.informMaybe .released
def informStatus := mc.informMaybe .status
def informYielded := mc.informMaybe .yielded
def startTimer : Client :=
 match mc.timerQueue with
 | []=>mc
 | head::_=>{mc with timer:=some (mc.range head).nextActTime}

/-- `rand_ms`: between 1 and `variation - 1`. -/
def randMs (variation:Nat) : Nat := env.random mc.draws%(variation-1)+1

def armTimer (ref base variation:Nat) : Client :=
 let ns:=(base+mc.randMs env variation)*1000000
 {mc.modifyRange ref fun range=>
  {range with nextActTime:=timeAdd (env.clock mc.readings) (timeSetFromNanos ns)} with
   draws:=mc.draws+1
   readings:=mc.readings+1}

def armRange (ref:Nat) : Client :=
 match (mc.range ref).state with
 | .probing=>mc.armTimer env ref maapProbeIntervalBase maapProbeIntervalVariation
 | .defending=>mc.armTimer env ref maapAnnounceIntervalBase maapAnnounceIntervalVariation
 | _=>mc
def enqueueTimer (ref:Nat) : Client :=
 {mc with timerQueue:=
  requeueTimer (fun r=>(mc.range r).nextActTime) ref mc.timerQueue}
def scheduleTimer (ref:Nat) : Client := (mc.armRange env ref).enqueueTimer ref
def tryInterval (start len:Nat) : Client×Option Nat :=
 let node:=mc.callocs
 match insertInterval node (allocInterval start len) mc.ranges with
 | some tree=>({mc with ranges:=tree,callocs:=node+1},some node)
 | none=>({mc with callocs:=node+1},none)

/-- Up to `tries` attempts at random places; with a node, the number of tries left. -/
def tryRandom (len:Nat) : Nat → Client → Client×Option (Nat×Nat)
 | 0, mc=>(mc,none)
 | tries+1, mc=>
  let start:=env.random mc.draws%uint32 (mc.rangeLen+1+(2^32-len))
  match {mc with draws:=mc.draws+1}.tryInterval start len with
  | (mc',some node)=>(mc',some (node,tries))
  | (mc',none)=>tryRandom len tries mc'

def own (node ref:Nat) : Client :=
 {mc.modifyRange ref fun range=>{range with interval:=some node} with
   ranges:=mc.ranges.setData node (some ref)}
def attemptFits (attemptBase len:Nat) : Bool := decide (mc.addressBase≤attemptBase) &&
  decide (uint64 (attemptBase+len+(2^64-1)) ≤
   uint64 (mc.addressBase+mc.rangeLen+(2^64-1)))
def tryAttempt (attemptBase len:Nat) : Client×Option Nat :=
 if mc.attemptFits attemptBase len then
  mc.tryInterval (uint32 (attemptBase-mc.addressBase)) len
 else (mc,none)

/-- After an insertion on the last attempt the counter is 1000, so the call fails. -/
def assignInterval (ref attemptBase len:Nat) : Client×Bool :=
 if mc.rangeLen<len then (mc,false)
 else match mc.tryAttempt attemptBase len with
  | (mc',some node)=>(mc'.own node ref,true)
  | (mc',none)=>
   match tryRandom env len 1000 mc' with
   | (mc'',some (node,_+1))=>(mc''.own node ref,true)
   | (mc'',some (_,0))=>({mc'' with late:=true},false)
   | (mc'',none)=>(mc'',false)

/-- The loop of `remove_range_interval`: every range points to the node that holds it. -/
def repoint : Nat → Option (Entry Nat) → Client → Client
 | 0, _, mc=>mc
 | _, none, mc=>mc
 | fuel+1, some (node,iv), mc=>
  let mc':=match iv.data with
   | some ref=>mc.modifyRange ref fun range=>{range with interval:=some node}
   | none=>mc
  repoint fuel (nextInterval mc'.ranges node) mc'

def removeRangeInterval (node:Nat) : Client :=
 match removeInterval node mc.ranges with
 | some (tree,_)=>repoint tree.size (minimumInterval tree) {mc with ranges:=tree}
 | none=>mc

end Client

end OpenAvnu.MaapClient
