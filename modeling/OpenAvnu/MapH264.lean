import OpenAvnu.AvtpTime
import OpenAvnu.Bytes
import OpenAvnu.MediaQ

/-!
# The H.264 mapping

`openavb_map_h264.c`. Both ends count `h264_timestamp` as header; the talker's length field counts
it as data too.
-/

namespace OpenAvnu.MapH264

open AvtpTime MediaQ Bytes List
open Timespecs (Timespec)

def totalHeaderSize : Nat := 12+16
def maxPayloadSize : BitVec 32 := 1416

structure PvtData where
 (maxTransitUsec itemSize:BitVec 32)
 itemSize_le:itemSize ≤ maxPayloadSize

def openavbMapH264Initialize (inMaxTransitUsec:BitVec 32) : PvtData :=
 ⟨inMaxTransitUsec,maxPayloadSize,BitVec.le_refl _⟩

structure Media where
 pPubData:List UInt8
 itemSize:BitVec 32
 pAvtpTime:Time
 lastPacket:Bool
 timestamp:BitVec 32

abbrev Buffer := Nat → UInt8
def store (offset:Nat) (bytes:List UInt8) (pData:Buffer) : Buffer := fun i=>
 if offset ≤ i ∧ i<offset+bytes.length then bytes.getD (i-offset) 0 else pData i
def load (offset len:Nat) (pData:Buffer) : List UInt8 := (List.range len).map fun i=>pData (offset+i)
def setFlag (offset:Nat) (flag:Bool) (pHdr:Buffer) : Buffer :=
 store offset [if flag then pHdr offset ||| 0x01 else pHdr offset &&& ~~~0x01] pHdr

/-- The frame of an item whose time already has the transit time in it. -/
def txFrame (item:Item Media) (pHdr:Buffer) : Buffer :=
 let pHdr:=setFlag 1 item.data.pAvtpTime.bTimestampValid pHdr
 let pHdr:=setFlag 3 item.data.pAvtpTime.bTimestampUncertain pHdr
 let pHdr:=store 12 (beBytes 4 (openavbAvtpTimeGetAvtpTimestamp item.data.pAvtpTime).toNat) pHdr
 let pHdr:=store 22 [if item.data.lastPacket then 0x10 else 0x00] pHdr
 let pHdr:=store 24 (beBytes 4 item.data.timestamp.toNat) pHdr
 let pHdr:=store totalHeaderSize (item.data.pPubData.take item.dataLen.toNat) pHdr
 store 20 (beBytes 2 (item.dataLen+4).toNat) pHdr

structure Tx where
 queue:Info Media
 pData:Buffer
 dataLen:BitVec 32
 ready:Option (Item Media)

def addTransit (pPvtData:PvtData) (media:Media) : Media :=
 {media with
   pAvtpTime:=openavbAvtpTimeAddUSec (pPvtData.maxTransitUsec.setWidth 64) media.pAvtpTime}

def openavbMapH264TxCB (pPvtData:PvtData) (q:Info Media) (pData:Buffer)
 (dataLen:BitVec 32) : Option Tx :=
 let pHdr:=store 23 [0] (store 18 [0] (store 17 [0x01] (store 16 [0x02] pData)))
 match openavbMediaQTailLock q with
 | (q,none)=>some ⟨q,pHdr,0,none⟩
 | (q,some tail)=>
  let item:=q.pItems tail
  if item.dataLen=0 then
   (openavbMediaQTailPull q).map fun r=>⟨r.1,pHdr,0,none⟩
  else if pPvtData.itemSize < item.dataLen then
   -- `*dataLen` stays as the caller set it
   (openavbMediaQTailPull q).map fun r=>⟨r.1,pHdr,dataLen,none⟩
  else
   let item:={item with data:=addTransit pPvtData item.data}
   let q:={q with pItems:=Function.update q.pItems tail item}
   (openavbMediaQTailPull q).map fun r=>
    ⟨r.1,txFrame item pHdr,item.dataLen+BitVec.ofNat 32 totalHeaderSize,some item⟩

def rxItem (tmNow:Option Timespec) (pHdr:Buffer) (payloadLen:Nat) (item:Item Media) : Item Media :=
 let timestamp:=BitVec.ofNat 32 (beValue (load 12 4 pHdr))
 let time:=openavbAvtpTimeSetToTimestamp tmNow timestamp item.data.pAvtpTime
 let fits:=payloadLen ≤ item.data.itemSize.toNat
 {item with
   dataLen:=if fits then BitVec.ofNat 32 payloadLen else 0
   data:={item.data with
    pAvtpTime:={time with
     bTimestampValid:=pHdr 1 &&& 0x01 != 0
     bTimestampUncertain:=pHdr 3 &&& 0x01 != 0}
    lastPacket:=pHdr 22 &&& 0x10 != 0
    timestamp:=BitVec.ofNat 32 (beValue (load 24 4 pHdr))
    pPubData:=if fits then
     load totalHeaderSize payloadLen pHdr++item.data.pPubData.drop payloadLen
     else item.data.pPubData}}

/-- The queue, and the item that has been pushed if the frame is accepted. -/
def openavbMapH264RxCB (tmNow:Option Timespec) (q:Info Media) (pData:Buffer)
 (dataLen:BitVec 32) : Option (Info Media×Option (Item Media)) :=
 let payloadLen:=beValue (load 20 2 pData)
 if (dataLen-BitVec.ofNat 32 totalHeaderSize).toNat<payloadLen then some (q,none)
 else
  match openavbMediaQHeadLock q with
  | (q,none)=>some (q,none)
  | (q,some head)=>
   let item:=rxItem tmNow pData payloadLen (q.pItems head)
   (openavbMediaQHeadPush {q with pItems:=Function.update q.pItems head item}).map
    fun r=>(r.1,some item)

/-- What both ends of a stream are to agree on. -/
structure Sample where
 bytes:List UInt8
 dataLen:BitVec 32
 lastPacket:Bool
 (timestamp avtpTimestamp:BitVec 32)
 (valid uncertain:Bool)
 deriving DecidableEq

def sample (item:Item Media) : Sample where
 bytes := item.data.pPubData.take item.dataLen.toNat
 dataLen:=item.dataLen
 lastPacket:=item.data.lastPacket
 timestamp:=item.data.timestamp
 avtpTimestamp:=openavbAvtpTimeGetAvtpTimestamp item.data.pAvtpTime
 valid:=item.data.pAvtpTime.bTimestampValid
 uncertain:=item.data.pAvtpTime.bTimestampUncertain

structure Stream where
 (talker listener:Info Media)
 (sent received:List Sample)

inductive Event where
 | produce (c:Contents Media)
 /-- The talker's callback, and the listener's one with the frame that it reports. -/
 | transmit (pData:Buffer) (dataLen:BitVec 32) (tmNow:Option Timespec)
 | consume

def transmit (pPvtData:PvtData) (pData:Buffer) (dataLen:BitVec 32) (tmNow:Option Timespec)
 (s:Stream) : Option Stream := (openavbMapH264TxCB pPvtData s.talker pData dataLen).bind fun tx=>
  match tx.ready with
  | none=>some {s with talker:=tx.queue}
  | some item=>
   (openavbMapH264RxCB tmNow s.listener tx.pData tx.dataLen).map fun rx=>
    {talker:=tx.queue
     listener:=rx.1
     sent:=s.sent++[sample item]
     received:=s.received++(rx.2.map sample).toList}

def step (pPvtData:PvtData) (event:Event) (s:Option Stream) : Option Stream := s.bind fun s=>
  match event with
  | .produce c=>
   ((call .headLock s.talker).bind fun q=>(call (.headFill c) q).bind (call .headPush)).map
    fun q=>{s with talker:=q}
  | .transmit pData dataLen tmNow=>transmit pPvtData pData dataLen tmNow s
  | .consume=>
   ((call .tailLock s.listener).bind (call .tailPull)).map fun q=>{s with listener:=q}

def start (n:Nat) (blank:Media) : Option Stream :=
 some ⟨openavbMediaQCreate (n+1) blank,openavbMediaQCreate (n+1) blank,[],[]⟩

lemma load_store (offset:Nat) (bytes:List UInt8) (pData:Buffer) :
 load offset bytes.length (store offset bytes pData)=bytes := by
 apply ext_getElem
 · simp[load]
 · intro i hi hi'
   simp[load,store,hi']

lemma txFrame_length (item:Item Media) (pHdr:Buffer) :
 beValue (load 20 2 (txFrame item pHdr))=(item.dataLen+4).toNat%256^2 := by
 rw[←beValue_beBytes]
 exact congrArg beValue (load_store 20 (beBytes 2 (item.dataLen+4).toNat) _)

lemma rx_txFrame {item:Item Media} (hsize:item.dataLen ≤ maxPayloadSize) (pHdr:Buffer)
 (tmNow:Option Timespec) (q:Info Media) : openavbMapH264RxCB tmNow q (txFrame item pHdr)
  (item.dataLen+BitVec.ofNat 32 totalHeaderSize)=some (q,none) := by
 have hlen:item.dataLen.toNat≤1416:=BitVec.le_def.1 hsize
 have hfour:(item.dataLen+4).toNat=item.dataLen.toNat+4:=by
  exact Nat.mod_eq_of_lt (Nat.lt_of_le_of_lt (Nat.add_le_add_right hlen 4) (by decide))
 simp only[openavbMapH264RxCB,txFrame_length,BitVec.add_sub_cancel]
 rw[if_pos (by omega)]

/-- What a call of the talker leaves: a queue, and a frame only of an item that is not too large. -/
structure Sends (tx:Tx) : Prop where
 queue:∃queued start,Holds tx.queue queued start
 frame:∀item,tx.ready=some item → item.dataLen ≤ maxPayloadSize ∧
  tx.dataLen=item.dataLen+BitVec.ofNat 32 totalHeaderSize ∧
  ∃pHdr,tx.pData=txFrame item pHdr

lemma tx_sends {q:Info Media} {queued:List (Item Media)} {first:Nat}
 (h:Holds q queued first) (pPvtData:PvtData) (pData:Buffer) (dataLen:BitVec 32) :
 ∃tx,openavbMapH264TxCB pPvtData q pData dataLen=some tx ∧ Sends tx := by
 simp only[openavbMapH264TxCB,openavbMediaQTailLock]
 by_cases htail:0<q.itemCount ∧ -1<q.tail
 · have hsome:queued.length≠0:=by
    have:=h.tail_eq
    omega
   have hlocked:Holds {q with tailLocked:=true} queued first:=
    {h with tailLocked:=fun _=>hsome}
   obtain ⟨q',hpull,hq'⟩:=hlocked.pull hsome
   simp only[if_pos htail]
   split_ifs with hzero hlarge
   · exact ⟨_,congrArg (Option.map _) hpull,⟨_,_,hq'⟩,by simp⟩
   · exact ⟨_,congrArg (Option.map _) hpull,⟨_,_,hq'⟩,by simp⟩
   · have hitem:q.pItems q.tail.toNat∈queued:=by
      have hdrop:=h.item_eq (Nat.pos_of_ne_zero hsome)
      rw[Ring.pos_zero h.start_lt,drop_zero] at hdrop
      rw[h.tail_slot hsome,hdrop]
      exact mem_cons_self
     obtain ⟨q',hpull,hq'⟩:=(hlocked.tailFill hsome ⟨addTransit pPvtData _,_,_,
      h.read _ hitem⟩).pull (by rwa[length_modifyHead])
     refine ⟨_,congrArg (Option.map _) hpull,⟨_,_,hq'⟩,?_⟩
     rintro item ⟨⟩
     exact ⟨BitVec.le_trans (BitVec.not_lt.1 hlarge) pPvtData.itemSize_le,rfl,_,rfl⟩
 · simp only[if_neg htail]
   exact ⟨_,rfl,⟨_,_,h⟩,by simp⟩

def Silent (s:Option Stream) : Prop := ∃s',s=some s' ∧ (∃queued first,Holds s'.talker queued first) ∧
  (∃first,Holds s'.listener [] first) ∧ s'.received=[]

lemma silent_step (pPvtData:PvtData) (event:Event) (s:Option Stream) (h:Silent s) :
 Silent (step pPvtData event s) := by
 obtain ⟨s,rfl,⟨queued,first,htalker⟩,⟨first',hlistener⟩,hreceived⟩:=h
 cases event with
 | produce c=>
  obtain ⟨q₁,_,hlock,h₁⟩:=htalker.call .headLock
  obtain ⟨q₂,_,hfill,h₂⟩:=h₁.call (.headFill c)
  obtain ⟨q₃,_,hpush,h₃⟩:=h₂.call .headPush
  refine ⟨{s with talker:=q₃},?_,⟨_,_,h₃⟩,⟨_,hlistener⟩,hreceived⟩
  simp[step,hlock,hfill,hpush]
 | transmit pData dataLen tmNow=>
  obtain ⟨tx,htx,hsends⟩:=tx_sends htalker pPvtData pData dataLen
  simp only[step,transmit,htx,Option.bind_some]
  split
  · exact ⟨_,rfl,hsends.queue,⟨_,hlistener⟩,hreceived⟩
  · next item hready=>
     obtain ⟨hsize,hlen,pHdr,hframe⟩:=hsends.frame item hready
     rw[hlen,hframe,rx_txFrame hsize]
     exact ⟨_,rfl,hsends.queue,⟨_,hlistener⟩,by simpa using hreceived⟩
 | consume=>
  obtain ⟨q₁,_,hlock,h₁⟩:=hlistener.call .tailLock
  obtain ⟨q₂,last,hpull,h₂⟩:=h₁.call .tailPull
  refine ⟨{s with listener:=q₂},by simp[step,hlock,hpull],⟨_,_,htalker⟩,⟨last,?_⟩,hreceived⟩
  simpa[queuedAfter] using h₂

theorem listener_accepts_iff (pPvtData:PvtData) (n:Nat) (blank:Media)
 (events:List Event) : ∃s,Runs.run (step pPvtData) events (start n blank)=some s ∧
  (s.received=s.sent↔s.sent=[]) := by
 have hstart:Silent (start n blank):=
  ⟨_,rfl,⟨[],0,holds_create n blank⟩,⟨0,holds_create n blank⟩,rfl⟩
 obtain ⟨s,hs,-,-,hreceived⟩:=
  Runs.run_invariant (silent_step pPvtData) events hstart
 refine ⟨s,hs,?_⟩
 rw[hreceived]
 exact eq_comm

theorem frame_not_accepted : (Runs.run (step (openavbMapH264Initialize 0))
  [.produce ⟨⟨[7],maxPayloadSize,openavbAvtpTimeCreate 0,true,0⟩,0,1,by decide⟩,.transmit (fun _=>0) 0 none]
  (start 0 ⟨[0],maxPayloadSize,openavbAvtpTimeCreate 0,false,0⟩)).map
  (fun s=>(s.sent.map Sample.bytes,s.received))=some ([[7]],[]) := by
 decide

end OpenAvnu.MapH264
