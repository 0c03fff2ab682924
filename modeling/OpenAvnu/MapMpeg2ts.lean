import Mathlib.Algebra.GroupWithZero.Nat
import Mathlib.Algebra.Order.BigOperators.Group.List
import OpenAvnu.AvtpTime
import OpenAvnu.Bytes
import OpenAvnu.CText
import OpenAvnu.Runs

/-!
# The MPEG2-TS mapping

`openavb_map_mpeg2ts.c`. The media queue is the list of its items. Sizes are `int`, so their sums do
not wrap.
-/

namespace OpenAvnu.MapMpeg2ts

open AvtpTime Bytes List Option
open Timespecs (Timespec)

/-- `pPubData` up to `dataLen`. -/
structure Item where
 pPubData:List UInt8
 (readIdx itemSize:Nat)
 pAvtpTime:Time

def Item.unread (item:Item) : List UInt8 := item.pPubData.drop item.readIdx

structure PvtData where
 (tsPacketSize numSourcePackets:Nat)
 maxTransitUsec:BitVec 32
 dbc:Nat
 savedBytes:List UInt8
 unsynched:Bool

def PvtData.keep (pvt:PvtData) (bytes:List UInt8) : PvtData := {pvt with savedBytes:=bytes}
def openavbMapMpeg2tsInitialize (numSourcePackets:Nat) (inMaxTransitUsec:BitVec 32) : PvtData :=
 ⟨188,numSourcePackets,inMaxTransitUsec,0,[],false⟩

/-- The fields that the listener reads, and the source packets behind the headers. -/
structure Frame where
 (tv tu:Bool)
 avtpTimestamp:BitVec 32
 (dbc datalen:Nat)
 payload:List (List UInt8)

def syncByte : UInt8 := 0x47
def syncScan (item:Item) (startIdx:Nat) : Option Nat :=
 ((List.range item.pPubData.length).drop startIdx).find? fun offset=>
  item.pPubData[offset]? == some syncByte

structure Round where
 pvt:PvtData
 item:Item
 frame:Frame

def resync (startIdx:Nat) (r:Round) : Round :=
 match syncScan r.item startIdx with
 | some offset=>{r with item:={r.item with readIdx:=offset}}
 | none=>
  {r with
    pvt:={r.pvt with unsynched:=true}
    item:={r.item with pPubData:=[],readIdx:=0}}

def addPacket (r:Round) : Round :=
 let time:=if r.item.readIdx=0 then
  openavbAvtpTimeAddUSec (r.pvt.maxTransitUsec.setWidth 64) r.item.pAvtpTime
  else r.item.pAvtpTime
 let timestamp:=openavbAvtpTimeGetAvtpTimestamp time
 let bytesNeeded:=r.pvt.tsPacketSize-r.pvt.savedBytes.length
 let packet:=(if r.pvt.tsPacketSize=188 then beBytes 4 timestamp.toNat else [])++
  (r.pvt.savedBytes++r.item.unread.take bytesNeeded)
 let r:Round:=
  {pvt:=r.pvt.keep []
   item:={r.item with pAvtpTime:=time}
   frame:={r.frame with
    tv:=time.bTimestampValid
    tu:=time.bTimestampUncertain
    avtpTimestamp:=if r.frame.payload=[] then timestamp else r.frame.avtpTimestamp}}
 if packet[4]? = some syncByte then
  {r with
    item:={r.item with readIdx:=r.item.readIdx+bytesNeeded}
    frame:={r.frame with payload:=r.frame.payload++[packet]}}
 else resync (r.item.readIdx+(r.pvt.tsPacketSize-188)+1) r

def scanned (r:Round) : Round := if r.pvt.unsynched then resync 0 r else r
def attempt (r:Round) : Round :=
 let nItemBytes:=r.item.unread.length
 if nItemBytes=0 then r
 else if r.pvt.tsPacketSize≤nItemBytes+r.pvt.savedBytes.length then addPacket r
 else
  {r with
    pvt:=r.pvt.keep (r.pvt.savedBytes++r.item.unread)
    item:={r.item with pPubData:=[],readIdx:=0}}
def round (r:Round) : Round := attempt (scanned r)

structure Talker where
 pvt:PvtData
 queue:List Item
 frame:Frame

/-- `sourcePacketsAdded` is the length of the payload. -/
def txLoop : Nat → Talker → Option Talker
 | 0, _=>none
 | fuel+1, t=>
  match t.queue with
  | []=>some t
  | item::rest=>
   let r:=round ⟨t.pvt,item,t.frame⟩
   let t:=⟨r.pvt,if r.item.unread.length=0 then rest else r.item::rest,r.frame⟩
   if r.frame.payload.length < r.pvt.numSourcePackets then txLoop fuel t else some t

def Talker.sentFrame (t:Talker) : Frame :=
 {t.frame with dbc:=t.pvt.dbc%256,datalen:=(t.frame.payload.length*192+8)%65536}
def Talker.counted (t:Talker) : PvtData :=
 {t.pvt with dbc:=(t.pvt.dbc+t.frame.payload.length*8)%256}

/-- With the frame of `TX_CB_RET_PACKET_READY`. Each round adds a packet, uses up an item or moves
on in one. -/
def openavbMapMpeg2tsTxCB (pvt:PvtData) (queue:List Item) (pHdr:Frame) :
 Option (PvtData×List Item×Option Frame) :=
 let fuel:=pvt.numSourcePackets+(queue.map fun item=>2*item.pPubData.length+1).sum+1
 (txLoop fuel ⟨pvt,queue,{pHdr with payload:=[]}⟩).map fun t=>
  if 0<t.frame.payload.length then (t.counted,t.queue,some t.sentFrame)
  else (t.pvt,t.queue,none)

def rxLoop (pvt:PvtData) : List (List UInt8) → Item → Item
 | [], item=>item
 | packet::payload, item=>
  if pvt.tsPacketSize ≤ item.itemSize-item.pPubData.length then
   rxLoop pvt payload {item with
    pPubData:=item.pPubData++(packet.drop (192-pvt.tsPacketSize)).take pvt.tsPacketSize}
  else {item with pPubData:=[]}

/-- The item that is pushed, given the one that the head of the queue gives. -/
def openavbMapMpeg2tsRxCB (pvt:PvtData) (tmNow:Option Timespec) (head:Option Item)
 (pHdr:Frame) : Option Item :=
 let sourcePacketCount:=(pHdr.datalen-8)/192%256
 if 0<pHdr.dbc%8 then none
 else if 0<sourcePacketCount then
  head.map fun item=>
   let item:=if item.pPubData.length=0 then
    {item with
      pAvtpTime:={
       openavbAvtpTimeSetToTimestamp tmNow pHdr.avtpTimestamp item.pAvtpTime with
       bTimestampValid:=pHdr.tv
       bTimestampUncertain:=pHdr.tu}}
    else item
   {rxLoop pvt (pHdr.payload.take sourcePacketCount) item with readIdx:=0}
 else none

structure Stream where
 pvt:PvtData
 queue:List Item
 frames:List Frame
 items:List Item

inductive Event where
 | produce (item:Item)
 | transmit (pHdr:Frame) (tmNow:Option Timespec) (head:Option Item)

/-- A stream is lost once one of its calls does not return. -/
def step (listener:PvtData) (event:Event) (s:Option Stream) : Option Stream := s.bind fun s=>
  match event with
  | .produce item=>some {s with queue:=s.queue++[{item with readIdx:=0}]}
  | .transmit pHdr tmNow head=>
   (openavbMapMpeg2tsTxCB s.pvt s.queue pHdr).map fun tx=>
    {pvt:=tx.1
     queue:=tx.2.1
     frames:=s.frames++tx.2.2.toList
     items:=s.items++(tx.2.2.bind (openavbMapMpeg2tsRxCB listener tmNow head)).toList}

def Frame.packets (f:Frame) : List (List UInt8) := f.payload.map (List.drop 4)
def Event.bytes : Event → List UInt8
 | .produce item=>item.pPubData
 | .transmit ..=>[]
def Event.Free (numSourcePackets:Nat) : Event → Prop
 | .produce _=>True
 | .transmit _ _ head=>
  ∃item,head=some item ∧ item.pPubData=[] ∧ numSourcePackets*188 ≤ item.itemSize
def pending (pvt:PvtData) (queue:List Item) : List UInt8 := pvt.savedBytes++queue.flatMap Item.unread
def sentPackets (s:Stream) : List (List UInt8) := s.frames.flatMap Frame.packets

structure Transparent (packets:List (List UInt8)) (offered:List UInt8) (s:Stream) : Prop where
 sent:sentPackets s <+: packets
 rest:(sentPackets s).flatten++pending s.pvt s.queue=offered
 saved:s.pvt.savedBytes.length<188
 /-- A call that sends nothing leaves nothing in the queue. -/
 drained:∀pHdr,∃tx,openavbMapMpeg2tsTxCB s.pvt s.queue pHdr=some tx ∧
  (tx.2.2=none → tx.2.1=[])
 dbc:∀before f after,s.frames=before++f::after →
  f.dbc=8*(before.flatMap Frame.packets).length%256
 rebuilt:s.items.flatMap Item.pPubData=(sentPackets s).flatten

/-! ## The talker on any input -/

def Synced (l:List UInt8) : Prop := ∀k,188*k<l.length → l[188*k]? = some syncByte

variable {packets:List (List UInt8)} {l:List UInt8} {ps:List (List UInt8)} {t t':Talker}
 {r:Round} {rest:List Item} {frame:Frame} {fuel:Nat} {f:Frame}

lemma synced_flatten (h:∀p∈packets,p.length=188 ∧ p.head? = some syncByte) : Synced packets.flatten := by
 induction packets with
 | nil=>
  intro k hk
  simp at hk
 | cons p packets ih=>
  obtain ⟨hlength,hhead⟩:=h p mem_cons_self
  intro k hk
  rw[flatten_cons] at hk ⊢
  cases k with
  | zero=>
   rw[getElem?_append_left (by omega),←head?_eq_getElem?,hhead]
  | succ k=>
   rw[length_append] at hk
   rw[getElem?_append_right (by omega),
    show 188*(k+1)-p.length=188*k by omega]
   exact ih (fun q hq=>h q (mem_cons_of_mem _ hq)) k (by omega)

lemma Synced.of_append_left {l':List UInt8} (h:Synced (l++l')) : Synced l := by
 intro k hk
 rw[←getElem?_append_left hk]
 exact h k (by rw[length_append];omega)
lemma Synced.of_append {p:List UInt8} (hp:p.length=188) (h:Synced (p++l)) : Synced l := by
 intro k hk
 have:=h (k+1) (by rw[length_append];omega)
 rwa[getElem?_append_right (by omega),
  show 188*(k+1)-p.length=188*k by omega] at this

lemma Synced.of_flatten (hps:∀p∈ps,p.length=188) (h:Synced (ps.flatten++l)) : Synced l := by
 induction ps with
 | nil=>exact h
 | cons p ps ih=>
  rw[flatten_cons,append_assoc] at h
  exact ih (fun q hq=>hps q (mem_cons_of_mem _ hq))
   (h.of_append (hps p mem_cons_self))

def Frame.taken (tsPacketSize:Nat) (f:Frame) : List (List UInt8) := f.payload.map (List.drop (192-tsPacketSize))

/-- The bytes a round looks at: a talker that is unsynched takes up each item at its first sync byte. -/
def Round.ahead (r:Round) : List UInt8 :=
 if r.pvt.unsynched then r.item.pPubData.dropWhile (· ≠ syncByte) else r.item.unread

/-- An unsynched talker has passed no sync byte of the item, and partial packets are shorter than
packets. -/
structure Steady (r:Round) : Prop where
 passed:r.pvt.unsynched=true → syncByte∉r.item.pPubData.take r.item.readIdx
 partly:r.ahead≠[] → 188 < r.ahead.length+r.pvt.savedBytes.length →
  r.pvt.tsPacketSize ≤ r.ahead.length+r.pvt.savedBytes.length

/-- The item is emptied, or its read index does not decrease. -/
def Onward (item item':Item) : Prop :=
 item'.pPubData=[] ∨ item'.pPubData=item.pPubData ∧ item.readIdx ≤ item'.readIdx

structure Safe (r:Round) : Prop where
 scan:Onward r.item (scanned r).item
 read:Onward (scanned r).item (round r).item
 /-- The assertion in front of saving a partial packet. -/
 assertion:(scanned r).item.unread≠[] →
  (scanned r).item.unread.length+(scanned r).pvt.savedBytes.length<(scanned r).pvt.tsPacketSize →
  (scanned r).pvt.savedBytes.length+(scanned r).item.unread.length≤188
 room:(round r).pvt.savedBytes.length≤200

lemma syncScan_cases (item:Item) : syncByte∉item.pPubData ∧ syncScan item 0=none ∨
 ∃before after,syncByte∉before ∧ item.pPubData=before++syncByte::after ∧
  syncScan item 0=some before.length := by
 by_cases hmem:syncByte∈item.pPubData
 · obtain ⟨before,after,hdata,hout⟩:=eq_append_cons_of_mem hmem
   refine .inr ⟨before,after,hout,hdata,?_⟩
   rw[syncScan,hdata,drop_zero,find?_eq_some_iff_getElem]
   refine ⟨by simp,before.length,by simp,by simp,fun j hj=>?_⟩
   rw[getElem_range,getElem?_append_left hj,getElem?_eq_getElem hj]
   simpa using ne_of_mem_of_not_mem (getElem_mem hj) hout
 · refine .inl ⟨hmem,find?_eq_none.2 fun offset _=>?_⟩
   simpa using fun heq=>hmem (mem_of_getElem? heq)

lemma syncScan_some {startIdx offset:Nat} (h:syncScan item startIdx=some offset) : startIdx≤offset := by
 obtain ⟨-,k,hk,hget,-⟩:=find?_eq_some_iff_getElem.1 h
 simp only[getElem_drop,getElem_range] at hget
 omega

lemma scanned_ahead (r:Round) : (scanned r).item.unread=r.ahead ∧ (scanned r).pvt=r.pvt ∧
  (scanned r).frame=r.frame := by
 rw[scanned,Round.ahead]
 split_ifs with hflag
 · have hpvt:{r.pvt with unsynched:=true}=r.pvt:=by rw[←hflag]
   rcases syncScan_cases r.item with ⟨hout,hscan⟩|⟨before,after,hout,hdata,hscan⟩
   · refine ⟨?_,by rw[resync,hscan];exact hpvt,by rw[resync,hscan]⟩
     rw[resync,hscan,dropWhile_eq_nil_iff.2 fun b hb=>by simpa using ne_of_mem_of_not_mem hb hout]
     rfl
   · refine ⟨?_,by rw[resync,hscan],by rw[resync,hscan]⟩
     simp only[resync,hscan,Item.unread,hdata]
     rw[drop_left,dropWhile_append_of_pos fun b hb=>by simpa using ne_of_mem_of_not_mem hb hout]
     simp
 · exact ⟨rfl,rfl,rfl⟩

lemma Steady.scan (h:Steady r) : Onward r.item (scanned r).item ∧ r.ahead <+ r.item.unread := by
 rw[←(scanned_ahead r).1,scanned]
 split_ifs with hflag
 · rcases syncScan_cases r.item with ⟨-,hscan⟩|⟨before,after,-,hdata,hscan⟩
   · rw[resync,hscan]
     exact ⟨.inl rfl,nil_sublist _⟩
   · have hle:r.item.readIdx ≤ before.length:=by
      by_contra hlt
      refine h.passed hflag ?_
      rw[hdata,take_append]
      exact mem_append_right _ (mem_take_iff_getElem.2 ⟨0,by simp;omega,rfl⟩)
     rw[resync,hscan]
     exact ⟨.inr ⟨rfl,hle⟩,drop_sublist_drop_left _ hle⟩
 · exact ⟨.inr ⟨rfl,Nat.le_refl _⟩,Sublist.refl _⟩

lemma Safe.steady (h:Safe r) : Steady r := by
 obtain ⟨hahead,hpvt,-⟩:=scanned_ahead r
 refine ⟨fun hflag hpassed=>?_,fun hne hmore=>?_⟩
 · have hscan:=h.scan
   rw[scanned,if_pos hflag] at hscan
   obtain ⟨i,hi,hget⟩:=mem_take_iff_getElem.1 hpassed
   rcases syncScan_cases r.item with ⟨hout,-⟩|⟨before,after,hout,hdata,hfound⟩
   · exact hout (mem_of_mem_take hpassed)
   · simp only[resync,hfound,Onward,hdata,append_eq_nil_iff,reduceCtorEq,and_false,false_or,true_and] at hscan
     rw[hdata,take_append_of_le_length hscan] at hpassed
     exact hout (mem_of_mem_take hpassed)
 · have hassert:=h.assertion
   rw[hahead,hpvt] at hassert
   by_contra hless
   have:=hassert hne (by omega)
   omega

/-- The next packet starts with a sync byte. -/
structure Aligned (r:Round) : Prop where
 size:r.pvt.tsPacketSize=188
 unsynched:r.pvt.unsynched=false
 first:188 ≤ r.item.unread.length+r.pvt.savedBytes.length →
  (r.pvt.savedBytes++r.item.unread)[0]? = some syncByte

/-- What a round makes of the bytes at hand. -/
structure Used (r r':Round) (ps:List (List UInt8)) : Prop where
 config:∃bytes flag,r'.pvt={r.pvt with savedBytes:=bytes,unsynched:=flag} ∧
  bytes.length < r.pvt.tsPacketSize
 taken:r'.frame.taken r.pvt.tsPacketSize=r.frame.taken r.pvt.tsPacketSize++ps
 lengths:∀p∈ps,p.length=r.pvt.tsPacketSize
 one:ps.length≤1
 bytes:ps.flatten++(r'.pvt.savedBytes++r'.item.unread) <+ r.pvt.savedBytes++r.item.unread
 aligned:Aligned r → r'.pvt.unsynched=false ∧
  ps.flatten++(r'.pvt.savedBytes++r'.item.unread)=r.pvt.savedBytes++r.item.unread
 progress:r'.item.unread=[] ∨ r'.item.unread.length < r.item.unread.length

section
variable (hsize:r.pvt.tsPacketSize=188 ∨ r.pvt.tsPacketSize=192)
 (hsaved:r.pvt.savedBytes.length < r.pvt.tsPacketSize)
include hsize hsaved

lemma addPacket_used (henough:r.pvt.tsPacketSize ≤ r.item.unread.length+r.pvt.savedBytes.length) :
 Onward r.item (addPacket r).item ∧ ∃ps,Used r (addPacket r) ps := by
 have hlength:r.item.unread.length=r.item.pPubData.length-r.item.readIdx:=length_drop
 have hsplit:(r.pvt.savedBytes++r.item.unread.take (r.pvt.tsPacketSize-r.pvt.savedBytes.length))++
  r.item.unread.drop (r.pvt.tsPacketSize-r.pvt.savedBytes.length)=r.pvt.savedBytes++r.item.unread:=by
  rw[append_assoc,take_append_drop]
 have hpacket:(r.pvt.savedBytes++r.item.unread.take (r.pvt.tsPacketSize-r.pvt.savedBytes.length)).length=
  r.pvt.tsPacketSize:=by
  rw[length_append,length_take]
  omega
 simp only[addPacket]
 generalize openavbAvtpTimeGetAvtpTimestamp _=timestamp
 generalize (if r.item.readIdx=0 then openavbAvtpTimeAddUSec _ _ else _)=time
 generalize (if r.frame.payload=[] then timestamp else _)=stamp
 generalize hdef:(if r.pvt.tsPacketSize=188 then beBytes 4 timestamp.toNat else [])=header
 have hheader:∀bytes,(header++bytes).drop (192-r.pvt.tsPacketSize)=bytes:=by
  intro bytes
  rw[←hdef]
  rcases hsize with h|h<;>rw[h]
  · exact drop_left' rfl
  · rfl
 split_ifs with hsync
 · refine ⟨.inr ⟨rfl,Nat.le_add_right _ _⟩,
    [r.pvt.savedBytes++r.item.unread.take (r.pvt.tsPacketSize-r.pvt.savedBytes.length)],
    ⟨[],_,rfl,Nat.zero_lt_of_lt hsaved⟩,?_,by simpa using hpacket,Nat.le_refl 1,?_,fun h=>⟨h.unsynched,?_⟩,.inr ?_⟩
   · simp only[Frame.taken,map_append,map_cons,map_nil,hheader]
   · simp[PvtData.keep,Item.unread,←drop_drop]
   · simp[PvtData.keep,Item.unread,←drop_drop]
   · simp only[Item.unread,length_drop] at hlength henough ⊢
     omega
 · have hno:¬Aligned r:=fun h=>by
    refine hsync ?_
    rw[←hdef,if_pos h.size,getElem?_append_right (Nat.le_refl 4)]
    have hfirst:=h.first (h.size▸henough)
    rwa[←hsplit,getElem?_append_left (by omega)] at hfirst
   rw[resync]
   split
   · next offset hscan=>
     have hlt:r.item.readIdx<offset:=Nat.lt_of_le_of_lt (Nat.le_add_right _ _) (syncScan_some hscan)
     refine ⟨.inr ⟨rfl,hlt.le⟩,[],⟨[],_,rfl,Nat.zero_lt_of_lt hsaved⟩,(append_nil _).symm,nofun,Nat.zero_le 1,
      ?_,fun h=>absurd h hno,.inr ?_⟩
     · exact (drop_sublist_drop_left _ hlt.le).trans (sublist_append_right _ _)
     · simp only[Item.unread,length_drop] at hlength henough ⊢
       omega
   · exact ⟨.inl rfl,[],⟨[],true,rfl,Nat.zero_lt_of_lt hsaved⟩,(append_nil _).symm,nofun,Nat.zero_le 1,
      nil_sublist _,fun h=>absurd h hno,.inl rfl⟩

lemma attempt_used : Onward r.item (attempt r).item ∧ ∃ps,Used r (attempt r) ps := by
 rw[attempt]
 dsimp only
 split_ifs with hempty henough
 · exact ⟨.inr ⟨rfl,Nat.le_refl _⟩,[],⟨_,_,rfl,hsaved⟩,by simp,nofun,Nat.zero_le 1,Sublist.refl _,
    fun h=>⟨h.unsynched,rfl⟩,.inl (length_eq_zero_iff.1 hempty)⟩
 · exact addPacket_used hsize hsaved henough
 · refine ⟨.inl rfl,[],⟨_,_,rfl,?_⟩,by simp,nofun,Nat.zero_le 1,?_,fun h=>⟨h.unsynched,?_⟩,.inl rfl⟩
   · rw[length_append]
     omega
   all_goals simp[PvtData.keep,Item.unread]

lemma Steady.round (h:Steady r) : Safe r ∧ ∃ps,Used r (round r) ps := by
 obtain ⟨hahead,hpvt,hframe⟩:=scanned_ahead r
 obtain ⟨hscan,hsub⟩:=h.scan
 obtain ⟨honward,ps,hused⟩:=attempt_used (r:=scanned r) (hpvt▸hsize) (hpvt▸hsaved)
 obtain ⟨⟨bytes,flag,hconfig,hless⟩,htaken,hlengths,hone,hbytes,haligned,hprogress⟩:=hused
 rw[hpvt] at hconfig hless htaken hlengths hbytes
 rw[hframe] at htaken
 rw[hahead] at hbytes hprogress
 refine ⟨⟨hscan,honward,fun hne hpart=>?_,?_⟩,ps,⟨bytes,flag,hconfig,hless⟩,htaken,hlengths,hone,
  hbytes.trans ((Sublist.refl _).append hsub),fun h=>?_,
  hprogress.imp_right fun hlt=>Nat.lt_of_lt_of_le hlt hsub.length_le⟩
 · have hpartly:=h.partly
   rw[hahead,hpvt] at hpart ⊢
   rw[hahead] at hne
   by_contra hmore
   have:=hpartly hne (by omega)
   omega
 · rw[MapMpeg2ts.round,hconfig]
   dsimp only
   omega
 · rw[show scanned r=r by simp[scanned,h.unsynched]] at haligned
   exact (show MapMpeg2ts.round r=attempt r by simp[MapMpeg2ts.round,scanned,h.unsynched])▸haligned h

end

lemma flatMap_unread (item:Item) (rest:List Item) :
 (if item.unread.length=0 then rest else item::rest).flatMap Item.unread=
  item.unread++rest.flatMap Item.unread := by
 split_ifs with hempty
 · rw[length_eq_zero_iff.1 hempty,nil_append]
 · rfl

def roundOf (pvt:PvtData) (frame:Frame) (item:Item) (rest:List Item) : Talker :=
 let r:=round ⟨pvt,item,frame⟩
 ⟨r.pvt,if r.item.unread.length=0 then rest else r.item::rest,r.frame⟩

variable {pvt:PvtData} {item:Item}

lemma txLoop_eq : txLoop (fuel+1) ⟨pvt,item::rest,frame⟩=
  if (roundOf pvt frame item rest).frame.payload.length <
   (roundOf pvt frame item rest).pvt.numSourcePackets then
   txLoop fuel (roundOf pvt frame item rest)
  else some (roundOf pvt frame item rest) := rfl

/-- The rounds that the loop starts. -/
def started : Nat → Talker → List Round
 | 0, _=>[]
 | fuel+1, t=>
  match t.queue with
  | []=>[]
  | item::rest=>
   let t':=roundOf t.pvt t.frame item rest
   ⟨t.pvt,item,t.frame⟩::
    if t'.frame.payload.length<t'.pvt.numSourcePackets then started fuel t' else []

structure InStep (t:Talker) : Prop where
 size:t.pvt.tsPacketSize=188
 unsynched:t.pvt.unsynched=false
 saved:t.pvt.savedBytes.length<188
 synced:Synced (pending t.pvt t.queue)

/-- What a call makes of the bytes at hand. -/
structure Consumed (tsPacketSize:Nat) (t t':Talker) (ps:List (List UInt8)) : Prop where
 config:∃bytes flag,t'.pvt={t.pvt with savedBytes:=bytes,unsynched:=flag}
 saved:t'.pvt.savedBytes.length<tsPacketSize
 taken:t'.frame.taken tsPacketSize=t.frame.taken tsPacketSize++ps
 lengths:∀p∈ps,p.length=tsPacketSize
 bytes:ps.flatten++pending t'.pvt t'.queue <+ pending t.pvt t.queue
 inStep:InStep t → t'.pvt.unsynched=false ∧ ps.flatten++pending t'.pvt t'.queue=pending t.pvt t.queue

variable {size:Nat}

lemma InStep.advance (h:InStep t) (hc:Consumed size t t' ps) (hsize:t.pvt.tsPacketSize=size) : InStep t' := by
 obtain rfl:size=188:=hsize.symm.trans h.size
 obtain ⟨bytes,flag,hpvt⟩:=hc.config
 obtain ⟨hflag,hbytes⟩:=hc.inStep h
 exact ⟨hpvt▸h.size,hflag,hc.saved,(hbytes▸h.synced).of_flatten hc.lengths⟩

lemma Consumed.trans {t'':Talker} {ps':List (List UInt8)} (hsize:t.pvt.tsPacketSize=size)
 (h:Consumed size t t' ps) (h':Consumed size t' t'' ps') : Consumed size t t'' (ps++ps') where
 config := by
  obtain ⟨bytes,flag,hpvt⟩:=h.config
  obtain ⟨bytes',flag',hpvt'⟩:=h'.config
  exact ⟨bytes',flag',by rw[hpvt',hpvt]⟩
 saved:=h'.saved
 taken:=by rw[h'.taken,h.taken,append_assoc]
 lengths:=fun p hp=>(mem_append.1 hp).elim (h.lengths p) (h'.lengths p)
 bytes:=by
  rw[flatten_append,append_assoc]
  exact ((Sublist.refl _).append h'.bytes).trans h.bytes
 inStep:=fun hin=>by
  have hin':=h'.inStep (hin.advance h hsize)
  exact ⟨hin'.1,by rw[flatten_append,append_assoc,hin'.2,(h.inStep hin).2]⟩

def weight (queue:List Item) : Nat := (queue.map fun item=>item.unread.length+1).sum

section
variable (hsize:size=188 ∨ size=192)
include hsize

lemma roundOf_consumed (rest:List Item) (hpvt:pvt.tsPacketSize=size) (hsaved:pvt.savedBytes.length<size)
 (hsteady:Steady ⟨pvt,item,frame⟩) : Safe ⟨pvt,item,frame⟩ ∧
  (∃ps,Consumed size ⟨pvt,item::rest,frame⟩ (roundOf pvt frame item rest) ps ∧ ps.length≤1) ∧
  weight (roundOf pvt frame item rest).queue<weight (item::rest) := by
 obtain ⟨hsafe,ps,⟨bytes,flag,hconfig,hless⟩,htaken,hlengths,hone,hbytes,haligned,hprogress⟩:=
  hsteady.round (hpvt▸hsize) (hpvt▸hsaved)
 simp only[hpvt] at hless htaken hlengths
 refine ⟨hsafe,⟨ps,⟨⟨bytes,flag,hconfig⟩,by rw[roundOf,hconfig];exact hless,htaken,hlengths,?_,fun h=>?_⟩,hone⟩,?_⟩
 · simp only[roundOf,pending,flatMap_unread,flatMap_cons]
   simpa using hbytes.append (Sublist.refl (rest.flatMap Item.unread))
 · have hfirst:188 ≤ item.unread.length+pvt.savedBytes.length →
    (pvt.savedBytes++item.unread)[0]? = some syncByte:=fun henough=>by
    have hsynced:=h.synced
    rw[pending,flatMap_cons,←append_assoc] at hsynced
    exact hsynced.of_append_left 0 (by rw[length_append];dsimp only;omega)
   obtain ⟨hflag,heq⟩:=haligned ⟨h.size,h.unsynched,hfirst⟩
   refine ⟨hflag,?_⟩
   simp only[roundOf,pending,flatMap_unread,flatMap_cons,←append_assoc] at heq ⊢
   rw[heq]
 · simp only[roundOf,weight]
   split_ifs with hempty
   · simp
   · have hlt:=hprogress.resolve_left fun h=>hempty (length_eq_zero_iff.2 h)
     simpa using hlt

lemma started_safe (hpvt:t.pvt.tsPacketSize=size) (hsaved:t.pvt.savedBytes.length<size)
 (hsteady:∀r∈started fuel t,Steady r) : ∀r∈started fuel t,Safe r := by
 induction fuel generalizing t with
 | zero=>nofun
 | succ fuel ih=>
  obtain ⟨pvt,queue,frame⟩:=t
  cases queue with
  | nil=>nofun
  | cons item rest=>
   rw[started] at hsteady ⊢
   obtain ⟨hfirst,hrest⟩:=forall_mem_cons.1 hsteady
   obtain ⟨hsafe,⟨ps,hround,-⟩,-⟩:=roundOf_consumed hsize rest hpvt hsaved hfirst
   refine forall_mem_cons.2 ⟨hsafe,?_⟩
   split_ifs at hrest ⊢
   · obtain ⟨bytes,flag,hconfig⟩:=hround.config
     exact ih (hconfig▸hpvt) hround.saved hrest
   · nofun

lemma txLoop_consumed (hpvt:t.pvt.tsPacketSize=size) (hsaved:t.pvt.savedBytes.length<size)
 (hsteady:∀r∈started fuel t,Steady r) (hfuel:weight t.queue<fuel) :
 ∃t' ps,txLoop fuel t=some t' ∧ Consumed size t t' ps ∧
  (t'.frame.payload.length<t.pvt.numSourcePackets → t'.queue=[]) ∧
  (t.frame.payload.length<t.pvt.numSourcePackets → t'.frame.payload.length≤t.pvt.numSourcePackets) := by
 induction fuel generalizing t with
 | zero=>cases hfuel
 | succ fuel ih=>
  obtain ⟨pvt,queue,frame⟩:=t
  cases queue with
  | nil=>
   exact ⟨_,[],rfl,⟨⟨_,_,rfl⟩,hsaved,(append_nil _).symm,nofun,Sublist.refl _,fun h=>⟨h.unsynched,rfl⟩⟩,
    fun _=>rfl,Nat.le_of_lt⟩
  | cons item rest=>
   rw[started] at hsteady
   obtain ⟨hfirst,hrest⟩:=forall_mem_cons.1 hsteady
   obtain ⟨-,⟨ps,hround,hone⟩,hless⟩:=roundOf_consumed hsize rest hpvt hsaved hfirst
   obtain ⟨bytes,flag,hconfig⟩:=hround.config
   have hnum:(roundOf pvt frame item rest).pvt.numSourcePackets=pvt.numSourcePackets:=by rw[hconfig]
   have hadded:=congrArg List.length hround.taken
   simp only[Frame.taken,length_append,length_map] at hadded
   rw[txLoop_eq]
   split_ifs at hrest ⊢ with hmore
   · obtain ⟨t',ps',hloop,hrun,hempty,hfull⟩:=ih (hconfig▸hpvt) hround.saved hrest
      (Nat.lt_of_lt_of_le hless (Nat.le_of_lt_succ hfuel))
     rw[hnum] at hempty hfull hmore
     exact ⟨t',_,hloop,hround.trans hpvt hrun,hempty,fun _=>hfull hmore⟩
   · rw[hnum] at hmore
     exact ⟨_,ps,rfl,hround,fun h=>absurd h hmore,fun (h:frame.payload.length<pvt.numSourcePackets)=>by
      change _≤pvt.numSourcePackets
      omega⟩

lemma tx_consumed {queue:List Item} (hpvt:pvt.tsPacketSize=size) (hsaved:pvt.savedBytes.length<size)
 (pHdr:Frame) (hsteady:∀fuel,∀r∈started fuel ⟨pvt,queue,{pHdr with payload:=[]}⟩,Steady r) :
 (∀fuel,∀r∈started fuel ⟨pvt,queue,{pHdr with payload:=[]}⟩,Safe r) ∧
 ∃t,Consumed size ⟨pvt,queue,{pHdr with payload:=[]}⟩ t (t.frame.taken size) ∧
  (t.frame.payload.length<pvt.numSourcePackets → t.queue=[]) ∧
  (0<pvt.numSourcePackets → t.frame.payload.length≤pvt.numSourcePackets) ∧
  openavbMapMpeg2tsTxCB pvt queue pHdr=some (if 0<t.frame.payload.length then
   (t.counted,t.queue,some t.sentFrame) else (t.pvt,t.queue,none)) := by
 refine ⟨fun fuel=>started_safe hsize hpvt hsaved (hsteady fuel),?_⟩
 have hfuel:weight queue ≤ (queue.map fun item=>2*item.pPubData.length+1).sum:=by
  refine List.sum_le_sum fun item _=>?_
  rw[Item.unread,length_drop]
  omega
 obtain ⟨t,ps,hloop,hrun,hempty,hfull⟩:=txLoop_consumed hsize hpvt hsaved (hsteady _) (Nat.lt_succ_of_le
  (Nat.le_trans hfuel (Nat.le_add_left _ pvt.numSourcePackets)))
 obtain rfl:t.frame.taken size=ps:=hrun.taken
 exact ⟨t,hrun,hempty,hfull,by rw[openavbMapMpeg2tsTxCB,hloop,map_some]⟩

end

/-! ## MPEG2-TS streams are transparent -/

lemma InStep.steady (h:InStep t) : ∀r∈started fuel t,Steady r := by
 induction fuel generalizing t with
 | zero=>nofun
 | succ fuel ih=>
  obtain ⟨pvt,queue,frame⟩:=t
  cases queue with
  | nil=>nofun
  | cons item rest=>
   have hsteady:Steady ⟨pvt,item,frame⟩:=by
    refine ⟨fun hflag=>?_,fun _ hmore=>h.size▸hmore.le⟩
    rw[h.unsynched] at hflag
    cases hflag
   obtain ⟨-,⟨ps,hround,-⟩,-⟩:=roundOf_consumed (.inl rfl) rest h.size h.saved hsteady
   rw[started]
   refine forall_mem_cons.2 ⟨hsteady,?_⟩
   split_ifs
   · exact ih (h.advance hround h.size)
   · nofun

lemma rxLoop_spec (hsize:pvt.tsPacketSize=188) {payload:List (List UInt8)}
 (hlengths:∀p∈payload.map (List.drop 4),p.length=188)
 (hroom:item.pPubData.length+payload.length*188 ≤ item.itemSize) :
 (rxLoop pvt payload item).pPubData=item.pPubData++(payload.map (List.drop 4)).flatten := by
 induction payload generalizing item with
 | nil=>simp[rxLoop]
 | cons packet payload ih=>
  have hpacket:(packet.drop 4).length=188:=hlengths _ mem_cons_self
  have htake:(packet.drop (192-188)).take 188=packet.drop 4:=
   take_of_length_le (Nat.le_of_eq hpacket)
  rw[length_cons] at hroom
  rw[rxLoop,hsize,if_pos (by omega),htake,ih (fun p hp=>hlengths p (mem_cons_of_mem _ hp))]
  · rw[append_assoc,map_cons,flatten_cons]
  · simp only[length_append]
    omega

lemma rx_pushes (hsize:pvt.tsPacketSize=188) (hlengths:∀p∈f.packets,p.length=188)
 (hpos:0<f.payload.length) (hcount:f.payload.length≤255) (hdbc:f.dbc%8=0)
 (hdatalen:f.datalen=f.payload.length*192+8) (tmNow:Option Timespec)
 (hempty:item.pPubData=[]) (hroom:f.payload.length*188 ≤ item.itemSize) :
 ∃item',openavbMapMpeg2tsRxCB pvt tmNow (some item) f=some item' ∧
  item'.pPubData=f.packets.flatten := by
 have hpackets:(f.datalen-8)/192%256=f.payload.length:=by omega
 simp only[openavbMapMpeg2tsRxCB,hpackets,hdbc,hpos,if_true,map_some,hempty,length_nil,take_length]
 refine ⟨_,rfl,(rxLoop_spec hsize hlengths ?_).trans (nil_append _)⟩
 rw[length_nil,Nat.zero_add]
 exact hroom

structure Sound (num:Nat) (transit:BitVec 32) (offered:List UInt8) (s:Stream) : Prop where
 config:s.pvt=⟨188,num,transit,8*(sentPackets s).length%256,s.pvt.savedBytes,false⟩
 saved:s.pvt.savedBytes.length<188
 lengths:∀p∈sentPackets s,p.length=188
 rest:(sentPackets s).flatten++pending s.pvt s.queue=offered
 dbc:∀before f after,s.frames=before++f::after →
  f.dbc=8*(before.flatMap Frame.packets).length%256
 rebuilt:s.items.flatMap Item.pPubData=(sentPackets s).flatten

variable {num:Nat} {transit:BitVec 32} {offered:List UInt8} {s:Stream}

lemma Sound.inStep (h:Sound num transit offered s) (hsynced:Synced offered) (frame:Frame) :
 InStep ⟨s.pvt,s.queue,frame⟩ :=
 ⟨by rw[h.config],by rw[h.config],h.saved,(h.rest▸hsynced).of_flatten h.lengths⟩

lemma Sound.produce (h:Sound num transit offered s) (item:Item) : Sound num transit (offered++item.pPubData)
  {s with queue:=s.queue++[{item with readIdx:=0}]} :=
 {h with
   rest:=by
    simp only[pending,flatMap_append,flatMap_singleton,←append_assoc]
    rw[←h.rest,pending,←append_assoc]
    rfl}

lemma counted_concat {frames:List Frame} (h:∀before g after,frames=before++g::after →
  g.dbc=8*(before.flatMap Frame.packets).length%256)
 (hf:f.dbc=8*(frames.flatMap Frame.packets).length%256) (before:List Frame) (g:Frame)
 (after:List Frame) (heq:frames++[f]=before++g::after) : g.dbc=8*(before.flatMap Frame.packets).length%256 := by
 rcases eq_nil_or_concat after with rfl|⟨after,last,rfl⟩
 · obtain ⟨rfl,hg⟩:=append_inj' heq rfl
   cases hg
   exact hf
 · rw[concat_eq_append,←cons_append,←append_assoc] at heq
   exact h before g after (append_inj' heq rfl).1

lemma Sound.transmit (h:Sound num transit offered s) (hsynced:Synced offered) (hpos:0<num)
 (hnum:num≤255) {listener:PvtData} (hlistener:listener.tsPacketSize=188) (pHdr:Frame)
 (tmNow:Option Timespec) (hempty:item.pPubData=[]) (hroom:num*188 ≤ item.itemSize) :
 ∃s',step listener (.transmit pHdr tmNow (some item)) (some s)=some s' ∧
  Sound num transit offered s' := by
 have hin:=h.inStep hsynced {pHdr with payload:=[]}
 obtain ⟨-,t,hrun,-,hle,htx⟩:=tx_consumed (.inl rfl) hin.size h.saved pHdr fun _=>hin.steady
 obtain ⟨bytes,flag,hpvt⟩:=hrun.config
 obtain ⟨hflag,hrest⟩:=hrun.inStep hin
 replace hpvt:t.pvt=⟨188,num,transit,8*(sentPackets s).length%256,bytes,false⟩:=by
  rw[hpvt] at hflag
  rw[hpvt,show flag=false from hflag,h.config]
 have hbytes:(sentPackets s).flatten++(t.frame.packets.flatten++pending t.pvt t.queue)=
  offered:=by rw[←h.rest];exact congrArg _ hrest
 have hcount:t.pvt.dbc=8*(sentPackets s).length%256:=by rw[hpvt]
 replace hle:t.frame.payload.length≤num:=by
  rw[h.config] at hle
  exact hle hpos
 split_ifs at htx with hsome
 · have hdbc:t.sentFrame.dbc=8*(sentPackets s).length%256:=by
    change t.pvt.dbc%256=_
    omega
   have hdatalen:t.sentFrame.datalen=t.frame.payload.length*192+8:=by
    change (t.frame.payload.length*192+8)%65536=_
    omega
   obtain ⟨item',hrx,hitem'⟩:=rx_pushes (f:=t.sentFrame) hlistener hrun.lengths hsome
    (Nat.le_trans hle hnum) (by omega) hdatalen tmNow hempty
    (Nat.le_trans (Nat.mul_le_mul_right _ hle) hroom)
   have hsent:sentPackets ⟨t.counted,t.queue,s.frames++[t.sentFrame],s.items++[item']⟩=
    sentPackets s++t.frame.packets:=by
    rw[sentPackets,flatMap_append,flatMap_singleton]
    rfl
   have hlength:t.frame.packets.length=t.frame.payload.length:=length_map _
   refine ⟨⟨t.counted,t.queue,s.frames++[t.sentFrame],s.items++[item']⟩,?_,?_⟩
   · simp[step,htx,hrx]
   refine ⟨?_,hrun.saved,?_,?_,counted_concat h.dbc hdbc,?_⟩
   · have hnext:(8*(sentPackets s).length%256+t.frame.payload.length*8)%256=
      8*((sentPackets s).length+t.frame.payload.length)%256:=by omega
     rw[hsent,length_append,hlength,←hnext,Talker.counted,hpvt]
   · intro p hp
     rw[hsent] at hp
     exact (mem_append.1 hp).elim (h.lengths p) (hrun.lengths p)
   · rw[hsent,flatten_append,append_assoc]
     exact hbytes
   · rw[hsent,flatMap_append,flatMap_singleton,flatten_append,h.rebuilt,hitem']
     rfl
 · have hnone:t.frame.payload=[]:=length_eq_zero_iff.1 (by omega)
   refine ⟨{s with pvt:=t.pvt,queue:=t.queue},by simp[step,htx],?_⟩
   rw[Frame.packets,hnone] at hbytes
   exact ⟨by rw[hpvt];rfl,hrun.saved,h.lengths,hbytes,h.dbc,h.rebuilt⟩

lemma prefix_of_flatten {rest:List UInt8} (hps:∀p∈ps,p.length=188)
 (hpackets:∀p∈packets,p.length=188) (h:ps.flatten++rest <+: packets.flatten) : ps <+: packets := by
 obtain ⟨tail,h⟩:=h
 rw[append_assoc] at h
 induction ps generalizing packets with
 | nil=>exact nil_prefix
 | cons p ps ih=>
  have hp:=hps p mem_cons_self
  rw[flatten_cons,append_assoc] at h
  cases packets with
  | nil=>
   rw[(append_eq_nil_iff.1 h).1] at hp
   cases hp
  | cons q packets=>
   obtain ⟨rfl,hrest⟩:=append_inj h (hp.trans (hpackets q mem_cons_self).symm)
   exact cons_prefix_cons.2 ⟨rfl,ih (fun p hp=>hps p (mem_cons_of_mem _ hp))
    (fun p hp=>hpackets p (mem_cons_of_mem _ hp)) hrest⟩

lemma run_sound (hpos:0<num) (hnum:num≤255) (transit:BitVec 32)
 (events:List Event) (hfree:∀e∈events,e.Free num)
 (hsynced:Synced (events.flatMap Event.bytes)) :
 ∃s,Runs.run (step (openavbMapMpeg2tsInitialize num transit)) events
  (some ⟨openavbMapMpeg2tsInitialize num transit,[],[],[]⟩)=some s ∧
  Sound num transit (events.flatMap Event.bytes) s := by
 revert hfree hsynced
 apply @Runs.run_history Event (Option Stream) _ _ (fun earlier s=>
  (∀e∈earlier,e.Free num) → Synced (earlier.flatMap Event.bytes) →
   ∃s',s=some s' ∧ Sound num transit (earlier.flatMap Event.bytes) s')
 · intro earlier event s ih hfree hsynced
   rw[flatMap_append,flatMap_singleton] at hsynced ⊢
   obtain ⟨s,rfl,hsound⟩:=ih (fun e he=>hfree e (mem_append_left _ he))
    hsynced.of_append_left
   cases event with
   | produce item=>exact ⟨_,rfl,hsound.produce item⟩
   | transmit pHdr tmNow head=>
    obtain ⟨item,rfl,hempty,hroom⟩:=hfree _ (mem_append_right _ mem_cons_self)
    rw[Event.bytes,append_nil] at hsynced ⊢
    exact hsound.transmit hsynced hpos hnum rfl pHdr tmNow hempty hroom
 · intro _ _
   exact ⟨_,rfl,rfl,Nat.succ_pos 187,by simp[sentPackets],rfl,by simp,rfl⟩

/-- However transport packets are cut into items and the callbacks interleave. -/
theorem mapping_transparent (hpos:0<num) (hnum:num≤255) (inMaxTransitUsec:BitVec 32)
 {packets:List (List UInt8)}
 (hpackets:∀p∈packets,p.length=188 ∧ p.head? = some syncByte) {events:List Event}
 (hcut:events.flatMap Event.bytes <+: packets.flatten) (hfree:∀e∈events,e.Free num) :
 ∃s,Runs.run (step (openavbMapMpeg2tsInitialize num inMaxTransitUsec)) events
  (some ⟨openavbMapMpeg2tsInitialize num inMaxTransitUsec,[],[],[]⟩)=some s ∧
  Transparent packets (events.flatMap Event.bytes) s := by
 have hsynced:Synced (events.flatMap Event.bytes):=by
  obtain ⟨tail,htail⟩:=hcut
  exact (htail▸synced_flatten hpackets).of_append_left
 obtain ⟨s,hs,h⟩:=run_sound hpos hnum inMaxTransitUsec events hfree hsynced
 refine ⟨s,hs,?_,h.rest,h.saved,?_,h.dbc,h.rebuilt⟩
 · rw[←h.rest] at hcut
   exact prefix_of_flatten h.lengths (fun p hp=>(hpackets p hp).1) hcut
 · intro pHdr
   have hin:=h.inStep hsynced {pHdr with payload:=[]}
   obtain ⟨-,t,-,hempty,-,htx⟩:=tx_consumed (.inl rfl) hin.size h.saved pHdr fun _=>hin.steady
   refine ⟨_,htx,?_⟩
   split_ifs with hsome
   · nofun
   · exact fun _=>hempty (by rw[h.config];dsimp only;omega)

theorem mapping_transparent_straddling : ∃s,Runs.run (step (openavbMapMpeg2tsInitialize 1 0))
  [.produce ⟨0x47::replicate 99 1,0,200,openavbAvtpTimeCreate 0⟩,
   .produce ⟨replicate 88 2++[0x47],0,200,openavbAvtpTimeCreate 0⟩,
   .transmit ⟨false,false,0,0,0,[]⟩ none (some ⟨[],0,188,openavbAvtpTimeCreate 0⟩)]
  (some ⟨openavbMapMpeg2tsInitialize 1 0,[],[],[]⟩)=some s ∧
  Transparent [0x47::replicate 99 1++replicate 88 2,0x47::replicate 187 3]
   (0x47::replicate 99 1++replicate 88 2++[0x47]) s :=
 mapping_transparent (by decide) (by decide) 0 (by simp[syncByte,-List.reduceReplicate])
  ⟨replicate 187 3,by simp[Event.bytes,-List.reduceReplicate]⟩ (by simp[Event.Free])

/-! ## Which talkers survive -/

/-- Of every round that a call starts, however long it runs. -/
def Each (P:Round → Prop) : Event → Option Stream → Prop
 | .transmit pHdr _ _, some s=>∀fuel,∀r∈started fuel ⟨s.pvt,s.queue,{pHdr with payload:=[]}⟩,P r
 | _, _=>True

def sentBytes (tsPacketSize:Nat) (s:Stream) : List UInt8 := (s.frames.flatMap (Frame.taken tsPacketSize)).flatten

structure Kept (tsPacketSize:Nat) (offered:List UInt8) (s:Stream) : Prop where
 size:s.pvt.tsPacketSize=tsPacketSize
 saved:s.pvt.savedBytes.length<tsPacketSize
 bytes:sentBytes tsPacketSize s++pending s.pvt s.queue <+ offered

lemma Kept.step (hsize:size=188 ∨ size=192) (h:Kept size offered s) (listener:PvtData) (event:Event)
 (hsteady:Each Steady event (some s)) : Each Safe event (some s) ∧
  ∃s',step listener event (some s)=some s' ∧ Kept size (offered++event.bytes) s' := by
 cases event with
 | produce item=>
  refine ⟨trivial,_,rfl,h.size,h.saved,?_⟩
  have hmore:=h.bytes.append (Sublist.refl item.pPubData)
  simpa[pending,sentBytes,Item.unread,Event.bytes] using hmore
 | transmit pHdr tmNow head=>
  obtain ⟨hsafe,t,hrun,-,-,htx⟩:=tx_consumed hsize h.size h.saved pHdr hsteady
  obtain ⟨bytes,flag,hpvt⟩:=hrun.config
  have hmore:=((Sublist.refl (sentBytes size s)).append hrun.bytes).trans h.bytes
  refine ⟨hsafe,_,by simp only[MapMpeg2ts.step,bind_some,htx];rfl,?_⟩
  split_ifs with hsome
  · refine ⟨(congrArg PvtData.tsPacketSize hpvt).trans h.size,hrun.saved,?_⟩
    simpa[sentBytes,Event.bytes,Frame.taken,Talker.sentFrame,Talker.counted,pending] using hmore
  · have hnone:t.frame.payload=[]:=length_eq_zero_iff.1 (by omega)
    refine ⟨(congrArg PvtData.tsPacketSize hpvt).trans h.size,hrun.saved,?_⟩
    simpa[sentBytes,Event.bytes,Frame.taken,hnone] using hmore

end OpenAvnu.MapMpeg2ts
