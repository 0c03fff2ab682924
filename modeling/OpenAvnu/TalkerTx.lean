import OpenAvnu.Runs

/-!
# Transmission of a talker

`openavb_talker.c` over `openavbAvtpTx` and two raw sockets. The kernel accepts every send and
leaves `errno` as it was.
-/

namespace OpenAvnu.TalkerTx

open Runs List

inductive Kind where
 | sendmmsg | ring
 deriving DecidableEq, Repr

/-- What opening the socket fixed.  `sendmmsg` has `MSG_COUNT = 8` frames. -/
structure Socket where
 kind:Kind
 (frameCount blockCount:Nat)
 frameCount_pos:0<frameCount

/-- `sent` counts the frames that a send call has taken off the accounts. -/
structure Rawsock where
 (buffersOut buffersReady bufferIndex blockIndex sent:Nat)
 deriving DecidableEq, Repr

def sendmmsgRawsockOpen : Socket := ⟨.sendmmsg,8,1,by decide⟩

variable (sock:Socket)

def sendmmsgRawsockGetTxFrame (r:Rawsock) : Rawsock×Option Nat :=
 if r.buffersOut ≥ sock.frameCount then (r,none)
 else ({r with buffersOut:=r.buffersOut+1},some r.buffersOut)
def sendmmsgRawsockTxFrameReady (r:Rawsock) : Rawsock :=
 {r with buffersReady:=r.buffersReady+1}
def sendmmsgRawsockSend (r:Rawsock) : Rawsock :=
 if r.buffersOut≠r.buffersReady then r
 else {r with buffersOut:=0,buffersReady:=0,sent:=r.sent+r.buffersReady}

def ringRawsockGetTxFrame (r:Rawsock) : Rawsock×Option Nat :=
 if r.buffersOut ≥ sock.frameCount then (r,none)
 else
  let perBlock:=sock.frameCount/sock.blockCount
  let wraps:=r.bufferIndex+1 ≥ perBlock
  ({r with
   bufferIndex:=if wraps then 0 else r.bufferIndex+1
   blockIndex:=
    if wraps then (if r.blockIndex+1 ≥ sock.blockCount then 0 else r.blockIndex+1)
    else r.blockIndex
   buffersOut:=r.buffersOut+1},some (r.blockIndex*perBlock+r.bufferIndex))

def ringRawsockSend (eintr:Bool) (r:Rawsock) : Rawsock :=
 if eintr then r
 else {r with
  buffersOut:=r.buffersOut-r.buffersReady
  buffersReady:=0
  sent:=r.sent+r.buffersReady}

def ringRawsockTxFrameReady (eintr:Bool) (r:Rawsock) : Rawsock :=
 let r:={r with buffersReady:=r.buffersReady+1}
 if r.buffersReady ≥ sock.frameCount then ringRawsockSend eintr r else r
def openavbRawsockGetTxFrame (r:Rawsock) : Rawsock×Option Nat :=
 match sock.kind with
 | .sendmmsg=>sendmmsgRawsockGetTxFrame sock r
 | .ring=>ringRawsockGetTxFrame sock r
def openavbRawsockTxFrameReady (eintr:Bool) (r:Rawsock) : Rawsock :=
 match sock.kind with
 | .sendmmsg=>sendmmsgRawsockTxFrameReady r
 | .ring=>ringRawsockTxFrameReady sock eintr r
def openavbRawsockSend (eintr:Bool) (r:Rawsock) : Rawsock :=
 match sock.kind with
 | .sendmmsg=>sendmmsgRawsockSend r
 | .ring=>ringRawsockSend eintr r

inductive TxCbRet where
 | packetNotReady | packetReady | morePackets
 deriving DecidableEq, Repr

/-- The AVTP version and result of the mapping, whether the stream is paused, and whether `errno` is
`EINTR` at the two sends. -/
structure Reply where
 version:Nat
 txCBResult:TxCbRet
 (bPause eintrFull eintrSend:Bool)
 deriving DecidableEq, Repr

structure AvtpStream where
 rawsock:Rawsock
 pBuf:Option Nat
 avtpSequenceNum:UInt8
 deriving DecidableEq, Repr

def openavbAvtpTx (reply:Reply) (bSend:Bool) (s:AvtpStream) : AvtpStream×Bool :=
 let got:Rawsock×Option Nat:=
  match s.pBuf with
  | some buffer=>(s.rawsock,some buffer)
  | none=>openavbRawsockGetTxFrame sock s.rawsock
 match got.2 with
 | none=>({s with rawsock:=got.1,pBuf:=none},false)
 | some buffer=>
  -- `fillAvtpHdr` knows version 0 only
  if reply.version≠0 then ({s with rawsock:=got.1,pBuf:=some buffer},false)
  else if reply.txCBResult ≠ .packetNotReady ∧ !reply.bPause then
   let ready:=openavbRawsockTxFrameReady sock reply.eintrFull got.1
   ({rawsock:=if bSend then openavbRawsockSend sock reply.eintrSend ready else ready
     pBuf:=none
     avtpSequenceNum:=s.avtpSequenceNum+1},true)
  else ({s with rawsock:=got.1,pBuf:=some buffer},false)

structure Talker where
 stream:AvtpStream
 cntFrames:Nat
 deriving DecidableEq, Repr

def sendFrames (replies:Nat → Reply) : Nat → Talker → Talker
 | 0, t=>t
 | i+1, t=>
  match openavbAvtpTx sock (replies (i+1)) (i+1 == 1) t.stream with
  | (stream,true)=>sendFrames replies i ⟨stream,t.cntFrames+1⟩
  | (stream,false)=>⟨stream,t.cntFrames⟩

/-- One wake-up that does not block in its interface module. -/
def talkerDoStream (wakeFrames:Nat) (replies:Nat → Reply) (t:Talker) : Talker :=
 sendFrames sock replies wakeFrames t

def start : Talker := ⟨⟨⟨0,0,0,0,0⟩,none,0⟩,0⟩
def AvtpStream.kept (s:AvtpStream) : Nat := s.pBuf.toList.length
/-- A buffer is out because it waits to be sent or because the stream keeps it. -/
structure Balanced (t:Talker) : Prop where
 out:t.stream.rawsock.buffersOut=t.stream.rawsock.buffersReady+t.stream.kept
 bounded:t.stream.rawsock.buffersOut ≤ sock.frameCount
 covered:t.cntFrames=t.stream.rawsock.sent+t.stream.rawsock.buffersReady

lemma start_balanced : Balanced sock start := ⟨rfl,Nat.zero_le _,rfl⟩
def Reply.Ready (reply:Reply) : Prop := reply.version=0 ∧ reply.txCBResult ≠ .packetNotReady ∧ reply.bPause=false
instance : DecidablePred Reply.Ready := fun _=>inferInstanceAs (Decidable (_ ∧ _))
def Socket.mark (reply:Reply) (bSend:Bool) (waiting:Nat) : Nat :=
 match sock.kind with
 | .sendmmsg=>if bSend then 0 else waiting+1
 | .ring=>
  if waiting+1 ≥ sock.frameCount ∧ reply.eintrFull=false ∨ bSend=true ∧ reply.eintrSend=false then 0
  else waiting+1

variable {sock} {t:Talker} {reply:Reply} {r:Rawsock}

lemma getTxFrame_full (h:sock.frameCount ≤ r.buffersOut) : openavbRawsockGetTxFrame sock r=(r,none) := by
 simp only[openavbRawsockGetTxFrame,sendmmsgRawsockGetTxFrame,ringRawsockGetTxFrame,if_pos h]
 split<;>rfl

lemma getTxFrame_room (h:r.buffersOut<sock.frameCount) :
 ∃r' buffer,openavbRawsockGetTxFrame sock r=(r',some buffer) ∧
  r'.buffersOut=r.buffersOut+1 ∧ r'.buffersReady=r.buffersReady ∧ r'.sent=r.sent := by
 simp only[openavbRawsockGetTxFrame,sendmmsgRawsockGetTxFrame,ringRawsockGetTxFrame,if_neg (Nat.not_le.2 h)]
 split<;>exact ⟨_,_,rfl,rfl,rfl,rfl⟩

lemma marked_counts (reply:Reply) (bSend:Bool) (hout:r.buffersOut=r.buffersReady+1) :
 let ready:=openavbRawsockTxFrameReady sock reply.eintrFull r
 let r':=if bSend then openavbRawsockSend sock reply.eintrSend ready else ready
 r'.buffersReady=sock.mark reply bSend r.buffersReady ∧ r'.buffersOut=r'.buffersReady ∧
  r'.sent+r'.buffersReady=r.sent+r.buffersReady+1 := by
 cases hkind:sock.kind with
 | sendmmsg=>
  cases bSend <;>
   simp[openavbRawsockSend,openavbRawsockTxFrameReady,hkind,sendmmsgRawsockTxFrameReady,
    sendmmsgRawsockSend,hout,Socket.mark]<;>omega
 | ring=>
  by_cases hfull:sock.frameCount ≤ r.buffersReady+1<;>cases bSend <;>
   cases hkept:reply.eintrFull<;>cases hlast:reply.eintrSend <;>
   simp[openavbRawsockSend,openavbRawsockTxFrameReady,hkind,ringRawsockTxFrameReady,
    ringRawsockSend,hout,Socket.mark,hfull,hkept,hlast]<;>omega

lemma mark_le (reply:Reply) (bSend:Bool) (waiting:Nat) : sock.mark reply bSend waiting≤waiting+1 := by
 unfold Socket.mark
 split<;>split_ifs<;>omega

lemma buffer_held (h:Balanced sock t) (hroom:t.stream.rawsock.buffersReady<sock.frameCount)
 : ∃r buffer,(match t.stream.pBuf with
  | some buffer=>(t.stream.rawsock,some buffer)
  | none=>openavbRawsockGetTxFrame sock t.stream.rawsock)=(r,some buffer) ∧
  r.buffersOut=r.buffersReady+1 ∧
  r.buffersReady=t.stream.rawsock.buffersReady ∧ r.sent=t.stream.rawsock.sent := by
 have hout:=h.out
 cases hbuf:t.stream.pBuf with
 | some buffer=>
  simp only[AvtpStream.kept,hbuf,Option.toList] at hout
  exact ⟨_,buffer,rfl,by omega,rfl,rfl⟩
 | none=>
  simp only[AvtpStream.kept,hbuf,Option.toList,List.length] at hout
  obtain ⟨r,buffer,hget,hr,hready,hsent⟩:=
   getTxFrame_room (show t.stream.rawsock.buffersOut<sock.frameCount by omega)
  exact ⟨r,buffer,hget,by omega,hready,hsent⟩

lemma openavbAvtpTx_ready (h:Balanced sock t) (hready:reply.Ready)
 (hroom:t.stream.rawsock.buffersReady<sock.frameCount) (bSend:Bool) :
 ∃stream,openavbAvtpTx sock reply bSend t.stream=(stream,true) ∧
  Balanced sock ⟨stream,t.cntFrames+1⟩ ∧
  stream.rawsock.buffersReady=sock.mark reply bSend t.stream.rawsock.buffersReady := by
 obtain ⟨r,buffer,hgot,hout,hwaiting,hsent⟩:=buffer_held h hroom
 obtain ⟨hversion,hresult,hpause⟩:=hready
 obtain ⟨hmark,hall,hcovered⟩:=@marked_counts sock r reply bSend hout
 have hle:=@mark_le sock reply bSend t.stream.rawsock.buffersReady
 have hcount:=h.covered
 simp only[openavbAvtpTx,hgot,hversion,ne_eq,not_true,if_false,hresult,hpause,
  not_false_iff,Bool.not_false,if_true,Prod.mk.injEq,and_true,exists_eq_left']
 rw[hwaiting] at hmark hcovered
 refine ⟨⟨hall,?_,?_⟩,hmark⟩
 · rw[hall,hmark]
   omega
 · rw[hcount,hcovered,hsent]

lemma openavbAvtpTx_stopped (h:Balanced sock t)
 (hstop:¬reply.Ready ∨ sock.frameCount≤t.stream.rawsock.buffersReady) (bSend:Bool) :
 ∃stream,openavbAvtpTx sock reply bSend t.stream=(stream,false) ∧
  Balanced sock ⟨stream,t.cntFrames⟩ ∧
  stream.rawsock.buffersReady=t.stream.rawsock.buffersReady := by
 have hout:=h.out
 have hbounded:=h.bounded
 by_cases hroom:t.stream.rawsock.buffersReady<sock.frameCount
 · obtain ⟨r,buffer,hgot,hheld,hwaiting,hsent⟩:=buffer_held h hroom
   have hnot:=hstop.resolve_right (Nat.not_le.2 hroom)
   have hbalanced:Balanced sock ⟨⟨r,some buffer,t.stream.avtpSequenceNum⟩,t.cntFrames⟩:=
    ⟨hheld,hheld▸hwaiting▸hroom,by rw[h.covered,hwaiting,hsent]⟩
   refine ⟨_,?_,hbalanced,hwaiting⟩
   simp only[openavbAvtpTx,hgot]
   by_cases hversion:reply.version=0
   · have hresult:¬(reply.txCBResult ≠ .packetNotReady ∧ (!reply.bPause)=true):=fun hr=>
      hnot ⟨hversion,hr.1,by simpa using hr.2⟩
     rw[if_neg (not_not.2 hversion),if_neg hresult]
   · rw[if_pos hversion]
 · -- every buffer waits to be sent, so the stream has none and gets none
   have hnone:t.stream.pBuf=none:=by
    cases hbuf:t.stream.pBuf with
    | none=>rfl
    | some buffer=>
     simp only[AvtpStream.kept,hbuf,Option.toList,List.length] at hout
     omega
   have hfull:sock.frameCount≤t.stream.rawsock.buffersOut:=by omega
   have hkept:t.stream = {t.stream with pBuf:=none}:=by rw[←hnone]
   refine ⟨t.stream,?_,h,rfl⟩
   simp only[openavbAvtpTx,hnone,getTxFrame_full hfull]
   rw[←hkept]

def readyFrames (replies:Nat → Reply) : Nat → Nat
 | 0=>0
 | i+1=>if (replies (i+1)).Ready then readyFrames replies i+1 else 0

variable {replies:Nat → Reply}

lemma sendFrames_ready {i:Nat} (h:Balanced sock t) (hready:(replies (i+1)).Ready)
 (hroom:t.stream.rawsock.buffersReady<sock.frameCount) :
 ∃t',sendFrames sock replies (i+1) t=sendFrames sock replies i t' ∧ Balanced sock t' ∧
  t'.stream.rawsock.buffersReady=
   sock.mark (replies (i+1)) (i == 0) t.stream.rawsock.buffersReady := by
 obtain ⟨stream,htx,hbalanced,hwaiting⟩:=openavbAvtpTx_ready h hready hroom (i+1 == 1)
 refine ⟨⟨stream,t.cntFrames+1⟩,?_,hbalanced,?_⟩
 · simp only[sendFrames,htx]
 · simpa using hwaiting

lemma sendFrames_stopped {i:Nat} (h:Balanced sock t)
 (hstop:¬(replies (i+1)).Ready ∨ sock.frameCount≤t.stream.rawsock.buffersReady) :
 Balanced sock (sendFrames sock replies (i+1) t) ∧
  (sendFrames sock replies (i+1) t).stream.rawsock.buffersReady=t.stream.rawsock.buffersReady := by
 obtain ⟨stream,htx,hbalanced,hwaiting⟩:=openavbAvtpTx_stopped h hstop (i+1 == 1)
 simp only[sendFrames,htx]
 exact ⟨hbalanced,hwaiting⟩

lemma sendFrames_balanced (h:Balanced sock t) (i:Nat) : Balanced sock (sendFrames sock replies i t) := by
 induction i generalizing t with
 | zero=>exact h
 | succ i ih=>
  by_cases hgo:(replies (i+1)).Ready ∧ t.stream.rawsock.buffersReady<sock.frameCount
  · obtain ⟨t',heq,hbalanced,-⟩:=sendFrames_ready h hgo.1 hgo.2
    rw[heq]
    exact ih hbalanced
  · rw[not_and_or,Nat.not_lt] at hgo
    exact (sendFrames_stopped h hgo).1

lemma Balanced.ready_le (h:Balanced sock t) : t.stream.rawsock.buffersReady ≤ sock.frameCount := by
 have hout:=h.out
 have hbounded:=h.bounded
 omega

lemma sendFrames_sendmmsg (hkind:sock.kind=.sendmmsg) (h:Balanced sock t) (i:Nat) :
 (sendFrames sock replies i t).stream.rawsock.buffersReady=
  if 0 < i ∧ readyFrames replies i=i ∧ t.stream.rawsock.buffersReady+i ≤ sock.frameCount
  then 0
  else min (t.stream.rawsock.buffersReady+readyFrames replies i) sock.frameCount := by
 induction i generalizing t with
 | zero=>
  simp only[sendFrames,readyFrames,Nat.lt_irrefl,false_and,if_false]
  exact (Nat.min_eq_left h.ready_le).symm
 | succ i ih=>
  by_cases hready:(replies (i+1)).Ready
  · by_cases hroom:t.stream.rawsock.buffersReady<sock.frameCount
    · obtain ⟨t',heq,hbalanced,hwaiting⟩:=sendFrames_ready h hready hroom
      simp only[Socket.mark,hkind] at hwaiting
      rw[heq,ih hbalanced,hwaiting]
      simp only[readyFrames,hready]
      cases i with
      | zero=>
       have hfits:t.stream.rawsock.buffersReady+(0+1) ≤ sock.frameCount:=hroom
       simp[readyFrames,hfits]
      | succ i=>
       simp only[Nat.add_eq_zero_iff,Nat.one_ne_zero,and_false,beq_iff_eq,if_false]
       split_ifs<;>omega
    · have hle:=h.ready_le
      rw[(sendFrames_stopped h (.inr (by omega))).2]
      split_ifs<;>omega
  · rw[(sendFrames_stopped h (.inl hready)).2]
    simp only[readyFrames,hready,if_false]
    rw[if_neg (by simp),Nat.add_zero,Nat.min_eq_left h.ready_le]

/-- No full ring but the last meets `EINTR`, and the last frame leaves by one of its two sends. -/
def RingEmptied (sock:Socket) (replies:Nat → Reply) (waiting i:Nat) : Prop :=
 (∀m,1 < m → i < m+readyFrames replies i → m ≤ i → sock.frameCount ∣ waiting+(i+1-m) →
  (replies m).eintrFull=false) ∧
 if 0 < i ∧ readyFrames replies i=i then
  (replies 1).eintrSend=false ∨ sock.frameCount ∣ waiting+i ∧ (replies 1).eintrFull=false
 else sock.frameCount ∣ waiting+readyFrames replies i

section Ring
variable {waiting i:Nat}

lemma ringEmptied_of_no_round (hroom:waiting < sock.frameCount) (hnone:readyFrames replies i=0) :
 RingEmptied sock replies waiting i↔waiting=0 := by
 have hend:¬(0 < i ∧ readyFrames replies i=i):=by omega
 rw[RingEmptied,if_neg hend,hnone]
 constructor
 · exact fun h=>Nat.eq_zero_of_dvd_of_lt h.2 hroom
 · rintro rfl
   exact ⟨fun m _ hlow hhigh=>by omega,Nat.dvd_zero _⟩

lemma ringEmptied_succ (hready:(replies (i+1)).Ready) (hi:0 < i) :
 RingEmptied sock replies waiting (i+1) ↔
  (sock.frameCount ∣ waiting+1 → (replies (i+1)).eintrFull=false) ∧ RingEmptied sock replies (waiting+1) i := by
 have hcount:readyFrames replies (i+1)=readyFrames replies i+1:=if_pos hready
 have hsum:∀n,waiting+1+n=waiting+(n+1):=by omega
 have hshift:∀m,m ≤ i → waiting+(i+1+1-m)=waiting+(i+1-m+1):=by omega
 simp only[RingEmptied,hcount,Nat.add_right_cancel_iff,hi,Nat.succ_pos,true_and,hsum,← and_assoc]
 refine and_congr_left fun _=>⟨fun h=>⟨?_,fun m hm hlow hhigh hfull=>?_⟩,fun h m hm hlow hhigh hfull=>?_⟩
 · intro hfull
   exact h (i+1) (by omega) (by omega) (Nat.le_refl _) (by simpa using hfull)
 · exact h m hm (by omega) (by omega) (by rwa[hshift m hhigh])
 · rcases Nat.le_succ_iff.1 hhigh with hle|rfl
   · exact h.2 m hm (by omega) hle (by rwa[← hshift m hle])
   · exact h.1 (by simpa using hfull)

lemma sendFrames_ring (hkind:sock.kind=.ring) (h:Balanced sock t)
 (hroom:t.stream.rawsock.buffersReady<sock.frameCount) (i:Nat) :
 (sendFrames sock replies i t).stream.rawsock.buffersReady=0 ↔
  RingEmptied sock replies t.stream.rawsock.buffersReady i := by
 induction i generalizing t with
 | zero=>exact (ringEmptied_of_no_round hroom rfl).symm
 | succ i ih=>
  by_cases hready:(replies (i+1)).Ready
  · obtain ⟨t',heq,hbalanced,hwaiting⟩:=sendFrames_ready h hready hroom
    simp only[Socket.mark,hkind] at hwaiting
    rw[heq]
    generalize t.stream.rawsock.buffersReady=waiting at *
    have hfull:sock.frameCount ∣ waiting+1↔waiting+1 ≥ sock.frameCount:=
     ⟨Nat.le_of_dvd (Nat.succ_pos _),fun hle=>⟨1,by omega⟩⟩
    cases i with
    | zero=>
     have hcount:readyFrames replies (0+1)=1:=if_pos hready
     rw[sendFrames,hwaiting,RingEmptied,hcount,and_iff_right fun m hm _ hle=>by omega,hfull]
     cases (replies (0+1)).eintrSend<;>simp
    | succ i=>
     rw[ringEmptied_succ hready (Nat.succ_pos i),hfull]
     simp only[Nat.add_eq_zero_iff,Nat.one_ne_zero,and_false,beq_iff_eq,false_and,or_false] at hwaiting
     by_cases hge:waiting+1 ≥ sock.frameCount
     · have hsize:waiting+1=sock.frameCount:=by omega
       cases hkept:(replies (i+1+1)).eintrFull with
       | false=>
        rw[if_pos ⟨hge,hkept⟩] at hwaiting
        have hturn:RingEmptied sock replies (waiting+1) (i+1)↔RingEmptied sock replies 0 (i+1):=by
         simp only[RingEmptied,hsize,Nat.dvd_add_right (Nat.dvd_refl sock.frameCount),Nat.zero_add]
        rw[ih hbalanced (by omega),hwaiting,hturn]
        exact (and_iff_right fun _=>rfl).symm
       | true=>
        -- the ring stays full, so the next round has no buffer
        rw[if_neg (by simp[hkept])] at hwaiting
        rw[(sendFrames_stopped hbalanced (.inr (by omega))).2,hwaiting]
        exact iff_of_false (by omega) fun h=>absurd (h.1 hge) (by simp)
     · rw[if_neg fun h=>hge h.1] at hwaiting
       rw[ih hbalanced (by omega),hwaiting]
       exact (and_iff_right fun h=>absurd h hge).symm
  · have hnone:readyFrames replies (i+1)=0:=if_neg hready
    rw[(sendFrames_stopped h (.inl hready)).2]
    exact (ringEmptied_of_no_round hroom hnone).symm

end Ring

/-- Every frame reported as transmitted was covered by a send call, and only the kept buffer is
out. -/
structure Flushed (t:Talker) : Prop where
 covered:t.cntFrames=t.stream.rawsock.sent
 ready:t.stream.rawsock.buffersReady=0
 out:t.stream.rawsock.buffersOut=t.stream.kept

lemma flushed_iff (h:Balanced sock t) : Flushed t↔t.stream.rawsock.buffersReady=0 := by
 constructor
 · exact Flushed.ready
 · intro hzero
   have hcovered:=h.covered
   have hout:=h.out
   exact ⟨by omega,hzero,by omega⟩

/-- The batch is complete and fits, or leaves nothing behind. -/
def FullBatch (sock:Socket) (wakeFrames:Nat) (replies:Nat → Reply) : Prop :=
 match sock.kind with
 | .sendmmsg=>
  readyFrames replies wakeFrames=0 ∨
   readyFrames replies wakeFrames=wakeFrames ∧ wakeFrames ≤ sock.frameCount
 | .ring=>RingEmptied sock replies 0 wakeFrames

lemma flushed_talkerDoStream (h:Balanced sock t) (hflushed:Flushed t) (wakeFrames:Nat) :
 Flushed (talkerDoStream sock wakeFrames replies t)↔FullBatch sock wakeFrames replies := by
 have hpos:=sock.frameCount_pos
 have hzero:=hflushed.ready
 rw[talkerDoStream,flushed_iff (sendFrames_balanced h wakeFrames)]
 cases hkind:sock.kind with
 | sendmmsg=>
  rw[sendFrames_sendmmsg hkind h]
  simp only[FullBatch,hkind]
  split_ifs<;>omega
 | ring=>
  rw[sendFrames_ring hkind h (by omega),hzero]
  simp only[FullBatch,hkind]

theorem flushed_iff_fullBatch (sock:Socket) (wakeFrames:Nat) (wakes:List (Nat → Reply)) :
 Throughout (talkerDoStream sock wakeFrames) Flushed wakes start ↔
  ∀replies∈wakes,FullBatch sock wakeFrames replies := by
 have hstart:Flushed start:=⟨rfl,rfl,rfl⟩
 apply (throughout_iff_along_of (J:=Balanced sock) ?_ ?_ (start_balanced sock) hstart).trans along_iff_forall
 · intro replies t h
   exact sendFrames_balanced h wakeFrames
 · intro replies t h hflushed
   exact flushed_talkerDoStream h hflushed wakeFrames

/-- One frame of three rounds, nine frames with `sendmmsg`, and one frame with an old `EINTR`. -/
theorem short_batch_stays : (∀sock∈[sendmmsgRawsockOpen,⟨.ring,24,3,by decide⟩],
  let t:=talkerDoStream sock 3
   (fun i=>⟨0,if i=3 then .packetReady else .packetNotReady,false,false,false⟩) start
  t.cntFrames=1 ∧ t.stream.rawsock.sent=0 ∧ t.stream.rawsock.buffersReady=1 ∧
   t.stream.rawsock.buffersOut=2) ∧
 (let wake:=talkerDoStream sendmmsgRawsockOpen 9 fun _=>⟨0,.packetReady,false,false,false⟩
  (wake start).cntFrames=8 ∧ (wake start).stream.rawsock.sent=0 ∧
   wake (wake start)=wake start) ∧
 (talkerDoStream ⟨.ring,24,3,by decide⟩ 1 (fun _=>⟨0,.packetReady,false,false,true⟩)
  start).stream.rawsock.buffersReady=1 := by
 refine ⟨fun sock hsock=>?_,by decide +kernel,by decide +kernel⟩
 simp only[mem_cons,not_mem_nil,or_false] at hsock
 rcases hsock with rfl|rfl<;>decide +kernel

end OpenAvnu.TalkerTx
