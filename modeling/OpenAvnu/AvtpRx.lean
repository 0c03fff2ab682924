import Mathlib.Algebra.Group.Nat.Defs
import Mathlib.Algebra.Ring.Int.Defs
import OpenAvnu.Runs

/-!
# Lost frames of a listener

The receiving side of `openavb_avtp.c`: gaps in the sequence numbers add up until the statistics
ask.
-/

namespace OpenAvnu.AvtpRx

open Runs List

/-- `int` arithmetic; an overflow is taken to wrap. -/
def int32 (n:Int) : Int := Int.bmod n (2^32)

/-- The fields of `avtp_stream_t` that the receiving side uses.  `nLost = -1` until the first
frame. -/
structure AvtpStream where
 nLost:Int
 avtpSequenceNum:UInt8
 bytes:Nat
 complete:Bool

def openavbAvtpRxInit : AvtpStream := ⟨-1,0,0,false⟩
def gap (expected rxSeq:UInt8) : UInt8 :=
 UInt8.ofNat ((rxSeq.toNat:Int)-expected.toNat+if rxSeq<expected then 256 else 0).toNat

/-- `x_avtpRxFrame`: control PDUs and other versions are ignored.  A frame has its three header
bytes. -/
def xAvtpRxFrame (s:AvtpStream) (pFrame:List UInt8) : AvtpStream :=
 match pFrame with
 | subtype::flags::rxSeq::_=>
  if subtype &&& 0x80=0 ∧ (flags >>> 4) &&& 0x07=0 then
   {nLost:=
    if s.nLost = -1 then 0
    else if s.avtpSequenceNum≠rxSeq then
    int32 (s.nLost+(gap s.avtpSequenceNum rxSeq).toNat)
    else s.nLost
    avtpSequenceNum:=rxSeq+1
    bytes:=(s.bytes+pFrame.length)%2^64
    complete:=true}
  else s
 | _=>s

def openavbAvtpLost (s:AvtpStream) : Int×AvtpStream := (s.nLost,{s with nLost:=0})

inductive Event where
 | frame (subtype flags:UInt8) (rest:List UInt8) (delivered:Bool)
 | lost

/-- An observer knows the next sequence number and the frames lost since and between. -/
structure History where
 stream:AvtpStream
 sent:UInt8
 received:Bool
 (dropped missing:Nat)
 returned:List Int

def initial (start:UInt8) : History := ⟨openavbAvtpRxInit,start,false,0,0,[]⟩

def step (event:Event) (h:History) : History :=
 match event with
 | .frame subtype flags rest true=>
  {h with
    stream:=xAvtpRxFrame h.stream (subtype::flags::h.sent::rest)
    sent:=h.sent+1
    received:=true
    dropped:=0
    missing:=if h.received then h.missing+h.dropped else 0}
 | .frame _ _ _ false=>{h with sent:=h.sent+1,dropped:=h.dropped+1}
 | .lost=>
  {h with
    stream:=(openavbAvtpLost h.stream).2
    returned:=(openavbAvtpLost h.stream).1::h.returned}

/-- Received frames are data frames of version 0, and fewer than 256 are lost in a row. -/
def Plausible (event:Event) (h:History) : Prop :=
 match event with
 | .frame subtype flags _ true=>
  (subtype &&& 0x80=0 ∧ (flags >>> 4) &&& 0x07=0) ∧ (h.received=true → h.dropped<256)
 | _=>True

/-- Every value was a count, and with the next one they add up to the missing frames. -/
structure Exact (h:History) : Prop where
 counts:∀v∈h.returned,0≤v
 total:h.received=true → h.returned.sum+(openavbAvtpLost h.stream).1=h.missing

/-- The statistics are read after the first frame, and often enough for an `int`. -/
def Timely (event:Event) (h:History) : Prop :=
 match event with
 | .lost=>h.received=true
 | .frame _ _ _ true=>h.received=true → h.stream.nLost+h.dropped<2^31
 | .frame _ _ _ false=>True

instance (event:Event) (h:History) : Decidable (Plausible event h) := by
 cases event with
 | lost=>exact isTrue trivial
 | frame subtype flags rest delivered=>
  cases delivered with
  | true=>exact inferInstanceAs (Decidable (_ ∧ _))
  | false=>exact isTrue trivial

instance (event:Event) (h:History) : Decidable (Timely event h) := by
 cases event with
 | lost=>exact inferInstanceAs (Decidable (_=_))
 | frame subtype flags rest delivered=>
  cases delivered with
  | true=>exact inferInstanceAs (Decidable (_ → _))
  | false=>exact isTrue trivial

structure Counted (h:History) : Prop extends Exact h where
 fresh:h.received=false → h.stream.nLost = -1 ∧ h.returned=[]
 bounds:h.received=true → 0≤h.stream.nLost ∧ h.stream.nLost<2^31
 next:h.received=true → h.sent=h.stream.avtpSequenceNum+UInt8.ofNat h.dropped

lemma counted_initial (start:UInt8) : Counted (initial start) :=
 ⟨⟨by simp[initial],by simp[initial]⟩,fun _=>⟨rfl,rfl⟩,by simp[initial],by simp[initial]⟩
lemma gap_toNat (expected rxSeq:UInt8) : (gap expected rxSeq).toNat=(rxSeq.toNat+(256-expected.toNat))%256 := by
 have he:=expected.toNat_lt
 simp only[gap,UInt8.toNat_ofNat',UInt8.lt_iff_toNat_lt]
 split_ifs<;>omega

lemma gap_dropped {expected rxSeq:UInt8} {dropped:Nat}
 (hnext:rxSeq=expected+UInt8.ofNat dropped) (hlt:dropped<256) :
 (gap expected rxSeq).toNat=dropped ∧ (expected=rxSeq↔dropped=0) := by
 have he:=expected.toNat_lt
 have hvalue:rxSeq.toNat=(expected.toNat+dropped)%256:=by
  rw[hnext,UInt8.toNat_add,UInt8.toNat_ofNat',Nat.mod_eq_of_lt hlt]
 rw[gap_toNat,←UInt8.toNat_inj,hvalue]
 omega

variable {h:History} {rest:List UInt8} {subtype flags:UInt8} (event:Event)

lemma nLost_frame (hc:Counted h) (hdomain:Plausible (.frame subtype flags rest true) h) :
 (step (.frame subtype flags rest true) h).stream.nLost=
  (if h.received then int32 (h.stream.nLost+h.dropped) else 0) ∧
  (step (.frame subtype flags rest true) h).stream.avtpSequenceNum=h.sent+1 := by
 obtain ⟨haccepted,hlt⟩:=hdomain
 simp only[step,xAvtpRxFrame,if_pos haccepted,and_true]
 cases hrec:h.received with
 | false=>simp[(hc.fresh hrec).1]
 | true=>
  obtain ⟨hpos,hsmall⟩:=hc.bounds hrec
  obtain ⟨hgap,hsame⟩:=gap_dropped (hc.next hrec) (hlt hrec)
  rw[if_neg (by omega),hgap,if_pos rfl]
  split_ifs with hne
  · rfl
  · have hzero:h.dropped=0:=hsame.1 (not_not.1 hne)
    rw[hzero,int32,Int.bmod_def]
    omega

lemma int32_eq {n:Int} (h0:0≤n) (h1:n<2^31) : int32 n=n := by
 rw[int32,Int.bmod_def]
 omega

lemma counted_frame (hc:Counted h) (hdomain:Plausible (.frame subtype flags rest true) h)
 (htimely:Timely (.frame subtype flags rest true) h) : Counted (step (.frame subtype flags rest true) h) := by
 obtain ⟨hlost,hseq⟩:=nLost_frame hc hdomain
 have htotal:h.returned.sum+(step (.frame subtype flags rest true) h).stream.nLost=
  (step (.frame subtype flags rest true) h).missing ∧
  0≤(step (.frame subtype flags rest true) h).stream.nLost ∧
  (step (.frame subtype flags rest true) h).stream.nLost<2^31:=by
  rw[hlost]
  cases hrec:h.received with
  | false=>simp[step,hrec,(hc.fresh hrec).2]
  | true=>
   obtain ⟨hpos,-⟩:=hc.bounds hrec
   have hbound:=htimely hrec
   have hsum:h.returned.sum+h.stream.nLost=h.missing:=hc.total hrec
   rw[if_pos rfl,int32_eq (by omega) hbound]
   simp only[step,hrec,if_true,Int.natCast_add]
   omega
 refine ⟨⟨hc.counts,fun _=>htotal.1⟩,?_,fun _=>htotal.2,fun _=>?_⟩
 · rintro ⟨⟩
 · rw[hseq]
   simp[step]

lemma counted_dropped (hc:Counted h) (subtype flags:UInt8) (rest:List UInt8) :
 Counted (step (.frame subtype flags rest false) h) := by
 refine ⟨⟨hc.counts,hc.total⟩,hc.fresh,hc.bounds,fun hrec=>?_⟩
 simp only[step,hc.next hrec,UInt8.ofNat_add,UInt8.add_assoc]
 rfl

lemma counted_lost (hc:Counted h) (hrec:h.received=true) : Counted (step .lost h) := by
 obtain ⟨hpos,-⟩:=hc.bounds hrec
 refine ⟨⟨fun v hv=>?_,fun _=>?_⟩,fun hno=>?_,fun _=>?_,hc.next⟩
 · rcases mem_cons.1 hv with rfl|hv
   · exact hpos
   · exact hc.counts v hv
 · have hsum:h.returned.sum+h.stream.nLost=h.missing:=hc.total hrec
   simp only[step,openavbAvtpLost,sum_cons]
   omega
 · rw[show (step .lost h).received=h.received from rfl,hrec] at hno
   cases hno
 · exact ⟨Int.le_refl 0,show (0:Int)<2^31 by decide⟩

lemma counted_step (h:History) (hc:Counted h) (hdomain:Plausible event h)
 (htimely:Timely event h) : Counted (step event h) := by
 cases event with
 | lost=>exact counted_lost hc htimely
 | frame subtype flags rest delivered=>
  cases delivered with
  | true=>exact counted_frame hc hdomain htimely
  | false=>exact counted_dropped hc subtype flags rest

lemma timely_of_exact (h:History) (hc:Counted h) (hdomain:Plausible event h)
 (hexact:Exact (step event h)) : Timely event h := by
 cases event with
 | lost=>
  by_contra hno
  have hmarker:(openavbAvtpLost h.stream).1 = -1:=(hc.fresh (Bool.eq_false_iff.2 hno)).1
  have:=hexact.counts _ mem_cons_self
  omega
 | frame subtype flags rest delivered=>
  cases delivered with
  | false=>trivial
  | true=>
   intro hrec
   by_contra hbig
   have hsum:h.returned.sum+h.stream.nLost=h.missing:=hc.total hrec
   have hafter:h.returned.sum+(step (.frame subtype flags rest true) h).stream.nLost=
    (step (.frame subtype flags rest true) h).missing:=hexact.total rfl
   have hlt:int32 (h.stream.nLost+h.dropped)<2^31:=by
    rw[int32,Int.bmod_def]
    omega
   rw[(nLost_frame hc hdomain).1,hrec,if_pos rfl] at hafter
   simp only[step,hrec,if_true,Int.natCast_add] at hafter
   omega

theorem lost_exact_iff_timely (start:UInt8) (events:List Event)
 (hdomain:Along step Plausible events (initial start)) :
 Throughout step Exact events (initial start)↔Along step Timely events (initial start) :=
 throughout_iff_along_within (S:=Counted) (fun _ hc=>hc.toExact) counted_step timely_of_exact
  (counted_initial start) hdomain

def dataFrame (delivered:Bool) : Event := .frame 0x02 0x81 [] delivered

theorem lost_exact_iff_timely_two :
 Throughout step Exact [dataFrame true,dataFrame false,dataFrame true,.lost,dataFrame false,
  dataFrame true,.lost] (initial 254) := (lost_exact_iff_timely 254 _ (by decide +kernel)).2 (by decide +kernel)

/-- The statistics return -1, and count the sequence number of the first frame as losses. -/
theorem lost_before_first_frame : (run step [.lost,dataFrame true,.lost] (initial 7)).returned=[7,-1] ∧
  (run step [.lost,dataFrame true,.lost] (initial 7)).missing=0 := by
 decide +kernel

end OpenAvnu.AvtpRx
