import OpenAvnu.Timespecs

/-!
# AVTP presentation times

`openavb_avtp_time.c`. A clock that fails reads `none`.
-/

namespace OpenAvnu.AvtpTime

open Timespecs (Timespec)

structure Time where
 (timeNsec maxLatencyNsec:BitVec 64)
 (bTimestampValid bTimestampUncertain:Bool)
 deriving DecidableEq

def xGetNsTime (tmTime:Timespec) : BitVec 64 :=
 BitVec.ofInt 64 tmTime.tvSec*1000000000+BitVec.ofInt 64 tmTime.tvNsec
def xGetTimestamp (timeNsec:BitVec 64) : BitVec 32 := (timeNsec &&& 0xFFFFFFFF).setWidth 32
def maxTsDiff : BitVec 32 := 0x7FFFFFFF
def openavbAvtpTimeCreate (maxLatencyUsec:BitVec 32) : Time where
 timeNsec := 0
 maxLatencyNsec:=maxLatencyUsec.setWidth 64*1000
 bTimestampValid:=false
 bTimestampUncertain:=false
def openavbAvtpTimeAddUSec (uSec:BitVec 64) (t:Time) : Time :=
 {t with timeNsec:=t.timeNsec+uSec*1000}

/-- How far the timestamp is ahead of the clock, both as they are on the wire. -/
def timestampDelta (tsNow timestamp:BitVec 32) : BitVec 32 :=
 if tsNow<timestamp then timestamp-tsNow
 else if timestamp<tsNow then
  (timestamp.setWidth 64+(0x100000000-tsNow.setWidth 64)).setWidth 32
 else 0

/-- A timestamp that is not ahead by less than half of the range is past. -/
def timeAt (nsNow:BitVec 64) (delta:BitVec 32) : BitVec 64 :=
 if delta < maxTsDiff then nsNow+delta.setWidth 64 else nsNow-(0x100000000-delta.setWidth 64)

def openavbAvtpTimeSetToTimestamp (tmNow:Option Timespec) (timestamp:BitVec 32) (t:Time) : Time :=
 match tmNow with
 | some tmNow=>
  let nsNow:=xGetNsTime tmNow
  {t with
    timeNsec:=timeAt nsNow (timestampDelta (xGetTimestamp nsNow) timestamp)
    bTimestampValid:=true
    bTimestampUncertain:=false}
 | none=>{t with bTimestampValid:=false,bTimestampUncertain:=true}

def openavbAvtpTimeGetAvtpTimestamp (t:Time) : BitVec 32 := xGetTimestamp t.timeNsec
def openavbAvtpTimeIsPastTime (t:Time) (nSecTime:BitVec 64) : Bool :=
 if !t.bTimestampValid||t.bTimestampUncertain then true
 else if nSecTime ≥ t.timeNsec then true
 else decide (nSecTime+t.maxLatencyNsec<t.timeNsec)
def openavbAvtpTimeIsPast (tmNow:Option Timespec) (t:Time) : Bool :=
 if !t.bTimestampValid||t.bTimestampUncertain then true
 else match tmNow with
  | some tmNow=>openavbAvtpTimeIsPastTime t (xGetNsTime tmNow)
  | none=>true

def openavbAvtpTimeUsecTill (tmNow:Option Timespec) (t:Time) : Option (BitVec 32) :=
 if t.bTimestampValid&&!t.bTimestampUncertain then
  match tmNow with
  | some tmNow=>
   let nsNow:=xGetNsTime tmNow
   if t.timeNsec ≥ nsNow then
    let usecTill:=((t.timeNsec-nsNow)/1000).setWidth 32
    if usecTill≤5000000 then some usecTill else none
   else some 0
  | none=>some 0
 else some 0

lemma xGetTimestamp_toNat (timeNsec:BitVec 64) : (xGetTimestamp timeNsec).toNat=timeNsec.toNat%2^32 := by
 have hmask:timeNsec.toNat &&& (0xFFFFFFFF:BitVec 64).toNat=timeNsec.toNat%2^32:=
  Nat.and_two_pow_sub_one_eq_mod timeNsec.toNat 32
 rw[xGetTimestamp,BitVec.toNat_setWidth,BitVec.toNat_and,hmask,Nat.mod_mod]

lemma timestampDelta_toNat (tsNow timestamp:BitVec 32) :
 (timestampDelta tsNow timestamp).toNat=(timestamp.toNat+(2^32-tsNow.toNat))%2^32 := by
 simp only[timestampDelta,BitVec.lt_def]
 split_ifs with hless hmore
 · bv_omega
 · bv_omega
 · bv_omega

variable {nsNow time:BitVec 64} {t:Time}

lemma timeAt_timestampDelta (htime:time.toNat<2^63) (hclock:2^32≤nsNow.toNat)
 (hbound:nsNow.toNat<2^63) (hlow:nsNow.toNat≤time.toNat+(2^31+1))
 (hhigh:time.toNat<nsNow.toNat+(2^31-1)) :
 timeAt nsNow (timestampDelta (xGetTimestamp nsNow) (xGetTimestamp time))=time := by
 have hdelta:=timestampDelta_toNat (xGetTimestamp nsNow) (xGetTimestamp time)
 rw[xGetTimestamp_toNat,xGetTimestamp_toNat] at hdelta
 generalize timestampDelta (xGetTimestamp nsNow) (xGetTimestamp time)=delta at hdelta ⊢
 rw[timeAt,maxTsDiff]
 split_ifs with hahead
 · bv_omega
 · bv_omega

lemma isPastTime_iff (hvalid:t.bTimestampValid=true)
 (hcertain:t.bTimestampUncertain=false) (htime:t.timeNsec.toNat<2^63)
 (hlatency:t.maxLatencyNsec.toNat<2^63) (nSecTime:BitVec 64) : openavbAvtpTimeIsPastTime t nSecTime=false ↔
  nSecTime.toNat<t.timeNsec.toNat ∧
   t.timeNsec.toNat≤nSecTime.toNat+t.maxLatencyNsec.toNat := by
 simp only[openavbAvtpTimeIsPastTime,hvalid,hcertain,Bool.not_true,Bool.or_self,Bool.false_eq_true,
  if_false,ge_iff_le,BitVec.le_def]
 split_ifs with hreached
 · simp only[false_iff]
   omega
 · -- below 2^63 the sum does not wrap
   have hsum:(nSecTime+t.maxLatencyNsec).toNat=nSecTime.toNat+t.maxLatencyNsec.toNat:=by
    rw[BitVec.toNat_add,Nat.mod_eq_of_lt (by omega)]
   rw[decide_eq_false_iff_not,BitVec.lt_def,hsum]
   omega

lemma usecTill_value (hahead:nsNow.toNat≤time.toNat)
 (hsoon:time.toNat<nsNow.toNat+(2^31-1)) :
 (((time-nsNow)/1000).setWidth 32).toNat=(time.toNat-nsNow.toNat)/1000 := by
 have hdiv:((time-nsNow)/1000).toNat=(time.toNat-nsNow.toNat)/1000:=by
  rw[BitVec.toNat_udiv,BitVec.toNat_sub_of_le hahead]
  rfl
 rw[BitVec.toNat_setWidth,hdiv]
 exact Nat.mod_eq_of_lt (by omega)

lemma usecTill_eq (hvalid:t.bTimestampValid=true) (hcertain:t.bTimestampUncertain=false)
 {tmNow:Timespec} (hsoon:t.timeNsec.toNat<(xGetNsTime tmNow).toNat+(2^31-1)) :
 (openavbAvtpTimeUsecTill (some tmNow) t).map BitVec.toNat=
  some (if (xGetNsTime tmNow).toNat≤t.timeNsec.toNat then
   (t.timeNsec.toNat-(xGetNsTime tmNow).toNat)/1000 else 0) := by
 simp only[openavbAvtpTimeUsecTill,hvalid,hcertain,Bool.not_false,Bool.and_self,if_true,ge_iff_le,BitVec.le_def]
 split_ifs with hahead hsmall
 · rw[Option.map_some,usecTill_value hahead hsoon]
 · -- five seconds are more than half of the wire's range
   rw[usecTill_value hahead hsoon] at hsmall
   exact absurd (show _≤5000000 by omega) hsmall
 · rfl

lemma create_maxLatencyNsec (maxLatencyUsec:BitVec 32) :
 (openavbAvtpTimeCreate maxLatencyUsec).maxLatencyNsec.toNat=maxLatencyUsec.toNat*1000 := by
 have hthousand:(1000:BitVec 64).toNat=1000:=rfl
 rw[openavbAvtpTimeCreate,BitVec.toNat_mul,BitVec.toNat_setWidth,hthousand,
  Nat.mod_eq_of_lt (by omega),Nat.mod_eq_of_lt (by omega)]

/-- Within half of the wire's range of the listener's clock. -/
theorem presentation_time_survives {talker t:Time} {tmNow tmLater:Timespec}
 (hcreated:∃maxLatencyUsec,t.maxLatencyNsec=(openavbAvtpTimeCreate
   maxLatencyUsec).maxLatencyNsec)
 (htime:2^32≤talker.timeNsec.toNat ∧ talker.timeNsec.toNat<2^63)
 (hclock:2^32≤(xGetNsTime tmNow).toNat ∧ (xGetNsTime tmNow).toNat<2^63)
 (hlow:(xGetNsTime tmNow).toNat≤talker.timeNsec.toNat+(2^31+1))
 (hhigh:talker.timeNsec.toNat<(xGetNsTime tmNow).toNat+(2^31-1))
 (hlater:(xGetNsTime tmNow).toNat≤(xGetNsTime tmLater).toNat) :
 let restored:=openavbAvtpTimeSetToTimestamp (some tmNow) (openavbAvtpTimeGetAvtpTimestamp talker) t
 let T:=talker.timeNsec.toNat
 let n:=(xGetNsTime tmLater).toNat
 restored.timeNsec=talker.timeNsec ∧
  (openavbAvtpTimeIsPast (some tmLater) restored=false ↔
   n<T ∧ T≤n+restored.maxLatencyNsec.toNat) ∧
  (openavbAvtpTimeIsPastTime restored (xGetNsTime tmLater)=false ↔
   n<T ∧ T≤n+restored.maxLatencyNsec.toNat) ∧
  (openavbAvtpTimeUsecTill (some tmLater) restored).map BitVec.toNat=some (if n≤T then (T-n)/1000 else 0) := by
 have hsoon:talker.timeNsec.toNat<(xGetNsTime tmLater).toNat+(2^31-1):=by omega
 obtain ⟨maxLatencyUsec,hmax⟩:=hcreated
 have hlatency:t.maxLatencyNsec.toNat<2^63:=by
  rw[hmax,create_maxLatencyNsec]
  omega
 have hrestored:openavbAvtpTimeSetToTimestamp (some tmNow) (openavbAvtpTimeGetAvtpTimestamp
   talker) t=⟨talker.timeNsec,t.maxLatencyNsec,true,false⟩:=by
  simp only[openavbAvtpTimeSetToTimestamp,openavbAvtpTimeGetAvtpTimestamp,
   timeAt_timestampDelta htime.2 hclock.1 hclock.2 hlow hhigh]
 intro restored T n
 have hfields:restored=⟨talker.timeNsec,t.maxLatencyNsec,true,false⟩:=hrestored
 have hvalid:restored.bTimestampValid=true:=by rw[hfields]
 have hcertain:restored.bTimestampUncertain=false:=by rw[hfields]
 have hsame:restored.timeNsec=talker.timeNsec:=by rw[hfields]
 have hkept:restored.maxLatencyNsec=t.maxLatencyNsec:=by rw[hfields]
 have hpast:=isPastTime_iff hvalid hcertain (by rw[hsame];exact htime.2)
  (by rw[hkept];exact hlatency) (xGetNsTime tmLater)
 have htill:=usecTill_eq hvalid hcertain (by rw[hsame];exact hsoon)
 have hisPast:openavbAvtpTimeIsPast (some tmLater) restored=
  openavbAvtpTimeIsPastTime restored (xGetNsTime tmLater):=by
  simp[openavbAvtpTimeIsPast,hvalid,hcertain]
 rw[hsame] at hpast htill
 rw[hisPast]
 exact ⟨hsame,hpast,hpast,htill⟩

theorem presentation_time_survives_wrap : (openavbAvtpTimeSetToTimestamp (some ⟨21,474836430⟩)
  (openavbAvtpTimeGetAvtpTimestamp ⟨21474846480,0,true,false⟩) (openavbAvtpTimeCreate
    5)).timeNsec=21474846480 ∧
 (openavbAvtpTimeUsecTill (some ⟨21,474836500⟩)
  (openavbAvtpTimeSetToTimestamp (some ⟨21,474836430⟩)
   (openavbAvtpTimeGetAvtpTimestamp ⟨21474846480,0,true,false⟩)
   (openavbAvtpTimeCreate 5))).map BitVec.toNat=some 9 := by
 obtain ⟨htime,-,-,htill⟩:=@presentation_time_survives ⟨21474846480,0,true,false⟩
  (openavbAvtpTimeCreate 5) ⟨21,474836430⟩ ⟨21,474836500⟩ ⟨5,rfl⟩ (by decide) (by decide)
    (by decide)
  (by decide) (by decide)
 exact ⟨htime,htill.trans (by decide)⟩

end OpenAvnu.AvtpTime
