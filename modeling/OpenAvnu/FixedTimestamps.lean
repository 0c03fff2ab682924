import Mathlib.Algebra.Order.Ring.Int
import Mathlib.Tactic.Linarith
import Mathlib.Tactic.LinearCombination
import Mathlib.Tactic.Ring

/-!
# Fixed media-clock timestamps

`openavb_mcs.c`, as the tone generator sets it up. The first advance takes the wall time.
-/

namespace OpenAvnu.FixedTimestamps

structure Mcs where
 firstTimeSet:Bool
 (nsPerAdvance startTime tickCount correctionAmount correctionInterval edgeTime:Int)

structure PvtData where
 fixedTimestampEnabled:Bool
 audioRate:Int
 mcs:Mcs

def openavbMcsInit (nsPerAdvance correctionAmount correctionInterval:Int) : Mcs :=
 ⟨false,nsPerAdvance,0,0,correctionAmount,correctionInterval,0⟩

def openavbMcsAdvance (mcs:Mcs) (walltime:Int) : Mcs :=
 if mcs.firstTimeSet then
  let tickCount:=(mcs.tickCount+1)%2^64
  let edgeTime:=(mcs.edgeTime+mcs.nsPerAdvance)%2^64
  {mcs with
   tickCount:=tickCount
   edgeTime:=if tickCount%mcs.correctionInterval=0 then (edgeTime+mcs.correctionAmount)%2^64
    else edgeTime}
 else if walltime≠0 then
  {mcs with firstTimeSet:=true,startTime:=walltime,edgeTime:=walltime}
 else {mcs with edgeTime:=walltime}

def openavbIntfToneGenEnableFixedTimestamp (enabled:Bool) (framesPerItem:Int)
 (pPvtData:PvtData) : PvtData :=
 let pPvtData:={pPvtData with fixedTimestampEnabled:=enabled}
 if enabled then
  let per:=1000000*framesPerItem*10%2^32
  let rate:=pPvtData.audioRate/100
  let rem:=per%rate
  {pPvtData with mcs:=openavbMcsInit (per/rate) (if rem≠0 then rem*10/rate else rem) 10}
 else pPvtData

/-- The edge time after `k` advances that add `q`, and `c` more at every tenth. -/
def edgeAfter (start q c:Int) (k:Nat) : Int := start+k*q+(k/10:Nat)*c

section
variable {start q c:Int}

lemma edgeAfter_succ (start q c:Int) (k:Nat) : edgeAfter start q c (k+1)=
 edgeAfter start q c k+q+(if (k+1)%10=0 then c else 0) := by
 unfold edgeAfter
 split_ifs with htenth
 · have hcount:(k+1)/10=k/10+1:=by omega
   rw[hcount]
   push_cast
   ring
 · have hcount:(k+1)/10=k/10:=by omega
   rw[hcount]
   push_cast
   ring

lemma edgeAfter_mono (start:Int) (hq:0≤q) (hc:0 ≤ c) (k n:Nat) :
 edgeAfter start q c k≤edgeAfter start q c (k+n) := by
 induction n with
 | zero=>exact le_rfl
 | succ n ih=>
  rw[←Nat.add_assoc,edgeAfter_succ]
  split_ifs<;>omega

lemma advances_edge (hstart:0 ≤ start) (hq:0≤q) (hc:0 ≤ c) (later:List Int) {k:Nat} {mcs:Mcs}
 (hmcs:mcs=⟨true,q,start,k,c,10,edgeAfter start q c k⟩) (hticks:k+later.length<2^64)
 (hfits:edgeAfter start q c (k+later.length)<2^64) :
 (later.foldl openavbMcsAdvance mcs).edgeTime=edgeAfter start q c (k+later.length) := by
 induction later generalizing k mcs with
 | nil=>rw[hmcs];rfl
 | cons walltime later ih=>
  rw[List.length_cons] at *
  have hlow:=edgeAfter_mono start hq hc 0 k
  have hhigh:=edgeAfter_mono start hq hc (k+1) later.length
  have hstep:=edgeAfter_succ start q c k
  have hzero:edgeAfter start q c 0=start:=by simp[edgeAfter]
  rw[Nat.add_assoc,Nat.add_comm 1] at hhigh
  rw[Nat.zero_add] at hlow
  have hnext:openavbMcsAdvance mcs walltime=
    ⟨true,q,start,(k+1:Nat),c,10,edgeAfter start q c (k+1)⟩:=by
   have htick:((k:Int)+1)%2^64=(k+1:Nat):=by omega
   rw[hmcs,openavbMcsAdvance,if_pos rfl]
   simp only[htick]
   split_ifs at hstep ⊢<;>congr<;>omega
  rw[List.foldl_cons,ih hnext (by omega) (by rwa[Nat.add_assoc,Nat.add_comm 1])]
  rw[Nat.add_assoc,Nat.add_comm 1]

end

lemma edge_lag {rate:Int} (hrate:0 < rate) (per start:Int) (k:Nat) :
 0 ≤ rate*start+k*per-rate*edgeAfter start (per/rate) (per%rate*10/rate) k ∧
  10*(rate*start+k*per-rate*edgeAfter start (per/rate) (per%rate*10/rate) k) ≤ rate*(k+90) := by
 have hper:=Int.mul_ediv_add_emod per rate
 have hrem:=Int.mul_ediv_add_emod (per%rate*10) rate
 have hr:=Int.emod_nonneg per hrate.ne'
 have hr':=Int.emod_lt_of_pos per hrate
 have hs:=Int.emod_nonneg (per%rate*10) hrate.ne'
 have hs':=Int.emod_lt_of_pos (per%rate*10) hrate
 generalize per/rate=q at *
 generalize per%rate=r at *
 generalize r*10/rate=c at *
 generalize r*10%rate=s at *
 have hk:(k:Int)=10*(k/10:Nat)+(k%10:Nat):=by omega
 have hj:((k%10:Nat):Int)≤9:=by omega
 unfold edgeAfter
 generalize (k/10:Nat)=d at *
 generalize (k%10:Nat)=j at *
 have hlag:rate*start+k*per-rate*(start+k*q+d*c)=j*r+d*s:=by
  rw[←hper,hk]
  linear_combination -(d:Int)*hrem
 have hjr:(j:Int)*r≤9*rate:=mul_le_mul hj hr'.le hr (by omega)
 have hds:(d:Int)*s≤d*rate:=mul_le_mul_of_nonneg_left hs'.le (Int.natCast_nonneg d)
 have hjr':0≤(j:Int)*r:=mul_nonneg (Int.natCast_nonneg j) hr
 have hds':0≤(d:Int)*s:=mul_nonneg (Int.natCast_nonneg d) hs
 have hjrate:0≤(j:Int)*rate:=mul_nonneg (Int.natCast_nonneg j) hrate.le
 rw[hlag]
 refine ⟨by omega,?_⟩
 rw[hk]
 linarith

section
variable (pPvtData:PvtData) (framesPerItem start:Int)

/-- With `later` advances behind the first, which reads `start`. -/
def fixedClock (later:List Int) : Mcs :=
 let pvt:=openavbIntfToneGenEnableFixedTimestamp true framesPerItem pPvtData
 later.foldl openavbMcsAdvance (openavbMcsAdvance pvt.mcs start)

variable {pPvtData framesPerItem start} {later:List Int}

lemma fixedClock_edge {per rate:Int} (hper:per=1000000*framesPerItem*10%2^32)
 (hrate:rate=pPvtData.audioRate/100) (hpos:0 < rate) (hstart:0<start)
 (hticks:later.length<2^64)
 (hfits:edgeAfter start (per/rate) (per%rate*10/rate) later.length<2^64) :
 (fixedClock pPvtData framesPerItem start later).edgeTime=
  edgeAfter start (per/rate) (per%rate*10/rate) later.length := by
 have hq:0≤per/rate:=Int.ediv_nonneg (by omega) hpos.le
 have hr:=Int.emod_nonneg per hpos.ne'
 have hc:0≤per%rate*10/rate:=Int.ediv_nonneg (by omega) hpos.le
 have hrem:(if per%rate≠0 then per%rate*10/rate else per%rate)=per%rate*10/rate:=by
  split_ifs with hzero
  · rfl
  · rw[not_not.mp hzero,Int.zero_mul,Int.zero_ediv]
 have hfirst:openavbMcsAdvance (openavbIntfToneGenEnableFixedTimestamp true framesPerItem pPvtData).mcs start=
   ⟨true,per/rate,start,(0:Nat),per%rate*10/rate,10,edgeAfter start (per/rate) (per%rate*10/rate) 0⟩:=by
  simp only[openavbIntfToneGenEnableFixedTimestamp,if_true,openavbMcsInit,openavbMcsAdvance,
   Bool.false_eq_true,if_false,if_pos hstart.ne',←hper,←hrate,hrem]
  simp[edgeAfter]
 have hrun:=advances_edge hstart.le hq hc later hfirst (by omega) (by rwa[Nat.zero_add])
 rwa[Nat.zero_add] at hrun

/-- Exactly if the period did not wrap in 32 bits, while the time fits 64 bits. -/
theorem fixed_timestamp_bound_iff (hlow:0<pPvtData.audioRate) (hhigh:pPvtData.audioRate≤192000)
 (hhundreds:pPvtData.audioRate%100=0) (hframes:1≤framesPerItem) (hstart:0<start)
 (hfits:pPvtData.audioRate*start+later.length*(10^9*framesPerItem)<pPvtData.audioRate*2^64) :
 10*|pPvtData.audioRate*((fixedClock pPvtData framesPerItem start later).edgeTime-start)-
  later.length*(10^9*framesPerItem)|≤pPvtData.audioRate*(later.length+100) ↔
 10^7*framesPerItem<2^32 ∨ later=[] := by
 obtain ⟨rate,hrate⟩:∃rate,pPvtData.audioRate=100*rate:=⟨pPvtData.audioRate/100,by omega⟩
 obtain ⟨wraps,hwraps⟩:∃wraps,wraps=1000000*framesPerItem*10/2^32:=⟨_,rfl⟩
 obtain ⟨per,hper⟩:∃per,per=1000000*framesPerItem*10%2^32:=⟨_,rfl⟩
 have hpos:0 < rate:=by omega
 have hperiod:per=10^7*framesPerItem-2^32*wraps:=by omega
 have hw:0≤wraps:=by omega
 have hnw:0≤later.length*wraps:=mul_nonneg (Int.natCast_nonneg _) hw
 have hnf:(later.length:Int)≤later.length*framesPerItem:=
  le_mul_of_one_le_right (Int.natCast_nonneg _) hframes
 obtain ⟨hlag,hlag'⟩:=edge_lag hpos per start later.length
 rw[hrate] at hfits ⊢
 generalize hedge:edgeAfter start (per/rate) (per%rate*10/rate) later.length=edge at *
 have hnper:(later.length:Int)*per=10^7*(later.length*framesPerItem)-2^32*(later.length*wraps):=by
  rw[hperiod]
  ring
 have hedgefits:edge<2^64:=by
  have hscaled:rate*edge < rate*2^64:=by linarith
  exact Int.lt_of_mul_lt_mul_left hscaled hpos.le
 have hticks:later.length<2^64:=by
  have hrs:0 ≤ rate*start:=mul_nonneg hpos.le hstart.le
  have hcast:(later.length:Int)<2^64:=by linarith
  exact_mod_cast hcast
 rw[fixedClock_edge hper (by omega) hpos hstart hticks (by rwa[hedge]),hedge]
 have hlate:100*rate*(edge-start)-later.length*(10^9*framesPerItem)=
   -(100*(rate*start+later.length*per-rate*edge)+100*2^32*(later.length*wraps)):=by
  rw[hperiod]
  ring
 rw[hlate,abs_neg,abs_of_nonneg (by linarith)]
 constructor
 · -- a period that wrapped is short by more than the bound at every advance
   intro hbound
   by_contra hwrapped
   obtain ⟨hlarge,hne⟩:=not_or.mp hwrapped
   have hadvanced:(1:Int)≤later.length:=by
    exact_mod_cast List.length_pos_iff.mpr hne
   have hshort:(later.length:Int)≤later.length*wraps:=
    le_mul_of_one_le_right (Int.natCast_nonneg _) (by omega)
   have hrn:rate*later.length≤1920*later.length:=
    mul_le_mul_of_nonneg_right (by omega) (Int.natCast_nonneg _)
   linarith
 · intro hbound
   have hexact:(later.length:Int)*wraps=0:=by
    rcases hbound with hsmall|hnone
    · have hzero:wraps=0:=by omega
      rw[hzero,mul_zero]
    · rw[hnone,List.length_nil,Nat.cast_zero,zero_mul]
   linarith

end

theorem fixed_timestamp_bound_48000 :
 10*|48000*((fixedClock ⟨false,48000,openavbMcsInit 0 0 0⟩ 6 1000 [0,0,0]).edgeTime-1000)-
  3*(10^9*6)|≤48000*(3+100) := (fixed_timestamp_bound_iff
  (show 0<(PvtData.mk false 48000 (openavbMcsInit 0 0 0)).audioRate by decide) (by decide)
  (by decide) (by decide) (by decide) (by decide)).mpr (.inl (by decide))

theorem fixed_timestamp_wraps :
 let edge:=(fixedClock ⟨false,48000,openavbMcsInit 0 0 0⟩ 430 1000 [0]).edgeTime
 edge=1000+10484 ∧ ¬10*|48000*(edge-1000)-1*(10^9*430)|≤48000*(1+100) := by
 decide

end OpenAvnu.FixedTimestamps
