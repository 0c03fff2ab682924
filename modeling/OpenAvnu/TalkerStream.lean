import Mathlib.Algebra.Group.Nat.Defs
import OpenAvnu.TalkerTx

/-!
# Pacing and statistics of a talker

`openavb_talker.c` over any raw socket, without the late count.
-/

namespace OpenAvnu.TalkerStream

open TalkerTx Runs List

structure Cfg where
 (wakeRate wakeFrames:Nat)
 txBlockingInIntf:Bool
 (maxTransmitDeficitUsec reportSeconds reportFrames:Nat)

/-- What `openavbAvtpTx` meets: a transmit buffer, a header it can fill, and the mapping's answer. -/
structure Call where
 (pBuf header:Bool)
 txCBResult:TxCbRet
 avtpFrameLen:Nat
 bPause:Bool

/-- The sleep ends at `wokeNS`, and the clock is read at `nowNS` behind the frames. -/
structure Wake where
 (wokeNS nowNS:Nat)
 calls:Nat → Call

/-- `dangling`: `avtpHandle` leads to a freed stream. From `wakes` on: since the last start. -/
structure Talker where
 (bStreaming dangling:Bool)
 (nextCycleNS nextReportNS lastReportFrames cntWakes cntFrames bytes totalCalls totalFrames totalBytes wakes
  handed handedBytes:Nat)

def initial : Talker := ⟨false,false,0,0,0,0,0,0,0,0,0,0,0,0⟩

variable (cfg:Cfg)

def Cfg.intervalNS : Nat := 10^9/cfg.wakeRate

/-- `talkerStartStream` replaces a deficit of 0. -/
def Cfg.deficitUsec : Nat :=
 if cfg.maxTransmitDeficitUsec=0 then 50000 else cfg.maxTransmitDeficitUsec
def Cfg.align (nowNS:Nat) : Nat := (nowNS+cfg.intervalNS)/cfg.intervalNS*cfg.intervalNS

def talkerStartStream (opened:Bool) (nowNS:Nat) (t:Talker) : Talker :=
 -- `assert(!pTLState->bStreaming)`
 if t.bStreaming then t
 -- `openavbAvtpTxInit` clears the handle first
 else if !opened then {t with dangling:=false}
 else {initial with
  bStreaming:=true
  nextCycleNS:=cfg.align nowNS+cfg.intervalNS
  nextReportNS:=cfg.align nowNS+cfg.reportSeconds*10^9}

/-- Whether a frame is handed to the raw socket, and the bytes that are counted. -/
def openavbAvtpTx (c:Call) : Bool×Nat :=
 if c.pBuf&&c.header then
  (decide (c.txCBResult ≠ .packetNotReady)&&!c.bPause,
   if cfg.txBlockingInIntf&&decide (c.txCBResult=.packetNotReady) then 0 else c.avtpFrameLen)
 else (false,0)

def transmit (c:Call) (t:Talker) : Talker :=
 let tx:=openavbAvtpTx cfg c
 if tx.1 then {t with
  bytes:=t.bytes+tx.2
  cntFrames:=t.cntFrames+1
  handed:=t.handed+1
  handedBytes:=t.handedBytes+c.avtpFrameLen}
 else {t with bytes:=t.bytes+tx.2}

def sendFrames (calls:Nat → Call) : Nat → Talker → Talker
 | 0, t=>t
 | i+1, t=>
  let t:=transmit cfg (calls (i+1)) t
  if (openavbAvtpTx cfg (calls (i+1))).1 then sendFrames calls i t else t
def talkerShowStats (t:Talker) : Talker :=
 {t with totalBytes:=t.totalBytes+t.bytes,bytes:=0}

def report (nowNS:Nat) (t:Talker) : Talker :=
 if 0<cfg.reportSeconds then
  if t.nextReportNS<nowNS then {talkerShowStats t with
   totalCalls:=t.totalCalls+t.cntWakes
   totalFrames:=t.totalFrames+t.cntFrames
   cntFrames:=0
   cntWakes:=0
   nextReportNS:=nowNS+cfg.reportSeconds*10^9}
  else t
 else if 0<cfg.reportFrames ∧ t.cntFrames≠t.lastReportFrames ∧
  t.cntFrames%cfg.reportFrames=1 then
  {talkerShowStats t with lastReportFrames:=t.cntFrames}
 else t

def pace (nowNS:Nat) (t:Talker) : Talker :=
 let next:=t.nextCycleNS+cfg.intervalNS
 -- the deficit is multiplied as a 32-bit number
 {t with nextCycleNS:=if next+cfg.deficitUsec*1000%2^32<nowNS then
   cfg.align nowNS+cfg.intervalNS else next}
def sendInterval (calls:Nat → Call) (t:Talker) : Talker :=
 if cfg.txBlockingInIntf then transmit cfg (calls 1) t
 else sendFrames cfg calls cfg.wakeFrames t

def talkerDoStream (w:Wake) (t:Talker) : Talker :=
 if t.bStreaming then
  let t:=sendInterval cfg w.calls t
  let t:=report cfg w.nowNS {t with cntWakes:=t.cntWakes+1,wakes:=t.wakes+1}
  if cfg.txBlockingInIntf then t else pace cfg w.nowNS t
 else t

/-- `stale` is what the memory of a freed stream holds for its count. -/
def talkerStopStream (stale:Nat) (t:Talker) : Talker :=
 {t with
  totalCalls:=t.totalCalls+t.cntWakes
  totalFrames:=t.totalFrames+t.cntFrames
  totalBytes:=t.totalBytes+(if t.bStreaming then t.bytes else if t.dangling then stale else 0)
  bytes:=0
  bStreaming:=false
  dangling:=t.bStreaming||t.dangling}

inductive Input where
 | start (opened:Bool) (nowNS:Nat)
 | wake (w:Wake)
 | stop (stale:Nat)

def step : Input → Talker → Talker
 | .start opened nowNS=>talkerStartStream cfg opened nowNS
 | .wake w=>talkerDoStream cfg w
 | .stop stale=>talkerStopStream stale

/-- At most `n` frames are handed over within the cycle, and `waste` bytes counted besides theirs.
-/
structure Sends (n waste:Nat) (t t':Talker) : Prop where
 streaming:t'.bStreaming=t.bStreaming
 cycle:t'.nextCycleNS=t.nextCycleNS
 handed:t'.handed≤t.handed+n
 calls:t'.totalCalls+t'.cntWakes+t.wakes=t.totalCalls+t.cntWakes+t'.wakes
 frames:t'.totalFrames+t'.cntFrames+t.handed=t.totalFrames+t.cntFrames+t'.handed
 bytes:t'.totalBytes+t'.bytes+t.handedBytes=t.totalBytes+t.bytes+t'.handedBytes+waste

def Call.Handed (c:Call) : Prop := c.pBuf=true ∧ c.header=true ∧ c.txCBResult ≠ .packetNotReady ∧ c.bPause=false

/-- The bytes of a frame are counted that is not handed over. -/
def Call.Miscounted (cfg:Cfg) (c:Call) : Prop := c.pBuf=true ∧ c.header=true ∧ c.avtpFrameLen≠0 ∧
 if c.txCBResult=.packetNotReady then cfg.txBlockingInIntf=false else c.bPause=true

/-- Of the calls from `n` down those are made that no call in front of them keeps from it. -/
def AllCounted (cfg:Cfg) (calls:Nat → Call) (n:Nat) : Prop := ∀i,0 < i → i ≤ n →
 (∀j,i < j → j≤n → (calls j).Handed) → ¬(calls i).Miscounted cfg

variable {cfg} {t:Talker}

lemma Sends.trans {n m waste waste':Nat} {t' t'':Talker} (h:Sends n waste t t')
 (h':Sends m waste' t' t'') : Sends (m+n) (waste'+waste) t t'' := by
 obtain ⟨hs,hc,hh,hcalls,hframes,hbytes⟩:=h
 obtain ⟨hs',hc',hh',hcalls',hframes',hbytes'⟩:=h'
 exact ⟨hs'.trans hs,hc'.trans hc,by omega,by omega,by omega,by omega⟩

lemma openavbAvtpTx_handed (c:Call) : (openavbAvtpTx cfg c).1=true ↔ c.Handed := by
 unfold openavbAvtpTx Call.Handed
 split_ifs with hcall<;>simp_all

lemma openavbAvtpTx_counted {c:Call} (h:¬c.Handed) : (openavbAvtpTx cfg c).2=0 ↔ ¬c.Miscounted cfg := by
 unfold openavbAvtpTx Call.Miscounted
 unfold Call.Handed at h
 split_ifs with hcall<;>simp_all

lemma transmit_sends (c:Call) (t:Talker) : ∃waste,Sends 1 waste t (transmit cfg c t) ∧
 (waste=0 ↔ ¬c.Miscounted cfg) := by
 by_cases h:c.Handed
 · have hnot:¬c.Miscounted cfg:=by
    rintro ⟨-,-,-,hpaused⟩
    rw[if_neg h.2.2.1,h.2.2.2] at hpaused
    cases hpaused
   have hcounted:(openavbAvtpTx cfg c).2=c.avtpFrameLen:=by
    simp[openavbAvtpTx,h.1,h.2.1,h.2.2.1]
   refine ⟨0,?_,iff_of_true rfl hnot⟩
   rw[transmit,if_pos ((openavbAvtpTx_handed c).2 h),hcounted]
   exact ⟨rfl,rfl,Nat.le_refl _,rfl,by dsimp only;omega,by dsimp only;omega⟩
 · refine ⟨(openavbAvtpTx cfg c).2,?_,openavbAvtpTx_counted h⟩
   rw[transmit,if_neg (mt (openavbAvtpTx_handed c).1 h)]
   exact ⟨rfl,rfl,Nat.le_succ _,rfl,rfl,by dsimp only;omega⟩

lemma allCounted_succ {calls:Nat → Call} {n:Nat} : AllCounted cfg calls (n+1) ↔
 ¬(calls (n+1)).Miscounted cfg ∧ ((calls (n+1)).Handed → AllCounted cfg calls n) := by
 constructor
 · intro h
   refine ⟨h (n+1) (Nat.succ_pos n) (Nat.le_refl _) (by omega),fun hfirst i hi hle hmade=>?_⟩
   refine h i hi (Nat.le_succ_of_le hle) fun j hj hjn=>?_
   rcases Nat.le_succ_iff.1 hjn with hjn|rfl
   · exact hmade j hj hjn
   · exact hfirst
 · rintro ⟨hfirst,hrest⟩ i hi hle hmade
   rcases Nat.le_succ_iff.1 hle with hle|rfl
   · have hnext:=hmade (n+1) (Nat.lt_succ_of_le hle) (Nat.le_refl _)
     exact hrest hnext i hi hle fun j hj hjn=>hmade j hj (Nat.le_succ_of_le hjn)
   · exact hfirst

lemma allCounted_zero (calls:Nat → Call) : AllCounted cfg calls 0 := fun i hi hle=>by omega

lemma sendFrames_sends (calls:Nat → Call) (i:Nat) (t:Talker) :
 ∃waste,Sends i waste t (sendFrames cfg calls i t) ∧ (waste=0 ↔ AllCounted cfg calls i) := by
 induction i generalizing t with
 | zero=>exact ⟨0,⟨rfl,rfl,Nat.le_refl _,rfl,rfl,rfl⟩,iff_of_true rfl (allCounted_zero calls)⟩
 | succ i ih=>
  obtain ⟨waste,hfirst,hwaste⟩:=@transmit_sends cfg (calls (i+1)) t
  rw[sendFrames,allCounted_succ]
  split_ifs with htx
  · obtain ⟨waste',hrest,hwaste'⟩:=ih (transmit cfg (calls (i+1)) t)
    refine ⟨_,hfirst.trans hrest,?_⟩
    rw[Nat.add_eq_zero_iff,hwaste,hwaste',forall_prop_of_true ((openavbAvtpTx_handed _).1 htx),and_comm]
  · refine ⟨waste,{hfirst with handed:=Nat.le_trans hfirst.handed (by omega)},?_⟩
    rw[hwaste,and_iff_left fun h=>absurd ((openavbAvtpTx_handed _).2 h) htx]

lemma report_sends (nowNS:Nat) (t:Talker) : Sends 0 0 t (report cfg nowNS t) := by
 unfold report talkerShowStats
 split_ifs<;>exact ⟨rfl,rfl,Nat.le_refl _,rfl,rfl,rfl⟩
def Cfg.rounds (cfg:Cfg) : Nat := if cfg.txBlockingInIntf then 1 else cfg.wakeFrames

lemma talkerDoStream_sends (w:Wake) (h:t.bStreaming=true) : ∃t' waste,Sends cfg.rounds waste t t' ∧
 (waste=0 ↔ AllCounted cfg w.calls cfg.rounds) ∧
  talkerDoStream cfg w t=if cfg.txBlockingInIntf then t' else pace cfg w.nowNS t' := by
 have hsent:∃waste,Sends cfg.rounds waste t (sendInterval cfg w.calls t) ∧
  (waste=0 ↔ AllCounted cfg w.calls cfg.rounds):=by
  unfold sendInterval Cfg.rounds
  split_ifs
  · obtain ⟨waste,hone,hwaste⟩:=@transmit_sends cfg (w.calls 1) t
    refine ⟨waste,hone,hwaste.trans ?_⟩
    rw[allCounted_succ,and_iff_left fun _=>allCounted_zero w.calls]
  · exact sendFrames_sends _ _ t
 obtain ⟨waste,hsent,hwaste⟩:=hsent
 unfold talkerDoStream
 rw[if_pos h]
 refine ⟨_,waste,?_,hwaste,rfl⟩
 generalize sendInterval cfg w.calls t=t' at hsent ⊢
 have hwoken:Sends cfg.rounds waste t {t' with cntWakes:=t'.cntWakes+1,wakes:=t'.wakes+1}:=
  {hsent with calls:=by have:=hsent.calls;dsimp only;omega}
 have hreported:=hwoken.trans (@report_sends cfg w.nowNS _)
 rwa[Nat.zero_add,Nat.zero_add] at hreported

/-! ## Statistics -/

def Exact (t:Talker) : Prop := t.totalCalls=t.wakes ∧ t.totalFrames=t.handed ∧ t.totalBytes=t.handedBytes

/-- The statistics once the stream that runs has been stopped. -/
def settle (t:Talker) : Talker := if t.bStreaming then talkerStopStream 0 t else t
def Least (t:Talker) : Prop := t.wakes≤(settle t).totalCalls ∧ t.handed≤(settle t).totalFrames ∧
 t.handedBytes≤(settle t).totalBytes

/-- A wake-up counts the bytes it hands over only; a later stop finds nothing to report in the freed
memory. -/
def Sound (cfg:Cfg) : Input → Talker → Prop
 | .start _ _, _=>True
 | .wake w, t=>t.bStreaming=true → AllCounted cfg w.calls cfg.rounds
 | .stop stale, t=>t.bStreaming=false →
  t.cntWakes=0 ∧ t.cntFrames=0 ∧ (t.dangling=true → stale=0)

lemma settle_on (h:t.bStreaming=true) : settle t=talkerStopStream 0 t := if_pos h
lemma settle_off (h:t.bStreaming=false) : settle t=t := if_neg (by simp[h])

lemma stop_exact (stale:Nat) (h:Least t) : Least (talkerStopStream stale t) ∧
 (Exact (talkerStopStream stale t)↔Exact (settle t) ∧ Sound cfg (.stop stale) t) := by
 have hoff:(talkerStopStream stale t).bStreaming=false:=rfl
 rw[Least,settle_off hoff]
 cases hstream:t.bStreaming with
 | true=>
  rw[Least,settle_on hstream] at h
  simp only[settle_on hstream,talkerStopStream,Exact,Sound,hstream] at h ⊢
  exact ⟨h,(and_iff_left (by simp)).symm⟩
 | false=>
  rw[Least,settle_off hstream] at h
  cases hdangling:t.dangling <;>
   simp[settle_off hstream,talkerStopStream,Exact,Sound,hstream,hdangling]<;>omega

lemma wake_exact (w:Wake) (h:Least t) : Least (talkerDoStream cfg w t) ∧
 (Exact (settle (talkerDoStream cfg w t))↔Exact (settle t) ∧ Sound cfg (.wake w) t) := by
 by_cases hstream:t.bStreaming=true
 · obtain ⟨t',waste,⟨hs,-,-,hcalls,hframes,hbytes⟩,hwaste,heq⟩:=@talkerDoStream_sends cfg t w hstream
   have hon:t'.bStreaming=true:=hs.trans hstream
   have hpaced:(pace cfg w.nowNS t').bStreaming=true:=hon
   rw[Least,settle_on hstream] at h
   simp only[talkerStopStream,hstream,if_true] at h
   rw[heq,Sound,forall_prop_of_true hstream,← hwaste,settle_on hstream]
   split_ifs
   · rw[Least,settle_on hon]
     simp only[talkerStopStream,Exact,hstream,hon,if_true]
     omega
   · rw[Least,settle_on hpaced]
     simp only[talkerStopStream,Exact,hstream,hon,if_true,pace]
     omega
 · rw[talkerDoStream,if_neg hstream]
   exact ⟨h,(and_iff_left fun hon=>absurd hon hstream).symm⟩

lemma step_exact (input:Input) (t:Talker) (hinput:∀n,input ≠ .start true n) (h:Least t) :
 Least (step cfg input t) ∧
  (Exact (settle (step cfg input t))↔Exact (settle t) ∧ Sound cfg input t) := by
 cases input with
 | start opened nowNS=>
  cases opened with
  | true=>exact absurd rfl (hinput nowNS)
  | false=>
   have hkept:∃dangling,step cfg (.start false nowNS) t={t with dangling:=dangling}:=by
    simp only[step,talkerStartStream]
    split_ifs
    · exact ⟨_,rfl⟩
    · exact ⟨_,rfl⟩
    · contradiction
   obtain ⟨dangling,heq⟩:=hkept
   rw[heq]
   cases hstream:t.bStreaming<;>simp_all[Least,settle,talkerStopStream,Exact,Sound]
 | stop stale=>
  have hoff:(talkerStopStream stale t).bStreaming=false:=rfl
  rw[step,settle_off hoff]
  exact stop_exact stale h
 | wake w=>exact wake_exact w h

/-- Behind a stop, exactly if every wake-up and stop since the last start was sound. -/
theorem stop_exact_iff (cfg:Cfg) (earlier later:List Input) (nowNS stale:Nat)
 (hidle:(run (step cfg) earlier initial).bStreaming=false)
 (hlater:∀input∈later,∀n,input ≠ .start true n) :
 (Exact (run (step cfg) (later++[.stop stale]) initial) ↔
  Along (step cfg) (Sound cfg) (later++[.stop stale]) initial) ∧
 (Exact (run (step cfg) (earlier++.start true nowNS::(later++[.stop stale])) initial) ↔
  Along (step cfg) (Sound cfg) (later++[.stop stale]) (talkerStartStream cfg true nowNS initial)) := by
 have hinputs:∀input∈later++[.stop stale],∀n,input ≠ .start true n:=by
  intro input hinput
  rcases mem_append.1 hinput with hinput|hinput
  · exact hlater input hinput
  · rw[mem_singleton.1 hinput]
    exact nofun
 have hrun:∀t,Least t → Exact (settle t) → (Exact (run (step cfg) (later++[.stop stale]) t) ↔
  Along (step cfg) (Sound cfg) (later++[.stop stale]) t):=by
  intro t hleast hexact
  have hoff:(run (step cfg) (later++[.stop stale]) t).bStreaming=false:=by
   rw[run_append]
   rfl
  have hiff:=run_iff_along (P:=fun t=>Exact (settle t)) (@step_exact cfg) hinputs hleast
  rwa[settle_off hoff,and_iff_right hexact] at hiff
 have hstart:step cfg (.start true nowNS) (run (step cfg) earlier initial)=
  talkerStartStream cfg true nowNS initial:=by
  rw[step,talkerStartStream,if_neg (by simp[hidle])]
  rfl
 refine ⟨hrun initial ⟨Nat.le_refl _,Nat.le_refl _,Nat.le_refl _⟩ ⟨rfl,rfl,rfl⟩,?_⟩
 rw[run_append,run,hstart]
 exact hrun _ ⟨Nat.le_refl _,Nat.le_refl _,Nat.le_refl _⟩ ⟨rfl,rfl,rfl⟩

def classA : Cfg := ⟨8000,1,false,0,0,0⟩
def wakeOf (result:TxCbRet) : Wake := ⟨250000,250001,fun _=>⟨true,true,result,100,false⟩⟩
def reporting : Cfg := {classA with reportSeconds:=1}
def lateWake : Wake := ⟨250000,2000000000,fun _=>⟨true,true,.packetReady,100,false⟩⟩

theorem stop_exact_reported : Exact (run (step reporting)
 ([.start true 0,.wake (wakeOf .packetNotReady),.stop 0]++.start true 0::([.wake lateWake,.stop 0]++[.stop 0]))
 initial) := by
 have hfilled:AllCounted reporting lateWake.calls reporting.rounds:=by
  rintro i - - - ⟨-,-,-,hpaused⟩
  cases hpaused
 have hlater:∀input∈[Input.wake lateWake,.stop 0],∀n,input ≠ .start true n:=by simp
 refine (stop_exact_iff reporting [.start true 0,.wake (wakeOf .packetNotReady),.stop 0]
  [.wake lateWake,.stop 0] 0 0 rfl hlater).2.2 ⟨fun _=>hfilled,nofun,fun _=>?_,trivial⟩
 exact ⟨rfl,rfl,fun _=>rfl⟩

/-- A frame that the mapping does not fill is counted, and a second stop counts again. -/
theorem statistics_inexact :
 (run (step classA) [.start true 0,.wake (wakeOf .packetNotReady),.stop 0] initial).totalBytes=100 ∧
 (run (step classA) [.start true 0,.wake (wakeOf .packetReady),.stop 0,.stop 0] initial).totalCalls=2 := by
 decide

/-! ## Pacing -/

/-- The sleep does not end before its target, and the clock does not go back. -/
def Sleeps (w:Wake) (t:Talker) : Prop := t.nextCycleNS≤w.wokeNS ∧ w.wokeNS≤w.nowNS

section
variable (hI:0<cfg.intervalNS)
include hI

lemma lt_align (nowNS:Nat) : nowNS<cfg.align nowNS := by
 rw[Cfg.align,Nat.add_div_right _ hI,Nat.mul_comm]
 exact Nat.lt_mul_div_succ nowNS hI

variable (hblock:cfg.txBlockingInIntf=false) (h:t.bStreaming=true)
include hblock h

lemma cycle_step (w:Wake) :
 let t':=talkerDoStream cfg w t
 t'.bStreaming=true ∧ t.nextCycleNS+cfg.intervalNS≤t'.nextCycleNS ∧
  w.nowNS≤t'.nextCycleNS+cfg.deficitUsec*1000 ∧
  (cfg.intervalNS∣t.nextCycleNS → cfg.intervalNS∣t'.nextCycleNS) ∧
  t'.handed≤t.handed+cfg.wakeFrames := by
 obtain ⟨t',waste,hsends,-,heq⟩:=@talkerDoStream_sends cfg t w h
 have hhanded:=hsends.handed
 have halign:=lt_align hI w.nowNS
 simp only[hblock,Cfg.rounds,Bool.false_eq_true,if_false] at heq hhanded
 simp only[heq,pace,hsends.cycle]
 refine ⟨hsends.streaming.trans h,?_,?_,fun hdvd=>?_,hhanded⟩
 · split_ifs<;>omega
 · split_ifs<;>omega
 · split_ifs
   · exact Nat.dvd_add (Nat.dvd_mul_left ..) (Nat.dvd_refl _)
   · exact Nat.dvd_add hdvd (Nat.dvd_refl _)

variable {wakes:List Wake} (hsleep:Along (talkerDoStream cfg) Sleeps wakes t)
include hsleep

lemma early_wakes (last:Nat) : wakes.countP (fun w=>decide (w.wokeNS≤last))*cfg.intervalNS ≤
  last+cfg.intervalNS-t.nextCycleNS := by
 induction wakes generalizing t with
 | nil=>simp
 | cons w wakes ih=>
  obtain ⟨hstream,hgrows,-⟩:=cycle_step hI hblock h w
  have htail:=ih hstream hsleep.2
  have htarget:=hsleep.1.1
  rw[countP_cons,Nat.add_mul]
  by_cases hw:w.wokeNS≤last
  · simp only[hw,decide_true,if_true,Nat.one_mul]
    omega
  · simp only[hw,decide_false,Bool.false_eq_true,if_false,Nat.zero_mul]
    omega

lemma wakes_within {first last:Nat} (hle:first≤last) :
 wakes.countP (fun w=>decide (first≤w.wokeNS ∧ w.wokeNS≤last)) ≤
  (last-first+cfg.deficitUsec*1000)/cfg.intervalNS+2 := by
 induction wakes generalizing t with
 | nil=>simp
 | cons w wakes ih=>
  obtain ⟨hstream,-,hcaught,-⟩:=cycle_step hI hblock h w
  rw[countP_cons]
  split_ifs with hw
  · -- behind this wake-up the cycle is at most the deficit late
    have hfirst:=(of_decide_eq_true hw).1
    have hnow:=hsleep.1.2
    have hearly:=early_wakes hI hblock hstream hsleep.2 last
    have hcount:wakes.countP (fun w=>decide (first≤w.wokeNS ∧ w.wokeNS≤last)) ≤
     wakes.countP (fun w=>decide (w.wokeNS≤last)):=
     countP_mono_left fun w _ hin=>decide_eq_true (of_decide_eq_true hin).2
    have hone:wakes.countP (fun w=>decide (w.wokeNS≤last)) ≤
     (last-first+cfg.deficitUsec*1000+cfg.intervalNS)/cfg.intervalNS:=
     (Nat.le_div_iff_mul_le hI).2 (by omega)
    rw[Nat.add_div_right _ hI] at hone
    omega
  · exact ih hstream hsleep.2

end

/-- The cycle grows in multiples of the interval, and the wake-ups of any period exceed it by the
deficit and two. -/
theorem talker_paced (cfg:Cfg) (hrate:0<cfg.wakeRate ∧ cfg.wakeRate≤10^9)
 (hblock:cfg.txBlockingInIntf=false) (nowNS:Nat) (wakes:List Wake)
 (hsleep:Along (talkerDoStream cfg) Sleeps wakes (talkerStartStream cfg true nowNS initial)) :
 let start:=talkerStartStream cfg true nowNS initial
 Throughout (talkerDoStream cfg) (fun t=>cfg.intervalNS∣t.nextCycleNS) wakes start ∧
 Along (talkerDoStream cfg) (fun w t=>
  t.nextCycleNS+cfg.intervalNS≤(talkerDoStream cfg w t).nextCycleNS ∧
  (talkerDoStream cfg w t).handed≤t.handed+cfg.wakeFrames) wakes start ∧
 ∀first last,first≤last →
  wakes.countP (fun w=>decide (first≤w.wokeNS ∧ w.wokeNS≤last)) ≤
   (last-first+cfg.deficitUsec*1000)/cfg.intervalNS+2 := by
 intro start
 have hI:0<cfg.intervalNS:=Nat.div_pos hrate.2 hrate.1
 have hdvd:cfg.intervalNS∣start.nextCycleNS:=
  Nat.dvd_add (Nat.dvd_mul_left ..) (Nat.dvd_refl _)
 refine ⟨?_,?_,fun first last hle=>wakes_within hI hblock rfl hsleep hle⟩
 · refine (throughout_of_along (P:=fun t=>t.bStreaming=true ∧ cfg.intervalNS∣t.nextCycleNS)
    (fun w t _ ht=>?_) ⟨rfl,hdvd⟩ hsleep).imp fun _ ht=>ht.2
   obtain ⟨hstream,-,-,hkept,-⟩:=cycle_step hI hblock ht.1 w
   exact ⟨hstream,hkept ht.2⟩
 · refine Along.imp_of_invariant (P:=fun t=>t.bStreaming=true)
    (fun w t _ ht=>(cycle_step hI hblock ht w).1) (fun w t ht _=>?_) rfl hsleep
   obtain ⟨-,hgrows,-,-,hhanded⟩:=cycle_step hI hblock ht w
   exact ⟨hgrows,hhanded⟩

def delayedWakes : List Wake :=
 [⟨250000,250001,(wakeOf .packetReady).calls⟩,⟨60375000,60375001,(wakeOf .packetReady).calls⟩,
  ⟨60625000,60625001,(wakeOf .packetReady).calls⟩]

theorem talker_paced_delayed : let start:=talkerStartStream classA true 0 initial
 Throughout (talkerDoStream classA) (fun t=>classA.intervalNS∣t.nextCycleNS) delayedWakes start ∧
 (run (talkerDoStream classA) delayedWakes start).nextCycleNS=60750000 ∧
 delayedWakes.countP (fun w=>decide (60375000≤w.wokeNS ∧ w.wokeNS≤60625000))=2 ∧
 delayedWakes.countP (fun w=>decide (60375000≤w.wokeNS ∧ w.wokeNS≤60625000)) ≤
  (60625000-60375000+classA.deficitUsec*1000)/classA.intervalNS+2 := by
 have hpaced:=talker_paced classA ⟨by decide,by decide⟩ rfl 0 delayedWakes
  ⟨⟨by decide,by decide⟩,⟨by decide,by decide⟩,⟨by decide,by decide⟩,trivial⟩
 exact ⟨hpaced.1,by decide,by decide,hpaced.2.2 60375000 60625000 (by decide)⟩

end OpenAvnu.TalkerStream
