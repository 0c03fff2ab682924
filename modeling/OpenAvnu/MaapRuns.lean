import OpenAvnu.MaapHandle

/-!
# Commands, timers and runs of a client

Every block that a call adds is probed for.
-/

namespace OpenAvnu

open List Option

open MaapPacket MaapClient MaapDaemon MaapFrame MaapPlacement MaapStore MaapHoldings MaapConflict

namespace MaapCommands

open MaapResolve MaapReaction MaapOverlaps MaapHandle

variable {mc mc' mc'':Client}

def announceFor (mc:Client) (y:Holding) : List UInt8 := packMaap (claimFor mc maapAnnounce y.low y.high)
def ClaimBytes (mc:Client) (bytes:List UInt8) : Prop :=
 ∃messageType low high,(messageType=maapProbe ∨ messageType=maapAnnounce) ∧
  low≤high ∧ high < mc.rangeLen ∧ high<low+65535 ∧
  bytes=packMaap (claimFor mc messageType low high)
lemma claimBytes_config (h:SameConfig mc mc') {bytes:List UInt8} : ClaimBytes mc' bytes↔ClaimBytes mc bytes := by
 simp only[ClaimBytes,h.rangeLen,claimFor_config h]
lemma announceFor_config (h:SameConfig mc mc') (y:Holding) : announceFor mc' y=announceFor mc y := by
 rw[announceFor,announceFor,claimFor_config h]
lemma claimBytes_of_holds {gaps:Gaps} (h:Consistent gaps mc) {x:Holding}
 (hx:Holds mc x) {messageType:Nat}
 (ht:messageType=maapProbe ∨ messageType=maapAnnounce) :
 ClaimBytes mc (packMaap (claimFor mc messageType x.low x.high)) :=
 ⟨messageType,x.low,x.high,ht,holds_low_le_high h hx,holds_in_pool h hx,holds_small h hx,rfl⟩

/-- Blocks are old, new and probed for, or promoted from probing and announced. -/
structure Advances (mc mc':Client) : Prop where
 consistent:Consistent .closed mc'
 calm:Calm mc'
 config:SameConfig mc mc'
 fate:∀z,Holds mc' z → Holds mc z ∨
  (z.state=.probing ∧ probeFor mc z∈mc'.queued) ∨
  (z.state=.defending ∧ Holds mc {z with state := .probing} ∧ announceFor mc z∈mc'.queued)
 queued:∃packets,mc'.queued=mc.queued++packets ∧ ∀b∈packets,ClaimBytes mc b

lemma advances_notify (h:Consistent .closed mc) (hcalm:Calm mc)
 (notes:List (Nat×Notify)) : Advances mc {mc with notifies:=notes} :=
 ⟨h.congr_store le_rfl rfl rfl,hcalm,⟨rfl,rfl,rfl,rfl,rfl⟩,
  fun _ hz=>.inl hz,⟨[],(append_nil _).symm,by simp⟩⟩

lemma Advances.of_agree (h:Advances mc' mc'') (hconfig:SameConfig mc mc')
 (hranges:mc'.ranges=mc.ranges) (hstore:mc'.store=mc.store)
 (hqueued:mc'.queued=mc.queued) : Advances mc mc'' := by
 have hsame:SameRanges mc mc':=fun r=>by rw[hstore]
 have hholds:=holds_congr hranges hsame
 obtain ⟨packets,hq,hpackets⟩:=h.queued
 refine ⟨h.consistent,h.calm,hconfig.trans h.config,fun z hz=>?_,
  ⟨packets,by rw[hq,hqueued],fun b hb=>(claimBytes_config hconfig).1 (hpackets b hb)⟩⟩
 have:=h.fate z hz
 rwa[hholds,hholds,probeFor_config hconfig,announceFor_config hconfig] at this

lemma Advances.startTimer (h:Advances mc mc') : Advances mc mc'.startTimer := by
 obtain ⟨timer,heq⟩:=startTimer_eq mc'
 rw[heq]
 exact ⟨h.consistent.congr_store le_rfl rfl rfl,h.calm,
  ⟨h.config.1,h.config.2,h.config.3,h.config.4,h.config.5⟩,h.fate,h.queued⟩

lemma Reserved.advances {fresh:Option Holding} {packets:List (List UInt8)}
 (hcalm:Calm mc) (h:Reserved mc fresh packets mc')
 (hfresh:fresh=none ∧ packets=[] ∨
  ∃y,fresh=some y ∧ packets=[probeFor mc y] ∧ Acquires mc y) : Advances mc mc' := by
 rcases hfresh with ⟨rfl,rfl⟩|⟨y,rfl,rfl,hacq⟩
 · have hold:∀z,Holds mc' z → Holds mc z:=fun z hz=>
    ((h.holds z).1 hz).resolve_right (by rintro ⟨⟩)
   exact ⟨h.consistent,fun z hz=>hcalm z (hold z hz),h.config,fun z hz=>.inl (hold z hz),⟨[],h.queued,by simp⟩⟩
 · refine ⟨h.consistent,fun z hz=>?_,h.config,fun z hz=>?_,⟨_,h.queued,?_⟩⟩
   · rcases (h.holds z).1 hz with hz|hz
     · exact hcalm z hz
     · exact some.inj hz▸hacq.flagged
   · rcases (h.holds z).1 hz with hz|hz
     · exact .inl hz
     · cases hz
       refine .inr (.inl ⟨hacq.state,?_⟩)
       rw[h.queued]
       simp
   · intro b hb
     obtain rfl:=mem_singleton.1 hb
     exact ⟨maapProbe,y.low,y.high,.inl rfl,hacq.proper,hacq.fits,hacq.small,rfl⟩

variable (sender:Nat) (env:Env) {attemptBase length ref:Nat} (id:Int)

section
variable (sender:Nat) (h:Consistent .closed mc) (hcalm:Calm mc) (hlen:1≤length)
 (hlen':length≤65535) (hattempt:attemptBase+length≤2^64)
include h hcalm hlen hlen' hattempt

lemma reserveFresh_advances {range:Range} (hstate:range.state=.probing)
 (hflag:range.overlapping=false)
 (hlate:(reserveFresh env mc range sender attemptBase length).1.late=false) :
 Advances mc (reserveFresh env mc range sender attemptBase length).1 := by
 have hsize:uint16 length=length:=Nat.mod_eq_of_lt (by omega)
 have hcons:=consistent_withRange h range
 have hassign:=assignInterval_spec env (withRange mc range) mc.mallocs
  (show 1≤uint16 length by omega) hcons.poolSize
  (fun hfits=>attempt_in_pool (by omega) hfits hcons.poolSize
   (show attemptBase+uint16 length≤2^64 by omega))
 unfold reserveFresh at hlate ⊢
 simp only at hlate ⊢
 generalize (withRange mc range).assignInterval env mc.mallocs attemptBase (uint16 length)=
  assigned at hassign hlate ⊢
 obtain ⟨mc₁,ok⟩:=assigned
 rcases assigned_cases hcons.ordered hcons.refsNodup hcons.nodeFresh (by omega) hassign with
  ⟨rfl,start,node,hp⟩ | ⟨rfl,callocs,draws,hc,rfl⟩ | ⟨rfl,hl⟩
 · have hp':Placed (withRange mc range) mc.mallocs start (uint16 length) node
    (mc₁.informAcquiring mc.mallocs):=
    ⟨⟨hp.config.1,hp.config.2,hp.config.3,hp.config.4,hp.config.5⟩,hp.fits,hp.fresh,
     hp.callocs,hp.ordered,hp.refsNodup,hp.entries,hp.free,hp.store,hp.timerQueue,hp.queued,hp.mallocs,hp.late⟩
   obtain ⟨y,-,hacq,hres⟩:=reserve_placed env h hstate hflag (by omega) (by omega) hp'
   obtain ⟨timer,htimer⟩:=
    startTimer_eq ((mc₁.informAcquiring mc.mallocs).scheduleTimer env mc.mallocs)
   simp only[probeReservation,htimer]
   exact Reserved.advances hcalm (hres.notify _ timer) (.inr ⟨y,rfl,rfl,hacq⟩)
 · exact Reserved.advances hcalm (reserve_failed h range hc _ _) (.inl ⟨rfl,rfl⟩)
 · exact absurd (hl.symm.trans hlate) (by decide)

lemma maapReserveRange_advances
 (hlate:(maapReserveRange env mc sender attemptBase length).1.late=false) :
 Advances mc (maapReserveRange env mc sender attemptBase length).1 := by
 unfold maapReserveRange at hlate ⊢
 split_ifs at hlate ⊢ with hinit hbig hmalloc
 · exact advances_notify h hcalm _
 · exact advances_notify h hcalm _
 · exact Reserved.advances hcalm (reserve_outOfMemory h _) (.inl ⟨rfl,rfl⟩)
 · have hadv:=@reserveFresh_advances {mc with maxid:=mc.maxid+1} env attemptBase length sender
    (h.congr_store le_rfl rfl rfl) hcalm hlen hlen' hattempt _ rfl rfl hlate
   exact hadv.of_agree ⟨rfl,rfl,rfl,rfl,rfl⟩ rfl rfl rfl

end

lemma findRange_some {id:Int} {test:MaapState → Bool} (h:findRange mc id test=some ref) :
 ref∈mc.timerQueue ∧ test (mc.range ref).state=true := by
 have hp:=find?_some h
 simp only[Bool.and_eq_true] at hp
 exact ⟨mem_of_find?_eq_some h,hp.2⟩

lemma holds_of_queued (h:Consistent .closed mc) (hq:ref∈mc.timerQueue)
 (hstate:(mc.range ref).state ≠ .released) : ∃node x,x.ref=ref ∧ (node,x.block)∈mc.ranges.toList ∧ Holds mc x ∧
  (mc.range ref).interval=some node ∧ x.state=(mc.range ref).state := by
 obtain ⟨range,hs,hcase⟩:=h.settled ref hq
 rw[range_eq hs] at hstate ⊢
 rcases hcase with hrel|⟨-,hhome|⟨⟨node,iv⟩,hmem,hd⟩⟩
 · exact absurd hrel hstate
 · cases hhome
 · have hx:=holds_of_entry h hmem hd
   rw[range_eq hs] at hx
   obtain ⟨low,high,data⟩:=iv
   obtain rfl:data=some ref:=hd
   refine ⟨node,⟨ref,range.state,range.overlapping,low,high⟩,rfl,hmem,hx,?_,rfl⟩
   rcases h.owner _ hmem with ⟨hhole,-⟩|⟨r,hr,range',hs',-,hi,-⟩
   · cases hhole
   · cases hr
     obtain rfl:=some.inj (hs.symm.trans hs')
     exact hi

lemma Effect.advances (hcalm:Calm mc) (h:Effect mc ref none [] mc') : Advances mc mc' := by
 have hold:∀z,Holds mc' z → Holds mc z:=by
  intro z hz
  rcases (h.holds z).1 hz with hz|hz
  · exact hz.1
  · cases hz
 exact ⟨h.consistent,fun z hz=>hcalm z (hold z hz),h.config,fun z hz=>.inl (hold z hz),⟨[],h.queued,by simp⟩⟩

lemma Reacts.advances {p:Packet} (hp:p.messageType≠maapProbe) (h:Reacts p mc mc') : Advances mc mc' := by
 obtain ⟨packets,hq,hpackets⟩:=h.queued
 refine ⟨h.consistent,h.calm,h.config,fun z hz=>(h.fate z hz).imp And.left Or.inl,⟨packets,hq,fun b hb=>?_⟩⟩
 rcases hpackets b hb with ⟨y,hle,hin,hsm,heq⟩|⟨-,-,-,hprobe⟩
 · exact ⟨maapProbe,y.low,y.high,.inl rfl,hle,hin,hsm,heq⟩
 · exact absurd hprobe hp

lemma built_yieldPacket (mc:Client) (ref:Nat) : Built (yieldPacket mc ref) :=
 ⟨rfl,rfl,rfl,rfl,rfl,rfl,.inr (.inr rfl)⟩
lemma yieldPacket_messageType (mc:Client) (ref:Nat) : (yieldPacket mc ref).messageType=maapAnnounce := rfl

lemma maapYieldRange_cases (mc:Client) (sender:Nat) (id:Int) :
 (∃error,maapYieldRange env mc sender id=(mc.informYielded sender id none error,-1)) ∨
 ∃ref handled,maapHandlePacket env mc (packMaap (yieldPacket mc ref))=handled ∧
  maapYieldRange env mc sender id=(handled.1,0) := by
 by_cases hinit:mc.initialized=true
 · cases hfind:findRange mc id (fun state=>decide (state=.defending)) with
   | none=>
    refine .inl ⟨.releaseInvalidId,?_⟩
    simp only[maapYieldRange,hinit,hfind,Bool.not_true,Bool.false_eq_true,if_false]
   | some ref=>
    refine .inr ⟨ref,_,rfl,?_⟩
    simp[maapYieldRange,hinit,hfind]
 · refine .inl ⟨.requiresInitialization,?_⟩
   simp[maapYieldRange,hinit]

variable (h:Consistent .closed mc) (hcalm:Calm mc)
include h hcalm

lemma maapReleaseRange_advances : Advances mc (maapReleaseRange mc sender id).1 := by
 unfold maapReleaseRange
 split_ifs
 · exact advances_notify h hcalm _
 split
 · exact advances_notify h hcalm _
 · rename_i ref hfind
   obtain ⟨hq,hstate⟩:=findRange_some hfind
   obtain ⟨node,x,rfl,hnode,hx,hi,-⟩:=holds_of_queued h hq (by simpa using hstate)
   obtain ⟨notes,hnotes⟩:∃notes,(if sender≠(mc.range x.ref).sender then
    (mc.informReleased sender id (some x.ref) .none).informReleased (mc.range x.ref).sender id
     (some x.ref) .none
    else mc.informReleased sender id (some x.ref) .none) = {mc with notifies:=notes}:=by
    split<;>exact ⟨_,rfl⟩
   simp only[hnotes]
   have hnode':(({mc with notifies:=notes}:Client).range x.ref).interval.getD 0=node:=by
    change (mc.range x.ref).interval.getD 0=node
    rw[hi]
    rfl
   rw[hnode']
   have hcons:Consistent .closed {mc with notifies:=notes}:=
    h.congr_store le_rfl rfl rfl
   obtain ⟨heff,-⟩:=releaseAt_holding hcons hnode hx
   have hadv:Advances {mc with notifies:=notes} _:=Effect.advances hcalm heff
   exact hadv.of_agree ⟨rfl,rfl,rfl,rfl,rfl⟩ rfl rfl rfl

lemma maapRangeStatus_advances : Advances mc (maapRangeStatus mc sender id) := by
 unfold maapRangeStatus
 split_ifs
 · exact advances_notify h hcalm _
 · split<;>exact advances_notify h hcalm _
lemma advances_refl : Advances mc mc := advances_notify h hcalm mc.notifies

lemma maapHandlePacket_advances {stream:List UInt8}
 (hp:(unpackMaap stream).messageType≠maapProbe)
 (hlate:(maapHandlePacket env mc stream).1.late=false) : Advances mc (maapHandlePacket env mc stream).1 := by
 rcases maapHandlePacket_spec env stream h hcalm hlate with heq|⟨-,-,hreact⟩
 · rw[heq]
   exact advances_refl h hcalm
 · exact Reacts.advances hp hreact

lemma maapYieldRange_advances (hlate:(maapYieldRange env mc sender id).1.late=false) :
 Advances mc (maapYieldRange env mc sender id).1 := by
 rcases maapYieldRange_cases env mc sender id with ⟨error,heq⟩|⟨ref,handled,hhandled,heq⟩
 · rw[heq]
   exact advances_notify h hcalm _
 · have hp:(unpackMaap (packMaap (yieldPacket mc ref))).messageType≠maapProbe:=by
    rw[unpackMaap_packMaap (built_yieldPacket mc ref),onWire_messageType,yieldPacket_messageType]
    decide
   have hadv:=maapHandlePacket_advances env h hcalm hp
   rw[hhandled] at hadv
   rw[heq] at hlate ⊢
   exact hadv hlate

end MaapCommands

/-! ## What the timer does to a client -/

namespace MaapTicks

open MaapTimer
open MaapResolve MaapOverlaps MaapCommands

variable {mc mc' mc'':Client}

/-- What the timer does: blocks are old, or promoted to defending and announced. -/
structure Ticks (mc mc':Client) : Prop where
 consistent:Consistent .closed mc'
 calm:Calm mc'
 config:SameConfig mc mc'
 fate:∀z,Holds mc' z → Holds mc z ∨
  (z.state=.defending ∧ Holds mc {z with state := .probing} ∧ announceFor mc z∈mc'.queued)
 queued:∃packets,mc'.queued=mc.queued++packets ∧ ∀b∈packets,ClaimBytes mc b
 late:mc'.late=mc.late

lemma Ticks.advances (h:Ticks mc mc') : Advances mc mc' :=
 ⟨h.consistent,h.calm,h.config,fun z hz=>(h.fate z hz).imp_right Or.inr,h.queued⟩

lemma Ticks.trans (h:Ticks mc mc') (h':Ticks mc' mc'') : Ticks mc mc'' := by
 obtain ⟨packets,hq,hpackets⟩:=h.queued
 obtain ⟨packets',hq',hpackets'⟩:=h'.queued
 have hmem:∀b,b∈mc'.queued → b∈mc''.queued:=by
  intro b hb
  rw[hq']
  exact mem_append_left _ hb
 refine ⟨h'.consistent,h'.calm,h.config.trans h'.config,fun z hz=>?_,
  ⟨packets++packets',by rw[hq',hq,append_assoc],fun b hb=>?_⟩,h'.late.trans h.late⟩
 · rcases h'.fate z hz with hz'|⟨hst,hz',hann⟩
   · exact (h.fate z hz').imp_right fun hz''=>⟨hz''.1,hz''.2.1,hmem _ hz''.2.2⟩
   · rw[announceFor_config h.config] at hann
     rcases h.fate _ hz' with hz''|⟨hst',-⟩
     · exact .inr ⟨hst,hz'',hann⟩
     · cases hst'
 · rcases mem_append.1 hb with hb|hb
   · exact hpackets b hb
   · exact (claimBytes_config h.config).1 (hpackets' b hb)

variable {x:Holding}

lemma Kept.ticks {messageType:Nat} {gaps:Gaps} (hc:Consistent gaps mc) (hcalm:Calm mc)
 (hx:Holds mc x) (ht:messageType=maapProbe ∨ messageType=maapAnnounce)
 (h:Kept mc [packMaap (claimFor mc messageType x.low x.high)] mc') : Ticks mc mc' := by
 refine ⟨h.consistent,fun z hz=>hcalm z ((h.holds z).1 hz),h.config,
  fun z hz=>.inl ((h.holds z).1 hz),⟨_,h.queued,fun b hb=>?_⟩,h.late⟩
 obtain rfl:=mem_singleton.1 hb
 exact claimBytes_of_holds hc hx ht

variable (env:Env) {rest:List Nat}

section
variable (h:Consistent ⟨none,none,some x.ref⟩ mc)
include h

lemma handleDefendTimer_ticks (hcalm:Calm mc)
 (hx:Holds mc x) : Ticks mc (handleDefendTimer env mc x.ref) := Kept.ticks h hcalm hx (.inr rfl)
  (schedule_send_spec env h hx (fun _ hr=>(some.inj hr).symm) maapAnnounce)

lemma promote_spec (hx:Holds mc x)
 (hstate:x.state=.probing) : Consistent ⟨none,none,some x.ref⟩ (setState mc x.ref .defending) ∧
  ∀z,Holds (setState mc x.ref .defending) z ↔
   (Holds mc z ∧ z.ref≠x.ref) ∨ some {x with state:=.defending}=some z := by
 obtain ⟨range,hs,hmatch⟩:=hx.2
 have hprobing:range.state=.probing:=hmatch.1.trans hstate
 have hcons:Consistent ⟨none,none,some x.ref⟩ (setState mc x.ref .defending):=by
  refine h.modify x.ref fun range' hs'=>?_
  obtain rfl:=some.inj (hs.symm.trans hs')
  refine ⟨fun _=>.inr rfl,fun hrel=>?_,rfl⟩
  rw[hprobing] at hrel
  cases hrel
 exact ⟨hcons,holds_modify_held hcons hx rfl rfl fun _ hm=>⟨rfl,hm.2⟩⟩

lemma handleProbeTimer_ticks (hcalm:Calm mc)
 (hx:Holds mc x) (hstate:x.state=.probing) : Ticks mc (handleProbeTimer env mc x.ref) := by
 have hunq:∀r,some x.ref=some r → r=x.ref:=fun _ hr=>(some.inj hr).symm
 unfold handleProbeTimer
 split_ifs
 · -- the last probe went unanswered: announce the block
   have hcons:Consistent ⟨none,none,some x.ref⟩ (mc.informAcquired x.ref .none):=
    h.congr_store le_rfl rfl rfl
   obtain ⟨hcons',hholds⟩:=promote_spec hcons hx hstate
   generalize hpromoted:setState (mc.informAcquired x.ref .none) x.ref .defending=promoted
    at hcons' hholds
   have hconfig:SameConfig mc promoted:=by
    subst hpromoted
    exact ⟨rfl,rfl,rfl,rfl,rfl⟩
   have hqueued:promoted.queued=mc.queued:=by rw[←hpromoted];rfl
   have hlate:promoted.late=mc.late:=by rw[←hpromoted];rfl
   have hy:Holds promoted {x with state:=.defending}:=(hholds _).2 (.inr rfl)
   have hkept:=schedule_send_spec env hcons' hy hunq maapAnnounce
   have hcalm':Calm promoted:=by
    intro z hz
    rcases (hholds z).1 hz with ⟨hz,-⟩|heq
    · exact hcalm z hz
    · exact some.inj heq▸hcalm x hx
   have hticks:=Kept.ticks hcons' hcalm' hy (.inr rfl) hkept
   obtain ⟨packets,hq,hpackets⟩:=hticks.queued
   refine ⟨hticks.consistent,hticks.calm,hconfig.trans hticks.config,fun z hz=>?_,
    ⟨packets,hq.trans (by rw[hqueued]),fun b hb=>(claimBytes_config hconfig).1 (hpackets b
      hb)⟩,hticks.late.trans hlate⟩
   rcases (hholds z).1 ((hkept.holds z).1 hz) with ⟨hz,-⟩|heq
   · exact .inl hz
   · cases heq
     refine .inr ⟨rfl,?_,?_⟩
     · rw[←hstate]
       exact hx
     · have:announceFor promoted {x with state:=.defending}∈_:=
        hkept.queued▸mem_append_right _ (mem_singleton.2 rfl)
       rwa[announceFor_config hconfig] at this
 · have hcons:=consistent_setCounter h x.ref ((mc.range x.ref).counter-1)
   have hx':=(holds_setCounter x.ref ((mc.range x.ref).counter-1) x).2 hx
   have hcalm':Calm (setCounter mc x.ref ((mc.range x.ref).counter-1)):=fun z hz=>
    hcalm z ((holds_setCounter _ _ z).1 hz)
   have hticks:=Kept.ticks hcons hcalm' hx' (.inl rfl)
    (schedule_send_spec env hcons hx' hunq maapProbe)
   refine ⟨hticks.consistent,hticks.calm,
    ⟨hticks.config.1,hticks.config.2,hticks.config.3,hticks.config.4,hticks.config.5⟩,
    fun z hz=>(hticks.fate z hz).imp (holds_setCounter _ _ z).1 fun hz'=>
     ⟨hz'.1,(holds_setCounter _ _ _).1 hz'.2.1,hz'.2.2⟩,hticks.queued,hticks.late⟩

end

variable {ref:Nat}

lemma not_referenced_of_released (h:Consistent .closed mc)
 (hqueue:mc.timerQueue=ref::rest) (hstate:(mc.range ref).state=.released) :
 ¬Consistent.Referenced {mc with timerQueue:=rest} ref := by
 have hnodup:=h.queueNodup
 rw[hqueue] at hnodup
 rintro (hmem|⟨e,he,hdata⟩)
 · exact (nodup_cons.1 hnodup).1 hmem
 · rcases h.owner e he with ⟨hhole,-⟩|⟨r,hr,range,hs,hlive,-⟩
   · cases hhole
   · obtain rfl:ref=r:=some.inj (hdata.symm.trans hr)
     rw[range_eq hs] at hstate
     rcases hlive with hl|hl<;>· rw[hl] at hstate;cases hstate

lemma handleDue_probing (h:(mc.range ref).state=.probing) :
 handleDue env mc ref=handleProbeTimer env mc ref := by
 simp only[handleDue,h]
lemma handleDue_defending (h:(mc.range ref).state=.defending) :
 handleDue env mc ref=handleDefendTimer env mc ref := by
 simp only[handleDue,h]
lemma handleDue_released (h:(mc.range ref).state=.released) : handleDue env mc ref=freeRange mc ref := by
 simp only[handleDue,h]

lemma handleDue_ticks (h:Consistent .closed mc) (hcalm:Calm mc)
 (hqueue:mc.timerQueue=ref::rest) : Ticks mc (handleDue env {mc with timerQueue:=rest} ref) := by
 have hpop:=h.pop hqueue
 have hmem:ref∈mc.timerQueue:=hqueue▸mem_cons_self
 -- the popped client differs from `mc` in its queue only
 suffices hticks:Ticks {mc with timerQueue:=rest}
  (handleDue env {mc with timerQueue:=rest} ref) from
  ⟨hticks.consistent,hticks.calm,
   ⟨hticks.config.1,hticks.config.2,hticks.config.3,hticks.config.4,hticks.config.5⟩,
   hticks.fate,hticks.queued,hticks.late⟩
 by_cases hrel:(mc.range ref).state=.released
 · have hfree:=not_referenced_of_released h hqueue hrel
   have hdue:handleDue env {mc with timerQueue:=rest} ref=
    freeRange {mc with timerQueue:=rest} ref:=handleDue_released env hrel
   have hcons:Consistent .closed {mc with timerQueue:=rest}:=
    hpop.drop_unqueued hfree
   rw[hdue]
   exact ⟨consistent_freeRange hcons hfree,fun z hz=>hcalm z ((holds_freeRange hfree z).1 hz),
    ⟨rfl,rfl,rfl,rfl,rfl⟩,fun z hz=>.inl ((holds_freeRange hfree z).1 hz),⟨[],(append_nil _).symm,by simp⟩,rfl⟩
 · obtain ⟨node,x,rfl,-,hx,-,hstate⟩:=holds_of_queued h hmem hrel
   have hx':Holds {mc with timerQueue:=rest} x:=hx
   obtain ⟨range,hs,hlive,hmatch,-⟩:=holds_owner h hx
   rcases hlive with hl|hl
   · have hdue:handleDue env {mc with timerQueue:=rest} x.ref=
      handleProbeTimer env {mc with timerQueue:=rest} x.ref:=
      handleDue_probing env (show (mc.range x.ref).state=_ by rw[range_eq hs,hl])
     rw[hdue]
     exact handleProbeTimer_ticks env hpop hcalm hx' (hmatch.1.symm.trans hl)
   · have hdue:handleDue env {mc with timerQueue:=rest} x.ref=
      handleDefendTimer env {mc with timerQueue:=rest} x.ref:=
      handleDue_defending env (show (mc.range x.ref).state=_ by rw[range_eq hs,hl])
     rw[hdue]
     exact handleDefendTimer_ticks env hpop hcalm hx'

lemma handleTimers_ticks (currenttime:Time) (fuel:Nat) (mc mc':Client)
 (h:Consistent .closed mc) (hcalm:Calm mc)
 (hrun:handleTimers env currenttime fuel mc=some mc') : Ticks mc mc' := by
 have hrefl:∀mc,Consistent .closed mc → Calm mc → Ticks mc mc:=fun mc h hcalm=>
  ⟨h,hcalm,⟨rfl,rfl,rfl,rfl,rfl⟩,fun _ hz=>.inl hz,⟨[],(append_nil _).symm,by simp⟩,rfl⟩
 induction fuel generalizing mc with
 | zero=>
  unfold handleTimers at hrun
  split at hrun
  · exact some.inj hrun▸hrefl mc h hcalm
  · split_ifs at hrun
    exact some.inj hrun▸hrefl mc h hcalm
 | succ fuel ih=>
  unfold handleTimers at hrun
  split at hrun
  · exact some.inj hrun▸hrefl mc h hcalm
  · rename_i ref rest hqueue
    split_ifs at hrun
    · have hdue:=handleDue_ticks env h hcalm hqueue
      exact hdue.trans (ih _ hdue.consistent hdue.calm hrun)
    · exact some.inj hrun▸hrefl mc h hcalm

lemma maapHandleTimer_advances {fuel:Nat} (h:Consistent .closed mc) (hcalm:Calm mc)
 (hrun:maapHandleTimer env fuel mc=some mc') : Advances mc mc' := by
 obtain ⟨ticked,hticked,rfl⟩:=map_eq_some_iff.1 hrun
 have hcons:Consistent .closed {mc with readings:=mc.readings+1}:=
  h.congr_store le_rfl rfl rfl
 have hticks:=handleTimers_ticks env _ fuel _ ticked hcons hcalm hticked
 have hconfig:SameConfig mc {mc with readings:=mc.readings+1}:=
  ⟨rfl,rfl,rfl,rfl,rfl⟩
 exact (hticks.advances.of_agree hconfig rfl rfl rfl).startTimer

end MaapTicks

/-! ## Runs of a client -/

namespace MaapRuns

open IntervalOrder MaapOverlaps MaapHandle MaapCommands MaapTicks

variable {env:Env} {mc mc':Client}

inductive Call where
 | reserve (sender attemptBase length:Nat)
 | release (sender:Nat) (id:Int)
 | status (sender:Nat) (id:Int)
 | yield (sender:Nat) (id:Int)
 | timer (fuel:Nat)

/-- A call within its documented bounds that returns. A suggested block ends at a 64-bit address. -/
def Call.run (env:Env) (mc:Client) : Call → Option Client
 | .reserve sender attemptBase length=>
  if 1≤length ∧ length≤65535 ∧ attemptBase+length≤2^64 then
   some (maapReserveRange env mc sender attemptBase length).1
  else none
 | .release sender id=>some (maapReleaseRange mc sender id).1
 | .status sender id=>some (maapRangeStatus mc sender id)
 | .yield sender id=>some (maapYieldRange env mc sender id).1
 | .timer fuel=>maapHandleTimer env fuel mc

inductive Step (env:Env) (mc:Client) : Client → Prop
 | call (c:Call) {called:Client} (h:c.run env mc=some called) : Step env mc called
 | packet (stream:List UInt8) : Step env mc (maapHandlePacket env mc stream).1

inductive Reachable (env:Env) : Client → Prop
 | init (destMac srcMac sender addressBase rangeLen:Nat) (hbase:addressBase<2^64)
  (hlen:rangeLen<2^32) : Reachable env (maapInitClient (blank destMac srcMac) sender addressBase rangeLen).1
 | step {mc mc':Client} (hrun:Reachable env mc) (hstep:Step env mc mc')
  (hlate:mc'.late=false) : Reachable env mc'

def runCalls (env:Env) : List Call → Client → Option Client
 | [], mc=>some mc
 | c::calls, mc=>do
  let called ← c.run env mc
  if called.late then none else runCalls env calls called

lemma runCalls_reachable (calls:List Call) (hrun:Reachable env mc)
 (h:runCalls env calls mc=some mc') : Reachable env mc' := by
 induction calls generalizing mc with
 | nil=>exact some.inj h▸hrun
 | cons c calls ih=>
  obtain ⟨called,hcall,hrest⟩:=bind_eq_some_iff.1 h
  split_ifs at hrest with hlate
  exact ih (.step hrun (.call c hcall) (Bool.eq_false_iff.2 hlate)) hrest

lemma Call.advances {c:Call} (hcall:c.run env mc=some mc') (hlate:mc'.late=false)
 (h:Consistent .closed mc) (hcalm:Calm mc) : Advances mc mc' := by
 cases c with
 | reserve sender attemptBase length=>
  simp only[Call.run,ite_none_right_eq_some,some.injEq] at hcall
  obtain ⟨⟨hpos,hlen,hattempt⟩,rfl⟩:=hcall
  exact maapReserveRange_advances env sender h hcalm hpos hlen hattempt hlate
 | release sender id=>
  cases hcall
  exact maapReleaseRange_advances sender id h hcalm
 | status sender id=>
  cases hcall
  exact maapRangeStatus_advances sender id h hcalm
 | yield sender id=>
  cases hcall
  exact maapYieldRange_advances sender env id h hcalm hlate
 | timer fuel=>exact maapHandleTimer_advances env h hcalm hcall

lemma Step.consistent (hstep:Step env mc mc') (hlate:mc'.late=false)
 (h:Consistent .closed mc) (hcalm:Calm mc) : Consistent .closed mc' ∧ Calm mc' := by
 cases hstep with
 | call c hcall=>
  have hadv:=Call.advances hcall hlate h hcalm
  exact ⟨hadv.consistent,hadv.calm⟩
 | packet stream=>
  rcases maapHandlePacket_spec env stream h hcalm hlate with heq|⟨-,-,hreact⟩
  · rw[heq]
    exact ⟨h,hcalm⟩
  · exact ⟨hreact.consistent,hreact.calm⟩

lemma consistent_of_empty (mc:Client) (hranges:mc.ranges=.nil) (hqueue:mc.timerQueue=[])
 (hstore:∀r,mc.store r=none) (hlen:mc.rangeLen<2^32) : Consistent .closed mc ∧ Calm mc := by
 constructor
 · constructor
   case poolSize=>exact hlen
   all_goals simp[hranges,hqueue,hstore,ordered_nil,RefsNodup]
 · rintro z ⟨⟨node,hmem⟩,-⟩
   rw[hranges] at hmem
   cases hmem

lemma Reachable.consistent (h:Reachable env mc) : Consistent .closed mc ∧ Calm mc := by
 induction h with
 | init destMac srcMac sender addressBase rangeLen hbase hlen=>
  exact consistent_of_empty _ rfl rfl (fun _=>rfl) hlen
 | step hrun hstep hlate ih=>exact hstep.consistent hlate ih.1 ih.2

structure StoreInvariant (mc:Client) : Prop where
 searchTree:SearchTree mc.ranges
 disjoint:mc.ranges.toList.Pairwise fun a b=>a.2.high<b.2.low
 bounds:∀e∈mc.ranges.toList,e.2.low≤e.2.high ∧ e.2.high < mc.rangeLen
 addresses:(mc.ranges.toList.map Prod.fst).Nodup
 owner:∀e∈mc.ranges.toList,∃ref range,e.2.data=some ref ∧
  mc.store ref=some range ∧ (range.state=.probing ∨ range.state=.defending) ∧
  range.interval=some e.1 ∧ ref∈mc.timerQueue
 queued:∀ref∈mc.timerQueue,∃range,mc.store ref=some range ∧
  (((range.state=.probing ∨ range.state=.defending) ∧
   ∃! e, e∈mc.ranges.toList ∧ e.2.data=some ref) ∨
   range.state=.released ∧ ∀e∈mc.ranges.toList,e.2.data≠some ref)

lemma storeInvariant_of_consistent (h:Consistent .closed mc) : StoreInvariant mc := by
 have howner:∀e∈mc.ranges.toList,∃ref,e.2.data=some ref ∧ Owns .closed mc ref e.1:=
  fun e he=>(h.owner e he).resolve_left fun hhole=>by cases hhole.1
 refine ⟨h.ordered.searchTree,h.ordered.sorted,
  fun e he=>⟨h.ordered.proper e he,h.inPool e he⟩,h.refsNodup,fun e he=>?_,
  fun ref href=>?_⟩
 · obtain ⟨ref,hdata,range,hs,hlive,hi,hq⟩:=howner e he
   exact ⟨ref,range,hdata,hs,hlive,hi,hq.resolve_right (by rintro ⟨⟩)⟩
 · obtain ⟨range,hs,hcase⟩:=h.settled ref href
   refine ⟨range,hs,?_⟩
   rcases hcase with hrel|⟨hlive,hhome|⟨e,he,hdata⟩⟩
   · refine .inr ⟨hrel,fun e he hdata=>?_⟩
     obtain ⟨ref',hdata',range',hs',hlive,-⟩:=howner e he
     obtain rfl:ref=ref':=some.inj (hdata.symm.trans hdata')
     obtain rfl:=some.inj (hs.symm.trans hs')
     rcases hlive with hl|hl<;>· rw[hrel] at hl;cases hl
   · cases hhome
   · exact .inl ⟨hlive,e,⟨he,hdata⟩,fun e' he'=>
      h.entry_eq_of_data he'.1 he (he'.2.trans hdata.symm)⟩

theorem reachable_storeInvariant (h:Reachable env mc) : StoreInvariant mc :=
 storeInvariant_of_consistent h.consistent.1

def steadyEnv : Env where
 random := fun n=>n
 clock:=fun n=>⟨n,0⟩
 malloc:=fun _=>true

theorem reachable_storeInvariant_reserved : StoreInvariant (maapReserveRange steadyEnv
  (maapInitClient (blank 0x91E0F000FF00 0x0200000000AA) 0 0x91E0F0000000 0xFE00).1
  0 0x91E0F0000010 8).1 := reachable_storeInvariant (.step (.init _ _ _ _ _ (by decide) (by decide))
  (.call (.reserve 0 0x91E0F0000010 8) rfl) (by decide))

/-- Claims are for blocks of the pool, and what is defended was so before or is announced. -/
theorem calls_claim_and_announce (calls:List Call) (hrun:Reachable env mc)
 (h:runCalls env calls mc=some mc') : (∃packets,mc'.queued=mc.queued++packets ∧ ∀b∈packets,ClaimBytes mc b) ∧
 ∀z,Holds mc' z → z.state=.defending → Holds mc z ∨ announceFor mc z∈mc'.queued := by
 induction calls generalizing mc with
 | nil=>
  cases h
  exact ⟨⟨[],(append_nil _).symm,by simp⟩,fun z hz _=>.inl hz⟩
 | cons c calls ih=>
  obtain ⟨called,hcall,hrest⟩:=bind_eq_some_iff.1 h
  split_ifs at hrest with hlate
  have hfree:=Bool.eq_false_iff.2 hlate
  have hadv:=Call.advances hcall hfree hrun.consistent.1 hrun.consistent.2
  obtain ⟨⟨later,hlater,hclaims⟩,hfate⟩:=ih (.step hrun (.call c hcall) hfree) hrest
  obtain ⟨packets,hq,hpackets⟩:=hadv.queued
  refine ⟨⟨packets++later,by rw[hlater,hq,append_assoc],fun b hb=>?_⟩,fun z hz hst=>?_⟩
  · rcases mem_append.1 hb with hb|hb
    · exact hpackets b hb
    · exact (claimBytes_config hadv.config).1 (hclaims b hb)
  · rcases hfate z hz hst with hz|hann
    · rcases hadv.fate z hz with hz|⟨hprobing,-⟩|⟨-,-,hann⟩
      · exact .inl hz
      · cases hst.symm.trans hprobing
      · exact .inr (hlater▸mem_append_left _ hann)
    · exact .inr (announceFor_config hadv.config z▸hann)

theorem calls_claim_and_announce_reserved : let mc:=(maapInitClient (blank 1 2) 0 0 8).1
 let block:Holding:=⟨0,.defending,false,0,3⟩
 ∃mc',runCalls steadyEnv [.reserve 0 0 4,.timer 1,.timer 1,.timer 1,.timer 1] mc=some mc' ∧
  mc'.queued.length=5 ∧ (∃packets,mc'.queued=mc.queued++packets ∧ ∀b∈packets,ClaimBytes mc b) ∧
  Holds mc' block ∧ announceFor mc block∈mc'.queued := by
 intro mc block
 have hrun:(runCalls steadyEnv [.reserve 0 0 4,.timer 1,.timer 1,.timer 1,.timer 1] mc).map
  (fun mc'=>(mc'.queued.length,decide (Holds mc' block)))=some (5,true):=by decide +kernel
 obtain ⟨mc',h,hafter⟩:=map_eq_some_iff.1 hrun
 obtain ⟨hlength,hholds⟩:=Prod.mk.inj hafter
 have hblock:=of_decide_eq_true hholds
 have hnew:¬Holds mc block:=by decide +kernel
 obtain ⟨hclaims,hfate⟩:=calls_claim_and_announce _
  (Reachable.init 1 2 0 0 8 (by decide) (by decide)) h
 exact ⟨mc',h,hlength,hclaims,hblock,(hfate block hblock rfl).resolve_left hnew⟩

end MaapRuns

end OpenAvnu
