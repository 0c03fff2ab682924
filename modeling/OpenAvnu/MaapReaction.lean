import OpenAvnu.MaapConflict

/-!
# Yielding, and the reaction to one packet

A range that loses gets a replacement while it still occupies its block.
-/

namespace OpenAvnu

open MaapPacket MaapTimer MaapClient MaapDaemon MaapFrame MaapPlacement MaapStore MaapHoldings List

namespace MaapResolve

open MaapConflict

variable {mc:Client} {gaps:Gaps} {ref:Nat} {mc:Client} (env:Env)

section
variable (h:Consistent gaps mc)
include h

lemma referenced_lt {r:Nat} (hr:Consistent.Referenced mc r) : r < mc.mallocs := by
 rcases hr with hq|⟨e,he,hd⟩
 · obtain ⟨range,hs,-⟩:=h.settled r hq
   exact h.storeFresh r range hs
 · rcases h.owner e he with ⟨-,hnone⟩|⟨r',hr',range,hs,-⟩
   · rw[hd] at hnone
     cases hnone
   · obtain rfl:r=r':=Option.some.inj (hd.symm.trans hr')
     exact h.storeFresh r range hs

lemma consistent_withRange (range:Range) : Consistent gaps (withRange mc range) := by
 refine h.congr rfl rfl rfl le_rfl ?_ ?_
 · intro r range' hr
   simp only[withRange] at hr ⊢
   split at hr
   · omega
   · exact Nat.lt_succ_of_lt (h.storeFresh r range' hr)
 · intro r range' href hr
   have hne:r≠mc.mallocs:=(referenced_lt h href).ne
   exact ⟨range',by simp[withRange,hne,hr],.of_eq rfl rfl⟩

lemma holds_withRange (range:Range) (x:Holding) : Holds (withRange mc range) x↔Holds mc x := by
 refine holds_of_agree mc (withRange mc range) rfl (fun e he r hr=>?_) x
 have hne:r≠mc.mallocs:=(referenced_lt h (.inr ⟨e,he,hr⟩)).ne
 simp[withRange,hne]

lemma consistent_freeRange (hfree:¬Consistent.Referenced mc ref) : Consistent gaps (freeRange mc ref) := by
 refine h.congr rfl rfl rfl le_rfl ?_ ?_
 · intro r range hr
   simp only[freeRange] at hr ⊢
   split at hr
   · cases hr
   · exact h.storeFresh r range hr
 · intro r range href hr
   have hne:r≠ref:=fun heq=>hfree (heq▸href)
   exact ⟨range,by simp[freeRange,hne,hr],.of_eq rfl rfl⟩

end

lemma holds_freeRange (hfree:¬Consistent.Referenced mc ref) (x:Holding) :
 Holds (freeRange mc ref) x↔Holds mc x := by
 refine holds_of_agree mc (freeRange mc ref) rfl (fun e he r hr=>?_) x
 have hne:r≠ref:=fun heq=>hfree (.inr ⟨e,he,heq▸hr⟩)
 simp[freeRange,hne]

structure Reserved (mc:Client) (fresh:Option Holding) (packets:List (List UInt8))
 (mc':Client) : Prop where
 consistent:Consistent .closed mc'
 config:SameConfig mc mc'
 holds:∀x,Holds mc' x↔Holds mc x ∨ fresh=some x
 entries:∀e∈mc.ranges.toList,e∈mc'.ranges.toList
 store:∀r < mc.mallocs,∀range,mc.store r=some range →
  ∃range',mc'.store r=some range' ∧ essence range'=essence range
 queued:mc'.queued=mc.queued++packets
 late:mc'.late=mc.late
 mallocs:mc.mallocs ≤ mc'.mallocs

lemma reserve_placed {mc₁:Client} {range:Range} {start len node:Nat}
 (h:Consistent .closed mc) (hlive:range.state=.probing) (hflag:range.overlapping=false)
 (hlen:1≤len) (hsmall:len≤65535)
 (hp:Placed (withRange mc range) mc.mallocs start len node mc₁) : ∃y,mc.mallocs=y.ref ∧ Acquires mc y ∧
  Reserved mc (some y) [probeFor mc y] ((mc₁.scheduleTimer env mc.mallocs).sendProbe mc.mallocs) :=
    by
 have hcons:=consistent_withRange h range
 have hnew:∀e∈(withRange mc range).ranges.toList,e.2.data≠some mc.mallocs:=
  fun e he hd=>(referenced_lt h (.inr ⟨e,he,hd⟩)).ne rfl
 have hs:(withRange mc range).store mc.mallocs=some range:=by simp[withRange]
 have hfits:start+len ≤ mc.rangeLen:=hp.fits
 have hcons₁:=(hcons.allow_unqueued mc.mallocs).place hp hlen hsmall hs (.inl hlive) hnew
  (.inr rfl) fun r hr=>by cases hr
 obtain ⟨y,hy⟩:∃y:Holding,
  y=⟨mc.mallocs,range.state,range.overlapping,start,start+len-1⟩:=⟨_,rfl⟩
 have hholds:∀z,Holds mc₁ z↔Holds mc z ∨ some y=some z:=by
  intro z
  rw[holds_placed hp hs,holds_withRange h,hy]
  simp[eq_comm]
 have hyref:mc.mallocs=y.ref:=by rw[hy]
 have hkept:=schedule_send_spec env hcons₁ ((hholds y).2 (.inr rfl))
  (fun r hr=>by rw[←hyref];exact (Option.some.inj hr).symm) maapProbe
 have hsch:=scheduleTimer_spec env mc₁ y.ref
 rw[←hyref] at hkept hsch
 have hconfig:SameConfig mc mc₁:=
  ⟨hp.config.1,hp.config.2,hp.config.3,hp.config.4,hp.config.5⟩
 refine ⟨y,hyref,?_,hkept.consistent,hconfig.trans hkept.config,?_,?_,?_,?_,hkept.late.trans hp.late,?_⟩
 · subst hy
   refine ⟨hlive,hflag,by simp only;omega,by simp only;omega,by simp only;omega,?_⟩
   rintro z ⟨⟨n,hn⟩,-⟩
   exact hp.free _ hn
 · exact fun z=>(hkept.holds z).trans (hholds z)
 · intro e he
   change e∈(mc₁.scheduleTimer env mc.mallocs).ranges.toList
   rw[hsch.ranges]
   exact (hp.entries e).2 (.inr he)
 · intro r hr range' hs'
   have hold:(withRange mc range).store r=some range':=by
    simp[withRange,hr.ne,hs']
   exact (hp.sameRanges.trans hsch.sameRanges).get hold
 · rw[Client.sendProbe,hkept.queued,claimFor_config hconfig]
   exact congrArg (· ++ _) hp.queued
 · rw[Client.sendProbe,hkept.mallocs,hp.mallocs]
   exact Nat.le_succ _

lemma Reserved.notify {mc':Client} {fresh:Option Holding} {packets:List (List UInt8)}
 (h:Reserved mc fresh packets mc') (notes:List (Nat×Notify)) (timer:Option Time) :
 Reserved mc fresh packets {mc' with notifies:=notes,timer:=timer} := ⟨h.consistent.congr_store le_rfl rfl rfl,
  ⟨h.config.1,h.config.2,h.config.3,h.config.4,h.config.5⟩,h.holds,h.entries,h.store,h.queued,h.late,h.mallocs⟩

lemma reserve_failed (h:Consistent .closed mc) (range:Range) {callocs draws:Nat}
 (hcallocs:mc.callocs ≤ callocs) (maxid:Int) (notes:List (Nat×Notify)) :
 Reserved mc none [] (freeRange {withRange mc range with
  callocs:=callocs, draws:=draws, maxid:=maxid, notifies:=notes} mc.mallocs) := by
 have hcons:Consistent .closed {withRange mc range with
  callocs:=callocs, draws:=draws, maxid:=maxid, notifies:=notes}:=
  (consistent_withRange h range).congr_store hcallocs rfl rfl
 have hfree:¬Consistent.Referenced {withRange mc range with
  callocs:=callocs, draws:=draws, maxid:=maxid, notifies:=notes} mc.mallocs:=
  fun href=>(referenced_lt h href).ne rfl
 refine ⟨consistent_freeRange hcons hfree,⟨rfl,rfl,rfl,rfl,rfl⟩,?_,fun e he=>he,?_,
  (append_nil _).symm,rfl,Nat.le_succ _⟩
 · intro z
   rw[holds_freeRange hfree]
   simp only[reduceCtorEq,or_false]
   exact holds_withRange h range z
 · intro r hr range' hs
   exact ⟨range',by simp[freeRange,withRange,hr.ne,hs],rfl⟩

lemma reserve_outOfMemory (h:Consistent .closed mc) (notes:List (Nat×Notify)) :
 Reserved mc none [] {mc with mallocs:=mc.mallocs+1,notifies:=notes} := by
 refine ⟨h.congr rfl rfl rfl le_rfl ?_ fun r range _ hr=>⟨range,hr,.of_eq rfl rfl⟩,
  ⟨rfl,rfl,rfl,rfl,rfl⟩,?_,fun e he=>he,fun r _ range hr=>⟨range,hr,rfl⟩,(append_nil _).symm,rfl,Nat.le_succ _⟩
 · exact fun r range hr=>Nat.lt_succ_of_lt (h.storeFresh r range hr)
 · intro z
   simp only[reduceCtorEq,or_false]
   exact Iff.rfl

lemma requestReplacement_spec {x:Holding} (h:Consistent .closed mc) (hx:Holds mc x)
 (hlate:(requestReplacement env mc x.block x.ref).late=false) :
 Reserved mc none [] (requestReplacement env mc x.block x.ref) ∨
 ∃y,mc.mallocs=y.ref ∧ Acquires mc y ∧
  Reserved mc (some y) [probeFor mc y] (requestReplacement env mc x.block x.ref) := by
 have hsmall:=holds_small h hx
 have hsize:=sizeOf16_block h hx
 simp only[requestReplacement] at hlate ⊢
 by_cases hmalloc:env.malloc mc.mallocs
 · simp only[hmalloc] at hlate ⊢
   generalize hrange:newRange env mc (mc.range x.ref).id (mc.range x.ref).sender=range
    at hlate ⊢
   have hcons:=consistent_withRange h range
   have hassign:=assignInterval_spec env (withRange mc range) mc.mallocs
    (show 1 ≤ sizeOf16 x.block by omega) hcons.poolSize
    (fun hfits=>attempt_in_pool (by omega) hfits hcons.poolSize
     (show 0+sizeOf16 x.block≤2^64 by omega))
   generalize (withRange mc range).assignInterval env mc.mallocs 0 (sizeOf16 x.block)=assigned
    at hassign hlate ⊢
   obtain ⟨mc₁,ok⟩:=assigned
   rcases assigned_cases hcons.ordered hcons.refsNodup hcons.nodeFresh (by omega) hassign with
    ⟨rfl,start,node,hp⟩ | ⟨rfl,callocs,draws,hc,rfl⟩ | ⟨rfl,hl⟩
   · obtain ⟨y,hyref,hacq,hres⟩:=reserve_placed env h (by rw[←hrange];rfl)
      (by rw[←hrange];rfl) (by omega) (by omega) hp
     exact .inr ⟨y,hyref,hacq,hres.notify _ _⟩
   · exact .inl (reserve_failed h range hc mc.maxid _)
   · exact absurd (hl.symm.trans hlate) (by decide)
 · simp only[hmalloc] at hlate ⊢
   exact .inl (reserve_outOfMemory h _)

end MaapResolve

/-! ## The reaction to a received packet -/

namespace MaapReaction

open MaapConflict MaapResolve

variable {gaps:Gaps} {mc mc':Client}

lemma consistent_setOverlapping (h:Consistent gaps mc) (ref:Nat) (flag:Bool) :
 Consistent gaps (setOverlapping mc ref flag) := h.modify ref fun _ _=>.of_eq rfl rfl

variable {x:Holding}

lemma holds_setOverlapping (h:Consistent gaps mc) (hx:Holds mc x) (flag:Bool)
 (z:Holding) : Holds (setOverlapping mc x.ref flag) z ↔
  (Holds mc z ∧ z.ref≠x.ref) ∨ some {x with flagged:=flag}=some z :=
 holds_modify_held (y:={x with flagged:=flag}) (consistent_setOverlapping h x.ref flag) hx
  rfl rfl (fun _ hm=>⟨hm.1,rfl⟩) z

def defendFor (mc:Client) (low high:Nat) (p:Packet) : Packet :=
 let conflictStart:=max (uint64 (mc.addressBase+low)) p.requestedStartAddress
 let conflictEnd:=min (uint64 (mc.addressBase+high))
  (uint64 (p.requestedStartAddress+p.requestedCount+(2^64-1)))
 {initPacket mc.destMac mc.srcMac with
   da:=p.sa
   messageType:=maapDefend
   requestedStartAddress:=p.requestedStartAddress
   requestedCount:=p.requestedCount
   conflictStartAddress:=conflictStart
   conflictCount:=uint16 (conflictEnd+1+(2^64-conflictStart))}

lemma defendPacket_eq (h:Consistent gaps mc) (hx:Holds mc x) (p:Packet) :
 mc.defendPacket x.ref p.requestedStartAddress p.requestedCount p.sa=defendFor mc x.low x.high p := by
 obtain ⟨⟨n,hn⟩,-⟩:=hx
 have hiv:mc.intervalOf x.ref=x.block:=intervalOf_eq h hn rfl
 rw[Client.defendPacket,Client.getStartAddress,Client.getEndAddress,hiv]
 rfl

def Wins (mc:Client) (p:Packet) : Prop := compareMacAddresses mc.srcMac p.sa=true

inductive Resolution (p:Packet) (mc:Client) (x:Holding) (mc':Client) : Prop where
 | keep (hwins:Wins mc p)
  (hwhy:x.state=.probing ∧ p.messageType=maapProbe ∨
   x.state=.defending ∧ p.messageType≠maapProbe)
  (heff:Effect mc x.ref (some {x with flagged := false}) [] mc')
 | defend (hstate:x.state=.defending) (hprobe:p.messageType=maapProbe)
  (heff:Effect mc x.ref (some {x with flagged := false})
   [packMaap (defendFor mc x.low x.high p)] mc')
 | move (y:Holding) (hstate:x.state=.probing) (hlost:¬(p.messageType=maapProbe ∧ Wins mc p))
  (href:y.ref=x.ref) (hacq:Acquires mc y)
  (heff:Effect mc x.ref (some y) [probeFor mc y] mc')
 | giveUp (hstate:x.state=.probing) (hlost:¬(p.messageType=maapProbe ∧ Wins mc p))
  (heff:Effect mc x.ref none [] mc') (hrel:Released mc' x.ref)
 | yield (fresh:Option Holding) (packets:List (List UInt8)) (hstate:x.state=.defending)
  (hprobe:p.messageType≠maapProbe) (hlost:¬Wins mc p)
  (hfresh:fresh=none ∧ packets=[] ∨
   ∃y,fresh=some y ∧ packets=[probeFor mc y] ∧ y.ref=mc.mallocs ∧ Acquires mc y)
  (heff:Effect mc x.ref fresh packets mc') (hrel:Released mc' x.ref)

lemma Effect.of_cleared (h:Consistent gaps mc) (hx:Holds mc x) {fresh:Option Holding}
 {packets:List (List UInt8)}
 (heff:Effect (setOverlapping mc x.ref false) x.ref fresh packets mc') : Effect mc x.ref fresh packets mc' := by
 refine ⟨heff.consistent,⟨heff.config.1,heff.config.2,heff.config.3,heff.config.4,
  heff.config.5⟩,fun z=>?_,heff.queued,heff.late,heff.mallocs⟩
 rw[heff.holds,holds_setOverlapping h hx]
 constructor
 · rintro (⟨hz|hz,hne⟩|hz)
   · exact .inl hz
   · exact absurd (congrArg Holding.ref (Option.some.inj hz)).symm hne
   · exact .inr hz
 · rintro (hz|hz)
   · exact .inl ⟨.inl hz,hz.2⟩
   · exact .inr hz

lemma Acquires.of_cleared (h:Consistent gaps mc) {x y:Holding} (hx:Holds mc x)
 (hacq:Acquires (setOverlapping mc x.ref false) y) : Acquires mc y := by
 refine ⟨hacq.state,hacq.flagged,hacq.proper,hacq.fits,hacq.small,fun z hz=>?_⟩
 by_cases hne:z.ref=x.ref
 · obtain rfl:=holds_unique h hz hx hne
   exact hacq.free {z with flagged:=false} ((holds_setOverlapping h hx false _).2 (.inr rfl))
 · exact hacq.free z ((holds_setOverlapping h hx false z).2 (.inl ⟨hz,hne⟩))

variable {node:Nat} (env:Env)

lemma yield_spec (h:Consistent .closed mc) (hnode:(node,x.block)∈mc.ranges.toList)
 (hx:Holds mc x)
 (hlate:(releaseAt (requestReplacement env mc x.block x.ref) node x.ref).late=false) :
 ∃fresh packets,(fresh=none ∧ packets=[] ∨
  ∃y,fresh=some y ∧ packets=[probeFor mc y] ∧ y.ref=mc.mallocs ∧ Acquires mc y) ∧
  Effect mc x.ref fresh packets
   (releaseAt (requestReplacement env mc x.block x.ref) node x.ref) ∧
  Released (releaseAt (requestReplacement env mc x.block x.ref) node x.ref) x.ref := by
 have hlate':(requestReplacement env mc x.block x.ref).late=false:=by
  rw[←hlate]
  exact (late_removeRangeInterval _ node).symm
 have hold:x.ref < mc.mallocs:=by
  obtain ⟨range,hs,-⟩:=holds_owner h hx
  exact h.storeFresh _ _ hs
 have hcompose:∀{fresh packets},(∀y,fresh=some y → mc.mallocs=y.ref) →
  Reserved mc fresh packets (requestReplacement env mc x.block x.ref) →
  Effect mc x.ref fresh packets
   (releaseAt (requestReplacement env mc x.block x.ref) node x.ref) ∧
  Released (releaseAt (requestReplacement env mc x.block x.ref) node x.ref) x.ref:=by
  intro fresh packets hfresh hres
  obtain ⟨heff,hrel⟩:=releaseAt_holding hres.consistent (hres.entries _ hnode)
   ((hres.holds x).2 (.inl hx))
  refine ⟨⟨heff.consistent,hres.config.trans heff.config,fun z=>?_,?_,
   heff.late.trans hres.late,hres.mallocs.trans heff.mallocs⟩,hrel⟩
  · rw[heff.holds,hres.holds]
    constructor
    · rintro (⟨hz|hz,hne⟩|hz)
      · exact .inl ⟨hz,hne⟩
      · exact .inr hz
      · cases hz
    · rintro (hz|hz)
      · exact .inl ⟨.inl hz.1,hz.2⟩
      · refine .inl ⟨.inr hz,?_⟩
        rw[←hfresh z hz]
        exact hold.ne'
  · rw[heff.queued,hres.queued,append_nil]
 rcases requestReplacement_spec env h hx hlate' with hres|⟨y,hyref,hacq,hres⟩
 · exact ⟨none,[],.inl ⟨rfl,rfl⟩,hcompose (by rintro y ⟨⟩) hres⟩
 · refine ⟨some y,[probeFor mc y],.inr ⟨y,rfl,rfl,hyref.symm,hacq⟩,hcompose ?_ hres⟩
   rintro z ⟨⟩
   exact hyref

variable (p:Packet)

variable (h:Consistent .closed mc) (hnode:(node,x.block)∈mc.ranges.toList) (hx:Holds mc x)
include h hnode hx

lemma reactTo_spec (hflag:x.flagged=false)
 (hlate:(reactTo env p mc node x.block x.ref).late=false) :
 Resolution p mc x (reactTo env p mc node x.block x.ref) := by
 obtain ⟨range,hs,hlive,⟨hst,-⟩,-⟩:=holds_owner h hx
 have hsame:{x with flagged:=false}=x:=by rw[←hflag]
 -- a range that keeps its block
 have hkeep:∀z,Holds mc z↔(Holds mc z ∧ z.ref≠x.ref) ∨ some x=some z:=by
  intro z
  constructor
  · intro hz
    by_cases hne:z.ref=x.ref
    · exact .inr (congrArg some (holds_unique h hx hz hne.symm))
    · exact .inl ⟨hz,hne⟩
  · rintro (hz|hz)
    · exact hz.1
    · exact Option.some.inj hz▸hx
 unfold reactTo at hlate ⊢
 rw[range_eq hs] at hlate ⊢
 rcases hlive with hprobing|hdefending
 · have hstate:x.state=.probing:=hst.symm.trans hprobing
   simp only[hprobing] at hlate ⊢
   by_cases hwin:p.messageType=maapProbe ∧ compareMacAddresses mc.srcMac p.sa=true
   · rw[if_pos hwin]
     refine .keep hwin.2 (.inl ⟨hstate,hwin.1⟩) ?_
     rw[hsame]
     exact ⟨h,.refl mc,hkeep,(append_nil _).symm,rfl,le_rfl⟩
   · rw[if_neg hwin] at hlate ⊢
     rcases relocate_spec env h hnode hx hstate hflag hlate with
      ⟨heff,hrel⟩ | ⟨y,hyref,hacq,heff⟩
     · exact .giveUp hstate hwin heff hrel
     · exact .move y hstate hwin hyref hacq heff
 · have hstate:x.state=.defending:=hst.symm.trans hdefending
   simp only[hdefending] at hlate ⊢
   by_cases hprobe:p.messageType=maapProbe
   · rw[if_pos hprobe,Client.sendDefend,defendPacket_eq h hx]
     refine .defend hstate hprobe ?_
     rw[hsame]
     exact ⟨h.congr_store le_rfl rfl rfl,⟨rfl,rfl,rfl,rfl,rfl⟩,hkeep,rfl,rfl,le_rfl⟩
   · rw[if_neg hprobe] at hlate ⊢
     by_cases hwin:compareMacAddresses mc.srcMac p.sa=true
     · rw[if_pos hwin]
       refine .keep hwin (.inr ⟨hstate,hprobe⟩) ?_
       rw[hsame]
       exact ⟨h,.refl mc,hkeep,(append_nil _).symm,rfl,le_rfl⟩
     · rw[if_neg hwin] at hlate ⊢
       obtain ⟨fresh,packets,hfresh,heff,hrel⟩:=yield_spec env h hnode hx hlate
       exact .yield fresh packets hstate hprobe hwin hfresh heff hrel

lemma resolveConflict_spec
 (hlate:(resolveConflict env p mc node x.block x.ref).late=false) :
 Resolution p mc x (resolveConflict env p mc node x.block x.ref) := by
 have hcleared:Holds (setOverlapping mc x.ref false) {x with flagged:=false}:=
  (holds_setOverlapping h hx false _).2 (.inr rfl)
 have hres:=reactTo_spec (x:={x with flagged:=false}) env p
  (consistent_setOverlapping h x.ref false) hnode hcleared rfl hlate
 cases hres with
 | keep hwins hwhy heff=>exact .keep hwins hwhy (Effect.of_cleared h hx heff)
 | defend hstate hprobe heff=>exact .defend hstate hprobe (Effect.of_cleared h hx heff)
 | move y hstate hlost href hacq heff=>
  exact .move y hstate hlost href (Acquires.of_cleared h hx hacq) (Effect.of_cleared h hx heff)
 | giveUp hstate hlost heff hrel=>
  exact .giveUp hstate hlost (Effect.of_cleared h hx heff) hrel
 | yield fresh packets hstate hprobe hlost hfresh heff hrel=>
  refine .yield fresh packets hstate hprobe hlost (hfresh.imp_right ?_)
   (Effect.of_cleared h hx heff) hrel
  rintro ⟨y,hy,hpk,hyref,hacq⟩
  exact ⟨y,hy,hpk,hyref,Acquires.of_cleared h hx hacq⟩

end MaapReaction

end OpenAvnu
