import OpenAvnu.MaapHoldings

/-!
# One range reacts to a packet

The range is kept, moved to free addresses, replaced or released.
-/

namespace OpenAvnu.MaapConflict

open Intervals MaapPacket MaapClient MaapDaemon MaapFrame MaapPlacement MaapStore MaapHoldings List

@[simp] lemma late_repoint (fuel:Nat) (e:Option (Entry Nat)) (mc:Client) :
 (Client.repoint fuel e mc).late=mc.late := by
 induction fuel generalizing e mc with
 | zero=>rfl
 | succ fuel ih=>
  cases e with
  | none=>rfl
  | some e=>
   simp only[Client.repoint,ih]
   split<;>rfl

variable (mc:Client) (env:Env) (p:Packet) {node:Nat} {gaps:Gaps}

@[simp] lemma late_removeRangeInterval (node:Nat) : (mc.removeRangeInterval node).late=mc.late := by
 unfold Client.removeRangeInterval
 split
 · simp
 · rfl
@[simp] lemma late_scheduleTimer (mc:Client) (ref:Nat) :
 (mc.scheduleTimer env ref).late=mc.late := (scheduleTimer_spec env mc ref).late
lemma late_tryInterval (start len:Nat) : (mc.tryInterval start len).1.late=mc.late := by
 simp only[Client.tryInterval]
 split<;>rfl

lemma late_tryRandom (len tries:Nat) (mc:Client) : (Client.tryRandom env len tries mc).1.late=mc.late := by
 induction tries generalizing mc with
 | zero=>rfl
 | succ tries ih=>
  have htry:=late_tryInterval {mc with draws:=mc.draws+1}
   (env.random mc.draws%uint32 (mc.rangeLen+1+(2^32-len))) len
  simp only[Client.tryRandom]
  split
  · rename_i heq
    rw[heq] at htry
    exact htry
  · rename_i heq
    rw[heq] at htry
    rw[ih]
    exact htry

lemma late_assignInterval (mc:Client) (ref attemptBase len:Nat) (h:mc.late=true) :
 (mc.assignInterval env ref attemptBase len).1.late=true := by
 have hattempt:(mc.tryAttempt attemptBase len).1.late=true:=by
  unfold Client.tryAttempt
  split
  · rw[late_tryInterval,h]
  · exact h
 unfold Client.assignInterval
 split
 · exact h
 · split
   · rename_i heq
     rw[heq] at hattempt
     exact hattempt
   · rename_i mc' heq
     rw[heq] at hattempt
     have hrandom:=late_tryRandom env len 1000 mc'
     split<;>rename_i heq'
     · rw[heq'] at hrandom
       exact hrandom.trans hattempt
     · rfl
     · rw[heq'] at hrandom
       exact hrandom.trans hattempt

variable {mc:Client}

section
variable (node:Nat) (iv:Interval Nat) (ref:Nat) (h:mc.late=true)
include h

lemma late_relocate : (relocate env mc node iv ref).late=true := by
 have hassign:=late_assignInterval env {mc with ranges:=mc.ranges.setData node none}
  ref 0 (sizeOf16 iv) h
 simp only[relocate]
 split
 · simp only[reprobe,Client.sendProbe,Client.sendPacket,late_scheduleTimer]
   exact (late_removeRangeInterval _ node).trans hassign
 · exact (late_removeRangeInterval _ node).trans hassign

lemma late_requestReplacement : (requestReplacement env mc iv ref).late=true := by
 have hassign:=late_assignInterval env (withRange mc (newRange env mc (mc.range ref).id
  (mc.range ref).sender)) mc.mallocs 0 (sizeOf16 iv) h
 simp only[requestReplacement]
 generalize Client.assignInterval env _ mc.mallocs 0 (sizeOf16 iv)=assigned at hassign ⊢
 split_ifs
 · exact h
 · exact (late_scheduleTimer env assigned.1 mc.mallocs).trans hassign
 · exact hassign

lemma late_reactTo : (reactTo env p mc node iv ref).late=true := by
 unfold reactTo
 split
 · split
   · exact h
   · exact late_relocate env node iv ref h
 · split
   · exact h
   · split
     · exact h
     · exact (late_removeRangeInterval _ node).trans (late_requestReplacement env iv ref h)
 · exact h

end

lemma late_resolveConflicts (start num:Nat) (h:mc.late=true) :
 (resolveConflicts env p start num mc).late=true := by
 induction num generalizing mc with
 | zero=>exact h
 | succ num ih=>
  simp only[resolveConflicts]
  split
  · exact ih (late_reactTo env p _ _ _ h)
  · exact h

structure Effect (mc:Client) (ref:Nat) (fresh:Option Holding) (packets:List (List UInt8))
 (mc':Client) : Prop where
 consistent:Consistent .closed mc'
 config:SameConfig mc mc'
 holds:∀x,Holds mc' x↔(Holds mc x ∧ x.ref≠ref) ∨ fresh=some x
 queued:mc'.queued=mc.queued++packets
 late:mc'.late=mc.late
 mallocs:mc.mallocs ≤ mc'.mallocs

structure Acquires (mc:Client) (y:Holding) : Prop where
 state:y.state=.probing
 flagged:y.flagged=false
 proper:y.low≤y.high
 fits:y.high < mc.rangeLen
 small:y.high<y.low+65535
 free:∀x,Holds mc x → x.high<y.low ∨ y.high<x.low

def probeFor (mc:Client) (y:Holding) : List UInt8 := packMaap (claimFor mc maapProbe y.low y.high)

/-- The released range stays in the store until its timer elapses. -/
def Released (mc:Client) (ref:Nat) : Prop := ∃range,mc.store ref=some range ∧ range.state=.released

section Facts
variable {gaps:Gaps} {mc:Client} {x:Holding}

section
variable (h:Consistent gaps mc)
include h

lemma holds_low_le_high (hx:Holds mc x) : x.low≤x.high := by
 obtain ⟨⟨n,hn⟩,-⟩:=hx
 exact h.ordered.proper _ hn
lemma holds_in_pool (hx:Holds mc x) : x.high < mc.rangeLen := by
 obtain ⟨⟨n,hn⟩,-⟩:=hx
 exact h.inPool _ hn
lemma holds_small (hx:Holds mc x) : x.high<x.low+65535 := by
 obtain ⟨⟨n,hn⟩,-⟩:=hx
 exact h.small _ hn

lemma sizeOf16_block (hx:Holds mc x) : sizeOf16 x.block=x.high-x.low+1 := by
 have hle:=holds_low_le_high h hx
 have hpool:=holds_in_pool h hx
 have hsmall:=holds_small h hx
 have hlen:=h.poolSize
 simp only[sizeOf16,Holding.block,uint16,uint32]
 omega

end

lemma holds_owner (h:Consistent .closed mc) (hx:Holds mc x) :
 ∃range,mc.store x.ref=some range ∧ Live range ∧ Matches range x ∧
  x.ref∈mc.timerQueue := by
 obtain ⟨⟨n,hn⟩,range,hs,hm⟩:=hx
 rcases h.owner _ hn with ⟨hhole,-⟩|⟨r,hr,range',hs',hlive,-,hq⟩
 · cases hhole
 · cases hr
   obtain rfl:=Option.some.inj (hs.symm.trans hs')
   refine ⟨range,hs,hlive,hm,hq.resolve_right ?_⟩
   rintro ⟨⟩

lemma holds_of_entry (h:Consistent .closed mc) {node r:Nat} {iv:Interval Nat}
 (hmem:(node,iv)∈mc.ranges.toList) (hdata:iv.data=some r) :
 Holds mc ⟨r,(mc.range r).state,(mc.range r).overlapping,iv.low,iv.high⟩ := by
 rcases h.owner _ hmem with ⟨hhole,-⟩|⟨r',hr',range,hs,-⟩
 · cases hhole
 · obtain rfl:r=r':=Option.some.inj (hdata.symm.trans hr')
   refine ⟨⟨node,?_⟩,range,hs,?_⟩
   · obtain ⟨low,high,data⟩:=iv
     subst hdata
     exact hmem
   · rw[range_eq hs]
     exact ⟨rfl,rfl⟩

end Facts

lemma releaseAt_spec {hole homeless:Option Nat} {r:Nat} {iv:Interval Nat}
 (h:Consistent ⟨hole,homeless,none⟩ mc) (hmem:(node,iv)∈mc.ranges.toList)
 (hhole:∀n,hole=some n → n=node) (hhome:∀r',homeless=some r' → r'=r)
 (hdata:∀r',iv.data=some r' → r'=r)
 (honly:∀e∈mc.ranges.toList,e.1≠node → e.2.data≠some r)
 (hstore:∃range,mc.store r=some range) :
 Effect mc r none [] (releaseAt mc node r) ∧ Released (releaseAt mc node r) r := by
 have hu:=removeRangeInterval_spec h.ordered h.refsNodup h.data_nodup hmem
 have hfree:∀e∈(mc.removeRangeInterval node).ranges.toList,e.2.data≠some r:=by
  intro e he
  obtain ⟨n,hne,hn⟩:=(hu.contents e.2).1 ⟨e.1,he⟩
  exact honly (n,e.2) hn hne
 have hcons:Consistent ⟨none,some r,none⟩ (mc.removeRangeInterval node):=
  h.unplace hu hmem hhole fun r' hr'=>by rw[hr'.elim (hhome r') (hdata r')]
 obtain ⟨range,hs⟩:=hstore
 obtain ⟨range',hs',-⟩:=hu.sameRanges.get hs
 refine ⟨⟨hcons.release (fun r' hr'=>(Option.some.inj hr').symm) hfree,
  ⟨hu.config.1,hu.config.2,hu.config.3,hu.config.4,hu.config.5⟩,?_,?_,hu.late,
  hu.mallocs.ge⟩,⟨{range' with state:=.released},?_,rfl⟩⟩
 · intro x
   rw[releaseAt,setState,holds_modify_free hfree,holds_unplaced h hu hmem]
   have hiff:Holds mc x → (iv.data≠some x.ref↔x.ref≠r):=by
    rintro ⟨⟨n,hn⟩,-⟩
    refine ⟨?_,fun hne hd=>hne (hdata _ hd)⟩
    rintro hd rfl
    have hnode:n≠node:=by
     rintro rfl
     exact hd (congrArg (fun e=>e.2.data) (h.entry_eq hn hmem rfl)).symm
    exact honly _ hn hnode rfl
   constructor
   · rintro ⟨hx,hd⟩
     exact .inl ⟨hx,(hiff hx).1 hd⟩
   · rintro (⟨hx,hne⟩|hnone)
     · exact ⟨hx,(hiff hx).2 hne⟩
     · cases hnone
 · change (mc.removeRangeInterval node).queued=_
   simpa using hu.queued
 · change (if r=r then _ else _)=_
   rw[if_pos rfl,hs']
   rfl

variable {x:Holding}

lemma releaseAt_holding (h:Consistent .closed mc) (hnode:(node,x.block)∈mc.ranges.toList)
 (hx:Holds mc x) :
 Effect mc x.ref none [] (releaseAt mc node x.ref) ∧ Released (releaseAt mc node x.ref) x.ref := by
 obtain ⟨range,hs,-⟩:=holds_owner h hx
 refine releaseAt_spec h hnode (fun n hn=>by cases hn) (fun r hr=>by cases hr)
  (fun r hr=>(Option.some.inj hr).symm) ?_ ⟨range,hs⟩
 intro e he hne hd
 exact hne (congrArg Prod.fst (h.entry_eq_of_data he hnode hd))

structure Kept (mc:Client) (packets:List (List UInt8)) (mc':Client) : Prop where
 consistent:Consistent .closed mc'
 config:SameConfig mc mc'
 holds:∀x,Holds mc' x↔Holds mc x
 queued:mc'.queued=mc.queued++packets
 late:mc'.late=mc.late
 mallocs:mc'.mallocs=mc.mallocs

lemma settled_of_holds (h:Consistent gaps mc) (hx:Holds mc x) : Settled gaps mc x.ref := by
 obtain ⟨⟨n,hn⟩,range,hs,-⟩:=hx
 rcases h.owner _ hn with ⟨-,hnone⟩|⟨r,hr,range',hs',hlive,-⟩
 · cases hnone
 · cases hr
   exact ⟨range',hs',.inr ⟨hlive,.inr ⟨_,hn,rfl⟩⟩⟩

lemma schedule_send_spec {unqueued:Option Nat} (h:Consistent ⟨none,none,unqueued⟩ mc)
 (hx:Holds mc x) (hunq:∀r,unqueued=some r → r=x.ref) (messageType:Nat) :
 Kept mc [packMaap (claimFor mc messageType x.low x.high)]
  ((mc.scheduleTimer env x.ref).sendPacket
   ((mc.scheduleTimer env x.ref).claimPacket messageType x.ref)) := by
 have hsch:=scheduleTimer_spec env mc x.ref
 have hcons:=h.schedule hsch (settled_of_holds h hx) hunq
 have hholds:=holds_congr hsch.ranges hsch.sameRanges
 refine ⟨hcons.congr_store le_rfl rfl rfl,?_,hholds,?_,hsch.late,hsch.mallocs⟩
 · exact ⟨hsch.config.1,hsch.config.2,hsch.config.3,hsch.config.4,hsch.config.5⟩
 · rw[claimPacket_eq hcons ((hholds x).2 hx),claimFor_config hsch.config]
   simp[Client.sendPacket,hsch.queued]

lemma holds_setCounter (ref counter:Nat) (x:Holding) : Holds (setCounter mc ref counter) x↔Holds mc x :=
 holds_modify_same (f:=fun range=>{range with counter:=counter}) (fun _=>⟨rfl,rfl⟩) x
lemma consistent_setCounter (h:Consistent gaps mc) (ref counter:Nat) :
 Consistent gaps (setCounter mc ref counter) := h.modify ref fun _ _=>.of_eq rfl rfl

lemma detached_entries (h:Consistent .closed mc) (hnode:(node,x.block)∈mc.ranges.toList) :
 (node,{x.block with data:=none})∈(mc.ranges.setData node none).toList ∧
  ∀e∈(mc.ranges.setData node none).toList,e.2.data≠some x.ref := by
 simp only[setData_toList,mem_map]
 refine ⟨⟨_,hnode,by simp⟩,?_⟩
 rintro e ⟨e',he',rfl⟩
 by_cases hn:e'.1=node
 · simp[hn]
 · simp only[hn]
   exact fun hd=>hn (congrArg Prod.fst (h.entry_eq_of_data he' hnode hd))

lemma setData_bounds {tree:Tree Nat} (node:Nat) (data:Option Nat) {e:Entry Nat}
 (he:e∈tree.toList) : ∃e'∈(tree.setData node data).toList,e'.2.low=e.2.low ∧ e'.2.high=e.2.high := by
 rw[setData_toList]
 refine ⟨_,mem_map_of_mem he,?_⟩
 split<;>exact ⟨rfl,rfl⟩

variable (h:Consistent .closed mc) (hnode:(node,x.block)∈mc.ranges.toList) (hx:Holds mc x)
 (hstate:x.state=.probing) (hflag:x.flagged=false)
include h hnode hx hstate hflag

lemma reprobe_spec {mc₁:Client} {start len fresh:Nat} (hlen:1≤len) (hsmall:len≤65535)
 (hp:Placed {mc with ranges:=mc.ranges.setData node none} x.ref start len fresh mc₁) :
 ∃y,y.ref=x.ref ∧ Acquires mc y ∧
  Effect mc x.ref (some y) [probeFor mc y] (reprobe env mc₁ node x.ref) := by
 obtain ⟨range,hs,hlive,⟨hst,hfl⟩,hq⟩:=holds_owner h hx
 obtain ⟨hmem,honly⟩:=detached_entries h hnode
 have hfits:start+len ≤ mc.rangeLen:=hp.fits
 have hcons₁:=(h.detach hnode rfl).place hp hlen hsmall hs hlive honly (.inl hq)
  fun r hr=>(Option.some.inj hr).symm
 have hcons₂:Consistent ⟨some node,none,none⟩ (mc₁.informAcquiring x.ref):=
  hcons₁.congr_store le_rfl rfl rfl
 have hmem₂:(node,{x.block with data:=none}) ∈
  (mc₁.informAcquiring x.ref).ranges.toList:=(hp.entries _).2 (.inr hmem)
 have hu:=removeRangeInterval_spec hcons₂.ordered hcons₂.refsNodup hcons₂.data_nodup hmem₂
 have hcons₃:Consistent .closed ((mc₁.informAcquiring x.ref).removeRangeInterval node):=
  hcons₂.unplace hu hmem₂ (fun n hn=>(Option.some.inj hn).symm)
   fun r hr=>by rcases hr with hr | hr<;>cases hr
 have hcons₄:=consistent_setCounter hcons₃ x.ref maapProbeRetransmits
 obtain ⟨y,hy⟩:∃y:Holding,
  y=⟨x.ref,range.state,range.overlapping,start,start+len-1⟩:=⟨_,rfl⟩
 have hholds:∀z,Holds (setCounter ((mc₁.informAcquiring x.ref).removeRangeInterval node)
  x.ref maapProbeRetransmits) z↔(Holds mc z ∧ z.ref≠x.ref) ∨ some y=some z:=by
  intro z
  have hnotify:Holds (mc₁.informAcquiring x.ref) z↔Holds mc₁ z:=holds_congr rfl (.refl mc₁) z
  rw[holds_setCounter,holds_unplaced hcons₂ hu hmem₂,hnotify,holds_placed hp hs,holds_detached h hnode rfl,hy]
  simp[eq_comm]
 have hyref:y.ref=x.ref:=by rw[hy]
 have hkept:=schedule_send_spec env hcons₄ ((hholds y).2 (.inr rfl)) (fun r hr=>by cases hr) maapProbe
 rw[hyref] at hkept
 have hconfig:SameConfig mc (setCounter ((mc₁.informAcquiring x.ref).removeRangeInterval node)
  x.ref maapProbeRetransmits):=
  SameConfig.trans ⟨hp.config.1,hp.config.2,hp.config.3,hp.config.4,hp.config.5⟩
   ⟨hu.config.1,hu.config.2,hu.config.3,hu.config.4,hu.config.5⟩
 refine ⟨y,hyref,?_,hkept.consistent,hconfig.trans hkept.config,?_,?_,?_,?_⟩
 · subst hy
   refine ⟨hst.trans hstate,hfl.trans hflag,by simp only;omega,by simp only;omega,
    by simp only;omega,?_⟩
   rintro z ⟨⟨n,hn⟩,-⟩
   obtain ⟨e,he,hlow,hhigh⟩:=setData_bounds node none hn
   have hdis:=hp.free e he
   rwa[hlow,hhigh] at hdis
 · exact fun z=>(hkept.holds z).trans (hholds z)
 · rw[reprobe,Client.sendProbe,hkept.queued,claimFor_config hconfig]
   exact congrArg (· ++ _) (hu.queued.trans hp.queued)
 · exact hkept.late.trans (hu.late.trans hp.late)
 · exact (hkept.mallocs.trans (hu.mallocs.trans hp.mallocs)).ge

lemma relocate_spec
 (hlate:(relocate env mc node x.block x.ref).late=false) :
 (Effect mc x.ref none [] (relocate env mc node x.block x.ref) ∧
  Released (relocate env mc node x.block x.ref) x.ref) ∨
 ∃y,y.ref=x.ref ∧ Acquires mc y ∧
  Effect mc x.ref (some y) [probeFor mc y] (relocate env mc node x.block x.ref) := by
 have hsmall:=holds_small h hx
 have hsize:=sizeOf16_block h hx
 have hdet:=h.detach hnode (r:=x.ref) rfl
 have hassign:=assignInterval_spec env {mc with ranges:=mc.ranges.setData node none} x.ref
  (show 1 ≤ sizeOf16 x.block by omega) h.poolSize
  (fun hfits=>attempt_in_pool (by omega) hfits h.poolSize (show 0+sizeOf16 x.block≤2^64 by omega))
 unfold relocate at hlate ⊢
 generalize Client.assignInterval env {mc with ranges:=mc.ranges.setData node none} x.ref 0
  (sizeOf16 x.block)=assigned at hassign hlate ⊢
 obtain ⟨mc₁,ok⟩:=assigned
 rcases assigned_cases hdet.ordered hdet.refsNodup hdet.nodeFresh (by omega) hassign with
  ⟨rfl,start,fresh,hp⟩ | ⟨rfl,callocs,draws,hc,rfl⟩ | ⟨rfl,hl⟩
 · exact .inr (reprobe_spec env h hnode hx hstate hflag (by omega) (by omega) hp)
 · left
   obtain ⟨range,hs,-⟩:=holds_owner h hx
   obtain ⟨hmem,honly⟩:=detached_entries h hnode
   obtain ⟨notes,hnotes⟩:∃notes,
     giveUp {mc with
      ranges:=mc.ranges.setData node none, callocs:=callocs, draws:=draws} node x.block x.ref=releaseAt {mc with
      ranges:=mc.ranges.setData node none, callocs:=callocs, draws:=draws,notifies:=notes} node x.ref:=⟨_,rfl⟩
   simp only[if_false,Bool.false_eq_true]
   rw[hnotes]
   have hcons:Consistent ⟨some node,some x.ref,none⟩ {mc with
    ranges:=mc.ranges.setData node none, callocs:=callocs, draws:=draws,
    notifies:=notes}:=hdet.congr_store hc rfl rfl
   obtain ⟨heff,hrel⟩:=releaseAt_spec hcons hmem (fun n hn=>(Option.some.inj hn).symm)
    (fun r hr=>(Option.some.inj hr).symm) (fun r hr=>by cases hr)
    (fun e he _=>honly e he) ⟨range,hs⟩
   refine ⟨⟨heff.consistent,⟨heff.config.1,heff.config.2,heff.config.3,heff.config.4,
    heff.config.5⟩,?_,heff.queued,heff.late,heff.mallocs⟩,hrel⟩
   intro z
   have hdetHolds:=holds_detached h hnode rfl z
   rw[heff.holds,←and_iff_left_of_imp (fun hz:Holds mc z ∧ z.ref≠x.ref=>hz.2),←hdetHolds]
   exact Iff.rfl
 · have hkeep:(giveUp mc₁ node x.block x.ref).late=mc₁.late:=
    late_removeRangeInterval _ node
   simp only[Bool.false_eq_true,if_false,hkeep] at hlate
   rw[hl] at hlate
   cases hlate

end OpenAvnu.MaapConflict
