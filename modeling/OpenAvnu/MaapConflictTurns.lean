import OpenAvnu.MaapRounds

/-! # Conflicts as turns -/

namespace OpenAvnu.MaapConflictTurns

open Intervals MaapPacket MaapClient MaapDaemon MaapFrame MaapPlacement MaapHoldings MaapSeats List
open MaapBlocks MaapTurns MaapRounds Option

variable {mc mc':Client} {ref node:Nat} {x:Seat} {iv:Interval Nat}

lemma turn_defend (h:Sound mc) (hx:Sits mc x) (hst:x.state=.defending) {p:Packet}
 (hp:p.messageType=maapDefend) : Turn mc (.defend x p) (mc.sendPacket p) := by
 have hmoved:∀ref,Moved ref mc (mc.sendPacket p):=fun ref=>
  .congr h.tidy le_rfl le_rfl rfl
 obtain ⟨hsound,hswap⟩:=h.still hmoved
 exact ⟨hsound,⟨rfl,rfl,rfl,rfl,rfl⟩,le_rfl,hx.seat,⟨hst,hp⟩,hswap,(append_nil _).symm,rfl⟩

variable {mc₁:Client} (env:Env) {fresh high low:Nat}

section
variable (h:Sound mc) (hx:Sits mc x) (hst:x.state=.probing)
 (hmem:(node,iv)∈mc.ranges.toList)
include h hx hst hmem

lemma turn_move (hd:iv.data=some x.ref)
 (hg:Grown {mc with ranges:=mc.ranges.setData node none}
  (some (fresh,⟨low,high,none⟩)) mc₁) :
 Turn mc (.move x {x with counter:=maapProbeRetransmits,low:=low,high:=high})
  (reprobe env (mc₁.own fresh x.ref) node x.ref) := by
 obtain ⟨hcut,hstands⟩:=moved_detach h.tidy hmem hd
 obtain ⟨hgrown,hstands₁⟩:=hg.moved hcut.tidy x.ref
 obtain ⟨hown,hat⟩:=moved_own hgrown.tidy hg.mem_new.1 (hstands₁ (hstands hx.2))
 have hfresh:node≠fresh:=by
  have hlt:=h.tidy.nodeFresh _ hmem
  have hle:mc.callocs≤fresh:=hg.mem_new.2
  omega
 have hold:(node,{iv with data:=none})∈(mc₁.own fresh x.ref).ranges.toList:=
  mem_own (hg.mem_old ((mem_setData h.tidy.refsNodup hmem _).2 (.inl rfl))) hfresh
 have hplaced:=(hcut.trans hgrown).trans hown
 have hmute:=(mute_grown hg).1
 rw[reprobe,show (mc₁.own fresh x.ref).informAcquiring x.ref=(mc₁.own fresh x.ref).addNotify
  x.sender (seatNote (mc₁.own fresh x.ref) .acquiring {x with low:=low,high:=high} .none)
  from informOwner_eq (x:={x with low:=low,high:=high}) hplaced.tidy hat .acquiring .none,
  seatNote_config hplaced.config]
 generalize hnoted:(mc₁.own fresh x.ref).addNotify x.sender
  (seatNote mc .acquiring {x with low:=low,high:=high} .none)=mc₂
 have hnote:Moved x.ref mc mc₂:=hnoted▸hplaced.trans (moved_addNotify hplaced.tidy _ _)
 have hold₂:(node,{iv with data:=none})∈mc₂.ranges.toList:=hnoted▸hold
 obtain ⟨hrem,hstands₂⟩:=(removeRangeInterval_removal hnote.tidy hold₂).moved x.ref
  (by rintro r ⟨⟩)
 have hat₁:At mc₂ x.ref x.toProfile true (some (low,high)):=by
  rw[←hnoted]
  exact hat.congr rfl
 have hat₂:=hstands₂ hat₁
 have hmute₂:=mute_removeRangeInterval mc₂ node
 generalize mc₂.removeRangeInterval node=mc₃ at hrem hat₂ hmute₂
 obtain ⟨hset,hstands₃⟩:=moved_setCounter hrem.tidy x.ref maapProbeRetransmits
 have hsent:=schedule_send env x.ref hset.tidy (hstands₃ hat₂) maapProbe
 have hbefore:=(hnote.trans hrem).trans hset
 have hmoved:=hbefore.trans hsent.moved
 obtain ⟨hsound,hswap⟩:=h.change (x:=x)
  (y:={x with counter:=maapProbeRetransmits,low:=low,high:=high}) hmoved
  ⟨.inl hst,hsent.stands⟩ rfl
 have hmaxid:mc₂.maxid=mc.maxid:=hnoted▸hmute.maxid
 have hnotifies:mc₂.notifies=mc.notifies++[(x.sender,
  seatNote mc .acquiring {x with low:=low,high:=high} .none)]:=by
  rw[←hnoted]
  exact congrArg (· ++ _) hmute.notifies
 have hqueued:mc₂.queued=mc.queued:=hnoted▸hmute.queued
 refine ⟨hsound,hmoved.config,?_,hx.seat,⟨hst,rfl⟩,hswap,?_,?_⟩
 · exact (hsent.maxid.trans (hmute₂.maxid.trans hmaxid)).ge
 · exact hsent.notifies.trans (hmute₂.notifies.trans hnotifies)
 · refine hsent.queued.trans ?_
   rw[claimFor_config hbefore.config,show (setCounter mc₃ x.ref maapProbeRetransmits).queued=
    mc.queued from hmute₂.queued.trans hqueued]
   rfl

lemma turn_fail (hd:iv=⟨x.low,x.high,some x.ref⟩)
 {e:Option (Entry Nat)} (late:Bool)
 (hg:Grown {mc with ranges:=mc.ranges.setData node none} e mc₁) :
 Turn mc (.fail x) (giveUp {mc₁ with late:=late} node iv x.ref) := by
 have hdata:iv.data=some x.ref:=by rw[hd]
 obtain ⟨hcut,hstands⟩:=moved_detach h.tidy hmem hdata
 obtain ⟨hgrown,hstands₁⟩:=hg.moved hcut.tidy x.ref
 have hat:=hstands₁ (hstands hx.2)
 have hmute:=(mute_grown hg).1
 have hold:(node,{iv with data:=none})∈mc₁.ranges.toList:=
  hg.mem_old ((mem_setData h.tidy.refsNodup hmem _).2 (.inl rfl))
 obtain ⟨range,hs,hp⟩:=map_eq_some_iff.1 hat.profile
 have hrange:Client.range {mc₁ with late:=late} x.ref=range:=range_eq hs
 have hsender:range.sender=x.sender:=congrArg Profile.sender hp
 have hid:range.id=x.id:=congrArg Profile.id hp
 rw[giveUp,hrange,hsender,hid,hd]
 generalize hnoted:Client.informNotAcquired {mc₁ with late:=late} x.sender x.id
  (uint32 (x.high+1+(2^32-x.low))) .reserveNotAvailable=mc₂
 have hnote:Moved x.ref mc mc₂:=hnoted▸(hcut.trans hgrown).trans
  (.congr hgrown.tidy le_rfl le_rfl rfl)
 have hat₂:At mc₂ x.ref x.toProfile true none:=by
  rw[←hnoted]
  exact hat.congr rfl
 have hold₂:(node,{iv with data:=none})∈mc₂.ranges.toList:=hnoted▸hold
 obtain ⟨hrel,hend⟩:=moved_releaseAt hnote.tidy hold₂ (by rintro r ⟨⟩) hat₂ (.inr rfl)
 have hmoved:=hnote.trans hrel
 obtain ⟨hsound,hswap⟩:=h.leave hmoved hend rfl
 have hmute₂:=mute_removeRangeInterval mc₂ node
 refine ⟨hsound,hmoved.config,?_,hx.seat,hst,hswap,?_,?_⟩
 · exact (hmute₂.maxid.trans (hnoted▸hmute.maxid)).ge
 · refine hmute₂.notifies.trans ?_
   rw[←hnoted]
   exact congrArg (· ++ _) hmute.notifies
 · refine (hmute₂.queued.trans ?_).trans (append_nil _).symm
   rw[←hnoted]
   exact hmute.queued

end

lemma turn_lose (hx:Sits mc x) (hst:x.state=.defending) {result:NotifyError}
 (hresult:result=.outOfMemory ∨ result=.reserveNotAvailable) (h₁:Sound mc₁)
 (hswap₁:Swap mc none none mc₁) (hconfig:SameConfig mc mc₁)
 (hmem:(node,iv)∈mc₁.ranges.toList) (hd:iv.data=some x.ref)
 (hnotifies:mc₁.notifies=mc.notifies++[(x.sender,seatNote mc .yielded x result)])
 (hqueued:mc₁.queued=mc.queued) (hmaxid:mc₁.maxid=mc.maxid) :
 Turn mc (.lose x result) (releaseAt mc₁ node x.ref) := by
 have hx₁:Sits mc₁ x:=(hswap₁ x).2 (.inl ⟨hx,by simp⟩)
 obtain ⟨hrel,hend⟩:=moved_releaseAt h₁.tidy hmem
  (fun r hr=>some.inj (hr.symm.trans hd)) hx₁.2 (.inl hd)
 obtain ⟨hsound,hswap⟩:=h₁.leave hrel hend rfl
 have hmute:=mute_removeRangeInterval mc₁ node
 refine ⟨hsound,hconfig.trans hrel.config,(hmute.maxid.trans hmaxid).ge,hx.seat,⟨hst,hresult⟩,fun z=>?_,
  hmute.notifies.trans hnotifies,(hmute.queued.trans hqueued).trans (append_nil _).symm⟩
 rw[hswap z,hswap₁ z]
 simp[Act.old,Act.seat,Act.new]

section
variable (h:Sound mc) (hx:Sits mc x)
include h hx

lemma turn_replace (hst:x.state=.defending)
 (hmem:(node,iv)∈mc.ranges.toList) (hd:iv.data=some x.ref)
 (hg:Grown (withRange mc (newRange env mc x.id x.sender))
  (some (fresh,⟨low,high,none⟩)) mc₁) :
 Turn mc (.replace x ⟨⟨x.id,x.sender,.probing,maapProbeRetransmits⟩,mc.mallocs,low,high⟩)
  (releaseAt (probeReplacement env (mc₁.own fresh mc.mallocs) x.sender x.id x.ref mc.mallocs) node x.ref) := by
 obtain ⟨hplaced,hat,hentries⟩:=moved_assignFresh h _ hg
 have hne:x.ref≠mc.mallocs:=fun heq=>h.fresh.1 (heq▸hx.queued)
 have hmute:=(mute_grown hg).1
 have hsent:=schedule_send env mc.mallocs hplaced.tidy hat maapProbe
 have hprobed:=hplaced.trans hsent.moved
 have hmem₂:(node,iv)∈(((mc₁.own fresh mc.mallocs).scheduleTimer env mc.mallocs).sendPacket
  (((mc₁.own fresh mc.mallocs).scheduleTimer env mc.mallocs).claimPacket maapProbe
   mc.mallocs)).ranges.toList:=by
  change _∈((mc₁.own fresh mc.mallocs).scheduleTimer env mc.mallocs).ranges.toList
  rw[(scheduleTimer_spec env (mc₁.own fresh mc.mallocs) mc.mallocs).ranges]
  exact hentries _ hmem
 unfold probeReplacement Client.sendProbe
 generalize ((mc₁.own fresh mc.mallocs).scheduleTimer env mc.mallocs).sendPacket
  (((mc₁.own fresh mc.mallocs).scheduleTimer env mc.mallocs).claimPacket maapProbe
   mc.mallocs)=mc₂ at hsent hprobed hmem₂ ⊢
 obtain ⟨y,hy⟩:∃y:Seat,y=⟨⟨x.id,x.sender,.probing,maapProbeRetransmits⟩,mc.mallocs,low,high⟩:=⟨_,rfl⟩
 have hx₂:Sits mc₂ x:=(sits_iff_of_moved hprobed hne).2 hx
 have hat₂:At mc₂ y.ref y.toProfile true (some (y.low,y.high)):=hy▸hsent.stands
 -- both messages are about blocks that the tree keeps at this moment
 have hyielded:mc₂.informYielded x.sender x.id (some x.ref) .none=
  mc₂.addNotify x.sender (seatNote mc .yielded x .none):=by
  rw[←seatNote_config hprobed.config]
  exact informRange_eq hprobed.tidy hx₂.block .yielded x.sender .none
 have hnote:=hprobed.trans (moved_addNotify hprobed.tidy x.sender (seatNote mc .yielded x .none))
 have hacquiring:(mc₂.addNotify x.sender (seatNote mc .yielded x .none)).informAcquiring
  mc.mallocs=(mc₂.addNotify x.sender (seatNote mc .yielded x .none)).addNotify y.sender
   (seatNote mc .acquiring y .none):=by
  rw[←seatNote_config hnote.config .acquiring]
  have hinform:=informOwner_eq (x:=y) hnote.tidy (hat₂.congr rfl) .acquiring .none
  rw[show y.ref=mc.mallocs by rw[hy]] at hinform
  exact hinform
 rw[hyielded,hacquiring,←hy]
 generalize hnoted:(mc₂.addNotify x.sender (seatNote mc .yielded x .none)).addNotify y.sender
  (seatNote mc .acquiring y .none)=mc₃
 have href:y.ref=mc.mallocs:=by rw[hy]
 have hmoved:Moved y.ref mc mc₃:=by
  rw[href,←hnoted]
  exact hnote.trans (moved_addNotify hnote.tidy _ _)
 have hy₃:Sits mc₃ y:=by
  rw[←hnoted]
  exact ⟨.inl (by rw[hy]),hat₂.congr rfl⟩
 obtain ⟨hsound₃,hswap₃⟩:=h.enter (href▸h.fresh.1) hmoved hy₃
 have hx₃:Sits mc₃ x:=(hswap₃ x).2 (.inl ⟨hx,by simp⟩)
 obtain ⟨hrel,hend⟩:=moved_releaseAt hsound₃.tidy
  (show (node,iv)∈mc₃.ranges.toList from hnoted▸hmem₂)
  (fun r hr=>some.inj (hr.symm.trans hd)) hx₃.2 (.inl hd)
 obtain ⟨hsound,hswap⟩:=hsound₃.leave hrel hend rfl
 have hmute₃:=mute_removeRangeInterval mc₃ node
 refine ⟨hsound,hmoved.config.trans hrel.config,?_,hx.seat,
  ⟨hst,by rw[hy],by rw[hy],by rw[hy],by rw[hy]⟩,hswap₃.exchange hswap (href.trans_ne hne.symm),?_,?_⟩
 · refine (hmute₃.maxid.trans ?_).ge
   rw[←hnoted]
   exact hsent.maxid.trans hmute.maxid
 · refine hmute₃.notifies.trans ?_
   rw[←hnoted]
   change mc₂.notifies++[_]++[_]=_
   rw[hsent.notifies,show (mc₁.own fresh mc.mallocs).notifies=mc.notifies from hmute.notifies,append_assoc]
   rfl
 · refine hmute₃.queued.trans ?_
   rw[←hnoted]
   change mc₂.queued=_
   rw[hsent.queued,claimFor_config hplaced.config,hy,
    show (mc₁.own fresh mc.mallocs).queued=mc.queued from hmute.queued]
   rfl

lemma turn_relocate (hst:x.state=.probing)
 (hmem:(node,iv)∈mc.ranges.toList) (hiv:iv=⟨x.low,x.high,some x.ref⟩) :
 ∃act,Turn mc act (relocate env mc node iv x.ref) ∧ act.id=some x.id ∧
  act.timed=false := by
 have hd:iv.data=some x.ref:=by rw[hiv]
 unfold relocate
 rcases assignInterval_cases env {mc with ranges:=mc.ranges.setData node none} x.ref 0
  (sizeOf16 iv) with ⟨mc₁,fresh,low,high,hg,heq,-⟩ | ⟨mc₁,e,late,hg,heq,-⟩
 · simp only[heq]
   exact ⟨_,turn_move env h hx hst hmem hd hg,rfl,rfl⟩
 · simp only[heq]
   exact ⟨_,turn_fail h hx hst hmem hiv late hg,rfl,rfl⟩

lemma turn_yield (hst:x.state=.defending)
 (hmem:(node,iv)∈mc.ranges.toList) (hd:iv.data=some x.ref) :
 ∃act,Turn mc act (releaseAt (requestReplacement env mc iv x.ref) node x.ref) ∧
  act.id=some x.id ∧ act.timed=false := by
 have hsender:(mc.range x.ref).sender=x.sender:=congrArg Profile.sender hx.range
 have hid:(mc.range x.ref).id=x.id:=congrArg Profile.id hx.range
 simp only[requestReplacement,hsender,hid]
 split
 · -- no memory for the replacement
   have hmoved:∀ref,Moved ref mc (Client.addNotify {mc with mallocs:=mc.mallocs+1}
    x.sender (seatNote mc .yielded x .outOfMemory)):=fun ref=>
    .congr h.tidy le_rfl (Nat.le_succ _) rfl
   have hnote:Client.informYielded {mc with mallocs:=mc.mallocs+1} x.sender x.id
    (some x.ref) .outOfMemory=Client.addNotify {mc with mallocs:=mc.mallocs+1} x.sender
     (seatNote mc .yielded x .outOfMemory):=
    have htidy:Tidy {mc with mallocs:=mc.mallocs+1}:=
     h.tidy.congr rfl rfl le_rfl (Nat.le_succ _)
    informRange_eq htidy hx.block .yielded x.sender .outOfMemory
   obtain ⟨hsound,hswap⟩:=h.still hmoved
   rw[hnote]
   exact ⟨_,turn_lose hx hst (.inl rfl) hsound hswap ⟨rfl,rfl,rfl,rfl,rfl⟩ hmem hd rfl rfl rfl,rfl,rfl⟩
 rcases assignInterval_cases env (withRange mc (newRange env mc x.id x.sender)) mc.mallocs 0
  (sizeOf16 iv) with ⟨mc₁,fresh,low,high,hg,heq,-⟩ | ⟨mc₁,e,late,hg,heq,-⟩
 · simp only[heq]
   exact ⟨_,turn_replace env h hx hst hmem hd hg,rfl,rfl⟩
 · -- no room for the replacement
   simp only[heq]
   obtain ⟨hlate,hfreed,hout,hfree⟩:=moved_freeFresh h _ hg late
   have hne:x.ref≠mc.mallocs:=fun heq=>h.fresh.1 (heq▸hx.queued)
   have hx₁:Sits {mc₁ with late:=late} x:=(sits_iff_of_moved hlate hne).2 hx
   have hnote:Client.informYielded {mc₁ with late:=late} x.sender x.id (some x.ref)
    .reserveNotAvailable=Client.addNotify {mc₁ with late:=late} x.sender
     (seatNote mc .yielded x .reserveNotAvailable):=by
    rw[←seatNote_config hlate.config]
    exact informRange_eq hlate.tidy hx₁.block .yielded x.sender .reserveNotAvailable
   have hmoved:=hfreed [(x.sender,seatNote mc .yielded x .reserveNotAvailable)]
   obtain ⟨hsound,hswap⟩:=h.retire mc.mallocs
    (fun z hz href=>h.fresh.1 (href▸hz.queued)) hmoved hout hfree
   have hmute:=(mute_grown hg).1
   rw[hnote]
   exact ⟨_,turn_lose hx hst (.inr rfl) hsound hswap hmoved.config (hg.mem_old hmem) hd
    (congrArg (· ++ _) hmute.notifies) hmute.queued hmute.maxid,rfl,rfl⟩

end

/-- The act of the range at `ref` in a conflict: a probing range only stays if it wins against
another probe. -/
structure Reaction (p:Packet) (mc:Client) (ref:Nat) (act:Act) : Prop where
 id:∀i,act.id=some i → i=(mc.range ref).id
 timed:act.timed=false
 stays:act.id=none → ∀x,Sits mc x → x.ref=ref → x.state=.probing →
  p.messageType=maapProbe ∧ compareMacAddresses mc.srcMac p.sa=true

lemma turn_reactTo (p:Packet) (h:Sound mc) (hmem:(node,iv)∈mc.ranges.toList)
 (hd:iv.data=some ref) : ∃act,Turn mc act (reactTo env p mc node iv ref) ∧ Reaction p mc ref act := by
 obtain ⟨low,high,data⟩:=iv
 obtain rfl:data=some ref:=hd
 obtain ⟨x,rfl,rfl,rfl,hx⟩:=h.sits_of_block ⟨node,hmem⟩
 have hst:(mc.range x.ref).state=x.state:=congrArg Profile.state hx.range
 have hreact:∀{act:Act},act.id=some x.id → act.timed=false →
  Reaction p mc x.ref act:=by
  refine fun hact htimed=>⟨fun i hi=>?_,htimed,fun hnone=>?_⟩
  · rw[←some.inj (hact.symm.trans hi)]
    exact (congrArg Profile.id hx.range).symm
  · rw[hact] at hnone
    cases hnone
 have hstays:(x.state=.probing → p.messageType=maapProbe ∧
  compareMacAddresses mc.srcMac p.sa=true) → Reaction p mc x.ref (.answer []):=by
  refine fun hwhy=>⟨by rintro i ⟨⟩,rfl,fun _ z hz href hst=>hwhy ?_⟩
  rw[←hz.unique hx href]
  exact hst
 unfold reactTo
 rcases hx.1 with hp|hd
 · rw[hst,hp]
   simp only
   split
   · next hwins=>exact ⟨_,turn_still h,hstays fun _=>hwins⟩
   · obtain ⟨act,hturn,hact,htimed⟩:=turn_relocate env h hx hp hmem rfl
     exact ⟨act,hturn,hreact hact htimed⟩
 · rw[hst,hd]
   simp only
   split_ifs
   · exact ⟨.defend x _,turn_defend h hx hd rfl,hreact rfl rfl⟩
   · exact ⟨_,turn_still h,hstays fun hst=>by rw[hd] at hst;cases hst⟩
   · obtain ⟨act,hturn,hact,htimed⟩:=turn_yield env h hx hd hmem rfl
     exact ⟨act,hturn,hreact hact htimed⟩

lemma turn_setOverlapping (h:Sound mc) (ref:Nat) (flag:Bool) :
 Turn mc (.answer []) (setOverlapping mc ref flag) := by
 have hmoved:∀r,Moved r mc (setOverlapping mc ref flag):=by
  intro r
  obtain ⟨hmoved,-⟩:=moved_setOverlapping h.tidy ref flag
  refine ⟨hmoved.tidy,fun r' _=>?_,fun _ _ _ _=>Iff.rfl,fun _ _=>Iff.rfl,id,hmoved.config⟩
  by_cases hr:r'=ref
  · rw[setOverlapping,store_modifyRange,if_pos hr,Option.map_map]
    rfl
  · exact hmoved.profile r' hr
 exact turn_quiet h hmoved rfl rfl rfl

end OpenAvnu.MaapConflictTurns
