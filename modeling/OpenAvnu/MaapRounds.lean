import OpenAvnu.MaapTurns

/-!
# Timers and commands as turns

One round of the timer loop and every command take one turn of a reservation.
-/

namespace OpenAvnu.MaapRounds

open Intervals MaapPacket MaapTimer MaapClient MaapDaemon MaapFrame MaapHoldings MaapSeats List
open MaapBlocks MaapTurns Option

variable {env:Env} {mc mc' mc'':Client} {ref r:Nat} {x y z:Seat}

structure Mute (mc mc':Client) : Prop where
 notifies:mc'.notifies=mc.notifies
 queued:mc'.queued=mc.queued
 maxid:mc'.maxid=mc.maxid

lemma mute_scheduleTimer (env:Env) (mc:Client) (ref:Nat) : Mute mc (mc.scheduleTimer env ref) := by
 obtain ⟨-,store,draws,readings,heq⟩:=armRange_scheduled env mc ref
 unfold Client.scheduleTimer Client.enqueueTimer
 rw[heq]
 exact ⟨rfl,rfl,rfl⟩

lemma mute_repoint (fuel:Nat) (e:Option (Entry Nat)) (mc:Client) : Mute mc (Client.repoint fuel e mc) := by
 induction fuel generalizing e mc with
 | zero=>cases e<;>exact ⟨rfl,rfl,rfl⟩
 | succ fuel ih=>
  cases e with
  | none=>exact ⟨rfl,rfl,rfl⟩
  | some e=>
   obtain ⟨node,low,high,data⟩:=e
   cases data with
   | none=>exact ih _ _
   | some r=>
    have hmute:=ih (nextInterval mc.ranges node)
     (mc.modifyRange r fun range=>{range with interval:=some node})
    exact ⟨hmute.notifies,hmute.queued,hmute.maxid⟩

lemma mute_removeRangeInterval (mc:Client) (node:Nat) : Mute mc (mc.removeRangeInterval node) := by
 unfold Client.removeRangeInterval
 split
 · have hmute:=fun size first tree=>mute_repoint size first {mc with ranges:=tree}
   exact ⟨(hmute _ _ _).notifies,(hmute _ _ _).queued,(hmute _ _ _).maxid⟩
 · exact ⟨rfl,rfl,rfl⟩

variable {e:Option (Entry Nat)} {queued:Bool} {high low:Nat} {mc₁:Client} {node:Nat}

lemma mute_grown (h:Grown mc e mc') : Mute mc mc' ∧ mc'.mallocs=mc.mallocs := by
 cases h<;>exact ⟨⟨rfl,rfl,rfl⟩,rfl⟩
lemma seatNote_config (h:SameConfig mc mc') (kind:NotifyTag) (x:Seat)
 (result:NotifyError) : seatNote mc' kind x result=seatNote mc kind x result := by
 simp only[seatNote,h.addressBase]
lemma informRange_eq (h:Tidy mc) (hb:Block mc x.ref x.low x.high) (kind:NotifyTag)
 (sender:Nat) (result:NotifyError) : mc.informRange kind sender x.id x.ref result=
  mc.addNotify sender (seatNote mc kind x result) := by
 simp only[Client.informRange,Client.getStartAddress,Client.getCount,h.intervalOf hb,seatNote]

lemma informOwner_eq (h:Tidy mc) (hat:At mc x.ref x.toProfile queued (some (x.low,x.high)))
 (kind:NotifyTag) (result:NotifyError) :
 mc.informRange kind (mc.range x.ref).sender (mc.range x.ref).id x.ref result=
  mc.addNotify x.sender (seatNote mc kind x result) := by
 obtain ⟨range,hs,hp⟩:=map_eq_some_iff.1 hat.profile
 have hsender:(mc.range x.ref).sender=x.sender:=by
  rw[range_eq hs]
  exact congrArg Profile.sender hp
 have hid:(mc.range x.ref).id=x.id:=by
  rw[range_eq hs]
  exact congrArg Profile.id hp
 rw[hsender,hid,informRange_eq h hat.block_some]

lemma moved_addNotify (h:Tidy mc) (sender:Nat) (note:Notify) :
 Moved ref mc (mc.addNotify sender note) := .congr h le_rfl le_rfl rfl
lemma claimPacket_of_block (h:Tidy mc) (hb:Block mc r low high) (messageType:Nat) :
 mc.claimPacket messageType r=claimFor mc messageType low high := by
 simp only[Client.claimPacket,Client.getStartAddress,Client.getCount,h.intervalOf hb,claimFor]

structure Sent (mc:Client) (ref:Nat) (p:Profile) (low high messageType:Nat)
 (mc':Client) : Prop where
 moved:Moved ref mc mc'
 stands:At mc' ref p true (some (low,high))
 queued:mc'.queued=mc.queued++[packMaap (claimFor mc messageType low high)]
 notifies:mc'.notifies=mc.notifies
 maxid:mc'.maxid=mc.maxid

lemma schedule_send {p:Profile} (env:Env) (ref:Nat) (h:Tidy mc)
 (hat:At mc ref p queued (some (low,high))) (messageType:Nat) :
 Sent mc ref p low high messageType ((mc.scheduleTimer env ref).sendPacket
  ((mc.scheduleTimer env ref).claimPacket messageType ref)) := by
 obtain ⟨hmoved,hstands⟩:=moved_scheduleTimer env h ref
 have hat':=hstands hat
 have hmute:=mute_scheduleTimer env mc ref
 refine ⟨hmoved.trans (.congr hmoved.tidy le_rfl le_rfl rfl),hat'.congr rfl,?_,hmute.notifies,hmute.maxid⟩
 rw[claimPacket_of_block hmoved.tidy hat'.block_some,claimFor_config hmoved.config]
 simp only[Client.sendPacket,hmute.queued]

lemma turn_quiet (h:Sound mc) (hm:∀ref,Moved ref mc mc')
 (hnotifies:mc'.notifies=mc.notifies) (hqueued:mc'.queued=mc.queued)
 (hmaxid:mc'.maxid=mc.maxid) : Turn mc (.answer []) mc' := by
 obtain ⟨hsound,hswap⟩:=h.still hm
 exact ⟨hsound,(hm 0).config,hmaxid.ge,by rintro _ ⟨⟩,by simp[Act.Valid],hswap,
  hnotifies.trans (append_nil _).symm,hqueued.trans (append_nil _).symm⟩

lemma turn_still (h:Sound mc) : Turn mc (.answer []) mc := turn_quiet h (fun _=>.refl h.tidy) rfl rfl rfl

lemma turn_answer (h:Sound mc) (sender:Nat) {note:Notify} (hnote:answers note=true)
 (hresult:mc.initialized=true → note.result ≠ .requiresInitialization) :
 Turn mc (.answer [(sender,note)]) (mc.addNotify sender note) := by
 obtain ⟨hsound,hswap⟩:=h.still fun _=>moved_addNotify h.tidy sender note
 exact ⟨hsound,⟨rfl,rfl,rfl,rfl,rfl⟩,le_rfl,by rintro _ ⟨⟩,
  by simpa[Act.Valid] using ⟨hnote,hresult⟩,hswap,rfl,(append_nil _).symm⟩

lemma moved_assignFresh (h:Sound mc) (range:Range)
 (hg:Grown (withRange mc range) (some (node,⟨low,high,none⟩)) mc₁) :
 Moved mc.mallocs mc (mc₁.own node mc.mallocs) ∧
  At (mc₁.own node mc.mallocs) mc.mallocs (profile range) false (some (low,high)) ∧
  ∀e∈mc.ranges.toList,e∈(mc₁.own node mc.mallocs).ranges.toList := by
 obtain ⟨hnew,hat⟩:=moved_withRange h.tidy h.fresh.1 h.fresh.2 range
 obtain ⟨hgrown,hstands⟩:=hg.moved hnew.tidy mc.mallocs
 obtain ⟨hown,hat'⟩:=moved_own hgrown.tidy hg.mem_new.1 (hstands hat)
 refine ⟨(hnew.trans hgrown).trans hown,hat',fun e he=>mem_own (hg.mem_old he) ?_⟩
 have hlt:=h.tidy.nodeFresh e he
 have hle:mc.callocs≤node:=hg.mem_new.2
 omega

section Timers
variable {rest:List Nat}

section
variable (env:Env) (h:Sound mc) (hx:Sits mc x) (hqueue:mc.timerQueue=x.ref::rest)
include h hx hqueue

lemma turn_acquire (hst:x.state=.probing) (hcount:x.counter=0) :
 Turn mc (.acquire x) (((setState (Client.informAcquired {mc with timerQueue:=rest} x.ref
  .none) x.ref .defending).scheduleTimer env x.ref).sendAnnounce x.ref) := by
 obtain ⟨hpop,hstands⟩:=moved_pop h.tidy hqueue h.queueNodup
 have hat:=hstands hx.2
 rw[show Client.informAcquired {mc with timerQueue:=rest} x.ref .none=
  Client.addNotify {mc with timerQueue:=rest} x.sender (seatNote mc .acquired x .none) from
   informOwner_eq hpop.tidy hat .acquired .none]
 have hnote:=hpop.trans (moved_addNotify hpop.tidy x.sender (seatNote mc .acquired x .none))
 obtain ⟨hset,hstands⟩:=moved_setState hnote.tidy x.ref .defending
 have hsent:=schedule_send env x.ref hset.tidy (hstands (hat.congr rfl)) maapAnnounce
 have hmoved:=(hnote.trans hset).trans hsent.moved
 obtain ⟨hsound,hswap⟩:=h.change (x:=x) (y:={x with state:=.defending}) hmoved
  ⟨.inr rfl,hsent.stands⟩ rfl
 exact ⟨hsound,hmoved.config,hsent.maxid.ge,hx.seat,⟨hst,hcount⟩,hswap,hsent.notifies,hsent.queued⟩

lemma turn_probe (hst:x.state=.probing) (hcount:0<x.counter) :
 Turn mc (.probe x) (((setCounter {mc with timerQueue:=rest} x.ref
  (x.counter-1)).scheduleTimer env x.ref).sendProbe x.ref) := by
 obtain ⟨hpop,hstands⟩:=moved_pop h.tidy hqueue h.queueNodup
 obtain ⟨hset,hstands'⟩:=moved_setCounter hpop.tidy x.ref (x.counter-1)
 have hsent:=schedule_send env x.ref hset.tidy (hstands' (hstands hx.2)) maapProbe
 have hmoved:=(hpop.trans hset).trans hsent.moved
 obtain ⟨hsound,hswap⟩:=h.change (x:=x) (y:={x with counter:=x.counter-1}) hmoved
  ⟨.inl hst,hsent.stands⟩ rfl
 exact ⟨hsound,hmoved.config,hsent.maxid.ge,hx.seat,
  ⟨hst,hcount⟩,hswap,hsent.notifies.trans (append_nil _).symm,hsent.queued⟩

lemma turn_announce (hst:x.state=.defending) :
 Turn mc (.announce x) (handleDefendTimer env {mc with timerQueue:=rest} x.ref) := by
 obtain ⟨hpop,hstands⟩:=moved_pop h.tidy hqueue h.queueNodup
 have hsent:=schedule_send env x.ref hpop.tidy (hstands hx.2) maapAnnounce
 have hmoved:=hpop.trans hsent.moved
 obtain ⟨hsound,hswap⟩:=h.change (x:=x) (y:=x) hmoved ⟨.inr hst,hsent.stands⟩ rfl
 exact ⟨hsound,hmoved.config,hsent.maxid.ge,hx.seat,
  hst,hswap.keep hx,hsent.notifies.trans (append_nil _).symm,hsent.queued⟩

end

lemma turn_free {p:Profile} (h:Sound mc) (hqueue:mc.timerQueue=ref::rest)
 (hat:At mc ref p true none) : Turn mc (.answer []) (freeRange {mc with timerQueue:=rest} ref) := by
 obtain ⟨hpop,hstands⟩:=moved_pop h.tidy hqueue h.queueNodup
 have hfree:∀low high,¬Block {mc with timerQueue:=rest} ref low high:=
  fun low high hb=>by cases (hat.block low high).1 hb
 have hmoved:=hpop.trans (moved_freeRange hpop.tidy hfree)
 have hout:ref∉rest:=fun hmem=>by cases (hstands hat).queue.1 hmem
 obtain ⟨hsound,hswap⟩:=h.retire ref
  (fun z hz href=>not_sits_of_at hat (.inr (.inr rfl)) href hz) hmoved hout hfree
 exact ⟨hsound,hmoved.config,le_rfl,by rintro _ ⟨⟩,by simp[Act.Valid],hswap,
  (append_nil _).symm,(append_nil _).symm⟩

lemma turn_due (env:Env) (h:Sound mc) (hqueue:mc.timerQueue=ref::rest) :
 ∃act,Turn mc act (handleDue env {mc with timerQueue:=rest} ref) ∧
  (∀i,act.id=some i → i=(mc.range ref).id) ∧ act.placed=none := by
 rcases h.standing ref with ⟨hout,-⟩|⟨p,hrel,hat⟩|⟨x,rfl,hx⟩
 · exact absurd (by simp[hqueue]) hout
 · obtain ⟨range,hs,rfl⟩:=map_eq_some_iff.1 hat.profile
   have hst:(Client.range {mc with timerQueue:=rest} ref).state=.released:=by
    rw[range_eq (show ({mc with timerQueue:=rest}:Client).store ref=some range from hs)]
    exact hrel
   refine ⟨.answer [],?_,by rintro i ⟨⟩,rfl⟩
   rw[handleDue,hst]
   exact turn_free h hqueue hat
 · have hrange:=hx.range
   have hst:(Client.range {mc with timerQueue:=rest} x.ref).state=x.state:=
    congrArg Profile.state hrange
   have hcount:(Client.range {mc with timerQueue:=rest} x.ref).counter=x.counter:=
    congrArg Profile.counter hrange
   have hid:∀i,some x.id=some i → i=(mc.range x.ref).id:=fun i hi=>
    (some.inj hi).symm.trans (congrArg Profile.id hrange).symm
   rcases hx.1 with hp|hd
   · rw[handleDue,hst,hp]
     simp only[handleProbeTimer,hcount]
     split
     · next hzero=>exact ⟨_,turn_acquire env h hx hqueue hp hzero,hid,rfl⟩
     · next hpos=>exact ⟨_,turn_probe env h hx hqueue hp (Nat.pos_of_ne_zero hpos),hid,rfl⟩
   · rw[handleDue,hst,hd]
     exact ⟨_,turn_announce env h hx hqueue hd,hid,rfl⟩

end Timers

lemma Turn.withTimer {act:Act} (h:Turn mc act mc') (timer:Option Time) :
 Turn mc act {mc' with timer:=timer} := by
 have hmoved:∀ref,Moved ref mc' {mc' with timer:=timer}:=fun ref=>
  .congr h.sound.tidy le_rfl le_rfl rfl
 obtain ⟨hsound,hswap⟩:=h.sound.still hmoved
 refine ⟨hsound,h.config.trans ⟨rfl,rfl,rfl,rfl,rfl⟩,h.maxid,h.sat,?_,fun z=>?_,h.notifies,h.queued⟩
 · have hvalid:=h.valid
   cases act<;>exact hvalid
 · rw[hswap z,←h.swap z]
   simp

lemma findRange_cases (h:Sound mc) (id:Int) (test:MaapState → Bool)
 (htest:test .released=false) :
 (∃x,x.id=id ∧ Sits mc x ∧ test x.state=true ∧ findRange mc id test=some x.ref) ∨
 findRange mc id test=none ∧ ∀x,Sits mc x → test x.state=true → x.id≠id := by
 have hfields:∀{x:Seat},Sits mc x →
  (mc.range x.ref).id=x.id ∧ (mc.range x.ref).state=x.state:=fun hx=>
  ⟨congrArg Profile.id hx.range,congrArg Profile.state hx.range⟩
 cases hfind:findRange mc id test with
 | none=>
  refine .inr ⟨rfl,fun x hx hst hid=>?_⟩
  have:=find?_eq_none.1 hfind x.ref hx.queued
  rw[(hfields hx).1,(hfields hx).2] at this
  simp[hid,hst] at this
 | some ref=>
  have hp:=find?_some hfind
  simp only[Bool.and_eq_true,decide_eq_true_eq] at hp
  have hrel:(mc.range ref).state ≠ .released:=fun heq=>by
   rw[heq,htest] at hp
   cases hp.2
  obtain ⟨x,rfl,hx⟩:=h.sits_of_queued (mem_of_find?_eq_some hfind) hrel
  rw[(hfields hx).1,(hfields hx).2] at hp
  exact .inl ⟨x,hp.1,hx,hp.2,rfl⟩

def tell (mc:Client) (notes:List (Nat×Notify)) : Client :=
 {mc with notifies:=mc.notifies++notes}

lemma turn_release (h:Sound mc) (hx:Sits mc x) (sender:Nat) :
 Turn mc (.release x sender) (releaseAt (tell mc ((Act.release x sender).notes mc))
  ((mc.range x.ref).interval.getD 0) x.ref) := by
 obtain ⟨node,hmem⟩:=hx.block
 obtain ⟨range,hs,hi⟩:=map_eq_some_iff.1 (h.tidy.pointer _ hmem x.ref rfl)
 rw[range_eq hs,hi,getD_some]
 generalize hnoted:tell mc ((Act.release x sender).notes mc)=mc₁
 have hnote:Moved x.ref mc mc₁:=hnoted ▸
  .congr h.tidy le_rfl le_rfl rfl
 have hat:At mc₁ x.ref x.toProfile true (some (x.low,x.high)):=by
  rw[←hnoted]
  exact hx.2.congr rfl
 have hmem₁:(node,⟨x.low,x.high,some x.ref⟩)∈mc₁.ranges.toList:=by
  rw[←hnoted]
  exact hmem
 obtain ⟨hrel,hend⟩:=moved_releaseAt hnote.tidy hmem₁
  (fun r hr=>(some.inj hr).symm) hat (.inl rfl)
 have hmoved:=hnote.trans hrel
 obtain ⟨hsound,hswap⟩:=h.leave hmoved hend rfl
 have hmute:=mute_removeRangeInterval mc₁ node
 refine ⟨hsound,hmoved.config,?_,hx.seat,trivial,hswap,?_,?_⟩
 · exact (hmute.maxid.trans (by rw[←hnoted,tell])).ge
 · exact hmute.notifies.trans (by rw[←hnoted,tell])
 · exact (hmute.queued.trans (by rw[←hnoted,tell])).trans (append_nil _).symm

lemma turn_maapReleaseRange (h:Sound mc) (sender:Nat) (id:Int) :
 (∃x,x.id=id ∧ Turn mc (.release x sender) (maapReleaseRange mc sender id).1 ∧
  (maapReleaseRange mc sender id).2=0) ∨
 (∃note,Turn mc (.answer [(sender,note)]) (maapReleaseRange mc sender id).1 ∧
  (maapReleaseRange mc sender id).2 = -1 ∧
  (mc.initialized=true → ∀x,Sits mc x → x.id≠id)) := by
 unfold maapReleaseRange
 cases hinit:mc.initialized with
 | false=>exact .inr ⟨_,turn_answer h sender rfl (by simp[hinit]),rfl,by rintro ⟨⟩⟩
 | true=>
  rcases findRange_cases h id (fun state=>decide (state ≠ .released)) (by decide) with
   ⟨x,rfl,hx,-,hfind⟩ | ⟨hfind,hnone⟩
  · refine .inl ⟨x,rfl,?_,?_⟩<;>simp only[hfind,Bool.not_true,Bool.false_eq_true,if_false]
    have howner:(mc.range x.ref).sender=x.sender:=congrArg Profile.sender hx.range
    have hfirst:mc.informReleased sender x.id (some x.ref) .none=
     mc.addNotify sender (seatNote mc .released x .none):=
     informRange_eq h.tidy hx.block .released sender .none
    have hsecond:(mc.addNotify sender (seatNote mc .released x .none)).informReleased
     x.sender x.id (some x.ref) .none=(mc.addNotify sender (seatNote mc .released x .none)).addNotify x.sender
      (seatNote mc .released x .none):=
     have htidy:Tidy (mc.addNotify sender (seatNote mc .released x .none)):=
      h.tidy.congr rfl rfl le_rfl le_rfl
     informRange_eq htidy hx.block .released x.sender .none
    have htold:(if sender≠x.sender then
     (mc.addNotify sender (seatNote mc .released x .none)).addNotify x.sender
      (seatNote mc .released x .none)
     else mc.addNotify sender (seatNote mc .released x .none))=tell mc ((Act.release x sender).notes mc):=by
     by_cases hne:sender=x.sender<;>simp[Act.notes,hne,Client.addNotify,tell]
    rw[howner,hfirst,hsecond,htold]
    exact turn_release h hx sender
  · refine .inr ⟨⟨.released,id,0,0,.releaseInvalidId⟩,?_,?_,fun _ x hx=>?_⟩
    · simp only[hfind]
      exact turn_answer h sender rfl fun _=>by rintro ⟨⟩
    · simp only[hfind,Bool.not_true,Bool.false_eq_true,if_false]
    · refine hnone x hx ?_
      rcases hx.1 with hst|hst<;>simp[hst]

lemma moved_freeFresh (h:Sound mc) (range:Range) (hg:Grown (withRange mc range) e mc₁)
 (late:Bool) : Moved mc.mallocs mc {mc₁ with late:=late} ∧
  (∀notes,Moved mc.mallocs mc
   (freeRange (tell {mc₁ with late:=late} notes) mc.mallocs)) ∧
  mc.mallocs∉mc₁.timerQueue ∧ ∀low high,¬Block mc₁ mc.mallocs low high := by
 obtain ⟨hnew,hat⟩:=moved_withRange h.tidy h.fresh.1 h.fresh.2 range
 obtain ⟨hgrown,hstands⟩:=hg.moved hnew.tidy mc.mallocs
 have hat₁:=hstands hat
 have hfree:∀low high,¬Block mc₁ mc.mallocs low high:=fun low high hb=>by
  cases (hat₁.block low high).1 hb
 have htold:∀notes,Moved mc.mallocs mc (tell {mc₁ with late:=late} notes):=fun notes=>
  (hnew.trans hgrown).trans
   (.congr hgrown.tidy le_rfl le_rfl rfl)
 have hout:mc.mallocs∉mc₁.timerQueue:=fun hmem=>by cases hat₁.queue.1 hmem
 exact ⟨(hnew.trans hgrown).trans
  (.congr hgrown.tidy le_rfl le_rfl rfl),
  fun notes=>(htold notes).trans (moved_freeRange (htold notes).tidy hfree),hout,hfree⟩

lemma turn_refuse (h:Sound mc) (hm:∀ref,Moved ref mc mc') {note:Nat×Notify}
 (hnote:answers note.2=true) (hresult:note.2.result ≠ .requiresInitialization)
 (hnotifies:mc'.notifies=mc.notifies++[note])
 (hqueued:mc'.queued=mc.queued) (hmaxid:mc.maxid ≤ mc'.maxid) : Turn mc (.answer [note]) mc' := by
 obtain ⟨hsound,hswap⟩:=h.still hm
 exact ⟨hsound,(hm 0).config,hmaxid,by rintro _ ⟨⟩,
  by simpa[Act.Valid] using ⟨hnote,fun _=>hresult⟩,hswap,hnotifies,hqueued.trans (append_nil _).symm⟩

lemma turn_reserve (env:Env) (h:Sound mc) (sender:Nat)
 (hg:Grown (withRange {mc with maxid:=mc.maxid+1} (newRange env mc (mc.maxid+1)
  sender)) (some (node,⟨low,high,none⟩)) mc₁) :
 Turn mc (.reserve ⟨⟨mc.maxid+1,sender,.probing,maapProbeRetransmits⟩,mc.mallocs,low,
  high⟩) (probeReservation env (mc₁.own node mc.mallocs) mc.mallocs) := by
 have hcounted:∀ref,Moved ref mc {mc with maxid:=mc.maxid+1}:=fun ref=>
  .congr h.tidy le_rfl le_rfl rfl
 obtain ⟨hplaced₀,hat,-⟩:=moved_assignFresh (h.still hcounted).1 _ hg
 have hplaced:Moved mc.mallocs mc (mc₁.own node mc.mallocs):=(hcounted _).trans hplaced₀
 have hmute:=(mute_grown hg).1
 obtain ⟨y,hy⟩:∃y:Seat,y=⟨⟨mc.maxid+1,sender,.probing,maapProbeRetransmits⟩,mc.mallocs,low,high⟩:=⟨_,rfl⟩
 have href:y.ref=mc.mallocs:=by rw[hy]
 have haty:At (mc₁.own node mc.mallocs) y.ref y.toProfile false (some (y.low,y.high)):=by
  rw[hy]
  exact hat
 have hinform:(mc₁.own node mc.mallocs).informAcquiring mc.mallocs=
  (mc₁.own node mc.mallocs).addNotify y.sender (seatNote mc .acquiring y .none):=by
  rw[←seatNote_config hplaced.config]
  have hinform:=informOwner_eq (x:=y) hplaced.tidy haty .acquiring .none
  rw[href] at hinform
  exact hinform
 obtain ⟨timer,htimer⟩:=startTimer_eq (((mc₁.own node mc.mallocs).addNotify y.sender
  (seatNote mc .acquiring y .none)).scheduleTimer env mc.mallocs)
 rw[probeReservation,hinform,htimer,←hy]
 have hnote:=hplaced.trans (moved_addNotify hplaced.tidy y.sender (seatNote mc .acquiring y .none))
 have hsent:=schedule_send env mc.mallocs hnote.tidy (hat.congr rfl) maapProbe
 have hmoved:=hnote.trans hsent.moved
 generalize Client.scheduleTimer _ _ _=scheduled at hsent hmoved ⊢
 suffices hturn:Turn mc (.reserve y)
  (scheduled.sendPacket (scheduled.claimPacket maapProbe mc.mallocs)) from
  Turn.withTimer hturn timer
 generalize scheduled.sendPacket _=mc₂ at hsent hmoved ⊢
 have henter:Moved y.ref mc mc₂:=by
  rw[href]
  exact hmoved
 obtain ⟨hsound,hswap⟩:=h.enter (by rw[href];exact h.fresh.1) henter
  ⟨.inl (by rw[hy]),by rw[hy];exact hsent.stands⟩
 have hmaxid:mc₂.maxid=mc.maxid+1:=hsent.maxid.trans hmute.maxid
 refine ⟨hsound,hmoved.config,by omega,by rintro _ ⟨⟩,?_,hswap,?_,?_⟩
 · refine ⟨by rw[hy],by rw[hy],?_,?_⟩<;>rw[hy]<;>simp only<;>omega
 · exact hsent.notifies.trans (congrArg (· ++ _) hmute.notifies)
 · refine hsent.queued.trans ?_
   rw[claimFor_config hnote.config,show ((mc₁.own node mc.mallocs).addNotify y.sender
    (seatNote mc .acquiring y .none)).queued=mc.queued from hmute.queued,hy]
   rfl

lemma turn_maapReserveRange (env:Env) (h:Sound mc) (sender attemptBase length:Nat) :
 ∃act,Turn mc act (maapReserveRange env mc sender attemptBase length).1 ∧
  ∀i,act.id=some i → i=mc.maxid+1 := by
 unfold maapReserveRange
 split_ifs with hinit
 · exact ⟨_,turn_answer h sender rfl (by simpa using hinit),by rintro i ⟨⟩⟩
 · exact ⟨_,turn_answer h sender rfl fun _=>by rintro ⟨⟩,by rintro i ⟨⟩⟩
 · refine ⟨.answer [(sender,⟨.acquired,-1,0,length,.outOfMemory⟩)],turn_refuse h
    (fun ref=>?_) rfl (by rintro ⟨⟩) rfl rfl le_rfl,by rintro i ⟨⟩⟩
   exact .congr h.tidy le_rfl (Nat.le_succ _) rfl
 · have hcounted:∀ref,Moved ref mc {mc with maxid:=mc.maxid+1}:=fun ref=>
    .congr h.tidy le_rfl le_rfl rfl
   simp only[reserveFresh]
   rcases assignInterval_cases env (withRange {mc with maxid:=mc.maxid+1}
    (newRange env mc (mc.maxid+1) sender)) mc.mallocs attemptBase (uint16 length) with
    ⟨mc₁,node,low,high,hg,heq,-⟩ | ⟨mc₁,e,late,hg,heq,-⟩
   · simp only[heq]
     exact ⟨_,turn_reserve env h sender hg,fun i hi=>(some.inj hi).symm⟩
   · simp only[heq]
     have hmute:=(mute_grown hg).1
     obtain ⟨-,hfreed,hout,hfree⟩:=moved_freeFresh (h.still hcounted).1 _ hg late
     have hmoved:=hfreed [(sender,⟨.acquired,-1,0,length,.reserveNotAvailable⟩)]
     obtain ⟨hsound,hswap⟩:=h.retire mc.mallocs
      (fun z hz href=>h.fresh.1 (href▸hz.queued)) ((hcounted _).trans hmoved) hout hfree
     refine ⟨.answer [(sender,⟨.acquired,-1,0,length,.reserveNotAvailable⟩)],⟨hsound,
      ((hcounted 0).config.trans hmoved.config),?_,by rintro _ ⟨⟩,by simp[Act.Valid,answers],
      hswap,congrArg (· ++ _) hmute.notifies,hmute.queued.trans (append_nil _).symm⟩,
      by rintro i ⟨⟩⟩
     exact (le_of_lt (Int.lt_succ mc.maxid)).trans hmute.maxid.ge

end OpenAvnu.MaapRounds
