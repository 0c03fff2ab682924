import OpenAvnu.MaapHistory
import OpenAvnu.SinglyLinked

/-!
# The timer queue

`schedule_timer` and `maap_handle_timer` followed link by link.
-/

namespace OpenAvnu

open IntervalSearch MaapPacket MaapTimer MaapClient MaapDaemon MaapFrame MaapSeats MaapBlocks List

namespace MaapQueue

open MaapTurns MaapRounds MaapConflictTurns MaapHistory MaapRelease SinglyLinked Option Intervals

variable {a b:Time}

lemma timeCmp_le_iff : timeCmp a b≤0↔a.sec<b.sec ∨ a.sec=b.sec ∧ a.nsec≤b.nsec := by
 unfold timeCmp
 split_ifs<;>omega
lemma timeCmp_lt_iff : timeCmp a b<0↔¬timeCmp b a≤0 := by
 unfold timeCmp
 split_ifs<;>omega
lemma timeCmp_le_trans {c:Time} (hab:timeCmp a b≤0) (hbc:timeCmp b c≤0) : timeCmp a c≤0 := by
 rw[timeCmp_le_iff] at *
 omega
def Ordered (due:Nat → Time) (queue:List Nat) : Prop := queue.Pairwise fun r s=>timeCmp (due r) (due s)≤0

section Queue
variable {due due':Nat → Time} {ref:Nat} {queue:List Nat}

lemma ordered_congr (h:∀r∈queue,due' r=due r) (ho:Ordered due queue) : Ordered due' queue :=
 List.Pairwise.imp_of_mem (fun hr hs hle=>by rw[h _ hr,h _ hs];exact hle) ho

lemma ordered_walkTimers (ho:Ordered due queue) : Ordered due (walkTimers due ref queue) := by
 induction queue with
 | nil=>exact pairwise_singleton _ _
 | cons rp rest ih=>
  obtain ⟨hrp,hrest⟩:=pairwise_cons.1 ho
  simp only[walkTimers]
  split_ifs with hle
  · refine pairwise_cons.2 ⟨fun r hr=>?_,ih hrest⟩
    rcases mem_cons.1 ((walkTimers_perm due ref rest).mem_iff.1 hr) with rfl|hr
    · exact hle
    · exact hrp r hr
  · have hlt:timeCmp (due ref) (due rp)≤0:=(timeCmp_lt_iff.2 hle).le
    refine pairwise_cons.2 ⟨fun r hr=>?_,ho⟩
    rcases mem_cons.1 hr with rfl|hr
    · exact hlt
    · exact timeCmp_le_trans hlt (hrp r hr)

lemma ordered_addTimer (ho:Ordered due queue) : Ordered due (addTimer due ref queue) := by
 cases queue with
 | nil=>exact pairwise_singleton _ _
 | cons head rest=>
  obtain ⟨hhead,hrest⟩:=pairwise_cons.1 ho
  simp only[addTimer]
  split_ifs with hlt
  · refine pairwise_cons.2 ⟨fun r hr=>?_,ho⟩
    rcases mem_cons.1 hr with rfl|hr
    · exact hlt.le
    · exact timeCmp_le_trans hlt.le (hhead r hr)
  · rw[timeCmp_lt_iff,not_not] at hlt
    refine pairwise_cons.2 ⟨fun r hr=>?_,ordered_walkTimers hrest⟩
    rcases mem_cons.1 ((walkTimers_perm due ref rest).mem_iff.1 hr) with rfl|hr
    · exact hlt
    · exact hhead r hr

lemma ordered_requeueTimer (hn:queue.Nodup) (ho:Ordered due queue)
 (h:∀r,r≠ref → due' r=due r) : Ordered due' (requeueTimer due' ref queue) := by
 refine ordered_addTimer (ordered_congr (fun r hr=>h r ?_) (ho.sublist erase_sublist))
 rintro rfl
 exact hn.not_mem_erase hr

/-- `schedule_timer` on the links: take the range out, then put it where its time belongs. -/
def scheduleLinks (due:Nat → Time) (fuel ref:Nat) (links:Links) : Option Links :=
 (links.unlink fuel ref).bind fun cut=>
  cut.insert fuel ref (fun head=>decide (timeCmp (due ref) (due head)<0))
   (fun rp=>!decide (timeCmp (due rp) (due ref)≤0))

section
variable (due:Nat → Time) (ref:Nat) (queue:List Nat)

lemma walkTimers_eq : walkTimers due ref queue=
  queue.takeWhile (fun rp=>!!decide (timeCmp (due rp) (due ref)≤0))++
   ref::queue.dropWhile fun rp=>!!decide (timeCmp (due rp) (due ref)≤0) := by
 induction queue with
 | nil=>rfl
 | cons rp rest ih=>
  simp only[walkTimers]
  split_ifs with hle<;>simp[hle,ih]

lemma addTimer_eq : addTimer due ref queue=insertAt ref (fun head=>decide (timeCmp (due ref) (due head)<0))
   (fun rp=>!decide (timeCmp (due rp) (due ref)≤0)) queue := by
 cases queue with
 | nil=>rfl
 | cons head rest=>simp[addTimer,insertAt,walkTimers_eq]

end

lemma scheduleLinks_represents {links:Links} {fuel:Nat} (h:Represents links queue)
 (hfuel:queue.length≤fuel) (due:Nat → Time) (ref:Nat) : ∃links',scheduleLinks due fuel ref links=some links' ∧
  Represents links' (requeueTimer due ref queue) := by
 obtain ⟨cut,hcut,hrep⟩:=represents_unlink h hfuel ref
 have hlen:(queue.erase ref).length≤fuel:=(length_erase_le).trans hfuel
 obtain ⟨links',hinsert,hrep'⟩:=represents_insert hrep h.nodup.not_mem_erase hlen
  (fun head=>decide (timeCmp (due ref) (due head)<0))
  (fun rp=>!decide (timeCmp (due rp) (due ref)≤0))
 refine ⟨links',by rw[scheduleLinks,hcut];exact hinsert,?_⟩
 rw[requeueTimer,addTimer_eq]
 exact hrep'

end Queue

def dueOf (mc:Client) (r:Nat) : Time := (mc.range r).nextActTime

/-- The links of the ranges along the steps of a client: other steps leave the queue and its due
times alone. -/
inductive Relinked (env:Env) : Client → Links → Client → Links → Prop
 | still {mc mc':Client} {links:Links} (hqueue:mc'.timerQueue=mc.timerQueue)
  (hdue:∀r∈mc.timerQueue,dueOf mc' r=dueOf mc r) : Relinked env mc links mc' links
 | allocate {mc:Client} {links:Links} {ref:Nat} (hout:ref∉mc.timerQueue) :
  Relinked env mc links mc (links.setNext ref none)
 | pop {mc:Client} {links:Links} {ref:Nat} {rest:List Nat}
  (hqueue:mc.timerQueue=ref::rest) : Relinked env mc links {mc with timerQueue := rest} links.pop
 | schedule {mc:Client} {links links':Links} {ref fuel:Nat}
  (hfuel:mc.timerQueue.length≤fuel)
  (hlinks:scheduleLinks (dueOf (mc.scheduleTimer env ref)) fuel ref links=some links') :
  Relinked env mc links (mc.scheduleTimer env ref) links'
 | trans {mc mc' mc'':Client} {links links' links'':Links}
  (h:Relinked env mc links mc' links') (h':Relinked env mc' links' mc'' links'') :
  Relinked env mc links mc'' links''

structure Linked (mc:Client) (links:Links) : Prop where
 represents:Represents links mc.timerQueue
 ordered:Ordered (dueOf mc) mc.timerQueue

variable {env:Env} {mc mc' mc'':Client} {links links':Links} {ref:Nat}

lemma scheduleTimer_queue (env:Env) (mc:Client) (ref:Nat) : (mc.scheduleTimer env ref).timerQueue=
  requeueTimer (dueOf (mc.scheduleTimer env ref)) ref mc.timerQueue ∧
  ∀r,r≠ref → dueOf (mc.scheduleTimer env ref) r=dueOf mc r := by
 obtain ⟨⟨due,hstore⟩,store,draws,readings,heq⟩:=armRange_scheduled env mc ref
 constructor
 · rw[Client.scheduleTimer,heq]
   rfl
 · intro r hr
   have hsame:(mc.armRange env ref).store r=mc.store r:=by
    rw[hstore]
    exact if_neg hr
   exact congrArg (fun range:Option Range=>(range.getD default).nextActTime) hsame

lemma Relinked.linked (h:Relinked env mc links mc' links') (hl:Linked mc links) : Linked mc' links' := by
 induction h with
 | still hqueue hdue=>
  exact ⟨hqueue▸hl.represents,hqueue▸ordered_congr hdue hl.ordered⟩
 | allocate hout=>exact ⟨⟨(leads_update hout _).2 hl.represents.leads,hl.represents.nodup⟩,hl.ordered⟩
 | pop hqueue=>
  obtain ⟨hrep,hord⟩:=hl
  rw[hqueue] at hrep hord
  exact ⟨represents_pop hrep,(pairwise_cons.1 hord).2⟩
 | @schedule mc links links' ref fuel hfuel hlinks=>
  obtain ⟨hqueue,hdue⟩:=scheduleTimer_queue env mc ref
  obtain ⟨links'',hlinks'',hrep⟩:=scheduleLinks_represents hl.represents hfuel
   (dueOf (mc.scheduleTimer env ref)) ref
  obtain rfl:=some.inj (hlinks.symm.trans hlinks'')
  refine ⟨hqueue▸hrep,?_⟩
  rw[hqueue]
  exact ordered_requeueTimer hl.represents.nodup hl.ordered hdue
 | trans _ _ ih ih'=>exact ih' (ih hl)

/-- Whatever the links were, the code changes them along with the client. -/
def Moves (env:Env) (mc mc':Client) : Prop := ∀links,Linked mc links → ∃links',Relinked env mc links mc' links'
lemma Moves.trans (h:Moves env mc mc') (h':Moves env mc' mc'') : Moves env mc mc'' := by
 intro links hl
 obtain ⟨links',hr⟩:=h links hl
 obtain ⟨links'',hr'⟩:=h' links' (hr.linked hl)
 exact ⟨links'',hr.trans hr'⟩

lemma moves_scheduleTimer (env:Env) (mc:Client) (ref:Nat) : Moves env mc (mc.scheduleTimer env ref) := by
 intro links hl
 obtain ⟨links',hlinks,-⟩:=scheduleLinks_represents hl.represents le_rfl
  (dueOf (mc.scheduleTimer env ref)) ref
 exact ⟨links',.schedule le_rfl hlinks⟩

lemma moves_pop {rest:List Nat} (hqueue:mc.timerQueue=ref::rest) : Moves env mc {mc with timerQueue:=rest} :=
 fun links _=>⟨links.pop,.pop hqueue⟩

structure Still (mc mc':Client) : Prop where
 queue:mc'.timerQueue=mc.timerQueue
 due:∀r∈mc.timerQueue,dueOf mc' r=dueOf mc r

lemma Still.moves (h:Still mc mc') : Moves env mc mc' :=
 fun links _=>⟨links,.still h.queue h.due⟩
lemma Still.trans (h:Still mc mc') (h':Still mc' mc'') : Still mc mc'' :=
 ⟨h'.queue.trans h.queue,fun r hr=>(h'.due r (h.queue▸hr)).trans (h.due r hr)⟩
lemma still_of_store (hqueue:mc'.timerQueue=mc.timerQueue) (hstore:mc'.store=mc.store) :
 Still mc mc' := ⟨hqueue,fun r _=>by rw[dueOf,dueOf,Client.range,Client.range,hstore]⟩

section
variable (mc:Client)

lemma still_modifyRange (ref:Nat) {f:Range → Range}
 (hf:∀range,(f range).nextActTime=range.nextActTime) : Still mc (mc.modifyRange ref f) := by
 refine ⟨rfl,fun r _=>?_⟩
 simp only[dueOf,Client.range,store_modifyRange]
 split
 · cases mc.store r<;>simp[hf]
 · rfl

lemma Still.refl : Still mc mc := ⟨rfl,fun _ _=>rfl⟩

lemma still_addNotify (sender:Nat) (note:Notify) : Still mc (mc.addNotify sender note) := still_of_store rfl rfl
lemma still_sendPacket (p:Packet) : Still mc (mc.sendPacket p) := still_of_store rfl rfl
lemma still_setState (ref:Nat) (state:MaapState) :
 Still mc (setState mc ref state) := still_modifyRange mc ref fun _=>rfl
lemma still_setCounter (ref counter:Nat) :
 Still mc (setCounter mc ref counter) := still_modifyRange mc ref fun _=>rfl
lemma still_setOverlapping (ref:Nat) (flag:Bool) :
 Still mc (setOverlapping mc ref flag) := still_modifyRange mc ref fun _=>rfl
lemma still_own (node ref:Nat) : Still mc (mc.own node ref) :=
 ⟨rfl,(still_modifyRange mc ref (f:=fun range=>{range with interval:=some node})
  fun _=>rfl).due⟩

end

lemma still_grown {e:Option (Entry Nat)} (h:Grown mc e mc') : Still mc mc' := by
 cases h<;>exact still_of_store rfl rfl

lemma still_repoint (fuel:Nat) (e:Option (Entry Nat)) (mc:Client) : Still mc (Client.repoint fuel e mc) := by
 induction fuel generalizing e mc with
 | zero=>cases e<;>exact .refl _
 | succ fuel ih=>
  cases e with
  | none=>exact still_of_store rfl rfl
  | some e=>
   refine Still.trans ?_ (ih _ _)
   split
   · exact still_modifyRange mc _ fun _=>rfl
   · exact still_of_store rfl rfl

lemma still_removeRangeInterval (mc:Client) (node:Nat) : Still mc (mc.removeRangeInterval node) := by
 unfold Client.removeRangeInterval
 split
 · next tree _ _=>
    have htree:Still mc {mc with ranges:=tree}:=still_of_store rfl rfl
    exact htree.trans (still_repoint _ _ _)
 · exact still_of_store rfl rfl

lemma still_releaseAt (mc:Client) (node ref:Nat) : Still mc (releaseAt mc node ref) :=
 (still_removeRangeInterval mc node).trans (still_setState _ ref .released)

lemma still_freeRange (hout:ref∉mc.timerQueue) : Still mc (freeRange mc ref) := by
 refine ⟨rfl,fun r hr=>?_⟩
 have hne:r≠ref:=by
  rintro rfl
  exact hout hr
 simp[dueOf,Client.range,freeRange,hne]

lemma still_startTimer (mc:Client) : Still mc mc.startTimer := by
 obtain ⟨timer,heq⟩:=startTimer_eq mc
 rw[heq]
 exact still_of_store rfl rfl

lemma moves_withRange (mc:Client) (hout:mc.mallocs∉mc.timerQueue) (range:Range) :
 Moves env mc (withRange mc range) := by
 intro links _
 have hstill:Still mc (withRange mc range):=by
  refine ⟨rfl,fun r hr=>?_⟩
  have hne:r≠mc.mallocs:=by
   rintro rfl
   exact hout hr
  simp[dueOf,Client.range,withRange,hne]
 exact ⟨_,.trans (.still hstill.queue hstill.due) (.allocate hout)⟩

section
variable (env:Env) (mc:Client)

lemma moves_assignInterval (ref base len:Nat) : Moves env mc (mc.assignInterval env ref base len).1 ∧
  (mc.assignInterval env ref base len).1.timerQueue=mc.timerQueue := by
 rcases assignInterval_cases env mc ref base len with
  ⟨mc₁,fresh,low,high,hg,heq,-⟩ | ⟨mc₁,e,late,hg,heq,-⟩
 · have hstill:=(still_grown hg).trans (still_own mc₁ fresh ref)
   rw[heq]
   exact ⟨hstill.moves,hstill.queue⟩
 · have hlate:Still mc₁ {mc₁ with late:=late}:=still_of_store rfl rfl
   have hstill:=(still_grown hg).trans hlate
   rw[heq]
   exact ⟨hstill.moves,hstill.queue⟩

lemma moves_schedule_send (ref messageType:Nat) : Moves env mc ((mc.scheduleTimer env ref).sendPacket
  ((mc.scheduleTimer env ref).claimPacket messageType ref)) :=
 (moves_scheduleTimer env mc ref).trans (still_sendPacket _ _).moves

lemma moves_relocate (node:Nat) (iv:Interval Nat)
 (ref:Nat) : Moves env mc (relocate env mc node iv ref) := by
 have hcut:Still mc {mc with ranges:=mc.ranges.setData node none}:=still_of_store rfl rfl
 have hassign:=hcut.moves.trans (moves_assignInterval env
  {mc with ranges:=mc.ranges.setData node none} ref 0 (sizeOf16 iv)).1
 simp only[relocate]
 split_ifs
 · refine hassign.trans (Moves.trans (Still.moves ?_) (moves_schedule_send env _ ref maapProbe))
   exact ((still_addNotify _ _ _).trans (still_removeRangeInterval _ node)).trans
    (still_setCounter _ ref maapProbeRetransmits)
 · exact hassign.trans ((still_addNotify _ _ _).trans (still_releaseAt _ node ref)).moves

end

lemma moves_requestReplacement (env:Env) (iv:Interval Nat) (ref:Nat)
 (hout:mc.mallocs∉mc.timerQueue) : Moves env mc (requestReplacement env mc iv ref) := by
 obtain ⟨hassign,hqueue⟩:=moves_assignInterval env (withRange mc (newRange env mc
  (mc.range ref).id (mc.range ref).sender)) mc.mallocs 0 (sizeOf16 iv)
 have hmoves:=(moves_withRange mc hout _).trans hassign
 simp only[requestReplacement]
 split_ifs
 · have hcount:Still mc {mc with mallocs:=mc.mallocs+1}:=still_of_store rfl rfl
   exact (hcount.trans (still_addNotify _ _ _)).moves
 · exact (hmoves.trans (moves_schedule_send env _ mc.mallocs maapProbe)).trans
    ((still_addNotify _ _ _).trans (still_addNotify _ _ _)).moves
 · refine hmoves.trans ((still_addNotify _ _ _).trans (still_freeRange ?_)).moves
   exact fun hmem=>hout (hqueue▸hmem)

lemma moves_reactTo (env:Env) (p:Packet) (h:Sound mc) (node:Nat)
 (iv:Interval Nat) (ref:Nat) : Moves env mc (reactTo env p mc node iv ref) := by
 unfold reactTo
 split
 · split_ifs
   · exact (Still.refl _).moves
   · exact moves_relocate env mc node iv ref
 · split_ifs
   · exact (still_sendPacket mc _).moves
   · exact (Still.refl mc).moves
   · exact (moves_requestReplacement env iv ref h.fresh.1).trans (still_releaseAt _ node ref).moves
 · exact (Still.refl _).moves

lemma still_flagOverlaps (start count fuel:Nat) (e:Option (Entry Nat))
 (mc:Client) (num:Nat) : Still mc (flagOverlaps start count fuel e mc num).1 := by
 induction fuel generalizing e mc num with
 | zero=>cases e<;>exact .refl _
 | succ fuel ih=>
  cases e with
  | none=>exact .refl _
  | some e=>
   simp only[flagOverlaps]
   split_ifs
   · refine Still.trans ?_ (ih _ _ _)
     split
     · exact still_setOverlapping mc _ true
     · exact .refl _
   · exact .refl _

section
variable (env:Env)

lemma moves_resolveConflicts (p:Packet) (start num:Nat) (h:Sound mc) :
 Moves env mc (resolveConflicts env p start num mc) := by
 induction num generalizing mc with
 | zero=>exact (Still.refl _).moves
 | succ num ih=>
  simp only[resolveConflicts]
  split
  · next node iv ref hfound=>
     obtain ⟨hmem,hd⟩:=findFlagged_mem mc (fun e he=>searchInterval_mem he) hfound
     obtain ⟨act,hturn,-⟩:=resolveConflict_turn env p h hmem hd
     have hflag:=turn_setOverlapping h ref false
     exact ((still_setOverlapping mc ref false).moves.trans
      (moves_reactTo env p hflag.sound node iv ref)).trans (ih hturn.sound)
  · exact (Still.refl _).moves

lemma moves_maapHandlePacket (stream:List UInt8) (h:Sound mc) :
 Moves env mc (maapHandlePacket env mc stream).1 := by
 unfold maapHandlePacket
 split_ifs
 · exact (Still.refl _).moves
 · simp only
   split_ifs
   · exact (Still.refl _).moves
   · exact (Still.refl _).moves
   · refine Moves.trans ?_ (still_startTimer _).moves
     exact (still_flagOverlaps _ _ _ _ mc 0).moves.trans
      (moves_resolveConflicts env _ _ _ (flagOverlaps_silent _ _ _ _ 0 h).sound)

lemma moves_handleDue (ref:Nat) (hout:ref∉mc.timerQueue) : Moves env mc (handleDue env mc ref) := by
 unfold handleDue handleProbeTimer handleDefendTimer
 split
 · split_ifs
   · have hstill:Still mc (setState (mc.informAcquired ref .none) ref .defending):=
      (still_addNotify mc _ _).trans (still_setState _ ref .defending)
     exact hstill.moves.trans (moves_schedule_send env _ ref maapAnnounce)
   · have hstill:Still mc (setCounter mc ref ((mc.range ref).counter-1)):=
      still_setCounter mc ref _
     exact hstill.moves.trans (moves_schedule_send env _ ref maapProbe)
 · exact moves_schedule_send env mc ref maapAnnounce
 · exact (still_freeRange hout).moves
 · exact (Still.refl _).moves

lemma moves_handleTimers (currenttime:Time) (fuel:Nat) (h:Sound mc)
 (hrun:handleTimers env currenttime fuel mc=some mc') : Moves env mc mc' := by
 induction fuel generalizing mc with
 | zero=>
  unfold handleTimers at hrun
  split at hrun
  · cases hrun
    exact (Still.refl _).moves
  · split_ifs at hrun
    cases hrun
    exact (Still.refl _).moves
 | succ fuel ih=>
  unfold handleTimers at hrun
  split at hrun
  · cases hrun
    exact (Still.refl _).moves
  · next ref rest hqueue=>
     split_ifs at hrun
     · obtain ⟨act,hturn,-,-⟩:=turn_due env h hqueue
       have hnodup:=h.queueNodup
       rw[hqueue] at hnodup
       exact ((moves_pop hqueue).trans (moves_handleDue env ref
        (nodup_cons.1 hnodup).1)).trans (ih hturn.sound hrun)
     · cases hrun
       exact (Still.refl _).moves

lemma moves_probeReservation (mc:Client) (ref:Nat) : Moves env mc (probeReservation env mc ref) := by
 have hnote:Still mc (mc.informAcquiring ref):=still_addNotify mc _ _
 exact ((hnote.moves.trans (moves_scheduleTimer env _ ref)).trans
  (still_startTimer _).moves).trans (still_sendPacket _ _).moves

lemma moves_maapReserveRange (h:Sound mc) (sender attemptBase length:Nat) :
 Moves env mc (maapReserveRange env mc sender attemptBase length).1 := by
 have hcount:Still mc {mc with maxid:=mc.maxid+1}:=still_of_store rfl rfl
 obtain ⟨hassign,hqueue⟩:=moves_assignInterval env (withRange {mc with maxid:=mc.maxid+1}
  (newRange env mc (mc.maxid+1) sender)) mc.mallocs attemptBase (uint16 length)
 have hmoves:=hcount.moves.trans
  ((moves_withRange {mc with maxid:=mc.maxid+1} h.fresh.1 _).trans hassign)
 unfold maapReserveRange
 split_ifs
 · exact (still_addNotify mc _ _).moves
 · exact (still_addNotify mc _ _).moves
 · have hcount:Still mc {mc with mallocs:=mc.mallocs+1}:=still_of_store rfl rfl
   exact (hcount.trans (still_addNotify _ _ _)).moves
 · simp only[reserveFresh]
   split_ifs
   · exact hmoves.trans (moves_probeReservation env _ mc.mallocs)
   · refine hmoves.trans ((still_addNotify _ _ _).trans (still_freeRange ?_)).moves
     exact fun hmem=>h.fresh.1 (hqueue▸hmem)

end

lemma still_maapReleaseRange (mc:Client) (sender:Nat) (id:Int) : Still mc (maapReleaseRange mc sender id).1 := by
 unfold maapReleaseRange
 split_ifs
 · exact still_addNotify mc _ _
 · split
   · exact still_addNotify mc _ _
   · simp only
     split_ifs
     · exact ((still_addNotify mc _ _).trans (still_addNotify _ _ _)).trans (still_releaseAt _ _ _)
     · exact (still_addNotify mc _ _).trans (still_releaseAt _ _ _)

lemma moves_maapYieldRange (env:Env) (h:Sound mc) (sender:Nat) (id:Int) :
 Moves env mc (maapYieldRange env mc sender id).1 := by
 rcases yield_cases env mc sender id with ⟨error,-,-,heq,-⟩|⟨ref,handled,hhandled,heq,-⟩
 · rw[heq]
   exact (still_addNotify mc _ _).moves
 · have hmoves:=moves_maapHandlePacket env (packMaap (yieldPacket mc ref)) h
   rw[hhandled] at hmoves
   rwa[heq]

lemma moves_input (i:Input) (h:Sound mc) (hinit:mc.initialized=true)
 (hrun:i.run env mc=some mc') : Moves env mc mc' := by
 cases i with
 | init sender addressBase rangeLen=>
  cases hrun
  unfold maapInitClient
  split_ifs<;>exact (still_addNotify mc _ _).moves
 | reserve sender attemptBase length=>
  cases hrun
  exact moves_maapReserveRange env h sender attemptBase length
 | release sender id=>
  cases hrun
  exact (still_maapReleaseRange mc sender id).moves
 | status sender id=>
  cases hrun
  unfold maapRangeStatus
  split_ifs
  · exact (still_addNotify mc _ _).moves
  · split<;>exact (still_addNotify mc _ _).moves
 | yield sender id=>
  cases hrun
  exact moves_maapYieldRange env h sender id
 | packet stream=>
  cases hrun
  exact moves_maapHandlePacket env stream h
 | timer fuel=>
  obtain ⟨mc₁,hloop,rfl⟩:=map_eq_some_iff.1 hrun
  have hread:Still mc {mc with readings:=mc.readings+1}:=still_of_store rfl rfl
  have hsound:=(turn_read h).sound
  exact (hread.moves.trans (moves_handleTimers env _ fuel hsound hloop)).trans
   (still_startTimer _).moves

lemma moves_runInputs (inputs:List Input) (h:Sound mc) (hinit:mc.initialized=true)
 (hrun:runInputs env inputs mc=some mc') : Moves env mc mc' := by
 induction inputs generalizing mc with
 | nil=>
  obtain rfl:=some.inj hrun
  exact (Still.refl mc).moves
 | cons i inputs ih=>
  obtain ⟨mc₁,hfirst,hrest⟩:=bind_eq_some_iff.1 hrun
  obtain ⟨acts,hturns⟩:=i.turns h hinit hfirst
  exact (moves_input i h hinit hfirst).trans
   (ih hturns.sound (hturns.config.initialized.trans hinit) hrest)

def noLinks : Links := ⟨none,fun _=>none⟩

/-- The links lead through the ordered queue without a repetition; at most one range of a
reservation is not released. -/
theorem timer_queue_ordered (env:Env) (destMac srcMac owner addressBase rangeLen:Nat)
 (inputs:List Input) (mc:Client)
 (h:runInputs env inputs (started destMac srcMac owner addressBase rangeLen)=some mc) :
 (∃links,Relinked env (started destMac srcMac owner addressBase rangeLen) noLinks mc links ∧
  Represents links mc.timerQueue) ∧
 mc.timerQueue.Pairwise (fun r s=>
  timeCmp (mc.range r).nextActTime (mc.range s).nextActTime≤0) ∧
 mc.timerQueue.Nodup ∧
 ∀id : Int,∀r∈mc.timerQueue,∀s∈mc.timerQueue,(mc.range r).id=id →
  (mc.range s).id=id → (mc.range r).state ≠ .released → (mc.range s).state ≠ .released →
  r=s := by
 obtain ⟨hsound,hnum,-⟩:=runInputs_sound h
 have hstart:Linked (started destMac srcMac owner addressBase rangeLen) noLinks:=
  ⟨⟨rfl,nodup_nil⟩,List.Pairwise.nil⟩
 obtain ⟨links,hlinks⟩:=moves_runInputs inputs
  (started_sound destMac srcMac owner addressBase rangeLen).1 rfl h noLinks hstart
 have hlinked:=hlinks.linked hstart
 refine ⟨⟨links,hlinks,hlinked.represents⟩,hlinked.ordered,hsound.queueNodup,?_⟩
 intro id r hr s hs hidr hids hstr hsts
 obtain ⟨x,rfl,hx⟩:=hsound.sits_of_queued hr hstr
 obtain ⟨y,rfl,hy⟩:=hsound.sits_of_queued hs hsts
 have hxid:(mc.range x.ref).id=x.id:=congrArg Profile.id hx.range
 have hyid:(mc.range y.ref).id=y.id:=congrArg Profile.id hy.range
 exact congrArg Seat.ref (hnum.one x y hx hy (by rw[←hxid,←hyid,hidr,hids]))

theorem timer_queue_ordered_two : ∃mc,runInputs MaapRuns.steadyEnv
  [.reserve 0 0x91E0F0000010 8,.reserve 0 0x91E0F0000020 8,.timer 3] pool=some mc ∧
  mc.timerQueue=[0,1] ∧ mc.timerQueue.Nodup := by
 obtain ⟨mc,hmc,htest⟩:=(Option.any_eq_true (fun mc:Client=>decide (mc.timerQueue=[0,1]))
  (runInputs MaapRuns.steadyEnv [.reserve 0 0x91E0F0000010 8,.reserve 0 0x91E0F0000020 8,
   .timer 3] pool)).1 (by decide +kernel)
 exact ⟨mc,hmc,of_decide_eq_true htest,(timer_queue_ordered _ _ _ _ _ _ _ mc hmc).2.2.1⟩

end MaapQueue

/-! ## The end of the timer loop -/

namespace MaapDrain

open MaapRelease MaapHistory MaapQueue

def dueRefs (now:Time) (mc:Client) : List Nat := mc.timerQueue.filter fun ref=>timePassed now (dueOf mc ref)

inductive Drains (env:Env) (now:Time) : Client → List Nat → Client → Prop
 | done {mc:Client} (h:∀ref∈mc.timerQueue.head?,timePassed now (dueOf mc ref)=false) : Drains env now mc [] mc
 | round {mc mc':Client} {ref:Nat} {rest handled:List Nat}
   (hqueue:mc.timerQueue=ref::rest) (hdue:timePassed now (dueOf mc ref)=true)
   (h:Drains env now (handleDue env {mc with timerQueue := rest} ref) handled mc') :
   Drains env now mc (ref::handled) mc'

structure Timed (env:Env) (now:Time) (mc:Client) : Prop where
 nodup:mc.timerQueue.Nodup
 ordered:Ordered (dueOf mc) mc.timerQueue
 clock:∀k,mc.readings≤k → timeCmp now (env.clock k)≤0

variable {env:Env} {now:Time} {mc mc':Client} {ref:Nat}

lemma timePassed_iff {t:Time} : timePassed now t=true↔timeCmp t now≤0 := by
 rw[timeCmp_le_iff]
 unfold timePassed
 split_ifs<;>simp<;>omega

lemma timePassed_later {c:Time} {ns:Nat} (hnow:timeCmp now c≤0) (hns:0<ns) :
 timePassed now (timeAdd c (timeSetFromNanos ns))=false := by
 rw[←Bool.not_eq_true,timePassed_iff,timeCmp_le_iff]
 rw[timeCmp_le_iff] at hnow
 unfold timeAdd timeSetFromNanos
 split_ifs<;>simp only<;>omega

lemma range_modifyRange (hs:(mc.range ref).state ≠ .invalid) (f:Range → Range) :
 (mc.modifyRange ref f).range ref=f (mc.range ref) := by
 cases hstore:mc.store ref with
 | none=>exact absurd (by rw[Client.range,hstore];rfl) hs
 | some range=>simp[Client.range,Client.modifyRange,hstore]

lemma schedule_later (hs:(mc.range ref).state=.probing ∨ (mc.range ref).state=.defending)
 (hnow:timeCmp now (env.clock mc.readings)≤0) : timePassed now (dueOf (mc.scheduleTimer env ref) ref)=false ∧
  mc.readings≤(mc.scheduleTimer env ref).readings := by
 have harm:∀base variation,0<base →
   timePassed now (dueOf (mc.armTimer env ref base variation) ref)=false:=by
  intro base variation hbase
  have hvalid:(mc.range ref).state ≠ .invalid:=by rcases hs with hs | hs<;>simp[hs]
  change timePassed now (Client.range (mc.modifyRange ref _) ref).nextActTime=false
  rw[range_modifyRange hvalid]
  exact timePassed_later hnow (by omega)
 unfold Client.scheduleTimer Client.armRange
 rcases hs with hs|hs
 · rw[hs]
   exact ⟨harm _ _ (by decide),Nat.le_succ _⟩
 · rw[hs]
   exact ⟨harm _ _ (by decide),Nat.le_succ _⟩

lemma filter_requeueTimer {p:Nat → Bool} (hp:p ref=false) {due:Nat → Time}
 {queue:List Nat} (hout:ref∉queue) : (requeueTimer due ref queue).filter p=queue.filter p := by
 have hwalk:∀rest:List Nat,(walkTimers due ref rest).filter p=rest.filter p:=by
  intro rest
  induction rest with
  | nil=>simp[walkTimers,hp]
  | cons rp rest ih=>
   unfold walkTimers
   split_ifs<;>simp[filter_cons,hp,ih]
 rw[requeueTimer,erase_of_not_mem hout]
 cases queue with
 | nil=>simp[addTimer,hp]
 | cons head rest=>
  rw[addTimer]
  split_ifs<;>simp[filter_cons,hp,hwalk]

section
variable (h:Timed env now mc)
include h

lemma Timed.still (hstill:Still mc mc') (hread:mc'.readings=mc.readings) :
 Timed env now mc' ∧ dueRefs now mc'=dueRefs now mc := by
 refine ⟨⟨hstill.queue▸h.nodup,hstill.queue▸ordered_congr hstill.due h.ordered,hread▸h.clock⟩,?_⟩
 rw[dueRefs,hstill.queue]
 exact filter_congr fun r hr=>by rw[hstill.due r hr]

lemma Timed.schedule (hout:ref∉mc.timerQueue)
 (hs:(mc.range ref).state=.probing ∨ (mc.range ref).state=.defending) (p:Packet) :
 Timed env now ((mc.scheduleTimer env ref).sendPacket p) ∧
  dueRefs now ((mc.scheduleTimer env ref).sendPacket p)=dueRefs now mc := by
 obtain ⟨hqueue,hdue⟩:=scheduleTimer_queue env mc ref
 obtain ⟨hlater,hread⟩:=schedule_later hs (h.clock _ le_rfl)
 have hordered:=ordered_requeueTimer h.nodup h.ordered hdue
 rw[←hqueue] at hordered
 refine ⟨⟨hqueue▸nodup_requeueTimer h.nodup,hordered,fun k hk=>h.clock k (hread.trans hk)⟩,?_⟩
 change (mc.scheduleTimer env ref).timerQueue.filter (fun r=>timePassed now
  (dueOf (mc.scheduleTimer env ref) r))=_
 rw[hqueue,filter_requeueTimer hlater hout]
 refine filter_congr fun r hr=>?_
 rw[hdue r fun heq=>hout (heq▸hr)]

lemma Timed.handleDue (hout:ref∉mc.timerQueue) :
 Timed env now (handleDue env mc ref) ∧ dueRefs now (handleDue env mc ref)=dueRefs now mc := by
 have hset:∀{mc₁:Client},Still mc mc₁ → mc₁.readings=mc.readings →
   (mc₁.range ref).state=.probing ∨ (mc₁.range ref).state=.defending → ∀p,
   Timed env now ((mc₁.scheduleTimer env ref).sendPacket p) ∧
    dueRefs now ((mc₁.scheduleTimer env ref).sendPacket p)=dueRefs now mc:=by
  intro mc₁ hstill hread hs p
  obtain ⟨htimed,hsame⟩:=h.still hstill hread
  obtain ⟨htimed',hsame'⟩:=htimed.schedule (hstill.queue▸hout) hs p
  exact ⟨htimed',hsame'.trans hsame⟩
 unfold MaapDaemon.handleDue handleProbeTimer handleDefendTimer
 split
 · next hstate=>
    have hvalid:(mc.range ref).state ≠ .invalid:=by simp[hstate]
    split_ifs
    · refine hset ((still_addNotify mc _ _).trans (still_setState _ ref .defending)) rfl (.inr ?_) _
      exact congrArg Range.state (range_modifyRange hvalid _)
    · refine hset (still_setCounter mc ref _) rfl (.inl ?_) _
      exact (congrArg Range.state (range_modifyRange hvalid _)).trans hstate
 · next hstate=>exact hset (Still.refl _) rfl (.inr hstate) _
 · exact h.still (still_freeRange hout) rfl
 · exact h.still (Still.refl _) rfl

lemma drains {handled:List Nat} (hdue:dueRefs now mc=handled) : ∃mc',Drains env now mc handled mc' ∧
  ∀fuel,handled.length≤fuel → handleTimers env now fuel mc=some mc' := by
 induction handled generalizing mc with
 | nil=>
  have hhead:∀ref∈mc.timerQueue.head?,timePassed now (dueOf mc ref)=false:=by
   intro ref href
   rw[←Bool.not_eq_true]
   exact filter_eq_nil_iff.1 hdue ref (mem_of_mem_head? href)
  refine ⟨mc,.done hhead,fun fuel _=>?_⟩
  unfold handleTimers
  split
  · rfl
  · next ref rest hqueue=>
     rw[if_neg (by rw[Bool.not_eq_true];exact hhead ref (by rw[hqueue];rfl))]
 | cons ref handled ih=>
  cases hqueue:mc.timerQueue with
  | nil=>rw[dueRefs,hqueue] at hdue;cases hdue
  | cons head rest=>
   have hnodup:=h.nodup
   have hordered:=h.ordered
   rw[hqueue] at hnodup hordered
   obtain ⟨hout,hnodup⟩:=nodup_cons.1 hnodup
   obtain ⟨hfirst,hordered⟩:=pairwise_cons.1 hordered
   rw[dueRefs,hqueue] at hdue
   have hpassed:timePassed now (dueOf mc head)=true:=by
    -- if the head were not due, no range behind it would be
    by_contra hnot
    rw[filter_cons,if_neg hnot] at hdue
    obtain ⟨hmem,hpassed⟩:=mem_filter.1 (hdue▸mem_cons_self:ref∈rest.filter _)
    exact hnot (timePassed_iff.2 (timeCmp_le_trans (hfirst ref hmem) (timePassed_iff.1 hpassed)))
   rw[filter_cons,if_pos hpassed] at hdue
   obtain ⟨rfl,hrest⟩:=List.cons.inj hdue
   have hpopped:Timed env now {mc with timerQueue:=rest}:=⟨hnodup,hordered,h.clock⟩
   obtain ⟨htimed,hsame⟩:=hpopped.handleDue hout
   obtain ⟨mc',hdrains,hends⟩:=ih htimed (hsame.trans hrest)
   refine ⟨mc',.round hqueue hpassed hdrains,fun fuel hfuel=>?_⟩
   cases fuel with
   | zero=>simp at hfuel
   | succ fuel=>
    unfold handleTimers
    rw[hqueue]
    exact (if_pos hpassed).trans (hends fuel (Nat.le_of_succ_le_succ hfuel))

end

/-- With any clock that does not run backwards, it ends after handling what was due at its first
reading, each once. -/
theorem handle_timer_ends (env:Env) (mc:Client) (hnodup:mc.timerQueue.Nodup)
 (hordered:Ordered (dueOf mc) mc.timerQueue)
 (hclock:∀i j,i≤j → timeCmp (env.clock i) (env.clock j)≤0) : (dueRefs (env.clock mc.readings) mc).Nodup ∧ ∃mc',
  Drains env (env.clock mc.readings) {mc with readings:=mc.readings+1}
   (dueRefs (env.clock mc.readings) mc) mc' ∧
  ∀fuel,(dueRefs (env.clock mc.readings) mc).length≤fuel →
   maapHandleTimer env fuel mc=some mc'.startTimer := by
 have htimed:Timed env (env.clock mc.readings) {mc with readings:=mc.readings+1}:=
  ⟨hnodup,hordered,fun k hk=>hclock _ k (by simp only at hk;omega)⟩
 obtain ⟨mc',hdrains,hends⟩:=drains htimed rfl
 refine ⟨hnodup.filter _,mc',hdrains,fun fuel hfuel=>?_⟩
 rw[maapHandleTimer,hends fuel hfuel]
 rfl

def slowEnv : Env := {MaapRuns.steadyEnv with clock:=fun n=>⟨n/4,0⟩}
def waiting : Client := [0x91E0F0000010,0x91E0F0000020,0x91E0F0000030].foldl (fun mc start=>
 (maapReserveRange slowEnv mc 0 start 8).1) pool

theorem handle_timer_ends_waiting : waiting.timerQueue=[0,1,2] ∧
 dueRefs (slowEnv.clock waiting.readings) waiting=[0,1] ∧
  ∃mc',∀fuel,2≤fuel → maapHandleTimer slowEnv fuel waiting=some mc' := by
 have hqueue:waiting.timerQueue=[0,1,2]:=by decide +kernel
 have hdue:dueRefs (slowEnv.clock waiting.readings) waiting=[0,1]:=by decide +kernel
 obtain ⟨-,mc',-,hends⟩:=handle_timer_ends slowEnv waiting (by rw[hqueue];decide)
  (by unfold Ordered;rw[hqueue];decide +kernel) fun i j hij=>by
   rw[timeCmp_le_iff]
   simp only[slowEnv]
   omega
 exact ⟨hqueue,hdue,mc'.startTimer,fun fuel hfuel=>hends fuel (hdue▸hfuel)⟩

end MaapDrain

end OpenAvnu
