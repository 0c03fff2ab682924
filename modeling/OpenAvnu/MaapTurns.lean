import OpenAvnu.MaapBlocks

/-!
# The turns of a reservation

A turn does one thing to one seat, the range that stands for a reservation.
-/

namespace OpenAvnu.MaapTurns

open Intervals MaapPacket MaapClient MaapFrame MaapHoldings MaapSeats Option

structure Seat extends Profile where
 (ref low high:Nat)
 deriving DecidableEq

def Live (p:Profile) : Prop := p.state=.probing ∨ p.state=.defending
def Sits (mc:Client) (x:Seat) : Prop := Live x.toProfile ∧ At mc x.ref x.toProfile true (some (x.low,x.high))

/-- A range is out of use, waits for its end, or has a seat. -/
def Standing (mc:Client) (r:Nat) : Prop := (r∉mc.timerQueue ∧ ∀low high,¬Block mc r low high) ∨
  (∃p:Profile,p.state=.released ∧ At mc r p true none) ∨ ∃x,x.ref=r ∧ Sits mc x

structure Sound (mc:Client) : Prop where
 tidy:Tidy mc
 queueNodup:mc.timerQueue.Nodup
 standing:∀r,Standing mc r

/-- Every reservation has at most one seat, under an id that was given out. -/
structure Numbered (mc:Client) : Prop where
 one:∀x y,Sits mc x → Sits mc y → x.id=y.id → x=y
 issued:∀x,Sits mc x → 0<x.id ∧ x.id ≤ mc.maxid
 maxid:0 ≤ mc.maxid

def Swap (mc:Client) (old new:Option Seat) (mc':Client) : Prop :=
 ∀z,Sits mc' z↔(Sits mc z ∧ ∀x∈old,z.ref≠x.ref) ∨ new=some z

def answers (note:Notify) : Bool :=
 match note.kind with
 | .initialized | .status=>true
 | .released=>decide (note.result ≠ .none)
 | .yielded=>decide (note.result=.requiresInitialization ∨ note.result=.releaseInvalidId)
 | .acquired=>decide (note.id = -1 ∧ note.result ≠ .none)
 | .acquiring=>false

inductive Act where
 | answer (notes:List (Nat×Notify))
 | reserve (y:Seat)
 | move (x y:Seat)
 | fail (x:Seat)
 | replace (x y:Seat)
 | lose (x:Seat) (result:NotifyError)
 | release (x:Seat) (sender:Nat)
 | probe (x:Seat)
 | acquire (x:Seat)
 | announce (x:Seat)
 | defend (x:Seat) (p:Packet)

namespace Act

def seat : Act → Option Seat
 | answer _ | reserve _=>none
 | move x _ | fail x | replace x _ | lose x _ | release x _ | probe x | acquire x | announce x
 | defend x _=>some x
def old : Act → Option Seat
 | announce _ | defend _ _=>none
 | act=>act.seat
def new : Act → Option Seat
 | reserve y | move _ y | replace _ y=>some y
 | probe x=>some {x with counter:=x.counter-1}
 | acquire x=>some {x with state:=.defending}
 | _=>none

def placed : Act → Option Seat
 | reserve y | move _ y | replace _ y=>some y
 | _=>none
def timed : Act → Bool
 | probe _ | acquire _ | announce _=>true
 | _=>false
def id : Act → Option Int
 | reserve y=>some y.id
 | act=>act.seat.map fun x=>x.id

def Valid (mc mc':Client) : Act → Prop
 | answer notes=>∀note∈notes,answers note.2=true ∧
  (mc.initialized=true → note.2.result ≠ .requiresInitialization)
 | reserve y=>y.state=.probing ∧ y.counter=maapProbeRetransmits ∧ mc.maxid<y.id ∧
  y.id ≤ mc'.maxid
 | move x y=>x.state=.probing ∧
  y = {x with counter:=maapProbeRetransmits,low:=y.low,high:=y.high}
 | fail x=>x.state=.probing
 | replace x y=>x.state=.defending ∧ y.id=x.id ∧ y.sender=x.sender ∧
  y.state=.probing ∧ y.counter=maapProbeRetransmits
 | lose x result=>x.state=.defending ∧
  (result=.outOfMemory ∨ result=.reserveNotAvailable)
 | release _ _=>True
 | probe x=>x.state=.probing ∧ 0<x.counter
 | acquire x=>x.state=.probing ∧ x.counter=0
 | announce x=>x.state=.defending
 | defend x p=>x.state=.defending ∧ p.messageType=maapDefend

end Act

def seatNote (mc:Client) (kind:NotifyTag) (x:Seat) (result:NotifyError) : Notify :=
 ⟨kind,x.id,uint64 (mc.addressBase+x.low),uint32 (x.high+1+(2^32-x.low)),result⟩

namespace Act

def notes (mc:Client) : Act → List (Nat×Notify)
 | answer notes=>notes
 | reserve y | move _ y=>[(y.sender,seatNote mc .acquiring y .none)]
 | fail x=>[(x.sender,⟨.acquired,x.id,0,uint32 (x.high+1+(2^32-x.low)),.reserveNotAvailable⟩)]
 | replace x y=>[(x.sender,seatNote mc .yielded x .none),(y.sender,seatNote mc .acquiring y .none)]
 | lose x result=>[(x.sender,seatNote mc .yielded x result)]
 | release x sender=>(sender,seatNote mc .released x .none) ::
  if sender≠x.sender then [(x.sender,seatNote mc .released x .none)] else []
 | acquire x=>[(x.sender,seatNote mc .acquired x .none)]
 | probe _ | announce _ | defend _ _=>[]

def packets (mc:Client) : Act → List Packet
 | reserve y | move _ y | replace _ y | probe y=>[claimFor mc maapProbe y.low y.high]
 | acquire x | announce x=>[claimFor mc maapAnnounce x.low x.high]
 | defend _ p=>[p]
 | answer _ | fail _ | lose _ _ | release _ _=>[]

end Act

structure Turn (mc:Client) (act:Act) (mc':Client) : Prop where
 sound:Sound mc'
 config:SameConfig mc mc'
 maxid:mc.maxid ≤ mc'.maxid
 sat:∀x,act.seat=some x → Sits mc x
 valid:act.Valid mc mc'
 swap:Swap mc act.old act.new mc'
 notifies:mc'.notifies=mc.notifies++act.notes mc
 queued:mc'.queued=mc.queued++(act.packets mc).map packMaap

variable {mc mc' mc'':Client} {ref r:Nat} {x y z:Seat}

lemma Sits.unique (hx:Sits mc x) (hy:Sits mc y) (href:x.ref=y.ref) : x=y := by
 obtain ⟨p,ref,low,high⟩:=x
 obtain ⟨p',ref',low',high'⟩:=y
 obtain rfl:ref=ref':=href
 obtain ⟨hp,hb⟩:=hx.2.unique hy.2
 obtain rfl:p=p':=hp
 obtain ⟨rfl,rfl⟩:low=low' ∧ high=high':=by simpa using hb
 rfl

lemma Sits.queued (hx:Sits mc x) : x.ref∈mc.timerQueue := hx.2.queue.2 rfl
lemma Sits.seat (hx:Sits mc x) : ∀z,some x=some z → Sits mc z := fun _ hz=>some.inj hz▸hx
lemma Sits.block (hx:Sits mc x) : Block mc x.ref x.low x.high := (hx.2.block _ _).2 rfl

variable {p:Profile} {act:Act}

lemma not_sits_of_at {queued:Bool} {block:Option (Nat×Nat)} (h:At mc r p queued block)
 (hend:p.state=.released ∨ queued=false ∨ block=none) (href:z.ref=r) : ¬Sits mc z := by
 rintro ⟨hlive,hat⟩
 subst href
 obtain ⟨hp,hb⟩:=hat.unique h
 rcases hend with hst|hq|hnone
 · rcases hlive with hl|hl<;>rw[hp,hst] at hl<;>cases hl
 · have hmem:=h.queue.1 (hat.queue.2 rfl)
   rw[hq] at hmem
   cases hmem
 · rw[hnone] at hb
   cases hb

lemma Sound.sits_of_block (h:Sound mc) {low high:Nat} (hb:Block mc r low high) :
 ∃x,x.ref=r ∧ x.low=low ∧ x.high=high ∧ Sits mc x := by
 rcases h.standing r with ⟨-,hfree⟩|⟨p,-,hat⟩|⟨x,rfl,hx⟩
 · exact absurd hb (hfree low high)
 · cases (hat.block low high).1 hb
 · obtain ⟨hlow,hhigh⟩:x.low=low ∧ x.high=high:=by
    simpa using (hx.2.block low high).1 hb
   exact ⟨x,rfl,hlow,hhigh,hx⟩

lemma Sound.sits_of_queued (h:Sound mc) (hq:r∈mc.timerQueue)
 (hst:(mc.range r).state ≠ .released) : ∃x,x.ref=r ∧ Sits mc x := by
 rcases h.standing r with ⟨hout,-⟩|⟨p,hrel,hat⟩|hx
 · exact absurd hq hout
 · obtain ⟨range,hs,rfl⟩:=map_eq_some_iff.1 hat.profile
   rw[range_eq hs] at hst
   exact absurd hrel hst
 · exact hx

lemma Sits.range (hx:Sits mc x) : profile (mc.range x.ref)=x.toProfile := by
 obtain ⟨range,hs,heq⟩:=map_eq_some_iff.1 hx.2.profile
 rw[range_eq hs,heq]

lemma Sound.fresh (h:Sound mc) : mc.mallocs∉mc.timerQueue ∧ ∀low high,¬Block mc mc.mallocs low high := by
 have hnone:=h.tidy.storeFresh mc.mallocs le_rfl
 have hstored:∀{p queued block},¬At mc mc.mallocs p queued block:=by
  intro p queued block hat
  have:=hat.profile
  rw[hnone] at this
  cases this
 rcases h.standing mc.mallocs with hout|⟨p,-,hat⟩|⟨x,href,-,hat⟩
 · exact hout
 · exact absurd hat hstored
 · exact absurd (href▸hat) hstored

lemma sits_iff_of_moved (h:Moved ref mc mc') (hz:z.ref≠ref) : Sits mc' z↔Sits mc z := by
 refine and_congr_right fun _=>⟨fun hat=>?_,fun hat=>hat.moved h hz⟩
 exact ⟨(h.profile _ hz).symm.trans hat.profile,(h.queue _ hz).symm.trans hat.queue,
  fun low high=>(h.block _ hz low high).symm.trans (hat.block low high)⟩

lemma Sound.moved (h:Sound mc) (hm:Moved ref mc mc') (hself:Standing mc' ref) : Sound mc' := by
 refine ⟨hm.tidy,hm.nodup h.queueNodup,fun r=>?_⟩
 by_cases hr:r=ref
 · exact hr▸hself
 · rcases h.standing r with ⟨hout,hfree⟩|⟨p,hrel,hat⟩|⟨x,rfl,hx⟩
   · exact .inl ⟨fun hq=>hout ((hm.queue r hr).1 hq),
      fun low high hb=>hfree low high ((hm.block r hr low high).1 hb)⟩
   · exact .inr (.inl ⟨p,hrel,hat.moved hm hr⟩)
   · exact .inr (.inr ⟨x,rfl,(sits_iff_of_moved hm hr).2 hx⟩)

lemma Swap.of_moved {old new:Option Seat} (hm:Moved ref mc mc')
 (hold:∀z,Sits mc z → (z.ref=ref ↔ ∃x∈old,z.ref=x.ref))
 (hnew:∀z,z.ref=ref → (Sits mc' z↔new=some z))
 (href:∀y,new=some y → y.ref=ref) : Swap mc old new mc' := by
 intro z
 by_cases hz:z.ref=ref
 · rw[hnew z hz]
   refine ⟨.inr,fun h=>h.resolve_left ?_⟩
   rintro ⟨hsits,hne⟩
   obtain ⟨x,hx,hxr⟩:=(hold z hsits).1 hz
   exact hne x hx hxr
 · rw[sits_iff_of_moved hm hz]
   refine ⟨fun hsits=>.inl ⟨hsits,fun x hx hxr=>hz ((hold z hsits).2 ⟨x,hx,hxr⟩)⟩,?_⟩
   rintro (⟨hsits,-⟩|hy)
   · exact hsits
   · exact absurd (href z hy) hz

lemma Sound.change (h:Sound mc) (hm:Moved x.ref mc mc')
 (hy:Sits mc' y) (href:y.ref=x.ref) : Sound mc' ∧ Swap mc (some x) (some y) mc' := by
 refine ⟨h.moved hm (.inr (.inr ⟨y,href,hy⟩)),.of_moved hm (fun z _=>by simp) ?_ ?_⟩
 · intro z hz
   refine ⟨fun hsits=>?_,fun heq=>some.inj heq▸hy⟩
   rw[hy.unique hsits (href.trans hz.symm)]
 · rintro z heq
   exact some.inj heq▸href

lemma Sound.leave (h:Sound mc) (hm:Moved x.ref mc mc') (hend:At mc' x.ref p true none)
 (hrel:p.state=.released) : Sound mc' ∧ Swap mc (some x) none mc' := by
 refine ⟨h.moved hm (.inr (.inl ⟨p,hrel,hend⟩)),.of_moved hm (fun z _=>by simp) ?_ ?_⟩
 · intro z hz
   exact iff_of_false (not_sits_of_at hend (.inl hrel) hz) (by simp)
 · rintro z ⟨⟩

lemma Sound.enter (h:Sound mc) (hout:y.ref∉mc.timerQueue) (hm:Moved y.ref mc mc')
 (hy:Sits mc' y) : Sound mc' ∧ Swap mc none (some y) mc' := by
 refine ⟨h.moved hm (.inr (.inr ⟨y,rfl,hy⟩)),.of_moved hm ?_ ?_ ?_⟩
 · intro z hz
   refine iff_of_false (fun href=>hout (href▸hz.queued)) (by simp)
 · intro z hz
   refine ⟨fun hsits=>?_,fun heq=>some.inj heq▸hy⟩
   rw[hy.unique hsits hz.symm]
 · rintro z heq
   exact some.inj heq▸rfl

lemma Sound.retire (h:Sound mc) (ref:Nat) (hseat:∀z,Sits mc z → z.ref≠ref)
 (hm:Moved ref mc mc') (hout:ref∉mc'.timerQueue) (hfree:∀low high,¬Block mc' ref low
   high) : Sound mc' ∧ Swap mc none none mc' := by
 refine ⟨h.moved hm (.inl ⟨hout,hfree⟩),.of_moved hm ?_ ?_ ?_⟩
 · intro z hz
   exact iff_of_false (hseat z hz) (by simp)
 · rintro z rfl
   exact iff_of_false (fun hsits=>hout hsits.queued) (by simp)
 · rintro z ⟨⟩

lemma Swap.exchange (h:Swap mc none (some y) mc') (h':Swap mc' (some x) none mc'')
 (hne:y.ref≠x.ref) : Swap mc (some x) (some y) mc'' := by
 intro z
 rw[h' z,h z]
 constructor
 · rintro (⟨⟨hz,-⟩|hz,hx⟩|hz)
   · exact .inl ⟨hz,hx⟩
   · exact .inr hz
   · cases hz
 · rintro (⟨hz,hx⟩|hz)
   · exact .inl ⟨.inl ⟨hz,by simp⟩,hx⟩
   · refine .inl ⟨.inr hz,fun x' hx'=>?_⟩
     obtain rfl:x=x':=by simpa using hx'
     exact some.inj hz▸hne

lemma Swap.keep (h:Swap mc (some x) (some x) mc') (hx:Sits mc x) : Swap mc none none mc' := by
 intro z
 rw[h z]
 constructor
 · rintro (⟨hz,-⟩|hz)
   · exact .inl ⟨hz,by simp⟩
   · exact .inl ⟨some.inj hz▸hx,by simp⟩
 · rintro (⟨hz,-⟩|hz)
   · by_cases href:z.ref=x.ref
     · rw[hz.unique hx href]
       exact .inr rfl
     · refine .inl ⟨hz,fun x' hx'=>?_⟩
       obtain rfl:x=x':=by simpa using hx'
       exact href
   · cases hz

lemma Sound.still (h:Sound mc) (hm:∀ref,Moved ref mc mc') : Sound mc' ∧ Swap mc none none mc' := by
 have hsits:∀z,Sits mc' z↔Sits mc z:=fun z=>
  sits_iff_of_moved (hm (z.ref+1)) (Nat.succ_ne_self _).symm
 refine ⟨⟨(hm 0).tidy,(hm 0).nodup h.queueNodup,fun r=>?_⟩,fun z=>by simp[hsits]⟩
 have hr:=(Nat.succ_ne_self r).symm
 rcases h.standing r with ⟨hout,hfree⟩|⟨p,hrel,hat⟩|⟨x,rfl,hx⟩
 · exact .inl ⟨fun hq=>hout (((hm (r+1)).queue r hr).1 hq),
    fun low high hb=>hfree low high (((hm (r+1)).block r hr low high).1 hb)⟩
 · exact .inr (.inl ⟨p,hrel,hat.moved (hm (r+1)) hr⟩)
 · exact .inr (.inr ⟨x,rfl,(hsits x).2 hx⟩)

variable (ht:Turn mc act mc')
include ht

lemma Turn.new_id (hy:act.new=some y) :
 (∃x,act.old=some x ∧ Sits mc x ∧ y.id=x.id) ∨ mc.maxid<y.id ∧ y.id ≤ mc'.maxid := by
 have hv:=ht.valid
 have hsat:=ht.sat
 cases act<;>simp only[Act.new,some.injEq,reduceCtorEq] at hy<;>subst hy
 case reserve=>exact .inr hv.2.2
 case move x y=>exact .inl ⟨x,rfl,hsat x rfl,by rw[hv.2]⟩
 case replace x y=>exact .inl ⟨x,rfl,hsat x rfl,hv.2.1⟩
 case probe x=>exact .inl ⟨x,rfl,hsat x rfl,rfl⟩
 case acquire x=>exact .inl ⟨x,rfl,hsat x rfl,rfl⟩

lemma Turn.sat_of_old (hx:act.old=some x) : Sits mc x ∧ act.id=some x.id := by
 have hsat:=ht.sat
 cases act<;>cases hx<;>exact ⟨hsat _ rfl,rfl⟩

lemma Turn.id_of_new (hy:act.new=some y) : act.id=some y.id := by
 have hv:=ht.valid
 cases act<;>cases hy
 case move x=>exact congrArg some (congrArg (fun z:Seat=>z.id) hv.2).symm
 case replace x=>exact congrArg some hv.2.1.symm
 all_goals rfl

lemma Turn.sits_other (hz:act.id≠some z.id) : Sits mc' z↔Sits mc z := by
 rw[ht.swap z]
 refine ⟨?_,fun hsits=>.inl ⟨hsits,fun x hx href=>?_⟩⟩
 · rintro (⟨hsits,-⟩|hnew)
   · exact hsits
   · exact absurd (ht.id_of_new hnew) hz
 · obtain ⟨hx',hid⟩:=ht.sat_of_old hx
   exact hz (hsits.unique hx' href▸hid)

lemma Turn.numbered (h:Numbered mc) : Numbered mc' := by
 -- a new seat shares its id with no seat that stays
 have hfresh:∀y z,act.new=some y → Sits mc z → (∀x∈act.old,z.ref≠x.ref) →
  y.id≠z.id:=by
  intro y z hy hz hne heq
  rcases ht.new_id hy with ⟨x,hx,hsits,hid⟩|⟨hgt,-⟩
  · exact hne x hx (congrArg Seat.ref (h.one z x hz hsits (heq.symm.trans hid)))
  · have:=(h.issued z hz).2
    omega
 have hle:=ht.maxid
 have hpos:=h.maxid
 refine ⟨?_,?_,by omega⟩
 · intro y z hy hz hid
   rcases (ht.swap y).1 hy with ⟨hy,hyo⟩|hy<;>rcases (ht.swap z).1 hz with ⟨hz,hzo⟩|hz
   · exact h.one y z hy hz hid
   · exact absurd hid.symm (hfresh z y hz hy hyo)
   · exact absurd hid (hfresh y z hy hz hzo)
   · exact some.inj (hy.symm.trans hz)
 · intro y hy
   rcases (ht.swap y).1 hy with ⟨hy,-⟩|hy
   · have:=h.issued y hy
     omega
   · rcases ht.new_id hy with ⟨x,-,hsits,hid⟩|hbound
     · have:=h.issued x hsits
       omega
     · omega

end OpenAvnu.MaapTurns
