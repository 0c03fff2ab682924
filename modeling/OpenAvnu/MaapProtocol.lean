import OpenAvnu.MaapHistory

/-!
# The notifications of a reservation

Its owner is told of every block probed for and acquired, and how the reservation ends.
-/

namespace OpenAvnu.MaapProtocol

open List Option

open Intervals IntervalOrder MaapClient MaapDaemon MaapFrame MaapPlacement MaapBlocks MaapTurns
open MaapRounds MaapHistory MaapRelease

def wordOf (id:Int) (notifies:List (Nat×Notify)) : List (Nat×Notify) :=
 notifies.filter fun note=>note.2.id=id&&!answers note.2

/-- The words of a reservation that goes on.  It holds the block of `count` addresses at
`start`, or probes for it. -/
inductive Progress (id:Int) : Bool → Nat → Nat → List (Nat×Notify) → Prop
 | first (sender start count:Nat) : Progress id false start count [(sender,⟨.acquiring,id,start,count,.none⟩)]
 | again {start count:Nat} {word:List (Nat×Notify)} (sender start' count':Nat)
  (h:Progress id false start count word) :
  Progress id false start' count' (word++[(sender,⟨.acquiring,id,start',count',.none⟩)])
 | acquired {start count:Nat} {word:List (Nat×Notify)} (sender:Nat)
  (h:Progress id false start count word) :
  Progress id true start count (word++[(sender,⟨.acquired,id,start,count,.none⟩)])
 | yielded {start count:Nat} {word:List (Nat×Notify)} (sender start' count':Nat)
  (h:Progress id true start count word) :
  Progress id false start' count' (word++[(sender,⟨.yielded,id,start,count,.none⟩),
   (sender,⟨.acquiring,id,start',count',.none⟩)])

inductive Protocol (id:Int) : List (Nat×Notify) → Prop
 | silent : Protocol id []
 | progress {held:Bool} {start count:Nat} {word:List (Nat×Notify)}
  (h:Progress id held start count word) : Protocol id word
 | released {held:Bool} {start count:Nat} {word:List (Nat×Notify)} (senders:List Nat)
  (hnodup:senders.Nodup) (hne:senders≠[]) (h:Progress id held start count word) :
  Protocol id (word++senders.map fun s=>(s,⟨.released,id,start,count,.none⟩))
 | failed {start count:Nat} {word:List (Nat×Notify)} (sender start' count':Nat)
  {result:NotifyError} (hresult:result ≠ .none) (h:Progress id false start count word) :
  Protocol id (word++[(sender,⟨.acquired,id,start',count',result⟩)])
 | lost {start count:Nat} {word:List (Nat×Notify)} (sender:Nat) {result:NotifyError}
  (hresult:result ≠ .none) (h:Progress id true start count word) :
  Protocol id (word++[(sender,⟨.yielded,id,start,count,result⟩)])

variable {env:Env} {mc mc':Client} {id:Int}

def Tells (mc:Client) (id:Int) : Prop := (∃x,Sits mc x ∧ x.id=id ∧ Progress id (decide (x.state=.defending))
  (seatNote mc .status x .none).start (seatNote mc .status x .none).count
  (wordOf id mc.notifies)) ∨
 (∀x,Sits mc x → x.id≠id) ∧ Protocol id (wordOf id mc.notifies) ∧
  (mc.maxid < id → wordOf id mc.notifies=[])

lemma Tells.protocol (h:Tells mc id) : Protocol id (wordOf id mc.notifies) := by
 rcases h with ⟨x,-,-,hword⟩|⟨-,hword,-⟩
 · exact .progress hword
 · exact hword

variable {act:Act}

lemma wordOf_turn (h:Turn mc act mc') (id:Int) :
 wordOf id mc'.notifies=wordOf id mc.notifies++wordOf id (act.notes mc) := by
 rw[h.notifies,wordOf,filter_append]
 rfl
lemma wordOf_eq_self {notes:List (Nat×Notify)}
 (h:∀note∈notes,note.2.id=id ∧ answers note.2=false) : wordOf id notes=notes :=
 filter_eq_self.2 fun note hnote=>by simp[h note hnote]

section
variable (h:Turn mc act mc')
include h

lemma wordOf_other (hact:act.id≠some id) : wordOf id mc'.notifies=wordOf id mc.notifies := by
 have hnone:wordOf id (act.notes mc)=[]:=by
  refine filter_eq_nil_iff.2 fun note hnote hkeep=>?_
  obtain ⟨hid,hans⟩:note.2.id=id ∧ answers note.2=false:=by simpa using hkeep
  rw[(notes_of_other h hact hnote hid).1] at hans
  cases hans
 rw[wordOf_turn h,hnone,append_nil]

lemma seatNote_turn (kind:NotifyTag) (x:Seat) (result:NotifyError) :
 seatNote mc' kind x result=seatNote mc kind x result := seatNote_config h.config kind x result

lemma tells_other (hact:act.id≠some id) (ht:Tells mc id) : Tells mc' id := by
 rcases ht with ⟨x,hx,rfl,hword⟩|⟨hnone,hword,hfresh⟩
 · refine .inl ⟨x,(h.sits_other hact).2 hx,rfl,?_⟩
   rw[wordOf_other h hact,seatNote_turn h]
   exact hword
 · refine .inr ⟨fun y hy hid=>?_,?_,fun hlt=>?_⟩
   · exact hnone y ((h.sits_other (by rw[hid];exact hact)).1 hy) hid
   · rw[wordOf_other h hact]
     exact hword
   · rw[wordOf_other h hact]
     exact hfresh (lt_of_le_of_lt h.maxid hlt)

lemma tells_new {y:Seat} (hy:act.new=some y)
 (hword:Progress y.id (decide (y.state=.defending)) (seatNote mc .status y .none).start
  (seatNote mc .status y .none).count (wordOf y.id mc.notifies++wordOf y.id (act.notes mc))) :
 Tells mc' y.id := by
 refine .inl ⟨y,(h.swap y).2 (.inr hy),rfl,?_⟩
 rw[wordOf_turn h,seatNote_turn h]
 exact hword

end

variable {x:Seat} {attemptBase:Nat} {mc:Client}

lemma tells_end (h:Turn mc act mc') (hnum:Numbered mc) (hold:act.old=some x)
 (hnew:act.new=none)
 (hword:Protocol x.id (wordOf x.id mc.notifies++wordOf x.id (act.notes mc))) : Tells mc' x.id := by
 have hx:=(h.sat_of_old hold).1
 refine .inr ⟨fun y hy hid=>?_,?_,fun hlt=>?_⟩
 · rcases (h.swap y).1 hy with ⟨hsits,hne⟩|hy
   · exact hne x hold (congrArg Seat.ref (hnum.one y x hsits hx hid))
   · rw[hnew] at hy
     cases hy
 · rw[wordOf_turn h]
   exact hword
 · have hissued:=(hnum.issued x hx).2
   have hmax:=h.maxid
   omega

lemma progress_of_sits (hnum:Numbered mc) (ht:Tells mc x.id) (hx:Sits mc x) :
 Progress x.id (decide (x.state=.defending)) (seatNote mc .status x .none).start
  (seatNote mc .status x .none).count (wordOf x.id mc.notifies) := by
 rcases ht with ⟨y,hy,hid,hword⟩|⟨hnone,-⟩
 · obtain rfl:=hnum.one y x hy hx hid
   exact hword
 · exact absurd rfl (hnone x hx)

lemma wordOf_own (h:Turn mc act mc') (hnum:Numbered mc) (hact:act.id=some id) :
 wordOf id (act.notes mc)=act.notes mc := by
 have hvalid:=h.valid
 apply wordOf_eq_self
 cases act with
 | answer notes=>cases hact
 | fail x=>
  cases hact
  have hpos:=(hnum.issued x (h.sat x rfl)).1
  have hne:x.id ≠ -1:=by omega
  simp[Act.notes,answers,hne]
 | move x y=>
  cases hact
  have hid:y.id=x.id:=by rw[hvalid.2]
  simp[Act.notes,seatNote,answers,hid]
 | replace x y=>
  cases hact
  simp[Act.notes,seatNote,answers,hvalid.2.1]
 | lose x result=>
  cases hact
  rcases hvalid.2 with rfl|rfl<;>simp[Act.notes,seatNote,answers]
 | release x sender=>
  cases hact
  by_cases hsender:sender=x.sender<;>simp[Act.notes,seatNote,answers]
 | acquire x=>
  cases hact
  have hpos:=(hnum.issued x (h.sat x rfl)).1
  simp[Act.notes,seatNote,answers]
 | reserve x | probe x | announce x | defend x p=>
  cases hact
  simp[Act.notes,seatNote,answers]

lemma tells_turn (h:Turn mc act mc') (hnum:Numbered mc) (ht:∀id,Tells mc id) (id:Int) : Tells mc' id := by
 by_cases hact:act.id=some id
 case neg=>exact tells_other h hact (ht id)
 have hword:∀x,act.seat=some x → Progress x.id (decide (x.state=.defending))
  (seatNote mc .status x .none).start (seatNote mc .status x .none).count
  (wordOf x.id mc.notifies):=
  fun x hx=>progress_of_sits hnum (ht x.id) (h.sat x hx)
 have hnotes:=wordOf_own h hnum hact
 have hvalid:=h.valid
 cases act with
 | answer notes=>cases hact
 | reserve y=>
  cases hact
  obtain ⟨hst,-,hfresh,-⟩:=hvalid
  have hnil:wordOf y.id mc.notifies=[]:=by
   rcases ht y.id with ⟨z,hz,hid,-⟩|⟨-,-,hnil⟩
   · have:=(hnum.issued z hz).2
     omega
   · exact hnil hfresh
  refine tells_new h rfl ?_
  rw[hnotes,hnil,hst]
  exact .first y.sender _ _
 | move x y=>
  obtain rfl:x.id=id:=some.inj hact
  obtain ⟨hst,hy⟩:=hvalid
  have hid:y.id=x.id:=by rw[hy]
  have hx:=hword x rfl
  rw[hst,←hid] at hx
  rw[←hid] at hnotes ⊢
  refine tells_new h rfl ?_
  rw[hnotes,show y.state=.probing by rw[hy];exact hst]
  exact .again y.sender _ _ hx
 | fail x=>
  cases hact
  have hst:x.state=.probing:=hvalid
  have hx:=hword x rfl
  rw[hst] at hx
  refine tells_end h hnum rfl rfl ?_
  rw[hnotes]
  exact .failed x.sender _ _ (by decide) hx
 | replace x y=>
  obtain rfl:x.id=id:=some.inj hact
  obtain ⟨hst,hid,hsender,hsty,-⟩:=hvalid
  have hx:=hword x rfl
  rw[hst,←hid] at hx
  rw[←hid] at hnotes ⊢
  refine tells_new h rfl ?_
  rw[hnotes,hsty,Act.notes,hsender]
  simp only[seatNote,←hid]
  exact .yielded x.sender _ _ hx
 | lose x result=>
  cases hact
  obtain ⟨hst,hresult⟩:=hvalid
  have hx:=hword x rfl
  rw[hst] at hx
  refine tells_end h hnum rfl rfl ?_
  rw[hnotes]
  exact .lost x.sender (by rcases hresult with rfl | rfl<;>decide) hx
 | release x sender=>
  cases hact
  refine tells_end h hnum rfl rfl ?_
  rw[hnotes,Act.notes]
  split_ifs with hsender
  · exact .released [sender,x.sender] (by simpa using hsender) (by simp) (hword x rfl)
  · exact .released [sender] (by simp) (by simp) (hword x rfl)
 | probe x=>
  cases hact
  refine tells_new (y:={x with counter:=x.counter-1}) h rfl ?_
  rw[hnotes,Act.notes,append_nil]
  exact hword x rfl
 | acquire x=>
  cases hact
  have hx:=hword x rfl
  rw[hvalid.1] at hx
  refine tells_new (y:={x with state:=.defending}) h rfl ?_
  rw[hnotes]
  exact .acquired x.sender hx
 | announce x | defend x p=>
  cases hact
  refine .inl ⟨x,(h.swap x).2 (.inl ⟨h.sat x rfl,by rintro _ ⟨⟩⟩),rfl,?_⟩
  rw[wordOf_turn h,hnotes,seatNote_turn h,Act.notes,append_nil]
  exact hword x rfl

theorem notifications_keep_protocol (env:Env) (destMac srcMac owner addressBase rangeLen:Nat)
 (inputs:List Input) (mc:Client) (id:Int)
 (h:runInputs env inputs (started destMac srcMac owner addressBase rangeLen)=some mc) :
 Protocol id (wordOf id mc.notifies) := by
 obtain ⟨hsound,hnum⟩:=started_sound destMac srcMac owner addressBase rangeLen
 obtain ⟨acts,hturns⟩:=runInputs_turns inputs hsound rfl h
 have hstart:∀i,Tells (started destMac srcMac owner addressBase rangeLen) i:=by
  intro i
  have hnil:wordOf i (started destMac srcMac owner addressBase rangeLen).notifies=[]:=by
   refine filter_eq_nil_iff.2 fun note hnote=>?_
   obtain rfl:=mem_singleton.1 hnote
   simp[answers]
  refine .inr ⟨fun x hx=>?_,?_,fun _=>hnil⟩
  · cases hx.queued
  · rw[hnil]
    exact .silent
 have hall:=hturns.invariant (I:=fun mc=>Numbered mc ∧ ∀i,Tells mc i)
  (fun ht hinv=>⟨ht.numbered hinv.1,tells_turn ht hinv.1 hinv.2⟩) ⟨hnum,hstart⟩
 exact (hall.2 id).protocol

theorem notifications_keep_protocol_acquired : ∃mc,runInputs MaapRuns.steadyEnv
  [.reserve 0 0x91E0F0000010 8,.timer 2,.timer 2,.timer 2,.timer 2,.release 5 1] pool=some mc ∧
  (wordOf 1 mc.notifies).map (fun note=>note.2.kind)=[.acquiring,.acquired,.released,.released] ∧
  Protocol 1 (wordOf 1 mc.notifies) := by
 obtain ⟨mc,hmc,htest⟩:=(Option.any_eq_true (fun mc=>decide
  ((wordOf 1 mc.notifies).map (fun note=>note.2.kind)=[.acquiring,.acquired,.released,.released]))
  (runInputs MaapRuns.steadyEnv [.reserve 0 0x91E0F0000010 8,.timer 2,.timer 2,.timer 2,
   .timer 2,.release 5 1] pool)).1 (by decide +kernel)
 exact ⟨mc,hmc,of_decide_eq_true htest,notifications_keep_protocol _ _ _ _ _ _ _ mc 1 hmc⟩

/-- Below `range_max`, the ends of the blocks tried, and the divisor of `random()`. -/
structure AttemptsSafe (mc:Client) (attemptBase len:Nat) : Prop where
 attempt:mc.attemptFits attemptBase len=true →
  (allocInterval (uint32 (attemptBase-mc.addressBase)) len:Interval Nat).high ≤
   uint32 (mc.rangeLen+(2^32-1))
 divisor:(mc.tryAttempt attemptBase len).2=none → uint32 (mc.rangeLen+1+(2^32-len))≠0
 random:(mc.tryAttempt attemptBase len).2=none → ∀r,
  (allocInterval (r%uint32 (mc.rangeLen+1+(2^32-len))) len:Interval Nat).high ≤
   uint32 (mc.rangeLen+(2^32-1))

/-- The block passes the last 64-bit address, is tried all the same and does not fit. -/
def Strays (mc:Client) (attemptBase len:Nat) : Prop := 2^64<attemptBase+len ∧
  mc.addressBase≤attemptBase ∧ attemptBase+len ≤ mc.addressBase+mc.rangeLen+2^64 ∧
  mc.rangeLen<uint32 (attemptBase-mc.addressBase)+len

/-- Whatever the environment does, a successful reservation reports a block of the pool. -/
def ReportsInside (mc:Client) (attemptBase length:Nat) : Prop := ∀env sender,
  (maapReserveRange env mc sender attemptBase length).2 ≠ -1 → ∃start count,
   (maapReserveRange env mc sender attemptBase length).1.notifies=
    mc.notifies++[(sender,⟨.acquiring,mc.maxid+1,start,count,.none⟩)] ∧
   1 ≤ count ∧ mc.addressBase ≤ start ∧ start+count ≤ mc.addressBase+mc.rangeLen

section
variable {len:Nat} (hfits:len ≤ mc.rangeLen) (hpool:mc.rangeLen<2^32)
 (hend:mc.addressBase+mc.rangeLen≤2^64) (hattempt:attemptBase<2^64)
include hfits hpool hend hattempt

omit hpool in
lemma strays_iff (hlen:1≤len) : Strays mc attemptBase len ↔
 mc.attemptFits attemptBase len=true ∧ mc.rangeLen<uint32 (attemptBase-mc.addressBase)+len := by
 simp only[Strays,Client.attemptFits,Bool.and_eq_true,decide_eq_true_eq]
 simp only[uint64,uint32]
 omega

lemma attemptsSafe (hlen:1≤len) (hstrays:¬Strays mc attemptBase len) :
 AttemptsSafe mc attemptBase len := by
 have hdivisor:uint32 (mc.rangeLen+1+(2^32-len))=mc.rangeLen+1-len:=by
  unfold uint32
  omega
 have hmax:uint32 (mc.rangeLen+(2^32-1))=mc.rangeLen-1:=by
  unfold uint32
  omega
 have hlast:∀start,start+len ≤ mc.rangeLen →
  (allocInterval start len:Interval Nat).high ≤ mc.rangeLen-1:=by
  intro start hstart
  rw[allocInterval_eq hlen (by omega)]
  simp only[blockAt]
  omega
 rw[←hmax] at hlast
 rw[strays_iff hfits hend hattempt hlen,not_and,not_lt] at hstrays
 refine ⟨fun hin=>hlast _ (hstrays hin),fun _=>by omega,fun _ r=>hlast _ ?_⟩
 have hlt:=Nat.mod_lt r (show 0 < mc.rangeLen+1-len by omega)
 rw[hdivisor]
 omega

end

lemma tryAttempt_inserts {len:Nat} : (mc.tryAttempt attemptBase len).2≠none ↔
 mc.attemptFits attemptBase len=true ∧ insertInterval mc.callocs
  (allocInterval (uint32 (attemptBase-mc.addressBase)) len) mc.ranges≠none := by
 unfold Client.tryAttempt Client.tryInterval
 split
 · next hin=>
    dsimp only
    split<;>simp_all
 · next hin=>simp[hin]

section
variable {length:Nat} (h:Sound mc) (hmax:length≤0xFFFF)
include h hmax

lemma reportsInside (hpool:mc.rangeLen<2^32) (hend:mc.addressBase+mc.rangeLen≤2^64) (hattempt:attemptBase<2^64)
 (hlen:1≤length) (hstrays:¬Strays mc attemptBase length) : ReportsInside mc attemptBase length := by
 intro env sender hret
 have hsize:uint16 length=length:=Nat.mod_eq_of_lt (by omega)
 unfold maapReserveRange at hret ⊢
 split_ifs at hret ⊢ with hinit hbig hmalloc
 all_goals try exact absurd rfl hret
 have hassign:=assignInterval_spec env (asking env mc sender) mc.mallocs hlen hpool
  fun hfits hin=>by
   by_contra hroom
   exact hstrays ((strays_iff hfits hend hattempt hlen).2 ⟨hin,not_le.1 hroom⟩)
 unfold asking at hassign
 simp only[reserveFresh,hsize] at hret ⊢
 generalize hcall:Client.assignInterval _ _ _ _ _=assigned at hassign hret ⊢
 obtain ⟨mc₁,found⟩:=assigned
 cases hassign with
 | placed start node draws tree hfits hnode htree=>
  have hturn:=turn_reserve env h sender
   (.node node start (start+length-1) draws tree hnode (insertInterval_perm htree))
  have hroom:start+length ≤ mc.rangeLen:=hfits
  have hstart:uint64 (mc.addressBase+start)=mc.addressBase+start:=Nat.mod_eq_of_lt (by omega)
  have hcount:uint32 (start+length-1+1+(2^32-start))=length:=by
   unfold uint32
   omega
  exact ⟨_,_,hturn.notifies,by simp only[hcount];omega,by simp only[hstart];omega,
   by simp only[hstart,hcount];omega⟩
 | full=>exact absurd rfl hret
 | late=>exact absurd rfl hret

lemma suggestion_inside (hid:0 ≤ mc.maxid) (hinit:mc.initialized=true) (hfits:length ≤ mc.rangeLen)
 (hfound:(mc.tryAttempt attemptBase length).2≠none) (hinside:ReportsInside mc attemptBase length) :
 1 ≤ length ∧ mc.addressBase ≤ uint64 (mc.addressBase+uint32 (attemptBase-mc.addressBase)) ∧
  uint64 (mc.addressBase+uint32 (attemptBase-mc.addressBase))+length ≤
   mc.addressBase+mc.rangeLen := by
 have hsize:uint16 length=length:=Nat.mod_eq_of_lt (by omega)
 have hcount:∀start,uint32 (lastOf (uint32 start) length+1+(2^32-uint32 (uint32 start)))=length:=by
  intro start
  simp only[lastOf,uint32]
  omega
 obtain ⟨env,henv⟩:∃env:Env,env.malloc=fun _=>true:=⟨⟨fun _=>0,fun _=>default,_⟩,rfl⟩
 obtain ⟨hin,hinserts⟩:=tryAttempt_inserts.1 hfound
 obtain ⟨tree,htree⟩:=Option.ne_none_iff_exists'.1 hinserts
 obtain ⟨mc₁,hgrown,hassign⟩:∃mc₁,Grown (asking env mc 0) (some (mc.callocs,
  allocInterval (uint32 (attemptBase-mc.addressBase)) length)) mc₁ ∧ (asking env mc 0).assignInterval
   env mc.mallocs attemptBase length=(mc₁.own mc.callocs mc.mallocs,true):=by
  refine ⟨_,.node mc.callocs _ _ mc.draws tree le_rfl (insertInterval_perm htree),?_⟩
  have htree':insertInterval (asking env mc 0).callocs (allocInterval
   (uint32 (attemptBase-(asking env mc 0).addressBase)) length) (asking env mc 0).ranges=some tree:=htree
  have hin':(asking env mc 0).attemptFits attemptBase length=true:=hin
  have hfits':¬(asking env mc 0).rangeLen<length:=Nat.not_lt.2 hfits
  simp only[Client.assignInterval,if_neg hfits',Client.tryAttempt,if_pos hin',Client.tryInterval,
   htree']
  rfl
 have hreserve:maapReserveRange env mc 0 attemptBase length=
  (probeReservation env (mc₁.own mc.callocs mc.mallocs) mc.mallocs,mc.maxid+1):=by
  unfold asking at hassign
  rw[maapReserveRange,if_neg (by simp[hinit]),if_neg (by omega),if_neg (by simp[henv])]
  simp only[reserveFresh,hsize,hassign]
  rfl
 obtain ⟨start,count,hnotes,hin⟩:=hinside env 0 (by rw[hreserve];simp only;omega)
 rw[hreserve,(turn_reserve env h 0 hgrown).notifies,append_cancel_left_eq] at hnotes
 simp only[Act.notes,seatNote,hcount,cons.injEq,Prod.mk.injEq,Notify.mk.injEq] at hnotes
 obtain ⟨⟨-,-,-,rfl,rfl,-⟩,-⟩:=hnotes
 simpa[uint32] using hin

end

/-- Exact if no block in the tree is larger than the length check allows. -/
theorem reservations_inside_pool_iff (env:Env) {destMac srcMac owner addressBase rangeLen:Nat}
 (inputs:List Input) (mc:Client)
 (hrun:runInputs env inputs (started destMac srcMac owner addressBase rangeLen)=some mc)
 (hpool:rangeLen<2^32) (hend:addressBase+rangeLen≤2^64) (attemptBase length:Nat)
 (hattempt:attemptBase<2^64) (hmax:length≤0xFFFF) (hfits:length ≤ rangeLen) :
 (1≤length ∧ ¬Strays mc attemptBase length →
  AttemptsSafe mc attemptBase length ∧ ReportsInside mc attemptBase length) ∧
 (0 < rangeLen → (∀e∈mc.ranges.toList,e.2.high<e.2.low+65535) →
  AttemptsSafe mc attemptBase length ∧ ReportsInside mc attemptBase length →
  1≤length ∧ ¬Strays mc attemptBase length) := by
 obtain ⟨acts,hturns⟩:=runInputs_turns inputs (started_sound _ _ _ _ _).1 rfl hrun
 have hbase:mc.addressBase=addressBase:=hturns.config.addressBase
 have hrange:mc.rangeLen=rangeLen:=hturns.config.rangeLen
 have hinit:mc.initialized=true:=hturns.config.initialized
 have hid:=(hturns.invariant (I:=Numbered) (fun ht=>ht.numbered) (started_sound ..).2).maxid
 subst hbase hrange
 constructor
 · rintro ⟨hlen,hstrays⟩
   exact ⟨attemptsSafe hfits hpool hend hattempt hlen hstrays,
    reportsInside hturns.sound hmax hpool hend hattempt hlen hstrays⟩
 · rintro hpositive hsmall ⟨hsafe,hinside⟩
   have hsuggested:=fun hfound=>suggestion_inside hturns.sound hmax hid hinit hfits hfound hinside
   have hlen:1≤length:=by
    by_contra hempty
    obtain rfl:length=0:=by omega
    cases hfound:(mc.tryAttempt attemptBase 0).2 with
    | some node=>exact hempty (hsuggested (by simp[hfound])).1
    | none=>
     have hfirst:=hsafe.random hfound 0
     simp only[allocInterval,lastOf,uint32,Nat.zero_mod] at hfirst
     omega
   refine ⟨hlen,fun hstrays=>?_⟩
   obtain ⟨hin,hover⟩:=(strays_iff hfits hend hattempt hlen).1 hstrays
   have hhigh:=hsafe.attempt hin
   simp only[allocInterval,lastOf,uint32] at hhigh
   -- the end wraps around, and no block in the tree reaches from the last offsets to the first
   have hfound:(mc.tryAttempt attemptBase length).2≠none:=by
    refine tryAttempt_inserts.2 ⟨hin,fun hnone=>?_⟩
    obtain ⟨e,he,hoverlap⟩:=insertInterval_none hnone
    have hbig:=hsmall e he
    rw[overlaps_iff] at hoverlap
    simp only[allocInterval,lastOf,uint32] at hoverlap hover
    omega
   obtain ⟨-,hstart,hstop⟩:=hsuggested hfound
   simp only[uint64,uint32] at hstart hstop hover
   omega

theorem reservations_inside_pool_first : AttemptsSafe pool 0x91E0F0000010 8 ∧
 ReportsInside pool 0x91E0F0000010 8 ∧
 (maapReserveRange MaapRuns.steadyEnv pool 0 0x91E0F0000010 8).2=1 := by
 obtain ⟨hsafe,hinside⟩:=(reservations_inside_pool_iff MaapRuns.steadyEnv [] pool rfl (by decide)
  (by decide) 0x91E0F0000010 8 (by decide) (by decide) (by decide)).1
  ⟨by decide,fun hstrays=>absurd hstrays.1 (by decide)⟩
 exact ⟨hsafe,hinside,by decide +kernel⟩

theorem attempts_not_safe :
 ¬AttemptsSafe (started 0 0 0 1 0xFFFFFFFF) 0 0 ∧ ¬AttemptsSafe pool 0x91E0F0000000 0 ∧
  ¬AttemptsSafe pool (2^64-1) 2 :=
 ⟨fun h=>h.divisor (by decide) (by decide),fun h=>absurd (h.attempt (by decide)) (by decide),
  fun h=>absurd (h.attempt (by decide)) (by decide)⟩

end OpenAvnu.MaapProtocol
