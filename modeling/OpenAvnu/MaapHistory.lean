import OpenAvnu.MaapConflictTurns
import OpenAvnu.MaapRuns

/-! # The history of a client -/

namespace OpenAvnu

open List MaapRuns

open Intervals IntervalSearch MaapPacket MaapTimer MaapClient MaapDaemon MaapFrame MaapHoldings

namespace MaapHistory

open MaapSeats MaapTurns MaapRounds MaapConflictTurns

/-- A command, a received packet, or a call of the timer that ends within `fuel` rounds. -/
inductive Input where
 | init (sender addressBase rangeLen:Nat)
 | reserve (sender attemptBase length:Nat)
 | release (sender:Nat) (id:Int)
 | status (sender:Nat) (id:Int)
 | yield (sender:Nat) (id:Int)
 | packet (stream:List UInt8)
 | timer (fuel:Nat)

def Input.run (env:Env) (mc:Client) : Input → Option Client
 | init sender addressBase rangeLen=>some (maapInitClient mc sender addressBase rangeLen).1
 | reserve sender attemptBase length=>
  some (maapReserveRange env mc sender attemptBase length).1
 | release sender id=>some (maapReleaseRange mc sender id).1
 | status sender id=>some (maapRangeStatus mc sender id)
 | yield sender id=>some (maapYieldRange env mc sender id).1
 | packet stream=>some (maapHandlePacket env mc stream).1
 | timer fuel=>maapHandleTimer env fuel mc

def runInputs (env:Env) : List Input → Client → Option Client
 | [], mc=>some mc
 | i::inputs, mc=>(i.run env mc).bind (runInputs env inputs)

/-- A notification, a packet with the reservation it is sent for, or a received packet. -/
inductive Event where
 | told (note:Nat×Notify)
 | sent (id:Int) (bytes:List UInt8)
 | heard (stream:List UInt8)
 deriving DecidableEq

def Event.note : Event → Option (Nat×Notify)
 | told note=>some note
 | _=>none
def Event.packet : Event → Option (Int×List UInt8)
 | sent id bytes=>some (id,bytes)
 | _=>none
def roundLog (id:Int) (mc mc':Client) : List Event :=
 (mc'.notifies.drop mc.notifies.length).map .told++(mc'.queued.drop mc.queued.length).map (.sent id)

def resolveLog (env:Env) (p:Packet) (start:Nat) : Nat → Client → List Event
 | 0, _=>[]
 | num+1, mc=>
  match findFlagged mc mc.ranges.size (searchInterval mc.ranges start p.requestedCount) with
  | some (node,iv,ref)=>
   roundLog (mc.range ref).id mc (resolveConflict env p mc node iv ref)++
    resolveLog env p start num (resolveConflict env p mc node iv ref)
  | none=>[]

def packetLog (env:Env) (mc:Client) (stream:List UInt8) : List Event :=
 if stream.length < maapPktSize then []
 else
  let p:=unpackMaap stream
  if !recognized p then []
  else if outsidePool mc p then []
  else resolveLog env p (packetStart mc p) (flagPacket mc p).2 (flagPacket mc p).1

def yieldLog (env:Env) (mc:Client) (sender:Nat) (id:Int) : List Event :=
 if !mc.initialized then roundLog id mc (mc.informYielded sender id none .requiresInitialization)
 else match findRange mc id (fun state=>decide (state=.defending)) with
  | none=>roundLog id mc (mc.informYielded sender id none .releaseInvalidId)
  | some ref=>packetLog env mc (packMaap (yieldPacket mc ref))

def timerLog (env:Env) (currenttime:Time) : Nat → Client → List Event
 | fuel, mc=>
  match mc.timerQueue with
  | []=>[]
  | ref::rest=>
   if timePassed currenttime (mc.range ref).nextActTime then
    match fuel with
    | 0=>[]
    | fuel+1=>
     roundLog (mc.range ref).id mc (handleDue env {mc with timerQueue:=rest} ref)++timerLog env currenttime fuel
       (handleDue env {mc with timerQueue:=rest} ref)
   else []

def Input.log (env:Env) (mc:Client) : Input → List Event
 | init sender addressBase rangeLen=>
  roundLog 0 mc (maapInitClient mc sender addressBase rangeLen).1
 | reserve sender attemptBase length=>
  roundLog (mc.maxid+1) mc (maapReserveRange env mc sender attemptBase length).1
 | release sender id=>roundLog id mc (maapReleaseRange mc sender id).1
 | status sender id=>roundLog id mc (maapRangeStatus mc sender id)
 | yield sender id=>yieldLog env mc sender id
 | packet stream=>.heard stream::packetLog env mc stream
 | timer fuel=>
  timerLog env (env.clock mc.readings) fuel {mc with readings:=mc.readings+1}

def runLog (env:Env) : List Input → Client → List Event
 | [], _=>[]
 | i::inputs, mc=>i.log env mc++((i.run env mc).map (runLog env inputs)).getD []
def runSends (env:Env) (inputs:List Input) (mc:Client) : List (Int×List UInt8) :=
 (runLog env inputs mc).filterMap Event.packet
def actLog (mc:Client) (act:Act) : List Event :=
 (act.notes mc).map .told++(act.packets mc).map fun p=>.sent (act.id.getD 0) (packMaap p)

/-- Turns one after the other, and received packets between them, with the log they make. -/
inductive Turns : Client → List Act → List Event → Client → Prop
 | nil {mc:Client} (h:Sound mc) : Turns mc [] [] mc
 | cons {mc mc' mc'':Client} {act:Act} {acts:List Act} {log:List Event}
  (head:Turn mc act mc') (tail:Turns mc' acts log mc'') : Turns mc (act::acts) (actLog mc act++log) mc''
 | hear {mc mc':Client} {acts:List Act} {log:List Event} (stream:List UInt8)
  (tail:Turns mc acts log mc') : Turns mc acts (.heard stream::log) mc'

variable {env:Env} {mc mc' mc'':Client} {acts acts':List Act} {log log':List Event}
 {act:Act} {iv:Interval Nat} {node ref:Nat} (sender:Nat)

lemma Turns.single (h:Turn mc act mc') : Turns mc [act] (actLog mc act) mc' := by
 simpa using Turns.cons h (.nil h.sound)

lemma Turns.trans (h:Turns mc acts log mc') (h':Turns mc' acts' log' mc'') :
 Turns mc (acts++acts') (log++log') mc'' := by
 induction h with
 | nil=>exact h'
 | cons head tail ih=>
  rw[append_assoc]
  exact .cons head (ih h')
 | hear stream tail ih=>exact .hear stream (ih h')

lemma Turns.sound (h:Turns mc acts log mc') : Sound mc' := by
 induction h with
 | nil h=>exact h
 | cons head tail ih=>exact ih
 | hear stream tail ih=>exact ih

lemma Turns.invariant {I:Client → Prop} (hstep:∀{mc act mc'},Turn mc act mc' → I mc → I mc')
 (h:Turns mc acts log mc') (hmc:I mc) : I mc' := by
 induction h with
 | nil=>exact hmc
 | cons head tail ih=>exact ih (hstep head hmc)
 | hear stream tail ih=>exact ih hmc

lemma notes_config (h:SameConfig mc mc') (act:Act) : act.notes mc'=act.notes mc := by
 cases act<;>simp only[Act.notes,seatNote_config h]
lemma packets_config (h:SameConfig mc mc') (act:Act) : act.packets mc'=act.packets mc := by
 cases act<;>simp only[Act.packets,claimFor_config h]

lemma Turn.after_silent (h:Turn mc (.answer []) mc') (h':Turn mc' act mc'') : Turn mc act mc'' := by
 have hsits:∀z,Sits mc' z↔Sits mc z:=fun z=>by
  rw[h.swap z]
  simp[Act.old,Act.seat,Act.new]
 refine ⟨h'.sound,h.config.trans h'.config,h.maxid.trans h'.maxid,
  fun x hx=>(hsits x).1 (h'.sat x hx),?_,fun z=>?_,?_,?_⟩
 · have hvalid:=h'.valid
   cases act with
   | reserve y=>
    exact ⟨hvalid.1,hvalid.2.1,lt_of_le_of_lt h.maxid hvalid.2.2.1,hvalid.2.2.2⟩
   | answer notes=>
    rw[Act.Valid,h.config.initialized] at hvalid
    exact hvalid
   | _=>exact hvalid
 · rw[h'.swap z,hsits]
 · rw[h'.notifies,notes_config h.config,h.notifies]
   simp[Act.notes]
 · rw[h'.queued,packets_config h.config,h.queued]
   simp[Act.packets]

lemma packets_of_no_id (h:act.id=none) : act.packets mc=[] := by
 cases act<;>first | rfl | cases h

lemma roundLog_turn (h:Turn mc act mc') {id:Int} (hid:∀i,act.id=some i → i=id) :
 roundLog id mc mc'=actLog mc act := by
 rw[roundLog,h.notifies,drop_left,h.queued,drop_left,map_map,actLog]
 cases hact:act.id with
 | none=>
  rw[packets_of_no_id hact]
  rfl
 | some i=>
  rw[hid i hact]
  rfl

lemma findFlagged_mem (mc:Client) {fuel:Nat} {e:Option (Entry Nat)}
 (he:∀e'∈e,e'∈mc.ranges.toList) (h:findFlagged mc fuel e=some (node,iv,ref)) :
 (node,iv)∈mc.ranges.toList ∧ iv.data=some ref := by
 induction fuel generalizing e with
 | zero=>simp[findFlagged] at h
 | succ fuel ih=>
  cases e with
  | none=>simp[findFlagged] at h
  | some e=>
   obtain ⟨n,jv⟩:=e
   have hnext:∀e'∈nextInterval mc.ranges n,e'∈mc.ranges.toList:=
    fun e' he'=>nextInterval_mem he'
   simp only[findFlagged] at h
   split at h
   · next r hr=>
      split_ifs at h
      · obtain ⟨rfl,rfl,rfl⟩:n=node ∧ jv=iv ∧ r=ref:=by simpa using h
        exact ⟨he _ rfl,hr⟩
      · exact ih hnext h
   · exact ih hnext h

lemma range_id_setOverlapping (mc:Client) (ref:Nat) (flag:Bool) :
 ((setOverlapping mc ref flag).range ref).id=(mc.range ref).id := by
 simp only[Client.range,setOverlapping,store_modifyRange]
 cases mc.store ref<;>rfl

lemma flagOverlaps_silent (start count fuel:Nat) (e:Option (Entry Nat)) (num:Nat)
 (h:Sound mc) : Turn mc (.answer []) (flagOverlaps start count fuel e mc num).1 := by
 induction fuel generalizing e mc num with
 | zero=>cases e<;>exact turn_still h
 | succ fuel ih=>
  cases e with
  | none=>exact turn_still h
  | some e=>
   obtain ⟨node,low,high,data⟩:=e
   simp only[flagOverlaps]
   split
   · cases data with
     | none=>exact ih _ _ h
     | some r=>
      have hflag:=turn_setOverlapping h r true
      exact Turn.after_silent hflag (ih _ _ hflag.sound)
   · exact turn_still h

lemma resolveConflict_turn (env:Env) (p:Packet) (h:Sound mc)
 (hmem:(node,iv)∈mc.ranges.toList) (hd:iv.data=some ref) :
 ∃act,Turn mc act (resolveConflict env p mc node iv ref) ∧
  roundLog (mc.range ref).id mc (resolveConflict env p mc node iv ref)=actLog mc act ∧
  Reaction p mc ref act := by
 have hflag:=turn_setOverlapping h ref false
 obtain ⟨act,hturn,hid,htimed,hstays⟩:=turn_reactTo env p hflag.sound hmem hd
 rw[range_id_setOverlapping] at hid
 have hall:=Turn.after_silent hflag hturn
 refine ⟨act,hall,roundLog_turn hall hid,hid,htimed,fun hnone x hx=>hstays hnone x ?_⟩
 rw[hflag.swap x]
 exact .inl ⟨hx,by rintro _ ⟨⟩⟩

lemma resolveConflicts_turns (env:Env) (p:Packet) (start num:Nat) (h:Sound mc) :
 ∃acts,Turns mc acts (resolveLog env p start num mc)
  (resolveConflicts env p start num mc) := by
 induction num generalizing mc with
 | zero=>exact ⟨[],.nil h⟩
 | succ num ih=>
  simp only[resolveLog,resolveConflicts]
  cases hfind:findFlagged mc mc.ranges.size
   (searchInterval mc.ranges start p.requestedCount) with
  | none=>exact ⟨[],.nil h⟩
  | some found=>
   obtain ⟨hmem,hd⟩:=findFlagged_mem mc
    (fun e he=>searchInterval_mem (Option.mem_def.1 he)) hfind
   obtain ⟨act,hturn,hlog,-⟩:=resolveConflict_turn env p h hmem hd
   obtain ⟨acts,hturns⟩:=ih hturn.sound
   simp only[hlog]
   exact ⟨act::acts,.cons hturn hturns⟩

lemma turn_startTimer (h:Sound mc) : Turn mc (.answer []) mc.startTimer := by
 obtain ⟨timer,heq⟩:=startTimer_eq mc
 rw[heq]
 exact Turn.withTimer (turn_still h) timer

lemma maapHandlePacket_turns (env:Env) (stream:List UInt8) (h:Sound mc) :
 ∃acts,Turns mc acts (packetLog env mc stream) (maapHandlePacket env mc stream).1 := by
 simp only[packetLog,maapHandlePacket]
 split_ifs
 · exact ⟨[],.nil h⟩
 · exact ⟨[],.nil h⟩
 · exact ⟨[],.nil h⟩
 · have hflag:Turn mc (.answer []) (flagPacket mc (unpackMaap stream)).1:=
    flagOverlaps_silent _ _ _ _ _ h
   obtain ⟨acts,hturns⟩:=resolveConflicts_turns env (unpackMaap stream)
    (packetStart mc (unpackMaap stream)) (flagPacket mc (unpackMaap stream)).2 hflag.sound
   have hall:=(Turns.single hflag).trans
    (hturns.trans (Turns.single (turn_startTimer hturns.sound)))
   simp only[actLog,Act.notes,Act.packets,map_nil,append_nil] at hall
   exact ⟨_,hall⟩

lemma handleTimers_invariant (env:Env) (currenttime:Time) {I:Client → List Event → Prop}
 (hround:∀{mc log ref rest},mc.timerQueue=ref::rest → I mc log →
  I (handleDue env {mc with timerQueue:=rest} ref)
   (log++roundLog (mc.range ref).id mc (handleDue env {mc with timerQueue:=rest} ref)))
 (fuel:Nat) (h:I mc log) (hrun:handleTimers env currenttime fuel mc=some mc') :
 I mc' (log++timerLog env currenttime fuel mc) := by
 induction fuel generalizing mc log with
 | zero=>
  unfold handleTimers at hrun
  unfold timerLog
  cases hqueue:mc.timerQueue with
  | nil=>
   simp only[hqueue] at hrun
   simpa using Option.some.inj hrun▸h
  | cons ref rest=>
   simp only[hqueue] at hrun ⊢
   split_ifs at hrun ⊢
   simpa using Option.some.inj hrun▸h
 | succ fuel ih=>
  unfold handleTimers at hrun
  unfold timerLog
  cases hqueue:mc.timerQueue with
  | nil=>
   simp only[hqueue] at hrun
   simpa using Option.some.inj hrun▸h
  | cons ref rest=>
   simp only[hqueue] at hrun ⊢
   split_ifs at hrun ⊢
   · rw[←append_assoc]
     exact ih (hround hqueue h) hrun
   · simpa using Option.some.inj hrun▸h

lemma handleTimers_turns (env:Env) (currenttime:Time) (fuel:Nat) (h:Sound mc)
 (hrun:handleTimers env currenttime fuel mc=some mc') :
 ∃acts,Turns mc acts (timerLog env currenttime fuel mc) mc' := by
 refine handleTimers_invariant env currenttime (I:=fun mc₁ log=>∃acts,Turns mc acts log mc₁)
  (fun hqueue hturns=>?_) fuel ⟨[],.nil h⟩ hrun
 obtain ⟨acts,hturns⟩:=hturns
 obtain ⟨act,hturn,hid,-⟩:=turn_due env hturns.sound hqueue
 rw[roundLog_turn hturn hid]
 exact ⟨acts++[act],hturns.trans (.single hturn)⟩

lemma turn_read (h:Sound mc) : Turn mc (.answer []) {mc with readings:=mc.readings+1} := by
 have hmoved:∀ref,Moved ref mc {mc with readings:=mc.readings+1}:=fun ref=>
  .congr h.tidy le_rfl le_rfl rfl
 exact turn_quiet h hmoved rfl rfl rfl

lemma maapHandleTimer_turns (env:Env) (fuel:Nat) (h:Sound mc)
 (hrun:maapHandleTimer env fuel mc=some mc') : ∃acts,Turns mc acts (timerLog env (env.clock mc.readings) fuel
  {mc with readings:=mc.readings+1}) mc' := by
 obtain ⟨mc₁,hloop,rfl⟩:=Option.map_eq_some_iff.1 hrun
 have hread:=turn_read h
 obtain ⟨acts,hturns⟩:=handleTimers_turns env _ fuel hread.sound hloop
 have hall:=(Turns.single hread).trans
  (hturns.trans (Turns.single (turn_startTimer hturns.sound)))
 simp only[actLog,Act.notes,Act.packets,map_nil,append_nil] at hall
 exact ⟨_,hall⟩

lemma Turns.one (h:Turn mc act mc') {id:Int} (hid:∀i,act.id=some i → i=id) :
 ∃acts,Turns mc acts (roundLog id mc mc') mc' := by
 rw[roundLog_turn h hid]
 exact ⟨_,.single h⟩

lemma yield_cases (env:Env) (mc:Client) (sender:Nat) (id:Int) : (∃error,answers ⟨.yielded,id,0,0,error⟩=true ∧
  (mc.initialized=true → error ≠ .requiresInitialization) ∧
  maapYieldRange env mc sender id=(mc.informYielded sender id none error,-1) ∧
  yieldLog env mc sender id=roundLog id mc (mc.informYielded sender id none error)) ∨
 ∃ref handled,maapHandlePacket env mc (packMaap (yieldPacket mc ref))=handled ∧
  maapYieldRange env mc sender id=(handled.1,0) ∧
  yieldLog env mc sender id=packetLog env mc (packMaap (yieldPacket mc ref)) := by
 cases hinit:mc.initialized with
 | false=>
  refine .inl ⟨.requiresInitialization,rfl,nofun,?_⟩
  simp[maapYieldRange,yieldLog,hinit]
 | true=>
  cases hfind:findRange mc id fun state=>decide (state=.defending) with
  | none=>
   refine .inl ⟨.releaseInvalidId,rfl,fun _=>by rintro ⟨⟩,?_⟩
   simp only[maapYieldRange,yieldLog,hinit,hfind,Bool.not_true,Bool.false_eq_true,if_false,and_self]
  | some ref=>
   refine .inr ⟨ref,_,rfl,?_⟩
   simp[maapYieldRange,yieldLog,hinit,hfind]

lemma maapYieldRange_turns (env:Env) (sender:Nat) (id:Int) (h:Sound mc) :
 ∃acts,Turns mc acts (yieldLog env mc sender id) (maapYieldRange env mc sender id).1 := by
 rcases yield_cases env mc sender id with
  ⟨error,hanswers,herror,heq,hlog⟩ | ⟨ref,handled,hhandled,heq,hlog⟩
 · rw[heq,hlog]
   exact Turns.one (turn_answer h sender hanswers herror) (by rintro i ⟨⟩)
 · have hturns:=maapHandlePacket_turns env (packMaap (yieldPacket mc ref)) h
   rw[hhandled] at hturns
   rwa[heq,hlog]

lemma maapRangeStatus_turn (id:Int) (h:Sound mc) :
 ∃notes,Turn mc (.answer notes) (maapRangeStatus mc sender id) := by
 unfold maapRangeStatus
 split_ifs with hinit
 · exact ⟨_,turn_answer h sender rfl (by simpa using hinit)⟩
 · cases findRange mc id fun state=>decide (state=.defending) with
   | none=>exact ⟨_,turn_answer h sender rfl fun _=>by rintro ⟨⟩⟩
   | some ref=>
    have hnote:∀start count,answers ⟨.status,id,start,count,.none⟩=true:=
     fun _ _=>rfl
    exact ⟨_,turn_answer h sender (hnote (mc.getStartAddress ref) (mc.getCount ref))
     fun _=>by rintro ⟨⟩⟩

lemma maapInitClient_turn (addressBase rangeLen:Nat) (h:Sound mc)
 (hinit:mc.initialized=true) :
 ∃notes,Turn mc (.answer notes) (maapInitClient mc sender addressBase rangeLen).1 := by
 unfold maapInitClient
 split_ifs
 · exact ⟨_,turn_answer h sender rfl fun _=>by rintro ⟨⟩⟩
 · exact ⟨_,turn_answer h sender rfl fun _=>by rintro ⟨⟩⟩

lemma Input.turns (i:Input) (h:Sound mc) (hinit:mc.initialized=true)
 (hrun:i.run env mc=some mc') : ∃acts,Turns mc acts (i.log env mc) mc' := by
 cases i with
 | init sender addressBase rangeLen=>
  cases hrun
  obtain ⟨notes,hturn⟩:=maapInitClient_turn sender addressBase rangeLen h hinit
  exact Turns.one hturn (by rintro i ⟨⟩)
 | reserve sender attemptBase length=>
  cases hrun
  obtain ⟨act,hturn,hid⟩:=turn_maapReserveRange env h sender attemptBase length
  exact Turns.one hturn hid
 | release sender id=>
  cases hrun
  rcases turn_maapReleaseRange h sender id with ⟨x,rfl,hturn,-⟩|⟨note,hturn,-⟩
  · exact Turns.one hturn fun i hi=>(Option.some.inj hi).symm
  · exact Turns.one hturn (by rintro i ⟨⟩)
 | status sender id=>
  cases hrun
  obtain ⟨notes,hturn⟩:=maapRangeStatus_turn sender id h
  exact Turns.one hturn (by rintro i ⟨⟩)
 | yield sender id=>
  cases hrun
  exact maapYieldRange_turns env sender id h
 | packet stream=>
  cases hrun
  obtain ⟨acts,hturns⟩:=maapHandlePacket_turns env stream h
  exact ⟨acts,.hear stream hturns⟩
 | timer fuel=>exact maapHandleTimer_turns env fuel h hrun

lemma Turns.config (h:Turns mc acts log mc') : SameConfig mc mc' := by
 induction h with
 | nil=>exact .refl _
 | cons head tail ih=>exact head.config.trans ih
 | hear stream tail ih=>exact ih

lemma runInputs_turns (inputs:List Input) (h:Sound mc) (hinit:mc.initialized=true)
 (hrun:runInputs env inputs mc=some mc') : ∃acts,Turns mc acts (runLog env inputs mc) mc' := by
 induction inputs generalizing mc with
 | nil=>exact ⟨[],Option.some.inj hrun▸.nil h⟩
 | cons i inputs ih=>
  obtain ⟨mc₁,hfirst,hrest⟩:=Option.bind_eq_some_iff.1 hrun
  obtain ⟨acts,hturns⟩:=i.turns h hinit hfirst
  obtain ⟨acts',hturns'⟩:=ih hturns.sound (hturns.config.initialized.trans hinit) hrest
  rw[runLog,hfirst]
  exact ⟨acts++acts',hturns.trans hturns'⟩

def started (destMac srcMac sender addressBase rangeLen:Nat) : Client :=
 (maapInitClient (blank destMac srcMac) sender addressBase rangeLen).1

lemma started_sound (destMac srcMac sender addressBase rangeLen:Nat) :
 Sound (started destMac srcMac sender addressBase rangeLen) ∧
  Numbered (started destMac srcMac sender addressBase rangeLen) := by
 have hout:∀x,¬Sits (started destMac srcMac sender addressBase rangeLen) x:=fun x hx=>by
  cases hx.queued
 refine ⟨⟨⟨nodup_nil,?_,?_,fun _ _=>rfl⟩,nodup_nil,fun r=>.inl ⟨?_,?_⟩⟩,
  ⟨fun x _ hx=>absurd hx (hout x),fun x hx=>absurd hx (hout x),le_rfl⟩⟩
 · rintro e ⟨⟩
 · rintro e ⟨⟩
 · rintro ⟨⟩
 · rintro low high ⟨node,hmem⟩
   cases hmem

end MaapHistory

/-! ## Release is final -/

namespace MaapRelease

open MaapTurns MaapRounds MaapHistory

variable {env:Env} {mc mc':Client} {id:Int} {acts:List Act} {log:List Event}

def Gone (id:Int) (mc:Client) : Prop := id ≤ mc.maxid ∧ ∀x,Sits mc x → x.id≠id

variable {act:Act} {note:Nat×Notify} {bytes:List UInt8}

lemma gone_turn (h:Turn mc act mc') (hgone:Gone id mc) : Gone id mc' ∧ act.id≠some id := by
 have hact:act.id≠some id:=by
  intro hact
  have hvalid:=h.valid
  cases act with
  | reserve y=>
   have hlt:=hvalid.2.2.1
   have hle:=hgone.1
   have heq:y.id=id:=Option.some.inj hact
   omega
  | answer notes=>cases hact
  | _=>exact hgone.2 _ (h.sat _ rfl) (Option.some.inj hact)
 refine ⟨⟨hgone.1.trans h.maxid,fun y hy heq=>?_⟩,hact⟩
 exact hgone.2 y ((h.sits_other (by rw[heq];exact hact)).1 hy) heq

lemma notes_of_other (h:Turn mc act mc') (hact:act.id≠some id) (hnote:note∈act.notes mc)
 (hid:note.2.id=id) : answers note.2=true ∧ (mc.initialized=true → note.2.result ≠ .requiresInitialization) := by
 have hvalid:=h.valid
 cases act with
 | answer notes=>exact hvalid note hnote
 | release x sender=>
  have hx:note.2.id=x.id:=by
   simp only[Act.notes,mem_cons] at hnote
   rcases hnote with rfl|hnote
   · rfl
   · split_ifs at hnote
     · obtain rfl:=mem_singleton.1 hnote
       rfl
     · cases hnote
  exact absurd (by rw[←hid,hx];rfl) hact
 | replace x y=>
  have hy:y.id=x.id:=hvalid.2.1
  simp only[Act.notes,mem_cons,not_mem_nil,or_false] at hnote
  rcases hnote with rfl|rfl
  · exact absurd (by rw[←hid];rfl) hact
  · exact absurd (by rw[←hid];exact congrArg some hy.symm) hact
 | move x y=>
  obtain rfl:=mem_singleton.1 hnote
  exact absurd (by rw[←hid,hvalid.2];rfl) hact
 | reserve y | fail x | lose x result | acquire x=>
  obtain rfl:=mem_singleton.1 hnote
  exact absurd (by rw[←hid];rfl) hact
 | probe x | announce x | defend x p=>cases hnote

/-- Nothing but answers about a reservation that is gone. -/
structure Silent (id:Int) (mc:Client) (log:List Event) (mc':Client) : Prop where
 gone:Gone id mc'
 sent:∀bytes,.sent id bytes∉log
 told:∀note,.told note∈log → note.2.id=id → answers note.2=true ∧
  (mc.initialized=true → note.2.result ≠ .requiresInitialization)

lemma sent_mem_actLog (h:.sent id bytes∈actLog mc act) : act.id=some id := by
 simp only[actLog,mem_append,mem_map,reduceCtorEq,and_false,exists_false,Event.sent.injEq,false_or] at h
 obtain ⟨p,hp,hid,-⟩:=h
 cases hact:act.id with
 | none=>
  rw[packets_of_no_id hact] at hp
  cases hp
 | some i=>
  rw[hact] at hid
  exact congrArg some hid

lemma told_mem_actLog : .told note∈actLog mc act↔note∈act.notes mc := by
 simp[actLog]

lemma silent_turns (h:Turns mc acts log mc') (hgone:Gone id mc) : Silent id mc log mc' := by
 induction h with
 | nil=>exact ⟨hgone,by simp,by simp⟩
 | cons head tail ih=>
  obtain ⟨hgone₁,hact⟩:=gone_turn head hgone
  obtain ⟨hend,hsent,htold⟩:=ih hgone₁
  refine ⟨hend,fun bytes hmem=>?_,fun note hnote hid=>?_⟩
  · rcases mem_append.1 hmem with hnow|hrest
    · exact hact (sent_mem_actLog hnow)
    · exact hsent bytes hrest
  · rcases mem_append.1 hnote with hnow|hrest
    · exact notes_of_other head hact (told_mem_actLog.1 hnow) hid
    · obtain ⟨hans,hres⟩:=htold note hrest hid
      exact ⟨hans,fun hinit=>hres (head.config.initialized.trans hinit)⟩
 | hear stream tail ih=>
  obtain ⟨hend,hsent,htold⟩:=ih hgone
  exact ⟨hend,by simpa using hsent,by simpa using htold⟩

lemma mem_packets : (id,bytes)∈log.filterMap Event.packet ↔ .sent id bytes∈log := by
 rw[mem_filterMap]
 constructor
 · rintro ⟨event,hmem,heq⟩
   cases event<;>cases heq
   exact hmem
 · exact fun hmem=>⟨_,hmem,rfl⟩

lemma mem_notes : note∈log.filterMap Event.note ↔ .told note∈log := by
 rw[mem_filterMap]
 constructor
 · rintro ⟨event,hmem,heq⟩
   cases event<;>cases heq
   exact hmem
 · exact fun hmem=>⟨_,hmem,rfl⟩

lemma recorded_turns (h:Turns mc acts log mc') :
 mc'.queued=mc.queued++(log.filterMap Event.packet).map Prod.snd ∧
  mc'.notifies=mc.notifies++log.filterMap Event.note := by
 induction h with
 | nil=>simp
 | @cons mc mc₁ mc' act acts log head tail ih=>
  have hpackets:((actLog mc act).filterMap Event.packet).map Prod.snd=(act.packets mc).map packMaap:=by
   simp[actLog,Function.comp_def,Event.packet]
  have hnotes:(actLog mc act).filterMap Event.note=act.notes mc:=by
   simp[actLog,Function.comp_def,Event.note]
  rw[ih.1,ih.2,head.queued,head.notifies,filterMap_append,filterMap_append,
   map_append,hpackets,hnotes,append_assoc,append_assoc]
  exact ⟨rfl,rfl⟩
 | hear stream tail ih=>exact ih

lemma answers_of_gone (h:Sound mc) (hinit:mc.initialized=true) (hgone:Gone id mc)
 (sender:Nat) : maapRangeStatus mc sender id=mc.informStatus sender id none .releaseInvalidId ∧
  (maapReleaseRange mc sender id).2 = -1 := by
 constructor
 · rcases findRange_cases h id (fun state=>decide (state=.defending)) (by decide) with
    ⟨x,hid,hx,-⟩ | ⟨hnone,-⟩
   · exact absurd hid (hgone.2 x hx)
   · simp[maapRangeStatus,hinit,hnone]
 · rcases turn_maapReleaseRange h sender id with ⟨x,hid,hturn,-⟩|⟨note,-,hret,-⟩
   · exact absurd hid (hgone.2 x (hturn.sat x rfl))
   · exact hret

lemma runInputs_sound {destMac srcMac owner addressBase rangeLen:Nat} {inputs:List Input}
 (h:runInputs env inputs (started destMac srcMac owner addressBase rangeLen)=some mc) :
 Sound mc ∧ Numbered mc ∧ mc.initialized=true := by
 obtain ⟨hsound,hnum⟩:=started_sound destMac srcMac owner addressBase rangeLen
 obtain ⟨acts,hturns⟩:=runInputs_turns inputs hsound rfl h
 exact ⟨hturns.sound,hturns.invariant (fun ht=>ht.numbered) hnum,hturns.config.initialized⟩

theorem release_final (env:Env) (destMac srcMac owner addressBase rangeLen sender:Nat)
 (id:Int)
 (before after:List Input) (mc mc':Client)
 (hbefore:runInputs env before (started destMac srcMac owner addressBase rangeLen)=some mc)
 (hreleased:(maapReleaseRange mc sender id).2=0)
 (hafter:runInputs env after (maapReleaseRange mc sender id).1=some mc') :
 (mc'.queued=(maapReleaseRange mc sender id).1.queued++
  (runSends env after (maapReleaseRange mc sender id).1).map Prod.snd ∧
  ∀sent∈runSends env after (maapReleaseRange mc sender id).1,sent.1≠id) ∧
 (∃later,mc'.notifies=(maapReleaseRange mc sender id).1.notifies++later ∧
  ∀note∈later,note.2.id=id → note.2.kind ≠ .acquiring ∧ note.2.kind ≠ .acquired ∧
   (note.2.kind=.yielded → note.2.result=.releaseInvalidId)) ∧
 (∀sender',maapRangeStatus mc' sender' id=mc'.informStatus sender' id none .releaseInvalidId) ∧
 ∀sender',(maapReleaseRange mc' sender' id).2 = -1 := by
 obtain ⟨hsound,hnum,hinit⟩:=runInputs_sound hbefore
 rcases turn_maapReleaseRange hsound sender id with ⟨x,rfl,hturn,-⟩|⟨note,-,hret,-⟩
 · have hx:Sits mc x:=hturn.sat x rfl
   have hissued:=hnum.issued x hx
   have hgone:Gone x.id (maapReleaseRange mc sender x.id).1:=by
    refine ⟨hissued.2.trans hturn.maxid,fun z hz hid=>?_⟩
    rcases (hturn.swap z).1 hz with ⟨hold,hne⟩|hnew
    · exact hne x rfl (congrArg Seat.ref (hnum.one z x hold hx hid))
    · cases hnew
   have hinit':=hturn.config.initialized.trans hinit
   obtain ⟨acts,hturns⟩:=runInputs_turns after hturn.sound hinit' hafter
   obtain ⟨hend,hsent,htold⟩:=silent_turns hturns hgone
   obtain ⟨hqueued,hnotifies⟩:=recorded_turns hturns
   refine ⟨⟨hqueued,fun sent hmem hid=>?_⟩,⟨_,hnotifies,fun note hnote hid=>?_⟩,
    fun s=>(answers_of_gone hturns.sound (hturns.config.initialized.trans hinit') hend s).1,
    fun s=>(answers_of_gone hturns.sound (hturns.config.initialized.trans hinit') hend s).2⟩
   · obtain ⟨i,bytes⟩:=sent
     obtain rfl:i=x.id:=hid
     exact hsent bytes (mem_packets.1 hmem)
   · obtain ⟨hans,hres⟩:=htold note (mem_notes.1 hnote) hid
     unfold answers at hans
     split at hans<;>simp_all
 · rw[hret] at hreleased
   cases hreleased

def reservedRun : List Input := [.reserve 0 0x91E0F0000010 8]
def pool : Client := started 0x91E0F000FF00 0x0200000000AA 0 0x91E0F0000000 0xFE00

theorem release_final_while_probing : ∃mc mc',runInputs steadyEnv reservedRun pool=some mc ∧
  (maapReleaseRange mc 0 1).2=0 ∧
  runInputs steadyEnv [.timer 3,.status 0 1] (maapReleaseRange mc 0 1).1=some mc' ∧
  ∀sender,(maapReleaseRange mc' sender 1).2 = -1 := by
 obtain ⟨mc,hmc,htest⟩:=(Option.any_eq_true (fun mc=>decide ((maapReleaseRange mc 0 1).2=0 ∧
  (runInputs steadyEnv [.timer 3,.status 0 1]
   (maapReleaseRange mc 0 1).1).isSome=true))
  (runInputs steadyEnv reservedRun pool)).1 (by decide +kernel)
 obtain ⟨hreleased,hsome⟩:=of_decide_eq_true htest
 obtain ⟨mc',hmc'⟩:=Option.isSome_iff_exists.1 hsome
 exact ⟨mc,mc',hmc,hreleased,hmc',(release_final _ _ _ _ _ _ 0 1 reservedRun _ mc mc' hmc hreleased hmc').2.2.2⟩

theorem released_id_in_yielded : ∃mc mc',runInputs steadyEnv reservedRun pool=some mc ∧
  (maapReleaseRange mc 0 1).2=0 ∧
  runInputs steadyEnv [.yield 0 1] (maapReleaseRange mc 0 1).1=some mc' ∧
  ∃note∈mc'.notifies.drop (maapReleaseRange mc 0 1).1.notifies.length,
   note.2.id=1 ∧ note.2.kind=.yielded := by
 obtain ⟨mc,hmc,htest⟩:=(Option.any_eq_true (fun mc=>decide ((maapReleaseRange mc 0 1).2=0 ∧
  (runInputs steadyEnv [.yield 0 1] (maapReleaseRange mc 0 1).1).any (fun mc'=>
   decide (∃note∈mc'.notifies.drop (maapReleaseRange mc 0 1).1.notifies.length,
    note.2.id=1 ∧ note.2.kind=.yielded))=true))
  (runInputs steadyEnv reservedRun pool)).1 (by decide +kernel)
 obtain ⟨hreleased,hany⟩:=of_decide_eq_true htest
 obtain ⟨mc',hmc',hnote⟩:=(Option.any_eq_true _ _).1 hany
 exact ⟨mc,mc',hmc,hreleased,hmc',of_decide_eq_true hnote⟩

end MaapRelease

end OpenAvnu
