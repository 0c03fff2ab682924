import OpenAvnu.AcmpTalkerBooks

/-!
# The sessions of an ACMP talker

Which listeners get their responses, over whole runs.
-/

namespace OpenAvnu.AcmpTalker

open Acmp Runs List Function Prod

/-- The command that connected a listener, and whether it has been answered since. -/
structure Session where
 command:CommandResponse
 answered:Bool

/-- The machine with the sessions of its listeners, stray responses and the stream just updated. -/
structure Replies where
 state:State
 sessions:List Session
 stray:List Sent
 updated:Option Nat

def Replies.initial (streamOutputs:List StreamOutput) (streams:Nat → StreamCfg) : Replies :=
 ⟨.initial streamOutputs streams,[],[],none⟩
def mark (sent:List Sent) (c:Session) : Session :=
 {c with answered:=c.answered||sent.any fun x=>answersTo x c.command}
def opened (event:Event) (s s':State) : List Session :=
 match event with
 | .receive m=>if !isConnected m s&&isConnected m s' then [⟨m,false⟩] else []
 | .update _ _=>[]
def sessionsAfter (event:Event) (s s':State) (sessions:List Session) : List Session :=
 ((sessions++opened event s s').filter fun c=>isConnected c.command s').map
  (mark (newlySent s s'))

/-- A response to anything but the command that has just arrived is for a connected listener. -/
def isStray (event:Event) (s':State) (x:Sent) : Bool :=
 decide (x.messageType=connectTxResponse)&&!isConnected x.message s' &&
  match event with
  | .receive m=>!answersTo x m
  | .update _ _=>true

def updatedBy : Event → Option Nat
 | .receive _=>none
 | .update stream cfg=>if cfg.destValid then some stream else none
def reply (myId:BitVec 64) (input:Event×Env) (r:Replies) : Replies :=
 let s':=step myId input r.state
 ⟨s',sessionsAfter input.1 r.state s' r.sessions,
  r.stray++(newlySent r.state s').filter (isStray input.1 s'),updatedBy input.1⟩

/-- After a valid update all listeners of the stream have been answered, and none that is gone. -/
def Answered (r:Replies) : Prop := r.stray=[] ∧ ∀stream∈r.updated,∀i,carries stream i r.state=true →
  ∀pair∈connectedTo i r.state,∃c∈r.sessions,
   c.command.talkerUniqueId.toNat=i ∧ pairOf c.command=pair ∧ c.answered=true

/-- No listener of a stream connects while another waits; when a response waits for an update, it is
valid and its one listener is still connected. -/
def Orderly (myId:BitVec 64) (input:Event×Env) (r:Replies) : Prop :=
 match input.1 with
 | .receive m=>(input.2.runTalker&&input.2.allocated)=true ∧
  (m.talkerEntityId=myId → dispatch m.messageType=some .talkerConnectTXCmd →
   isConnected m r.state=false → ∀w∈waitingAt m.talkerUniqueId.toNat r.state, isConnected w r.state=false)
 | .update stream cfg=>∀i < r.state.talkerStreamInfos.length,awaits stream r.state i=true →
  cfg.destValid=true ∧
  (∀j < r.state.talkerStreamInfos.length,awaits stream r.state j=true → j=i) ∧
  ∀w∈waitingAt i r.state,isConnected w r.state=true

variable {myId:BitVec 64} {m w:CommandResponse} {env:Env} {event:Event} {s s':State}
 {r:Replies} {i:Nat} {pair:ListenerPair}

def Served (sessions:List Session) (s:State) (i:Nat) (pair:ListenerPair) : Prop :=
 ∃c∈sessions,c.command.talkerUniqueId.toNat=i ∧ pairOf c.command=pair ∧
  (c.answered=true ∨ ∃w,waitingAt i s=some w ∧ respondsTo w c.command=true)

structure Owed (r:Replies) : Prop where
 running:r.state.control=.waiting
 sizes:r.state.talkerStreamInfos.length=r.state.streamOutputs.length
 stray:r.stray=[]
 own:∀i w,waitingAt i r.state=some w → w.talkerUniqueId.toNat=i
 served:∀i,∀pair∈connectedTo i r.state,Served r.sessions r.state i pair

lemma isConnected_congr (h:respondsTo w m=true) (s:State) : isConnected w s=isConnected m s := by
 have hids:=of_decide_eq_true h
 rw[isConnected,isConnected,hids.1,hids.2.1]
lemma mem_sessionsAfter {c:Session} (hc:c∈r.sessions++opened event s s')
 (hstill:pairOf c.command∈connectedTo c.command.talkerUniqueId.toNat s') :
 mark (newlySent s s') c∈sessionsAfter event s s' r.sessions := by
 apply mem_map_of_mem
 exact mem_filter.2 ⟨hc,decide_eq_true hstill⟩

section
variable (h:Served r.sessions s i pair)
include h

lemma Served.kept (hstill:pair∈connectedTo i s')
 (hwaiting:waitingAt i s'=waitingAt i s) : Served (sessionsAfter event s s' r.sessions) s' i pair := by
 obtain ⟨c,hc,hi,hpair,hserved⟩:=h
 subst hi hpair
 refine ⟨_,mem_sessionsAfter (mem_append_left _ hc) hstill,rfl,rfl,?_⟩
 rw[hwaiting]
 apply hserved.imp_left
 intro hanswered
 simp[mark,hanswered]

lemma Served.answered
 (hother:∀w,waitingAt i s=some w → pairOf w≠pair) :
 ∃c∈r.sessions,c.command.talkerUniqueId.toNat=i ∧ pairOf c.command=pair ∧
  c.answered=true := by
 obtain ⟨c,hc,hi,hpair,hserved⟩:=h
 rcases hserved with hanswered|⟨w,hw,hresponds⟩
 · exact ⟨c,hc,hi,hpair,hanswered⟩
 · have hids:=of_decide_eq_true hresponds
   exact absurd (hids.2.1.trans hpair) (hother w hw)

lemma Served.settled (hstill:pair∈connectedTo i s')
 (hother:∀w,waitingAt i s=some w → pairOf w≠pair) : Served (sessionsAfter event s s' r.sessions) s' i pair := by
 obtain ⟨c,hc,hi,hpair,hanswered⟩:=h.answered hother
 subst hi hpair
 refine ⟨_,mem_sessionsAfter (mem_append_left _ hc) hstill,rfl,rfl,.inl ?_⟩
 simp[mark,hanswered]

end

lemma owed_quiet (h:Owed r) (hq:Quiet m r.state s') (houtline:outline s'=outline r.state)
 (updated:Option Nat) : Owed ⟨s',sessionsAfter (.receive m) r.state s' r.sessions,
  r.stray++(newlySent r.state s').filter (isStray (.receive m) s'),updated⟩ where
 running := (congrArg fst houtline).trans h.running
 sizes:=by
  have hsizes:=congrArg snd houtline
  simp only[outline,mk.injEq] at hsizes
  rw[hsizes.1,hsizes.2,h.sizes]
 stray:=by
  rw[h.stray,nil_append,filter_eq_nil_iff]
  intro x hx
  by_cases htype:x.messageType=connectTxResponse
  · simp[isStray,hq.sent x hx htype]
  · simp[isStray,htype]
 own i w hw:=h.own i w (hq.waiting i▸hw)
 served i pair hpair:=(h.served i pair (hq.connected i hpair)).kept hpair (hq.waiting i)

lemma waiting_ne (h:Owed r) (hw:waitingAt i r.state=some w)
 (hgone:isConnected w r.state=false) (hpair:pair∈connectedTo i r.state) : pairOf w≠pair := by
 intro heq
 rw[isConnected,h.own i w hw,heq] at hgone
 exact of_decide_eq_false hgone hpair

lemma owed_fresh (h:Owed r) (hf:Fresh m r.state s')
 (hgone:∀w∈waitingAt m.talkerUniqueId.toNat r.state,isConnected w r.state=false)
 (houtline:outline s'=outline r.state) (updated:Option Nat) :
 Owed ⟨s',sessionsAfter (.receive m) r.state s' r.sessions,
  r.stray++(newlySent r.state s').filter (isStray (.receive m) s'),updated⟩ := by
 obtain ⟨w,hresponds,hwaiting⟩:=hf.waiting
 have hsizes:=congrArg snd houtline
 simp only[outline,mk.injEq] at hsizes
 refine ⟨(congrArg fst houtline).trans h.running,?_,?_,?_,?_⟩
 · rw[hsizes.1,hsizes.2,h.sizes]
 · rw[hf.sent,h.stray]
   rfl
 · intro i w' hw'
   rw[hwaiting] at hw'
   split at hw'
   · rename_i hi
     cases hw'
     rw[hi,(of_decide_eq_true hresponds).1]
   · exact h.own i w' hw'
 · intro i pair hpair
   by_cases hi:i=m.talkerUniqueId.toNat
   · subst hi
     have hstill:=hpair
     rw[hf.connected,if_pos rfl,mem_append,mem_singleton] at hpair
     rcases hpair with hold|rfl
     · exact (h.served _ pair hold).settled hstill
        fun w' hw'=>waiting_ne h hw' (hgone w' hw') hold
     · have hopened:opened (.receive m) r.state s'=[⟨m,false⟩]:=by
        rw[opened,hf.absent,isConnected,decide_eq_true hstill]
        rfl
       refine ⟨_,mem_sessionsAfter (c:=⟨m,false⟩) ?_ hstill,rfl,rfl,.inr ⟨w,?_,hresponds⟩⟩
       · rw[hopened]
         exact mem_append_right _ (mem_singleton_self _)
       · rw[hwaiting,if_pos rfl]
   · have hsame:waitingAt i s'=waitingAt i r.state:=by rw[hwaiting,if_neg hi]
     have hold:pair∈connectedTo i r.state:=by rwa[hf.connected,if_neg hi] at hpair
     exact (h.served i pair hold).kept hpair hsame

lemma respondsTo_trans {a b c:CommandResponse} (hab:respondsTo a b=true)
 (hbc:respondsTo b c=true) : respondsTo a c=true := by
 have hab:=of_decide_eq_true hab
 have hbc:=of_decide_eq_true hbc
 exact decide_eq_true ⟨hab.1.trans hbc.1,hab.2.1.trans hbc.2.1,hab.2.2.1.trans hbc.2.2.1,
  hab.2.2.2.trans hbc.2.2.2⟩

lemma Served.deferred (h:Served r.sessions s i pair) (hd:Deferred w i s s')
 (hw:waitingAt i s=some w) (hpair:pair∈connectedTo i s) :
 Served (sessionsAfter event s s' r.sessions) s' i pair := by
 obtain ⟨response,hsent,hresponse⟩:=hd.sent
 obtain ⟨c,hc,hi,rfl,hserved⟩:=h
 subst hi
 have hstill:=hd.connected c.command.talkerUniqueId.toNat▸hpair
 refine ⟨_,mem_sessionsAfter (mem_append_left _ hc) hstill,rfl,rfl,.inl ?_⟩
 rcases hserved with hanswered|⟨w',hw',hresponds⟩
 · simp[mark,hanswered]
 · cases hw.symm.trans hw'
   simp[mark,hsent,answersTo,respondsTo_trans hresponse hresponds]

variable (stream:Nat)

lemma owed_deferred (cfg:StreamCfg) (h:Owed r) (hd:Deferred w i r.state s')
 (hw:waitingAt i r.state=some w) (hthere:isConnected w r.state=true)
 (hcontrol:s'.control=r.state.control) (hsizes:(outline s').2=(outline r.state).2) :
 Owed ⟨s',sessionsAfter (.update stream cfg) r.state s' r.sessions,
  r.stray++(newlySent r.state s').filter (isStray (.update stream cfg) s'),updatedBy (.update stream cfg)⟩ := by
 simp only[outline,mk.injEq] at hsizes
 refine ⟨hcontrol.trans h.running,?_,?_,?_,?_⟩
 · rw[hsizes.1,hsizes.2,h.sizes]
 · obtain ⟨response,hsent,hresponse⟩:=hd.sent
   have hconnected:isConnected response s'=true:=by
    rw[isConnected,hd.connected,←isConnected,isConnected_congr hresponse,hthere]
   rw[h.stray,hsent]
   simp[isStray,hconnected]
 · intro j w' hw'
   rw[hd.waiting] at hw'
   split at hw'
   · cases hw'
   · exact h.own j w' hw'
 · intro j pair hpair
   have hold:pair∈connectedTo j r.state:=hd.connected j▸hpair
   by_cases hj:j=i
   · subst hj
     exact (h.served j pair hold).deferred hd hw hold
   · exact (h.served j pair hold).kept hpair (by rw[hd.waiting,if_neg hj])

lemma owed_idle (cfg:StreamCfg) (s':State) (h:Owed r)
 (hinfos:s'.talkerStreamInfos=r.state.talkerStreamInfos) (hsent:s'.sent=r.state.sent)
 (houtline:outline s'=outline r.state) : Owed ⟨s',sessionsAfter (.update stream cfg) r.state s' r.sessions,
  r.stray++(newlySent r.state s').filter (isStray (.update stream cfg) s'),updatedBy (.update stream cfg)⟩ := by
 have hwaiting:∀i,waitingAt i s'=waitingAt i r.state:=fun i=>by
  rw[waitingAt,hinfos,waitingAt]
 have hconnected:∀i,connectedTo i s'=connectedTo i r.state:=fun i=>by
  rw[connectedTo,hinfos,connectedTo]
 have hsizes:=congrArg snd houtline
 simp only[outline,mk.injEq] at hsizes
 refine ⟨(congrArg fst houtline).trans h.running,?_,?_,?_,?_⟩
 · rw[hsizes.1,hsizes.2,h.sizes]
 · rw[newlySent_same hsent,h.stray]
   rfl
 · intro i w hw
   exact h.own i w (hwaiting i▸hw)
 · intro i pair hpair
   exact (h.served i pair (hconnected i▸hpair)).kept hpair (hwaiting i)

lemma Owed.answered (h:Owed r)
 (hnone:∀stream∈r.updated,∀i,carries stream i r.state=true →
  waitingAt i r.state=none) : Answered r := by
 refine ⟨h.stray,?_⟩
 intro stream hstream i hcarries pair hpair
 apply (h.served i pair hpair).answered
 intro w hw
 rw[hnone stream hstream i hcarries] at hw
 cases hw

lemma lt_of_waitingAt (h:waitingAt i s=some w) : i<s.talkerStreamInfos.length := by
 rw[waitingAt,Option.bind_eq_some_iff] at h
 obtain ⟨info,hinfo,-⟩:=h
 exact (List.getElem?_eq_some_iff.1 hinfo).1

variable {stream:Nat}

lemma waitingAt_none_of (hcarries:carries stream i s=true)
 (hnot:∀j<s.talkerStreamInfos.length,awaits stream s j=true → j≠i) : waitingAt i s=none := by
 cases hw:waitingAt i s with
 | none=>rfl
 | some w=>
  refine absurd rfl (hnot i (lt_of_waitingAt hw) ?_)
  rw[awaits_eq,hw,hcarries]
  rfl

variable {cfg:StreamCfg}

lemma step_update (hrunning:s.control=.waiting) :
 step myId (.update stream cfg,env) s=openavbAcmpSMTalkerUpdateStreamInfo stream
  {s with streams:=update s.streams stream cfg} := by
 obtain ⟨infos,outputs,streams,control,sent⟩:=s
 cases hrunning
 rfl

lemma updated_valid (h:Orderly myId (.update stream cfg,env) r) (i:Nat)
 (hawaits:awaits stream
  {r.state with streams:=update r.state.streams stream cfg} i=true) :
 (update r.state.streams stream cfg stream).destValid=true := by
 have hlt:i < r.state.talkerStreamInfos.length:=by
  have hsome:=hawaits
  rw[awaits_eq,Bool.and_eq_true] at hsome
  obtain ⟨w,hw⟩:=Option.isSome_iff_exists.1 hsome.1
  exact lt_of_waitingAt hw
 rw[update_self]
 exact (h i hlt hawaits).1

lemma updatedBy_mem {stream k:Nat} (h:k∈updatedBy (.update stream cfg)) : k=stream := by
 rw[updatedBy] at h
 split at h
 · exact (Option.some.inj h).symm
 · cases h

lemma update_owed (hcond:Orderly myId (.update stream cfg,env) r) (h:Owed r) :
 Owed (reply myId (.update stream cfg,env) r) ∧
  Answered (reply myId (.update stream cfg,env) r) := by
 rw[reply,step_update h.running]
 rcases update_cases stream (updated_valid hcond) with
  ⟨hnone,hsame⟩ | ⟨i,w,hi,hawaits,hw,hd,hcontrol⟩
 · rw[hsame]
   have howed:=owed_idle stream cfg {r.state with
    streams:=update r.state.streams stream cfg} h rfl rfl rfl
   refine ⟨howed,howed.answered ?_⟩
   intro k hk j hcarries
   rw[updatedBy_mem hk] at hcarries
   apply waitingAt_none_of hcarries
   intro i hi hawaits
   rw[hnone i hi] at hawaits
   cases hawaits
 · obtain ⟨-,hunique,hthere⟩:=hcond i hi hawaits
   -- the configuration of a stream is not what the listeners and responses depend on
   have hd':Deferred w i r.state _:=⟨hd.connected,hd.waiting,hd.sent,hd.carries⟩
   have howed:=owed_deferred stream cfg h hd' hw (hthere w hw) hcontrol (update_sizes ..)
   refine ⟨howed,howed.answered ?_⟩
   intro k hk j hcarries
   rw[updatedBy_mem hk] at hcarries
   refine (hd.waiting j).trans ?_
   split
   · rfl
   · rename_i hj
     apply waitingAt_none_of ((hd.carries stream j).symm.trans hcarries)
     intro i' hi' hawaits' heq
     exact hj (heq.symm.trans (hunique i' hi' hawaits'))

lemma reply_owed (input:Event×Env) (r:Replies) (hcond:Orderly myId input r)
 (h:Owed r) : Owed (reply myId input r) ∧ Answered (reply myId input r) := by
 obtain ⟨event,env⟩:=input
 cases event with
 | receive m=>
  obtain ⟨hrun,hgone⟩:=hcond
  have howed:Owed (reply myId (.receive m,env) r):=by
   simp only[reply,step,h.running]
   rcases receive_cases h.sizes hrun with hquiet|⟨hmine,hkind,hfresh⟩
   · exact owed_quiet h hquiet (receive_outline ..) _
   · exact owed_fresh h hfresh (hgone hmine hkind hfresh.absent) (receive_outline ..) _
  refine ⟨howed,howed.answered ?_⟩
  intro stream hstream
  cases hstream
 | update stream cfg=>exact update_owed hcond h

lemma initial_owed (streamOutputs:List StreamOutput) (streams:Nat → StreamCfg) :
 Owed (.initial streamOutputs streams) := by
 have hzero:∀(i:Nat) info,
  (State.initial streamOutputs streams).talkerStreamInfos[i]? = some info →
  info=TalkerStreamInfo.zero:=by
  intro i info hinfo
  exact eq_of_mem_replicate (mem_of_getElem? hinfo)
 refine ⟨rfl,length_replicate,rfl,?_,?_⟩
 · intro i w hw
   rw[waitingAt,Option.bind_eq_some_iff] at hw
   obtain ⟨info,hinfo,hwaiting⟩:=hw
   rw[hzero i info hinfo] at hwaiting
   cases hwaiting
 · intro i pair hpair
   rw[connectedTo] at hpair
   cases hinfo:(State.initial streamOutputs streams).talkerStreamInfos[i]? with
   | none=>simp[Replies.initial,hinfo] at hpair
   | some info=>
    have hempty:listeners info=[]:=by rw[hzero i info hinfo];rfl
    simp[Replies.initial,hinfo,hempty] at hpair

theorem listeners_answered (myId:BitVec 64) (streamOutputs:List StreamOutput)
 (streams:Nat → StreamCfg) (inputs:List (Event×Env))
 (h:Along (reply myId) (Orderly myId) inputs (.initial streamOutputs streams)) :
 Throughout (reply myId) Answered inputs (.initial streamOutputs streams) := by
 have hstart:Answered (.initial streamOutputs streams):=⟨rfl,nofun⟩
 have hall:=throughout_of_along (P:=fun r=>Owed r ∧ Answered r)
  (fun input r hcond hr=>reply_owed input r hcond hr.1)
  ⟨initial_owed streamOutputs streams,hstart⟩ h
 exact hall.imp fun _ hr=>hr.2

instance (myId:BitVec 64) (r:Replies) : (input:Event×Env) → Decidable (Orderly myId input r)
 | (.receive _,_)=>inferInstanceAs (Decidable (_ ∧ _))
 | (.update _ _,_)=>inferInstanceAs (Decidable (∀i,i < _ → _))

theorem two_listeners_answered : Throughout (reply 1) Answered
  [(.receive (exampleCommand 0 20 1),exampleEnv),(.update 0 (exampleStreams 0),exampleEnv),
   (.receive (exampleCommand 0 30 2),exampleEnv),(.update 0 (exampleStreams 0),exampleEnv)]
  (.initial [exampleOutput] exampleStreams) :=
 listeners_answered 1 [exampleOutput] exampleStreams _ (by decide +kernel)

/-- The first listener's response is lost, a listener that is gone gets one, and an update without
an address loses one. -/
theorem listeners_not_answered : (¬Answered (run (reply 1)
  [(.receive (exampleCommand 0 20 1),exampleEnv),(.receive (exampleCommand 0 30 2),exampleEnv),
   (.update 0 (exampleStreams 0),exampleEnv)] (.initial [exampleOutput] exampleStreams))) ∧
 (¬Answered (run (reply 1)
  [(.receive (exampleCommand 0 20 1),exampleEnv),(.receive (exampleCommand 2 20 2),exampleEnv),
   (.update 0 (exampleStreams 0),exampleEnv)] (.initial [exampleOutput] exampleStreams))) ∧
 ¬Answered (run (reply 1)
  [(.receive (exampleCommand 0 20 1),exampleEnv),
   (.update 0 {exampleStreams 0 with destAddrSet:=false},exampleEnv),
   (.update 0 (exampleStreams 0),exampleEnv)] (.initial [exampleOutput] exampleStreams)) := by
 refine ⟨?_,?_,?_⟩
 · intro h
   have hfirst:=h.2 0 rfl 0 rfl ⟨20,0⟩ (by decide +kernel)
   revert hfirst
   decide +kernel
 · intro h
   have hstray:=h.1
   revert hstray
   decide +kernel
 · intro h
   have hfirst:=h.2 0 rfl 0 rfl ⟨20,0⟩ (by decide +kernel)
   revert hfirst
   decide +kernel

end OpenAvnu.AcmpTalker
