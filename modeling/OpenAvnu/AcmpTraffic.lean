import OpenAvnu.AcmpListener

/-! # The traffic of the ACMP listener -/

namespace OpenAvnu.AcmpListener

open Acmp OpenavbList List

variable {cfg:Config} {m:CommandResponse} {env:Env} {s:State}

def removeFirst (m:CommandResponse) (inflight:Nodes InflightCommand) : Nodes InflightCommand :=
 match inflight.find (sameExchange m) with
 | some node=>openavbListDelete inflight node
 | none=>inflight
def markFirst (m:CommandResponse) (timer:Nat) (inflight:Nodes InflightCommand) : Nodes InflightCommand :=
 match inflight.find (sameExchange m) with
 | some node=>inflight.write node fun f=>{f with retried:=true,timer:=timer}
 | none=>inflight

def newEntry (messageType:UInt8) (command:CommandResponse) (env:Env) : InflightCommand :=
 ⟨env.clock+commandTimeout messageType,false,{command with messageType:=messageType},command.sequenceId⟩
@[simp] lemma removeInflight_inflight (m:CommandResponse) (s:State) :
 (removeInflight m s).inflight=removeFirst m s.inflight := by
 simp only[removeInflight,removeFirst,findInflightNodeFromCommand]
 cases s.inflight.find (sameExchange m)<;>rfl
@[simp] lemma removeInflight_sent (m:CommandResponse) (s:State) : (removeInflight m s).sent=s.sent := by
 rw[removeInflight]
 split<;>rfl

variable (messageType:UInt8)

section
variable (m:CommandResponse)

lemma txCommand_new (hsend:env.sendOk=true) : (txCommand messageType m false env s).inflight=
  openavbListNew s.inflight (newEntry messageType m env) ∧
  (txCommand messageType m false env s).sent=s.sent++[⟨messageType,m,statusSuccess⟩] := by
 simp[txCommand,hsend,newEntry]
lemma txCommand_new_failed (hsend:env.sendOk=false) : txCommand messageType m false env s=
  txResponse (messageType+1) m statusCouldNotSendMessage s := by
 simp[txCommand,hsend]
lemma txCommand_retry (hsend:env.sendOk=true) : (txCommand messageType m true env s).inflight=
  markFirst m (env.clock+commandTimeout messageType) s.inflight ∧
  (txCommand messageType m true env s).sent=s.sent++[⟨messageType,m,statusSuccess⟩] := by
 simp only[txCommand,hsend,markFirst,findInflightNodeFromCommand]
 cases s.inflight.find (sameExchange m)<;>exact ⟨rfl,rfl⟩
lemma txCommand_retry_failed (hsend:env.sendOk=false) : txCommand messageType m true env s=
  removeInflight m (txResponse (messageType+1) m statusCouldNotSendMessage s) := by
 simp[txCommand,hsend]

end

def stops (m:CommandResponse) (env:Env) (s:State) : Prop := validListenerUnique m.listenerUniqueId s=true ∧
  m.listenerUniqueId.toNat<s.listenerStreamInfos.length ∧ env.stopListener=true
def accepted (m:CommandResponse) (s:State) : Prop :=
 validListenerUnique m.listenerUniqueId s=true ∧ listenerIsConnected m s=false
def passedOn : Receiver → Option UInt8
 | .listenerConnectRXCmd=>some connectTxCommand
 | .listenerDisconnectRXCmd=>some disconnectTxCommand
 | _=>none

/-- A fast connect is given up without a message to a controller. -/
def quietly (f:InflightCommand) : Bool :=
 decide (f.command.messageType=connectTxCommand ∧ f.command.flags &&& flagFastConnect≠0)

inductive Traffic (cfg:Config) (env:Env) (s:State) : Event → Nodes InflightCommand → List Sent → Prop
 | quiet (m:CommandResponse) : Traffic cfg env s (.receive m) s.inflight s.sent
 | put (m:CommandResponse) {kind:Receiver} {messageType:UInt8}
  (hmine:m.listenerEntityId=cfg.myId) (hkind:dispatch m.messageType=some kind)
  (htype:passedOn kind=some messageType) :
  Traffic cfg env s (.receive m) (openavbListNew s.inflight (newEntry messageType m env))
   (s.sent++[⟨messageType,m,statusSuccess⟩])
 | replied (m r:CommandResponse) (status:UInt8) {kind:Receiver}
  (hmine:m.listenerEntityId=cfg.myId) (hkind:dispatch m.messageType=some kind)
  (hcommand:kind=.listenerDisconnectRXCmd ∨ kind=.listenerGetRXState)
  (hcontroller:r.controllerEntityId=m.controllerEntityId)
  (hsequence:r.sequenceId=m.sequenceId) :
  Traffic cfg env s (.receive m) s.inflight (s.sent++[⟨m.messageType+1,r,status⟩])
 | refused (m:CommandResponse) (messageType status:UInt8)
  (hmine:m.listenerEntityId=cfg.myId)
  (hwrong:dispatch m.messageType=some .listenerConnectRXCmd ∧
   ¬(accepted m s ∧ env.sendOk=true) ∧ messageType=connectTxResponse ∨
   dispatch m.messageType=some .listenerDisconnectRXCmd ∧ stops m env s ∧
    env.sendOk=false ∧ messageType=disconnectTxResponse) :
  Traffic cfg env s (.receive m) s.inflight (s.sent++[⟨messageType,m,status⟩])
 | answered (m r:CommandResponse) (status:UInt8)
  (hmine:m.listenerEntityId=cfg.myId)
  (hkind:dispatch m.messageType=some .listenerConnectTXResp ∨
   dispatch m.messageType=some .listenerDisconnectTXResp)
  (hvalid:validListenerUnique m.listenerUniqueId s=true)
  (hcontroller:r.controllerEntityId=m.controllerEntityId)
  (hsequence:r.sequenceId=answeredSequenceId m s) : Traffic cfg env s (.receive m) (removeFirst m s.inflight)
   (s.sent++[⟨m.messageType+6,r,status⟩])
 | idle (h:timedOut env s=none) : Traffic cfg env s .expire s.inflight s.sent
 | retried {node:Nat} {f:InflightCommand} (hnode:timedOut env s=some node)
  (hentry:(node,f)∈s.inflight.entries) (hfirst:f.retried=false)
  (htype:f.command.messageType=connectTxCommand ∨
   f.command.messageType=disconnectTxCommand) (hsend:env.sendOk=true) : Traffic cfg env s .expire
   (markFirst f.command (env.clock+commandTimeout f.command.messageType) s.inflight)
   (s.sent++[⟨f.command.messageType,f.command,statusSuccess⟩])
 | retryFailed {node:Nat} {f:InflightCommand} (hnode:timedOut env s=some node)
  (hentry:(node,f)∈s.inflight.entries) (hfirst:f.retried=false)
  (hsend:env.sendOk=false) : Traffic cfg env s .expire (removeFirst f.command s.inflight)
   (s.sent++[⟨f.command.messageType+1,f.command,statusCouldNotSendMessage⟩])
 | gaveUp {node:Nat} {f:InflightCommand} (hnode:timedOut env s=some node)
  (hentry:(node,f)∈s.inflight.entries) (hsecond:f.retried=true)
  (hcontroller:quietly f=false) : Traffic cfg env s .expire (removeFirst f.command s.inflight)
   (s.sent++[⟨f.command.messageType+7,
    {f.command with sequenceId := f.originalSequenceId},statusListenerTalkerTimeout⟩])
 | gaveUpQuietly {node:Nat} {f:InflightCommand} (hnode:timedOut env s=some node)
  (hentry:(node,f)∈s.inflight.entries) (hsecond:f.retried=true) :
  Traffic cfg env s .expire (removeFirst f.command s.inflight) s.sent
 | stopped {node:Nat} {f:InflightCommand} (hnode:timedOut env s=some node)
  (hentry:(node,f)∈s.inflight.entries)
  (htype:¬(f.command.messageType=connectTxCommand ∨
   f.command.messageType=disconnectTxCommand)) : Traffic cfg env s .expire s.inflight s.sent

lemma connectRxCommandState_traffic (hmine:m.listenerEntityId=cfg.myId)
 (hkind:dispatch m.messageType=some .listenerConnectRXCmd) :
 Traffic cfg env s (.receive m) (connectRxCommandState m env s).inflight
  (connectRxCommandState m env s).sent := by
 by_cases haccepted:accepted m s
 · have hstate:connectRxCommandState m env s=txCommand connectTxCommand m false env s:=by
    simp[connectRxCommandState,haccepted.1,haccepted.2]
   rw[hstate]
   cases hsend:env.sendOk with
   | true=>
    obtain ⟨hinflight,hsent⟩:=txCommand_new (s:=s) connectTxCommand m hsend
    rw[hinflight,hsent]
    exact .put m hmine hkind rfl
   | false=>
    rw[txCommand_new_failed connectTxCommand m hsend]
    exact .refused m _ _ hmine (.inl ⟨hkind,by simp[hsend],rfl⟩)
 · have hrefused:¬(accepted m s ∧ env.sendOk=true):=fun h=>haccepted h.1
   rw[connectRxCommandState]
   split_ifs with hvalid hconnected
   · exact absurd ⟨hvalid,by simpa using hconnected⟩ haccepted
   · exact .refused m _ _ hmine (.inl ⟨hkind,hrefused,rfl⟩)
   · exact .refused m _ _ hmine (.inl ⟨hkind,hrefused,rfl⟩)

lemma disconnectListener_traffic (m:CommandResponse) (env:Env) (s:State) :
 (disconnectListener m env s).1.inflight=s.inflight ∧
  (disconnectListener m env s).1.sent=s.sent := by
 rw[disconnectListener]
 split
 · exact ⟨rfl,rfl⟩
 · exact ⟨rfl,rfl⟩

lemma disconnectListener_success_iff (hvalid:validListenerUnique m.listenerUniqueId s=true) :
 (disconnectListener m env s).2=statusSuccess↔stops m env s := by
 rw[disconnectListener]
 by_cases h:m.listenerUniqueId.toNat<s.listenerStreamInfos.length
 · cases hstop:env.stopListener <;>
    simp[h,hvalid,hstop,stops,statusSuccess,statusListenerMisbehaving]
 · simp[h,stops,statusSuccess,statusListenerUnknownId]

lemma connectListener_traffic (m:CommandResponse) (env:Env) (s:State) :
 (connectListener m env s).1.inflight=s.inflight ∧
  (connectListener m env s).1.sent=s.sent := by
 rw[connectListener]
 split
 · exact ⟨rfl,rfl⟩
 · exact ⟨rfl,rfl⟩

lemma messageType_of_dispatch {t:UInt8} {kind:Receiver} (h:dispatch t=some kind) :
 match kind with
 | .listenerConnectTXResp=>t=1
 | .listenerDisconnectTXResp=>t=3
 | .listenerConnectRXCmd=>t=6
 | .listenerDisconnectRXCmd=>t=8
 | .listenerGetRXState=>t=10
 | _=>True := by
 rw[dispatch] at h
 split at h<;>cases h
 all_goals first | trivial | exact UInt8.toNat_inj.1 (by assumption)

lemma disconnectRxCommandState_traffic (hmine:m.listenerEntityId=cfg.myId)
 (hkind:dispatch m.messageType=some .listenerDisconnectRXCmd) :
 Traffic cfg env s (.receive m) (disconnectRxCommandState cfg m env s).inflight
  (disconnectRxCommandState cfg m env s).sent := by
 have htype:disconnectRxResponse=m.messageType+1:=by
  rw[show m.messageType=8 from messageType_of_dispatch hkind]
  rfl
 rw[disconnectRxCommandState]
 cases hinput:s.streamInputs[m.listenerUniqueId.toNat]? with
 | none=>
  simp only[htype]
  exact .replied m m _ hmine hkind (.inl rfl) rfl rfl
 | some input=>
  have hvalid:validListenerUnique m.listenerUniqueId s=true:=by
   rw[validListenerUnique,hinput]
   rfl
  obtain ⟨hinflight,hsent⟩:=disconnectListener_traffic m env s
  by_cases hstops:stops m env s
  · have hstatus:=(disconnectListener_success_iff hvalid).2 hstops
    simp only[if_pos hstatus]
    cases hsend:env.sendOk with
    | true=>
     obtain ⟨hnew,hlog⟩:=
      txCommand_new (s:=(disconnectListener m env s).1) disconnectTxCommand m hsend
     rw[hnew,hlog,hinflight,hsent]
     exact .put m hmine hkind rfl
    | false=>
     rw[txCommand_new_failed disconnectTxCommand m hsend]
     simp only[txResponse,hinflight,hsent]
     exact .refused m _ _ hmine (.inr ⟨hkind,hstops,hsend,rfl⟩)
  · have hstatus:=fun h=>hstops ((disconnectListener_success_iff hvalid).1 h)
    simp only[if_neg hstatus,txResponse,hinflight,hsent,htype]
    exact .replied m m _ hmine hkind (.inl rfl) rfl rfl

lemma getState_ids (m:CommandResponse) (s:State) : (getState m s).1.controllerEntityId=m.controllerEntityId ∧
  (getState m s).1.sequenceId=m.sequenceId := by
 rw[getState]
 split<;>exact ⟨rfl,rfl⟩

section
variable (hmine:m.listenerEntityId=cfg.myId)
include hmine

lemma getStateState_traffic
 (hkind:dispatch m.messageType=some .listenerGetRXState) :
 Traffic cfg env s (.receive m) (getStateState m s).inflight (getStateState m s).sent := by
 have htype:getRxStateResponse=m.messageType+1:=by
  rw[show m.messageType=10 from messageType_of_dispatch hkind]
  rfl
 obtain ⟨hcontroller,hsequence⟩:=getState_ids m s
 rw[getStateState]
 split_ifs
 · simp only[htype]
   exact .replied m _ _ hmine hkind (.inr rfl) hcontroller hsequence
 · simp only[htype]
   exact .replied m m _ hmine hkind (.inr rfl) rfl rfl

lemma connectTxResponseState_traffic
 (hkind:dispatch m.messageType=some .listenerConnectTXResp) :
 Traffic cfg env s (.receive m) (connectTxResponseState cfg m env s).inflight
  (connectTxResponseState cfg m env s).sent := by
 have htype:connectRxResponse=m.messageType+6:=by
  rw[show m.messageType=1 from messageType_of_dispatch hkind]
  rfl
 rw[connectTxResponseState]
 cases hinput:s.streamInputs[m.listenerUniqueId.toNat]? with
 | none=>exact .quiet m
 | some input=>
  have hvalid:validListenerUnique m.listenerUniqueId s=true:=by
   rw[validListenerUnique,hinput]
   rfl
  obtain ⟨hinflight,hsent⟩:=connectListener_traffic m env s
  simp only[txResponse,removeInflight_inflight,removeInflight_sent,htype]
  by_cases hstatus:m.status=statusSuccess
  · simp only[if_pos hstatus,hinflight,hsent]
    refine .answered m _ _ hmine (.inl hkind) hvalid rfl ?_
    simp only[answeredSequenceId,findInflightNodeFromCommand]
  · simp only[if_neg hstatus]
    exact .answered m _ _ hmine (.inl hkind) hvalid rfl rfl

lemma disconnectTxResponseState_traffic
 (hkind:dispatch m.messageType=some .listenerDisconnectTXResp) :
 Traffic cfg env s (.receive m) (disconnectTxResponseState m s).inflight
  (disconnectTxResponseState m s).sent := by
 have htype:disconnectRxResponse=m.messageType+6:=by
  rw[show m.messageType=3 from messageType_of_dispatch hkind]
  rfl
 rw[disconnectTxResponseState]
 split_ifs with hvalid
 · simp only[txResponse,removeInflight_inflight,removeInflight_sent,htype]
   exact .answered m _ _ hmine (.inr hkind) hvalid rfl rfl
 · exact .quiet m

end

lemma receive_traffic (cfg:Config) (m:CommandResponse) (env:Env) (s:State) :
 Traffic cfg env s (.receive m) (receive cfg m env s).inflight (receive cfg m env s).sent := by
 rw[receive]
 split_ifs with hmine
 · cases hkind:dispatch m.messageType with
   | none=>exact .quiet m
   | some kind=>
    cases kind with
    | listenerConnectRXCmd=>exact connectRxCommandState_traffic hmine hkind
    | listenerConnectTXResp=>exact connectTxResponseState_traffic hmine hkind
    | listenerGetRXState=>exact getStateState_traffic hmine hkind
    | listenerDisconnectRXCmd=>exact disconnectRxCommandState_traffic hmine hkind
    | listenerDisconnectTXResp=>exact disconnectTxResponseState_traffic hmine hkind
    | _=>exact .quiet m
 · exact .quiet m

lemma retry_traffic (cfg:Config) {node:Nat} {f:InflightCommand}
 (hnode:timedOut env s=some node) (hentry:(node,f)∈s.inflight.entries)
 (hfirst:f.retried=false)
 (htype:f.command.messageType=connectTxCommand ∨
  f.command.messageType=disconnectTxCommand) :
 Traffic cfg env s .expire (txCommand f.command.messageType f.command true env s).inflight
  (txCommand f.command.messageType f.command true env s).sent := by
 cases hsend:env.sendOk with
 | true=>
  obtain ⟨hinflight,hsent⟩:=txCommand_retry (s:=s) f.command.messageType f.command hsend
  rw[hinflight,hsent]
  exact .retried hnode hentry hfirst htype hsend
 | false=>
  rw[txCommand_retry_failed _ _ hsend,removeInflight_inflight,removeInflight_sent]
  exact .retryFailed hnode hentry hfirst hsend

lemma expire_traffic (cfg:Config) (env:Env) (s:State) :
 Traffic cfg env s .expire (expire env s).inflight (expire env s).sent := by
 rw[expire]
 cases hnode:timedOut env s with
 | none=>exact .idle hnode
 | some node=>
  obtain ⟨f,hentry,-⟩:=find_some hnode
  simp only[Option.bind_some,data_of_mem hentry]
  by_cases hconnect:f.command.messageType=connectTxCommand
  · rw[if_pos hconnect,connectTxTimeoutState]
    cases hretried:f.retried with
    | false=>
     have hretry:=retry_traffic cfg hnode hentry hretried (.inl hconnect)
     rwa[hconnect] at hretry
    | true=>
     by_cases hfast:f.command.flags &&& flagFastConnect≠0
     · simp only[if_true,if_pos hfast,removeInflight_inflight,removeInflight_sent]
       exact .gaveUpQuietly hnode hentry hretried
     · have htype:connectRxResponse=f.command.messageType+7:=by
        rw[hconnect]
        rfl
       simp only[if_true,if_neg hfast,removeInflight_inflight,removeInflight_sent,htype]
       exact .gaveUp hnode hentry hretried (decide_eq_false fun h=>hfast h.2)
  · split_ifs with hdisconnect
    · rw[disconnectTxTimeoutState]
      cases hretried:f.retried with
      | false=>
       have hretry:=retry_traffic cfg hnode hentry hretried (.inr hdisconnect)
       rwa[hdisconnect] at hretry
      | true=>
       have htype:disconnectRxResponse=f.command.messageType+7:=by
        rw[hdisconnect]
        rfl
       simp only[if_true,removeInflight_inflight,removeInflight_sent,htype]
       exact .gaveUp hnode hentry hretried (decide_eq_false fun h=>hconnect h.1)
    · exact .stopped hnode hentry fun h=>h.elim hconnect hdisconnect

lemma step_traffic (cfg:Config) (event:Event) (env:Env) (hwaiting:s.control=.waiting) :
 Traffic cfg env s event (step cfg (event,env) s).inflight (step cfg (event,env) s).sent := by
 rw[step,hwaiting]
 cases event with
 | receive m=>exact receive_traffic cfg m env s
 | expire=>exact expire_traffic cfg env s

section Entries
variable {inflight:Nodes InflightCommand} {node p:Nat} {f:InflightCommand}

lemma mem_removeFirst (h:(p,f)∈(removeFirst m inflight).entries) : (p,f)∈inflight.entries := by
 rw[removeFirst] at h
 cases hfind:inflight.find (sameExchange m) with
 | none=>
  rw[hfind] at h
  exact h
 | some node=>
  simp only[hfind,entries_delete] at h
  exact (mem_filter.1 h).1

lemma removeFirst_entries (hfind:inflight.find (sameExchange m)=some node) :
 (removeFirst m inflight).entries=inflight.entries.filter fun e=>decide (e.1≠node) := by
 simp[removeFirst,hfind]
lemma ne_of_mem_removeFirst (hfind:inflight.find (sameExchange m)=some node)
 (h:(p,f)∈(removeFirst m inflight).entries) : p≠node := by
 rw[removeFirst_entries hfind,mem_filter] at h
 simpa using h.2

lemma mem_removeFirst_of_ne (h:(p,f)∈inflight.entries)
 (hne:inflight.find (sameExchange m)≠some p) : (p,f)∈(removeFirst m inflight).entries := by
 rw[removeFirst]
 cases hfind:inflight.find (sameExchange m) with
 | none=>exact h
 | some node=>
  simp only[entries_delete,mem_filter,decide_eq_true_eq]
  refine ⟨h,fun heq=>hne ?_⟩
  rw[hfind,←heq]

lemma next_removeFirst (m:CommandResponse) (inflight:Nodes InflightCommand) :
 (removeFirst m inflight).raw.next=inflight.raw.next := by
 rw[removeFirst]
 split
 · exact next_delete ..
 · rfl

lemma next_markFirst (m:CommandResponse) (timer:Nat) (inflight:Nodes InflightCommand) :
 (markFirst m timer inflight).raw.next=inflight.raw.next := by
 rw[markFirst]
 split<;>rfl

end Entries

end OpenAvnu.AcmpListener
