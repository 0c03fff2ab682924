import OpenAvnu.AcmpListener

/-!
# Bindings of the ACMP listener

Which events connect, rebind and disconnect a stream input.
-/

namespace OpenAvnu.AcmpListener

open Acmp OpenavbList Runs List Option

variable {cfg:Config} {m:CommandResponse} {env:Env} {s:State} (messageType:UInt8)
 {input:Event×Env}

@[simp] lemma txResponse_infos (r:CommandResponse) (error:UInt8) (s:State) :
 (txResponse messageType r error s).listenerStreamInfos=s.listenerStreamInfos := rfl

section
variable (m:CommandResponse)

@[simp] lemma removeInflight_infos (s:State) :
 (removeInflight m s).listenerStreamInfos=s.listenerStreamInfos := by
 rw[removeInflight]
 split<;>rfl

@[simp] lemma txCommand_infos (retry:Bool) (env:Env) (s:State) :
 (txCommand messageType m retry env s).listenerStreamInfos=s.listenerStreamInfos := by
 simp only[txCommand]
 split_ifs
 · split<;>rfl
 · rfl
 · rw[removeInflight_infos]
   rfl
 · rfl

lemma connectListener_infos (env:Env) (s:State) : (connectListener m env s).1.listenerStreamInfos=
  s.listenerStreamInfos.set m.listenerUniqueId.toNat (connectedInfo m) := by
 rw[connectListener]
 split
 · rfl
 · rw[set_eq_of_length_le (by omega)]

lemma disconnectListener_infos (env:Env) (s:State) : (disconnectListener m env s).1.listenerStreamInfos=
  s.listenerStreamInfos.set m.listenerUniqueId.toNat .zero := by
 rw[disconnectListener]
 split
 · rfl
 · rw[set_eq_of_length_le (by omega)]

end

def written (cfg:Config) (m:CommandResponse) (s:State) : Option (Nat×ListenerStreamInfo) :=
 if m.listenerEntityId=cfg.myId ∧ validListenerUnique m.listenerUniqueId s then
  match dispatch m.messageType with
  | some .listenerConnectTXResp=>
   if m.status=statusSuccess then some (m.listenerUniqueId.toNat,connectedInfo m) else none
  | some .listenerDisconnectRXCmd=>some (m.listenerUniqueId.toNat,.zero)
  | _=>none
 else none

def assign (infos:List ListenerStreamInfo) : Option (Nat×ListenerStreamInfo) →
 List ListenerStreamInfo
 | none=>infos
 | some (i,info)=>infos.set i info

section
variable (cfg:Config) (m:CommandResponse) (env:Env) (s:State)

lemma connectTxResponseState_infos : (connectTxResponseState cfg m env s).listenerStreamInfos=
  if validListenerUnique m.listenerUniqueId s ∧ m.status=statusSuccess then
   s.listenerStreamInfos.set m.listenerUniqueId.toNat (connectedInfo m)
  else s.listenerStreamInfos := by
 rw[connectTxResponseState,validListenerUnique]
 cases s.streamInputs[m.listenerUniqueId.toNat]? with
 | none=>simp
 | some input=>
  simp only[txResponse_infos,removeInflight_infos,isSome_some,true_and]
  split_ifs with hstatus
  · exact connectListener_infos m env s
  · rfl

lemma disconnectRxCommandState_infos
 : (disconnectRxCommandState cfg m env s).listenerStreamInfos=
  if validListenerUnique m.listenerUniqueId s then
   s.listenerStreamInfos.set m.listenerUniqueId.toNat .zero
  else s.listenerStreamInfos := by
 rw[disconnectRxCommandState,validListenerUnique]
 cases s.streamInputs[m.listenerUniqueId.toNat]? with
 | none=>simp
 | some input=>
  simp only[isSome_some]
  split_ifs
  · rw[txCommand_infos]
    exact disconnectListener_infos m env s
  · exact disconnectListener_infos m env s

lemma receive_infos :
 (receive cfg m env s).listenerStreamInfos=assign s.listenerStreamInfos (written cfg m s) := by
 rw[receive,written]
 by_cases hmine:m.listenerEntityId=cfg.myId
 · rw[if_pos hmine]
   cases hkind:dispatch m.messageType with
   | none=>simp[assign]
   | some kind=>
    cases kind with
    | listenerConnectTXResp=>
     simp only[connectTxResponseState_infos,hmine]
     by_cases hvalid:validListenerUnique m.listenerUniqueId s=true
     · by_cases hstatus:m.status=statusSuccess
       · simp[hvalid,hstatus,assign]
       · simp[hstatus,assign]
     · simp[hvalid,assign]
    | listenerDisconnectRXCmd=>
     simp only[disconnectRxCommandState_infos,hmine,true_and]
     split_ifs<;>rfl
    | listenerConnectRXCmd=>
     simp only[connectRxCommandState,ite_self]
     split_ifs
     · exact txCommand_infos ..
     · rfl
     · rfl
    | listenerGetRXState=>simp[getStateState,assign]
    | listenerDisconnectTXResp=>
     simp only[disconnectTxResponseState,ite_self]
     split_ifs
     · simp[assign]
     · rfl
    | _=>simp[assign]
 · rw[if_neg hmine,if_neg fun h=>hmine h.1]
   rfl

end

lemma expire_infos (env:Env) (s:State) : (expire env s).listenerStreamInfos=s.listenerStreamInfos := by
 rw[expire]
 cases (timedOut env s).bind (openavbListData s.inflight) with
 | none=>rfl
 | some f=>
  simp only[connectTxTimeoutState,disconnectTxTimeoutState]
  split_ifs
  all_goals simp

lemma step_receive_infos (hwaiting:s.control=.waiting) :
 (step cfg (.receive m,env) s).listenerStreamInfos=assign s.listenerStreamInfos (written cfg m s) := by
 rw[step,hwaiting]
 exact receive_infos cfg m env s

lemma step_expire_infos (cfg:Config) (env:Env) (s:State) :
 (step cfg (.expire,env) s).listenerStreamInfos=s.listenerStreamInfos := by
 rw[step]
 cases s.control with
 | waiting=>exact expire_infos env s
 | spinning=>rfl
 | stopped=>rfl

lemma step_of_not_waiting (h:s.control ≠ .waiting) : step cfg input s=s := by
 rw[step]
 cases hcontrol:s.control with
 | waiting=>exact absurd hcontrol h
 | spinning=>rfl
 | stopped=>rfl

def boundTo (s:State) (i:Nat) (talker:BitVec 64×UInt16) : Bool := (s.listenerStreamInfos[i]?).any fun info=>
  info.connected&&decide ((info.talkerEntityId,info.talkerUniqueId)=talker)
def isConnected (s:State) (i:Nat) : Bool := (s.listenerStreamInfos[i]?).any fun info=>
 info.connected
def namedTalker (m:CommandResponse) : BitVec 64×UInt16 := (m.talkerEntityId,m.talkerUniqueId)
def answers (m:CommandResponse) (f:InflightCommand) : Bool := decide (m.messageType=f.command.messageType+1 ∧
  m.talkerEntityId=f.command.talkerEntityId ∧ m.talkerUniqueId=f.command.talkerUniqueId ∧
  m.listenerUniqueId=f.command.listenerUniqueId ∧
  m.controllerEntityId=f.command.controllerEntityId ∧ m.sequenceId=f.command.sequenceId)
def isFor (cfg:Config) (kind:Receiver) (i:Nat) (m:CommandResponse) : Prop :=
 m.listenerEntityId=cfg.myId ∧ dispatch m.messageType=some kind ∧ m.listenerUniqueId.toNat=i

/-- A stream input stays bound but for a DISCONNECT_RX_COMMAND of its talker, and only responses to
commands in flight connect one. -/
structure Exclusive (cfg:Config) (input:Event×Env) (s:State) : Prop where
 stays:∀i talker,boundTo s i talker → boundTo (step cfg input s) i talker ∨
  ∃m,input.1=.receive m ∧ isFor cfg .listenerDisconnectRXCmd i m ∧
   namedTalker m=talker
 begins:∀i,¬isConnected s i → isConnected (step cfg input s) i →
  ∃m,input.1=.receive m ∧ isFor cfg .listenerConnectTXResp i m ∧
   ∃f∈s.inflight.toList,answers m f

/-- A successful CONNECT_TX_RESPONSE is from the stream input's talker or answers a command in
flight; a DISCONNECT_RX_COMMAND names its talker. -/
def Guarded (cfg:Config) (input:Event×Env) (s:State) : Prop :=
 match input.1 with
 | .receive m=>s.control=.waiting → m.listenerEntityId=cfg.myId →
  ∀info,s.listenerStreamInfos[m.listenerUniqueId.toNat]? = some info →
   validListenerUnique m.listenerUniqueId s →
   (dispatch m.messageType=some .listenerConnectTXResp → m.status=statusSuccess →
    if info.connected then (info.talkerEntityId,info.talkerUniqueId)=namedTalker m
    else ∃f∈s.inflight.toList,answers m f) ∧
   (dispatch m.messageType=some .listenerDisconnectRXCmd → info.connected →
    (info.talkerEntityId,info.talkerUniqueId)=namedTalker m)
 | .expire=>True

lemma exclusive_of_same (h:(step cfg input s).listenerStreamInfos=s.listenerStreamInfos) :
 Exclusive cfg input s := by
 constructor
 · intro i talker hbound
   left
   rwa[boundTo,h]
 · intro i hnot hconnected
   rw[isConnected,h] at hconnected
   exact absurd hconnected hnot

variable {info:ListenerStreamInfo}

lemma infos_set {infos:List ListenerStreamInfo} {i:Nat} (hinfo:infos[i]? = some info)
 (new:ListenerStreamInfo) (j:Nat) : (infos.set i new)[j]? = if i=j then some new else infos[j]? := by
 have hlt:i < infos.length:=(List.getElem?_eq_some_iff.1 hinfo).1
 rw[getElem?_set]
 split_ifs<;>rfl

lemma exclusive_set_iff {i:Nat} {new:ListenerStreamInfo}
 (hinfo:s.listenerStreamInfos[i]? = some info)
 (hstep:(step cfg input s).listenerStreamInfos=s.listenerStreamInfos.set i new) : Exclusive cfg input s ↔
  (info.connected → (new.connected ∧ new.talkerEntityId=info.talkerEntityId ∧
    new.talkerUniqueId=info.talkerUniqueId) ∨
   ∃m,input.1=.receive m ∧ isFor cfg .listenerDisconnectRXCmd i m ∧
    namedTalker m=(info.talkerEntityId,info.talkerUniqueId)) ∧
  (¬info.connected → new.connected →
   ∃m,input.1=.receive m ∧ isFor cfg .listenerConnectTXResp i m ∧
    ∃f∈s.inflight.toList,answers m f) := by
 have hafter:∀j:Nat,(step cfg input s).listenerStreamInfos[j]?=
  if i=j then some new else s.listenerStreamInfos[j]?:=by
  intro j
  rw[hstep,infos_set hinfo]
 constructor
 · intro h
   refine ⟨fun hconnected=>?_,fun hfree hnow=>h.begins i ?_ ?_⟩
   · have hstays:=h.stays i (info.talkerEntityId,info.talkerUniqueId)
      (by simp[boundTo,hinfo,hconnected])
     rw[boundTo,hafter,if_pos rfl] at hstays
     simpa using hstays
   · simpa[isConnected,hinfo] using hfree
   · rwa[isConnected,hafter,if_pos rfl]
 · rintro ⟨hstays,hbegins⟩
   constructor
   · intro j talker hbound
     rw[boundTo,hafter]
     by_cases hi:i=j
     · subst hi
       simp only[boundTo,hinfo,any_some,Bool.and_eq_true,decide_eq_true_eq] at hbound
       obtain ⟨hconnected,rfl⟩:=hbound
       simpa using hstays hconnected
     · left
       rwa[if_neg hi]
   · intro j hnot hnow
     rw[isConnected,hafter] at hnow
     by_cases hi:i=j
     · subst hi
       rw[if_pos rfl] at hnow
       rw[isConnected,hinfo] at hnot
       exact hbegins hnot hnow
     · rw[if_neg hi] at hnow
       exact absurd hnow hnot

lemma exclusive_connect_iff (hfor:isFor cfg .listenerConnectTXResp m.listenerUniqueId.toNat m)
 (hinfo:s.listenerStreamInfos[m.listenerUniqueId.toNat]? = some info)
 (hstep:(step cfg (.receive m,env) s).listenerStreamInfos=
  s.listenerStreamInfos.set m.listenerUniqueId.toNat (connectedInfo m)) : Exclusive cfg (.receive m,env) s ↔
  if info.connected then (info.talkerEntityId,info.talkerUniqueId)=namedTalker m
  else ∃f∈s.inflight.toList,answers m f := by
 rw[exclusive_set_iff hinfo hstep]
 cases info.connected with
 | true=>
  have hother:¬isFor cfg .listenerDisconnectRXCmd m.listenerUniqueId.toNat m:=by
   simp[isFor,hfor.2.1]
  simp only[connectedInfo,Event.receive.injEq,exists_eq_left',hother,namedTalker,Prod.mk.injEq,
   true_and,false_and,or_false,true_imp_iff,not_true,false_imp_iff,and_true,if_true]
  exact and_congr eq_comm eq_comm
 | false=>simp[connectedInfo,hfor]

lemma exclusive_disconnect_iff
 (hfor:isFor cfg .listenerDisconnectRXCmd m.listenerUniqueId.toNat m)
 (hinfo:s.listenerStreamInfos[m.listenerUniqueId.toNat]? = some info)
 (hstep:(step cfg (.receive m,env) s).listenerStreamInfos=
  s.listenerStreamInfos.set m.listenerUniqueId.toNat .zero) : Exclusive cfg (.receive m,env) s ↔
  (info.connected → (info.talkerEntityId,info.talkerUniqueId)=namedTalker m) := by
 rw[exclusive_set_iff hinfo hstep]
 simp only[ListenerStreamInfo.zero,Event.receive.injEq,exists_eq_left',hfor,true_and,
  Bool.false_eq_true,false_and,false_or,false_imp_iff,imp_true_iff,and_true]
 exact imp_congr_right fun _=>eq_comm

lemma assign_absent (h:s.listenerStreamInfos[m.listenerUniqueId.toNat]? = none) :
 assign s.listenerStreamInfos (written cfg m s)=s.listenerStreamInfos := by
 have hset:∀info,s.listenerStreamInfos.set m.listenerUniqueId.toNat info=s.listenerStreamInfos:=fun info=>
  set_eq_of_length_le (List.getElem?_eq_none_iff.1 h)
 rw[written]
 split_ifs
 · split
   · exact hset _
   · exact hset _
   · rfl
 · split
   · rfl
   · exact hset _
   · rfl
 · rfl

lemma exclusive_iff_guarded (cfg:Config) (input:Event×Env) (s:State) :
 Exclusive cfg input s↔Guarded cfg input s := by
 obtain ⟨event,env⟩:=input
 cases event with
 | expire=>exact iff_of_true (exclusive_of_same (step_expire_infos cfg env s)) trivial
 | receive m=>
  by_cases hwaiting:s.control=.waiting
  swap
  · have hsame:(step cfg (.receive m,env) s).listenerStreamInfos=s.listenerStreamInfos:=by
     rw[step_of_not_waiting hwaiting]
    exact iff_of_true (exclusive_of_same hsame) fun h=>absurd h hwaiting
  have hstep:(step cfg (.receive m,env) s).listenerStreamInfos=_:=
   step_receive_infos hwaiting
  cases hinfo:s.listenerStreamInfos[m.listenerUniqueId.toNat]? with
  | none=>
   rw[assign_absent hinfo] at hstep
   refine iff_of_true (exclusive_of_same hstep) ?_
   intro _ _ info hsome
   rw[hinfo] at hsome
   cases hsome
  | some info=>
   by_cases hours:m.listenerEntityId=cfg.myId ∧ validListenerUnique m.listenerUniqueId s
   swap
   · rw[written,if_neg hours] at hstep
     exact iff_of_true (exclusive_of_same hstep) fun _ hmine _ _ hvalid=>
      absurd ⟨hmine,hvalid⟩ hours
   rw[written,if_pos hours] at hstep
   have hguard:Guarded cfg (.receive m,env) s ↔
    (dispatch m.messageType=some .listenerConnectTXResp → m.status=statusSuccess →
     if info.connected then (info.talkerEntityId,info.talkerUniqueId)=namedTalker m
     else ∃f∈s.inflight.toList,answers m f) ∧
    (dispatch m.messageType=some .listenerDisconnectRXCmd → info.connected →
     (info.talkerEntityId,info.talkerUniqueId)=namedTalker m):=by
    simp[Guarded,hinfo,hwaiting,hours.1,hours.2]
   rw[hguard]
   by_cases hconnect:dispatch m.messageType=some .listenerConnectTXResp
   · simp only[hconnect,true_imp_iff,some.injEq,reduceCtorEq,false_imp_iff,and_true] at hstep ⊢
     split_ifs at hstep with hstatus
     · simp only[hstatus,true_imp_iff]
       exact exclusive_connect_iff ⟨hours.1,hconnect,rfl⟩ hinfo hstep
     · exact iff_of_true (exclusive_of_same hstep) fun h=>absurd h hstatus
   · by_cases hdisconnect:dispatch m.messageType=some .listenerDisconnectRXCmd
     · simp only[hdisconnect,true_imp_iff,some.injEq,reduceCtorEq,false_imp_iff,true_and] at hstep ⊢
       exact exclusive_disconnect_iff ⟨hours.1,hdisconnect,rfl⟩ hinfo hstep
     · have hsame:(step cfg (.receive m,env) s).listenerStreamInfos=s.listenerStreamInfos:=by
        rw[hstep]
        split
        · exact absurd (by assumption) hconnect
        · exact absurd (by assumption) hdisconnect
        · rfl
       exact iff_of_true (exclusive_of_same hsame)
        ⟨fun h=>absurd h hconnect,fun h=>absurd h hdisconnect⟩

theorem bindings_exclusive_iff (cfg:Config) (streamInputs:List StreamInput)
 (inputs:List (Event×Env)) : Along (step cfg) (Exclusive cfg) inputs (.initial streamInputs) ↔
  Along (step cfg) (Guarded cfg) inputs (.initial streamInputs) := by
 apply along_congr
 intro input s
 exact exclusive_iff_guarded cfg input s

def exampleInput : StreamInput := ⟨true,.unknown,0,0,0,0⟩
def exampleConfig : Config := ⟨1,false⟩
def exampleEnv (now:Nat) : Env := ⟨now,now,true,true,true,true⟩
def exampleMessage (messageType:UInt8) (talker:BitVec 64) (sequenceId:UInt16) : CommandResponse :=
 ⟨messageType,0,0,9,talker,1,0,0,0,0,sequenceId,0,0⟩

/-- By the answer of talker 3, by a response to no command, and by a disconnection from talker 3. -/
theorem stream_input_rebound :
 (let asked:=run (step exampleConfig) ([exampleMessage 6 2 7,exampleMessage 6 3 8].map
   fun m=>(.receive m,exampleEnv 0)) (.initial [exampleInput])
  let first:=step exampleConfig (.receive (exampleMessage 1 2 7),exampleEnv 0) asked
  let second:=step exampleConfig (.receive (exampleMessage 1 3 8),exampleEnv 0) first
  boundTo first 0 (2,0)=true ∧ boundTo second 0 (2,0)=false ∧
   boundTo second 0 (3,0)=true) ∧
 (let connected:=step exampleConfig (.receive (exampleMessage 1 2 7),exampleEnv 0)
   (.initial [exampleInput])
  let disconnected:=step exampleConfig (.receive (exampleMessage 8 3 8),exampleEnv 0) connected
  boundTo connected 0 (2,0)=true ∧ isConnected disconnected 0=false) := by
 decide +kernel

end OpenAvnu.AcmpListener
