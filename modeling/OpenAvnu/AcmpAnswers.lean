import Mathlib.Data.List.Perm.Subperm
import OpenAvnu.AcmpInflight

/-!
# The answers of the ACMP listener

Which responses the controllers get for their commands.
-/

namespace OpenAvnu.AcmpListener

open Acmp OpenavbList Runs List

structure Conversation where
 state:State
 received:List CommandResponse

def Conversation.initial (streamInputs:List StreamInput) : Conversation := ⟨.initial streamInputs,[]⟩
def isRequest (cfg:Config) (m:CommandResponse) : Bool := decide (m.listenerEntityId=cfg.myId) &&
  [some .listenerConnectRXCmd,some .listenerDisconnectRXCmd,some .listenerGetRXState].contains
   (dispatch m.messageType)
def receivedAfter (cfg:Config) (event:Event) (received:List CommandResponse) : List CommandResponse :=
 match event with
 | .receive m=>if isRequest cfg m then received++[m] else received
 | .expire=>received
def converse (cfg:Config) (input:Event×Env) (c:Conversation) : Conversation :=
 match c.state.control with
 | .waiting=>
  ⟨step cfg input c.state,receivedAfter cfg input.1 c.received⟩
 | .spinning | .stopped=>c
abbrev Key := UInt8×BitVec 64×UInt16
def answerKey (x:Sent) : Key := (x.messageType,x.message.controllerEntityId,x.message.sequenceId)

/-- The type of a response is that of its command plus one. -/
def requestKey (m:CommandResponse) : Key := (m.messageType+1,m.controllerEntityId,m.sequenceId)
def responses (s:State) : List Sent := s.sent.filter fun x=>!isCommand x

/-- The responses answer different commands, each with the right type, controller and sequence id;
none is a TX response. -/
def RightlyAnswered (c:Conversation) : Prop :=
 ((responses c.state).map answerKey).Subperm (c.received.map requestKey) ∧
  ∀x∈c.state.sent,x.messageType≠connectTxResponse ∧ x.messageType≠disconnectTxResponse
def alike (f g:InflightCommand) : Bool := decide (f.command.messageType=g.command.messageType ∧
  f.command.controllerEntityId=g.command.controllerEntityId)

/-- Nothing is refused or lost on its way to the talker; responses and last timeouts find commands
of their own type and controller. -/
def Answerable (cfg:Config) (input:Event×Env) (c:Conversation) : Prop :=
 match input.1 with
 | .receive m=>c.state.control=.waiting → m.listenerEntityId=cfg.myId →
  (dispatch m.messageType=some .listenerConnectRXCmd →
   accepted m c.state ∧ input.2.sendOk=true) ∧
  (dispatch m.messageType=some .listenerDisconnectRXCmd → stops m input.2 c.state →
   input.2.sendOk=true) ∧
  (dispatch m.messageType=some .listenerConnectTXResp ∨
   dispatch m.messageType=some .listenerDisconnectTXResp →
   validListenerUnique m.listenerUniqueId c.state=true →
   ∃e∈c.state.inflight.entries,findInflightNodeFromCommand m c.state=some e.1 ∧
    m.messageType=e.2.command.messageType+1 ∧
    m.controllerEntityId=e.2.command.controllerEntityId)
 | .expire=>c.state.control=.waiting → ∀e∈c.state.inflight.entries,
  timedOut input.2 c.state=some e.1 →
  if e.2.retried then quietly e.2=false →
   ∃e'∈c.state.inflight.entries,
    findInflightNodeFromCommand e.2.command c.state=some e'.1 ∧ alike e'.2 e.2=true
  else input.2.sendOk=true

instance (m:CommandResponse) (s:State) : Decidable (accepted m s) := inferInstanceAs (Decidable (_ ∧ _))

instance (m:CommandResponse) (env:Env) (s:State) : Decidable (stops m env s) :=
 inferInstanceAs (Decidable (_ ∧ _))

instance (cfg:Config) (c:Conversation) : (input:Event×Env) → Decidable (Answerable cfg input c)
 | (.receive _,_)=>inferInstanceAs (Decidable (_=_ → _=_ →
  (_=_ → _ ∧ _) ∧ (_=_ → stops .. → _=_) ∧ (_=_ ∨ _=_ → _=_ → ∃e∈_,_=_ ∧ _=_ ∧ _=_)))
 | (.expire,_)=>inferInstanceAs (Decidable (_=_ → ∀e∈_,_=_ →
  if _=_ then _=_ → ∃e'∈_,_=_ ∧ _=_ else _=_))

def entryKey (f:InflightCommand) : Key :=
 (f.command.messageType+7,f.command.controllerEntityId,f.originalSequenceId)
def owed (inflight:Nodes InflightCommand) : List Key := inflight.entries.map fun e=>entryKey e.2

structure Balanced (inflight:Nodes InflightCommand) (sent:List Sent)
 (received:List CommandResponse) : Prop where
 entries:∀e∈inflight.entries,
  (e.2.command.messageType=connectTxCommand ∨ e.2.command.messageType=disconnectTxCommand) ∧
   e.2.originalSequenceId=e.2.command.sequenceId
 counts:∀key,((sent.filter fun x=>!isCommand x).map answerKey).count key +
  (owed inflight).count key≤(received.map requestKey).count key
 right:∀x∈sent,x.messageType≠connectTxResponse ∧ x.messageType≠disconnectTxResponse

lemma balanced_initial (streamInputs:List StreamInput) :
 Balanced (State.initial streamInputs).inflight [] [] := by
 constructor
 · intro e he
   simp[State.initial] at he
 · simp[owed,State.initial]
 · intro x hx
   cases hx

variable {c:Conversation} {m:CommandResponse} {e:Nat×InflightCommand}

lemma Balanced.rightlyAnswered (h:Balanced c.state.inflight c.state.sent c.received) : RightlyAnswered c := by
 refine ⟨?_,h.right⟩
 rw[subperm_ext_iff]
 intro key _
 have hcount:=h.counts key
 rw[responses]
 omega

section Cases
variable {inflight:Nodes InflightCommand} {sent:List Sent} {received:List CommandResponse}
 {m:CommandResponse} {env:Env} {node:Nat} {f:InflightCommand} {x:Sent}

lemma responses_command (h:isCommand x=true) (sent:List Sent) :
 (sent++[x]).filter (fun y=>!isCommand y)=sent.filter fun y=>!isCommand y := by
 rw[filter_append,filter_cons_of_neg (by simp[h]),filter_nil,append_nil]
lemma responses_response (h:isCommand x=false) (sent:List Sent) :
 (sent++[x]).filter (fun y=>!isCommand y)=(sent.filter fun y=>!isCommand y)++[x] := by
 rw[filter_append,filter_cons_of_pos (by simp[h]),filter_nil]
lemma right_command (h:isCommand x=true) :
 x.messageType≠connectTxResponse ∧ x.messageType≠disconnectTxResponse := by
 simp only[isCommand,decide_eq_true_eq] at h
 rcases h with h|h<;>rw[h]<;>decide
lemma right_response (h:x.messageType∈([7,9,11]:List UInt8)) :
 x.messageType≠connectTxResponse ∧ x.messageType≠disconnectTxResponse := by
 simp only[mem_cons,not_mem_nil,or_false] at h
 rcases h with h|h|h<;>rw[h]<;>decide
lemma not_command (h:x.messageType∈([7,9,11]:List UInt8)) : isCommand x=false := by
 apply isCommand_response
 tauto

variable (h:Balanced inflight sent received)
include h

lemma Balanced.right_append
 (hx:x.messageType≠connectTxResponse ∧ x.messageType≠disconnectTxResponse) : ∀y∈sent++[x],
  y.messageType≠connectTxResponse ∧ y.messageType≠disconnectTxResponse := by
 intro y hy
 rcases mem_append.1 hy with hy|hy
 · exact h.right y hy
 · rw[mem_singleton.1 hy]
   exact hx

lemma Balanced.more (m:CommandResponse) : Balanced inflight sent (received++[m]) := by
 refine ⟨h.entries,?_,h.right⟩
 intro key
 have hcount:=h.counts key
 rw[map_append,count_append]
 omega

lemma Balanced.put {messageType:UInt8}
 (htype:messageType=connectTxCommand ∨ messageType=disconnectTxCommand)
 (hkey:m.messageType+1=messageType+7) : Balanced (openavbListNew inflight (newEntry messageType m env))
  (sent++[⟨messageType,m,statusSuccess⟩]) (received++[m]) := by
 have hcommand:isCommand ⟨messageType,m,statusSuccess⟩=true:=by
  simpa[isCommand] using htype
 constructor
 · intro e he
   rw[entries_new,mem_append,mem_singleton] at he
   rcases he with he|rfl
   · exact h.entries e he
   · exact ⟨htype,rfl⟩
 · intro key
   have hcount:=h.counts key
   have hsame:entryKey (newEntry messageType m env)=requestKey m:=by
    simp[entryKey,newEntry,requestKey,hkey]
   rw[responses_command hcommand,owed,entries_new,map_append,count_append,
    map_append,count_append,map_singleton,map_singleton,hsame]
   rw[owed] at hcount
   omega
 · exact h.right_append (right_command hcommand)

lemma Balanced.reply
 (htype:x.messageType∈([7,9,11]:List UInt8)) (hkey:answerKey x=requestKey m) :
 Balanced inflight (sent++[x]) (received++[m]) := by
 refine ⟨h.entries,?_,h.right_append (right_response htype)⟩
 intro key
 have hcount:=h.counts key
 rw[responses_response (not_command htype),map_append,count_append,map_append,
  count_append,map_singleton,map_singleton,hkey]
 omega

lemma Balanced.settle (hentry:(node,f) ∈
 inflight.entries)
 (hfind:inflight.find (sameExchange m)=some node)
 (htype:x.messageType∈([7,9,11]:List UInt8)) (hkey:answerKey x=entryKey f) :
 Balanced (removeFirst m inflight) (sent++[x]) received := by
 obtain ⟨pre,post,hsplit,hdelete⟩:=delete_split hentry
 have hentries:(removeFirst m inflight).entries=pre++post:=by
  simp only[removeFirst,hfind]
  exact hdelete
 refine ⟨fun e he=>?_,?_,h.right_append (right_response htype)⟩
 · exact h.entries e (mem_removeFirst he)
 · intro key
   have hcount:=h.counts key
   rw[owed,hsplit,map_append,map_cons,count_append,count_cons] at hcount
   rw[responses_response (not_command htype),owed,hentries,map_append,
    count_append,map_append,count_append,map_singleton,hkey,count_singleton]
   simp only at hcount
   omega

lemma Balanced.drop (m:CommandResponse) : Balanced (removeFirst m inflight) sent received := by
 refine ⟨fun e he=>h.entries e (mem_removeFirst he),?_,h.right⟩
 intro key
 have hcount:=h.counts key
 have hsub:((removeFirst m inflight).entries).Sublist inflight.entries:=by
  rw[removeFirst]
  split
  · rw[entries_delete]
    exact filter_sublist
  · exact Sublist.refl _
 have hkeys:(owed (removeFirst m inflight)).Sublist (owed inflight):=hsub.map _
 have hle:=hkeys.count_le key
 omega

lemma Balanced.mark (m:CommandResponse) (timer:Nat)
 (hcommand:isCommand x=true) : Balanced (markFirst m timer inflight) (sent++[x]) received := by
 have hkeys:(markFirst m timer inflight).entries.map
  (fun e=>(e.2.command,e.2.originalSequenceId))=
  inflight.entries.map fun e=>(e.2.command,e.2.originalSequenceId):=by
  rw[markFirst]
  split
  · rw[entries_write,map_map]
    apply map_congr_left
    intro e _
    simp only[Function.comp_apply]
    split_ifs<;>rfl
  · rfl
 constructor
 · intro e he
   have hmem:(e.2.command,e.2.originalSequenceId) ∈
    inflight.entries.map fun e=>(e.2.command,e.2.originalSequenceId):=by
    rw[←hkeys]
    exact mem_map_of_mem he
   obtain ⟨e',he',heq⟩:=mem_map.1 hmem
   simp only[Prod.mk.injEq] at heq
   rw[←heq.1,←heq.2]
   exact h.entries e' he'
 · intro key
   have howed:owed (markFirst m timer inflight)=owed inflight:=by
    have hmap:=congrArg (List.map fun c:CommandResponse×UInt16=>
     ((c.1.messageType+7,c.1.controllerEntityId,c.2):Key)) hkeys
    simpa[owed,entryKey,Function.comp_def] using hmap
   rw[responses_command hcommand,howed]
   exact h.counts key
 · exact h.right_append (right_command hcommand)

end Cases

variable {cfg:Config} {env:Env} {s:State} {event:Event}
 {inflight:Nodes InflightCommand} {sent:List Sent} {received:List CommandResponse}

lemma receivedAfter_request {kind:Receiver} (hmine:m.listenerEntityId=cfg.myId)
 (hkind:dispatch m.messageType=some kind)
 (hrequest:kind=.listenerConnectRXCmd ∨ kind=.listenerDisconnectRXCmd ∨
  kind=.listenerGetRXState) : receivedAfter cfg (.receive m) received=received++[m] := by
 rw[receivedAfter]
 rcases hrequest with rfl|rfl|rfl<;>simp[isRequest,hmine,hkind]

lemma Balanced.receivedAfter (h:Balanced inflight sent received) (event:Event) :
 Balanced inflight sent (receivedAfter cfg event received) := by
 cases event with
 | receive m=>
  rw[AcmpListener.receivedAfter]
  split_ifs
  · exact h.more m
  · exact h
 | expire=>exact h

section
variable (hentry:e∈s.inflight.entries) (hfind:findInflightNodeFromCommand m s=some e.1)
include hentry hfind

lemma answeredSequenceId_eq : answeredSequenceId m s=e.2.originalSequenceId := by
 rw[answeredSequenceId,hfind,Option.bind_some,data_of_mem hentry]

lemma sameSequence_of_find : e.2.command.sequenceId=m.sequenceId := by
 obtain ⟨f,hf,hsame⟩:=find_some hfind
 have heq:e.2=f:=entries_unique hentry hf
 simp only[sameExchange,decide_eq_true_eq] at hsame
 rw[heq]
 exact hsame.2.2

end

lemma Traffic.balanced (htraffic:Traffic cfg env c.state event inflight sent)
 (h:Balanced c.state.inflight c.state.sent c.received) (hwaiting:c.state.control=.waiting)
 (hanswerable:Answerable cfg (event,env) c) : Balanced inflight sent (receivedAfter cfg event c.received) := by
 cases htraffic with
 | quiet m=>exact h.receivedAfter _
 | @put m kind messageType hmine hkind htype=>
  have hm:=messageType_of_dispatch hkind
  cases kind<;>cases htype
  · rw[receivedAfter_request hmine hkind (.inl rfl)]
    exact h.put (.inl rfl) (by rw[show m.messageType=6 from hm];rfl)
  · rw[receivedAfter_request hmine hkind (.inr (.inl rfl))]
    exact h.put (.inr rfl) (by rw[show m.messageType=8 from hm];rfl)
 | replied m r status hmine hkind hcommand hcontroller hsequence=>
  have hm:=messageType_of_dispatch hkind
  have hkey:answerKey ⟨m.messageType+1,r,status⟩=requestKey m:=by
   simp[answerKey,requestKey,hcontroller,hsequence]
  have hresponse:m.messageType+1∈([7,9,11]:List UInt8):=by
   rcases hcommand with rfl|rfl
   · rw[show m.messageType=8 from hm]
     decide
   · rw[show m.messageType=10 from hm]
     decide
  rw[receivedAfter_request hmine hkind (.inr hcommand)]
  exact h.reply hresponse hkey
 | refused m messageType status hmine hwrong=>
  obtain ⟨hconnect,hdisconnect,-⟩:=hanswerable hwaiting hmine
  rcases hwrong with ⟨hkind,hrefused,-⟩|⟨hkind,hstops,hsend,-⟩
  · exact absurd (hconnect hkind) hrefused
  · have hsent:=hdisconnect hkind hstops
    rw[hsend] at hsent
    cases hsent
 | answered m r status hmine hkind hvalid hcontroller hsequence=>
  obtain ⟨-,-,hfound⟩:=hanswerable hwaiting hmine
  obtain ⟨e,hentry,hfind,htype,hsame⟩:=hfound hkind hvalid
  have hkey:answerKey ⟨m.messageType+6,r,status⟩=entryKey e.2:=by
   rw[answerKey,entryKey,hcontroller,hsequence,hsame,answeredSequenceId_eq hentry hfind,htype,UInt8.add_assoc]
   rfl
  have hresponse:m.messageType+6∈([7,9,11]:List UInt8):=by
   rcases hkind with hkind|hkind
   · rw[show m.messageType=1 from messageType_of_dispatch hkind]
     decide
   · rw[show m.messageType=3 from messageType_of_dispatch hkind]
     decide
  exact (h.settle hentry hfind hresponse hkey).receivedAfter _
 | idle=>exact h
 | retried hnode hentry hfirst htype hsend=>
  exact h.mark _ _ (by simpa[isCommand] using htype)
 | @retryFailed node f hnode hentry hfirst hsend=>
  have hsent:=hanswerable hwaiting (node,f) hentry hnode
  simp only[hfirst,Bool.false_eq_true,if_false,hsend] at hsent
 | @gaveUp node f hnode hentry hsecond hloud=>
  have hfound:=hanswerable hwaiting (node,f) hentry hnode
  simp only[hsecond] at hfound
  obtain ⟨e,he,hfind,halike⟩:=hfound hloud
  simp only[alike,decide_eq_true_eq] at halike
  have hkey:answerKey ⟨f.command.messageType+7,
   {f.command with sequenceId:=f.originalSequenceId},statusListenerTalkerTimeout⟩=entryKey e.2:=by
   rw[answerKey,entryKey,halike.1,halike.2,(h.entries e he).2,
    sameSequence_of_find he hfind,(h.entries (node,f) hentry).2]
  have hresponse:f.command.messageType+7∈([7,9,11]:List UInt8):=by
   rcases (h.entries (node,f) hentry).1 with htype|htype
   · rw[show f.command.messageType=0 from htype]
     decide
   · rw[show f.command.messageType=2 from htype]
     decide
  exact h.settle he hfind hresponse hkey
 | gaveUpQuietly=>exact h.drop _
 | stopped=>exact h

lemma converse_balanced {input:Event×Env} (hanswerable:Answerable cfg input c)
 (h:Balanced c.state.inflight c.state.sent c.received) :
 Balanced (converse cfg input c).state.inflight (converse cfg input c).state.sent
  (converse cfg input c).received := by
 obtain ⟨event,env⟩:=input
 rw[converse]
 cases hcontrol:c.state.control with
 | waiting=>exact (step_traffic cfg event env hcontrol).balanced h hcontrol hanswerable
 | spinning=>exact h
 | stopped=>exact h

theorem controllers_rightly_answered (cfg:Config) (streamInputs:List StreamInput)
 (inputs:List (Event×Env))
 (hanswerable:Along (converse cfg) (Answerable cfg) inputs (.initial streamInputs)) :
 Throughout (converse cfg) RightlyAnswered inputs (.initial streamInputs) := by
 have hbalanced:=throughout_of_along
  (P:=fun c:Conversation=>Balanced c.state.inflight c.state.sent c.received)
  (fun input c hstep hc=>converse_balanced hstep hc) (balanced_initial streamInputs) hanswerable
 exact hbalanced.imp fun c hc=>hc.rightlyAnswered

def exampleConversation : List (Event×Env) :=
 [(.receive (exampleMessage 6 2 7),exampleEnv 0),(.receive (exampleMessage 1 2 7),exampleEnv 1),
  (.receive (exampleMessage 8 2 8),exampleEnv 2),(.expire,exampleEnv 1000000000),
  (.expire,exampleEnv 2000000000),(.receive (exampleMessage 10 2 9),exampleEnv 2000000001)]

theorem example_rightly_answered : Along (converse exampleConfig) (Answerable exampleConfig) exampleConversation
  (.initial [exampleInput]) ∧
  Throughout (converse exampleConfig) RightlyAnswered exampleConversation
   (.initial [exampleInput]) :=
 have hanswerable:Along (converse exampleConfig) (Answerable exampleConfig) exampleConversation
  (.initial [exampleInput]):=by decide +kernel
 ⟨hanswerable,controllers_rightly_answered exampleConfig [exampleInput] exampleConversation hanswerable⟩

/-- Controllers get a CONNECT_TX_RESPONSE, or two answers. -/
theorem controllers_wrongly_answered :
 (let c:=run (converse exampleConfig) ([exampleMessage 6 2 7,exampleMessage 1 2 7,
   exampleMessage 6 3 8,{exampleMessage 6 3 9 with listenerUniqueId:=5}].map
   fun m=>(.receive m,exampleEnv 0)) (.initial [exampleInput])
  ((responses c.state).map fun x=>(x.messageType,x.message.sequenceId,x.status))=
   [(connectRxResponse,7,statusSuccess),(connectTxResponse,8,statusListenerExclusive),
    (connectTxResponse,9,statusListenerUnknownId)]) ∧
 (let c:=run (converse exampleConfig) ([exampleMessage 6 2 7,exampleMessage 1 2 7,
   exampleMessage 1 2 7].map fun m=>(.receive m,exampleEnv 0)) (.initial [exampleInput])
  (responses c.state).map answerKey=[(7,9,7),(7,9,7)] ∧
   c.received.map requestKey=[(7,9,7)]) := by
 decide +kernel

end OpenAvnu.AcmpListener
