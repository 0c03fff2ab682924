import OpenAvnu.AcmpTalkerBooks
import OpenAvnu.Roster

/-!
# The history behind the connections of an ACMP talker

The listeners of a stream are the roster of the commands that name it.
-/

namespace OpenAvnu.AcmpTalker

open Acmp OpenavbList Linked Runs Roster List Book UInt16

structure Ledger where
 state:State
 handled:List CommandResponse

def Ledger.initial (streamOutputs:List StreamOutput) (streams:Nat → StreamCfg) : Ledger :=
 ⟨.initial streamOutputs streams,[]⟩
def handledAfter (myId:BitVec 64) (event:Event) (handled:List CommandResponse) : List CommandResponse :=
 match event with
 | .receive m=>if m.talkerEntityId=myId then handled++[m] else handled
 | .update _ _=>handled
def record (myId:BitVec 64) (input:Event×Env) (l:Ledger) : Ledger :=
 match l.state.control with
 | .waiting=>⟨step myId input l.state,handledAfter myId input.1 l.handled⟩
 | .spinning=>l
def commandOp (m:CommandResponse) : Option (Op ListenerPair) :=
 match dispatch m.messageType with
 | some .talkerConnectTXCmd=>some (.join (pairOf m))
 | some .talkerDisconnectTXCmd=>some (.leave (pairOf m))
 | _=>none
def opsOf (i:Nat) (handled:List CommandResponse) : List (Op ListenerPair) :=
 (handled.filter fun m=>decide (m.talkerUniqueId.toNat=i)).filterMap commandOp
def Book.of (pairs:List ListenerPair) : Book := ⟨pairs,ofNat pairs.length⟩

variable {myId:BitVec 64} {m:CommandResponse} {env:Env} {s:State} {info:TalkerStreamInfo}
 (i:Nat) (pairs:List ListenerPair) (pair:ListenerPair) (input:Event×Env)

lemma opsOf_snoc (handled:List CommandResponse) (m:CommandResponse) : opsOf i (handled++[m])=
  if m.talkerUniqueId.toNat=i then opsOf i handled++(commandOp m).toList
  else opsOf i handled := by
 split
 · rename_i hnamed
   cases hop:commandOp m<;>simp[hnamed,hop,opsOf]
 · rename_i hother
   simp[hother,opsOf]

lemma of_connect : (of pairs).connect pair=of (apply pairs (.join pair)) := by
 by_cases hmem:pair∈pairs
 · simp[connect,of,apply,hmem]
 · simp[connect,of,apply,hmem]

lemma of_disconnect : (of pairs).disconnect pair=of (apply pairs (.leave pair)) := by
 by_cases hmem:pair∈pairs
 · have hcount:ofNat pairs.length-1=ofNat (pairs.erase pair).length:=by
    rw[←length_erase_add_one hmem,ofNat_add]
    simp
   simp only[disconnect,of,apply,hmem,if_true,hcount]
 · simp[disconnect,of,apply,hmem,erase_of_not_mem]

lemma handle_of (ops:List (Op ListenerPair)) (m:CommandResponse) :
 (of (roster ops)).handle m=of (roster (ops++(commandOp m).toList)) := by
 rw[handle,commandOp]
 cases dispatch m.messageType with
 | none=>simp
 | some kind=>
  cases kind with
  | talkerConnectTXCmd=>exact (of_connect ..).trans (congrArg of (roster_snoc ..).symm)
  | talkerDisconnectTXCmd=>
   exact (of_disconnect ..).trans (congrArg of (roster_snoc ..).symm)
  | _=>simp

def Kept (l:Ledger) : Prop := books l.state=
  (List.range l.state.streamOutputs.length).map fun i=>of (roster (opsOf i l.handled))

variable {l:Ledger}

lemma Kept.length (h:Kept l) : l.state.talkerStreamInfos.length=l.state.streamOutputs.length := by
 have hlen:=congrArg List.length h
 rwa[books,length_map,length_map,length_range] at hlen
lemma Kept.nodup (h:Kept l) : ∀b∈books l.state,b.pairs.Nodup := by
 intro b hb
 rw[h] at hb
 obtain ⟨i,-,rfl⟩:=mem_map.1 hb
 exact roster_nodup _

lemma Kept.receive (h:Kept l) (hmine:m.talkerEntityId=myId) :
 Kept ⟨receive myId m env l.state,l.handled++[m]⟩ := by
 have hlength:(AcmpTalker.receive myId m env l.state).streamOutputs.length=l.state.streamOutputs.length:=
  congrArg (fun o=>o.2.2) (receive_outline m env l.state)
 rw[Kept,receive_books h.length h.nodup hmine,hlength,h]
 apply ext_getElem?
 intro i
 by_cases hi:i<l.state.streamOutputs.length
 · simp only[getElem?_modify,getElem?_map,getElem?_range hi,opsOf_snoc,Option.map_some]
   split
   · rw[←handle_of]
     rfl
   · rfl
 · simp[hi]

lemma Kept.same (h:Kept l) (hbooks:books s=books l.state)
 (hlength:s.streamOutputs.length=l.state.streamOutputs.length) : Kept ⟨s,l.handled⟩ := by
 rw[Kept,hlength]
 exact hbooks.trans h

lemma record_kept (l:Ledger) (h:Kept l) : Kept (record myId input l) := by
 rw[record]
 cases hcontrol:l.state.control with
 | spinning=>exact h
 | waiting=>
  obtain ⟨event,env⟩:=input
  simp only[step,hcontrol]
  cases event with
  | receive m=>
   simp only[handledAfter]
   split
   · rename_i hmine
     exact h.receive hmine
   · rename_i hother
     rw[AcmpTalker.receive,if_neg hother]
     exact h
  | update stream cfg=>exact h.same (update_books ..) (congrArg Prod.snd (update_sizes ..))

lemma record_outputs_length (l:Ledger) :
 (record myId input l).state.streamOutputs.length=l.state.streamOutputs.length := by
 rw[record]
 split
 · exact step_outputs_length ..
 · rfl

lemma keys_subset (handled:List CommandResponse) : (opsOf i handled).map Op.key ⊆ handled.map pairOf := by
 intro pair hpair
 obtain ⟨op,hop,rfl⟩:=mem_map.1 hpair
 obtain ⟨m,hm,hcommand⟩:=mem_filterMap.1 hop
 have hkey:op.key=pairOf m:=by
  rw[commandOp] at hcommand
  split at hcommand<;>cases hcommand<;>rfl
 rw[hkey]
 exact mem_map_of_mem (mem_filter.1 hm).1

lemma getConnection_pair (info:TalkerStreamInfo) (k:Nat) :
 (info.connectedListeners.bind fun list=>(list.nth k).bind (openavbListData list))=(listeners info)[k]? := by
 rw[listeners]
 cases info.connectedListeners with
 | none=>rfl
 | some list=>
  simp only[Option.bind_some,Option.map_some,Option.getD_some,nth_eq,Nodes.toList,items,getElem?_map]
  cases hentry:list.entries[k]? with
  | none=>rfl
  | some entry=>exact data_of_mem (mem_of_getElem? hentry)

/-- The answer to GET_TX_CONNECTION is the listener with the index of the command, if there is
one. -/
def Enumerated (myId:BitVec 64) (i:Nat) (info:TalkerStreamInfo) (s:State) : Prop :=
 ∀m env,s.control=.waiting → m.talkerEntityId=myId → m.talkerUniqueId.toNat=i →
  dispatch m.messageType=some .talkerGetTXConnectionCmd →
  ∃response status,
   step myId (.receive m,env) s=txResponse getTxConnectionResponse response status s ∧
   if m.connectionCount < info.connectionCount then
    status=statusSuccess ∧ (listeners info)[m.connectionCount.toNat]? = some (pairOf response)
   else status=statusNoSuchConnection

structure Accounted (myId:BitVec 64) (i:Nat) (info:TalkerStreamInfo) (l:Ledger) : Prop where
 count:info.connectionCount.toNat=(listeners info).length
 distinct:(listeners info).Nodup
 ordered:(listeners info).Pairwise (Earlier (opsOf i l.handled))
 present:∀pair,pair∈listeners info↔lastOf pair (opsOf i l.handled)=some (.join pair)
 enumerated:Enumerated myId i info l.state

lemma enumerated_of_count {i:Nat} (hinfo:s.talkerStreamInfos[i]? = some info)
 (hvalid:i<s.streamOutputs.length)
 (hcount:info.connectionCount.toNat=(listeners info).length) : Enumerated myId i info s := by
 intro m env hcontrol hmine hi hkind
 have hunique:validTalkerUnique m.talkerUniqueId s=true:=by
  rw[validTalkerUnique,hi,getElem?_eq_getElem hvalid]
  rfl
 have hstep:step myId (.receive m,env) s=getConnectionState m s:=by
  simp only[step,hcontrol,receive,hmine,if_true,hkind]
 rw[hstep,getConnectionState,if_pos hunique]
 refine ⟨(getConnection m s).1,(getConnection m s).2,rfl,?_⟩
 simp only[getConnection,hi,hinfo,getConnection_pair]
 split
 · rename_i hlt
   have hbound:m.connectionCount.toNat<(listeners info).length:=by
    rw[←hcount]
    exact lt_iff_toNat_lt.1 hlt
   simp only[getElem?_eq_getElem hbound,true_and]
   rfl
 · rename_i hge
   have hbound:(listeners info)[m.connectionCount.toNat]? = none:=by
    rw[List.getElem?_eq_none_iff,←hcount]
    exact Nat.le_of_not_lt fun h=>hge (lt_iff_toNat_lt.2 h)
   rw[hbound]

lemma Kept.accounted (h:Kept l) (hfew:(l.handled.map pairOf).dedup.length<65536) {i:Nat}
 (hi:i<l.state.streamOutputs.length) :
 ∃info,l.state.talkerStreamInfos[i]? = some info ∧ Accounted myId i info l := by
 have hlt:i<l.state.talkerStreamInfos.length:=by
  rw[h.length]
  exact hi
 have hinfo:=getElem?_eq_getElem hlt
 refine ⟨l.state.talkerStreamInfos[i],hinfo,?_⟩
 generalize l.state.talkerStreamInfos[i]=info at hinfo ⊢
 have hbook:bookOf info=of (roster (opsOf i l.handled)):=by
  have hat:=congrArg (fun bs=>bs[i]?) h
  simp only[books_getElem?,hinfo,getElem?_map,getElem?_range hi,Option.map_some] at hat
  exact Option.some.inj hat
 have hpairs:listeners info=roster (opsOf i l.handled):=congrArg pairs hbook
 have hcount:info.connectionCount.toNat=(listeners info).length:=by
  have hle:=roster_length_le (keys_subset i l.handled)
  have hnumber:info.connectionCount=ofNat (roster (opsOf i l.handled)).length:=
   congrArg count hbook
  rw[hnumber,hpairs,toNat_ofNat_of_lt' (Nat.lt_of_le_of_lt hle hfew)]
 refine ⟨hcount,?_,?_,?_,enumerated_of_count hinfo hi hcount⟩
 · rw[hpairs]
   exact roster_nodup _
 · rw[hpairs]
   exact roster_ordered _
 · intro pair
   rw[hpairs]
   exact mem_roster_iff _

lemma initial_kept (streamOutputs:List StreamOutput) (streams:Nat → StreamCfg) :
 Kept (.initial streamOutputs streams) := by
 have hempty:bookOf .zero=of (roster []):=rfl
 rw[Kept,books]
 simp only[Ledger.initial,State.initial,map_replicate,hempty]
 have hconst:(fun i=>of (roster (opsOf i [])))=fun _:Nat=>of (roster []):=rfl
 rw[hconst,map_const',length_range]

theorem connections_accounted (myId:BitVec 64) (streamOutputs:List StreamOutput)
 (streams:Nat → StreamCfg) (inputs:List (Event×Env))
 (hfew:((run (record myId) inputs (.initial streamOutputs streams)).handled.map
  pairOf).dedup.length<65536) : ∀i<streamOutputs.length,∃info,
  (run (record myId) inputs (.initial streamOutputs streams)).state.talkerStreamInfos[i]?=some info ∧
  Accounted myId i info (run (record myId) inputs (.initial streamOutputs streams)) := by
 intro i hi
 have hkept:Kept (run (record myId) inputs (.initial streamOutputs streams)):=
  run_invariant record_kept inputs (initial_kept streamOutputs streams)
 have hlength:(run (record myId) inputs
  (.initial streamOutputs streams)).state.streamOutputs.length=streamOutputs.length:=
  run_invariant (P:=fun l=>l.state.streamOutputs.length=streamOutputs.length)
   (fun input l h=>(record_outputs_length input l).trans h) inputs rfl
 exact hkept.accounted hfew (hlength.symm▸hi)

theorem two_listeners_accounted :
 let inputs:=[(Event.receive (exampleCommand 0 20 1),exampleEnv),
  (.receive (exampleCommand 0 30 2),exampleEnv),(.receive (exampleCommand 2 20 3),exampleEnv)]
 ∀i<[exampleOutput].length,∃info,
  (run (record 1) inputs (.initial [exampleOutput] exampleStreams)).state.talkerStreamInfos[i]?=some info ∧
  Accounted 1 i info (run (record 1) inputs (.initial [exampleOutput] exampleStreams)) :=
 connections_accounted 1 [exampleOutput] exampleStreams _ (by decide +kernel)

end OpenAvnu.AcmpTalker
