import Mathlib.Data.List.Dedup
import OpenAvnu.AcmpTalker

/-!
# The connections that an ACMP talker keeps

The machine refines a book for each stream output.
-/

namespace OpenAvnu.AcmpTalker

open Acmp OpenavbList Linked List

def listeners (info:TalkerStreamInfo) : List ListenerPair := (info.connectedListeners.map Nodes.toList).getD []

structure Book where
 pairs:List ListenerPair
 count:UInt16
 deriving DecidableEq

def bookOf (info:TalkerStreamInfo) : Book := ⟨listeners info,info.connectionCount⟩
def books (s:State) : List Book := s.talkerStreamInfos.map bookOf
def Book.connect (pair:ListenerPair) (b:Book) : Book :=
 if pair∈b.pairs then b else ⟨b.pairs++[pair],b.count+1⟩
def Book.disconnect (pair:ListenerPair) (b:Book) : Book :=
 if pair∈b.pairs then ⟨b.pairs.erase pair,b.count-1⟩ else b
def Book.handle (m:CommandResponse) : Book → Book :=
 match dispatch m.messageType with
 | some .talkerConnectTXCmd=>Book.connect (pairOf m)
 | some .talkerDisconnectTXCmd=>Book.disconnect (pairOf m)
 | _=>id

variable {myId:BitVec 64} {m:CommandResponse} {env:Env} {s:State} {info:TalkerStreamInfo}

lemma findListenerPair_none_iff : findListenerPairNodeFromCommand m info=none↔pairOf m∉listeners info := by
 rw[findListenerPairNodeFromCommand,listeners]
 cases info.connectedListeners with
 | none=>simp
 | some list=>
  simp only[Option.bind_some,Option.map_some,Option.getD_some,find_eq,Nodes.toList,items,
   Option.map_eq_none_iff,find?_eq_none,decide_eq_true_eq,mem_map,not_exists,not_and]

variable {node:Nat} (output:StreamOutput) (messageType:UInt8) (r:CommandResponse)
 (stream:Nat) (input:Event×Env) {β:Type} {l:List β} {x:β} {response:CommandResponse}

lemma findListenerPair_some (h:findListenerPairNodeFromCommand m info=some node) :
 ∃list,info.connectedListeners=some list ∧ (node,pairOf m)∈list.entries := by
 rw[findListenerPairNodeFromCommand] at h
 cases hlist:info.connectedListeners with
 | none=>
  rw[hlist] at h
  cases h
 | some list=>
  rw[hlist] at h
  obtain ⟨pair,hentry,hpair⟩:=find_some h
  rw[of_decide_eq_true hpair] at hentry
  exact ⟨list,rfl,hentry⟩

lemma toList_new (list:Nodes ListenerPair) (pair:ListenerPair) :
 (openavbListNew list pair).toList=list.toList++[pair] := by
 rw[Nodes.toList,entries_new,items_append]
 rfl
lemma toList_listenersOrNew (info:TalkerStreamInfo) : (listenersOrNew info).toList=listeners info := by
 rw[listenersOrNew,listeners]
 cases info.connectedListeners<;>rfl

lemma toList_delete {list:Nodes ListenerPair} {pair:ListenerPair} (hnodup:list.toList.Nodup)
 (hentry:(node,pair)∈list.entries) : (openavbListDelete list node).toList=list.toList.erase pair := by
 obtain ⟨pre,post,hsplit,hdelete⟩:=delete_split hentry
 rw[Nodes.toList,hsplit,items_append] at hnodup
 have hpre:pair∉items pre:=fun hmem=>
  (nodup_append.1 hnodup).2.2 pair hmem pair mem_cons_self rfl
 rw[Nodes.toList,hdelete,Nodes.toList,hsplit,items_append,items_append,items_cons,
  erase_append_right _ hpre,erase_cons_head]

variable (streams:Nat → StreamCfg) (error:UInt8)

@[simp] lemma getTalkerStreamInfo_book (info:TalkerStreamInfo) :
 bookOf (openavbAVDECCGetTalkerStreamInfo output streams info)=bookOf info := by
 simp only[openavbAVDECCGetTalkerStreamInfo]
 split
 · rfl
 · split_ifs<;>rfl

def outline (s:State) : Control×Nat×Nat := (s.control,s.talkerStreamInfos.length,s.streamOutputs.length)
@[simp] lemma outline_setInfo (i:Nat) (info:TalkerStreamInfo) (s:State) :
 outline (setInfo i info s)=outline s := by
 simp[outline,setInfo]
@[simp] lemma outline_txResponse (s:State) : outline (txResponse messageType r error s)=outline s := rfl

lemma receive_outline (m:CommandResponse) (env:Env) (s:State) : outline (receive myId m env s)=outline s := by
 have hconnect:outline (connectTalker m env s).1=outline s:=by
  simp only[connectTalker]
  repeat' split
  all_goals simp
 have hdisconnect:outline (disconnectTalker m env s).1=outline s:=by
  simp only[disconnectTalker]
  repeat' split
  all_goals simp
 have hstate:outline (getState m s).1=outline s:=by
  simp only[getState]
  split<;>simp
 rw[receive]
 split
 · split
   · rw[connectState]
     split
     · rw[←hconnect]
       simp only
       split<;>simp
     · simp
   · rw[disconnectState]
     split
     · simp[hdisconnect]
     · simp
   · rw[getStateState]
     split
     · simp[hstate]
     · simp
   · exact outline_txResponse ..
   · rfl
 · rfl

lemma update_sizes (s:State) : (outline (openavbAcmpSMTalkerUpdateStreamInfo stream s)).2=(outline s).2 := by
 rw[openavbAcmpSMTalkerUpdateStreamInfo]
 repeat' split
 all_goals simp[outline,setInfo,txResponse]

lemma step_sizes (s:State) : (outline (step myId input s)).2=(outline s).2 := by
 rw[step]
 split
 · split
   · exact congrArg Prod.snd (receive_outline ..)
   · exact update_sizes ..
 · rfl

lemma step_outputs_length (s:State) : (step myId input s).streamOutputs.length=s.streamOutputs.length :=
 congrArg Prod.snd (step_sizes input s)
lemma books_setInfo (i:Nat) (info:TalkerStreamInfo) (s:State) :
 books (setInfo i info s)=(books s).set i (bookOf info) := map_set
lemma modify_set {i:Nat} (h:l[i]? = some x) (f:β → β) : l.modify i f=l.set i (f x) := by
 rw[List.modify_eq_set_getElem?,h]
 rfl
lemma set_same {i:Nat} (h:l[i]? = some x) : l.set i x=l := by
 obtain ⟨hlt,rfl⟩:=List.getElem?_eq_some_iff.1 h
 exact set_getElem_self hlt
lemma books_getElem? (s:State) (i:Nat) : (books s)[i]? = (s.talkerStreamInfos[i]?).map bookOf := getElem?_map ..
lemma books_modify_absent {i:Nat} (h:s.talkerStreamInfos[i]? = none) (f:Book → Book) :
 (books s).modify i f=books s := by
 rw[List.modify_eq_set_getElem?,books_getElem?,h]
 rfl
lemma books_modify {i:Nat} (h:s.talkerStreamInfos[i]? = some info) (f:Book → Book) :
 (books s).modify i f=(books s).set i (f (bookOf info)) := by
 apply modify_set
 rw[books_getElem?,h]
 rfl
lemma books_set_self {i:Nat} (h:s.talkerStreamInfos[i]? = some info) :
 (books s).set i (bookOf info)=books s := by
 apply set_same
 rw[books_getElem?,h]
 rfl

lemma bookOf_connect (hfind:findListenerPairNodeFromCommand m info=none) : bookOf {info with
  connectedListeners:=some (openavbListNew (listenersOrNew info) (pairOf m))
  connectionCount:=info.connectionCount+1}=(bookOf info).connect (pairOf m) := by
 have hnot:pairOf m∉(bookOf info).pairs:=findListenerPair_none_iff.1 hfind
 rw[Book.connect,if_neg hnot,bookOf,listeners]
 simp only[Option.map_some,toList_new,toList_listenersOrNew]
 rfl

lemma bookOf_disconnect (hnodup:(listeners info).Nodup)
 (hfind:findListenerPairNodeFromCommand m info=some node) : bookOf {info with
  connectedListeners:=info.connectedListeners.map fun l=>openavbListDelete l node
  connectionCount:=info.connectionCount-1}=(bookOf info).disconnect (pairOf m) := by
 obtain ⟨list,hlist,hentry⟩:=findListenerPair_some hfind
 have hlisteners:listeners info=list.toList:=by
  rw[listeners,hlist]
  rfl
 have hmem:pairOf m∈(bookOf info).pairs:=by
  by_contra hnot
  rw[findListenerPair_none_iff.2 hnot] at hfind
  cases hfind
 rw[Book.disconnect,if_pos hmem,bookOf,listeners]
 simp only[hlist,Option.map_some,Option.getD_some]
 rw[hlisteners] at hnodup
 rw[toList_delete hnodup hentry]
 simp only[bookOf,hlisteners]

lemma connect_self (h:findListenerPairNodeFromCommand m info≠none) :
 (bookOf info).connect (pairOf m)=bookOf info := by
 have hmem:pairOf m∈(bookOf info).pairs:=by
  by_contra hnot
  exact h (findListenerPair_none_iff.2 hnot)
 rw[Book.connect,if_pos hmem]

lemma disconnect_self (h:findListenerPairNodeFromCommand m info=none) :
 (bookOf info).disconnect (pairOf m)=bookOf info := by
 have hnot:pairOf m∉(bookOf info).pairs:=findListenerPair_none_iff.1 h
 rw[Book.disconnect,if_neg hnot]

lemma connectTalker_books (m:CommandResponse) (env:Env) (s:State) : books (connectTalker m env s).1=
  (books s).modify m.talkerUniqueId.toNat (Book.connect (pairOf m)) := by
 cases hinfo:s.talkerStreamInfos[m.talkerUniqueId.toNat]? with
 | none=>
  simp only[connectTalker,hinfo]
  exact (books_modify_absent hinfo _).symm
 | some info=>
  rw[books_modify hinfo]
  cases hfind:findListenerPairNodeFromCommand m info with
  | some node=>
   have hself:Book.connect (pairOf m) (bookOf info)=bookOf info:=
    connect_self (by simp[hfind])
   simp only[connectTalker,hinfo,hfind]
   rw[hself,books_set_self hinfo]
   split_ifs<;>rfl
  | none=>
   simp only[connectTalker,hinfo,hfind]
   rw[←bookOf_connect hfind]
   cases s.streamOutputs[m.talkerUniqueId.toNat]? with
   | none=>apply books_setInfo
   | some output=>
    dsimp only
    split_ifs<;>apply books_setInfo

lemma disconnectTalker_books (m:CommandResponse) (env:Env) (s:State)
 (hnodup:∀b∈books s,b.pairs.Nodup) : books (disconnectTalker m env s).1=
  (books s).modify m.talkerUniqueId.toNat (Book.disconnect (pairOf m)) := by
 cases hinfo:s.talkerStreamInfos[m.talkerUniqueId.toNat]? with
 | none=>
  simp only[disconnectTalker,hinfo]
  exact (books_modify_absent hinfo _).symm
 | some info=>
  rw[books_modify hinfo]
  have hmem:bookOf info∈books s:=mem_map_of_mem (mem_of_getElem? hinfo)
  cases hfind:findListenerPairNodeFromCommand m info with
  | none=>
   simp only[disconnectTalker,hinfo,hfind]
   rw[disconnect_self hfind,books_set_self hinfo]
  | some node=>
   simp only[disconnectTalker,hinfo,hfind]
   rw[←bookOf_disconnect (hnodup _ hmem) hfind]
   cases s.streamOutputs[m.talkerUniqueId.toNat]? with
   | none=>apply books_setInfo
   | some output=>
    simp only
    split_ifs<;>rw[books_setInfo,getTalkerStreamInfo_book]

lemma getState_books (m:CommandResponse) (s:State) : books (getState m s).1=books s := by
 simp only[getState]
 split
 · rename_i info output hinfo houtput
   rw[books_setInfo,getTalkerStreamInfo_book]
   exact books_set_self hinfo
 · rfl

section
variable (hlen:s.talkerStreamInfos.length=s.streamOutputs.length)
include hlen

lemma books_modify_invalid
 (h:¬validTalkerUnique m.talkerUniqueId s=true) (f:Book → Book) :
 (books s).modify m.talkerUniqueId.toNat f=books s := by
 apply books_modify_absent
 rw[validTalkerUnique,Bool.not_eq_true,Option.isSome_eq_false_iff,Option.isNone_iff_eq_none,
  List.getElem?_eq_none_iff] at h
 rw[List.getElem?_eq_none_iff]
 omega

lemma connectState_books : books (connectState m env s)=
  (books s).modify m.talkerUniqueId.toNat (Book.connect (pairOf m)) := by
 rw[connectState]
 split
 · rw[←connectTalker_books m env s]
   simp only
   split<;>rfl
 · rename_i hinvalid
   rw[books_modify_invalid hlen hinvalid]
   rfl

lemma disconnectState_books
 (hnodup:∀b∈books s,b.pairs.Nodup) : books (disconnectState m env s)=
  (books s).modify m.talkerUniqueId.toNat (Book.disconnect (pairOf m)) := by
 rw[disconnectState]
 split
 · exact disconnectTalker_books m env s hnodup
 · rename_i hinvalid
   rw[books_modify_invalid hlen hinvalid]
   rfl

end

lemma getStateState_books : books (getStateState m s)=books s := by
 rw[getStateState]
 split
 · exact getState_books m s
 · rfl

lemma receive_books (hlen:s.talkerStreamInfos.length=s.streamOutputs.length)
 (hnodup:∀b∈books s,b.pairs.Nodup) (hmine:m.talkerEntityId=myId) :
 books (receive myId m env s)=(books s).modify m.talkerUniqueId.toNat (Book.handle m) := by
 have hself:(books s).modify m.talkerUniqueId.toNat id=books s:=List.modify_id ..
 rw[receive,if_pos hmine,Book.handle]
 cases dispatch m.messageType with
 | none=>exact hself.symm
 | some kind=>
  cases kind with
  | talkerConnectTXCmd=>exact connectState_books hlen
  | talkerDisconnectTXCmd=>exact disconnectState_books hlen hnodup
  | talkerGetTXState=>exact getStateState_books.trans hself.symm
  | _=>exact hself.symm

lemma update_books (s:State) : books (openavbAcmpSMTalkerUpdateStreamInfo stream s)=books s := by
 rw[openavbAcmpSMTalkerUpdateStreamInfo]
 split
 · rfl
 · split
   · split
     · rfl
     · rename_i info hinfo
       split
       · rfl
       · rw[←books_set_self hinfo]
         apply books_setInfo
   · rfl

/-! ## The deferred responses of an ACMP talker -/

def connectedTo (i:Nat) (s:State) : List ListenerPair := ((s.talkerStreamInfos[i]?).map listeners).getD []
def isConnected (m:CommandResponse) (s:State) : Bool := decide (pairOf m∈connectedTo m.talkerUniqueId.toNat s)
def waitingAt (i:Nat) (s:State) : Option CommandResponse :=
 (s.talkerStreamInfos[i]?).bind TalkerStreamInfo.waitingOnTalker
def respondsTo (response command:CommandResponse) : Bool :=
 decide (response.talkerUniqueId=command.talkerUniqueId ∧ pairOf response=pairOf command ∧
  response.controllerEntityId=command.controllerEntityId ∧
  response.sequenceId=command.sequenceId)
def answersTo (x:Sent) (command:CommandResponse) : Bool :=
 decide (x.messageType=connectTxResponse)&&respondsTo x.message command
def newlySent (s s':State) : List Sent := s'.sent.drop s.sent.length
def carries (stream i:Nat) (s:State) : Bool :=
 (s.streamOutputs[i]?).any fun output=>decide (output.stream=some stream)

variable {s':State} {info':TalkerStreamInfo} {i:Nat}

section
variable (h:s.talkerStreamInfos[i]? = some info)
include h

lemma connectedTo_of : connectedTo i s=listeners info := by
 rw[connectedTo,h]
 rfl
lemma waitingAt_of : waitingAt i s=info.waitingOnTalker := by
 rw[waitingAt,h]
 rfl

lemma infos_setInfo (j:Nat) : (setInfo i info' s).talkerStreamInfos[j]?=
  if j=i then some info' else s.talkerStreamInfos[j]? := by
 have hlt:i<s.talkerStreamInfos.length:=(List.getElem?_eq_some_iff.1 h).1
 rw[setInfo]
 by_cases hj:i=j
 · simp[hj▸hlt,hj]
 · simp[hj,Ne.symm hj]

lemma connectedTo_setInfo (j:Nat) :
 connectedTo j (setInfo i info' s)=if j=i then listeners info' else connectedTo j s := by
 rw[connectedTo,infos_setInfo h]
 split<;>rfl
lemma waitingAt_setInfo (j:Nat) :
 waitingAt j (setInfo i info' s)=if j=i then info'.waitingOnTalker else waitingAt j s := by
 rw[waitingAt,infos_setInfo h]
 split<;>rfl

end

structure Quiet (m:CommandResponse) (s s':State) : Prop where
 connected:∀i,connectedTo i s' ⊆ connectedTo i s
 waiting:∀i,waitingAt i s'=waitingAt i s
 sent:∀x∈newlySent s s',x.messageType=connectTxResponse → answersTo x m=true

structure Fresh (m:CommandResponse) (s s':State) : Prop where
 absent:isConnected m s=false
 connected:∀i,connectedTo i s'=
  if i=m.talkerUniqueId.toNat then connectedTo i s++[pairOf m] else connectedTo i s
 waiting:∃w,respondsTo w m=true ∧ ∀i,waitingAt i s'=
  if i=m.talkerUniqueId.toNat then some w else waitingAt i s
 sent:newlySent s s'=[]

lemma newlySent_txResponse (hsent:s'.sent=s.sent) (messageType:UInt8)
 (response:CommandResponse) (error:UInt8) :
 newlySent s (txResponse messageType response error s')=[⟨messageType,response,error⟩] := by
 rw[txResponse,hsent]
 exact drop_left ..
lemma newlySent_same (hsent:s'.sent=s.sent) : newlySent s s'=[] := by
 rw[newlySent,hsent]
 exact drop_length

lemma quiet_refl (m:CommandResponse) (s:State) : Quiet m s s where
 connected _ := Subset.refl _
 waiting _:=rfl
 sent:=by
  intro x hx
  rw[newlySent_same rfl] at hx
  cases hx

lemma listeners_delete_subset (info:TalkerStreamInfo) (node:Nat) : listeners {info with
  connectedListeners:=info.connectedListeners.map fun l=>openavbListDelete l node
  connectionCount:=info.connectionCount-1} ⊆ listeners info := by
 cases hlist:info.connectedListeners with
 | none=>simp[listeners]
 | some list=>
  simp only[listeners,hlist,Option.map_some,Nodes.toList,entries_delete]
  exact map_subset _ (filter_subset_self _)

section
variable {messageType error:UInt8}
 (hresponse:messageType=connectTxResponse → respondsTo response m=true)
include hresponse

lemma quiet_txResponse (hsent:s'.sent=s.sent)
 (hconnected:∀i,connectedTo i s' ⊆ connectedTo i s)
 (hwaiting:∀i,waitingAt i s'=waitingAt i s) : Quiet m s (txResponse messageType response error s') where
 connected := hconnected
 waiting:=hwaiting
 sent:=by
  intro x hx htype
  rw[newlySent_txResponse hsent,mem_singleton] at hx
  subst hx
  rw[answersTo,decide_eq_true htype,hresponse htype]
  rfl

lemma quiet_reply : Quiet m s (txResponse messageType response error s) :=
 quiet_txResponse hresponse rfl (fun _=>Subset.refl _) (fun _=>rfl)

lemma quiet_setInfo (h:s.talkerStreamInfos[i]? = some info) (hlisteners:listeners info' ⊆ listeners info)
 (hwaiting:info'.waitingOnTalker=info.waitingOnTalker) :
 Quiet m s (txResponse messageType response error (setInfo i info' s)) := by
 have hsent:(setInfo i info' s).sent=s.sent:=rfl
 apply quiet_txResponse hresponse hsent
 · intro j
   rw[connectedTo_setInfo h]
   split
   · rename_i hj
     rw[hj,connectedTo_of h]
     exact hlisteners
   · exact Subset.refl _
 · intro j
   rw[waitingAt_setInfo h]
   split
   · rename_i hj
     rw[hj,waitingAt_of h,hwaiting]
   · rfl

end

lemma info_of_valid (hlen:s.talkerStreamInfos.length=s.streamOutputs.length)
 (hvalid:validTalkerUnique m.talkerUniqueId s=true) :
 ∃info output,s.talkerStreamInfos[m.talkerUniqueId.toNat]? = some info ∧
  s.streamOutputs[m.talkerUniqueId.toNat]? = some output := by
 obtain ⟨output,houtput⟩:=Option.isSome_iff_exists.1 hvalid
 have hlt:=(List.getElem?_eq_some_iff.1 houtput).1
 rw[←hlen] at hlt
 exact ⟨_,output,getElem?_eq_getElem hlt,houtput⟩

lemma connectState_cases (hlen:s.talkerStreamInfos.length=s.streamOutputs.length)
 (hrun:(env.runTalker&&env.allocated)=true) : Quiet m s (connectState m env s) ∨ Fresh m s (connectState m env s) := by
 rw[connectState]
 split
 · rename_i hvalid
   obtain ⟨info,output,hinfo,houtput⟩:=info_of_valid hlen hvalid
   cases hfind:findListenerPairNodeFromCommand m info with
   | some node=>
    left
    simp only[connectTalker,hinfo,hfind]
    split
    · exact quiet_refl m s
    · apply quiet_reply
      simp[respondsTo,pairOf]
   | none=>
    right
    have hnot:pairOf m∉listeners info:=findListenerPair_none_iff.1 hfind
    obtain ⟨hstarted,hkept⟩:=Bool.and_eq_true_iff.1 hrun
    simp only[connectTalker,hinfo,hfind,houtput,hstarted,hkept,Bool.or_true,if_true]
    rw[if_neg (by simp)]
    refine ⟨?_,?_,?_,newlySent_same rfl⟩
    · rw[isConnected,connectedTo_of hinfo,decide_eq_false hnot]
    · intro j
      rw[connectedTo_setInfo hinfo]
      split
      · rename_i hj
        rw[hj,connectedTo_of hinfo,listeners,Option.map_some,Option.getD_some,toList_new,toList_listenersOrNew]
      · rfl
    · refine ⟨_,?_,fun j=>waitingAt_setInfo hinfo j⟩
      simp[respondsTo,pairOf]
 · left
   apply quiet_reply
   simp[respondsTo]

lemma getTalkerStreamInfo_waiting (info:TalkerStreamInfo) :
 (openavbAVDECCGetTalkerStreamInfo output streams info).waitingOnTalker=info.waitingOnTalker := by
 simp only[openavbAVDECCGetTalkerStreamInfo]
 split
 · rfl
 · split_ifs<;>rfl

lemma getTalkerStreamInfo_listeners (info:TalkerStreamInfo) :
 listeners (openavbAVDECCGetTalkerStreamInfo output streams info)=listeners info :=
 congrArg Book.pairs (getTalkerStreamInfo_book output streams info)

lemma disconnectState_quiet (hlen:s.talkerStreamInfos.length=s.streamOutputs.length) :
 Quiet m s (disconnectState m env s) := by
 have hother:disconnectTxResponse=connectTxResponse → ∀r,respondsTo r m=true:=by
  intro h
  cases h
 rw[disconnectState]
 split
 · rename_i hvalid
   obtain ⟨info,output,hinfo,houtput⟩:=info_of_valid hlen hvalid
   cases hfind:findListenerPairNodeFromCommand m info with
   | none=>
    simp only[disconnectTalker,hinfo,hfind]
    exact quiet_reply fun h=>hother h _
   | some node=>
    simp only[disconnectTalker,hinfo,hfind,houtput]
    have hsubset:=getTalkerStreamInfo_listeners output s.streams _ ▸
     listeners_delete_subset info node
    have hwaiting:=getTalkerStreamInfo_waiting output s.streams {info with
     connectedListeners:=info.connectedListeners.map fun l=>openavbListDelete l node
     connectionCount:=info.connectionCount-1}
    split
    · exact quiet_setInfo (fun h=>hother h _) hinfo hsubset hwaiting
    · exact quiet_setInfo (fun h=>hother h _) hinfo hsubset hwaiting
 · exact quiet_reply fun h=>hother h _

lemma getStateState_quiet : Quiet m s (getStateState m s) := by
 have hother:getTxStateResponse=connectTxResponse → ∀r,respondsTo r m=true:=by
  intro h
  cases h
 rw[getStateState]
 split
 · simp only[getState]
   split
   · rename_i info output hinfo houtput
     apply quiet_setInfo (fun h=>hother h _) hinfo
     · rw[getTalkerStreamInfo_listeners]
       exact Subset.refl _
     · exact getTalkerStreamInfo_waiting ..
   · exact quiet_reply fun h=>hother h _
 · exact quiet_reply fun h=>hother h _

lemma getConnectionState_quiet : Quiet m s (getConnectionState m s) := quiet_reply nofun

lemma receive_cases (hlen:s.talkerStreamInfos.length=s.streamOutputs.length)
 (hrun:(env.runTalker&&env.allocated)=true) : Quiet m s (receive myId m env s) ∨
  m.talkerEntityId=myId ∧ dispatch m.messageType=some .talkerConnectTXCmd ∧
   Fresh m s (receive myId m env s) := by
 rw[receive]
 split
 · rename_i hmine
   split
   · rename_i hkind
     exact (connectState_cases hlen hrun).imp_right fun h=>⟨hmine,hkind,h⟩
   · exact .inl (disconnectState_quiet hlen)
   · exact .inl getStateState_quiet
   · exact .inl getConnectionState_quiet
   · exact .inl (quiet_refl m s)
 · exact .inl (quiet_refl m s)

structure Deferred (w:CommandResponse) (i:Nat) (s s':State) : Prop where
 connected:∀j,connectedTo j s'=connectedTo j s
 waiting:∀j,waitingAt j s'=if j=i then none else waitingAt j s
 sent:∃response,newlySent s s'=[⟨connectTxResponse,response,statusSuccess⟩] ∧
  respondsTo response w=true
 carries:∀stream j,carries stream j s'=carries stream j s

lemma awaits_eq (s:State) (i:Nat) : awaits stream s i=((waitingAt i s).isSome&&carries stream i s) := by
 rw[awaits,waitingAt]
 cases s.talkerStreamInfos[i]?<;>rfl

lemma carries_modify (f:CommandResponse) (i:Nat) (s:State) (stream j:Nat) :
 carries stream j {s with streamOutputs:=s.streamOutputs.modify i (saveStream f)}=carries stream j s := by
 rw[carries,carries,getElem?_modify]
 split
 · cases s.streamOutputs[j]?<;>rfl
 · cases s.streamOutputs[j]?<;>rfl

lemma update_cases (hvalid:∀i,awaits stream s i=true →
 (s.streams stream).destValid=true) : ((∀i<s.talkerStreamInfos.length,awaits stream s i=false) ∧
  openavbAcmpSMTalkerUpdateStreamInfo stream s=s) ∨
 ∃i w,i<s.talkerStreamInfos.length ∧ awaits stream s i=true ∧ waitingAt i s=some w ∧
  Deferred w i s (openavbAcmpSMTalkerUpdateStreamInfo stream s) ∧
  (openavbAcmpSMTalkerUpdateStreamInfo stream s).control=s.control := by
 cases hfind:(range s.talkerStreamInfos.length).find? (awaits stream s) with
 | none=>
  left
  constructor
  · intro i hi
    have hnone:=find?_eq_none.1 hfind i (mem_range.2 hi)
    simpa using hnone
  · rw[openavbAcmpSMTalkerUpdateStreamInfo,hfind]
 | some i=>
  right
  have hawaits:=find?_some hfind
  have hlt:=mem_range.1 (mem_of_find?_eq_some hfind)
  have hinfo:=getElem?_eq_getElem hlt
  generalize s.talkerStreamInfos[i]=info at hinfo
  have hwaiting:(waitingAt i s).isSome=true:=by
   rw[awaits_eq,Bool.and_eq_true] at hawaits
   exact hawaits.1
  obtain ⟨w,hw⟩:=Option.isSome_iff_exists.1 hwaiting
  refine ⟨i,w,hlt,hawaits,hw,?_⟩
  have hw':info.waitingOnTalker=some w:=by rw[←waitingAt_of hinfo,hw]
  simp only[openavbAcmpSMTalkerUpdateStreamInfo,hfind,hvalid i hawaits,hinfo,hw']
  refine ⟨⟨?_,?_,?_,?_⟩,rfl⟩
  · intro j
    refine (connectedTo_setInfo hinfo j).trans ?_
    split
    · rename_i hj
      rw[hj,connectedTo_of hinfo]
      rfl
    · rfl
  · intro j
    exact waitingAt_setInfo hinfo j
  · refine ⟨_,newlySent_txResponse rfl ..,?_⟩
    simp[respondsTo,deferredResponse,pairOf]
  · intro other j
    exact carries_modify _ i s other j

end OpenAvnu.AcmpTalker
