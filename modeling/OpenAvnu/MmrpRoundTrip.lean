import OpenAvnu.Grouping
import OpenAvnu.Mmrp
import OpenAvnu.MrpRoundTrip

/-!
# MMRP frames

Service requirements are written with their events one byte further back than they are read.
-/

namespace OpenAvnu.MmrpRoundTrip

open Bytes PackedDigits Mrp MrpEncode MrpDecode MrpVectors MrpMessages MrpFrames MrpFraming List
open MrpRoundTrip Mmrp Grouping MmrpValue

lemma mac_undoes : Undoes macFormat macReader id where
 firstLength := rfl
 first:=by
  intro v hv
  cases v with
  | svcreq service=>simp[macFormat,type] at hv
  | macvec macaddr=>
   rw[firstBytes_exact (by simp[macFormat])]
   simp only[macFormat,macReader,beValue_beBytes,@ofNat_field 6 48 rfl,id]
 next:=by
  intro last v _ hnext
  simp only[macFormat,decide_eq_true_eq] at hnext
  exact ⟨rfl,hnext⟩
 padding:=rfl
 bounded:=by
  intro v _
  cases v<;>simp[macFormat]
 once:=rfl

def isAttribute {κ α:Type} : Call κ α → Bool
 | .leaveAll _=>false
 | .attribute _ _=>true
def attributeCalls {κ α:Type} (calls:List (Call κ α)) : List (Call κ α) := calls.filter isAttribute

variable {κ α:Type}

@[simp] lemma attributeCalls_append (left right:List (Call κ α)) :
 attributeCalls (left++right)=attributeCalls left++attributeCalls right := by
 simp[attributeCalls]
@[simp] lemma attributeCalls_heard (c:Prop) [Decidable c] (kind:κ) :
 attributeCalls (if c then [.leaveAll kind] else []:List (Call κ α))=[] := by
 split<;>rfl
def newCalls (members:List (Attribute MmrpValue)) : List (Call MmrpType MmrpValue) :=
 members.map fun a=>.attribute .NEW a.value
@[simp] lemma attributeCalls_newCalls (members:List (Attribute MmrpValue)) :
 attributeCalls (newCalls members)=newCalls members := by
 simp[attributeCalls,newCalls,isAttribute]

section Service
variable {stack:List Nat} {l:List (Attribute MmrpValue)} {s1 s2:Nat}

lemma vectorsFrom_eq_nil (fmt:Format MmrpValue) (skip:Nat)
 (hnone:∀a∈l.drop skip,fmt.selects a.value=true → a.applicant.tx=false) : vectorsFrom fmt skip l=[] := by
 induction l generalizing skip with
 | nil=>cases skip<;>rfl
 | cons a rest ih=>
  cases skip with
  | succ skip=>exact ih skip (by simpa using hnone)
  | zero=>
   rw[vectorsFrom,if_neg,ih 0 fun b hb=>hnone b (mem_cons_of_mem _ hb)]
   intro hstart
   simp only[Bool.and_eq_true] at hstart
   simp[hnone a mem_cons_self hstart.1.1] at hstart

lemma svc_continues {v w:MmrpValue} (hv:v.type=.svcreq) (hw:w.type=.svcreq)
 (hzero:v.key=0) (hone:w.key=1) : (svcFormat stack).continues ((svcFormat stack).advance v) w=true := by
 cases v with
 | macvec macaddr=>cases hv
 | svcreq service=>
  cases w with
  | macvec macaddr=>cases hw
  | svcreq next=>
   have hservice:service=0:=BitVec.eq_of_toNat_eq hzero
   have hnext:next=1:=BitVec.eq_of_toNat_eq hone
   subst hservice hnext
   simp[svcFormat]

lemma svc_vectors (harranged:Arranged (fun a=>a.value.type) (fun a=>a.value.key) l)
 (hvalues:∀a∈l,a.value.type=.svcreq → a.value.key≤1) :
 vectorsFrom (svcFormat stack) 0 l=[] ∨ ∃v,vectorsFrom (svcFormat stack) 0 l=[v] := by
 induction l with
 | nil=>exact .inl rfl
 | cons a rest ih=>
  have hrest:=ih harranged.tail fun b hb=>hvalues b (mem_cons_of_mem _ hb)
  rw[vectorsFrom]
  split
  swap
  · exact hrest
  next hstart=>
  simp only[Bool.and_eq_true,svcFormat,decide_eq_true_eq] at hstart
  refine .inr ⟨_,congrArg _ (vectorsFrom_eq_nil _ _ ?_)⟩
  intro b hb hselects
  -- a further requirement can only be the one that directly follows the head
  have hbrest:=mem_of_mem_drop hb
  have htype:b.value.type=a.value.type:=
   (of_decide_eq_true hselects).trans hstart.1.1.symm
  have hhead:=harranged.grouped.1 b hbrest htype
  have hsorted:=pairwise_cons.1 harranged.sorted
  have hbone:=hvalues b (mem_cons_of_mem _ hbrest) (of_decide_eq_true hselects)
  cases rest with
  | nil=>simp at hbrest
  | cons c more=>
   have hctype:c.value.type=a.value.type:=by simpa using hhead
   have hac:a.value.key<c.value.key:=hsorted.1 c mem_cons_self hctype.symm
   have hmore:b∉more:=fun hmore=>by
    have hcb:c.value.key<b.value.key:=
     (pairwise_cons.1 hsorted.2).1 b hmore (hctype.trans htype.symm)
    omega
   cases hn:(runOf (svcFormat stack) a.value (c::more)).length with
   | succ n=>
    rw[hn,drop_succ_cons] at hb
    exact absurd (mem_of_mem_drop hb) hmore
   | zero=>
    obtain rfl|hmem:=mem_cons.1 hbrest
    swap
    · exact absurd hmem hmore
    have hnext:(svcFormat stack).continues ((svcFormat stack).advance a.value) b.value=
     true:=svc_continues hstart.1.1 (of_decide_eq_true hselects) (by omega) (by omega)
    cases htx:b.applicant.tx with
    | false=>rfl
    | true=>
     rw[runOf_cons_of_continues hselects htx hnext] at hn
     cases hn

variable {v:List (Attribute MmrpValue)}

section
variable (hvector:IsVector (svcFormat stack) v) (hvalues:∀a∈v,a.value.key≤1)
include hvector hvalues

lemma svc_shape : (∃a service,v=[a] ∧ a.value=.svcreq service ∧ service.toNat≤1) ∨
  ∃a b,v=[a,b] ∧ a.value=.svcreq 0 ∧ b.value=.svcreq 1 := by
 cases v with
 | nil=>exact hvector.elim
 | cons a run=>
  obtain ⟨hselects,-,-,hrun⟩:=hvector
  have hkey:=hvalues a mem_cons_self
  cases hvalue:a.value with
  | macvec macaddr=>simp[svcFormat,hvalue,type] at hselects
  | svcreq service=>
   rw[hvalue] at hkey hrun
   cases run with
   | nil=>exact .inl ⟨a,service,rfl,hvalue,hkey⟩
   | cons b more=>
    obtain ⟨-,hb,hmore⟩:=runOf_cons_inv hrun
    have hbvalue:b.value=.svcreq (service+1):=of_decide_eq_true hb
    have hbkey:=hvalues b (by simp)
    rw[hbvalue] at hbkey
    have hservice:service=0:=by
     simp only[key] at hkey hbkey
     bv_omega
    subst hservice
    cases more with
    | nil=>exact .inr ⟨a,b,rfl,hvalue,hbvalue⟩
    | cons c rest=>
     obtain ⟨-,hc,-⟩:=runOf_cons_inv hmore
     have hcvalue:c.value=.svcreq (0+1+1):=of_decide_eq_true hc
     have hckey:=hvalues c (by simp)
     rw[hcvalue] at hckey
     exact absurd hckey (by decide)

lemma readBody_svc
 (event:UInt8) (tail:List UInt8) :
 ∃first,bodyOf (svcFormat stack) v=first::0::packedEvents (svcFormat stack) v ∧
  readBody svcReader v.length (first::0::event::tail)=(newCalls v,.ok (event::tail)) := by
 have hlong:¬tail.length+1+1+1<3:=by omega
 rcases svc_shape hvector hvalues with ⟨a,service,rfl,ha,hle⟩|⟨a,b,rfl,ha,hb⟩
 · refine ⟨UInt8.ofNat service.toNat,?_,?_⟩
   · simp[bodyOf,ha,firstBytes,svcFormat,beBytes,fours,foursBytes]
   · simp[readBody,svcReader,packedBytes,valueWalk,unpackDigits,eventWalk,PduEvent.ofCode,
      beValue,newCalls,hle,ha]
 · refine ⟨0,?_,?_⟩
   · simp[bodyOf,ha,firstBytes,svcFormat,beBytes,fours,foursBytes]
   · simp[readBody,svcReader,packedBytes,valueWalk,unpackDigits,eventWalk,PduEvent.ofCode,
      beValue,newCalls,ha,hb]

end

lemma readVectors_svc_leftover (event:UInt8) (fuel:Nat) (seen:List MmrpType) :
 attributeCalls (readVectors svcReader fuel seen [event,0,0,0,0]).1=[] ∧
  ∀seen' rest,(readVectors svcReader fuel seen [event,0,0,0,0]).2=.ok (seen',rest) →
   rest=[0,0,0,0,0] := by
 cases fuel with
 | zero=>simp[readVectors,attributeCalls]
 | succ fuel=>
  by_cases hzero:event=0
  · subst hzero
    simp[readVectors,attributeCalls]
  · rw[readVectors,if_neg (by simp[hzero])]
    dsimp only
    split
    · simp only[svcReader,Bool.false_eq_true]
      exact ⟨attributeCalls_heard _ _,by simp⟩
    next hvalues=>
    have hbody:readBody svcReader ((event.toNat*256+(0:UInt8).toNat)%8192) [0,0,0]=([],.error .malformed):=by
     rw[readBody]
     simp only[svcReader]
     rw[if_pos]
     have:(0:UInt8).toNat=0:=rfl
     simp only[length_cons,length_nil]
     omega
    simp only[hbody,append_nil]
    exact ⟨attributeCalls_heard _ _,by simp⟩

lemma readMessages_zeros (fuel:Nat) (seen:List MmrpType) :
 (readMessages (mmrpDispatch 0) fuel 0 seen [0,0,0,0,0]).1=[] := by
 rcases fuel with _|_|fuel<;>simp[readMessages]
lemma svc_proper (s1 s2:Nat) : Proper (svcFormat [s1,s2]) where
 first := by
  intro v _
  cases v<;>simp[svcFormat]
 padding:=rfl

lemma readMessages_svc (hvector:IsVector (svcFormat [s1,s2]) v)
 (hvalues:∀a∈v,a.value.key≤1) (lva:Bool) (fuel endmarks:Nat) (seen:List MmrpType) :
 ∃n data,(readMessages (mmrpDispatch 0) (fuel+1) endmarks seen
  (message (svcFormat [s1,s2]) (bodyBytes (svcFormat [s1,s2]) lva [v])++[0,0])).1=
   (readVectors svcReader n seen data).1 ∧
  attributeCalls (readVectors svcReader n seen data).1=newCalls v := by
 have hlength:v.length=1 ∨ v.length=2:=by
  rcases svc_shape hvector hvalues with ⟨a,service,rfl,-,-⟩|⟨a,b,rfl,-,-⟩
  · exact .inl rfl
  · exact .inr rfl
 obtain ⟨event,hevent⟩:∃event,packedEvents (svcFormat [s1,s2]) v=[event]:=by
  rw[←length_eq_one_iff,packedEvents_length (svc_proper s1 s2)]
  omega
 obtain ⟨first,hbody,hread⟩:=readBody_svc hvector hvalues event [0,0,0,0]
 rw[hevent] at hbody
 have hvectors:=readVectors_step (r:=svcReader) (by omega) (by omega) lva 9 seen hread
 obtain ⟨hleft,hrest⟩:=readVectors_svc_leftover event 9
  (if (lva&&!(svcReader.once&&decide (svcReader.kind∈seen)))=true then
   svcReader.kind::seen else seen)
 have hmessage:message (svcFormat [s1,s2]) (bodyBytes (svcFormat [s1,s2]) lva [v])++[0,0]=
  1::1::(vectorHeader v.length lva++first::0::event::[0,0,0,0]):=by
  rw[bodyBytes,vectorBytes_eq _ _ hvector.ne_nil,hbody]
  rfl
 have hdispatch:mmrpDispatch 0 1 1 (vectorHeader v.length lva++first::0::event::[0,0,0,0])=
  .vectors svcReader (vectorHeader v.length lva++first::0::event::[0,0,0,0]):=rfl
 have hfuel:(vectorHeader v.length lva++first::0::event::[0,0,0,0]).length+1=9+1:=by simp
 refine ⟨9+1,vectorHeader v.length lva++first::0::event::[0,0,0,0],?_,?_⟩
 · rw[hmessage,readMessages,if_neg (by simp),if_neg (by decide),hdispatch]
   dsimp only
   rw[hfuel,hvectors]
   split
   · rfl
   next seen' rest hok=>
   rw[hrest seen' rest hok]
   simp[readMessages_zeros]
 · rw[hvectors]
   simp only[attributeCalls_append,attributeCalls_heard,attributeCalls_newCalls,hleft,nil_append,append_nil]

lemma readMessages_svc_end {lva flag:Bool} {sent:List (List (Attribute MmrpValue))}
 (hsent:sent=[] ∨ ∃v,sent=[v]) (hvector:∀v∈sent,IsVector (svcFormat [s1,s2]) v)
 (hvalues:∀v∈sent,∀a∈v,a.value.key≤1) (fuel endmarks:Nat) (seen:List MmrpType) :
 ∃n data,(readMessages (mmrpDispatch 0) (fuel+1) endmarks seen
  (messageFor (svcFormat [s1,s2]) lva flag sent++[0,0])).1=(readVectors svcReader n seen data).1 ∧
  attributeCalls (readVectors svcReader n seen data).1=newCalls sent.flatten := by
 rcases hsent with rfl|⟨v,rfl⟩
 · cases flag with
   | false=>exact ⟨0,[],by simp[messageFor,readMessages,readVectors],rfl⟩
   | true=>
    have hmessage:messageFor (svcFormat [s1,s2]) lva true []++[0,0]=[1,1,32,0,0,0,0,0,0]:=by
     simp[messageFor,svcFormat,message,vectorHeader,beBytes]
    have hbody:readVectors svcReader 8 seen [32,0,0,0,0,0,0]=
     (if MmrpType.svcreq∈seen then [] else [.leaveAll .svcreq],.error .malformed):=by
     by_cases hseen:MmrpType.svcreq∈seen<;>simp[readVectors,svcReader,hseen]
    have hdispatch:mmrpDispatch 0 1 1 [32,0,0,0,0,0,0]=
     .vectors svcReader [32,0,0,0,0,0,0]:=rfl
    refine ⟨8,[32,0,0,0,0,0,0],?_,?_⟩
    · rw[hmessage,readMessages,if_neg (by decide),if_neg (by decide),hdispatch]
      simp[hbody]
    · rw[hbody]
      split<;>rfl
 · rw[flatten_cons,flatten_nil,append_nil]
   exact readMessages_svc (hvector v mem_cons_self) (hvalues v mem_cons_self) lva fuel
    endmarks seen

end Service

lemma attributeCalls_vectorCalls {kind:MmrpType} {lva:Bool}
 {sent:List (List (Attribute MmrpValue))} :
 attributeCalls (vectorCalls macFormat kind (memberCalls macFormat id) lva sent)=
  sent.flatMap (memberCalls macFormat id) := by
 have hmember:∀v:List (Attribute MmrpValue),
  attributeCalls (memberCalls macFormat id v:List (Call MmrpType MmrpValue))=memberCalls macFormat id v:=by
  intro v
  refine filter_eq_self.2 fun c hc=>?_
  obtain ⟨a,-,b,e,-,rfl⟩:=mem_memberCalls hc
  rfl
 induction sent generalizing lva with
 | nil=>rfl
 | cons v sent ih=>
  rw[vectorCalls,attributeCalls_append,attributeCalls_append,attributeCalls_heard,ih,hmember]
  rfl

/-- The joins behind the head of a run report what their own registrar says. -/
def JoinsAgree (head:Attribute MmrpValue) (run:List (Attribute MmrpValue)) : Prop :=
 ∀a∈run,a.applicant.sndmsg=.JOIN → registrarIn a.registrar=registrarIn head.registrar

def Faithful : List (Attribute MmrpValue) → Prop
 | []=>True
 | head::run=>
  match head.value with
  | .svcreq _=>∀a∈head::run,a.applicant.sndmsg=.NEW
  | .macvec _=>JoinsAgree head run

variable {v:List (Attribute MmrpValue)}

lemma faithful_svc_iff {stack:List Nat} (hvector:IsVector (svcFormat stack) v) :
 Faithful v↔∀a∈v,a.applicant.sndmsg=.NEW := by
 cases v with
 | nil=>exact hvector.elim
 | cons head run=>
  obtain ⟨hselects,-⟩:=hvector
  cases hvalue:head.value with
  | svcreq service=>simp[Faithful,hvalue]
  | macvec macaddr=>simp[svcFormat,hvalue,type] at hselects

lemma runEvent_eq_own_iff (head a:Attribute MmrpValue) : runEvent macFormat head a=ownEvent a ↔
  (a.applicant.sndmsg=.JOIN → registrarIn a.registrar=registrarIn head.registrar) := by
 by_cases hjoin:a.applicant.sndmsg=.JOIN
 · cases ha:registrarIn a.registrar<;>cases hh:registrarIn head.registrar <;>
    simp[runEvent,ownEvent,macFormat,hjoin,pduEvent,ha,hh]
 · simp[runEvent,hjoin]

lemma ownEvent_eq_new_iff (a:Attribute MmrpValue) : ownEvent a=some .NEW↔a.applicant.sndmsg=.NEW := by
 cases hmsg:a.applicant.sndmsg<;>cases hin:registrarIn a.registrar <;>
  simp[ownEvent,hmsg,hin,pduEvent]
lemma own_of_runEvent {head a:Attribute MmrpValue}
 (hsome:(runEvent macFormat head a).isSome=true) : (ownEvent a).isSome=true := by
 by_cases hjoin:a.applicant.sndmsg=.JOIN
 · simp[ownEvent,hjoin,pduEvent]
 · simpa[runEvent,hjoin] using hsome

lemma memberCalls_length (hsend:Sendable macFormat v) :
 (memberCalls macFormat id v:List (Call MmrpType MmrpValue)).length=
  (ownCalls id v:List (Call MmrpType MmrpValue)).length := by
 cases v with
 | nil=>rfl
 | cons head run=>
  have hsplit:(ownCalls id (head::run):List (Call MmrpType MmrpValue))=
   ownCalls id [head]++callsWith id ownEvent run:=ownCalls_append id [head] run
  rw[hsplit,memberCalls,length_append,length_append,
   callsWith_length id hsend.2,callsWith_length id fun a ha=>own_of_runEvent (hsend.2 a ha)]

lemma memberCalls_eq_own_iff (hvector:IsVector macFormat v) (hsend:Sendable macFormat v) :
 (memberCalls macFormat id v:List (Call MmrpType MmrpValue))=ownCalls id v↔Faithful v := by
 cases v with
 | nil=>exact hvector.elim
 | cons head run=>
  obtain ⟨hselects,-⟩:=hvector
  have hown:∀a∈run,(ownEvent a).isSome=true:=fun a ha=>
   own_of_runEvent (hsend.2 a ha)
  have hfaithful:Faithful (head::run)↔JoinsAgree head run:=by
   cases hvalue:head.value with
   | svcreq service=>simp[macFormat,hvalue,type] at hselects
   | macvec macaddr=>simp[Faithful,hvalue]
  have hsplit:(ownCalls id (head::run):List (Call MmrpType MmrpValue))=
   ownCalls id [head]++callsWith id ownEvent run:=ownCalls_append id [head] run
  rw[hfaithful,hsplit,memberCalls,append_cancel_left_eq,callsWith_inj id hsend.2 hown]
  exact forall₂_congr fun a _=>runEvent_eq_own_iff head a

section Frames
variable {s1 s2:Nat} {station:BitVec 48} {db:Database MmrpValue} {frame:List UInt8}

lemma mmrpTxpdu_frame (hframe:(mmrpTxpdu station [s1,s2] db).2=some frame) :
 ∃l' base macs macsLeft svcs svcsLeft outMacs outSvcs,
  Encodes macFormat maxFrameSize messageListAt db.lva.tx db.sendEmptyLeaveAllFlag db.attribList
   macs macsLeft outMacs ∧
  OnlyTx db.attribList l' ∧
  Encodes (svcFormat [s1,s2]) maxFrameSize base db.lva.tx db.sendEmptyLeaveAllFlag l' svcs
   svcsLeft outSvcs ∧
  (mmrpBuild [s1,s2] db).encoded=macs++svcs ∧
  frame=frameHeader mmrpAddr mmrpEtype station++(messageFor macFormat db.lva.tx db.sendEmptyLeaveAllFlag macs++
    (messageFor (svcFormat [s1,s2]) db.lva.tx db.sendEmptyLeaveAllFlag svcs++[0,0])) ∧
  messageFor macFormat db.lva.tx db.sendEmptyLeaveAllFlag macs++
   messageFor (svcFormat [s1,s2]) db.lva.tx db.sendEmptyLeaveAllFlag svcs≠[] := by
 obtain ⟨messages,hmessages,hne,-,rfl⟩:=frame_eq_some hframe
 obtain ⟨before,hbefore,hsvcok,hout,-,hencoded⟩:=append_messages hmessages
 obtain ⟨hroom,hbefore',-⟩:=requireRoom_messages hbefore
 rw[hroom] at hsvcok hout hencoded
 obtain ⟨start,hstart,hmacok,hmacout,hmacList,hmacEncoded⟩:=append_messages hbefore'
 cases hstart
 obtain ⟨macs,macsLeft,hmacs⟩:=emitVectors_of_ok mac_undoes.proper hmacok
 obtain ⟨svcs,svcsLeft,hsvcs⟩:=emitVectors_of_ok (svc_proper s1 s2) hsvcok
 have hmacBytes:before=messageFor macFormat db.lva.tx db.sendEmptyLeaveAllFlag macs:=
  hmacout.trans hmacs.bytes
 have hbytes:messages=before++messageFor (svcFormat [s1,s2]) db.lva.tx db.sendEmptyLeaveAllFlag svcs:=
  hout.trans (congrArg _ hsvcs.bytes)
 refine ⟨_,_,macs,macsLeft,svcs,svcsLeft,_,_,hmacs,?_,hsvcs,?_,?_,?_⟩
 · rw[hmacList]
   exact (emitVectors_touches _ _ _ _).onlyTx
 · rw[mmrpBuild,hroom,hencoded,hmacEncoded]
   exact congrArg₂ _ hmacs.encoded hsvcs.encoded
 · rw[hbytes,hmacBytes,append_assoc]
 · rwa[←hmacBytes,←hbytes]

variable {macs:List (List (Attribute MmrpValue))} {l:List (Attribute MmrpValue)}
 {macsLeft:List (List (Attribute MmrpValue))} {outMacs:Emitted MmrpValue} {flag:Bool}
 {base:Nat} {lva:Bool} {svcsLeft svcs:List (List (Attribute MmrpValue))}
 {l':List (Attribute MmrpValue)} {outSvcs:Emitted MmrpValue}

lemma mmrpParse_split
 (hmacs:Encodes macFormat maxFrameSize base lva flag l macs macsLeft outMacs)
 (svcs:List (List (Attribute MmrpValue))) :
 ∃fuel endmarks seen,(mmrpParse (frameHeader mmrpAddr mmrpEtype station++
  (messageFor macFormat lva flag macs++(messageFor (svcFormat [s1,s2]) lva flag svcs++[0,0])))).1=
  vectorCalls macFormat .macvec (memberCalls macFormat id) lva macs++
   (readMessages (mmrpDispatch 0) (fuel+1) endmarks seen
    (messageFor (svcFormat [s1,s2]) lva flag svcs++[0,0])).1 := by
 rw[mmrpParse,parseFrame_header rfl rfl station _ (by simp;omega)]
 by_cases hempty:macs=[]
 · subst hempty
   have hnone:messageFor macFormat lva flag []=[]:=by cases flag<;>rfl
   rw[hnone]
   exact ⟨_,0,[],rfl⟩
 have hback:∀v∈macs,ReadsBack macFormat macReader (memberCalls macFormat id) v:=fun v hv=>
  mac_undoes.readsBack rfl rfl (hmacs.isVector v hv) (hmacs.sendable v hv) fun _ _=>rfl
 rw[messageFor,if_pos hempty]
 generalize htail:messageFor (svcFormat [s1,s2]) lva flag svcs++[0,0]=tail
 have htailNe:tail≠[]:=by rw[←htail];simp
 obtain ⟨seen,-,hread⟩:=readMessages_sent (mmrpDispatch 0) mac_undoes.proper rfl (by decide)
  hmacs.isVector hback hmacs.room (fun _ _=>@not_mem_nil _ macReader.kind)
  (rfl:mmrpDispatch 0 2 6 ([]++(bodyBytes macFormat lva macs++0::0::tail))=_)
  (message macFormat (bodyBytes macFormat lva macs)++tail).length 0
 obtain ⟨fuel,hfuel⟩:∃fuel,(message macFormat (bodyBytes macFormat lva macs)++tail).length=fuel+1+1:=by
  refine ⟨(bodyBytes macFormat lva macs).length+tail.length+2,?_⟩
  simp[message,macFormat]
  omega
 refine ⟨fuel,1,seen,?_⟩
 rw[hread,hfuel,readMessages_endmark _ _ htailNe]
 rfl

lemma mmrpParse_messages {base':Nat}
 (hmacs:Encodes macFormat maxFrameSize base lva flag l macs macsLeft outMacs)
 (hsvcs:Encodes (svcFormat [s1,s2]) maxFrameSize base' lva flag l' svcs svcsLeft outSvcs)
 (hone:svcs=[] ∨ ∃v,svcs=[v]) (hvalues:∀v∈svcs,∀a∈v,a.value.key≤1) :
 ∃n data seen,(mmrpParse (frameHeader mmrpAddr mmrpEtype station++
  (messageFor macFormat lva flag macs++(messageFor (svcFormat [s1,s2]) lva flag svcs++[0,0])))).1=
   vectorCalls macFormat .macvec (memberCalls macFormat id) lva macs++(readVectors svcReader n seen data).1 ∧
  attributeCalls (readVectors svcReader n seen data).1=newCalls svcs.flatten := by
 obtain ⟨fuel,endmarks,seen,hparse⟩:=@mmrpParse_split s1 s2 station _ _ _ _ _ _ _ hmacs svcs
 obtain ⟨n,data,hend,hcalls⟩:=@readMessages_svc_end s1 s2 lva flag svcs hone hsvcs.isVector
  hvalues fuel endmarks seen
 exact ⟨n,data,seen,by rw[hparse,hend],hcalls⟩

lemma svcs_single (harranged:Arranged type key (l.map fun a=>a.value))
 (hvalues:∀a∈l,a.value.type=.svcreq → a.value.key≤1) (honly:OnlyTx l l')
 (hsvcs:Encodes (svcFormat [s1,s2]) maxFrameSize base lva flag l' svcs svcsLeft outSvcs) :
 (svcs=[] ∨ ∃v,svcs=[v]) ∧ ∀v∈svcs,∀a∈v,a.value.key≤1 := by
 have hsame:l'.map (fun a=>a.value)=l.map fun a=>a.value:=honly.map_eq _ fun _=>rfl
 have hvalues':∀a∈l',a.value.type=.svcreq → a.value.key≤1:=by
  intro a ha htype
  have hmem:a.value∈l.map fun a=>a.value:=by
   rw[←hsame]
   exact mem_map_of_mem ha
  obtain ⟨b,hb,hvalue⟩:=mem_map.1 hmem
  rw[←hvalue] at htype ⊢
  exact hvalues b hb htype
 constructor
 · rw[←hsame,arranged_map] at harranged
   rcases svc_vectors harranged hvalues' with hnil|⟨v,hv⟩
   · rw[hsvcs.split] at hnil
     exact .inl (append_eq_nil_iff.1 hnil).1
   · rw[hsvcs.split] at hv
     rcases append_eq_singleton_iff.1 hv with ⟨h,-⟩|⟨h,-⟩
     · exact .inl h
     · exact .inr ⟨v,h⟩
 · intro v hv a ha
   apply hvalues' a (hsvcs.sent_sublist.subset (mem_flatten.2 ⟨v,hv,ha⟩))
   exact of_decide_eq_true ((hsvcs.isVector v hv).selects a ha)

lemma flatMap_memberCalls_iff (hvector:∀v∈macs,IsVector macFormat v)
 (hsend:∀v∈macs,Sendable macFormat v) :
 (macs.flatMap (memberCalls macFormat id):List (Call MmrpType MmrpValue))=
  ownCalls id macs.flatten↔∀v∈macs,Faithful v := by
 induction macs with
 | nil=>simp[ownCalls,callsWith]
 | cons v macs ih=>
  have htail:=ih (fun w hw=>hvector w (mem_cons_of_mem _ hw))
   fun w hw=>hsend w (mem_cons_of_mem _ hw)
  rw[flatMap_cons,flatten_cons,ownCalls_append,List.forall_mem_cons,←htail,
   ← memberCalls_eq_own_iff (hvector v mem_cons_self) (hsend v mem_cons_self)]
  constructor
  · intro heq
    exact append_inj heq (memberCalls_length (hsend v mem_cons_self))
  · rintro ⟨hhead,hrest⟩
    rw[hhead,hrest]

lemma newCalls_eq_own_iff {members:List (Attribute MmrpValue)}
 (hown:∀a∈members,(ownEvent a).isSome=true) :
 newCalls members=ownCalls id members↔∀a∈members,a.applicant.sndmsg=.NEW := by
 have hnew:newCalls members=callsWith id (fun _=>some .NEW) members:=by
  simp[newCalls,callsWith]
 rw[hnew,ownCalls,callsWith_inj id (fun _ _=>rfl) hown]
 exact forall₂_congr fun a _=>eq_comm.trans (ownEvent_eq_new_iff a)

/-- Service requirements are new and, in every run of MAC addresses, joins agree with the head on
the registrar. -/
theorem mmrp_frame_roundtrip_iff
 (harranged:Arranged type key (db.attribList.map fun a=>a.value))
 (hvalues:∀a∈db.attribList,a.value.type=.svcreq → a.value.key≤1)
 (hframe:(mmrpTxpdu station [s1,s2] db).2=some frame) :
 attributeCalls (mmrpParse frame).1=ownCalls id (mmrpBuild [s1,s2] db).encoded.flatten ↔
  ∀v∈(mmrpBuild [s1,s2] db).encoded,Faithful v := by
 obtain ⟨l',base,macs,macsLeft,svcs,svcsLeft,outMacs,outSvcs,hmacs,honly,hsvcs,hencoded,
  rfl,-⟩:=mmrpTxpdu_frame hframe
 obtain ⟨hone,hsvcValues⟩:=svcs_single harranged hvalues honly hsvcs
 have hsvcOwn:∀a∈svcs.flatten,(ownEvent a).isSome=true:=by
  intro a ha
  obtain ⟨v,hv,hav⟩:=mem_flatten.1 ha
  exact own_of_sendable rfl (hsvcs.sendable v hv) a hav
 have hlength:(newCalls svcs.flatten).length=
  (ownCalls id svcs.flatten:List (Call MmrpType MmrpValue)).length:=by
  rw[ownCalls,callsWith_length id hsvcOwn,newCalls,length_map]
 have hsvcFaithful:(∀a∈svcs.flatten,a.applicant.sndmsg=.NEW)↔∀v∈svcs,Faithful v:=by
  simp only[mem_flatten,forall_exists_index,and_imp]
  constructor
  · intro hall v hv
    exact (faithful_svc_iff (hsvcs.isVector v hv)).2 fun a ha=>hall a v hv ha
  · intro hall a v hv ha
    exact (faithful_svc_iff (hsvcs.isVector v hv)).1 (hall v hv) a ha
 obtain ⟨n,data,seen,hparse,hcalls⟩:=
  @mmrpParse_messages _ _ station _ _ _ _ _ _ _ _ _ _ _ _ hmacs hsvcs hone hsvcValues
 rw[hparse,attributeCalls_append,attributeCalls_vectorCalls,hcalls,hencoded,
  flatten_append,ownCalls_append,List.forall_mem_append,←flatMap_memberCalls_iff hmacs.isVector
    hmacs.sendable,← hsvcFaithful,←newCalls_eq_own_iff hsvcOwn]
 constructor
 · intro heq
   exact append_inj' heq hlength
 · rintro ⟨hmac,hsvc⟩
   rw[hmac,hsvc]

end Frames

def sampleDatabase (second:RegistrarState) (service:Applicant) : Database MmrpValue where
 lva := ⟨.PASSIVE,false,.NONE⟩
 joinTimerRunning:=false
 lvTimerRunning:=false
 lvaTimerRunning:=true
 attribList:=
  [⟨.macvec 0x91E0F0000100,⟨.QA,true,.JOIN,.YES,some .AA⟩,⟨.IN,.NONE,0⟩⟩,
   ⟨.macvec 0x91E0F0000101,⟨.QA,true,.JOIN,.YES,some .AA⟩,⟨second,.NONE,0⟩⟩,⟨.svcreq 0,service,⟨.MT,.NONE,0⟩⟩]
 sendEmptyLeaveAllFlag:=false

lemma sampleDatabase_arranged (second:RegistrarState) (service:Applicant) : Arranged type key
  ((sampleDatabase second service).attribList.map fun a=>a.value) := ⟨by simp[sampleDatabase,Grouped,type],by
  simp[sampleDatabase,SortedWithin,type,key]⟩
def sampleFrame (event:UInt8) : List UInt8 := [1,128,194,0,0,32,17,34,51,68,85,102,136,246,0,
  2,6,0,2,145,224,240,0,1,0,42,0,0,1,1,0,1,0,0,event,0,0,0,0]

theorem mmrp_frame_roundtrip_sample : (mmrpTxpdu 0x112233445566 [0,0]
  (sampleDatabase .IN ⟨.AN,true,.NEW,.YES,some .VN⟩)).2=some (sampleFrame 0) ∧
  attributeCalls (mmrpParse (sampleFrame 0)).1=ownCalls id (mmrpBuild [0,0]
    (sampleDatabase .IN ⟨.AN,true,.NEW,.YES,some .VN⟩)).encoded.flatten := by
 have hframe:(mmrpTxpdu 0x112233445566 [0,0]
  (sampleDatabase .IN ⟨.AN,true,.NEW,.YES,some .VN⟩)).2=some (sampleFrame 0):=by decide
 refine ⟨hframe,(mmrp_frame_roundtrip_iff (sampleDatabase_arranged _ _) (by decide) hframe).2 ?_⟩
 have hencoded:(mmrpBuild [0,0]
  (sampleDatabase .IN ⟨.AN,true,.NEW,.YES,some .VN⟩)).encoded=
  [[⟨.macvec 0x91E0F0000100,⟨.QA,true,.JOIN,.YES,some .AA⟩,⟨.IN,.NONE,0⟩⟩,
   ⟨.macvec 0x91E0F0000101,⟨.QA,true,.JOIN,.YES,some .AA⟩,⟨.IN,.NONE,0⟩⟩],
   [⟨.svcreq 0,⟨.AN,true,.NEW,.YES,some .VN⟩,⟨.MT,.NONE,0⟩⟩]]:=by decide
 rw[hencoded]
 simp[Faithful,JoinsAgree]

/-- The second MAC address is reported as registered, and the service requirement as new. -/
theorem mmrp_join_misreported : Arranged type key
  ((sampleDatabase .MT ⟨.AA,true,.JOIN,.YES,some .VP⟩).attribList.map fun a=>a.value) ∧
  (mmrpTxpdu 0x112233445566 [0,0]
   (sampleDatabase .MT ⟨.AA,true,.JOIN,.YES,some .VP⟩)).2=some (sampleFrame 108) ∧
  (mmrpParse (sampleFrame 108)).1=
   [.attribute .JOININ (.macvec 0x91E0F0000100),.attribute .JOININ (.macvec 0x91E0F0000101),
    .attribute .NEW (.svcreq 0)] ∧
  ownCalls id (mmrpBuild [0,0]
   (sampleDatabase .MT ⟨.AA,true,.JOIN,.YES,some .VP⟩)).encoded.flatten=
   ([.attribute .JOININ (.macvec 0x91E0F0000100),.attribute .JOINMT (.macvec 0x91E0F0000101),
    .attribute .JOINMT (.svcreq 0)]:List (Call MmrpType MmrpValue)) :=
 ⟨sampleDatabase_arranged _ _,by decide,by decide,by decide⟩

end OpenAvnu.MmrpRoundTrip
