import OpenAvnu.MrpRoundTrip
import OpenAvnu.Mvrp

/-!
# MVRP frames

A frame that `mvrpTxpdu` sends is read back by `mvrpParse` as the attributes it was built from.
-/

namespace OpenAvnu.MvrpRoundTrip

open Bytes Mrp MrpEncode MrpVectors MrpMessages MrpFrames MrpFraming MrpRoundTrip Mvrp List

lemma vid_undoes : Undoes vidFormat vidReader id where
 firstLength := rfl
 first:=by
  intro vid _
  rw[firstBytes_exact (by simp[vidFormat])]
  simp only[vidFormat,vidReader,beValue_beBytes,@ofNat_field 2 16 rfl,id]
 next:=by
  intro last vid _ hnext
  simp only[vidFormat,decide_eq_true_eq] at hnext
  exact ⟨rfl,hnext⟩
 padding:=rfl
 bounded:=by simp[vidFormat]
 once:=rfl

variable {station:BitVec 48} {db:Database (BitVec 16)} {frame:List UInt8}

lemma mvrpTxpdu_frame (hframe:(mvrpTxpdu station db).2=some frame) : ∃sent left,
  Encodes vidFormat maxFrameSize messageListAt db.lva.tx db.sendEmptyLeaveAllFlag db.attribList
   sent left (mvrpEmitVidvectors db.lva.tx db.sendEmptyLeaveAllFlag messageListAt db.attribList) ∧
  (mvrpBuild db).encoded=sent ∧
  messageFor vidFormat db.lva.tx db.sendEmptyLeaveAllFlag sent≠[] ∧
  frame=frameHeader mvrpCustomerBridgeAddr mvrpEtype station++
   (messageFor vidFormat db.lva.tx db.sendEmptyLeaveAllFlag sent++[0,0]) := by
 obtain ⟨messages,hmessages,hne,-,rfl⟩:=frame_eq_some hframe
 obtain ⟨before,hbefore,hok,hout,-,hencoded⟩:=append_messages hmessages
 cases hbefore
 obtain ⟨sent,left,hencodes⟩:=emitVectors_of_ok vid_undoes.proper hok
 have hbytes:messages=messageFor vidFormat db.lva.tx db.sendEmptyLeaveAllFlag sent:=
  hout.trans hencodes.bytes
 exact ⟨sent,left,hencodes,hencoded.trans hencodes.encoded,by rwa[←hbytes],by rw[hbytes]⟩

lemma mvrpParse_empty : (mvrpParse (frameHeader mvrpCustomerBridgeAddr mvrpEtype station++
  (message vidFormat (vectorHeader 0 true++replicate vidFormat.attributeLength 0)++
   [0,0]))).1=[.leaveAll ()] := by
 rw[mvrpParse,parseFrame_header rfl rfl station _ (by decide)]
 decide

variable {sent:List (List (Attribute (BitVec 16)))}

section
variable (hne:sent≠[]) (hsent:∀v∈sent,IsVector vidFormat v)
include hne hsent

lemma mvrpParse_vectors
 (hroom:sent≠[] → cursorAfter vidFormat messageListAt sent+2 ≤ maxFrameSize) (lva:Bool) :
 mvrpParse (frameHeader mvrpCustomerBridgeAddr mvrpEtype station++
  (message vidFormat (bodyBytes vidFormat lva sent)++[0,0]))=
  ((if lva then [.leaveAll ()] else [])++sent.flatMap (foundCalls vidFormat vidReader),.ok ()) := by
 have hframed:Framed vidFormat vidReader:=vid_undoes.framed rfl
 rw[mvrpParse,parseFrame_header rfl rfl station _ (by simp[message]),
  ← @vectorCalls_first _ _ vidFormat _ rfl () _ hne]
 exact readMessages_single (mvrpDispatch 0) vid_undoes.proper rfl (by decide) hsent
  (fun v hv=>hframed.readsBack (hsent v hv)) hroom rfl

lemma mvrpParse_sent
 (hsend:∀v∈sent,Sendable vidFormat v) (hvids:∀v∈sent,∀a∈v,a.value.toNat≤0xFFF)
 (hroom:sent≠[] → cursorAfter vidFormat messageListAt sent+2 ≤ maxFrameSize) (lva:Bool) :
 mvrpParse (frameHeader mvrpCustomerBridgeAddr mvrpEtype station++
  (message vidFormat (bodyBytes vidFormat lva sent)++[0,0]))=
  ((if lva then [.leaveAll ()] else [])++ownCalls id sent.flatten,.ok ()) := by
 have hcalls:∀v∈sent,foundCalls vidFormat vidReader v=ownCalls id v:=fun v hv=>by
  rw[foundCalls_eq vid_undoes rfl (hsent v hv) (hsend v hv),takeWhile_eq_self_iff.2,memberCalls_own rfl id v]
  intro a ha
  simpa[vidReader] using hvids v hv a ha
 rw[mvrpParse_vectors hne hsent hroom,← @vectorCalls_first _ _ vidFormat _ rfl () _ hne,
  vectorCalls_once rfl () hcalls hne]

end

/-- `reported` are the attributes in the frame; one to be sent is missing only behind all of them in
a full frame. -/
theorem mvrp_frame_roundtrip (hsorted:db.attribList.Pairwise fun a b=>a.value<b.value)
 (hvids:∀a∈db.attribList,a.value.toNat≤0xFFF)
 (hframe:(mvrpTxpdu station db).2=some frame) : ∃reported,reported.Sublist db.attribList ∧
  reported.Pairwise (fun a b=>a.value<b.value) ∧
  (∀a∈reported,(ownEvent a).isSome=true) ∧
  (mvrpParse frame).1=
   (if db.lva.tx||(db.sendEmptyLeaveAllFlag&&reported.isEmpty) then [.leaveAll ()] else [])++
    ownCalls id reported ∧
  ∀a∈db.attribList,a.applicant.tx=true → a.applicant.encode=.YES →
   a∈reported ∨ (1996≤frame.length ∧ ∀b∈reported,b.value<a.value) := by
 obtain ⟨sent,left,hencodes,-,hne,rfl⟩:=mvrpTxpdu_frame hframe
 have hreported:=hencodes.sent_sublist
 have hown:∀a∈sent.flatten,(ownEvent a).isSome=true:=by
  intro a ha
  obtain ⟨v,hv,hav⟩:=mem_flatten.1 ha
  exact own_of_sendable rfl (hencodes.sendable v hv) a hav
 refine ⟨sent.flatten,hreported,hsorted.sublist hreported,hown,?_,?_⟩
 · by_cases hsent:sent=[]
   · subst hsent
     by_cases hflag:db.sendEmptyLeaveAllFlag=true
     · have hmessage:messageFor vidFormat db.lva.tx db.sendEmptyLeaveAllFlag []=
        message vidFormat (vectorHeader 0 true++replicate vidFormat.attributeLength 0):=by
        simp[messageFor,hflag,vidFormat]
       rw[hmessage,mvrpParse_empty]
       simp[hflag,ownCalls,callsWith]
     · simp[messageFor,hflag] at hne
   · have hvectors:∀v∈sent,∀a∈v,a.value.toNat≤0xFFF:=fun v hv a ha=>
      hvids a (hreported.subset (mem_flatten.2 ⟨v,hv,ha⟩))
     have hflatten:sent.flatten.isEmpty=false:=by
      simpa using hencodes.flatten_ne_nil hsent
     rw[messageFor,if_pos hsent,mvrpParse_sent hsent hencodes.isVector hencodes.sendable hvectors
      hencodes.room]
     simp[hflatten]
 · intro a ha htx hencode
   rcases hencodes.covers ha rfl htx hencode with hsent|hleft
   · exact .inl hsent
   · right
     obtain ⟨v,hv,-⟩:=mem_flatten.1 hleft
     have hfull:=hencodes.full (ne_nil_of_mem hv)
     have horder:=(pairwise_append.1 (hsorted.sublist hencodes.sublist)).2.2
     refine ⟨?_,fun b hb=>horder b hb a hleft⟩
     by_cases hsent:sent=[]
     · subst hsent
       simp[cursorAfter,vidFormat,maxFrameSize,messageListAt] at hfull
     · have hlength:=hencodes.bytes_length vid_undoes.proper hsent
       have hheader:(frameHeader mvrpCustomerBridgeAddr mvrpEtype station).length=messageListAt
         := frameHeader_length rfl rfl station
       have hsize:vidFormat.vectorSize=6:=rfl
       rw[hencodes.bytes] at hlength
       rw[hsize,maxFrameSize] at hfull
       simp only[length_append,hheader,length_cons,length_nil]
       omega

def leaveAllSample : Database (BitVec 16) where
 lva := ⟨.PASSIVE,true,.LVA⟩
 joinTimerRunning:=false
 lvTimerRunning:=true
 lvaTimerRunning:=true
 attribList:=
  [⟨3,⟨.QA,true,.JOIN,.YES,some .AA⟩,⟨.IN,.NONE,0⟩⟩,⟨4,⟨.LO,true,.IN,.OPTIONAL,some .VO⟩,⟨.LV,.NONE,0⟩⟩,
   ⟨5,⟨.AN,true,.NEW,.YES,some .VN⟩,⟨.MT,.NONE,0⟩⟩,⟨6,⟨.LO,true,.IN,.OPTIONAL,some .VO⟩,⟨.IN,.NONE,0⟩⟩,
   ⟨9,⟨.AA,true,.IN,.YES,some .VP⟩,⟨.MT,.NONE,0⟩⟩]
 sendEmptyLeaveAllFlag:=true

def leaveAllFrame : List UInt8 := [1,128,194,0,0,33,17,34,51,68,85,102,136,245,0,
  1,2,32,4,0,3,60,72,0,1,0,9,144,0,0,0,0]

theorem mvrp_frame_roundtrip_leaveAll : (mvrpTxpdu 0x112233445566 leaveAllSample).2=some leaveAllFrame ∧
  ∃reported,reported.Sublist leaveAllSample.attribList ∧
   (mvrpParse leaveAllFrame).1=.leaveAll ()::ownCalls id reported := by
 have hframe:(mvrpTxpdu 0x112233445566 leaveAllSample).2=some leaveAllFrame:=by decide
 obtain ⟨reported,hsublist,-,-,hcalls,-⟩:=
  mvrp_frame_roundtrip (by decide) (by decide) hframe
 exact ⟨hframe,reported,hsublist,hcalls⟩

end OpenAvnu.MvrpRoundTrip
