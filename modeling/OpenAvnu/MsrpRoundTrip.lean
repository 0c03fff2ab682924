import OpenAvnu.MrpRoundTrip
import OpenAvnu.Msrp

/-!
# MSRP messages

Listeners are read back if the value packed with them is from one to three.
-/

namespace OpenAvnu

open List

open Bytes Mrp MrpEncode MrpDecode MrpVectors MrpMessages MrpFraming MrpRoundTrip MrpFours Msrp

namespace MsrpRoundTrip

/-- An advertisement carries no failure information. -/
def advView (v:MsrpValue) : MsrpValue :=
 {blank .talkerAdv with talkListen:={v.talkListen with bridgeId:=0,failureCode:=0}}
def failedView (v:MsrpValue) : MsrpValue :=
 {blank .talkerFailed with talkListen:=v.talkListen}

/-- The receiver takes the transmitted priority for its neighbour's as well. -/
def domainView (v:MsrpValue) : MsrpValue :=
 {blank .domain with domain:={v.domain with
  neighborSrClassPriority:=v.domain.srClassPriority}}
def streamView (v:MsrpValue) : MsrpValue :=
 {blank .listener with talkListen:={emptyTalkListen with streamId:=v.streamId}}
def setSubstate (substate:Nat) (v:MsrpValue) : MsrpValue :=
 {v with substate:=BitVec.ofNat 32 substate}
def listenView (v:MsrpValue) : MsrpValue := {streamView v with substate:=v.substate}

lemma readTalker_talkerBytes (t:TalkListen) (rest:List UInt8) : readTalker (talkerBytes t++rest)=
  {t with
    bridgeId:=BitVec.ofNat 64 (takeField 8 rest).1
    failureCode:=BitVec.ofNat 8 (takeField 1 (takeField 8 rest).2).1} := by
 simp only[readTalker,talkerBytes,append_assoc,takeField_beBytes,@ofNat_field 8 64 rfl,
  @ofNat_field 6 48 rfl,@ofNat_field 2 16 rfl,@ofNat_field 1 8 rfl,@ofNat_field 4 32 rfl]

lemma talkerAdv_undoes : Undoes talkerAdvFormat (talkerReader .talkerAdv 25) advView where
 firstLength := rfl
 first:=by
  intro v _
  rw[firstBytes_exact (by simp[talkerAdvFormat,talkerBytes])]
  have hread:=readTalker_talkerBytes v.talkListen []
  rw[append_nil] at hread
  simp only[talkerAdvFormat,talkerReader,hread]
  rfl
 next:=by
  intro last v _ hnext
  simp only[talkerAdvFormat,vectorizeTalker,decide_eq_true_eq] at hnext
  refine ⟨rfl,?_⟩
  simp only[advView,hnext,talkerAdvFormat]
 padding:=rfl
 bounded:=by simp[talkerAdvFormat,talkerBytes]
 once:=rfl

lemma talkerFailed_undoes : Undoes talkerFailedFormat (talkerReader .talkerFailed 34) failedView where
 firstLength := rfl
 first:=by
  intro v _
  rw[firstBytes_exact (by simp[talkerFailedFormat,talkerBytes,failureBytes])]
  have hread:=readTalker_talkerBytes v.talkListen (failureBytes v.talkListen)
  simp only[failureBytes,takeField_beBytes,takeField_beBytes_end,@ofNat_field 8 64 rfl,
   @ofNat_field 1 8 rfl] at hread
  simp only[talkerFailedFormat,talkerReader,failedView,failureBytes,hread]
 next:=by
  intro last v _ hnext
  simp only[talkerFailedFormat,vectorizeTalker,decide_eq_true_eq] at hnext
  refine ⟨rfl,?_⟩
  simp only[failedView,hnext,talkerFailedFormat]
 padding:=rfl
 bounded:=by simp[talkerFailedFormat,talkerBytes,failureBytes]
 once:=rfl

lemma domain_undoes : Undoes domainFormat domainReader domainView where
 firstLength := rfl
 first:=by
  intro v _
  rw[firstBytes_exact (by simp[domainFormat])]
  simp only[domainFormat,domainReader,readDomain,domainView,append_assoc,
   takeField_beBytes,takeField_beBytes_end,@ofNat_field 1 8 rfl,@ofNat_field 2 16 rfl]
 next:=by
  intro last v _ hnext
  simp[domainFormat] at hnext
 padding:=rfl
 bounded:=by simp[domainFormat]
 once:=rfl

lemma listen_undoes : Undoes listenFormat listenReader streamView where
 firstLength := rfl
 first:=by
  intro v _
  rw[firstBytes_exact (by simp[listenFormat])]
  simp only[listenFormat,listenReader,streamView,beValue_beBytes,@ofNat_field 8 64 rfl]
 next:=by
  intro last v _ hnext
  simp only[listenFormat,decide_eq_true_eq] at hnext
  refine ⟨rfl,?_⟩
  simp only[streamView,hnext,listenFormat]
 padding:=rfl
 bounded:=by simp[listenFormat]
 once:=rfl

lemma msrpMessage_vectors (r:Reader MsrpType MsrpValue) (skipped:Nat → Nat) (length:UInt8)
 (hlength:length.toNat=r.firstLength) {body:List UInt8}
 (hmin:r.firstLength<body.length) (hmax:body.length < maxFrameSize) (tail:List UInt8) :
 msrpMessage r skipped length (beBytes 2 (body.length+2)++(body++0::0::tail))=
  .vectors r (body++0::0::tail) := by
 simp only[maxFrameSize] at hmax
 obtain ⟨l0,l1,hfield,hvalue⟩:=@beBytes_two (body.length+2) (by omega)
 have hcheck:checkAttribListLen r.firstLength (l0::l1::(body++0::0::tail))=some true:=by
  have hsecond:(l0::l1::(body++0::0::tail)).getD (body.length+2+1) 0=0:=by
   simp
  simp only[checkAttribListLen,hvalue,hsecond]
  rw[if_neg (by omega),if_neg (by simp),if_neg (by simp),if_neg (by simp)]
  rfl
 simp[msrpMessage,hlength,hfield,hcheck]

structure Understood (fmt:Format MsrpValue) (r:Reader MsrpType MsrpValue) : Prop where
 type:fmt.attributeType≠0
 once:fmt.lvaOnce=true
 own:fmt.joinsByHead=false
 dispatch:∀body tail,r.firstLength<body.length → body.length < maxFrameSize →
  msrpDispatch 0 fmt.attributeType (UInt8.ofNat fmt.attributeLength)
   (lengthField fmt body++(body++0::0::tail))=.vectors r (body++0::0::tail)
 empty:readMessages (msrpDispatch 0) ((message fmt (vectorHeader 0 true++
  List.replicate fmt.attributeLength 0)++[0,0]).length+1) 0 []
  (message fmt (vectorHeader 0 true++List.replicate fmt.attributeLength 0)++[0,0])=([.leaveAll r.kind],.ok ())

lemma talkerAdv_understood : Understood talkerAdvFormat (talkerReader .talkerAdv 25) where
 type := by decide
 once:=rfl
 own:=rfl
 dispatch:=fun _ tail hmin hmax=>
  msrpMessage_vectors (talkerReader .talkerAdv 25) (fun n=>(n+2)/3) 25 rfl hmin hmax tail
 empty:=by decide

lemma talkerFailed_understood : Understood talkerFailedFormat (talkerReader .talkerFailed 34) where
 type := by decide
 once:=rfl
 own:=rfl
 dispatch:=fun _ tail hmin hmax=>
  msrpMessage_vectors (talkerReader .talkerFailed 34) (fun n=>(n+2)/3) 34 rfl hmin hmax tail
 empty:=by decide

lemma listen_understood : Understood listenFormat listenReader where
 type := by decide
 once:=rfl
 own:=rfl
 dispatch:=fun _ tail hmin hmax=>
  msrpMessage_vectors listenReader (fun n=>(n+2)/3+(n+3)/4) 8 rfl hmin hmax tail
 empty:=by decide

lemma domain_understood : Understood domainFormat domainReader where
 type := by decide
 once:=rfl
 own:=rfl
 dispatch:=fun _ tail hmin hmax=>
  msrpMessage_vectors domainReader (fun n=>(n+2)/3) 4 rfl hmin hmax tail
 empty:=by decide

def msrpFrame (station:BitVec 48) (bytes:List UInt8) : List UInt8 :=
 frameHeader msrpAddr msrpEtype station++(bytes++[0,0])

section Sent
variable {fmt:Format MsrpValue} {r:Reader MsrpType MsrpValue} {view:MsrpValue → MsrpValue}
 {base:Nat} {lva flag:Bool} {l:List (Attribute MsrpValue)}
 {sent left:List (List (Attribute MsrpValue))} {out:Emitted MsrpValue}

lemma msrpParse_sent (h:Undoes fmt r view) (hr:Understood fmt r)
 {calls:List (Attribute MsrpValue) → List (Call MsrpType MsrpValue)}
 (hencodes:Encodes fmt maxFrameSize base lva flag l sent left out)
 (hback:∀v∈sent,ReadsBack fmt r calls v) (hne:sent≠[]) (station:BitVec 48) :
 msrpParse (msrpFrame station out.bytes)=(vectorCalls fmt r.kind calls lva sent,.ok ()) := by
 have hbytes:out.bytes=message fmt (bodyBytes fmt lva sent):=by
  rw[hencodes.bytes,messageFor,if_pos hne]
 have hlength:=bodyBytes_length h.proper lva hencodes.isVector
 have hroom:=hencodes.room hne
 have hmin:r.firstLength<(bodyBytes fmt lva sent).length:=by
  obtain ⟨v,rest,rfl⟩:=exists_cons_of_ne_nil hne
  rw[hlength,h.firstLength]
  simp only[totalLength,vectorLength,map_cons,sum_cons]
  omega
 have hmax:(bodyBytes fmt lva sent).length < maxFrameSize:=by
  rw[cursorAfter,if_pos hne] at hroom
  omega
 rw[msrpParse,msrpFrame,parseFrame_header rfl rfl station _ (by simp),hbytes]
 exact readMessages_single (msrpDispatch 0) h.proper h.once hr.type hencodes.isVector hback
  hencodes.room (hr.dispatch _ _ hmin hmax)

lemma msrpParse_empty (hr:Understood fmt r)
 (hencodes:Encodes fmt maxFrameSize base lva flag l [] left out) (hne:out.bytes≠[])
 (station:BitVec 48) : flag=true ∧ msrpParse (msrpFrame station out.bytes)=([.leaveAll r.kind],.ok ()) := by
 have hbytes:=hencodes.bytes
 rw[messageFor,if_neg (by simp)] at hbytes
 split at hbytes
 swap
 · exact absurd hbytes hne
 next hflag=>
 rw[Bool.and_eq_true] at hflag
 refine ⟨hflag.1,?_⟩
 rw[msrpParse,msrpFrame,parseFrame_header rfl rfl station _ (by simp),hbytes]
 exact hr.empty

end Sent

/-- What is read is what was sent; an attribute is missing only behind all of them, for want of
`size` bytes. -/
def ReadBackBy
 (emit:Bool → Bool → Nat → List (Attribute MsrpValue) → Emitted MsrpValue)
 (type:MsrpType) (size:Nat) (view:MsrpValue → MsrpValue) : Prop :=
 ∀(station:BitVec 48) (lva flag:Bool) (base:Nat) (l:List (Attribute MsrpValue)),
  (emit lva flag base l).ok=true →
   let out:=emit lva flag base l
   out.encoded.flatten.Sublist l ∧
   (∀a∈l,a.value.type=type → a.applicant.tx=true → a.applicant.encode=.YES →
    a∈out.encoded.flatten ∨ (maxFrameSize ≤ base+out.bytes.length+size+2 ∧
     (out.encoded.flatten++[a]).Sublist l)) ∧
   (∀a∈out.encoded.flatten,a.value.type=type ∧ (ownEvent a).isSome=true) ∧
   (out.bytes=[] → out.encoded=[]) ∧
   (out.bytes≠[] → msrpParse (msrpFrame station out.bytes)=
    ((if lva||(flag&&out.encoded.isEmpty) then [.leaveAll type] else [])++
     ownCalls view out.encoded.flatten,.ok ()))

variable {fmt:Format MsrpValue} {lva:Bool}

lemma readBackBy_of_undoes {r:Reader MsrpType MsrpValue} {view:MsrpValue → MsrpValue}
 (h:Undoes fmt r view) (hr:Understood fmt r) (hfmt:fmt.fourPacked=none)
 (hreader:r.fourPacked=none) (haccepts:∀v,r.accepts v=true)
 (hselects:∀v,fmt.selects v=true ↔ v.type=r.kind) :
 ReadBackBy (fun lva flag base l=>emitVectors fmt maxFrameSize base lva flag l) r.kind
  fmt.vectorSize view := by
 intro station lva flag base l hok
 obtain ⟨sent,left,hencodes⟩:=emitVectors_of_ok h.proper hok
 dsimp only
 rw[hencodes.encoded]
 refine ⟨hencodes.sent_sublist,?_,?_,?_,?_⟩
 · intro a ha htype htx hencode
   apply (hencodes.covers ha ((hselects _).2 htype) htx hencode).imp_right
   intro hleft
   obtain ⟨v,hv,-⟩:=mem_flatten.1 hleft
   have hfull:=hencodes.full (ne_nil_of_mem hv)
   refine ⟨?_,((singleton_sublist.2 hleft).append_left _).trans hencodes.sublist⟩
   by_cases hne:sent=[]
   · rw[cursorAfter,if_neg (not_not.2 hne)] at hfull
     omega
   · have hlength:=hencodes.bytes_length h.proper hne
     omega
 · intro a ha
   obtain ⟨v,hv,hav⟩:=mem_flatten.1 ha
   exact ⟨(hselects _).1 ((hencodes.isVector v hv).selects a hav),
    own_of_sendable hr.own (hencodes.sendable v hv) a hav⟩
 · intro hnil
   by_contra hne
   rw[hencodes.bytes,messageFor,if_pos hne] at hnil
   exact message_ne_nil _ _ hnil
 · intro hbytes
   by_cases hne:sent=[]
   · subst hne
     obtain ⟨hflag,hparse⟩:=msrpParse_empty hr hencodes hbytes station
     rw[hparse]
     simp[hflag,ownCalls,callsWith]
   · have hback:∀v∈sent,ReadsBack fmt r (memberCalls fmt view) v:=fun v hv=>
      h.readsBack hfmt hreader (hencodes.isVector v hv) (hencodes.sendable v hv)
       fun a _=>haccepts _
     have hisEmpty:sent.isEmpty=false:=by simpa using hne
     rw[msrpParse_sent h hr hencodes hback hne station,
      vectorCalls_once hr.once r.kind (fun v _=>memberCalls_own hr.own view v) hne lva,hisEmpty]
     simp

theorem msrp_talker_domain_roundtrip : ReadBackBy (msrpEmitTalkervectors talkerAdvFormat) .talkerAdv 28 advView ∧
  ReadBackBy (msrpEmitTalkervectors talkerFailedFormat) .talkerFailed 37 failedView ∧
  ReadBackBy msrpEmitDomainvectors .domain 5 domainView := by
 refine ⟨?_,?_,?_⟩
 · exact readBackBy_of_undoes talkerAdv_undoes talkerAdv_understood rfl rfl (fun _=>rfl)
    fun v=>decide_eq_true_iff
 · exact readBackBy_of_undoes talkerFailed_undoes talkerFailed_understood rfl rfl (fun _=>rfl)
    fun v=>decide_eq_true_iff
 · exact readBackBy_of_undoes domain_undoes domain_understood rfl rfl (fun _=>rfl)
    fun v=>decide_eq_true_iff

def twoTalkers (type:MsrpType) : List (Attribute MsrpValue) :=
 let first:MsrpValue:={blank type with talkListen:={emptyTalkListen with
  streamId:=0x0203040506070001,destAddr:=0x91E0F0000000,vlanId:=2,failureCode:=8}}
 [⟨first,⟨.QA,true,.JOIN,.YES,some .AA⟩,⟨.IN,.NONE,0⟩⟩,
  ⟨advanceTalkListen first,⟨.AN,true,.NEW,.YES,some .VN⟩,⟨.MT,.NONE,0⟩⟩]

theorem msrp_talker_domain_roundtrip_merged :
 (let out:=msrpEmitTalkervectors talkerAdvFormat true false 15 (twoTalkers .talkerAdv)
  out.encoded=[twoTalkers .talkerAdv] ∧ msrpParse (msrpFrame 0x112233445566 out.bytes)=
   (.leaveAll .talkerAdv::ownCalls advView (twoTalkers .talkerAdv),.ok ())) ∧
 let out:=msrpEmitTalkervectors talkerFailedFormat true false 15 (twoTalkers .talkerFailed)
 out.encoded=[twoTalkers .talkerFailed] ∧ msrpParse (msrpFrame 0x112233445566 out.bytes)=
  (.leaveAll .talkerFailed::ownCalls failedView (twoTalkers .talkerFailed),.ok ()) := by
 obtain ⟨hadv,hfailed,-⟩:=msrp_talker_domain_roundtrip
 have hadvs:(msrpEmitTalkervectors talkerAdvFormat true false 15 (twoTalkers .talkerAdv)).encoded=
  [twoTalkers .talkerAdv]:=by decide +kernel
 have hfaileds:(msrpEmitTalkervectors talkerFailedFormat true false 15
  (twoTalkers .talkerFailed)).encoded=[twoTalkers .talkerFailed]:=by decide +kernel
 refine ⟨⟨hadvs,?_⟩,hfaileds,?_⟩
 · have hparse:=(hadv 0x112233445566 true false 15 (twoTalkers .talkerAdv) (by decide +kernel)).2.2.2.2
    (by decide +kernel)
   rwa[hadvs] at hparse
 · have hparse:=(hfailed 0x112233445566 true false 15 (twoTalkers .talkerFailed)
    (by decide +kernel)).2.2.2.2 (by decide +kernel)
   rwa[hfaileds] at hparse

lemma mem_vectorCalls {kind:MsrpType}
 {calls:List (Attribute MsrpValue) → List (Call MsrpType MsrpValue)}
 {sent:List (List (Attribute MsrpValue))} {e:PduEvent} {value:MsrpValue}
 (hc:.attribute e value∈vectorCalls fmt kind calls lva sent) : ∃v∈sent,.attribute e value∈calls v := by
 induction sent generalizing lva with
 | nil=>simp[vectorCalls] at hc
 | cons v sent ih=>
  simp only[vectorCalls,mem_append,or_assoc] at hc
  rcases hc with hc|hc|hc
  · split at hc<;>simp at hc
  · exact ⟨v,mem_cons_self,hc⟩
  · obtain ⟨w,hw,hcw⟩:=ih hc
    exact ⟨w,mem_cons_of_mem _ hw,hcw⟩

/-- What is packed with a listener fits its two bits and declares something. -/
def Declarable (v:MsrpValue) : Prop := v.substate.toNat≠0 ∧ v.substate.toNat<4
def listenExpected (lva flag:Bool) (encoded:List (List (Attribute MsrpValue))) :
 List (Call MsrpType MsrpValue) := (if lva||(flag&&encoded.isEmpty) then [.leaveAll .listener] else [])++
  ownCalls listenView encoded.flatten

lemma listener_readBack_iff {station:BitVec 48} {flag:Bool} {base:Nat}
 {l:List (Attribute MsrpValue)} (hok:(msrpEmitListenvectors lva flag base l).ok=true)
 (hbytes:(msrpEmitListenvectors lva flag base l).bytes≠[]) :
 msrpParse (msrpFrame station (msrpEmitListenvectors lva flag base l).bytes)=
  (listenExpected lva flag (msrpEmitListenvectors lva flag base l).encoded,.ok ()) ↔
  ∀a∈(msrpEmitListenvectors lva flag base l).encoded.flatten,Declarable a.value := by
 unfold msrpEmitListenvectors at hok hbytes ⊢
 split at hok
 · cases hok
 next hentry=>
 rw[if_neg hentry] at hbytes ⊢
 obtain ⟨sent,left,hencodes⟩:=emitVectors_of_ok listen_undoes.proper hok
 rw[hencodes.encoded]
 by_cases hne:sent=[]
 · subst hne
   obtain ⟨hflag,hparse⟩:=msrpParse_empty listen_understood hencodes hbytes station
   rw[hparse]
   simp[listenExpected,hflag,ownCalls,callsWith,listenReader]
 have hisEmpty:sent.isEmpty=false:=by simpa using hne
 have hback:∀v∈sent,ReadsBack listenFormat listenReader
  (listenCalls listenFormat listenReader streamView setSubstate) v:=
  fun v hv=>readsBackFours listen_undoes rfl rfl (hencodes.isVector v hv)
 have hparse:=msrpParse_sent listen_undoes listen_understood hencodes hback hne station
 rw[hparse,listenExpected,hisEmpty,Bool.and_false,Bool.or_false]
 constructor
 · intro heq a ha
   obtain ⟨v,hv,hav⟩:=mem_flatten.1 ha
   obtain ⟨e,he⟩:=Option.isSome_iff_exists.1
    (own_of_sendable rfl (hencodes.sendable v hv) a hav)
   have hmem:Call.attribute e (listenView a.value) ∈
    (ownCalls listenView sent.flatten:List (Call MsrpType MsrpValue)):=
    mem_filterMap.2 ⟨a,ha,by rw[he];rfl⟩
   have hfound:=(Prod.mk.inj heq).1▸mem_append_right _ hmem
   obtain ⟨w,-,hcw⟩:=mem_vectorCalls hfound
   obtain ⟨e',sub,x,hsub,hlt,hcall⟩:=listenCalls_subs _ hcw
   have hsubstate:a.value.substate=BitVec.ofNat 32 sub:=
    congrArg MsrpValue.substate (Call.attribute.inj hcall).2
   rw[Declarable,hsubstate,BitVec.toNat_ofNat]
   omega
 · intro hall
   have hcalls:∀v∈sent,listenCalls listenFormat listenReader streamView setSubstate v=
    ownCalls listenView v:=fun v hv=>by
    rw[listenCalls_own listen_undoes rfl rfl (hencodes.isVector v hv) (hencodes.sendable v hv)
     fun a ha=>hall a (mem_flatten.2 ⟨v,hv,ha⟩)]
    congr 1
    funext x
    simp[restored,listenView,setSubstate]
   rw[vectorCalls_once rfl _ hcalls hne lva]
   rfl

end MsrpRoundTrip

/-! ## The attribute an event is for -/

namespace MsrpVectorEvents

open PackedDigits

variable {κ α:Type} {r:Reader κ α} {set:Nat → α → α}

/-- The `i`-th event; a byte that is discarded has none. -/
def eventAt (bytes:List UInt8) (i:Nat) : Option PduEvent :=
 bytes[i/3]?.bind fun byte=>
  if 5<byte.toNat/36 then none else (unpackDigits 6 3 byte.toNat)[i%3]?.bind PduEvent.ofCode

/-- The first value counted up `i` times, with the `i`-th four-packed value; none if that is zero. -/
def valueAt (r:Reader κ α) (set:Nat → α → α) (subs:List Nat) (first:α) (i:Nat) : Option α :=
 subs[i]?.bind fun sub=>if sub=0 then none else some (set sub (r.advance^[i] first))

def call (event:Option PduEvent) (value:Option α) : Option (Call κ α) :=
 event.bind fun event=>value.map (.attribute event)

/-- The bytes before the `k`-th that are discarded. -/
def discarded (bytes:List UInt8) (k:Nat) : Nat := (bytes.take k).countP fun byte=>decide (5<byte.toNat/36)

/-- How far the walk has counted at the `i`-th event: it stands still at the bytes it discards. -/
def reached (bytes:List UInt8) (i:Nat) : Nat := i-3*discarded bytes (i/3)

variable {numvalues:Nat} {bytes:List UInt8} (subs:List Nat) (first:α)

lemma filterMap_range {β:Type} (f:Nat → Option β) (n:Nat) : (range n).filterMap f=
  (range (min n 3)).filterMap f++(range (n-3)).filterMap fun i=>f (i+3) := by
 have hn:n=min n 3+(n-3):=by omega
 by_cases hle:n≤3
 · simp[Nat.sub_eq_zero_of_le hle,Nat.min_eq_left hle]
 · conv_lhs=>rw[hn,range_add,filterMap_append,filterMap_map]
   rw[Nat.min_eq_right (by omega)]
   congr 1
   exact congrArg (filterMap · _) (funext fun i=>congrArg f (Nat.add_comm 3 i))

lemma eventAt_cons (byte:UInt8) (i:Nat) : eventAt (byte::bytes) (i+3)=eventAt bytes i := by
 simp[eventAt,Nat.add_div_right,Nat.add_mod_right]

lemma discarded_le (k:Nat) : discarded bytes k≤k :=
 countP_le_length.trans (by rw[length_take];omega)

lemma reached_cons (byte:UInt8) (i:Nat) : reached (byte::bytes) (i+3)=
  if 5<byte.toNat/36 then reached bytes i else reached bytes i+3 := by
 have hle:discarded bytes (i/3) ≤ i/3:=discarded_le _
 simp only[reached,discarded,Nat.add_div_right i (show 0<3 by decide),take_succ_cons,countP_cons,
  decide_eq_true_eq] at hle ⊢
 split_ifs<;>omega

lemma listenWalk_at (codes:List Nat) (s:Nat) : listenWalk r set codes (subs.drop s) (r.advance^[s] first)=
 ((range codes.length).filterMap fun j=>
   call (codes[j]?.bind PduEvent.ofCode) (valueAt r set subs first (s+j)),
  subs.drop (s+codes.length),r.advance^[s+codes.length] first) := by
 induction codes generalizing s with
 | nil=>rfl
 | cons code codes ih=>
  have hnext:r.advance (r.advance^[s] first)=r.advance^[s+1] first:=(Function.iterate_succ_apply' ..).symm
  have hrest:=ih (s+1)
  simp only[Nat.add_right_comm s 1,Nat.add_assoc s _ 1] at hrest
  rw[length_cons,range_succ_eq_map,filterMap_cons,filterMap_map]
  simp only[Function.comp_def,getElem?_cons_succ,getElem?_cons_zero,Option.bind_some,Nat.add_zero]
  by_cases hs:s<subs.length
  · have hvalue:valueAt r set subs first s=
     if subs[s]=0 then none else some (set subs[s] (r.advance^[s] first)):=by
     rw[valueAt,getElem?_eq_getElem hs,Option.bind_some]
    rw[drop_eq_getElem_cons hs,hvalue,listenWalk,hnext,hrest]
    split_ifs
    · cases PduEvent.ofCode code<;>rfl
    · cases PduEvent.ofCode code<;>rfl
  · rw[drop_eq_nil_of_le (Nat.le_of_not_lt hs)]
    rw[drop_eq_nil_of_le (by omega),drop_eq_nil_of_le (by omega)] at hrest
    rw[listenWalk,hnext,hrest,drop_eq_nil_of_le (by omega),valueAt,getElem?_eq_none (by omega)]
    cases PduEvent.ofCode code<;>rfl

lemma listenValues_at (hstrict:r.strict=true) (s:Nat) :
 listenValues r set numvalues bytes (subs.drop s) (r.advance^[s] first)=
  (range numvalues).filterMap fun i=>
   call (eventAt bytes i) (valueAt r set subs first (s+reached bytes i)) := by
 induction bytes generalizing numvalues s with
 | nil=>simp[listenValues,eventAt,call]
 | cons byte bytes ih=>
  have hfirst:∀i<3,eventAt (byte::bytes) i=
    (if 5<byte.toNat/36 then none else (unpackDigits 6 3 byte.toNat)[i]?.bind PduEvent.ofCode) ∧
   reached (byte::bytes) i=i:=by
   intro i hi
   rw[eventAt,reached,Nat.div_eq_of_lt hi,Nat.mod_eq_of_lt hi]
   exact ⟨rfl,rfl⟩
  rw[listenValues,filterMap_range]
  simp only[hstrict,Bool.true_and,decide_eq_true_eq,eventAt_cons,reached_cons]
  by_cases hdiscard:5<byte.toNat/36
  · have hnone:((range (min numvalues 3)).filterMap fun i=>call (eventAt (byte::bytes) i)
     (valueAt r set subs first (s+reached (byte::bytes) i)))=([]:List (Call κ α)):=by
     refine filterMap_eq_nil_iff.2 fun i hi=>?_
     rw[(hfirst i (by simp at hi;omega)).1,if_pos hdiscard]
     rfl
    rw[if_pos hdiscard,ih,hnone,nil_append]
    simp only[hdiscard,if_true]
  · rw[if_neg hdiscard,listenWalk_at]
    simp only[hdiscard,if_false]
    have hlength:((unpackDigits 6 3 byte.toNat).take numvalues).length=min numvalues 3:=by
     rw[length_take,unpackDigits_length]
    rw[hlength]
    congr 1
    · refine filterMap_congr fun i hi=>?_
      have hi:i < min numvalues 3:=mem_range.1 hi
      obtain ⟨hevent,hreached⟩:=hfirst i (by omega)
      rw[hevent,if_neg hdiscard,hreached,getElem?_take_of_lt (by omega)]
    · by_cases hlast:numvalues≤3
      · rw[Nat.sub_eq_zero_of_le hlast]
        exact listenValues_append r set (Nat.zero_le (3*[].length)) bytes _ _
      · rw[Nat.min_eq_right (by omega),ih]
        simp only[Nat.add_assoc,Nat.add_comm 3]

lemma eventWalk_ones (haccepts:∀value,r.accepts value=true) {m:Nat} {codes:List Nat}
 (hm:codes.length ≤ m) (value:α) : listenWalk r (fun _ value=>value) codes (replicate m 1) value=
  ((eventWalk r codes value).1,replicate (m-codes.length) 1,(eventWalk r codes value).2) := by
 induction codes generalizing m value with
 | nil=>rfl
 | cons code codes ih=>
  obtain _|m:=m
  · cases hm
  rw[replicate_succ,listenWalk,ih (Nat.le_of_succ_le_succ hm),eventWalk,if_pos (haccepts value),length_cons,
   Nat.add_sub_add_right]
  cases PduEvent.ofCode code<;>rfl

lemma valueWalk_ones (haccepts:∀value,r.accepts value=true) {m:Nat} (hm:numvalues ≤ m) (value:α) :
 valueWalk r numvalues bytes value=listenValues r (fun _ value=>value) numvalues bytes (replicate m 1) value := by
 induction bytes generalizing numvalues m value with
 | nil=>rfl
 | cons byte bytes ih=>
  have hlength:((unpackDigits 6 3 byte.toNat).take numvalues).length=min numvalues 3:=by
   rw[length_take,unpackDigits_length]
  rw[valueWalk,listenValues]
  dsimp only
  rw[eventWalk_ones haccepts (by omega),ih (m:=m) (by omega),
   ih (m:=m-((unpackDigits 6 3 byte.toNat).take numvalues).length) (by omega)]

/-- How the four-packed values are set, and the values. -/
def fourValues (r:Reader κ α) (numvalues:Nat) (body:List UInt8) : (Nat → α → α)×List Nat :=
 match r.fourPacked with
 | none=>(fun _ value=>value,replicate numvalues 1)
 | some set=>(set,(unpackBytes 4 4 ((body.drop (r.firstLength+packedBytes 3 numvalues)).take
  (packedBytes 4 numvalues))).take numvalues)

/-- The checks against the end of the frame. -/
def GivenUp (r:Reader κ α) (numvalues:Nat) (body:List UInt8) : Prop :=
 match r.fourPacked with
 | none=>body.length≤numvalues/3
 | some _=>body.length≤numvalues/3+numvalues/4 ∨
  body.length ≤ r.firstLength+packedBytes 3 numvalues+packedBytes 4 numvalues

section
variable (r:Reader κ α) (numvalues:Nat) (body:List UInt8)

def attributeAt (i:Nat) : Option α :=
 valueAt r (fourValues r numvalues body).1 (fourValues r numvalues body).2 (r.first (body.take r.firstLength)) i

/-- What the walk raises for the `i`-th event, for the attribute it has reached. -/
def raisedAt (i:Nat) : Option (Call κ α) :=
 call (eventAt (body.drop r.firstLength) i) (attributeAt r numvalues body (reached (body.drop r.firstLength) i))

def numberedAt (i:Nat) : Option (Call κ α) :=
 call (eventAt (body.drop r.firstLength) i) (attributeAt r numvalues body i)

end

lemma eventAt_take {m i:Nat} (hi:i<3*m) : eventAt (bytes.take m) i=eventAt bytes i ∧
  reached (bytes.take m) i=reached bytes i := by
 constructor
 · rw[eventAt,eventAt,getElem?_take_of_lt (by omega)]
 · rw[reached,reached,discarded,discarded,take_take,Nat.min_eq_left (by omega)]

lemma readBody_at (haccepts:∀value,r.accepts value=true) (hstrict:r.strict=true) (numvalues:Nat)
 (body:List UInt8) : (GivenUp r numvalues body → (readBody r numvalues body).1=[]) ∧
  (¬GivenUp r numvalues body → (readBody r numvalues body).1=
   (range numvalues).filterMap (raisedAt r numvalues body)) := by
 have hcount:numvalues≤3*(packedBytes 3 numvalues+1):=by
  rw[packedBytes_three]
  omega
 have hcalls:∀set subs first,listenValues r set numvalues
  ((body.drop r.firstLength).take (packedBytes 3 numvalues+1)) subs first=
  (range numvalues).filterMap fun i=>call (eventAt (body.drop r.firstLength) i)
   (valueAt r set subs first (reached (body.drop r.firstLength) i)):=by
  intro set subs first
  refine (listenValues_at subs first hstrict 0).trans (filterMap_congr fun i hi=>?_)
  have hi:i<numvalues:=mem_range.1 hi
  obtain ⟨hevent,hreached⟩:=@eventAt_take (body.drop r.firstLength) _ _ (Nat.lt_of_lt_of_le hi hcount)
  rw[hevent,hreached,Nat.zero_add]
 unfold readBody GivenUp raisedAt attributeAt fourValues
 cases r.fourPacked with
 | none=>
  dsimp only
  rw[valueWalk_ones haccepts (Nat.le_refl _),hcalls]
  split_ifs<;>simp_all
 | some set=>
  dsimp only
  rw[hcalls]
  split_ifs<;>grind

lemma msrpDispatch_readers {version type length:UInt8} {data rest:List UInt8}
 {r:Reader MsrpType MsrpValue} (h:msrpDispatch version type length data=.vectors r rest) :
 r=domainReader ∨ r=listenReader ∨ ∃kind firstLength,kind ≠ .domain ∧ r=talkerReader kind firstLength := by
 have hmessage:∀{r':Reader MsrpType MsrpValue} {skipped:Nat → Nat},
  msrpMessage r' skipped length data=.vectors r rest → r'=r:=by
  intro r' skipped hm
  unfold msrpMessage at hm
  split_ifs at hm
  split at hm
  · cases hm
  · exact (Dispatch.vectors.inj hm).1
  · split at hm<;>cases hm
 unfold msrpDispatch at h
 split_ifs at h
 · exact .inl (hmessage h).symm
 · exact .inr (.inl (hmessage h).symm)
 · exact .inr (.inr ⟨.talkerAdv,25,by decide,(hmessage h).symm⟩)
 · exact .inr (.inr ⟨.talkerFailed,34,by decide,(hmessage h).symm⟩)

variable {i j:Nat}

lemma iterate_count {w:Nat} {advance:α → α} (f:α → BitVec w) (h:∀v,f (advance v)=f v+1) (i:Nat) (v:α) :
 f (advance^[i] v)=f v+BitVec.ofNat w i := by
 induction i with
 | zero=>simp
 | succ i ih=>rw[Function.iterate_succ_apply',h,ih,BitVec.add_assoc,BitVec.ofNat_add];rfl

lemma valueAt_some {value:α} (h:valueAt r set subs first i=some value) :
 ∃sub,value=set sub (r.advance^[i] first) := by
 obtain ⟨sub,-,hsub⟩:=Option.bind_eq_some_iff.1 h
 split_ifs at hsub
 exact ⟨sub,(Option.some.inj hsub).symm⟩

lemma attribute_stream {r:Reader MsrpType MsrpValue} {body:List UInt8} {value:MsrpValue}
 (hset:∀sub v,((fourValues r numvalues body).1 sub v).streamId=v.streamId)
 (hadvance:∀v,(r.advance v).streamId=incrementStreamid v.streamId)
 (hi:attributeAt r numvalues body i=some value) (hj:attributeAt r numvalues body j=some value)
 (hle:j ≤ i) (hlt:i<8192) : i=j := by
 obtain ⟨sub,rfl⟩:=valueAt_some _ _ hi
 obtain ⟨sub',heq⟩:=valueAt_some _ _ hj
 have hcount:=@iterate_count _ _ r.advance (fun v:MsrpValue=>v.streamId.extractLsb' 0 56) fun v=>by
  rw[hadvance]
  exact BitVec.extractLsb'_append_eq_right
 have hid:=congrArg (fun v:MsrpValue=>v.streamId.extractLsb' 0 56) heq
 simp only[hset] at hid
 rw[hcount,hcount,BitVec.add_right_inj] at hid
 have hmod:=congrArg BitVec.toNat hid
 simp only[BitVec.toNat_ofNat] at hmod
 omega

lemma domain_iterate (v:MsrpValue) (hv:v.domain.neighborSrClassPriority=v.domain.srClassPriority) (i:Nat) :
 domainReader.advance^[i] v={v with domain:={v.domain with
  srClassId:=v.domain.srClassId+BitVec.ofNat 8 i
  srClassPriority:=v.domain.srClassPriority+BitVec.ofNat 8 i
  neighborSrClassPriority:=v.domain.srClassPriority+BitVec.ofNat 8 i}} := by
 induction i with
 | zero=>
  obtain ⟨type,talkListen,⟨srClassId,srClassPriority,neighbor,srClassVid⟩,substate,operation⟩:=v
  obtain rfl:neighbor=srClassPriority:=hv
  simp
 | succ i ih=>
  rw[Function.iterate_succ_apply',ih]
  simp[domainReader,BitVec.ofNat_add,BitVec.add_assoc]

lemma domainReader_at {body:List UInt8} (hi:i<numvalues) : attributeAt domainReader numvalues body i=
  some (domainReader.advance^[i] (domainReader.first (body.take 4))) := by
 simp[attributeAt,valueAt,fourValues,domainReader,hi]

lemma attributeAt_eq_iff {version type length:UInt8} {data rest:List UInt8}
 {r:Reader MsrpType MsrpValue} (hr:msrpDispatch version type length data=.vectors r rest)
 {body:List UInt8} {value:MsrpValue} (hj:attributeAt r numvalues body j=some value) (hle:j ≤ i)
 (hi:i<numvalues) (hn:numvalues<8192) : attributeAt r numvalues body i=some value ↔
  if r.kind=.domain then 256∣i-j else i=j := by
 rcases msrpDispatch_readers hr with rfl|rfl|⟨kind,firstLength,hkind,rfl⟩
 · rw[domainReader_at (by omega)] at hj
   rw[domainReader_at hi,if_pos (show domainReader.kind=.domain from rfl),Option.some_inj,
    ←Option.some.inj hj,domain_iterate _ rfl,domain_iterate _ rfl]
   constructor
   · intro heq
     have hid:=congrArg (fun v:MsrpValue=>v.domain.srClassId) heq
     simp only[BitVec.add_right_inj] at hid
     have hmod:=congrArg BitVec.toNat hid
     simp only[BitVec.toNat_ofNat] at hmod
     omega
   · intro hdvd
     have hmod:BitVec.ofNat 8 i=BitVec.ofNat 8 j:=by
      apply BitVec.eq_of_toNat_eq
      simp only[BitVec.toNat_ofNat]
      omega
     rw[hmod]
 · rw[if_neg (by decide)]
   refine ⟨fun h=>attribute_stream (fun _ _=>rfl) (fun _=>rfl) h hj hle (by omega),?_⟩
   rintro rfl
   exact hj
 · rw[if_neg (show ¬(talkerReader kind firstLength).kind=.domain from hkind)]
   refine ⟨fun h=>attribute_stream (fun _ _=>rfl) (fun _=>rfl) h hj hle (by omega),?_⟩
   rintro rfl
   exact hj

lemma valueAt_isSome (i:Nat) : (valueAt r set subs first i).isSome=true ↔ subs.getD i 0≠0 := by
 rw[valueAt,getD_eq_getElem?_getD]
 cases subs[i]? with
 | none=>simp
 | some sub=>by_cases hsub:sub=0<;>simp[hsub]

/-- Discarded bytes come before no event that is raised, or a multiple of 256: the class of a domain
has eight bits. -/
def Undisturbed (r:Reader MsrpType MsrpValue) (numvalues:Nat) (body:List UInt8) : Prop :=
 ¬GivenUp r numvalues body → ∀i<numvalues,(eventAt (body.drop r.firstLength) i).isSome=true →
  (fourValues r numvalues body).2.getD (reached (body.drop r.firstLength) i) 0≠0 →
  if r.kind=.domain then 256∣discarded (body.drop r.firstLength) (i/3)
  else discarded (body.drop r.firstLength) (i/3)=0

/-- At most one call for each event, in order; each for the attribute of its position exactly if
undisturbed. -/
theorem vector_events_numbered_iff {version type length:UInt8} {data rest:List UInt8}
 {r:Reader MsrpType MsrpValue} (hr:msrpDispatch version type length data=.vectors r rest)
 (numvalues:Nat) (hn:numvalues<8192) (body:List UInt8) :
 (GivenUp r numvalues body → (readBody r numvalues body).1=[]) ∧
 (¬GivenUp r numvalues body → (readBody r numvalues body).1=
  (range numvalues).filterMap (raisedAt r numvalues body)) ∧
 ((¬GivenUp r numvalues body → ∀i<numvalues,∀c,raisedAt r numvalues body i=some c →
   numberedAt r numvalues body i=some c) ↔ Undisturbed r numvalues body) := by
 have hwalks:(∀value,r.accepts value=true) ∧ r.strict=true:=by
  rcases msrpDispatch_readers hr with rfl|rfl|⟨_,_,-,rfl⟩<;>exact ⟨fun _=>rfl,rfl⟩
 obtain ⟨hgiven,hread⟩:=readBody_at hwalks.1 hwalks.2 numvalues body
 refine ⟨hgiven,hread,forall_congr' fun _=>forall₂_congr fun i hi=>?_⟩
 have hdiscarded:discarded (body.drop r.firstLength) (i/3) ≤ i/3:=discarded_le _
 have hreached:reached (body.drop r.firstLength) i=i-3*discarded (body.drop r.firstLength) (i/3):=rfl
 have hsome:=@valueAt_isSome _ _ r (fourValues r numvalues body).1 (fourValues r numvalues body).2
  (r.first (body.take r.firstLength)) (reached (body.drop r.firstLength) i)
 rw[raisedAt,numberedAt,←hsome,←attributeAt]
 cases eventAt (body.drop r.firstLength) i with
 | none=>simp[call]
 | some event=>
  cases hvalue:attributeAt r numvalues body (reached (body.drop r.firstLength) i) with
  | none=>simp[call]
  | some value=>
   have heq:=attributeAt_eq_iff hr hvalue (by omega) hi hn
   simp only[call,Option.bind_some,Option.map_some,Option.some.injEq,forall_eq',Option.map_eq_some_iff,
    Call.attribute.injEq,true_and,exists_eq_right,Option.isSome_some,forall_const,heq]
   split_ifs<;>omega

def sixListeners (threes:List UInt8) : List UInt8 := [0,0,0,0,0,0,0,0x10]++threes++[0x56,0xA0,0,0]
def subject : Call MsrpType MsrpValue → Option (BitVec 64×BitVec 32)
 | .leaveAll _=>none
 | .attribute _ value=>some (value.streamId,value.substate)

theorem vector_events_numbered_last : Undisturbed listenReader 6 (sixListeners [0,216]) := by
 have hdispatch:msrpDispatch 0 3 8 ([0,16,0,6]++sixListeners [0,216])=
  .vectors listenReader ([0,6]++sixListeners [0,216]):=rfl
 have hsame:∀i<6,raisedAt listenReader 6 (sixListeners [0,216]) i=
  numberedAt listenReader 6 (sixListeners [0,216]) i:=by decide +kernel
 exact (vector_events_numbered_iff hdispatch 6 (by decide) _).2.2.1 fun _ i hi c hc=>hsame i hi▸hc

/-- The other events are raised for the streams and substates of the discarded ones. -/
theorem discarded_byte_shifts_events :
 ((readBody listenReader 6 (sixListeners [216,0])).1.filterMap subject=[(0x10,1),(0x11,1),(0x12,1)]) ∧
 ((range 6).filterMap (numberedAt listenReader 6 (sixListeners [216,0]))).filterMap subject=
  [(0x13,2),(0x14,2),(0x15,2)] := by
 decide +kernel

end MsrpVectorEvents

end OpenAvnu
