import OpenAvnu.MmrpRoundTrip
import OpenAvnu.MrpTransmit
import OpenAvnu.MsrpRoundTrip
import OpenAvnu.MvrpRoundTrip

/-!
# Lost transmissions

Applicants advance before it is known whether their messages fit.
-/

namespace OpenAvnu.MrpLossless

open List

open Mrp MrpEvents MrpEncode MrpVectors MrpMessages MrpFrames MrpSteps MrpTransmit Mvrp Mmrp Msrp
open MvrpRoundTrip MmrpRoundTrip MsrpRoundTrip

variable {α:Type}

def carried (header:List UInt8) (b:Building α) : List (Attribute α) :=
 if (b.frame header).isSome then b.encoded.flatten else []

variable {b:Building α} {flag lva:Bool} (station:BitVec 48) (p2pmac s1 s2:Nat)
 (interest:Interest)

lemma emitAll_of_none {fmts:List (Format α)} (hb:b.messages=none) : emitAll lva flag fmts b=b := by
 induction fmts with
 | nil=>rfl
 | cons f fmts ih=>rw[emitAll,append_of_none hb,ih]
lemma carried_of_none {header:List UInt8} (hb:b.messages=none) : carried header b=[] := by
 simp[carried,Building.frame,hb]
def Alike (b b':Building α) : Prop := b=b' ∨ (b.messages=none ∧ b'.messages=none)

variable {b b':Building α}

lemma Alike.messages (h:Alike b b') : b.messages=b'.messages := by
 rcases h with rfl|⟨hb,hb'⟩
 · rfl
 · rw[hb,hb']
lemma Alike.frame (h:Alike b b') (header:List UInt8) : b.frame header=b'.frame header := by
 unfold Building.frame
 rw[h.messages]
lemma Alike.carried (h:Alike b b') (header:List UInt8) : carried header b=carried header b' := by
 rcases h with rfl|⟨hb,hb'⟩
 · rfl
 · rw[carried_of_none hb,carried_of_none hb']

lemma Alike.emitAll (h:Alike b b') (lva flag:Bool) (fmts:List (Format α)) :
 Alike (emitAll lva flag fmts b) (emitAll lva flag fmts b') := by
 rcases h with rfl|⟨hb,hb'⟩
 · exact .inl rfl
 · rw[emitAll_of_none hb,emitAll_of_none hb']
   exact .inr ⟨hb,hb'⟩

lemma alike_requireRoom {size:Nat} (hsize:3 ≤ size)
 {emit:Nat → List (Attribute α) → Emitted α}
 (hemit:∀base l,maxFrameSize<base+size → (emit base l).ok=false) (b:Building α) :
 Alike (b.requireRoom.append emit) (b.append emit) := by
 cases hb:b.messages with
 | none=>
  have:b.requireRoom=b:=by simp[Building.requireRoom,hb]
  rw[this]
  exact .inl rfl
 | some messages=>
  by_cases hroom:maxFrameSize ≤ messageListAt+messages.length+2
  · have hnone:b.requireRoom.messages=none:=by
     simp[Building.requireRoom,hb,hroom]
    have hfail:=append_of_fail hb (hemit (messageListAt+messages.length) b.attribList
     (by omega))
    rw[append_of_none hnone,hfail]
    exact .inr ⟨hnone,rfl⟩
  · have:b.requireRoom=b:=by simp[Building.requireRoom,hb,hroom]
    rw[this]
    exact .inl rfl

section Carried
variable {lva flag:Bool} {fmts:List (Format α)} {p2pmac:Nat} {db:Database α}
 {header:List UInt8}

lemma mandatory_of_advanced (hcover:∀v,∃f∈fmts,f.selects v=true) {a:Attribute α}
 (ha:a∈(txPass p2pmac db).attribList) (hencode:a.applicant.encode=.YES) : ∃f∈fmts,mandatory f a=true := by
 obtain ⟨f,hf,hselects⟩:=hcover a.value
 obtain ⟨c,-,rfl⟩:=mem_map.1 ha
 exact ⟨f,hf,by simp[mandatory,hselects,(applicantPass_tx p2pmac c).1,hencode]⟩

lemma lossless_of_no_vectors (hcover:∀v,∃f∈fmts,f.selects v=true)
 (hnone:∀f∈fmts,vectorsFrom f 0 (txPass p2pmac db).attribList=[])
 (carried:List (Attribute α)) : Lossless p2pmac db.attribList carried := by
 have hnil:(txPass p2pmac db).attribList.filter (fun a=>a.applicant.encode=.YES)=[]:=by
  rw[filter_eq_nil_iff]
  intro a ha hencode
  obtain ⟨f,hf,hm⟩:=mandatory_of_advanced hcover ha (of_decide_eq_true hencode)
  have:=(vectorsFrom_mandatory f 0 _).subset (mem_filter.2 ⟨ha,hm⟩)
  simp[hnone f hf] at this
 rw[Lossless,advanced_eq_filter]
 exact hnil▸nil_subperm

lemma lossless_iff_fits (hproper:∀f∈fmts,Proper f) (hapart:Apart fmts)
 (hroomy:Roomy fmts) (hcover:∀v,∃f∈fmts,f.selects v=true) : Lossless p2pmac db.attribList
  (carried header (emitAll lva flag fmts (Building.start (txPass p2pmac db).attribList))) ↔
  (∀f∈fmts,vectorsFrom f 0 (txPass p2pmac db).attribList=[]) ∨
   Fits lva flag (txPass p2pmac db).attribList fmts messageListAt := by
 by_cases hnone:∀f∈fmts,vectorsFrom f 0 (txPass p2pmac db).attribList=[]
 · exact ⟨fun _=>.inl hnone,fun _=>lossless_of_no_vectors hcover hnone _⟩
 rw[or_iff_right hnone]
 obtain ⟨f,hf,hne⟩:∃f∈fmts,vectorsFrom f 0 (txPass p2pmac db).attribList≠[]:=by
  simpa using hnone
 constructor
 · intro hlossless
   rw[Lossless,advanced_eq_filter] at hlossless
   have hcount:∀g:Format α,(txPass p2pmac db).attribList.countP (mandatory g) ≤
    (carried header (emitAll lva flag fmts
     (Building.start (txPass p2pmac db).attribList))).countP (mandatory g):=by
    intro g
    refine Nat.le_trans (Nat.le_of_eq ?_) (hlossless.countP_le (mandatory g))
    rw[countP_filter]
    refine countP_congr fun a _=>?_
    simp only[mandatory,Bool.and_eq_true]
    tauto
   have hsent:((emitAll lva flag fmts
    (Building.start (txPass p2pmac db).attribList)).frame header).isSome=true:=by
    by_contra hnot
    have hzero:=hcount f
    rw[carried,if_neg hnot,countP_nil,Nat.le_zero] at hzero
    exact hne (left_eq_nil (nil_append _).symm (by rw[hzero];exact Nat.zero_le _))
   simp only[carried,hsent] at hcount
   obtain ⟨frame,hframe⟩:=Option.isSome_iff_exists.1 hsent
   obtain ⟨out,hout,-,hend,-⟩:=frame_eq_some hframe
   exact fits_of_emitAll hproper hapart rfl (fun _ _=>rfl) (by simp) hout hend
    fun g _=>hcount g
 · intro hfits
   obtain ⟨hmessages,hencoded⟩:=emitAll_of_fits hproper hapart hroomy
    (fun g _ v hv=>txPass_sendable hv) (start_messages (txPass p2pmac db).attribList)
    (fun _ _=>rfl) hfits
   have hne':(fmts.flatMap fun g=>
    messageFor g lva flag (vectorsFrom g 0 (txPass p2pmac db).attribList))≠[]:=by
    intro hnil
    have:=flatMap_eq_nil_iff.1 hnil f hf
    rw[messageFor,if_pos hne] at this
    exact message_ne_nil _ _ this
   have hframe:=frame_of_messages header hmessages (by simpa using hne') (by simpa using hfits.last)
   have hcarried:carried header (emitAll lva flag fmts
    (Building.start (txPass p2pmac db).attribList))=
    (fmts.flatMap fun g=>vectorsFrom g 0 (txPass p2pmac db).attribList).flatten:=by
    rw[carried,hframe,hencoded]
    simp
   rw[hcarried,Lossless,advanced_eq_filter]
   have hfilter:(db.attribList.map (applicantPass p2pmac .TX)).filter
    (fun a=>a.applicant.encode=.YES)=
    (txPass p2pmac db).attribList.filter fun a=>fmts.any fun g=>mandatory g a:=by
    refine filter_congr fun a ha=>?_
    rw[Bool.eq_iff_iff,decide_eq_true_eq,any_eq_true]
    constructor
    · exact mandatory_of_advanced hcover ha
    · rintro ⟨g,-,hm⟩
      simp only[mandatory,Bool.and_eq_true,decide_eq_true_eq] at hm
      exact hm.2
   rw[hfilter]
   exact mandatory_subperm hapart

end Carried

def leaving (sent:List (List UInt8)) (b:Building α) : List (Attribute α) :=
 if sent=[] then [] else b.encoded.flatten
lemma leaving_eq (header:List UInt8) (b:Building α) : leaving (b.frame header).toList b=carried header b := by
 cases h:b.frame header<;>simp[leaving,carried,h]

lemma messageFor_nil_length (f:Format α) (db:Database α) :
 (messageFor f db.lva.tx db.sendEmptyLeaveAllFlag []).length≤8+f.attributeLength := by
 unfold messageFor
 rw[if_neg (by simp)]
 split
 · unfold message
   split<;>simp<;>omega
 · simp

/-- Where the frame of a transmit opportunity is behind the messages of some formats. -/
def txPosition (p2pmac:Nat) (db:Database α) : List (Format α) → Nat :=
 position db.lva.tx db.sendEmptyLeaveAllFlag (txPass p2pmac db).attribList
def mvrpCarried (station:BitVec 48) (p2pmac:Nat) (db:Database (BitVec 16)) : List (Attribute (BitVec 16)) :=
 leaving (mvrpEvent station p2pmac .TX none db).sent (mvrpBuild (txPass p2pmac db))

lemma mvrp_lossless_iff (db:Database (BitVec 16)) :
 Lossless p2pmac db.attribList (mvrpCarried station p2pmac db) ↔
  txPosition p2pmac db [vidFormat]≤1997 := by
 have hcarried:mvrpCarried station p2pmac db=carried (frameHeader mvrpCustomerBridgeAddr mvrpEtype station)
   (emitAll db.lva.tx db.sendEmptyLeaveAllFlag [vidFormat]
    (Building.start (txPass p2pmac db).attribList)):=leaving_eq _ _
 have hproper:∀f∈[vidFormat],Proper f:=by
  simpa using vid_undoes.proper
 rw[hcarried,lossless_iff_fits hproper (by simp[Apart]) ⟨by decide,by decide,trivial⟩
  fun v=>⟨vidFormat,by simp,rfl⟩]
 have hfits:Fits db.lva.tx db.sendEmptyLeaveAllFlag (txPass p2pmac db).attribList [vidFormat]
  messageListAt↔txPosition p2pmac db [vidFormat]≤1997:=by
  simp only[Fits,txPosition,position,map_cons,map_nil,sum_cons,sum_nil]
  constructor
  · rintro ⟨-,-,hend⟩
    simp only[maxFrameSize] at hend
    omega
  · intro hend
    refine ⟨by decide,runsFit_of_message db.lva.tx db.sendEmptyLeaveAllFlag vid_undoes.proper rfl
     (Nat.le_trans hend (by decide)),?_⟩
    simp only[maxFrameSize]
    omega
 rw[hfits]
 refine ⟨?_,.inr⟩
 rintro (hnone|hend)
 · have:vectorsFrom vidFormat 0 (txPass p2pmac db).attribList=[]:=hnone _ (by simp)
   have hlength:=messageFor_nil_length vidFormat db
   have hattribute:vidFormat.attributeLength=2:=rfl
   simp only[txPosition,position,this,map_cons,map_nil,sum_cons,sum_nil,messageListAt]
   omega
 · exact hend

def mmrpCarried (station:BitVec 48) (stack:List Nat) (p2pmac:Nat)
 (db:Database MmrpValue) : List (Attribute MmrpValue) :=
 leaving (mmrpEvent station stack p2pmac .TX none db).sent (mmrpBuild stack (txPass p2pmac db))

lemma mmrp_apart (stack:List Nat) : Apart [macFormat,svcFormat stack] := by
 simp only[Apart,pairwise_cons,mem_singleton,forall_eq,not_mem_nil,
  false_implies,implies_true,List.Pairwise.nil,and_true]
 intro v hv
 have:v.type=.svcreq:=of_decide_eq_true hv
 simp[macFormat,this]

lemma mmrp_roomy : Roomy [macFormat,svcFormat [s1,s2]] := by
 refine ⟨?_,?_,?_,?_,trivial⟩<;>simp[limit,macFormat,svcFormat,maxFrameSize]
lemma encoder_entry {f:Format α} (base:Nat) (l:List (Attribute α))
 (hentry:maxFrameSize<base+f.vectorSize) : (encoder lva flag f base l).ok=false := by
 simp[encoder,emitVectors,hentry]
lemma mmrpBuild_alike (db:Database MmrpValue) :
 Alike (mmrpBuild [s1,s2] db) (emitAll db.lva.tx db.sendEmptyLeaveAllFlag
  [macFormat,svcFormat [s1,s2]] (Building.start db.attribList)) := alike_requireRoom (Nat.le_add_left 3 3)
  (fun base l=>@encoder_entry _ _ _ (svcFormat [s1,s2]) base l) _

lemma mmrp_lossless_iff (p2pmac:Nat) (db:Database MmrpValue) :
 Lossless p2pmac db.attribList (mmrpCarried station [s1,s2] p2pmac db) ↔
  RunsFit macFormat maxFrameSize 17 (vectorsFrom macFormat 0 (txPass p2pmac db).attribList) ∧
  txPosition p2pmac db [macFormat]≤1994 ∧
  txPosition p2pmac db [macFormat,svcFormat [s1,s2]]≤1997 := by
 have hcarried:mmrpCarried station [s1,s2] p2pmac db=carried (frameHeader mmrpAddr mmrpEtype station)
   (emitAll db.lva.tx db.sendEmptyLeaveAllFlag [macFormat,svcFormat [s1,s2]]
    (Building.start (txPass p2pmac db).attribList)):=
  (leaving_eq _ _).trans ((mmrpBuild_alike s1 s2 (txPass p2pmac db)).carried _)
 have hproper:∀f∈[macFormat,svcFormat [s1,s2]],Proper f:=by
  simpa using ⟨mac_undoes.proper,svc_proper s1 s2⟩
 have hcover:∀v,∃f∈[macFormat,svcFormat [s1,s2]],f.selects v=true:=by
  intro v
  cases v with
  | svcreq service=>exact ⟨svcFormat [s1,s2],by simp,rfl⟩
  | macvec macaddr=>exact ⟨macFormat,by simp,rfl⟩
 have hsize:(svcFormat [s1,s2]).vectorSize=6:=rfl
 rw[hcarried,lossless_iff_fits hproper (mmrp_apart _) (mmrp_roomy s1 s2) hcover]
 simp only[Fits,txPosition,position,map_cons,map_nil,sum_cons,sum_nil,maxFrameSize]
 constructor
 · rintro (hnone|⟨-,hruns,hmac,-,hend⟩)
   · have hmacs:=hnone macFormat (by simp)
     have hsvcs:=hnone (svcFormat [s1,s2]) (by simp)
     have hmac:=messageFor_nil_length macFormat db
     have hsvc:=messageFor_nil_length (svcFormat [s1,s2]) db
     have hmacLength:macFormat.attributeLength=6:=rfl
     have hsvcLength:(svcFormat [s1,s2]).attributeLength=1:=rfl
     rw[hmacs,hsvcs]
     simp only[messageListAt]
     exact ⟨trivial,by omega,by omega⟩
   · exact ⟨hruns,by omega,by omega⟩
 · rintro ⟨hruns,hmac,hend⟩
   refine .inr ⟨by decide,hruns,by omega,?_,by omega⟩
   refine runsFit_of_message db.lva.tx db.sendEmptyLeaveAllFlag (svc_proper s1 s2) rfl ?_
   simp only[maxFrameSize]
   omega

def msrpFormats : List (Format MsrpValue) := [talkerAdvFormat,talkerFailedFormat,listenFormat,domainFormat]

/-- The event needs no attribute, so pruning does not matter. -/
def msrpCarried (station:BitVec 48) (p2pmac:Nat) (interest:Interest)
 (db:Database MsrpValue) : List (Attribute MsrpValue) :=
 leaving (msrpEvent station p2pmac interest .TX none db).sent (msrpBuild (txPass p2pmac db))

lemma msrp_apart : Apart msrpFormats := by
 have hdisjoint:∀{s t:MsrpType},s≠t → ∀v:MsrpValue,
  decide (v.type=t)=true → decide (v.type=s)=false:=by
  intro s t hne v hv
  rw[of_decide_eq_true hv]
  exact decide_eq_false (Ne.symm hne)
 refine .cons ?_ (.cons ?_ (.cons ?_ (.cons (by simp) .nil)))
 · intro g hg
   simp only[mem_cons,not_mem_nil,or_false] at hg
   rcases hg with rfl|rfl|rfl<;>exact hdisjoint (by decide)
 · intro g hg
   simp only[mem_cons,not_mem_nil,or_false] at hg
   rcases hg with rfl|rfl<;>exact hdisjoint (by decide)
 · intro g hg
   simp only[mem_cons,not_mem_nil,or_false] at hg
   rcases hg with rfl
   exact hdisjoint (by decide)

lemma msrp_proper : ∀f∈msrpFormats,Proper f := by
 intro f hf
 simp only[msrpFormats,mem_cons,not_mem_nil,or_false] at hf
 rcases hf with rfl|rfl|rfl|rfl
 · exact talkerAdv_undoes.proper
 · exact talkerFailed_undoes.proper
 · exact listen_undoes.proper
 · exact domain_undoes.proper

lemma msrp_roomy : Roomy msrpFormats := by
 refine ⟨?_,?_,?_,?_,?_,?_,?_,?_,trivial⟩<;>decide

lemma msrp_cover (v:MsrpValue) : ∃f∈msrpFormats,f.selects v=true := by
 cases htype:v.type
 · exact ⟨talkerAdvFormat,by simp[msrpFormats],by simp[talkerAdvFormat,htype]⟩
 · exact ⟨talkerFailedFormat,by simp[msrpFormats],by simp[talkerFailedFormat,htype]⟩
 · exact ⟨listenFormat,by simp[msrpFormats],by simp[listenFormat,htype]⟩
 · exact ⟨domainFormat,by simp[msrpFormats],by simp[domainFormat,htype]⟩

lemma markListeners_eq {l:List (Attribute MsrpValue)}
 (htx:∀a∈l,a.value.type=.listener → a.applicant.tx=true) : markListeners l=l := by
 conv_rhs=>rw[←map_id l]
 refine map_congr_left fun a ha=>?_
 split
 · next hlistener=>
    have:=htx a ha hlistener
    cases a with
    | mk value applicant registrar=>
     cases applicant
     simp_all[setTx]
 · rfl

def advStage (db:Database MsrpValue) : Building MsrpValue := (Building.start db.attribList).append
  (msrpEmitTalkervectors talkerAdvFormat db.lva.tx db.sendEmptyLeaveAllFlag)
def failedStage (db:Database MsrpValue) : Building MsrpValue := ((advStage db).append
  (msrpEmitTalkervectors talkerFailedFormat db.lva.tx db.sendEmptyLeaveAllFlag)).requireRoom
def listenStage (db:Database MsrpValue) : Building MsrpValue :=
 (failedStage db).append (msrpEmitListenvectors db.lva.tx db.sendEmptyLeaveAllFlag)

variable (db:Database MsrpValue)

lemma msrpBuild_stages : msrpBuild db=
 (listenStage db).append (msrpEmitDomainvectors db.lva.tx db.sendEmptyLeaveAllFlag) := rfl

section
variable {db:Database MsrpValue}
 (htx:∀a∈db.attribList,a.value.type=.listener → a.applicant.tx=true)
include htx

lemma listenStage_alike : Alike (listenStage db) (emitAll db.lva.tx db.sendEmptyLeaveAllFlag
  [talkerAdvFormat,talkerFailedFormat,listenFormat] (Building.start db.attribList)) := by
 have hentry:∀base l,maxFrameSize<base+13 →
  (msrpEmitListenvectors db.lva.tx db.sendEmptyLeaveAllFlag base l).ok=false:=by
  intro base l hentry
  simp[msrpEmitListenvectors,listenFormat,hentry]
 have htouch:∀{f:Format MsrpValue} {b:Building MsrpValue},
  Touches f.selects b.attribList
   (b.append (encoder db.lva.tx db.sendEmptyLeaveAllFlag f)).attribList:=
  append_list (Touches.refl _) fun base l=>emitVectors_touches _ _ _ _
 have hlisten:∀{b:Building MsrpValue},
  (∀a∈b.attribList,a.value.type=.listener → a.applicant.tx=true) →
  b.append (msrpEmitListenvectors db.lva.tx db.sendEmptyLeaveAllFlag)=
   b.append (encoder db.lva.tx db.sendEmptyLeaveAllFlag listenFormat):=by
  intro b hb
  refine append_congr fun base=>?_
  rw[msrpEmitListenvectors,encoder,markListeners_eq hb]
  split
  · next hfull=>simp[emitVectors,hfull]
  · rfl
 have hadv:∀a∈((Building.start db.attribList).append
  (encoder db.lva.tx db.sendEmptyLeaveAllFlag talkerAdvFormat)).attribList,
  a.value.type=.listener → a.applicant.tx=true:=by
  refine htouch.forall_mem ?_ htx
  intro a ha _ hlistener
  have:a.value.type=.talkerAdv:=of_decide_eq_true ha
  exact absurd (this.symm.trans hlistener) (by decide)
 have hfailed:=htouch.forall_mem (P:=fun a=>a.value.type=.listener →
  a.applicant.tx=true) (fun a (ha:talkerFailedFormat.selects a.value=true) _
   (hlistener:a.value.type=.listener)=>by
  have:a.value.type=.talkerFailed:=of_decide_eq_true ha
  exact absurd (this.symm.trans hlistener) (by decide)) hadv
 have halike:=alike_requireRoom (by decide:3≤13) hentry
  (((Building.start db.attribList).append (encoder db.lva.tx db.sendEmptyLeaveAllFlag
   talkerAdvFormat)).append (encoder db.lva.tx db.sendEmptyLeaveAllFlag talkerFailedFormat))
 rw[hlisten hfailed] at halike
 exact halike

lemma msrpBuild_alike : Alike (msrpBuild db) (emitAll db.lva.tx db.sendEmptyLeaveAllFlag msrpFormats
  (Building.start db.attribList)) :=
 (listenStage_alike htx).emitAll db.lva.tx db.sendEmptyLeaveAllFlag [domainFormat]

end

lemma msrpCarried_eq : msrpCarried station p2pmac interest db=carried (frameHeader msrpAddr msrpEtype station)
   (emitAll db.lva.tx db.sendEmptyLeaveAllFlag msrpFormats
    (Building.start (txPass p2pmac db).attribList)) := by
 have htx:∀a∈(txPass p2pmac db).attribList,a.value.type=.listener →
  a.applicant.tx=true:=by
  intro a ha _
  obtain ⟨c,-,rfl⟩:=mem_map.1 ha
  exact (applicantPass_tx p2pmac c).1
 exact (leaving_eq _ _).trans ((msrpBuild_alike htx).carried _)

lemma msrp_lossless_iff : Lossless p2pmac db.attribList (msrpCarried station p2pmac interest db) ↔
  txPosition p2pmac db [talkerAdvFormat]≤1963 ∧
  txPosition p2pmac db [talkerAdvFormat,talkerFailedFormat]≤1987 ∧
  txPosition p2pmac db [talkerAdvFormat,talkerFailedFormat,listenFormat]≤1995 ∧
  txPosition p2pmac db [talkerAdvFormat,talkerFailedFormat,listenFormat,domainFormat]≤1997 := by
 rw[msrpCarried_eq,lossless_iff_fits msrp_proper msrp_apart msrp_roomy msrp_cover]
 have hfailed:talkerFailedFormat.vectorSize=37:=rfl
 have hlisten:listenFormat.vectorSize=13:=rfl
 have hdomain:domainFormat.vectorSize=5:=rfl
 simp only[msrpFormats,Fits,txPosition,position,map_cons,map_nil,sum_cons,sum_nil,
  Nat.add_zero,maxFrameSize,←Nat.add_assoc]
 constructor
 · rintro (hnone|⟨-,-,h1,-,h2,-,h3,-,h4⟩)
   · have hadv:=messageFor_nil_length talkerAdvFormat db
     have hfailed:=messageFor_nil_length talkerFailedFormat db
     have hlisten:=messageFor_nil_length listenFormat db
     have hdomain:=messageFor_nil_length domainFormat db
     rw[hnone talkerAdvFormat (by simp),hnone talkerFailedFormat (by simp),
      hnone listenFormat (by simp),hnone domainFormat (by simp)]
     simp only[messageListAt]
     simp only[talkerAdvFormat,talkerFailedFormat,listenFormat,domainFormat] at *
     omega
   · omega
 · rintro ⟨h1,h2,h3,h4⟩
   refine .inr ⟨by decide,?_,by omega,?_,by omega,?_,by omega,?_,by omega⟩
   · exact runsFit_of_message _ _ talkerAdv_undoes.proper rfl (Nat.le_trans h1 (by decide))
   · exact runsFit_of_message _ _ talkerFailed_undoes.proper rfl (Nat.le_trans h2 (by decide))
   · exact runsFit_of_message _ _ listen_undoes.proper rfl (Nat.le_trans h3 (by decide))
   · exact runsFit_of_message _ _ domain_undoes.proper rfl (Nat.le_trans h4 (by decide))

/-- Exactly if every encoder finds the room it asks for behind the vectors of the one before it. -/
theorem tx_lossless_iff (station:BitVec 48) (p2pmac:Nat) : (∀db:Database (BitVec 16),
  Lossless p2pmac db.attribList (mvrpCarried station p2pmac db) ↔
   position db.lva.tx db.sendEmptyLeaveAllFlag (txPass p2pmac db).attribList [vidFormat] ≤
    1997) ∧
 (∀(s1 s2:Nat) (db:Database MmrpValue),Lossless p2pmac db.attribList (mmrpCarried station [s1,s2] p2pmac db) ↔
   RunsFit macFormat maxFrameSize 17 (vectorsFrom macFormat 0 (txPass p2pmac db).attribList) ∧
   position db.lva.tx db.sendEmptyLeaveAllFlag (txPass p2pmac db).attribList [macFormat] ≤
    1994 ∧
   position db.lva.tx db.sendEmptyLeaveAllFlag (txPass p2pmac db).attribList
    [macFormat,svcFormat [s1,s2]]≤1997) ∧
 (∀(interest:Interest) (db:Database MsrpValue),
  Lossless p2pmac db.attribList (msrpCarried station p2pmac interest db) ↔
   position db.lva.tx db.sendEmptyLeaveAllFlag (txPass p2pmac db).attribList
    [talkerAdvFormat]≤1963 ∧
   position db.lva.tx db.sendEmptyLeaveAllFlag (txPass p2pmac db).attribList
    [talkerAdvFormat,talkerFailedFormat]≤1987 ∧
   position db.lva.tx db.sendEmptyLeaveAllFlag (txPass p2pmac db).attribList
    [talkerAdvFormat,talkerFailedFormat,listenFormat]≤1995 ∧
   position db.lva.tx db.sendEmptyLeaveAllFlag (txPass p2pmac db).attribList
    [talkerAdvFormat,talkerFailedFormat,listenFormat,domainFormat]≤1997) :=
 ⟨mvrp_lossless_iff station p2pmac,fun s1 s2=>mmrp_lossless_iff station s1 s2 p2pmac,
  msrp_lossless_iff station p2pmac⟩

def seventyTalkers : Database MsrpValue where
 lva := ⟨.PASSIVE,false,.NONE⟩
 joinTimerRunning:=true
 lvTimerRunning:=false
 lvaTimerRunning:=true
 attribList:=(List.range 70).map fun i=>
  ⟨{blank .talkerAdv with
   talkListen:={emptyTalkListen with streamId:=BitVec.ofNat 64 (2*i)}
   operation:=.declare},⟨.VP,false,.NULL,.YES,some .VO⟩,⟨.IN,.NONE,0⟩⟩
 sendEmptyLeaveAllFlag:=false

theorem seventyTalkers_lost : (∀a∈(txPass 0 seventyTalkers).attribList,a.applicant.mrpState=.AA) ∧
  ¬Lossless 0 seventyTalkers.attribList (msrpCarried 0 0 ⟨false,[]⟩ seventyTalkers) := by
 refine ⟨by decide +kernel,?_⟩
 rw[msrp_lossless_iff]
 decide +kernel

end OpenAvnu.MrpLossless
