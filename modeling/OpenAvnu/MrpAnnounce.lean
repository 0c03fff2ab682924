import OpenAvnu.MrpLeaveAll
import OpenAvnu.MrpLossless

/-!
# Announcing a LeaveAll

MVRP and MSRP send an empty LeaveAll for a type without declarations, MMRP only for service
requirements.
-/

namespace OpenAvnu.MrpAnnounce

open Mrp MrpEvents MrpEncode MrpDecode MrpVectors MrpMessages MrpFrames MrpFraming MrpTransmit List
open MrpLeaveAll MrpLaws MrpSteps MrpLossless Mvrp Mmrp Msrp MvrpRoundTrip MmrpRoundTrip MmrpValue
open MsrpRoundTrip

variable {κ α:Type}

def AgesOut (kind:α → κ) (k:κ) (db db':Database α) : Prop :=
 ∃(i:Nat) (a b:Attribute α),db.attribList[i]? = some a ∧ db'.attribList[i]? = some b ∧
  kind a.value=k ∧ a.registrar.mrpState=.IN ∧ b.registrar.mrpState=.LV

/-- For every kind of registration that starts to leave, a frame sent in the same step carries
the LeaveAll flag. -/
def Announced (kind:α → κ) (parse:List UInt8 → List (Call κ α)×Except Stop Unit)
 (db:Database α) (o:Outcome α) : Prop := ∀k,AgesOut kind k db o.db → ∃frame∈o.sent,.leaveAll k∈(parse frame).1

lemma agesOut_iff {app:Application α} (hsends:SendsOnly app) (kind:α → κ) (k:κ)
 (p2pmac:Nat) (db:Database α) : AgesOut kind k db (lvaTimerEvent app p2pmac db).db ↔
  ∃a∈db.attribList,kind a.value=k ∧ a.registrar.mrpState=.IN := by
 have hentry:∀i:Nat,(lvaTimerEvent app p2pmac db).db.attribList[i]?.map entry=
  db.attribList[i]?.map fun a:Attribute α=>
   (entry a).age p2pmac .TXLA fun _=>true:=by
  intro i
  have hentries:=(lvaTimerEvent_swept hsends p2pmac db).entries
  rw[entries,entries,map_map] at hentries
  rw[←getElem?_map,hentries,getElem?_map]
  rfl
 constructor
 · rintro ⟨i,a,b,ha,-,hkind,hin,-⟩
   exact ⟨a,mem_of_getElem? ha,hkind,hin⟩
 · rintro ⟨a,ha,hkind,hin⟩
   obtain ⟨i,hi⟩:=mem_iff_getElem?.1 ha
   have hb:=hentry i
   rw[hi,Option.map_some,Option.map_eq_some_iff] at hb
   obtain ⟨b,hb,hleave⟩:=hb
   refine ⟨i,a,b,hi,hb,hkind,hin,?_⟩
   have hregistrar:=congrArg Entry.registrar hleave
   rw[Entry.age,Entry.register] at hregistrar
   simpa[entry,registrarStep,registrarLeave,hin] using hregistrar

variable {fmts:List (Format α)} {l:List (Attribute α)} (station:BitVec 48)
 {p2pmac s1 s2:Nat}

lemma frame_of_fits (hproper:∀f∈fmts,Proper f) (hapart:Apart fmts) (hroomy:Roomy fmts)
 (hsend:∀f∈fmts,∀v∈vectorsFrom f 0 l,Sendable f v)
 (hfits:Fits true true l fmts messageListAt) {f:Format α} (hf:f∈fmts)
 (hempty:f.emptyLeaveAll=true) (header:List UInt8) : (emitAll true true fmts (Building.start l)).frame header=
  some (header++((fmts.flatMap fun g=>messageFor g true true (vectorsFrom g 0 l))++[0,0])) := by
 obtain ⟨hmessages,-⟩:=emitAll_of_fits hproper hapart hroomy hsend (start_messages l)
  (fun _ _=>rfl) hfits
 rw[nil_append] at hmessages
 rw[frame_of_messages header hmessages ?_ hfits.last,append_assoc]
 intro hnil
 have:=flatMap_eq_nil_iff.1 hnil f hf
 unfold messageFor at this
 split at this
 · exact message_ne_nil _ _ this
 · simp[hempty,message] at this

lemma room_of_fits {lva flag:Bool} (hproper:∀f∈fmts,Proper f) {pos:Nat}
 (hfits:Fits lva flag l fmts pos) : ∀f∈fmts,vectorsFrom f 0 l≠[] →
  ∃base,cursorAfter f base (vectorsFrom f 0 l)+2 ≤ maxFrameSize := by
 induction fmts generalizing pos with
 | nil=>simp
 | cons g fmts ih=>
  intro f hf hne
  rcases mem_cons.1 hf with rfl|hf
  · have hlast:=hfits.2.2.last
    have hlength:=message_length f pos (bodyBytes f lva (vectorsFrom f 0 l))
    rw[bodyBytes_length (hproper f mem_cons_self) lva (vectorsFrom_isVector f 0 l)]
     at hlength
    rw[messageFor,if_pos hne] at hlast
    refine ⟨pos,?_⟩
    rw[cursorAfter,if_pos hne]
    omega
  · exact ih (fun f hf=>hproper f (mem_cons_of_mem _ hf)) hfits.2.2 f hf hne

lemma messageFor_length_ge {fmt:Format α} (hempty:fmt.emptyLeaveAll=true)
 (sent:List (List (Attribute α))) : 4≤(messageFor fmt true true sent).length := by
 unfold messageFor
 rw[hempty]
 split<;>simp[message]<;>omega
lemma vid_speaks : Speaks (mvrpDispatch 0) vidFormat vidReader where
 framed := vid_undoes.framed rfl
 once:=rfl
 type:=by decide
 dispatch:=fun _ _ _ _=>rfl

lemma mvrp_announced {db:Database (BitVec 16)}
 (hfits:Fits true true (leaveAllPass p2pmac db).attribList [vidFormat] messageListAt) :
 Announced (fun _=>()) mvrpParse db (mvrpEvent station p2pmac .LVATIMER none db) := by
 have hproper:∀f∈[vidFormat],Proper f:=by
  simpa using vid_undoes.proper
 have hframe:=frame_of_fits hproper (by simp[Apart]) ⟨by decide,by decide,trivial⟩
  (fun f _ v hv=>leaveAllPass_sendable hv) hfits mem_cons_self rfl
  (frameHeader mvrpCustomerBridgeAddr mvrpEtype station)
 intro k _
 refine ⟨_,Option.mem_toList.2 hframe,?_⟩
 rw[flatMap_cons,flatMap_nil,append_nil,mvrpParse,parseFrame_header rfl rfl station _ (by simp)]
 generalize hvectors:vectorsFrom vidFormat 0 (leaveAllPass p2pmac db).attribList=sent
 have hroom:sent≠[] → ∃base,cursorAfter vidFormat base sent+2 ≤ maxFrameSize:=by
  rw[←hvectors]
  exact room_of_fits hproper hfits vidFormat mem_cons_self
 have hsent:∀v∈sent,IsVector vidFormat v:=by
  rw[←hvectors]
  exact vectorsFrom_isVector vidFormat 0 _
 obtain ⟨fuel,hfuel⟩:∃fuel,(messageFor vidFormat true true sent++[0,0]).length+1=
  fuel+3:=⟨(messageFor vidFormat true true sent).length,by simp⟩
 rw[hfuel]
 exact (vid_speaks.heard_last rfl rfl (by decide) (by decide) hsent hroom not_mem_nil fuel 0 k).2 rfl

def msrpReaders : List (Format MsrpValue×Reader MsrpType MsrpValue) :=
 [(talkerAdvFormat,talkerReader .talkerAdv 25),(talkerFailedFormat,talkerReader .talkerFailed
   34),(listenFormat,listenReader),(domainFormat,domainReader)]
lemma passes_of_understood {fmt:Format MsrpValue} {r:Reader MsrpType MsrpValue}
 (hr:Understood fmt r) (hframed:Framed fmt r) (honce:r.once=fmt.lvaOnce)
 (hempty:fmt.emptyLeaveAll=true) (hskips:r.skipsEmpty=true)
 (hlength:fmt.attributeLength=r.firstLength) (hshort:fmt.attributeLength<1000) :
 Passes (msrpDispatch 0) fmt r := ⟨⟨hframed,honce,hr.type,hr.dispatch⟩,hempty,hskips,hlength,hshort⟩

lemma msrp_passes : ∀p∈msrpReaders,Passes (msrpDispatch 0) p.1 p.2 := by
 intro p hp
 simp only[msrpReaders,mem_cons,not_mem_nil,or_false] at hp
 rcases hp with rfl|rfl|rfl|rfl
 · exact passes_of_understood talkerAdv_understood (talkerAdv_undoes.framed rfl) rfl rfl rfl rfl
    (by decide)
 · exact passes_of_understood talkerFailed_understood (talkerFailed_undoes.framed rfl) rfl rfl rfl
    rfl (by decide)
 · exact passes_of_understood listen_understood (listen_undoes.framed rfl) rfl rfl rfl rfl
    (by decide)
 · exact passes_of_understood domain_understood (domain_undoes.framed rfl) rfl rfl rfl rfl
    (by decide)

lemma msrp_announced (interest:Interest) {db:Database MsrpValue}
 (hfits:Fits true true (leaveAllPass p2pmac db).attribList msrpFormats messageListAt) :
 Announced MsrpValue.type msrpParse db
  (msrpEvent station p2pmac interest .LVATIMER none db) := by
 have htx:∀a∈(leaveAllPass p2pmac db).attribList,a.value.type=.listener →
  a.applicant.tx=true:=by
  intro a ha _
  obtain ⟨c,-,rfl⟩:=mem_map.1 ha
  exact (leaveAllAttribute_applicant p2pmac c).1
 have hframe:=((msrpBuild_alike htx).frame (frameHeader msrpAddr msrpEtype station)).trans
  (frame_of_fits msrp_proper msrp_apart msrp_roomy (fun f _ v hv=>leaveAllPass_sendable hv) hfits
   mem_cons_self rfl _)
 intro k _
 refine ⟨_,Option.mem_toList.2 hframe,?_⟩
 rw[msrpParse,parseFrame_header rfl rfl station _ (by simp)]
 have hfuel:2*msrpReaders.length≤(msrpReaders.flatMap
  (fun p:Format MsrpValue×Reader MsrpType MsrpValue=>messageFor p.1 true true
   (vectorsFrom p.1 0 (leaveAllPass p2pmac db).attribList))++[0,0]).length+1:=by
  have hlength:∀p∈msrpReaders,4≤(messageFor p.1 true true
   (vectorsFrom p.1 0 (leaveAllPass p2pmac db).attribList)).length:=fun p hp=>
   messageFor_length_ge (msrp_passes p hp).empty _
  simp only[msrpReaders,List.forall_mem_cons] at hlength
  simp only[msrpReaders,flatMap_cons,flatMap_nil,length_append,length_cons]
  omega
 have hall:=heard_all msrp_passes (by decide)
  (fun f=>vectorsFrom f 0 (leaveAllPass p2pmac db).attribList) (fun p _=>vectorsFrom_isVector p.1 0 _)
  (fun p hp=>room_of_fits msrp_proper hfits p.1 (mem_map_of_mem (f:=Prod.fst) hp))
  (fun _ _=>not_mem_nil) hfuel 0
 cases k with
 | talkerAdv=>exact hall (talkerAdvFormat,talkerReader .talkerAdv 25) (by simp[msrpReaders])
 | talkerFailed=>
  exact hall (talkerFailedFormat,talkerReader .talkerFailed 34) (by simp[msrpReaders])
 | listener=>exact hall (listenFormat,listenReader) (by simp[msrpReaders])
 | domain=>exact hall (domainFormat,domainReader) (by simp[msrpReaders])

def svcLayout : Reader MmrpType MmrpValue := {svcReader with firstLength:=2}
def layoutDispatch (version type length:UInt8) (data:List UInt8) : Dispatch MmrpType MmrpValue :=
 if type=1 ∧ length=1 then .vectors svcLayout data else mmrpDispatch version type length data
def mmrpLayout (frame:List UInt8) : List (Call MmrpType MmrpValue)×Except Stop Unit :=
 parseFrame mmrpAddr mmrpEtype layoutDispatch frame
lemma mac_speaks : Speaks (layoutDispatch 0) macFormat macReader where
 framed := mac_undoes.framed rfl
 once:=rfl
 type:=by decide
 dispatch:=fun _ _ _ _=>rfl
lemma svc_speaks (s1 s2:Nat) : Speaks (layoutDispatch 0) (svcFormat [s1,s2]) svcLayout where
 framed := ⟨svc_proper s1 s2,rfl,rfl⟩
 once:=rfl
 type:=by simp[svcFormat]
 dispatch:=fun _ _ _ _=>rfl

lemma mmrpLayout_heard {macs svcs:List (List (Attribute MmrpValue))}
 (hmacs:∀v∈macs,IsVector macFormat v) (hsvcs:∀v∈svcs,IsVector (svcFormat [s1,s2]) v)
 (hmacRoom:macs≠[] → ∃base,cursorAfter macFormat base macs+2 ≤ maxFrameSize)
 (hsvcRoom:svcs≠[] → ∃base,cursorAfter (svcFormat [s1,s2]) base svcs+2 ≤ maxFrameSize)
 (k:MmrpType) : .leaveAll k∈(mmrpLayout (frameHeader mmrpAddr mmrpEtype station++
  (messageFor macFormat true true macs++(messageFor (svcFormat [s1,s2]) true true svcs++[0,0])))).1 ↔
  k=.svcreq ∨ (k=.macvec ∧ macs≠[]) := by
 have hlast:∀{seen:List MmrpType},MmrpType.svcreq∉seen → ∀fuel endmarks,
  .leaveAll k∈(readMessages (layoutDispatch 0) (fuel+3) endmarks seen
   (messageFor (svcFormat [s1,s2]) true true svcs++[0,0])).1↔k=.svcreq:=
  fun hseen fuel endmarks=>(svc_speaks s1 s2).heard_last rfl rfl (by simp[svcLayout,svcFormat])
   (by simp[svcFormat]) hsvcs hsvcRoom hseen fuel endmarks k
 rw[mmrpLayout,parseFrame_header rfl rfl station _ (by simp;omega)]
 by_cases hne:macs=[]
 · subst hne
   have hnone:messageFor macFormat true true []=[]:=rfl
   rw[hnone]
   have:=hlast not_mem_nil (messageFor (svcFormat [s1,s2]) true true svcs).length 0
   simpa using this
 · generalize htail:messageFor (svcFormat [s1,s2]) true true svcs++[0,0]=tail at hlast ⊢
   have htailNe:tail≠[]:=by rw[←htail];simp
   have hlength:6≤tail.length:=by
    have:=@messageFor_length_ge _ (svcFormat [s1,s2]) rfl svcs
    rw[←htail]
    simpa using this
   obtain ⟨base,hbase⟩:=hmacRoom hne
   obtain ⟨fuel,hfuel⟩:∃fuel,(messageFor macFormat true true macs++tail).length+1=fuel+3+1+1:=
    ⟨(messageFor macFormat true true macs).length+tail.length-4,by simp;omega⟩
   obtain ⟨found,seen,hfound,hsub,hread⟩:=mac_speaks.heard hne hmacs hbase not_mem_nil
    true tail (fuel+3+1) 0
   have hseen:MmrpType.svcreq∉seen:=fun hmem=>by
    rcases hsub _ hmem with h|h
    · cases h
    · cases h
   rw[hfuel,hread,readMessages_endmark _ _ htailNe,mem_append,hfound,hlast hseen]
   simp only[ne_eq,hne,not_false_eq_true,and_true]
   exact Or.comm

lemma mmrp_announced_iff {db:Database MmrpValue}
 (hfits:Fits true true (leaveAllPass p2pmac db).attribList [macFormat,svcFormat [s1,s2]]
  messageListAt) : Announced type mmrpLayout db
  (mmrpEvent station [s1,s2] p2pmac .LVATIMER none db) ↔
  (∀a∈db.attribList,a.value.type=.macvec → a.registrar.mrpState ≠ .IN) ∨
   ∃a∈db.attribList,a.value.type=.macvec ∧
    declares a.applicant.mrpState=true := by
 have hproper:∀f∈[macFormat,svcFormat [s1,s2]],Proper f:=by
  simpa using ⟨mac_undoes.proper,svc_proper s1 s2⟩
 have hframe:=((mmrpBuild_alike s1 s2 (leaveAllPass p2pmac db)).frame
  (frameHeader mmrpAddr mmrpEtype station)).trans
   (frame_of_fits hproper (mmrp_apart _) (mmrp_roomy s1 s2)
    (fun f _ v hv=>leaveAllPass_sendable hv) hfits
    (mem_cons_of_mem _ mem_cons_self) rfl _)
 simp only[flatMap_cons,flatMap_nil,append_nil,append_assoc] at hframe
 have hsent:(mmrpEvent station [s1,s2] p2pmac .LVATIMER none db).sent=[_]:=
  congrArg Option.toList hframe
 have hroom:=room_of_fits hproper hfits
 have hheard:=mmrpLayout_heard station (vectorsFrom_isVector macFormat 0 _)
  (vectorsFrom_isVector (svcFormat [s1,s2]) 0 _) (hroom macFormat (by simp))
  (hroom (svcFormat [s1,s2]) (by simp))
 have hmacs:=leaveAll_vectors_iff macFormat p2pmac db
 simp only[macFormat,decide_eq_true_eq] at hmacs
 have hages:=fun k=>agesOut_iff (mmrp_sendsOnly station [s1,s2]) type k p2pmac db
 unfold Announced
 rw[hsent]
 simp only[mem_singleton,exists_eq_left,hheard]
 constructor
 · intro hall
   by_cases hin:∃a∈db.attribList,a.value.type=.macvec ∧ a.registrar.mrpState=.IN
   · rcases hall .macvec ((hages _).2 hin) with h|⟨-,hne⟩
     · cases h
     · exact .inr (hmacs.1 hne)
   · refine .inl fun a ha htype hregistrar=>hin ⟨a,ha,htype,hregistrar⟩
 · rintro hcases k hk
   cases k with
   | svcreq=>exact .inl rfl
   | macvec=>
    right
    refine ⟨rfl,hmacs.2 ?_⟩
    rcases hcases with hnone|hdeclared
    · obtain ⟨a,ha,htype,hin⟩:=(hages _).1 hk
      exact absurd hin (hnone a ha htype)
    · exact hdeclared

/-- If everything fits into a frame; in MMRP exactly if no MAC address is registered or one is
declared. -/
theorem leaveAll_announced (station:BitVec 48) (p2pmac:Nat) : (∀db:Database (BitVec 16),
  Fits true true (leaveAllPass p2pmac db).attribList [vidFormat] messageListAt →
  Announced (fun _=>()) mvrpParse db (mvrpEvent station p2pmac .LVATIMER none db)) ∧
 (∀(interest:Interest) (db:Database MsrpValue),
  Fits true true (leaveAllPass p2pmac db).attribList msrpFormats messageListAt →
  Announced MsrpValue.type msrpParse db
   (msrpEvent station p2pmac interest .LVATIMER none db)) ∧
 (∀(s1 s2:Nat) (db:Database MmrpValue),
  Fits true true (leaveAllPass p2pmac db).attribList [macFormat,svcFormat [s1,s2]]
   messageListAt →
  (Announced type mmrpLayout db
   (mmrpEvent station [s1,s2] p2pmac .LVATIMER none db) ↔
   (∀a∈db.attribList,a.value.type=.macvec → a.registrar.mrpState ≠ .IN) ∨
    ∃a∈db.attribList,a.value.type=.macvec ∧
     declares a.applicant.mrpState=true)) := ⟨fun _ hfits=>mvrp_announced station hfits,
  fun interest _ hfits=>msrp_announced station interest hfits,
  fun _ _ _ hfits=>mmrp_announced_iff station hfits⟩

def twoMacs (own:ApplicantState) : Database MmrpValue where
 lva := ⟨.PASSIVE,false,.NONE⟩
 joinTimerRunning:=false
 lvTimerRunning:=false
 lvaTimerRunning:=true
 attribList:=
  [⟨.macvec 0x01005e000001,⟨.VO,false,.NULL,.YES,none⟩,⟨.IN,.NONE,0x020000000001⟩⟩,
   ⟨.macvec 0x01005e000005,⟨own,false,.NULL,.YES,none⟩,⟨.MT,.NONE,0⟩⟩]
 sendEmptyLeaveAllFlag:=false

theorem leaveAll_announced_declared :
 Fits true true (leaveAllPass 0 (twoMacs .QA)).attribList [macFormat,svcFormat [0,0]]
  messageListAt ∧
  Announced type mmrpLayout (twoMacs .QA)
   (mmrpEvent 0x020000000002 [0,0] 0 .LVATIMER none (twoMacs .QA)) := by
 have hfits:Fits true true (leaveAllPass 0 (twoMacs .QA)).attribList
  [macFormat,svcFormat [0,0]] messageListAt:=by
  refine ⟨by decide,⟨.inl rfl,trivial⟩,by decide,trivial,?_⟩
  simp only[Fits]
  decide
 exact ⟨hfits,((leaveAll_announced _ _).2.2 _ _ _ hfits).2 (.inr (by decide))⟩

theorem mac_leaveAll_not_announced : AgesOut type .macvec (twoMacs .VO)
  (mmrpEvent 0x020000000002 [0,0] 0 .LVATIMER none (twoMacs .VO)).db ∧
  (mmrpEvent 0x020000000002 [0,0] 0 .LVATIMER none (twoMacs .VO)).sent=
   [[1,128,194,0,0,32,2,0,0,0,0,2,136,246,0,1,1,32,0,0,0,0,0,0]] ∧
  ¬Announced type mmrpLayout (twoMacs .VO)
   (mmrpEvent 0x020000000002 [0,0] 0 .LVATIMER none (twoMacs .VO)) := by
 have hages:AgesOut type .macvec (twoMacs .VO)
  (mmrpEvent 0x020000000002 [0,0] 0 .LVATIMER none (twoMacs .VO)).db:=
  ⟨0,_,_,rfl,rfl,rfl,rfl,rfl⟩
 refine ⟨hages,by decide,fun hall=>?_⟩
 obtain ⟨frame,hframe,hheard⟩:=hall .macvec hages
 revert frame
 decide

end OpenAvnu.MrpAnnounce
