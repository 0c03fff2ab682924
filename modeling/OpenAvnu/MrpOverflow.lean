import OpenAvnu.MrpLeaveAll
import OpenAvnu.MrpLossless
import OpenAvnu.MrpReach

/-!
# Writing behind the frame buffer

An empty LeaveAll also takes an end mark, and talker and domain checks leave out the
AttributeListLength.
-/

namespace OpenAvnu.MrpOverflow

open List

open Mrp MrpEncode MrpVectors MrpFrames MrpMessages MrpSteps MrpTransmit MrpReach Mvrp Mmrp Msrp
open MvrpRoundTrip MmrpRoundTrip MsrpRoundTrip MrpLeaveAll MrpLossless

lemma vid_guarded : Guarded vidFormat := ⟨vid_undoes.proper,by decide,by decide⟩
lemma mac_guarded : Guarded macFormat := ⟨mac_undoes.proper,by decide,by decide⟩

variable (s1 s2:Nat) {f:Format MsrpValue} (lva:Bool) (db:Database MsrpValue)

lemma svc_guarded : Guarded (svcFormat [s1,s2]) := ⟨svc_proper s1 s2,Nat.le_refl 2,Nat.le_add_left 3 4⟩

lemma mvrp_inside (db:Database (BitVec 16)) : (mvrpBuild db).lastReach ≤ maxFrameSize := by
 rw[lastReach_le_iff,mvrpBuild,append_reach_le_iff]
 refine ⟨Nat.le_of_ble_eq_true rfl,?_⟩
 rintro _ ⟨⟩
 refine (emitVectors_reach_roomy vid_guarded (by decide) (fun _=>by decide) _ _ _).2 ?_
 rintro ⟨-,-,-,-,hfull⟩
 exact absurd hfull (by decide)

def macStage (db:Database MmrpValue) : Building MmrpValue := ((Building.start db.attribList).append
  (mmrpEmitMacvectors db.lva.tx db.sendEmptyLeaveAllFlag)).requireRoom

lemma mmrp_inside_iff (db:Database MmrpValue) : (mmrpBuild [s1,s2] db).lastReach ≤ maxFrameSize ↔
  ∀messages,(macStage db).messages=some messages →
   ¬(db.sendEmptyLeaveAllFlag=true ∧ messageListAt+messages.length=1994) := by
 have hmac:(macStage db).reach ≤ maxFrameSize:=by
  rw[macStage,requireRoom_reach,append_reach_le_iff]
  refine ⟨Nat.le_of_ble_eq_true rfl,?_⟩
  rintro _ ⟨⟩
  refine (emitVectors_reach_roomy mac_guarded (by decide) (fun _=>by decide) _ _ _).2 ?_
  rintro ⟨-,hempty,-⟩
  exact absurd hempty (by decide)
 have hbuild:mmrpBuild [s1,s2] db=
  (macStage db).append (mmrpEmitSvcvectors [s1,s2] db.lva.tx db.sendEmptyLeaveAllFlag):=rfl
 rw[lastReach_le_iff,hbuild,append_reach_le_iff,and_iff_right hmac]
 refine forall₂_congr fun messages _=>?_
 rw[mmrpEmitSvcvectors,emitVectors_reach_roomy (svc_guarded s1 s2) (by simp[svcFormat])
  (by simp only[svcFormat,dataAt,eventRoom,Option.isSome_none,Bool.false_eq_true,if_false];omega)]
 refine not_congr ?_
 simp only[EmptyOverflows,svcFormat,dataAt,maxFrameSize,true_and,Bool.false_eq_true,if_false]
 constructor
 · rintro ⟨hflag,-,hentry,hfull⟩
   exact ⟨hflag,by omega⟩
 · rintro ⟨hflag,hposition⟩
   exact ⟨hflag,by omega,by omega,by omega⟩

lemma msrp_guarded (hf:f∈msrpFormats) : Guarded f := by
 refine ⟨msrp_proper f hf,?_,?_⟩ <;>
 · simp only[msrpFormats,mem_cons,not_mem_nil,or_false] at hf
   rcases hf with rfl|rfl|rfl|rfl<;>decide

lemma vectorsFrom_append {g:Format MsrpValue}
 (hdisjoint:∀v,g.selects v=true → f.selects v=false) (lva flag:Bool)
 (b:Building MsrpValue) : vectorsFrom g 0 (b.append (msrpEmitTalkervectors f lva flag)).attribList=
  vectorsFrom g 0 b.attribList :=
 vectorsFrom_touches hdisjoint (append_list (Touches.refl _) fun _ _=>emitVectors_touches _ _ _ _) 0

lemma advStage_vectors : vectorsFrom talkerFailedFormat 0 (advStage db).attribList=
  vectorsFrom talkerFailedFormat 0 db.attribList := by
 refine vectorsFrom_append (fun v hv=>?_) _ _ _
 have:v.type=.talkerFailed:=of_decide_eq_true hv
 simp[talkerAdvFormat,this]

variable (flag:Bool) (position:Nat)

lemma vectorsFrom_listen (base:Nat) (l:List (Attribute MsrpValue)) :
 vectorsFrom domainFormat 0 (msrpEmitListenvectors lva flag base l).attribList=vectorsFrom domainFormat 0 l := by
 have hmarked:vectorsFrom domainFormat 0 (markListeners l)=vectorsFrom domainFormat 0 l:=by
  refine vectorsFrom_unselected (List.forall₂_map_right_iff.2 (List.forall₂_same.2 fun a _=>?_)) 0
  split
  · next hlistener=>exact .inr ⟨by simp[domainFormat,hlistener],
     by simp[domainFormat,hlistener]⟩
  · exact .inl rfl
 unfold msrpEmitListenvectors
 split
 · rfl
 · refine (vectorsFrom_touches (fun v hv=>?_) (emitVectors_touches _ _ _ _) 0).trans hmarked
   have:v.type=.domain:=of_decide_eq_true hv
   simp[listenFormat,this]

lemma listenStage_vectors : vectorsFrom domainFormat 0 (listenStage db).attribList=
  vectorsFrom domainFormat 0 db.attribList := by
 have hother:∀{t:MsrpType},t ≠ .domain → ∀v:MsrpValue,
  domainFormat.selects v=true → decide (v.type=t)=false:=by
  intro t hne v hv
  have:v.type=.domain:=of_decide_eq_true hv
  simp[this,hne.symm]
 have hlisten:vectorsFrom domainFormat 0 (listenStage db).attribList=
  vectorsFrom domainFormat 0 (failedStage db).attribList:=
  append_list (R:=fun l l'=>vectorsFrom domainFormat 0 l'=vectorsFrom domainFormat 0 l)
   (fun _=>rfl) fun base l=>vectorsFrom_listen _ _ base l
 rw[hlisten,failedStage,requireRoom_attribList,vectorsFrom_append (hother (by decide)),advStage,
  vectorsFrom_append (hother (by decide))]
 rfl

/-- Where the failed talkers do not fit: an empty LeaveAll without its end mark, or the event of a
single talker. -/
def FailedOverflows (flag:Bool) (position:Nat)
 (vectors:List (List (Attribute MsrpValue))) : Prop :=
 (flag=true ∧ (vectors=[] ∨ 1961≤position) ∧ 1959≤position ∧ position≤1963) ∨
  (position=1960 ∧ ∃head rest,vectors=[head]::rest ∧ (ownEvent head).isSome=true)
def ListenOverflows (flag:Bool) (position:Nat) : Prop := flag=true ∧ 1985≤position ∧ position≤1987

/-- Where the domains do not fit: an empty LeaveAll, the first value of a domain or its event. -/
def DomainOverflows (flag:Bool) (position:Nat)
 (vectors:List (List (Attribute MsrpValue))) : Prop :=
 (flag=true ∧ (vectors=[] ∨ 1993≤position) ∧ 1989≤position ∧ position≤1995) ∨
  (∃head rest,vectors=[head]::rest ∧
   ((1991≤position ∧ position≤1992) ∨
    (position=1990 ∧ (ownEvent head).isSome=true)))

variable (l:List (Attribute MsrpValue))

lemma adv_reach : (msrpEmitTalkervectors talkerAdvFormat lva flag messageListAt l).reach ≤ maxFrameSize := by
 refine (emitVectors_reach_roomy (msrp_guarded (by simp[msrpFormats])) (by decide)
  (fun _=>by decide) _ _ _).2 ?_
 rintro ⟨-,-,-,-,hfull⟩
 exact absurd hfull (by decide)

lemma failed_reach_iff : (msrpEmitTalkervectors talkerFailedFormat lva flag position l).reach ≤ maxFrameSize ↔
  ¬FailedOverflows flag position (vectorsFrom talkerFailedFormat 0 l) := by
 rw[msrpEmitTalkervectors,emitVectors_reach_iff (msrp_guarded (by simp[msrpFormats])) rfl
  (fun v _=>by simp[talkerFailedFormat,talkerBytes,failureBytes]) (by decide) (by decide),
  FailedOverflows,not_or]
 refine and_congr (not_congr ?_) (not_congr ?_)
 · simp only[EmptyOverflows,talkerFailedFormat,dataAt,maxFrameSize,true_and,if_true]
   refine and_congr_right fun _=>and_congr (or_congr Iff.rfl ?_) ?_<;>omega
 · simp only[FirstOverflows,talkerFailedFormat,dataAt,maxFrameSize,if_true]
   constructor
   · rintro ⟨hroom,head,run,rest,hvectors,hfull|⟨hfull,hevent,rfl⟩⟩
     · omega
     · exact ⟨by omega,head,rest,hvectors,hevent⟩
   · rintro ⟨rfl,head,rest,hvectors,hevent⟩
     exact ⟨by decide,head,[],rest,hvectors,.inr ⟨by decide,hevent,rfl⟩⟩

lemma listen_reach_iff : (msrpEmitListenvectors lva flag position l).reach ≤ maxFrameSize ↔
  ¬ListenOverflows flag position := by
 have hsize:listenFormat.vectorSize=13:=rfl
 unfold msrpEmitListenvectors
 split
 · next hentry=>
    rw[maxFrameSize] at hentry
    refine iff_of_true (Nat.zero_le _) ?_
    rintro ⟨-,-,hposition⟩
    omega
 · rw[emitVectors_reach_roomy (msrp_guarded (by simp[msrpFormats])) (by decide)
    (by simp only[listenFormat,dataAt,eventRoom,Option.isSome_some,if_true];omega)]
   refine not_congr ?_
   simp only[EmptyOverflows,listenFormat,dataAt,maxFrameSize,true_and,if_true]
   refine and_congr_right fun _=>⟨?_,fun hposition=>⟨.inr (by omega),by omega,by omega⟩⟩
   rintro ⟨-,hentry,hfull⟩
   omega

lemma domain_reach_iff : (msrpEmitDomainvectors lva flag position l).reach ≤ maxFrameSize ↔
  ¬DomainOverflows flag position (vectorsFrom domainFormat 0 l) := by
 rw[msrpEmitDomainvectors,emitVectors_reach_iff (msrp_guarded (by simp[msrpFormats])) rfl
  (fun v _=>by simp[domainFormat]) (by decide) (by decide),DomainOverflows,not_or]
 refine and_congr (not_congr ?_) (not_congr ?_)
 · simp only[EmptyOverflows,domainFormat,dataAt,maxFrameSize,true_and,if_true]
   refine and_congr_right fun _=>and_congr (or_congr Iff.rfl ?_) ?_<;>omega
 · simp only[FirstOverflows,dataAt,maxFrameSize]
   constructor
   · rintro ⟨hroom,head,run,rest,hvectors,hfull⟩
     have hvector:=vectorsFrom_isVector domainFormat 0 l (head::run)
      (by rw[hvectors];exact mem_cons_self)
     have hrun:run=[]:=by
      rw[←hvector.2.2.2]
      cases run<;>simp[runOf,domainFormat]
     subst hrun
     refine ⟨head,rest,hvectors,?_⟩
     simp only[domainFormat,if_true] at hroom hfull
     rcases hfull with hfull|⟨hfull,hevent,-⟩
     · exact .inl ⟨by omega,by omega⟩
     · by_cases hposition:position=1990
       · exact .inr ⟨hposition,hevent⟩
       · exact .inl ⟨by omega,by omega⟩
   · rintro ⟨head,rest,hvectors,hposition⟩
     simp only[domainFormat,if_true]
     refine ⟨by omega,head,[],rest,hvectors,?_⟩
     rcases hposition with hposition|⟨rfl,hevent⟩
     · exact .inl (by omega)
     · exact .inr ⟨by decide,hevent,rfl⟩

lemma msrp_inside_iff : (msrpBuild db).lastReach ≤ maxFrameSize ↔
  (∀messages,(advStage db).messages=some messages →
   ¬FailedOverflows db.sendEmptyLeaveAllFlag (messageListAt+messages.length)
    (vectorsFrom talkerFailedFormat 0 db.attribList)) ∧
  (∀messages,(failedStage db).messages=some messages →
   ¬ListenOverflows db.sendEmptyLeaveAllFlag (messageListAt+messages.length)) ∧
  (∀messages,(listenStage db).messages=some messages →
   ¬DomainOverflows db.sendEmptyLeaveAllFlag (messageListAt+messages.length)
    (vectorsFrom domainFormat 0 db.attribList)) := by
 have hadv:(advStage db).reach ≤ maxFrameSize:=by
  rw[advStage,append_reach_le_iff]
  refine ⟨Nat.le_of_ble_eq_true rfl,?_⟩
  rintro _ ⟨⟩
  exact adv_reach _ _ _
 rw[lastReach_le_iff,msrpBuild_stages,append_reach_le_iff,listenStage,append_reach_le_iff,
  failedStage,requireRoom_reach,append_reach_le_iff,and_iff_right hadv,←failedStage,← listenStage]
 simp only[failed_reach_iff,listen_reach_iff,domain_reach_iff,advStage_vectors,listenStage_vectors,and_assoc]

/-- Exactly if no encoder starts at an offset where its check admits more than fits. -/
theorem frames_inside_iff (s1 s2:Nat) : (∀db:Database (BitVec 16),(mvrpBuild db).lastReach ≤ maxFrameSize) ∧
 (∀db:Database MmrpValue, (mmrpBuild [s1,s2] db).lastReach ≤ maxFrameSize ↔
   ∀messages,(macStage db).messages=some messages →
    ¬(db.sendEmptyLeaveAllFlag=true ∧ messageListAt+messages.length=1994)) ∧
 (∀db:Database MsrpValue, (msrpBuild db).lastReach ≤ maxFrameSize ↔
   (∀messages,(advStage db).messages=some messages →
    ¬FailedOverflows db.sendEmptyLeaveAllFlag (messageListAt+messages.length)
     (vectorsFrom talkerFailedFormat 0 db.attribList)) ∧
   (∀messages,(failedStage db).messages=some messages →
    ¬ListenOverflows db.sendEmptyLeaveAllFlag (messageListAt+messages.length)) ∧
   (∀messages,(listenStage db).messages=some messages →
    ¬DomainOverflows db.sendEmptyLeaveAllFlag (messageListAt+messages.length)
     (vectorsFrom domainFormat 0 db.attribList))) := ⟨mvrp_inside,mmrp_inside_iff s1 s2,msrp_inside_iff⟩

def failedTalkers : Database MsrpValue where
 lva := ⟨.PASSIVE,false,.NONE⟩
 joinTimerRunning:=true
 lvTimerRunning:=false
 lvaTimerRunning:=true
 attribList:=(List.range 52).map fun i=>
  ⟨{blank .talkerFailed with
   talkListen:={emptyTalkListen with streamId:=BitVec.ofNat 64 (2*i)}
   operation:=.declare},⟨.VP,false,.NULL,.YES,some .VO⟩,⟨.MT,.NONE,0⟩⟩
 sendEmptyLeaveAllFlag:=false

/-- The empty LeaveAll for listeners ends at 1994, and another one behind it does not fit. -/
theorem failedTalkers_overflow : maxFrameSize<(msrpBuild (leaveAllPass 0 failedTalkers)).lastReach := by
 have hadv:(messageFor talkerAdvFormat true true
  (vectorsFrom talkerAdvFormat 0 (leaveAllPass 0 failedTalkers).attribList)).length=33:=by
  decide +kernel
 have hfailed:(messageFor talkerFailedFormat true true
  (vectorsFrom talkerFailedFormat 0 (leaveAllPass 0 failedTalkers).attribList)).length=1930:=by
  decide +kernel
 have hlisten:(messageFor listenFormat true true
  (vectorsFrom listenFormat 0 (leaveAllPass 0 failedTalkers).attribList)).length=16:=by
  decide +kernel
 have hproper:∀f∈[talkerAdvFormat,talkerFailedFormat,listenFormat],Proper f:=by
  simpa using ⟨talkerAdv_undoes.proper,talkerFailed_undoes.proper,listen_undoes.proper⟩
 have hfits:Fits true true (leaveAllPass 0 failedTalkers).attribList
  [talkerAdvFormat,talkerFailedFormat,listenFormat] messageListAt:=by
  simp only[Fits,hfailed]
  refine ⟨by decide,?_,by decide,?_,by decide,?_,by decide⟩ <;>
  refine runsFit_of_message true true (hproper _ (by simp)) rfl ?_
  · rw[hadv];decide
  · rw[hfailed];decide
  · rw[hlisten];decide
 obtain ⟨hmessages,-⟩:=emitAll_of_fits hproper
  (msrp_apart.sublist (sublist_append_left _ [domainFormat]))
  ⟨by decide,by decide,by decide,by decide,by decide,by decide,trivial⟩
  (fun f _ v hv=>leaveAllPass_sendable hv) (start_messages _) (fun _ _=>rfl) hfits
 have hstage:=(@listenStage_alike (leaveAllPass 0 failedTalkers) (by decide +kernel)).messages
 rw[←Nat.not_le,msrp_inside_iff]
 rintro ⟨-,-,hdomain⟩
 refine hdomain _ (hstage.trans hmessages) (.inl ⟨rfl,.inl (by decide +kernel),?_⟩)
 simp only[flatMap_cons,length_append,hfailed]
 decide

end OpenAvnu.MrpOverflow
