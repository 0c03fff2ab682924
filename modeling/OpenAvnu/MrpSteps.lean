import OpenAvnu.MrpFrames
import OpenAvnu.Msrp
import OpenAvnu.Mvrp

/-!
# Laws and events of the applications

Sending a frame uses up the LeaveAll request and `tx` flags only.
-/

namespace OpenAvnu.MrpLaws

open Mrp MrpEvents MrpEncode MrpFrames Mvrp Mmrp Msrp MsrpType MsrpValue

variable {α:Type}

def SendsOnly (app:Application α) : Prop := ∀db,∃l,OnlyTx db.attribList l ∧ (app.txpdu db).1=spent db l

structure Lawful (app:Application α) : Prop where
 same_refl:∀v,app.sameAttribute v v=true
 same_merge:∀l (r a:Attribute α),app.sameAttribute r.value a.value=true →
  app.sameAttribute r.value (app.merge l r a).value=true
 add:∀r l,∃before after,l=before++after ∧ app.add r l=before++r::after
 sends:SendsOnly app

variable {b:Building α}

lemma append_onlyTx {l:List (Attribute α)} {emit:Nat → List (Attribute α) → Emitted α}
 (hemit:∀base l,OnlyTx l (emit base l).attribList) (hb:OnlyTx l b.attribList) :
 OnlyTx l (b.append emit).attribList := hb.trans (append_list OnlyTx.refl hemit)
lemma requireRoom_onlyTx {l:List (Attribute α)} (hb:OnlyTx l b.attribList) :
 OnlyTx l b.requireRoom.attribList := by
 rwa[requireRoom_attribList]
lemma emitVectors_onlyTx (fmt:Format α) (lva flag:Bool) (base:Nat)
 (l:List (Attribute α)) : OnlyTx l (emitVectors fmt maxFrameSize base lva flag l).attribList :=
 (emitVectors_touches _ _ _ _).onlyTx
lemma mvrp_sendsOnly (station:BitVec 48) : SendsOnly (mvrpApplication station) := fun _=>
 ⟨_,append_onlyTx (emitVectors_onlyTx vidFormat _ _) (OnlyTx.refl _),rfl⟩

lemma mmrp_sendsOnly (station:BitVec 48) (stack:List Nat) : SendsOnly (mmrpApplication station stack) := by
 intro db
 refine ⟨_,?_,rfl⟩
 apply append_onlyTx (emitVectors_onlyTx (svcFormat stack) _ _)
 apply requireRoom_onlyTx
 exact append_onlyTx (emitVectors_onlyTx macFormat _ _) (OnlyTx.refl _)

variable (l:List (Attribute MsrpValue))

lemma markListeners_onlyTx : OnlyTx l (markListeners l) := by
 unfold OnlyTx markListeners
 rw[List.map_map]
 refine List.map_congr_left fun a _=>?_
 simp only[Function.comp]
 split<;>rfl

lemma msrpEmitListenvectors_onlyTx (lva flag:Bool) (base:Nat)
 (l:List (Attribute MsrpValue)) : OnlyTx l (msrpEmitListenvectors lva flag base l).attribList := by
 unfold msrpEmitListenvectors
 split
 · exact OnlyTx.refl l
 · exact (markListeners_onlyTx l).trans (emitVectors_onlyTx listenFormat lva flag base _)

variable (station:BitVec 48)

lemma msrp_sendsOnly : SendsOnly (msrpApplication station) := by
 intro db
 refine ⟨_,?_,rfl⟩
 apply append_onlyTx (emitVectors_onlyTx domainFormat _ _)
 apply append_onlyTx (msrpEmitListenvectors_onlyTx _ _)
 apply requireRoom_onlyTx
 apply append_onlyTx (emitVectors_onlyTx talkerFailedFormat _ _)
 exact append_onlyTx (emitVectors_onlyTx talkerAdvFormat _ _) (OnlyTx.refl _)

lemma addGrouped_split {τ:Type} [DecidableEq τ] (type:α → τ) (key:α → Nat)
 (r:Attribute α) (l:List (Attribute α)) :
 ∃before after,l=before++after ∧ addGrouped type key r l=before++r::after := by
 induction l with
 | nil=>exact ⟨[],[],rfl,rfl⟩
 | cons a rest ih=>
  obtain ⟨before,after,hrest,hadd⟩:=ih
  have hlater:∃before' after',a::rest=before'++after' ∧
   a::addGrouped type key r rest=before'++r::after':=
   ⟨a::before,after,by rw[hrest];rfl,by rw[hadd];rfl⟩
  unfold addGrouped
  split
  · split
    · cases rest with
      | nil=>exact ⟨[a],[],rfl,rfl⟩
      | cons next more=>
       dsimp only
       split
       · exact hlater
       · exact ⟨[a],next::more,rfl,rfl⟩
    · exact ⟨[],a::rest,rfl,rfl⟩
  · exact hlater

lemma mvrp_lawful : Lawful (mvrpApplication station) where
 same_refl := fun v=>by simp[mvrpApplication]
 same_merge:=fun _ _ _ ha=>ha
 add:=addGrouped_split _ _
 sends:=mvrp_sendsOnly station
lemma mmrp_lawful (stack:List Nat) : Lawful (mmrpApplication station stack) where
 same_refl := fun v=>by simp[mmrpApplication]
 same_merge:=fun _ _ _ ha=>ha
 add:=addGrouped_split _ _
 sends:=mmrp_sendsOnly station stack

def forces (l:List (Attribute MsrpValue)) (r a:MsrpValue) : Bool :=
 match a.type with
 | .talkerAdv | .talkerFailed=>decide (r.operation=a.operation)&&decide (a.type≠r.type)
 | .listener=>
  decide (a.substate≠r.substate) &&
   !(decide (a.substate=listenerAskFailed)&&!hasTalker a.streamId l)
 | .domain=>
  decide (a.domain.srClassPriority≠r.domain.srClassPriority) ||
   decide (a.domain.srClassVid≠r.domain.srClassVid)

/-- It may change a talker's type, a listener's substate, a domain's priority and VID, and the
registrar state. -/
structure Merged (l:List (Attribute MsrpValue)) (r a b:Attribute MsrpValue) : Prop where
 applicant:b.applicant=a.applicant
 registrar:b.registrar.mrpState=if forces l r.value a.value then .MT else a.registrar.mrpState
 streamId:b.value.streamId=a.value.streamId
 srClassId:b.value.domain.srClassId=a.value.domain.srClassId
 operation:b.value.operation=a.value.operation
 type:b.value.type=if a.value.type.isTalker&&decide (r.value.operation=a.value.operation)
  then r.value.type else a.value.type
 substate:b.value.substate=a.value.substate ∨
  (a.value.type=.listener ∧ b.value.substate=r.value.substate)

lemma msrpMerge_merged (r a:Attribute MsrpValue) : Merged l r a (msrpMerge l r a) := by
 cases htype:a.value.type with
 | talkerAdv | talkerFailed=>
  by_cases hop:r.value.operation=a.value.operation
  · by_cases hsame:a.value.type=r.value.type
    · constructor <;>
       simp[msrpMerge,htype,mergeTalker,hop,←hsame,forces,streamId]
    · rw[htype] at hsame
      constructor <;>
       simp[msrpMerge,htype,mergeTalker,hop,hsame,forces,isTalker,forceNotify,streamId]
  · constructor<;>simp[msrpMerge,htype,mergeTalker,hop,forces]
 | listener=>
  by_cases hsub:a.value.substate=r.value.substate
  · constructor<;>simp[msrpMerge,htype,mergeListener,hsub,forces,isTalker]
  by_cases hask:(decide (a.value.substate=listenerAskFailed) &&
   !hasTalker a.value.talkListen.streamId l)=true
  · constructor <;>
     simp[msrpMerge,htype,mergeListener,hask,forces,isTalker,streamId]
  · by_cases hop:r.value.operation=a.value.operation
    · constructor <;>
       simp[msrpMerge,htype,mergeListener,hsub,hask,hop,forces,isTalker,forceNotify,streamId]
    · constructor <;>
       simp[msrpMerge,htype,mergeListener,hsub,hask,hop,forces,forceNotify,streamId]
 | domain=>
  by_cases hchange:¬a.value.domain.srClassPriority=r.value.domain.srClassPriority ∨
   ¬a.value.domain.srClassVid=r.value.domain.srClassVid
  · constructor <;>
     simp[msrpMerge,htype,mergeDomain,hchange,forces,isTalker,forceNotify,streamId]
  · constructor <;>
     simp[msrpMerge,htype,mergeDomain,hchange,forces,isTalker]

lemma sameMsrpAttribute_iff {v w:MsrpValue} : sameMsrpAttribute v w=true ↔
  (v.type=w.type ∨ (v.type.isTalker=true ∧ w.type.isTalker=true)) ∧
   if w.type=.domain then w.domain.srClassId=v.domain.srClassId
   else w.streamId=v.streamId := by
 unfold sameMsrpAttribute
 split<;>simp

lemma sameMsrpAttribute_merge (r a:Attribute MsrpValue)
 (ha:sameMsrpAttribute r.value a.value=true) : sameMsrpAttribute r.value (msrpMerge l r a).value=true := by
 have hmerged:=msrpMerge_merged l r a
 rw[sameMsrpAttribute_iff] at ha ⊢
 rw[hmerged.type,hmerged.streamId,hmerged.srClassId]
 split
 · next hflip=>
    have hne:a.value.type ≠ .domain:=fun h=>by simp[h,isTalker] at hflip
    refine ⟨.inl rfl,?_⟩
    rw[if_neg hne] at ha
    split
    · next hdomain=>
       rcases ha.1 with htype|⟨htalker,-⟩
       · exact absurd (htype.symm.trans hdomain) hne
       · simp[hdomain,isTalker] at htalker
    · exact ha.2
 · exact ha

lemma msrp_lawful : Lawful (msrpApplication station) where
 same_refl := fun v=>by simp[msrpApplication,sameMsrpAttribute]
 same_merge:=sameMsrpAttribute_merge
 add:=addGrouped_split _ _
 sends:=msrp_sendsOnly station

end OpenAvnu.MrpLaws

/-! ## What an event does -/

namespace OpenAvnu.MrpSteps

open Mrp MrpEvents MrpFrames MrpLaws List

variable {α:Type}

section Search
variable {app:Application α} {v:α} {pre post l:List (Attribute α)} {a:Attribute α}

section
variable (hpre:∀x∈pre,app.sameAttribute v x.value=false) (ha:app.sameAttribute v a.value=true)
include hpre ha

lemma lookup_split : lookup app v (pre++a::post)=some a := by
 have hnone:pre.find? (fun x=>app.sameAttribute v x.value)=none:=by
  simpa using hpre
 rw[MrpEvents.lookup,find?_append,hnone,Option.none_or,find?_cons,ha]

lemma updateFound_split (f:Attribute α → Attribute α) : updateFound app v f (pre++a::post)=pre++f a::post := by
 induction pre with
 | nil=>simp[updateFound,ha]
 | cons x pre ih=>
  have hx:=hpre x mem_cons_self
  rw[cons_append,updateFound,if_neg (by simp[hx]),ih fun y hy=>hpre y (mem_cons_of_mem _ hy),cons_append]

lemma conditionalReclaim_split : conditionalReclaim app v (pre++a::post)=
  if reclaimable a then (pre++post,[(a,.LV)]) else (pre++a::post,[]) := by
 induction pre with
 | nil=>simp[conditionalReclaim,ha]
 | cons x pre ih=>
  have hx:=hpre x mem_cons_self
  rw[cons_append,conditionalReclaim,if_neg (by simp[hx]),ih fun y hy=>hpre y (mem_cons_of_mem _ hy)]
  split<;>rfl

end

lemma lookup_cases (app:Application α) (v:α) (l:List (Attribute α)) :
 (lookup app v l=none ∧ ∀x∈l,app.sameAttribute v x.value=false) ∨
  ∃pre a post,l=pre++a::post ∧ (∀x∈pre,app.sameAttribute v x.value=false) ∧
   app.sameAttribute v a.value=true ∧ lookup app v l=some a := by
 cases hfind:lookup app v l with
 | none=>
  left
  simpa[MrpEvents.lookup] using hfind
 | some a=>
  right
  obtain ⟨ha,pre,post,hsplit,hpre⟩:=find?_eq_some_iff_append.1 hfind
  exact ⟨pre,a,post,hsplit,by simpa using hpre,ha,rfl⟩

end Search

def quiet (a:Attribute α) : Attribute α :=
 {a with registrar:={a.registrar with notify:=.NONE}}
lemma notifyAll_attribList (db:Database α) (sent:List (List UInt8))
 (notices:List (Attribute α×Notify)) : (notifyAll db sent notices).db.attribList=db.attribList.map quiet := rfl

/-- `found` is the attribute in the list, `placed` what is there before the state machines run,
`left` what stays. -/
structure Touched (app:Application α) (p2pmac:Nat) (e:Event) (r:Attribute α)
 (db:Database α) (o:Outcome α) (pre post:List (Attribute α))
 (found:Option (Attribute α)) (placed:Attribute α) (left:Option (Attribute α)) : Prop where
 split:db.attribList=pre++found.toList++post
 pre_other:∀x∈pre,app.sameAttribute r.value x.value=false
 merged:∀a,found=some a →
  app.sameAttribute r.value a.value=true ∧ placed=app.merge db.attribList r a
 added:found=none → placed=r ∧ (∀x∈db.attribList,app.sameAttribute r.value x.value=false) ∧
  app.add r db.attribList=pre++r::post
 left_eq:left=if app.reclaims&&reclaimable (attributePass p2pmac e placed) then none
  else some (attributePass p2pmac e placed)
 outcome:o=notifyAll
  {jointimerStart db with
    attribList := pre++left.toList++post
    lvTimerRunning := db.lvTimerRunning ||
     registrarStartsLeave (remap e placed.registrar.mrpState) placed.registrar} []
  (if left=none then [(attributePass p2pmac e placed,.LV)] else [])

lemma settle_split {app:Application α} {p2pmac:Nat} {e:Event} {v:α} {db:Database α}
 {pre post:List (Attribute α)} {a:Attribute α}
 (hpre:∀x∈pre,app.sameAttribute v x.value=false)
 (ha:app.sameAttribute v a.value=true) (hlist:db.attribList=pre++a::post) : ∃left : Option (Attribute α),
  left=(if app.reclaims&&reclaimable (attributePass p2pmac e a) then none
   else some (attributePass p2pmac e a)) ∧
  settle app p2pmac e v db=notifyAll
   {db with
     attribList:=pre++left.toList++post
     lvTimerRunning:=db.lvTimerRunning ||
      registrarStartsLeave (remap e a.registrar.mrpState) a.registrar} []
   (if left=none then [(attributePass p2pmac e a,.LV)] else []) := by
 have ha':app.sameAttribute v (attributePass p2pmac e a).value=true:=by
  have:(attributePass p2pmac e a).value=a.value:=by
   unfold attributePass
   split<;>rfl
  rwa[this]
 refine ⟨_,rfl,?_⟩
 unfold settle
 simp only[hlist,lookup_split hpre ha,updateFound_split hpre ha,conditionalReclaim_split hpre ha']
 cases app.reclaims with
 | false=>simp
 | true=>
  cases reclaimable (attributePass p2pmac e a)<;>simp

lemma attributeEvent_cases {app:Application α} (h:Lawful app) (p2pmac:Nat) (e:Event)
 (r:Attribute α) (db:Database α) : (e=.RMT ∧ (∀x∈db.attribList,app.sameAttribute r.value x.value=false) ∧
  attributeEvent app p2pmac e r db=⟨jointimerStart db,[],[]⟩) ∨
  ∃pre post found placed left,
   Touched app p2pmac e r db (attributeEvent app p2pmac e r db) pre post found placed left := by
 rcases lookup_cases app r.value db.attribList with ⟨hnone,hother⟩ |
  ⟨pre,a,post,hsplit,hpre,ha,hsome⟩
 · by_cases hrmt:e=.RMT
   · left
     refine ⟨hrmt,hother,?_⟩
     simp[attributeEvent,place,jointimerStart,hnone,hrmt]
   · right
     obtain ⟨pre,post,hsplit,hadd⟩:=h.add r db.attribList
     have hpre:∀x∈pre,app.sameAttribute r.value x.value=false:=fun x hx=>
      hother x (by rw[hsplit];exact mem_append_left _ hx)
     obtain ⟨left,hleft,hsettle⟩:=@settle_split α app p2pmac e r.value
      {jointimerStart db with attribList:=pre++r::post} pre post r hpre
      (h.same_refl _) rfl
     refine ⟨pre,post,none,r,left,by simpa using hsplit,hpre,by simp,
      fun _=>⟨rfl,hother,hadd⟩,hleft,?_⟩
     rw[attributeEvent,place]
     simp only[jointimerStart,hnone,if_neg hrmt,hadd]
     exact hsettle
 · right
   have hmerge:=h.same_merge db.attribList r a ha
   obtain ⟨left,hleft,hsettle⟩:=@settle_split α app p2pmac e r.value
    {jointimerStart db with attribList:=pre++app.merge db.attribList r a::post} pre post
    (app.merge db.attribList r a) hpre hmerge rfl
   refine ⟨pre,post,some a,app.merge db.attribList r a,left,by simpa using hsplit,hpre,?_,
    by simp,hleft,?_⟩
   · intro b hb
     cases hb
     exact ⟨ha,rfl⟩
   · have hupdate:updateFound app r.value (app.merge db.attribList r) db.attribList=
      pre++app.merge db.attribList r a::post:=by
      conv_lhs=>arg 4;rw[hsplit]
      exact updateFound_split hpre ha _
     rw[attributeEvent,place]
     simp only[jointimerStart,hsome,hupdate]
     exact hsettle

def declares : ApplicantState → Bool
 | .VP | .VN | .AN | .AA | .QA | .AP | .QP=>true
 | .VO | .LA | .AO | .QO | .LO=>false

/-- An attribute without its flags: all that decides what happens to it. -/
structure Entry (α:Type) where
 value:α
 applicant:ApplicantState
 registrar:RegistrarState
 deriving DecidableEq, Repr

def entry (a:Attribute α) : Entry α := ⟨a.value,a.applicant.mrpState,a.registrar.mrpState⟩
def entries (db:Database α) : List (Entry α) := db.attribList.map entry
def Entry.advance (p2pmac:Nat) (e:Event) (x:Entry α) : Entry α :=
 match applicantStep p2pmac e (decide (x.registrar=.IN)) x.applicant with
 | none=>x
 | some step=>{x with applicant:=step.mrpState}
def Entry.register (e:Event) (x:Entry α) : Entry α :=
 match registrarStep e x.registrar with
 | none=>x
 | some step=>{x with registrar:=step.mrpState}
def Entry.reclaimable (x:Entry α) : Bool :=
 x.registrar=.MT&&(x.applicant=.VO||x.applicant=.AO||x.applicant=.QO)

variable (p2pmac:Nat)

section
variable (e:Event) (x:Entry α)

@[simp] lemma Entry.advance_value : (x.advance p2pmac e).value=x.value := by
 unfold Entry.advance
 split<;>rfl
@[simp] lemma Entry.advance_registrar : (x.advance p2pmac e).registrar=x.registrar := by
 unfold Entry.advance
 split<;>rfl
@[simp] lemma Entry.register_value : (x.register e).value=x.value := by
 unfold Entry.register
 split<;>rfl
@[simp] lemma Entry.register_applicant : (x.register e).applicant=x.applicant := by
 unfold Entry.register
 split<;>rfl

end

variable (a:Attribute α)

@[simp] lemma entry_quiet : entry (quiet a)=entry a := rfl
lemma entry_applicantPass (p2pmac:Nat) (e:Event) (a:Attribute α) :
 entry (applicantPass p2pmac e a)=(entry a).advance p2pmac e := by
 unfold applicantPass applicantFsm Entry.advance entry registrarIn
 cases applicantStep p2pmac e (decide (a.registrar.mrpState=.IN)) a.applicant.mrpState<;>rfl
lemma entry_registrarPass (e:Event) (a:Attribute α) : entry (registrarPass e a)=(entry a).register e := by
 unfold registrarPass registrarFsm Entry.register entry
 cases registrarStep e a.registrar.mrpState<;>rfl
def Entry.settle (p2pmac:Nat) (e:Event) (x:Entry α) : Entry α :=
 (x.advance p2pmac e).register (remap e x.registrar)
@[simp] lemma Entry.settle_value (p2pmac:Nat) (e:Event) (x:Entry α) : (x.settle p2pmac e).value=x.value := by
 simp[Entry.settle]

lemma entry_attributePass (p2pmac:Nat) (e:Event) (a:Attribute α) :
 entry (attributePass p2pmac e a)=(entry a).settle p2pmac e := by
 have hpass:entry (attributePass p2pmac e a)=
  entry (registrarPass (remap e a.registrar.mrpState) (applicantPass p2pmac e a)):=by
  unfold attributePass
  split<;>rfl
 rw[hpass,entry_registrarPass,entry_applicantPass]
 rfl

lemma entry_reclaimable : reclaimable a=(entry a).reclaimable := rfl
lemma map_entry_onlyTx {l l':List (Attribute α)} (h:OnlyTx l l') : l'.map entry=l.map entry :=
 h.map_eq entry fun _=>rfl
lemma map_entry_quiet (l:List (Attribute α)) : (l.map quiet).map entry=l.map entry := by
 rw[map_map]
 rfl

section Touched
variable {app:Application α} {p2pmac:Nat} {e:Event} {r placed:Attribute α}
 {db:Database α} {o:Outcome α} {pre post:List (Attribute α)}
 {found left:Option (Attribute α)}

variable (h:Touched app p2pmac e r db o pre post found placed left)
include h

lemma Touched.before : entries db=pre.map entry++(found.toList.map entry++post.map entry) := by
 rw[entries,h.split,map_append,map_append,append_assoc]
lemma Touched.after : entries o.db=pre.map entry++(left.toList.map entry++post.map entry) := by
 rw[h.outcome,entries,notifyAll_attribList,map_entry_quiet,map_append,map_append,append_assoc]

lemma Touched.left_entry : left.toList.map entry=
  if app.reclaims&&((entry placed).settle p2pmac e).reclaimable then []
  else [(entry placed).settle p2pmac e] := by
 rw[h.left_eq,entry_reclaimable,entry_attributePass]
 split
 · rfl
 · rw[Option.toList_some,map_singleton,entry_attributePass]

end Touched

lemma registrarStartsLeave_eq {e:Event} (he:e=.TXLA ∨ e=.RLA ∨ e=.RLV)
 (r:Registrar) : registrarStartsLeave e r=decide (r.mrpState=.IN) := by
 rcases he with rfl|rfl|rfl <;>
  cases h:r.mrpState<;>simp[registrarStartsLeave,registrarStep,registrarLeave,h]
def Entry.age (p2pmac:Nat) (e:Event) (scope:α → Bool) (x:Entry α) : Entry α :=
 if scope x.value then (x.advance p2pmac e).register e else x

lemma ageAll_entries (p2pmac:Nat) (e:Event) (scope:α → Bool) (db:Database α) :
 entries (ageAll p2pmac e scope db)=(entries db).map (Entry.age p2pmac e scope) := by
 unfold entries ageAll
 rw[map_map,map_map]
 refine map_congr_left fun a _=>?_
 simp only[Function.comp,Entry.age]
 split
 · next hscope=>
    rw[entry_registrarPass,entry_applicantPass,if_pos (show scope (entry a).value=true from hscope)]
 · next hscope=>rw[if_neg (show ¬scope (entry a).value=true from hscope)]

def leaveAllAttribute (p2pmac:Nat) (a:Attribute α) : Attribute α :=
 registrarPass .TXLA (applicantPass p2pmac .TXLA a)
def leaveAllPass (p2pmac:Nat) (db:Database α) : Database α :=
 let db:=ageAll p2pmac .TXLA (fun _=>true) (jointimerStop (lvatimerStop db))
 lvatimerFsm .TX {lvatimerFsm .LVATIMER db with sendEmptyLeaveAllFlag:=true}
@[simp] lemma leaveAllPass_lva (p2pmac:Nat) (db:Database α) :
 (leaveAllPass p2pmac db).lva=⟨.PASSIVE,true,.LVA⟩ := rfl
@[simp] lemma leaveAllPass_attribList (p2pmac:Nat) (db:Database α) :
 (leaveAllPass p2pmac db).attribList=db.attribList.map (leaveAllAttribute p2pmac) := rfl

variable (app:Application α)

lemma lvaTimerEvent_eq (p2pmac:Nat) (db:Database α) : lvaTimerEvent app p2pmac db=
  notifyAll {(app.txpdu (leaveAllPass p2pmac db)).1 with sendEmptyLeaveAllFlag:=false}
   (app.txpdu (leaveAllPass p2pmac db)).2.toList [] := rfl
def txPass (p2pmac:Nat) (db:Database α) : Database α :=
 {jointimerStop db with attribList:=db.attribList.map (applicantPass p2pmac .TX)}
lemma txEvent_eq (p2pmac:Nat) (db:Database α) : txEvent app p2pmac db=
  notifyAll (if (txPass p2pmac db).attribList.countP
   (fun a=>applicantStateTransitionImpliesTx a.applicant)≠0
   then jointimerStart (app.txpdu (txPass p2pmac db)).1 else (app.txpdu (txPass p2pmac db)).1)
  (app.txpdu (txPass p2pmac db)).2.toList [] := rfl
def pending : ApplicantState → Bool
 | .VP | .VN | .AN | .AA | .LA=>true
 | .VO | .QA | .AO | .QO | .AP | .QP | .LO=>false

lemma transitionImpliesTx_eq (p2pmac:Nat) (a:Attribute α) :
 applicantStateTransitionImpliesTx (applicantPass p2pmac .TX a).applicant=
  (decide (((entry a).advance p2pmac .TX).applicant≠(entry a).applicant) &&
   pending ((entry a).advance p2pmac .TX).applicant) := by
 rw[←entry_applicantPass]
 unfold applicantStateTransitionImpliesTx
 have hprevious:(applicantPass p2pmac .TX a).applicant.mrpPreviousState=some a.applicant.mrpState:=rfl
 simp only[hprevious,Option.some.injEq,entry,eq_comm (a:=a.applicant.mrpState)]
 split
 · next hsame=>simp[hsame]
 · next hchanged=>
    simp only[ne_eq,hchanged]
    cases (applicantPass p2pmac .TX a).applicant.mrpState<;>rfl

structure Swept (db:Database α) (o:Outcome α) (sweep:List (Entry α) → List (Entry α))
 (join lv:Bool) : Prop where
 entries:entries o.db=sweep (MrpSteps.entries db)
 join:o.db.joinTimerRunning=join
 lv:o.db.lvTimerRunning=lv

section Sweeps
variable {app:Application α}

lemma lvaTimerEvent_swept (h:SendsOnly app) (p2pmac:Nat) (db:Database α) :
 Swept db (lvaTimerEvent app p2pmac db) (map (Entry.age p2pmac .TXLA fun _=>true)) false
  (db.lvTimerRunning||(entries db).any fun x=>x.registrar=.IN) := by
 have hentries:entries (leaveAllPass p2pmac db)=(entries db).map (Entry.age p2pmac .TXLA fun _=>true):=
  ageAll_entries p2pmac .TXLA (fun _=>true) (jointimerStop (lvatimerStop db))
 have hlv:(leaveAllPass p2pmac db).lvTimerRunning=
  (db.lvTimerRunning||(entries db).any fun x=>x.registrar=.IN):=by
  simp only[entries,any_map]
  exact congrArg (db.lvTimerRunning||db.attribList.any ·)
   (funext fun a=>registrarStartsLeave_eq (.inl rfl) a.registrar)
 obtain ⟨l,honly,hspent⟩:=h (leaveAllPass p2pmac db)
 rw[lvaTimerEvent_eq,hspent]
 exact ⟨(map_entry_quiet l).trans ((map_entry_onlyTx honly).trans hentries),rfl,hlv⟩

variable (p2pmac:Nat)

lemma leaveAllEvent_refused {r:Option (Attribute α)}
 (hscope:app.leaveAllScope (r.map (·.value))=none) (db:Database α) :
 Swept db (leaveAllEvent app p2pmac r db) id true db.lvTimerRunning := by
 unfold leaveAllEvent
 rw[hscope]
 exact ⟨rfl,rfl,rfl⟩

lemma leaveAllEvent_swept {r:Option (Attribute α)} {scope:α → Bool}
 (hscope:app.leaveAllScope (r.map (·.value))=some scope) (db:Database α) :
 Swept db (leaveAllEvent app p2pmac r db) (map (Entry.age p2pmac .RLA scope)) true
  (db.lvTimerRunning||(entries db).any fun x=>scope x.value&&x.registrar=.IN) := by
 unfold leaveAllEvent
 rw[hscope]
 refine ⟨(map_entry_quiet _).trans (ageAll_entries p2pmac .RLA scope (jointimerStart db)),rfl,?_⟩
 simp only[entries,any_map]
 exact congrArg (db.lvTimerRunning||db.attribList.any ·) (funext fun a=>
  congrArg (scope a.value&&·) (registrarStartsLeave_eq (.inr (.inl rfl)) a.registrar))

lemma txEvent_swept (h:SendsOnly app) (p2pmac:Nat) (db:Database α) :
 Swept db (txEvent app p2pmac db) (map (Entry.advance p2pmac .TX))
  ((entries db).any fun x=>(x.advance p2pmac .TX).applicant≠x.applicant &&
   pending (x.advance p2pmac .TX).applicant) db.lvTimerRunning := by
 have hentries:(db.attribList.map (applicantPass p2pmac .TX)).map entry=
  (entries db).map (Entry.advance p2pmac .TX):=by
  rw[entries,map_map,map_map]
  exact map_congr_left fun a _=>entry_applicantPass p2pmac .TX a
 have hcount:decide ((txPass p2pmac db).attribList.countP
  (fun a=>applicantStateTransitionImpliesTx a.applicant)≠0)=
  (entries db).any fun x=>(x.advance p2pmac .TX).applicant≠x.applicant &&
   pending (x.advance p2pmac .TX).applicant:=by
  rw[Bool.eq_iff_iff,decide_eq_true_eq,←Nat.pos_iff_ne_zero,countP_pos_iff,entries,any_eq_true]
  simp only[txPass,mem_map,exists_exists_and_eq_and,transitionImpliesTx_eq]
 obtain ⟨l,honly,hspent⟩:=h (txPass p2pmac db)
 have hl:=(map_entry_quiet l).trans ((map_entry_onlyTx honly).trans hentries)
 rw[txEvent_eq,hspent,←hcount]
 split
 · next hne=>exact ⟨hl,(decide_eq_true hne).symm,rfl⟩
 · next hzero=>exact ⟨hl,(decide_eq_false hzero).symm,rfl⟩

variable (db:Database α)

lemma lvTimerEvent_swept : Swept db (lvTimerEvent app db) (fun l=>if app.reclaims
  then (l.map (Entry.register .LVTIMER)).filter fun x=>!x.reclaimable
  else l.map (Entry.register .LVTIMER)) db.joinTimerRunning false := by
 have hentries:(db.attribList.map (registrarPass .LVTIMER)).map entry=
  (entries db).map (Entry.register .LVTIMER):=by
  rw[entries,map_map,map_map]
  exact map_congr_left fun a _=>entry_registrarPass .LVTIMER a
 unfold lvTimerEvent
 split
 · refine ⟨(map_entry_quiet _).trans ?_,rfl,rfl⟩
   rw[←hentries,filter_map]
   rfl
 · exact ⟨(map_entry_quiet _).trans hentries,rfl,rfl⟩

lemma periodicEvent_swept (p2pmac:Nat) (db:Database α) : Swept db (periodicEvent app p2pmac db)
  (if app.periodic then map (Entry.advance p2pmac .PERIODIC) else id)
  (db.joinTimerRunning||(app.periodic&&!db.attribList.isEmpty)) db.lvTimerRunning := by
 unfold periodicEvent
 cases app.periodic with
 | false=>exact ⟨map_entry_quiet _,by simp[notifyAll],rfl⟩
 | true=>
  have hentries:(db.attribList.map (applicantPass p2pmac .PERIODIC)).map entry=
   (entries db).map (Entry.advance p2pmac .PERIODIC):=by
   rw[entries,map_map,map_map]
   exact map_congr_left fun a _=>entry_applicantPass p2pmac .PERIODIC a
  cases hempty:db.attribList.isEmpty with
  | false=>exact ⟨(map_entry_quiet _).trans hentries,by simp[notifyAll,jointimerStart],rfl⟩
  | true=>exact ⟨(map_entry_quiet _).trans hentries,by simp[notifyAll],rfl⟩

lemma reclaim_swept : Swept db (reclaim db) (filter fun x=>!x.reclaimable) db.joinTimerRunning
  db.lvTimerRunning := by
 refine ⟨?_,rfl,rfl⟩
 unfold reclaim reclaimList entries
 rw[filter_map]
 rfl

end Sweeps

inductive Handled (app:Application α) (p2pmac:Nat) (db:Database α) :
 Event → Option (Attribute α) → Outcome α → Prop where
 | lvaTimer (r) : Handled app p2pmac db .LVATIMER r (lvaTimerEvent app p2pmac db)
 | leaveAll (r) : Handled app p2pmac db .RLA r (leaveAllEvent app p2pmac r db)
 | tx (r) : Handled app p2pmac db .TX r (txEvent app p2pmac db)
 | lvTimer (r) : Handled app p2pmac db .LVTIMER r (lvTimerEvent app db)
 | periodic (r) : Handled app p2pmac db .PERIODIC r (periodicEvent app p2pmac db)
 | concerns {e} (r) (he:isAttributeEvent e=true) :
  Handled app p2pmac db e (some r) (attributeEvent app p2pmac e r db)
 | missing {e} (he:isAttributeEvent e=true) :
  Handled app p2pmac db e none ⟨if app.joinFirst then jointimerStart db else db,[],[]⟩
 | ignored {e r} : Handled app p2pmac db e r (notifyAll db [] [])

lemma event_handled (p2pmac:Nat) (e:Event) (r:Option (Attribute α)) (db:Database α) :
 Handled app p2pmac db e r (event app p2pmac e r db) := by
 cases e with
 | LVATIMER=>exact .lvaTimer r
 | RLA=>exact .leaveAll r
 | TX=>exact .tx r
 | LVTIMER=>exact .lvTimer r
 | PERIODIC=>exact .periodic r
 | NEW | JOIN | LV | RNEW | RJOININ | RIN | RJOINMT | RMT | RLV=>
  cases r with
  | none=>exact .missing rfl
  | some r=>exact .concerns r rfl
 | BEGIN | TXLA | TXLAF | FLUSH | REDECLARE | PERIODICENABLE | PERIODICDISABLE=>
  cases r<;>exact .ignored

lemma event_concerns (p2pmac:Nat) {e:Event} (he:isAttributeEvent e=true) (a:Attribute α)
 (db:Database α) : event app p2pmac e (some a) db=attributeEvent app p2pmac e a db := by
 cases e<;>first | rfl | cases he

end OpenAvnu.MrpSteps
