import OpenAvnu.MrpAnnounce

/-!
# Registration by a frame

What counts for an attribute in the end is what the frame says about it last.
-/

namespace OpenAvnu

open Mrp MrpEvents MrpEncode MrpDecode MrpVectors MrpRoundTrip MrpLaws MrpSteps List

namespace MrpRegistration

variable {κ α:Type}

/-- What an event says about the registration; IN and MT say nothing. -/
def word : PduEvent → Option Bool
 | .NEW | .JOININ | .JOINMT=>some true
 | .LV=>some false
 | .IN | .MT=>none

variable [DecidableEq κ] [DecidableEq α]

def said (kind:α → κ) (v:α) : Call κ α → Option Bool
 | .leaveAll k=>if kind v=k then some false else none
 | .attribute e w=>if w=v then word e else none
def lastSaid (kind:α → κ) (v:α) (b:Bool) (calls:List (Call κ α)) : Bool :=
 calls.foldl (fun b c=>(said kind v c).getD b) b
def Registered (v:α) (db:Database α) : Prop := ∃a∈db.attribList,a.value=v ∧ a.registrar.mrpState=.IN
def marks (v:α) (l:List (Entry α)) : List Bool := (l.filter fun x=>x.value=v).map fun x=>x.registrar=.IN

/-- Only the first of them can be IN, and it is if `b` holds. -/
structure Standing (v:α) (b:Bool) (db:Database α) : Prop where
 later:∀m∈(marks v (entries db)).tail,m=false
 first:(marks v (entries db)).headD false=b

omit [DecidableEq κ] in
variable {v:α}

lemma Standing.registered_iff {b:Bool} {db:Database α} (h:Standing v b db) : Registered v db↔b=true := by
 have hmem:Registered v db↔true∈marks v (entries db):=by
  unfold Registered marks entries
  simp only[mem_map,mem_filter,decide_eq_true_eq]
  constructor
  · rintro ⟨a,ha,hvalue,hin⟩
    exact ⟨entry a,⟨⟨a,ha,rfl⟩,hvalue⟩,hin⟩
  · rintro ⟨x,⟨⟨a,ha,rfl⟩,hvalue⟩,hin⟩
    exact ⟨a,ha,hvalue,hin⟩
 obtain ⟨hlater,hfirst⟩:=h
 rw[hmem,←hfirst]
 generalize marks v (entries db)=ms at hlater ⊢
 cases ms with
 | nil=>simp
 | cons m rest=>
  rw[mem_cons,eq_comm]
  refine or_iff_left fun hrest=>?_
  exact absurd (hlater true hrest) (by decide)

/-- Attributes are told apart by their value alone, and a LeaveAll reaches those of its kind. -/
structure Keyed (app:Application α) (kind:α → κ) (probe:κ → Option α) : Prop where
 same:∀v w,app.sameAttribute v w=decide (w=v)
 merge_value:∀l r a,(app.merge l r a).value=a.value
 merge_registrar:∀l r a,(app.merge l r a).registrar.mrpState=a.registrar.mrpState
 scope:∀k,∃scope,app.leaveAllScope (probe k)=some scope ∧
  ∀v,scope v=decide (kind v=k)

section Calls
variable {app:Application α} {kind:α → κ} {probe:κ → Option α}

omit [DecidableEq κ] in
lemma marks_append (v:α) (l l':List (Entry α)) : marks v (l++l')=marks v l++marks v l'
 := by
 simp[marks]

variable {v:α}

omit [DecidableEq κ] in
lemma marks_singleton {x:Entry α} (h:x.value=v) : marks v [x]=[decide (x.registrar=.IN)] := by
 simp[marks,h]

omit [DecidableEq κ] in
lemma marks_eq_nil {l:List (Entry α)} (h:∀x∈l,x.value≠v) : marks v l=[] := by
 rw[marks,filter_eq_nil_iff.2 (by simpa using h),map_nil]

omit [DecidableEq κ] [DecidableEq α] in
lemma settle_registrar (p2pmac:Nat) (e:PduEvent) (x:Entry α) :
 decide ((x.settle p2pmac (receivedEvent e)).registrar=.IN)=(word e).getD (decide (x.registrar=.IN)) := by
 cases e<;>cases h:x.registrar <;>
  simp[receivedEvent,remap,Entry.settle,Entry.register,registrarStep,registrarLeave,word,h]

variable {db:Database α}

omit [DecidableEq κ] in
lemma standing_of_marks {m:Bool} {rest:List Bool}
 (hmarks:marks v (entries db)=m::rest ∨ (m=false ∧ marks v (entries db)=rest))
 (hrest:∀m∈rest,m=false) : Standing v m db := by
 rcases hmarks with hmarks|⟨rfl,hmarks⟩
 · exact ⟨by rwa[hmarks],by rw[hmarks];rfl⟩
 · refine ⟨fun m hm=>hrest m (by rw[hmarks] at hm;exact mem_of_mem_tail hm),?_⟩
   rw[hmarks]
   cases rest with
   | nil=>rfl
   | cons m rest=>exact hrest m mem_cons_self

section Touched
variable {p2pmac:Nat} {e:PduEvent} {r placed:Attribute α} {db:Database α} {o:Outcome α}
 {pre post:List (Attribute α)} {found left:Option (Attribute α)} {e:Event}

section
variable (hkeyed:Keyed app kind probe)
 (ht:Touched app p2pmac e r db o pre post found placed left)
include hkeyed ht

lemma touched_values : (∀x∈pre.map entry,x.value≠r.value) ∧
  (∀x∈found.toList.map entry,x.value=r.value) ∧ placed.value=r.value := by
 have hfound:∀a,found=some a → a.value=r.value:=fun a ha=>by
  have:=(ht.merged a ha).1
  rw[hkeyed.same] at this
  exact of_decide_eq_true this
 refine ⟨?_,?_,?_⟩
 · intro x hx
   obtain ⟨a,ha,rfl⟩:=mem_map.1 hx
   have:=ht.pre_other a ha
   rw[hkeyed.same] at this
   exact of_decide_eq_false this
 · intro x hx
   obtain ⟨a,ha,rfl⟩:=mem_map.1 hx
   exact hfound a (Option.mem_toList.1 ha)
 · cases hf:found with
   | none=>rw[(ht.added hf).1]
   | some a=>rw[(ht.merged a hf).2,hkeyed.merge_value,hfound a hf]

lemma marks_touched_other {v:α} (hv:r.value≠v) : marks v (entries o.db)=marks v (entries db) := by
 obtain ⟨-,hfound,hplaced⟩:=touched_values hkeyed ht
 have hfoundNil:marks v (found.toList.map entry)=[]:=
  marks_eq_nil fun x hx hvalue=>hv ((hfound x hx).symm.trans hvalue)
 have hleftNil:marks v (left.toList.map entry)=[]:=marks_eq_nil fun x hx hvalue=>by
  rw[ht.left_entry] at hx
  split at hx
  · simp at hx
  · obtain rfl:=mem_singleton.1 hx
    rw[Entry.settle_value] at hvalue
    exact hv (hplaced.symm.trans hvalue)
 rw[ht.before,ht.after]
 simp only[marks_append,hfoundNil,hleftNil]

end

lemma marks_touched_before (hkeyed:Keyed app kind probe) {src:BitVec 48} {w:α}
 (ht:Touched app p2pmac e (alloc w src) db o pre post found placed left) {b:Bool}
 (h:Standing w b db) : decide ((entry placed).registrar=.IN)=b ∧
  ∀m∈marks w (post.map entry),m=false := by
 obtain ⟨hpre,hfound,-⟩:=touched_values hkeyed ht
 have hbefore:marks w (entries db)=marks w (found.toList.map entry)++marks w (post.map entry):=by
  have hpreNil:marks w (pre.map entry)=[]:=marks_eq_nil hpre
  rw[ht.before,marks_append,marks_append,hpreNil,nil_append]
 obtain ⟨hlater,hfirst⟩:=h
 rw[hbefore] at hlater hfirst
 cases hf:found with
 | none=>
  obtain ⟨hr,hother,-⟩:=ht.added hf
  have hnone:marks w (entries db)=[]:=marks_eq_nil fun x hx=>by
   obtain ⟨a,ha,rfl⟩:=mem_map.1 hx
   have:=hother a ha
   rw[hkeyed.same] at this
   exact of_decide_eq_false this
  have hpost:marks w (post.map entry)=[]:=by
   rw[hbefore] at hnone
   exact (append_eq_nil_iff.1 hnone).2
  rw[hf,hpost] at hfirst
  rw[hpost,hr,←hfirst]
  exact ⟨rfl,by simp⟩
 | some a=>
  have hvalue:(entry a).value=w:=hfound _ (by simp[hf])
  have hregistrar:(entry placed).registrar=(entry a).registrar:=by
   rw[(ht.merged a hf).2]
   exact hkeyed.merge_registrar _ _ _
  rw[hf,Option.toList_some,map_singleton,marks_singleton hvalue,←hregistrar]
   at hlater hfirst
  exact ⟨hfirst,hlater⟩

end Touched

variable {b:Bool}

lemma standing_attribute (hlawful:Lawful app) (hkeyed:Keyed app kind probe) (p2pmac:Nat)
 (e:PduEvent) (w:α) (src:BitVec 48) (h:Standing v b db) :
 Standing v ((said kind v (.attribute e w:Call κ α)).getD b)
  (attributeEvent app p2pmac (receivedEvent e) (alloc w src) db).db := by
 rcases attributeEvent_cases hlawful p2pmac (receivedEvent e) (alloc w src) db with
  ⟨hrmt,-,hdropped⟩ | ⟨pre,post,found,placed,left,ht⟩
 · have hmt:e=.MT:=by cases e<;>first | rfl | cases hrmt
   rw[hdropped]
   have:(said kind v (.attribute e w:Call κ α)).getD b=b:=by
    simp only[said,hmt]
    split<;>rfl
   rw[this]
   exact ⟨h.later,h.first⟩
 by_cases hw:w=v
 · subst hw
   obtain ⟨hpre,-,hplaced⟩:=touched_values hkeyed ht
   obtain ⟨hold,hrest⟩:=marks_touched_before hkeyed ht h
   have hsaid:said kind w (.attribute e w:Call κ α)=word e:=if_pos rfl
   rw[hsaid,←hold,←settle_registrar p2pmac e (entry placed)]
   refine standing_of_marks ?_ hrest
   have hpreNil:marks w (pre.map entry)=[]:=marks_eq_nil hpre
   rw[ht.after,marks_append,marks_append,hpreNil,ht.left_entry]
   split
   · next hreclaimed=>
      simp only[Entry.reclaimable,Bool.and_eq_true,decide_eq_true_eq] at hreclaimed
      right
      rw[hreclaimed.2.1]
      exact ⟨rfl,rfl⟩
   · left
     rw[marks_singleton ((Entry.settle_value _ _ _).trans hplaced)]
     rfl
 · have hnot:(said kind v (.attribute e w:Call κ α)).getD b=b:=by simp[said,hw]
   have hmarks:=marks_touched_other hkeyed ht hw
   rw[hnot]
   exact ⟨by rw[hmarks];exact h.later,by rw[hmarks];exact h.first⟩

lemma marks_leaveAll (hkeyed:Keyed app kind probe) (p2pmac:Nat) (k:κ) (v:α)
 (db:Database α) : marks v (entries (leaveAllEvent app p2pmac ((probe k).map fun w=>alloc w 0) db).db)=
  if kind v=k then (marks v (entries db)).map fun _=>false else marks v (entries db) := by
 obtain ⟨scope,hscope,hreach⟩:=hkeyed.scope k
 have hprobe:((probe k).map fun w=>(alloc w 0:Attribute α)).map (·.value)=probe k:=by
  cases probe k<;>rfl
 rw[(leaveAllEvent_swept p2pmac (by rw[hprobe];exact hscope) db).entries]
 induction entries db with
 | nil=>simp[marks]
 | cons x l ih=>
  have hvalue:(x.age p2pmac .RLA scope).value=x.value:=by
   unfold Entry.age
   split<;>simp
  have hsplit:∀(y:Entry α) (l:List (Entry α)),
   marks v (y::l)=marks v [y]++marks v l:=fun y l=>marks_append v [y] l
  rw[map_cons,hsplit,ih,hsplit x l]
  by_cases hx:x.value=v
  · rw[marks_singleton (hvalue.trans hx),marks_singleton hx]
    have hscopeX:scope x.value=decide (kind v=k):=by rw[hreach,hx]
    split
    · next hk=>
       have hleft:decide ((x.age p2pmac .RLA scope).registrar=.IN)=false:=by
        rw[Entry.age,hscopeX,if_pos (by simpa using hk),Entry.register,Entry.advance_registrar]
        cases x.registrar<;>rfl
       rw[hleft]
       rfl
    · next hk=>
       rw[Entry.age,hscopeX,if_neg (by simpa using hk)]
  · have hnone:∀y:Entry α,y.value≠v → marks v [y]=[]:=fun y hy=>
     marks_eq_nil (by simpa using hy)
    rw[hnone _ fun h=>hx (hvalue.symm.trans h),hnone x hx]
    rfl

variable (hlawful:Lawful app) (hkeyed:Keyed app kind probe) (p2pmac:Nat) (src:BitVec 48)
include hlawful hkeyed

lemma standing_call (c:Call κ α) (h:Standing v b db) : Standing v ((said kind v c).getD b)
  (event app p2pmac (c.arguments probe src).1 (c.arguments probe src).2 db).db := by
 rcases c with k|⟨e,w⟩
 · have hmarks:=marks_leaveAll hkeyed p2pmac k v db
   change Standing v _ (leaveAllEvent app p2pmac ((probe k).map fun w=>alloc w 0) db).db
   split_ifs at hmarks with hk
   · simp only[said,if_pos hk]
     refine standing_of_marks (.inr ⟨rfl,hmarks⟩) fun m hm=>?_
     obtain ⟨-,-,rfl⟩:=mem_map.1 hm
     rfl
   · simp only[said,if_neg hk]
     exact ⟨by rw[hmarks];exact h.later,by rw[hmarks];exact h.first⟩
 · have:=standing_attribute hlawful hkeyed p2pmac e w src h
   cases e<;>exact this

lemma standing_raiseCalls (calls:List (Call κ α)) (h:Standing v b db) : Standing v (lastSaid kind v b calls)
  (raiseCalls (event app p2pmac) probe src calls db).db := by
 induction calls generalizing b db with
 | nil=>exact h
 | cons c calls ih=>exact ih (standing_call hlawful hkeyed p2pmac src c h)

lemma registered_iff_lastSaid {k:κ} (hk:kind v=k) (calls:List (Call κ α))
 (db:Database α) : Registered v (raiseCalls (event app p2pmac) probe src (.leaveAll k::calls) db).db ↔
  lastSaid kind v false (.leaveAll k::calls)=true := by
 have hfirst:Standing v false (event app p2pmac ((.leaveAll k:Call κ α).arguments probe src).1
  ((.leaveAll k:Call κ α).arguments probe src).2 db).db:=by
  have hmarks:=marks_leaveAll hkeyed p2pmac k v db
  rw[if_pos hk] at hmarks
  refine standing_of_marks (.inr ⟨rfl,hmarks⟩) fun m hm=>?_
  obtain ⟨-,-,rfl⟩:=mem_map.1 hm
  rfl
 have hrest:=(standing_raiseCalls hlawful hkeyed p2pmac src calls hfirst).registered_iff
 have hsaid:lastSaid kind v false (.leaveAll k::calls)=lastSaid kind v false calls:=by
  simp[lastSaid,said,hk]
 rw[hsaid]
 exact hrest

end Calls

def Joins (v:α) (calls:List (Call κ α)) : Prop := ∃e,word e=some true ∧ .attribute e v∈calls
def NoLeave (calls:List (Call κ α)) : Prop := ∀e w,.attribute e w∈calls → word e≠some false
lemma lastSaid_append (kind:α → κ) (v:α) (b:Bool) (calls calls':List (Call κ α)) :
 lastSaid kind v b (calls++calls')=lastSaid kind v (lastSaid kind v b calls) calls' := by
 simp[lastSaid]

lemma lastSaid_of_noLeave {kind:α → κ} {calls:List (Call κ α)} (hnoLeave:NoLeave calls)
 (hall:.leaveAll (kind v)∉calls) (b:Bool) : lastSaid kind v b calls=true↔b=true ∨ Joins v calls := by
 induction calls generalizing b with
 | nil=>simp[lastSaid,Joins]
 | cons c calls ih=>
  have hrest:=ih (fun e w h=>hnoLeave e w (mem_cons_of_mem _ h))
   (fun h=>hall (mem_cons_of_mem _ h)) ((said kind v c).getD b)
  have hsplit:Joins v (c::calls)↔Joins v [c] ∨ Joins v calls:=by
   simp[Joins,and_or_left,exists_or]
  have hfirst:(said kind v c).getD b=true↔b=true ∨ Joins v [c]:=by
   rcases c with k|⟨e,w⟩
   · have hk:kind v≠k:=fun hk=>hall (hk▸mem_cons_self)
     simp[said,hk,Joins]
   · have hword:=hnoLeave e w mem_cons_self
     by_cases hw:w=v
     · subst hw
       cases he:word e with
       | none=>simp[said,Joins,he]
       | some told=>
        cases told with
        | false=>exact absurd he hword
        | true=>simp[said,Joins,he]
     · simp[said,Joins,hw,Ne.symm hw]
  change lastSaid kind v ((said kind v c).getD b) calls=true ↔ _
  rw[hrest,hfirst,hsplit,or_assoc]

omit [DecidableEq κ] [DecidableEq α] in
lemma leaveAll_noLeave {fmt:Format α} {view:α → α} (p2pmac:Nat) (db:Database α)
 {sent:List (List (Attribute α))}
 (hsent:∀v∈sent,∀a∈v,a∈(leaveAllPass p2pmac db).attribList) :
 NoLeave (sent.flatMap (memberCalls fmt view):List (Call κ α)) := by
 intro e w hcall
 obtain ⟨v,hv,hmem⟩:=mem_flatMap.1 hcall
 obtain ⟨a,ha,b,e',he,hc⟩:=mem_memberCalls hmem
 obtain ⟨rfl,-⟩:=Call.attribute.inj hc
 obtain ⟨c,-,rfl⟩:=mem_map.1 (hsent v hv a ha)
 change pduEvent b (applicantTxla c.applicant.mrpState).sndmsg=some e at he
 cases hs:c.applicant.mrpState<;>cases b<;>rw[hs] at he<;>cases he<;>decide

end MrpRegistration

/-! ## Declaring again behind a LeaveAll -/

namespace MrpRejoin

open MrpMessages MrpFraming MrpLeaveAll MrpAnnounce
open MrpRegistration Mvrp Mmrp MvrpRoundTrip MmrpRoundTrip Grouping

variable (station:BitVec 48) {db:Database (BitVec 16)} {frame:List UInt8} {p2pmac:Nat}
 {macs:List (List (Attribute MmrpValue))}

lemma mvrp_keyed : Keyed (mvrpApplication station) (fun _=>()) (fun _=>none) where
 same := fun _ _=>rfl
 merge_value:=fun _ _ _=>rfl
 merge_registrar:=fun _ _ _=>rfl
 scope:=fun _=>⟨_,rfl,fun _=>rfl⟩

def validVids (v:List (Attribute (BitVec 16))) : List (Attribute (BitVec 16)) :=
 v.takeWhile fun a=>a.value.toNat≤0xFFF
def vidCalls (p2pmac:Nat) (db:Database (BitVec 16)) : List (Call Unit (BitVec 16)) :=
 (mvrpBuild (leaveAllPass p2pmac db)).encoded.flatMap (memberCalls vidFormat id)
def validVidCalls (p2pmac:Nat) (db:Database (BitVec 16)) : List (Call Unit (BitVec 16)) :=
 ((mvrpBuild (leaveAllPass p2pmac db)).encoded.map validVids).flatMap (memberCalls vidFormat id)

lemma mvrp_leaveAll_parse {station:BitVec 48}
 (hframe:frame∈(mvrpEvent station p2pmac .LVATIMER none db).sent) :
 (mvrpParse frame).1=.leaveAll ()::validVidCalls p2pmac db ∧
  NoLeave (validVidCalls p2pmac db) := by
 have hsent:(mvrpTxpdu station (leaveAllPass p2pmac db)).2=some frame:=
  Option.mem_toList.1 hframe
 obtain ⟨sent,left,hencodes,hencoded,-,rfl⟩:=mvrpTxpdu_frame hsent
 have hcalls:validVidCalls p2pmac db=sent.flatMap (foundCalls vidFormat vidReader):=by
  rw[validVidCalls,hencoded,flatMap_map]
  refine flatMap_congr fun v hv=>?_
  exact (foundCalls_eq vid_undoes rfl (hencodes.isVector v hv) (hencodes.sendable v hv)).symm
 constructor
 · rw[hcalls]
   by_cases hne:sent=[]
   · subst hne
     exact mvrpParse_empty
   · rw[messageFor,if_pos hne,mvrpParse_vectors hne hencodes.isVector hencodes.room]
     rfl
 · rw[validVidCalls,hencoded]
   refine leaveAll_noLeave p2pmac db fun v hv a ha=>?_
   obtain ⟨w,hw,rfl⟩:=mem_map.1 hv
   exact hencodes.sent_sublist.subset
    (mem_flatten.2 ⟨w,hw,(takeWhile_sublist _).subset ha⟩)

lemma mvrp_registered_iff {station station':BitVec 48} {p2pmac':Nat}
 {receiver:Database (BitVec 16)}
 (hframe:frame∈(mvrpEvent station p2pmac .LVATIMER none db).sent) (vid:BitVec 16) :
 Registered vid (mvrpRecvMsg station' p2pmac' frame receiver).db ↔
  Joins vid (validVidCalls p2pmac db) := by
 obtain ⟨hparse,hnoLeave⟩:=mvrp_leaveAll_parse hframe
 have hall:.leaveAll ()∉validVidCalls p2pmac db:=fun hmem=>by
  obtain ⟨v,-,hv⟩:=mem_flatMap.1 hmem
  obtain ⟨a,-,b,e,-,hc⟩:=mem_memberCalls hv
  cases hc
 have hregistered:=registered_iff_lastSaid (mvrp_lawful station') (mvrp_keyed station') p2pmac'
  (frameSource frame) (v:=vid) rfl (validVidCalls p2pmac db) receiver
 rw[←hparse] at hregistered
 refine hregistered.trans ?_
 rw[hparse]
 change lastSaid (fun _=>()) vid false (validVidCalls p2pmac db)=true ↔ _
 rw[lastSaid_of_noLeave hnoLeave hall]
 simp

lemma mmrp_keyed (stack:List Nat) : Keyed (mmrpApplication station stack) MmrpValue.type mmrpProbe where
 same := fun _ _=>rfl
 merge_value:=fun _ _ _=>rfl
 merge_registrar:=fun _ _ _=>rfl
 scope:=fun k=>by cases k<;>exact ⟨_,rfl,fun _=>rfl⟩

def macVectors (encoded:List (List (Attribute MmrpValue))) : List (List (Attribute MmrpValue)) :=
 encoded.filter fun v=>v.all fun a=>a.value.type=.macvec
def leaveAllMacs (stack:List Nat) (p2pmac:Nat) (db:Database MmrpValue) :
 List (List (Attribute MmrpValue)) := macVectors (mmrpBuild stack (leaveAllPass p2pmac db)).encoded
def macCalls (macs:List (List (Attribute MmrpValue))) : List (Call MmrpType MmrpValue) :=
 macs.flatMap (memberCalls macFormat id)

lemma macVectors_eq {s1 s2:Nat} {svcs:List (List (Attribute MmrpValue))}
 (hmacs:∀v∈macs,IsVector macFormat v) (hsvcs:∀v∈svcs,IsVector (svcFormat [s1,s2]) v) :
 macVectors (macs++svcs)=macs := by
 rw[macVectors,filter_append,filter_eq_self.2,filter_eq_nil_iff.2,append_nil]
 · intro v hv hall
   have hvector:=hsvcs v hv
   cases v with
   | nil=>exact hvector.elim
   | cons head run=>
    have hmac:=all_eq_true.1 hall head mem_cons_self
    have hsvc:=of_decide_eq_true (hvector.selects head mem_cons_self)
    exact absurd ((of_decide_eq_true hmac).symm.trans hsvc) (by decide)
 · intro v hv
   exact all_eq_true.2 fun a ha=>(hmacs v hv).selects a ha

lemma lastSaid_macs {mac:BitVec 48} (hnoLeave:NoLeave (macCalls macs)) (b:Bool) :
 lastSaid MmrpValue.type (.macvec mac) b
  (vectorCalls macFormat .macvec (memberCalls macFormat id) true macs)=true ↔
  (macs=[] ∧ b=true) ∨
   ∃v∈macs.getLast?,Joins (.macvec mac) (macCalls [v]) := by
 induction macs generalizing b with
 | nil=>simp[vectorCalls,lastSaid]
 | cons v macs ih=>
  have hsplit:macCalls (v::macs)=macCalls [v]++macCalls macs:=by
   simp[macCalls]
  have hv:NoLeave (macCalls [v]):=fun e w h=>hnoLeave e w (by
   rw[hsplit]
   exact mem_append_left _ h)
  have hrest:NoLeave (macCalls macs):=fun e w h=>hnoLeave e w (by
   exact mem_append_right _ h)
  have hall:.leaveAll (MmrpValue.type (.macvec mac))∉macCalls [v]:=fun hmem=>by
   obtain ⟨w,-,hw⟩:=mem_flatMap.1 hmem
   obtain ⟨a,-,b,e,-,hc⟩:=mem_memberCalls hw
   cases hc
  have hcalls:vectorCalls macFormat .macvec (memberCalls macFormat id) true (v::macs)=
   .leaveAll .macvec::(macCalls [v]++vectorCalls macFormat .macvec (memberCalls macFormat id) true macs):=by
   simp[vectorCalls,macCalls,macFormat]
  rw[hcalls]
  change lastSaid MmrpValue.type (.macvec mac) false (macCalls [v]++_)=true ↔ _
  rw[lastSaid_append,ih hrest,lastSaid_of_noLeave hv hall]
  cases macs with
  | nil=>simp
  | cons w macs=>simp

structure ServiceOnly (calls:List (Call MmrpType MmrpValue)) : Prop where
 noLeave:NoLeave calls
 leaveAll:.leaveAll .macvec∉calls
 joins:∀mac,¬Joins (.macvec mac) calls

lemma serviceOnly_of_newCalls {members:List (Attribute MmrpValue)} {n:Nat}
 {seen:List MmrpType} {data:List UInt8} (hmembers:∀a∈members,a.value.type=.svcreq)
 (hcalls:attributeCalls (readVectors svcReader n seen data).1=newCalls members) :
 ServiceOnly (readVectors svcReader n seen data).1 := by
 have hnew:∀e w,.attribute e w∈(readVectors svcReader n seen data).1 →
  e=.NEW ∧ w.type=.svcreq:=by
  intro e w hmem
  have hmem':.attribute e w∈newCalls members:=hcalls▸mem_filter.2 ⟨hmem,rfl⟩
  obtain ⟨a,ha,hc⟩:=mem_map.1 hmem'
  obtain ⟨rfl,rfl⟩:=Call.attribute.inj hc
  exact ⟨rfl,hmembers a ha⟩
 refine ⟨fun e w hmem=>?_,fun hmem=>?_,fun mac hjoins=>?_⟩
 · rw[(hnew e w hmem).1]
   decide
 · exact absurd (leaveAll_mem_readVectors hmem) (by decide)
 · obtain ⟨e,-,hmem⟩:=hjoins
   exact absurd (hnew e _ hmem).2 (by simp[MmrpValue.type])

section MmrpFrame
variable {station:BitVec 48} {s1 s2 p2pmac:Nat} {db:Database MmrpValue} {frame:List UInt8}

variable (hframe:frame∈(mmrpEvent station [s1,s2] p2pmac .LVATIMER none db).sent)
include hframe

lemma mmrp_leaveAll_parse : NoLeave (macCalls (leaveAllMacs [s1,s2] p2pmac db)) ∧
  ∃rest,(mmrpParse frame).1=vectorCalls macFormat .macvec (memberCalls macFormat id) true
   (leaveAllMacs [s1,s2] p2pmac db)++rest ∧
   (Arranged MmrpValue.type MmrpValue.key (db.attribList.map fun a=>a.value) →
    (∀a∈db.attribList,a.value.type=.svcreq → a.value.key≤1) → ServiceOnly rest) := by
 have hsent:(mmrpTxpdu station [s1,s2] (leaveAllPass p2pmac db)).2=some frame:=
  Option.mem_toList.1 hframe
 obtain ⟨l',base,macs,macsLeft,svcs,svcsLeft,outMacs,outSvcs,hmacs,honly,hsvcs,hencoded,
  rfl,-⟩:=mmrpTxpdu_frame hsent
 have hmacsEq:leaveAllMacs [s1,s2] p2pmac db=macs:=by
  rw[leaveAllMacs,hencoded]
  exact macVectors_eq hmacs.isVector hsvcs.isVector
 rw[hmacsEq]
 refine ⟨leaveAll_noLeave p2pmac db fun v hv a ha=>
  hmacs.sent_sublist.subset (mem_flatten.2 ⟨v,hv,ha⟩),?_⟩
 by_cases hshape:Arranged MmrpValue.type MmrpValue.key (db.attribList.map fun a=>a.value) ∧
  ∀a∈db.attribList,a.value.type=.svcreq → a.value.key≤1
 · have hlist:((leaveAllPass p2pmac db).attribList.map fun a=>a.value)=db.attribList.map fun a=>a.value:=by
    rw[leaveAllPass_attribList,map_map]
    rfl
   have hvalues:∀a∈(leaveAllPass p2pmac db).attribList,a.value.type=.svcreq →
    a.value.key≤1:=by
    intro a ha
    obtain ⟨c,hc,rfl⟩:=mem_map.1 ha
    exact hshape.2 c hc
   obtain ⟨hone,hsvcValues⟩:=svcs_single (hlist▸hshape.1) hvalues honly hsvcs
   obtain ⟨n,data,seen,hparse,hcalls⟩:=
    @mmrpParse_messages _ _ station _ _ _ _ _ _ _ _ _ _ _ _ hmacs hsvcs hone hsvcValues
   refine ⟨_,hparse,fun _ _=>serviceOnly_of_newCalls (fun a ha=>?_) hcalls⟩
   obtain ⟨v,hv,hav⟩:=mem_flatten.1 ha
   exact of_decide_eq_true ((hsvcs.isVector v hv).selects a hav)
 · obtain ⟨fuel,endmarks,seen,hparse⟩:=@mmrpParse_split s1 s2 station _ _ _ _ _ _ _ hmacs svcs
   exact ⟨_,hparse,fun h h'=>absurd ⟨h,h'⟩ hshape⟩

variable (hmacs:leaveAllMacs [s1,s2] p2pmac db≠[]) (station':BitVec 48) (stack:List Nat)
 (p2pmac':Nat) (receiver:Database MmrpValue) (mac:BitVec 48)
include hmacs

lemma mmrp_registered_iff_said :
 Registered (.macvec mac) (mmrpRecvMsg station' stack p2pmac' frame receiver).db ↔
  lastSaid MmrpValue.type (.macvec mac) false (mmrpParse frame).1=true := by
 obtain ⟨-,rest,hparse,-⟩:=mmrp_leaveAll_parse hframe
 obtain ⟨v,macs,hcons⟩:=exists_cons_of_ne_nil hmacs
 obtain ⟨calls,hfirst⟩:∃calls,(mmrpParse frame).1=.leaveAll .macvec::calls:=by
  rw[hparse,hcons]
  exact ⟨_,rfl⟩
 have hregistered:=registered_iff_lastSaid (mmrp_lawful station' stack)
  (mmrp_keyed station' stack) p2pmac' (frameSource frame) (k:=.macvec) (v:=.macvec mac) rfl
  calls receiver
 rw[←hfirst] at hregistered
 exact hregistered

lemma mmrp_registered_iff
 (harranged:Arranged MmrpValue.type MmrpValue.key (db.attribList.map fun a=>a.value))
 (hvalues:∀a∈db.attribList,a.value.type=.svcreq → a.value.key≤1) :
 Registered (.macvec mac) (mmrpRecvMsg station' stack p2pmac' frame receiver).db ↔
  ∃v∈(leaveAllMacs [s1,s2] p2pmac db).getLast?,Joins (.macvec mac) (macCalls [v]) := by
 obtain ⟨hnoLeave,rest,hparse,hservice⟩:=mmrp_leaveAll_parse hframe
 have hrest:=hservice harranged hvalues
 rw[mmrp_registered_iff_said hframe hmacs,hparse,lastSaid_append,
  lastSaid_of_noLeave hrest.noLeave hrest.leaveAll,lastSaid_macs hnoLeave]
 simp[hrest.joins mac]

end MmrpFrame

/-- In MVRP in front of invalid VIDs, in MMRP exactly if the join is the last word of the frame. -/
theorem rejoined_iff (station station':BitVec 48) (p2pmac p2pmac':Nat) :
 (∀(db receiver:Database (BitVec 16)) (frame:List UInt8),
  frame∈(mvrpEvent station p2pmac .LVATIMER none db).sent →
  ((∀vid,Joins vid (vidCalls p2pmac db) →
   Registered vid (mvrpRecvMsg station' p2pmac' frame receiver).db) ↔
   ∀vid,Joins vid (vidCalls p2pmac db) → Joins vid (validVidCalls p2pmac db))) ∧
 (∀(s1 s2:Nat) (stack:List Nat) (db receiver:Database MmrpValue) (frame:List UInt8),
  frame∈(mmrpEvent station [s1,s2] p2pmac .LVATIMER none db).sent →
  ((∀mac,Joins (.macvec mac) (macCalls (leaveAllMacs [s1,s2] p2pmac db)) →
   Registered (.macvec mac) (mmrpRecvMsg station' stack p2pmac' frame receiver).db) ↔
   ∀mac,Joins (.macvec mac) (macCalls (leaveAllMacs [s1,s2] p2pmac db)) →
    lastSaid MmrpValue.type (.macvec mac) false (mmrpParse frame).1=true) ∧
  (Arranged MmrpValue.type MmrpValue.key (db.attribList.map fun a=>a.value) →
   (∀a∈db.attribList,a.value.type=.svcreq → a.value.key≤1) →
   ((∀mac,Joins (.macvec mac) (macCalls (leaveAllMacs [s1,s2] p2pmac db)) →
    Registered (.macvec mac) (mmrpRecvMsg station' stack p2pmac' frame receiver).db) ↔
    ∀mac,Joins (.macvec mac) (macCalls (leaveAllMacs [s1,s2] p2pmac db)) →
     ∃v∈(leaveAllMacs [s1,s2] p2pmac db).getLast?,Joins (.macvec mac) (macCalls [v])))) := by
 have hne:∀{macs:List (List (Attribute MmrpValue))} {mac:BitVec 48},
  Joins (.macvec mac) (macCalls macs) → macs≠[]:=by
  rintro macs mac ⟨e,-,hmem⟩ rfl
  cases hmem
 refine ⟨fun db receiver frame hframe=>?_,
  fun s1 s2 stack db receiver frame hframe=>⟨?_,?_⟩⟩
 · exact forall₂_congr fun vid _=>mvrp_registered_iff hframe vid
 · exact forall₂_congr fun mac hjoins=>
    mmrp_registered_iff_said hframe (hne hjoins) station' stack p2pmac' receiver mac
 · intro harranged hvalues
   exact forall₂_congr fun mac hjoins=>mmrp_registered_iff hframe (hne hjoins) station' stack
    p2pmac' receiver mac harranged hvalues

def declaredMacs (gap:BitVec 48) : Database MmrpValue where
 lva := ⟨.PASSIVE,false,.NONE⟩
 joinTimerRunning:=false
 lvTimerRunning:=false
 lvaTimerRunning:=true
 attribList:=
  [⟨.macvec 0x01005e000001,⟨.QA,false,.NULL,.YES,none⟩,⟨.MT,.NONE,0⟩⟩,
   ⟨.macvec (0x01005e000001+gap),⟨.QA,false,.NULL,.YES,none⟩,⟨.MT,.NONE,0⟩⟩]
 sendEmptyLeaveAllFlag:=false

def neighboursFrame : List UInt8 := [1,128,194,0,0,32,2,0,0,0,0,2,136,246,0,
  2,6,32,2,1,0,94,0,0,1,126,0,0,1,1,32,0,0,0,0,0,0]

theorem rejoined_iff_neighbours :
 neighboursFrame∈(mmrpEvent 0x020000000002 [0,0] 0 .LVATIMER none (declaredMacs 1)).sent ∧
  ∀mac,Joins (.macvec mac) (macCalls (leaveAllMacs [0,0] 0 (declaredMacs 1))) →
   Registered (.macvec mac)
    (mmrpRecvMsg 0x020000000003 [0,0] 0 neighboursFrame (twoMacs .VO)).db := by
 have hframe:neighboursFrame ∈
  (mmrpEvent 0x020000000002 [0,0] 0 .LVATIMER none (declaredMacs 1)).sent:=by decide
 have harranged:Arranged MmrpValue.type MmrpValue.key
  ((declaredMacs 1).attribList.map fun a=>a.value):=
  ⟨by simp[declaredMacs,Grouped],by
   simp[declaredMacs,SortedWithin,MmrpValue.key]⟩
 refine ⟨hframe,(((rejoined_iff _ _ _ _).2 _ _ _ _ _ _ hframe).2 harranged (by decide)).2 ?_⟩
 intro mac hjoins
 exact ⟨_,rfl,hjoins⟩

theorem first_mac_not_rejoined : ∃frame∈(mmrpEvent 0x020000000002 [0,0] 0 .LVATIMER none (declaredMacs 4)).sent,
  Joins (.macvec 0x01005e000001) (macCalls (leaveAllMacs [0,0] 0 (declaredMacs 4))) ∧
  (mmrpRecvMsg 0x020000000003 [0,0] 0 frame {declaredMacs 4 with attribList:=[]
    }).db.attribList.map
   (fun a=>(a.value,a.registrar.mrpState))=[(.macvec 0x01005e000001,.LV),(.macvec 0x01005e000005,.IN)] ∧
  ¬Registered (.macvec 0x01005e000001)
   (mmrpRecvMsg 0x020000000003 [0,0] 0 frame {declaredMacs 4 with attribList:=[]}).db := by
 refine ⟨[1,128,194,0,0,32,2,0,0,0,0,2,136,246,0,2,6,32,1,1,0,94,0,0,1,108,32,1,1,0,94,0,0,5,108,0,0,
  1,1,32,0,0,0,0,0,0],by decide,⟨.JOINMT,rfl,by decide⟩,by decide,?_⟩
 unfold Registered
 decide

end MrpRejoin

end OpenAvnu
