import OpenAvnu.MrpRoundTrip
import OpenAvnu.MrpTransmit

/-!
# LeaveAll transmissions

How a receiver hears a LeaveAll in each message of a frame.
-/

namespace OpenAvnu.MrpLeaveAll

open Mrp MrpEncode MrpDecode MrpVectors MrpMessages MrpFraming MrpFours MrpTransmit MrpSteps List

variable {κ α:Type} (p2pmac:Nat) (a:Attribute α) {fmt:Format α} (r:Reader κ α) (k:κ)
 (numvalues:Nat)

lemma leaveAllAttribute_applicant : (leaveAllAttribute p2pmac a).applicant.tx=true ∧
  ((leaveAllAttribute p2pmac a).applicant.encode=.YES ↔
   declares a.applicant.mrpState=true) ∧
  (∀b,(pduEvent b (leaveAllAttribute p2pmac a).applicant.sndmsg).isSome=true) := by
 refine ⟨?_,?_,?_⟩
 · change (applicantTxla _).tx=true
   cases a.applicant.mrpState<;>rfl
 · change (applicantTxla _).encode=.YES ↔ _
   cases a.applicant.mrpState<;>simp[applicantTxla,declares]
 · intro b
   change (pduEvent b (applicantTxla _).sndmsg).isSome=true
   cases a.applicant.mrpState<;>rfl

lemma leaveAllAttribute_value : (leaveAllAttribute p2pmac a).value=a.value := rfl

lemma leaveAllPass_sendable {p2pmac:Nat} {db:Database α} {v:List (Attribute α)}
 (hv:v∈vectorsFrom fmt 0 (leaveAllPass p2pmac db).attribList) : Sendable fmt v := by
 refine sendable_of_pduEvent fun a ha=>?_
 have hmem:=(vectorsFrom_sublist fmt 0 _).subset (mem_flatten.2 ⟨v,hv,ha⟩)
 obtain ⟨b,-,rfl⟩:=mem_map.1 hmem
 exact (leaveAllAttribute_applicant p2pmac b).2.2

lemma leaveAll_vectors_iff (fmt:Format α) (p2pmac:Nat) (db:Database α) :
 vectorsFrom fmt 0 (leaveAllPass p2pmac db).attribList≠[] ↔
  ∃a∈db.attribList,fmt.selects a.value=true ∧
   declares a.applicant.mrpState=true := by
 constructor
 · intro hne
   obtain ⟨v,hv⟩:=exists_mem_of_ne_nil _ hne
   have hvector:=vectorsFrom_isVector fmt 0 _ v hv
   cases v with
   | nil=>exact hvector.elim
   | cons head run=>
    obtain ⟨hselects,-,hencode,-⟩:=hvector
    have hmem:=(vectorsFrom_sublist fmt 0 _).subset
     (mem_flatten.2 ⟨_,hv,mem_cons_self⟩)
    obtain ⟨a,ha,rfl⟩:=mem_map.1 hmem
    exact ⟨a,ha,hselects,(leaveAllAttribute_applicant p2pmac a).2.1.1 hencode⟩
 · rintro ⟨a,ha,hselects,hdeclares⟩ hnil
   have hmandatory:mandatory fmt (leaveAllAttribute p2pmac a)=true:=by
    obtain ⟨htx,hencode,-⟩:=leaveAllAttribute_applicant p2pmac a
    simp[mandatory,hselects,htx,hencode.2 hdeclares,leaveAllAttribute_value]
   have:=(vectorsFrom_mandatory fmt 0 _).subset (mem_filter.2
    ⟨mem_map_of_mem ha,hmandatory⟩)
   rw[leaveAllPass_attribList] at hnil
   simp[hnil] at this

lemma leaveAll_not_mem_eventWalk (codes:List Nat) (value:α) : .leaveAll k∉(eventWalk r codes value).1 := by
 induction codes generalizing value with
 | nil=>simp[eventWalk]
 | cons code codes ih=>
  simp only[eventWalk]
  split
  · cases PduEvent.ofCode code<;>simp[ih]
  · exact ih value

lemma leaveAll_not_mem_valueWalk (bytes:List UInt8) (value:α) :
 .leaveAll k∉valueWalk r numvalues bytes value := by
 induction bytes generalizing numvalues value with
 | nil=>simp[valueWalk]
 | cons byte bytes ih=>
  simp only[valueWalk]
  split
  · exact ih _ _
  · simp[leaveAll_not_mem_eventWalk,ih]

lemma leaveAll_not_mem_listenValues (set:Nat → α → α) (numvalues:Nat) (bytes:List UInt8)
 (subs:List Nat) (value:α) : .leaveAll k∉listenValues r set numvalues bytes subs value := by
 induction bytes generalizing numvalues subs value with
 | nil=>simp[listenValues]
 | cons byte bytes ih=>
  simp only[listenValues]
  split
  · exact ih _ _ _
  · simp only[mem_append,ih,or_false]
    intro hmem
    obtain ⟨e,sub,w,-,-,hc⟩:=listenWalk_subs _ _ _ _ hmem
    cases hc

lemma leaveAll_not_mem_foundCalls (fmt:Format α) (r:Reader κ α) (k:κ)
 (v:List (Attribute α)) : .leaveAll k∉foundCalls fmt r v := by
 cases v with
 | nil=>simp[foundCalls]
 | cons head run=>
  simp only[foundCalls]
  cases r.fourPacked with
  | none=>exact leaveAll_not_mem_valueWalk _ _ _ _ _
  | some set=>exact leaveAll_not_mem_listenValues _ _ _ _ _ _ _

lemma leaveAll_not_mem_readBody (body:List UInt8) : .leaveAll k∉(readBody r numvalues body).1 := by
 unfold readBody
 cases r.fourPacked with
 | none=>
  dsimp only
  split
  · simp
  · split<;>exact leaveAll_not_mem_valueWalk _ _ _ _ _
 | some set=>
  dsimp only
  split
  · simp
  split
  · simp
  split
  · simp
  · exact leaveAll_not_mem_listenValues _ _ _ _ _ _ _

lemma leaveAll_mem_readVectors [DecidableEq κ] {r:Reader κ α} {k:κ} {fuel:Nat}
 {seen:List κ} {data:List UInt8} (h:.leaveAll k∈(readVectors r fuel seen data).1) : k=r.kind := by
 have hheard:∀c:Bool,.leaveAll k∈(if c then [.leaveAll r.kind] else []:List (Call κ α)) →
  k=r.kind:=by
  intro c hc
  split at hc
  · exact Call.leaveAll.inj (mem_singleton.1 hc)
  · cases hc
 induction fuel generalizing seen data with
 | zero=>simp[readVectors] at h
 | succ fuel ih=>
  rcases data with _|⟨h0,_|⟨h1,body⟩⟩
  · simp[readVectors] at h
  · simp[readVectors] at h
  rw[readVectors] at h
  split at h
  · cases h
  dsimp only at h
  split at h
  · split at h
    · rcases mem_append.1 h with h|h
      · exact hheard _ h
      · exact ih h
    · exact hheard _ h
  split at h
  · rcases mem_append.1 h with h|h
    · exact hheard _ h
    · exact absurd h (leaveAll_not_mem_readBody _ _ _ _)
  · rcases mem_append.1 h with h|h
    · rcases mem_append.1 h with h|h
      · exact hheard _ h
      · exact absurd h (leaveAll_not_mem_readBody _ _ _ _)
    · exact ih h

lemma mem_vectorCalls_leaveAll {kind k:κ} {calls:List (Attribute α) → List (Call κ α)}
 (hcalls:∀v,.leaveAll k∉calls v) (lva:Bool) (sent:List (List (Attribute α))) :
 .leaveAll k∈vectorCalls fmt kind calls lva sent ↔
  k=kind ∧ lva=true ∧ sent≠[] := by
 induction sent generalizing lva with
 | nil=>simp[vectorCalls]
 | cons v sent ih=>
  cases lva with
  | false=>simp[vectorCalls,hcalls,ih]
  | true=>
   simp only[vectorCalls,if_true,mem_append,mem_singleton,hcalls,ih,Call.leaveAll.injEq]
   simp only[or_false,ne_eq,reduceCtorEq,not_false_eq_true,and_true]
   exact or_iff_left_of_imp And.left

section Heard
variable [DecidableEq κ] {dispatch:UInt8 → UInt8 → List UInt8 → Dispatch κ α} {fmt:Format α}
 {r:Reader κ α}

structure Speaks (dispatch:UInt8 → UInt8 → List UInt8 → Dispatch κ α) (fmt:Format α)
 (r:Reader κ α) : Prop where
 framed:Framed fmt r
 once:r.once=fmt.lvaOnce
 type:fmt.attributeType≠0
 dispatch:∀body tail,r.firstLength<body.length → body.length < maxFrameSize →
  dispatch fmt.attributeType (UInt8.ofNat fmt.attributeLength)
   (lengthField fmt body++(body++0::0::tail))=.vectors r (body++0::0::tail)

variable {seen:List κ} {sent:List (List (Attribute α))}

lemma Speaks.heard (h:Speaks dispatch fmt r) (hne:sent≠[])
 (hvectors:∀v∈sent,IsVector fmt v) {base:Nat}
 (hroom:cursorAfter fmt base sent+2 ≤ maxFrameSize) (hseen:r.kind∉seen) (flag:Bool)
 (tail:List UInt8) (fuel endmarks:Nat) : ∃found seen',(∀k,.leaveAll k∈found↔k=r.kind) ∧
  (∀k∈seen',k=r.kind ∨ k∈seen) ∧
  readMessages dispatch (fuel+1) endmarks seen (messageFor fmt true flag sent++tail)=
   let m:=readMessages dispatch fuel 0 seen' (0::0::tail)
   (found++m.1,m.2) := by
 have hlength:=bodyBytes_length h.framed.proper true hvectors
 have hmax:(bodyBytes fmt true sent).length < maxFrameSize:=by
  rw[cursorAfter,if_pos hne] at hroom
  omega
 have hmin:r.firstLength<(bodyBytes fmt true sent).length:=by
  obtain ⟨v,rest,rfl⟩:=exists_cons_of_ne_nil hne
  rw[hlength,h.framed.firstLength]
  simp only[totalLength,vectorLength,map_cons,sum_cons]
  omega
 obtain ⟨seen',hsub,hread⟩:=readMessages_sent dispatch h.framed.proper h.once h.type hvectors
  (fun v hv=>h.framed.readsBack (hvectors v hv)) (fun _=>hroom) (fun _ _=>hseen)
  (h.dispatch _ tail hmin hmax) fuel endmarks
 refine ⟨_,seen',fun k=>?_,hsub,by rw[messageFor,if_pos hne];exact hread⟩
 rw[mem_vectorCalls_leaveAll (leaveAll_not_mem_foundCalls fmt r k)]
 simp[hne]

section
variable (h:Speaks dispatch fmt r) (hempty:fmt.emptyLeaveAll=true)
include h hempty

lemma Speaks.heard_empty
 (hskips:r.skipsEmpty=true) (hattribute:fmt.attributeLength=r.firstLength)
 (hshort:fmt.attributeLength<1000) (hseen:r.kind∉seen) (tail:List UInt8)
 (fuel endmarks:Nat) : readMessages dispatch (fuel+1) endmarks seen (messageFor fmt true true []++tail)=
  let m:=readMessages dispatch fuel 0 (r.kind::seen) (0::0::tail)
  (.leaveAll r.kind::m.1,m.2) := by
 have hmessage:messageFor fmt true true []=message fmt (vectorHeader 0 true++replicate fmt.attributeLength 0):=by
  simp[messageFor,hempty]
 have hlength:(vectorHeader 0 true++replicate fmt.attributeLength (0:UInt8)).length=
  2+fmt.attributeLength:=by simp
 have hread:readVectors r ((vectorHeader 0 true++replicate fmt.attributeLength 0++
  0::0::tail).length+1) seen (vectorHeader 0 true++replicate fmt.attributeLength 0++0::0::tail)=
  ([.leaveAll r.kind],.ok (r.kind::seen,0::0::tail)):=by
  have hdrop:(replicate fmt.attributeLength (0:UInt8)++0::0::tail).drop
   r.firstLength=0::0::tail:=by
   rw[←hattribute]
   simp
  have hheader:vectorHeader 0 true=[32,0]:=rfl
  rw[hheader]
  simp[hskips,hdrop,hseen,readVectors]
 rw[hmessage]
 exact readMessages_message h.type (h.dispatch _ tail (by rw[hlength];omega)
  (by rw[maxFrameSize];omega)) hread fuel endmarks

lemma Speaks.heard_last
 (hskips:r.skipsEmpty=false) (hattribute:r.firstLength<2+fmt.attributeLength)
 (hshort:fmt.attributeLength<1000) (hvectors:∀v∈sent,IsVector fmt v)
 (hroom:sent≠[] → ∃base,cursorAfter fmt base sent+2 ≤ maxFrameSize) (hseen:r.kind∉seen)
 (fuel endmarks:Nat) (k:κ) : .leaveAll k∈(readMessages dispatch (fuel+3) endmarks seen
  (messageFor fmt true true sent++[0,0])).1↔k=r.kind := by
 by_cases hne:sent=[]
 · subst hne
   have hmessage:messageFor fmt true true []=
    message fmt (vectorHeader 0 true++replicate fmt.attributeLength 0):=by
    simp[messageFor,hempty]
   have hlength:(vectorHeader 0 true++replicate fmt.attributeLength (0:UInt8)).length=
    2+fmt.attributeLength:=by simp
   have hread:∀rest:List UInt8,(readVectors r (rest.length+3) seen
    (vectorHeader 0 true++rest))=([.leaveAll r.kind],.error .malformed):=by
    simp[show vectorHeader 0 true=[32,0] from rfl,readVectors,hskips,hseen]
   have hdispatch:=h.dispatch _ [0,0] (by rw[hlength];omega)
    (by rw[maxFrameSize];omega)
   have hdata:lengthField fmt (vectorHeader 0 true++replicate fmt.attributeLength 0)++
    (vectorHeader 0 true++replicate fmt.attributeLength 0++0::0::[0,0])≠[]:=by
    simp
   rw[hmessage,message_append,readMessages,if_neg hdata,if_neg fun hz=>h.type hz.1,hdispatch]
   simp only[append_assoc,length_append,vectorHeader_length]
   rw[Nat.add_comm 2,←length_append,hread]
   simp
 · obtain ⟨base,hbase⟩:=hroom hne
   obtain ⟨found,seen',hfound,-,hread⟩:=h.heard hne hvectors hbase hseen true [0,0]
    (fuel+2) endmarks
   rw[hread]
   simp[readMessages_end,hfound]

end

structure Passes (dispatch:UInt8 → UInt8 → List UInt8 → Dispatch κ α) (fmt:Format α)
 (r:Reader κ α) : Prop where
 speaks:Speaks dispatch fmt r
 empty:fmt.emptyLeaveAll=true
 skips:r.skipsEmpty=true
 length:fmt.attributeLength=r.firstLength
 short:fmt.attributeLength<1000

lemma heard_all {pairs:List (Format α×Reader κ α)}
 (hpasses:∀p∈pairs,Passes dispatch p.1 p.2)
 (hkinds:pairs.Pairwise fun p q=>p.2.kind≠q.2.kind)
 (sent:Format α → List (List (Attribute α)))
 (hvectors:∀p∈pairs,∀v∈sent p.1,IsVector p.1 v)
 (hroom:∀p∈pairs,sent p.1≠[] →
  ∃base,cursorAfter p.1 base (sent p.1)+2 ≤ maxFrameSize)
 (hseen:∀p∈pairs,p.2.kind∉seen) {fuel:Nat} (hfuel:2*pairs.length≤fuel)
 (endmarks:Nat) : ∀p∈pairs,.leaveAll p.2.kind∈(readMessages dispatch fuel endmarks seen
  (pairs.flatMap (fun p=>messageFor p.1 true true (sent p.1))++[0,0])).1 := by
 induction pairs generalizing seen fuel endmarks with
 | nil=>simp
 | cons q pairs ih=>
  obtain ⟨fuel,rfl⟩:∃n,fuel=n+2:=⟨fuel-2,by simp at hfuel;omega⟩
  have hq:=hpasses q mem_cons_self
  have hkinds':=pairwise_cons.1 hkinds
  generalize htail:pairs.flatMap (fun p=>messageFor p.1 true true (sent p.1))++[0,0]=tail at ih
  have htailNe:tail≠[]:=by rw[←htail];simp
  obtain ⟨found,seen',hfound,hsub,hread⟩:∃found seen',
   (∀k,.leaveAll k∈found↔k=q.2.kind) ∧ (∀k∈seen',k=q.2.kind ∨ k∈seen) ∧
   readMessages dispatch (fuel+2) endmarks seen
    (messageFor q.1 true true (sent q.1)++tail)=
    let m:=readMessages dispatch (fuel+1) 0 seen' (0::0::tail)
    (found++m.1,m.2):=by
   by_cases hne:sent q.1=[]
   · rw[hne]
     exact ⟨[.leaveAll q.2.kind],q.2.kind::seen,by simp,by simp,
      hq.speaks.heard_empty hq.empty hq.skips hq.length hq.short
       (hseen q mem_cons_self) tail _ _⟩
   · obtain ⟨base,hbase⟩:=hroom q mem_cons_self hne
     exact hq.speaks.heard hne (hvectors q mem_cons_self) hbase
      (hseen q mem_cons_self) true tail _ _
  have hrest:=@ih seen' (fun p hp=>hpasses p (mem_cons_of_mem _ hp)) hkinds'.2
   (fun p hp=>hvectors p (mem_cons_of_mem _ hp))
   (fun p hp=>hroom p (mem_cons_of_mem _ hp)) (fun p hp hk=>by
    rcases hsub _ hk with hk|hk
    · exact hkinds'.1 p hp hk.symm
    · exact hseen p (mem_cons_of_mem _ hp) hk) fuel
   (by simp only[length_cons] at hfuel;omega) 1
  rw[flatMap_cons,append_assoc,htail,hread,readMessages_endmark _ _ htailNe]
  intro p hp
  rw[mem_append]
  rcases mem_cons.1 hp with rfl|hp
  · exact .inl ((hfound _).2 rfl)
  · exact .inr (hrest p hp)

end Heard

end OpenAvnu.MrpLeaveAll
