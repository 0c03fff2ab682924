import Mathlib.Data.List.TakeWhile
import OpenAvnu.MrpFraming

/-!
# Reading what was written

A reader recovers the first value and counts up as the encoder does.
-/

namespace OpenAvnu

open PackedDigits Mrp MrpEncode MrpDecode MrpVectors MrpMessages MrpFraming List Option

namespace MrpRoundTrip

variable {κ α:Type}

/-- `r` reads vectors of `fmt`; of a value it reconstructs `view`. -/
structure Undoes (fmt:Format α) (r:Reader κ α) (view:α → α) : Prop where
 firstLength:r.firstLength=fmt.eventsAt
 first:∀v,fmt.selects v=true → r.first (firstBytes fmt v)=view v
 next:∀last v,fmt.selects v=true → fmt.continues (fmt.advance last) v=true →
  r.advance (view last)=view (fmt.advance last) ∧ view v=view (fmt.advance last)
 padding:fmt.padding=[0,0]
 bounded:∀v,fmt.selects v=true → (fmt.firstValue v).length≤fmt.eventsAt
 once:r.once=fmt.lvaOnce

variable {fmt:Format α} {view:α → α} {r:Reader κ α} (e:PduEvent)
 {event:Attribute α → Option PduEvent} {run v:List (Attribute α)}
 {sent:List (List (Attribute α))}

lemma Undoes.proper (h:Undoes fmt r view) : Proper fmt where
 first := h.bounded
 padding:=by rw[h.padding];rfl
lemma Undoes.framed (h:Undoes fmt r view)
 (hfours:r.fourPacked.isSome=fmt.fourPacked.isSome) : Framed fmt r := ⟨h.proper,h.firstLength,hfours⟩
lemma firstBytes_exact {v:α} (hlength:(fmt.firstValue v).length=fmt.eventsAt) :
 firstBytes fmt v=fmt.firstValue v := by
 simp[firstBytes,hlength]
@[simp] lemma ofCode_code : PduEvent.ofCode e.code=some e := by
 cases e<;>rfl
lemma code_lt : e.code<6 := by
 cases e<;>decide
@[simp] lemma codeOf_some : codeOf (some e)=e.code := rfl
lemma codeOf_lt (e:Option PduEvent) : codeOf e<6 := by
 cases e with
 | none=>decide
 | some e=>exact code_lt e
def callsWith (view:α → α) (event:Attribute α → Option PduEvent)
 (members:List (Attribute α)) : List (Call κ α) :=
 members.filterMap fun a=>(event a).map fun e=>.attribute e (view a.value)
def ownCalls (view:α → α) (members:List (Attribute α)) : List (Call κ α) := callsWith view ownEvent members
def memberCalls (fmt:Format α) (view:α → α) : List (Attribute α) → List (Call κ α)
 | []=>[]
 | head::run=>ownCalls view [head]++callsWith view (runEvent fmt head) run

section
variable (view:α → α)

@[simp] lemma ownCalls_append (left right:List (Attribute α)) :
 (ownCalls view (left++right):List (Call κ α))=ownCalls view left++ownCalls view right := by
 simp[ownCalls,callsWith]
lemma callsWith_cons {a:Attribute α} {e:PduEvent} (he:event a=some e)
 (run:List (Attribute α)) : (callsWith view event (a::run):List (Call κ α))=
  .attribute e (view a.value)::callsWith view event run := by
 simp[callsWith,he]

lemma callsWith_length (hevent:∀a∈run,(event a).isSome=true) :
 (callsWith view event run:List (Call κ α)).length=run.length := by
 induction run with
 | nil=>rfl
 | cons v run ih=>
  obtain ⟨e,he⟩:=isSome_iff_exists.1 (hevent v mem_cons_self)
  rw[callsWith_cons view he,length_cons,ih fun a ha=>hevent a (mem_cons_of_mem _ ha),length_cons]

lemma callsWith_inj {f g:Attribute α → Option PduEvent}
 (hf:∀a∈run,(f a).isSome=true) (hg:∀a∈run,(g a).isSome=true) :
 (callsWith view f run:List (Call κ α))=callsWith view g run↔∀a∈run,f a=g a := by
 induction run with
 | nil=>simp[callsWith]
 | cons v run ih=>
  obtain ⟨e,he⟩:=isSome_iff_exists.1 (hf v mem_cons_self)
  obtain ⟨e',he'⟩:=isSome_iff_exists.1 (hg v mem_cons_self)
  have htail:=ih (fun a ha=>hf a (mem_cons_of_mem _ ha))
   fun a ha=>hg a (mem_cons_of_mem _ ha)
  rw[callsWith_cons view he,callsWith_cons view he',List.cons.injEq,htail,List.forall_mem_cons,he,he']
  simp

end

lemma memberCalls_own (hjoins:fmt.joinsByHead=false) (view:α → α) (v:List (Attribute α)) :
 (memberCalls fmt view v:List (Call κ α))=ownCalls view v := by
 cases v with
 | nil=>rfl
 | cons head run=>
  have hrun:runEvent fmt head=ownEvent:=by
   funext a
   simp[runEvent,hjoins]
  rw[memberCalls,hrun]
  exact (ownCalls_append view [head] run).symm

lemma mem_memberCalls {c:Call κ α} (hc:c∈memberCalls fmt view v) :
 ∃a∈v,∃b e,pduEvent b a.applicant.sndmsg=some e ∧ c=.attribute e (view a.value) := by
 cases v with
 | nil=>cases hc
 | cons head run=>
  simp only[memberCalls,ownCalls,callsWith,mem_append,mem_filterMap,map_eq_some_iff] at hc
  rcases hc with ⟨a,ha,e,he,rfl⟩|⟨a,ha,e,he,rfl⟩
  · exact ⟨a,mem_cons.2 (.inl (mem_singleton.1 ha)),_,e,he,rfl⟩
  · refine ⟨a,mem_cons_of_mem _ ha,?_⟩
    unfold runEvent at he
    split at he
    · next hjoin=>
       simp only[Bool.and_eq_true,decide_eq_true_eq] at hjoin
       exact ⟨_,e,hjoin.2▸he,rfl⟩
    · exact ⟨_,e,he,rfl⟩

lemma vectorCalls_first (hone:fmt.lvaOnce=true) (kind:κ)
 (calls:List (Attribute α) → List (Call κ α)) (hne:sent≠[]) (lva:Bool) :
 vectorCalls fmt kind calls lva sent=(if lva then [.leaveAll kind] else [])++sent.flatMap calls := by
 have hplain:∀sent:List (List (Attribute α)),
  vectorCalls fmt kind calls false sent=sent.flatMap calls:=by
  intro sent
  induction sent with
  | nil=>rfl
  | cons v sent ih=>
   simp[vectorCalls,ih]
 cases sent with
 | nil=>exact absurd rfl hne
 | cons v sent=>
  rw[vectorCalls,hone,Bool.not_true,Bool.and_false,hplain,flatMap_cons,append_assoc]

lemma vectorCalls_once (hone:fmt.lvaOnce=true) (kind:κ)
 {calls:List (Attribute α) → List (Call κ α)} (hcalls:∀v∈sent,calls v=ownCalls view v)
 (hne:sent≠[]) (lva:Bool) : vectorCalls fmt kind calls lva sent=
  (if lva then [.leaveAll kind] else [])++ownCalls view sent.flatten := by
 rw[vectorCalls_first hone kind calls hne,append_cancel_left_eq]
 clear hne
 induction sent with
 | nil=>rfl
 | cons v sent ih=>
  rw[flatMap_cons,flatten_cons,ownCalls_append,hcalls v mem_cons_self,
   ih fun w hw=>hcalls w (mem_cons_of_mem _ hw)]

lemma eventWalk_append (r:Reader κ α) (left right:List Nat) (value:α) : eventWalk r (left++right) value=
  let w:=eventWalk r left value
  (w.1++(eventWalk r right w.2).1,(eventWalk r right w.2).2) := by
 induction left generalizing value with
 | nil=>rfl
 | cons code left ih=>
  simp only[cons_append,eventWalk]
  split
  · rw[ih]
    cases PduEvent.ofCode code<;>rfl
  · rw[ih]

lemma valueWalk_eq (r:Reader κ α) {bytes:List UInt8} (hsmall:∀b∈bytes,b.toNat<216)
 (numvalues:Nat) (value:α) : valueWalk r numvalues bytes value=
  (eventWalk r ((unpackBytes 6 3 bytes).take numvalues) value).1 := by
 induction bytes generalizing numvalues value with
 | nil=>simp[valueWalk,unpackBytes,eventWalk]
 | cons byte bytes ih=>
  have hbyte:=hsmall byte mem_cons_self
  have hnot:¬(r.strict&&decide (5<byte.toNat/36))=true:=by
   simp only[Bool.and_eq_true,decide_eq_true_eq]
   omega
  rw[valueWalk]
  dsimp only
  rw[if_neg hnot,unpackBytes_cons,take_append,eventWalk_append,ih fun b hb=>hsmall b (mem_cons_of_mem _ hb)]
  simp

section Walk
variable {fmt:Format α} {r:Reader κ α} {view:α → α} {run:List (Attribute α)} {last:α}

lemma runOf_cons_inv {v:Attribute α} (hrun:runOf fmt last (v::run)=v::run) :
 fmt.selects v.value=true ∧ fmt.continues (fmt.advance last) v.value=true ∧
  runOf fmt (fmt.advance last) run=run := by
 unfold runOf at hrun
 split at hrun
 · next hcond=>
    simp only[Bool.and_eq_true] at hcond
    exact ⟨hcond.1.1,hcond.2,(List.cons.inj hrun).2⟩
 · cases hrun

lemma eventWalk_stuck {value:α} (hvalue:r.accepts value=false) (codes:List Nat) :
 (eventWalk r codes value).1=[] := by
 induction codes with
 | nil=>rfl
 | cons code codes ih=>simpa[eventWalk,hvalue] using ih

lemma eventWalk_run (h:Undoes fmt r view) (event:Attribute α → Option PduEvent)
 (hrun:runOf fmt last run=run) (hsome:∀a∈run,(event a).isSome=true) :
 (eventWalk r (run.map fun a=>codeOf (event a)) (r.advance (view last))).1=
  callsWith view event (run.takeWhile fun a=>r.accepts (view a.value)) := by
 induction run generalizing last with
 | nil=>rfl
 | cons v run ih=>
  obtain ⟨hselects,hcontinues,htail⟩:=runOf_cons_inv hrun
  obtain ⟨e,he⟩:=isSome_iff_exists.1 (hsome v mem_cons_self)
  obtain ⟨hadvance,hvalue⟩:=h.next last v.value hselects hcontinues
  have hnext:=ih htail fun a ha=>hsome a (mem_cons_of_mem _ ha)
  rw[←hvalue] at hnext hadvance
  rw[map_cons,hadvance]
  cases haccepts:r.accepts (view v.value) with
  | false=>
   rw[eventWalk_stuck haccepts,takeWhile_cons_of_neg (by simp[haccepts])]
   rfl
  | true=>
   rw[eventWalk,if_pos haccepts,takeWhile_cons_of_pos (by exact haccepts),callsWith_cons view he]
   simp[he,hnext]

lemma packedEvents_unpack (h:Undoes fmt r view) (head:Attribute α)
 (run:List (Attribute α)) : (unpackBytes 6 3 (packedEvents fmt (head::run))).take (run.length+1)=
  eventCodes fmt (head::run) ∧
  ∀b∈packedEvents fmt (head::run),b.toNat<216 := by
 have hstart:(Packer.start (codeOf (ownEvent head)) fmt.padding).Carries 6 3
  [codeOf (ownEvent head)]:=by
  refine Packer.start_carries ?_ (by decide) (codeOf_lt _) ?_
  · rw[h.padding];rfl
  · rw[h.padding];decide
 have hcarries:((Packer.start (codeOf (ownEvent head)) fmt.padding).pushAll 6 3
  (run.map fun a=>codeOf (runEvent fmt head a))).Carries 6 3
   (eventCodes fmt (head::run)):=by
  refine hstart.pushAll (by decide) _ ?_
  intro d hd
  obtain ⟨a,-,rfl⟩:=mem_map.1 hd
  exact codeOf_lt _
 have hunpack:=hcarries.unpack_finish (by decide)
 rw[eventCodes_length] at hunpack
 exact ⟨hunpack,hcarries.finish_lt⟩

lemma foundCalls_eq (h:Undoes fmt r view) (hr:r.fourPacked=none) {v:List (Attribute α)}
 (hvector:IsVector fmt v) (hsend:Sendable fmt v) : foundCalls fmt r v=
  memberCalls fmt view (v.takeWhile fun a=>r.accepts (view a.value)) := by
 cases v with
 | nil=>rfl
 | cons head run=>
  obtain ⟨hselects,-,-,hrun⟩:=hvector
  obtain ⟨hcodes,hsmall⟩:=packedEvents_unpack h head run
  obtain ⟨hown,hall⟩:=hsend
  obtain ⟨e,he⟩:=isSome_iff_exists.1 hown
  have htail:=eventWalk_run h (runEvent fmt head) hrun hall
  simp only[foundCalls,hr]
  rw[h.first _ hselects,valueWalk_eq r hsmall,hcodes,eventCodes]
  cases haccepts:r.accepts (view head.value) with
  | false=>
   rw[eventWalk_stuck haccepts,takeWhile_cons_of_neg (by simp[haccepts])]
   rfl
  | true=>
   rw[eventWalk,if_pos haccepts,takeWhile_cons_of_pos (by exact haccepts)]
   simp[he,memberCalls,ownCalls,htail,callsWith]

end Walk

lemma Undoes.readsBack (h:Undoes fmt r view) (hfmt:fmt.fourPacked=none)
 (hr:r.fourPacked=none) (hvector:IsVector fmt v) (hsend:Sendable fmt v)
 (haccepts:∀a∈v,r.accepts (view a.value)=true) : ReadsBack fmt r (memberCalls fmt view) v := by
 intro tail htail
 rw[(h.framed (by rw[hfmt,hr];rfl)).readsBack hvector tail htail,
  foundCalls_eq h hr hvector hsend,takeWhile_eq_self_iff.2 haccepts]

end MrpRoundTrip

/-! ## Vectors with four-packed values -/

namespace MrpFours

open MrpRoundTrip

variable {κ α:Type}

lemma unpackBytes_four {digits:List Nat} (hlength:digits.length=4)
 (hdigits:∀d∈digits,d<4) (rest:List UInt8) :
 unpackBytes 4 4 (UInt8.ofNat (packDigits 4 digits)::rest)=digits++unpackBytes 4 4 rest := by
 have:=@unpackBytes_singleton 4 4 (by decide) digits hlength hdigits
 rw[←singleton_append,unpackBytes_append,this]

lemma unpackBytes_foursBytes {values:List Nat} (hsmall:∀v∈values,v<4) :
 (unpackBytes 4 4 (foursBytes values)).take values.length=values := by
 induction values using foursBytes.induct with
 | case1 w x y z rest ih=>
  have hrest:=ih fun v hv=>hsmall v (by simp[hv])
  rw[foursBytes,unpackBytes_four rfl fun d hd=>hsmall d (by
   simp only[mem_cons] at hd ⊢
   tauto)]
  simpa using hrest
 | case2 x y z=>
  rw[foursBytes,unpackBytes_four rfl (by simpa using hsmall)]
  rfl
 | case3 x y=>
  rw[foursBytes,unpackBytes_four rfl (by simpa using hsmall)]
  rfl
 | case4 x=>
  rw[foursBytes,unpackBytes_four rfl (by simpa using hsmall)]
  rfl
 | case5=>rfl

lemma unpackBytes_four_lt (bytes:List UInt8) : ∀d∈unpackBytes 4 4 bytes,d<4 := by
 intro d hd
 obtain ⟨byte,-,hd⟩:=mem_flatMap.1 hd
 have:=byte.toNat_lt
 simp[unpackDigits] at hd
 omega

variable (r:Reader κ α) (set:Nat → α → α)

lemma listenWalk_append (left right subs:List Nat) (value:α) : listenWalk r set (left++right) subs value=
  let w:=listenWalk r set left subs value
  let w':=listenWalk r set right w.2.1 w.2.2
  (w.1++w'.1,w'.2) := by
 induction left generalizing subs value with
 | nil=>rfl
 | cons code left ih=>
  cases subs with
  | nil=>simp[listenWalk,ih]
  | cons sub subs=>
   simp only[cons_append,listenWalk,ih]
   split
   · rfl
   · cases PduEvent.ofCode code<;>rfl

lemma listenValues_eq {bytes:List UInt8} (hsmall:∀b∈bytes,b.toNat<216) (numvalues:Nat)
 (subs:List Nat) (value:α) : listenValues r set numvalues bytes subs value=
  (listenWalk r set ((unpackBytes 6 3 bytes).take numvalues) subs value).1 := by
 induction bytes generalizing numvalues subs value with
 | nil=>simp[listenValues,unpackBytes,listenWalk]
 | cons byte bytes ih=>
  have hbyte:=hsmall byte mem_cons_self
  have hnot:¬(r.strict&&decide (5<byte.toNat/36))=true:=by
   simp only[Bool.and_eq_true,decide_eq_true_eq]
   omega
  rw[listenValues]
  dsimp only
  rw[if_neg hnot,unpackBytes_cons,take_append,listenWalk_append,ih fun b hb=>hsmall b (mem_cons_of_mem _ hb)]
  simp

section Walk
variable {fmt:Format α} {r:Reader κ α} {view:α → α} {pick:α → Nat} {set:Nat → α → α}

def restored (view:α → α) (pick:α → Nat) (set:Nat → α → α) (v:α) : α := set (pick v) (view v)

def listenCalls (fmt:Format α) (r:Reader κ α) (view:α → α) (set:Nat → α → α) :
 List (Attribute α) → List (Call κ α)
 | []=>[]
 | head::run=>
  (listenWalk r set (eventCodes fmt (head::run))
   ((unpackBytes 4 4 (foursBytes (fours fmt (head::run)))).take (run.length+1))
   (view head.value)).1

lemma listenWalk_run (set:Nat → α → α) (h:Undoes fmt r view) (event:Attribute α → Option PduEvent) {last:α}
 {run:List (Attribute α)} (hrun:runOf fmt last run=run)
 (hsome:∀a∈run,(event a).isSome=true) (hpick:∀a∈run,pick a.value≠0) :
 (listenWalk r set (run.map fun a=>codeOf (event a)) (run.map fun a=>pick a.value)
  (r.advance (view last))).1=callsWith (restored view pick set) event run := by
 induction run generalizing last with
 | nil=>rfl
 | cons v run ih=>
  obtain ⟨hselects,hcontinues,htail⟩:=runOf_cons_inv hrun
  obtain ⟨e,he⟩:=isSome_iff_exists.1 (hsome v mem_cons_self)
  obtain ⟨hadvance,hvalue⟩:=h.next last v.value hselects hcontinues
  have hnext:=ih htail (fun a ha=>hsome a (mem_cons_of_mem _ ha))
   fun a ha=>hpick a (mem_cons_of_mem _ ha)
  rw[←hvalue] at hnext hadvance
  rw[map_cons,map_cons,hadvance,listenWalk]
  simp[hpick v mem_cons_self,he,callsWith_cons _ he,restored,hnext]

variable {v:List (Attribute α)}

lemma listenCalls_own (h:Undoes fmt r view) (hfour:fmt.fourPacked=some pick)
 (hjoins:fmt.joinsByHead=false) (hvector:IsVector fmt v) (hsend:Sendable fmt v)
 (hpick:∀a∈v,pick a.value≠0 ∧ pick a.value<4) :
 listenCalls fmt r view set v=ownCalls (restored view pick set) v := by
 cases v with
 | nil=>rfl
 | cons head run=>
  obtain ⟨-,-,-,hrun⟩:=hvector
  obtain ⟨e,he⟩:=isSome_iff_exists.1 hsend.1
  have hfours:fours fmt (head::run)=(head::run).map fun a=>pick a.value:=by
   simp[fours,hfour]
  have hsmall:∀d∈(head::run).map fun a=>pick a.value,d<4:=by
   intro d hd
   obtain ⟨a,ha,rfl⟩:=mem_map.1 hd
   exact (hpick a ha).2
  have hunpack:=unpackBytes_foursBytes hsmall
  rw[length_map,length_cons] at hunpack
  have htail:=listenWalk_run set h (runEvent fmt head) hrun hsend.2
   fun a ha=>(hpick a (mem_cons_of_mem _ ha)).1
  rw[←memberCalls_own hjoins,listenCalls,hfours,hunpack,eventCodes,map_cons,listenWalk]
  simp[(hpick head mem_cons_self).1,he,htail,memberCalls,ownCalls,callsWith,restored]

lemma listenWalk_subs (codes subs:List Nat) (value:α) : ∀c∈(listenWalk r set codes subs value).1,
  ∃e sub w,sub∈subs ∧ sub≠0 ∧ c=.attribute e (set sub w) := by
 induction codes generalizing subs value with
 | nil=>simp[listenWalk]
 | cons code codes ih=>
  cases subs with
  | nil=>simpa[listenWalk] using ih [] (r.advance value)
  | cons sub subs=>
   have hrest:∀c∈(listenWalk r set codes subs (r.advance value)).1,
    ∃e s w,s∈sub::subs ∧ s≠0 ∧ c=.attribute e (set s w):=by
    intro c hc
    obtain ⟨e,s,w,hs,hne,rfl⟩:=ih subs _ c hc
    exact ⟨e,s,w,mem_cons_of_mem _ hs,hne,rfl⟩
   rw[listenWalk]
   split
   · exact hrest
   next hsub=>
   cases PduEvent.ofCode code with
   | none=>exact hrest
   | some e=>
    intro c hc
    rcases mem_cons.1 hc with rfl|hc
    · exact ⟨e,sub,value,mem_cons_self,hsub,rfl⟩
    · exact hrest c hc

lemma listenCalls_subs : ∀c∈listenCalls fmt r view set v,
  ∃e sub w,sub≠0 ∧ sub<4 ∧ c=.attribute e (set sub w) := by
 cases v with
 | nil=>simp[listenCalls]
 | cons head run=>
  intro c hc
  obtain ⟨e,sub,w,hsub,hne,rfl⟩:=listenWalk_subs _ _ _ c hc
  exact ⟨e,sub,w,hne,unpackBytes_four_lt _ sub (mem_of_mem_take hsub),rfl⟩

lemma readsBackFours (h:Undoes fmt r view) (hfmt:fmt.fourPacked=some pick)
 (hr:r.fourPacked=some set) (hvector:IsVector fmt v) : ReadsBack fmt r (listenCalls fmt r view set) v := by
 intro tail htail
 rw[(h.framed (by rw[hfmt,hr];rfl)).readsBack hvector tail htail]
 cases v with
 | nil=>rfl
 | cons head run=>
  obtain ⟨hcodes,hsmall⟩:=packedEvents_unpack h head run
  simp only[foundCalls,hr]
  rw[h.first _ hvector.1,listenValues_eq r set hsmall,hcodes]
  rfl

end Walk

end MrpFours

end OpenAvnu
