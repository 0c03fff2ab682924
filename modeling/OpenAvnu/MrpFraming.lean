import Mathlib.Algebra.Order.BigOperators.Group.List
import OpenAvnu.MrpFrames

/-!
# Framing

Where vectors and messages begin and end does not depend on the values and events in them.
-/

namespace OpenAvnu.MrpFraming

open Bytes PackedDigits Mrp MrpEncode MrpDecode MrpVectors MrpMessages

variable {κ α:Type}

def vectorCalls (fmt:Format α) (kind:κ) (calls:List (Attribute α) → List (Call κ α)) :
 Bool → List (List (Attribute α)) → List (Call κ α)
 | _, []=>[]
 | lva, v::sent=>
  (if lva then [.leaveAll kind] else [])++calls v++vectorCalls fmt kind calls (lva&&!fmt.lvaOnce) sent

variable {bytes:List UInt8} {numvalues:Nat} (r:Reader κ α)

lemma valueWalk_append (hlast:numvalues≤3*bytes.length) (extra:List UInt8) (value:α) :
 valueWalk r numvalues (bytes++extra) value=valueWalk r numvalues bytes value := by
 induction bytes generalizing numvalues value with
 | nil=>
  have hzero:numvalues=0:=by simpa using hlast
  subst hzero
  induction extra generalizing value with
  | nil=>rfl
  | cons byte extra ih=>
   have:=ih value
   simp only[valueWalk,List.nil_append]
   split
   · exact this
   · exact this
 | cons byte bytes ih=>
  have hrest:numvalues-3≤3*bytes.length:=by
   simp only[List.length_cons] at hlast
   omega
  simp[valueWalk,ih hrest]

lemma listenValues_append (set:Nat → α → α) (hlast:numvalues≤3*bytes.length)
 (extra:List UInt8) (subs:List Nat) (value:α) : listenValues r set numvalues (bytes++extra) subs value=
  listenValues r set numvalues bytes subs value := by
 induction bytes generalizing numvalues subs value with
 | nil=>
  have hzero:numvalues=0:=by simpa using hlast
  subst hzero
  induction extra generalizing subs value with
  | nil=>rfl
  | cons byte extra ih=>
   have:=ih subs value
   simp only[listenValues,List.nil_append]
   split
   · exact this
   · exact this
 | cons byte bytes ih=>
  have hrest:numvalues-3≤3*bytes.length:=by
   simp only[List.length_cons] at hlast
   omega
  simp[listenValues,ih hrest]

lemma packedBytes_three (numvalues:Nat) : packedBytes 3 numvalues=(numvalues+2)/3 := by
 unfold packedBytes
 split<;>omega
lemma packedBytes_four (numvalues:Nat) : packedBytes 4 numvalues=(numvalues+3)/4 := by
 unfold packedBytes
 split<;>omega
def bodyOf (fmt:Format α) : List (Attribute α) → List UInt8
 | []=>[]
 | head::run=>
  firstBytes fmt head.value++packedEvents fmt (head::run)++foursBytes (fours fmt (head::run))

/-- The reader finds `calls` in the vector and stops right behind it. -/
def ReadsBack (fmt:Format α) (r:Reader κ α) (calls:List (Attribute α) → List (Call κ α))
 (v:List (Attribute α)) : Prop := ∀tail,tail≠[] → readBody r v.length (bodyOf fmt v++tail)=(calls v,.ok tail)

/-- `r` looks for the events and the four-packed values of a vector where `fmt` puts them. -/
structure Framed (fmt:Format α) (r:Reader κ α) : Prop where
 proper:Proper fmt
 firstLength:r.firstLength=fmt.eventsAt
 fourPacked:r.fourPacked.isSome=fmt.fourPacked.isSome

def foundCalls (fmt:Format α) (r:Reader κ α) : List (Attribute α) → List (Call κ α)
 | []=>[]
 | head::run=>
  let packed:=packedEvents fmt (head::run)
  let first:=r.first (firstBytes fmt head.value)
  match r.fourPacked with
  | none=>valueWalk r (run.length+1) packed first
  | some set=>
   let subs:=unpackBytes 4 4 (foursBytes (fours fmt (head::run)))
   listenValues r set (run.length+1) packed (subs.take (run.length+1)) first

variable {v:List (Attribute α)}

lemma Framed.readsBack {fmt:Format α} {r:Reader κ α} (h:Framed fmt r)
 (hvector:IsVector fmt v) : ReadsBack fmt r (foundCalls fmt r) v := by
 intro tail htail
 cases v with
 | nil=>exact hvector.elim
 | cons head run=>
  have hfirst:=h.proper.firstBytes_length hvector.1
  have hpacked:=packedEvents_length h.proper (head::run)
  have hfours:=foursBytes_fours_length fmt (head::run)
  have hpos:=List.length_pos_iff.2 htail
  rw[List.length_cons] at hpacked hfours
  rw[←h.fourPacked] at hfours
  rw[bodyOf,List.length_cons,foundCalls]
  generalize firstBytes fmt head.value=first at hfirst ⊢
  generalize packedEvents fmt (head::run)=packed at hpacked ⊢
  generalize foursBytes (fours fmt (head::run))=four at hfours ⊢
  generalize hbody:first++packed++four++tail=body
  have hdrop:body.drop r.firstLength=packed++(four++tail):=by
   rw[←hbody,List.append_assoc,List.append_assoc,h.firstLength,←hfirst,List.drop_left]
  have htake:body.take r.firstLength=first:=by
   rw[←hbody,List.append_assoc,List.append_assoc,h.firstLength,←hfirst,List.take_left]
  have hmiddle:body.drop (r.firstLength+(run.length+1+2)/3)=four++tail:=by
   rw[←List.drop_drop,hdrop,←hpacked,List.drop_left]
  have hlength:body.length=r.firstLength+(run.length+1+2)/3+four.length +
   tail.length:=by
   rw[←hbody,h.firstLength,List.length_append,List.length_append,List.length_append,hfirst,hpacked]
  have hone:(packed++(four++tail)).take ((run.length+1+2)/3+1)=packed++(four++tail).take 1:=by
   rw[←hpacked,List.take_length_add_append]
  unfold readBody
  cases hr:r.fourPacked with
  | none=>
   have hnil:four=[]:=by simpa[hr] using hfours
   subst hnil
   simp only[packedBytes_three,hdrop,htake,hmiddle,hone]
   rw[if_neg (by omega),if_neg (by simp only[List.length_nil] at hlength;omega),valueWalk_append r (by omega)]
   rfl
  | some set=>
   have hfour:four.length=(run.length+1+3)/4:=by simpa[hr] using hfours
   have hsubs:(four++tail).take ((run.length+1+3)/4)=four:=by
    rw[←hfour,List.take_left]
   have hrest:body.drop (r.firstLength+(run.length+1+2)/3 +
    (run.length+1+3)/4)=tail:=by
    rw[←List.drop_drop,hmiddle,←hfour,List.drop_left]
   simp only[packedBytes_three,packedBytes_four,hdrop,htake,hmiddle,hrest,hone,hsubs]
   rw[if_neg (by omega),if_neg (by omega),if_neg (by omega),listenValues_append r set (by omega)]

lemma vectorBytes_eq (fmt:Format α) (lva:Bool) (hv:v≠[]) :
 vectorBytes fmt lva v=vectorHeader v.length lva++bodyOf fmt v := by
 cases v with
 | nil=>exact absurd rfl hv
 | cons head run=>simp[vectorBytes,bodyOf]

lemma vectorHeader_eq (hlt:numvalues<8192) (lva:Bool) : ∃h0 h1,vectorHeader numvalues lva=[h0,h1] ∧
  h0.toNat*256+h1.toNat=numvalues+if lva then 8192 else 0 := by
 obtain ⟨h0,h1,hbytes,hvalue⟩:=
  @beBytes_two (numvalues%8192+if lva then 8192 else 0) (by split<;>omega)
 exact ⟨h0,h1,hbytes,by rw[hvalue,Nat.mod_eq_of_lt hlt]⟩

section Vectors
variable [DecidableEq κ] {fmt:Format α} {r:Reader κ α}
 {calls:List (Attribute α) → List (Call κ α)}

lemma readVectors_step {numvalues:Nat} (hpos:0<numvalues) (hlt:numvalues<8192)
 (lva:Bool) (fuel:Nat) (seen:List κ) {body next:List UInt8} {found:List (Call κ α)}
 (hbody:readBody r numvalues body=(found,.ok next)) :
 readVectors r (fuel+1) seen (vectorHeader numvalues lva++body)=
  let flagged:=lva&&!(r.once&&decide (r.kind∈seen))
  let rest:=readVectors r fuel (if flagged then r.kind::seen else seen) next
  ((if flagged then [.leaveAll r.kind] else [])++found++rest.1,rest.2) := by
 obtain ⟨h0,h1,hheader,hvalue⟩:=vectorHeader_eq hlt lva
 have hnot:¬(h0=0 ∧ h1=0):=by
  rintro ⟨rfl,rfl⟩
  have:(0:UInt8).toNat=0:=rfl
  omega
 have hmod:(h0.toNat*256+h1.toNat)%8192=numvalues:=by
  rw[hvalue]
  split<;>omega
 have hflag:decide ((h0.toNat*256+h1.toNat)/8192=1)=lva:=by
  rw[hvalue]
  cases lva
  · simp only[Bool.false_eq_true,if_false,decide_eq_false_iff_not];omega
  · simp only[if_true,decide_eq_true_eq];omega
 rw[hheader]
 simp[readVectors,if_neg hnot,hmod,hflag,if_neg (Nat.pos_iff_ne_zero.1 hpos),hbody]

lemma readVectors_body (honce:r.once=fmt.lvaOnce) {sent:List (List (Attribute α))}
 (hsent:∀v∈sent,v≠[] ∧ v.length<8192 ∧ ReadsBack fmt r calls v) {fuel:Nat}
 (hfuel:sent.length<fuel) {lva:Bool} {seen:List κ}
 (hseen:lva=true → r.once=true → r.kind∉seen) (tail:List UInt8) : ∃seen',(∀k∈seen',k=r.kind ∨ k∈seen) ∧
  readVectors r fuel seen (bodyBytes fmt lva sent++0::0::tail)=
   (vectorCalls fmt r.kind calls lva sent,.ok (seen',0::0::tail)) := by
 induction sent generalizing fuel lva seen with
 | nil=>
  obtain ⟨fuel,rfl⟩:∃n,fuel=n+1:=⟨fuel-1,by simp at hfuel;omega⟩
  exact ⟨seen,fun _=>.inr,by simp[bodyBytes,readVectors,vectorCalls]⟩
 | cons v sent ih=>
  obtain ⟨fuel,rfl⟩:∃n,fuel=n+1:=⟨fuel-1,by simp at hfuel;omega⟩
  obtain ⟨hne,hlt,hread⟩:=hsent v List.mem_cons_self
  have hflag:(lva&&!(r.once&&decide (r.kind∈seen)))=lva:=by
   cases lva with
   | false=>rfl
   | true=>
    cases hr:r.once with
    | false=>rfl
    | true=>simpa using hseen rfl hr
  obtain ⟨seen',hsub,hrest⟩:=@ih (fun w hw=>hsent w (List.mem_cons_of_mem _ hw)) fuel
   (by simpa using hfuel) (lva&&!fmt.lvaOnce)
   (if lva=true then r.kind::seen else seen) (by
    rw[←honce]
    cases lva<;>cases r.once<;>simp)
  refine ⟨seen',?_,?_⟩
  · intro k hk
    rcases hsub k hk with rfl|hk
    · exact .inl rfl
    · split at hk
      · exact List.mem_cons.1 hk
      · exact .inr hk
  · have hbody:=hread (bodyBytes fmt (lva&&!fmt.lvaOnce) sent++0::0::tail) (by simp)
    rw[bodyBytes,vectorBytes_eq fmt lva hne,List.append_assoc,List.append_assoc,
     readVectors_step (List.length_pos_iff.2 hne) hlt lva fuel seen hbody]
    dsimp only
    rw[hflag,hrest,vectorCalls]

lemma sent_bounds (h:Proper fmt) {base:Nat} {lva:Bool} {sent:List (List (Attribute α))}
 (hsent:∀v∈sent,IsVector fmt v)
 (hroom:sent≠[] → cursorAfter fmt base sent+2 ≤ maxFrameSize) (tail:List UInt8) : (∀v∈sent,v≠[] ∧ v.length<8192) ∧
  sent.length<(bodyBytes fmt lva sent++0::0::tail).length+1 := by
 have htotal:∀v∈sent,vectorLength fmt v.length≤totalLength fmt sent:=fun v hv=>
  List.le_sum_of_mem (List.mem_map_of_mem hv)
 refine ⟨?_,?_⟩
 · intro v hv
   have hne:sent≠[]:=List.ne_nil_of_mem hv
   have hlength:=htotal v hv
   have:=hroom hne
   refine ⟨?_,?_⟩
   · rintro rfl
     exact hsent [] hv
   · simp only[cursorAfter,if_pos hne,maxFrameSize] at this
     simp only[vectorLength] at hlength
     omega
 · have hcount:sent.length≤totalLength fmt sent:=by
    have:=List.length_le_sum_of_one_le (sent.map fun v=>vectorLength fmt v.length) (by
     intro n hn
     obtain ⟨v,-,rfl⟩:=List.mem_map.1 hn
     simp only[vectorLength]
     omega)
    simpa[totalLength] using this
   rw[List.length_append,bodyBytes_length h lva hsent]
   omega

end Vectors

section Frames
variable [DecidableEq κ] {dispatch:UInt8 → UInt8 → List UInt8 → Dispatch κ α}

def lengthField (fmt:Format α) (body:List UInt8) : List UInt8 :=
 if fmt.listLength then beBytes 2 (body.length+2) else []

omit [DecidableEq κ] in
lemma message_append (fmt:Format α) (body tail:List UInt8) :
 message fmt body++tail=fmt.attributeType::UInt8.ofNat fmt.attributeLength ::
  (lengthField fmt body++(body++0::0::tail)) := by
 simp[message,lengthField]

variable {fmt:Format α} {r:Reader κ α} {tail:List UInt8}

lemma readMessages_message {body:List UInt8} {seen seen':List κ} {found:List (Call κ α)}
 (htype:fmt.attributeType≠0)
 (hdispatch:dispatch fmt.attributeType (UInt8.ofNat fmt.attributeLength)
  (lengthField fmt body++(body++0::0::tail))=.vectors r (body++0::0::tail))
 (hread:readVectors r ((body++0::0::tail).length+1) seen (body++0::0::tail)=
  (found,.ok (seen',0::0::tail))) (fuel endmarks:Nat) :
 readMessages dispatch (fuel+1) endmarks seen (message fmt body++tail)=
  let m:=readMessages dispatch fuel 0 seen' (0::0::tail)
  (found++m.1,m.2) := by
 have hdata:lengthField fmt body++(body++0::0::tail)≠[]:=by simp
 rw[message_append,readMessages,if_neg hdata,if_neg (fun h=>htype h.1),hdispatch]
 simp only[hread]

variable {base:Nat} {calls:List (Attribute α) → List (Call κ α)}

lemma readMessages_end (fuel:Nat) (seen:List κ) :
 readMessages dispatch (fuel+2) 0 seen [0,0,0,0]=([],.ok ()) := by
 simp[readMessages]

section
variable (dispatch) (h:Proper fmt) (honce:r.once=fmt.lvaOnce) (htype:fmt.attributeType≠0)
 {sent:List (List (Attribute α))} (hsent:∀v∈sent,IsVector fmt v)
 (hback:∀v∈sent,ReadsBack fmt r calls v)
 (hroom:sent≠[] → cursorAfter fmt base sent+2 ≤ maxFrameSize) {lva:Bool}
include h honce htype hsent hback hroom

lemma readMessages_sent {seen:List κ} (hseen:lva=true → r.once=true → r.kind∉seen)
 (hdispatch:dispatch fmt.attributeType (UInt8.ofNat fmt.attributeLength)
  (lengthField fmt (bodyBytes fmt lva sent)++(bodyBytes fmt lva sent++0::0::tail))=
   .vectors r (bodyBytes fmt lva sent++0::0::tail)) (fuel endmarks:Nat) : ∃seen',(∀k∈seen',k=r.kind ∨ k∈seen) ∧
  readMessages dispatch (fuel+1) endmarks seen
   (message fmt (bodyBytes fmt lva sent)++tail)=
   let m:=readMessages dispatch fuel 0 seen' (0::0::tail)
   (vectorCalls fmt r.kind calls lva sent++m.1,m.2) := by
 obtain ⟨hshort,hfuel⟩:=@sent_bounds _ _ h base lva sent hsent hroom tail
 obtain ⟨seen',hsub,hread⟩:=readVectors_body honce
  (fun v hv=>⟨(hshort v hv).1,(hshort v hv).2,hback v hv⟩) hfuel hseen tail
 exact ⟨seen',hsub,readMessages_message htype hdispatch hread fuel endmarks⟩

lemma readMessages_single
 (hdispatch:dispatch fmt.attributeType (UInt8.ofNat fmt.attributeLength)
  (lengthField fmt (bodyBytes fmt lva sent)++(bodyBytes fmt lva sent++[0,0,0,0]))=
   .vectors r (bodyBytes fmt lva sent++[0,0,0,0])) :
 readMessages dispatch ((message fmt (bodyBytes fmt lva sent)++[0,0]).length+1) 0 []
  (message fmt (bodyBytes fmt lva sent)++[0,0])=(vectorCalls fmt r.kind calls lva sent,.ok ()) := by
 obtain ⟨seen,-,hread⟩:=readMessages_sent dispatch h honce htype hsent hback hroom
  (fun _ _=>List.not_mem_nil) hdispatch
  (message fmt (bodyBytes fmt lva sent)++[0,0]).length 0
 have hend:readMessages dispatch ((message fmt (bodyBytes fmt lva sent)).length+2) 0 seen
  [0,0,0,0]=([],.ok ()):=readMessages_end _ seen
 rw[hread]
 simp[hend]

end

lemma readMessages_endmark (fuel:Nat) (seen:List κ) (htail:tail≠[]) :
 readMessages dispatch (fuel+1) 0 seen (0::0::tail)=readMessages dispatch fuel 1 seen tail := by
 simp[readMessages,htail]

omit [DecidableEq κ] in
@[simp] lemma frameHeader_length {destaddr typelen:List UInt8} (hdest:destaddr.length=6)
 (htype:typelen.length=2) (station:BitVec 48) : (frameHeader destaddr typelen station).length=messageListAt := by
 simp[frameHeader,hdest,htype,messageListAt]

lemma parseFrame_header {destaddr typelen:List UInt8} (hdest:destaddr.length=6)
 (htype:typelen.length=2) (station:BitVec 48)
 (dispatch:UInt8 → UInt8 → UInt8 → List UInt8 → Dispatch κ α) {messages:List UInt8}
 (hlength:2 ≤ messages.length) :
 parseFrame destaddr typelen dispatch (frameHeader destaddr typelen station++messages)=
  readMessages (dispatch 0) (messages.length+1) 0 [] messages := by
 have hheader:=frameHeader_length hdest htype station
 have hnot:¬(frameHeader destaddr typelen station++messages).length<17:=by
  simp only[List.length_append,hheader,messageListAt]
  omega
 unfold parseFrame splitFrame
 rw[if_neg hnot]
 have h12:(frameHeader destaddr typelen station++messages).drop 12=typelen++0::messages:=by
  simp[frameHeader,List.drop_append,hdest]
 have h6:(frameHeader destaddr typelen station++messages).take 6=destaddr:=by
  simp[frameHeader,hdest]
 have h15:(frameHeader destaddr typelen station++messages).drop 15=messages:=by
  have:(15:Nat)=(frameHeader destaddr typelen station).length:=hheader.symm
  rw[this,List.drop_left]
 have h14:(frameHeader destaddr typelen station++messages).getD 14 0=0:=by
  have:(frameHeader destaddr typelen station++messages).getD 14 0=
   ((frameHeader destaddr typelen station++messages).drop 12).getD 2 0:=by
   simp
  rw[this,h12,←htype]
  simp
 simp only[h6,h12,h14,h15,←htype,List.take_left,ne_eq,not_true_eq_false,if_false]

end Frames

end OpenAvnu.MrpFraming
