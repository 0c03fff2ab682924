import Mathlib.Data.List.Forall2
import OpenAvnu.MrpVectors

/-!
# Messages and frames

A run that succeeds is the vectors it sent and those left because the frame was full.
-/

namespace OpenAvnu.MrpMessages

open PackedDigits Mrp MrpEncode MrpVectors List

variable {α:Type}

def placeAll (fmt:Format α) (eof:Nat) : Emission α → List (List (Attribute α)) → Emission α×Bool
 | st, []=>(st,true)
 | st, []::vectors=>placeAll fmt eof st vectors
 | st, (head::run)::vectors=>
  if eof ≤ st.ptr+fmt.vectorSize+2 then (st,true)
  else
   let v:=emitVector fmt eof st head run
   if v.2.2 then placeAll fmt eof v.1 vectors else (v.1,false)

section Loop
variable {fmt:Format α} {eof:Nat}

lemma emitVector_runOf (fmt:Format α) (eof:Nat) (st:Emission α) (head:Attribute α)
 (rest:List (Attribute α)) : (emitVector fmt eof st head rest).1=
  (emitVector fmt eof st head (runOf fmt head.value rest)).1 ∧
  (emitVector fmt eof st head rest).2.2=(emitVector fmt eof st head (runOf fmt head.value rest)).2.2 := by
 unfold emitVector
 cases ownEvent head with
 | none=>exact ⟨rfl,rfl⟩
 | some e=>
  obtain ⟨hpacker,hmembers,hok⟩:=growVector_runOf fmt eof (st.vec+2) head head.value
   (Packer.start e.code fmt.padding) [head] rest
  simp only[hpacker,hmembers,hok]
  constructor<;>(split<;>[rfl;skip])<;>(split<;>[rfl;skip])<;>split<;>rfl

lemma vectorsFrom_cleared (cleared rest:List (Attribute α)) :
 vectorsFrom fmt 0 (cleared.map (setTx false)++rest)=vectorsFrom fmt 0 rest := by
 induction cleared with
 | nil=>rfl
 | cons a cleared ih=>simpa[vectorsFrom] using ih
lemma vectorsFrom_drop (skip:Nat) (rest:List (Attribute α)) :
 vectorsFrom fmt skip rest=vectorsFrom fmt 0 (rest.drop skip) := by
 induction skip generalizing rest with
 | zero=>rfl
 | succ skip ih=>cases rest<;>simp[vectorsFrom,ih]
lemma placeAll_full {st:Emission α} (hfull:eof ≤ st.ptr+fmt.vectorSize+2)
 (vectors:List (List (Attribute α))) : placeAll fmt eof st vectors=(st,true) := by
 induction vectors with
 | nil=>rfl
 | cons v vectors ih=>cases v<;>simp[placeAll,hfull,ih]

lemma emitVector_of_ok (h:Proper fmt) {st:Emission α} {head:Attribute α}
 {rest:List (Attribute α)} (hselects:fmt.selects head.value=true)
 (hok:(emitVector fmt eof st head rest).2.2=true) : Sendable fmt (head::runOf fmt head.value rest) ∧
  VectorFits fmt eof st.vec ((runOf fmt head.value rest).length+1) ∧
  emitVector fmt eof st head rest=(placed fmt st (head::runOf fmt head.value rest),
    (runOf fmt head.value rest).map (setTx false)++rest.drop (runOf fmt head.value rest).length,true) := by
 by_contra hnot
 have hfits:¬(Sendable fmt (head::runOf fmt head.value rest) ∧
  VectorFits fmt eof st.vec ((runOf fmt head.value rest).length+1)):=
  fun hboth=>hnot ⟨hboth.1,hboth.2,emitVector_eq_placed h hselects hboth.1 hboth.2⟩
 rw[emitVector_fails h hfits] at hok
 cases hok

lemma runOf_length_le (fmt:Format α) (last:α) (rest:List (Attribute α)) :
 (runOf fmt last rest).length ≤ rest.length := by
 induction rest generalizing last with
 | nil=>exact Nat.le_refl _
 | cons v rest ih=>
  unfold runOf
  split
  · exact Nat.succ_le_succ (ih _)
  · exact Nat.zero_le _

lemma emitLoop_eq_placeAll (h:Proper fmt) (eof:Nat) {fuel:Nat}
 {todo:List (Attribute α)} (hfuel:todo.length≤fuel) (st:Emission α) :
 ((emitLoop fmt eof fuel st todo).1,(emitLoop fmt eof fuel st todo).2.2)=
  placeAll fmt eof st (vectorsFrom fmt 0 todo) := by
 induction fuel generalizing todo st with
 | zero=>
  have:todo=[]:=length_eq_zero_iff.1 (Nat.le_zero.1 hfuel)
  subst this
  rfl
 | succ fuel ih=>
  cases todo with
  | nil=>rfl
  | cons a rest=>
   have hrest:rest.length≤fuel:=by simpa using hfuel
   unfold emitLoop
   by_cases hfull:eof ≤ st.ptr+fmt.vectorSize+2
   · rw[if_pos hfull,placeAll_full hfull]
   rw[if_neg hfull]
   by_cases hskip:(!fmt.selects a.value||!a.applicant.tx)=true
   · have hvectors:vectorsFrom fmt 0 (a::rest)=vectorsFrom fmt 0 rest:=by
      rw[vectorsFrom]
      simp only[Bool.or_eq_true,Bool.not_eq_true'] at hskip
      rcases hskip with hs|hs<;>simp[hs]
     rw[if_pos hskip,hvectors]
     exact ih hrest st
   rw[if_neg hskip]
   simp only[Bool.or_eq_true,Bool.not_eq_true',not_or,Bool.not_eq_false] at hskip
   obtain ⟨hselects,htx⟩:=hskip
   by_cases hoptional:a.applicant.encode=.OPTIONAL
   · have hvectors:vectorsFrom fmt 0 (a::rest)=vectorsFrom fmt 0 rest:=by
      rw[vectorsFrom]
      simp[hoptional]
     rw[if_pos hoptional,hvectors]
     exact ih hrest st
   rw[if_neg hoptional]
   have hyes:a.applicant.encode=.YES:=by
    cases hencode:a.applicant.encode
    · rfl
    · exact absurd hencode hoptional
   have hvectors:vectorsFrom fmt 0 (a::rest)=(a::runOf fmt a.value rest) ::
     vectorsFrom fmt 0 (rest.drop (runOf fmt a.value rest).length):=by
    rw[vectorsFrom,if_pos (by simp[hselects,htx,hyes]),vectorsFrom_drop]
   obtain ⟨hstate,hflag⟩:=emitVector_runOf fmt eof st a rest
   rw[hvectors,placeAll,if_neg hfull]
   dsimp only
   rw[←hstate,←hflag]
   by_cases hok:(emitVector fmt eof st a rest).2.2=true
   · obtain ⟨-,-,hv⟩:=emitVector_of_ok h hselects hok
     have hlength:(emitVector fmt eof st a rest).2.1.length≤fuel:=by
      have:=runOf_length_le fmt a.value rest
      simp only[hv,length_append,length_map,length_drop]
      omega
     have htail:vectorsFrom fmt 0 (emitVector fmt eof st a rest).2.1=
      vectorsFrom fmt 0 (rest.drop (runOf fmt a.value rest).length):=by
      rw[hv,vectorsFrom_cleared]
     simp only[hok,←htail]
     exact ih hlength _
   · simp[hok]

def IsVector (fmt:Format α) : List (Attribute α) → Prop
 | []=>False
 | head::run=>
  fmt.selects head.value=true ∧ head.applicant.tx=true ∧
   head.applicant.encode=.YES ∧ runOf fmt head.value run=run

lemma vectorsFrom_isVector (fmt:Format α) (skip:Nat) (l:List (Attribute α)) :
 ∀v∈vectorsFrom fmt skip l,IsVector fmt v := by
 induction l generalizing skip with
 | nil=>cases skip<;>simp[vectorsFrom]
 | cons a rest ih=>
  cases skip with
  | succ skip=>simpa[vectorsFrom] using ih skip
  | zero=>
   unfold vectorsFrom
   split
   · next hstart=>
      simp only[Bool.and_eq_true,decide_eq_true_eq] at hstart
      intro v hv
      rcases mem_cons.1 hv with rfl|hv
      · exact ⟨hstart.1.1,hstart.1.2,hstart.2,runOf_runOf a.value rest⟩
      · exact ih _ v hv
   · exact ih 0

lemma runOf_sublist (fmt:Format α) (last:α) (rest:List (Attribute α)) :
 rest=runOf fmt last rest++rest.drop (runOf fmt last rest).length := by
 induction rest generalizing last with
 | nil=>rfl
 | cons v rest ih=>
  unfold runOf
  split
  · rw[cons_append,length_cons,drop_succ_cons,←ih]
  · rfl

lemma vectorsFrom_sublist (fmt:Format α) (skip:Nat) (l:List (Attribute α)) :
 (vectorsFrom fmt skip l).flatten.Sublist (l.drop skip) := by
 induction l generalizing skip with
 | nil=>cases skip<;>simp[vectorsFrom]
 | cons a rest ih=>
  cases skip with
  | succ skip=>simpa[vectorsFrom] using ih skip
  | zero=>
   unfold vectorsFrom
   split
   · refine Sublist.cons_cons a ?_
     conv_rhs=>rw[runOf_sublist fmt a.value rest]
     exact Sublist.append_left (ih _) _
   · exact (ih 0).cons a

def mandatory (fmt:Format α) (a:Attribute α) : Bool :=
 fmt.selects a.value&&a.applicant.tx&&a.applicant.encode=.YES

lemma vectorsFrom_mandatory (fmt:Format α) (skip:Nat) (l:List (Attribute α)) :
 ((l.drop skip).filter (mandatory fmt)).Sublist (vectorsFrom fmt skip l).flatten := by
 induction l generalizing skip with
 | nil=>simp
 | cons b rest ih=>
  cases skip with
  | succ skip=>simpa[vectorsFrom] using ih skip
  | zero=>
   rw[drop_zero,vectorsFrom]
   split
   · next hstart=>
      have hb:mandatory fmt b=true:=hstart
      rw[filter_cons_of_pos hb]
      refine Sublist.cons_cons b ?_
      conv_lhs=>rw[runOf_sublist fmt b.value rest,filter_append]
      exact Sublist.append filter_sublist (ih _)
   · next hstart=>
      have hb:¬mandatory fmt b=true:=hstart
      rw[filter_cons_of_neg hb]
      exact ih 0

def placedAll (fmt:Format α) (st:Emission α) (sent:List (List (Attribute α))) : Emission α :=
 sent.foldl (placed fmt) st
def totalLength (fmt:Format α) (sent:List (List (Attribute α))) : Nat :=
 (sent.map fun v=>vectorLength fmt v.length).sum
def bodyBytes (fmt:Format α) : Bool → List (List (Attribute α)) → List UInt8
 | _, []=>[]
 | lva, v::sent=>vectorBytes fmt lva v++bodyBytes fmt (lva&&!fmt.lvaOnce) sent

section
variable (fmt:Format α) (st:Emission α) (sent:List (List (Attribute α)))

lemma placedAll_vec : (placedAll fmt st sent).vec=st.vec+totalLength fmt sent := by
 induction sent generalizing st with
 | nil=>rfl
 | cons v sent ih=>
  have hsum:totalLength fmt (v::sent)=vectorLength fmt v.length+totalLength fmt sent:=by
   simp[totalLength]
  have:=ih (placed fmt st v)
  change (placedAll fmt (placed fmt st v) sent).vec=_
  rw[this]
  simp only[placed]
  omega

lemma placedAll_body : (placedAll fmt st sent).body=st.body++bodyBytes fmt st.lva sent := by
 induction sent generalizing st with
 | nil=>simp[placedAll,bodyBytes]
 | cons v sent ih=>
  change (placedAll fmt (placed fmt st v) sent).body=_
  rw[ih,bodyBytes]
  simp[placed]

lemma placedAll_encoded : (placedAll fmt st sent).encoded=st.encoded++sent := by
 induction sent generalizing st with
 | nil=>simp[placedAll]
 | cons v sent ih=>
  change (placedAll fmt (placed fmt st v) sent).encoded=_
  rw[ih]
  simp[placed]

end

lemma placedAll_cons (fmt:Format α) (st:Emission α) (v:List (Attribute α))
 (sent:List (List (Attribute α))) : (placedAll fmt st (v::sent)).ptr=(placedAll fmt st (v::sent)).vec ∧
  (placedAll fmt st (v::sent)).found=true ∧
  (placedAll fmt st (v::sent)).reach=max st.reach (placedAll fmt st (v::sent)).vec := by
 induction sent generalizing st v with
 | nil=>exact ⟨rfl,rfl,rfl⟩
 | cons w sent ih=>
  obtain ⟨hptr,hfound,hreach⟩:=ih (placed fmt st v) w
  refine ⟨hptr,hfound,?_⟩
  change (placedAll fmt (placed fmt st v) (w::sent)).reach=
   max st.reach (placedAll fmt (placed fmt st v) (w::sent)).vec
  rw[hreach,placedAll_vec fmt]
  simp only[placed]
  omega

def RunsFit (fmt:Format α) (eof:Nat) : Nat → List (List (Attribute α)) → Prop
 | _, []=>True
 | vec, v::vectors=>
  (v.length=1 ∨ vec+2+fmt.eventsAt+v.length/3+fmt.runSlack≤eof) ∧
   RunsFit fmt eof (vec+vectorLength fmt v.length) vectors

structure Placement (fmt:Format α) (eof:Nat) (st:Emission α)
 (vectors sent left:List (List (Attribute α))) (result:Emission α) : Prop where
 split:vectors=sent++left
 result_eq:result=placedAll fmt st sent
 full:left≠[] → eof ≤ result.ptr+fmt.vectorSize+2
 sendable:∀v∈sent,Sendable fmt v
 room:sent≠[] → result.vec+2≤eof
 runs:RunsFit fmt eof st.vec sent

lemma placeAll_placement (h:Proper fmt) {st:Emission α}
 {vectors:List (List (Attribute α))} (hvectors:∀v∈vectors,IsVector fmt v)
 (hok:(placeAll fmt eof st vectors).2=true) :
 ∃sent left,Placement fmt eof st vectors sent left (placeAll fmt eof st vectors).1 := by
 induction vectors generalizing st with
 | nil=>exact ⟨[],[],rfl,rfl,by simp,by simp,by simp,trivial⟩
 | cons v vectors ih=>
  cases v with
  | nil=>exact (hvectors [] mem_cons_self).elim
  | cons head run=>
   obtain ⟨hselects,-,-,hrun⟩:=hvectors _ mem_cons_self
   by_cases hfull:eof ≤ st.ptr+fmt.vectorSize+2
   · rw[placeAll_full hfull]
     exact ⟨[],_,rfl,rfl,fun _=>hfull,by simp,by simp,trivial⟩
   simp only[placeAll,if_neg hfull] at hok ⊢
   by_cases hvector:(emitVector fmt eof st head run).2.2=true
   swap
   · simp[hvector] at hok
   obtain ⟨hsend,hfits,hv⟩:=emitVector_of_ok h hselects hvector
   rw[hrun] at hsend hfits hv
   simp only[hv,if_true] at hok ⊢
   obtain ⟨sent,left,hsplit,hresult,hleft,hall,hroom,hruns⟩:=
    ih (fun w hw=>hvectors w (mem_cons_of_mem _ hw)) hok
   refine ⟨(head::run)::sent,left,by rw[hsplit];rfl,hresult,hleft,?_,?_,hfits.run,hruns⟩
   · intro w hw
     rcases mem_cons.1 hw with rfl|hw
     · exact hsend
     · exact hall w hw
   · intro _
     cases sent with
     | nil=>
      rw[hresult]
      exact hfits.last
     | cons w sent=>exact hroom (by simp)

end Loop

lemma bodyBytes_length {fmt:Format α} (h:Proper fmt) (lva:Bool)
 {sent:List (List (Attribute α))} (hsent:∀v∈sent,IsVector fmt v) :
 (bodyBytes fmt lva sent).length=totalLength fmt sent := by
 induction sent generalizing lva with
 | nil=>rfl
 | cons v sent ih=>
  cases v with
  | nil=>exact (hsent [] mem_cons_self).elim
  | cons head run=>
   have hselects:=(hsent _ mem_cons_self).1
   rw[bodyBytes,length_append,vectorBytes_length h lva run hselects,
    ih _ fun w hw=>hsent w (mem_cons_of_mem _ hw)]
   simp[totalLength]

def messageFor (fmt:Format α) (lva flag:Bool) (sent:List (List (Attribute α))) : List UInt8 :=
 if sent≠[] then message fmt (bodyBytes fmt lva sent)
 else if flag&&fmt.emptyLeaveAll then
  message fmt (vectorHeader 0 true++List.replicate fmt.attributeLength 0)
 else []
def cursorAfter (fmt:Format α) (base:Nat) (sent:List (List (Attribute α))) : Nat :=
 if sent≠[] then dataAt fmt base+totalLength fmt sent else base

structure Encodes (fmt:Format α) (eof base:Nat) (lva flag:Bool) (l:List (Attribute α))
 (sent left:List (List (Attribute α))) (out:Emitted α) : Prop where
 split:vectorsFrom fmt 0 l=sent++left
 encoded:out.encoded=sent
 bytes:out.bytes=messageFor fmt lva flag sent
 sendable:∀v∈sent,Sendable fmt v
 entry:base+fmt.vectorSize≤eof
 room:sent≠[] → cursorAfter fmt base sent+2≤eof
 full:left≠[] → eof ≤ cursorAfter fmt base sent+fmt.vectorSize+2
 reach:out.reach=if out.bytes=[] then base+2 else base+out.bytes.length
 runs:RunsFit fmt eof (dataAt fmt base) sent

variable (fmt:Format α) (base:Nat) (body:List UInt8)

lemma dataAt_le : base+2≤dataAt fmt base := by
 unfold dataAt
 split<;>omega
lemma message_length : base+(message fmt body).length=dataAt fmt base+body.length+2 := by
 unfold message dataAt
 split<;>simp<;>omega
lemma message_ne_nil : message fmt body≠[] := by
 simp[message]

section Message
variable {fmt:Format α} {eof base:Nat} {lva flag:Bool} {l:List (Attribute α)}

lemma totalLength_pos {sent:List (List (Attribute α))} (hne:sent≠[]) : 0<totalLength fmt sent := by
 cases sent with
 | nil=>exact absurd rfl hne
 | cons v sent=>
  simp only[totalLength,map_cons,sum_cons,vectorLength]
  omega

lemma emitVectors_of_ok (h:Proper fmt)
 (hok:(emitVectors fmt eof base lva flag l).ok=true) :
 ∃sent left,Encodes fmt eof base lva flag l sent left (emitVectors fmt eof base lva flag l) := by
 have hloop:=emitLoop_eq_placeAll h eof (Nat.le_refl l.length)
  ⟨base,dataAt fmt base,[],lva,false,base+2,[]⟩
 have hvectors:=vectorsFrom_isVector fmt 0 l
 unfold emitVectors at hok ⊢
 split at hok
 · cases hok
 next hentry=>
 rw[if_neg hentry]
 dsimp only at hok ⊢
 split at hok
 · cases hok
 next hflag=>
 rw[if_neg hflag]
 rw[Bool.not_eq_true,Bool.not_eq_false'] at hflag
 obtain ⟨sent,left,hsplit,hresult,hfull,hsend,hroom,hruns⟩:=
  placeAll_placement h hvectors (by rw[←hloop];exact hflag)
 rw[←hloop] at hresult hfull hroom
 dsimp only at hresult hfull hroom
 have hentry:base+fmt.vectorSize≤eof:=by omega
 refine ⟨sent,left,?_⟩
 cases sent with
 | nil=>
  have hstate:(emitLoop fmt eof l.length
   ⟨base,dataAt fmt base,[],lva,false,base+2,[]⟩ l).1=⟨base,dataAt fmt base,[],lva,false,base+2,[]⟩:=hresult
  rw[hstate] at hfull ⊢
  by_cases hempty:(flag&&fmt.emptyLeaveAll)=true
  · have hne:dataAt fmt base+2+fmt.attributeLength≠dataAt fmt base:=by omega
    have hlength:=message_length fmt base
     (vectorHeader 0 true++replicate fmt.attributeLength 0)
    simp only[length_append,vectorHeader_length,length_replicate] at hlength
    have hdata:=dataAt_le fmt base
    refine ⟨hsplit,?_,?_,by simp,hentry,by simp,hfull,?_,trivial⟩
    · simp[emitEmptyLeaveAll,hempty,hne]
    · simp[emitEmptyLeaveAll,hempty,hne,messageFor]
    · simp only[emitEmptyLeaveAll,Bool.not_false,Bool.true_and,hempty,if_true,if_neg hne,
       touch_reach,nil_append,if_neg (message_ne_nil fmt _)]
      simp only[OfNat.ofNat_ne_zero,if_false]
      omega
  · refine ⟨hsplit,?_,?_,by simp,hentry,by simp,hfull,?_,trivial⟩
    · simp[emitEmptyLeaveAll,hempty]
    · simp[emitEmptyLeaveAll,hempty,messageFor]
    · simp[emitEmptyLeaveAll,hempty]
 | cons v sent=>
  have hpos:0<totalLength fmt (v::sent):=totalLength_pos (by simp)
  have hvec:=placedAll_vec fmt
   ⟨base,dataAt fmt base,[],lva,false,base+2,[]⟩ (v::sent)
  have hbody:=placedAll_body fmt
   ⟨base,dataAt fmt base,[],lva,false,base+2,[]⟩ (v::sent)
  have hencoded:=placedAll_encoded fmt
   ⟨base,dataAt fmt base,[],lva,false,base+2,[]⟩ (v::sent)
  obtain ⟨hptr,hfound,hreach⟩:=placedAll_cons fmt
   ⟨base,dataAt fmt base,[],lva,false,base+2,[]⟩ v sent
  have hsent:∀w∈v::sent,IsVector fmt w:=fun w hw=>
   hvectors w (by rw[hsplit];exact mem_append_left _ hw)
  have hbodyLength:=bodyBytes_length h lva hsent
  have hlength:=message_length fmt base (bodyBytes fmt lva (v::sent))
  have hdata:=dataAt_le fmt base
  rw[←hresult] at hvec hbody hencoded hptr hfound hreach
  have hnot:emitEmptyLeaveAll fmt flag (emitLoop fmt eof l.length
   ⟨base,dataAt fmt base,[],lva,false,base+2,[]⟩ l).1=(emitLoop fmt eof l.length
    ⟨base,dataAt fmt base,[],lva,false,base+2,[]⟩ l).1:=by
   simp[emitEmptyLeaveAll,hfound]
  have hcursor:cursorAfter fmt base (v::sent)=dataAt fmt base+totalLength fmt (v::sent):=by simp[cursorAfter]
  have hne:dataAt fmt base+totalLength fmt (v::sent)≠dataAt fmt base:=by omega
  simp only[nil_append] at hvec hbody hencoded hreach
  rw[hnot,hvec,if_neg hne]
  refine ⟨hsplit,hencoded,?_,hsend,hentry,?_,?_,?_,hruns⟩
  · simp[hbody,messageFor]
  · intro hs
    have:=hroom hs
    omega
  · intro hl
    have:=hfull hl
    omega
  · rw[if_neg (message_ne_nil fmt _),hbody,touch_reach]
    simp only[OfNat.ofNat_ne_zero,if_false]
    omega

section Encoded
variable {sent left:List (List (Attribute α))} {out:Emitted α}

section
variable (h:Encodes fmt eof base lva flag l sent left out)
include h

lemma Encodes.sublist : (sent.flatten++left.flatten).Sublist l := by
 have:=vectorsFrom_sublist fmt 0 l
 rwa[h.split,flatten_append] at this
lemma Encodes.sent_sublist : sent.flatten.Sublist l := (sublist_append_left _ _).trans h.sublist
lemma Encodes.isVector : ∀v∈sent,IsVector fmt v := by
 intro v hv
 apply vectorsFrom_isVector fmt 0 l
 rw[h.split]
 exact mem_append_left _ hv

end

variable {v:List (Attribute α)}

lemma IsVector.ne_nil (h:IsVector fmt v) : v≠[] := by
 rintro rfl
 exact h

lemma runOf_selects {last:α} {rest:List (Attribute α)} : ∀a∈runOf fmt last rest,fmt.selects a.value=true := by
 induction rest generalizing last with
 | nil=>simp[runOf]
 | cons v rest ih=>
  unfold runOf
  split
  · next hstart=>
     simp only[Bool.and_eq_true] at hstart
     intro a ha
     rcases mem_cons.1 ha with rfl|ha
     · exact hstart.1.1
     · exact ih a ha
  · simp

lemma IsVector.selects (h:IsVector fmt v) : ∀a∈v,fmt.selects a.value=true := by
 cases v with
 | nil=>exact h.elim
 | cons head run=>
  obtain ⟨hselects,-,-,hrun⟩:=h
  intro a ha
  rcases mem_cons.1 ha with rfl|ha
  · exact hselects
  · rw[←hrun] at ha
    exact runOf_selects a ha

variable (h:Encodes fmt eof base lva flag l sent left out)
include h

lemma Encodes.flatten_ne_nil
 (hne:sent≠[]) : sent.flatten≠[] := by
 intro hflatten
 obtain ⟨v,hv⟩:=exists_mem_of_ne_nil sent hne
 exact (h.isVector v hv).ne_nil (flatten_eq_nil_iff.1 hflatten v hv)
lemma Encodes.bytes_length
 (hproper:Proper fmt) (hne:sent≠[]) : base+out.bytes.length=cursorAfter fmt base sent+2 := by
 have:=message_length fmt base (bodyBytes fmt lva sent)
 rw[bodyBytes_length hproper lva h.isVector] at this
 rw[h.bytes,messageFor,if_pos hne,this,cursorAfter,if_pos hne]

lemma Encodes.covers {a:Attribute α}
 (ha:a∈l) (hselects:fmt.selects a.value=true) (htx:a.applicant.tx=true)
 (hencode:a.applicant.encode=.YES) : a∈sent.flatten ∨ a∈left.flatten := by
 have hmem:a∈l.filter (mandatory fmt):=
  mem_filter.2 ⟨ha,by simp[mandatory,hselects,htx,hencode]⟩
 have:=(vectorsFrom_mandatory fmt 0 l).subset hmem
 rwa[h.split,flatten_append,mem_append] at this

end Encoded

lemma own_of_sendable (hjoins:fmt.joinsByHead=false) {v:List (Attribute α)}
 (h:Sendable fmt v) : ∀a∈v,(ownEvent a).isSome=true := by
 cases v with
 | nil=>simp
 | cons head run=>
  intro a ha
  rcases mem_cons.1 ha with rfl|ha
  · exact h.1
  · simpa[runEvent,hjoins] using h.2 a ha

end Message

end OpenAvnu.MrpMessages

/-! ## Building a frame -/

namespace OpenAvnu.MrpFrames

open PackedDigits Mrp MrpEncode MrpVectors MrpMessages List

variable {α:Type}

section AttributeList
variable {fmt:Format α} {eof:Nat}

def OnlyTx (l l':List (Attribute α)) : Prop := l'.map (setTx false)=l.map (setTx false)
lemma OnlyTx.refl (l:List (Attribute α)) : OnlyTx l l := rfl

variable {l'':List (Attribute α)}

lemma OnlyTx.trans {l l':List (Attribute α)} (h:OnlyTx l l') (h':OnlyTx l' l'') : OnlyTx l l'' := Eq.trans h' h

variable {l l':List (Attribute α)}

lemma OnlyTx.map_eq {β:Type} (h:OnlyTx l l') (f:Attribute α → β)
 (hf:∀a,f (setTx false a)=f a) : l'.map f=l.map f := by
 have hcomp:f ∘ setTx false=f:=funext hf
 have:=congrArg (List.map f) h
 rwa[map_map,map_map,hcomp] at this

/-- `l'` is `l` with some of the selected attributes' `tx` flags cleared. -/
def Touches (selects:α → Bool) (l l':List (Attribute α)) : Prop :=
 List.Forall₂ (fun a b=>b=a ∨ (selects a.value=true ∧ b=setTx false a)) l l'
lemma Touches.refl (selects:α → Bool) (l:List (Attribute α)) : Touches selects l l := by
 induction l with
 | nil=>exact .nil
 | cons a l ih=>exact List.Forall₂.cons (.inl rfl) ih

variable {selects:α → Bool}

lemma Touches.keep (a:Attribute α) (h:Touches selects l l') : Touches selects (a::l) (a::l') :=
 List.Forall₂.cons (.inl rfl) h
lemma Touches.clear {a:Attribute α} (ha:selects a.value=true) (h:Touches selects l l') :
 Touches selects (a::l) (setTx false a::l') := List.Forall₂.cons (.inr ⟨ha,rfl⟩) h

lemma Touches.onlyTx (h:Touches selects l l') : OnlyTx l l' := by
 induction h with
 | nil=>rfl
 | cons hab _ ih=>
  refine congrArg₂ List.cons ?_ ih
  rcases hab with rfl|⟨-,rfl⟩<;>rfl

lemma Touches.forall_mem {P:Attribute α → Prop} (h:Touches selects l l')
 (hclear:∀a,selects a.value=true → P a → P (setTx false a)) (hall:∀a∈l,P a) : ∀b∈l',P b := by
 induction h with
 | nil=>simp
 | cons hab _ ih=>
  rw[List.forall_mem_cons] at hall ⊢
  refine ⟨?_,ih hall.2⟩
  rcases hab with rfl|⟨ha,rfl⟩
  · exact hall.1
  · exact hclear _ ha hall.1

lemma growVector_touches (fmt:Format α) (eof fv:Nat) (head:Attribute α) (last:α)
 (packer:Packer) (members rest:List (Attribute α)) :
 Touches fmt.selects rest (growVector fmt eof fv head last packer members rest).rest := by
 induction rest generalizing last packer members with
 | nil=>exact .nil
 | cons v rest ih=>
  rcases growVector_cons fmt eof fv head last packer members v rest with
   ⟨-,hg⟩ | ⟨hrun,hcases⟩
  · rw[hg]
    exact .refl _ _
  have hselects:fmt.selects v.value=true:=
   runOf_selects v (by rw[hrun];exact mem_cons_self)
  rcases hcases with ⟨-,hg⟩|⟨e,-,⟨-,hg⟩|⟨-,hg⟩⟩
  · rw[hg]
    exact .clear hselects (.refl _ _)
  · rw[hg]
    exact .clear hselects (.refl _ _)
  · rw[hg]
    exact .clear hselects (ih _ _ _)

lemma emitVector_touches (st:Emission α) (head:Attribute α) (rest:List (Attribute α)) :
 Touches fmt.selects rest (emitVector fmt eof st head rest).2.1 := by
 unfold emitVector
 cases ownEvent head with
 | none=>exact .refl _ _
 | some e=>
  have hrest:=growVector_touches fmt eof (st.vec+2) head head.value
   (Packer.start e.code fmt.padding) [head] rest
  dsimp only
  split
  · exact hrest
  split
  · exact hrest
  split<;>exact hrest

lemma Touches.trans {l l':List (Attribute α)} (h:Touches selects l l')
 (h':Touches selects l' l'') : Touches selects l l'' := by
 induction h generalizing l'' with
 | nil=>exact h'
 | cons hab _ ih=>
  cases h' with
  | cons hbc hrest=>
   refine List.Forall₂.cons ?_ (ih hrest)
   rcases hab with rfl|⟨ha,rfl⟩
   · exact hbc
   · rcases hbc with rfl|⟨-,rfl⟩<;>exact .inr ⟨ha,rfl⟩

lemma emitLoop_touches (fuel:Nat) (st:Emission α) (todo:List (Attribute α)) :
 Touches fmt.selects todo (emitLoop fmt eof fuel st todo).2.1 := by
 induction fuel generalizing st todo with
 | zero=>exact .refl _ _
 | succ fuel ih=>
  cases todo with
  | nil=>exact .nil
  | cons a rest=>
   unfold emitLoop
   split
   · exact .refl _ _
   split
   · exact .keep a (ih _ _)
   next hskip=>
   have hselects:fmt.selects a.value=true:=by
    simp only[Bool.or_eq_true,Bool.not_eq_true',not_or,Bool.not_eq_false] at hskip
    exact hskip.1
   split
   · exact .clear hselects (ih _ _)
   dsimp only
   split
   · exact .clear hselects ((emitVector_touches _ _ _).trans (ih _ _))
   · exact .clear hselects (emitVector_touches _ _ _)

lemma emitVectors_touches (base:Nat) (lva flag:Bool) (l:List (Attribute α)) :
 Touches fmt.selects l (emitVectors fmt eof base lva flag l).attribList := by
 unfold emitVectors
 split
 · exact .refl _ _
 dsimp only
 split
 · exact emitLoop_touches _ _ _
 split<;>exact emitLoop_touches _ _ _

lemma vectorsFrom_unselected
 (h:List.Forall₂
  (fun a b=>b=a ∨ (fmt.selects a.value=false ∧ fmt.selects b.value=false)) l l')
 (skip:Nat) : vectorsFrom fmt skip l'=vectorsFrom fmt skip l := by
 have hrun:∀{l l':List (Attribute α)},List.Forall₂ (fun a b=>b=a ∨
  (fmt.selects a.value=false ∧ fmt.selects b.value=false)) l l' → ∀last,
  runOf fmt last l'=runOf fmt last l:=by
  intro l l' h
  induction h with
  | nil=>intro;rfl
  | cons hab _ ih=>
   intro last
   rcases hab with rfl|⟨ha,hb⟩
   · simp only[runOf,ih]
   · simp[runOf,ha,hb]
 induction h generalizing skip with
 | nil=>rfl
 | cons hab hrest ih=>
  cases skip with
  | succ skip=>simpa[vectorsFrom] using ih skip
  | zero=>
   rcases hab with rfl|⟨ha,hb⟩
   · simp only[vectorsFrom,hrun hrest,ih]
   · simp[vectorsFrom,ha,hb,ih]

lemma vectorsFrom_touches (hdisjoint:∀v,fmt.selects v=true → selects v=false)
 (h:Touches selects l l') (skip:Nat) : vectorsFrom fmt skip l'=vectorsFrom fmt skip l := by
 refine vectorsFrom_unselected (h.imp ?_) skip
 rintro a b (rfl|⟨ha,rfl⟩)
 · exact .inl rfl
 · have hnot:fmt.selects a.value=false:=by
    by_contra hs
    rw[hdisjoint _ (by simpa using hs)] at ha
    cases ha
   exact .inr ⟨hnot,hnot⟩

end AttributeList

variable {b:Building α} {emit:Nat → List (Attribute α) → Emitted α} {messages:List UInt8}
 (l:List (Attribute α)) {out:List UInt8}

@[simp] lemma start_messages : (Building.start l).messages=some [] := rfl
@[simp] lemma start_attribList : (Building.start l).attribList=l := rfl
@[simp] lemma start_encoded : (Building.start l).encoded=[] := rfl
lemma append_of_ok (hmessages:b.messages=some messages)
 (hok:(emit (messageListAt+messages.length) b.attribList).ok=true) : b.append emit=
  let e:=emit (messageListAt+messages.length) b.attribList
  ⟨some (messages++e.bytes),e.attribList,max b.reach e.reach,b.encoded++e.encoded⟩ := by
 simp[Building.append,hmessages,hok]
lemma append_of_fail (hmessages:b.messages=some messages)
 (hok:(emit (messageListAt+messages.length) b.attribList).ok=false) : b.append emit=
  let e:=emit (messageListAt+messages.length) b.attribList
  ⟨none,e.attribList,max b.reach e.reach,[]⟩ := by
 simp[Building.append,hmessages,hok]
lemma append_of_none (hmessages:b.messages=none) : b.append emit=b := by
 simp[Building.append,hmessages]

lemma append_list {R:List (Attribute α) → List (Attribute α) → Prop} (hrefl:∀l,R l l)
 (hemit:∀base l,R l (emit base l).attribList) : R b.attribList (b.append emit).attribList := by
 cases hmessages:b.messages with
 | none=>rw[append_of_none hmessages];exact hrefl _
 | some messages=>
  cases hok:(emit (messageListAt+messages.length) b.attribList).ok with
  | false=>rw[append_of_fail hmessages hok];exact hemit _ _
  | true=>rw[append_of_ok hmessages hok];exact hemit _ _

lemma append_congr {emit':Nat → List (Attribute α) → Emitted α}
 (hsame:∀base,emit base b.attribList=emit' base b.attribList) : b.append emit=b.append emit' := by
 unfold Building.append
 simp only[hsame]
@[simp] lemma requireRoom_attribList : b.requireRoom.attribList=b.attribList := by
 unfold Building.requireRoom
 split
 · rfl
 · split<;>rfl

lemma append_messages (hout:(b.append emit).messages=some out) : ∃messages,b.messages=some messages ∧
  (emit (messageListAt+messages.length) b.attribList).ok=true ∧
  out=messages++(emit (messageListAt+messages.length) b.attribList).bytes ∧
  (b.append emit).attribList=(emit (messageListAt+messages.length) b.attribList).attribList ∧
  (b.append emit).encoded=b.encoded++(emit (messageListAt+messages.length) b.attribList).encoded := by
 cases hmessages:b.messages with
 | none=>
  rw[append_of_none hmessages,hmessages] at hout
  cases hout
 | some messages=>
  cases hok:(emit (messageListAt+messages.length) b.attribList).ok with
  | false=>
   rw[append_of_fail hmessages hok] at hout
   cases hout
  | true=>
   rw[append_of_ok hmessages hok] at hout ⊢
   exact ⟨messages,rfl,hok,(Option.some.inj hout).symm,rfl,rfl⟩

lemma requireRoom_messages (hout:b.requireRoom.messages=some out) : b.requireRoom=b ∧ b.messages=some out ∧
  messageListAt+out.length+2 < maxFrameSize := by
 unfold Building.requireRoom at hout ⊢
 cases hmessages:b.messages with
 | none=>simp[hmessages] at hout
 | some messages=>
  simp only[hmessages] at hout ⊢
  split at hout
  · cases hout
  next hroom=>
  rw[hmessages] at hout
  cases hout
  exact ⟨by rw[if_neg hroom],rfl,by omega⟩

lemma frame_eq_some {header frame:List UInt8} (hframe:b.frame header=some frame) :
 ∃messages,b.messages=some messages ∧ messages≠[] ∧
  messageListAt+messages.length+2 < maxFrameSize ∧
  frame=header++(messages++[0,0]) := by
 unfold Building.frame at hframe
 cases hmessages:b.messages with
 | none=>simp[hmessages] at hframe
 | some messages=>
  simp only[hmessages] at hframe
  split at hframe
  · cases hframe
  next hne=>
  split at hframe
  · next hroom=>
     refine ⟨messages,rfl,hne,hroom,?_⟩
     rw[←append_assoc]
     exact (Option.some.inj hframe).symm
  · cases hframe

lemma frame_of_messages (header:List UInt8) (hmessages:b.messages=some messages)
 (hne:messages≠[]) (hroom:messageListAt+messages.length+2 < maxFrameSize) :
 b.frame header=some (header++messages++[0,0]) := by
 simp[Building.frame,hmessages,hne,hroom]

end OpenAvnu.MrpFrames
