import Mathlib.Data.List.Perm.Subperm
import OpenAvnu.MrpSteps

/-!
# Transmit opportunities

Every applicant advances first; a frame is sent only if it fits.
-/

namespace OpenAvnu.MrpTransmit

open Mrp MrpEvents MrpEncode MrpVectors MrpMessages MrpFrames MrpSteps List

variable {α:Type}

def advances : ApplicantState → Bool
 | .LA | .VN | .AN | .VP | .AA | .AP | .LO=>true
 | .VO | .QA | .AO | .QO | .QP=>false

/-- Every attribute that advanced is among those that left the station, as often as it is in the
list. -/
def Lossless (p2pmac:Nat) (l carried:List (Attribute α)) : Prop :=
 ((l.filter fun a=>advances a.applicant.mrpState).map (applicantPass p2pmac .TX)).Subperm carried
lemma applicantTx_encode (registrarIsIn:Bool) (s:ApplicantState) :
 (applicantTx registrarIsIn s).encode=.YES↔advances s=true := by
 cases s<;>simp[applicantTx,advances]

variable (p2pmac:Nat)

lemma applicantPass_tx (a:Attribute α) : (applicantPass p2pmac .TX a).applicant.tx=true ∧
  ((applicantPass p2pmac .TX a).applicant.encode=.YES ↔
   advances a.applicant.mrpState=true) ∧
  (∀b,(pduEvent b (applicantPass p2pmac .TX a).applicant.sndmsg).isSome=true) := by
 refine ⟨?_,applicantTx_encode _ _,?_⟩
 · change (applicantTx _ _).tx=true
   cases a.applicant.mrpState<;>rfl
 · intro b
   change (pduEvent b (applicantTx _ _).sndmsg).isSome=true
   cases a.applicant.mrpState<;>rfl

variable {fmt:Format α} {v:List (Attribute α)}

lemma sendable_of_pduEvent (hall:∀a∈v,∀b,(pduEvent b a.applicant.sndmsg).isSome=true) : Sendable fmt v := by
 cases v with
 | nil=>trivial
 | cons head run=>
  refine ⟨hall head mem_cons_self _,fun a ha=>?_⟩
  have:=hall a (mem_cons_of_mem _ ha)
  unfold runEvent
  split
  · next hjoin=>
     simp only[Bool.and_eq_true,decide_eq_true_eq] at hjoin
     rw[←hjoin.2]
     exact this _
  · exact this _

lemma txPass_sendable {p2pmac:Nat} {db:Database α}
 (hv:v∈vectorsFrom fmt 0 (txPass p2pmac db).attribList) : Sendable fmt v := by
 refine sendable_of_pduEvent fun a ha=>?_
 have hmem:=(vectorsFrom_sublist fmt 0 _).subset (mem_flatten.2 ⟨v,hv,ha⟩)
 obtain ⟨b,-,rfl⟩:=mem_map.1 hmem
 exact (applicantPass_tx p2pmac b).2.2

lemma advanced_eq_filter (l:List (Attribute α)) :
 (l.filter fun a=>advances a.applicant.mrpState).map (applicantPass p2pmac .TX)=
  (l.map (applicantPass p2pmac .TX)).filter fun a=>a.applicant.encode=.YES := by
 rw[filter_map]
 congr 2
 funext a
 rw[Function.comp,Bool.eq_iff_iff,decide_eq_true_eq,(applicantPass_tx p2pmac a).2.1]

def AllFit (fmt:Format α) (eof:Nat) : Nat → Nat → List (List (Attribute α)) → Prop
 | _, _, []=>True
 | ptr, vec, v::vectors=>
  ptr+fmt.vectorSize+2<eof ∧ VectorFits fmt eof vec v.length ∧
   AllFit fmt eof (vec+vectorLength fmt v.length) (vec+vectorLength fmt v.length) vectors

section Fit
variable {fmt:Format α} {eof:Nat} {vectors:List (List (Attribute α))}

lemma placeAll_of_allFit (h:Proper fmt) (hvectors:∀v∈vectors,IsVector fmt v)
 (hsend:∀v∈vectors,Sendable fmt v) {st:Emission α}
 (hfit:AllFit fmt eof st.ptr st.vec vectors) : (placeAll fmt eof st vectors).2=true := by
 induction vectors generalizing st with
 | nil=>rfl
 | cons v vectors ih=>
  cases v with
  | nil=>exact (hvectors [] mem_cons_self).elim
  | cons head run=>
   obtain ⟨hselects,-,-,hrun⟩:=hvectors _ mem_cons_self
   obtain ⟨hguard,hvector,hrest⟩:=hfit
   have hplaced:=@emitVector_eq_placed α fmt eof st head run h hselects
    (by rw[hrun];exact hsend _ mem_cons_self) (by rw[hrun];exact hvector)
   rw[placeAll,if_neg (by omega),hplaced,hrun]
   exact ih (fun w hw=>hvectors w (mem_cons_of_mem _ hw))
    (fun w hw=>hsend w (mem_cons_of_mem _ hw)) hrest

lemma AllFit.room {sent left:List (List (Attribute α))} {ptr vec:Nat}
 (hfit:AllFit fmt eof ptr vec (sent++left)) (hleft:left≠[]) :
 (if sent≠[] then vec+totalLength fmt sent else ptr)+fmt.vectorSize+2<eof := by
 induction sent generalizing ptr vec with
 | nil=>
  obtain ⟨v,rest,rfl⟩:=exists_cons_of_ne_nil hleft
  simpa using hfit.1
 | cons v sent ih=>
  have hrest:=ih hfit.2.2
  cases sent with
  | nil=>simpa[totalLength] using hrest
  | cons w sent=>simpa[totalLength,Nat.add_assoc] using hrest

lemma emitVectors_of_allFit (h:Proper fmt) {base:Nat} {lva flag:Bool}
 {l:List (Attribute α)} (hentry:base+fmt.vectorSize≤eof)
 (hsend:∀v∈vectorsFrom fmt 0 l,Sendable fmt v)
 (hfit:AllFit fmt eof base (dataAt fmt base) (vectorsFrom fmt 0 l)) :
 (emitVectors fmt eof base lva flag l).ok=true ∧
  Encodes fmt eof base lva flag l (vectorsFrom fmt 0 l) []
   (emitVectors fmt eof base lva flag l) := by
 have hloop:=emitLoop_eq_placeAll h eof (Nat.le_refl l.length)
  ⟨base,dataAt fmt base,[],lva,false,base+2,[]⟩
 have hplace:=@placeAll_of_allFit α fmt eof _ h (vectorsFrom_isVector fmt 0 l) hsend
  ⟨base,dataAt fmt base,[],lva,false,base+2,[]⟩ hfit
 have hok:(emitVectors fmt eof base lva flag l).ok=true:=by
  rw[←hloop] at hplace
  unfold emitVectors
  rw[if_neg (by omega)]
  dsimp only
  rw[if_neg (by simpa using hplace)]
  split<;>rfl
 obtain ⟨sent,left,hencodes⟩:=emitVectors_of_ok h hok
 have hleft:left=[]:=by
  by_contra hne
  have hroom:=AllFit.room (hencodes.split▸hfit) hne
  have hfull:=hencodes.full hne
  rw[cursorAfter] at hfull
  omega
 subst hleft
 have hsent:sent=vectorsFrom fmt 0 l:=by simpa using hencodes.split.symm
 exact ⟨hok,hsent▸hencodes⟩

lemma vectorLength_ge (fmt:Format α) {count:Nat} (hpos:0<count) : 2+fmt.eventsAt+count/3≤vectorLength fmt count ∧
  3+fmt.eventsAt≤vectorLength fmt count := by
 unfold vectorLength
 omega
lemma totalLength_cons (fmt:Format α) (v:List (Attribute α))
 (vectors:List (List (Attribute α))) :
 totalLength fmt (v::vectors)=vectorLength fmt v.length+totalLength fmt vectors := by
 simp[totalLength]

lemma runsFit_of_total (hne:∀v∈vectors,v≠[]) {vec last:Nat}
 (hlast:vec+totalLength fmt vectors≤last) (hslack:last+fmt.runSlack≤eof) : RunsFit fmt eof vec vectors := by
 induction vectors generalizing vec with
 | nil=>trivial
 | cons v vectors ih=>
  have hlength:=vectorLength_ge fmt (length_pos_iff.2 (hne v mem_cons_self))
  rw[totalLength_cons] at hlast
  exact ⟨.inr (by omega),ih (fun w hw=>hne w (mem_cons_of_mem _ hw)) (by omega)⟩

lemma allFit_of_total (hne:∀v∈vectors,v≠[]) {ptr vec last:Nat} (hptr:ptr≤vec)
 (hlast:vec+totalLength fmt vectors≤last) (hruns:RunsFit fmt eof vec vectors)
 (hend:last+3≤eof) (hguard:last+fmt.vectorSize+2<eof+3+fmt.eventsAt) : AllFit fmt eof ptr vec vectors := by
 induction vectors generalizing ptr vec with
 | nil=>trivial
 | cons v vectors ih=>
  have hlength:=vectorLength_ge fmt (length_pos_iff.2 (hne v mem_cons_self))
  rw[totalLength_cons] at hlast
  refine ⟨by omega,⟨hruns.1,?_,by omega⟩,
   ih (fun w hw=>hne w (mem_cons_of_mem _ hw)) (Nat.le_refl _) (by omega) hruns.2⟩
  intro hfour
  right
  unfold vectorLength at hlast
  rw[if_pos hfour] at hlast
  omega

lemma left_eq_nil {l:List (Attribute α)} {sent left:List (List (Attribute α))}
 (hsplit:vectorsFrom fmt 0 l=sent++left)
 (hcount:l.countP (mandatory fmt) ≤ sent.flatten.countP (mandatory fmt)) : left=[] := by
 cases left with
 | nil=>rfl
 | cons v left=>
  have hsub:=vectorsFrom_sublist fmt 0 l
  have hvector:=vectorsFrom_isVector fmt 0 l v (by rw[hsplit];simp)
  rw[hsplit,flatten_append,drop_zero] at hsub
  have hle:=hsub.countP_le (p:=mandatory fmt)
  cases v with
  | nil=>exact hvector.elim
  | cons head run=>
   obtain ⟨hselects,htx,hencode,-⟩:=hvector
   have hhead:mandatory fmt head=true:=by
    simp[mandatory,hselects,htx,hencode]
   rw[countP_append,flatten_cons,cons_append,countP_cons_of_pos hhead] at hle
   omega

end Fit

section Sequence
variable (lva flag:Bool)

def encoder (f:Format α) (base:Nat) (l:List (Attribute α)) : Emitted α :=
 emitVectors f maxFrameSize base lva flag l
def emitAll : List (Format α) → Building α → Building α
 | [], b=>b
 | f::fmts, b=>emitAll fmts (b.append (encoder lva flag f))

/-- All vectors of `l` fit into one frame if the encoders of `fmts` start at `pos`. -/
def Fits (l:List (Attribute α)) : List (Format α) → Nat → Prop
 | [], pos=>pos+2 < maxFrameSize
 | f::fmts, pos=>
  pos+f.vectorSize ≤ maxFrameSize ∧
   RunsFit f maxFrameSize (dataAt f pos) (vectorsFrom f 0 l) ∧
   Fits l fmts (pos+(messageFor f lva flag (vectorsFrom f 0 l)).length)

def limit : List (Format α) → Nat
 | []=>maxFrameSize-3
 | f::_=>maxFrameSize-f.vectorSize
def Roomy : List (Format α) → Prop
 | []=>True
 | f::fmts=>
  limit fmts < maxFrameSize ∧ limit fmts+f.vectorSize < maxFrameSize+3+f.eventsAt ∧
   Roomy fmts
def Apart (fmts:List (Format α)) : Prop := fmts.Pairwise fun f g=>∀v,g.selects v=true → f.selects v=false

variable {lva flag} {l:List (Attribute α)} {fmts:List (Format α)} {pos:Nat}

lemma Fits.le_limit (h:Fits lva flag l fmts pos) : pos≤limit fmts := by
 cases fmts with
 | nil=>
  simp only[Fits] at h
  simp only[limit]
  omega
 | cons f fmts=>
  have:=h.1
  simp only[limit]
  omega

variable {f:Format α}

lemma allFit_of_fits (hproper:Proper f) (hfits:Fits lva flag l (f::fmts) pos)
 (hroomy:Roomy (f::fmts)) : AllFit f maxFrameSize pos (dataAt f pos) (vectorsFrom f 0 l) := by
 obtain ⟨-,hruns,hrest⟩:=hfits
 obtain ⟨hlimit,hguard,-⟩:=hroomy
 have hle:=hrest.le_limit
 have hvectors:=vectorsFrom_isVector f 0 l
 by_cases hnil:vectorsFrom f 0 l=[]
 · rw[hnil]
   trivial
 have hlength:=message_length f pos (bodyBytes f lva (vectorsFrom f 0 l))
 rw[bodyBytes_length hproper lva hvectors] at hlength
 rw[messageFor,if_pos hnil] at hle
 exact allFit_of_total (fun v hv=>(hvectors v hv).ne_nil)
  (Nat.le_trans (Nat.le_add_right pos 2) (dataAt_le f pos)) (Nat.le_refl _) hruns (by omega)
  (by omega)

variable {b:Building α} {messages:List UInt8}

lemma emitAll_of_fits (hproper:∀f∈fmts,Proper f) (hapart:Apart fmts) (hroomy:Roomy fmts)
 (hsend:∀f∈fmts,∀v∈vectorsFrom f 0 l,Sendable f v) (hb:b.messages=some messages)
 (hlist:∀f∈fmts,vectorsFrom f 0 b.attribList=vectorsFrom f 0 l)
 (hfits:Fits lva flag l fmts (messageListAt+messages.length)) :
 (emitAll lva flag fmts b).messages=some (messages++fmts.flatMap fun f=>
  messageFor f lva flag (vectorsFrom f 0 l)) ∧
  (emitAll lva flag fmts b).encoded=b.encoded++fmts.flatMap fun f=>vectorsFrom f 0 l := by
 induction fmts generalizing b messages with
 | nil=>simpa[emitAll] using hb
 | cons f fmts ih=>
  have hf:=hlist f mem_cons_self
  obtain ⟨hok,hencodes⟩:=@emitVectors_of_allFit α f maxFrameSize
   (hproper f mem_cons_self) (messageListAt+messages.length) lva flag b.attribList
   hfits.1 (by rw[hf];exact hsend f mem_cons_self)
   (by rw[hf];exact allFit_of_fits (hproper f mem_cons_self) hfits hroomy)
  have happend:b.append (encoder lva flag f)=_:=append_of_ok hb hok
  rw[hf] at hencodes
  have hmessages:(b.append (encoder lva flag f)).messages=
   some (messages++messageFor f lva flag (vectorsFrom f 0 l)):=by
   rw[happend,←hencodes.bytes]
   rfl
  have hencoded:(b.append (encoder lva flag f)).encoded=b.encoded++vectorsFrom f 0 l:=by
   rw[happend]
   exact congrArg _ hencodes.encoded
  have hlist':∀g∈fmts,vectorsFrom g 0 (b.append (encoder lva flag f)).attribList=vectorsFrom g 0 l:=fun g hg=>by
   rw[happend,←hlist g (mem_cons_of_mem _ hg)]
   exact vectorsFrom_touches ((pairwise_cons.1 hapart).1 g hg)
    (emitVectors_touches _ _ _ _) 0
  have hrest:=ih (fun g hg=>hproper g (mem_cons_of_mem _ hg)) hapart.tail hroomy.2.2
   (fun g hg=>hsend g (mem_cons_of_mem _ hg)) hmessages hlist'
   (by simpa[Nat.add_assoc] using hfits.2.2)
  rw[emitAll,hrest.1,hrest.2,hencoded]
  simp

variable {out:List UInt8}

lemma encoder_messages (hproper:Proper f)
 (hout:(b.append (encoder lva flag f)).messages=some out) : ∃messages sent left,b.messages=some messages ∧
  Encodes f maxFrameSize (messageListAt+messages.length) lva flag b.attribList sent left
   (encoder lva flag f (messageListAt+messages.length) b.attribList) ∧
  out=messages++messageFor f lva flag sent ∧
  (b.append (encoder lva flag f)).encoded=b.encoded++sent ∧
  Touches f.selects b.attribList (b.append (encoder lva flag f)).attribList := by
 obtain ⟨messages,hb,hok,hbytes,hlist,hencoded⟩:=append_messages hout
 obtain ⟨sent,left,hencodes⟩:=emitVectors_of_ok hproper hok
 refine ⟨messages,sent,left,hb,hencodes,?_,?_,?_⟩
 · rw[hbytes,←hencodes.bytes]
   rfl
 · rw[hencoded,←hencodes.encoded]
   rfl
 · rw[hlist]
   exact emitVectors_touches _ _ _ _

lemma emitAll_started (hout:(emitAll lva flag fmts b).messages=some out) :
 ∃messages,b.messages=some messages := by
 induction fmts generalizing b with
 | nil=>exact ⟨out,hout⟩
 | cons f fmts ih=>
  obtain ⟨messages,hmessages⟩:=ih hout
  obtain ⟨before,hb,-⟩:=append_messages hmessages
  exact ⟨before,hb⟩

lemma emitAll_encoded (hproper:∀f∈fmts,Proper f)
 (hout:(emitAll lva flag fmts b).messages=some out) :
 ∃later,(emitAll lva flag fmts b).encoded=b.encoded++later ∧
  ∀v∈later,∀a∈v,∃f∈fmts,f.selects a.value=true := by
 induction fmts generalizing b with
 | nil=>exact ⟨[],by simp[emitAll],by simp⟩
 | cons f fmts ih=>
  rw[emitAll] at hout
  obtain ⟨later,hlater,hselects⟩:=
   ih (fun g hg=>hproper g (mem_cons_of_mem _ hg)) hout
  obtain ⟨middle,hmiddle⟩:=emitAll_started hout
  obtain ⟨messages,sent,left,-,hencodes,-,hencoded,-⟩:=
   encoder_messages (hproper f mem_cons_self) hmiddle
  refine ⟨sent++later,by rw[emitAll,hlater,hencoded,append_assoc],?_⟩
  intro v hv a ha
  rcases mem_append.1 hv with hv|hv
  · exact ⟨f,mem_cons_self,(hencodes.isVector v hv).selects a ha⟩
  · obtain ⟨g,hg,hsel⟩:=hselects v hv a ha
    exact ⟨g,mem_cons_of_mem _ hg,hsel⟩

lemma fits_of_emitAll (hproper:∀f∈fmts,Proper f) (hapart:Apart fmts)
 (hb:b.messages=some messages)
 (hlist:∀f∈fmts,vectorsFrom f 0 b.attribList=vectorsFrom f 0 l)
 (hencoded:∀v∈b.encoded,∀a∈v,∀f∈fmts,f.selects a.value=false)
 (hout:(emitAll lva flag fmts b).messages=some out)
 (hend:messageListAt+out.length+2 < maxFrameSize) (hcount:∀f∈fmts,
  l.countP (mandatory f)≤(emitAll lva flag fmts b).encoded.flatten.countP (mandatory f)) :
 Fits lva flag l fmts (messageListAt+messages.length) := by
 induction fmts generalizing b messages with
 | nil=>
  cases hb.symm.trans hout
  exact hend
 | cons f fmts ih=>
  rw[emitAll] at hout
  have hapart':=pairwise_cons.1 hapart
  obtain ⟨middle,hmiddle⟩:=emitAll_started hout
  obtain ⟨before,sent,left,hbefore,hencodes,hbytes,henc,htouches⟩:=
   encoder_messages (hproper f mem_cons_self) hmiddle
  cases hb.symm.trans hbefore
  obtain ⟨later,hlater,hselects⟩:=
   emitAll_encoded (fun g hg=>hproper g (mem_cons_of_mem _ hg)) hout
  have hsplit:=hencodes.split
  rw[hlist f mem_cons_self] at hsplit
  -- attributes of the other encoders do not count for this one
  have hothers:∀vectors:List (List (Attribute α)),
   (∀v∈vectors,∀a∈v,f.selects a.value=false) →
   vectors.flatten.countP (mandatory f)=0:=by
   intro vectors hnone
   rw[countP_eq_zero]
   intro a ha
   obtain ⟨v,hv,hav⟩:=mem_flatten.1 ha
   simp[mandatory,hnone v hv a hav]
  have hleft:left=[]:=by
   refine left_eq_nil hsplit ?_
   have:=hcount f mem_cons_self
   rw[emitAll,hlater,henc,flatten_append,flatten_append,countP_append,
    countP_append,hothers b.encoded fun v hv a ha=>
     hencoded v hv a ha f mem_cons_self,hothers later fun v hv a ha=>by
      obtain ⟨g,hg,hsel⟩:=hselects v hv a ha
      exact hapart'.1 g hg _ hsel] at this
   omega
  subst hleft
  have hsent:sent=vectorsFrom f 0 l:=by simpa using hsplit.symm
  subst hsent
  refine ⟨hencodes.entry,hencodes.runs,?_⟩
  have hrest:=ih (fun g hg=>hproper g (mem_cons_of_mem _ hg)) hapart.tail hmiddle
   (fun g hg=>by
    rw[←hlist g (mem_cons_of_mem _ hg)]
    exact vectorsFrom_touches (hapart'.1 g hg) htouches 0) ?_ hout
   fun g hg=>hcount g (mem_cons_of_mem _ hg)
  · rw[hbytes] at hrest
    simpa[Nat.add_assoc] using hrest
  · intro v hv a ha g hg
    rw[henc] at hv
    rcases mem_append.1 hv with hv|hv
    · exact hencoded v hv a ha g (mem_cons_of_mem _ hg)
    · have hf:=(hencodes.isVector v hv).selects a ha
      by_contra hsel
      rw[hapart'.1 g hg _ (by simpa using hsel)] at hf
      cases hf

lemma Fits.last (h:Fits lva flag l fmts pos) :
 pos+(fmts.flatMap fun f=>messageFor f lva flag (vectorsFrom f 0 l)).length+2 <
  maxFrameSize := by
 induction fmts generalizing pos with
 | nil=>simpa[Fits] using h
 | cons f fmts ih=>
  have:=ih h.2.2
  rw[flatMap_cons,length_append]
  omega

lemma mandatory_subperm (hapart:Apart fmts) : (l.filter fun a=>fmts.any fun f=>mandatory f a).Subperm
  (fmts.flatMap fun f=>vectorsFrom f 0 l).flatten := by
 induction fmts with
 | nil=>simp
 | cons f fmts ih=>
  have hapart':=pairwise_cons.1 hapart
  have hfirst:(l.filter fun a=>(f::fmts).any fun f=>mandatory f a).filter (mandatory f)=
   l.filter (mandatory f):=by
   rw[filter_filter]
   congr 1
   funext a
   cases hm:mandatory f a<;>simp[hm]
  have hsecond:(l.filter fun a=>(f::fmts).any fun f=>mandatory f a).filter
   (fun a=>!mandatory f a)=l.filter fun a=>fmts.any fun g=>mandatory g a:=by
   rw[filter_filter]
   congr 1
   funext a
   cases hm:mandatory f a with
   | false=>simp[hm]
   | true=>
    have hf:f.selects a.value=true:=by
     simp only[mandatory,Bool.and_eq_true] at hm
     exact hm.1.1
    have:(fmts.any fun g=>mandatory g a)=false:=by
     rw[any_eq_false]
     intro g hg hmg
     simp only[mandatory,Bool.and_eq_true] at hmg
     rw[hapart'.1 g hg _ hmg.1.1] at hf
     cases hf
    simp[this]
  have hperm:=filter_append_perm (mandatory f)
   (l.filter fun a=>(f::fmts).any fun f=>mandatory f a)
  rw[hfirst,hsecond] at hperm
  rw[flatMap_cons,flatten_append]
  have hf:(l.filter (mandatory f)).Sublist (vectorsFrom f 0 l).flatten:=by
   simpa using vectorsFrom_mandatory f 0 l
  exact hperm.symm.subperm.trans (List.Subperm.append hf.subperm (ih hapart.tail))

def position (lva flag:Bool) (l:List (Attribute α)) (fmts:List (Format α)) : Nat :=
 messageListAt+(fmts.map fun f=>(messageFor f lva flag (vectorsFrom f 0 l)).length).sum

lemma runsFit_of_message (lva flag:Bool) (hproper:Proper f) (hslack:f.runSlack=2)
 (hpos:pos+(messageFor f lva flag (vectorsFrom f 0 l)).length ≤ maxFrameSize) :
 RunsFit f maxFrameSize (dataAt f pos) (vectorsFrom f 0 l) := by
 have hvectors:=vectorsFrom_isVector f 0 l
 by_cases hnil:vectorsFrom f 0 l=[]
 · rw[hnil]
   trivial
 have hlength:=message_length f pos (bodyBytes f lva (vectorsFrom f 0 l))
 rw[bodyBytes_length hproper lva hvectors] at hlength
 rw[messageFor,if_pos hnil] at hpos
 exact runsFit_of_total (fun v hv=>(hvectors v hv).ne_nil) (Nat.le_refl _)
  (by rw[hslack];omega)

end Sequence

end OpenAvnu.MrpTransmit
