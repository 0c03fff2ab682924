import OpenAvnu.MrpCodec

/-!
# What the encoders write

The list determines the vectors, the frame limit how many of them are placed.
-/

namespace OpenAvnu.MrpVectors

open PackedDigits Mrp MrpEncode List Packer

variable {α:Type} (tx:Bool) (a:Attribute α) (pos n:Nat)

@[simp] lemma setTx_value : (setTx tx a).value=a.value := rfl
@[simp] lemma setTx_tx : (setTx tx a).applicant.tx=tx := rfl

/-- The attributes that follow `head` into its vector, given the value last placed. -/
def runOf (fmt:Format α) : α → List (Attribute α) → List (Attribute α)
 | _, []=>[]
 | last, v::rest=>
  if fmt.selects v.value&&v.applicant.tx&&fmt.continues (fmt.advance last) v.value then
   v::runOf fmt (fmt.advance last) rest
  else []

/-- The vectors of a list whose first `skip` attributes belong to a vector already. -/
def vectorsFrom (fmt:Format α) : Nat → List (Attribute α) → List (List (Attribute α))
 | _, []=>[]
 | skip+1, _::rest=>vectorsFrom fmt skip rest
 | 0, a::rest=>
  if fmt.selects a.value&&a.applicant.tx&&a.applicant.encode=.YES then
   (a::runOf fmt a.value rest)::vectorsFrom fmt (runOf fmt a.value rest).length rest
  else vectorsFrom fmt 0 rest

def codeOf (event:Option PduEvent) : Nat := event.elim 0 PduEvent.code
def eventCodes (fmt:Format α) : List (Attribute α) → List Nat
 | []=>[]
 | head::run=>codeOf (ownEvent head)::run.map fun a=>codeOf (runEvent fmt head a)
def packedEvents (fmt:Format α) (members:List (Attribute α)) : List UInt8 :=
 match eventCodes fmt members with
 | []=>[]
 | code::codes=>((start code fmt.padding).pushAll 6 3 codes).finish 6

def foursBytes : List Nat → List UInt8
 | w::x::y::z::rest=>UInt8.ofNat (packDigits 4 [w,x,y,z])::foursBytes rest
 | [x,y,z]=>[UInt8.ofNat (packDigits 4 [x,y,z,0])]
 | [x,y]=>[UInt8.ofNat (packDigits 4 [x,y,0,0])]
 | [x]=>[UInt8.ofNat (packDigits 4 [x,0,0,0])]
 | []=>[]

def vectorBytes (fmt:Format α) (lva:Bool) : List (Attribute α) → List UInt8
 | []=>[]
 | head::run=>
  vectorHeader (run.length+1) lva++firstBytes fmt head.value++
   packedEvents fmt (head::run)++foursBytes (fours fmt (head::run))

section Grow
variable {fmt:Format α} {eof fv:Nat} {head:Attribute α} {rest:List (Attribute α)} (last:α)

lemma runOf_cons_of_continues {last:α} {v:Attribute α} (hselects:fmt.selects v.value=true)
 (htx:v.applicant.tx=true) (hcontinues:fmt.continues (fmt.advance last) v.value=true) :
 runOf fmt last (v::rest)=v::runOf fmt (fmt.advance last) rest := by
 simp[runOf,hselects,htx,hcontinues]
lemma growVector_nil (packer:Packer) (members:List (Attribute α)) :
 growVector fmt eof fv head last packer members []=⟨packer,members,[],true⟩ := by
 rw[growVector]

lemma growVector_cons (fmt:Format α) (eof fv:Nat) (head:Attribute α) (last:α)
 (packer:Packer) (members:List (Attribute α))
 (v:Attribute α) (rest:List (Attribute α)) : (runOf fmt last (v::rest)=[] ∧
  growVector fmt eof fv head last packer members (v::rest)=⟨packer,members,v::rest,true⟩) ∨
 (runOf fmt last (v::rest)=v::runOf fmt (fmt.advance last) rest ∧
  ((runEvent fmt head v=none ∧
   growVector fmt eof fv head last packer members (v::rest)=⟨packer,members,setTx false v::rest,false⟩) ∨
  ∃e,runEvent fmt head v=some e ∧
   ((eof<fv+fmt.eventsAt+(packer.push 6 3 e.code).bytes.length+fmt.runSlack ∧
    growVector fmt eof fv head last packer members (v::rest)=
     ⟨packer.push 6 3 e.code,members++[v],setTx false v::rest,false⟩) ∨
   (fv+fmt.eventsAt+(packer.push 6 3 e.code).bytes.length+fmt.runSlack≤eof ∧
    growVector fmt eof fv head last packer members (v::rest)=
     let g:=growVector fmt eof fv head (fmt.advance last) (packer.push 6 3 e.code)
      (members++[v]) rest
     {g with rest:=setTx false v::g.rest})))) := by
 by_cases hselects:fmt.selects v.value=true
 swap
 · exact .inl ⟨by simp[runOf,hselects],by simp[growVector,hselects]⟩
 by_cases htx:v.applicant.tx=true
 swap
 · exact .inl ⟨by simp[runOf,htx],by simp[growVector,htx]⟩
 by_cases hcontinues:fmt.continues (fmt.advance last) v.value=true
 swap
 · exact .inl ⟨by simp[runOf,hcontinues],by simp[growVector,hcontinues]⟩
 refine .inr ⟨runOf_cons_of_continues hselects htx hcontinues,?_⟩
 cases hevent:runEvent fmt head v with
 | none=>exact .inl ⟨rfl,by simp[growVector,hselects,htx,hcontinues,hevent]⟩
 | some e=>
  refine .inr ⟨e,rfl,?_⟩
  by_cases hroom:eof<fv+fmt.eventsAt+(packer.push 6 3 e.code).bytes.length+fmt.runSlack
  · exact .inl ⟨hroom,by simp[growVector,hselects,htx,hcontinues,hevent,hroom]⟩
  · exact .inr ⟨by omega,by simp[growVector,hselects,htx,hcontinues,hevent,hroom]⟩

section
variable {last:α} {packer:Packer} {members:List (Attribute α)}

lemma growVector_of_ok
 (hok:(growVector fmt eof fv head last packer members rest).ok=true) :
 growVector fmt eof fv head last packer members rest=
  ⟨packer.pushAll 6 3 ((runOf fmt last rest).map fun a=>codeOf (runEvent fmt head a)),
   members++runOf fmt last rest,
   (runOf fmt last rest).map (setTx false)++rest.drop (runOf fmt last rest).length,true⟩ ∧
  ∀a∈runOf fmt last rest,(runEvent fmt head a).isSome=true := by
 induction rest generalizing last packer members with
 | nil=>simp[growVector,runOf]
 | cons v rest ih=>
  rcases growVector_cons fmt eof fv head last packer members v rest with ⟨hrun,hg⟩
    | ⟨hrun,⟨-,hg⟩ | ⟨e,he,⟨-,hg⟩ | ⟨-,hg⟩⟩⟩
  · simp[hrun,hg]
  · rw[hg] at hok;cases hok
  · rw[hg] at hok;cases hok
  · rw[hg] at hok
    obtain ⟨heq,hall⟩:=ih hok
    rw[hg,hrun]
    simp only[heq]
    refine ⟨?_,?_⟩
    · simp[he,codeOf]
    · intro a ha
      rcases mem_cons.1 ha with rfl|ha
      · simp[he]
      · exact hall a ha

lemma growVector_ok_iff {count:Nat}
 (hsized:packer.Sized 3 count)
 (hall:∀a∈runOf fmt last rest,(runEvent fmt head a).isSome=true) :
 (growVector fmt eof fv head last packer members rest).ok=true ↔
  runOf fmt last rest=[] ∨
   fv+fmt.eventsAt+(count+(runOf fmt last rest).length)/3+fmt.runSlack≤eof := by
 induction rest generalizing last packer members count with
 | nil=>simp[growVector,runOf]
 | cons v rest ih=>
  rcases growVector_cons fmt eof fv head last packer members v rest with ⟨hrun,hg⟩
    | ⟨hrun,⟨hnone,-⟩ | ⟨e,he,hcases⟩⟩
  · simp[hrun,hg]
  · have:=hall v (by simp[hrun])
    simp[hnone] at this
  · have hpush:=hsized.push 6 e.code
    have hlength:=hpush.bytes_length
    rw[hrun] at hall
    have htail:=@ih (fmt.advance last) (packer.push 6 3 e.code) (members++[v]) _ hpush
     fun a ha=>hall a (mem_cons_of_mem _ ha)
    rw[hrun,length_cons,←Nat.add_assoc]
    rcases hcases with ⟨hroom,hg⟩|⟨hroom,hg⟩
    · simp only[hg,reduceCtorEq,false_or,false_iff]
      omega
    · simp only[hg,htail,reduceCtorEq,false_or]
      constructor
      · rintro (hnil|hfit)
        · rw[hnil];simp only[length_nil];omega
        · have:count+1+(runOf fmt (fmt.advance last) rest).length=
           count+(runOf fmt (fmt.advance last) rest).length+1:=by omega
          rwa[this] at hfit
      · intro hfit
        right
        have:count+1+(runOf fmt (fmt.advance last) rest).length=
         count+(runOf fmt (fmt.advance last) rest).length+1:=by omega
        rwa[this]

end

lemma runOf_runOf (rest:List (Attribute α)) : runOf fmt last (runOf fmt last rest)=runOf fmt last rest := by
 induction rest generalizing last with
 | nil=>rfl
 | cons v rest ih=>
  by_cases h:fmt.selects v.value&&v.applicant.tx &&
   fmt.continues (fmt.advance last) v.value
  · simp[runOf,h,ih]
  · simp[runOf,h]

lemma growVector_runOf (fmt:Format α) (eof fv:Nat) (head:Attribute α) (last:α)
 (packer:Packer) (members rest:List (Attribute α)) :
 let g:=growVector fmt eof fv head last packer members rest
 let g':=growVector fmt eof fv head last packer members (runOf fmt last rest)
 g.packer=g'.packer ∧ g.members=g'.members ∧ g.ok=g'.ok := by
 induction rest generalizing last packer members with
 | nil=>simp[runOf]
 | cons v rest ih=>
  by_cases h:fmt.selects v.value&&v.applicant.tx &&
   fmt.continues (fmt.advance last) v.value
  · have hrun:runOf fmt last (v::rest)=v::runOf fmt (fmt.advance last) rest:=by
     simp[runOf,h]
    simp only[Bool.and_eq_true] at h
    obtain ⟨⟨hselects,htx⟩,hcontinues⟩:=h
    rw[hrun]
    cases hevent:runEvent fmt head v with
    | none=>simp[growVector,hselects,htx,hcontinues,hevent]
    | some e=>
     by_cases hroom:eof <
      fv+fmt.eventsAt+(packer.push 6 3 e.code).bytes.length+fmt.runSlack
     · simp[growVector,hselects,htx,hcontinues,hevent,hroom]
     · simpa[growVector,hselects,htx,hcontinues,hevent,hroom] using
        ih (fmt.advance last) (packer.push 6 3 e.code) (members++[v])
  · have hrun:runOf fmt last (v::rest)=[]:=by simp[runOf,h]
    rw[hrun]
    rcases growVector_cons fmt eof fv head last packer members v rest with ⟨-,hg⟩|⟨hrun',-⟩
    · simp[hg,growVector_nil]
    · rw[hrun] at hrun';cases hrun'

end Grow

/-- The checks around full bytes when values are packed four to a byte from `pos` on. -/
def foursFit (eof pos count:Nat) : Prop := count<4 ∨ pos+count/4+3≤eof

lemma packFours_ok (eof pos:Nat) (values:List Nat) :
 ((packFours eof pos values).2=true↔foursFit eof pos values.length) ∧
  ((packFours eof pos values).2=true → (packFours eof pos values).1=foursBytes values) := by
 induction pos, values using packFours.induct eof with
 | case1 pos w x y z rest hroom=>
  simp only[packFours,if_pos hroom,foursFit,length_cons]
  refine ⟨?_,by simp⟩
  simp only[Bool.false_eq_true,false_iff]
  omega
 | case2 pos w x y z rest hroom hafter=>
  simp only[packFours,if_neg hroom,if_pos hafter,foursFit,length_cons]
  refine ⟨?_,by simp⟩
  simp only[Bool.false_eq_true,false_iff]
  omega
 | case3 pos w x y z rest hroom hafter ih=>
  simp only[packFours,if_neg hroom,if_neg hafter,foursBytes]
  refine ⟨?_,fun h=>by rw[ih.2 h]⟩
  rw[ih.1]
  simp only[foursFit,length_cons]
  omega
 | case4=>simp[packFours,foursFit,foursBytes]
 | case5=>simp[packFours,foursFit,foursBytes]
 | case6=>simp[packFours,foursFit,foursBytes]
 | case7=>simp[packFours,foursFit,foursBytes]

lemma foursBytes_length (values:List Nat) : (foursBytes values).length=(values.length+3)/4 := by
 induction values using foursBytes.induct with
 | case1 w x y z rest ih=>
  simp only[foursBytes,length_cons,ih]
  omega
 | case2 | case3 | case4 | case5=>simp[foursBytes]

@[simp] lemma vectorHeader_length (numvalues:Nat) (lva:Bool) : (vectorHeader numvalues lva).length=2 := by
 simp[vectorHeader]

structure Proper (fmt:Format α) : Prop where
 first:∀v,fmt.selects v=true → (fmt.firstValue v).length≤fmt.eventsAt
 padding:fmt.padding.length=2

variable {fmt:Format α} (st:Emission α)

lemma Proper.firstBytes_length (h:Proper fmt) {v:α} (hv:fmt.selects v=true) :
 (firstBytes fmt v).length=fmt.eventsAt := by
 have:=h.first v hv
 simp only[firstBytes,length_append,length_replicate]
 omega
lemma eventCodes_length (fmt:Format α) (members:List (Attribute α)) :
 (eventCodes fmt members).length=members.length := by
 cases members<;>simp[eventCodes]

lemma packedEvents_length (h:Proper fmt) (members:List (Attribute α)) :
 (packedEvents fmt members).length=(members.length+2)/3 := by
 cases members with
 | nil=>simp[packedEvents,eventCodes]
 | cons head run=>
  have hsized:(start (codeOf (ownEvent head)) fmt.padding).Sized 3 1:=
   start_sized _ (by rw[h.padding]) (by decide)
  have:=(hsized.pushAll 6 (run.map fun a=>codeOf (runEvent fmt head a))).finish_length 6
  simpa[packedEvents,eventCodes,Nat.add_comm] using this

def vectorLength (fmt:Format α) (count:Nat) : Nat :=
 2+fmt.eventsAt+(count+2)/3+if fmt.fourPacked.isSome then (count+3)/4 else 0
lemma fours_length (fmt:Format α) (members:List (Attribute α)) :
 (fours fmt members).length=if fmt.fourPacked.isSome then members.length else 0 := by
 unfold fours
 cases fmt.fourPacked<;>simp
lemma foursBytes_fours_length (fmt:Format α) (members:List (Attribute α)) :
 (foursBytes (fours fmt members)).length=
  if fmt.fourPacked.isSome then (members.length+3)/4 else 0 := by
 rw[foursBytes_length,fours_length]
 split<;>simp
lemma vectorBytes_length (h:Proper fmt) (lva:Bool) {head:Attribute α}
 (run:List (Attribute α)) (hselects:fmt.selects head.value=true) :
 (vectorBytes fmt lva (head::run)).length=vectorLength fmt (run.length+1) := by
 simp only[vectorBytes,length_append,vectorHeader_length,h.firstBytes_length hselects,
  packedEvents_length h,foursBytes_fours_length,length_cons,vectorLength]

/-- A vector of `count` attributes at `vec` passes every check of its encoder. -/
structure VectorFits (fmt:Format α) (eof vec count:Nat) : Prop where
 run:count=1 ∨ vec+2+fmt.eventsAt+count/3+fmt.runSlack≤eof
 fours:fmt.fourPacked.isSome=true →
  foursFit eof (vec+2+fmt.eventsAt+(count+2)/3) count
 last:vec+vectorLength fmt count+2≤eof

def Sendable (fmt:Format α) : List (Attribute α) → Prop
 | []=>True
 | head::run=>
  (ownEvent head).isSome=true ∧ ∀a∈run,(runEvent fmt head a).isSome=true

def placed (fmt:Format α) (st:Emission α) (members:List (Attribute α)) : Emission α where
 ptr := st.vec+vectorLength fmt members.length
 vec:=st.vec+vectorLength fmt members.length
 body:=st.body++vectorBytes fmt st.lva members
 lva:=st.lva&&!fmt.lvaOnce
 found:=true
 reach:=max st.reach (st.vec+vectorLength fmt members.length)
 encoded:=st.encoded++[members]

@[simp] lemma touch_vec : (st.touch pos n).vec=st.vec := by
 unfold Emission.touch;split<;>rfl
@[simp] lemma touch_body : (st.touch pos n).body=st.body := by
 unfold Emission.touch;split<;>rfl
@[simp] lemma touch_lva : (st.touch pos n).lva=st.lva := by
 unfold Emission.touch;split<;>rfl
@[simp] lemma touch_found : (st.touch pos n).found=st.found := by
 unfold Emission.touch;split<;>rfl
@[simp] lemma touch_encoded : (st.touch pos n).encoded=st.encoded := by
 unfold Emission.touch;split<;>rfl
lemma touch_reach : (st.touch pos n).reach=if n=0 then st.reach else max st.reach (pos+n) := by
 unfold Emission.touch
 split<;>rfl

section Vector
variable {fmt:Format α} {eof:Nat} {st:Emission α} {head:Attribute α}
 {rest:List (Attribute α)}

lemma growVector_start_ok_iff (h:Proper fmt) (fv:Nat) (code:Nat)
 (hall:∀a∈runOf fmt head.value rest,(runEvent fmt head a).isSome=true) :
 (growVector fmt eof fv head head.value (start code fmt.padding) [head] rest).ok=true ↔
  (runOf fmt head.value rest).length+1=1 ∨
   fv+fmt.eventsAt+((runOf fmt head.value rest).length+1)/3+fmt.runSlack≤eof := by
 have hsized:(start code fmt.padding).Sized 3 1:=
  start_sized _ (by rw[h.padding]) (by decide)
 rw[growVector_ok_iff hsized hall,Nat.add_comm 1]
 simp

lemma packed_start (h:Proper fmt) {e:PduEvent} (he:ownEvent head=some e)
 (run:List (Attribute α)) : ((start e.code fmt.padding).pushAll 6 3
  (run.map fun a=>codeOf (runEvent fmt head a))).finish 6=packedEvents fmt (head::run) ∧
 0<(packedEvents fmt (head::run)).length := by
 refine ⟨by simp[packedEvents,eventCodes,he,codeOf],?_⟩
 rw[packedEvents_length h,length_cons]
 omega

lemma emitVector_eq_placed (h:Proper fmt) (hselects:fmt.selects head.value=true)
 (hsend:Sendable fmt (head::runOf fmt head.value rest))
 (hfit:VectorFits fmt eof st.vec ((runOf fmt head.value rest).length+1)) :
 emitVector fmt eof st head rest=(placed fmt st (head::runOf fmt head.value rest),
   (runOf fmt head.value rest).map (setTx false)++rest.drop (runOf fmt head.value rest).length,true) := by
 obtain ⟨hown,hall⟩:=hsend
 obtain ⟨e,he⟩:=Option.isSome_iff_exists.1 hown
 have hgrow:=(growVector_start_ok_iff h (st.vec+2) e.code hall).2 hfit.run
 obtain ⟨hg,-⟩:=growVector_of_ok hgrow
 obtain ⟨hpacked,hpos⟩:=packed_start h he (runOf fmt head.value rest)
 have hlength:=packedEvents_length h (head::runOf fmt head.value rest)
 rw[length_cons] at hlength
 have hbytes:((start e.code fmt.padding).pushAll 6 3
  ((runOf fmt head.value rest).map fun a=>codeOf (runEvent fmt head a))).bytes.length ≤
  (packedEvents fmt (head::runOf fmt head.value rest)).length:=by
  rw[←hpacked,finish]
  split<;>simp
 have hfour:(packFours eof (st.vec+2+fmt.eventsAt +
  (packedEvents fmt (head::runOf fmt head.value rest)).length)
  (fours fmt (head::runOf fmt head.value rest))).2=true:=by
  rw[(packFours_ok _ _ _).1,fours_length,hlength]
  split
  · exact hfit.fours (by assumption)
  · exact .inl (by decide)
 have hfourBytes:=(packFours_ok _ _ _).2 hfour
 have hfourLength:=foursBytes_fours_length fmt (head::runOf fmt head.value rest)
 have hlast:=hfit.last
 have hfirst:=h.first head.value hselects
 rw[length_cons] at hfourLength
 unfold vectorLength at hlast
 unfold emitVector
 simp only[he,hg,hpacked,singleton_append,hfour,hfourBytes,Bool.not_true,Bool.false_eq_true,if_false]
 rw[if_neg (by omega)]
 simp only[placed,vectorBytes,vectorLength,length_cons,touch_lva,
  touch_encoded,touch_found,Prod.mk.injEq,Emission.mk.injEq,and_true,true_and]
 refine ⟨by omega,by omega,by simp,?_⟩
 simp only[touch_reach,hfourLength,hlength]
 generalize (pushAll 6 3 _ _).bytes.length=written at *
 split_ifs<;>omega

lemma emitVector_fails (h:Proper fmt)
 (hnot:¬(Sendable fmt (head::runOf fmt head.value rest) ∧
  VectorFits fmt eof st.vec ((runOf fmt head.value rest).length+1))) :
 (emitVector fmt eof st head rest).2.2=false := by
 cases he:ownEvent head with
 | none=>simp[emitVector,he]
 | some e=>
  by_cases hgrow:(growVector fmt eof (st.vec+2) head head.value
   (start e.code fmt.padding) [head] rest).ok=true
  swap
  · simp[emitVector,he,hgrow]
  obtain ⟨hg,hall⟩:=growVector_of_ok hgrow
  obtain ⟨hpacked,-⟩:=packed_start h he (runOf fmt head.value rest)
  have hlength:=packedEvents_length h (head::runOf fmt head.value rest)
  have hrun:=(growVector_start_ok_iff h (st.vec+2) e.code hall).1 hgrow
  have hfours:=packFours_ok eof (st.vec+2+fmt.eventsAt +
   (packedEvents fmt (head::runOf fmt head.value rest)).length)
   (fours fmt (head::runOf fmt head.value rest))
  unfold emitVector
  simp only[he,hg,hpacked,singleton_append,Bool.not_true,Bool.false_eq_true,if_false]
  split
  · rfl
  · next hfour=>
     rw[Bool.not_eq_true,Bool.not_eq_false'] at hfour
     have hbytes:=hfours.2 hfour
     split
     · rfl
     · next hlast=>
        refine absurd ⟨⟨by simp[he],hall⟩,hrun,?_,?_⟩ hnot
        · intro hsome
          have:=hfours.1.1 hfour
          rw[fours_length,if_pos hsome,hlength] at this
          exact this
        · rw[hbytes,foursBytes_fours_length,hlength,length_cons] at hlast
          unfold vectorLength
          omega

end Vector

end OpenAvnu.MrpVectors
