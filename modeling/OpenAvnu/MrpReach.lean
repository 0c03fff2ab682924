import OpenAvnu.MrpTransmit

/-!
# Where the encoders write

The first vector begins only behind the message header, and an empty LeaveAll is not checked at all.
-/

namespace OpenAvnu.MrpReach

open PackedDigits Mrp MrpEncode MrpVectors MrpMessages MrpFrames List Packer

variable {α:Type}

lemma push_bytes_length_le (p:Packer) (digit:Nat) : (p.push 6 3 digit).bytes.length≤p.bytes.length+1 := by
 unfold push
 split<;>simp

section Vector
variable {fmt:Format α} {eof fv:Nat} {head:Attribute α}

lemma growVector_room {packer:Packer}
 (hroom:fv+fmt.eventsAt+packer.bytes.length+fmt.runSlack≤eof) (last:α)
 (members rest:List (Attribute α)) :
 fv+fmt.eventsAt+(growVector fmt eof fv head last packer members rest).packer.bytes.length +
  fmt.runSlack≤eof+1 ∧
  ((growVector fmt eof fv head last packer members rest).ok=true →
   fv+fmt.eventsAt +
    (growVector fmt eof fv head last packer members rest).packer.bytes.length +
     fmt.runSlack≤eof) := by
 induction rest generalizing last packer members with
 | nil=>
  rw[growVector_nil]
  dsimp only
  omega
 | cons v rest ih=>
  rcases growVector_cons fmt eof fv head last packer members v rest with
   ⟨-,hg⟩ | ⟨-,⟨-,hg⟩ | ⟨e,-,⟨hfull,hg⟩ | ⟨hfits,hg⟩⟩⟩
  · rw[hg]
    dsimp only
    omega
  · rw[hg]
    dsimp only
    omega
  · have:=push_bytes_length_le packer e.code
    rw[hg]
    dsimp only
    refine ⟨by omega,fun h=>by cases h⟩
  · rw[hg]
    exact ih hfits _ _

lemma growVector_start (code:Nat) (rest:List (Attribute α)) : (runOf fmt head.value rest=[] ∧
  growVector fmt eof fv head head.value (start code fmt.padding) [head] rest=
   ⟨start code fmt.padding,[head],rest,true⟩) ∨
 (runOf fmt head.value rest≠[] ∧
  let g:=growVector fmt eof fv head head.value (start code fmt.padding) [head] rest
  (g.packer.bytes=[] ∧ g.ok=false) ∨
   (fv+fmt.eventsAt+fmt.runSlack≤eof ∧
    fv+fmt.eventsAt+g.packer.bytes.length+fmt.runSlack≤eof+1 ∧
    (g.ok=true → fv+fmt.eventsAt+g.packer.bytes.length+fmt.runSlack≤eof))) := by
 cases rest with
 | nil=>exact .inl ⟨rfl,growVector_nil _ _ _⟩
 | cons v rest=>
  have hpush:∀e:PduEvent,
   ((start code fmt.padding).push 6 3 e.code).bytes=[]:=fun _=>rfl
  rcases growVector_cons fmt eof fv head head.value (start code fmt.padding) [head] v rest
   with ⟨hrun,hg⟩ | ⟨hrun,hcases⟩
  · exact .inl ⟨hrun,hg⟩
  · refine .inr ⟨by simp[hrun],?_⟩
    rcases hcases with ⟨-,hg⟩|⟨e,-,⟨-,hg⟩|⟨hfits,hg⟩⟩
    · rw[hg]
      exact .inl ⟨rfl,rfl⟩
    · rw[hg]
      exact .inl ⟨hpush e,rfl⟩
    · rw[hg]
      right
      refine ⟨by omega,?_⟩
      exact growVector_room (by rw[hpush];exact hfits) _ _ _

lemma packFours_reach (eof pos:Nat) (values:List Nat) :
 pos+(packFours eof pos values).1.length ≤ max (pos+1) eof := by
 induction pos, values using packFours.induct eof with
 | case1 pos w x y z rest hroom=>
  simp only[packFours,if_pos hroom,length_nil]
  omega
 | case2 pos w x y z rest hroom hafter=>
  simp only[packFours,if_neg hroom,if_pos hafter,length_cons,length_nil]
  omega
 | case3 pos w x y z rest hroom hafter ih=>
  simp only[packFours,if_neg hroom,if_neg hafter,length_cons]
  omega
 | case4 | case5 | case6=>
  simp only[packFours,length_cons,length_nil]
  omega
 | case7=>
  simp only[packFours,length_nil]
  omega

lemma finish_length_le (base:Nat) (p:Packer) : (p.finish base).length≤p.bytes.length+1 := by
 unfold finish
 split<;>simp
def eventRoom (fmt:Format α) : Nat := if fmt.fourPacked.isSome then 2 else 1

lemma fours_reach (fmt:Format α) (eof pos:Nat) (members:List (Attribute α)) :
 pos+(packFours eof pos (fours fmt members)).1.length ≤ max (pos+(eventRoom fmt-1)) eof := by
 cases hfour:fmt.fourPacked with
 | none=>
  have hnone:fours fmt members=[]:=by simp[fours,hfour]
  rw[hnone]
  simp only[packFours,length_nil]
  omega
 | some f=>
  have hone:eventRoom fmt-1=1:=by simp[eventRoom,hfour]
  rw[hone]
  exact packFours_reach eof pos _

lemma emitVector_reach_le (hslack:2≤fmt.runSlack) {st:Emission α}
 (hfirst:(fmt.firstValue head.value).length≤fmt.eventsAt)
 (hroom:st.vec+2+fmt.eventsAt+eventRoom fmt≤eof) (rest:List (Attribute α)) :
 (emitVector fmt eof st head rest).1.reach ≤ max st.reach eof := by
 have hone:1≤eventRoom fmt:=by
  unfold eventRoom
  split<;>omega
 cases he:ownEvent head with
 | none=>
  simp only[emitVector,he,touch_reach]
  split<;>omega
 | some e=>
  have hstart:=@growVector_start α fmt eof (st.vec+2) head e.code rest
  simp only[emitVector,he]
  generalize growVector fmt eof (st.vec+2) head head.value (start e.code fmt.padding)
   [head] rest=g at hstart ⊢
  have hbytes:st.vec+2+fmt.eventsAt+g.packer.bytes.length≤eof:=by
   rcases hstart with ⟨-,rfl⟩|⟨-,⟨hnil,-⟩|⟨-,hle,-⟩⟩
   · simp only[start,length_nil]
     omega
   · rw[hnil,length_nil]
     omega
   · omega
  have hpacked:g.ok=true → st.vec+2+fmt.eventsAt+(g.packer.finish 6).length +
   (eventRoom fmt-1)≤eof:=by
   have hfinish:=finish_length_le 6 g.packer
   have htwo:eventRoom fmt≤2:=by
    unfold eventRoom
    split<;>omega
   intro hok
   rcases hstart with ⟨-,rfl⟩|⟨-,⟨-,hfail⟩|⟨-,-,hle⟩⟩
   · simp only[start,length_nil] at hfinish ⊢
     omega
   · rw[hok] at hfail
     cases hfail
   · have:=hle hok
     omega
  cases hok:g.ok with
  | false=>
   simp only[Bool.not_false,if_true,touch_reach]
   split_ifs<;>omega
  | true=>
   have hpos:=hpacked hok
   have hfours:=fours_reach fmt eof
    (st.vec+2+fmt.eventsAt+(g.packer.finish 6).length) g.members
   simp only[Bool.not_true,Bool.false_eq_true,if_false]
   generalize packFours eof (st.vec+2+fmt.eventsAt+(g.packer.finish 6).length)
    (fours fmt g.members)=four at hfours ⊢
   have hlast:(Emission.touch (Emission.touch (Emission.touch
    {Emission.touch st (st.vec+2) (fmt.firstValue head.value).length with
      found:=true} (st.vec+2+fmt.eventsAt) g.packer.bytes.length)
    (st.vec+2+fmt.eventsAt) (g.packer.finish 6).length)
    (st.vec+2+fmt.eventsAt+(g.packer.finish 6).length) four.1.length).reach ≤
     max st.reach eof:=by
    simp only[touch_reach]
    split_ifs<;>omega
   split
   · exact hlast
   · split<;>exact hlast

lemma emitVector_reach_tight (hfour:fmt.fourPacked=none) (hslack:2≤fmt.runSlack)
 {st:Emission α} (hfirst:(fmt.firstValue head.value).length=fmt.eventsAt)
 (hpos:0<fmt.eventsAt) (htight:eof ≤ st.vec+2+fmt.eventsAt)
 (rest:List (Attribute α)) : (emitVector fmt eof st head rest).1.reach≤eof ↔
  st.reach≤eof ∧ st.vec+2+fmt.eventsAt≤eof ∧
   ¬((ownEvent head).isSome=true ∧ runOf fmt head.value rest=[]) := by
 cases he:ownEvent head with
 | none=>
  simp only[emitVector,he,touch_reach,hfirst,if_neg (Nat.ne_of_gt hpos),
   Option.isSome_none,Bool.false_eq_true,false_and,not_false_eq_true,and_true]
  omega
 | some e=>
  rcases @growVector_start α fmt eof (st.vec+2) head e.code rest with
   ⟨hrun,hg⟩ | ⟨hrun,⟨hnil,hfail⟩ | ⟨hroom,-⟩⟩
  · have hpacked:((start e.code fmt.padding).finish 6).length=1:=rfl
    have hnone:fours fmt [head]=[]:=by simp[fours,hfour]
    simp only[emitVector,he,hg,hnone,hpacked,packFours,Bool.not_true,Bool.false_eq_true,if_false,hrun]
    split<;>simp[touch_reach]<;>omega
  · simp only[emitVector,he,hfail,hnil,Bool.not_false,if_true,touch_reach,hfirst,
     length_nil,if_neg (Nat.ne_of_gt hpos),hrun,and_false,not_false_eq_true,and_true]
    omega
  · omega

end Vector

/-- The room that is checked in front of a vector covers its first event byte. -/
structure Guarded (fmt:Format α) : Prop where
 proper:Proper fmt
 slack:2≤fmt.runSlack
 size:fmt.eventsAt+eventRoom fmt≤fmt.vectorSize+1

section Message
variable {fmt:Format α} {eof:Nat}

lemma placeAll_reach_le (h:Guarded fmt) {vectors:List (List (Attribute α))}
 (hvectors:∀v∈vectors,IsVector fmt v) {st:Emission α} (hst:st.vec=st.ptr) :
 (placeAll fmt eof st vectors).1.reach ≤ max st.reach eof := by
 induction vectors generalizing st with
 | nil=>exact Nat.le_max_left _ _
 | cons v vectors ih=>
  have hv:=hvectors v mem_cons_self
  cases v with
  | nil=>exact hv.elim
  | cons head run=>
   obtain ⟨hselects,-⟩:=hv
   by_cases hfull:eof ≤ st.ptr+fmt.vectorSize+2
   · rw[placeAll_full hfull]
     exact Nat.le_max_left _ _
   rw[placeAll,if_neg hfull]
   have hsize:=h.size
   have hvector:=@emitVector_reach_le α fmt eof head h.slack st
    (h.proper.first _ hselects) (by omega) run
   cases hok:(emitVector fmt eof st head run).2.2 with
   | false=>simpa[hok] using hvector
   | true=>
    have hplaced:=(emitVector_of_ok h.proper hselects hok).2.2
    have hrest:=@ih (fun w hw=>hvectors w (mem_cons_of_mem _ hw))
     (emitVector fmt eof st head run).1 (by rw[hplaced];rfl)
    simp only[hok,if_true]
    omega

def firstState (fmt:Format α) (base:Nat) (lva:Bool) : Emission α := ⟨base,dataAt fmt base,[],lva,false,base+2,[]⟩

variable {base:Nat} {l:List (Attribute α)}

lemma emitVectors_eq (hentry:base+fmt.vectorSize≤eof) (lva flag:Bool) : emitVectors fmt eof base lva flag l=
  let r:=emitLoop fmt eof l.length (firstState fmt base lva) l
  if !r.2.2 then ⟨false,[],r.2.1,r.1.reach,[]⟩
  else
   let st:=emitEmptyLeaveAll fmt flag r.1
   if st.vec=dataAt fmt base then ⟨true,[],r.2.1,st.reach,[]⟩
   else ⟨true,message fmt st.body,r.2.1,(st.touch st.ptr 2).reach,st.encoded⟩ := by
 unfold emitVectors
 rw[if_neg (by omega)]
 rfl

lemma emitVectors_fails {lva flag:Bool} {st:Emission α}
 (hentry:base+fmt.vectorSize≤eof)
 (hloop:((emitLoop fmt eof l.length (firstState fmt base lva) l).1,
  (emitLoop fmt eof l.length (firstState fmt base lva) l).2.2)=(st,false)) :
 (emitVectors fmt eof base lva flag l).reach=st.reach := by
 obtain ⟨hstate,hflag⟩:=Prod.mk.inj hloop
 rw[emitVectors_eq hentry]
 simp[hflag,hstate]

lemma emitVectors_started (h:Guarded fmt) (hroom:base+fmt.vectorSize+2<eof)
 {head:Attribute α} {run:List (Attribute α)} {vectors:List (List (Attribute α))}
 (hvectors:vectorsFrom fmt 0 l=(head::run)::vectors) (lva flag:Bool) :
 (emitVectors fmt eof base lva flag l).reach≤eof ↔
  (emitVector fmt eof (firstState fmt base lva) head run).1.reach≤eof := by
 have hall:=vectorsFrom_isVector fmt 0 l
 have hselects:fmt.selects head.value=true:=by
  have hhead:=hall (head::run) (by rw[hvectors];exact mem_cons_self)
  exact hhead.1
 have hloop:=emitLoop_eq_placeAll h.proper eof (Nat.le_refl l.length) (firstState fmt base lva)
 have hguard:¬eof≤(firstState fmt base lva).ptr+fmt.vectorSize+2:=by
  change ¬eof≤base+fmt.vectorSize+2
  omega
 rw[hvectors,placeAll,if_neg hguard] at hloop
 cases hok:(emitVector fmt eof (firstState fmt base lva) head run).2.2 with
 | false=>
  simp only[hok] at hloop
  rw[emitVectors_fails (by omega) hloop]
 | true=>
  simp only[hok] at hloop
  obtain ⟨-,hfits,hplaced⟩:=emitVector_of_ok h.proper hselects hok
  have hlast:=hfits.last
  have hfirst:(emitVector fmt eof (firstState fmt base lva) head run).1.reach≤eof:=by
   rw[hplaced]
   simp only[placed,length_cons,firstState] at hlast ⊢
   omega
  refine iff_of_true ?_ hfirst
  have hrest:=@placeAll_reach_le α fmt eof h vectors
   (fun v hv=>hall v (by rw[hvectors];exact mem_cons_of_mem _ hv))
   (emitVector fmt eof (firstState fmt base lva) head run).1 (by rw[hplaced];rfl)
  cases hflag:(placeAll fmt eof (emitVector fmt eof (firstState fmt base lva) head run).1 vectors).2 with
  | false=>
   rw[emitVectors_fails (by omega) (hloop.trans (Prod.ext rfl hflag))]
   exact Nat.le_trans hrest (Nat.max_le.2 ⟨hfirst,Nat.le_refl _⟩)
  | true=>
   have hemitted:(emitVectors fmt eof base lva flag l).ok=true:=by
    have hdone:(emitLoop fmt eof l.length (firstState fmt base lva) l).2.2=true:=
     (congrArg Prod.snd hloop).trans hflag
    rw[emitVectors_eq (by omega)]
    dsimp only
    rw[hdone]
    simp only[Bool.not_true,Bool.false_eq_true,if_false]
    split<;>rfl
   obtain ⟨sent,left,hencodes⟩:=emitVectors_of_ok h.proper hemitted
   have hne:sent≠[]:=by
    rintro rfl
    have hleft:left≠[]:=by
     have hsplit:=hencodes.split
     rw[hvectors,nil_append] at hsplit
     rw[←hsplit]
     simp
    have:=hencodes.full hleft
    simp only[cursorAfter,ne_eq,not_true_eq_false,if_false] at this
    omega
   have hlength:=hencodes.bytes_length h.proper hne
   have hend:=hencodes.room hne
   rw[hencodes.reach]
   split<;>omega

lemma emitVectors_not_started (h:Guarded fmt) (hentry:base+fmt.vectorSize≤eof)
 (hsize:2≤fmt.vectorSize)
 (hnot:vectorsFrom fmt 0 l=[] ∨ eof≤base+fmt.vectorSize+2) (lva flag:Bool) :
 (emitVectors fmt eof base lva flag l).reach≤eof ↔
  (flag=true → fmt.emptyLeaveAll=true →
   dataAt fmt base+2+fmt.attributeLength+2≤eof) := by
 have hloop:=emitLoop_eq_placeAll h.proper eof (Nat.le_refl l.length) (firstState fmt base lva)
 have hplace:placeAll fmt eof (firstState fmt base lva) (vectorsFrom fmt 0 l)=(firstState fmt base lva,true):=by
  rcases hnot with hnil|hfull
  · rw[hnil]
    rfl
  · exact placeAll_full hfull _
 obtain ⟨hstate,hflag⟩:=Prod.mk.inj (hloop.trans hplace)
 have hne:dataAt fmt base+2+fmt.attributeLength≠dataAt fmt base:=by omega
 rw[emitVectors_eq hentry]
 dsimp only
 rw[hflag,hstate]
 by_cases hempty:(flag&&fmt.emptyLeaveAll)=true
 · simp only[emitEmptyLeaveAll,firstState,Bool.not_false,Bool.true_and,hempty,if_true,
    if_neg hne,Bool.not_true,Bool.false_eq_true,if_false,touch_reach,OfNat.ofNat_ne_zero]
   simp only[Bool.and_eq_true] at hempty
   simp only[hempty,forall_const]
   omega
 · simp only[emitEmptyLeaveAll,firstState,Bool.not_false,Bool.true_and,hempty,if_true,
    Bool.not_true,Bool.false_eq_true,if_false]
   simp only[Bool.and_eq_true,not_and,Bool.not_eq_true] at hempty
   refine iff_of_true (by omega) fun hf he=>?_
   rw[hempty hf] at he
   cases he

lemma emitVectors_refused (hentry:eof<base+fmt.vectorSize) (lva flag:Bool) :
 (emitVectors fmt eof base lva flag l).reach=0 := by
 unfold emitVectors
 rw[if_pos hentry]

/-- Whether an empty LeaveAll is put where a vector could not be started, and does not fit. -/
def EmptyOverflows (fmt:Format α) (eof base:Nat) (flag:Bool)
 (vectors:List (List (Attribute α))) : Prop := flag=true ∧ fmt.emptyLeaveAll=true ∧
  (vectors=[] ∨ eof≤base+fmt.vectorSize+2) ∧ base+fmt.vectorSize≤eof ∧
  eof<dataAt fmt base+2+fmt.attributeLength+2

/-- Whether the first vector does not fit: its first value, or the event of a single attribute. -/
def FirstOverflows (fmt:Format α) (eof base:Nat) (vectors:List (List (Attribute α))) : Prop :=
 base+fmt.vectorSize+2<eof ∧ ∃head run rest,vectors=(head::run)::rest ∧
  (eof<dataAt fmt base+2+fmt.eventsAt ∨
   (eof<dataAt fmt base+2+fmt.eventsAt+1 ∧ (ownEvent head).isSome=true ∧ run=[]))

lemma emitVectors_reach_unstarted (h:Guarded fmt) (hsize:2≤fmt.vectorSize) {base:Nat}
 {l:List (Attribute α)} (hnot:vectorsFrom fmt 0 l=[] ∨ eof≤base+fmt.vectorSize+2)
 (lva flag:Bool) : (emitVectors fmt eof base lva flag l).reach≤eof ↔
  ¬EmptyOverflows fmt eof base flag (vectorsFrom fmt 0 l) := by
 by_cases hentry:base+fmt.vectorSize≤eof
 · rw[emitVectors_not_started h hentry hsize hnot]
   simp[EmptyOverflows,hnot,hentry,not_and]
 · rw[emitVectors_refused (by omega)]
   exact iff_of_true (Nat.zero_le _) fun h=>hentry h.2.2.2.1

lemma exists_first_vector {l:List (Attribute α)} (hne:vectorsFrom fmt 0 l≠[]) :
 ∃head run rest,vectorsFrom fmt 0 l=(head::run)::rest ∧ IsVector fmt (head::run) := by
 obtain ⟨v,rest,hvectors⟩:=exists_cons_of_ne_nil hne
 have hvector:=vectorsFrom_isVector fmt 0 l v (by rw[hvectors];exact mem_cons_self)
 cases v with
 | nil=>exact hvector.elim
 | cons head run=>exact ⟨head,run,rest,hvectors,hvector⟩

lemma emitVectors_reach_iff (h:Guarded fmt) (hfour:fmt.fourPacked=none)
 (hfirst:∀v,fmt.selects v=true → (fmt.firstValue v).length=fmt.eventsAt)
 (hpos:0<fmt.eventsAt) (hsize:2≤fmt.vectorSize) (base:Nat) (lva flag:Bool)
 (l:List (Attribute α)) : (emitVectors fmt eof base lva flag l).reach≤eof ↔
  ¬EmptyOverflows fmt eof base flag (vectorsFrom fmt 0 l) ∧
   ¬FirstOverflows fmt eof base (vectorsFrom fmt 0 l) := by
 by_cases hnot:vectorsFrom fmt 0 l=[] ∨ eof≤base+fmt.vectorSize+2
 · have hnone:¬FirstOverflows fmt eof base (vectorsFrom fmt 0 l):=by
    rintro ⟨hroom,head,run,rest,hvectors,-⟩
    rcases hnot with hnil|hfull
    · simp[hnil] at hvectors
    · omega
   rw[emitVectors_reach_unstarted h hsize hnot,and_iff_left hnone]
 · obtain ⟨hne,hroom⟩:=not_or.1 hnot
   have hroom:base+fmt.vectorSize+2<eof:=Nat.not_le.1 hroom
   obtain ⟨head,run,rest,hvectors,hselects,-,-,hrun⟩:=exists_first_vector hne
   have hempty:¬EmptyOverflows fmt eof base flag (vectorsFrom fmt 0 l):=fun h=>hnot h.2.2.1
   have hoverflows:FirstOverflows fmt eof base (vectorsFrom fmt 0 l) ↔
    (eof<dataAt fmt base+2+fmt.eventsAt ∨
     (eof<dataAt fmt base+2+fmt.eventsAt+1 ∧ (ownEvent head).isSome=true ∧
      run=[])):=by
    constructor
    · rintro ⟨-,head',run',rest',hvectors',h⟩
      rw[hvectors] at hvectors'
      cases hvectors'
      exact h
    · intro h
      exact ⟨hroom,head,run,rest,hvectors,h⟩
   rw[emitVectors_started h hroom hvectors,hoverflows,and_iff_right hempty]
   by_cases htight:eof≤dataAt fmt base+2+fmt.eventsAt
   · have hstate:(firstState fmt base lva).reach≤eof:=by
      change base+2≤eof
      omega
     have hiff:=@emitVector_reach_tight α fmt eof head hfour h.slack (firstState fmt base lva)
      (hfirst _ hselects) hpos htight run
     rw[hrun,and_iff_right hstate] at hiff
     rw[hiff]
     simp only[not_or,Nat.not_lt]
     refine and_congr_right fun _=>not_congr ⟨fun h=>⟨by omega,h⟩,fun h=>h.2⟩
   · have hone:eventRoom fmt=1:=by simp[eventRoom,hfour]
     have hle:=@emitVector_reach_le α fmt eof head h.slack (firstState fmt base lva)
      (Nat.le_of_eq (hfirst _ hselects))
      (by rw[hone];change dataAt fmt base+2+_+1 ≤ _;omega) run
     refine iff_of_true (Nat.le_trans hle (Nat.max_le.2 ⟨?_,Nat.le_refl _⟩)) (by omega)
     change base+2≤eof
     omega

lemma emitVectors_reach_roomy (h:Guarded fmt) (hsize:2≤fmt.vectorSize) {base:Nat}
 (hroomy:base+fmt.vectorSize+2<eof →
  dataAt fmt base+2+fmt.eventsAt+eventRoom fmt≤eof) (lva flag:Bool)
 (l:List (Attribute α)) : (emitVectors fmt eof base lva flag l).reach≤eof ↔
  ¬EmptyOverflows fmt eof base flag (vectorsFrom fmt 0 l) := by
 by_cases hnot:vectorsFrom fmt 0 l=[] ∨ eof≤base+fmt.vectorSize+2
 · exact emitVectors_reach_unstarted h hsize hnot lva flag
 · obtain ⟨hne,hroom⟩:=not_or.1 hnot
   have hroom:base+fmt.vectorSize+2<eof:=Nat.not_le.1 hroom
   obtain ⟨head,run,rest,hvectors,hvector⟩:=exists_first_vector hne
   refine iff_of_true ?_ fun h=>hnot h.2.2.1
   rw[emitVectors_started h hroom hvectors]
   have hle:=@emitVector_reach_le α fmt eof head h.slack (firstState fmt base lva)
    (h.proper.first _ hvector.1) (hroomy hroom) run
   refine Nat.le_trans hle (Nat.max_le.2 ⟨?_,Nat.le_refl _⟩)
   change base+2≤eof
   omega

end Message

section Frame
variable {b:Building α} {emit:Nat → List (Attribute α) → Emitted α} {eof:Nat}

lemma append_reach_le_iff : (b.append emit).reach≤eof ↔
 b.reach≤eof ∧ ∀messages,b.messages=some messages →
  (emit (messageListAt+messages.length) b.attribList).reach≤eof := by
 cases hmessages:b.messages with
 | none=>simp[append_of_none hmessages]
 | some messages=>
  have hreach:(b.append emit).reach=max b.reach (emit (messageListAt+messages.length) b.attribList).reach:=by
   cases hok:(emit (messageListAt+messages.length) b.attribList).ok with
   | false=>rw[append_of_fail hmessages hok]
   | true=>rw[append_of_ok hmessages hok]
  simp[hreach]

lemma requireRoom_reach : b.requireRoom.reach=b.reach := by
 unfold Building.requireRoom
 split
 · rfl
 · split<;>rfl

lemma lastReach_le_iff : b.lastReach ≤ maxFrameSize↔b.reach ≤ maxFrameSize := by
 unfold Building.lastReach
 split
 · rfl
 · split
   · rfl
   · split
     · omega
     · rfl

end Frame

end OpenAvnu.MrpReach
