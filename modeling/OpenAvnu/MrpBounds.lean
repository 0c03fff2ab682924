import OpenAvnu.Msrp
import OpenAvnu.Mvrp

/-!
# Where the parsers read

The check leaves out the first value and the byte that is read behind the events.
-/

namespace OpenAvnu.MrpBounds

open MrpDecode List

variable {κ α:Type}

def checkedSize (r:Reader κ α) (numvalues:Nat) : Nat :=
 match r.fourPacked with
 | none=>numvalues/3
 | some _=>numvalues/3+numvalues/4
def vectorSpan (r:Reader κ α) (numvalues:Nat) : Nat :=
 match r.fourPacked with
 | none=>r.firstLength+packedBytes 3 numvalues
 | some _=>r.firstLength+packedBytes 3 numvalues+packedBytes 4 numvalues

/-- With four-packed values a second check covers all of the vector. -/
def inspectedSize (r:Reader κ α) (numvalues:Nat) : Nat :=
 match r.fourPacked with
 | none=>r.firstLength+packedBytes 3 numvalues+1
 | some _=>r.firstLength

lemma readBody_stop (r:Reader κ α) (numvalues:Nat) (body:List UInt8) : (readBody r numvalues body).2=
  if body.length ≤ checkedSize r numvalues then .error .malformed
  else if body.length < inspectedSize r numvalues then .error .overread
  else if body.length≤vectorSpan r numvalues then .error .malformed
  else .ok (body.drop (vectorSpan r numvalues)) := by
 unfold readBody checkedSize inspectedSize vectorSpan
 cases r.fourPacked with
 | none=>
  dsimp only
  split
  · rfl
  split
  · rfl
  rw[if_neg (by omega)]
 | some set=>
  dsimp only
  split
  · rfl
  split
  · rfl
  split<;>rfl

def numberOfValues (h0 h1:UInt8) : Nat := (h0.toNat*256+h1.toNat)%8192

def nextVector (r:Reader κ α) : List UInt8 → Option (List UInt8)
 | h0::h1::body=>
  let numvalues:=numberOfValues h0 h1
  if h0=0 ∧ h1=0 then none
  else if numvalues=0 then
   if r.skipsEmpty then some (body.drop r.firstLength) else none
  else if checkedSize r numvalues<body.length ∧ vectorSpan r numvalues<body.length then
   some (body.drop (vectorSpan r numvalues))
  else none
 | _=>none

def VectorFits (r:Reader κ α) : List UInt8 → Prop
 | h0::h1::body=>
  numberOfValues h0 h1=0 ∨ body.length ≤ checkedSize r (numberOfValues h0 h1) ∨
   inspectedSize r (numberOfValues h0 h1)≤body.length
 | _=>False

inductive VectorReached (r:Reader κ α) : List UInt8 → List UInt8 → Prop where
 | here (data:List UInt8) : VectorReached r data data
 | behind {data next last:List UInt8} (hnext:nextVector r data=some next)
  (hlast:VectorReached r next last) : VectorReached r data last

lemma nextVector_length {r:Reader κ α} {data next:List UInt8}
 (h:nextVector r data=some next) : next.length+2≤data.length := by
 rcases data with _|⟨h0,_|⟨h1,body⟩⟩
 · cases h
 · cases h
 simp only[nextVector] at h
 split at h
 · cases h
 split at h
 · split at h
   · cases h
     simp
   · cases h
 split at h
 · cases h
   simp
 · cases h

lemma readVectors_cases [DecidableEq κ] (r:Reader κ α) (fuel:Nat) (seen:List κ)
 (data:List UInt8) : (nextVector r data=none ∧ ¬VectorFits r data ∧
  (readVectors r (fuel+1) seen data).2=.error .overread) ∨
  (nextVector r data=none ∧ VectorFits r data ∧
   ((readVectors r (fuel+1) seen data).2=.error .malformed ∨
    ∃rest,data=0::0::rest ∧
     (readVectors r (fuel+1) seen data).2=.ok (seen,data))) ∨
  (∃next seen',nextVector r data=some next ∧ VectorFits r data ∧
   (readVectors r (fuel+1) seen data).2=(readVectors r fuel seen' next).2) := by
 rcases data with _|⟨h0,_|⟨h1,body⟩⟩
 · exact .inl ⟨rfl,id,rfl⟩
 · exact .inl ⟨rfl,id,rfl⟩
 by_cases hend:h0=0 ∧ h1=0
 · obtain ⟨rfl,rfl⟩:=hend
   exact .inr (.inl ⟨rfl,.inl rfl,.inr ⟨body,rfl,rfl⟩⟩)
 simp only[nextVector,readVectors,if_neg hend]
 by_cases hempty:numberOfValues h0 h1=0
 · have hempty':(h0.toNat*256+h1.toNat)%8192=0:=hempty
   simp only[if_pos hempty,if_pos hempty']
   cases r.skipsEmpty with
   | false=>exact .inr (.inl ⟨rfl,.inl hempty,.inl rfl⟩)
   | true=>exact .inr (.inr ⟨_,_,rfl,.inl hempty,rfl⟩)
 have hempty':¬(h0.toNat*256+h1.toNat)%8192=0:=hempty
 have hstop:(readBody r ((h0.toNat*256+h1.toNat)%8192) body).2=_:=
  readBody_stop r (numberOfValues h0 h1) body
 simp only[if_neg hempty,if_neg hempty']
 generalize readBody r ((h0.toNat*256+h1.toNat)%8192) body=parsed at hstop ⊢
 obtain ⟨calls,outcome⟩:=parsed
 subst hstop
 have hspan:body.length≤vectorSpan r (numberOfValues h0 h1) ∨
  inspectedSize r (numberOfValues h0 h1)≤body.length:=by
  unfold vectorSpan inspectedSize
  cases r.fourPacked<;>dsimp only<;>omega
 by_cases hchecked:body.length ≤ checkedSize r (numberOfValues h0 h1)
 · rw[if_pos hchecked,if_neg (by omega)]
   exact .inr (.inl ⟨rfl,.inr (.inl hchecked),.inl rfl⟩)
 by_cases hinspected:body.length < inspectedSize r (numberOfValues h0 h1)
 · rw[if_neg hchecked,if_pos hinspected,if_neg (by omega)]
   refine .inl ⟨rfl,?_,rfl⟩
   rintro (h|h|h)<;>omega
 rw[if_neg hchecked,if_neg hinspected]
 by_cases hlast:body.length≤vectorSpan r (numberOfValues h0 h1)
 · rw[if_pos hlast,if_neg (by omega)]
   exact .inr (.inl ⟨rfl,.inr (.inr (by omega)),.inl rfl⟩)
 · rw[if_neg hlast,if_pos (by omega)]
   exact .inr (.inr ⟨_,_,rfl,.inr (.inr (by omega)),rfl⟩)

lemma readVectors_spec [DecidableEq κ] (r:Reader κ α) {fuel:Nat} (seen:List κ)
 {data:List UInt8} (hfuel:data.length<fuel) : (readVectors r fuel seen data).2 ≠ .error .fuel ∧
  ((readVectors r fuel seen data).2=.error .overread ↔
   ∃last,VectorReached r data last ∧ ¬VectorFits r last) ∧
  ∀rest,(∃seen',(readVectors r fuel seen data).2=.ok (seen',rest)) ↔
   VectorReached r data rest ∧ ∃tail,rest=0::0::tail := by
 induction fuel generalizing seen data with
 | zero=>omega
 | succ fuel ih=>
  have hstops:nextVector r data=none → ∀last,VectorReached r data last → last=data:=by
   intro hnone last hlast
   cases hlast with
   | here=>rfl
   | behind hnext=>simp[hnone] at hnext
  rcases readVectors_cases r fuel seen data with
   ⟨hnone,hout,hstop⟩ | ⟨hnone,hfits,hstop⟩ | ⟨next,seen',hnext,hfits,hstop⟩
  · rw[hstop]
    refine ⟨by simp,iff_of_true rfl ⟨data,.here data,hout⟩,fun rest=>?_⟩
    refine iff_of_false (by simp) ?_
    rintro ⟨hrest,tail,rfl⟩
    rw[←hstops hnone _ hrest] at hout
    exact hout (.inl rfl)
  · have hinside:¬∃last,VectorReached r data last ∧ ¬VectorFits r last:=by
     rintro ⟨last,hlast,hout⟩
     rw[hstops hnone last hlast] at hout
     exact hout hfits
    rcases hstop with hstop|⟨tail,rfl,hstop⟩
    · rw[hstop]
      refine ⟨by simp,iff_of_false (by simp) hinside,fun rest=>?_⟩
      refine iff_of_false (by simp) ?_
      rintro ⟨hrest,tail,rfl⟩
      rw[←hstops hnone _ hrest] at hstop
      simp[readVectors] at hstop
    · rw[hstop]
      refine ⟨by simp,iff_of_false (by simp) hinside,fun rest=>?_⟩
      constructor
      · rintro ⟨seen',hok⟩
        cases hok
        exact ⟨.here _,tail,rfl⟩
      · rintro ⟨hrest,-⟩
        exact ⟨seen,by rw[hstops hnone rest hrest]⟩
  · have hlength:=nextVector_length hnext
    obtain ⟨hterm,hover,hgoes⟩:=@ih seen' next (by omega)
    have hreach:∀last,VectorReached r data last ↔
     last=data ∨ VectorReached r next last:=by
     intro last
     constructor
     · intro h
       cases h with
       | here=>exact .inl rfl
       | behind hnext' hlast=>
        rw[hnext] at hnext'
        cases hnext'
        exact .inr hlast
     · rintro (rfl|h)
       · exact .here _
       · exact .behind hnext h
    rw[hstop]
    refine ⟨hterm,hover.trans ?_,fun rest=>(hgoes rest).trans ?_⟩
    · simp only[hreach]
      constructor
      · rintro ⟨last,hlast,hout⟩
        exact ⟨last,.inr hlast,hout⟩
      · rintro ⟨last,rfl|hlast,hout⟩
        · exact absurd hfits hout
        · exact ⟨last,hlast,hout⟩
    · rw[hreach]
      constructor
      · rintro ⟨hrest,htail⟩
        exact ⟨.inr hrest,htail⟩
      · rintro ⟨rfl|hrest,tail,htail⟩
        · subst htail
          simp[nextVector] at hnext
        · exact ⟨hrest,tail,htail⟩

lemma VectorReached.length_le {r:Reader κ α} {data last:List UInt8}
 (h:VectorReached r data last) : last.length≤data.length := by
 induction h with
 | here=>exact Nat.le_refl _
 | behind hnext _ ih=>
  have:=nextVector_length hnext
  omega

/-- The head is not read again, and is read inside the frame exactly if `fits` holds. -/
def HeadRead (fits:Prop) (size:Nat) : Dispatch κ α → Prop
 | .stop why=>why ≠ .fuel ∧ (why=.overread↔¬fits)
 | .resume rest=>rest.length ≤ size ∧ fits
 | .vectors _ rest=>rest.length ≤ size ∧ fits

section Messages
variable (dispatch:UInt8 → UInt8 → List UInt8 → Dispatch κ α)

def Orderly (fits:UInt8 → UInt8 → List UInt8 → Prop) : Prop := ∀type length data,
  HeadRead (fits type length data) data.length (dispatch type length data)

/-- Whether the parser stays inside the frame in a message: at its head and at every vector it
comes to. -/
def MessageFits (fits:UInt8 → UInt8 → List UInt8 → Prop) : List UInt8 → Prop
 | type::length::data=>data=[] ∨ (type=0 ∧ length=0) ∨
  (fits type length data ∧ ∀r rest,dispatch type length data=.vectors r rest →
   ∀last,VectorReached r rest last → VectorFits r last)
 | _=>True

inductive MessageReached : Nat → List UInt8 → List UInt8 → Prop where
 | here (endmarks:Nat) (data:List UInt8) : MessageReached endmarks data data
 | endmark {endmarks:Nat} {data last:List UInt8} (hdata:data≠[])
  (hfirst:endmarks+1<2) (hlast:MessageReached (endmarks+1) data last) : MessageReached endmarks (0::0::data) last
 | resume {endmarks:Nat} {type length:UInt8} {data rest last:List UInt8} (hdata:data≠[])
  (hhead:¬(type=0 ∧ length=0)) (hrest:dispatch type length data=.resume rest)
  (hlast:MessageReached 0 rest last) : MessageReached endmarks (type::length::data) last
 | vectors {endmarks:Nat} {type length:UInt8} {data rest tail last:List UInt8}
  {r:Reader κ α} (hdata:data≠[]) (hhead:¬(type=0 ∧ length=0))
  (hrest:dispatch type length data=.vectors r rest)
  (htail:VectorReached r rest (0::0::tail))
  (hlast:MessageReached 0 (0::0::tail) last) : MessageReached endmarks (type::length::data) last

variable {dispatch} {fits:UInt8 → UInt8 → List UInt8 → Prop} {endmarks:Nat}

lemma reached_dispatched {type length:UInt8} {data last:List UInt8} (hdata:data≠[])
 (hhead:¬(type=0 ∧ length=0)) : MessageReached dispatch endmarks (type::length::data) last ↔
  last=type::length::data ∨
   (∃rest,dispatch type length data=.resume rest ∧ MessageReached dispatch 0 rest last) ∨
   ∃r rest tail,dispatch type length data=.vectors r rest ∧
    VectorReached r rest (0::0::tail) ∧ MessageReached dispatch 0 (0::0::tail) last := by
 constructor
 · intro h
   cases h with
   | here=>exact .inl rfl
   | endmark=>exact absurd ⟨rfl,rfl⟩ hhead
   | resume _ _ hrest hlast=>exact .inr (.inl ⟨_,hrest,hlast⟩)
   | vectors _ _ hrest htail hlast=>exact .inr (.inr ⟨_,_,_,hrest,htail,hlast⟩)
 · rintro (rfl|⟨rest,hrest,hlast⟩|⟨r,rest,tail,hrest,htail,hlast⟩)
   · exact .here _ _
   · exact .resume hdata hhead hrest hlast
   · exact .vectors hdata hhead hrest htail hlast

lemma inside_vectors {type length:UInt8} {data rest:List UInt8} {r:Reader κ α}
 (hdata:data≠[]) (hhead:¬(type=0 ∧ length=0))
 (hd:dispatch type length data=.vectors r rest) (hfits:fits type length data) :
 (∀last,MessageReached dispatch endmarks (type::length::data) last →
  MessageFits dispatch fits last) ↔
  (∀last,VectorReached r rest last → VectorFits r last) ∧
   ∀tail,VectorReached r rest (0::0::tail) → ∀last,
    MessageReached dispatch 0 (0::0::tail) last → MessageFits dispatch fits last := by
 constructor
 · intro hall
   refine ⟨fun last hlast=>?_,fun tail htail last hlast=>
    hall last (.vectors hdata hhead hd htail hlast)⟩
   rcases hall _ (.here _ _) with h|h|⟨-,hvectors⟩
   · exact absurd h hdata
   · exact absurd h hhead
   · exact hvectors r rest hd last hlast
 · rintro ⟨hvectors,hmessages⟩ last hlast
   rcases (reached_dispatched hdata hhead).1 hlast with
    rfl | ⟨rest',hrest',-⟩ | ⟨r',rest',tail,hrest',htail,hlast⟩
   · refine .inr (.inr ⟨hfits,fun r' rest' hrest' last hlast=>?_⟩)
     obtain ⟨rfl,rfl⟩:=Dispatch.vectors.inj (hd.symm.trans hrest')
     exact hvectors last hlast
   · simp[hd] at hrest'
   · obtain ⟨rfl,rfl⟩:=Dispatch.vectors.inj (hd.symm.trans hrest')
     exact hmessages tail htail last hlast

lemma readMessages_spec [DecidableEq κ] (h:Orderly dispatch fits) {fuel:Nat}
 (endmarks:Nat) (seen:List κ) {data:List UInt8} (hfuel:data.length<fuel) :
 (readMessages dispatch fuel endmarks seen data).2 ≠ .error .fuel ∧
  ((readMessages dispatch fuel endmarks seen data).2 ≠ .error .overread ↔
   ∀last,MessageReached dispatch endmarks data last → MessageFits dispatch fits last) := by
 induction fuel generalizing endmarks seen data with
 | zero=>omega
 | succ fuel ih=>
  -- where the parse ends without a look at a message, nothing else is reached
  have hshort:(readMessages dispatch (fuel+1) endmarks seen data).2=.ok () →
   (∀last,MessageReached dispatch endmarks data last → last=data) →
   MessageFits dispatch fits data →
   (readMessages dispatch (fuel+1) endmarks seen data).2 ≠ .error .fuel ∧
    ((readMessages dispatch (fuel+1) endmarks seen data).2 ≠ .error .overread ↔
     ∀last,MessageReached dispatch endmarks data last →
      MessageFits dispatch fits last):=by
   intro hok honly hfits
   rw[hok]
   exact ⟨by simp,iff_of_true (by simp) fun last hlast=>honly last hlast▸hfits⟩
  rcases data with _|⟨type,_|⟨length,data⟩⟩
  · exact hshort rfl (fun last hlast=>by cases hlast;rfl) trivial
  · exact hshort rfl (fun last hlast=>by cases hlast;rfl) trivial
  by_cases hdata:data=[]
  · subst hdata
    refine hshort (by simp[readMessages]) (fun last hlast=>?_) (.inl rfl)
    cases hlast with
    | here=>rfl
    | endmark hne=>exact absurd rfl hne
    | resume hne=>exact absurd rfl hne
    | vectors hne=>exact absurd rfl hne
  simp only[length_cons] at hfuel
  by_cases hhead:type=0 ∧ length=0
  · obtain ⟨rfl,rfl⟩:=hhead
    by_cases hfirst:endmarks+1<2
    · have hstep:readMessages dispatch (fuel+1) endmarks seen (0::0::data)=
       readMessages dispatch fuel (endmarks+1) seen data:=by
       rw[readMessages,if_neg hdata,if_pos ⟨rfl,rfl⟩,if_pos hfirst]
      obtain ⟨hterm,hinside⟩:=@ih (endmarks+1) seen data (by omega)
      rw[hstep]
      refine ⟨hterm,hinside.trans ⟨fun hall last hlast=>?_,fun hall last hlast=>
       hall last (.endmark hdata hfirst hlast)⟩⟩
      cases hlast with
      | here=>exact .inr (.inl ⟨rfl,rfl⟩)
      | endmark _ _ hlast=>exact hall last hlast
      | resume _ hhead=>exact absurd ⟨rfl,rfl⟩ hhead
      | vectors _ hhead=>exact absurd ⟨rfl,rfl⟩ hhead
    · refine hshort ?_ (fun last hlast=>?_) (.inr (.inl ⟨rfl,rfl⟩))
      · rw[readMessages,if_neg hdata,if_pos ⟨rfl,rfl⟩,if_neg hfirst]
      · cases hlast with
        | here=>rfl
        | endmark _ hfirst'=>exact absurd hfirst' hfirst
        | resume _ hhead=>exact absurd ⟨rfl,rfl⟩ hhead
        | vectors _ hhead=>exact absurd ⟨rfl,rfl⟩ hhead
  have hreach:=fun last=>@reached_dispatched _ _ dispatch endmarks type length data last
   hdata hhead
  have hfits:MessageFits dispatch fits (type::length::data) ↔
   (fits type length data ∧ ∀r rest,dispatch type length data=.vectors r rest →
    ∀last,VectorReached r rest last → VectorFits r last):=by
   simp[MessageFits,hdata,hhead]
  have horderly:=h type length data
  rw[readMessages,if_neg hdata,if_neg hhead]
  cases hd:dispatch type length data with
  | stop why=>
   have honly:∀last,MessageReached dispatch endmarks (type::length::data) last ↔
    last=type::length::data:=by simp[hreach,hd]
   rw[hd] at horderly
   obtain ⟨hfuelled,hwhy⟩:=horderly
   refine ⟨by simpa using hfuelled,?_⟩
   simp[honly,hfits,hd,hwhy]
  | resume rest=>
   rw[hd] at horderly
   obtain ⟨hlength,hnot⟩:=horderly
   obtain ⟨hterm,hinside⟩:=@ih 0 seen rest (by omega)
   refine ⟨hterm,hinside.trans ?_⟩
   simp[hreach,hd,hfits,hnot]
  | vectors r rest=>
   rw[hd] at horderly
   obtain ⟨hlength,hnot⟩:=horderly
   obtain ⟨hterm,hover,hgoes⟩:=@readVectors_spec _ _ _ r (rest.length+1) seen rest
    (Nat.lt_succ_self _)
   have hall:=@inside_vectors _ _ _ fits endmarks _ _ _ _ _ hdata hhead hd hnot
   dsimp only
   cases hv:(readVectors r (rest.length+1) seen rest).2 with
   | error why=>
    rw[hv] at hterm hover hgoes
    refine ⟨by simpa using hterm,?_⟩
    have hnone:∀tail,¬VectorReached r rest (0::0::tail):=fun tail htail=>by
     obtain ⟨_,hok⟩:=(hgoes _).2 ⟨htail,tail,rfl⟩
     cases hok
    have hinside:why ≠ .overread ↔
     ∀last,VectorReached r rest last → VectorFits r last:=by
     rw[Except.error.injEq] at hover
     rw[ne_eq,hover]
     simp
    simp only[hall,ne_eq,Except.error.injEq]
    rw[←ne_eq,hinside]
    exact (and_iff_left fun tail htail=>absurd htail (hnone tail)).symm
   | ok result=>
    obtain ⟨seen',next⟩:=result
    rw[hv] at hover hgoes
    obtain ⟨hnext,tail,rfl⟩:=(hgoes next).1 ⟨seen',rfl⟩
    have hunique:∀tail',VectorReached r rest (0::0::tail')↔tail'=tail:=by
     intro tail'
     constructor
     · intro htail'
       obtain ⟨_,hok⟩:=(hgoes _).2 ⟨htail',tail',rfl⟩
       cases hok
       rfl
     · rintro rfl
       exact hnext
    have hinside:∀last,VectorReached r rest last → VectorFits r last:=by
     intro last hlast
     by_contra hout
     cases hover.2 ⟨last,hlast,hout⟩
    have hshorter:=hnext.length_le
    obtain ⟨hterm',hinside'⟩:=@ih 0 seen' (0::0::tail) (by omega)
    refine ⟨hterm',hinside'.trans ?_⟩
    rw[hall]
    simp[hunique,and_iff_right hinside]

end Messages

end OpenAvnu.MrpBounds

/-! ## Frames that are read inside -/

namespace OpenAvnu.MrpInside

open MrpEncode MrpDecode MrpBounds Mvrp Mmrp Msrp List

variable {κ α:Type}

def FrameFits (destaddr typelen:List UInt8)
 (dispatch:UInt8 → UInt8 → UInt8 → List UInt8 → Dispatch κ α)
 (fits:UInt8 → UInt8 → UInt8 → List UInt8 → Prop) (frame:List UInt8) : Prop :=
 ∀eth messages,splitFrame frame=some (eth,messages) → eth.typelen=typelen →
  eth.destaddr=destaddr → ∀last,MessageReached (dispatch eth.protocolVersion) 0 messages last →
   MessageFits (dispatch eth.protocolVersion) (fits eth.protocolVersion) last

lemma parseFrame_spec [DecidableEq κ] {destaddr typelen:List UInt8}
 {dispatch:UInt8 → UInt8 → UInt8 → List UInt8 → Dispatch κ α}
 {fits:UInt8 → UInt8 → UInt8 → List UInt8 → Prop}
 (h:∀version,Orderly (dispatch version) (fits version)) (frame:List UInt8) :
 (parseFrame destaddr typelen dispatch frame).2 ≠ .error .fuel ∧
  ((parseFrame destaddr typelen dispatch frame).2 ≠ .error .overread ↔
   FrameFits destaddr typelen dispatch fits frame) := by
 unfold parseFrame FrameFits
 cases hsplit:splitFrame frame with
 | none=>simp
 | some split=>
  obtain ⟨eth,messages⟩:=split
  dsimp only
  by_cases htype:eth.typelen=typelen
  swap
  · rw[if_pos htype]
    refine ⟨by simp,iff_of_true (by simp) ?_⟩
    rintro _ _ heq htype'
    cases heq
    exact absurd htype' htype
  rw[if_neg (not_not.2 htype)]
  by_cases hdest:eth.destaddr=destaddr
  swap
  · rw[if_pos hdest]
    refine ⟨by simp,iff_of_true (by simp) ?_⟩
    rintro _ _ heq _ hdest'
    cases heq
    exact absurd hdest' hdest
  rw[if_neg (not_not.2 hdest)]
  obtain ⟨hterm,hinside⟩:=@readMessages_spec _ _ _ _ _ (h eth.protocolVersion)
   (messages.length+1) 0 [] messages (Nat.lt_succ_self _)
  refine ⟨hterm,hinside.trans ⟨?_,fun hall=>hall _ _ rfl htype hdest⟩⟩
  rintro hall _ _ heq _ _
  cases heq
  exact hall

/-- An unknown message of a newer protocol version needs a vector header. -/
def mvrpHeadFits (version type _length:UInt8) (data:List UInt8) : Prop := type=1 ∨ version=0 ∨ 2≤data.length

variable (version:UInt8)

lemma mvrp_orderly : Orderly (mvrpDispatch version) (mvrpHeadFits version) := by
 intro type length data
 unfold mvrpDispatch mvrpHeadFits HeadRead
 split_ifs with htype hlength hversion
 · simp[htype]
 · simp[htype]
 · simp[hversion]
 rcases data with _|⟨h0,_|⟨h1,rest⟩⟩
 · simp[htype,hversion]
 · simp[htype,hversion]
 · simp only[length_drop,length_cons]
   exact ⟨by omega,.inr (.inr (by omega))⟩

lemma mmrp_orderly : Orderly (mmrpDispatch version) (fun _ _ _=>True) := by
 intro type length data
 unfold mmrpDispatch HeadRead
 -- one case for each attribute type and length that `mmrpDispatch` tells apart
 split_ifs with hsvc hlength hmac hlength
 · simp
 · simp
 · simp
 · simp
 · simp

/-- The list length, and the end mark it points to or the vector header read instead. -/
def ListLengthFits (attribLen:Nat) : List UInt8 → Prop
 | l0::l1::rest=>
  let data:=l0::l1::rest
  let listLen:=l0.toNat*256+l1.toNat
  if attribLen+2+1≤listLen ∧ listLen<data.length ∧ data.getD listLen 0=0 then
   listLen+1<data.length
  else 4≤data.length
 | _=>False

lemma checkAttribListLen_eq (attribLen:Nat) (l0 l1:UInt8) (rest:List UInt8) :
 checkAttribListLen attribLen (l0::l1::rest)=
  let data:=l0::l1::rest
  let listLen:=l0.toNat*256+l1.toNat
  if attribLen+2+1≤listLen ∧ listLen<data.length ∧ data.getD listLen 0=0 then
   if listLen+1<data.length then some (decide (data.getD (listLen+1) 0=0)) else none
  else some false := by
 have hcases:∀(data:List UInt8) (listLen:Nat),
  (if listLen<attribLen+2+1 then some false
   else if data.length≤listLen then some false
   else if data.getD listLen 0≠0 then some false
   else if data.length≤listLen+1 then none
   else some (decide (data.getD (listLen+1) 0=0)))=
  if attribLen+2+1≤listLen ∧ listLen<data.length ∧ data.getD listLen 0=0 then
   if listLen+1<data.length then some (decide (data.getD (listLen+1) 0=0)) else none
  else some false:=by
  intro data listLen
  by_cases hshort:listLen<attribLen+2+1
  · rw[if_pos hshort,if_neg (by omega)]
  by_cases hlong:data.length≤listLen
  · rw[if_neg hshort,if_pos hlong,if_neg (by omega)]
  rw[if_neg hshort,if_neg hlong]
  by_cases hmark:data.getD listLen 0=0
  · have hpoints:attribLen+2+1≤listLen ∧ listLen<data.length ∧
     data.getD listLen 0=0:=⟨by omega,by omega,hmark⟩
    rw[if_neg (not_not.2 hmark)]
    by_cases hlast:data.length≤listLen+1
    · rw[if_pos hlast,if_pos hpoints,if_neg (by omega)]
    · rw[if_neg hlast,if_pos hpoints,if_pos (by omega)]
  · rw[if_pos hmark,if_neg fun h=>hmark h.2.2]
 exact hcases (l0::l1::rest) (l0.toNat*256+l1.toNat)

lemma msrpMessage_headRead (r:Reader MsrpType MsrpValue) (skipped:Nat → Nat)
 (length:UInt8) (data:List UInt8) :
 HeadRead (length.toNat=r.firstLength → ListLengthFits r.firstLength data) data.length
  (msrpMessage r skipped length data) := by
 unfold msrpMessage
 split_ifs with hlength
 · exact ⟨by simp,iff_of_false (by simp) fun h=>h fun hl=>absurd hl hlength⟩
 have hlength:=not_not.1 hlength
 rw[forall_prop_of_true hlength]
 rcases data with _|⟨l0,_|⟨l1,rest⟩⟩
 · exact ⟨by simp,iff_of_true rfl id⟩
 · exact ⟨by simp,iff_of_true rfl id⟩
 rw[checkAttribListLen_eq]
 unfold ListLengthFits
 by_cases hpoints:r.firstLength+2+1≤l0.toNat*256+l1.toNat ∧
  l0.toNat*256+l1.toNat<(l0::l1::rest).length ∧
  (l0::l1::rest).getD (l0.toNat*256+l1.toNat) 0=0
 · simp only[if_pos hpoints]
   by_cases hmark:l0.toNat*256+l1.toNat+1<(l0::l1::rest).length
   swap
   · rw[if_neg hmark]
     exact ⟨by simp,iff_of_true rfl hmark⟩
   rw[if_pos hmark]
   cases (decide ((l0::l1::rest).getD (l0.toNat*256+l1.toNat+1) 0=0)) with
   | true=>exact ⟨by simp;omega,hmark⟩
   | false=>
    rcases rest with _|⟨h0,_|⟨h1,rest⟩⟩
    · simp only[length_cons,length_nil] at hmark
      omega
    · simp only[length_cons,length_nil] at hmark
      omega
    · exact ⟨by simp;omega,hmark⟩
 · simp only[if_neg hpoints]
   rcases rest with _|⟨h0,_|⟨h1,rest⟩⟩
   · exact ⟨by simp,iff_of_true rfl (by simp)⟩
   · exact ⟨by simp,iff_of_true rfl (by simp)⟩
   · exact ⟨by simp;omega,by simp⟩

def msrpLength (type:UInt8) : Option Nat :=
 if type=4 then some 4 else if type=3 then some 8 else if type=1 then some 25
 else if type=2 then some 34 else none
def msrpHeadFits (_version type length:UInt8) (data:List UInt8) : Prop :=
 msrpLength type=some length.toNat → ListLengthFits length.toNat data

lemma msrp_orderly : Orderly (msrpDispatch version) (msrpHeadFits version) := by
 have hmessage:∀(type:UInt8) {r:Reader MsrpType MsrpValue} (skipped:Nat → Nat)
  (length:UInt8) (data:List UInt8),msrpLength type=some r.firstLength →
  HeadRead (msrpHeadFits version type length data) data.length
   (msrpMessage r skipped length data):=by
  intro type r skipped length data htype
  have hhead:msrpHeadFits version type length data ↔
   (length.toNat=r.firstLength → ListLengthFits r.firstLength data):=by
   unfold msrpHeadFits
   rw[htype,Option.some.injEq]
   constructor
   · intro h hlength
     exact hlength▸h hlength.symm
   · intro h hlength
     exact hlength▸h hlength.symm
  rw[hhead]
  exact msrpMessage_headRead r skipped length data
 intro type length data
 unfold msrpDispatch
 split_ifs with hdomain hlisten hadv hfailed
 · exact hmessage type _ _ _ (by simp[msrpLength,hdomain,domainReader])
 · exact hmessage type _ _ _ (by simp[msrpLength,hlisten,listenReader])
 · exact hmessage type _ _ _ (by simp[msrpLength,hadv,talkerReader])
 · exact hmessage type _ _ _ (by simp[msrpLength,hfailed,talkerReader])
 · simp[HeadRead,msrpHeadFits,msrpLength,hdomain,hlisten,hadv,hfailed]

theorem parsers_inside_iff (frame:List UInt8) :
 ((mvrpParse frame).2 ≠ .error .fuel ∧ ((mvrpParse frame).2 ≠ .error .overread ↔
  FrameFits mvrpCustomerBridgeAddr mvrpEtype mvrpDispatch mvrpHeadFits frame)) ∧
 ((mmrpParse frame).2 ≠ .error .fuel ∧ ((mmrpParse frame).2 ≠ .error .overread ↔
  FrameFits mmrpAddr mmrpEtype mmrpDispatch (fun _ _ _ _=>True) frame)) ∧
 ((msrpParse frame).2 ≠ .error .fuel ∧ ((msrpParse frame).2 ≠ .error .overread ↔
  FrameFits msrpAddr msrpEtype msrpDispatch msrpHeadFits frame)) :=
 ⟨parseFrame_spec mvrp_orderly frame,parseFrame_spec mmrp_orderly frame,parseFrame_spec msrp_orderly frame⟩

theorem truncated_frames_overread : (mvrpParse (frameHeader mvrpCustomerBridgeAddr mvrpEtype 0x020000000001++
  [1,2,0,1,0])).2=.error .overread ∧
 (mmrpParse (frameHeader mmrpAddr mmrpEtype 0x020000000001++[2,6,0,1,1,0,94])).2=.error .overread ∧
 (msrpParse (frameHeader msrpAddr msrpEtype 0x020000000001++[4,4,0,7,32,0,6,3,0,0,0])).2=.error .overread := by
 decide

end OpenAvnu.MrpInside
