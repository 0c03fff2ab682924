import Mathlib.Algebra.Group.Nat.Defs
import Mathlib.Algebra.Ring.Int.Defs
import Mathlib.Data.List.Induction

/-!
# Arithmetic of seconds and nanoseconds

`openavb_time.c` and `maap_timer_linux.c`, for pointers that are not NULL. Fields are 64-bit signed.
-/

namespace OpenAvnu.Timespecs
open List

structure Timespec where
 (tvSec tvNsec:Int)
 deriving DecidableEq

def u64 (x:Int) : Int := x%2^64
def s64 (x:Int) : Int := (x+2^63)%2^64-2^63
lemma u64_eq {x:Int} (hlow:0≤x) (hhigh:x<2^64) : u64 x=x := Int.emod_eq_of_lt hlow hhigh
lemma s64_eq {x:Int} (hlow:-2^63≤x) (hhigh:x<2^63) : s64 x=x := by
 unfold s64
 omega

def total (t:Timespec) : Int := t.tvSec*10^9+t.tvNsec

structure Normalised (t:Timespec) : Prop where
 sec:0≤t.tvSec
 nsec:0≤t.tvNsec
 carried:t.tvNsec<10^9

/-- The order of the fields, seconds first. -/
def compareFields (a b:Timespec) : Int :=
 if a.tvSec<b.tvSec then -1
 else if b.tvSec<a.tvSec then 1
 else if a.tvNsec<b.tvNsec then -1
 else if b.tvNsec<a.tvNsec then 1
 else 0

def Stands (t:Timespec) (n:Int) : Prop := Normalised t ∧ total t=n
lemma stands_mk {sec nsec n:Int} (hsec:0 ≤ sec) (hnsec:0≤nsec) (hcarried:nsec<10^9)
 (h:sec*10^9+nsec=n) : Stands ⟨sec,nsec⟩ n := ⟨⟨hsec,hnsec,hcarried⟩,h⟩

section
variable {a b:Timespec}

lemma Normalised.eq_of_total (ha:Normalised a) (hb:Normalised b) (h:total a=total b) : a=b := by
 obtain ⟨sec,nsec⟩:=a
 obtain ⟨sec',nsec'⟩:=b
 obtain ⟨-,hlow,hhigh⟩:=ha
 obtain ⟨-,hlow',hhigh'⟩:=hb
 simp only[total] at *
 have hsec:sec=sec':=by omega
 subst hsec
 have hnsec:nsec=nsec':=by omega
 rw[hnsec]

lemma Normalised.total_nonneg (ha:Normalised a) : 0≤total a := by
 obtain ⟨hsec,hnsec,-⟩:=ha
 simp only[total]
 omega

lemma compareFields_sign (ha:Normalised a) (hb:Normalised b) : compareFields a b=(total a-total b).sign := by
 obtain ⟨-,hlow,hhigh⟩:=ha
 obtain ⟨-,hlow',hhigh'⟩:=hb
 unfold compareFields
 split_ifs with hsec hsec' hnsec hnsec'
 · exact (Int.sign_eq_neg_one_of_neg (by simp only[total];omega)).symm
 · exact (Int.sign_eq_one_of_pos (by simp only[total];omega)).symm
 · exact (Int.sign_eq_neg_one_of_neg (by simp only[total];omega)).symm
 · exact (Int.sign_eq_one_of_pos (by simp only[total];omega)).symm
 · have heq:total a-total b=0:=by simp only[total];omega
   rw[heq,Int.sign_zero]

end

/-! ## The pipeline -/

def openavbTimeTimespecToNSec (pTime:Timespec) : Int := u64 (u64 pTime.tvSec*10^9+u64 pTime.tvNsec)
def openavbTimeTimespecFromNSec (nSec:Int) : Timespec := ⟨s64 (nSec/10^9),s64 (nSec%10^9)⟩

def openavbTimeTimespecAddUsec (pTime:Timespec) (us:BitVec 32) : Timespec :=
 let tvSec:=s64 (pTime.tvSec+us.toNat/10^6)
 let us:Int:=us.toNat%10^6
 if 0<us then
  let tvNsec:=s64 (pTime.tvNsec+us*1000)
  -- the divisor is an unsigned constant
  ⟨s64 (tvSec+u64 tvNsec/10^9),s64 (u64 tvNsec%10^9)⟩
 else ⟨tvSec,pTime.tvNsec⟩

def openavbTimeTimespecSubUsec (pTime:Timespec) (us:BitVec 32) : Timespec :=
 let tvSec:=s64 (pTime.tvSec-us.toNat/10^6)
 let us:Int:=us.toNat%10^6
 if 0<us then
  let tvNsec:=s64 (pTime.tvNsec-us*1000)
  if tvNsec<0 then ⟨s64 (tvSec-1),s64 (tvNsec+10^9)⟩ else ⟨tvSec,tvNsec⟩
 else ⟨tvSec,pTime.tvNsec⟩

def timeUSec (pTime:Timespec) : Int := u64 (s64 (pTime.tvSec*10^6+pTime.tvNsec.tdiv 1000))
def openavbTimeTimespecUsecDiff (pTime1 pTime2:Timespec) : Int := s64 (u64 (timeUSec pTime2-timeUSec pTime1))
def openavbTimeTimespecCmp (pTime1 pTime2:Timespec) : Int := compareFields pTime1 pTime2
def openavbTimeUntilUSec (pTime1 pTime2:Timespec) : Int :=
 if timeUSec pTime1<timeUSec pTime2 then u64 (timeUSec pTime2-timeUSec pTime1) else 0

/-- A normalised time whose nanoseconds fit 63 bits. -/
structure Instant extends Timespec where
 normalised:Normalised toTimespec
 inRange:total toTimespec<2^63

instance : CoeOut Instant Timespec := ⟨Instant.toTimespec⟩

section
variable {t:Timespec} (us:BitVec 32)

lemma addUsec_stands (ht:Normalised t) (hbound:t.tvSec<2^34) :
 Stands (openavbTimeTimespecAddUsec t us) (total t+us.toNat*1000) := by
 obtain ⟨hsec,hnsec,hcarried⟩:=ht
 have hus:=us.isLt
 simp (disch := omega) only [openavbTimeTimespecAddUsec,s64_eq,u64_eq,total]
 split_ifs with hpos
 · exact stands_mk (by omega) (by omega) (by omega) (by omega)
 · exact stands_mk (by omega) hnsec hcarried (by omega)

lemma subUsec_stands (ht:Normalised t) (hbound:t.tvSec<2^35) (h:us.toNat*1000≤total t) :
 Stands (openavbTimeTimespecSubUsec t us) (total t-us.toNat*1000) := by
 obtain ⟨hsec,hnsec,hcarried⟩:=ht
 have hus:=us.isLt
 simp only[total] at h
 simp (disch := omega) only [openavbTimeTimespecSubUsec,s64_eq,total]
 split_ifs with hpos hborrow
 · exact stands_mk (by omega) (by omega) (by omega) (by omega)
 · exact stands_mk (by omega) (by omega) (by omega) (by omega)
 · exact stands_mk (by omega) hnsec hcarried (by omega)

lemma toNSec_eq (ht:Normalised t) (h:total t<2^64) : openavbTimeTimespecToNSec t=total t := by
 obtain ⟨hsec,hnsec,hcarried⟩:=ht
 simp only[total] at h
 simp (disch := omega) only [openavbTimeTimespecToNSec,u64_eq,total]
lemma fromNSec_stands {nSec:Int} (hlow:0≤nSec) (hhigh:nSec<2^64) :
 Stands (openavbTimeTimespecFromNSec nSec) nSec := by
 simp (disch := omega) only [openavbTimeTimespecFromNSec,s64_eq]
 exact stands_mk (by omega) (by omega) (by omega) (by omega)

end

section
variable (t b:Instant) (us:BitVec 32)

lemma Instant.tvSec_lt : t.tvSec<2^34 := by
 have h:=t.inRange
 have hnsec:=t.normalised.nsec
 simp only[total] at h
 omega

lemma sub_addUsec : openavbTimeTimespecSubUsec (openavbTimeTimespecAddUsec t us) us=t := by
 obtain ⟨hadded,htotal⟩:=addUsec_stands us t.normalised t.tvSec_lt
 have hlow:=t.normalised.total_nonneg
 -- the sum may pass the range of its operand, but by no more than 32 bits of microseconds
 have hbound:(openavbTimeTimespecAddUsec t us).tvSec<2^35:=by
  have hrange:=t.inRange
  have hus:=us.isLt
  have hnsec:=hadded.nsec
  simp only[total] at htotal hrange
  omega
 obtain ⟨hback,htotal'⟩:=subUsec_stands us hadded hbound (by omega)
 exact hback.eq_of_total t.normalised (by omega)

lemma add_subUsec (h:us.toNat*1000≤total t) :
 openavbTimeTimespecAddUsec (openavbTimeTimespecSubUsec t us) us=t := by
 have hbound:=t.tvSec_lt
 obtain ⟨hless,htotal⟩:=subUsec_stands us t.normalised (by omega) h
 have hrange:=t.inRange
 obtain ⟨hback,htotal'⟩:=addUsec_stands us hless (Instant.tvSec_lt ⟨_,hless,by omega⟩)
 exact hback.eq_of_total t.normalised (by omega)

lemma timeUSec_eq : timeUSec t=total t/1000 := by
 obtain ⟨hsec,hnsec,hcarried⟩:=t.normalised
 have hbound:=t.tvSec_lt
 simp (disch := omega) only [timeUSec,Int.tdiv_eq_ediv_of_nonneg,s64_eq,u64_eq,total]
 omega

lemma usecDiff_eq : openavbTimeTimespecUsecDiff t b=total b/1000-total t/1000 := by
 have hlow:=t.normalised.total_nonneg
 have hlow':=b.normalised.total_nonneg
 have hrange:=t.inRange
 have hrange':=b.inRange
 simp only[openavbTimeTimespecUsecDiff,timeUSec_eq,u64,s64]
 omega

lemma untilUSec_eq : openavbTimeUntilUSec t b=max 0 (openavbTimeTimespecUsecDiff t b) := by
 have hlow:=t.normalised.total_nonneg
 have hrange:=b.inRange
 rw[usecDiff_eq,openavbTimeUntilUSec,timeUSec_eq,timeUSec_eq]
 split_ifs with hlt
 · rw[u64_eq (by omega) (by omega)]
   omega
 · omega

end

theorem pipeline_time_exact (a b:Instant) (us:BitVec 32) (nSec:BitVec 64) :
 (Stands (openavbTimeTimespecAddUsec a us) (total a+us.toNat*1000) ∧
   openavbTimeTimespecSubUsec (openavbTimeTimespecAddUsec a us) us=a) ∧
  (0≤total a-us.toNat*1000 →
   Stands (openavbTimeTimespecSubUsec a us) (total a-us.toNat*1000) ∧
   openavbTimeTimespecAddUsec (openavbTimeTimespecSubUsec a us) us=a) ∧
  (openavbTimeTimespecToNSec a=total a ∧
   openavbTimeTimespecFromNSec (openavbTimeTimespecToNSec a)=a ∧
   Stands (openavbTimeTimespecFromNSec nSec.toNat) nSec.toNat ∧
   openavbTimeTimespecToNSec (openavbTimeTimespecFromNSec nSec.toNat)=nSec.toNat) ∧
  openavbTimeTimespecCmp a b=(total a-total b).sign ∧
  (total a/1000<total b/1000 →
   openavbTimeTimespecUsecDiff a b=openavbTimeUntilUSec a b ∧
   openavbTimeTimespecUsecDiff a b=total b/1000-total a/1000) ∧
  (total b/1000≤total a/1000 →
   openavbTimeUntilUSec a b=0 ∧ openavbTimeTimespecUsecDiff a b≤0) := by
 have hrange:=a.inRange
 have hbound:=a.tvSec_lt
 have hto:=toNSec_eq a.normalised (by omega)
 refine ⟨⟨addUsec_stands us a.normalised hbound,sub_addUsec a us⟩,fun h=>
  ⟨subUsec_stands us a.normalised (by omega) (by omega),add_subUsec a us (by omega)⟩,
  ⟨hto,?_,?_⟩,compareFields_sign a.normalised b.normalised,fun h=>?_,fun h=>?_⟩
 · rw[hto]
   obtain ⟨hfrom,htotal⟩:=fromNSec_stands a.normalised.total_nonneg (by omega)
   exact hfrom.eq_of_total a.normalised htotal
 · have hn:=nSec.isLt
   have hlow:(0:Int)≤nSec.toNat:=by omega
   obtain ⟨hfrom,htotal⟩:=fromNSec_stands hlow (by omega)
   exact ⟨⟨hfrom,htotal⟩,(toNSec_eq hfrom (by omega)).trans htotal⟩
 · rw[untilUSec_eq,usecDiff_eq]
   exact ⟨by omega,rfl⟩
 · rw[untilUSec_eq,usecDiff_eq]
   exact ⟨by omega,by omega⟩

theorem pipeline_time_exact_borrow : Stands (openavbTimeTimespecSubUsec ⟨1,0⟩ 1) (total ⟨1,0⟩-1000) ∧
  openavbTimeTimespecAddUsec (openavbTimeTimespecSubUsec ⟨1,0⟩ 1) 1=⟨1,0⟩ :=
 let second:Instant:=⟨⟨1,0⟩,⟨by decide,by decide,by decide⟩,by decide⟩
 (pipeline_time_exact second second 1 0).2.1 (by decide)

/-! ## The MAAP timer -/

def timeAdd (a b:Timespec) : Timespec :=
 let tvSec:=s64 (a.tvSec+b.tvSec)
 let tvNsec:=s64 (a.tvNsec+b.tvNsec)
 if 1000000000<tvNsec then ⟨s64 (tvSec+1),s64 (tvNsec-1000000000)⟩ else ⟨tvSec,tvNsec⟩
def timeDiff (a b:Timespec) : Int :=
 let aNs:=s64 (a.tvSec*1000000000+a.tvNsec)
 let bNs:=s64 (b.tvSec*1000000000+b.tvNsec)
 s64 (bNs-aNs)
def timeCmp (a b:Timespec) : Int := compareFields a b
def timePassed (current target:Timespec) : Bool :=
 if current.tvSec<target.tvSec then false
 else if current.tvSec=target.tvSec ∧ current.tvNsec<target.tvNsec then false
 else true
def timeSetFromNanos (nsec:BitVec 64) : Timespec :=
 let tvSec:Int:=nsec.toNat/1000000000
 ⟨tvSec,nsec.toNat-tvSec*1000000000⟩

/-- What a `Time` holds: a normalised time whose seconds fit their type. -/
structure Moment extends Timespec where
 normalised:Normalised toTimespec
 inType:tvSec<2^63

instance : CoeOut Moment Timespec := ⟨Moment.toTimespec⟩
def timeSum (a:Moment) (bs:List Moment) : Timespec := bs.foldl (fun t (b:Moment)=>timeAdd t b) a
def sumTotal (a:Moment) (bs:List Moment) : Int := total a+(bs.map fun b:Moment=>total b).sum

/-- Every intermediate result of the additions is normalised and stands for the sum so far. -/
def Exact (a:Moment) (bs:List Moment) : Prop := ∀bs',bs' <+: bs → Stands (timeSum a bs') (sumTotal a bs')

/-- The seconds of the sum fit, and at no addition do the fractions sum to exactly one second. -/
def Addable (a:Moment) (bs:List Moment) : Prop := sumTotal a bs<2^63*10^9 ∧
 ∀bs' b,bs'++[b] <+: bs → sumTotal a bs'%10^9+b.tvNsec≠10^9

/-- `timeCmp` and `timePassed` agree with the sign of `timeDiff`. -/
def Agree (a b:Timespec) : Prop := timeCmp a b= -(timeDiff a b).sign ∧
 timePassed a b=decide (timeDiff a b≤0)

/-- The low 64 bits of a difference, taken for signed, have its sign. -/
def KeepsSign (d:Int) : Prop := (d<0 ↔ 2^63≤d%2^64) ∧ (d=0 ↔ d%2^64=0)

lemma Stands.timeAdd_iff {t:Timespec} {n:Int} (h:Stands t n) (hrange:n<2^63*10^9) (b:Moment) :
 Stands (timeAdd t b) (n+total b) ↔ n+total b<2^63*10^9 ∧ n%10^9+b.tvNsec≠10^9 := by
 obtain ⟨⟨hlow,hnsec,hcarried⟩,rfl⟩:=h
 obtain ⟨hlow',hnsec',hcarried'⟩:=b.normalised
 have hsec:=b.inType
 simp only[total] at hrange ⊢
 have hfraction:(t.tvSec*10^9+t.tvNsec)%10^9=t.tvNsec:=by omega
 have hsum:s64 (t.tvNsec+b.tvNsec)=t.tvNsec+b.tvNsec:=s64_eq (by omega) (by omega)
 have hless:s64 (t.tvNsec+b.tvNsec-1000000000)=t.tvNsec+b.tvNsec-1000000000:=
  s64_eq (by omega) (by omega)
 rw[hfraction]
 simp only[timeAdd,hsum,hless]
 split_ifs with hcarry
 · constructor
   · rintro ⟨⟨hsec,-,-⟩,htotal⟩
     simp only[total,s64] at *
     omega
   · rintro ⟨hrange,-⟩
     simp (disch := omega) only [s64_eq]
     exact stands_mk (by omega) (by omega) (by omega) (by omega)
 · constructor
   · rintro ⟨⟨hsec,-,hfraction⟩,htotal⟩
     simp only[total,s64] at *
     omega
   · rintro ⟨hrange,hfraction⟩
     simp (disch := omega) only [s64_eq]
     exact stands_mk (by omega) (by omega) (by omega) (by omega)

lemma sumTotal_concat (a:Moment) (bs:List Moment) (b:Moment) : sumTotal a (bs++[b])=sumTotal a bs+total b := by
 simp[sumTotal,Int.add_assoc]

lemma forall_concat_prefix {P:List Moment → Moment → Prop} (bs:List Moment) (b:Moment) :
 (∀bs' b',bs'++[b'] <+: bs++[b] → P bs' b') ↔ (∀bs' b',bs'++[b'] <+: bs → P bs' b') ∧ P bs b := by
 constructor
 · intro h
   exact ⟨fun bs' b' hpre=>h bs' b' (hpre.trans (prefix_append bs [b])),h bs b (prefix_refl _)⟩
 · rintro ⟨h,hlast⟩ bs' b' hpre
   rcases prefix_concat_iff.1 hpre with heq|hpre
   · obtain ⟨rfl,hb⟩:=append_inj' heq rfl
     cases hb
     exact hlast
   · exact h bs' b' hpre

lemma exact_iff_addable (a:Moment) (bs:List Moment) : Exact a bs↔Addable a bs := by
 induction bs using List.reverseRecOn with
 | nil=>
  have htotal:sumTotal a []=total a:=Int.add_zero _
  refine iff_of_true (fun bs' h=>?_) ⟨?_,fun bs' b h=>absurd (prefix_nil.1 h) (by simp)⟩
  · rw[prefix_nil.1 h,htotal]
    exact ⟨a.normalised,rfl⟩
  · have hsec:=a.inType
    have hcarried:=a.normalised.carried
    simp only[htotal,total]
    omega
 | append_singleton bs b ih=>
  have hlast:=sumTotal_concat a bs b
  have hsplit:Exact a (bs++[b])↔Exact a bs ∧ Stands (timeAdd (timeSum a bs) b) (sumTotal a bs+total b):=by
   simp only[Exact,prefix_concat_iff,or_imp,forall_and,forall_eq,hlast,and_comm]
   simp[timeSum]
  have hmore:=b.normalised.total_nonneg
  rw[hsplit,ih,Addable,Addable, forall_concat_prefix,hlast]
  constructor
  · rintro ⟨⟨hrange,hbefore⟩,hstands⟩
    have hsum:=ih.2 ⟨hrange,hbefore⟩ bs (prefix_refl bs)
    obtain ⟨hlater,hfraction⟩:=(hsum.timeAdd_iff hrange b).1 hstands
    exact ⟨hlater,hbefore,hfraction⟩
  · rintro ⟨hlater,hbefore,hfraction⟩
    have hrange:sumTotal a bs<2^63*10^9:=by omega
    have hsum:=ih.2 ⟨hrange,hbefore⟩ bs (prefix_refl bs)
    exact ⟨⟨hrange,hbefore⟩,(hsum.timeAdd_iff hrange b).2 ⟨hlater,hfraction⟩⟩

lemma timePassed_eq {a b:Timespec} (ha:Normalised a) (hb:Normalised b) :
 timePassed a b=decide (total b-total a≤0) := by
 obtain ⟨-,hnsec,hcarried⟩:=ha
 obtain ⟨-,hnsec',hcarried'⟩:=hb
 simp only[timePassed,total]
 split_ifs with hsec hnsec
 · exact (decide_eq_false (by omega)).symm
 · exact (decide_eq_false (by omega)).symm
 · exact (decide_eq_true (by omega)).symm

lemma sign_eq_sign_iff (d e:Int) : d.sign=e.sign↔(d<0↔e<0) ∧ (d=0↔e=0) := by
 have hsign:∀x:Int,(x<0 ∧ x.sign= -1) ∨ (x=0 ∧ x.sign=0) ∨ (0<x ∧ x.sign=1):=by
  intro x
  rcases Int.lt_trichotomy x 0 with hneg|rfl|hpos
  · exact .inl ⟨hneg,Int.sign_eq_neg_one_of_neg hneg⟩
  · exact .inr (.inl ⟨rfl,rfl⟩)
  · exact .inr (.inr ⟨hpos,Int.sign_eq_one_of_pos hpos⟩)
 have hd:=hsign d
 have he:=hsign e
 omega

lemma agree_iff {a b:Timespec} (ha:Normalised a) (hb:Normalised b) : Agree a b↔KeepsSign (total b-total a) := by
 have hdiff:timeDiff a b=s64 (total b-total a):=by
  simp only[timeDiff,s64,total]
  omega
 rw[Agree,timeCmp,compareFields_sign ha hb,timePassed_eq ha hb,hdiff,← Int.neg_sub,Int.sign_neg,Int.neg_inj,
  sign_eq_sign_iff,decide_eq_decide,KeepsSign]
 simp only[s64]
 omega

/-- Exactly if the seconds fit, no fractions add up to one second and the difference keeps its sign.
-/
theorem timer_time_exact_iff (a a':Moment) (bs bs':List Moment) :
 (∀nsec,Stands (timeSetFromNanos nsec) nsec.toNat) ∧
 (Exact a bs ∧ Exact a' bs' ∧ Agree (timeSum a bs) (timeSum a' bs') ↔
  Addable a bs ∧ Addable a' bs' ∧ KeepsSign (sumTotal a' bs'-sumTotal a bs)) := by
 refine ⟨fun nsec=>stands_mk (by omega) (by omega) (by omega) (by omega),?_⟩
 rw[← exact_iff_addable,← exact_iff_addable]
 refine and_congr_right fun h=>and_congr_right fun h'=>?_
 obtain ⟨hsum,htotal⟩:=h bs (prefix_refl bs)
 obtain ⟨hsum',htotal'⟩:=h' bs' (prefix_refl bs')
 rw[agree_iff hsum hsum',htotal,htotal']

/-- Half a second twice, and times of 2^63 nanoseconds and more. -/
theorem whole_second_not_carried :
 let half:=timeSetFromNanos 500000000
 let second:=timeSetFromNanos 1000000000
 (timeAdd half half).tvNsec=1000000000 ∧ timeDiff (timeAdd half half) second=0 ∧
  timeCmp (timeAdd half half) second= -1 ∧ timePassed (timeAdd half half) second=false ∧
  timeCmp (timeSetFromNanos 0) (timeSetFromNanos 0x8000000000000000)= -1 ∧
  timeDiff (timeSetFromNanos 0) (timeSetFromNanos 0x8000000000000000)<0 := by
 decide +kernel

end OpenAvnu.Timespecs
