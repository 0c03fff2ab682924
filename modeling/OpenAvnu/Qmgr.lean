import Mathlib.Algebra.GroupWithZero.Nat
import Mathlib.Data.List.Perm.Basic
import OpenAvnu.Intervals
import OpenAvnu.Runs

/-!
# The queue manager

`openavb_qmgr.c`: bandwidth is booked for streams of two classes in an array of slots. A mark
encodes class and slot.
-/

namespace OpenAvnu.Qmgr

open Intervals List Function

def maxAvbSrClasses : Nat := 2
def srClassA : Fin maxAvbSrClasses := ⟨0,by decide⟩
def srClassB : Fin maxAvbSrClasses := ⟨1,by decide⟩
def maxAvbStreamsPerClass : Nat := 16
def maxAvbStreams : Nat := maxAvbSrClasses*maxAvbStreamsPerClass
def etherFrameOverhead : Nat := 24+18
def invalidFwmark : Nat := 0xFFFF
def tcAvbClassShift : Nat := 8
def tcAvbStreamMask : Nat := (1 <<< tcAvbClassShift)-1
def tcAvbMarkClass (m:Nat) : Int := ((m >>> tcAvbClassShift:Nat):Int)-1
def tcAvbMarkStream (m:Nat) : Nat := m &&& tcAvbStreamMask
def tcAvbMark (c s:Nat) : Nat := ((c+1) <<< tcAvbClassShift) ||| (tcAvbStreamMask &&& s)

inductive ShaperMode where
 | disabled | dropAll | allNonsr | dropSr | sw | hwqPerClass
 deriving DecidableEq

/-- The mode of the shaper, and whether the hardware accepts a bandwidth for a class. -/
structure Qdisc where
 mode:ShaperMode
 setupHWQueue:Nat → Nat → Bool

structure QmgrStream where
 (streamBytesPerSec classRate maxIntervalFrames maxFrameSize:Nat)
 deriving DecidableEq

def QmgrStream.zero : QmgrStream := ⟨0,0,0,0⟩

structure Tables where
 classBytesPerSec:Nat → Nat
 streams:Nat → QmgrStream

def Tables.initial : Tables := ⟨fun _=>0,fun _=>.zero⟩
def bookedBytes (classRate maxIntervalFrames maxFrameSize:Nat) : Nat :=
 uint32 (uint32 (uint32 (maxFrameSize+etherFrameOverhead+1)*maxIntervalFrames)*classRate)
def slotIndex (nClass nStream:Nat) : Nat := nClass*maxAvbStreamsPerClass+nStream
def freeSlot (q:Tables) (nClass:Nat) : Option Nat := (List.range maxAvbStreamsPerClass).find? fun nStream=>
  decide ((q.streams (slotIndex nClass nStream)).streamBytesPerSec=0)
def book (q:Tables) (nClass nStream:Nat) (stream:QmgrStream) : Tables where
 streams := update q.streams (slotIndex nClass nStream) stream
 classBytesPerSec:=update q.classBytesPerSec nClass
  (uint32 (q.classBytesPerSec nClass+stream.streamBytesPerSec))

def openavbQmgrAddStream (qdisc:Qdisc) (q:Tables)
 (nClass classRate maxIntervalFrames maxFrameSize:Nat) : Tables×Nat :=
 let streamBytesPerSec:=bookedBytes classRate maxIntervalFrames maxFrameSize
 if maxAvbSrClasses≤nClass ∨ streamBytesPerSec=0 then (q,invalidFwmark)
 else match freeSlot q nClass with
  | none=>(q,invalidFwmark)
  | some nStream=>
   if qdisc.mode ≠ .disabled ∧
    qdisc.setupHWQueue nClass (uint32 (q.classBytesPerSec nClass+streamBytesPerSec))=false then
    (q,invalidFwmark)
   else (book q nClass nStream ⟨streamBytesPerSec,classRate,maxIntervalFrames,maxFrameSize⟩,
    tcAvbMark nClass nStream)

def unbook (q:Tables) (nClass idx:Nat) : Tables where
 streams := update q.streams idx .zero
 classBytesPerSec:=update q.classBytesPerSec nClass
  (uint32 (q.classBytesPerSec nClass+(2^32-(q.streams idx).streamBytesPerSec)))

/-- `none` when a slot outside the array is read. The hardware's answer is ignored. -/
def openavbQmgrRemoveStream (q:Tables) (fwmark:Nat) : Option Tables :=
 if fwmark=invalidFwmark then some q
 else
  let nClass:=tcAvbMarkClass fwmark
  let nStream:=tcAvbMarkStream fwmark
  if maxAvbStreams≤nStream ∨ nClass<0 ∨ (maxAvbSrClasses:Int)≤nClass then some q
  else
   let idx:=slotIndex nClass.toNat nStream
   if maxAvbStreams ≤ idx then none
   else if (q.streams idx).streamBytesPerSec=0 then some q
   else some (unbook q nClass.toNat idx)

variable {s c:Nat} (m:Nat)

lemma tcAvbMark_eq (hs:s<256) : tcAvbMark c s=256*(c+1)+s := by
 have hmask:tcAvbStreamMask &&& s=s:=by
  rw[Nat.and_comm]
  exact (Nat.and_two_pow_sub_one_eq_mod s 8).trans (Nat.mod_eq_of_lt hs)
 rw[tcAvbMark,hmask,←Nat.shiftLeft_add_eq_or_of_lt (by exact hs)]
 simp only[tcAvbClassShift]
 omega

lemma tcAvbMarkStream_eq : tcAvbMarkStream m=m%256 := Nat.and_two_pow_sub_one_eq_mod m 8
lemma tcAvbMarkClass_eq : tcAvbMarkClass m=(m/256:Nat)-1 := by
 rw[tcAvbMarkClass,Nat.shiftRight_eq_div_pow]
 rfl
lemma mark_decodes (hs:s < maxAvbStreamsPerClass) :
 tcAvbMarkClass (tcAvbMark c s)=c ∧ tcAvbMarkStream (tcAvbMark c s)=s := by
 have hs':s<16:=hs
 rw[tcAvbMark_eq (by omega),tcAvbMarkClass_eq,tcAvbMarkStream_eq]
 omega

variable {c s c' s':Nat}

lemma mark_injective (hs:s < maxAvbStreamsPerClass) (hs':s' < maxAvbStreamsPerClass)
 (h:tcAvbMark c s=tcAvbMark c' s') : c=c' ∧ s=s' := by
 obtain ⟨hc,hn⟩:=mark_decodes (c:=c) hs
 obtain ⟨hc',hn'⟩:=mark_decodes (c:=c') hs'
 rw[h] at hc hn
 exact ⟨by omega,by omega⟩

lemma mark_valid (c:Nat) (hs:s < maxAvbStreamsPerClass) : tcAvbMark c s≠invalidFwmark := by
 have hs':s<16:=hs
 rw[tcAvbMark_eq (by omega),invalidFwmark]
 omega

lemma slotIndex_injective (hs:s < maxAvbStreamsPerClass) (hs':s' < maxAvbStreamsPerClass)
 (h:slotIndex c s=slotIndex c' s') : c=c' ∧ s=s' := by
 have h16:s<16:=hs
 have h16':s'<16:=hs'
 simp only[slotIndex,maxAvbStreamsPerClass] at h
 omega

def InUse (q:Tables) (c s:Nat) : Prop := c < maxAvbSrClasses ∧ s < maxAvbStreamsPerClass ∧
  (q.streams (slotIndex c s)).streamBytesPerSec≠0
def Reserved (q:Tables) (m:Nat) : Prop := ∃c s,InUse q c s ∧ m=tcAvbMark c s

variable {q:Tables}

lemma reserved_mark (hs:s < maxAvbStreamsPerClass) : Reserved q (tcAvbMark c s)↔InUse q c s := by
 refine ⟨?_,fun h=>⟨c,s,h,rfl⟩⟩
 rintro ⟨c',s',h,hmark⟩
 obtain ⟨rfl,rfl⟩:=mark_injective hs h.2.1 hmark
 exact h
lemma freeSlot_some (h:freeSlot q c=some s) :
 s < maxAvbStreamsPerClass ∧ (q.streams (slotIndex c s)).streamBytesPerSec=0 := by
 have htest:=find?_some h
 exact ⟨mem_range.1 (mem_of_find?_eq_some h),of_decide_eq_true htest⟩

lemma openavbQmgrAddStream_cases (qdisc:Qdisc) (q:Tables)
 (nClass classRate maxIntervalFrames maxFrameSize:Nat) :
 openavbQmgrAddStream qdisc q nClass classRate maxIntervalFrames maxFrameSize=(q,invalidFwmark) ∨
  ∃s,nClass < maxAvbSrClasses ∧ s < maxAvbStreamsPerClass ∧ ¬InUse q nClass s ∧
   bookedBytes classRate maxIntervalFrames maxFrameSize≠0 ∧
   openavbQmgrAddStream qdisc q nClass classRate maxIntervalFrames maxFrameSize=
    (book q nClass s ⟨bookedBytes classRate maxIntervalFrames maxFrameSize,classRate,
     maxIntervalFrames,maxFrameSize⟩,tcAvbMark nClass s) := by
 simp only[openavbQmgrAddStream]
 by_cases hbad:maxAvbSrClasses≤nClass ∨ bookedBytes classRate maxIntervalFrames maxFrameSize=0
 · exact .inl (if_pos hbad)
 rw[if_neg hbad]
 cases hfree:freeSlot q nClass with
 | none=>exact .inl rfl
 | some s=>
  obtain ⟨hs,hzero⟩:=freeSlot_some hfree
  by_cases hrefused:qdisc.mode ≠ .disabled ∧ qdisc.setupHWQueue nClass (uint32
   (q.classBytesPerSec nClass+bookedBytes classRate maxIntervalFrames maxFrameSize))=false
  · exact .inl (if_pos hrefused)
  · exact .inr ⟨s,by omega,hs,fun huse=>huse.2.2 hzero,by omega,if_neg hrefused⟩

lemma InUse.slot_ne (h:InUse q c' s') (hs:s < maxAvbStreamsPerClass)
 (hsame:¬(c'=c ∧ s'=s)) : slotIndex c' s'≠slotIndex c s :=
 fun heq=>hsame (slotIndex_injective h.2.1 hs heq)

lemma inUse_book {stream:QmgrStream} (hc:c < maxAvbSrClasses) (hs:s < maxAvbStreamsPerClass)
 (hstream:stream.streamBytesPerSec≠0) : InUse (book q c s stream) c' s'↔InUse q c' s' ∨ (c'=c ∧ s'=s) := by
 by_cases hsame:c'=c ∧ s'=s
 · obtain ⟨rfl,rfl⟩:=hsame
   simp[InUse,book,hc,hs,hstream]
 · refine ⟨fun h=>.inl ?_,fun h=>(h.resolve_right hsame) |> fun h=>?_⟩
   · have hne:=h.slot_ne hs hsame
     simpa[InUse,book,update_of_ne hne] using h
   · have hne:=h.slot_ne hs hsame
     simpa[InUse,book,update_of_ne hne] using h

lemma inUse_unbook (hs:s < maxAvbStreamsPerClass) :
 InUse (unbook q c (slotIndex c s)) c' s'↔InUse q c' s' ∧ ¬(c'=c ∧ s'=s) := by
 by_cases hsame:c'=c ∧ s'=s
 · obtain ⟨rfl,rfl⟩:=hsame
   simp[InUse,unbook,QmgrStream.zero]
 · refine ⟨fun h=>⟨?_,hsame⟩,fun h=>?_⟩
   · have hne:=h.slot_ne hs hsame
     simpa[InUse,unbook,update_of_ne hne] using h
   · have hne:=h.1.slot_ne hs hsame
     simpa[InUse,unbook,update_of_ne hne] using h.1

lemma openavbQmgrRemoveStream_mark (h:InUse q c s) :
 openavbQmgrRemoveStream q (tcAvbMark c s)=some (unbook q c (slotIndex c s)) := by
 obtain ⟨hc,hs,hbooked⟩:=h
 obtain ⟨hclass,hstream⟩:=mark_decodes (c:=c) hs
 have hc':c<2:=hc
 have hs':s<16:=hs
 have hin:¬(maxAvbStreams ≤ s ∨ (c:Int)<0 ∨ (maxAvbSrClasses:Int) ≤ c):=by
  simp only[maxAvbStreams,maxAvbSrClasses]
  omega
 have hidx:¬maxAvbStreams ≤ slotIndex c s:=by
  simp only[slotIndex,maxAvbStreams,maxAvbStreamsPerClass]
  omega
 simp only[openavbQmgrRemoveStream,hclass,hstream,Int.toNat_natCast,if_neg (mark_valid c hs),
  if_neg hin,if_neg hidx,if_neg hbooked]

/-- The low byte of the mark is a slot of one class, or it is rejected. -/
def slotted (m:Nat) : Bool :=
 decide (tcAvbMarkStream m < maxAvbStreamsPerClass ∨ maxAvbStreams≤tcAvbMarkStream m ∨
  tcAvbMarkClass m<0 ∨ (maxAvbSrClasses:Int)≤tcAvbMarkClass m)

lemma openavbQmgrRemoveStream_other {m:Nat} (hslot:slotted m=true) (h:¬Reserved q m) :
 openavbQmgrRemoveStream q m=some q := by
 simp only[openavbQmgrRemoveStream]
 by_cases hinvalid:m=invalidFwmark
 · rw[if_pos hinvalid]
 rw[if_neg hinvalid]
 by_cases hrange:maxAvbStreams≤tcAvbMarkStream m ∨ tcAvbMarkClass m<0 ∨
  (maxAvbSrClasses:Int)≤tcAvbMarkClass m
 · rw[if_pos hrange]
 · have hs:tcAvbMarkStream m < maxAvbStreamsPerClass:=by
    have:=of_decide_eq_true hslot
    omega
   obtain ⟨c,hc⟩:∃c:Nat,tcAvbMarkClass m=c:=Int.eq_ofNat_of_zero_le (by omega)
   have hc':c < maxAvbSrClasses:=by omega
   have hmark:m=tcAvbMark c (tcAvbMarkStream m):=by
    have hs':tcAvbMarkStream m<16:=hs
    rw[tcAvbMark_eq (by omega)]
    rw[tcAvbMarkClass_eq] at hc
    rw[tcAvbMarkStream_eq] at *
    omega
   have hzero:(q.streams (slotIndex c (tcAvbMarkStream m))).streamBytesPerSec=0:=by
    by_contra hne
    exact h ⟨c,tcAvbMarkStream m,⟨hc',hs,hne⟩,hmark⟩
   have hidx:¬maxAvbStreams ≤ slotIndex c (tcAvbMarkStream m):=by
    simp only[slotIndex,maxAvbStreams,maxAvbStreamsPerClass] at *
    omega
   simp[hc,if_neg hidx,if_pos hzero]

end OpenAvnu.Qmgr

/-! ## The accounts of the queue manager -/

namespace OpenAvnu.QmgrAccounts

open Intervals Qmgr Runs List Function

structure Live where
 (mark nClass classRate maxIntervalFrames maxFrameSize:Nat)
 deriving DecidableEq

def Live.bytes (x:Live) : Nat := (x.maxFrameSize+etherFrameOverhead+1)*x.maxIntervalFrames*x.classRate

structure History where
 tables:Tables
 live:List Live

inductive Command where
 | add (nClass:Fin maxAvbSrClasses) (classRate:Nat) (maxIntervalFrames maxFrameSize:UInt16)
 | remove (fwmark:UInt16)

def Command.stream (nClass:Fin maxAvbSrClasses) (classRate:Nat)
 (maxIntervalFrames maxFrameSize:UInt16) (mark:Nat) : Live :=
 ⟨mark,nClass,classRate,maxIntervalFrames.toNat,maxFrameSize.toNat⟩

def Command.run (qdisc:Qdisc) (h:History) : Command → Option History
 | add nClass classRate maxIntervalFrames maxFrameSize=>
  let added:=openavbQmgrAddStream qdisc h.tables nClass classRate maxIntervalFrames.toNat
   maxFrameSize.toNat
  if added.2=invalidFwmark then some ⟨added.1,h.live⟩
  else some ⟨added.1,stream nClass classRate maxIntervalFrames maxFrameSize added.2::h.live⟩
 | remove fwmark=>
  (openavbQmgrRemoveStream h.tables fwmark.toNat).map fun tables=>
   ⟨tables,h.live.filter fun x=>decide (x.mark≠fwmark.toNat)⟩

/-- `none` after an access outside the arrays. -/
def step (qdisc:Qdisc) (command:Command) (h:Option History) : Option History := h.bind fun h=>command.run qdisc h
def classSum (live:List Live) (c:Nat) : Nat := ((live.filter fun x=>decide (x.nClass=c)).map Live.bytes).sum

/-- The totals are exact, and every mark is its own and decodes to the slot of its stream. -/
structure Exact (h:History) : Prop where
 total:∀c < maxAvbSrClasses,h.tables.classBytesPerSec c=classSum h.live c
 distinct:(h.live.map Live.mark).Nodup
 decodes:∀x∈h.live,tcAvbMarkClass x.mark=x.nClass ∧
  h.tables.streams (slotIndex x.nClass (tcAvbMarkStream x.mark))=
   ⟨x.bytes,x.classRate,x.maxIntervalFrames,x.maxFrameSize⟩

/-- Removing a value that is not a mark in use changes nothing. -/
def Command.Harmless (h:History) : Command → Prop
 | add _ _ _ _=>True
 | remove fwmark=>(¬ ∃x∈h.live,x.mark=fwmark.toNat) →
  openavbQmgrRemoveStream h.tables fwmark.toNat=some h.tables

/-- The class has a free slot, and the shaper takes what is booked, which is not zero. -/
def Admits (qdisc:Qdisc) (q:Tables) (nClass classRate maxIntervalFrames maxFrameSize:Nat) : Prop :=
 let streamBytesPerSec:=bookedBytes classRate maxIntervalFrames maxFrameSize
 streamBytesPerSec≠0 ∧ freeSlot q nClass≠none ∧ (qdisc.mode=.disabled ∨
  qdisc.setupHWQueue nClass (uint32 (q.classBytesPerSec nClass+streamBytesPerSec))=true)

/-- Sums stay below 2^32, and no mark names a slot behind those of its class but a free one. -/
def Command.Fits (qdisc:Qdisc) (h:History) : Command → Prop
 | add nClass classRate maxIntervalFrames maxFrameSize=>
  Admits qdisc h.tables nClass classRate maxIntervalFrames.toNat maxFrameSize.toNat →
  classSum h.live nClass +
   (stream nClass classRate maxIntervalFrames maxFrameSize 0).bytes<2^32
 | remove fwmark=>slotted fwmark.toNat=true ∨
  tcAvbMarkClass fwmark.toNat=0 ∧
   (h.tables.streams (slotIndex 0 (tcAvbMarkStream fwmark.toNat))).streamBytesPerSec=0

lemma admits_iff (qdisc:Qdisc) (q:Tables) (nClass:Fin maxAvbSrClasses)
 (classRate maxIntervalFrames maxFrameSize:Nat) :
 (openavbQmgrAddStream qdisc q nClass classRate maxIntervalFrames maxFrameSize).2≠invalidFwmark ↔
  Admits qdisc q nClass classRate maxIntervalFrames maxFrameSize := by
 simp only[openavbQmgrAddStream,Admits]
 by_cases hbad:bookedBytes classRate maxIntervalFrames maxFrameSize=0
 · simp[hbad]
 rw[if_neg fun h=>h.elim (Nat.not_le.2 nClass.2) hbad]
 cases hfree:freeSlot q nClass with
 | none=>simp
 | some s=>
  have hmark:=mark_valid nClass (freeSlot_some hfree).1
  cases qdisc.setupHWQueue nClass (uint32 (q.classBytesPerSec nClass +
   bookedBytes classRate maxIntervalFrames maxFrameSize))<;>by_cases hmode:qdisc.mode=.disabled <;>
   simp[hbad,hmode,hmark]

lemma bookedBytes_eq (classRate maxIntervalFrames maxFrameSize:Nat) :
 bookedBytes classRate maxIntervalFrames maxFrameSize=
  (maxFrameSize+etherFrameOverhead+1)*maxIntervalFrames*classRate%2^32 := by
 simp only[bookedBytes,uint32]
 rw[Nat.mod_mul_mod,Nat.mul_assoc,Nat.mod_mul_mod,Nat.mul_assoc]
lemma classSum_cons (x:Live) (live:List Live) (c:Nat) :
 classSum (x::live) c=(if x.nClass=c then x.bytes else 0)+classSum live c := by
 by_cases hc:x.nClass=c<;>simp[classSum,hc]

variable {live:List Live} {x:Live} {s m:Nat} (qdisc:Qdisc) {h' h:History}

lemma classSum_remove (hnodup:(live.map Live.mark).Nodup) (hx:x∈live) (c:Nat) :
 classSum live c=(if x.nClass=c then x.bytes else 0) +
  classSum (live.filter fun y=>decide (y.mark≠x.mark)) c := by
 induction live with
 | nil=>cases hx
 | cons y live ih=>
  obtain ⟨hy,hrest⟩:=nodup_cons.1 hnodup
  rcases mem_cons.1 hx with rfl|hx
  · -- no later stream has the mark
    have hkeep:(live.filter fun y=>decide (y.mark≠x.mark))=live:=by
     refine filter_eq_self.2 fun z hz=>decide_eq_true fun heq=>hy ?_
     exact heq▸mem_map_of_mem hz
    rw[classSum_cons,filter_cons_of_neg (by simp),hkeep]
  · have hne:y.mark≠x.mark:=fun heq=>hy (heq▸mem_map_of_mem hx)
    rw[filter_cons_of_pos (by simpa using hne),classSum_cons,classSum_cons,ih hrest hx]
    omega

lemma bytes_le_classSum (hnodup:(live.map Live.mark).Nodup) (hx:x∈live) : x.bytes ≤ classSum live x.nClass := by
 have:=classSum_remove hnodup hx x.nClass
 rw[if_pos rfl] at this
 omega

/-- Besides being exact, the streams are those of the slots in use. -/
structure Booked (h:History) : Prop extends Exact h where
 small:∀c < maxAvbSrClasses,classSum h.live c<2^32
 marks:∀x∈h.live,∃s < maxAvbStreamsPerClass,x.nClass < maxAvbSrClasses ∧ x.bytes≠0 ∧
  x.mark=tcAvbMark x.nClass s
 covered:∀c s,InUse h.tables c s → ∃x∈h.live,x.mark=tcAvbMark c s

lemma booked_initial : Booked ⟨.initial,[]⟩ := by
 refine ⟨⟨fun _ _=>rfl,nodup_nil,by simp⟩,fun _ _=>by simp[classSum],by simp,?_⟩
 rintro c s ⟨-,-,hbooked⟩
 exact absurd rfl hbooked

variable {h:History}

lemma Booked.inUse (hb:Booked h) (hx:x∈h.live) (hs:s < maxAvbStreamsPerClass)
 (hmark:x.mark=tcAvbMark x.nClass s) : InUse h.tables x.nClass s := by
 obtain ⟨-,-,hclass,hbytes,-⟩:=hb.marks x hx
 obtain ⟨-,hslot⟩:=hb.decodes x hx
 rw[hmark,(mark_decodes hs).2] at hslot
 exact ⟨hclass,hs,by rw[hslot];exact hbytes⟩

lemma Booked.reserved_iff (hb:Booked h) (m:Nat) : Reserved h.tables m ↔ ∃x∈h.live,x.mark=m := by
 constructor
 · rintro ⟨c,s,huse,rfl⟩
   exact hb.covered c s huse
 · rintro ⟨x,hx,rfl⟩
   obtain ⟨s,hs,-,-,hmark⟩:=hb.marks x hx
   exact ⟨x.nClass,s,hb.inUse hx hs hmark,hmark⟩

variable {c:Nat}

section
variable (hb:Booked h) (hc:c < maxAvbSrClasses) (hs:s < maxAvbStreamsPerClass)
include hb hc hs

lemma Booked.slot_lt : (h.tables.streams (slotIndex c s)).streamBytesPerSec<2^32 := by
 by_cases hfree:(h.tables.streams (slotIndex c s)).streamBytesPerSec=0
 · rw[hfree]
   decide
 · obtain ⟨x,hx,hmark⟩:=hb.covered c s ⟨hc,hs,hfree⟩
   obtain ⟨hclass,hslot⟩:=hb.decodes x hx
   rw[hmark,(mark_decodes hs).1] at hclass
   obtain rfl:c=x.nClass:=by omega
   rw[hmark,(mark_decodes hs).2] at hslot
   rw[hslot]
   exact Nat.lt_of_le_of_lt (bytes_le_classSum hb.distinct hx) (hb.small _ hc)

lemma Booked.add
 (hfree:¬InUse h.tables c s) (hclass:x.nClass=c) (hmark:x.mark=tcAvbMark c s)
 (hbytes:x.bytes≠0) (hsmall:classSum h.live c+x.bytes<2^32) :
 Booked ⟨book h.tables c s ⟨x.bytes,x.classRate,x.maxIntervalFrames,x.maxFrameSize⟩,x::h.live⟩ := by
 have hnew:∀y∈h.live,y.mark≠x.mark:=fun y hy heq=>
  hfree ((reserved_mark hs).1 ((hb.reserved_iff _).2 ⟨y,hy,heq.trans hmark⟩))
 refine ⟨⟨fun c' hc'=>?_,?_,?_⟩,fun c' hc'=>?_,?_,fun c' s' huse=>?_⟩
 · rw[classSum_cons,hclass]
   by_cases hsame:c=c'
   · subst hsame
     simp only[book,update_self,if_true,hb.total c hc,uint32]
     rw[Nat.mod_eq_of_lt hsmall,Nat.add_comm]
   · simpa[book,hsame,update_of_ne (Ne.symm hsame)] using hb.total c' hc'
 · refine nodup_cons.2 ⟨fun hmem=>?_,hb.distinct⟩
   obtain ⟨y,hy,heq⟩:=mem_map.1 hmem
   exact hnew y hy heq
 · intro y hy
   rcases mem_cons.1 hy with rfl|hlive
   · obtain ⟨hdc,hds⟩:=mark_decodes (c:=c) hs
     rw[hmark,hdc,hds,hclass]
     exact ⟨rfl,update_self ..⟩
   · obtain ⟨hdc,hslot⟩:=hb.decodes y hlive
     refine ⟨hdc,?_⟩
     obtain ⟨s',hs',-,-,hmark'⟩:=hb.marks y hlive
     have hne:slotIndex y.nClass (tcAvbMarkStream y.mark)≠slotIndex c s:=by
      rw[hmark',(mark_decodes hs').2]
      intro heq
      obtain ⟨hcc,rfl⟩:=slotIndex_injective hs' hs heq
      exact hnew y hlive (by rw[hmark',hmark,hcc])
     rw[←hslot]
     exact update_of_ne hne ..
 · rw[classSum_cons,hclass]
   by_cases hsame:c=c'
   · subst hsame
     rw[if_pos rfl]
     omega
   · rw[if_neg hsame,Nat.zero_add]
     exact hb.small c' hc'
 · intro y hy
   rcases mem_cons.1 hy with rfl|hy
   · exact ⟨s,hs,hclass▸hc,hbytes,hclass▸hmark⟩
   · exact hb.marks y hy
 · rcases (inUse_book hc hs hbytes).1 huse with hold|⟨rfl,rfl⟩
   · obtain ⟨y,hy,heq⟩:=hb.covered c' s' hold
     exact ⟨y,mem_cons_of_mem _ hy,heq⟩
   · exact ⟨x,mem_cons_self,hmark⟩

end

lemma Booked.remove (hb:Booked h) (hx:x∈h.live) (hs:s < maxAvbStreamsPerClass)
 (hmark:x.mark=tcAvbMark x.nClass s) : Booked ⟨unbook h.tables x.nClass (slotIndex x.nClass s),
  h.live.filter fun y=>decide (y.mark≠x.mark)⟩ := by
 have hsum:=classSum_remove hb.distinct hx
 have hslot:(h.tables.streams (slotIndex x.nClass s)).streamBytesPerSec=x.bytes:=by
  have:=(hb.decodes x hx).2
  rw[hmark,(mark_decodes hs).2] at this
  rw[this]
 refine ⟨⟨fun c hc=>?_,?_,?_⟩,fun c hc=>?_,?_,fun c s' huse=>?_⟩
 · have htotal:=hb.total c hc
   have hsmall:=hb.small c hc
   have hc':=hsum c
   by_cases hsame:x.nClass=c
   · subst hsame
     rw[if_pos rfl] at hc'
     simp only[unbook,update_self,uint32]
     omega
   · rw[if_neg hsame] at hc'
     simpa[unbook,update_of_ne (Ne.symm hsame),hc'] using htotal
 · exact hb.distinct.sublist (filter_sublist.map _)
 · intro y hy
   obtain ⟨hy,hne⟩:=mem_filter.1 hy
   obtain ⟨hdc,hold⟩:=hb.decodes y hy
   refine ⟨hdc,?_⟩
   obtain ⟨s',hs',-,-,hmark'⟩:=hb.marks y hy
   have hidx:slotIndex y.nClass (tcAvbMarkStream y.mark)≠slotIndex x.nClass s:=by
    rw[hmark',(mark_decodes hs').2]
    intro heq
    obtain ⟨hcc,rfl⟩:=slotIndex_injective hs' hs heq
    exact of_decide_eq_true hne (by rw[hmark',hmark,hcc])
   rw[←hold]
   exact update_of_ne hidx ..
 · have hle:=hsum c
   exact Nat.lt_of_le_of_lt (by simp only;omega) (hb.small c hc)
 · exact fun y hy=>hb.marks y (mem_filter.1 hy).1
 · obtain ⟨hold,hne⟩:=(inUse_unbook hs).1 huse
   obtain ⟨y,hy,heq⟩:=hb.covered c s' hold
   refine ⟨y,mem_filter.2 ⟨hy,decide_eq_true fun hxy=>hne ?_⟩,heq⟩
   exact mark_injective hold.2.1 hs (heq.symm.trans (hxy.trans hmark))

lemma filter_other (h:∀x∈live,x.mark≠m) : (live.filter fun x=>decide (x.mark≠m))=live :=
 filter_eq_self.2 fun x hx=>decide_eq_true (h x hx)

variable (nClass:Fin maxAvbSrClasses) (classRate:Nat) (maxIntervalFrames maxFrameSize:UInt16)

lemma stream_bytes (mark:Nat) : bookedBytes classRate maxIntervalFrames.toNat maxFrameSize.toNat=
  (Command.stream nClass classRate maxIntervalFrames maxFrameSize mark).bytes%2^32 := bookedBytes_eq _ _ _

lemma run_add_booked (hb:Booked h) (nClass:Fin maxAvbSrClasses) (classRate:Nat)
 (maxIntervalFrames maxFrameSize:UInt16)
 (hfits:(Command.add nClass classRate maxIntervalFrames maxFrameSize).Fits qdisc h) :
 ∃h',(Command.add nClass classRate maxIntervalFrames maxFrameSize).run qdisc h=some h' ∧
  Booked h' := by
 rw[Command.Fits,←admits_iff] at hfits
 simp only[Command.run]
 rcases openavbQmgrAddStream_cases qdisc h.tables nClass classRate maxIntervalFrames.toNat
  maxFrameSize.toNat with heq | ⟨s,hc,hs,hfree,hbooked,heq⟩
 · rw[heq]
   exact ⟨h,rfl,hb⟩
 · have hmark:=mark_valid nClass hs
   rw[heq] at hfits ⊢
   rw[if_neg hmark]
   refine ⟨_,rfl,?_⟩
   have hlt:classSum h.live nClass+(Command.stream nClass classRate maxIntervalFrames
    maxFrameSize (tcAvbMark nClass s)).bytes<2^32:=hfits hmark
   have hbytes:=stream_bytes nClass classRate maxIntervalFrames maxFrameSize (tcAvbMark nClass s)
   rw[Nat.mod_eq_of_lt (Nat.lt_of_le_of_lt (Nat.le_add_left _ _) hlt)] at hbytes
   rw[hbytes] at hbooked ⊢
   exact hb.add hc hs hfree rfl rfl hbooked hlt

lemma harmless_of_fits (hb:Booked h) (hfits:slotted m=true ∨ tcAvbMarkClass m=0 ∧
  (h.tables.streams (slotIndex 0 (tcAvbMarkStream m))).streamBytesPerSec=0)
 (hlive:¬ ∃x∈h.live,x.mark=m) : openavbQmgrRemoveStream h.tables m=some h.tables := by
 rcases hfits with hslot|⟨hclass,hfree⟩
 · exact openavbQmgrRemoveStream_other hslot fun hres=>hlive ((hb.reserved_iff m).1 hres)
 · simp only[openavbQmgrRemoveStream,hclass,Int.toNat_zero]
   split_ifs with hinvalid hrange hidx
   · rfl
   · rfl
   · simp only[slotIndex] at hrange hidx
     omega
   · rfl

lemma run_remove_booked (hb:Booked h) (fwmark:UInt16)
 (hfits:(Command.remove fwmark).Fits qdisc h) :
 ∃h',(Command.remove fwmark).run qdisc h=some h' ∧ Booked h' := by
 simp only[Command.run]
 by_cases hlive:∃x∈h.live,x.mark=fwmark.toNat
 · obtain ⟨x,hx,hxm⟩:=hlive
   obtain ⟨s,hs,-,-,hmark⟩:=hb.marks x hx
   rw[←hxm,hmark,openavbQmgrRemoveStream_mark (hb.inUse hx hs hmark),←hmark]
   exact ⟨_,rfl,hb.remove hx hs hmark⟩
 · rw[harmless_of_fits hb hfits hlive,filter_other fun x hx heq=>hlive ⟨x,hx,heq⟩]
   exact ⟨h,rfl,hb⟩

lemma Command.run_booked (hb:Booked h) (command:Command) (hfits:command.Fits qdisc h) :
 ∃h',command.run qdisc h=some h' ∧ Booked h' := by
 cases command with
 | add nClass classRate maxIntervalFrames maxFrameSize=>
  exact run_add_booked qdisc hb nClass classRate maxIntervalFrames maxFrameSize hfits
 | remove fwmark=>exact run_remove_booked qdisc hb fwmark hfits

lemma fits_of_run_add
 (hrun:(Command.add nClass classRate maxIntervalFrames maxFrameSize).run qdisc h=some h')
 (hexact:Exact h') : (Command.add nClass classRate maxIntervalFrames maxFrameSize).Fits qdisc h := by
 intro hadmits
 have hmark:=(admits_iff ..).2 hadmits
 simp only[Command.run,if_neg hmark,Option.some.injEq] at hrun
 subst hrun
 rcases openavbQmgrAddStream_cases qdisc h.tables nClass classRate maxIntervalFrames.toNat
  maxFrameSize.toNat with heq | ⟨s,hc,hs,hfree,hbooked,heq⟩
 · rw[heq] at hmark
   exact absurd rfl hmark
 · have htotal:=hexact.total nClass nClass.2
   rw[heq] at htotal
   simp only[book,update_self,classSum_cons,Command.stream,uint32] at htotal
   have hlt:=Nat.mod_lt (h.tables.classBytesPerSec nClass +
    bookedBytes classRate maxIntervalFrames.toNat maxFrameSize.toNat) (show 0<2^32 by decide)
   rw[htotal,Nat.add_comm] at hlt
   exact hlt

lemma fits_of_run_remove (hb:Booked h) (fwmark:UInt16)
 (hrun:(Command.remove fwmark).run qdisc h=some h') (hexact:Exact h') :
 (Command.remove fwmark).Fits qdisc h := by
 simp only[Command.Fits]
 generalize hm:fwmark.toNat=m
 simp only[Command.run,hm] at hrun
 by_cases hslot:slotted m=true
 · exact .inl hslot
 have hbad:maxAvbStreamsPerClass≤tcAvbMarkStream m ∧ tcAvbMarkStream m < maxAvbStreams ∧
  0≤tcAvbMarkClass m ∧ tcAvbMarkClass m < maxAvbSrClasses:=by
  have:=of_decide_eq_false (Bool.eq_false_iff.2 hslot)
  omega
 obtain ⟨tables,hremove,rfl⟩:=Option.map_eq_some_iff.1 hrun
 have hlive:∀x∈h.live,x.mark≠m:=by
  rintro x hx rfl
  obtain ⟨s,hs,-,-,hmark⟩:=hb.marks x hx
  rw[hmark,(mark_decodes hs).2] at hbad
  omega
 obtain ⟨hlow,hhigh,hpos,hclass⟩:=hbad
 have hinvalid:m≠invalidFwmark:=by
  rintro rfl
  exact absurd hhigh (by decide)
 simp only[openavbQmgrRemoveStream,if_neg hinvalid,
  if_neg (show ¬(maxAvbStreams≤tcAvbMarkStream m ∨ tcAvbMarkClass m<0 ∨
   (maxAvbSrClasses:Int)≤tcAvbMarkClass m) by omega)] at hremove
 split_ifs at hremove with hidx hfree
 all_goals
  have hzero:tcAvbMarkClass m=0:=by
   simp only[slotIndex,maxAvbStreams,maxAvbSrClasses,maxAvbStreamsPerClass] at *
   omega
  rw[hzero] at hfree
 · exact .inr ⟨hzero,hfree⟩
 · have hbound:=hb.slot_lt (c:=1) (s:=tcAvbMarkStream m-maxAvbStreamsPerClass) (by decide)
    (by simp only[maxAvbStreams,maxAvbSrClasses] at *;omega)
   have hslot':slotIndex 1 (tcAvbMarkStream m-maxAvbStreamsPerClass)=slotIndex 0 (tcAvbMarkStream m):=by
    simp only[slotIndex]
    omega
   have htotal:=hexact.total 0 (by decide)
   rw[hslot'] at hbound
   rw[filter_other hlive,←hb.total 0 (by decide),←Option.some.inj hremove,hzero] at htotal
   simp only[unbook,Int.toNat_zero,update_self,uint32] at htotal
   omega

lemma fits_of_run (hb:Booked h) (command:Command) (hrun:command.run qdisc h=some h')
 (hexact:Exact h') : command.Fits qdisc h := by
 cases command with
 | add nClass classRate maxIntervalFrames maxFrameSize=>
  exact fits_of_run_add qdisc nClass classRate maxIntervalFrames maxFrameSize hrun hexact
 | remove fwmark=>exact fits_of_run_remove qdisc hb fwmark hrun hexact

lemma harmless_of_booked {qdisc:Qdisc} (hb:Booked h) (command:Command)
 (hfits:command.Fits qdisc h) : command.Harmless h := by
 cases command with
 | add=>trivial
 | remove fwmark=>exact harmless_of_fits hb hfits
def empty : Option History := some ⟨.initial,[]⟩
def Kept (P:History → Prop) (h:Option History) : Prop := ∃st,h=some st ∧ P st
def Meets (P:Command → History → Prop) (command:Command) (h:Option History) : Prop :=
 ∀st,h=some st → P command st
lemma step_booked (command:Command) (h:Option History)
 (hfits:Meets (fun command st=>command.Fits qdisc st) command h) (hb:Kept Booked h) :
 Kept Booked (step qdisc command h) := by
 obtain ⟨st,rfl,hb⟩:=hb
 exact command.run_booked qdisc hb (hfits st rfl)

/-- After every command; stray removals change nothing. -/
theorem accounts_exact_iff_fits (qdisc:Qdisc) (commands:List Command) :
 (Throughout (step qdisc) (Kept Exact) commands empty ∧
  Along (step qdisc) (Meets fun command st=>command.Harmless st) commands empty) ↔
 Along (step qdisc) (Meets fun command st=>command.Fits qdisc st) commands empty := by
 have hempty:Kept Booked empty:=⟨_,rfl,booked_initial⟩
 have hiff:Throughout (step qdisc) (Kept Exact) commands empty ↔
  Along (step qdisc) (Meets fun command st=>command.Fits qdisc st) commands empty:=by
  refine throughout_iff_along_of_stronger (S:=Kept Booked) ?_ ?_ ?_ hempty
  · rintro h ⟨st,rfl,hb⟩
    exact ⟨st,rfl,hb.toExact⟩
  · exact fun command h hb hfits=>step_booked qdisc command h hfits hb
  · rintro command _ ⟨st,rfl,hb⟩ ⟨st',hrun,hexact⟩ _ ⟨⟩
    exact fits_of_run qdisc hb command hrun hexact
 refine ⟨fun h=>hiff.1 h.1,fun h=>⟨hiff.2 h,?_⟩⟩
 refine h.imp_of_invariant (step_booked qdisc) ?_ hempty
 rintro command _ ⟨st,rfl,hb⟩ hfits _ ⟨⟩
 exact harmless_of_booked hb command (hfits st rfl)

def shaperDisabled : Qdisc := ⟨.disabled,fun _ _=>true⟩

lemma not_throughout_of_wrong {commands:List Command}
 (hwrong:(run (step shaperDisabled) commands empty).all (fun st=>
  decide (st.tables.classBytesPerSec 0≠classSum st.live 0))=true) :
 ¬Throughout (step shaperDisabled) (Kept Exact) commands empty := by
 intro h
 obtain ⟨st,hst,hexact⟩:=h.last
 rw[hst] at hwrong
 exact of_decide_eq_true hwrong (hexact.total 0 (by decide))

/-- More than 2^32 bytes a second; and 0x0110, which is no mark, removes a stream of class B. -/
theorem accounts_overflow_and_alias :
 ¬Throughout (step shaperDisabled) (Kept Exact) [.add srClassA 8000 400 1500] empty ∧
 ¬Throughout (step shaperDisabled) (Kept Exact)
  [.add srClassB 4000 1 100,.remove 0x0110] empty :=
 ⟨not_throughout_of_wrong (by decide +kernel),not_throughout_of_wrong (by decide +kernel)⟩

end OpenAvnu.QmgrAccounts
