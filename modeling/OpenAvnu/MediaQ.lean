import Mathlib.Algebra.GroupWithZero.Nat
import Mathlib.Logic.Function.Basic
import OpenAvnu.Ring
import OpenAvnu.Runs

/-!
# The media queue

Used by one thread. The index `-1` is a full queue's head and an empty one's tail; timestamps are
ignored.
-/

namespace OpenAvnu.MediaQ

open List Function

/-- A slot of the queue. `data` is everything that the queue itself does not look at. -/
structure Item (α:Type) where
 data:α
 (readIdx dataLen:BitVec 32)
 taken:Bool
deriving DecidableEq, Repr

structure Info (α:Type) where
 itemCount:Nat
 pItems:Nat → Item α
 head:Int
 headLocked:Bool
 tail:Int
 tailLocked:Bool

variable {α:Type}

def openavbMediaQCreate (itemCount:Nat) (data:α) : Info α where
 itemCount := itemCount
 pItems:=fun _=>⟨data,0,0,false⟩
 head:=0
 headLocked:=false
 tail:= -1
 tailLocked:=false

/-- With the index that is moved and the one that it must not pass. -/
def xOpenavbMediaQIncrement (q:Info α) (starting other:Int) : Nat → Int → Option Int
 | 0, _=>none
 | fuel+1, idx=>
  if idx+1=starting then some (-1)
  else
   let idx:=if (q.itemCount:Int) ≤ idx+1 then 0 else idx+1
   if idx=other then some (-1)
   else if (q.pItems idx.toNat).taken then
    xOpenavbMediaQIncrement q starting other fuel idx
   else some idx

/-- A loop that has seen every slot without an end is back where it was, and never ends. -/
def xOpenavbMediaQIncrementHead (q:Info α) : Option (Info α) :=
 (xOpenavbMediaQIncrement q q.head q.tail (q.itemCount+1) q.head).map
  fun head=>{q with head:=head}

def xOpenavbMediaQIncrementTail (q:Info α) : Option (Info α) :=
 (xOpenavbMediaQIncrement q q.tail q.head (q.itemCount+1) q.tail).map
  fun tail=>{q with tail:=tail}
def openavbMediaQHeadLock (q:Info α) : Info α×Option Nat :=
 if 0<q.itemCount ∧ -1<q.head then ({q with headLocked:=true},some q.head.toNat)
 else (q,none)
def openavbMediaQHeadUnlock (q:Info α) : Info α :=
 if 0<q.itemCount ∧ -1<q.head then {q with headLocked:=false} else q

def openavbMediaQHeadPush (q:Info α) : Option (Info α×Bool) :=
 if 0<q.itemCount ∧ -1<q.head then
  let pHead:=q.pItems q.head.toNat
  let q:={q with
   tail:=if q.tail = -1 then q.head else q.tail
   pItems:=update q.pItems q.head.toNat {pHead with readIdx:=0}}
  (xOpenavbMediaQIncrementHead q).map fun q=>({q with headLocked:=false},true)
 else some (q,false)

/-- `openavbMediaQTailLock` with `ignoreTimestamp`. -/
def openavbMediaQTailLock (q:Info α) : Info α×Option Nat :=
 if 0<q.itemCount ∧ -1<q.tail then ({q with tailLocked:=true},some q.tail.toNat)
 else (q,none)
def openavbMediaQTailUnlock (q:Info α) : Info α :=
 if 0<q.itemCount ∧ -1<q.tail then {q with tailLocked:=false} else q

def openavbMediaQTailPull (q:Info α) : Option (Info α×Bool) :=
 if 0<q.itemCount ∧ -1<q.tail then
  let pTail:=q.pItems q.tail.toNat
  let q:={q with
   head:=if q.head = -1 then q.tail else q.head
   pItems:=update q.pItems q.tail.toNat {pTail with readIdx:=0,dataLen:=0}}
  (xOpenavbMediaQIncrementTail q).map fun q=>({q with tailLocked:=false},true)
 else some (q,false)

def advance (q:Info α) (tailIdx:Int) : Int :=
 if (q.itemCount:Int)≤tailIdx+1 then 0 else tailIdx+1

def availableBytesLoop (q:Info α) (bytes:BitVec 32) (endIdx:Int) : Nat → Int → BitVec 32 → Option Bool
 | 0, _, _=>none
 | fuel+1, tailIdx, byteCnt=>
  let pTail:=q.pItems tailIdx.toNat
  let byteCnt':=if pTail.taken then byteCnt else byteCnt+(pTail.dataLen-pTail.readIdx)
  -- `byteCnt` is an int, compared as unsigned with the U32 `bytes`
  if !pTail.taken&&decide (bytes≤byteCnt') then some true
  else if advance q tailIdx=endIdx then some false
  else availableBytesLoop q bytes endIdx fuel (advance q tailIdx) byteCnt'

/-- `openavbMediaQIsAvailableBytes` with `ignoreTimestamp`. -/
def openavbMediaQIsAvailableBytes (q:Info α) (bytes:BitVec 32) : Option Bool :=
 if 0<q.itemCount ∧ -1<q.tail then
  availableBytesLoop q bytes (if -1<q.head then q.head else q.tail) q.itemCount q.tail 0
 else some false

def countItemsLoop (q:Info α) : Nat → Int → Nat → Option Nat
 | 0, _, _=>none
 | fuel+1, tailIdx, itemCnt=>
  let itemCnt:=if (q.pItems tailIdx.toNat).taken then itemCnt else itemCnt+1
  if advance q tailIdx=q.head then some itemCnt
  else if q.itemCount ≤ itemCnt then some itemCnt
  else countItemsLoop q fuel (advance q tailIdx) itemCnt

/-- With `ignoreTimestamp`. A round that counts nothing repeats itself, so `itemCount` rounds are
enough. -/
def openavbMediaQCountItems (q:Info α) : Option Nat :=
 if 0<q.itemCount ∧ -1<q.tail then
  countItemsLoop q (q.itemCount*q.itemCount) q.tail 0
 else some 0

/-! ## The media queue is a bounded FIFO -/

structure Contents (α:Type) where
 data:α
 (readIdx dataLen:BitVec 32)
 readIdx_le:readIdx≤dataLen

def Contents.fill (c:Contents α) (item:Item α) : Item α :=
 {item with data:=c.data,readIdx:=c.readIdx,dataLen:=c.dataLen}

inductive Call (α:Type) where
 | headLock
 | headFill (c:Contents α)
 | headUnlock
 | headPush
 | tailLock
 | tailFill (c:Contents α)
 | tailUnlock
 | tailPull

/-- The queue behind a call. A user touches an item, and pushes or pulls it, only while it holds
the lock. -/
def call (c:Call α) (q:Info α) : Option (Info α) :=
 match c with
 | .headLock=>some (openavbMediaQHeadLock q).1
 | .headFill c=>
  some (if q.headLocked then
   {q with
     pItems:=update q.pItems q.head.toNat (c.fill (q.pItems q.head.toNat))}
  else q)
 | .headUnlock=>some (openavbMediaQHeadUnlock q)
 | .headPush=>if q.headLocked then (openavbMediaQHeadPush q).map Prod.fst else some q
 | .tailLock=>some (openavbMediaQTailLock q).1
 | .tailFill c=>
  some (if q.tailLocked then
   {q with
     pItems:=update q.pItems q.tail.toNat (c.fill (q.pItems q.tail.toNat))}
  else q)
 | .tailUnlock=>some (openavbMediaQTailUnlock q)
 | .tailPull=>if q.tailLocked then (openavbMediaQTailPull q).map Prod.fst else some q

/-- A push appends the item that its user has filled, a pull drops the first one. -/
def queuedAfter (c:Call α) (q:Info α) (queued:List (Item α)) : List (Item α) :=
 match c with
 | .headPush=>
  if q.headLocked then queued++[{q.pItems q.head.toNat with readIdx:=0}] else queued
 | .tailFill c=>if q.tailLocked then queued.modifyHead c.fill else queued
 | .tailPull=>if q.tailLocked then queued.tail else queued
 | .headLock | .headFill _ | .headUnlock | .tailLock | .tailUnlock=>queued

/-- A queue, lost once one of its calls does not return, and the items queued in it. -/
structure Use (α:Type) where
 queue:Option (Info α)
 queued:List (Item α)

def useStep (c:Call α) (u:Use α) : Use α :=
 match u.queue with
 | none=>u
 | some q=>⟨call c q,queuedAfter c q u.queued⟩
def unread (item:Item α) : Nat := item.dataLen.toNat-item.readIdx.toNat

/-- The queue answers every question as the list of queued items does. -/
structure Answers (q:Info α) (queued:List (Item α)) : Prop where
 head:(openavbMediaQHeadLock q).2=none↔queued.length=q.itemCount
 tail:((openavbMediaQTailLock q).2.map q.pItems)=queued.head?
 count:openavbMediaQCountItems q=some queued.length
 bytes:(queued.map unread).sum<2^31 → ∀bytes : BitVec 32,1≤bytes →
  openavbMediaQIsAvailableBytes q bytes=some (decide (bytes.toNat≤(queued.map unread).sum))

def Fifo (u:Use α) : Prop := ∃q,u.queue=some q ∧ Answers q u.queued

/-- The queued items lie in the ring from slot `start` on. -/
structure Holds (q:Info α) (queued:List (Item α)) (start:Nat) : Prop where
 start_lt:start<q.itemCount
 length_le:queued.length≤q.itemCount
 tail_eq:q.tail=if queued.length=0 then -1 else (start:Int)
 head_eq:q.head=if queued.length=q.itemCount then -1
  else (Ring.pos q.itemCount start queued.length:Int)
 items:queued=(Ring.span q.itemCount start queued.length).map q.pItems
 taken:∀i,(q.pItems i).taken=false
 read:∀item∈queued,item.readIdx ≤ item.dataLen
 headLocked:q.headLocked → queued.length≠q.itemCount
 tailLocked:q.tailLocked → queued.length≠0

section Steps
variable {q:Info α} {queued:List (Item α)} {start:Nat}

lemma increment_eq (htaken:∀i,(q.pItems i).taken=false) (idx:Nat) (other:Int)
 (fuel:Nat) : xOpenavbMediaQIncrement q idx other (fuel+1) idx=
  some (if (Ring.next q.itemCount idx:Int)=other then -1
   else (Ring.next q.itemCount idx:Int)) := by
 have hnext:(if (q.itemCount:Int)≤(idx:Int)+1 then 0 else (idx:Int)+1)=(Ring.next q.itemCount idx:Int):=by
  rw[Ring.next]
  split_ifs<;>omega
 rw[xOpenavbMediaQIncrement,if_neg (by omega)]
 split_ifs<;>simp_all

lemma map_update_span {slots:List Nat} {i:Nat} (pItems:Nat → Item α) (item:Item α)
 (hi:i∉slots) : slots.map (update pItems i item)=slots.map pItems := by
 apply map_congr_left
 intro j hj
 apply update_of_ne
 rintro rfl
 exact hi hj

variable {item:Item α} {j:Nat}

lemma update_taken {pItems:Nat → Item α} (slot:Nat) (htaken:∀i,(pItems i).taken=false)
 (hitem:item.taken=false) (i:Nat) : (update pItems slot item i).taken=false := by
 rw[update_apply]
 split_ifs
 · exact hitem
 · exact htaken i

section
variable (h:Holds q queued start)
include h

lemma Holds.head_slot (hlen:queued.length≠q.itemCount) :
 q.head=(Ring.pos q.itemCount start queued.length:Nat) := by
 rw[h.head_eq,if_neg hlen]
lemma Holds.tail_slot (hlen:queued.length≠0) : q.tail=(start:Nat) := by
 rw[h.tail_eq,if_neg hlen]

lemma Holds.push (hroom:queued.length≠q.itemCount) : ∃q',openavbMediaQHeadPush q=some (q',true) ∧
  Holds q' (queued++[{q.pItems q.head.toNat with readIdx:=0}]) start := by
 have hlt:queued.length<q.itemCount:=by have:=h.length_le;omega
 have hhead:=h.head_slot hroom
 set slot:=Ring.pos q.itemCount start queued.length with hslot
 have htail:(if q.tail = -1 then q.head else q.tail)=(start:Int):=by
  by_cases hempty:queued.length=0
  · rw[h.tail_eq,if_pos hempty,if_pos rfl,hhead,hslot,hempty,Ring.pos_zero h.start_lt]
  · rw[h.tail_slot hempty,if_neg (by omega)]
 have htaken:∀i,(update q.pItems slot
  {q.pItems slot with readIdx:=0} i).taken=false:=
  update_taken slot h.taken (h.taken slot)
 have hnext:Ring.next q.itemCount slot=Ring.pos q.itemCount start (queued.length+1):=
  Ring.next_pos h.start_lt hlt
 rw[openavbMediaQHeadPush,if_pos (by omega)]
 simp only[htail]
 simp only[hhead,xOpenavbMediaQIncrementHead,Int.toNat_natCast]
 rw[increment_eq htaken]
 refine ⟨_,rfl,?_⟩
 constructor
 · exact h.start_lt
 · rw[length_append]
   exact hlt
 · simp
 · have hround:=Ring.pos_eq_start_iff h.start_lt (Nat.succ_pos queued.length) hlt
   simp only[hnext,length_append,length_singleton]
   norm_cast
   simp only[hround]
 · have hout:=map_update_span q.pItems {q.pItems slot with readIdx:=0}
    (Ring.not_mem_span h.start_lt hlt)
   simp only[length_append,length_singleton,Ring.span_succ,map_append,map_singleton,←hslot,update_self]
   rw[hout,←h.items]
 · exact htaken
 · intro item hitem
   rcases mem_append.1 hitem with hitem|hitem
   · exact h.read item hitem
   · rw[mem_singleton.1 hitem]
     exact BitVec.le_def.2 (Nat.zero_le _)
 · simp
 · simp

lemma Holds.pull (hsome:queued.length≠0) : ∃q',openavbMediaQTailPull q=some (q',true) ∧
  Holds q' queued.tail (Ring.next q.itemCount start) := by
 have hle:=h.length_le
 have htail:=h.tail_slot hsome
 have hhead:(if q.head = -1 then q.tail else q.head)=(Ring.pos q.itemCount start queued.length:Int):=by
  by_cases hfull:queued.length=q.itemCount
  · rw[h.head_eq,if_pos hfull,if_pos rfl,htail,hfull,Ring.pos_full h.start_lt]
  · rw[h.head_slot hfull,if_neg (by omega)]
 have htaken:∀i,(update q.pItems start
  {q.pItems start with readIdx:=0,dataLen:=0} i).taken=false:=
  update_taken start h.taken (h.taken start)
 have hshift:Ring.pos q.itemCount (Ring.next q.itemCount start) (queued.length-1)=
  Ring.pos q.itemCount start queued.length:=by
  rw[Ring.pos_next h.start_lt (by omega),Nat.sub_add_cancel (by omega)]
 rw[openavbMediaQTailPull,if_pos (by have:=h.start_lt;omega)]
 simp only[hhead]
 simp only[htail,xOpenavbMediaQIncrementTail,Int.toNat_natCast]
 rw[increment_eq htaken]
 refine ⟨_,rfl,?_⟩
 constructor
 · exact Ring.next_lt h.start_lt
 · simp only[length_tail]
   omega
 · have hlast:Ring.next q.itemCount start=Ring.pos q.itemCount start queued.length ↔
    queued.length-1=0:=by
    rw[←hshift,eq_comm]
    constructor
    · intro heq
      by_contra hpos
      have:=(Ring.pos_eq_start_iff (Ring.next_lt h.start_lt) (by omega) (by omega)).1 heq
      omega
    · intro hzero
      rw[hzero,Ring.pos_zero (Ring.next_lt h.start_lt)]
   simp only[length_tail]
   norm_cast
   simp only[hlast]
 · simp only[length_tail]
   rw[if_neg (by omega),hshift]
 · have hspan:queued.tail=
    (Ring.span q.itemCount (Ring.next q.itemCount start) (queued.length-1)).map q.pItems:=by
    conv_lhs=>rw[h.items]
    obtain ⟨k,hk⟩:=Nat.exists_eq_succ_of_ne_zero hsome
    rw[hk,Ring.span_succ_first h.start_lt (by omega)]
    rfl
   simp only[length_tail]
   rw[map_update_span _ _ (Ring.not_mem_span_next h.start_lt (by omega))]
   exact hspan
 · exact htaken
 · intro item hitem
   exact h.read item (mem_of_mem_tail hitem)
 · simp only[length_tail]
   omega
 · simp

lemma Holds.item_eq (hj:j<queued.length) :
 queued.drop j=q.pItems (Ring.pos q.itemCount start j)::queued.drop (j+1) := by
 rw[drop_eq_getElem_cons hj]
 congr 1
 have hget:=congrArg (fun l=>l[j]?) h.items
 simp only[getElem?_eq_getElem hj,getElem?_map,Ring.span,getElem?_range hj] at hget
 exact Option.some.inj hget

end

lemma advance_pos (hstart:start<q.itemCount) (hj:j<q.itemCount) :
 advance q (Ring.pos q.itemCount start j:Nat)=(Ring.pos q.itemCount start (j+1):Nat) := by
 rw[←Ring.next_pos hstart hj,advance,Ring.next]
 split_ifs<;>omega

lemma countItemsLoop_eq (h:Holds q queued start) (fuel j:Nat) (hj:j<queued.length)
 (hfuel:queued.length≤j+fuel) :
 countItemsLoop q fuel (Ring.pos q.itemCount start j:Nat) j=some queued.length := by
 have hle:=h.length_le
 induction fuel generalizing j with
 | zero=>omega
 | succ fuel ih=>
  rw[countItemsLoop]
  simp only[h.taken,Bool.false_eq_true,if_false]
  rw[advance_pos h.start_lt (by omega),h.head_eq]
  by_cases hlast:j+1=queued.length
  · rw[hlast]
    split_ifs<;>first | rfl | omega
  · have hne:=Ring.pos_ne (j:=j+1) (k:=queued.length) h.start_lt (by omega)
     (by omega) hle
    have hhead:((Ring.pos q.itemCount start (j+1):Nat):Int) ≠
     if queued.length=q.itemCount then -1
     else ((Ring.pos q.itemCount start queued.length:Nat):Int):=by
     split_ifs<;>omega
    rw[if_neg hhead,if_neg (by omega)]
    exact ih (j+1) (by omega) (by omega)

lemma Holds.endIdx_eq (h:Holds q queued start) (hsome:queued.length≠0) :
 (if -1<q.head then q.head else q.tail)=(Ring.pos q.itemCount start queued.length:Nat) := by
 by_cases hfull:queued.length=q.itemCount
 · rw[h.head_eq,if_neg (by omega),h.tail_slot hsome,hfull,Ring.pos_full h.start_lt]
 · rw[h.head_slot hfull,if_pos (by omega)]
lemma unread_eq (hread:item.readIdx ≤ item.dataLen) : (item.dataLen-item.readIdx).toNat=unread item := by
 rw[unread,BitVec.toNat_sub_of_le hread]

variable (h:Holds q queued start)
include h

lemma availableBytesLoop_eq (bytes:BitVec 32) (fuel j:Nat)
 (byteCnt:BitVec 32) (hj:j<queued.length) (hfuel:queued.length≤j+fuel)
 (hsum:byteCnt.toNat+((queued.drop j).map unread).sum<2^31) :
 availableBytesLoop q bytes (Ring.pos q.itemCount start queued.length:Nat) fuel
  (Ring.pos q.itemCount start j:Nat) byteCnt=
  some (decide (bytes.toNat≤byteCnt.toNat+((queued.drop j).map unread).sum)) := by
 have hle:=h.length_le
 induction fuel generalizing j byteCnt with
 | zero=>omega
 | succ fuel ih=>
  have hitem:=h.item_eq hj
  set item:=q.pItems (Ring.pos q.itemCount start j) with hitem_def
  have hread:item.readIdx ≤ item.dataLen:=by
   apply h.read
   apply mem_of_mem_drop (i:=j)
   rw[hitem]
   exact mem_cons_self
  have htaken:item.taken=false:=h.taken _
  have hunread:=unread_eq hread
  rw[hitem,map_cons,sum_cons] at hsum ⊢
  have hcnt:(byteCnt+(item.dataLen-item.readIdx)).toNat=byteCnt.toNat+unread item:=by
   rw[BitVec.toNat_add,hunread,Nat.mod_eq_of_lt (by omega)]
  rw[availableBytesLoop]
  simp only[Int.toNat_natCast,←hitem_def,htaken,Bool.false_eq_true,if_false,
   Bool.not_false,Bool.true_and,decide_eq_true_eq,BitVec.le_def,hcnt]
  rw[advance_pos h.start_lt (by omega)]
  by_cases henough:bytes.toNat≤byteCnt.toNat+unread item
  · rw[if_pos henough,decide_eq_true (by omega)]
  · rw[if_neg henough]
    by_cases hlast:j+1=queued.length
    · rw[hlast,if_pos rfl,drop_length,map_nil,sum_nil,decide_eq_false (by omega)]
    · have hne:=Ring.pos_ne (j:=j+1) (k:=queued.length) h.start_lt (by omega)
       (by omega) hle
      rw[if_neg (by omega),ih (j+1) _ (by omega) (by omega) (by omega),hcnt,Nat.add_assoc]

lemma Holds.answers : Answers q queued := by
 have hpos:0<q.itemCount:=by have:=h.start_lt;omega
 by_cases hempty:queued.length=0
 · have htail:¬(0<q.itemCount ∧ -1<q.tail):=by
    rw[h.tail_eq]
    omega
   have hhead:0<q.itemCount ∧ -1<q.head:=by
    rw[h.head_slot (by omega)]
    omega
   have hnil:=length_eq_zero_iff.1 hempty
   constructor
   · rw[openavbMediaQHeadLock,if_pos hhead]
     simp only[reduceCtorEq,false_iff]
     omega
   · rw[openavbMediaQTailLock,if_neg htail,hnil]
     rfl
   · rw[openavbMediaQCountItems,if_neg htail,hempty]
   · intro _ bytes hbytes
     have hone:1≤bytes.toNat:=BitVec.le_def.1 hbytes
     rw[openavbMediaQIsAvailableBytes,if_neg htail,hnil,decide_eq_false]
     simp only[map_nil,sum_nil]
     omega
 · have htail:0<q.itemCount ∧ -1<q.tail:=by
    rw[h.tail_slot hempty]
    omega
   have hfirst:=h.item_eq (Nat.pos_of_ne_zero hempty)
   have hstart:=Ring.pos_zero h.start_lt
   rw[hstart] at hfirst
   constructor
   · rw[openavbMediaQHeadLock,h.head_eq]
     by_cases hfull:queued.length=q.itemCount
     · simp[hfull]
     · rw[if_pos (by omega)]
       simp only[reduceCtorEq,false_iff]
       exact hfull
   · rw[openavbMediaQTailLock,if_pos htail,h.tail_slot hempty]
     rw[drop_zero] at hfirst
     rw[hfirst]
     rfl
   · have hround:queued.length≤q.itemCount*q.itemCount:=
      h.length_le.trans (Nat.le_mul_of_pos_left _ hpos)
     have hloop:=countItemsLoop_eq h (q.itemCount*q.itemCount) 0 (by omega) (by omega)
     rw[openavbMediaQCountItems,if_pos htail,h.tail_slot hempty]
     rwa[hstart] at hloop
   · intro hsum bytes _
     have hloop:=availableBytesLoop_eq h bytes q.itemCount 0 0 (by omega)
      (by have:=h.length_le;omega) (by simpa using hsum)
     rw[hstart] at hloop
     rw[openavbMediaQIsAvailableBytes,if_pos htail,h.endIdx_eq hempty,h.tail_slot hempty,hloop]
     simp

lemma Holds.headFill (hlocked:queued.length≠q.itemCount)
 (c:Contents α) : Holds {q with
  pItems:=update q.pItems q.head.toNat (c.fill (q.pItems q.head.toNat))}
  queued start := by
 have hlt:queued.length<q.itemCount:=by have:=h.length_le;omega
 have hhead:q.head.toNat=Ring.pos q.itemCount start queued.length:=by
  rw[h.head_slot hlocked,Int.toNat_natCast]
 have htaken:=update_taken q.head.toNat h.taken
  (show (c.fill (q.pItems q.head.toNat)).taken=false from h.taken q.head.toNat)
 have hitems:=map_update_span q.pItems (c.fill (q.pItems q.head.toNat))
  (hhead▸Ring.not_mem_span h.start_lt hlt)
 exact {h with items:=h.items.trans hitems.symm,taken:=htaken}

lemma Holds.tailFill (hlocked:queued.length≠0)
 (c:Contents α) : Holds {q with
  pItems:=update q.pItems q.tail.toNat (c.fill (q.pItems q.tail.toNat))}
  (queued.modifyHead c.fill) start := by
 have htail:q.tail.toNat=start:=by rw[h.tail_slot hlocked,Int.toNat_natCast]
 have htaken:=update_taken q.tail.toNat h.taken
  (show (c.fill (q.pItems q.tail.toNat)).taken=false from h.taken q.tail.toNat)
 obtain ⟨k,hk⟩:=Nat.exists_eq_succ_of_ne_zero hlocked
 have hkn:k<q.itemCount:=by have:=h.length_le;omega
 have hqueued:queued=q.pItems start::(Ring.span q.itemCount (Ring.next q.itemCount start) k).map q.pItems:=by
  conv_lhs=>rw[h.items,hk,Ring.span_succ_first h.start_lt hkn]
  rfl
 have hlength:(queued.modifyHead c.fill).length=queued.length:=by simp
 constructor
 · exact h.start_lt
 · rw[hlength]
   exact h.length_le
 · rw[hlength]
   exact h.tail_eq
 · rw[hlength]
   exact h.head_eq
 · rw[hlength,hk,Ring.span_succ_first h.start_lt hkn,map_cons,htail,
    map_update_span _ _ (Ring.not_mem_span_next h.start_lt hkn),hqueued,List.modifyHead_cons]
   simp
 · exact htaken
 · intro item hitem
   have hread:=h.read
   rw[hqueued] at hitem hread
   rcases mem_cons.1 hitem with rfl|hitem
   · exact c.readIdx_le
   · exact hread item (mem_cons_of_mem _ hitem)
 · rw[hlength]
   exact h.headLocked
 · rw[hlength]
   exact h.tailLocked

lemma Holds.call (c:Call α) :
 ∃q' start',MediaQ.call c q=some q' ∧ Holds q' (queuedAfter c q queued) start' := by
 cases c with
 | headLock=>
  refine ⟨_,start,rfl,?_⟩
  rw[openavbMediaQHeadLock,queuedAfter]
  split_ifs with hhead
  · refine {h with headLocked:=fun _ hfull=>?_}
    have hnone:=h.head_eq
    rw[if_pos hfull] at hnone
    omega
  · exact h
 | headFill c=>
  refine ⟨_,start,rfl,?_⟩
  split_ifs with hlocked
  · exact h.headFill (h.headLocked hlocked) c
  · exact h
 | headUnlock=>
  refine ⟨_,start,rfl,?_⟩
  rw[openavbMediaQHeadUnlock]
  split_ifs
  · exact {h with headLocked:=by simp}
  · exact h
 | headPush=>
  by_cases hlocked:q.headLocked
  · obtain ⟨q',hpush,hq'⟩:=h.push (h.headLocked hlocked)
    refine ⟨q',start,?_,?_⟩
    · rw[MediaQ.call,if_pos hlocked,hpush]
      rfl
    · rwa[queuedAfter,if_pos hlocked]
  · refine ⟨q,start,?_,?_⟩
    · rw[MediaQ.call,if_neg hlocked]
    · rwa[queuedAfter,if_neg hlocked]
 | tailLock=>
  refine ⟨_,start,rfl,?_⟩
  rw[openavbMediaQTailLock,queuedAfter]
  split_ifs with htail
  · refine {h with tailLocked:=fun _ hempty=>?_}
    have hnone:=h.tail_eq
    omega
  · exact h
 | tailFill c=>
  refine ⟨_,start,rfl,?_⟩
  rw[queuedAfter]
  split_ifs with hlocked
  · exact h.tailFill (h.tailLocked hlocked) c
  · exact h
 | tailUnlock=>
  refine ⟨_,start,rfl,?_⟩
  rw[openavbMediaQTailUnlock]
  split_ifs
  · exact {h with tailLocked:=by simp}
  · exact h
 | tailPull=>
  by_cases hlocked:q.tailLocked
  · obtain ⟨q',hpull,hq'⟩:=h.pull (h.tailLocked hlocked)
    refine ⟨q',Ring.next q.itemCount start,?_,?_⟩
    · rw[MediaQ.call,if_pos hlocked,hpull]
      rfl
    · rwa[queuedAfter,if_pos hlocked]
  · refine ⟨q,start,?_,?_⟩
    · rw[MediaQ.call,if_neg hlocked]
    · rwa[queuedAfter,if_neg hlocked]

end Steps

lemma holds_create (n:Nat) (data:α) : Holds (openavbMediaQCreate (n+1) data) [] 0 := by
 constructor<;>simp[openavbMediaQCreate,Ring.pos,Ring.span]

/-- At every moment the queue answers as the list of items pushed and not yet pulled. -/
theorem media_queue_is_bounded_fifo (n:Nat) (data:α) (calls:List (Call α)) :
 Runs.Throughout useStep Fifo calls ⟨some (openavbMediaQCreate (n+1) data),[]⟩ := by
 have hinv:Runs.Throughout useStep
  (fun u:Use α=>∃q start,u.queue=some q ∧ Holds q u.queued start) calls
  ⟨some (openavbMediaQCreate (n+1) data),[]⟩:=by
  apply Runs.throughout_of_invariant
  · rintro c u ⟨q,start,hq,hholds⟩
    obtain ⟨q',start',hcall,hnext⟩:=hholds.call c
    rw[useStep,hq]
    exact ⟨q',start',hcall,hnext⟩
  · exact ⟨_,0,rfl,holds_create n data⟩
 apply hinv.imp
 rintro u ⟨q,start,hq,hholds⟩
 exact ⟨q,hq,hholds.answers⟩

end OpenAvnu.MediaQ
