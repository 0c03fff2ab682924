import Mathlib.Logic.Function.Basic
import OpenAvnu.Ring
import OpenAvnu.Runs

/-!
# Ring queues

`openavb_queue.c` and `maap_log_queue.c`: the same functions, for queues of fewer than 2^31 slots.
The caller writes into the slot locked at the head.
-/

namespace OpenAvnu.RingQueues

open List OpenAvnu.Ring Runs

variable {α:Type}

structure Elem (α:Type) where
 setFlg:Bool
 data:α

structure Queue (α:Type) where
 (queueSize head tail:Nat)
 elemArray:Nat → Elem α

def newQueue (zero:α) (queueSize:Nat) : Queue α := ⟨queueSize,0,0,fun _=>⟨false,zero⟩⟩

def getElemCount (queue:Queue α) : Nat :=
 let cnt:=
  if queue.tail<queue.head then queue.head-queue.tail-1
  else if queue.head<queue.tail then queue.head+((queue.queueSize-1)-queue.tail)
  else 0
 if (queue.elemArray queue.tail).setFlg then cnt+1 else cnt

def headLock (queue:Queue α) : Option Nat :=
 if (queue.elemArray queue.head).setFlg then none else some queue.head
def setElem (slot:Nat) (elem:Elem α) (queue:Queue α) : Queue α :=
 {queue with elemArray:=Function.update queue.elemArray slot elem}
def headPush (queue:Queue α) : Queue α :=
 {setElem queue.head {queue.elemArray queue.head with setFlg:=true} queue with
  head:=if queue.queueSize≤queue.head+1 then 0 else queue.head+1}
def tailLock (queue:Queue α) : Option Nat :=
 if (queue.elemArray queue.tail).setFlg then some queue.tail else none
def tailPull (queue:Queue α) : Queue α :=
 {setElem queue.tail {queue.elemArray queue.tail with setFlg:=false} queue with
  tail:=if queue.queueSize≤queue.tail+1 then 0 else queue.tail+1}

section
variable (zero:α) (queueSize:Nat) (queue:Queue α)

def openavbQueueNewQueue : Queue α := newQueue zero queueSize
def openavbQueueGetElemCount : Nat := getElemCount queue
def openavbQueueHeadLock : Option Nat := headLock queue
def openavbQueueHeadPush : Queue α := headPush queue
def openavbQueueTailLock : Option Nat := tailLock queue
def openavbQueueTailPull : Queue α := tailPull queue
def maapLogQueueNewQueue : Queue α := newQueue zero queueSize
def maapLogQueueGetElemCount : Nat := getElemCount queue
def maapLogQueueHeadLock : Option Nat := headLock queue
def maapLogQueueHeadPush : Queue α := headPush queue
def maapLogQueueTailLock : Option Nat := tailLock queue
def maapLogQueueTailPull : Queue α := tailPull queue

end

inductive Input (α:Type) where
 | push (data:α)
 | pull

def step : Input α → Queue α → Queue α
 | .push data, queue=>
  match headLock queue with
  | some slot=>headPush (setElem slot {queue.elemArray slot with data:=data} queue)
  | none=>queue
 | .pull, queue=>if (tailLock queue).isSome then tailPull queue else queue

/-- A queue of at most `n` elements. -/
def fifo (n:Nat) : Input α → List α → List α
 | .push data, queued=>if queued.length<n then queued++[data] else queued
 | .pull, queued=>queued.tail

/-- The flags mark the slots from the tail on, and their data is what is queued. -/
structure Holds (n:Nat) (queue:Queue α) (queued:List α) : Prop where
 size:queue.queueSize=n
 tail_lt:queue.tail<n
 length_le:queued.length≤n
 head:queue.head=pos n queue.tail queued.length
 flags:∀i,(queue.elemArray i).setFlg=true↔i∈span n queue.tail queued.length
 data:queued=(span n queue.tail queued.length).map fun i=>(queue.elemArray i).data

section
variable {n:Nat} {queue:Queue α} {queued:List α}

lemma holds_newQueue (zero:α) (hn:0<n) : Holds n (newQueue zero n) [] where
 size:=rfl
 tail_lt:=hn
 length_le:=hn.le
 head:=(pos_zero hn).symm
 flags _:=⟨nofun,nofun⟩
 data:=rfl

lemma Holds.head_set (h:Holds n queue queued) : (queue.elemArray queue.head).setFlg=true↔queued.length=n := by
 rw[h.flags,h.head]
 constructor
 · intro hmem
   by_contra hne
   exact not_mem_span h.tail_lt (lt_of_le_of_ne h.length_le hne) hmem
 · intro hfull
   rw[hfull,pos_full h.tail_lt]
   exact mem_map.mpr ⟨0,mem_range.mpr (Nat.zero_lt_of_lt h.tail_lt),pos_zero h.tail_lt⟩

lemma Holds.tail_set (h:Holds n queue queued) : (queue.elemArray queue.tail).setFlg=true↔queued≠[] := by
 rw[h.flags,←length_pos_iff]
 constructor
 · intro hmem
   obtain ⟨j,hj,-⟩:=mem_map.mp hmem
   exact Nat.zero_lt_of_lt (mem_range.mp hj)
 · intro hpos
   exact mem_map.mpr ⟨0,mem_range.mpr hpos,pos_zero h.tail_lt⟩

lemma step_push (hfree:(queue.elemArray queue.head).setFlg=false) (data:α) : step (.push data) queue={queue with
  head:=next queue.queueSize queue.head
  elemArray:=Function.update queue.elemArray queue.head ⟨true,data⟩} := by
 simp[step,headLock,hfree,headPush,setElem,Ring.next]
lemma step_pull (hset:(queue.elemArray queue.tail).setFlg=true) : step .pull queue={queue with
  tail:=next queue.queueSize queue.tail
  elemArray:=Function.update queue.elemArray queue.tail
   ⟨false,(queue.elemArray queue.tail).data⟩} := by
 simp[step,tailLock,hset,tailPull,setElem,Ring.next]
lemma map_data_update {slots:List Nat} {i:Nat} (hi:i∉slots) (elems:Nat → Elem α)
 (elem:Elem α) : slots.map (fun j=>(Function.update elems i elem j).data)=
  slots.map fun j=>(elems j).data := by
 refine map_congr_left fun j hj=>?_
 rw[Function.update_of_ne (ne_of_mem_of_not_mem hj hi)]

lemma Holds.push (h:Holds n queue queued) (data:α) :
 Holds n (step (.push data) queue) (fifo n (.push data) queued) := by
 rw[fifo]
 by_cases hfull:queued.length=n
 · rw[if_neg (by omega),step,headLock,if_pos (h.head_set.mpr hfull)]
   exact h
 have hlt:queued.length<n:=lt_of_le_of_ne h.length_le hfull
 have hout:=not_mem_span h.tail_lt hlt
 have hlength:(queued++[data]).length=queued.length+1:=length_append
 rw[←h.head] at hout
 rw[if_pos hlt,step_push (Bool.eq_false_iff.mpr (mt h.head_set.mp hfull)),h.size]
 refine ⟨rfl,h.tail_lt,by omega,?_,fun i=>?_,?_⟩
 · rw[hlength,h.head]
   exact next_pos h.tail_lt hlt
 · rw[hlength,span_succ,mem_append,mem_singleton,←h.head]
   by_cases hi:i=queue.head
   · simp[hi]
   · simpa[Function.update_of_ne hi,hi] using h.flags i
 · rw[hlength,span_succ,map_append,map_singleton,←h.head,map_data_update hout,←h.data]
   simp

lemma Holds.pull (h:Holds n queue queued) : Holds n (step .pull queue) (fifo n .pull queued) := by
 rw[fifo]
 cases queued with
 | nil=>
  have hunset:=mt h.tail_set.mp (not_not.mpr rfl)
  rw[step,tailLock,if_neg hunset]
  exact h
 | cons first rest=>
  have hlt:rest.length<n:=h.length_le
  have hspan:=span_succ_first h.tail_lt hlt
  have hout:=not_mem_span_next h.tail_lt hlt
  have hdata:=h.data
  rw[length_cons,hspan,map_cons] at hdata
  rw[step_pull (h.tail_set.mpr (cons_ne_nil _ _)),h.size,tail_cons]
  refine ⟨rfl,next_lt h.tail_lt,hlt.le,?_,fun i=>?_,?_⟩
  · rw[pos_next h.tail_lt hlt]
    exact h.head
  · by_cases hi:i=queue.tail
    · simpa[hi] using hout
    · have hflag:=h.flags i
      rw[length_cons,hspan,mem_cons] at hflag
      simpa[Function.update_of_ne hi,hi] using hflag
  · rw[map_data_update hout]
    exact (cons.inj hdata).2

lemma Holds.count (h:Holds n queue queued) :
 getElemCount queue=if queued.length=n then 1 else queued.length := by
 have hhead:=h.head
 have htail:=h.tail_lt
 have hle:=h.length_le
 rw[pos_cases h.tail_lt h.length_le] at hhead
 simp only[getElemCount,h.size,h.tail_set,ne_eq,←length_eq_zero_iff]
 split_ifs at hhead ⊢<;>omega

end

theorem queue_count_exact_iff (zero:α) {n:Nat} (hn:1≤n) (inputs:List (Input α)) :
 let queue:=run step inputs (newQueue zero n)
 let queued:=run (fifo n) inputs []
 (headLock queue=none↔queued.length=n) ∧ (tailLock queue=none↔queued=[]) ∧
  (tailLock queue).map (fun slot=>(queue.elemArray slot).data)=queued.head? ∧
  (getElemCount queue=queued.length↔queued.length<n ∨ n=1) := by
 intro queue queued
 have h:Holds n queue queued:=by
  refine run_related (fun i queue queued h=>?_) inputs (holds_newQueue zero hn)
  cases i with
  | push data=>exact h.push data
  | pull=>exact h.pull
 have hle:=h.length_le
 refine ⟨?_,?_,?_,?_⟩
 · rw[headLock,←h.head_set]
   split_ifs with hset<;>simp[hset]
 · rw[tailLock,←not_iff_not,←ne_eq queued,←h.tail_set]
   split_ifs with hset<;>simp[hset]
 · rw[tailLock]
   split_ifs with hset
   · obtain ⟨first,rest,hcons⟩:=exists_cons_of_ne_nil (h.tail_set.mp hset)
     have hdata:=h.data
     rw[hcons,length_cons,span_succ_first h.tail_lt (by rw[hcons] at hle;exact hle)] at hdata
     rw[hcons,head?_cons,Option.map_some,(cons.inj hdata).1]
   · rw[not_not.mp (mt h.tail_set.mpr hset)]
     rfl
 · rw[h.count]
   split_ifs<;>omega

def wrapped : List (Input Nat) := [.push 7,.push 8,.pull,.push 9,.pull,.push 10]

theorem queue_count_exact_two : openavbQueueTailLock (run step wrapped (openavbQueueNewQueue 0 3))=some 2 ∧
 openavbQueueHeadLock (run step wrapped (openavbQueueNewQueue 0 3))=some 1 ∧
 openavbQueueGetElemCount (run step wrapped (openavbQueueNewQueue 0 3))=2 :=
 ⟨by decide,by decide,(queue_count_exact_iff 0 (by decide) wrapped).2.2.2.mpr (.inl (by decide))⟩

theorem full_queue_counts_one :
 openavbQueueGetElemCount (run step [.push 7,.push 8] (openavbQueueNewQueue 0 2))=1 ∧
 maapLogQueueGetElemCount (run step [.push 7,.push 8] (maapLogQueueNewQueue 0 2))=1 ∧
  run (fifo 2) [.push 7,.push 8] []=[7,8] := by
 decide

end OpenAvnu.RingQueues
