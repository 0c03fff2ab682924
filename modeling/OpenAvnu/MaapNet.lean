import Mathlib.Data.List.Perm.Basic
import OpenAvnu.Runs

/-!
# The transmit queue

Packets are fetched in the order of their buffers.
-/

namespace OpenAvnu.MaapNet

open Runs List

inductive BufferState where
 | free
 | supplied
 | queued
 | sending
 deriving DecidableEq

structure Buffer where
 address:Nat
 contents:List UInt8
 state:BufferState
 deriving DecidableEq

structure Net where
 (netBuffer pFirst:List Buffer)

def netBufferSize : Nat := 64
def cleared (address:Nat) (state:BufferState) : Buffer := ⟨address,List.replicate netBufferSize 0,state⟩
def netNewNet : Net := ⟨(List.range 4).map fun i=>cleared i .free,[]⟩
def updateFirst (p:Buffer → Bool) (f:Buffer → Buffer) : List Buffer → Option (Buffer×List Buffer)
 | []=>none
 | b::buffers=>
  if p b then some (b,f b::buffers)
  else (updateFirst p f buffers).map fun found=>(found.1,b::found.2)

/-- The preallocated buffers are searched before the others. -/
def Net.update (p:Buffer → Bool) (f:Buffer → Buffer) (net:Net) : Option (Buffer×Net) :=
 match updateFirst p f net.netBuffer with
 | some found=>some (found.1,{net with netBuffer:=found.2})
 | none=>(updateFirst p f net.pFirst).map fun found=>(found.1,{net with pFirst:=found.2})

/-- `address` is where a further buffer is allocated. -/
def netGetPacketBuffer (net:Net) (address:Nat) : Nat×Net :=
 match updateFirst (fun b=>decide (b.state=.free)) (fun b=>{b with state:=.supplied})
  net.netBuffer with
 | some found=>(found.1.address,{net with netBuffer:=found.2})
 | none=>(address,{net with pFirst:=net.pFirst++[cleared address .supplied]})

/-- Queue a buffer that has been filled with `contents`; `none` if an assertion fails. -/
def netQueuePacket (net:Net) (buffer:Nat) (contents:List UInt8) : Option Net :=
 match net.update (fun b=>decide (b.address=buffer))
  (fun b=>{b with contents,state:=.queued}) with
 | some (b,net)=>if b.state=.supplied then some net else none
 | none=>none
def netGetNextQueuedPacket (net:Net) : Option Buffer×Net :=
 match net.update (fun b=>decide (b.state=.queued)) (fun b=>{b with state:=.sending}) with
 | some (b,net)=>(some b,net)
 | none=>(none,net)

def netFreeQueuedPacket (net:Net) (buffer:Nat) : Option Net :=
 match updateFirst (fun b=>decide (b.address=buffer)) (fun b=>{b with state:=.free})
  net.netBuffer with
 | some (b,buffers)=>if b.state=.sending then some {net with netBuffer:=buffers} else none
 | none=>
  match net.pFirst.find? fun b=>decide (b.address=buffer) with
  | some b=>
   if b.state=.sending then
    some {net with pFirst:=net.pFirst.eraseP fun b=>decide (b.address=buffer)}
   else none
  | none=>none

inductive Op where
 | getPacketBuffer (address:Nat)
 | queuePacket (buffer:Nat) (contents:List UInt8)
 | getNextQueuedPacket
 | freeQueuedPacket (buffer:Nat)

structure Session where
 net:Net
 passed:List (List UInt8)
 returned:List (List UInt8)

def step : Op → Session → Session
 | .getPacketBuffer address, s=>{s with net:=(netGetPacketBuffer s.net address).2}
 | .queuePacket buffer contents, s=>
  match netQueuePacket s.net buffer contents with
  | some net=>{s with net,passed:=s.passed++[contents]}
  | none=>s
 | .getNextQueuedPacket, s=>
  let next:=netGetNextQueuedPacket s.net
  {s with net:=next.2,returned:=s.returned++(next.1.map Buffer.contents).toList}
 | .freeQueuedPacket buffer, s=>
  match netFreeQueuedPacket s.net buffer with
  | some net=>{s with net}
  | none=>s

def Net.buffers (net:Net) : List Buffer := net.netBuffer++net.pFirst
def pending (buffers:List Buffer) : List (List UInt8) :=
 (buffers.filter fun b=>decide (b.state=.queued)).map Buffer.contents
@[simp] lemma pending_append (l l':List Buffer) : pending (l++l')=pending l++pending l'
 := by
 simp[pending]
lemma pending_cons (b:Buffer) (l:List Buffer) :
 pending (b::l)=(if b.state=.queued then [b.contents] else [])++pending l := by
 by_cases h:b.state=.queued<;>simp[pending,h]

variable {l:List Buffer} {net net':Net} {s:Session} {buffer:Nat} {s':Session} {op:Op}

lemma pending_eq_nil : pending l=[]↔∀b∈l,b.state ≠ .queued := by
 simp[pending]

variable {p:Buffer → Bool} {f:Buffer → Buffer} {b:Buffer}

lemma updateFirst_some {l':List Buffer} (h:updateFirst p f l=some (b,l')) :
 ∃before after,l=before++b::after ∧ l'=before++f b::after ∧ p b=true ∧
  ∀c∈before,p c=false := by
 induction l generalizing l' with
 | nil=>cases h
 | cons c l ih=>
  rw[updateFirst] at h
  split at h
  next hc=>
   cases h
   exact ⟨[],l,rfl,rfl,hc,by simp⟩
  next hc=>
   obtain ⟨found,hfound,heq⟩:=Option.map_eq_some_iff.1 h
   cases heq
   obtain ⟨before,after,hl,hl',hb,hbefore⟩:=ih hfound
   refine ⟨c::before,after,congrArg (c :: ·) hl,congrArg (c :: ·) hl',hb,?_⟩
   exact List.forall_mem_cons.2 ⟨Bool.eq_false_iff.2 hc,hbefore⟩

lemma updateFirst_none : updateFirst p f l=none↔∀c∈l,p c=false := by
 induction l with
 | nil=>simp[updateFirst]
 | cons c l ih=>
  rw[updateFirst]
  split
  next hc=>simp[hc]
  next hc=>simp[hc,ih]

lemma Net.update_some (h:net.update p f=some (b,net')) :
 ∃before after,net.buffers=before++b::after ∧ net'.buffers=before++f b::after ∧
  p b=true ∧ ∀c∈before,p c=false := by
 unfold Net.update at h
 split at h
 next found hfound=>
  cases h
  obtain ⟨before,after,hl,hl',hb,hbefore⟩:=updateFirst_some hfound
  refine ⟨before,after++net.pFirst,?_,?_,hb,hbefore⟩
  · simp[Net.buffers,hl]
  · simp[Net.buffers,hl']
 next hnone=>
  obtain ⟨found,hfound,heq⟩:=Option.map_eq_some_iff.1 h
  cases heq
  obtain ⟨before,after,hl,hl',hb,hbefore⟩:=updateFirst_some hfound
  refine ⟨net.netBuffer++before,after,?_,?_,hb,fun c hc=>?_⟩
  · simp[Net.buffers,hl]
  · simp[Net.buffers,hl']
  · exact (mem_append.1 hc).elim (updateFirst_none.1 hnone c) (hbefore c)

lemma Net.update_none : net.update p f=none↔∀c∈net.buffers,p c=false := by
 simp only[Net.buffers,mem_append,or_imp,forall_and,←updateFirst_none (f:=f)]
 unfold Net.update
 cases updateFirst p f net.netBuffer<;>simp

/-- The queued packet's buffer stands behind all that are queued. -/
def InOrder : Op → Session → Prop
 | .queuePacket buffer _, s=>
  ∀b∈s.net.buffers.dropWhile fun b=>decide (b.address≠buffer),b.state ≠ .queued
 | _, _=>True

/-- A call leaves the packets alone, puts one among those waiting or hands the first one out. -/
inductive Moved (op:Op) (s s':Session) : Prop
 | none (hpassed:s'.passed=s.passed) (hreturned:s'.returned=s.returned)
  (hpending:pending s'.net.buffers=pending s.net.buffers)
 | queued (before after:List (List UInt8)) (contents:List UInt8)
  (hpassed:s'.passed=s.passed++[contents]) (hreturned:s'.returned=s.returned)
  (hbefore:pending s.net.buffers=before++after)
  (hafter:pending s'.net.buffers=before++contents::after) (horder:InOrder op s → after=[])
 | fetched (contents:List UInt8) (hpassed:s'.passed=s.passed)
  (hreturned:s'.returned=s.returned++[contents])
  (hpending:pending s.net.buffers=contents::pending s'.net.buffers)

lemma queuePacket_moved {contents:List UInt8}
 (h:netQueuePacket s.net buffer contents=some net) :
 Moved (.queuePacket buffer contents) s {s with net,passed:=s.passed++[contents]} := by
 unfold netQueuePacket at h
 split at h
 next b net' hfound=>
  split_ifs at h with hstate
  cases h
  obtain ⟨before,after,hl,hl',hb,hbefore⟩:=Net.update_some hfound
  refine .queued (pending before) (pending after) contents rfl rfl ?_ ?_ fun horder=>?_
  · rw[hl,pending_append,pending_cons,hstate]
    rfl
  · rw[hl',pending_append]
    rfl
  · have hdrop:s.net.buffers.dropWhile (fun b=>decide (b.address≠buffer))=b::after:=by
     rw[hl,dropWhile_append_of_pos fun c hc=>by simpa using hbefore c hc]
     exact dropWhile_cons_of_neg (by simpa using hb)
    rw[InOrder,hdrop] at horder
    exact pending_eq_nil.2 (List.forall_mem_cons.1 horder).2
 next=>cases h

lemma netGetPacketBuffer_pending (net:Net) (address:Nat) :
 pending (netGetPacketBuffer net address).2.buffers=pending net.buffers := by
 unfold netGetPacketBuffer
 split
 next found hfound=>
  obtain ⟨before,after,hl,hl',hb,-⟩:=updateFirst_some hfound
  have hfree:found.1.state=.free:=of_decide_eq_true hb
  simp[Net.buffers,hl,hl',pending_cons,hfree]
 next=>simp[Net.buffers,pending,cleared]

lemma netFreeQueuedPacket_pending (h:netFreeQueuedPacket net buffer=some net') :
 pending net'.buffers=pending net.buffers := by
 unfold netFreeQueuedPacket at h
 split at h
 next b buffers hfound=>
  split_ifs at h with hstate
  cases h
  obtain ⟨before,after,hl,rfl,-⟩:=updateFirst_some hfound
  simp[Net.buffers,hl,pending_cons,hstate]
 next=>
  split at h
  next b hfound=>
   split_ifs at h with hstate
   cases h
   obtain ⟨hb,before,after,hl,hbefore⟩:=find?_eq_some_iff_append.1 hfound
   rw[Net.buffers,Net.buffers,hl,eraseP_append_right _ (by simpa using hbefore),eraseP_cons,hb]
   simp[pending_cons,hstate]
  next=>cases h

lemma step_moved (op:Op) (s:Session) : Moved op s (step op s) := by
 cases op with
 | getPacketBuffer address=>exact .none rfl rfl (netGetPacketBuffer_pending s.net address)
 | queuePacket buffer contents=>
  rw[step]
  split
  next net h=>exact queuePacket_moved h
  next=>exact .none rfl rfl rfl
 | getNextQueuedPacket=>
  rw[step,netGetNextQueuedPacket]
  split
  next b net h=>
   obtain ⟨before,after,hl,hl',hb,hbefore⟩:=Net.update_some h
   have hstate:b.state=.queued:=of_decide_eq_true hb
   have hnone:pending before=[]:=
    pending_eq_nil.2 fun c hc=>of_decide_eq_false (hbefore c hc)
   refine .fetched b.contents rfl rfl ?_
   simp[hl,hl',hnone,pending_cons,hstate]
  next=>exact .none rfl (append_nil _) rfl
 | freeQueuedPacket buffer=>
  rw[step]
  split
  next net h=>exact .none rfl rfl (netFreeQueuedPacket_pending h)
  next=>exact .none rfl rfl rfl

lemma Moved.perm (h:Moved op s s') (hs:s.passed.Perm (s.returned++pending s.net.buffers)) :
 s'.passed.Perm (s'.returned++pending s'.net.buffers) := by
 cases h with
 | none hpassed hreturned hpending=>rwa[hpassed,hreturned,hpending]
 | queued before after contents hpassed hreturned hbefore hafter=>
  rw[hpassed,hreturned,hafter]
  rw[hbefore] at hs
  refine (hs.append_right [contents]).trans ?_
  rw[append_assoc,append_assoc]
  exact (perm_append_singleton contents after).append_left before |>.append_left s.returned
 | fetched contents hpassed hreturned hpending=>
  rw[hpassed,hreturned,append_assoc]
  rwa[hpending] at hs

lemma Moved.fifo (h:Moved op s s') (horder:InOrder op s)
 (hs:s.passed=s.returned++pending s.net.buffers) : s'.passed=s'.returned++pending s'.net.buffers := by
 cases h with
 | none hpassed hreturned hpending=>rwa[hpassed,hreturned,hpending]
 | queued before after contents hpassed hreturned hbefore hafter hlast=>
  obtain rfl:=hlast horder
  rw[hpassed,hreturned,hafter,hs,hbefore,append_nil,append_assoc]
 | fetched contents hpassed hreturned hpending=>
  rw[hpassed,hreturned,append_assoc,hs,hpending]
  rfl

lemma getNext_none_iff (net:Net) : (netGetNextQueuedPacket net).1=none↔pending net.buffers=[] := by
 rw[pending_eq_nil,netGetNextQueuedPacket]
 have hnone:net.update (fun b=>decide (b.state=.queued))
  (fun b=>{b with state:=.sending})=none↔∀b∈net.buffers,b.state ≠ .queued:=by
  simp[Net.update_none]
 split<;>simp_all

def opened : Session := ⟨netNewNet,[],[]⟩

/-- Nothing is lost or fetched twice; in order, if every packet is queued behind those that wait. -/
theorem transmit_queue_faithful (ops:List Op) : (run step ops opened).passed.Perm
  ((run step ops opened).returned++pending (run step ops opened).net.buffers) ∧
 ((netGetNextQueuedPacket (run step ops opened).net).1=none ↔
  (run step ops opened).returned.length=(run step ops opened).passed.length) ∧
 (Along step InOrder ops opened →
  (run step ops opened).returned <+: (run step ops opened).passed) := by
 have hperm:(run step ops opened).passed.Perm
  ((run step ops opened).returned++pending (run step ops opened).net.buffers):=
  run_invariant (P:=fun s=>s.passed.Perm (s.returned++pending s.net.buffers))
   (fun op s hs=>(step_moved op s).perm hs) ops (.refl _)
 refine ⟨hperm,?_,fun horder=>?_⟩
 · have hlength:=hperm.length_eq
   rw[length_append] at hlength
   rw[getNext_none_iff,←length_eq_zero_iff]
   omega
 · have hfifo:=(throughout_of_along (P:=fun s=>s.passed=s.returned++pending s.net.buffers)
    (fun op s hin hs=>(step_moved op s).fifo hin hs) rfl horder).last
   exact ⟨_,hfifo.symm⟩

instance : (op:Op) → (s:Session) → Decidable (InOrder op s)
 | .queuePacket _ _, _=>inferInstanceAs (Decidable (∀_∈_,_))
 | .getPacketBuffer _, _ | .getNextQueuedPacket, _ | .freeQueuedPacket _, _=>
  inferInstanceAs (Decidable True)

theorem transmit_queue_faithful_two :
 (run step [.getPacketBuffer 4,.queuePacket 0 [1],.getPacketBuffer 4,.queuePacket 1 [2],
  .getNextQueuedPacket] opened).returned <+: [[1],[2]] :=
 (transmit_queue_faithful [.getPacketBuffer 4,.queuePacket 0 [1],.getPacketBuffer 4,
  .queuePacket 1 [2],.getNextQueuedPacket]).2.2 (by decide)

theorem later_packet_overtakes :
 let s:=run step [.getPacketBuffer 4,.queuePacket 0 [1],.getPacketBuffer 4,.queuePacket 1 [2],
  .getNextQueuedPacket,.freeQueuedPacket 0,.getPacketBuffer 4,.queuePacket 0 [3],.getNextQueuedPacket] opened
 s.passed=[[1],[2],[3]] ∧ s.returned=[[1],[3]] := by
 decide

end OpenAvnu.MaapNet
