import OpenAvnu.Acmp
import OpenAvnu.Runs

/-!
# Messages on their way to the ACMP state machines

Messages are posted into one slot, with a flag for each type and a semaphore. The machines hold
their mutex except around the wait for it.
-/

namespace OpenAvnu.AcmpPosts

open Acmp Runs List Function

structure Machine where
 /-- the flags in the order in which the waiting state tests them -/
 order:List Receiver
 mine:CommandResponse → Bool
 /-- the state of the message is not left again -/
 spins:Receiver → CommandResponse → Bool
 /-- the wait for the semaphore ends with the next timeout of a command in flight -/
 timed:Bool

/-- The state of a DISCONNECT_TX_RESPONSE goes back to waiting for a known listener only. -/
def listener (myId:BitVec 64) (validListenerUnique:UInt16 → Bool) : Machine where
 order := [.listenerConnectRXCmd,.listenerConnectTXResp,.listenerGetRXState,
  .listenerDisconnectRXCmd,.listenerDisconnectTXResp]
 mine m:=decide (m.listenerEntityId=myId)
 spins k m:=decide (k=.listenerDisconnectTXResp)&&!validListenerUnique m.listenerUniqueId
 timed:=true

def talker (myId:BitVec 64) : Machine where
 order := [.talkerConnectTXCmd,.talkerDisconnectTXCmd,.talkerGetTXState,.talkerGetTXConnectionCmd]
 mine m:=decide (m.talkerEntityId=myId)
 spins _ _:=false
 timed:=false

inductive Role where
 | listener | talker
 deriving DecidableEq

def machine (myId:BitVec 64) (validListenerUnique:UInt16 → Bool) : Role → Machine
 | .listener=>listener myId validListenerUnique
 | .talker=>talker myId

inductive Control where
 /-- before its first lock -/
 | starting
 | waiting
 /-- behind the semaphore, before the lock -/
 | woken
 /-- the same after a timeout; `found` is whether a command in flight has timed out -/
 | expired (found:Bool)
 /-- in a state that it does not leave, with the lock -/
 | stuck
 deriving DecidableEq

structure State where
 slot:CommandResponse
 flags:Receiver → Bool
 sem:Nat
 control:Control
 /-- the messages that were posted, and the ones that were handled, with the state that did it -/
 posted:List (Receiver×CommandResponse)
 handled:List (Receiver×CommandResponse)

def State.initial : State where
 slot := ⟨0,0,0,0,0,0,0,0,0,0,0,0,0⟩
 flags _:=false
 sem:=1
 control:=.starting
 posted:=[]
 handled:=[]

def post (k:Receiver) (m:CommandResponse) (s:State) : State :=
 {s with
   slot:=m
   flags:=update s.flags k true
   sem:=s.sem+1
   posted:=s.posted++[(k,m)]}

def enterWaiting (s:State) : State := {s with flags:=fun _=>false,control:=.waiting}

def look (M:Machine) (s:State) : State :=
 if M.mine s.slot then
  match M.order.find? s.flags with
  | some k=>
   let s:={s with handled:=s.handled++[(k,s.slot)]}
   if M.spins k s.slot then {s with control:=.stuck} else enterWaiting s
  | none=>{s with control:=.waiting}
 else {s with control:=.waiting}

def advance (M:Machine) (s:State) : State :=
 match s.control with
 | .starting=>enterWaiting s
 | .waiting=>if s.sem=0 then s else {s with sem:=s.sem-1,control:=.woken}
 | .woken=>look M s
 | .expired true=>enterWaiting s
 | .expired false=>{s with control:=.waiting}
 | .stuck=>s

inductive Input where
 | post (k:Receiver) (m:CommandResponse)
 | expire (found:Bool)
 | advance

/-- The receive thread cannot post while the machine has the lock. -/
def step (M:Machine) (input:Input) (s:State) : State :=
 match input with
 | .post k m=>if k∈M.order ∧ s.control ≠ .stuck then post k m s else s
 | .expire found=>
  if M.timed ∧ s.control=.waiting ∧ s.sem=0 then {s with control:=.expired found} else s
 | .advance=>advance M s

def settle (M:Machine) (s:State) : State := (advance M)^[2*s.sem+1] s
def own (M:Machine) (s:State) : List (Receiver×CommandResponse) := s.posted.filter fun p=>M.mine p.2

/-- Once the machine waits, each was handled once, in order, as what it is, and no others. -/
def Faithful (M:Machine) (s:State) : Prop := (settle M s).handled=own M s

def Control.keepsFlags : Control → Bool
 | .waiting | .woken | .expired false=>true
 | .starting | .expired true | .stuck=>false
def pending (M:Machine) (s:State) : List (Receiver×CommandResponse) :=
 if s.control.keepsFlags&&M.mine s.slot then
  ((M.order.find? s.flags).map fun k=>(k,s.slot)).toList
 else []
def seen (M:Machine) (s:State) : List (Receiver×CommandResponse) := s.handled++pending M s
def Signalled (M:Machine) (s:State) : Prop := pending M s≠[] → s.control=.woken ∨ 0<s.sem

variable {M:Machine} {s:State}

lemma pending_of_not_keeps (h:s.control.keepsFlags=false) : pending M s=[] := by
 simp[pending,h]
lemma pending_enterWaiting (M:Machine) (s:State) : pending M (enterWaiting s)=[] := by
 simp[pending,enterWaiting]
lemma pending_moved {control:Control} (h:control.keepsFlags=s.control.keepsFlags) :
 pending M {s with control}=pending M s := by
 simp only[pending,h]

lemma look_spec (h:s.control=.woken) :
 (look M s).handled=seen M s ∧ pending M (look M s)=[] ∧ (look M s).posted=s.posted := by
 have hkeeps:s.control.keepsFlags=true:=by rw[h];rfl
 cases hmine:M.mine s.slot with
 | false=>
  simp[look,hmine,seen,pending]
 | true=>
  cases hfind:M.order.find? s.flags with
  | none=>
   simp[look,hfind,seen,pending]
  | some k=>
   have hone:pending M s=[(k,s.slot)]:=by simp[pending,hkeeps,hmine,hfind]
   simp only[look,hfind,seen,hone]
   split_ifs
   · exact ⟨rfl,pending_of_not_keeps rfl,rfl⟩
   · exact ⟨rfl,pending_enterWaiting M _,rfl⟩

lemma advance_posted (M:Machine) (s:State) : (advance M s).posted=s.posted := by
 cases hc:s.control with
 | woken=>
  rw[advance,hc]
  exact (look_spec hc).2.2
 | waiting=>
  simp only[advance,hc]
  split_ifs<;>rfl
 | expired found=>cases found<;>simp[advance,hc,enterWaiting]
 | starting=>simp[advance,hc,enterWaiting]
 | stuck=>simp[advance,hc]

lemma advance_seen (M:Machine) (s:State) : seen M (advance M s)=seen M s := by
 have henter:s.control.keepsFlags=false → seen M (enterWaiting s)=seen M s:=by
  intro h
  rw[seen,pending_enterWaiting,seen,pending_of_not_keeps h]
  rfl
 cases hc:s.control with
 | starting=>
  simp only[advance,hc]
  exact henter (by rw[hc];rfl)
 | waiting=>
  simp only[advance,hc]
  split_ifs
  · rfl
  · simp[seen,pending,hc,Control.keepsFlags]
 | woken=>
  obtain ⟨hhandled,hnone,-⟩:=look_spec (M:=M) hc
  simp only[advance,hc]
  rw[seen,hhandled,hnone,append_nil]
 | expired found=>
  cases found with
  | true=>
   simp only[advance,hc]
   exact henter (by rw[hc];rfl)
  | false=>simp[advance,hc,seen,pending,Control.keepsFlags]
 | stuck=>simp only[advance,hc]

lemma advance_signalled (h:Signalled M s) : Signalled M (advance M s) := by
 intro hpending
 cases hc:s.control with
 | starting=>
  simp only[advance,hc,pending_enterWaiting] at hpending
  exact absurd rfl hpending
 | waiting=>
  simp only[advance,hc] at hpending ⊢
  split_ifs at hpending ⊢ with hzero
  · exact h hpending
  · exact .inl rfl
 | woken=>
  simp only[advance,hc] at hpending
  exact absurd (look_spec hc).2.1 hpending
 | expired found=>
  cases found with
  | true=>
   simp only[advance,hc,pending_enterWaiting] at hpending
   exact absurd rfl hpending
  | false=>
   simp only[advance,hc] at hpending ⊢
   rw[pending_moved (by rw[hc];rfl)] at hpending
   have hsem:=(h hpending).resolve_left (by simp[hc])
   exact .inr hsem
 | stuck=>
  have hsame:advance M s=s:=by simp only[advance,hc]
  rw[hsame] at hpending ⊢
  exact h hpending

def remaining (s:State) : Nat := 2*s.sem+if s.control=.waiting ∨ s.control=.stuck then 0 else 1
def Resting (s:State) : Prop := s.control=.stuck ∨ s.control=.waiting ∧ s.sem=0

lemma look_control (M:Machine) (s:State) :
 ((look M s).control=.waiting ∨ (look M s).control=.stuck) ∧ (look M s).sem=s.sem := by
 simp only[look]
 split_ifs
 · split
   · split_ifs
     · exact ⟨.inr rfl,rfl⟩
     · exact ⟨.inl rfl,rfl⟩
   · exact ⟨.inl rfl,rfl⟩
 · exact ⟨.inl rfl,rfl⟩

lemma advance_resting (h:Resting s) : advance M s=s := by
 rcases h with hc|⟨hc,hsem⟩
 · simp only[advance,hc]
 · simp[advance,hc,hsem]

lemma advance_remaining (M:Machine) (h:¬Resting s) : remaining (advance M s) < remaining s := by
 cases hc:s.control with
 | starting=>simp[advance,remaining,hc,enterWaiting]
 | waiting=>
  have hsem:s.sem≠0:=fun hzero=>h (.inr ⟨hc,hzero⟩)
  simp only[advance,remaining,hc,hsem]
  simp
  omega
 | woken=>
  obtain ⟨hcontrol,hsem⟩:=look_control M s
  simp only[advance,remaining,hc,hsem,if_pos hcontrol]
  simp
 | expired found=>cases found<;>simp[advance,remaining,hc,enterWaiting]
 | stuck=>exact absurd (.inl hc) h

lemma iterate_resting {n:Nat} (hn:remaining s≤n) : Resting ((advance M)^[n] s) := by
 induction n generalizing s with
 | zero=>
  by_contra hnot
  have hless:=advance_remaining M hnot
  simp only[Function.iterate_zero,id_eq] at hless
  omega
 | succ n ih=>
  rw[Function.iterate_succ_apply]
  by_cases hrest:Resting s
  · rw[advance_resting hrest,Function.iterate_fixed (advance_resting hrest)]
    exact hrest
  · exact ih (by have:=advance_remaining M hrest;omega)

lemma settle_resting (M:Machine) (s:State) : Resting (settle M s) := by
 apply iterate_resting
 rw[remaining]
 split_ifs<;>omega

lemma pending_of_resting (h:Signalled M s) (hrest:Resting s) : pending M s=[] := by
 by_contra hpending
 rcases hrest with hc|⟨hc,hsem⟩
 · exact hpending (pending_of_not_keeps (by rw[hc];rfl))
 · have hsignal:=h hpending
   rw[hc,hsem] at hsignal
   simp at hsignal

lemma faithful_iff (h:Signalled M s) : Faithful M s↔seen M s=own M s := by
 have hkept:∀n,seen M ((advance M)^[n] s)=seen M s ∧ Signalled M ((advance M)^[n] s):=by
  intro n
  induction n with
  | zero=>exact ⟨rfl,h⟩
  | succ n ih=>
   rw[Function.iterate_succ_apply']
   exact ⟨(advance_seen M _).trans ih.1,advance_signalled ih.2⟩
 obtain ⟨hseen,hsignalled⟩:=hkept (2*s.sem+1)
 have hnone:pending M (settle M s)=[]:=pending_of_resting hsignalled (settle_resting M s)
 have hhandled:(settle M s).handled=seen M s:=by
  rw[←hseen]
  exact (append_nil _).symm.trans (congrArg _ hnone.symm)
 rw[Faithful,hhandled]

/-- None of ours waits to be looked at when a message comes; ours also find the flags cleared. -/
def Apart (M:Machine) (input:Input) (s:State) : Prop :=
 match input with
 | .post k m=>
  k∈M.order → s.control ≠ .stuck → pending M s=[] ∧
   (M.mine m=true → s.control.keepsFlags=true ∧
    M.order.find? (update s.flags k true)=some k)
 | _=>True

variable {k:Receiver} {m:CommandResponse}

lemma pending_post_foreign (hmine:M.mine m=false) : pending M (post k m s)=[] := by
 simp[pending,post,hmine]

lemma pending_post_own (hmine:M.mine m=true) : pending M (post k m s)=[(k,m)] ↔
  s.control.keepsFlags=true ∧ M.order.find? (update s.flags k true)=some k := by
 cases hkeeps:s.control.keepsFlags with
 | false=>simp[pending,post,hkeeps]
 | true=>
  cases hfind:M.order.find? (update s.flags k true) <;>
   simp[pending,post,hkeeps,hmine,hfind]

lemma pending_length (M:Machine) (s:State) : (pending M s).length≤1 := by
 rw[pending]
 split_ifs
 · cases M.order.find? s.flags<;>simp
 · simp

lemma post_seen_iff (h:seen M s=own M s) : seen M (post k m s)=own M (post k m s)↔pending M s=[] ∧
  (M.mine m=true → s.control.keepsFlags=true ∧
   M.order.find? (update s.flags k true)=some k) := by
 have hseen:seen M (post k m s)=s.handled++pending M (post k m s):=rfl
 cases hmine:M.mine m with
 | false=>
  have hown:own M (post k m s)=s.handled++pending M s:=by
   rw[own,show (post k m s).posted=s.posted++[(k,m)] from rfl,filter_append,
    filter_cons_of_neg (by simp[hmine]),filter_nil,append_nil]
   exact h.symm
  rw[hseen,hown,pending_post_foreign hmine,append_cancel_left_eq]
  constructor
  · intro hnone
    exact ⟨hnone.symm,fun htrue=>by cases htrue⟩
  · intro hnone
    exact hnone.1.symm
 | true=>
  have hown:own M (post k m s)=s.handled++(pending M s++[(k,m)]):=by
   rw[own,show (post k m s).posted=s.posted++[(k,m)] from rfl,filter_append,
    filter_cons_of_pos (by simp[hmine]),←append_assoc]
   exact congrArg (fun l=>l++[(k,m)]) h.symm
  rw[hseen,hown,append_cancel_left_eq]
  constructor
  · intro heq
    have hlen:=pending_length M (post k m s)
    rw[heq,length_append,length_singleton] at hlen
    have hnone:pending M s=[]:=length_eq_zero_iff.1 (by omega)
    rw[hnone] at heq
    exact ⟨hnone,fun _=>(pending_post_own hmine).1 heq⟩
  · rintro ⟨hnone,hseen⟩
    rw[hnone,(pending_post_own hmine).2 (hseen rfl)]
    rfl

lemma step_signalled (h:Signalled M s) (input:Input) : Signalled M (step M input s) := by
 cases input with
 | post k m=>
  simp only[step]
  split_ifs
  · exact fun _=>.inr (Nat.succ_pos s.sem)
  · exact h
 | expire found=>
  simp only[step]
  split_ifs with hidle
  · intro hpending
    have hrest:pending M s=[]:=pending_of_resting h (.inr hidle.2)
    cases found with
    | true=>exact absurd (pending_of_not_keeps rfl) hpending
    | false=>exact absurd ((pending_moved (by rw[hidle.2.1];rfl)).trans hrest) hpending
  · exact h
 | advance=>exact advance_signalled h

lemma step_seen_iff (h:Signalled M s) (hseen:seen M s=own M s) (input:Input) :
 seen M (step M input s)=own M (step M input s)↔Apart M input s := by
 cases input with
 | post k m=>
  simp only[step]
  split_ifs with hpost
  · rw[post_seen_iff hseen]
    exact ⟨fun hapart _ _=>hapart,fun hapart=>hapart hpost.1 hpost.2⟩
  · exact iff_of_true hseen fun hk hc=>absurd ⟨hk,hc⟩ hpost
 | expire found=>
  refine iff_of_true ?_ trivial
  simp only[step]
  split_ifs with hidle
  · have hrest:pending M s=[]:=pending_of_resting h (.inr hidle.2)
    have hmoved:pending M {s with control:=.expired found}=[]:=by
     cases found with
     | true=>exact pending_of_not_keeps rfl
     | false=>exact (pending_moved (by rw[hidle.2.1];rfl)).trans hrest
    rw[seen,hrest] at hseen
    rw[seen,hmoved]
    exact hseen
  · exact hseen
 | advance=>
  refine iff_of_true ?_ trivial
  simp only[step]
  rw[advance_seen,hseen,own,own,advance_posted]

lemma throughout_faithful_iff (M:Machine) (inputs:List Input) :
 Throughout (step M) (Faithful M) inputs .initial↔Along (step M) (Apart M) inputs .initial := by
 have hinitial:Signalled M .initial:=fun _=>.inr Nat.one_pos
 apply throughout_iff_along_of (J:=Signalled M)
 · intro input s h
   exact step_signalled h input
 · intro input s h hfaithful
   rw[faithful_iff (step_signalled h input)]
   exact step_seen_iff h ((faithful_iff h).1 hfaithful) input
 · exact hinitial
 · rw[faithful_iff hinitial]
   rfl

/-- No message comes while one of ours waits, and each of ours finds no flag that is tested earlier.
-/
theorem handled_as_posted_iff_apart (myId:BitVec 64) (validListenerUnique:UInt16 → Bool)
 (role:Role) (inputs:List Input) : Throughout (step (machine myId validListenerUnique role))
  (Faithful (machine myId validListenerUnique role)) inputs .initial ↔
  Along (step (machine myId validListenerUnique role))
   (Apart (machine myId validListenerUnique role)) inputs .initial := throughout_faithful_iff _ inputs

def exampleMessage (messageType:UInt8) (talkerEntityId listenerEntityId:BitVec 64)
 (sequenceId:UInt16) : CommandResponse :=
 ⟨messageType,0,0,3,talkerEntityId,listenerEntityId,0,0,0,0,sequenceId,0,0⟩

/-- GET_RX_STATE is taken for a CONNECT_RX_COMMAND, and of two messages only the second is handled.
-/
theorem messages_mixed_up :
 (let get:=exampleMessage 10 8 1 7
  let s:=run (step (machine 1 (fun _=>true) .listener))
   [.advance,.advance,.advance,.post .listenerConnectRXCmd (exampleMessage 6 8 2 6),.advance,
    .advance,.post .listenerGetRXState get,.advance,.advance] .initial
  s.control=.waiting ∧ s.sem=0 ∧ s.handled=[(.listenerConnectRXCmd,get)]) ∧
 (let get:=exampleMessage 4 1 9 4
  let s:=run (step (machine 1 (fun _=>true) .talker))
   [.advance,.advance,.advance,.post .talkerConnectTXCmd (exampleMessage 0 1 8 3),
    .post .talkerGetTXState get,.advance,.advance,.advance,.advance] .initial
  s.control=.waiting ∧ s.sem=0 ∧ s.handled=[(.talkerConnectTXCmd,get)]) := by
 decide +kernel

end OpenAvnu.AcmpPosts
