import OpenAvnu.OpenavbList
import OpenAvnu.Runs

/-!
# The command queue of the AECP entity state machine

Commands are queued under a mutex of their own. `rcvdAEMCommand` is under the mutex that the thread
holds unless it waits.
-/

namespace OpenAvnu.AecpQueue

open OpenavbList Linked List

variable {α:Type}

def addCommandToQueue (allocated:Bool) (command:α) (queue:Nodes α) : Nodes α×Int :=
 if allocated then
  (openavbListNew queue command,if (openavbListFirst queue).isSome then 1 else 0)
 else (queue,-1)
def getNextCommandFromQueue (queue:Nodes α) : Nodes α×Option α :=
 match openavbListFirst queue with
 | none=>(queue,none)
 | some node=>(openavbListDelete queue node,openavbListData queue node)

inductive Machine (α:Type) where
 /-- Before the first `AECP_SM_LOCK`. -/
 | starting
 /-- At the head of the waiting state, before the flag is cleared. -/
 | entering
 /-- Before `AECP_SM_UNLOCK` in the inner loop. -/
 | unlocking
 /-- In `SEM_WAIT`. -/
 | waiting
 /-- Behind `SEM_WAIT`, which may have failed, before `AECP_SM_LOCK`. -/
 | woken (ok:Bool)
 | checking (ok:Bool)
 /-- Before `getNextCommandFromQueue`. -/
 | receiving
 | handling (rcvdCommand:α)
deriving DecidableEq

inductive Call (α:Type) where
 | entered (rcvdCommand:α)
 /-- The queue was empty before, so the thread is to be woken. -/
 | added
 | locked
 | flagged
 | posted
 | returned
deriving DecidableEq

inductive Holder where
 | machine
 | call (i:Nat)
deriving DecidableEq

/-- `queued` and `processed` log what went into the queue and what was handled. -/
structure State (α:Type) where
 machine:Machine α
 calls:List (Call α)
 smMutex:Option Holder
 rcvdAEMCommand:Bool
 semaphore:Nat
 commandQueue:Nodes α
 (queued processed:List α)

def start : State α := ⟨.starting,[],none,false,1,openavbListNewList,[],[]⟩

inductive Input (α:Type) where
 | machine (interrupted:Bool)
 | receive (rcvdCommand:α)
 | call (i:Nat) (allocated:Bool)

/-- `forUs` compares `target_entity_id` with `myEntityID`. -/
def machineStep (forUs:α → Bool) (interrupted:Bool) (s:State α) : State α :=
 match s.machine with
 | .starting=>
  if s.smMutex=none then {s with smMutex:=some .machine,machine:=.entering} else s
 | .entering=>{s with rcvdAEMCommand:=false,machine:=.unlocking}
 | .unlocking=>{s with smMutex:=none,machine:=.waiting}
 | .waiting=>
  if interrupted then {s with machine:=.woken false}
  else if 0<s.semaphore then
   {s with semaphore:=s.semaphore-1,machine:=.woken true}
  else s
 | .woken ok=>
  if s.smMutex=none then {s with smMutex:=some .machine,machine:=.checking ok} else s
 | .checking ok=>
  {s with machine:=if ok&&s.rcvdAEMCommand then .receiving else .unlocking}
 | .receiving=>
  let next:=getNextCommandFromQueue s.commandQueue
  match next.2 with
  | none=>{s with commandQueue:=next.1,machine:=.entering}
  | some rcvdCommand=>{s with commandQueue:=next.1,machine:=.handling rcvdCommand}
 | .handling rcvdCommand=>
  {s with
    processed:=if forUs rcvdCommand then s.processed++[rcvdCommand] else s.processed
    machine:=.receiving}

def receive (forUs:α → Bool) (rcvdCommand:α) (s:State α) : State α :=
 if forUs rcvdCommand then {s with calls:=s.calls++[.entered rcvdCommand]} else s

def callStep (i:Nat) (allocated:Bool) (s:State α) : State α :=
 match s.calls[i]? with
 | none=>s
 | some (.entered rcvdCommand)=>
  let added:=addCommandToQueue allocated rcvdCommand s.commandQueue
  {s with
    commandQueue:=added.1
    queued:=if added.2<0 then s.queued else s.queued++[rcvdCommand]
    calls:=s.calls.set i (if added.2=0 then .added else .returned)}
 | some .added=>
  if s.smMutex=none then
   {s with smMutex:=some (.call i),calls:=s.calls.set i .locked}
  else s
 | some .locked=>{s with rcvdAEMCommand:=true,calls:=s.calls.set i .flagged}
 | some .flagged=>{s with semaphore:=s.semaphore+1,calls:=s.calls.set i .posted}
 | some .posted=>{s with smMutex:=none,calls:=s.calls.set i .returned}
 | some .returned=>s

def step (forUs:α → Bool) : Input α → State α → State α
 | .machine interrupted, s=>machineStep forUs interrupted s
 | .receive rcvdCommand, s=>receive forUs rcvdCommand s
 | .call i allocated, s=>callStep i allocated s
lemma toList_eq_nil_iff (queue:Nodes α) : queue.toList=[]↔openavbListFirst queue=none := by
 rw[first_eq,Nodes.toList]
 cases queue.entries<;>simp[items,firstOf]
lemma addCommandToQueue_toList (command:α) (queue:Nodes α) :
 (addCommandToQueue true command queue).1.toList=queue.toList++[command] := by
 simp[addCommandToQueue,Nodes.toList,items]
lemma getNextCommandFromQueue_nil {queue:Nodes α} (h:queue.toList=[]) :
 getNextCommandFromQueue queue=(queue,none) := by
 rw[toList_eq_nil_iff] at h
 rw[getNextCommandFromQueue,h]

lemma getNextCommandFromQueue_cons {queue:Nodes α} {command:α} {rest:List α}
 (h:queue.toList=command::rest) : (getNextCommandFromQueue queue).2=some command ∧
  (getNextCommandFromQueue queue).1.toList=rest := by
 obtain ⟨⟨node,data⟩,later,hentries⟩:∃e later,queue.entries=e::later:=by
  cases hentries:queue.entries with
  | nil=>simp[Nodes.toList,hentries,items] at h
  | cons e later=>exact ⟨e,later,rfl⟩
 rw[Nodes.toList,hentries] at h
 obtain ⟨rfl,rfl⟩:data=command ∧ items later=rest:=by simpa using h
 have hfirst:openavbListFirst queue=some node:=by rw[first_eq,hentries];rfl
 have hmem:(node,data)∈queue.entries:=by simp[hentries]
 have hfresh:∀e∈later,e.1≠node:=by
  intro e he hnode
  have hnodup:=queue.nodup
  rw[hentries,addresses_cons,nodup_cons] at hnodup
  exact hnodup.1 (hnode▸mem_map_of_mem he)
 have hrest:later.filter (fun e=>decide (e.1≠node))=later:=by
  rw[filter_eq_self]
  intro e he
  exact decide_eq_true (hfresh e he)
 simp only[getNextCommandFromQueue,hfirst]
 constructor
 · exact data_of_mem hmem
 · rw[Nodes.toList,entries_delete,hentries,filter_cons_of_neg (by simp),hrest]

def Machine.holds : Machine α → Bool
 | .starting | .waiting | .woken _=>false
 | .entering | .unlocking | .checking _ | .receiving | .handling _=>true
def Call.holds : Call α → Bool
 | .locked | .flagged | .posted=>true
 | .entered _ | .added | .returned=>false

structure Locked (s:State α) : Prop where
 machine:s.smMutex=some .machine↔s.machine.holds=true
 call:∀i,s.smMutex=some (.call i)↔(s.calls[i]?).any Call.holds=true

section Calls
variable {calls:List (Call α)} {c d x:Call α} {i:Nat}

lemma mem_set_of_mem (hc:c∈calls) (hi:calls[i]? = some d) (hne:c≠d) : c∈calls.set i x := by
 obtain ⟨j,hj⟩:=mem_iff_getElem?.1 hc
 have hij:i≠j:=by
  rintro rfl
  rw[hi] at hj
  exact hne (Option.some.inj hj).symm
 apply mem_of_getElem? (i:=j)
 rw[getElem?_set_ne hij,hj]

lemma mem_set_self (hi:calls[i]? = some d) : x∈calls.set i x := mem_set (List.getElem?_eq_some_iff.1 hi).1 x

lemma any_holds_set (hi:calls[i]? = some d) (j:Nat) : ((calls.set i x)[j]?).any Call.holds=true ↔
  if i=j then x.holds=true else (calls[j]?).any Call.holds=true := by
 by_cases hij:i=j
 · subst hij
   rw[getElem?_set_self (List.getElem?_eq_some_iff.1 hi).1,if_pos rfl]
   rfl
 · rw[getElem?_set_ne hij,if_neg hij]

end Calls

variable {forUs:α → Bool} {s:State α} {c:Call α} {i:Nat} (interrupted:Bool)
 (rcvdCommand:α) (input:Input α)

lemma Locked.not_holds (h:Locked s) (hm:s.machine.holds=true) (hc:c∈s.calls) : c.holds=false := by
 obtain ⟨i,hi⟩:=mem_iff_getElem?.1 hc
 by_contra hholds
 have hcall:s.smMutex=some (.call i):=(h.call i).2 (by simpa[hi] using hholds)
 rw[h.machine.2 hm] at hcall
 cases hcall

lemma Locked.holder (h:Locked s) (hi:s.calls[i]? = some c) (hc:c.holds=true) :
 s.smMutex=some (.call i) := (h.call i).2 (by simp[hi,hc])
lemma start_locked : Locked (start:State α) := ⟨by simp[start,Machine.holds],by simp[start]⟩

lemma machineStep_locked (h:Locked s) : Locked (machineStep forUs interrupted s) := by
 have hheld:=h.machine
 -- a free mutex can be taken, and the mutex of the thread can be released: no call holds it
 have htake:s.smMutex=none → ∀i,(some Holder.machine=some (.call i)) ↔
  (s.calls[i]?).any Call.holds=true:=by
  intro hfree i
  rw[←h.call i,hfree]
  simp
 have hrelease:s.smMutex=some .machine → ∀i,(none=some (Holder.call i)) ↔
  (s.calls[i]?).any Call.holds=true:=by
  intro hmine i
  rw[←h.call i,hmine]
  simp
 unfold machineStep
 cases hm:s.machine with
 | starting=>
  dsimp only
  split
  · exact ⟨by simp[Machine.holds],htake ‹_›⟩
  · exact h
 | entering=>exact ⟨by simpa[hm,Machine.holds] using hheld,h.call⟩
 | unlocking=>
  have hmine:=hheld.2 (by rw[hm];rfl)
  exact ⟨by simp[Machine.holds],hrelease hmine⟩
 | waiting=>
  have hother:s.smMutex=some .machine↔False:=by simpa[hm,Machine.holds] using hheld
  dsimp only
  split
  · exact ⟨by simpa[Machine.holds] using hother,h.call⟩
  · split
    · exact ⟨by simpa[Machine.holds] using hother,h.call⟩
    · exact h
 | woken ok=>
  dsimp only
  split
  · exact ⟨by simp[Machine.holds],htake ‹_›⟩
  · exact h
 | checking ok=>
  have hmine:=hheld.2 (by rw[hm];rfl)
  refine ⟨?_,h.call⟩
  dsimp only
  split<;>simp[hmine,Machine.holds]
 | receiving=>
  have hmine:=hheld.2 (by rw[hm];rfl)
  dsimp only
  split<;>exact ⟨by simp[hmine,Machine.holds],h.call⟩
 | handling rcvdCommand=>
  have hmine:=hheld.2 (by rw[hm];rfl)
  exact ⟨by simp[hmine,Machine.holds],h.call⟩

lemma Locked.moved (h:Locked s) {d:Call α} (hi:s.calls[i]? = some c)
 (hholds:c.holds=d.holds) (j:Nat) : s.smMutex=some (.call j)↔((s.calls.set i d)[j]?).any Call.holds=true := by
 rw[any_holds_set hi,h.call j]
 split
 · next hij=>rw[←hij,hi,Option.any_some,hholds]
 · rfl

lemma callStep_locked (i:Nat) (allocated:Bool) (h:Locked s) : Locked (callStep i allocated s) := by
 unfold callStep
 cases hi:s.calls[i]? with
 | none=>exact h
 | some c=>
  cases c with
  | entered rcvdCommand=>
   refine ⟨h.machine,h.moved hi ?_⟩
   split<;>rfl
  | added=>
   dsimp only
   split
   · next hfree=>
     constructor
     · have hother:¬s.machine.holds=true:=by
        rw[←h.machine,hfree]
        simp
       simp[hother]
     · intro j
       rw[any_holds_set hi,←h.call j,hfree]
       by_cases hij:i=j<;>simp[Call.holds]
   · exact h
  | locked=>exact ⟨h.machine,h.moved hi rfl⟩
  | flagged=>exact ⟨h.machine,h.moved hi rfl⟩
  | posted=>
   have hmine:=h.holder hi rfl
   constructor
   · have hother:¬s.machine.holds=true:=by
      rw[←h.machine,hmine]
      simp
     simp[hother]
   · intro j
     rw[any_holds_set hi,←h.call j,hmine]
     by_cases hij:i=j<;>simp[Call.holds]
  | returned=>exact h

lemma receive_locked (h:Locked s) : Locked (receive forUs rcvdCommand s) := by
 unfold receive
 split
 · refine ⟨h.machine,fun i=>?_⟩
   rw[h.call i]
   rcases Nat.lt_trichotomy i s.calls.length with hlt|rfl|hgt
   · rw[getElem?_append_left hlt]
   · simp[Call.holds]
   · rw[getElem?_eq_none (Nat.le_of_lt hgt),getElem?_eq_none (by simp;omega)]
 · exact h

/-! ## Wake-ups of the AECP entity state machine -/

open Runs

def Machine.atHand : Machine α → List α
 | .handling rcvdCommand=>[rcvdCommand]
 | _=>[]
def InOrder (s:State α) : Prop := s.queued=s.processed++s.machine.atHand++s.commandQueue.toList

structure Ordered (forUs:α → Bool) (s:State α) : Prop where
 order:InOrder s
 entered:∀rcvdCommand,.entered rcvdCommand∈s.calls → forUs rcvdCommand=true
 queued:∀rcvdCommand∈s.queued,forUs rcvdCommand=true

lemma start_ordered : Ordered forUs start := ⟨rfl,by simp[start],by simp[start]⟩

lemma machineStep_order (h:Ordered forUs s) : InOrder (machineStep forUs interrupted s) := by
 have horder:=h.order
 unfold InOrder machineStep at *
 cases hm:s.machine with
 | starting | waiting | woken | checking=>
  dsimp only
  repeat' split
  all_goals simpa[Machine.atHand,hm] using horder
 | entering | unlocking=>
  rw[hm] at horder
  exact horder
 | receiving=>
  rw[hm] at horder
  dsimp only
  cases hqueue:s.commandQueue.toList with
  | nil=>
   rw[getNextCommandFromQueue_nil hqueue]
   exact horder
  | cons command rest=>
   obtain ⟨hnext,hrest⟩:=getNextCommandFromQueue_cons hqueue
   rw[hnext]
   rw[horder,hqueue,hrest]
   simp[Machine.atHand]
 | handling rcvdCommand=>
  have hours:forUs rcvdCommand=true:=by
   apply h.queued
   rw[horder,hm]
   simp[Machine.atHand]
  rw[hm] at horder
  simpa[Machine.atHand,hours] using horder

lemma machineStep_calls (forUs:α → Bool) (interrupted:Bool) (s:State α) :
 (machineStep forUs interrupted s).calls=s.calls ∧
  (machineStep forUs interrupted s).queued=s.queued := by
 unfold machineStep
 split<;>(try dsimp only)<;>repeat' split
 all_goals exact ⟨rfl,rfl⟩

lemma callStep_ordered (i:Nat) (allocated:Bool) (h:Ordered forUs s) :
 Ordered forUs (callStep i allocated s) := by
 have hset:∀c:Call α,(∀command,c ≠ .entered command) → ∀command,
  .entered command∈s.calls.set i c → forUs command=true:=by
  intro c hc command hmem
  rcases mem_or_eq_of_mem_set hmem with hmem|heq
  · exact h.entered command hmem
  · exact absurd heq.symm (hc command)
 unfold callStep
 cases hi:s.calls[i]? with
 | none=>exact h
 | some c=>
  cases c with
  | entered rcvdCommand=>
   cases allocated with
   | false=>exact ⟨h.order,hset _ (by simp[addCommandToQueue]),h.queued⟩
   | true=>
    have hours:=h.entered rcvdCommand (mem_of_getElem? hi)
    have hresult:¬(addCommandToQueue true rcvdCommand s.commandQueue).2<0:=by
     simp only[addCommandToQueue,if_true]
     split<;>simp
    dsimp only
    rw[if_neg hresult]
    constructor
    · unfold InOrder
      rw[addCommandToQueue_toList,h.order]
      simp
    · apply hset
      split<;>simp
    · intro command hmem
      rcases mem_append.1 hmem with hmem|hmem
      · exact h.queued command hmem
      · rwa[mem_singleton.1 hmem]
  | added=>
   dsimp only
   split
   · exact ⟨h.order,hset _ (by simp),h.queued⟩
   · exact h
  | locked | flagged | posted=>exact ⟨h.order,hset _ (by simp),h.queued⟩
  | returned=>exact h

lemma step_ordered (h:Ordered forUs s) : Ordered forUs (step forUs input s) := by
 cases input with
 | machine interrupted=>
  obtain ⟨hcalls,hqueued⟩:=machineStep_calls forUs interrupted s
  refine ⟨machineStep_order interrupted h,?_,?_⟩
  · rw[step,hcalls]
    exact h.entered
  · rw[step,hqueued]
    exact h.queued
 | receive rcvdCommand=>
  rw[step,receive]
  split
  · next hours=>
    refine ⟨h.order,fun command hmem=>?_,h.queued⟩
    rcases mem_append.1 hmem with hmem|hmem
    · exact h.entered command hmem
    · cases mem_singleton.1 hmem
      exact hours
  · exact h
 | call i allocated=>exact callStep_ordered i allocated h

def Call.wakes : Call α → Bool
 | .added | .locked | .flagged=>true
 | .entered _ | .posted | .returned=>false
def Waking (s:State α) : Prop := ∃c∈s.calls,c.wakes=true
def Asked (s:State α) : Prop := s.commandQueue.toList=[] ∨ .added∈s.calls
def Noticed (s:State α) : Prop := s.commandQueue.toList=[] ∨ Waking s ∨ s.rcvdAEMCommand=true
def Posted (s:State α) : Prop := s.commandQueue.toList=[] ∨ Waking s ∨ s.rcvdAEMCommand=true ∧ 0<s.semaphore

def Covered (s:State α) : Prop :=
 match s.machine with
 | .starting | .entering=>Asked s
 | .unlocking | .waiting | .woken false | .checking false=>Posted s
 | .woken true | .checking true=>Noticed s
 | .receiving | .handling _=>True

def Stranded (s:State α) : Prop :=
 s.machine=.waiting ∧ s.semaphore=0 ∧ s.commandQueue.toList≠[] ∧ ∀c∈s.calls,c=.returned
instance [DecidableEq α] (s:State α) : Decidable (Stranded s) := inferInstanceAs (Decidable (_ ∧ _ ∧ _ ∧ _))

structure Awake (s:State α) : Prop where
 locked:Locked s
 flagged:.flagged∈s.calls → s.rcvdAEMCommand=true
 covered:Covered s

lemma Awake.not_stranded (h:Awake s) : ¬Stranded s := by
 rintro ⟨hm,hsemaphore,hqueue,hcalls⟩
 have hcovered:=h.covered
 rw[Covered,hm] at hcovered
 rcases hcovered with hempty|⟨c,hc,hwakes⟩|⟨-,hpost⟩
 · exact hqueue hempty
 · rw[hcalls c hc] at hwakes
   cases hwakes
 · omega

lemma Asked.posted (h:Asked s) : Posted s := h.imp id fun hadded=>.inl ⟨_,hadded,rfl⟩

section CallSteps
variable {i:Nat} {allocated:Bool}

lemma waking_set {c d:Call α} (hi:s.calls[i]? = some c) (hwakes:c.wakes=true → d.wakes=true)
 (h:Waking s) : ∃e∈s.calls.set i d,e.wakes=true := by
 obtain ⟨e,he,hewakes⟩:=h
 by_cases hec:e=c
 · subst hec
   exact ⟨d,mem_set_self hi,hwakes hewakes⟩
 · exact ⟨e,mem_set_of_mem he hi hec,hewakes⟩

lemma callStep_entered {rcvdCommand:α} (hi:s.calls[i]? = some (.entered rcvdCommand))
 (hempty:s.commandQueue.toList=[]) :
 (callStep i allocated s).commandQueue.toList=[] ∨ .added∈(callStep i allocated s).calls := by
 cases allocated with
 | false=>exact .inl (by simpa[callStep,hi,addCommandToQueue] using hempty)
 | true=>
  have hfirst:=(toList_eq_nil_iff _).1 hempty
  have hcalls:(callStep i true s).calls=s.calls.set i .added:=by
   simp[callStep,hi,addCommandToQueue,hfirst]
  rw[hcalls]
  exact .inr (mem_set_self hi)

variable (allocated) in
lemma callStep_commandQueue (h:∀rcvdCommand,s.calls[i]? ≠ some (.entered rcvdCommand)) :
 (callStep i allocated s).commandQueue=s.commandQueue := by
 unfold callStep
 split
 · rfl
 · next hi=>exact absurd hi (h _)
 · split<;>rfl
 all_goals rfl

lemma callStep_asked (h:Asked s) (hwait:s.calls[i]? = some .added → s.smMutex≠none) :
 Asked (callStep i allocated s) := by
 by_cases hentered:∃rcvdCommand,s.calls[i]? = some (.entered rcvdCommand)
 · obtain ⟨rcvdCommand,hi⟩:=hentered
   rcases h with hempty|hadded
   · exact callStep_entered hi hempty
   · refine .inr ?_
     simp only[callStep,hi]
     exact mem_set_of_mem hadded hi (by simp)
 · have hqueue:=callStep_commandQueue allocated fun c hc=>hentered ⟨c,hc⟩
   rcases h with hempty|hadded
   · exact .inl (by rw[hqueue,hempty])
   · refine .inr ?_
     unfold callStep
     split
     · exact hadded
     · next hi=>exact absurd ⟨_,hi⟩ hentered
     · next hi=>rwa[if_neg (hwait hi)]
     · next hi=>exact mem_set_of_mem hadded hi (by simp)
     · next hi=>exact mem_set_of_mem hadded hi (by simp)
     · next hi=>exact mem_set_of_mem hadded hi (by simp)
     · exact hadded

lemma callStep_keeps (i:Nat) (allocated:Bool) (s:State α) :
 (s.rcvdAEMCommand=true → (callStep i allocated s).rcvdAEMCommand=true) ∧
  s.semaphore≤(callStep i allocated s).semaphore ∧
  (callStep i allocated s).machine=s.machine := by
 unfold callStep
 split
 · exact ⟨id,Nat.le_refl _,rfl⟩
 · exact ⟨id,Nat.le_refl _,rfl⟩
 · split<;>exact ⟨id,Nat.le_refl _,rfl⟩
 · exact ⟨fun _=>rfl,Nat.le_refl _,rfl⟩
 · exact ⟨id,Nat.le_succ _,rfl⟩
 · exact ⟨id,Nat.le_refl _,rfl⟩
 · exact ⟨id,Nat.le_refl _,rfl⟩

section
variable (hflag:.flagged∈s.calls → s.rcvdAEMCommand=true)
include hflag

lemma callStep_waking
 (h:s.commandQueue.toList=[] ∨ Waking s) : Posted (callStep i allocated s) := by
 by_cases hentered:∃rcvdCommand,s.calls[i]? = some (.entered rcvdCommand)
 · obtain ⟨rcvdCommand,hi⟩:=hentered
   rcases h with hempty|hwaking
   · exact Asked.posted (callStep_entered hi hempty)
   · refine .inr (.inl ?_)
     have hwaking':=fun d=>waking_set (d:=d) hi (fun h=>by cases h) hwaking
     unfold Waking callStep
     simpa only[hi] using hwaking' _
 · have hqueue:=callStep_commandQueue allocated fun c hc=>hentered ⟨c,hc⟩
   rcases h with hempty|hwaking
   · exact .inl (by rw[hqueue,hempty])
   · refine .inr ?_
     unfold Waking callStep
     split
     · exact .inl hwaking
     · next hi=>exact absurd ⟨_,hi⟩ hentered
     · next hi=>
       split
       · exact .inl (waking_set hi (fun _=>rfl) hwaking)
       · exact .inl hwaking
     · next hi=>exact .inl (waking_set hi (fun _=>rfl) hwaking)
     · next hi=>exact .inr ⟨hflag (mem_of_getElem? hi),Nat.succ_pos _⟩
     · next hi=>exact .inl (waking_set hi (fun h=>by cases h) hwaking)
     · exact .inl hwaking

lemma callStep_posted (h:Posted s) : Posted (callStep i allocated s) := by
 obtain ⟨hkeep,hsemaphore,-⟩:=callStep_keeps i allocated s
 rcases h with hempty|hwaking|⟨hset,hpost⟩
 · exact callStep_waking hflag (.inl hempty)
 · exact callStep_waking hflag (.inr hwaking)
 · exact .inr (.inr ⟨hkeep hset,Nat.lt_of_lt_of_le hpost hsemaphore⟩)

lemma callStep_noticed (h:Noticed s) : Noticed (callStep i allocated s) := by
 have hposted:∀s:State α,Posted s → Noticed s:=fun s h=>h.imp id (Or.imp id And.left)
 rcases h with hempty|hwaking|hset
 · exact hposted _ (callStep_waking hflag (.inl hempty))
 · exact hposted _ (callStep_waking hflag (.inr hwaking))
 · exact .inr (.inr ((callStep_keeps i allocated s).1 hset))

end

lemma callStep_flagged (h:.flagged∈s.calls → s.rcvdAEMCommand=true)
 (hmem:.flagged∈(callStep i allocated s).calls) : (callStep i allocated s).rcvdAEMCommand=true := by
 have hset:∀c:Call α,.flagged≠c → .flagged∈s.calls.set i c → s.rcvdAEMCommand=true:=by
  intro c hc hmem
  rcases mem_or_eq_of_mem_set hmem with hmem|heq
  · exact h hmem
  · exact absurd heq hc
 revert hmem
 unfold callStep
 split
 · exact h
 · apply hset
   split<;>simp
 · split
   · exact hset _ (by simp)
   · exact h
 · exact fun _=>rfl
 · exact hset _ (by simp)
 · exact hset _ (by simp)
 · exact h

end CallSteps

/-- No call takes the mutex before the thread has taken it for the first time. -/
def Prompt (input:Input α) (s:State α) : Prop :=
 match input with
 | .call i _=>s.machine=.starting → s.calls[i]? ≠ some .added
 | _=>True
instance [DecidableEq α] (input:Input α) (s:State α) : Decidable (Prompt input s) :=
 match input with
 | .call _ _=>inferInstanceAs (Decidable (_ → _))
 | .machine _=>isTrue trivial
 | .receive _=>isTrue trivial

lemma callStep_awake {allocated:Bool} (h:Awake s) (hprompt:Prompt (.call i allocated) s) :
 Awake (callStep i allocated s) := by
 refine ⟨callStep_locked i allocated h.locked,callStep_flagged h.flagged,?_⟩
 have hcovered:=h.covered
 unfold Covered at *
 rw[(callStep_keeps i allocated s).2.2]
 cases hm:s.machine with
 | starting=>
  rw[hm] at hcovered
  exact callStep_asked hcovered fun hi=>absurd hi (hprompt hm)
 | entering=>
  rw[hm] at hcovered
  refine callStep_asked hcovered fun _ hfree=>?_
  have hmine:=h.locked.machine.2 (by rw[hm];rfl)
  rw[hfree] at hmine
  cases hmine
 | unlocking | waiting=>
  rw[hm] at hcovered
  exact callStep_posted h.flagged hcovered
 | woken ok | checking ok=>
  rw[hm] at hcovered
  cases ok with
  | false=>exact callStep_posted h.flagged hcovered
  | true=>exact callStep_noticed h.flagged hcovered
 | receiving | handling=>trivial

lemma machineStep_flagged (h:Awake s)
 (hmem:.flagged∈(machineStep forUs interrupted s).calls) :
 (machineStep forUs interrupted s).rcvdAEMCommand=true := by
 rw[(machineStep_calls forUs interrupted s).1] at hmem
 -- the flag is cleared under the mutex only
 have hfree:s.machine ≠ .entering:=by
  intro hm
  have hholds:=h.locked.not_holds (by rw[hm];rfl) hmem
  cases hholds
 have hset:=h.flagged hmem
 unfold machineStep
 split
 · split<;>exact hset
 · exact absurd ‹_› hfree
 · exact hset
 · repeat' split
   all_goals exact hset
 · split<;>exact hset
 · exact hset
 · dsimp only
   split<;>exact hset
 · exact hset

lemma machineStep_covered (h:Awake s) : Covered (machineStep forUs interrupted s) := by
 have hcovered:=h.covered
 unfold machineStep
 cases hm:s.machine with
 | starting=>
  rw[Covered,hm] at hcovered
  dsimp only
  split
  · exact hcovered
  · rw[Covered,hm]
    exact hcovered
 | entering=>
  rw[Covered,hm] at hcovered
  exact hcovered.imp id fun hadded=>.inl ⟨_,hadded,rfl⟩
 | unlocking=>
  rw[Covered,hm] at hcovered
  exact hcovered
 | waiting=>
  rw[Covered,hm] at hcovered
  dsimp only
  split
  · exact hcovered
  · split
    · exact hcovered.imp id (Or.imp id And.left)
    · rw[Covered,hm]
      exact hcovered
 | woken ok=>
  dsimp only
  split
  · rw[Covered,hm] at hcovered
    cases ok<;>exact hcovered
  · exact hcovered
 | checking ok=>
  rw[Covered,hm] at hcovered
  cases ok with
  | false=>exact hcovered
  | true=>
   cases hflag:s.rcvdAEMCommand with
   | true=>trivial
   | false=>
    rcases hcovered with hempty|hwaking|hset
    · exact .inl hempty
    · exact .inr (.inl hwaking)
    · rw[hflag] at hset
      cases hset
 | receiving=>
  dsimp only
  cases hqueue:s.commandQueue.toList with
  | nil=>
   rw[getNextCommandFromQueue_nil hqueue]
   exact .inl hqueue
  | cons command rest=>
   rw[(getNextCommandFromQueue_cons hqueue).1]
   trivial
 | handling rcvdCommand=>trivial

lemma receive_awake (h:Awake s) : Awake (receive forUs rcvdCommand s) := by
 refine ⟨receive_locked rcvdCommand h.locked,?_,?_⟩
 all_goals unfold receive;split
 · intro hmem
   apply h.flagged
   simpa using hmem
 · exact h.flagged
 · have hwaking:Waking s → ∃c∈s.calls++[.entered rcvdCommand],c.wakes=true:=by
    rintro ⟨c,hc,hwakes⟩
    exact ⟨c,mem_append_left _ hc,hwakes⟩
   have hcovered:=h.covered
   unfold Covered at *
   cases hm:s.machine with
   | starting | entering=>
    rw[hm] at hcovered
    exact hcovered.imp id (mem_append_left _)
   | unlocking | waiting=>
    rw[hm] at hcovered
    exact hcovered.imp id (Or.imp hwaking id)
   | woken ok | checking ok=>
    rw[hm] at hcovered
    cases ok<;>exact hcovered.imp id (Or.imp hwaking id)
   | receiving | handling=>trivial
 · exact h.covered

lemma start_awake : Awake (start:State α) := ⟨start_locked,by simp[start],.inl rfl⟩

lemma step_awake (s:State α) (hprompt:Prompt input s) (h:Awake s) : Awake (step forUs input s) := by
 cases input with
 | machine interrupted=>
  exact ⟨machineStep_locked interrupted h.locked,machineStep_flagged interrupted h,
   machineStep_covered interrupted h⟩
 | receive rcvdCommand=>exact receive_awake rcvdCommand h
 | call i allocated=>exact callStep_awake h hprompt

theorem commands_in_order (forUs:α → Bool) (inputs:List (Input α)) :
 Throughout (step forUs) InOrder inputs start := by
 have hordered:Throughout (step forUs) (Ordered forUs) inputs start:=
  throughout_of_invariant (fun input _=>step_ordered input) start_ordered
 exact hordered.imp fun _ h=>h.order

theorem no_command_stranded (forUs:α → Bool) (inputs:List (Input α))
 (hprompt:Along (step forUs) Prompt inputs start) :
 Throughout (step forUs) (fun s=>¬Stranded s ∧ InOrder s) inputs start := by
 have hinvariant:Throughout (step forUs) (fun s=>Awake s ∧ Ordered forUs s) inputs start:=by
  apply throughout_of_along _ ⟨start_awake,start_ordered⟩ hprompt
  rintro input s hinput ⟨hawake,hordered⟩
  exact ⟨step_awake input s hinput hawake,step_ordered input hordered⟩
 exact hinvariant.imp fun _ h=>⟨h.1.not_stranded,h.2.order⟩

def overlappingCalls : List (Input Nat) := List.replicate 3 (.machine false)++
  [.receive 7,.receive 8,.call 0 true,.call 1 true]++
  List.replicate 4 (.call 0 true)++List.replicate 16 (.machine false)

theorem overlapping_calls_processed : (run (step fun _=>true) overlappingCalls start).processed=[7,8] ∧
  Throughout (step fun _=>true) (fun s=>¬Stranded s ∧ InOrder s) overlappingCalls start :=
 ⟨by decide +kernel,no_command_stranded _ overlappingCalls (by decide +kernel)⟩

def lostCommand : List (Input Nat) :=
 .receive 7::(List.replicate 5 (.call 0 true)++List.replicate 11 (.machine false))

theorem command_stranded : Stranded (run (step fun _=>true) lostCommand start) := by
 decide +kernel

end OpenAvnu.AecpQueue
