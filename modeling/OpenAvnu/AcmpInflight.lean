import OpenAvnu.AcmpListenerBinding
import OpenAvnu.AcmpTraffic

/-! # The discipline of the inflight list -/

namespace OpenAvnu.AcmpListener

open Acmp OpenavbList Runs Linked List

/-- For every node that the list has had, how often its command was transmitted and timed out. -/
structure Tracked where
 state:State
 transmitted:Nat → Nat
 timeouts:Nat → Nat

def Tracked.initial (streamInputs:List StreamInput) : Tracked := ⟨.initial streamInputs,fun _=>0,fun _=>0⟩
def isCommand (x:Sent) : Bool := decide (x.messageType=connectTxCommand ∨ x.messageType=disconnectTxCommand)
def commandsSent (s:State) : Nat := s.sent.countP isCommand

def subject (input:Event×Env) (s:State) : Option Nat :=
 match input.1 with
 | .receive _=>some s.inflight.raw.next
 | .expire=>timedOut input.2 s

def bump (node:Option Nat) (k:Nat) (count:Nat → Nat) : Nat → Nat :=
 fun p=>if node=some p then count p+k else count p
def timeoutsAfter (input:Event×Env) (s:State) (timeouts:Nat → Nat) : Nat → Nat :=
 match input.1 with
 | .receive _=>timeouts
 | .expire=>bump (timedOut input.2 s) 1 timeouts

def track (cfg:Config) (input:Event×Env) (t:Tracked) : Tracked :=
 match t.state.control with
 | .waiting=>
  let after:=step cfg input t.state
  {state:=after
   transmitted:=bump (subject input t.state) (commandsSent after-commandsSent t.state)
    t.transmitted
   timeouts:=timeoutsAfter input t.state t.timeouts}
 | .spinning | .stopped=>t

/-- No command is transmitted more than twice, and none is left after its second timeout. -/
def Disciplined (t:Tracked) : Prop := (∀node,t.transmitted node≤2) ∧
  ∀node,2≤t.timeouts node → node∉addresses t.state.inflight.entries
def RemovesAnswered (cfg:Config) (input:Event×Env) (t:Tracked) : Prop :=
 ∀m,input.1=.receive m → ∀node f,(node,f)∈t.state.inflight.entries →
  node∉addresses (track cfg input t).state.inflight.entries → answers m f=true

/-- The talker and sequence id find the entry that has timed out, or one that the response answers.
-/
def Unambiguous (cfg:Config) (input:Event×Env) (t:Tracked) : Prop :=
 match input.1 with
 | .receive m=>t.state.control=.waiting → m.listenerEntityId=cfg.myId →
  (dispatch m.messageType=some .listenerConnectTXResp ∨
   dispatch m.messageType=some .listenerDisconnectTXResp) →
  validListenerUnique m.listenerUniqueId t.state=true →
  ∀e∈t.state.inflight.entries,findInflightNodeFromCommand m t.state=some e.1 →
   answers m e.2=true
 | .expire=>t.state.control=.waiting → ∀e∈t.state.inflight.entries,
  timedOut input.2 t.state=some e.1 →
  findInflightNodeFromCommand e.2.command t.state=some e.1

instance (cfg:Config) (t:Tracked) : (input:Event×Env) → Decidable (Unambiguous cfg input t)
 | (.receive _,_)=>inferInstanceAs (Decidable (_=_ → _=_ → (_=_ ∨ _=_) → _=_ → ∀e∈_,_=_ → _=_))
 | (.expire,_)=>inferInstanceAs (Decidable (_=_ → ∀e∈_,_=_ → _=_))

def recorded (transmitted timeouts:Nat → Nat) (node:Nat) (f:InflightCommand) : Prop :=
 if f.retried then transmitted node=2 ∧ timeouts node=1
 else transmitted node=1 ∧ timeouts node=0

structure Tidy (inflight:Nodes InflightCommand) (transmitted timeouts:Nat → Nat) : Prop where
 types:∀node f,(node,f)∈inflight.entries →
  f.command.messageType=connectTxCommand ∨ f.command.messageType=disconnectTxCommand
 fresh:∀node,inflight.raw.next≤node → transmitted node=0 ∧ timeouts node=0
 counts:∀node f,(node,f)∈inflight.entries → recorded transmitted timeouts node f
 twice:∀node,transmitted node≤2

def Tracked.Tidy (t:Tracked) : Prop := AcmpListener.Tidy t.state.inflight t.transmitted t.timeouts

lemma tidy_initial (streamInputs:List StreamInput) : (Tracked.initial streamInputs).Tidy := by
 constructor
 · intro node f h
   simp[Tracked.initial,State.initial] at h
 · intro node _
   exact ⟨rfl,rfl⟩
 · intro node f h
   simp[Tracked.initial,State.initial] at h
 · intro node
   exact Nat.zero_le _

variable {t:Tracked} {input:Event×Env}

lemma Tracked.Tidy.disciplined (h:t.Tidy) : Disciplined t := by
 refine ⟨h.twice,?_⟩
 intro node htwice hmem
 obtain ⟨⟨node',f⟩,hentry,rfl⟩:=mem_map.1 hmem
 have hrecorded:=h.counts node' f hentry
 rw[recorded] at hrecorded
 split_ifs at hrecorded<;>simp only at htwice<;>omega

section Cases
variable {inflight:Nodes InflightCommand} {transmitted timeouts:Nat → Nat} {node:Nat}
 {f:InflightCommand} {m:CommandResponse} {env:Env}

lemma bump_zero (node:Option Nat) (count:Nat → Nat) : bump node 0 count=count := by
 funext p
 simp[bump]
lemma bump_ne {p:Nat} (h:p≠node) (k:Nat) (count:Nat → Nat) : bump (some node) k count p=count p := by
 have hne:¬some node=some p:=by simpa using h.symm
 rw[bump,if_neg hne]
lemma bump_self (node k:Nat) (count:Nat → Nat) : bump (some node) k count node=count node+k := by
 simp[bump]

variable (h:Tidy inflight transmitted timeouts)
include h

lemma Tidy.remove (m:CommandResponse) : Tidy (removeFirst m inflight) transmitted timeouts := by
 constructor
 · intro node f hentry
   exact h.types node f (mem_removeFirst hentry)
 · intro node hnode
   rw[next_removeFirst] at hnode
   exact h.fresh node hnode
 · intro node f hentry
   exact h.counts node f (mem_removeFirst hentry)
 · exact h.twice

lemma Tidy.put {messageType:UInt8}
 (htype:messageType=connectTxCommand ∨ messageType=disconnectTxCommand) :
 Tidy (openavbListNew inflight (newEntry messageType m env))
  (bump (some inflight.raw.next) 1 transmitted) timeouts := by
 obtain ⟨hnew,hnever⟩:=h.fresh inflight.raw.next (Nat.le_refl _)
 have hold:∀p f,(p,f)∈inflight.entries → p≠inflight.raw.next:=by
  intro p f hentry heq
  have hlt:p < inflight.raw.next:=Nodes.lt_next (mem_map_of_mem hentry)
  omega
 constructor
 · intro p f hentry
   rw[entries_new,mem_append,mem_singleton] at hentry
   rcases hentry with hentry|hentry
   · exact h.types p f hentry
   · cases hentry
     exact htype
 · intro p hp
   rw[next_new] at hp
   rw[bump_ne (by omega)]
   exact h.fresh p (by omega)
 · intro p f hentry
   rw[entries_new,mem_append,mem_singleton] at hentry
   rcases hentry with hentry|hentry
   · rw[recorded,bump_ne (hold p f hentry)]
     exact h.counts p f hentry
   · cases hentry
     rw[recorded,bump_self,hnew,hnever]
     exact ⟨rfl,rfl⟩
 · intro p
   by_cases hp:p=inflight.raw.next
   · rw[hp,bump_self]
     omega
   · rw[bump_ne hp]
     exact h.twice p

lemma Tidy.expired
 (hentry:(node,f)∈inflight.entries)
 (hfind:inflight.find (sameExchange f.command)=some node) (k:Nat) :
 Tidy (removeFirst f.command inflight) transmitted (bump (some node) k timeouts) := by
 have hlt:node < inflight.raw.next:=Nodes.lt_next (mem_map_of_mem hentry)
 constructor
 · intro p g hg
   exact h.types p g (mem_removeFirst hg)
 · intro p hp
   rw[next_removeFirst] at hp
   rw[bump_ne (by omega)]
   exact h.fresh p hp
 · intro p g hg
   rw[recorded,bump_ne (ne_of_mem_removeFirst hfind hg)]
   exact h.counts p g (mem_removeFirst hg)
 · exact h.twice

lemma Tidy.retry
 (hentry:(node,f)∈inflight.entries) (hfirst:f.retried=false)
 (hfind:inflight.find (sameExchange f.command)=some node) (timer:Nat) :
 Tidy (markFirst f.command timer inflight) (bump (some node) 1 transmitted)
  (bump (some node) 1 timeouts) := by
 have hlt:node < inflight.raw.next:=Nodes.lt_next (mem_map_of_mem hentry)
 have hrecorded:=h.counts node f hentry
 simp only[recorded,hfirst] at hrecorded
 have hentries:(markFirst f.command timer inflight).entries=inflight.entries.map fun e=>
  (e.1,if e.1=node then {e.2 with retried:=true,timer:=timer} else e.2):=by
  simp[markFirst,hfind]
 constructor
 · intro p g hg
   rw[hentries,mem_map] at hg
   obtain ⟨⟨q,g'⟩,hg',heq⟩:=hg
   have htype:=h.types q g' hg'
   obtain ⟨rfl,rfl⟩:=heq
   split_ifs<;>exact htype
 · intro p hp
   rw[next_markFirst] at hp
   rw[bump_ne (by omega),bump_ne (by omega)]
   exact h.fresh p hp
 · intro p g hg
   rw[hentries,mem_map] at hg
   obtain ⟨⟨q,g'⟩,hg',heq⟩:=hg
   obtain ⟨rfl,rfl⟩:=heq
   by_cases hq:q=node
   · subst hq
     simp[recorded,bump_self,hrecorded.1,hrecorded.2]
   · rw[if_neg hq,recorded,bump_ne hq,bump_ne hq]
     exact h.counts q g' hg'
 · intro p
   by_cases hp:p=node
   · rw[hp,bump_self,hrecorded.1]
   · rw[bump_ne hp]
     exact h.twice p

end Cases

variable {cfg:Config} {env:Env} {s:State} {event:Event}
 {inflight:Nodes InflightCommand} {sent:List Sent} {transmitted timeouts:Nat → Nat}

lemma countP_added (sent:List Sent) (x:Sent) :
 (sent++[x]).countP isCommand-sent.countP isCommand=if isCommand x then 1 else 0 := by
 rw[countP_append,countP_singleton]
 omega

lemma isCommand_of_passedOn {kind:Receiver} {messageType:UInt8}
 (h:passedOn kind=some messageType) : messageType=connectTxCommand ∨ messageType=disconnectTxCommand := by
 cases kind<;>cases h
 · exact .inl rfl
 · exact .inr rfl

lemma isCommand_response {t:UInt8} {r:CommandResponse} {status:UInt8}
 (h:t∈[1,3,7,9,11]) : isCommand ⟨t,r,status⟩=false := by
 simp only[mem_cons,not_mem_nil,or_false] at h
 rcases h with rfl|rfl|rfl|rfl|rfl<;>rfl

lemma Traffic.tidy (htraffic:Traffic cfg env s event inflight sent)
 (h:Tidy s.inflight transmitted timeouts)
 (hclear:event=.expire → ∀e∈s.inflight.entries,timedOut env s=some e.1 →
  findInflightNodeFromCommand e.2.command s=some e.1) : Tidy inflight
  (bump (subject (event,env) s) (sent.countP isCommand-s.sent.countP isCommand) transmitted)
  (timeoutsAfter (event,env) s timeouts) := by
 cases htraffic with
 | quiet m=>
  rw[Nat.sub_self,bump_zero]
  exact h
 | put m hmine hkind htype=>
  have hcommand:=isCommand_of_passedOn htype
  rw[countP_added,if_pos (by simpa[isCommand] using hcommand)]
  exact h.put hcommand
 | replied m r status hmine hkind hcommand=>
  have hresponse:m.messageType+1∈([1,3,7,9,11]:List UInt8):=by
   have htype:=messageType_of_dispatch hkind
   rcases hcommand with rfl|rfl
   · rw[show m.messageType=8 from htype]
     decide
   · rw[show m.messageType=10 from htype]
     decide
  rw[countP_added,isCommand_response hresponse,if_neg (by decide),bump_zero]
  exact h
 | refused m messageType status hmine hwrong=>
  have hresponse:messageType∈([1,3,7,9,11]:List UInt8):=by
   rcases hwrong with ⟨-,-,rfl⟩|⟨-,-,-,rfl⟩<;>decide
  rw[countP_added,isCommand_response hresponse,if_neg (by decide),bump_zero]
  exact h
 | answered m r status hmine hkind=>
  have hresponse:m.messageType+6∈([1,3,7,9,11]:List UInt8):=by
   rcases hkind with hkind|hkind
   · rw[show m.messageType=1 from messageType_of_dispatch hkind]
     decide
   · rw[show m.messageType=3 from messageType_of_dispatch hkind]
     decide
  rw[countP_added,isCommand_response hresponse,if_neg (by decide),bump_zero]
  exact h.remove m
 | idle hnone=>
  rw[Nat.sub_self,bump_zero,timeoutsAfter,hnone]
  exact h
 | retried hnode hentry hfirst htype hsend=>
  have hfind:=hclear rfl _ hentry hnode
  rw[countP_added,if_pos (by simpa[isCommand] using htype),subject,timeoutsAfter,hnode]
  exact h.retry hentry hfirst hfind _
 | retryFailed hnode hentry hfirst hsend=>
  have hfind:=hclear rfl _ hentry hnode
  rw[countP_added,isCommand_response (by
   rcases h.types _ _ hentry with htype|htype<;>rw[htype]<;>decide),
   if_neg (by decide),bump_zero,timeoutsAfter,hnode]
  exact h.expired hentry hfind 1
 | gaveUp hnode hentry hsecond=>
  have hfind:=hclear rfl _ hentry hnode
  rw[countP_added,isCommand_response (by
   rcases h.types _ _ hentry with htype|htype<;>rw[htype]<;>decide),
   if_neg (by decide),bump_zero,timeoutsAfter,hnode]
  exact h.expired hentry hfind 1
 | gaveUpQuietly hnode hentry hsecond=>
  have hfind:=hclear rfl _ hentry hnode
  rw[Nat.sub_self,bump_zero,timeoutsAfter,hnode]
  exact h.expired hentry hfind 1
 | stopped hnode hentry htype=>exact absurd (h.types _ _ hentry) htype

lemma track_tidy (hclear:Unambiguous cfg input t) (h:t.Tidy) : (track cfg input t).Tidy := by
 obtain ⟨event,env⟩:=input
 rw[track]
 cases hcontrol:t.state.control with
 | waiting=>
  have htraffic:=step_traffic cfg event env hcontrol
  have htidy:=htraffic.tidy h (by
   rintro rfl
   exact hclear hcontrol)
  exact htidy
 | spinning=>exact h
 | stopped=>exact h

lemma track_removesAnswered (hclear:Unambiguous cfg input t) : RemovesAnswered cfg input t := by
 obtain ⟨event,env⟩:=input
 rintro m rfl node f hentry hgone
 have hkept:∀{inflight:Nodes InflightCommand},node∉addresses inflight.entries →
  (node,f)∉inflight.entries:=fun hnot hmem=>hnot (mem_map_of_mem hmem)
 rw[track] at hgone
 cases hcontrol:t.state.control with
 | waiting=>
  simp only[hcontrol] at hgone
  have htraffic:=step_traffic cfg (.receive m) env hcontrol
  revert hgone htraffic
  generalize (step cfg (.receive m,env) t.state).inflight=inflight
  generalize (step cfg (.receive m,env) t.state).sent=sent
  intro hgone htraffic
  cases htraffic with
  | quiet=>exact absurd hentry (hkept hgone)
  | put=>
   refine absurd ?_ (hkept hgone)
   rw[entries_new]
   exact mem_append_left _ hentry
  | replied=>exact absurd hentry (hkept hgone)
  | refused=>exact absurd hentry (hkept hgone)
  | answered _ r status hmine hkind hvalid=>
   have hfind:t.state.inflight.find (sameExchange m)=some node:=by
    by_contra hne
    exact hkept hgone (mem_removeFirst_of_ne hentry hne)
   exact hclear hcontrol hmine hkind hvalid (node,f) hentry hfind
 | spinning=>
  simp only[hcontrol] at hgone
  exact absurd hentry (hkept hgone)
 | stopped=>
  simp only[hcontrol] at hgone
  exact absurd hentry (hkept hgone)

/-- No command is transmitted more than twice or outlives its second timeout. -/
theorem inflight_disciplined (cfg:Config) (streamInputs:List StreamInput)
 (inputs:List (Event×Env))
 (hclear:Along (track cfg) (Unambiguous cfg) inputs (.initial streamInputs)) :
 Throughout (track cfg) Disciplined inputs (.initial streamInputs) ∧
  Along (track cfg) (RemovesAnswered cfg) inputs (.initial streamInputs) := by
 constructor
 · have htidy:=throughout_of_along (P:=Tracked.Tidy)
    (fun input t hstep ht=>track_tidy hstep ht) (tidy_initial streamInputs) hclear
   exact htidy.imp fun t ht=>ht.disciplined
 · exact hclear.imp_of_invariant (P:=fun _=>True) (fun _ _ _ _=>trivial)
    (fun input t _ hstep=>track_removesAnswered hstep) trivial

def unansweredConnect : List (Event×Env) :=
 [(.receive (exampleMessage 6 2 7),exampleEnv 0),(.expire,exampleEnv 2000000000),(.expire,exampleEnv 4000000000)]

theorem unanswered_connect_disciplined :
 Along (track exampleConfig) (Unambiguous exampleConfig) unansweredConnect
  (.initial [exampleInput]) ∧
  Throughout (track exampleConfig) Disciplined unansweredConnect (.initial [exampleInput]) ∧
  Along (track exampleConfig) (RemovesAnswered exampleConfig) unansweredConnect
   (.initial [exampleInput]) :=
 have hclear:Along (track exampleConfig) (Unambiguous exampleConfig) unansweredConnect
  (.initial [exampleInput]):=by decide +kernel
 ⟨hclear,inflight_disciplined exampleConfig [exampleInput] unansweredConnect hclear⟩

def sameSequence : List (Event×Env) := [(.receive (exampleMessage 6 2 7),exampleEnv 0),
  (.receive {exampleMessage 8 2 7 with controllerEntityId:=8},exampleEnv 0)]

/-- The disconnection is transmitted a third time; its response removes the connection. -/
theorem same_sequence_confused :
 (let t:=run (track exampleConfig) (sameSequence++
   [(.expire,exampleEnv 200000000),(.expire,exampleEnv 200000001)])
   (.initial [exampleInput])
  t.transmitted 1=3 ∧ t.timeouts 1=2 ∧ 1∈addresses t.state.inflight.entries) ∧
 (let response:={exampleMessage 3 2 7 with controllerEntityId:=8}
  let t:=run (track exampleConfig) sameSequence (.initial [exampleInput])
  let after:=track exampleConfig (.receive response,exampleEnv 0) t
  addresses t.state.inflight.entries=[0,1] ∧
   addresses after.state.inflight.entries=[1] ∧
   (openavbListData t.state.inflight 0).map (answers response)=some false) := by
 decide +kernel

end OpenAvnu.AcmpListener
