import OpenAvnu.MrpSteps
import OpenAvnu.Runs

/-!
# Runs of the three databases

A frame is the sequence of events its parser raises.
-/

namespace OpenAvnu.MrpRuns

open Mrp MrpEvents MrpDecode Mvrp Mmrp Msrp MsrpCommands

inductive Timer where
 | join | leaveAll | leave | periodic
 deriving DecidableEq, Repr

def Timer.event : Timer → Event
 | .join=>.TX
 | .leaveAll=>.LVATIMER
 | .leave=>.LVTIMER
 | .periodic=>.PERIODIC

inductive Request where
 | new | join | leave
 deriving DecidableEq, Repr

def Request.event : Request → Event
 | .new=>.NEW
 | .join=>.JOIN
 | .leave=>.LV

inductive Input (α:Type) where
 | request (q:Request) (value:α)
 | frame (bytes:List UInt8)
 | timer (t:Timer)
 | reclaim

inductive MsrpInput where
 | command (client:Client) (command:Command)
 | bye (client:Client)
 | frame (bytes:List UInt8)
 | timer (t:Timer)
 | reclaim

def mvrpStep (station:BitVec 48) (p2pmac:Nat) (i:Input (BitVec 16))
 (db:Database (BitVec 16)) : Database (BitVec 16) :=
 match i with
 | .request q vid=>(mvrpCmdVid station p2pmac vid q.event db).db
 | .frame bytes=>(mvrpRecvMsg station p2pmac bytes db).db
 | .timer t=>(mvrpEvent station p2pmac t.event none db).db
 | .reclaim=>(reclaim db).db

def mmrpStep (station:BitVec 48) (stack:List Nat) (p2pmac:Nat) (i:Input MmrpValue)
 (db:Database MmrpValue) : Database MmrpValue :=
 match i with
 | .request q value=>(mmrpCmd station stack p2pmac value q.event db).db
 | .frame bytes=>(mmrpRecvMsg station stack p2pmac bytes db).db
 | .timer t=>(mmrpEvent station stack p2pmac t.event none db).db
 | .reclaim=>(reclaim db).db

def msrpStep (station:BitVec 48) (p2pmac:Nat) (i:MsrpInput) (db:MsrpDatabase) : MsrpDatabase :=
 match i with
 | .command client command=>msrpRecvCmd station p2pmac client command db
 | .bye client=>msrpBye client db
 | .frame bytes=>{db with mrp:=(msrpRecvMsg station p2pmac db.interest bytes db.mrp).db}
 | .timer t=>{db with mrp:=(msrpEvent station p2pmac db.interest t.event none db.mrp).db}
 | .reclaim=>{db with mrp:=(reclaim db.mrp).db}

variable {α κ:Type}

inductive Received : Event → Option (Attribute α) → Prop where
 | leaveAll (probe:Option α) : Received .RLA (probe.map fun value=>alloc value 0)
 | single (e:MrpEncode.PduEvent) (value:α) (macaddr:BitVec 48) :
  Received (receivedEvent e) (some (alloc value macaddr))

lemma raiseCalls_kept {handle:Event → Option (Attribute α) → Database α → Outcome α}
 {I:Database α → Prop} (hcall:∀e r db,Received e r → I db → I (handle e r db).db)
 (probe:κ → Option α) (srcaddr:BitVec 48) (calls:List (Call κ α)) {db:Database α}
 (hdb:I db) : I (raiseCalls handle probe srcaddr calls db).db := by
 induction calls generalizing db with
 | nil=>exact hdb
 | cons c calls ih=>
  apply ih
  rcases c with kind|⟨e,value⟩
  · exact hcall _ _ db (.leaveAll (probe kind)) hdb
  · exact hcall _ _ db (.single e value srcaddr) hdb

variable {r:Option (Attribute α)} {e:Event} (station:BitVec 48) (p2pmac:Nat)

lemma Received.isNetwork (h:Received e r) : e ≠ .LVATIMER ∧ e ≠ .BEGIN ∧ e ≠ .NEW ∧ e ≠ .JOIN ∧ e ≠ .LV := by
 cases h with
 | leaveAll probe=>decide
 | single e value macaddr=>cases e<;>decide

/-- The attributes events are raised with have been allocated just before. -/
def Fresh (r:Option (Attribute α)) : Prop := ∀a,r=some a → ∃value macaddr,a=alloc value macaddr

lemma Fresh.none : Fresh (none:Option (Attribute α)) := by
 intro a ha
 cases ha
lemma Fresh.alloc (value:α) (macaddr:BitVec 48) : Fresh (some (alloc value macaddr)) := by
 rintro _ ⟨⟩
 exact ⟨value,macaddr,rfl⟩

lemma Received.fresh (h:Received e r) : Fresh r := by
 cases h with
 | leaveAll probe=>
  cases probe with
  | none=>exact Fresh.none
  | some value=>exact Fresh.alloc value 0
 | single e value macaddr=>exact Fresh.alloc value macaddr

def participantStep (handle:Event → Option (Attribute α) → Database α → Outcome α)
 (probe:κ → Option α) (parse:List UInt8 → List (Call κ α)×Except Stop Unit)
 (i:Input α) (db:Database α) : Database α :=
 match i with
 | .request q value=>(handle q.event (some (alloc value 0)) db).db
 | .frame bytes=>(raiseCalls handle probe (frameSource bytes) (parse bytes).1 db).db
 | .timer t=>(handle t.event none db).db
 | .reclaim=>(reclaim db).db

lemma mvrpStep_eq : mvrpStep station p2pmac=
  participantStep (event (mvrpApplication station) p2pmac) (fun _=>none) mvrpParse := by
 funext i db
 cases i<;>rfl
lemma mmrpStep_eq (stack:List Nat) (p2pmac:Nat) : mmrpStep station stack p2pmac=
  participantStep (event (mmrpApplication station stack) p2pmac) mmrpProbe mmrpParse := by
 funext i db
 cases i<;>rfl

lemma msrpEvent_cases (interest:Interest) (e:Event) (r:Option (Attribute MsrpValue))
 (db:Database MsrpValue) :
 (msrpEvent station p2pmac interest e r db=event (msrpApplication station) p2pmac e r db ∧
  ∀a,r=some a → isAttributeEvent e=true →
   interested interest a.value db.attribList=true) ∨
  (∃a,r=some a ∧ isAttributeEvent e=true ∧
   interested interest a.value db.attribList=false ∧
   msrpEvent station p2pmac interest e r db=notifyAll db [] []) := by
 cases r with
 | none=>exact .inl ⟨rfl,by simp⟩
 | some a=>
  unfold msrpEvent
  dsimp only
  split
  · next hdropped=>
     simp only[Bool.and_eq_true,Bool.not_eq_true'] at hdropped
     exact .inr ⟨a,rfl,hdropped.1,hdropped.2,rfl⟩
  · next hpassed=>
     refine .inl ⟨rfl,?_⟩
     rintro _ ⟨⟩ he
     simpa[he] using hpassed

section Commands
variable {station:BitVec 48} {p2pmac:Nat} {I:Database MsrpValue → Prop}

lemma msrpRecvCmd_kept
 (hevent:∀interest (q:Request) value db,I db →
  I (msrpEvent station p2pmac interest q.event (some (alloc value 0)) db).db)
 (hprune:∀streamId db,I db → I (pruneTalkers streamId db)) (client:Client)
 (command:Command) {db:MsrpDatabase} (hdb:I db.mrp) : I (msrpRecvCmd station p2pmac client command db).mrp := by
 unfold msrpRecvCmd
 dsimp only
 split
 · exact hdb
 cases command with
 | joinOrNewStream new failed talker=>
  cases new with
  | false=>exact hevent db.interest .join _ db.mrp hdb
  | true=>exact hevent db.interest .new _ db.mrp hdb
 | leaveStream streamId=>exact hevent db.interest .leave _ db.mrp hdb
 | reportListenerStatus streamId substate=>exact hevent db.interest .new _ db.mrp hdb
 | withdrawListenerStatus streamId=>
  have hleft:=hevent db.interest .leave (withdrawnListener streamId db.mrp.attribList) db.mrp hdb
  unfold runCommand
  dsimp only
  split
  · exact hprune streamId _ hleft
  · exact hleft
 | reportDomainStatus report srClassId srClassPriority srClassVid=>
  cases report with
  | false=>exact hevent db.interest .leave _ db.mrp hdb
  | true=>exact hevent db.interest .join _ db.mrp hdb
 | addInteresting streamId=>
  unfold runCommand
  dsimp only
  split<;>exact hdb
 | removeInteresting streamId=>
  unfold runCommand
  dsimp only
  split
  · split
    · exact hdb
    · exact hprune streamId db.mrp hdb
  · exact hdb
 | removeAllInteresting=>exact hdb
 | other=>exact hdb

end Commands

end OpenAvnu.MrpRuns

/-! ## What an MSRP input does to the attributes -/

namespace OpenAvnu.MsrpActions

open Mrp MrpEvents MrpDecode MrpRuns Runs Msrp MsrpCommands

inductive Action where
 | raise (event:Event) (rattrib:Option (Attribute MsrpValue))
 | prune (streamId:BitVec 64)
 | reclaim

section
variable (station:BitVec 48) (p2pmac:Nat)

def Action.apply (interest:Interest) (a:Action) (db:Database MsrpValue) : Database MsrpValue :=
 match a with
 | .raise event rattrib=>(msrpEvent station p2pmac interest event rattrib db).db
 | .prune streamId=>pruneTalkers streamId db
 | .reclaim=>(MrpEvents.reclaim db).db

end

/-- With pruning enabled a second client is refused. -/
def refused (client:Client) (db:MsrpDatabase) : Bool :=
 db.interest.enablePruning&&decide (1<(clientAdd client db.clients).length)
def request (event:Event) (value:MsrpValue) : Action := .raise event (some (alloc value 0))
def uninteresting (interest:Interest) (streamId:BitVec 64) : Bool :=
 interest.enablePruning&&!eui64setFind interest.interestingStreamIds streamId

def commandActions (interest:Interest) (l:List (Attribute MsrpValue)) (command:Command) : List Action :=
 match command with
 | .joinOrNewStream new failed talker=>
  [request (if new then .NEW else .JOIN) (declaredTalker failed talker)]
 | .leaveStream streamId=>[request .LV (streamValue .talkerAdv streamId)]
 | .reportListenerStatus streamId substate=>[request .NEW (declaredListener streamId substate)]
 | .withdrawListenerStatus streamId=>
  request .LV (withdrawnListener streamId l) ::
   if uninteresting interest streamId then [.prune streamId] else []
 | .reportDomainStatus report srClassId srClassPriority srClassVid=>
  [request (if report then .JOIN else .LV) (domainValue srClassId srClassPriority srClassVid)]
 | .removeInteresting streamId=>
  if interest.enablePruning&&eui64setFind interest.interestingStreamIds streamId &&
   !hasListener streamId l then [.prune streamId]
  else []
 | .addInteresting _ | .removeAllInteresting | .other=>[]

def actions (i:MsrpInput) (db:MsrpDatabase) : List Action :=
 match i with
 | .command client command=>
  if refused client db then [] else commandActions db.interest db.mrp.attribList command
 | .bye _=>[]
 | .frame bytes=>(msrpParse bytes).1.map fun c=>
  let arguments:=c.arguments (fun type=>some (blank type)) (frameSource bytes)
  .raise arguments.1 arguments.2
 | .timer t=>[.raise t.event none]
 | .reclaim=>[.reclaim]

section Steps
variable {station:BitVec 48} {p2pmac:Nat}

lemma runCommand_actions (command:Command) (db:MsrpDatabase) :
 (runCommand station p2pmac command db).mrp=run (Action.apply station p2pmac db.interest)
   (commandActions db.interest db.mrp.attribList command) db.mrp := by
 cases command with
 | withdrawListenerStatus streamId=>
  unfold runCommand commandActions commandEvent uninteresting
  dsimp only
  split<;>rfl
 | addInteresting streamId=>
  unfold runCommand commandActions
  dsimp only
  split<;>rfl
 | removeInteresting streamId=>
  unfold runCommand commandActions
  dsimp only
  cases db.interest.enablePruning&&eui64setFind db.interest.interestingStreamIds streamId <;>
   cases hasListener streamId db.mrp.attribList<;>rfl
 | joinOrNewStream | leaveStream | reportListenerStatus | reportDomainStatus |
  removeAllInteresting | other=>rfl

lemma raiseCalls_actions (interest:Interest) (probe:MsrpType → Option MsrpValue)
 (srcaddr:BitVec 48) (calls:List (Call MsrpType MsrpValue)) (db:Database MsrpValue) :
 (raiseCalls (msrpEvent station p2pmac interest) probe srcaddr calls db).db=
  run (Action.apply station p2pmac interest) (calls.map fun c=>
   .raise (c.arguments probe srcaddr).1 (c.arguments probe srcaddr).2) db := by
 induction calls generalizing db with
 | nil=>rfl
 | cons c calls ih=>exact ih _

lemma msrpStep_actions (i:MsrpInput) (db:MsrpDatabase) : (msrpStep station p2pmac i db).mrp=
  run (Action.apply station p2pmac db.interest) (actions i db) db.mrp := by
 cases i with
 | command client command=>
  unfold msrpStep msrpRecvCmd actions refused
  dsimp only
  split
  · rfl
  · exact runCommand_actions command _
 | bye client=>rfl
 | frame bytes=>exact raiseCalls_actions db.interest _ _ _ db.mrp
 | timer t=>rfl
 | reclaim=>rfl

variable (station p2pmac)

/-- Every action of an input meets the condition in the state in which it is taken. -/
def EachAction (cond:Interest → Action → Database MsrpValue → Prop) (i:MsrpInput)
 (db:MsrpDatabase) : Prop :=
 Along (Action.apply station p2pmac db.interest) (cond db.interest) (actions i db) db.mrp

variable {station p2pmac}

lemma msrpStep_of_eachAction {cond:Interest → Action → Database MsrpValue → Prop}
 {I:Database MsrpValue → Prop}
 (haction:∀interest a db,cond interest a db → I db → I (a.apply station p2pmac interest db))
 (i:MsrpInput) (db:MsrpDatabase) (hcond:EachAction station p2pmac cond i db)
 (h:I db.mrp) : I (msrpStep station p2pmac i db).mrp := by
 rw[msrpStep_actions]
 exact (throughout_of_along (haction db.interest) h hcond).last

end Steps

end OpenAvnu.MsrpActions
