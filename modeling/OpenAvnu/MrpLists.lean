import OpenAvnu.MrpLinked
import OpenAvnu.MrpOrder

/-! # The attribute lists of the running daemon -/

namespace OpenAvnu.MrpLists

open Mrp MrpEvents MrpDecode MrpLaws MrpSteps MrpTable MrpRuns MrpDeclared MrpKeys MrpLinked List
open MrpOrder Linked Runs Grouping Mvrp Mmrp Msrp MsrpCommands MsrpValue

section Participants
variable {α κ τ:Type} [DecidableEq τ]

def linkedCalls (handle:Event → Option (Attribute α) → LinkedDatabase α → LinkedDatabase α)
 (probe:κ → Option α) (srcaddr:BitVec 48) : List (Call κ α) → LinkedDatabase α → LinkedDatabase α
 | [], s=>s
 | c::calls, s=>
  linkedCalls handle probe srcaddr calls
   (handle (c.arguments probe srcaddr).1 (c.arguments probe srcaddr).2 s)

def linkedStep (handle:Event → Option (Attribute α) → LinkedDatabase α → LinkedDatabase α)
 (probe:κ → Option α) (parse:List UInt8 → List (Call κ α)×Except Stop Unit)
 (i:Input α) (s:LinkedDatabase α) : LinkedDatabase α :=
 match i with
 | .request q value=>handle q.event (some (alloc value 0)) s
 | .frame bytes=>linkedCalls handle probe (frameSource bytes) (parse bytes).1 s
 | .timer t=>handle t.event none s
 | .reclaim=>linkedReclaim s

def mvrpLinkedStep (station:BitVec 48) (allocator:Allocator) (p2pmac:Nat) :
 Input (BitVec 16) → LinkedDatabase (BitVec 16) → LinkedDatabase (BitVec 16) :=
 linkedStep (linkedEvent (mvrpApplication station) (linkedAdd (fun _=>()) BitVec.toNat) allocator
  p2pmac) (fun _=>none) mvrpParse
def mmrpLinkedStep (station:BitVec 48) (stack:List Nat) (allocator:Allocator) (p2pmac:Nat) :
 Input MmrpValue → LinkedDatabase MmrpValue → LinkedDatabase MmrpValue :=
 linkedStep (linkedEvent (mmrpApplication station stack) (linkedAdd MmrpValue.type MmrpValue.key)
  allocator p2pmac) mmrpProbe mmrpParse
def linkedInitial : LinkedDatabase α := ⟨initialDatabase,⟨fun _=>none,none,0⟩⟩
lemma linkedInitial_refines : Refines (linkedInitial:LinkedDatabase α) initialDatabase :=
 ⟨⟨[],rfl,nodup_nil,rfl⟩,rfl⟩

lemma linkedCalls_refines
 {handle:Event → Option (Attribute α) → LinkedDatabase α → LinkedDatabase α}
 {handle':Event → Option (Attribute α) → Database α → Outcome α}
 (hhandle:∀e r s db,Refines s db → Refines (handle e r s) (handle' e r db).db)
 (probe:κ → Option α) (srcaddr:BitVec 48) (calls:List (Call κ α)) {s:LinkedDatabase α}
 {db:Database α} (h:Refines s db) : Refines (linkedCalls handle probe srcaddr calls s)
  (raiseCalls handle' probe srcaddr calls db).db := by
 induction calls generalizing s db with
 | nil=>exact h
 | cons c calls ih=>exact ih (hhandle _ _ s db h)

lemma linkedStep_refines {app:Application α}
 {add:Nat → Attribute α → Chain (Attribute α) → Chain (Attribute α)} (hlawful:Lawful app)
 (hadd:AddRefines app add) (allocator:Allocator) (p2pmac:Nat) (probe:κ → Option α)
 (parse:List UInt8 → List (Call κ α)×Except Stop Unit) (i:Input α) (s:LinkedDatabase α)
 (db:Database α) (h:Refines s db) : Refines (linkedStep (linkedEvent app add allocator p2pmac) probe parse i s)
  (participantStep (event app p2pmac) probe parse i db) := by
 cases i with
 | request q value=>exact linkedEvent_refines hlawful hadd _ _ h
 | frame bytes=>
  exact linkedCalls_refines (fun e r _ _=>linkedEvent_refines hlawful hadd e r) _ _ _ h
 | timer t=>exact linkedEvent_refines hlawful hadd _ _ h
 | reclaim=>exact linkedReclaim_refines h

variable (station:BitVec 48) (stack:List Nat)

lemma mvrp_addRefines : AddRefines (mvrpApplication station) (linkedAdd (fun _=>()) BitVec.toNat) :=
 fun _ r hl hq=>linkedAdd_represents _ _ r hl hq
lemma mmrp_addRefines : AddRefines (mmrpApplication station stack) (linkedAdd MmrpValue.type MmrpValue.key) :=
 fun _ r hl hq=>linkedAdd_represents _ _ r hl hq
lemma msrp_addRefines : AddRefines (msrpApplication station) (linkedAdd type key) :=
 fun _ r hl hq=>linkedAdd_represents _ _ r hl hq

variable (allocator:Allocator) (p2pmac:Nat)

lemma mvrpLinkedRun_refines (inputs:List (Input (BitVec 16))) :
 Refines (run (mvrpLinkedStep station allocator p2pmac) inputs linkedInitial)
  (run (mvrpStep station p2pmac) inputs initialDatabase) := by
 rw[mvrpStep_eq]
 exact run_related (linkedStep_refines (mvrp_lawful station) (mvrp_addRefines station) allocator
  p2pmac _ _) inputs linkedInitial_refines

lemma mmrpLinkedRun_refines (inputs:List (Input MmrpValue)) :
 Refines (run (mmrpLinkedStep station stack allocator p2pmac) inputs linkedInitial)
  (run (mmrpStep station stack p2pmac) inputs initialDatabase) := by
 rw[mmrpStep_eq]
 exact run_related (linkedStep_refines (mmrp_lawful station stack) (mmrp_addRefines station stack)
  allocator p2pmac _ _) inputs linkedInitial_refines

end Participants

structure LinkedMsrp where
 control:MsrpDatabase
 chain:Chain (Attribute MsrpValue)

def LinkedMsrp.mrp (s:LinkedMsrp) : LinkedDatabase MsrpValue := ⟨s.control.mrp,s.chain⟩
def LinkedMsrp.on (f:LinkedDatabase MsrpValue → LinkedDatabase MsrpValue) (s:LinkedMsrp) :
 LinkedMsrp := ⟨{s.control with mrp:=(f s.mrp).control},(f s.mrp).chain⟩
def linkedPrune (streamId:BitVec 64) (s:LinkedDatabase MsrpValue) : LinkedDatabase MsrpValue :=
 ⟨s.control,Chain.sweep id (fun a=>a.value.type.isTalker&&a.value.streamId=streamId)
  s.chain.size s.chain.head s.chain⟩

section Msrp
variable (station:BitVec 48) (allocator:Allocator) (p2pmac:Nat)

def msrpLinkedEvent (interest:Interest) (event:Event) (rattrib:Option (Attribute MsrpValue))
 (s:LinkedDatabase MsrpValue) : LinkedDatabase MsrpValue :=
 match rattrib with
 | some r=>
  if isAttributeEvent event&&!interested interest r.value s.attribs then linkedNotify s
  else linkedEvent (msrpApplication station) (linkedAdd type key) allocator
   p2pmac event rattrib s
 | none=>
  linkedEvent (msrpApplication station) (linkedAdd type key) allocator
   p2pmac event none s

def linkedCommandEvent (event:Event) (value:MsrpValue) (s:LinkedMsrp) : LinkedMsrp :=
 s.on (msrpLinkedEvent station allocator p2pmac s.control.interest event (some (alloc value 0)))

def linkedRunCommand (command:Command) (s:LinkedMsrp) : LinkedMsrp :=
 let interest:=s.control.interest
 match command with
 | .joinOrNewStream new failed talker=>
  linkedCommandEvent station allocator p2pmac (if new then .NEW else .JOIN)
   (declaredTalker failed talker) s
 | .leaveStream streamId=>
  linkedCommandEvent station allocator p2pmac .LV (streamValue .talkerAdv streamId) s
 | .reportListenerStatus streamId substate=>
  linkedCommandEvent station allocator p2pmac .NEW (declaredListener streamId substate) s
 | .withdrawListenerStatus streamId=>
  let s:=linkedCommandEvent station allocator p2pmac .LV
   (withdrawnListener streamId s.mrp.attribs) s
  if interest.enablePruning&&!eui64setFind interest.interestingStreamIds streamId then
   s.on (linkedPrune streamId)
  else s
 | .reportDomainStatus report srClassId srClassPriority srClassVid=>
  linkedCommandEvent station allocator p2pmac (if report then .JOIN else .LV)
   (domainValue srClassId srClassPriority srClassVid) s
 | .addInteresting streamId=>
  if interest.enablePruning&&!eui64setFind interest.interestingStreamIds streamId &&
   decide (interest.interestingStreamIds.length<s.control.maxEntries) then
   {s with control:={s.control with interest:={interest with
    interestingStreamIds:=streamId::interest.interestingStreamIds}}}
  else s
 | .removeInteresting streamId=>
  if interest.enablePruning&&eui64setFind interest.interestingStreamIds streamId then
   let s:={s with control:={s.control with interest:={interest with
    interestingStreamIds:=interest.interestingStreamIds.erase streamId}}}
   if hasListener streamId s.mrp.attribs then s else s.on (linkedPrune streamId)
  else s
 | .removeAllInteresting=>
  {s with control:={s.control with interest:={interest with interestingStreamIds:=[]}}}
 | .other=>s

def msrpLinkedStep (i:MsrpInput) (s:LinkedMsrp) : LinkedMsrp :=
 let interest:=s.control.interest
 match i with
 | .command client command=>
  let clients:=clientAdd client s.control.clients
  if interest.enablePruning&&decide (1<clients.length) then
   {s with control:={s.control with clients:=clientDelete client clients}}
  else
   linkedRunCommand station allocator p2pmac command
    {s with control:={s.control with clients:=clients}}
 | .bye client=>
  {s with control:={s.control with clients:=clientDelete client s.control.clients}}
 | .frame bytes=>
  s.on (linkedCalls (msrpLinkedEvent station allocator p2pmac interest)
   (fun type=>some (blank type)) (frameSource bytes) (msrpParse bytes).1)
 | .timer t=>s.on (msrpLinkedEvent station allocator p2pmac interest t.event none)
 | .reclaim=>s.on linkedReclaim

end Msrp

def msrpLinkedInit (maxInterestingStreamIds:Nat) (enablePruning:Bool) : LinkedMsrp :=
 ⟨msrpInit maxInterestingStreamIds enablePruning,⟨fun _=>none,none,0⟩⟩

structure MsrpRefines (s:LinkedMsrp) (db:MsrpDatabase) : Prop where
 mrp:Refines s.mrp db.mrp
 clients:s.control.clients=db.clients
 interest:s.control.interest=db.interest
 maxEntries:s.control.maxEntries=db.maxEntries

section MsrpRefinement
variable {station:BitVec 48} {allocator:Allocator} {p2pmac:Nat} {s:LinkedMsrp}
 {db:MsrpDatabase}

lemma MsrpRefines.attribs (h:MsrpRefines s db) : s.mrp.attribs=db.mrp.attribList := by
 rw[←h.mrp.view]
 rfl
lemma on_refines {f:LinkedDatabase MsrpValue → LinkedDatabase MsrpValue}
 {db':Database MsrpValue} (h:MsrpRefines s db) (hf:Refines (f s.mrp) db') :
 MsrpRefines (s.on f) {db with mrp:=db'} := ⟨hf,h.clients,h.interest,h.maxEntries⟩

lemma linkedPrune_refines (streamId:BitVec 64) {s:LinkedDatabase MsrpValue}
 {db:Database MsrpValue} (h:Refines s db) : Refines (linkedPrune streamId s) (pruneTalkers streamId db) := by
 obtain ⟨⟨l,hl⟩,rfl⟩:=h
 refine refines_of_represents s.control (sweep_represents id _ hl) ?_
 refine (items_sweep id (fun a:Attribute MsrpValue=>
  a.value.type.isTalker&&a.value.streamId=streamId) l).trans ?_
 rw[map_id,←Represents.attribs hl]
 rfl

lemma msrpLinkedEvent_refines (interest:Interest) (e:Event) (r:Option (Attribute MsrpValue))
 {s:LinkedDatabase MsrpValue} {db:Database MsrpValue} (h:Refines s db) :
 Refines (msrpLinkedEvent station allocator p2pmac interest e r s)
  (msrpEvent station p2pmac interest e r db).db := by
 have hattribs:s.attribs=db.attribList:=by
  rw[←h.view]
  rfl
 unfold msrpLinkedEvent msrpEvent
 cases r with
 | none=>exact linkedEvent_refines (msrp_lawful station) (msrp_addRefines station) e none h
 | some r=>
  dsimp only
  rw[hattribs]
  split
  · exact linkedNotify_refines h
  · exact linkedEvent_refines (msrp_lawful station) (msrp_addRefines station) e (some r) h

lemma linkedCommandEvent_refines (e:Event) (value:MsrpValue) (h:MsrpRefines s db) :
 MsrpRefines (linkedCommandEvent station allocator p2pmac e value s)
  (commandEvent station p2pmac e value db) := by
 unfold linkedCommandEvent
 rw[h.interest]
 exact on_refines h (msrpLinkedEvent_refines db.interest e _ h.mrp)

lemma linkedRunCommand_refines (command:Command) (h:MsrpRefines s db) :
 MsrpRefines (linkedRunCommand station allocator p2pmac command s)
  (runCommand station p2pmac command db) := by
 have hattribs:=h.attribs
 cases command with
 | joinOrNewStream new failed talker=>exact linkedCommandEvent_refines _ _ h
 | leaveStream streamId=>exact linkedCommandEvent_refines _ _ h
 | reportListenerStatus streamId substate=>exact linkedCommandEvent_refines _ _ h
 | withdrawListenerStatus streamId=>
  unfold linkedRunCommand runCommand
  dsimp only
  rw[hattribs,h.interest]
  have hleft:=@linkedCommandEvent_refines station allocator p2pmac s db .LV
   (withdrawnListener streamId db.mrp.attribList) h
  have hinterest:(commandEvent station p2pmac .LV
   (withdrawnListener streamId db.mrp.attribList) db).interest=db.interest:=rfl
  rw[hinterest]
  split
  · exact on_refines hleft (linkedPrune_refines streamId hleft.mrp)
  · exact hleft
 | reportDomainStatus report srClassId srClassPriority srClassVid=>
  exact linkedCommandEvent_refines _ _ h
 | addInteresting streamId=>
  unfold linkedRunCommand runCommand
  dsimp only
  rw[h.interest,h.maxEntries]
  split
  · exact ⟨h.mrp,h.clients,rfl,rfl⟩
  · exact h
 | removeInteresting streamId=>
  unfold linkedRunCommand runCommand
  dsimp only
  rw[h.interest]
  split
  · change MsrpRefines (if hasListener streamId s.mrp.attribs=true then _ else _) _
    rw[hattribs]
    split
    · exact ⟨h.mrp,h.clients,rfl,h.maxEntries⟩
    · exact ⟨linkedPrune_refines streamId h.mrp,h.clients,rfl,h.maxEntries⟩
  · exact h
 | removeAllInteresting=>
  refine ⟨h.mrp,h.clients,?_,h.maxEntries⟩
  exact congrArg (fun i:Interest=>{i with interestingStreamIds:=[]}) h.interest
 | other=>exact h

lemma msrpLinkedStep_refines (i:MsrpInput) (s:LinkedMsrp) (db:MsrpDatabase)
 (h:MsrpRefines s db) :
 MsrpRefines (msrpLinkedStep station allocator p2pmac i s) (msrpStep station p2pmac i db) := by
 cases i with
 | command client command=>
  unfold msrpLinkedStep msrpStep msrpRecvCmd
  dsimp only
  have hrefused:(s.control.interest.enablePruning &&
   decide (1<(clientAdd client s.control.clients).length))=
   (db.interest.enablePruning&&decide (1<(clientAdd client db.clients).length)):=by
   rw[h.interest,h.clients]
  rw[hrefused]
  split
  · exact ⟨h.mrp,by rw[h.clients],h.interest,h.maxEntries⟩
  · exact linkedRunCommand_refines command ⟨h.mrp,by rw[h.clients],h.interest,h.maxEntries⟩
 | bye client=>
  exact ⟨h.mrp,congrArg (clientDelete client) h.clients,h.interest,h.maxEntries⟩
 | frame bytes=>
  unfold msrpLinkedStep msrpStep msrpRecvMsg
  rw[h.interest]
  exact on_refines h
   (linkedCalls_refines (fun e r _ _=>msrpLinkedEvent_refines db.interest e r) _ _ _ h.mrp)
 | timer t=>
  exact on_refines h (msrpLinkedEvent_refines db.interest _ none h.mrp)
 | reclaim=>exact on_refines h (linkedReclaim_refines h.mrp)

lemma msrpLinkedRun_refines (maxIds:Nat) (enablePruning:Bool) (inputs:List MsrpInput) :
 MsrpRefines (run (msrpLinkedStep station allocator p2pmac) inputs
  (msrpLinkedInit maxIds enablePruning))
  (run (msrpStep station p2pmac) inputs (msrpInit maxIds enablePruning)) :=
 run_related msrpLinkedStep_refines inputs ⟨linkedInitial_refines,rfl,rfl,rfl⟩

end MsrpRefinement

section States
variable {α κ:Type} [DecidableEq κ] {key:α → κ}

structure Sound (app:Application α) (s:LinkedDatabase α) : Prop where
 wellFormed:∃l,Represents s.chain l
 distinct:s.attribs.Pairwise fun a b=>
  app.sameAttribute a.value b.value=false ∧ app.sameAttribute b.value a.value=false

variable {app:Application α}

lemma sound_of_unique (hkey:KeyedBy app key) {s:LinkedDatabase α} {db:Database α}
 (h:Refines s db) (hunique:Unique key (entries db)) : Sound app s := by
 refine ⟨h.wellFormed,?_⟩
 have hattribs:db.attribList=s.attribs:=by
  rw[←h.view]
  rfl
 rw[MrpTable.Unique,entries,hattribs,pairwise_map] at hunique
 refine hunique.imp fun {a b} hne=>?_
 rw[hkey,hkey]
 exact ⟨decide_eq_false (Ne.symm hne),decide_eq_false hne⟩

lemma participantRun_unique {τ:Type} (hlawful:Lawful app) (hkey:KeyedBy app key)
 (p2pmac:Nat) (probe:τ → Option α) (parse:List UInt8 → List (Call τ α)×Except Stop Unit)
 (inputs:List (Input α)) : Unique key (entries (run (participantStep (event app p2pmac) probe parse) inputs
  initialDatabase)) := run_invariant (P:=fun db=>Unique key (entries db))
  (participantStep_unique hlawful hkey p2pmac probe parse) inputs List.Pairwise.nil

end States

lemma mvrpRun_increasing (station:BitVec 48) (p2pmac:Nat) (inputs:List (Input (BitVec 16)))
 : (run (mvrpStep station p2pmac) inputs initialDatabase).attribList.Pairwise
  fun a b=>a.value.toNat<b.value.toNat := by
 rw[mvrpStep_eq]
 have harranged:=run_invariant (P:=fun db=>Arranged (fun _=>()) BitVec.toNat (values db))
  (fun i db=>@participantStep_arranged _ _ _ _ _ _ p2pmac _ (mvrp_lawful station)
   (mvrp_arranges station) (fun _=>none) mvrpParse i db) inputs (s:=initialDatabase)
  ⟨trivial,List.Pairwise.nil⟩
 exact (pairwise_map.1 harranged.sorted).imp fun h=>h rfl

theorem lists_sound (station:BitVec 48) (allocator:Allocator) (p2pmac:Nat) :
 (∀inputs,Sound (mvrpApplication station)
  (run (mvrpLinkedStep station allocator p2pmac) inputs linkedInitial) ∧
  (run (mvrpLinkedStep station allocator p2pmac) inputs linkedInitial).attribs.Pairwise
   fun a b=>a.value.toNat<b.value.toNat) ∧
 (∀stack inputs,Sound (mmrpApplication station stack)
  (run (mmrpLinkedStep station stack allocator p2pmac) inputs linkedInitial)) ∧
 (∀maxIds enablePruning inputs,Sound (msrpApplication station)
  (run (msrpLinkedStep station allocator p2pmac) inputs
   (msrpLinkedInit maxIds enablePruning)).mrp) := by
 refine ⟨fun inputs=>⟨?_,?_⟩,fun stack inputs=>?_,fun maxIds enablePruning inputs=>?_⟩
 · refine sound_of_unique (mvrp_keyedBy station)
    (mvrpLinkedRun_refines station allocator p2pmac inputs) ?_
   rw[mvrpStep_eq]
   exact participantRun_unique (mvrp_lawful station) (mvrp_keyedBy station) p2pmac _ _ inputs
 · have hview:=(mvrpLinkedRun_refines station allocator p2pmac inputs).view
   have hincreasing:=mvrpRun_increasing station p2pmac inputs
   rw[←hview] at hincreasing
   exact hincreasing
 · refine sound_of_unique (mmrp_keyedBy station stack)
    (mmrpLinkedRun_refines station stack allocator p2pmac inputs) ?_
   rw[mmrpStep_eq]
   exact participantRun_unique (mmrp_lawful station stack) (mmrp_keyedBy station stack) p2pmac _ _ inputs
 · exact sound_of_unique (msrp_keyedBy station)
    (msrpLinkedRun_refines maxIds enablePruning inputs).mrp
    (msrpRun_unique maxIds enablePruning inputs)

end OpenAvnu.MrpLists
