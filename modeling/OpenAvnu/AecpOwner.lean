import OpenAvnu.AecpEntity
import OpenAvnu.Runs

/-!
# The owner of an acquired entity

A release by another controller is not checked.
-/

namespace OpenAvnu.Aecp

open Runs

def CommandData.isGuarded : CommandData → Bool
 | .setStreamFormat .. | .setStreamInfo .. | .setSamplingRate .. | .setClockSource ..
 | .setControl .. | .startStreaming _ | .stopStreaming _=>true
 | _=>false
def CommandData.isAcquire : CommandData → Bool
 | .acquireEntity flags _ _=>decide (flags &&& flagRelease=0)
 | _=>false
def CommandData.isRelease : CommandData → Bool
 | .acquireEntity flags _ _=>decide (flags &&& flagRelease≠0)
 | _=>false
def CommandData.releasesEntity : CommandData → Bool
 | .acquireEntity flags _ d=>
  decide (flags &&& flagRelease≠0 ∧ d.descriptorType=descriptorEntity)
 | _=>false

structure State where
 entity:Entity
 owner:Option (BitVec 64)

inductive Input where
 | command (env:Env) (m:AEMCommandResponse)
 | aemAcquire (flag:Bool)
 | others (descriptors:Descriptors)

/-- The owner is the controller whose acquisition was answered with SUCCESS, up to its release. -/
def nextOwner (m:AEMCommandResponse) (status:Status) (owner:Option (BitVec 64)) : Option (BitVec 64) :=
 if m.commandData.isAcquire ∧ status=.success then some m.controllerEntityId
 else if m.commandData.isRelease ∧ owner=some m.controllerEntityId then none
 else owner

def step (myEntityID:BitVec 64) (input:Input) (s:State) : State :=
 match input with
 | .command env m=>
  let r:=receivedCommand myEntityID env m s.entity
  match r.2 with
  | some rsp=>⟨r.1,nextOwner m rsp.status s.owner⟩
  | none=>{s with entity:=r.1}
 | .aemAcquire flag=>{s with entity:=openavbAemAcquire flag s.entity}
 | .others descriptors=>{s with entity:={s.entity with descriptors:=descriptors}}

structure Refused (env:Env) (m:AEMCommandResponse) (e:Entity) : Prop where
 entityAcquired:(handle env m e).1.entityAcquired=e.entityAcquired
 acquiredControllerId:(handle env m e).1.acquiredControllerId=e.acquiredControllerId
 guarded:m.commandData.isGuarded=true →
  (handle env m e).2.status=.entityAcquired ∧
   (handle env m e).1.descriptors=e.descriptors ∧ (handle env m e).1.requests=e.requests

def Obeys (myEntityID:BitVec 64) (input:Input) (s:State) : Prop :=
 match input with
 | .command env m=>
  ∀c,s.owner=some c → m.targetEntityId=myEntityID → m.controllerEntityId≠c →
   Refused env m s.entity
 | _=>True

/-- No other controller releases an owned entity, nor the local release if the owner's id starts
with zero. -/
def Undisturbed (myEntityID:BitVec 64) (input:Input) (s:State) : Prop :=
 match s.owner, input with
 | some c, .command _ m=>
  m.targetEntityId=myEntityID → m.controllerEntityId≠c →
   m.commandData.releasesEntity=false
 | some c, .aemAcquire flag=>flag=false → c.extractLsb' 56 8≠0
 | _, _=>True

instance (myEntityID:BitVec 64) (input:Input) (s:State) : Decidable (Undisturbed myEntityID input s) :=
 match s with
 | ⟨_,none⟩=>isTrue trivial
 | ⟨_,some _⟩=>
  match input with
  | .command _ _=>inferInstanceAs (Decidable (_ → _ → _))
  | .aemAcquire _=>inferInstanceAs (Decidable (_ → _))
  | .others _=>isTrue trivial

section Handlers
variable {env:Env} {m:AEMCommandResponse} {e:Entity}

lemma handle_acquireEntity {flags:BitVec 32} {ownerId:BitVec 64} {d:DescriptorId}
 (hdata:m.commandData=.acquireEntity flags ownerId d) :
 (handle env m e).1=(acquireEntity m flags ownerId d e).1 ∧
  (handle env m e).2.status=(acquireEntity m flags ownerId d e).2.1 := by
 simp[handle,hdata,respond]

variable (env) in
lemma handle_keeps (h:∀flags ownerId d,m.commandData ≠ .acquireEntity flags ownerId d) :
 (handle env m e).1.entityAcquired=e.entityAcquired ∧
  (handle env m e).1.acquiredControllerId=e.acquiredControllerId := by
 unfold handle processCommand
 cases hdata:m.commandData
 case acquireEntity flags ownerId d=>exact absurd hdata (h flags ownerId d)
 case setControl d values valuesCount=>
  simp only[setControl]
  split
  · exact ⟨rfl,rfl⟩
  · split
    · exact ⟨rfl,rfl⟩
    · split<;>exact ⟨rfl,rfl⟩
 all_goals exact ⟨rfl,rfl⟩

variable (env) in
lemma handle_acquired (he:e.entityAcquired=true)
 (hrelease:m.commandData.releasesEntity=false) : (handle env m e).1.entityAcquired=true ∧
  (handle env m e).1.acquiredControllerId=e.acquiredControllerId := by
 by_cases hacquire:∃flags ownerId d,m.commandData=.acquireEntity flags ownerId d
 · obtain ⟨flags,ownerId,d,hdata⟩:=hacquire
   rw[(handle_acquireEntity hdata).1,acquireEntity]
   split
   · exact ⟨he,rfl⟩
   · next htype=>
     have hflag:¬flags &&& flagRelease≠0:=by
      intro hflag
      rw[hdata] at hrelease
      simp only[CommandData.releasesEntity,decide_eq_false_iff_not] at hrelease
      exact hrelease ⟨hflag,not_not.1 htype⟩
     rw[if_neg hflag]
     split<;>exact ⟨he,rfl⟩
 · have hkeeps:=handle_keeps env (e:=e) fun flags ownerId d hdata=>
    hacquire ⟨flags,ownerId,d,hdata⟩
   exact ⟨hkeeps.1.trans he,hkeeps.2⟩

lemma acquire_success (hacquire:m.commandData.isAcquire=true)
 (hstatus:(handle env m e).2.status=.success) : (handle env m e).1.entityAcquired=true ∧
  (handle env m e).1.acquiredControllerId=m.controllerEntityId := by
 cases hdata:m.commandData with
 | acquireEntity flags ownerId d=>
  have hflag:¬flags &&& flagRelease≠0:=by
   rw[hdata] at hacquire
   simpa[CommandData.isAcquire] using hacquire
  rw[(handle_acquireEntity hdata).2,acquireEntity] at hstatus
  rw[(handle_acquireEntity hdata).1,acquireEntity]
  rw[if_neg hflag] at hstatus ⊢
  split at hstatus
  · cases hstatus
  · next htype=>
    rw[if_neg htype]
    split
    · next he=>
      rw[if_pos he] at hstatus
      split at hstatus
      · cases hstatus
      · next hsame=>
        rw[if_neg hsame]
        exact ⟨he,not_not.1 hsame⟩
    · exact ⟨rfl,rfl⟩
 | _=>
  rw[hdata] at hacquire
  cases hacquire

lemma correctController_false (he:e.entityAcquired=true)
 (hother:m.controllerEntityId≠e.acquiredControllerId) :
 processCommandCheckRestrictionCorrectController m e=false := by
 rw[processCommandCheckRestrictionCorrectController,if_pos he]
 exact decide_eq_false fun h=>hother h.symm

lemma guarded_refused
 (hcontroller:processCommandCheckRestrictionCorrectController m e=false)
 (hguarded:m.commandData.isGuarded=true) : (handle env m e).2.status=.entityAcquired ∧
  (handle env m e).1.descriptors=e.descriptors ∧ (handle env m e).1.requests=e.requests := by
 unfold handle processCommand
 cases hdata:m.commandData
 case setStreamFormat d streamFormat=>
  simp only[setStreamFormat,hcontroller]
  split<;>simp[respond]
 case setStreamInfo d info=>
  simp[setStreamInfo,hcontroller,Entity.request,respond]
 case setSamplingRate d samplingRate=>
  simp only[setSamplingRate,setSame,hcontroller]
  split<;>simp[respond]
 case setClockSource d clockSourceIndex reserved=>
  simp[setClockSource,setSame,hcontroller,respond]
 case setControl d values valuesCount=>simp[setControl,hcontroller,respond]
 case startStreaming d=>simp[setStreaming,hcontroller,Entity.request,respond]
 case stopStreaming d=>simp[setStreaming,hcontroller,Entity.request,respond]
 all_goals
  rw[hdata] at hguarded
  cases hguarded

end Handlers

def Held (s:State) : Prop := ∀c,s.owner=some c → s.entity.entityAcquired=true ∧ s.entity.acquiredControllerId=c

variable {myEntityID:BitVec 64} {s:State}

lemma Held.obeys {input:Input} (h:Held s) (hinput:Undisturbed myEntityID input s) :
 Obeys myEntityID input s := by
 cases input with
 | aemAcquire flag=>trivial
 | others descriptors=>trivial
 | command env m=>
  intro c howner htarget hother
  obtain ⟨he,hid⟩:=h c howner
  have hrelease:m.commandData.releasesEntity=false:=by
   simp only[Undisturbed,howner] at hinput
   exact hinput htarget hother
  obtain ⟨hacquired,hkept⟩:=handle_acquired env he hrelease
  have hcontroller:=correctController_false (m:=m) he (by rwa[hid])
  exact ⟨hacquired.trans he.symm,hkept,guarded_refused hcontroller⟩

lemma openavbAemAcquire_held {flag:Bool} {e:Entity} (he:e.entityAcquired=true)
 (hflag:flag=false → e.acquiredControllerId.extractLsb' 56 8≠0) : openavbAemAcquire flag e=e := by
 unfold openavbAemAcquire
 cases flag with
 | true=>simp[he]
 | false=>
  have hkept:¬(e.entityAcquired=true ∧ e.acquiredControllerId.extractLsb' 56 8=0):=
   fun h=>hflag rfl h.2
  exact if_neg hkept

lemma command_held {env:Env} {m:AEMCommandResponse} (h:Held s)
 (hinput:∀c,s.owner=some c → m.controllerEntityId≠c →
  m.commandData.releasesEntity=false) :
 Held ⟨(handle env m s.entity).1,nextOwner m (handle env m s.entity).2.status s.owner⟩ := by
 intro c hc
 dsimp only[nextOwner] at hc ⊢
 split at hc
 · next hacquire=>
   cases hc
   exact acquire_success hacquire.1 hacquire.2
 · split at hc
   · cases hc
   · next hnotOwner=>
     obtain ⟨he,hid⟩:=h c hc
     have hrelease:m.commandData.releasesEntity=false:=by
      by_cases hsame:m.controllerEntityId=c
      · cases hdata:m.commandData with
        | acquireEntity flags ownerId d=>
         have hflag:¬flags &&& flagRelease≠0:=fun hflag=>
          hnotOwner ⟨by rw[hdata];exact decide_eq_true hflag,by rw[hc,hsame]⟩
         exact decide_eq_false fun hboth=>hflag hboth.1
        | _=>rfl
      · exact hinput c hc hsame
     obtain ⟨hacquired,hkept⟩:=handle_acquired env he hrelease
     exact ⟨hacquired,hkept.trans hid⟩

lemma step_held (input:Input) (s:State) (hinput:Undisturbed myEntityID input s)
 (h:Held s) : Held (step myEntityID input s) := by
 cases input with
 | command env m=>
  by_cases htarget:m.targetEntityId=myEntityID
  · have hstep:step myEntityID (.command env m) s=
     ⟨(handle env m s.entity).1,nextOwner m (handle env m s.entity).2.status s.owner⟩:=by
     simp[step,receivedCommand,htarget]
    rw[hstep]
    apply command_held h
    intro c howner hother
    simp only[Undisturbed,howner] at hinput
    exact hinput htarget hother
  · have hstep:step myEntityID (.command env m) s=s:=by
     simp[step,receivedCommand,htarget]
    rwa[hstep]
 | aemAcquire flag=>
  intro c howner
  obtain ⟨he,hid⟩:=h c howner
  have hsame:openavbAemAcquire flag s.entity=s.entity:=by
   apply openavbAemAcquire_held he
   rw[hid]
   have howner':s.owner=some c:=howner
   simp only[Undisturbed,howner'] at hinput
   exact hinput
  simp only[step,hsame]
  exact ⟨he,hid⟩
 | others descriptors=>exact h

theorem owner_obeyed (myEntityID:BitVec 64) (entity:Entity) (inputs:List Input)
 (hinputs:Along (step myEntityID) (Undisturbed myEntityID) inputs ⟨entity,none⟩) :
 Along (step myEntityID) (Obeys myEntityID) inputs ⟨entity,none⟩ := by
 have hheld:Held ⟨entity,none⟩:=by
  intro c howner
  cases howner
 exact Along.imp_of_invariant step_held (fun _ _ h hinput=>h.obeys hinput) hheld hinputs

def exampleEntity : Entity := ⟨false,0,false,0,⟨1,1,[],[],[],[],[⟨.linearUint8,1,[5]⟩]⟩,[]⟩
def exampleEnv : Env := ⟨true,none,(0,0)⟩
def exampleCommand (controllerEntityId:BitVec 64) (commandData:CommandData) : Input :=
 .command exampleEnv ⟨0,1,0x7b,0,0,messageTypeAemCommand,.success,28,1,controllerEntityId,7,0,commandData⟩
def exampleAcquire (controllerEntityId:BitVec 64) : Input :=
 exampleCommand controllerEntityId (.acquireEntity 0 0 ⟨descriptorEntity,0⟩)
def exampleRelease (controllerEntityId:BitVec 64) : Input :=
 exampleCommand controllerEntityId (.acquireEntity flagRelease 0 ⟨descriptorEntity,0⟩)
def exampleSetControl (controllerEntityId:BitVec 64) : Input :=
 exampleCommand controllerEntityId (.setControl ⟨descriptorControl,0⟩ [9] 1)
def secondController : List Input :=
 [exampleAcquire 0x1100000000000001,exampleSetControl 0x2200000000000002,.aemAcquire false,
  exampleAcquire 0x2200000000000002,exampleRelease 0x1100000000000001,exampleAcquire 0x2200000000000002]

theorem second_controller_obeyed :
 (run (step 1) secondController ⟨exampleEntity,none⟩).owner=some 0x2200000000000002 ∧
  Along (step 1) (Obeys 1) secondController ⟨exampleEntity,none⟩ :=
 ⟨by decide +kernel,owner_obeyed 1 exampleEntity secondController (by decide +kernel)⟩

def foreignRelease : List Input := [exampleAcquire 0x1100000000000001,exampleRelease 0x2200000000000002]
def localRelease : List Input :=
 [exampleAcquire 0x0011000000000001,.aemAcquire false,exampleSetControl 0x2200000000000002]

theorem owner_not_obeyed : ¬Along (step 1) (Obeys 1) foreignRelease ⟨exampleEntity,none⟩ ∧
  ¬Along (step 1) (Obeys 1) localRelease ⟨exampleEntity,none⟩ := by
 constructor
 · rintro ⟨-,hrelease,-⟩
   have hrefused:=hrelease 0x1100000000000001 (by decide +kernel) rfl (by decide)
   exact absurd hrefused.entityAcquired (by decide +kernel)
 · rintro ⟨-,-,hset,-⟩
   have hrefused:=hset 0x0011000000000001 (by decide +kernel) rfl (by decide)
   exact absurd (hrefused.guarded rfl).1 (by decide +kernel)

end OpenAvnu.Aecp
