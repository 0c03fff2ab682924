import OpenAvnu.MsrpNotices

/-!
# Declarations of MSRP clients

The state machines never lose a declaration; pruning does, because it looks at the stream only.
-/

namespace OpenAvnu

open Mrp MrpEvents MrpLaws MrpSteps MrpTable MrpRuns MrpDeclared MrpKeys MsrpActions Runs Msrp
 List Function

namespace MsrpDeclared

open MsrpCommands

/-- A database with the keys that clients have declared and not withdrawn. -/
structure Watched where
 held:MsrpKey → Bool
 db:MsrpDatabase

/-- The attribute a command is about, and whether it declares it. -/
def verdict : Command → Option (MsrpKey×Bool)
 | .joinOrNewStream _ _ talker=>some (.talker talker.streamId,true)
 | .leaveStream streamId=>some (.talker streamId,false)
 | .reportListenerStatus streamId _=>some (.listener streamId,true)
 | .withdrawListenerStatus streamId=>some (.listener streamId,false)
 | .reportDomainStatus report srClassId _ _=>some (.domain srClassId,report)
 | .addInteresting _ | .removeInteresting _ | .removeAllInteresting | .other=>none

def heldAfter (i:MsrpInput) (s:Watched) : MsrpKey → Bool :=
 match i with
 | .command client command=>
  if refused client s.db then s.held
  else
   match verdict command with
   | some (k,declares)=>update s.held k declares
   | none=>s.held
 | .bye _ | .frame _ | .timer _ | .reclaim=>s.held

def watchedStep (station:BitVec 48) (p2pmac:Nat) (i:MsrpInput) (s:Watched) : Watched :=
 ⟨heldAfter i s,msrpStep station p2pmac i s.db⟩
def watchedInit (maxInterestingStreamIds:Nat) (enablePruning:Bool) : Watched :=
 ⟨fun _=>false,msrpInit maxInterestingStreamIds enablePruning⟩

/-- Everything declared and not withdrawn is in the database, with its applicant in a declared
state. -/
def Survives (s:Watched) : Prop := ∀k,s.held k=true →
  ∃a∈s.db.mrp.attribList,msrpKey a.value=k ∧ declares a.applicant.mrpState=true

/-- Pruning drops no new declaration, and unlinks no declared talker with its listener or its
interest. -/
def SparesCommand (command:Command) (s:Watched) : Prop :=
 match command with
 | .joinOrNewStream _ failed talker=>
  interested s.db.interest (declaredTalker failed talker) s.db.mrp.attribList=true ∨
   ∃a∈s.db.mrp.attribList,msrpKey a.value=.talker talker.streamId ∧
    declares a.applicant.mrpState=true
 | .withdrawListenerStatus streamId=>
  uninteresting s.db.interest streamId=true → s.held (.talker streamId)=false
 | .removeInteresting streamId=>
  s.db.interest.enablePruning=true → streamId∈s.db.interest.interestingStreamIds →
  hasListener streamId s.db.mrp.attribList=false → s.held (.talker streamId)=false
 | _=>True

def Spares (i:MsrpInput) (s:Watched) : Prop :=
 match i with
 | .command client command=>refused client s.db=false → SparesCommand command s
 | _=>True

section Actions
variable {station:BitVec 48} {p2pmac:Nat} {db:Database MsrpValue}

lemma declared_notifyAll (k:MsrpKey) (db:Database MsrpValue) :
 declared msrpKey k (notifyAll db [] []).db=declared msrpKey k db := by
 rw[declared,entries_notifyAll,declared]

variable (interest:Interest) (streamId:BitVec 64)

lemma msrpEvent_declared_network {e:Event} (he:e ≠ .BEGIN ∧ e ≠ .NEW ∧ e ≠ .JOIN ∧ e ≠ .LV)
 {r:Option (Attribute MsrpValue)} (hr:Fresh r) (hunique:Unique msrpKey (entries db))
 (k:MsrpKey) : declared msrpKey k (msrpEvent station p2pmac interest e r db).db=declared msrpKey k db := by
 rcases msrpEvent_cases station p2pmac interest e r db with ⟨heq,-⟩|⟨a,-,-,-,heq⟩
 · rw[heq]
   exact event_declared_network (msrp_lawful station) (msrp_keyedBy station)
    (fun l r a=>(msrpMerge_merged l r a).applicant) he hr hunique k
 · rw[heq,declared_notifyAll]

lemma msrpEvent_declared_request (q:Request) (value:MsrpValue)
 (hunique:Unique msrpKey (entries db)) (k:MsrpKey) :
 declared msrpKey k (msrpEvent station p2pmac interest q.event (some (alloc value 0)) db).db=
  if k=msrpKey value ∧ interested interest value db.attribList=true then demands q
  else declared msrpKey k db := by
 rcases msrpEvent_cases station p2pmac interest q.event (some (alloc value 0)) db with
  ⟨heq,hpassed⟩ | ⟨a,ha,-,hboring,heq⟩
 · have hinterested:interested interest value db.attribList=true:=
    hpassed _ rfl (by cases q<;>rfl)
   rw[heq,event_declared_request (msrp_lawful station) (msrp_keyedBy station) q _ hunique]
   simp only[hinterested,and_true]
   rfl
 · obtain rfl:alloc value 0=a:=Option.some_inj.1 ha
   have hboring':interested interest value db.attribList=false:=hboring
   rw[heq,declared_notifyAll]
   simp[hboring']

lemma talker_key_iff (v:MsrpValue) :
 (v.type.isTalker&&decide (v.streamId=streamId))=true↔msrpKey v=.talker streamId := by
 unfold msrpKey
 cases v.type<;>simp[MsrpType.isTalker]

lemma entries_pruneTalkers (db:Database MsrpValue) : entries (pruneTalkers streamId db)=
  (entries db).filter fun x=>!decide (msrpKey x.value=.talker streamId) := by
 rw[entries,entries,filter_map]
 refine congrArg (List.map entry) (filter_congr fun a _=>congrArg (!·) ?_)
 rw[Bool.eq_iff_iff,talker_key_iff,decide_eq_true_eq]
 rfl

lemma pruneTalkers_declared (hunique:Unique msrpKey (entries db)) (k:MsrpKey) :
 declared msrpKey k (pruneTalkers streamId db)=
  if k=.talker streamId then false else declared msrpKey k db := by
 rw[declared,declared,entries_pruneTalkers,row_filter hunique]
 cases hrow:row msrpKey k (entries db) with
 | none=>simp
 | some x=>
  obtain ⟨-,rfl⟩:=mem_of_row hrow
  by_cases hk:msrpKey x.value=.talker streamId<;>simp

end Actions

section Steps
variable {station:BitVec 48} {p2pmac:Nat} {held:MsrpKey → Bool}
 {db db':Database MsrpValue}

def Holds (held:MsrpKey → Bool) (db:Database MsrpValue) : Prop := ∀k,held k=true → declared msrpKey k db=true

variable {s:Watched} (interest:Interest) (q:Request)

lemma survives_iff_holds (hunique:Unique msrpKey (entries s.db.mrp)) :
 Survives s↔Holds s.held s.db.mrp := forall_congr' fun k=>by rw[declared_iff hunique]

variable (value:MsrpValue)

section
variable (h:Holds held db) (hunique:Unique msrpKey (entries db))
include h hunique

lemma request_holds_iff : Holds (update held (msrpKey value) (demands q))
  ((request q.event value).apply station p2pmac interest db) ↔
  (demands q=true → interested interest value db.attribList=true ∨
   declared msrpKey (msrpKey value) db=true) := by
 have hnext:∀k,declared msrpKey k ((request q.event value).apply station p2pmac interest db)=_:=
  msrpEvent_declared_request interest q value hunique
 constructor
 · intro hholds hd
   have hk:=hholds (msrpKey value) (by simpa using hd)
   rw[hnext] at hk
   cases hpassed:interested interest value db.attribList with
   | true=>exact .inl rfl
   | false=>exact .inr (by simpa[hpassed] using hk)
 · intro hd k hk
   rw[hnext]
   by_cases hkey:k=msrpKey value
   · subst hkey
     rw[update_self] at hk
     rcases hd hk with hpassed|hdeclared
     · simp[hpassed,hk]
     · simp[hdeclared,hk]
   · rw[if_neg (by simp[hkey])]
     rw[update_of_ne hkey] at hk
     exact h k hk

lemma request_holds (hvalue:demands q=true → value.type.isTalker=false) :
 Holds (update held (msrpKey value) (demands q))
  ((request q.event value).apply station p2pmac interest db) :=
 (request_holds_iff interest q value h hunique).2 fun hd=>
  .inl (by simp[interested,hvalue hd])

lemma prune_holds_iff {streamId:BitVec 64} :
 Holds held (pruneTalkers streamId db)↔held (.talker streamId)=false := by
 constructor
 · intro hnext
   by_contra hheld
   have hk:=hnext (.talker streamId) (by simpa using hheld)
   rw[pruneTalkers_declared streamId hunique,if_pos rfl] at hk
   cases hk
 · intro hheld k hk
   rw[pruneTalkers_declared streamId hunique,if_neg]
   · exact h k hk
   · rintro rfl
     rw[hheld] at hk
     cases hk

end

lemma frame_declared (bytes:List UInt8) (db:Database MsrpValue)
 (hunique:Unique msrpKey (entries db)) (k:MsrpKey) :
 declared msrpKey k (msrpRecvMsg station p2pmac interest bytes db).db=declared msrpKey k db := by
 refine (raiseCalls_kept (I:=fun db'=>Unique msrpKey (entries db') ∧
  declared msrpKey k db'=declared msrpKey k db) ?_ _ _ _ ⟨hunique,rfl⟩).2
 rintro e r db' hr ⟨hunique',hsame⟩
 refine ⟨msrpEvent_unique interest e r db' hunique',?_⟩
 rw[msrpEvent_declared_network interest hr.isNetwork.2 hr.fresh hunique',hsame]

lemma holds_congr {db':Database MsrpValue}
 (h:∀k,declared msrpKey k db'=declared msrpKey k db) : Holds held db'↔Holds held db :=
 forall_congr' fun k=>by rw[h k]
lemma withdrawnListener_key (streamId:BitVec 64) (l:List (Attribute MsrpValue)) :
 msrpKey (withdrawnListener streamId l)=.listener streamId := by
 unfold withdrawnListener
 dsimp only
 split<;>rfl

lemma command_holds_iff (command:Command) (hunique:Unique msrpKey (entries s.db.mrp))
 (h:Holds s.held s.db.mrp) {client:Client} (hserved:refused client s.db=false) :
 Holds (heldAfter (.command client command) s) (run (Action.apply station p2pmac s.db.interest)
  (commandActions s.db.interest s.db.mrp.attribList command) s.db.mrp) ↔
  SparesCommand command s := by
 rw[heldAfter,if_neg (by simp[hserved])]
 cases command with
 | joinOrNewStream new failed talker=>
  have hkey:msrpKey (declaredTalker failed talker)=.talker talker.streamId:=by
   cases failed<;>rfl
  have hiff:=fun q=>@request_holds_iff station p2pmac s.held s.db.mrp s.db.interest q
   (declaredTalker failed talker) h hunique
  rw[hkey] at hiff
  simp only[SparesCommand,←declared_iff hunique]
  cases new with
  | false=>exact (hiff .join).trans (by simp[demands])
  | true=>exact (hiff .new).trans (by simp[demands])
 | leaveStream streamId=>
  exact iff_of_true (request_holds s.db.interest .leave (streamValue .talkerAdv streamId) h hunique
   (by simp[demands])) trivial
 | reportListenerStatus streamId substate=>
  exact iff_of_true (request_holds s.db.interest .new (declaredListener streamId substate) h hunique
   fun _=>rfl) trivial
 | withdrawListenerStatus streamId=>
  have hleft:=@request_holds station p2pmac s.held s.db.mrp s.db.interest .leave
   (withdrawnListener streamId s.db.mrp.attribList) h hunique (by simp[demands])
  have hnext:=@msrpEvent_unique station p2pmac s.db.interest .LV
   (some (alloc (withdrawnListener streamId s.db.mrp.attribList) 0)) s.db.mrp hunique
  rw[withdrawnListener_key] at hleft
  simp only[SparesCommand,commandActions]
  cases hboring:uninteresting s.db.interest streamId with
  | false=>exact iff_of_true hleft (by simp)
  | true=>
   refine (prune_holds_iff hleft hnext).trans ?_
   simp
 | reportDomainStatus report srClassId srClassPriority srClassVid=>
  refine iff_of_true ?_ trivial
  cases report with
  | false=>
   exact request_holds s.db.interest .leave (domainValue srClassId srClassPriority srClassVid)
    h hunique (by simp[demands])
  | true=>
   exact request_holds s.db.interest .join (domainValue srClassId srClassPriority srClassVid)
    h hunique fun _=>rfl
 | removeInteresting streamId=>
  simp only[SparesCommand,commandActions]
  cases hprunes:s.db.interest.enablePruning &&
   eui64setFind s.db.interest.interestingStreamIds streamId &&
   !hasListener streamId s.db.mrp.attribList with
  | false=>
   refine iff_of_true h fun hpruning hmem hlistener=>?_
   simp[hpruning,hmem,hlistener] at hprunes
  | true=>
   simp only[Bool.and_eq_true,eui64setFind_iff,Bool.not_eq_true'] at hprunes
   refine (prune_holds_iff h hunique).trans ?_
   simp[hprunes]
 | addInteresting | removeAllInteresting | other=>exact iff_of_true h trivial

lemma watchedStep_survives_iff (i:MsrpInput) (s:Watched)
 (hunique:Unique msrpKey (entries s.db.mrp)) (h:Survives s) :
 Survives (watchedStep station p2pmac i s)↔Spares i s := by
 rw[survives_iff_holds (msrpStep_unique i s.db hunique)]
 rw[survives_iff_holds hunique] at h
 cases i with
 | command client command=>
  cases hrefused:refused client s.db with
  | true=>
   have hstep:watchedStep station p2pmac (.command client command) s=
    ⟨s.held,{s.db with clients:=clientDelete client (clientAdd client s.db.clients)}⟩:=by
    have hcond:=hrefused
    unfold refused at hcond
    simp[watchedStep,heldAfter,hrefused,msrpStep,msrpRecvCmd,hcond]
   rw[hstep]
   exact iff_of_true h (by simp[Spares,hrefused])
  | false=>
   have hmrp:(watchedStep station p2pmac (.command client command) s).db.mrp=_:=
    msrpStep_actions (.command client command) s.db
   rw[hmrp,actions,if_neg (by simp[hrefused]),Spares,forall_prop_of_true hrefused]
   exact command_holds_iff command hunique h hrefused
 | bye client=>exact iff_of_true h trivial
 | frame bytes=>
  exact iff_of_true ((holds_congr (frame_declared s.db.interest bytes s.db.mrp hunique)).2 h)
    trivial
 | timer t=>
  refine iff_of_true ((holds_congr fun k=>?_).2 h) trivial
  exact msrpEvent_declared_network s.db.interest (timer_event_network t) Fresh.none hunique k
 | reclaim=>exact iff_of_true ((holds_congr fun k=>reclaim_declared hunique k).2 h) trivial

end Steps

/-- Exactly if pruning never drops or unlinks a talker that a client declares. -/
theorem survives_throughout_iff (station:BitVec 48) (p2pmac maxInterestingStreamIds:Nat)
 (enablePruning:Bool) (inputs:List MsrpInput) : Throughout (watchedStep station p2pmac) Survives inputs
  (watchedInit maxInterestingStreamIds enablePruning) ↔
  Along (watchedStep station p2pmac) Spares inputs
   (watchedInit maxInterestingStreamIds enablePruning) := by
 refine throughout_iff_along_of (J:=fun s:Watched=>Unique msrpKey (entries s.db.mrp))
  (fun i s=>msrpStep_unique i s.db) watchedStep_survives_iff List.Pairwise.nil ?_
 intro k hk
 cases hk

theorem talker_pruned :
 let s:=run (watchedStep 0 0)
  [.command ⟨0,7500⟩ (.addInteresting 1),
   .command ⟨0,7500⟩ (.joinOrNewStream true false {emptyTalkListen with streamId:=1}),
   .command ⟨0,7500⟩ (.removeInteresting 1)] (watchedInit 0 true)
 s.held (.talker 1)=true ∧ s.db.mrp.attribList=[] := by
 decide

end MsrpDeclared

/-! ## Stream identifier pruning -/

namespace MsrpPruning

open MsrpDeclared MsrpNotices MsrpCommands

/-- Every talker belongs to an interesting stream or has a listener. -/
def Justified (interest:Interest) (db:Database MsrpValue) : Prop := ∀a∈db.attribList,a.value.type.isTalker=true →
  a.value.streamId∈interest.interestingStreamIds ∨ hasListener a.value.streamId db.attribList=true

/-- `r` is received for `x`, which is not registered or whose merge ends its registration. -/
def unregistered (l:List (Attribute MsrpValue)) (r x:Attribute MsrpValue) : Bool :=
 sameMsrpAttribute r.value x.value&&(x.registrar.mrpState=.MT||forces l r.value x.value)

/-- The action takes a listener out of the list: nobody declares it, and it is not registered or its
registration ends. -/
def removes (action:Action) (l:List (Attribute MsrpValue)) (x:Attribute MsrpValue) : Bool :=
 match action, x.applicant.mrpState with
 | .raise .LVTIMER _, state=>observes state&&!decide (x.registrar.mrpState=.IN)
 | .raise .RIN (some r), state=>observes state&&unregistered l r x
 | .raise .RMT (some r), state=>(observes state||state=.LO)&&unregistered l r x
 | .raise .LV (some r), state=>observes (applicantLv state)&&unregistered l r x
 | .reclaim, state=>observes state&&x.registrar.mrpState=.MT
 | _, _=>false

/-- A talker that has no other justification does not lose its listener. -/
def KeepsListeners (interest:Interest) (action:Action) (db:Database MsrpValue) : Prop :=
 ∀a∈db.attribList,a.value.type.isTalker=true → a.value.streamId∉interest.interestingStreamIds →
  ∀x∈db.attribList,msrpKey x.value=.listener a.value.streamId →
   removes action db.attribList x=false

instance (interest:Interest) (action:Action) (db:Database MsrpValue) :
 Decidable (KeepsListeners interest action db) :=
 inferInstanceAs (Decidable (∀a∈_,_=_ → _∉_ → ∀x∈_,_=_ → _=_))

section
variable (station:BitVec 48) (p2pmac:Nat)

/-- No talker depends on an interest that is withdrawn as a whole, or on a listener that an event
removes. -/
def Guards (i:MsrpInput) (db:MsrpDatabase) : Prop :=
 match i with
 | .command client .removeAllInteresting=>refused client db=false →
  ∀a∈db.mrp.attribList,a.value.type.isTalker=true →
   hasListener a.value.streamId db.mrp.attribList=true
 | .command _ _ | .bye _=>True
 | .frame _ | .timer _ | .reclaim=>EachAction station p2pmac KeepsListeners i db

instance : (i:MsrpInput) → (db:MsrpDatabase) → Decidable (Guards station p2pmac i db)
 | .command _ .removeAllInteresting, _=>inferInstanceAs (Decidable (_=_ → ∀a∈_,_ → _))
 | .command _ (.joinOrNewStream ..), _ | .command _ (.leaveStream _), _
 | .command _ (.reportListenerStatus ..), _ | .command _ (.withdrawListenerStatus _), _
 | .command _ (.reportDomainStatus ..), _ | .command _ (.addInteresting _), _
 | .command _ (.removeInteresting _), _ | .command _ .other, _ | .bye _, _=>isTrue trivial
 | .frame _, _ | .timer _, _ | .reclaim, _=>inferInstanceAs (Decidable (Along ..))

end

def present (k:MsrpKey) (db:Database MsrpValue) : Prop := ∃a∈db.attribList,msrpKey a.value=k

lemma hasListener_iff (streamId:BitVec 64) (db:Database MsrpValue) :
 hasListener streamId db.attribList=true↔present (.listener streamId) db := by
 rw[hasListener,any_eq_true]
 refine exists_congr fun a=>and_congr_right fun _=>?_
 unfold msrpKey
 cases a.value.type<;>simp

lemma justified_iff (interest:Interest) (db:Database MsrpValue) :
 Justified interest db↔∀streamId,present (.talker streamId) db →
  streamId∈interest.interestingStreamIds ∨ present (.listener streamId) db := by
 constructor
 · rintro h streamId ⟨a,ha,hkey⟩
   have htalker:=(talker_key_iff streamId a.value).2 hkey
   simp only[Bool.and_eq_true,decide_eq_true_eq] at htalker
   obtain ⟨htype,rfl⟩:=htalker
   exact (h a ha htype).imp id (hasListener_iff _ db).1
 · intro h a ha htype
   have hkey:=(talker_key_iff a.value.streamId a.value).1 (by simp[htype])
   exact (h _ ⟨a,ha,hkey⟩).imp id (hasListener_iff _ db).2

lemma present_iff_row (k:MsrpKey) (db:Database MsrpValue) : present k db↔row msrpKey k (entries db)≠none := by
 simp[present,row_eq_none,entries,entry]

section Events
variable {station:BitVec 48} {p2pmac:Nat} {interest:Interest} {db:Database MsrpValue}
 {db':Database MsrpValue} {k:MsrpKey} {r:Option (Attribute MsrpValue)} {e:Event}
 {a:Attribute MsrpValue}

lemma present_congr (h:entries db'=entries db) (k:MsrpKey) : present k db'↔present k db := by
 rw[present_iff_row,present_iff_row,h]

lemma present_of_sweeps {f:Entry MsrpValue → Option (Entry MsrpValue)} (hf:Sweeps f)
 (hentries:entries db'=(entries db).filterMap f) (h:present k db') : present k db := by
 rw[present_iff_row,Ne,row_eq_none] at h ⊢
 refine fun hnone=>h fun y hy=>?_
 rw[hentries] at hy
 obtain ⟨x,hx,hfx⟩:=mem_filterMap.1 hy
 rw[hf.value x y hfx]
 exact hnone x hx

lemma msrpEvent_appears (h:present k (msrpEvent station p2pmac interest e r db).db) :
 present k db ∨ ∃a,r=some a ∧ isAttributeEvent e=true ∧ k=msrpKey a.value ∧
  interested interest a.value db.attribList=true := by
 rcases msrpEvent_cases station p2pmac interest e r db with ⟨heq,hpassed⟩|⟨a,-,-,-,heq⟩
 swap
 · rw[heq,present_congr (entries_notifyAll db)] at h
   exact .inl h
 rw[heq] at h
 rcases event_effect (msrp_lawful station) p2pmac e r db with ⟨f,hf,hentries,-⟩ |
  ⟨a,_,_,_,_,_,ha,he,htouched⟩
 · exact .inl (present_of_sweeps hf hentries h)
 · by_cases hk:k=msrpKey a.value
   · exact .inr ⟨a,ha,he,hk,hpassed a ha he⟩
   · rw[present_iff_row,touched_row_other (msrp_lawful station) (msrp_keyedBy station) htouched
       hk,← present_iff_row] at h
     exact .inl h

lemma msrpEvent_stays (he:isAttributeEvent e=true) (hk:k≠msrpKey a.value) :
 present k (msrpEvent station p2pmac interest e (some a) db).db↔present k db := by
 rcases msrpEvent_cases station p2pmac interest e (some a) db with ⟨heq,-⟩|⟨-,-,-,-,heq⟩
 swap
 · rw[heq,present_congr (entries_notifyAll db)]
 rw[heq,event_concerns _ p2pmac he]
 rcases attributeEvent_cases (msrp_lawful station) p2pmac e a db with ⟨-,-,hdrop⟩ |
  ⟨_,_,_,_,_,htouched⟩
 · rw[hdrop]
   exact Iff.rfl
 · rw[present_iff_row,touched_row_other (msrp_lawful station) (msrp_keyedBy station) htouched hk,
    ← present_iff_row]

section
variable (hpruning:interest.enablePruning=true)
include hpruning

lemma interested_iff {v:MsrpValue} {streamId:BitVec 64}
 (hkey:msrpKey v=.talker streamId) : interested interest v db.attribList=true ↔
  streamId∈interest.interestingStreamIds ∨ present (.listener streamId) db := by
 have htalker:=(talker_key_iff streamId v).2 hkey
 simp only[Bool.and_eq_true,decide_eq_true_eq] at htalker
 obtain ⟨htype,rfl⟩:=htalker
 rw[←hasListener_iff]
 simp[interested,htype,hpruning]

lemma msrpEvent_justified (h:Justified interest db)
 (hkeeps:∀streamId,present (.listener streamId) db →
  streamId∉interest.interestingStreamIds →
  present (.talker streamId) (msrpEvent station p2pmac interest e r db).db →
  present (.listener streamId) (msrpEvent station p2pmac interest e r db).db) :
 Justified interest (msrpEvent station p2pmac interest e r db).db := by
 rw[justified_iff] at h ⊢
 intro streamId htalker
 by_cases hmem:streamId∈interest.interestingStreamIds
 · exact .inl hmem
 right
 refine hkeeps streamId ?_ hmem htalker
 rcases msrpEvent_appears htalker with hbefore|⟨a,-,-,hkey,hpassed⟩
 · exact (h streamId hbefore).resolve_left hmem
 · exact ((interested_iff hpruning hkey.symm).1 hpassed).resolve_left hmem

lemma msrpEvent_justified_other
 (he:isAttributeEvent e=true) (ha:a.value.type ≠ .listener) (h:Justified interest db) :
 Justified interest (msrpEvent station p2pmac interest e (some a) db).db := by
 refine msrpEvent_justified hpruning h fun streamId hlistener _ _=>?_
 refine (msrpEvent_stays he fun hkey=>ha ?_).2 hlistener
 unfold msrpKey at hkey
 split at hkey<;>first | assumption | cases hkey

end

lemma pruneTalkers_present (streamId:BitVec 64) (k:MsrpKey) (db:Database MsrpValue) :
 present k (pruneTalkers streamId db)↔present k db ∧ k ≠ .talker streamId := by
 simp only[present,pruneTalkers,mem_filter,Bool.not_eq_true',←Bool.not_eq_true,talker_key_iff]
 constructor
 · rintro ⟨a,⟨ha,hother⟩,rfl⟩
   exact ⟨⟨a,ha,rfl⟩,hother⟩
 · rintro ⟨⟨a,ha,rfl⟩,hother⟩
   exact ⟨a,⟨ha,hother⟩,rfl⟩

lemma present_swept {f:Entry MsrpValue → Option (Entry MsrpValue)} (hf:Sweeps f)
 (hunique:Unique msrpKey (entries db)) (hentries:entries db'=(entries db).filterMap f)
 (ha:a∈db.attribList) : present (msrpKey a.value) db'↔f (entry a)≠none := by
 have hrow:row msrpKey (msrpKey a.value) (entries db)=some (entry a):=
  (row_eq_some hunique).2 ⟨mem_map_of_mem ha,rfl⟩
 rw[present_iff_row,hentries,row_filterMap hf hunique,hrow]
 rfl

lemma observes_applicantNew (s:ApplicantState) : observes (applicantNew s)=false := by
 cases s<;>rfl
lemma observes_applicantRlv (s:ApplicantState) : observes (applicantRlv s)=false := by
 cases s<;>rfl
lemma observes_applicantRmt (s:ApplicantState) :
 observes (applicantRmt s)=(observes s||s=.LO) := by
 cases s<;>rfl
lemma observes_applicantRin (s:ApplicantState) : observes (applicantRin p2pmac s)=observes s := by
 cases s with
 | AA=>
  unfold applicantRin
  dsimp only
  split<;>rfl
 | VO | VP | VN | AN | QA | LA | AO | QO | AP | QP | LO=>rfl

lemma attributePass_reclaimable_iff (he:isAttributeEvent e=true) (a:Attribute MsrpValue) :
 reclaimable (attributePass p2pmac e a)=true ↔ a.registrar.mrpState=.MT ∧
  (e=.RIN ∧ observes a.applicant.mrpState=true ∨
   e=.RMT ∧ (observes a.applicant.mrpState=true ∨ a.applicant.mrpState=.LO) ∨
   e=.LV ∧ observes (applicantLv a.applicant.mrpState)=true) := by
 rw[reclaimable_iff,attributePass_applicant]
 rcases a with ⟨value,⟨state,tx,sndmsg,encode,previous⟩,⟨registered,notify,macaddr⟩⟩
 cases e with
 | NEW | JOIN | LV | RNEW | RJOININ | RJOINMT | RIN | RMT | RLV=>
  cases registered <;>
   simp[attributePass,registrarPass,applicantPass,remap,registrarFsm,registrarStep,registrarLeave,
    applicantFsm,applicantStep,observes_applicantNew,observes_applicantRin,observes_applicantRmt,
    observes_applicantRlv]
 | BEGIN | TX | TXLA | TXLAF | FLUSH | RLA | REDECLARE | PERIODIC | PERIODICENABLE |
  PERIODICDISABLE | LVTIMER | LVATIMER=>cases he

lemma removes_merged (he:isAttributeEvent e=true) {r:Attribute MsrpValue}
 {l:List (Attribute MsrpValue)} (hsame:sameMsrpAttribute r.value a.value=true) :
 reclaimable (attributePass p2pmac e (msrpMerge l r a))=removes (.raise e (some r)) l a := by
 have hmerged:=msrpMerge_merged l r a
 have hmt:(msrpMerge l r a).registrar.mrpState=.MT ↔ unregistered l r a=true:=by
  rw[hmerged.registrar,unregistered,hsame]
  cases forces l r.value a.value<;>simp
 rw[Bool.eq_iff_iff,attributePass_reclaimable_iff he,hmt,hmerged.applicant]
 cases e<;>first | (simp[removes,and_comm];done) | cases he

lemma action_keeps (action:Action) (hunique:Unique msrpKey (entries db)) (ha:a∈db.attribList)
 {streamId:BitVec 64} (hlistener:msrpKey a.value=.listener streamId)
 (hkept:removes action db.attribList a=false) :
 present (msrpKey a.value) (action.apply station p2pmac interest db) := by
 have hpresent:present (msrpKey a.value) db:=⟨a,ha,rfl⟩
 cases action with
 | prune other=>exact (pruneTalkers_present other _ db).2 ⟨hpresent,by simp[hlistener]⟩
 | reclaim=>
  have hentries:entries (MrpEvents.reclaim db).db=_:=
   ((reclaim_swept db).entries.trans (by rw[map_id])).trans (filterMap_reclaim id (entries db))
  refine (present_swept (@sweeps_reclaim _ id (fun _=>rfl) (fun _=>rfl) true) hunique hentries ha).2 ?_
  revert hkept
  cases happlicant:a.applicant.mrpState <;>
   simp[removes,happlicant,observes,Entry.reclaimable,entry]
 | raise e r=>
  change present _ (msrpEvent station p2pmac interest e r db).db
  rcases msrpEvent_cases station p2pmac interest e r db with ⟨heq,-⟩|⟨-,-,-,-,heq⟩
  · rw[heq]
    by_cases hconcerns:∃r',r=some r' ∧ isAttributeEvent e=true
    · obtain ⟨r,rfl,he⟩:=hconcerns
      rw[event_concerns _ p2pmac he]
      rcases attributeEvent_cases (msrp_lawful station) p2pmac e r db with ⟨-,-,hdrop⟩ |
       ⟨pre,post,found,placed,left,htouched⟩
      · rwa[hdrop]
      by_cases hkey:msrpKey a.value=msrpKey r.value
      · have hfound:found=some a:=by
         rcases touched_mem htouched ha with hpre|hpost|hfound
         · exact absurd hkey (touched_others hunique htouched (.inl hpre))
         · exact absurd hkey (touched_others hunique htouched (.inr hpost))
         · exact hfound
        obtain ⟨hsame,hplaced⟩:=htouched.merged a hfound
        have hreclaimable:reclaimable (attributePass p2pmac e (msrpMerge db.attribList r a))=_:=
         removes_merged he hsame
        rw[hkey,present_iff_row,(touched_row (msrp_lawful station) (msrp_keyedBy station) htouched
         hunique).2,htouched.left_eq,hplaced]
        change Option.map entry (if true&&reclaimable (attributePass p2pmac e
         (msrpMerge db.attribList r a)) then none else _)≠none
        rw[hreclaimable,hkept]
        simp
      · rwa[present_iff_row,touched_row_other (msrp_lawful station) (msrp_keyedBy station) htouched
         hkey,←present_iff_row]
    · by_cases hlv:e=.LVTIMER
      · subst hlv
        have hentries:entries (lvTimerEvent (msrpApplication station) db).db=_:=
         (lvTimerEvent_swept db).entries.trans (filterMap_reclaim _ (entries db))
        refine (present_swept (sweeps_reclaim (Entry.register_value .LVTIMER)
         (Entry.register_applicant .LVTIMER) true) hunique hentries ha).2 ?_
        revert hkept
        cases happlicant:a.applicant.mrpState<;>cases hregistrar:a.registrar.mrpState <;>
         simp[removes,happlicant,hregistrar,observes,Entry.reclaimable,Entry.register,entry,
          registrarStep]
      · obtain ⟨f,hf,hentries,hkept⟩:=event_sweeps (msrp_lawful station) p2pmac e r db
         fun r' hr he=>hconcerns ⟨r',hr,he⟩
        exact (present_swept hf hunique hentries ha).2 (hkept hlv _)
  · rwa[heq,present_congr (entries_notifyAll db)]

lemma action_justified (hpruning:interest.enablePruning=true) (action:Action)
 (hunique:Unique msrpKey (entries db)) (hkeeps:KeepsListeners interest action db)
 (h:Justified interest db) : Justified interest (action.apply station p2pmac interest db) := by
 -- a talker that was there before keeps its listener
 have hlistener:∀streamId,streamId∉interest.interestingStreamIds →
  present (.talker streamId) db →
  present (.listener streamId) (action.apply station p2pmac interest db):=by
  rintro streamId hmem ⟨a,ha,hkey⟩
  have htalker:=(talker_key_iff streamId a.value).2 hkey
  simp only[Bool.and_eq_true,decide_eq_true_eq] at htalker
  obtain ⟨htype,rfl⟩:=htalker
  obtain ⟨x,hx,hxkey⟩:=((justified_iff _ _).1 h _ ⟨a,ha,hkey⟩).resolve_left hmem
  exact hxkey▸action_keeps action hunique hx hxkey (hkeeps a ha htype hmem x hx hxkey)
 have hfewer:(∀streamId,present (.talker streamId) (action.apply station p2pmac interest db) →
  present (.talker streamId) db) → Justified interest (action.apply station p2pmac interest db):=
  fun hfewer=>(justified_iff _ _).2 fun streamId htalker=>or_iff_not_imp_left.2 fun hmem=>
   hlistener streamId hmem (hfewer streamId htalker)
 cases action with
 | raise e r=>
  refine msrpEvent_justified hpruning h fun streamId hbefore hmem htalker=>?_
  rcases msrpEvent_appears htalker with htalker'|⟨a,rfl,he,hkey,-⟩
  · exact hlistener streamId hmem htalker'
  · exact (msrpEvent_stays he (hkey▸by simp)).2 hbefore
 | prune streamId=>exact hfewer fun _ htalker=>((pruneTalkers_present streamId _ db).1 htalker).1
 | reclaim=>
  obtain ⟨f,hf,hentries⟩:=reclaim_sweeps db
  exact hfewer fun _=>present_of_sweeps hf hentries

end Events

section Steps
variable {station:BitVec 48} {p2pmac:Nat} {db:MsrpDatabase}

lemma justified_of_interest {interest interest':Interest} {db:Database MsrpValue}
 (h:Justified interest db)
 (hlost:∀streamId,present (.talker streamId) db →
  streamId∈interest.interestingStreamIds →
  streamId∈interest'.interestingStreamIds ∨ present (.listener streamId) db) : Justified interest' db := by
 rw[justified_iff] at h ⊢
 intro streamId htalker
 exact (h streamId htalker).elim (hlost streamId htalker) .inr

variable (command:Command)

lemma runCommand_justified (hpruning:db.interest.enablePruning=true)
 (hunique:Unique msrpKey (entries db.mrp)) (h:Justified db.interest db.mrp)
 (hall:command=.removeAllInteresting → ∀a∈db.mrp.attribList,
  a.value.type.isTalker=true → hasListener a.value.streamId db.mrp.attribList=true) :
 Justified (runCommand station p2pmac command db).interest
  (runCommand station p2pmac command db).mrp := by
 cases command with
 | joinOrNewStream new failed talker=>
  cases new<;>exact action_justified hpruning (.raise _ _) hunique (fun _ _ _ _ _ _ _=>rfl) h
 | leaveStream streamId=>exact msrpEvent_justified_other hpruning rfl (by rintro ⟨⟩) h
 | reportListenerStatus streamId substate=>
  exact action_justified hpruning (.raise .NEW _) hunique (fun _ _ _ _ _ _ _=>rfl) h
 | withdrawListenerStatus streamId=>
  have hkey:=withdrawnListener_key streamId db.mrp.attribList
  generalize hvalue:withdrawnListener streamId db.mrp.attribList=value at hkey
  -- only the talkers of this stream may have lost their listener
  have hleft:∀other,other≠streamId →
   present (.talker other) (msrpEvent station p2pmac db.interest .LV
    (some (alloc value 0)) db.mrp).db →
   other∈db.interest.interestingStreamIds ∨
    present (.listener other) (msrpEvent station p2pmac db.interest .LV
     (some (alloc value 0)) db.mrp).db:=by
   intro other hother htalker
   have hne:∀k,k ≠ .listener streamId → k≠msrpKey (alloc value 0).value:=fun k hk=>
    hkey▸hk
   rw[msrpEvent_stays rfl (hne _ (by simp))] at htalker
   rw[msrpEvent_stays rfl (hne _ (by simpa using hother))]
   exact (justified_iff _ _).1 h other htalker
  unfold runCommand
  dsimp only
  have hinterest:(commandEvent station p2pmac .LV value db).interest=db.interest:=rfl
  rw[hvalue,hinterest]
  split
  · rw[justified_iff]
    intro other htalker
    obtain ⟨hbefore,hne⟩:=(pruneTalkers_present streamId _ _).1 htalker
    refine (hleft other (fun heq=>hne (heq▸rfl)) hbefore).imp id fun hlistener=>?_
    exact (pruneTalkers_present streamId _ _).2 ⟨hlistener,by simp⟩
  · next hinteresting=>
     rw[justified_iff]
     intro other htalker
     by_cases hother:other=streamId
     · have hmem:streamId∈db.interest.interestingStreamIds:=by
        simpa[hpruning] using hinteresting
       exact .inl (hother▸hmem)
     · exact hleft other hother htalker
 | reportDomainStatus report srClassId srClassPriority srClassVid=>
  cases report<;>exact msrpEvent_justified_other hpruning rfl (by rintro ⟨⟩) h
 | addInteresting streamId=>
  unfold runCommand
  dsimp only
  split
  · exact justified_of_interest h fun _ _ hmem=>.inl (mem_cons_of_mem _ hmem)
  · exact h
 | removeInteresting streamId=>
  unfold runCommand
  dsimp only
  split
  · have hothers:∀other,other≠streamId → other∈db.interest.interestingStreamIds →
     other∈db.interest.interestingStreamIds.erase streamId:=fun other hother hmem=>
     (mem_erase_of_ne hother).2 hmem
    split
    · next hlistener=>
       refine justified_of_interest h fun other _ hmem=>?_
       by_cases hother:other=streamId
       · exact .inr (hother▸(hasListener_iff streamId db.mrp).1 hlistener)
       · exact .inl (hothers other hother hmem)
    · rw[justified_iff]
      intro other htalker
      obtain ⟨hbefore,hne⟩:=(pruneTalkers_present streamId _ _).1 htalker
      refine ((justified_iff _ _).1 h other hbefore).imp
       (hothers other fun heq=>hne (heq▸rfl)) fun hlistener=>?_
      exact (pruneTalkers_present streamId _ _).2 ⟨hlistener,by simp⟩
  · exact h
 | removeAllInteresting=>
  intro a ha htype
  exact .inr (hall rfl a ha htype)
 | other=>exact h

/-- What a database with pruning enabled needs to know of itself. -/
structure Pruned (db:MsrpDatabase) : Prop where
 pruning:db.interest.enablePruning=true
 unique:Unique msrpKey (entries db.mrp)
 justified:Justified db.interest db.mrp

lemma runCommand_enablePruning (db:MsrpDatabase) :
 (runCommand station p2pmac command db).interest.enablePruning=db.interest.enablePruning := by
 cases command<;>unfold runCommand<;>dsimp only <;>
  first | rfl | (split<;>first | rfl | (split<;>rfl))

lemma msrpStep_pruned (i:MsrpInput) (db:MsrpDatabase) (hguards:Guards station p2pmac i db)
 (h:Pruned db) : Pruned (msrpStep station p2pmac i db) := by
 have hunique:=@msrpStep_unique station p2pmac i db h.unique
 have hactions:EachAction station p2pmac KeepsListeners i db →
  Justified db.interest (msrpStep station p2pmac i db).mrp:=fun hkeeps=>by
  rw[msrpStep_actions]
  exact (throughout_of_along (P:=fun mrp=>Unique msrpKey (entries mrp) ∧ Justified db.interest mrp)
   (fun action mrp hkeep hmrp=>⟨action_unique action mrp hmrp.1,
    action_justified h.pruning action hmrp.1 hkeep hmrp.2⟩) ⟨h.unique,h.justified⟩ hkeeps).last.2
 cases i with
 | command client command=>
  have hkept:(msrpRecvCmd station p2pmac client command db).interest.enablePruning=true ∧
   Justified (msrpRecvCmd station p2pmac client command db).interest
    (msrpRecvCmd station p2pmac client command db).mrp:=by
   unfold msrpRecvCmd
   dsimp only
   split
   · exact ⟨h.pruning,h.justified⟩
   · next hserved=>
     refine ⟨(runCommand_enablePruning command _).trans h.pruning,
      runCommand_justified command h.pruning h.unique h.justified fun hall=>?_⟩
     subst hall
     exact hguards (by simpa[refused] using hserved)
  exact ⟨hkept.1,hunique,hkept.2⟩
 | bye client=>exact ⟨h.pruning,hunique,h.justified⟩
 | frame bytes=>exact ⟨h.pruning,hunique,hactions hguards⟩
 | timer t=>exact ⟨h.pruning,hunique,hactions hguards⟩
 | reclaim=>exact ⟨h.pruning,hunique,hactions hguards⟩

end Steps

/-- With pruning enabled, if no step takes away what a talker depends on. -/
theorem justified_throughout (station:BitVec 48) (p2pmac maxInterestingStreamIds:Nat)
 (inputs:List MsrpInput)
 (h:Along (msrpStep station p2pmac) (Guards station p2pmac) inputs
  (msrpInit maxInterestingStreamIds true)) :
 Throughout (msrpStep station p2pmac) (fun db=>Justified db.interest db.mrp) inputs
  (msrpInit maxInterestingStreamIds true) := by
 have hinit:Pruned (msrpInit maxInterestingStreamIds true):=by
  refine ⟨rfl,List.Pairwise.nil,fun a ha=>?_⟩
  cases ha
 exact (throughout_of_along msrpStep_pruned hinit h).imp fun _=>Pruned.justified

def oneTalker : List MsrpInput := [.command ⟨0,7500⟩ (.addInteresting 1),
  .command ⟨0,7500⟩ (.joinOrNewStream true false {emptyTalkListen with streamId:=1})]

def listenerFrame : List UInt8 :=
 MrpEncode.frameHeader msrpAddr msrpEtype 2++[3,8,0,14,0,1,0,0,0,0,0,0,0,1,36,128,0,0,0,0]

theorem received_listener_justified :
 let inputs:=oneTalker++[.frame listenerFrame,.timer .leave,.command ⟨0,7500⟩ .removeAllInteresting,
  .timer .leaveAll,.frame listenerFrame,.timer .leave,.reclaim]
 let db:=run (msrpStep 0 0) inputs (msrpInit 0 true)
 Throughout (msrpStep 0 0) (fun db=>Justified db.interest db.mrp) inputs (msrpInit 0 true) ∧
  db.mrp.attribList.map (fun a=>a.value.type)=[.talkerAdv,.listener] ∧
  db.interest.interestingStreamIds=[] := by
 refine ⟨justified_throughout 0 0 0 _ ?_,by decide +kernel,by decide +kernel⟩
 decide +kernel

theorem talker_stays :
 let db:=run (msrpStep 0 0) (oneTalker++[.command ⟨0,7500⟩ .removeAllInteresting])
  (msrpInit 0 true)
 db.mrp.attribList.map (fun a=>(a.value.type,a.value.streamId))=[(.talkerAdv,1)] ∧
  db.interest.interestingStreamIds=[] ∧ hasListener 1 db.mrp.attribList=false := by
 decide

end MsrpPruning

end OpenAvnu
