import OpenAvnu.MrpRuns

/-!
# The join and leave timers

An applicant in VN or VP loses the join timer when the LeaveAll timer expires.
-/

namespace OpenAvnu

open Mrp MrpEvents MrpDecode MrpLaws MrpSteps Runs MrpRuns Mmrp Msrp MsrpCommands List

namespace MrpJoinTimer

variable {α:Type}

/-- Whoever still has something to send has a transmit opportunity coming. -/
def Joined (db:Database α) : Prop :=
 ∀a∈db.attribList,pending a.applicant.mrpState=true → db.joinTimerRunning=true

/-- The applicants that a LeaveAll of this station leaves with something to send. -/
def strands : ApplicantState → Bool
 | .VN | .VP=>true
 | _=>false

/-- No applicant is in a state the LeaveAll timer would leave without join timer. -/
def NoneStranded (db:Database α) : Prop := ∀a∈db.attribList,strands a.applicant.mrpState=false

lemma joined_entries (db:Database α) :
 Joined db↔∀x∈entries db,pending x.applicant=true → db.joinTimerRunning=true := by
 simp[Joined,entries,entry]
lemma noneStranded_entries (db:Database α) : NoneStranded db↔∀x∈entries db,strands x.applicant=false := by
 simp[NoneStranded,entries,entry]

variable {db:Database α}

lemma joined_of_running (h:db.joinTimerRunning=true) : Joined db :=
 fun _ _ _=>h

variable (p2pmac:Nat) (x:Entry α)

lemma age_txla_pending : pending (x.age p2pmac .TXLA fun _=>true).applicant=strands x.applicant := by
 rcases x with ⟨value,applicant,registrar⟩
 cases applicant<;>cases registrar<;>rfl
lemma advance_tx_moves (h:pending (x.advance p2pmac .TX).applicant=true) :
 (x.advance p2pmac .TX).applicant≠x.applicant := by
 rcases x with ⟨value,applicant,registrar⟩
 revert h
 cases applicant<;>cases registrar<;>simp[Entry.advance,applicantStep,applicantTx,pending]

lemma joined_of_swept {o:Outcome α} {sweep:List (Entry α) → List (Entry α)} {join lv:Bool}
 (h:Swept db o sweep join lv) (hjoin:db.joinTimerRunning=true → join=true)
 (hsweep:∀x∈sweep (entries db),∃y∈entries db,y.applicant=x.applicant)
 (hdb:Joined db) : Joined o.db := by
 rw[joined_entries] at hdb ⊢
 intro x hx hpending
 rw[h.join]
 rw[h.entries] at hx
 obtain ⟨y,hy,happlicant⟩:=hsweep x hx
 exact hjoin (hdb y hy (happlicant▸hpending))

variable {app:Application α}

lemma lvaTimer_joined_iff (h:SendsOnly app) (p2pmac:Nat) (db:Database α) :
 Joined (lvaTimerEvent app p2pmac db).db↔NoneStranded db := by
 have hswept:=lvaTimerEvent_swept h p2pmac db
 rw[joined_entries,noneStranded_entries,hswept.entries,hswept.join]
 simp only[mem_map,forall_exists_index,and_imp,forall_apply_eq_imp_iff₂,age_txla_pending,
  Bool.false_eq_true,imp_false,Bool.not_eq_true]

lemma tx_joined (h:SendsOnly app) (p2pmac:Nat) (db:Database α) : Joined (txEvent app p2pmac db).db := by
 have hswept:=txEvent_swept h p2pmac db
 rw[joined_entries,hswept.entries,hswept.join]
 intro x hx hpending
 obtain ⟨y,hy,rfl⟩:=mem_map.1 hx
 refine any_eq_true.2 ⟨y,hy,?_⟩
 simp[advance_tx_moves p2pmac y hpending,hpending]

lemma lvTimer_joined (hdb:Joined db) : Joined (lvTimerEvent app db).db := by
 refine joined_of_swept (lvTimerEvent_swept db) id (fun x hx=>?_) hdb
 have hmem:x∈(entries db).map (Entry.register .LVTIMER):=by
  split at hx
  · exact mem_of_mem_filter hx
  · exact hx
 obtain ⟨y,hy,rfl⟩:=mem_map.1 hmem
 exact ⟨y,hy,(Entry.register_applicant _ y).symm⟩

lemma periodic_joined {p2pmac:Nat} (hdb:Joined db) : Joined (periodicEvent app p2pmac db).db := by
 have hswept:=@periodicEvent_swept α app p2pmac db
 cases hperiodic:app.periodic with
 | false=>
  rw[hperiodic] at hswept
  exact joined_of_swept hswept (by simp) (fun x hx=>⟨x,hx,rfl⟩) hdb
 | true=>
  -- The timer is started whenever there is an attribute at all.
  intro a ha _
  rw[hswept.join,hperiodic]
  have hne:entries (periodicEvent app p2pmac db).db≠[]:=
   ne_nil_of_mem (mem_map_of_mem ha)
  rw[hswept.entries,hperiodic] at hne
  cases hlist:db.attribList with
  | nil=>simp[entries,hlist] at hne
  | cons=>simp

lemma reclaim_joined (hdb:Joined db) : Joined (reclaim db).db :=
 joined_of_swept (reclaim_swept db) id (fun x hx=>⟨x,mem_of_mem_filter hx,rfl⟩) hdb
lemma notifyAll_joined (hdb:Joined db) (sent:List (List UInt8))
 (notices:List (Attribute α×Notify)) : Joined (notifyAll db sent notices).db := by
 intro a ha hpending
 obtain ⟨b,hb,rfl⟩:=mem_map.1 ha
 exact hdb b hb hpending

lemma event_joined (h:Lawful app) (p2pmac:Nat) {e:Event} (he:e ≠ .LVATIMER)
 (r:Option (Attribute α)) (hdb:Joined db) : Joined (event app p2pmac e r db).db := by
 have hhandled:=event_handled app p2pmac e r db
 generalize event app p2pmac e r db=o at hhandled ⊢
 cases hhandled with
 | lvaTimer=>exact absurd rfl he
 | leaveAll=>
  apply joined_of_running
  cases hscope:app.leaveAllScope (r.map (·.value)) with
  | none=>exact (leaveAllEvent_refused p2pmac hscope db).join
  | some scope=>exact (leaveAllEvent_swept p2pmac hscope db).join
 | tx=>exact tx_joined h.sends p2pmac db
 | lvTimer=>exact lvTimer_joined hdb
 | periodic=>exact periodic_joined hdb
 | concerns r _=>
  apply joined_of_running
  rcases attributeEvent_cases h p2pmac e r db with ⟨-,-,hdrop⟩|⟨_,_,_,_,_,htouched⟩
  · rw[hdrop]
    rfl
  · rw[htouched.outcome]
    rfl
 | missing=>
  split
  · exact joined_of_running rfl
  · exact hdb
 | ignored=>exact notifyAll_joined hdb [] []

variable (station:BitVec 48)

lemma msrpEvent_joined (p2pmac:Nat) (interest:Interest) {e:Event} (he:e ≠ .LVATIMER)
 (r:Option (Attribute MsrpValue)) {db:Database MsrpValue} (hdb:Joined db) :
 Joined (msrpEvent station p2pmac interest e r db).db := by
 rcases msrpEvent_cases station p2pmac interest e r db with ⟨heq,-⟩|⟨-,-,-,-,heq⟩
 · rw[heq]
   exact event_joined (msrp_lawful station) p2pmac he r hdb
 · rw[heq]
   exact notifyAll_joined hdb [] []

lemma pruneTalkers_joined (streamId:BitVec 64) {db:Database MsrpValue} (hdb:Joined db) :
 Joined (pruneTalkers streamId db) :=
 fun a ha=>hdb a (mem_of_mem_filter ha)
lemma request_event_ne (q:Request) : q.event ≠ .LVATIMER := by cases q<;>decide

lemma participantStep_joined_iff {κ:Type} (h:Lawful app) (p2pmac:Nat) (probe:κ → Option α)
 (parse:List UInt8 → List (Call κ α)×Except Stop Unit) (i:Input α) (hdb:Joined db) :
 Joined (participantStep (event app p2pmac) probe parse i db) ↔
  (i=.timer .leaveAll → NoneStranded db) := by
 cases i with
 | request q value=>
  exact iff_of_true (event_joined h p2pmac (request_event_ne q) _ hdb) (by simp)
 | frame bytes=>
  refine iff_of_true (raiseCalls_kept (fun e r db hr hdb=>?_) _ _ _ hdb) (by simp)
  exact event_joined h p2pmac hr.isNetwork.1 r hdb
 | timer t=>
  cases t with
  | leaveAll=>
   rw[forall_prop_of_true rfl]
   exact lvaTimer_joined_iff h.sends p2pmac db
  | join | leave | periodic=>
   exact iff_of_true (event_joined h p2pmac (by decide) none hdb) (by simp)
 | reclaim=>exact iff_of_true (reclaim_joined hdb) (by simp)

lemma msrpStep_joined_iff (p2pmac:Nat) (i:MsrpInput) {db:MsrpDatabase}
 (hdb:Joined db.mrp) :
 Joined (msrpStep station p2pmac i db).mrp↔(i=.timer .leaveAll → NoneStranded db.mrp) := by
 cases i with
 | command client command=>
  refine iff_of_true (msrpRecvCmd_kept (fun interest q value db hdb=>?_)
   (fun streamId db hdb=>pruneTalkers_joined streamId hdb) client command hdb) (by simp)
  exact msrpEvent_joined station p2pmac interest (request_event_ne q) _ hdb
 | bye client=>exact iff_of_true hdb (by simp)
 | frame bytes=>
  refine iff_of_true (raiseCalls_kept (fun e r db hr hdb=>?_) _ _ _ hdb) (by simp)
  exact msrpEvent_joined station p2pmac _ hr.isNetwork.1 r hdb
 | timer t=>
  cases t with
  | leaveAll=>
   rw[forall_prop_of_true rfl]
   exact lvaTimer_joined_iff (msrp_sendsOnly station) p2pmac db.mrp
  | join | leave | periodic=>
   exact iff_of_true (msrpEvent_joined station p2pmac _ (by decide) none hdb) (by simp)
 | reclaim=>exact iff_of_true (reclaim_joined hdb) (by simp)

lemma joined_initial : Joined (initialDatabase:Database α) := by
 intro a ha
 cases ha

/-- Exactly if the LeaveAll timer never expires while an applicant is in VN or VP. -/
theorem joined_throughout_iff (station:BitVec 48) (p2pmac:Nat) : (∀inputs:List (Input (BitVec 16)),
  Throughout (mvrpStep station p2pmac) Joined inputs initialDatabase ↔
   Along (mvrpStep station p2pmac) (fun i db=>i=.timer .leaveAll → NoneStranded db) inputs
    initialDatabase) ∧
 (∀(s1 s2:Nat) (inputs:List (Input MmrpValue)),
  Throughout (mmrpStep station [s1,s2] p2pmac) Joined inputs initialDatabase ↔
   Along (mmrpStep station [s1,s2] p2pmac)
    (fun i db=>i=.timer .leaveAll → NoneStranded db) inputs initialDatabase) ∧
 (∀(maxInterestingStreamIds:Nat) (enablePruning:Bool) (inputs:List MsrpInput),
  Throughout (msrpStep station p2pmac) (fun db=>Joined db.mrp) inputs
   (msrpInit maxInterestingStreamIds enablePruning) ↔
   Along (msrpStep station p2pmac) (fun i db=>i=.timer .leaveAll → NoneStranded db.mrp)
    inputs (msrpInit maxInterestingStreamIds enablePruning)) := by
 refine ⟨fun inputs=>?_,fun s1 s2 inputs=>?_,fun n enablePruning inputs=>?_⟩
 · rw[mvrpStep_eq]
   exact throughout_iff_along (fun i _=>participantStep_joined_iff (mvrp_lawful station) p2pmac _ _ i)
    joined_initial
 · rw[mmrpStep_eq]
   exact throughout_iff_along
    (fun i _=>participantStep_joined_iff (mmrp_lawful station [s1,s2]) p2pmac _ _ i) joined_initial
 · exact throughout_iff_along (fun i _=>msrpStep_joined_iff station p2pmac i) joined_initial

/-- The LeaveAll timer expires before the first transmission: nothing sends the second NEW message.
-/
theorem listener_stranded :
 let db:=(run (msrpStep 0 0)
  [.command ⟨0,7500⟩ (.reportListenerStatus 1 2),.timer .leaveAll] (msrpInit 0 false)).mrp
 db.attribList.map (fun a=>(a.value.type,a.applicant.mrpState))=[(.listener,.AN)] ∧
  pending .AN=true ∧ db.joinTimerRunning=false := by
 decide

end MrpJoinTimer

/-! ## The leave timer -/

namespace MrpLeaveTimer

variable {α:Type}

def LeaveTimed (db:Database α) : Prop := ∀a∈db.attribList,a.registrar.mrpState=.LV → db.lvTimerRunning=true
lemma leaveTimed_entries (db:Database α) :
 LeaveTimed db↔∀x∈entries db,x.registrar=.LV → db.lvTimerRunning=true := by
 simp[LeaveTimed,entries,entry]

lemma settle_leaving (p2pmac:Nat) (e:Event) (a:Attribute α)
 (h:((entry a).settle p2pmac e).registrar=.LV) : a.registrar.mrpState=.LV ∨
  registrarStartsLeave (remap e a.registrar.mrpState) a.registrar=true := by
 revert h
 simp only[entry,Entry.settle,Entry.register,registrarStartsLeave]
 cases e<;>cases a.registrar.mrpState<;>simp[remap,registrarStep,registrarLeave]

variable {p2pmac:Nat}

lemma age_leaving {e:Event} (he:e=.TXLA ∨ e=.RLA) {scope:α → Bool} {x:Entry α}
 (h:(x.age p2pmac e scope).registrar=.LV) : x.registrar=.LV ∨ (scope x.value=true ∧ x.registrar=.IN) := by
 unfold Entry.age at h
 split at h
 · next hscope=>
    simp only[hscope]
    rcases he with rfl|rfl <;>
    · revert h
      simp only[Entry.register,Entry.advance_registrar]
      cases x.registrar<;>simp[registrarStep,registrarLeave]
 · exact .inl h

variable {db:Database α} {o:Outcome α}

lemma leaveTimed_of_swept {sweep:List (Entry α) → List (Entry α)} {join lv:Bool}
 (h:Swept db o sweep join lv)
 (hsweep:∀x∈sweep (entries db),x.registrar=.LV → lv=true ∨
  ∃y∈entries db,y.registrar=.LV ∧ (db.lvTimerRunning=true → lv=true))
 (hdb:LeaveTimed db) : LeaveTimed o.db := by
 rw[leaveTimed_entries] at hdb ⊢
 intro x hx hleaving
 rw[h.lv]
 rw[h.entries] at hx
 rcases hsweep x hx hleaving with hlv|⟨y,hy,hleaving,hlv⟩
 · exact hlv
 · exact hlv (hdb y hy hleaving)

lemma age_leaveTimed {e:Event} {join:Bool} (he:e=.TXLA ∨ e=.RLA) {scope:α → Bool}
 (h:Swept db o (List.map (Entry.age p2pmac e scope)) join
  (db.lvTimerRunning||(entries db).any fun x=>scope x.value&&x.registrar=.IN))
 (hdb:LeaveTimed db) : LeaveTimed o.db := by
 refine leaveTimed_of_swept h (fun x hx hleaving=>?_) hdb
 obtain ⟨y,hy,rfl⟩:=mem_map.1 hx
 rcases age_leaving he hleaving with hleaving|⟨hscope,hin⟩
 · exact .inr ⟨y,hy,hleaving,fun hlv=>by rw[hlv,Bool.true_or]⟩
 · left
   rw[Bool.or_eq_true,any_eq_true]
   exact .inr ⟨y,hy,by simp[hscope,hin]⟩

lemma advance_leaveTimed {e:Event} {join:Bool}
 (h:Swept db o (List.map (Entry.advance p2pmac e)) join db.lvTimerRunning)
 (hdb:LeaveTimed db) : LeaveTimed o.db := by
 refine leaveTimed_of_swept h (fun x hx hleaving=>?_) hdb
 obtain ⟨y,hy,rfl⟩:=mem_map.1 hx
 exact .inr ⟨y,hy,by simpa using hleaving,id⟩

lemma lvTimer_leaveTimed (app:Application α) (db:Database α) : LeaveTimed (lvTimerEvent app db).db := by
 have hswept:=@lvTimerEvent_swept α app db
 rw[leaveTimed_entries,hswept.entries]
 intro x hx hleaving
 have hmem:x∈(entries db).map (Entry.register .LVTIMER):=by
  split at hx
  · exact mem_of_mem_filter hx
  · exact hx
 obtain ⟨y,-,rfl⟩:=mem_map.1 hmem
 revert hleaving
 simp only[Entry.register]
 cases y.registrar<;>simp[registrarStep]

lemma reclaim_leaveTimed (hdb:LeaveTimed db) : LeaveTimed (reclaim db).db :=
 leaveTimed_of_swept (reclaim_swept db)
  (fun x hx hleaving=>.inr ⟨x,mem_of_mem_filter hx,hleaving,id⟩) hdb
lemma notifyAll_leaveTimed (hdb:LeaveTimed db) (sent:List (List UInt8))
 (notices:List (Attribute α×Notify)) : LeaveTimed (notifyAll db sent notices).db := by
 intro a ha hleaving
 obtain ⟨b,hb,rfl⟩:=mem_map.1 ha
 exact hdb b hb hleaving

variable {app:Application α}

lemma touched_leaveTimed {e:Event} {r placed:Attribute α} {pre post:List (Attribute α)}
 {found left:Option (Attribute α)} (h:Touched app p2pmac e r db o pre post found placed left)
 (hplaced:placed.registrar.mrpState=.LV → db.lvTimerRunning=true) (hdb:LeaveTimed db) : LeaveTimed o.db := by
 rw[leaveTimed_entries] at hdb ⊢
 have hlv:o.db.lvTimerRunning=(db.lvTimerRunning ||
  registrarStartsLeave (remap e placed.registrar.mrpState) placed.registrar):=by
  rw[h.outcome]
  rfl
 intro x hx hleaving
 rw[h.after,mem_append,mem_append] at hx
 rw[hlv,Bool.or_eq_true]
 have hold:x∈entries db → db.lvTimerRunning=true:=fun hmem=>hdb x hmem hleaving
 rw[h.before,mem_append,mem_append] at hold
 rcases hx with hx|hx|hx
 · exact .inl (hold (.inl hx))
 · rw[h.left_entry] at hx
   split at hx
   · cases hx
   · rw[mem_singleton.1 hx] at hleaving
     exact (settle_leaving p2pmac e placed hleaving).imp_left hplaced
 · exact .inl (hold (.inr (.inr hx)))

section
variable (h:Lawful app) (hmerge:∀l r (a:Attribute α),
 (app.merge l r a).registrar.mrpState=.LV → a.registrar.mrpState=.LV) (p2pmac:Nat)
include h hmerge

lemma event_leaveTimed (e:Event) {r:Option (Attribute α)} (hr:Fresh r) (hdb:LeaveTimed db) :
 LeaveTimed (event app p2pmac e r db).db := by
 have hhandled:=event_handled app p2pmac e r db
 generalize event app p2pmac e r db=o at hhandled ⊢
 cases hhandled with
 | lvaTimer=>
  exact @age_leaveTimed α p2pmac db _ .TXLA false (.inl rfl) (fun _=>true)
   (lvaTimerEvent_swept h.sends p2pmac db) hdb
 | leaveAll=>
  cases hscope:app.leaveAllScope (r.map (·.value)) with
  | none=>
   exact leaveTimed_of_swept (leaveAllEvent_refused p2pmac hscope db)
    (fun x hx hleaving=>.inr ⟨x,hx,hleaving,id⟩) hdb
  | some scope=>exact age_leaveTimed (.inr rfl) (leaveAllEvent_swept p2pmac hscope db) hdb
 | tx=>exact advance_leaveTimed (txEvent_swept h.sends p2pmac db) hdb
 | lvTimer=>exact lvTimer_leaveTimed app db
 | periodic=>
  have hswept:=@periodicEvent_swept α app p2pmac db
  cases hperiodic:app.periodic with
  | false=>
   rw[hperiodic] at hswept
   exact leaveTimed_of_swept hswept (fun x hx hleaving=>.inr ⟨x,hx,hleaving,id⟩) hdb
  | true=>
   rw[hperiodic] at hswept
   exact advance_leaveTimed hswept hdb
 | concerns r _=>
  rcases attributeEvent_cases h p2pmac e r db with ⟨-,-,hdrop⟩ |
   ⟨pre,post,found,placed,left,htouched⟩
  · rw[hdrop]
    exact hdb
  · refine touched_leaveTimed htouched (fun hleaving=>?_) hdb
    cases hfound:found with
    | none=>
     obtain ⟨value,macaddr,rfl⟩:=hr r rfl
     rw[(htouched.added hfound).1] at hleaving
     cases hleaving
    | some a=>
     rw[(htouched.merged a hfound).2] at hleaving
     refine hdb a ?_ (hmerge _ _ _ hleaving)
     rw[htouched.split,hfound]
     simp
 | missing=>
  split<;>exact hdb
 | ignored=>exact notifyAll_leaveTimed hdb [] []

lemma participantStep_leaveTimed {κ:Type} (probe:κ → Option α) (parse:List UInt8 → List (Call κ α)×Except Stop Unit)
 (i:Input α) (db:Database α) (hdb:LeaveTimed db) :
 LeaveTimed (participantStep (event app p2pmac) probe parse i db) := by
 cases i with
 | request q value=>exact event_leaveTimed h hmerge p2pmac _ (Fresh.alloc value 0) hdb
 | frame bytes=>
  exact raiseCalls_kept (fun e r db hr=>event_leaveTimed h hmerge p2pmac e hr.fresh) _ _ _ hdb
 | timer t=>exact event_leaveTimed h hmerge p2pmac _ Fresh.none hdb
 | reclaim=>exact reclaim_leaveTimed hdb

end

lemma msrpMerge_leaving (l:List (Attribute MsrpValue)) (r a:Attribute MsrpValue)
 (h:(msrpMerge l r a).registrar.mrpState=.LV) : a.registrar.mrpState=.LV := by
 rw[(msrpMerge_merged l r a).registrar] at h
 split at h
 · cases h
 · exact h

variable (station:BitVec 48)

lemma msrpEvent_leaveTimed (p2pmac:Nat) (interest:Interest) (e:Event)
 {r:Option (Attribute MsrpValue)} (hr:Fresh r) {db:Database MsrpValue} (hdb:LeaveTimed db) :
 LeaveTimed (msrpEvent station p2pmac interest e r db).db := by
 rcases msrpEvent_cases station p2pmac interest e r db with ⟨heq,-⟩|⟨-,-,-,-,heq⟩
 · rw[heq]
   exact event_leaveTimed (msrp_lawful station) msrpMerge_leaving p2pmac e hr hdb
 · rw[heq]
   exact notifyAll_leaveTimed hdb [] []

lemma msrpStep_leaveTimed (p2pmac:Nat) (i:MsrpInput) (db:MsrpDatabase)
 (hdb:LeaveTimed db.mrp) : LeaveTimed (msrpStep station p2pmac i db).mrp := by
 cases i with
 | command client command=>
  exact msrpRecvCmd_kept (fun interest q value db=>
   msrpEvent_leaveTimed station p2pmac interest q.event (Fresh.alloc value 0))
   (fun streamId db hdb a ha=>hdb a (mem_of_mem_filter ha)) client command hdb
 | bye client=>exact hdb
 | frame bytes=>
  exact raiseCalls_kept (fun e r db hr=>msrpEvent_leaveTimed station p2pmac _ e hr.fresh) _ _ _ hdb
 | timer t=>exact msrpEvent_leaveTimed station p2pmac _ t.event Fresh.none hdb
 | reclaim=>exact reclaim_leaveTimed hdb

lemma leaveTimed_initial : LeaveTimed (initialDatabase:Database α) := by
 intro a ha
 cases ha

theorem leaving_timed : (∀(station:BitVec 48) (p2pmac:Nat) (inputs:List (Input (BitVec 16))),
  LeaveTimed (run (mvrpStep station p2pmac) inputs initialDatabase)) ∧
 (∀(station:BitVec 48) (s1 s2 p2pmac:Nat) (inputs:List (Input MmrpValue)),
  LeaveTimed (run (mmrpStep station [s1,s2] p2pmac) inputs initialDatabase)) ∧
 (∀(station:BitVec 48) (p2pmac maxInterestingStreamIds:Nat) (enablePruning:Bool)
  (inputs:List MsrpInput),LeaveTimed (run (msrpStep station p2pmac) inputs
   (msrpInit maxInterestingStreamIds enablePruning)).mrp) := by
 refine ⟨fun station p2pmac inputs=>?_,fun station s1 s2 p2pmac inputs=>?_,
  fun station p2pmac n enablePruning inputs=>?_⟩
 · rw[mvrpStep_eq]
   exact run_invariant (participantStep_leaveTimed (mvrp_lawful station) (fun _ _ _ h=>h) p2pmac _ _)
    inputs leaveTimed_initial
 · rw[mmrpStep_eq]
   exact run_invariant (participantStep_leaveTimed (mmrp_lawful station [s1,s2])
    (fun _ _ _ h=>h) p2pmac _ _) inputs leaveTimed_initial
 · exact run_invariant (P:=fun db:MsrpDatabase=>LeaveTimed db.mrp) (msrpStep_leaveTimed station p2pmac) inputs
    leaveTimed_initial

end MrpLeaveTimer

end OpenAvnu
