import OpenAvnu.MrpTable

/-!
# Notifications of lost registrations

A merge overwrites the registrar state to make the next event report; In and Mt do not.
-/

namespace OpenAvnu.MsrpNotices

open List

open Mrp MrpEvents MrpLaws MrpSteps MrpTable MrpRuns MrpKeys MsrpActions Runs Msrp MsrpCommands

/-- Clients are told about every attribute that loses its registration, also if it is reclaimed. -/
def Announces (db:Database MsrpValue) (o:Outcome MsrpValue) : Prop :=
 ∀a∈db.attribList,a.registrar.mrpState ≠ .MT →
  (∀b∈o.db.attribList,msrpKey b.value=msrpKey a.value → b.registrar.mrpState=.MT) →
  ∃n∈o.notices,msrpKey n.1.value=msrpKey a.value
def observes : ApplicantState → Bool
 | .VO | .AO | .QO=>true
 | _=>false

/-- A received In or Mt changes a registered attribute, and the attribute is not reclaimed. -/
def Silences (p2pmac:Nat) (interest:Interest) (e:Event) (r:Option (Attribute MsrpValue))
 (db:Database MsrpValue) : Prop :=
 (e=.RIN ∨ e=.RMT) ∧ ∃a,r=some a ∧ interested interest a.value db.attribList=true ∧
  ∃x∈db.attribList,sameMsrpAttribute a.value x.value=true ∧ x.registrar.mrpState ≠ .MT ∧
   forces db.attribList a.value x.value=true ∧
   observes (applicantFsm p2pmac e false x.applicant).mrpState=false

variable {db:Database MsrpValue} {o:Outcome MsrpValue} (p2pmac:Nat) {e:Event}

lemma announces_of_kept (h:∀x∈entries db,x.registrar ≠ .MT →
  ∃y∈entries o.db,y.value=x.value ∧ y.registrar ≠ .MT) : Announces db o := by
 intro a ha hregistered hlost
 obtain ⟨y,hy,hvalue,hkept⟩:=h (entry a) (mem_map_of_mem ha) hregistered
 obtain ⟨b,hb,rfl⟩:=mem_map.1 hy
 exact absurd (hlost b hb (congrArg msrpKey hvalue)) hkept

lemma announces_of_map {f:Entry MsrpValue → Entry MsrpValue}
 (hentries:entries o.db=(entries db).map f) (hvalue:∀x,(f x).value=x.value)
 (hregistrar:∀x,x.registrar ≠ .MT → (f x).registrar ≠ .MT) : Announces db o :=
 announces_of_kept fun x hx hregistered=>
  ⟨f x,hentries▸mem_map_of_mem hx,hvalue x,hregistrar x hregistered⟩

lemma age_registrar_ne (he:e=.TXLA ∨ e=.RLA) (p2pmac:Nat) (scope:MsrpValue → Bool)
 (x:Entry MsrpValue) (h:x.registrar ≠ .MT) : (x.age p2pmac e scope).registrar ≠ .MT := by
 rcases x with ⟨value,applicant,registrar⟩
 unfold Entry.age
 split
 · cases registrar with
   | MT=>exact absurd rfl h
   | IN | LV=>
    rcases he with rfl|rfl <;>
     simp[Entry.register,registrarStep,registrarLeave]
 · exact h

lemma mem_notices_of_notify {a:Attribute MsrpValue} (ha:a∈db.attribList)
 (hnotify:a.registrar.notify ≠ .NONE) (sent:List (List UInt8))
 (notices:List (Attribute MsrpValue×Notify)) :
 ∃n∈(notifyAll db sent notices).notices,msrpKey n.1.value=msrpKey a.value := by
 refine ⟨(a,a.registrar.notify),mem_append_right _ ?_,rfl⟩
 exact mem_map.2 ⟨a,mem_filter.2 ⟨ha,by simpa using hnotify⟩,rfl⟩

lemma lvTimer_announces (station:BitVec 48) (db:Database MsrpValue) :
 Announces db (lvTimerEvent (msrpApplication station) db) := by
 intro a ha hregistered hlost
 have hmem:registrarPass .LVTIMER a∈db.attribList.map (registrarPass .LVTIMER):=
  mem_map_of_mem ha
 cases hreclaim:reclaimable (registrarPass .LVTIMER a) with
 | true=>
  refine ⟨(registrarPass .LVTIMER a,.LV),mem_append_left _ ?_,rfl⟩
  exact mem_map.2 ⟨_,mem_filter.2 ⟨hmem,hreclaim⟩,rfl⟩
 | false=>
  have hstays:registrarPass .LVTIMER a ∈
   (reclaimList (db.attribList.map (registrarPass .LVTIMER))).1:=
   mem_filter.2 ⟨hmem,by simp[hreclaim]⟩
  have hgone:=hlost (quiet (registrarPass .LVTIMER a)) (mem_map_of_mem hstays) rfl
  refine mem_notices_of_notify (a:=registrarPass .LVTIMER a) hstays ?_ _ _
  revert hregistered hgone
  unfold quiet registrarPass registrarFsm
  cases a.registrar.mrpState<;>simp[registrarStep]

lemma event_announces {station:BitVec 48} {p2pmac:Nat} {r:Option (Attribute MsrpValue)}
 (hnot:∀a,r=some a → isAttributeEvent e=false) (db:Database MsrpValue) :
 Announces db (event (msrpApplication station) p2pmac e r db) := by
 have hsends:=msrp_sendsOnly station
 have hsame:∀{o:Outcome MsrpValue},entries o.db=entries db → Announces db o:=fun heq=>
  announces_of_kept fun x hx hregistered=>⟨x,heq▸hx,rfl,hregistered⟩
 have hhandled:=event_handled (msrpApplication station) p2pmac e r db
 generalize event (msrpApplication station) p2pmac e r db=o at hhandled ⊢
 cases hhandled with
 | lvaTimer=>
  refine announces_of_map (lvaTimerEvent_swept hsends p2pmac db).entries (fun x=>?_)
   (age_registrar_ne (.inl rfl) p2pmac _)
  simp[Entry.age]
 | leaveAll=>
  cases hscope:(msrpApplication station).leaveAllScope (r.map (·.value)) with
  | none=>exact hsame (leaveAllEvent_refused p2pmac hscope db).entries
  | some scope=>
   refine announces_of_map (leaveAllEvent_swept p2pmac hscope db).entries (fun x=>?_)
    (age_registrar_ne (.inr rfl) p2pmac scope)
   unfold Entry.age
   split<;>simp
 | tx=>
  refine announces_of_map (txEvent_swept hsends p2pmac db).entries (by simp) fun x hx=>?_
  rwa[Entry.advance_registrar]
 | lvTimer=>exact lvTimer_announces station db
 | periodic=>exact hsame (periodicEvent_swept p2pmac db).entries
 | concerns a he=>exact absurd (hnot a rfl) (by simp[he])
 | missing=>exact hsame rfl
 | ignored=>exact hsame (entries_notifyAll db)

lemma attributePass_silent_iff (he:isAttributeEvent e=true) (a:Attribute MsrpValue) :
 (attributePass p2pmac e a).registrar.mrpState=.MT ∧
  (attributePass p2pmac e a).registrar.notify=.NONE ↔
  (e=.RIN ∨ e=.RMT) ∧ a.registrar.mrpState=.MT := by
 rcases a with ⟨value,applicant,⟨state,notify,macaddr⟩⟩
 cases e with
 | NEW | JOIN | LV | RNEW | RJOININ | RJOINMT | RIN | RMT | RLV=>
  cases state <;>
   simp[attributePass,registrarPass,applicantPass,remap,registrarFsm,registrarStep,registrarLeave]
 | BEGIN | TX | TXLA | TXLAF | FLUSH | RLA | REDECLARE | PERIODIC | PERIODICENABLE |
  PERIODICDISABLE | LVTIMER | LVATIMER=>cases he

lemma attributePass_applicant (e:Event) (a:Attribute MsrpValue) : (attributePass p2pmac e a).applicant=
  applicantFsm p2pmac e (registrarIn a.registrar) a.applicant := by
 unfold attributePass
 split<;>rfl

lemma attributePass_value (e:Event) (a:Attribute MsrpValue) : (attributePass p2pmac e a).value=a.value := by
 unfold attributePass
 split<;>rfl
lemma reclaimable_iff (a:Attribute MsrpValue) :
 reclaimable a=true↔a.registrar.mrpState=.MT ∧ observes a.applicant.mrpState=true := by
 unfold reclaimable
 cases a.applicant.mrpState<;>simp[observes]

section Touched
variable {station:BitVec 48} {p2pmac:Nat} {e:Event} {r placed:Attribute MsrpValue}
 {db:Database MsrpValue} {o:Outcome MsrpValue} {pre post:List (Attribute MsrpValue)}
 {found left:Option (Attribute MsrpValue)} {a:Attribute MsrpValue}

section
variable (h:Touched (msrpApplication station) p2pmac e r db o pre post found placed left)
include h

lemma touched_mem
 (ha:a∈db.attribList) : a∈pre ∨ a∈post ∨ found=some a := by
 rw[h.split] at ha
 simp only[mem_append,Option.mem_toList] at ha
 tauto

lemma touched_kept
 (ha:a∈pre ∨ a∈post) (hregistered:a.registrar.mrpState ≠ .MT) :
 ∃b∈o.db.attribList,msrpKey b.value=msrpKey a.value ∧ b.registrar.mrpState ≠ .MT := by
 refine ⟨quiet a,?_,rfl,hregistered⟩
 rw[h.outcome]
 refine mem_map_of_mem ?_
 simp only[mem_append]
 tauto

end

section
variable (hunique:Unique msrpKey (entries db))
 (h:Touched (msrpApplication station) p2pmac e r db o pre post found placed left)
include hunique h

lemma touched_others
 (ha:a∈pre ∨ a∈post) : msrpKey a.value≠msrpKey r.value := by
 refine touched_other_keys (msrp_keyedBy station) h hunique (entry a) ?_
 rw[mem_append]
 exact ha.imp (fun h=>mem_map_of_mem h) fun h=>mem_map_of_mem h

lemma touched_reports_iff : ((∀b∈o.db.attribList,msrpKey b.value=msrpKey r.value → b.registrar.mrpState=.MT) →
  ∃n∈o.notices,msrpKey n.1.value=msrpKey r.value) ↔
  ¬(((attributePass p2pmac e placed).registrar.mrpState=.MT ∧
   (attributePass p2pmac e placed).registrar.notify=.NONE) ∧
   reclaimable (attributePass p2pmac e placed)=false) := by
 have hkey:msrpKey (attributePass p2pmac e placed).value=msrpKey r.value:=by
  rw[attributePass_value]
  exact touched_placed_key (msrp_lawful station) (msrp_keyedBy station) h
 have hleft:=h.left_eq
 rw[h.outcome]
 generalize attributePass p2pmac e placed=p at hkey hleft ⊢
 cases hreclaim:reclaimable p with
 | true=>
  obtain rfl:left=none:=by
   rw[hleft,hreclaim]
   rfl
  exact iff_of_true (fun _=>⟨(p,.LV),mem_append_left _ (by simp),hkey⟩) (by simp)
 | false=>
  rw[hreclaim,if_neg (by simp)] at hleft
  subst hleft
  have hmem:p∈pre++(some p).toList++post:=by simp
  have honly:∀b∈pre++(some p).toList++post,msrpKey b.value=msrpKey r.value → b=p:=by
   intro b hb hbkey
   by_contra hne
   refine touched_others hunique h ?_ hbkey
   simp only[Option.toList_some,mem_append,mem_singleton] at hb
   tauto
  by_cases hsilent:p.registrar.mrpState=.MT ∧ p.registrar.notify=.NONE
  · refine iff_of_false (fun hreports=>?_) (by simp[hsilent])
    obtain ⟨n,hn,hnkey⟩:=hreports fun b hb hbkey=>by
     obtain ⟨b',hb',rfl⟩:=mem_map.1 hb
     rw[honly b' hb' hbkey]
     exact hsilent.1
    simp only[notifyAll,if_neg (Option.some_ne_none p),nil_append,mem_map,mem_filter] at hn
    obtain ⟨b,⟨hb,hnotify⟩,rfl⟩:=hn
    rw[honly b hb hnkey,hsilent.2] at hnotify
    simp at hnotify
  · refine iff_of_true (fun hlost=>?_) (by simpa using hsilent)
    have hmt:=hlost (quiet p) (mem_map_of_mem hmem) hkey
    have hnotify:p.registrar.notify ≠ .NONE:=fun hnone=>hsilent ⟨hmt,hnone⟩
    rw[←hkey]
    exact mem_notices_of_notify hmem hnotify _ _

end

lemma merged_silent_iff (he:isAttributeEvent e=true) {l:List (Attribute MsrpValue)}
 (hregistered:a.registrar.mrpState ≠ .MT) :
 (((attributePass p2pmac e (msrpMerge l r a)).registrar.mrpState=.MT ∧
  (attributePass p2pmac e (msrpMerge l r a)).registrar.notify=.NONE) ∧
  reclaimable (attributePass p2pmac e (msrpMerge l r a))=false) ↔
  (e=.RIN ∨ e=.RMT) ∧ forces l r.value a.value=true ∧
   observes (applicantFsm p2pmac e false a.applicant).mrpState=false := by
 have hmerged:=msrpMerge_merged l r a
 have hforced:(msrpMerge l r a).registrar.mrpState=.MT↔forces l r.value a.value=true:=by
  rw[hmerged.registrar]
  split<;>simp_all
 rw[attributePass_silent_iff p2pmac he,hforced,and_assoc]
 refine and_congr_right fun hevent=>and_congr_right fun hforces=>?_
 have hmt:=((attributePass_silent_iff p2pmac he _).2 ⟨hevent,hforced.2 hforces⟩).1
 have happlicant:(attributePass p2pmac e (msrpMerge l r a)).applicant=applicantFsm p2pmac e false a.applicant:=by
  rw[attributePass_applicant,hmerged.applicant,registrarIn,hforced.2 hforces]
  rfl
 rw[←Bool.not_eq_true,reclaimable_iff,happlicant]
 simp[hmt]

end Touched

variable {station:BitVec 48} {p2pmac:Nat} {interest:Interest}

lemma attributeEvent_announces_iff (he:isAttributeEvent e=true) (r:Attribute MsrpValue)
 (hunique:Unique msrpKey (entries db)) : Announces db (attributeEvent (msrpApplication station) p2pmac e r db) ↔
  ¬((e=.RIN ∨ e=.RMT) ∧
   ∃x∈db.attribList,sameMsrpAttribute r.value x.value=true ∧ x.registrar.mrpState ≠ .MT ∧
    forces db.attribList r.value x.value=true ∧
    observes (applicantFsm p2pmac e false x.applicant).mrpState=false) := by
 rcases attributeEvent_cases (msrp_lawful station) p2pmac e r db with ⟨-,hother,hdrop⟩ |
  ⟨pre,post,found,placed,left,h⟩
 · rw[hdrop]
   refine iff_of_true (announces_of_kept fun x hx hregistered=>⟨x,hx,rfl,hregistered⟩) ?_
   rintro ⟨-,x,hx,hsame,-⟩
   have hdiffers:sameMsrpAttribute r.value x.value=false:=hother x hx
   rw[hdiffers] at hsame
   cases hsame
 have hreports:=touched_reports_iff hunique h
 constructor
 · rintro hannounces ⟨hevent,x,hx,hsame,hregistered,hforces,hstays⟩
   have hkey:msrpKey x.value=msrpKey r.value:=
    of_decide_eq_true ((msrp_keyedBy station r.value x.value).symm.trans hsame)
   have hfound:found=some x:=by
    rcases touched_mem h hx with hpre|hpost|hfound
    · exact absurd hkey (touched_others hunique h (.inl hpre))
    · exact absurd hkey (touched_others hunique h (.inr hpost))
    · exact hfound
   have hreported:=hannounces x hx hregistered
   obtain rfl:placed=msrpMerge db.attribList r x:=(h.merged x hfound).2
   rw[hkey] at hreported
   exact hreports.1 hreported ((merged_silent_iff he hregistered).2 ⟨hevent,hforces,hstays⟩)
 · intro hloud a ha hregistered hlost
   rcases or_assoc.2 (touched_mem h ha) with hother|hfound
   · obtain ⟨b,hb,hbkey,hkept⟩:=touched_kept h hother hregistered
     exact absurd (hlost b hb hbkey) hkept
   · have hkey:=touched_found_key (msrp_keyedBy station) h a hfound
     obtain ⟨hsame,hplaced⟩:=h.merged a hfound
     rw[hkey] at hlost ⊢
     refine hreports.2 (fun hsilent=>hloud ?_) hlost
     rw[hplaced] at hsilent
     obtain ⟨hevent,hforces,hstays⟩:=(merged_silent_iff he hregistered).1 hsilent
     exact ⟨hevent,a,ha,hsame,hregistered,hforces,hstays⟩

lemma msrpEvent_announces_iff (e:Event) (r:Option (Attribute MsrpValue))
 (hunique:Unique msrpKey (entries db)) :
 Announces db (msrpEvent station p2pmac interest e r db)↔¬Silences p2pmac interest e r db := by
 have hattribute:(e=.RIN ∨ e=.RMT) → isAttributeEvent e=true:=by
  rintro (rfl|rfl)<;>rfl
 rcases msrpEvent_cases station p2pmac interest e r db with ⟨heq,hpassed⟩ |
  ⟨a,rfl,he,hboring,heq⟩
 · rw[heq]
   by_cases hconcerns:∃a,r=some a ∧ isAttributeEvent e=true
   · obtain ⟨a,rfl,he⟩:=hconcerns
     rw[event_concerns _ p2pmac he,attributeEvent_announces_iff he a hunique]
     simp[Silences,hpassed a rfl he]
   · refine iff_of_true (event_announces (fun a ha=>?_) db) ?_
     · exact Bool.eq_false_iff.2 fun he=>hconcerns ⟨a,ha,he⟩
     · rintro ⟨hevent,a,ha,-⟩
       exact hconcerns ⟨a,ha,hattribute hevent⟩
 · rw[heq]
   refine iff_of_true (announces_of_kept fun x hx hregistered=>?_) ?_
   · exact ⟨x,(entries_notifyAll db).symm▸hx,rfl,hregistered⟩
   · rintro ⟨-,_,⟨⟩,hinterested,-⟩
     rw[hboring] at hinterested
     cases hinterested

def before (station:BitVec 48) (p2pmac:Nat) (inputs:List MsrpInput) (i:MsrpInput) (n:Nat)
 (db:MsrpDatabase) : Database MsrpValue :=
 let db:=run (msrpStep station p2pmac) inputs db
 run (Action.apply station p2pmac db.interest) ((actions i db).take n) db.mrp

lemma action_unique (a:Action) (db:Database MsrpValue) (h:Unique msrpKey (entries db)) :
 Unique msrpKey (entries (a.apply station p2pmac interest db)) := by
 cases a with
 | raise e r=>exact msrpEvent_unique _ e r db h
 | prune streamId=>exact h.sublist (pruneTalkers_sublist streamId db)
 | reclaim=>exact reclaim_unique h
lemma before_unique (inputs:List MsrpInput) (i:MsrpInput) (n maxIds:Nat)
 (enablePruning:Bool) :
 Unique msrpKey (entries (before station p2pmac inputs i n (msrpInit maxIds enablePruning))) :=
 run_invariant action_unique _ (msrpRun_unique maxIds enablePruning inputs)

/-- Unless an In or Mt overwrites a registered attribute that is not reclaimed. -/
theorem registrations_announced_iff (station:BitVec 48) (p2pmac maxInterestingStreamIds:Nat)
 (enablePruning:Bool) (inputs:List MsrpInput) (i:MsrpInput) (n:Nat) (interest:Interest)
 (e:Event) (r:Option (Attribute MsrpValue)) :
 let db:=before station p2pmac inputs i n (msrpInit maxInterestingStreamIds enablePruning)
 Announces db (msrpEvent station p2pmac interest e r db)↔¬Silences p2pmac interest e r db :=
 msrpEvent_announces_iff e r (before_unique inputs i n maxInterestingStreamIds enablePruning)

theorem domain_lost_silently :
 let db:=before 0 0 [.command ⟨0,7500⟩ (.reportDomainStatus true 6 3 2)] .reclaim 0
  (msrpInit 0 false)
 let o:=msrpEvent 0 0 ⟨false,[]⟩ .RIN (some (alloc (domainValue 6 3 5) 0)) db
 db.attribList.map (fun a=>(a.value.domain.srClassId,a.registrar.mrpState))=[(6,.IN)] ∧
  o.db.attribList.map (fun a=>(a.value.domain.srClassId,a.registrar.mrpState))=[(6,.MT)] ∧
  o.notices=[] := by
 decide

end OpenAvnu.MsrpNotices
