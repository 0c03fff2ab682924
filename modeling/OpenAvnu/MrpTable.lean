import OpenAvnu.MrpRuns

/-!
# The database as a table

While no key occurs twice, an event changes one row and a sweep treats all alike.
-/

namespace OpenAvnu

open Mrp MrpEvents MrpDecode MrpLaws MrpSteps MrpRuns List

namespace MrpTable

variable {α κ:Type} [DecidableEq κ] {key:α → κ}

def row (key:α → κ) (k:κ) (l:List (Entry α)) : Option (Entry α) := l.find? fun x=>key x.value=k
def Unique (key:α → κ) (l:List (Entry α)) : Prop := l.Pairwise fun x y=>key x.value≠key y.value
def KeyedBy (app:Application α) (key:α → κ) : Prop := ∀v w,app.sameAttribute v w=decide (key w=key v)

section Rows
variable {k:κ} {l pre post:List (Entry α)} {x:Entry α}

omit [DecidableEq κ] in
lemma Unique.sublist {l':List (Entry α)} (hl:l'.Sublist l) (h:Unique key l) : Unique key l' :=
 List.Pairwise.sublist hl h
lemma row_eq_none : row key k l=none↔∀x∈l,key x.value≠k := by
 simp[row]
lemma row_append : row key k (pre++post)=(row key k pre).or (row key k post) := find?_append

lemma row_of_mem (h:Unique key l) (hx:x∈l) : row key (key x.value) l=some x := by
 induction l with
 | nil=>cases hx
 | cons y l ih=>
  obtain ⟨hy,hl⟩:=pairwise_cons.1 h
  rcases mem_cons.1 hx with rfl|hmem
  · simp[row]
  · rw[row,find?_cons_of_neg (by simpa using hy x hmem)]
    exact ih hl hmem

lemma mem_of_row (h:row key k l=some x) : x∈l ∧ key x.value=k :=
 ⟨mem_of_find?_eq_some h,by simpa using find?_some h⟩
lemma row_eq_some (h:Unique key l) : row key k l=some x↔x∈l ∧ key x.value=k := by
 refine ⟨mem_of_row,?_⟩
 rintro ⟨hx,rfl⟩
 exact row_of_mem h hx

lemma row_filter (h:Unique key l) (p:Entry α → Bool) : row key k (l.filter p)=(row key k l).filter p := by
 have hfiltered:Unique key (l.filter p):=h.sublist filter_sublist
 ext x
 rw[row_eq_some hfiltered,Option.filter_eq_some_iff,row_eq_some h,mem_filter]
 tauto

end Rows

section Touched
variable {app:Application α} {p2pmac:Nat} {e:Event} {r placed:Attribute α}
 {db:Database α} {o:Outcome α} {pre post:List (Attribute α)}
 {found left:Option (Attribute α)}

lemma touched_found_key (hkey:KeyedBy app key)
 (h:Touched app p2pmac e r db o pre post found placed left) :
 ∀a,found=some a → key a.value=key r.value := fun a ha=>by
 have:=(h.merged a ha).1
 rwa[hkey,decide_eq_true_eq] at this

section
variable (hlawful:Lawful app) (hkey:KeyedBy app key)
 (h:Touched app p2pmac e r db o pre post found placed left)
include hlawful hkey h

lemma touched_placed_key : key placed.value=key r.value := by
 cases hfound:found with
 | none=>rw[(h.added hfound).1]
 | some a=>
  obtain ⟨hsame,hplaced⟩:=h.merged a hfound
  have:=hlawful.same_merge db.attribList r a hsame
  rwa[←hplaced,hkey,decide_eq_true_eq] at this

lemma touched_left_key : ∀x∈left.toList.map entry,key x.value=key r.value := by
 intro x hx
 rw[h.left_entry] at hx
 split at hx
 · cases hx
 · rw[mem_singleton.1 hx,Entry.settle_value]
   exact touched_placed_key hlawful hkey h

end

lemma touched_other_keys (hkey:KeyedBy app key)
 (h:Touched app p2pmac e r db o pre post found placed left) (hunique:Unique key (entries db)) :
 ∀x∈pre.map entry++post.map entry,key x.value≠key r.value := by
 intro x hx
 rw[mem_append] at hx
 cases hfound:found with
 | none=>
  have hmem:x∈entries db:=by
   rw[h.before,hfound]
   simpa using hx
  obtain ⟨a,ha,rfl⟩:=mem_map.1 hmem
  have:=(h.added hfound).2.1 a ha
  rwa[hkey,decide_eq_false_iff_not] at this
 | some a=>
  rw[h.before,hfound] at hunique
  have ha:=touched_found_key hkey h a hfound
  rw[←ha]
  rcases hx with hx|hx
  · exact (pairwise_append.1 hunique).2.2 x hx (entry a) (by simp)
  · have hpost:=(pairwise_append.1 hunique).2.1
    exact ((pairwise_cons.1 hpost).1 x hx).symm

variable (hlawful:Lawful app) (hkey:KeyedBy app key)
 (h:Touched app p2pmac e r db o pre post found placed left)
include hlawful hkey h

lemma touched_unique (hunique:Unique key (entries db)) : Unique key (entries o.db) := by
 have hother:=touched_other_keys hkey h hunique
 have hrest:Unique key (pre.map entry++post.map entry):=by
  refine hunique.sublist ?_
  rw[h.before]
  exact (Sublist.refl _).append (sublist_append_right _ _)
 obtain ⟨hpre,hpost,hcross⟩:=pairwise_append.1 hrest
 have hleft:=touched_left_key hlawful hkey h
 rw[h.after]
 refine pairwise_append.2 ⟨hpre,pairwise_append.2 ⟨?_,hpost,?_⟩,?_⟩
 · cases left<;>simp
 · intro x hx y hy
   rw[hleft x hx]
   exact (hother y (mem_append_right _ hy)).symm
 · intro x hx y hy
   rcases mem_append.1 hy with hy|hy
   · rw[hleft y hy]
     exact hother x (mem_append_left _ hx)
   · exact hcross x hx y hy

lemma touched_row (hunique:Unique key (entries db)) : row key (key r.value) (entries db)=found.map entry ∧
  row key (key r.value) (entries o.db)=left.map entry := by
 have hother:=touched_other_keys hkey h hunique
 have hpre:row key (key r.value) (pre.map entry)=none:=
  row_eq_none.2 fun x hx=>hother x (mem_append_left _ hx)
 have hpost:row key (key r.value) (post.map entry)=none:=
  row_eq_none.2 fun x hx=>hother x (mem_append_right _ hx)
 have hmiddle:∀m:Option (Attribute α),
  (∀x∈m.toList.map entry,key x.value=key r.value) →
  row key (key r.value) (m.toList.map entry)=m.map entry:=by
  intro m hm
  cases m with
  | none=>rfl
  | some a=>simpa[row] using hm (entry a) (by simp)
 rw[h.before,h.after]
 simp only[row_append,hpre,hpost,Option.or_none]
 refine ⟨hmiddle found fun x hx=>?_,hmiddle left (touched_left_key hlawful hkey h)⟩
 obtain ⟨a,ha,rfl⟩:=mem_map.1 hx
 exact touched_found_key hkey h a (Option.mem_toList.1 ha)

lemma touched_row_other {k:κ} (hk:k≠key r.value) : row key k (entries o.db)=row key k (entries db) := by
 have hskip:∀m:List (Entry α),(∀x∈m,key x.value=key r.value) → row key k m=none:=
  fun m hm=>row_eq_none.2 fun x hx hkx=>hk (hkx.symm.trans (hm x hx))
 have hfound:∀x∈found.toList.map entry,key x.value=key r.value:=fun x hx=>by
  obtain ⟨a,ha,rfl⟩:=mem_map.1 hx
  exact touched_found_key hkey h a (Option.mem_toList.1 ha)
 rw[h.before,h.after]
 simp only[row_append,hskip _ hfound,hskip _ (touched_left_key hlawful hkey h)]

end Touched

/-- A row may be dropped, but keeps its value and whether it is declared. -/
structure Sweeps (f:Entry α → Option (Entry α)) : Prop where
 value:∀x y,f x=some y → y.value=x.value
 declared:∀x y,f x=some y → declares y.applicant=declares x.applicant
 dropped:∀x,f x=none → declares x.applicant=false

variable {f:Entry α → Option (Entry α)} {l:List (Entry α)} (p2pmac:Nat) {e:Event}

omit [DecidableEq κ] in
lemma unique_filterMap (hf:Sweeps f) (h:Unique key l) : Unique key (l.filterMap f) := by
 refine pairwise_filterMap.2 (List.Pairwise.imp (fun {x y} hxy=>?_) h)
 intro x' hx y' hy
 rwa[hf.value x x' hx,hf.value y y' hy]

lemma row_filterMap (hf:Sweeps f) (h:Unique key l) (k:κ) : row key k (l.filterMap f)=(row key k l).bind f := by
 ext y
 rw[row_eq_some (unique_filterMap hf h),Option.bind_eq_some_iff,mem_filterMap]
 constructor
 · rintro ⟨⟨x,hx,hy⟩,rfl⟩
   exact ⟨x,(row_eq_some h).2 ⟨hx,by rw[hf.value x y hy]⟩,hy⟩
 · rintro ⟨x,hx,hy⟩
   obtain ⟨hmem,rfl⟩:=(row_eq_some h).1 hx
   exact ⟨⟨x,hmem,hy⟩,by rw[hf.value x y hy]⟩

lemma advance_declares (he:e ≠ .BEGIN ∧ e ≠ .NEW ∧ e ≠ .JOIN ∧ e ≠ .LV) (x:Entry α) :
 declares (x.advance p2pmac e).applicant=declares x.applicant := by
 rcases x with ⟨value,applicant,registrar⟩
 obtain ⟨hbegin,hnew,hjoin,hlv⟩:=he
 cases e with
 | BEGIN=>exact absurd rfl hbegin
 | NEW=>exact absurd rfl hnew
 | JOIN=>exact absurd rfl hjoin
 | LV=>exact absurd rfl hlv
 | RJOININ=>
  by_cases hp2p:p2pmac=0<;>cases applicant <;>
   simp[Entry.advance,applicantStep,applicantRjoinin,hp2p,declares]
 | RIN=>
  by_cases hp2p:p2pmac=1<;>cases applicant <;>
   simp[Entry.advance,applicantStep,applicantRin,hp2p,declares]
 | TX=>cases applicant<;>cases registrar<;>rfl
 | TXLA | TXLAF | RNEW | RJOINMT | RMT | RLV | RLA | REDECLARE | PERIODIC=>cases applicant<;>rfl
 | FLUSH | PERIODICENABLE | PERIODICDISABLE | LVTIMER | LVATIMER=>rfl

lemma sweeps_id : Sweeps (some:Entry α → Option (Entry α)) where
 value := by rintro x _ ⟨⟩;rfl
 declared:=by rintro x _ ⟨⟩;rfl
 dropped:=by rintro x ⟨⟩
lemma sweeps_map {f:Entry α → Entry α} (hvalue:∀x,(f x).value=x.value)
 (hdeclares:∀x,declares (f x).applicant=declares x.applicant) : Sweeps fun x=>some (f x) where
 value := by rintro x _ ⟨⟩;exact hvalue x
 declared:=by rintro x _ ⟨⟩;exact hdeclares x
 dropped:=by rintro x ⟨⟩

section
variable (he:e ≠ .BEGIN ∧ e ≠ .NEW ∧ e ≠ .JOIN ∧ e ≠ .LV)
include he

lemma sweeps_advance : Sweeps fun x : Entry α=>some (x.advance p2pmac e) :=
 sweeps_map (fun x=>Entry.advance_value p2pmac e x) (advance_declares p2pmac he)

lemma sweeps_age (scope:α → Bool) : Sweeps fun x : Entry α=>some (x.age p2pmac e scope) := by
 refine sweeps_map (fun x=>?_) (fun x=>?_)<;>unfold Entry.age<;>split
 · rw[Entry.register_value,Entry.advance_value]
 · rfl
 · rw[Entry.register_applicant,advance_declares p2pmac he]
 · rfl

end

lemma not_declares_of_reclaimable {x:Entry α} (h:x.reclaimable=true) : declares x.applicant=false := by
 simp only[Entry.reclaimable,Bool.and_eq_true,Bool.or_eq_true,decide_eq_true_eq] at h
 rcases h.2 with (h|h)|h<;>rw[h]<;>rfl

lemma sweeps_reclaim {f:Entry α → Entry α} (hvalue:∀x,(f x).value=x.value)
 (happlicant:∀x,(f x).applicant=x.applicant) (reclaims:Bool) :
 Sweeps fun x=>if reclaims&&(f x).reclaimable then none else some (f x) where
 value := by
  intro x y hy
  split at hy<;>cases hy
  exact hvalue x
 declared:=by
  intro x y hy
  split at hy<;>cases hy
  rw[happlicant]
 dropped:=by
  intro x hx
  split at hx
  · next hreclaim=>
     rw[←happlicant]
     exact not_declares_of_reclaimable (Bool.and_eq_true_iff.1 hreclaim).2
  · cases hx

lemma filterMap_reclaim (f:Entry α → Entry α) (l:List (Entry α)) : ((l.map f).filter fun x=>!x.reclaimable)=
  l.filterMap fun x=>if (f x).reclaimable then none else some (f x) := by
 induction l with
 | nil=>rfl
 | cons x l ih=>
  rw[map_cons,filter_cons,filterMap_cons,ih]
  cases (f x).reclaimable<;>rfl

variable {app:Application α}

lemma event_sweeps (hlawful:Lawful app) (p2pmac:Nat) (e:Event) (r:Option (Attribute α))
 (db:Database α) (hnot:∀a,r=some a → isAttributeEvent e=true → False) :
 ∃f,Sweeps f ∧ entries (event app p2pmac e r db).db=(entries db).filterMap f ∧
  (e ≠ .LVTIMER → ∀x,f x≠none) := by
 have hmap:∀(l:List (Entry α)) (f:Entry α → Entry α),
  l.map f=l.filterMap fun x=>some (f x):=fun l f=>(congrFun filterMap_eq_map l).symm
 have hid:∀l:List (Entry α),l=l.filterMap some:=fun l=>(filterMap_some ..).symm
 have hhandled:=event_handled app p2pmac e r db
 generalize event app p2pmac e r db=o at hhandled ⊢
 cases hhandled with
 | lvaTimer=>
  refine ⟨_,sweeps_age p2pmac (e:=.TXLA) (by decide) fun _=>true,?_,nofun⟩
  rw[(lvaTimerEvent_swept hlawful.sends p2pmac db).entries,hmap]
 | leaveAll=>
  cases hscope:app.leaveAllScope (r.map (·.value)) with
  | none=>
   refine ⟨_,sweeps_id,?_,nofun⟩
   rw[(leaveAllEvent_refused p2pmac hscope db).entries]
   exact hid _
  | some scope=>
   refine ⟨_,sweeps_age p2pmac (e:=.RLA) (by decide) scope,?_,nofun⟩
   rw[(leaveAllEvent_swept p2pmac hscope db).entries,hmap]
 | tx=>
  refine ⟨_,sweeps_advance p2pmac (e:=.TX) (by decide),?_,nofun⟩
  rw[(txEvent_swept hlawful.sends p2pmac db).entries,hmap]
 | lvTimer=>
  refine ⟨_,sweeps_reclaim (Entry.register_value .LVTIMER) (Entry.register_applicant .LVTIMER)
   app.reclaims,?_,fun h=>absurd rfl h⟩
  rw[(lvTimerEvent_swept db).entries]
  cases app.reclaims with
  | false=>exact hmap _ _
  | true=>exact filterMap_reclaim _ _
 | periodic=>
  have hswept:=@periodicEvent_swept α app p2pmac db
  cases hperiodic:app.periodic with
  | false=>
   refine ⟨_,sweeps_id,?_,nofun⟩
   rw[hswept.entries,hperiodic]
   exact hid _
  | true=>
   refine ⟨_,sweeps_advance p2pmac (e:=.PERIODIC) (by decide),?_,nofun⟩
   rw[hswept.entries,hperiodic]
   exact hmap _ _
 | concerns r he=>exact (hnot r rfl he).elim
 | missing he=>
  refine ⟨_,sweeps_id,?_,nofun⟩
  split<;>exact hid _
 | ignored=>
  refine ⟨_,sweeps_id,?_,nofun⟩
  rw[entries,notifyAll_attribList,map_entry_quiet]
  exact hid _

lemma reclaim_sweeps (db:Database α) : ∃f,Sweeps f ∧ entries (reclaim db).db=(entries db).filterMap f := by
 refine ⟨_,@sweeps_reclaim α id (fun _=>rfl) (fun _=>rfl) true,?_⟩
 rw[(reclaim_swept db).entries]
 simpa using filterMap_reclaim id (entries db)

lemma event_effect (hlawful:Lawful app) (p2pmac:Nat) (e:Event) (r:Option (Attribute α))
 (db:Database α) : (∃f,Sweeps f ∧ entries (event app p2pmac e r db).db=(entries db).filterMap f ∧
  ∀a,r=some a → isAttributeEvent e=true → e=.RMT) ∨
  ∃a pre post found placed left,r=some a ∧ isAttributeEvent e=true ∧
   Touched app p2pmac e a db (event app p2pmac e r db) pre post found placed left := by
 by_cases hconcerns:∃a,r=some a ∧ isAttributeEvent e=true
 · obtain ⟨a,rfl,he⟩:=hconcerns
   rw[event_concerns app p2pmac he]
   rcases attributeEvent_cases hlawful p2pmac e a db with ⟨hrmt,-,hdrop⟩ |
    ⟨pre,post,found,placed,left,htouched⟩
   · refine .inl ⟨some,sweeps_id,?_,fun _ _ _=>hrmt⟩
     rw[hdrop,filterMap_some]
     rfl
   · exact .inr ⟨a,pre,post,found,placed,left,rfl,he,htouched⟩
 · have hnot:∀a,r=some a → isAttributeEvent e=true → False:=fun a hr he=>
    hconcerns ⟨a,hr,he⟩
   obtain ⟨f,hf,hentries,-⟩:=event_sweeps hlawful p2pmac e r db hnot
   exact .inl ⟨f,hf,hentries,fun a hr he=>(hnot a hr he).elim⟩

lemma event_unique (hlawful:Lawful app) (hkey:KeyedBy app key) (p2pmac:Nat) (e:Event)
 (r:Option (Attribute α)) {db:Database α} (h:Unique key (entries db)) :
 Unique key (entries (event app p2pmac e r db).db) := by
 rcases event_effect hlawful p2pmac e r db with ⟨f,hf,hentries,-⟩ |
  ⟨a,pre,post,found,placed,left,-,-,htouched⟩
 · rw[hentries]
   exact unique_filterMap hf h
 · exact touched_unique hlawful hkey htouched h

omit [DecidableEq κ] in
lemma reclaim_unique {db:Database α} (h:Unique key (entries db)) : Unique key (entries (reclaim db).db) := by
 obtain ⟨f,hf,hentries⟩:=reclaim_sweeps db
 rw[hentries]
 exact unique_filterMap hf h

lemma participantStep_unique {τ:Type} (hlawful:Lawful app) (hkey:KeyedBy app key)
 (p2pmac:Nat) (probe:τ → Option α) (parse:List UInt8 → List (Call τ α)×Except Stop Unit)
 (i:Input α) (db:Database α) (h:Unique key (entries db)) :
 Unique key (entries (participantStep (event app p2pmac) probe parse i db)) := by
 cases i with
 | request q value=>exact event_unique hlawful hkey p2pmac _ _ h
 | frame bytes=>
  exact raiseCalls_kept (I:=fun db=>Unique key (entries db))
   (fun e r db _ h=>event_unique hlawful hkey p2pmac e r h) _ _ _ h
 | timer t=>exact event_unique hlawful hkey p2pmac _ _ h
 | reclaim=>exact reclaim_unique h

end MrpTable

/-! ## MSRP attributes by key -/

namespace MrpKeys

open MrpTable Runs Msrp MsrpCommands

inductive MsrpKey where
 | talker (streamId:BitVec 64)
 | listener (streamId:BitVec 64)
 | domain (srClassId:BitVec 8)
 deriving DecidableEq, Repr

def msrpKey (v:MsrpValue) : MsrpKey :=
 match v.type with
 | .talkerAdv | .talkerFailed=>.talker v.streamId
 | .listener=>.listener v.streamId
 | .domain=>.domain v.domain.srClassId
lemma msrp_keyedBy (station:BitVec 48) : KeyedBy (msrpApplication station) msrpKey := by
 intro v w
 change sameMsrpAttribute v w=_
 unfold sameMsrpAttribute msrpKey
 cases v.type<;>cases w.type<;>simp[MsrpType.isTalker]

section Steps
variable {station:BitVec 48} {p2pmac:Nat}

lemma entries_notifyAll (db:Database MsrpValue) : entries (notifyAll db [] []).db=entries db := by
 rw[entries,notifyAll,map_map]
 rfl

lemma msrpStep_kept {I:Database MsrpValue → Prop}
 (hevent:∀interest e r db,I db → I (msrpEvent station p2pmac interest e r db).db)
 (hprune:∀streamId db,I db → I (pruneTalkers streamId db))
 (hreclaim:∀db,I db → I (reclaim db).db) (i:MsrpInput) (db:MsrpDatabase)
 (h:I db.mrp) : I (msrpStep station p2pmac i db).mrp := by
 cases i with
 | command client command=>
  exact msrpRecvCmd_kept (fun interest q value db=>hevent interest _ _ db) hprune client command h
 | bye client=>exact h
 | frame bytes=>exact raiseCalls_kept (fun e r _ _=>hevent db.interest e r _) _ _ _ h
 | timer t=>exact hevent _ _ _ _ h
 | reclaim=>exact hreclaim _ h

lemma msrpEvent_unique (interest:Interest) (e:Event) (r:Option (Attribute MsrpValue))
 (db:Database MsrpValue) (h:Unique msrpKey (entries db)) :
 Unique msrpKey (entries (msrpEvent station p2pmac interest e r db).db) := by
 rcases msrpEvent_cases station p2pmac interest e r db with ⟨heq,-⟩|⟨a,-,-,-,heq⟩
 · rw[heq]
   exact event_unique (msrp_lawful station) (msrp_keyedBy station) p2pmac e r h
 · rwa[heq,entries_notifyAll]

lemma pruneTalkers_sublist (streamId:BitVec 64) (db:Database MsrpValue) :
 (entries (pruneTalkers streamId db)).Sublist (entries db) := List.Sublist.map entry filter_sublist
lemma msrpStep_unique (i:MsrpInput) (db:MsrpDatabase) (h:Unique msrpKey (entries db.mrp)) :
 Unique msrpKey (entries (msrpStep station p2pmac i db).mrp) :=
 msrpStep_kept (I:=fun db=>Unique msrpKey (entries db)) msrpEvent_unique
  (fun streamId db h=>h.sublist (pruneTalkers_sublist streamId db)) (fun _=>reclaim_unique) i
    db h

lemma msrpRun_unique (maxIds:Nat) (enablePruning:Bool) (inputs:List MsrpInput) : Unique msrpKey (entries
  (run (msrpStep station p2pmac) inputs (msrpInit maxIds enablePruning)).mrp) :=
 run_invariant (P:=fun db:MsrpDatabase=>Unique msrpKey (entries db.mrp)) msrpStep_unique inputs
  List.Pairwise.nil

end Steps

end MrpKeys

/-! ## Declarations -/

namespace MrpDeclared

open Runs MrpTable Mvrp Mmrp

variable {α κ:Type} [DecidableEq κ] {key:α → κ} {app:Application α} {p2pmac:Nat}

def declared (key:α → κ) (k:κ) (db:Database α) : Bool := (row key k (entries db)).any fun x=>declares x.applicant
def demands : Request → Bool
 | .new | .join=>true
 | .leave=>false

lemma declared_of_sweeps {f:Entry α → Option (Entry α)} (hf:Sweeps f) {db db':Database α}
 (hentries:entries db'=(entries db).filterMap f) (hunique:Unique key (entries db)) (k:κ) :
 declared key k db'=declared key k db := by
 rw[declared,declared,hentries,row_filterMap hf hunique]
 cases row key k (entries db) with
 | none=>rfl
 | some x=>
  rw[Option.bind_some,Option.any_some]
  cases hfx:f x with
  | none=>rw[hf.dropped x hfx,Option.any_none]
  | some y=>rw[Option.any_some,hf.declared x y hfx]

variable {db:Database α}

lemma declared_iff (hunique:Unique key (entries db)) (k:κ) : declared key k db=true ↔
  ∃a∈db.attribList,key a.value=k ∧ declares a.applicant.mrpState=true := by
 rw[declared,Option.any_eq_true]
 constructor
 · rintro ⟨x,hx,hdeclares⟩
   obtain ⟨hmem,hvalue⟩:=mem_of_row hx
   obtain ⟨a,ha,rfl⟩:=mem_map.1 hmem
   exact ⟨a,ha,hvalue,hdeclares⟩
 · rintro ⟨a,ha,rfl,hdeclares⟩
   exact ⟨entry a,row_of_mem hunique (mem_map_of_mem ha),hdeclares⟩

lemma settle_declares_request (q:Request) (x:Entry α) :
 declares (x.settle p2pmac q.event).applicant=demands q := by
 rcases x with ⟨value,applicant,registrar⟩
 rw[Entry.settle,Entry.register_applicant]
 cases q<;>cases applicant<;>rfl

variable {e:Event} (station:BitVec 48)

lemma settle_declares_network (he:e ≠ .BEGIN ∧ e ≠ .NEW ∧ e ≠ .JOIN ∧ e ≠ .LV) (x:Entry α) :
 declares (x.settle p2pmac e).applicant=declares x.applicant := by
 rw[Entry.settle,Entry.register_applicant,advance_declares p2pmac he]

section Touched
variable {e:Event} {r placed:Attribute α} {db:Database α} {o:Outcome α}
 {pre post:List (Attribute α)} {found left:Option (Attribute α)}

variable (hlawful:Lawful app) (hkey:KeyedBy app key)
 (h:Touched app p2pmac e r db o pre post found placed left) (hunique:Unique key (entries db))
include hlawful hkey h hunique

lemma touched_declared :
 declared key (key r.value) o.db=declares ((entry placed).settle p2pmac e).applicant := by
 rw[declared,(touched_row hlawful hkey h hunique).2,h.left_eq]
 split
 · next hreclaimed=>
    have hreclaimable:=(Bool.and_eq_true_iff.1 hreclaimed).2
    rw[entry_reclaimable,entry_attributePass] at hreclaimable
    rw[Option.map_none,Option.any_none,not_declares_of_reclaimable hreclaimable]
 · rw[Option.map_some,Option.any_some,entry_attributePass]

lemma placed_declares (hmerge:∀l r (a:Attribute α),(app.merge l r a).applicant=a.applicant)
 (hr:declares r.applicant.mrpState=false) :
 declares placed.applicant.mrpState=declared key (key r.value) db := by
 rw[declared,(touched_row hlawful hkey h hunique).1]
 cases hfound:found with
 | none=>
  rw[(h.added hfound).1,hr]
  rfl
 | some a=>
  rw[(h.merged a hfound).2,hmerge]
  rfl

end Touched

lemma event_declared_network (hlawful:Lawful app) (hkey:KeyedBy app key)
 (hmerge:∀l r (a:Attribute α),(app.merge l r a).applicant=a.applicant)
 (he:e ≠ .BEGIN ∧ e ≠ .NEW ∧ e ≠ .JOIN ∧ e ≠ .LV) {r:Option (Attribute α)} (hr:Fresh r)
 (hunique:Unique key (entries db)) (k:κ) : declared key k (event app p2pmac e r db).db=declared key k db := by
 rcases event_effect hlawful p2pmac e r db with ⟨f,hf,hentries,-⟩ |
  ⟨a,pre,post,found,placed,left,ha,-,htouched⟩
 · exact declared_of_sweeps hf hentries hunique k
 · by_cases hk:k=key a.value
   · obtain ⟨value,macaddr,rfl⟩:=hr a ha
     rw[hk,touched_declared hlawful hkey htouched hunique,settle_declares_network he]
     exact placed_declares hlawful hkey htouched hunique hmerge rfl
   · rw[declared,declared,touched_row_other hlawful hkey htouched hk]

lemma event_declared_request (hlawful:Lawful app) (hkey:KeyedBy app key) (q:Request)
 (a:Attribute α) (hunique:Unique key (entries db)) (k:κ) :
 declared key k (event app p2pmac q.event (some a) db).db=
  if k=key a.value then demands q else declared key k db := by
 rcases event_effect hlawful p2pmac q.event (some a) db with ⟨f,hf,hentries,hrmt⟩ |
  ⟨_,pre,post,found,placed,left,⟨⟩,-,htouched⟩
 · have:=hrmt a rfl (by cases q<;>rfl)
   cases q<;>cases this
 · split
   · next hk=>
      rw[hk,touched_declared hlawful hkey htouched hunique]
      exact settle_declares_request q _
   · next hk=>rw[declared,declared,touched_row_other hlawful hkey htouched hk]

lemma reclaim_declared (hunique:Unique key (entries db)) (k:κ) :
 declared key k (reclaim db).db=declared key k db := by
 obtain ⟨f,hf,hentries⟩:=reclaim_sweeps db
 exact declared_of_sweeps hf hentries hunique k

section Run
variable [DecidableEq α]

def lastRequest (v:α) (inputs:List (Input α)) : Option Request := (inputs.filterMap fun i=>match i with
  | .request q w=>if w=v then some q else none
  | _=>none).getLast?

variable (v:α)

lemma lastRequest_append_request (w:α) (q:Request) (earlier:List (Input α)) :
 lastRequest v (earlier++[.request q w])=if w=v then some q else lastRequest v earlier := by
 unfold lastRequest
 split<;>simp_all

lemma lastRequest_append_other {i:Input α} (hi:∀q w,i ≠ .request q w)
 (earlier:List (Input α)) : lastRequest v (earlier++[i])=lastRequest v earlier := by
 unfold lastRequest
 cases i with
 | request q w=>exact absurd rfl (hi q w)
 | frame bytes | timer t | reclaim=>simp

lemma timer_event_network (t:Timer) : t.event ≠ .BEGIN ∧ t.event ≠ .NEW ∧ t.event ≠ .JOIN ∧ t.event ≠ .LV := by
 cases t<;>decide

structure Follows (inputs:List (Input α)) (db:Database α) : Prop where
 unique:Unique id (entries db)
 declared:∀v,declared id v db=(lastRequest v inputs).any demands

lemma participantStep_follows {τ:Type} (hlawful:Lawful app)
 (hkey:KeyedBy app (id:α → α))
 (hmerge:∀l r (a:Attribute α),(app.merge l r a).applicant=a.applicant)
 (probe:τ → Option α) (parse:List UInt8 → List (Call τ α)×Except Stop Unit)
 (earlier:List (Input α)) (i:Input α) (db:Database α) (h:Follows earlier db) :
 Follows (earlier++[i]) (participantStep (event app p2pmac) probe parse i db) := by
 refine ⟨participantStep_unique hlawful hkey p2pmac probe parse i db h.unique,fun v=>?_⟩
 cases i with
 | request q w=>
  rw[lastRequest_append_request]
  refine (event_declared_request hlawful hkey q (alloc w 0) h.unique v).trans ?_
  change (if v=w then _ else _)=_
  by_cases hv:w=v
  · rw[if_pos hv.symm,if_pos hv,Option.any_some]
  · rw[if_neg (Ne.symm hv),if_neg hv,h.declared]
 | frame bytes=>
  rw[lastRequest_append_other v (by simp),←h.declared v]
  refine (raiseCalls_kept (I:=fun db'=>Unique id (entries db') ∧
   MrpDeclared.declared id v db'=MrpDeclared.declared id v db) ?_ probe _ _ ⟨h.unique,rfl⟩).2
  rintro e r db' hr ⟨hunique,hsame⟩
  refine ⟨event_unique hlawful hkey p2pmac e r hunique,?_⟩
  rw[event_declared_network hlawful hkey hmerge hr.isNetwork.2 hr.fresh hunique,hsame]
 | timer t=>
  rw[lastRequest_append_other v (by simp),←h.declared v]
  exact event_declared_network hlawful hkey hmerge (timer_event_network t) Fresh.none h.unique v
 | reclaim=>
  rw[lastRequest_append_other v (by simp),←h.declared v]
  exact reclaim_declared h.unique v

lemma follows_initial : Follows [] (initialDatabase:Database α) := ⟨List.Pairwise.nil,fun _=>rfl⟩

lemma Follows.iff {inputs:List (Input α)} {db:Database α} (h:Follows inputs db) (v:α) :
 (∃a∈db.attribList,a.value=v ∧ declares a.applicant.mrpState=true) ↔
  lastRequest v inputs=some .new ∨ lastRequest v inputs=some .join := by
 refine (declared_iff h.unique v).symm.trans ?_
 rw[h.declared]
 cases lastRequest v inputs with
 | none=>simp
 | some q=>cases q<;>simp[demands]

end Run

lemma mvrp_keyedBy : KeyedBy (mvrpApplication station) id := fun _ _=>rfl
lemma mmrp_keyedBy (stack:List Nat) : KeyedBy (mmrpApplication station stack) id := fun _ _=>rfl

theorem declared_iff_requested :
 (∀(station:BitVec 48) (p2pmac:Nat) (inputs:List (Input (BitVec 16))) (vid:BitVec 16),
  (∃a∈(run (mvrpStep station p2pmac) inputs initialDatabase).attribList,
   a.value=vid ∧ declares a.applicant.mrpState=true) ↔
    lastRequest vid inputs=some .new ∨ lastRequest vid inputs=some .join) ∧
 (∀(station:BitVec 48) (s1 s2 p2pmac:Nat) (inputs:List (Input MmrpValue))
  (value:MmrpValue),(∃a∈(run (mmrpStep station [s1,s2] p2pmac) inputs initialDatabase).attribList,
   a.value=value ∧ declares a.applicant.mrpState=true) ↔
    lastRequest value inputs=some .new ∨ lastRequest value inputs=some .join) := by
 constructor
 · intro station p2pmac inputs vid
   rw[mvrpStep_eq]
   exact (run_history (participantStep_follows (mvrp_lawful station) (mvrp_keyedBy station)
    (fun _ _ _=>rfl) _ _) inputs follows_initial).iff vid
 · intro station s1 s2 p2pmac inputs value
   rw[mmrpStep_eq]
   exact (run_history (participantStep_follows (mmrp_lawful station [s1,s2])
    (mmrp_keyedBy station [s1,s2]) (fun _ _ _=>rfl) _ _) inputs follows_initial).iff value

end MrpDeclared

end OpenAvnu
