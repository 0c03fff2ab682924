import OpenAvnu.MrpTable
import OpenAvnu.MsrpRoundTrip

/-! # Listener substates -/

namespace OpenAvnu.MsrpListeners

open List

open Mrp MrpEvents MrpDecode MrpLaws MrpMessages MrpFours MrpSteps MrpTable MrpRuns MsrpActions
open MsrpRoundTrip PackedDigits Runs Msrp MsrpCommands

section Delivered
variable {κ α:Type} {P:α → Prop} {r:Reader κ α}

def AllMeet (P:α → Prop) (calls:List (Call κ α)) : Prop := ∀e v,.attribute e v∈calls → P v
lemma allMeet_nil : AllMeet P ([]:List (Call κ α)) := by simp[AllMeet]
lemma allMeet_append {calls calls':List (Call κ α)} (h:AllMeet P calls)
 (h':AllMeet P calls') : AllMeet P (calls++calls') := fun e v hv=>
 (mem_append.1 hv).elim (h e v) (h' e v)

variable {value:α}

lemma eventWalk_meets (hadvance:∀v,P v → P (r.advance v)) (codes:List Nat) (h:P value) :
 AllMeet P (eventWalk r codes value).1 ∧ P (eventWalk r codes value).2 := by
 induction codes generalizing value with
 | nil=>exact ⟨allMeet_nil,h⟩
 | cons code codes ih=>
  rw[eventWalk]
  split
  · have hrest:=ih (hadvance value h)
    split
    · exact hrest
    · refine ⟨fun e v hv=>?_,hrest.2⟩
      rcases mem_cons.1 hv with heq|hv
      · obtain ⟨-,rfl⟩:=Call.attribute.inj heq
        exact h
      · exact hrest.1 e v hv
  · exact ih h

lemma valueWalk_meets (hadvance:∀v,P v → P (r.advance v)) (bytes:List UInt8) (n:Nat)
 (h:P value) : AllMeet P (valueWalk r n bytes value) := by
 induction bytes generalizing n value with
 | nil=>exact allMeet_nil
 | cons byte bytes ih=>
  rw[valueWalk]
  split
  · exact ih _ h
  · have hwalk:=eventWalk_meets hadvance ((unpackDigits 6 3 byte.toNat).take n) h
    exact allMeet_append hwalk.1 (ih _ hwalk.2)

lemma listenWalk_left (set:Nat → α → α) (codes subs:List Nat) (value:α) :
 ∀s∈(listenWalk r set codes subs value).2.1,s∈subs := by
 induction codes generalizing subs value with
 | nil=>simp[listenWalk]
 | cons code codes ih=>
  cases subs with
  | nil=>exact ih [] (r.advance value)
  | cons sub subs=>
   intro s hs
   refine mem_cons_of_mem _ (ih subs (r.advance value) s ?_)
   rw[listenWalk] at hs
   split at hs
   · exact hs
   · split at hs<;>exact hs

lemma listenValues_meets {set:Nat → α → α}
 (hset:∀v sub,sub≠0 → sub<4 → P (set sub v)) (bytes:List UInt8) (n:Nat)
 {subs:List Nat} (hsubs:∀s∈subs,s<4) (value:α) : AllMeet P (listenValues r set n bytes subs value) := by
 induction bytes generalizing n subs value with
 | nil=>exact allMeet_nil
 | cons byte bytes ih=>
  rw[listenValues]
  split
  · exact ih _ hsubs value
  · refine allMeet_append (fun e v hv=>?_) (ih _ (fun s hs=>?_) _)
    · obtain ⟨_,sub,w,hsub,hne,heq⟩:=listenWalk_subs _ _ _ _ hv
      obtain ⟨-,rfl⟩:=Call.attribute.inj heq
      exact hset w sub hne (hsubs sub hsub)
    · exact hsubs s (listenWalk_left set _ _ _ s hs)

structure Delivers (r:Reader κ α) (P:α → Prop) : Prop where
 plain:r.fourPacked=none → (∀bytes,P (r.first bytes)) ∧ ∀v,P v → P (r.advance v)
 packed:∀set,r.fourPacked=some set → ∀v sub,sub≠0 → sub<4 → P (set sub v)

lemma readBody_meets (h:Delivers r P) (n:Nat) (body:List UInt8) : AllMeet P (readBody r n body).1 := by
 unfold readBody
 dsimp only
 split
 · next hplain=>
    obtain ⟨hfirst,hadvance⟩:=h.plain hplain
    split
    · exact allMeet_nil
    · split<;>exact valueWalk_meets hadvance _ _ (hfirst _)
 · next set hpacked=>
    split
    · exact allMeet_nil
    · split
      · exact allMeet_nil
      · split
        · exact allMeet_nil
        · refine listenValues_meets (h.packed set hpacked) _ _ (fun s hs=>?_) _
          exact unpackBytes_four_lt _ s (mem_of_mem_take hs)

lemma allMeet_heard (flagged:Bool) (kind:κ) :
 AllMeet P (if flagged then [.leaveAll kind] else []:List (Call κ α)) := by
 cases flagged<;>simp[AllMeet]

variable [DecidableEq κ]

lemma readVectors_meets (h:Delivers r P) (fuel:Nat) (seen:List κ) (bytes:List UInt8) :
 AllMeet P (readVectors r fuel seen bytes).1 := by
 induction fuel generalizing seen bytes with
 | zero=>exact allMeet_nil
 | succ fuel ih=>
  match bytes with
  | [] | [_]=>exact allMeet_nil
  | h0::h1::body=>
   rw[readVectors]
   dsimp only
   split
   · exact allMeet_nil
   split
   · split
     · exact allMeet_append (allMeet_heard _ _) (ih _ _)
     · exact allMeet_heard _ _
   · have hbody:=readBody_meets h ((h0.toNat*256+h1.toNat)%8192) body
     split
     · exact allMeet_append (allMeet_heard _ _) hbody
     · exact allMeet_append (allMeet_append (allMeet_heard _ _) hbody) (ih _ _)

lemma readMessages_meets {dispatch:UInt8 → UInt8 → List UInt8 → Dispatch κ α}
 (h:∀type length data r rest,dispatch type length data=.vectors r rest → Delivers r P)
 (fuel endmarks:Nat) (seen:List κ) (bytes:List UInt8) :
 AllMeet P (readMessages dispatch fuel endmarks seen bytes).1 := by
 induction fuel generalizing endmarks seen bytes with
 | zero=>exact allMeet_nil
 | succ fuel ih=>
  match bytes with
  | [] | [_]=>exact allMeet_nil
  | type::length::data=>
   rw[readMessages]
   split
   · exact allMeet_nil
   split
   · split
     · exact ih _ _ _
     · exact allMeet_nil
   split
   · exact allMeet_nil
   · exact ih _ _ _
   · next r rest hdispatch=>
      have hvectors:=readVectors_meets (h _ _ _ r rest hdispatch) (rest.length+1) seen rest
      dsimp only
      split
      · exact hvectors
      · exact allMeet_append hvectors (ih _ _ _)

end Delivered

def Sane (v:MsrpValue) : Prop := v.type=.listener → Declarable v
lemma talkerReader_delivers {type:MsrpType} (htype:type ≠ .listener) (firstLength:Nat) :
 Delivers (talkerReader type firstLength) Sane where
 plain := fun _=>⟨fun _ hlistener=>absurd hlistener htype,fun _ hv=>hv⟩
 packed:=by rintro _ ⟨⟩
lemma domainReader_delivers : Delivers domainReader Sane where
 plain := fun _=>⟨fun _ hlistener=>(by cases hlistener),fun _ hv=>hv⟩
 packed:=by rintro _ ⟨⟩

lemma listenReader_delivers : Delivers listenReader Sane where
 plain := by rintro ⟨⟩
 packed:=by
  rintro _ ⟨⟩ v sub hne hlt -
  rw[Declarable,BitVec.toNat_ofNat]
  omega

lemma msrpMessage_delivers {r r':Reader MsrpType MsrpValue} {skipped:Nat → Nat}
 {length:UInt8}
 {data rest:List UInt8} (h:Delivers r Sane)
 (hmessage:msrpMessage r skipped length data=.vectors r' rest) : Delivers r' Sane := by
 unfold msrpMessage at hmessage
 split at hmessage
 · cases hmessage
 split at hmessage
 · cases hmessage
 · cases hmessage
   exact h
 · split at hmessage<;>cases hmessage

lemma msrpParse_sane (bytes:List UInt8) : AllMeet Sane (msrpParse bytes).1 := by
 have hdispatch:∀version type length data r rest,
  msrpDispatch version type length data=.vectors r rest → Delivers r Sane:=by
  intro version type length data r rest hd
  unfold msrpDispatch at hd
  split at hd
  · exact msrpMessage_delivers domainReader_delivers hd
  split at hd
  · exact msrpMessage_delivers listenReader_delivers hd
  split at hd
  · exact msrpMessage_delivers (talkerReader_delivers (by decide) 25) hd
  split at hd
  · exact msrpMessage_delivers (talkerReader_delivers (by decide) 34) hd
  · cases hd
 unfold msrpParse parseFrame
 split
 · exact allMeet_nil
 split
 · exact allMeet_nil
 split
 · exact allMeet_nil
 · exact readMessages_meets (fun type length data r rest=>hdispatch _ type length data r rest) _
     _ _ _

def SaneList (db:Database MsrpValue) : Prop := ∀a∈db.attribList,Sane a.value

/-- The listener of an action is sane, or it is withdrawn with what the database holds. -/
def SaneAction (action:Action) (db:Database MsrpValue) : Prop :=
 match action with
 | .raise e (some a)=>isAttributeEvent e=true → Sane a.value ∨
  ∃streamId,e=.LV ∧ a=alloc (withdrawnListener streamId db.attribList) 0
 | _=>True
lemma saneList_entries (db:Database MsrpValue) : SaneList db↔∀x∈entries db,Sane x.value := by
 simp[SaneList,entries,entry]

lemma saneList_of_sweeps {f:Entry MsrpValue → Option (Entry MsrpValue)} (hf:Sweeps f)
 {db db':Database MsrpValue} (hentries:entries db'=(entries db).filterMap f)
 (h:SaneList db) : SaneList db' := by
 rw[saneList_entries] at h ⊢
 intro y hy
 rw[hentries] at hy
 obtain ⟨x,hx,hfx⟩:=mem_filterMap.1 hy
 rw[hf.value x y hfx]
 exact h x hx

lemma sameMsrpAttribute_withdrawn (streamId:BitVec 64) (l:List (Attribute MsrpValue))
 (v:MsrpValue) : sameMsrpAttribute (withdrawnListener streamId l) v=
  sameMsrpAttribute (streamValue .listener streamId) v := by
 unfold withdrawnListener
 dsimp only
 split<;>rfl

variable {l:List (Attribute MsrpValue)} {a:Attribute MsrpValue}

lemma withdrawnListener_substate {streamId:BitVec 64} {pre post:List (Attribute MsrpValue)}
 (hsplit:l=pre++a::post)
 (hpre:∀x∈pre,sameMsrpAttribute (withdrawnListener streamId l) x.value=false)
 (ha:sameMsrpAttribute (withdrawnListener streamId l) a.value=true) :
 (withdrawnListener streamId l).substate=a.value.substate := by
 have hfind:l.find? (fun x=>sameMsrpAttribute (streamValue .listener streamId) x.value)=some a:=by
  rw[find?_eq_some_iff_append]
  simp only[sameMsrpAttribute_withdrawn] at hpre ha
  exact ⟨ha,pre,post,hsplit,fun x hx=>by simp[hpre x hx]⟩
 unfold withdrawnListener
 dsimp only
 rw[hfind]

lemma declarable_congr {v w:MsrpValue} (h:v.substate=w.substate) (hw:Declarable w) : Declarable v := by
 rwa[Declarable,h]

section Touched
variable {station:BitVec 48} {p2pmac:Nat} {e:Event} {r placed:Attribute MsrpValue}
 {db:Database MsrpValue} {o:Outcome MsrpValue} {pre post:List (Attribute MsrpValue)}
 {found left:Option (Attribute MsrpValue)}

lemma touched_left_sane (haction:Sane r.value ∨
 ∃streamId,e=.LV ∧ r=alloc (withdrawnListener streamId db.attribList) 0) (hdb:SaneList db)
 (h:Touched (msrpApplication station) p2pmac e r db o pre post found placed left) :
 ∀a,left=some a → Sane a.value := by
 intro b hb
 have hvalue:b.value=placed.value:=by
  have hleft:=h.left_eq
  rw[hb] at hleft
  split at hleft
  · cases hleft
  · rw[Option.some_inj.1 hleft]
    unfold attributePass
    split<;>rfl
 rw[hvalue]
 cases hfound:found with
 | none=>
  obtain ⟨rfl,-,-⟩:=h.added hfound
  rcases haction with hsane|⟨streamId,rfl,rfl⟩
  · exact hsane
  · -- A listener that was not there is reclaimed at once.
    have hgone:left=none:=h.left_eq
    rw[hgone] at hb
    cases hb
 | some a=>
  obtain ⟨hsame,rfl⟩:=h.merged a hfound
  have hsplit:db.attribList=pre++a::post:=by simpa[hfound] using h.split
  have hmerged:=msrpMerge_merged db.attribList r a
  have hsame':sameMsrpAttribute r.value a.value=true:=hsame
  intro hlistener
  change (msrpMerge db.attribList r a).value.type=.listener at hlistener
  have htype:a.value.type=.listener:=by
   rw[hmerged.type] at hlistener
   split at hlistener
   · next htalker=>
      rcases (sameMsrpAttribute_iff.1 hsame').1 with heq|⟨hr,-⟩
      · exact heq.symm.trans hlistener
      · simp[hlistener,MsrpType.isTalker] at hr
   · exact hlistener
  have ha:Declarable a.value:=hdb a (by rw[hsplit];simp) htype
  rcases hmerged.substate with hsub|⟨-,hsub⟩
  · exact declarable_congr hsub ha
  · refine declarable_congr hsub ?_
    rcases haction with hsane|⟨streamId,rfl,rfl⟩
    · apply hsane
      rcases (sameMsrpAttribute_iff.1 hsame').1 with heq|⟨-,htalker⟩
      · exact heq.trans htype
      · simp[htype,MsrpType.isTalker] at htalker
    · exact declarable_congr (withdrawnListener_substate hsplit h.pre_other hsame') ha

end Touched

section Runs
variable {station:BitVec 48} {p2pmac:Nat}

lemma action_sane (interest:Interest) (action:Action) (db:Database MsrpValue)
 (haction:SaneAction action db) (h:SaneList db) : SaneList (action.apply station p2pmac interest db) := by
 cases action with
 | raise e r=>
  change SaneList (msrpEvent station p2pmac interest e r db).db
  rcases msrpEvent_cases station p2pmac interest e r db with ⟨heq,-⟩|⟨a,-,-,-,heq⟩
  swap
  · rw[heq]
    intro a ha
    obtain ⟨b,hb,rfl⟩:=mem_map.1 ha
    exact h b hb
  rw[heq]
  rcases event_effect (msrp_lawful station) p2pmac e r db with ⟨f,hf,hentries,-⟩ |
   ⟨a,pre,post,found,placed,left,rfl,he,htouched⟩
  · exact saneList_of_sweeps hf hentries h
  · intro b hb
    rw[htouched.outcome] at hb
    obtain ⟨c,hc,rfl⟩:=mem_map.1 hb
    have hsplit:=htouched.split
    simp only[mem_append,Option.mem_toList] at hc
    rcases hc with (hpre|hleft)|hpost
    · exact h c (by rw[hsplit];simp[hpre])
    · exact touched_left_sane (haction he) h htouched c hleft
    · exact h c (by rw[hsplit];simp[hpost])
 | prune streamId=>exact fun a ha=>h a (mem_of_mem_filter ha)
 | reclaim=>
  obtain ⟨f,hf,hentries⟩:=reclaim_sweeps db
  exact saneList_of_sweeps hf hentries h

def ReportsSane (i:MsrpInput) : Prop :=
 ∀client streamId substate,i=.command client (.reportListenerStatus streamId substate) →
  substate.toNat≠0 ∧ substate.toNat<4

lemma eachAction_sane {i:MsrpInput} (hi:ReportsSane i) (db:MsrpDatabase) :
 EachAction station p2pmac (fun _=>SaneAction) i db := by
 cases i with
 | command client command=>
  unfold EachAction actions
  dsimp only
  split
  · trivial
  cases command with
  | joinOrNewStream new failed talker=>
   refine ⟨fun _=>.inl ?_,trivial⟩
   cases failed<;>rintro ⟨⟩
  | leaveStream streamId=>exact ⟨fun _=>.inl (by rintro ⟨⟩),trivial⟩
  | reportListenerStatus streamId substate=>
   exact ⟨fun _=>.inl fun _=>hi client streamId substate rfl,trivial⟩
  | withdrawListenerStatus streamId=>
   refine ⟨fun _=>.inr ⟨streamId,rfl,rfl⟩,?_⟩
   split
   · exact ⟨trivial,trivial⟩
   · trivial
  | reportDomainStatus report srClassId srClassPriority srClassVid=>
   exact ⟨fun _=>.inl (by rintro ⟨⟩),trivial⟩
  | removeInteresting streamId=>
   unfold commandActions
   dsimp only
   split
   · exact ⟨trivial,trivial⟩
   · trivial
  | addInteresting | removeAllInteresting | other=>trivial
 | bye client=>trivial
 | frame bytes=>
  refine along_of_forall fun a ha db=>?_
  obtain ⟨c,hc,rfl⟩:=mem_map.1 ha
  rcases c with kind|⟨e,v⟩
  · rintro ⟨⟩
  · exact fun _=>.inl (msrpParse_sane bytes e v hc)
 | timer t=>exact ⟨trivial,trivial⟩
 | reclaim=>exact ⟨trivial,trivial⟩

lemma run_sane (maxIds:Nat) (enablePruning:Bool) {inputs:List MsrpInput}
 (h:∀i∈inputs,ReportsSane i) :
 SaneList (run (msrpStep station p2pmac) inputs (msrpInit maxIds enablePruning)).mrp := by
 have halong:Along (msrpStep station p2pmac) (fun i _=>ReportsSane i) inputs
  (msrpInit maxIds enablePruning):=along_of_forall fun i hi _=>h i hi
 refine (throughout_of_along (P:=fun db:MsrpDatabase=>SaneList db.mrp) (fun i db hi hdb=>?_)
  ?_ halong).last
 · exact msrpStep_of_eachAction action_sane i db (eachAction_sane hi db) hdb
 · intro a ha
   cases ha

end Runs

lemma listenvectors_encoded {lva flag:Bool} {base:Nat}
 (hok:(msrpEmitListenvectors lva flag base l).ok=true)
 (ha:a∈(msrpEmitListenvectors lva flag base l).encoded.flatten) :
 a.value.type=.listener ∧ a.value∈l.map (·.value) := by
 unfold msrpEmitListenvectors at hok ha
 split at hok
 · cases hok
 next hentry=>
 rw[if_neg hentry] at ha
 obtain ⟨sent,left,hencodes⟩:=emitVectors_of_ok listen_undoes.proper hok
 rw[hencodes.encoded] at ha
 obtain ⟨v,hv,hav⟩:=mem_flatten.1 ha
 refine ⟨of_decide_eq_true ((hencodes.isVector v hv).selects a hav),?_⟩
 obtain ⟨b,hb,rfl⟩:=mem_map.1 (hencodes.sent_sublist.subset ha)
 refine mem_map.2 ⟨b,hb,?_⟩
 split<;>rfl

/-- If clients report substates from one to three, whatever the applicants and registrars are. -/
theorem listeners_readBack (station:BitVec 48) (p2pmac maxInterestingStreamIds:Nat)
 (enablePruning:Bool) (inputs:List MsrpInput) (h:∀i∈inputs,ReportsSane i)
 (l:List (Attribute MsrpValue))
 (hl:l.map (·.value)=(run (msrpStep station p2pmac) inputs
  (msrpInit maxInterestingStreamIds enablePruning)).mrp.attribList.map (·.value))
 (lva flag:Bool) (base:Nat) (hok:(msrpEmitListenvectors lva flag base l).ok=true)
 (hbytes:(msrpEmitListenvectors lva flag base l).bytes≠[]) :
 msrpParse (msrpFrame station (msrpEmitListenvectors lva flag base l).bytes)=
  (listenExpected lva flag (msrpEmitListenvectors lva flag base l).encoded,.ok ()) := by
 refine (listener_readBack_iff hok hbytes).2 fun a ha=>?_
 obtain ⟨htype,hmem⟩:=listenvectors_encoded hok ha
 rw[hl] at hmem
 obtain ⟨b,hb,hvalue⟩:=mem_map.1 hmem
 have hsane:=@run_sane station p2pmac maxInterestingStreamIds enablePruning inputs h b hb
 rw[hvalue] at hsane
 exact hsane htype

def twoListeners (first second:BitVec 32) : List (Attribute MsrpValue) :=
 (run (msrpStep 0 0) [.command ⟨0,7500⟩ (.reportListenerStatus 1 first),
  .command ⟨0,7500⟩ (.reportListenerStatus 2 second)] (msrpInit 0 false)).mrp.attribList.map
  (applicantPass 0 .TX)

theorem twoListeners_readBack :
 msrpParse (msrpFrame 0 (msrpEmitListenvectors false false 15 (twoListeners 2 3)).bytes)=
  (listenExpected false false (msrpEmitListenvectors false false 15 (twoListeners 2 3)).encoded,.ok ()) := by
 apply listeners_readBack 0 0 0 false [.command ⟨0,7500⟩ (.reportListenerStatus 1 2),
  .command ⟨0,7500⟩ (.reportListenerStatus 2 3)]
 · intro i hi client streamId substate heq
   subst heq
   simp only[mem_cons,not_mem_nil,or_false] at hi
   rcases hi with ⟨-,-,rfl⟩|⟨-,-,rfl⟩<;>decide
 · decide
 · decide
 · decide

/-- The first listener is read back with substate three in place of two, the second not at all. -/
theorem neighbour_altered : ((msrpEmitListenvectors false false 15 (twoListeners 2 4)).encoded.flatten.map
  fun a=>(a.value.streamId,a.value.substate))=[(1,2),(2,4)] ∧
  (msrpParse (msrpFrame 0 (msrpEmitListenvectors false false 15 (twoListeners 2 4)).bytes)).1=
   [.attribute .NEW {streamValue .listener 1 with substate:=3}] := by
 decide

end OpenAvnu.MsrpListeners
