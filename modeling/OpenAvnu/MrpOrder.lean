import OpenAvnu.Grouping
import OpenAvnu.MrpTable

/-!
# Insertion keeps the order

`addGrouped` puts an attribute next to one of its type.
-/

namespace OpenAvnu

open Mrp MrpEvents MrpLaws MrpSteps MrpTable MrpRuns Grouping List

namespace MrpOrder

variable {α τ:Type} [DecidableEq τ] {type:α → τ} {key:α → Nat} {r:Attribute α}
 {l:List (Attribute α)}

lemma addGrouped_cons (type:α → τ) (key:α → Nat) (r a:Attribute α)
 (rest:List (Attribute α)) : addGrouped type key r (a::rest)=
  if type a.value=type r.value then
   if key a.value<key r.value then
    match rest with
    | []=>[a,r]
    | next::_=>
     if type next.value=type r.value then a::addGrouped type key r rest
     else a::r::rest
   else r::a::rest
  else a::addGrouped type key r rest := addGrouped.eq_def type key r (a::rest)

lemma mem_addGrouped {x:Attribute α} : x∈addGrouped type key r l↔x=r ∨ x∈l := by
 obtain ⟨before,after,rfl,hadd⟩:=addGrouped_split type key r l
 rw[hadd]
 simp only[mem_append,mem_cons]
 tauto

lemma addGrouped_head (a:Attribute α) (rest:List (Attribute α)) :
 (addGrouped type key r (a::rest)).head? = some a ∨
  (type a.value=type r.value ∧ (addGrouped type key r (a::rest)).head? = some r) := by
 rw[addGrouped_cons]
 split_ifs with htype hkey
 · left
   cases rest with
   | nil=>rfl
   | cons next rest=>dsimp only;split<;>rfl
 · exact .inr ⟨htype,rfl⟩
 · exact .inl rfl

omit [DecidableEq τ] in
lemma grouped_last {a next:Attribute α} {rest:List (Attribute α)}
 (h:Grouped (fun a=>type a.value) (a::next::rest)) (hne:type next.value≠type a.value) :
 ∀b∈next::rest,type b.value≠type a.value := by
 intro b hb hba
 have hnext:=h.1 b hb hba
 rw[head?_cons,Option.map_some,Option.some_inj] at hnext
 exact hne hnext

lemma addGrouped_grouped (h:Grouped (fun a=>type a.value) l) :
 Grouped (fun a=>type a.value) (addGrouped type key r l) := by
 induction l with
 | nil=>exact ⟨by simp,trivial⟩
 | cons a rest ih=>
  have ⟨hhead,hrest⟩:=h
  rw[addGrouped_cons]
  split_ifs with htype hkey
  · cases rest with
    | nil=>exact ⟨by simp,by simp,trivial⟩
    | cons next rest=>
     dsimp only
     split_ifs with hblock
     · refine ⟨fun _ _ _=>?_,ih hrest⟩
       rcases @addGrouped_head α τ _ type key r next rest with heq|⟨-,heq⟩ <;>
        rw[heq]
       · exact congrArg some (hblock.trans htype.symm)
       · exact congrArg some htype.symm
     · -- `a` was the last of its type
       have hnone:=grouped_last h fun hnext=>hblock (hnext.trans htype)
       refine ⟨fun _ _ _=>?_,fun b hb hbr=>?_,hrest⟩
       · exact congrArg some htype.symm
       · exact absurd (hbr.trans htype.symm) (hnone b hb)
  · exact ⟨fun _ _ _=>congrArg some htype,hhead,hrest⟩
  · refine ⟨fun b hb hba=>?_,ih hrest⟩
    rcases mem_addGrouped.1 hb with rfl|hb
    · exact absurd hba.symm htype
    have hfirst:=hhead b hb hba
    cases rest with
    | nil=>cases hb
    | cons next rest=>
     rw[head?_cons,Option.map_some,Option.some_inj] at hfirst
     rcases @addGrouped_head α τ _ type key r next rest with heq|⟨hnext,-⟩
     · rw[heq,Option.map_some,hfirst]
     · exact absurd (hfirst.symm.trans hnext) htype

lemma addGrouped_sortedOn {t:τ} (hgrouped:Grouped (fun a=>type a.value) l)
 (hsorted:SortedOn (fun a=>type a.value) (fun a=>key a.value) t l)
 (habsent:type r.value=t → ∀a∈l,type a.value=t → key a.value≠key r.value) :
 SortedOn (fun a=>type a.value) (fun a=>key a.value) t (addGrouped type key r l) := by
 induction l with
 | nil=>simp[SortedOn,addGrouped]
 | cons a rest ih=>
  obtain ⟨hfirst,hlater⟩:=pairwise_cons.1 hsorted
  have hih:=ih hgrouped.2 hlater fun hr b hb=>habsent hr b (mem_cons_of_mem _ hb)
  rw[addGrouped_cons]
  split_ifs with htype hkey
  · cases rest with
    | nil=>exact .cons (by simp[hkey]) (pairwise_singleton _ _)
    | cons next rest=>
     dsimp only
     split_ifs with hblock
     · refine .cons (fun b hb hat hbt=>?_) hih
       rcases mem_addGrouped.1 hb with rfl|hb
       · exact hkey
       · exact hfirst b hb hat hbt
     · have hnone:=grouped_last hgrouped fun hnext=>hblock (hnext.trans htype)
       refine .cons (fun b hb hat hbt=>?_) (.cons (fun b hb hrt hbt=>?_) hlater)
       · rcases mem_cons.1 hb with rfl|hb
         · exact hkey
         · exact hfirst b hb hat hbt
       · exact absurd (hbt.trans (hrt.symm.trans htype.symm)) (hnone b hb)
  · refine .cons (fun b hb hrt hbt=>?_) (.cons hfirst hlater)
    have hlt:key r.value<key a.value:=by
     have:=habsent hrt a mem_cons_self (htype.trans hrt)
     omega
    rcases mem_cons.1 hb with rfl|hb
    · exact hlt
    · exact Nat.lt_trans hlt (hfirst b hb (htype.trans hrt) hbt)
  · refine .cons (fun b hb hat hbt=>?_) hih
    rcases mem_addGrouped.1 hb with rfl|hb
    · exact absurd (hat.trans hbt.symm) htype
    · exact hfirst b hb hat hbt

lemma addGrouped_arranged (h:Arranged type key (l.map (·.value)))
 (habsent:∀a∈l,type a.value=type r.value → key a.value≠key r.value) :
 Arranged type key ((addGrouped type key r l).map (·.value)) := by
 rw[arranged_map] at h ⊢
 refine ⟨addGrouped_grouped h.grouped,sortedWithin_iff.2 fun t=>?_⟩
 refine addGrouped_sortedOn h.grouped (sortedWithin_iff.1 h.sorted t) fun hr a ha hat=>?_
 exact habsent a ha (hat.trans hr.symm)

section Values
variable {app:Application α} {p2pmac:Nat} {db:Database α}

def values (db:Database α) : List α := db.attribList.map (·.value)
lemma values_entries (db:Database α) : values db=(entries db).map Entry.value := by
 rw[entries,map_map]
 rfl

lemma values_sweep {f:Entry α → Option (Entry α)} (hf:Sweeps f) {db':Database α}
 (h:entries db'=(entries db).filterMap f) : (values db').Sublist (values db) := by
 rw[values_entries,values_entries,h]
 induction entries db with
 | nil=>exact Sublist.refl _
 | cons x l ih=>
  rw[filterMap_cons]
  cases hx:f x with
  | none=>exact ih.cons _
  | some y=>
   rw[map_cons,hf.value x y hx]
   exact ih.cons_cons _

lemma values_notifyAll (db:Database α) (sent:List (List UInt8))
 (notices:List (Attribute α×Notify)) : values (notifyAll db sent notices).db=values db := by
 rw[values,notifyAll,map_map]
 rfl

lemma event_values (hlawful:Lawful app) (e:Event) (r:Option (Attribute α)) (db:Database
 α) : (values (event app p2pmac e r db).db).Sublist (values db) ∨
  ∃a,r=some a ∧ isAttributeEvent e=true ∧
   ((∀x∈db.attribList,app.sameAttribute a.value x.value=false) ∧
    (values (event app p2pmac e r db).db).Sublist ((app.add a db.attribList).map (·.value)) ∨
   ∃pre x post,db.attribList=pre++x::post ∧ app.sameAttribute a.value x.value=true ∧
    (values (event app p2pmac e r db).db).Sublist
     ((pre++app.merge db.attribList a x::post).map (·.value))) := by
 rcases event_effect hlawful p2pmac e r db with ⟨f,hf,hentries,-⟩ |
  ⟨a,pre,post,found,placed,left,ha,he,htouched⟩
 · exact .inl (values_sweep hf hentries)
 right
 refine ⟨a,ha,he,?_⟩
 have hvalue:(attributePass p2pmac e placed).value=placed.value:=by
  unfold attributePass
  split<;>rfl
 have hleft:(left.toList.map (·.value)).Sublist [placed.value]:=by
  rw[htouched.left_eq]
  split
  · exact nil_sublist _
  · rw[Option.toList_some,map_singleton,hvalue]
 have hvalues:(values (event app p2pmac e r db).db).Sublist
  ((pre++placed::post).map (·.value)):=by
  rw[htouched.outcome,values_notifyAll,values,map_append,map_append,map_append,append_assoc]
  exact (hleft.append_right _).append_left _
 cases hfound:found with
 | none=>
  obtain ⟨rfl,hother,hadd⟩:=htouched.added hfound
  exact .inl ⟨hother,by rw[hadd];exact hvalues⟩
 | some x=>
  obtain ⟨hsame,rfl⟩:=htouched.merged x hfound
  exact .inr ⟨pre,x,post,by rw[htouched.split,hfound];simp,hsame,hvalues⟩

/-- An application that inserts by type and key and merges nothing into the values. -/
structure Arranges (app:Application α) (type:α → τ) (key:α → Nat) : Prop where
 add:∀r l,app.add r l=addGrouped type key r l
 merge:∀l (r a:Attribute α),(app.merge l r a).value=a.value
 distinct:∀v w,app.sameAttribute v w=false → type w=type v → key w≠key v

lemma event_arranged (hlawful:Lawful app) (harranges:Arranges app type key) (e:Event)
 (r:Option (Attribute α)) (h:Arranged type key (values db)) :
 Arranged type key (values (event app p2pmac e r db).db) := by
 rcases @event_values α app p2pmac hlawful e r db with hsub |
  ⟨a,-,-,⟨habsent,hsub⟩ | ⟨pre,x,post,hsplit,-,hsub⟩⟩
 · exact h.sublist hsub
 · refine Arranged.sublist ?_ hsub
   rw[harranges.add]
   exact addGrouped_arranged h fun x hx=>harranges.distinct _ _ (habsent x hx)
 · refine Arranged.sublist ?_ hsub
   rw[values,hsplit] at h
   simpa only[map_append,map_cons,harranges.merge] using h

lemma participantStep_arranged {κ:Type} (hlawful:Lawful app)
 (harranges:Arranges app type key) (probe:κ → Option α)
 (parse:List UInt8 → List (MrpDecode.Call κ α)×Except MrpDecode.Stop Unit) (i:Input α)
 (db:Database α) (h:Arranged type key (values db)) :
 Arranged type key (values (participantStep (event app p2pmac) probe parse i db)) := by
 cases i with
 | request q value=>exact event_arranged hlawful harranges _ _ h
 | frame bytes=>
  exact raiseCalls_kept (I:=fun db=>Arranged type key (values db))
   (fun e r _ _=>event_arranged hlawful harranges e r) _ _ _ h
 | timer t=>exact event_arranged hlawful harranges _ _ h
 | reclaim=>
  obtain ⟨f,hf,hentries⟩:=reclaim_sweeps db
  exact h.sublist (values_sweep hf hentries)

end Values

lemma mvrp_arranges (station:BitVec 48) : Arranges (Mvrp.mvrpApplication station) (fun _=>()) BitVec.toNat where
 add := fun _ _=>rfl
 merge:=fun _ _ _=>rfl
 distinct:=fun _ _ hvw _ hkey=>of_decide_eq_false hvw (BitVec.eq_of_toNat_eq hkey)

end MrpOrder

/-! ## The order of the MSRP list -/

namespace MsrpOrder

open MrpOrder MsrpActions Runs Msrp MsrpCommands

/-- One block for each type, with increasing stream identifiers except for domains. -/
structure Ordered (l:List MsrpValue) : Prop where
 grouped:Grouped MsrpValue.type l
 sorted:∀t,t ≠ .domain → SortedOn MsrpValue.type (fun v=>v.streamId.toNat) t l

/-- The talker `r` would change the type of a talker in the list. -/
def Flips (r:MsrpValue) (l:List (Attribute MsrpValue)) : Prop :=
 ∃x∈l,sameMsrpAttribute r x.value=true ∧ x.value.type.isTalker=true ∧
  r.operation=x.value.operation ∧ x.value.type≠r.type
instance (r:MsrpValue) (l:List (Attribute MsrpValue)) : Decidable (Flips r l) :=
 inferInstanceAs (Decidable (∃x∈l,_))

/-- No action merges a talker of the other type into one of the same origin. -/
def NoFlip (interest:Interest) (a:Action) (db:Database MsrpValue) : Prop :=
 match a with
 | .raise e (some r)=>isAttributeEvent e=true →
  interested interest r.value db.attribList=true → ¬Flips r.value db.attribList
 | _=>True

variable {l' l:List MsrpValue}

lemma Ordered.sublist (h:Ordered l) (hsub:l'.Sublist l) : Ordered l' :=
 ⟨h.grouped.sublist hsub,fun t ht=>(h.sorted t ht).sublist hsub⟩

lemma sortedOn_streamId {t:MsrpType} (ht:t ≠ .domain) (l:List MsrpValue) :
 SortedOn MsrpValue.type (fun v=>v.streamId.toNat) t l ↔
  SortedOn MsrpValue.type MsrpValue.key t l := by
 have hkey:∀v:MsrpValue,v.type=t → v.key=v.streamId.toNat:=fun v hv=>by
  rw[MsrpValue.key,if_neg (hv▸ht)]
 constructor<;>refine List.Pairwise.imp fun {v w} h hv hw=>?_
 · rw[hkey v hv,hkey w hw]
   exact h hv hw
 · have hlt:=h hv hw
   rwa[hkey v hv,hkey w hw] at hlt

lemma msrpAdd_ordered {r:Attribute MsrpValue} {l:List (Attribute MsrpValue)}
 (h:Ordered (l.map (·.value)))
 (habsent:∀x∈l,sameMsrpAttribute r.value x.value=false) : Ordered ((msrpAdd r l).map (·.value)) := by
 have hgrouped:=(grouped_map _ l).1 h.grouped
 refine ⟨(grouped_map _ _).2 (addGrouped_grouped hgrouped),fun t ht=>?_⟩
 have hsorted:=(sortedOn_streamId ht _).1 (h.sorted t ht)
 rw[sortedOn_streamId ht]
 refine pairwise_map.2 (addGrouped_sortedOn hgrouped (pairwise_map.1 hsorted) ?_)
 intro hr x hx hxt hkey
 have hne:x.value.type ≠ .domain:=hxt▸ht
 rw[MsrpValue.key,MsrpValue.key,if_neg hne,if_neg (hr▸ht)] at hkey
 have hsame:sameMsrpAttribute r.value x.value=true:=by
  rw[sameMsrpAttribute_iff,if_neg hne]
  exact ⟨.inl (hr.trans hxt.symm),BitVec.eq_of_toNat_eq hkey⟩
 rw[habsent x hx] at hsame
 cases hsame

lemma Ordered.congr (h:Ordered l)
 (hl:(l.map fun v=>(v.type,v.streamId))=l'.map fun v=>(v.type,v.streamId)) : Ordered l' := by
 refine ⟨?_,fun t ht=>?_⟩
 · have hgrouped:=(@grouped_map _ _ Prod.fst _ (fun v:MsrpValue=>(v.type,v.streamId)) l).2
    h.grouped
   rw[hl] at hgrouped
   exact (@grouped_map _ _ Prod.fst _ (fun v:MsrpValue=>(v.type,v.streamId)) l').1 hgrouped
 · have hsorted:(l.map fun v=>(v.type,v.streamId)).Pairwise fun p q:MsrpType×BitVec 64=>
    p.1=t → q.1=t → p.2.toNat<q.2.toNat:=pairwise_map.2 (h.sorted t ht)
   rw[hl] at hsorted
   exact pairwise_map.1 hsorted

variable {station:BitVec 48} {p2pmac:Nat}

lemma event_ordered {interest:Interest} {e:Event} {r:Option (Attribute MsrpValue)}
 {db:Database MsrpValue} (hflip:NoFlip interest (.raise e r) db) (h:Ordered (values db)) :
 Ordered (values (msrpEvent station p2pmac interest e r db).db) := by
 rcases msrpEvent_cases station p2pmac interest e r db with ⟨heq,hpassed⟩ |
  ⟨a,-,-,-,heq⟩
 swap
 · rwa[heq,values_notifyAll]
 rw[heq]
 rcases @event_values _ _ p2pmac (msrp_lawful station) e r db with hsub |
  ⟨a,rfl,he,⟨habsent,hsub⟩ | ⟨pre,x,post,hsplit,hsame,hsub⟩⟩
 · exact h.sublist hsub
 · exact (msrpAdd_ordered h habsent).sublist hsub
 · refine Ordered.sublist (h.congr ?_) hsub
   have hmerged:=msrpMerge_merged db.attribList a x
   have htype:(msrpMerge db.attribList a x).value.type=x.value.type:=by
    rw[hmerged.type]
    split
    · next hop=>
       by_contra hne
       simp only[Bool.and_eq_true,decide_eq_true_eq] at hop
       exact hflip he (hpassed a rfl he) ⟨x,by rw[hsplit];simp,hsame,hop.1,hop.2,Ne.symm hne⟩
    · rfl
   rw[values,hsplit,map_append,map_append,map_append,map_append,map_cons,map_cons]
   rw[←hsplit]
   change _=_++((msrpMerge db.attribList a x).value.type,(msrpMerge db.attribList a x).value.streamId)::_
   rw[htype,hmerged.streamId]

lemma action_ordered (interest:Interest) (a:Action) (db:Database MsrpValue)
 (hflip:NoFlip interest a db) (h:Ordered (values db)) :
 Ordered (values (a.apply station p2pmac interest db)) := by
 cases a with
 | raise e r=>exact event_ordered hflip h
 | prune streamId=>exact h.sublist (filter_sublist.map _)
 | reclaim=>
  obtain ⟨f,hf,hentries⟩:=reclaim_sweeps db
  exact h.sublist (values_sweep hf hentries)

theorem ordered_throughout (station:BitVec 48) (p2pmac maxInterestingStreamIds:Nat)
 (enablePruning:Bool) (inputs:List MsrpInput)
 (h:Along (msrpStep station p2pmac) (EachAction station p2pmac NoFlip) inputs
  (msrpInit maxInterestingStreamIds enablePruning)) :
 Throughout (msrpStep station p2pmac) (fun db=>Ordered (values db.mrp)) inputs
  (msrpInit maxInterestingStreamIds enablePruning) := by
 refine throughout_of_along (fun i db=>msrpStep_of_eachAction (I:=fun db=>Ordered (values db))
  action_ordered i db) ?_ h
 exact ⟨trivial,fun _ _=>List.Pairwise.nil⟩

def threeTalkers : List MsrpInput := [1,2,3].map fun streamId=>
  .command ⟨0,7500⟩ (.joinOrNewStream true false {emptyTalkListen with streamId:=streamId})

theorem threeTalkers_ordered :
 Throughout (msrpStep 0 0) (fun db=>Ordered (values db.mrp)) threeTalkers (msrpInit 0 false) := by
 apply ordered_throughout
 refine ⟨⟨fun _ _=>?_,trivial⟩,⟨fun _ _=>?_,trivial⟩,⟨fun _ _=>?_,trivial⟩,trivial⟩ <;>
  decide

theorem failed_between :
 let db:=(run (msrpStep 0 0) (threeTalkers++[.command ⟨0,7500⟩
  (.joinOrNewStream false true {emptyTalkListen with streamId:=2,failureCode:=1})])
  (msrpInit 0 false)).mrp
 (values db).map MsrpValue.type=[.talkerAdv,.talkerFailed,.talkerAdv] ∧
  ¬Ordered (values db) := by
 intro db
 have htypes:(values db).map MsrpValue.type=[.talkerAdv,.talkerFailed,.talkerAdv]:=by decide
 refine ⟨htypes,fun h=>?_⟩
 have hgrouped:=(@grouped_map _ _ id _ MsrpValue.type (values db)).2 h.grouped
 exact absurd (hgrouped.1 .talkerAdv (by decide) rfl) (by decide)

end MsrpOrder

end OpenAvnu
