import OpenAvnu.IntervalSearch
import OpenAvnu.MaapDaemon

/-!
# What the building blocks of a MAAP client change

The tree by its contents, the store up to the fields written.
-/

namespace OpenAvnu.MaapFrame

open Intervals MaapTimer MaapClient List

/-- A range without its place and its due time, which bookkeeping may rewrite. -/
def essence (range:Range) : Range := {range with interval:=none,nextActTime:=default}
def SameRanges (mc mc':Client) : Prop := ∀r,(mc'.store r).map essence=(mc.store r).map essence

variable (mc:Client) {a b c mc':Client} {range:Range} (ref:Nat) (env:Env)
 {len start:Nat}

lemma SameRanges.refl : SameRanges mc mc := fun _=>rfl
lemma SameRanges.trans (hab:SameRanges a b) (hbc:SameRanges b c) : SameRanges a c := fun r=>(hbc r).trans (hab r)
lemma SameRanges.symm (h:SameRanges a b) : SameRanges b a :=
 fun r=>(h r).symm
lemma SameRanges.get {mc:Client} (h:SameRanges mc mc') {r:Nat}
 (hr:mc.store r=some range) : ∃range',mc'.store r=some range' ∧ essence range'=essence range := by
 have:=h r
 rw[hr] at this
 simpa using this
lemma state_of_essence {a b:Range} (h:essence a=essence b) : a.state=b.state := by
 simpa[essence] using congrArg Range.state h
lemma overlapping_of_essence {a b:Range} (h:essence a=essence b) : a.overlapping=b.overlapping := by
 simpa[essence] using congrArg Range.overlapping h

structure SameConfig (mc mc':Client) : Prop where
 initialized:mc'.initialized=mc.initialized
 destMac:mc'.destMac=mc.destMac
 srcMac:mc'.srcMac=mc.srcMac
 addressBase:mc'.addressBase=mc.addressBase
 rangeLen:mc'.rangeLen=mc.rangeLen

def tables (mc:Client) :=
 (mc.ranges,mc.store,mc.timerQueue,mc.initialized,mc.destMac,mc.srcMac,mc.addressBase,mc.rangeLen)

lemma SameConfig.refl : SameConfig mc mc := ⟨rfl,rfl,rfl,rfl,rfl⟩
lemma SameConfig.trans (hab:SameConfig a b) (hbc:SameConfig b c) : SameConfig a c :=
 ⟨hbc.1.trans hab.1,hbc.2.trans hab.2,hbc.3.trans hab.3,hbc.4.trans hab.4,hbc.5.trans hab.5⟩
lemma store_modifyRange (r:Nat) (f:Range → Range) :
 (mc.modifyRange ref f).store r=if r=ref then (mc.store r).map f else mc.store r := rfl
lemma range_eq {mc:Client} {ref:Nat} (h:mc.store ref=some range) : mc.range ref=range := by
 simp[Client.range,h]

lemma sameRanges_modifyRange {f:Range → Range}
 (hf:∀range,essence (f range)=essence range) : SameRanges mc (mc.modifyRange ref f) := by
 intro r
 rw[store_modifyRange]
 by_cases hr:r=ref
 · cases h:mc.store r<;>simp[hr,hf]
 · simp[hr]

structure Scheduled (mc:Client) (ref:Nat) (mc':Client) : Prop where
 config:SameConfig mc mc'
 ranges:mc'.ranges=mc.ranges
 queue:∃due,mc'.timerQueue=requeueTimer due ref mc.timerQueue
 store:∃due : Range → Time,mc'.store=fun r=>
  if r=ref then (mc.store r).map fun range=>{range with nextActTime := due range}
  else mc.store r
 queued:mc'.queued=mc.queued
 mallocs:mc'.mallocs=mc.mallocs
 callocs:mc'.callocs=mc.callocs
 late:mc'.late=mc.late

lemma armRange_scheduled (mc:Client) (ref:Nat) : (∃due:Range → Time,(mc.armRange env ref).store=fun r=>
  if r=ref then (mc.store r).map fun range=>{range with nextActTime:=due range}
  else mc.store r) ∧
 ∃store draws readings,
  mc.armRange env ref = {mc with store:=store,draws:=draws,readings:=readings} := by
 have hkeep:mc.store=fun r=>
  if r=ref then (mc.store r).map fun range=>{range with nextActTime:=range.nextActTime}
  else mc.store r:=by
  funext r
  cases h:mc.store r<;>simp
 unfold Client.armRange
 split
 · exact ⟨⟨_,rfl⟩,_,_,_,rfl⟩
 · exact ⟨⟨_,rfl⟩,_,_,_,rfl⟩
 · exact ⟨⟨_,hkeep⟩,_,_,_,rfl⟩

lemma scheduleTimer_spec (mc:Client) (ref:Nat) : Scheduled mc ref (mc.scheduleTimer env ref) := by
 obtain ⟨hstore,store,draws,readings,heq⟩:=armRange_scheduled env mc ref
 have hqueue:(mc.scheduleTimer env ref).timerQueue=
  requeueTimer (fun r=>((mc.armRange env ref).range r).nextActTime) ref mc.timerQueue:=by
  rw[Client.scheduleTimer,Client.enqueueTimer,heq]
 unfold Client.scheduleTimer Client.enqueueTimer at hqueue ⊢
 rw[heq] at hstore hqueue ⊢
 exact ⟨⟨rfl,rfl,rfl,rfl,rfl⟩,rfl,⟨_,hqueue⟩,hstore,rfl,rfl,rfl,rfl⟩

lemma startTimer_eq : ∃timer,mc.startTimer = {mc with timer:=timer} := by
 unfold Client.startTimer
 split
 · exact ⟨mc.timer,rfl⟩
 · exact ⟨_,rfl⟩

lemma Scheduled.sameRanges {mc:Client} {ref:Nat} (h:Scheduled mc ref mc') : SameRanges mc mc' := by
 intro r
 obtain ⟨due,hstore⟩:=h.store
 simp only[hstore]
 by_cases hr:r=ref
 · subst hr
   cases mc.store r<;>simp[essence]
 · simp[hr]

lemma Scheduled.interval {mc:Client} {ref:Nat} (h:Scheduled mc ref mc') (r:Nat) :
 (mc'.store r).map Range.interval=(mc.store r).map Range.interval := by
 obtain ⟨due,hstore⟩:=h.store
 simp only[hstore]
 by_cases hr:r=ref
 · subst hr
   cases mc.store r<;>simp
 · simp[hr]

def blockAt (start len:Nat) (data:Option Nat) : Interval Nat := ⟨start,start+len-1,data⟩

lemma allocInterval_eq (hlen:1≤len) (h:start+len<2^32) :
 (allocInterval start len:Interval Nat)=blockAt start len none := by
 have hlow:uint32 start=start:=Nat.mod_eq_of_lt (by omega)
 have hhigh:lastOf start len=start+len-1:=by
  unfold lastOf uint32
  omega
 simp[allocInterval,blockAt,hlow,hhigh]

inductive Assigned (mc:Client) (ref len:Nat) : Client → Bool → Prop where
 | placed (start node draws:Nat) (tree:Tree Nat) (hfits:start+len ≤ mc.rangeLen)
  (hnode:mc.callocs≤node)
  (htree:insertInterval node (blockAt start len none) mc.ranges=some tree) : Assigned mc ref len
   (Client.own {mc with ranges := tree,callocs := node+1,draws := draws} node ref) true
 | full (callocs draws:Nat) (hcallocs:mc.callocs ≤ callocs) :
  Assigned mc ref len {mc with callocs := callocs,draws := draws} false
 | late (mc':Client) (hlate:mc'.late=true) : Assigned mc ref len mc' false

lemma tryInterval_cases (hlen:1≤len) (h:start+len<2^32) :
 (∃tree,insertInterval mc.callocs (blockAt start len none) mc.ranges=some tree ∧
  mc.tryInterval start len=({mc with ranges:=tree,callocs:=mc.callocs+1},some mc.callocs)) ∨
 mc.tryInterval start len=({mc with callocs:=mc.callocs+1},none) := by
 unfold Client.tryInterval
 rw[allocInterval_eq hlen h]
 cases hins:insertInterval mc.callocs (blockAt start len none) mc.ranges with
 | some tree=>exact .inl ⟨tree,rfl,by simp[hins]⟩
 | none=>exact .inr (by simp[hins])

lemma tryRandom_cases (hlen:1≤len) (tries:Nat) (mc:Client) (hfits:len ≤ mc.rangeLen)
 (hpool:mc.rangeLen<2^32) : (∃start node draws tree left,start+len ≤ mc.rangeLen ∧ mc.callocs≤node ∧
  insertInterval node (blockAt start len none) mc.ranges=some tree ∧
  Client.tryRandom env len tries mc=({mc with ranges:=tree,callocs:=node+1,draws:=draws},some (node,left))) ∨
 (∃callocs draws,mc.callocs ≤ callocs ∧
  Client.tryRandom env len tries mc=({mc with callocs:=callocs,draws:=draws},none)) := by
 induction tries generalizing mc with
 | zero=>exact .inr ⟨mc.callocs,mc.draws,le_rfl,rfl⟩
 | succ tries ih=>
  have hmod:uint32 (mc.rangeLen+1+(2^32-len))=mc.rangeLen+1-len:=by
   unfold uint32
   omega
  obtain ⟨start,hstart⟩:∃start,start=env.random mc.draws%uint32 (mc.rangeLen+1+(2^32-len)):=⟨_,rfl⟩
  have hlt:start < mc.rangeLen+1-len:=by
   rw[hstart,hmod]
   exact Nat.mod_lt _ (by omega)
  simp only[Client.tryRandom,←hstart]
  rcases tryInterval_cases {mc with draws:=mc.draws+1} hlen
   (show start+len<2^32 by omega) with ⟨tree,hins,heq⟩ | heq
  · rw[heq]
    exact .inl ⟨start,mc.callocs,mc.draws+1,tree,tries,by omega,le_rfl,hins,rfl⟩
  · rw[heq]
    rcases ih {mc with draws:=mc.draws+1,callocs:=mc.callocs+1} hfits hpool with
     ⟨start',node,draws,tree,left,hin,hnode,hins,hres⟩ | ⟨callocs,draws,hc,hres⟩
    · refine .inl ⟨start',node,draws,tree,left,hin,?_,hins,hres⟩
      have hnode':mc.callocs+1≤node:=hnode
      omega
    · refine .inr ⟨callocs,draws,?_,hres⟩
      have hc':mc.callocs+1 ≤ callocs:=hc
      omega

end OpenAvnu.MaapFrame

/-! ## Placing and removing intervals -/

namespace OpenAvnu.MaapPlacement

open Intervals IntervalOrder IntervalSearch MaapClient MaapFrame List

variable {len attemptBase:Nat} (mc:Client) (e:Entry Nat) {mc':Client} {ref r:Nat}
 {es:List (Entry Nat)}

lemma attempt_in_pool {mc:Client} (hlen:1≤len) (hfits:len ≤ mc.rangeLen)
 (hpool:mc.rangeLen<2^32) (hattempt:attemptBase+len≤2^64)
 (h:mc.attemptFits attemptBase len=true) : uint32 (attemptBase-mc.addressBase)+len ≤ mc.rangeLen := by
 simp only[Client.attemptFits,Bool.and_eq_true,decide_eq_true_eq] at h
 obtain ⟨hbase,hend⟩:=h
 unfold uint64 at hend
 unfold uint32
 omega

lemma assignInterval_spec (env:Env) (mc:Client) (ref:Nat) (hlen:1≤len)
 (hpool:mc.rangeLen<2^32) (hattempt:len ≤ mc.rangeLen → mc.attemptFits attemptBase len=true →
  uint32 (attemptBase-mc.addressBase)+len ≤ mc.rangeLen) :
 Assigned mc ref len (mc.assignInterval env ref attemptBase len).1
  (mc.assignInterval env ref attemptBase len).2 := by
 unfold Client.assignInterval
 split_ifs with hbig
 · exact .full mc.callocs mc.draws le_rfl
 have hfits:len ≤ mc.rangeLen:=by omega
 have hattempted:(∃tree start,insertInterval mc.callocs (blockAt start len none) mc.ranges=
  some tree ∧ start+len ≤ mc.rangeLen ∧ mc.tryAttempt attemptBase len=
   ({mc with ranges:=tree,callocs:=mc.callocs+1},some mc.callocs)) ∨
  ∃callocs,mc.callocs ≤ callocs ∧
   mc.tryAttempt attemptBase len=({mc with callocs:=callocs},none):=by
  unfold Client.tryAttempt
  split_ifs with hin
  · have hroom:=hattempt hfits hin
    rcases tryInterval_cases mc hlen (hroom.trans_lt hpool) with ⟨tree,hins,heq⟩ | heq
    · exact .inl ⟨tree,_,hins,hroom,heq⟩
    · exact .inr ⟨_,Nat.le_succ _,heq⟩
  · exact .inr ⟨mc.callocs,le_rfl,rfl⟩
 rcases hattempted with ⟨tree,start,hins,hroom,heq⟩|⟨callocs,hcallocs,heq⟩
 · simp only[heq]
   exact .placed start mc.callocs mc.draws tree hroom le_rfl hins
 · simp only[heq]
   rcases tryRandom_cases env hlen 1000 {mc with callocs:=callocs} hfits hpool with
    ⟨start,node,draws,tree,left,hroom,hnode,hins,hres⟩ | ⟨callocs',draws,hc,hres⟩
   · simp only[hres]
     cases left with
     | zero=>exact .late _ rfl
     | succ left=>exact .placed start node draws tree hroom (le_trans hcallocs hnode) hins
   · simp only[hres]
     exact .full callocs' draws (le_trans hcallocs hc)

lemma setData_toList (tree:Tree Nat) (node:Nat) (data:Option Nat) :
 (tree.setData node data).toList=tree.toList.map fun e=>
  if e.1=node then (e.1,{e.2 with data:=data}) else e := by
 induction tree with
 | nil=>rfl
 | node ref iv left right ihl ihr=>
  simp only[Intervals.Tree.setData,toList_node,ihl,ihr]
  by_cases h:ref=node<;>simp[h]

variable {iv:Interval Nat} {tree:Tree Nat} {node:Nat}

lemma mem_setData {data:Option Nat} (hn:RefsNodup tree) (hmem:(node,iv)∈tree.toList)
 (e:Entry Nat) : e∈(tree.setData node data).toList ↔
  e=(node,{iv with data:=data}) ∨ e.1≠node ∧ e∈tree.toList := by
 simp only[setData_toList,mem_map]
 constructor
 · rintro ⟨e',he',rfl⟩
   by_cases hnode:e'.1=node
   · obtain rfl:=inj_on_of_nodup_map hn he' hmem hnode
     exact .inl (by simp)
   · exact .inr (by simpa[hnode] using he')
 · rintro (rfl|⟨hnode,he⟩)
   · exact ⟨_,hmem,by simp⟩
   · exact ⟨e,he,by simp[hnode]⟩

lemma ordered_setData (node:Nat) (data:Option Nat) (ho:Ordered tree) : Ordered (tree.setData node data) := by
 have hbounds:∀e:Entry Nat,
  (if e.1=node then (e.1,{e.2 with data:=data}) else e).2.low=e.2.low ∧
  (if e.1=node then (e.1,{e.2 with data:=data}) else e).2.high=e.2.high:=by
  intro e
  split<;>exact ⟨rfl,rfl⟩
 constructor
 · intro e he
   rw[setData_toList,mem_map] at he
   obtain ⟨e',he',rfl⟩:=he
   rw[(hbounds e').1,(hbounds e').2]
   exact ho.proper e' he'
 · rw[setData_toList,pairwise_map]
   refine ho.sorted.imp ?_
   intro a b hab
   rw[(hbounds a).2,(hbounds b).1]
   exact hab

lemma refsNodup_setData (node:Nat) (data:Option Nat) (hn:RefsNodup tree) :
 RefsNodup (tree.setData node data) := by
 have hrefs:(tree.setData node data).toList.map Prod.fst=tree.toList.map Prod.fst:=by
  rw[setData_toList,map_map]
  refine map_congr_left fun e _=>?_
  simp only[Function.comp_apply]
  split<;>rfl
 unfold RefsNodup
 rwa[hrefs]

structure Placed (mc:Client) (ref start len node:Nat) (mc':Client) : Prop where
 config:SameConfig mc mc'
 fits:start+len ≤ mc.rangeLen
 fresh:mc.callocs≤node
 callocs:mc'.callocs=node+1
 ordered:Ordered mc'.ranges
 refsNodup:RefsNodup mc'.ranges
 entries:∀e,e∈mc'.ranges.toList ↔
  e=(node,blockAt start len (some ref)) ∨ e∈mc.ranges.toList
 free:∀e∈mc.ranges.toList,e.2.high<start ∨ start+len-1<e.2.low
 store:mc'.store=fun r=>if r=ref
  then (mc.store r).map fun range=>{range with interval := some node} else mc.store r
 timerQueue:mc'.timerQueue=mc.timerQueue
 queued:mc'.queued=mc.queued
 mallocs:mc'.mallocs=mc.mallocs
 late:mc'.late=mc.late

lemma Placed.sameRanges {mc:Client} {start node:Nat} (h:Placed mc ref start len node mc') :
 SameRanges mc mc' := by
 intro r
 simp only[h.store]
 by_cases hr:r=ref
 · subst hr
   cases mc.store r<;>simp[essence]
 · simp[hr]

lemma assigned_cases {mc:Client} {ok:Bool} (ho:Ordered mc.ranges) (hn:RefsNodup mc.ranges)
 (hfresh:∀e∈mc.ranges.toList,e.1 < mc.callocs) (hlen:1≤len)
 (h:Assigned mc ref len mc' ok) : (ok=true ∧ ∃start node,Placed mc ref start len node mc') ∨
 (ok=false ∧ ∃callocs draws,mc.callocs ≤ callocs ∧
  mc' = {mc with callocs:=callocs,draws:=draws}) ∨
 (ok=false ∧ mc'.late=true) := by
 cases h with
 | late mc' hlate=>exact .inr (.inr ⟨rfl,hlate⟩)
 | full callocs draws hcallocs=>exact .inr (.inl ⟨rfl,callocs,draws,hcallocs,rfl⟩)
 | placed start node draws tree hfits hnode htree=>
  have hblock:(blockAt start len none).low≤(blockAt start len none).high:=by
   simp only[blockAt]
   omega
  have hother:∀e∈mc.ranges.toList,e.1≠node:=fun e he=>by
   have:=hfresh e he
   omega
  refine .inl ⟨rfl,start,node,⟨⟨rfl,rfl,rfl,rfl,rfl⟩,hfits,hnode,rfl,?_,?_,?_,?_,rfl,rfl,rfl,rfl,rfl⟩⟩
  · exact ordered_setData node _ (ordered_insertInterval ho hblock htree)
  · exact refsNodup_setData node _ (refsNodup_insertInterval ho hblock hn hother htree)
  · intro e
    change e∈(tree.setData node (some ref)).toList ↔ _
    simp only[setData_toList,mem_map,mem_insertInterval ho hblock htree]
    constructor
    · rintro ⟨e',rfl|he',rfl⟩
      · exact .inl (by simp[blockAt])
      · exact .inr (by simpa[hother e' he'] using he')
    · rintro (rfl|he)
      · exact ⟨_,.inl rfl,by simp[blockAt]⟩
      · exact ⟨e,.inr he,by simp[hother e he]⟩
  · intro e he
    exact insertInterval_disjoint ho hblock htree he

def pointTo (mc:Client) (e:Entry Nat) : Client :=
 match e.2.data with
 | some ref=>mc.modifyRange ref fun range=>{range with interval:=some e.1}
 | none=>mc
@[simp] lemma pointTo_ranges : (pointTo mc e).ranges=mc.ranges := by
 unfold pointTo
 split<;>rfl

lemma repoint_eq_foldl {done todo:List (Entry Nat)} {fuel:Nat} (hn:RefsNodup mc.ranges)
 (h:mc.ranges.toList=done++todo) (hfuel:todo.length≤fuel) :
 Client.repoint fuel todo.head? mc=todo.foldl pointTo mc := by
 induction todo generalizing done fuel mc with
 | nil=>cases fuel<;>rfl
 | cons e todo ih=>
  obtain ⟨node,iv⟩:=e
  cases fuel with
  | zero=>simp at hfuel
  | succ fuel=>
   have hranges:(pointTo mc (node,iv)).ranges=mc.ranges:=pointTo_ranges mc (node,iv)
   have hnext:nextInterval mc.ranges node=todo.head?:=nextInterval_at hn h
   have hstep:Client.repoint (fuel+1) ((node,iv)::todo).head? mc=
    Client.repoint fuel (nextInterval (pointTo mc (node,iv)).ranges node)
     (pointTo mc (node,iv)):=rfl
   rw[hstep,hranges,hnext]
   have hsplit:(pointTo mc (node,iv)).ranges.toList=(done++[(node,iv)])++todo:=by
    rw[hranges,h]
    simp
   exact ih _ (by rwa[hranges]) hsplit (by simpa using hfuel)

structure Repointed (mc mc':Client) : Prop where
 config:SameConfig mc mc'
 ranges:mc'.ranges=mc.ranges
 sameRanges:SameRanges mc mc'
 timerQueue:mc'.timerQueue=mc.timerQueue
 queued:mc'.queued=mc.queued
 mallocs:mc'.mallocs=mc.mallocs
 callocs:mc'.callocs=mc.callocs
 late:mc'.late=mc.late

lemma Repointed.trans {a b c:Client} (hab:Repointed a b) (hbc:Repointed b c) : Repointed a c :=
 ⟨hab.1.trans hbc.1,hbc.2.trans hab.2,hab.3.trans hbc.3,hbc.4.trans hab.4,
  hbc.5.trans hab.5,hbc.6.trans hab.6,hbc.7.trans hab.7,hbc.8.trans hab.8⟩
lemma repointed_pointTo : Repointed mc (pointTo mc e) := by
 unfold pointTo
 split
 · exact ⟨⟨rfl,rfl,rfl,rfl,rfl⟩,rfl,sameRanges_modifyRange mc _ fun _=>rfl,rfl,rfl,rfl,rfl,rfl⟩
 · exact ⟨.refl mc,rfl,.refl mc,rfl,rfl,rfl,rfl,rfl⟩
lemma repointed_foldl (es:List (Entry Nat)) (mc:Client) : Repointed mc (es.foldl pointTo mc) := by
 induction es generalizing mc with
 | nil=>exact ⟨.refl mc,rfl,.refl mc,rfl,rfl,rfl,rfl,rfl⟩
 | cons e es ih=>exact (repointed_pointTo mc e).trans (ih _)

lemma pointTo_other {e:Entry Nat} (h:e.2.data≠some r) (mc:Client) : (pointTo mc e).store r=mc.store r := by
 unfold pointTo
 split
 · rename_i ref hdata
   have:r≠ref:=fun hr=>h (by rw[hdata,hr])
   simp[store_modifyRange,this]
 · rfl

lemma foldl_pointTo_other (h:∀e∈es,e.2.data≠some r) (mc:Client) : (es.foldl pointTo mc).store r=mc.store r := by
 induction es generalizing mc with
 | nil=>rfl
 | cons e es ih=>
  rw[foldl_cons,ih (fun e' he'=>h e' (by simp[he'])),pointTo_other (h e (by simp))]

lemma foldl_pointTo_at {e:Entry Nat} (he:e∈es) (hdata:e.2.data=some r)
 (hone:∀e'∈es,e'.2.data=some r → e'=e) (mc:Client) : (es.foldl pointTo mc).store r=
  (mc.store r).map fun range=>{range with interval:=some e.1} := by
 induction es generalizing mc with
 | nil=>simp at he
 | cons e' es ih=>
  rw[foldl_cons]
  have hfirst:e'.2.data=some r → (pointTo mc e').store r=
   (mc.store r).map fun range=>{range with interval:=some e.1}:=by
   intro hd
   obtain rfl:=hone e' (by simp) hd
   simp[pointTo,hd,store_modifyRange]
  by_cases hlater:e∈es
  · rw[ih hlater fun e'' he''=>hone e'' (by simp[he''])]
    by_cases hd:e'.2.data=some r
    · rw[hfirst hd,Option.map_map]
      rfl
    · rw[pointTo_other hd]
  · obtain rfl:e=e':=(mem_cons.1 he).resolve_right hlater
    rw[foldl_pointTo_other,hfirst hdata]
    intro e'' he'' hd
    exact hlater (hone e'' (by simp[he'']) hd▸he'')

structure Unplaced (mc:Client) (node:Nat) (mc':Client) : Prop where
 config:SameConfig mc mc'
 ordered:Ordered mc'.ranges
 refsNodup:RefsNodup mc'.ranges
 refs:∀e∈mc'.ranges.toList,∃e'∈mc.ranges.toList,e'.1=e.1
 contents:∀iv,(∃n,(n,iv)∈mc'.ranges.toList) ↔ ∃n,n≠node ∧ (n,iv)∈mc.ranges.toList
 pointers:∀e∈mc'.ranges.toList,∀r range,e.2.data=some r → mc'.store r=some range →
  range.interval=some e.1
 sameRanges:SameRanges mc mc'
 timerQueue:mc'.timerQueue=mc.timerQueue
 queued:mc'.queued=mc.queued
 mallocs:mc'.mallocs=mc.mallocs
 callocs:mc'.callocs=mc.callocs
 late:mc'.late=mc.late

lemma mem_without {before after:List (Entry Nat)}
 (hn:((before++(node,iv)::after).map Prod.fst).Nodup) (e:Entry Nat) :
 e∈before++after↔e.1≠node ∧ e∈before++(node,iv)::after := by
 simp only[map_append,map_cons,nodup_append,nodup_cons,mem_cons,mem_map] at hn
 obtain ⟨-,⟨hafter,-⟩,hbefore⟩:=hn
 simp only[mem_append,mem_cons]
 constructor
 · rintro (he|he)
   · exact ⟨fun h=>hbefore _ ⟨e,he,rfl⟩ _ (.inl rfl) h,.inl he⟩
   · exact ⟨fun h=>hafter ⟨e,he,h⟩,.inr (.inr he)⟩
 · rintro ⟨hne,he|rfl|he⟩
   · exact .inl he
   · exact absurd rfl hne
   · exact .inr he

lemma removeRangeInterval_spec {mc:Client} (ho:Ordered mc.ranges) (hn:RefsNodup mc.ranges)
 (hdata:(mc.ranges.toList.map fun e=>e.2.data).Nodup)
 (hmem:(node,iv)∈mc.ranges.toList) : Unplaced mc node (mc.removeRangeInterval node) := by
 obtain ⟨before,after,tree,freed,hrem,hlist,hcontents,hrefs⟩:=removeInterval_at hn hmem
 have hsub:(tree.toList.map Prod.snd).Sublist (mc.ranges.toList.map Prod.snd):=by
  rw[hcontents,hlist]
  simp
 have htreeNodup:RefsNodup tree:=hn.sublist hrefs
 have htreeData:(tree.toList.map fun e=>e.2.data).Nodup:=by
  have hsub':=hsub.map Intervals.Interval.data
  rw[map_map,map_map] at hsub'
  exact Nodup.sublist hsub' hdata
 -- the loop runs over the whole remaining tree
 have hloop:mc.removeRangeInterval node=tree.toList.foldl pointTo {mc with ranges:=tree}:= by
  simp only[Client.removeRangeInterval,hrem,minimumInterval_eq_head?]
  have hsplit:tree.toList=[]++tree.toList:=rfl
  exact repoint_eq_foldl {mc with ranges:=tree} htreeNodup hsplit
   (toList_length tree).le
 rw[hloop]
 have hframe:=repointed_foldl tree.toList {mc with ranges:=tree}
 have htree:(tree.toList.foldl pointTo {mc with ranges:=tree}).ranges=tree:=hframe.ranges
 refine ⟨⟨hframe.config.1,hframe.config.2,hframe.config.3,hframe.config.4,hframe.config.5⟩,
  ?_,?_,?_,?_,?_,hframe.sameRanges,hframe.timerQueue,hframe.queued,hframe.mallocs,hframe.callocs,hframe.late⟩
 · rw[htree]
   exact ordered_of_contents_sublist ho hsub
 · rw[htree]
   exact htreeNodup
 · rw[htree]
   intro e he
   simpa using hrefs.subset (mem_map_of_mem he)
 · rw[htree]
   intro jv'
   have hiff:(∃n,(n,jv')∈tree.toList)↔jv'∈(before++after).map Prod.snd:=by
    rw[←hcontents]
    simp
   rw[hiff,hlist]
   rw[RefsNodup,hlist] at hn
   simp only[mem_map,mem_without hn]
   constructor
   · rintro ⟨e,⟨hne,he⟩,rfl⟩
     exact ⟨e.1,hne,he⟩
   · rintro ⟨n,hne,he⟩
     exact ⟨(n,jv'),⟨hne,he⟩,rfl⟩
 · intro e he r range hd hstore
   rw[htree] at he
   have hone:∀e'∈tree.toList,e'.2.data=some r → e'=e:=fun e' he' hd'=>
    inj_on_of_nodup_map htreeData he' he (hd'.trans hd.symm)
   rw[foldl_pointTo_at he hd hone] at hstore
   obtain ⟨range',-,rfl⟩:=Option.map_eq_some_iff.1 hstore
   rfl

end OpenAvnu.MaapPlacement
