import Mathlib.Data.List.Pairwise
import OpenAvnu.MaapHoldings

/-!
# Where a range stands

Nothing here depends on the order of the tree.
-/

namespace OpenAvnu

open Intervals IntervalOrder MaapTimer MaapClient MaapDaemon MaapFrame List Prod

namespace MaapSeats

/-- The fields of a range that its owner and the protocol see. -/
structure Profile where
 id:Int
 sender:Nat
 state:MaapState
 counter:Nat
 deriving DecidableEq

def profile (range:Range) : Profile := ⟨range.id,range.sender,range.state,range.counter⟩
def Block (mc:Client) (r low high:Nat) : Prop := ∃node,(node,⟨low,high,some r⟩)∈mc.ranges.toList

/-- Pointers between the tree and the store lead to what they should. -/
structure Tidy (mc:Client) : Prop where
 refsNodup:RefsNodup mc.ranges
 nodeFresh:∀e∈mc.ranges.toList,e.1 < mc.callocs
 pointer:∀e∈mc.ranges.toList,∀r,e.2.data=some r →
  (mc.store r).map Range.interval=some (some e.1)
 storeFresh:∀r,mc.mallocs ≤ r → mc.store r=none

structure At (mc:Client) (r:Nat) (p:Profile) (queued:Bool)
 (block:Option (Nat×Nat)) : Prop where
 profile:(mc.store r).map profile=some p
 queue:r∈mc.timerQueue↔queued=true
 block:∀low high,Block mc r low high↔block=some (low,high)

structure Moved (ref:Nat) (mc mc':Client) : Prop where
 tidy:Tidy mc'
 profile:∀r,r≠ref → (mc'.store r).map profile=(mc.store r).map profile
 block:∀r,r≠ref → ∀low high,Block mc' r low high↔Block mc r low high
 queue:∀r,r≠ref → (r∈mc'.timerQueue↔r∈mc.timerQueue)
 nodup:mc.timerQueue.Nodup → mc'.timerQueue.Nodup
 config:SameConfig mc mc'

variable {mc mc' mc'':Client} {ref r:Nat} {p:Profile} {queued:Bool}
 {block:Option (Nat×Nat)}

lemma Moved.refl (h:Tidy mc) : Moved ref mc mc :=
 ⟨h,fun _ _=>rfl,fun _ _ _ _=>Iff.rfl,fun _ _=>Iff.rfl,id,.refl mc⟩
lemma Moved.trans (h:Moved ref mc mc') (h':Moved ref mc' mc'') : Moved ref mc mc'' :=
 ⟨h'.tidy,fun r hr=>(h'.profile r hr).trans (h.profile r hr),
  fun r hr low high=>(h'.block r hr low high).trans (h.block r hr low high),
  fun r hr=>(h'.queue r hr).trans (h.queue r hr),fun hn=>h'.nodup (h.nodup hn),h.config.trans h'.config⟩
lemma At.moved (h:At mc r p queued block) (hm:Moved ref mc mc') (hr:r≠ref) :
 At mc' r p queued block := ⟨(hm.profile r hr).trans h.profile,(hm.queue r hr).trans h.queue,
  fun low high=>(hm.block r hr low high).trans (h.block low high)⟩

lemma Tidy.congr (h:Tidy mc) (hranges:mc'.ranges=mc.ranges) (hstore:mc'.store=mc.store)
 (hcallocs:mc.callocs ≤ mc'.callocs) (hmallocs:mc.mallocs ≤ mc'.mallocs) : Tidy mc' := by
 refine ⟨hranges▸h.refsNodup,?_,?_,?_⟩
 · rw[hranges]
   exact fun e he=>lt_of_lt_of_le (h.nodeFresh e he) hcallocs
 · rw[hranges,hstore]
   exact h.pointer
 · rw[hstore]
   exact fun r hr=>h.storeFresh r (le_trans hmallocs hr)

lemma Moved.congr (h:Tidy mc) (hcallocs:mc.callocs ≤ mc'.callocs)
 (hmallocs:mc.mallocs ≤ mc'.mallocs) (hsame:tables mc'=tables mc) : Moved ref mc mc' := by
 simp only[tables,Prod.mk.injEq] at hsame
 obtain ⟨hranges,hstore,hqueue,hinit,hdest,hsrc,hbase,hlen⟩:=hsame
 exact ⟨h.congr hranges hstore hcallocs hmallocs,fun r _=>by rw[hstore],
  fun r _ low high=>by rw[Block,Block,hranges],fun r _=>by rw[hqueue],
  fun hn=>by rwa[hqueue],⟨hinit,hdest,hsrc,hbase,hlen⟩⟩

lemma At.congr (h:At mc r p queued block) (hsame:tables mc'=tables mc) : At mc' r p queued block := by
 simp only[tables,Prod.mk.injEq] at hsame
 obtain ⟨hranges,hstore,hqueue,-⟩:=hsame
 exact ⟨by rw[hstore];exact h.profile,by rw[hqueue];exact h.queue,
  fun low high=>by rw[Block,hranges];exact h.block low high⟩

lemma At.unique {p':Profile} {queued':Bool} {block':Option (Nat×Nat)}
 (h:At mc r p queued block) (h':At mc r p' queued' block') : p=p' ∧ block=block' := by
 refine ⟨Option.some.inj (h.profile.symm.trans h'.profile),Option.ext fun b=>?_⟩
 obtain ⟨low,high⟩:=b
 exact (h.block low high).symm.trans (h'.block low high)

variable {high low:Nat} {f:Range → Range}

lemma At.block_some (h:At mc r p queued (some (low,high))) : Block mc r low high := (h.block low high).2 rfl
lemma Tidy.entry_eq (h:Tidy mc) {e e':Entry Nat} (he:e∈mc.ranges.toList)
 (he':e'∈mc.ranges.toList) (hd:e.2.data=some r) (hd':e'.2.data=some r) : e=e' := by
 have hnode:=(h.pointer e he r hd).symm.trans (h.pointer e' he' r hd')
 simp only[Option.some.injEq] at hnode
 exact inj_on_of_nodup_map h.refsNodup he he' hnode

lemma lookup_of_mem {tree:Tree Nat} {node:Nat} {iv:Interval Nat}
 (hn:RefsNodup tree) (hmem:(node,iv)∈tree.toList) : tree.lookup node=some iv := by
 unfold Intervals.Tree.lookup
 unfold RefsNodup at hn
 generalize tree.toList=es at hn hmem
 induction es with
 | nil=>cases hmem
 | cons e es ih=>
  rw[map_cons,nodup_cons] at hn
  rcases mem_cons.1 hmem with rfl|hmem
  · simp
  · have hne:(node == e.1)=false:=by
     rw[beq_eq_false_iff_ne]
     rintro rfl
     exact hn.1 (mem_map.2 ⟨_,hmem,rfl⟩)
    rw[lookup_cons,hne]
    exact ih hn.2 hmem

section
variable (h:Tidy mc)
include h

lemma Tidy.intervalOf (hb:Block mc r low high) : mc.intervalOf r=⟨low,high,some r⟩ := by
 obtain ⟨node,hmem⟩:=hb
 obtain ⟨range,hs,hi⟩:=Option.map_eq_some_iff.1 (h.pointer _ hmem r rfl)
 rw[Client.intervalOf,range_eq hs,hi,Option.bind_some,lookup_of_mem h.refsNodup hmem]
 rfl

lemma tidy_modifyRange (hf:∀range,(f range).interval=range.interval) : Tidy (mc.modifyRange ref f) := by
 have hstore:∀r,((mc.modifyRange ref f).store r).map Range.interval=(mc.store r).map Range.interval:=by
  intro r
  rw[store_modifyRange]
  split
  · cases mc.store r<;>simp[hf]
  · rfl
 refine ⟨h.refsNodup,h.nodeFresh,fun e he r hr=>?_,fun r hr=>?_⟩
 · rw[hstore]
   exact h.pointer e he r hr
 · rw[store_modifyRange,h.storeFresh r hr]
   simp

lemma moved_modifyRange {g:Profile → Profile}
 (hf:∀range,(f range).interval=range.interval)
 (hg:∀range,profile (f range)=g (profile range)) : Moved ref mc (mc.modifyRange ref f) ∧
  (∀{p queued block},At mc ref p queued block →
   At (mc.modifyRange ref f) ref (g p) queued block) := by
 refine ⟨⟨tidy_modifyRange h hf,fun r hr=>?_,fun _ _ _ _=>Iff.rfl,fun _ _=>Iff.rfl,id,
  ⟨rfl,rfl,rfl,rfl,rfl⟩⟩,fun hat=>⟨?_,hat.queue,hat.block⟩⟩
 · rw[store_modifyRange,if_neg hr]
 · obtain ⟨range,hs,rfl⟩:=Option.map_eq_some_iff.1 hat.profile
   rw[store_modifyRange,hs]
   simp[hg]

lemma moved_setState (ref:Nat) (state:MaapState) :
 Moved ref mc (setState mc ref state) ∧ (∀{p queued block},At mc ref p queued block →
  At (setState mc ref state) ref {p with state:=state} queued block) :=
 moved_modifyRange h (g:=fun p=>{p with state:=state}) (fun _=>rfl) (fun _=>rfl)
lemma moved_setCounter (ref counter:Nat) :
 Moved ref mc (setCounter mc ref counter) ∧ (∀{p queued block},At mc ref p queued block →
  At (setCounter mc ref counter) ref {p with counter:=counter} queued block) :=
 moved_modifyRange h (g:=fun p=>{p with counter:=counter}) (fun _=>rfl) (fun _=>rfl)
lemma moved_setOverlapping (ref:Nat) (flag:Bool) :
 Moved ref mc (setOverlapping mc ref flag) ∧ (∀{p queued block},At mc ref p queued block →
  At (setOverlapping mc ref flag) ref p queued block) := moved_modifyRange h (g:=id) (fun _=>rfl) (fun _=>rfl)

end

lemma moved_scheduleTimer (env:Env) (h:Tidy mc) (ref:Nat) :
 Moved ref mc (mc.scheduleTimer env ref) ∧ (∀{p queued block},At mc ref p queued block →
  At (mc.scheduleTimer env ref) ref p true block) := by
 have hsch:=scheduleTimer_spec env mc ref
 obtain ⟨due,hqueue⟩:=hsch.queue
 obtain ⟨time,hstore⟩:=hsch.store
 have hprofile:∀r,((mc.scheduleTimer env ref).store r).map profile=(mc.store r).map profile:=by
  intro r
  simp only[hstore]
  split
  · cases mc.store r<;>simp[profile]
  · rfl
 refine ⟨⟨⟨hsch.ranges▸h.refsNodup,?_,fun e he r hr=>?_,fun r hr=>?_⟩,
  fun r _=>hprofile r,fun r _ low high=>by rw[Block,Block,hsch.ranges],
  fun r hr=>by rw[hqueue,mem_requeueTimer];simp[hr],
  fun hn=>hqueue▸nodup_requeueTimer hn,hsch.config⟩,fun hat=>⟨?_,?_,?_⟩⟩
 · rw[hsch.ranges,hsch.callocs]
   exact h.nodeFresh
 · rw[hsch.interval]
   exact h.pointer e (hsch.ranges▸he) r hr
 · have hnone:=hprofile r
   rw[h.storeFresh r (hsch.mallocs▸hr)] at hnone
   simpa using hnone
 · rw[hprofile,hat.profile]
 · simp[hqueue,mem_requeueTimer]
 · intro low high
   rw[Block,hsch.ranges]
   exact hat.block low high

lemma moved_pop {rest:List Nat} (h:Tidy mc) (hqueue:mc.timerQueue=ref::rest)
 (hn:mc.timerQueue.Nodup) :
 Moved ref mc {mc with timerQueue:=rest} ∧ (∀{p queued block},At mc ref p queued block →
  At {mc with timerQueue:=rest} ref p false block) := by
 have hnodup:=hn
 rw[hqueue,nodup_cons] at hnodup
 refine ⟨⟨h.congr rfl rfl le_rfl le_rfl,fun _ _=>rfl,fun _ _ _ _=>Iff.rfl,
  fun r hr=>by simp[hqueue,hr],fun _=>hnodup.2,⟨rfl,rfl,rfl,rfl,rfl⟩⟩,
  fun hat=>⟨hat.profile,?_,hat.block⟩⟩
 simpa using hnodup.1

lemma moved_withRange (h:Tidy mc) (hqueue:mc.mallocs∉mc.timerQueue)
 (hfree:∀low high,¬Block mc mc.mallocs low high) (range:Range) : Moved mc.mallocs mc (withRange mc range) ∧
  At (withRange mc range) mc.mallocs (profile range) false none := by
 have hother:∀r,r≠mc.mallocs → (withRange mc range).store r=mc.store r:=
  fun r hr=>if_neg hr
 refine ⟨⟨⟨h.refsNodup,h.nodeFresh,fun e he r hr=>?_,fun r hr=>?_⟩,
  fun r hr=>by rw[hother r hr],fun _ _ _ _=>Iff.rfl,fun _ _=>Iff.rfl,id,
  ⟨rfl,rfl,rfl,rfl,rfl⟩⟩,⟨?_,?_,fun low high=>?_⟩⟩
 · have hne:r≠mc.mallocs:=by
    rintro rfl
    obtain ⟨node,low,high,data⟩:=e
    obtain rfl:data=some mc.mallocs:=hr
    exact hfree low high ⟨node,he⟩
   rw[hother r hne]
   exact h.pointer e he r hr
 · have hlt:mc.mallocs+1 ≤ r:=hr
   rw[hother r (by omega)]
   exact h.storeFresh r (by omega)
 · simp[withRange]
 · simpa[withRange] using hqueue
 · exact iff_of_false (hfree low high) (by simp)

lemma moved_freeRange (h:Tidy mc) (hfree:∀low high,¬Block mc ref low high) :
 Moved ref mc (freeRange mc ref) := by
 have hother:∀r,r≠ref → (freeRange mc ref).store r=mc.store r:=fun r hr=>if_neg hr
 refine ⟨⟨h.refsNodup,h.nodeFresh,fun e he r hr=>?_,fun r hr=>?_⟩,
  fun r hr=>by rw[hother r hr],fun _ _ _ _=>Iff.rfl,fun _ _=>Iff.rfl,id,⟨rfl,rfl,rfl,rfl,rfl⟩⟩
 · have hne:r≠ref:=by
    rintro rfl
    obtain ⟨node,low,high,data⟩:=e
    obtain rfl:data=some r:=hr
    exact hfree low high ⟨node,he⟩
   rw[hother r hne]
   exact h.pointer e he r hr
 · by_cases hne:r=ref
   · exact if_pos hne
   · rw[hother r hne]
     exact h.storeFresh r hr

end MaapSeats

/-! ## Blocks come and go -/

namespace MaapBlocks

open IntervalSearch MaapPlacement MaapSeats

variable {mc mc' mc'':Client} {ref r:Nat} {p:Profile} {queued:Bool}
 {block:Option (Nat×Nat)}

/-- The attempts of `assign_interval`: a node may have been inserted, without a range yet. -/
inductive Grown (mc:Client) : Option (Entry Nat) → Client → Prop
 | same (callocs draws:Nat) (h:mc.callocs ≤ callocs) : Grown mc none {mc with callocs := callocs,draws := draws}
 | node (node low high draws:Nat) (tree:Tree Nat) (hnode:mc.callocs≤node)
  (hperm:tree.toList.Perm ((node,⟨low,high,none⟩)::mc.ranges.toList)) : Grown mc (some (node,⟨low,high,none⟩))
   {mc with ranges := tree,callocs := node+1,draws := draws}

variable {e:Option (Entry Nat)} (env:Env) {node:Nat} (es:List (Entry Nat))

lemma Grown.after {callocs draws:Nat} (h:mc.callocs ≤ callocs)
 (hg:Grown {mc with callocs:=callocs,draws:=draws} e mc') : Grown mc e mc' := by
 cases hg with
 | same callocs' draws' h'=>exact .same callocs' draws' (le_trans h h')
 | node node low high draws' tree hnode hperm=>
  exact .node node low high draws' tree (le_trans h hnode) hperm

lemma tryInterval_grown (mc:Client) (start len:Nat) : ∃e,Grown mc e (mc.tryInterval start len).1 ∧
  (mc.tryInterval start len).2=e.map fst := by
 unfold Client.tryInterval
 cases hins:insertInterval mc.callocs (allocInterval start len) mc.ranges with
 | some tree=>
  simp only[hins]
  exact ⟨_,.node mc.callocs _ _ mc.draws tree le_rfl (insertInterval_perm hins),rfl⟩
 | none=>
  simp only[hins]
  exact ⟨none,.same (mc.callocs+1) mc.draws (Nat.le_succ _),rfl⟩

lemma tryRandom_grown (len tries:Nat) (mc:Client) : ∃e,Grown mc e (Client.tryRandom env len tries mc).1 ∧
  (Client.tryRandom env len tries mc).2.map fst=e.map fst := by
 induction tries generalizing mc with
 | zero=>exact ⟨none,.same mc.callocs mc.draws le_rfl,rfl⟩
 | succ tries ih=>
  simp only[Client.tryRandom]
  obtain ⟨e,hg,he⟩:=tryInterval_grown {mc with draws:=mc.draws+1}
   (env.random mc.draws%uint32 (mc.rangeLen+1+(2^32-len))) len
  generalize Client.tryInterval _ _ _=tried at hg he
  obtain ⟨mc₁,found⟩:=tried
  cases found with
  | some node=>exact ⟨e,hg.after le_rfl,he⟩
  | none=>
   have hnone:e=none:=by simpa using he.symm
   subst hnone
   cases hg with
   | same callocs draws h=>
    obtain ⟨e',hg',he'⟩:=ih {mc with callocs:=callocs,draws:=draws}
    exact ⟨e',hg'.after h,he'⟩

lemma tryAttempt_grown (mc:Client) (attemptBase len:Nat) : ∃e,Grown mc e (mc.tryAttempt attemptBase len).1 ∧
  (mc.tryAttempt attemptBase len).2=e.map fst := by
 unfold Client.tryAttempt
 split
 · exact tryInterval_grown mc _ len
 · exact ⟨none,.same mc.callocs mc.draws le_rfl,rfl⟩

/-- `insert_interval` finds an overlap with the block. -/
def taken (mc:Client) (len start:Nat) : Bool :=
 (insertInterval 0 (allocInterval start len) mc.ranges).isNone
def drawn (env:Env) (mc:Client) (len n:Nat) : Nat :=
 env.random (mc.draws+n)%uint32 (mc.rangeLen+1+(2^32-len))

/-- The suggested block is not tried or taken, and of the thousand random ones only the last is not
taken. -/
def insertsLast (env:Env) (mc:Client) (attemptBase len:Nat) : Bool :=
 decide (len ≤ mc.rangeLen) &&
  !(mc.attemptFits attemptBase len&&!taken mc len (uint32 (attemptBase-mc.addressBase))) &&
  ((range 999).all (fun n=>taken mc len (drawn env mc len n))&&!taken mc len (drawn env mc len 999))

lemma insertInterval_isNone (node:Nat) (iv:Interval Nat) (tree:Tree Nat) :
 (insertInterval node iv tree).isNone=(insertInterval 0 iv tree).isNone := by
 induction tree with
 | nil=>rfl
 | node r current left right ihl ihr=>
  simp only[insertInterval]
  split_ifs<;>simp[ihl,ihr]

lemma tryInterval_taken (mc:Client) (start len:Nat) :
 mc.tryInterval start len=({mc with callocs:=mc.callocs+1},none) ∧ taken mc len start=true ∨
  ∃mc',mc.tryInterval start len=(mc',some mc.callocs) ∧ taken mc len start=false := by
 unfold Client.tryInterval taken
 rw[←insertInterval_isNone mc.callocs]
 dsimp only
 cases insertInterval mc.callocs (allocInterval start len) mc.ranges with
 | none=>exact .inl ⟨rfl,rfl⟩
 | some tree=>exact .inr ⟨_,rfl,rfl⟩

lemma tryRandom_step (len tries:Nat) (mc:Client) :
 taken mc len (drawn env mc len 0)=true ∧ Client.tryRandom env len (tries+1) mc=
  Client.tryRandom env len tries {mc with draws:=mc.draws+1,callocs:=mc.callocs+1} ∨
 taken mc len (drawn env mc len 0)=false ∧
  (Client.tryRandom env len (tries+1) mc).2=some (mc.callocs,tries) := by
 have hstart:env.random mc.draws%uint32 (mc.rangeLen+1+(2^32-len))=drawn env mc len 0:=rfl
 simp only[Client.tryRandom,hstart]
 rcases tryInterval_taken {mc with draws:=mc.draws+1} (drawn env mc len 0) len with
  ⟨heq,htaken⟩|⟨mc',heq,htaken⟩
 · rw[heq]
   exact .inl ⟨htaken,rfl⟩
 · rw[heq]
   exact .inr ⟨htaken,rfl⟩

lemma tryRandom_last (len tries:Nat) (mc:Client) :
 (Client.tryRandom env len (tries+1) mc).2.any (fun found=>found.2 == 0)=
  ((range tries).all (fun n=>taken mc len (drawn env mc len n)) &&
   !taken mc len (drawn env mc len tries)) := by
 induction tries generalizing mc with
 | zero=>
  rcases tryRandom_step env len 0 mc with ⟨htaken,heq⟩|⟨htaken,heq⟩<;>rw[heq,htaken]<;>rfl
 | succ tries ih=>
  rw[range_succ_eq_map,all_cons,all_map]
  rcases tryRandom_step env len (tries+1) mc with ⟨htaken,heq⟩|⟨htaken,heq⟩
  · have hnext:∀n,drawn env {mc with draws:=mc.draws+1,callocs:=mc.callocs+1} len n=
     drawn env mc len (n+1):=fun n=>by simp only[drawn,Nat.add_assoc,Nat.add_comm 1]
    rw[heq,ih,htaken,Bool.true_and]
    simp only[hnext]
    rfl
  · simp[htaken,heq]

lemma insertsLast_eq (mc:Client) (attemptBase len:Nat) : insertsLast env mc attemptBase len=
 (decide (len ≤ mc.rangeLen)&&(mc.tryAttempt attemptBase len).2.isNone &&
  (Client.tryRandom env len 1000 (mc.tryAttempt attemptBase len).1).2.any fun found=>
   found.2 == 0) := by
 unfold insertsLast Client.tryAttempt
 cases mc.attemptFits attemptBase len with
 | false=>simp[tryRandom_last]
 | true=>
  rcases tryInterval_taken mc (uint32 (attemptBase-mc.addressBase)) len with
   ⟨heq,htaken⟩|⟨mc',heq,htaken⟩
  · simp only[if_true,heq,htaken,tryRandom_last]
    rfl
  · simp[heq,htaken]

lemma assignInterval_cases (mc:Client) (ref attemptBase len:Nat) :
 (∃mc₁ node low high,Grown mc (some (node,⟨low,high,none⟩)) mc₁ ∧
  mc.assignInterval env ref attemptBase len=(mc₁.own node ref,true) ∧
  insertsLast env mc attemptBase len=false) ∨
 ∃mc₁ e late,Grown mc e mc₁ ∧
  mc.assignInterval env ref attemptBase len=({mc₁ with late:=late},false) ∧
  insertsLast env mc attemptBase len=e.isSome := by
 have hentry:∀{e mc₁ node},Grown mc e mc₁ → some node=e.map fst →
  ∃low high,e=some (node,⟨low,high,none⟩):=by
  rintro e mc₁ node hg he
  cases hg with
  | same=>cases he
  | node node' low high draws tree hnode hperm=>
   cases he
   exact ⟨low,high,rfl⟩
 rw[insertsLast_eq]
 unfold Client.assignInterval
 split
 · next hlen=>
    exact .inr ⟨mc,none,mc.late,.same mc.callocs mc.draws le_rfl,rfl,by simp[hlen]⟩
 next hlen=>
 rw[decide_eq_true (not_lt.1 hlen)]
 obtain ⟨e,hg,he⟩:=tryAttempt_grown mc attemptBase len
 generalize mc.tryAttempt attemptBase len=tried at hg he
 obtain ⟨mc₁,found⟩:=tried
 cases found with
 | some node=>
  obtain ⟨low,high,rfl⟩:=hentry hg he
  exact .inl ⟨mc₁,node,low,high,hg,rfl,rfl⟩
 | none=>
  have hnone:e=none:=by simpa using he.symm
  subst hnone
  cases hg with
  | same callocs draws h=>
   obtain ⟨e',hg',he'⟩:=tryRandom_grown env len 1000
    {mc with callocs:=callocs,draws:=draws}
   have hgrown:=hg'.after h
   simp only
   generalize Client.tryRandom _ _ _ _=tried at hgrown he' ⊢
   obtain ⟨mc₂,found⟩:=tried
   match found with
   | some (node,left+1)=>
    obtain ⟨low,high,rfl⟩:=hentry hgrown he'
    exact .inl ⟨mc₂,node,low,high,hgrown,rfl,rfl⟩
   | some (node,0)=>
    obtain ⟨low,high,rfl⟩:=hentry hgrown he'
    exact .inr ⟨mc₂,_,true,hgrown,rfl,rfl⟩
   | none=>
    have hnone:e'=none:=by simpa using he'.symm
    subst hnone
    exact .inr ⟨mc₂,none,mc₂.late,hgrown,rfl,rfl⟩

lemma Grown.mem_old {e':Option (Entry Nat)} (hg:Grown mc e' mc') {e:Entry Nat}
 (he:e∈mc.ranges.toList) : e∈mc'.ranges.toList := by
 cases hg with
 | same=>exact he
 | node node low high draws tree hnode hperm=>
  exact hperm.mem_iff.2 (mem_cons_of_mem _ he)

lemma Grown.mem_new {e:Entry Nat} (hg:Grown mc (some e) mc') : e∈mc'.ranges.toList ∧ mc.callocs≤e.1 := by
 cases hg with
 | node node low high draws tree hnode hperm=>
  exact ⟨hperm.mem_iff.2 mem_cons_self,hnode⟩

lemma Grown.moved (hg:Grown mc e mc') (h:Tidy mc) (ref:Nat) : Moved ref mc mc' ∧
  (∀{p queued block},At mc ref p queued block → At mc' ref p queued block) := by
 cases hg with
 | same callocs draws hc=>
  exact ⟨.congr h hc le_rfl rfl,fun hat=>hat.congr rfl⟩
 | node node low high draws tree hnode hperm=>
  have hblock:∀r lo hi,Block {mc with ranges:=tree,callocs:=node+1,draws:=draws}
   r lo hi↔Block mc r lo hi:=by
   simp only[Block,hperm.mem_iff]
   simp
  refine ⟨⟨⟨?_,fun e he=>?_,fun e he r hr=>?_,h.storeFresh⟩,fun _ _=>rfl,
   fun r _ lo hi=>hblock r lo hi,fun _ _=>Iff.rfl,id,⟨rfl,rfl,rfl,rfl,rfl⟩⟩,
   fun hat=>⟨hat.profile,hat.queue,fun lo hi=>(hblock ref lo hi).trans (hat.block lo hi)⟩⟩
  · refine (hperm.map fst).nodup_iff.2 (nodup_cons.2 ⟨?_,h.refsNodup⟩)
    intro hmem
    obtain ⟨e,he,heq⟩:=mem_map.1 hmem
    have hlt:=h.nodeFresh e he
    omega
  · rcases mem_cons.1 (hperm.mem_iff.1 he) with rfl|he
    · exact Nat.lt_succ_self node
    · exact Nat.lt_succ_of_lt (lt_of_lt_of_le (h.nodeFresh e he) hnode)
  · rcases mem_cons.1 (hperm.mem_iff.1 he) with rfl|he
    · cases hr
    · exact h.pointer e he r hr

lemma moved_own {low high:Nat} (h:Tidy mc)
 (hmem:(node,⟨low,high,none⟩)∈mc.ranges.toList) (hat:At mc ref p queued none) :
 Moved ref mc (mc.own node ref) ∧ At (mc.own node ref) ref p queued (some (low,high)) := by
 have hentries:∀e,e∈(mc.own node ref).ranges.toList ↔
  e=(node,⟨low,high,some ref⟩) ∨ e.1≠node ∧ e∈mc.ranges.toList:=
  mem_setData h.refsNodup hmem
 have hother:∀r,r≠ref → (mc.own node ref).store r=mc.store r:=fun r hr=>if_neg hr
 have hself:(mc.own node ref).store ref=
  (mc.store ref).map fun range=>{range with interval:=some node}:=if_pos rfl
 have hfree:∀e∈mc.ranges.toList,e.2.data≠some ref:=by
  rintro ⟨n,lo,hi,data⟩ he rfl
  cases (hat.block lo hi).1 ⟨n,he⟩
 refine ⟨⟨⟨refsNodup_setData node _ h.refsNodup,fun e he=>?_,fun e he r hr=>?_,
  fun r hr=>?_⟩,fun r hr=>by rw[hother r hr],fun r hr lo hi=>?_,fun _ _=>Iff.rfl,id,
  ⟨rfl,rfl,rfl,rfl,rfl⟩⟩,⟨?_,hat.queue,fun lo hi=>?_⟩⟩
 · rcases (hentries e).1 he with rfl|⟨-,he⟩
   · exact h.nodeFresh (node,⟨low,high,none⟩) hmem
   · exact h.nodeFresh e he
 · rcases (hentries e).1 he with rfl|⟨-,he⟩
   · cases hr
     obtain ⟨range,hs,-⟩:=Option.map_eq_some_iff.1 hat.profile
     rw[hself,hs]
     rfl
   · rw[hother r fun heq=>hfree e he (heq▸hr)]
     exact h.pointer e he r hr
 · by_cases hne:r=ref
   · rw[hne,hself,h.storeFresh ref (hne▸hr)]
     rfl
   · rw[hother r hne]
     exact h.storeFresh r hr
 · constructor
   · rintro ⟨n,hn⟩
     rcases (hentries _).1 hn with heq|⟨-,hn⟩
     · simp only[mk.injEq,Intervals.Interval.mk.injEq,Option.some.injEq] at heq
       exact absurd heq.2.2.2 hr
     · exact ⟨n,hn⟩
   · rintro ⟨n,hn⟩
     refine ⟨n,(hentries _).2 (.inr ⟨?_,hn⟩)⟩
     rintro rfl
     have heq:=inj_on_of_nodup_map h.refsNodup hn hmem rfl
     simp at heq
 · rw[hself,Option.map_map]
   exact hat.profile
 · constructor
   · rintro ⟨n,hn⟩
     rcases (hentries _).1 hn with heq|⟨-,hn⟩
     · simp only[mk.injEq,Intervals.Interval.mk.injEq] at heq
       rw[heq.2.1,heq.2.2.1]
     · exact absurd rfl (hfree _ hn)
   · rintro heq
     obtain ⟨rfl,rfl⟩:low=lo ∧ high=hi:=by simpa using heq
     exact ⟨node,(hentries _).2 (.inl rfl)⟩

variable {iv:Interval Nat}

lemma mem_own {node':Nat} (hmem:(node',iv)∈mc.ranges.toList) (hne:node'≠node) :
 (node',iv)∈(mc.own node ref).ranges.toList := by
 change (node',iv)∈(mc.ranges.setData node (some ref)).toList
 rw[setData_toList]
 exact mem_map.2 ⟨_,hmem,by simp[hne]⟩

lemma moved_detach (h:Tidy mc) (hmem:(node,iv)∈mc.ranges.toList)
 (hdata:iv.data=some ref) : Moved ref mc {mc with ranges:=mc.ranges.setData node none} ∧
  (∀{p queued block},At mc ref p queued block →
   At {mc with ranges:=mc.ranges.setData node none} ref p queued none) := by
 have hentries:∀e,e∈(mc.ranges.setData node none).toList ↔
  e=(node,{iv with data:=none}) ∨ e.1≠node ∧ e∈mc.ranges.toList:=
  mem_setData h.refsNodup hmem
 have hblock:∀r lo hi,Block {mc with ranges:=mc.ranges.setData node none} r lo hi ↔
  r≠ref ∧ Block mc r lo hi:=by
  intro r lo hi
  constructor
  · rintro ⟨n,hn⟩
    rcases (hentries _).1 hn with heq|⟨hnode,hn⟩
    · cases congrArg (fun e=>e.2.data) heq
    · refine ⟨?_,n,hn⟩
      rintro rfl
      exact hnode (congrArg fst (h.entry_eq hn hmem rfl hdata))
  · rintro ⟨hr,n,hn⟩
    refine ⟨n,(hentries _).2 (.inr ⟨?_,hn⟩)⟩
    rintro rfl
    have heq:=congrArg (fun e=>e.2.data) (inj_on_of_nodup_map h.refsNodup hn hmem rfl)
    exact hr (Option.some.inj (heq.trans hdata))
 refine ⟨⟨⟨refsNodup_setData node _ h.refsNodup,fun e he=>?_,fun e he r hr=>?_,
  h.storeFresh⟩,fun _ _=>rfl,fun r hr lo hi=>by simp[hblock,hr],fun _ _=>Iff.rfl,id,
  ⟨rfl,rfl,rfl,rfl,rfl⟩⟩,fun hat=>⟨hat.profile,hat.queue,fun lo hi=>by simp[hblock]⟩⟩
 · rcases (hentries e).1 he with rfl|⟨-,he⟩
   · exact h.nodeFresh (node,iv) hmem
   · exact h.nodeFresh e he
 · rcases (hentries e).1 he with rfl|⟨-,he⟩
   · cases hr
   · exact h.pointer e he r hr

lemma foldl_pointTo_eq (mc:Client) : ∃store,es.foldl pointTo mc = {mc with store:=store} := by
 induction es generalizing mc with
 | nil=>exact ⟨mc.store,rfl⟩
 | cons e es ih=>
  have hone:∃store,pointTo mc e = {mc with store:=store}:=by
   unfold pointTo
   split
   · exact ⟨_,rfl⟩
   · exact ⟨mc.store,rfl⟩
  obtain ⟨store,heq⟩:=hone
  rw[foldl_cons,heq]
  exact ih _

lemma profile_foldl_pointTo (mc:Client) (r:Nat) :
 ((es.foldl pointTo mc).store r).map profile=(mc.store r).map profile := by
 have hsame:=congrArg (Option.map profile) ((repointed_foldl es mc).sameRanges r)
 rwa[Option.map_map,Option.map_map] at hsame

lemma entry_eq_of_sublist {tree:Tree Nat} (h:Tidy mc)
 (hsub:(tree.toList.map snd).Sublist (mc.ranges.toList.map snd))
 {e e':Entry Nat} (he:e∈tree.toList) (he':e'∈tree.toList)
 (hd:e.2.data=some r) (hd':e'.2.data=some r) : e=e' := by
 have hold:mc.ranges.toList.Pairwise fun a b=>¬(a.2.data=some r ∧ b.2.data=some r):=
  List.Pairwise.imp_of_mem (fun ha hb hne hab=>hne (h.entry_eq ha hb hab.1 hab.2))
   h.refsNodup.of_map
 have hcontents:(mc.ranges.toList.map snd).Pairwise
  fun a b=>¬(a.data=some r ∧ b.data=some r):=pairwise_map.2 hold
 have hpairs:=pairwise_map.1 (hcontents.sublist hsub)
 have:Std.Symm fun a b:Entry Nat=>¬(a.2.data=some r ∧ b.2.data=some r):=
  ⟨fun _ _ hab hba=>hab hba.symm⟩
 by_contra hne
 exact hpairs.forall he he' hne ⟨hd,hd'⟩

/-- The contents of one node leave the tree; every other range is told where its block went. -/
structure Removal (mc:Client) (data:Option Nat) (mc':Client) : Prop where
 shape:∃tree store,mc' = {mc with ranges := tree,store := store}
 tidy:Tidy mc'
 profile:∀r,(mc'.store r).map profile=(mc.store r).map profile
 block:∀r low high,Block mc' r low high↔Block mc r low high ∧ data≠some r

lemma removeRangeInterval_removal (h:Tidy mc) (hmem:(node,iv)∈mc.ranges.toList) :
 Removal mc iv.data (mc.removeRangeInterval node) := by
 obtain ⟨before,after,tree,freed,hrem,hlist,hsnds,hrefs⟩:=
  removeInterval_at h.refsNodup hmem
 have hn:=h.refsNodup
 rw[RefsNodup,hlist] at hn
 have htreeNodup:RefsNodup tree:=h.refsNodup.sublist hrefs
 -- the contents that remain are those of the other nodes
 have hcontents:∀jv,(∃n,(n,jv)∈tree.toList) ↔
  ∃n,n≠node ∧ (n,jv)∈mc.ranges.toList:=by
  intro jv
  have hsnd:(∃n,(n,jv)∈tree.toList)↔jv∈(before++after).map snd:=by
   rw[←hsnds]
   simp
  rw[hsnd,hlist]
  simp only[mem_map,mem_without hn]
  constructor
  · rintro ⟨e,⟨hne,he⟩,rfl⟩
    exact ⟨e.1,hne,he⟩
  · rintro ⟨n,hne,he⟩
    exact ⟨(n,jv),⟨hne,he⟩,rfl⟩
 have hloop:mc.removeRangeInterval node=tree.toList.foldl pointTo {mc with ranges:=tree}:=by
  simp only[Client.removeRangeInterval,hrem,minimumInterval_eq_head?]
  have hsplit:tree.toList=[]++tree.toList:=rfl
  exact repoint_eq_foldl {mc with ranges:=tree} htreeNodup hsplit (toList_length tree).le
 obtain ⟨store,hstore⟩:=foldl_pointTo_eq tree.toList {mc with ranges:=tree}
 have hprofile:=profile_foldl_pointTo tree.toList {mc with ranges:=tree}
 have hpoint:=fun e (he:e∈tree.toList) r hr hone=>foldl_pointTo_at (r:=r) he hr
  hone {mc with ranges:=tree}
 rw[hloop]
 rw[hstore] at hprofile hpoint ⊢
 refine ⟨⟨tree,store,rfl⟩,⟨htreeNodup,fun e he=>?_,fun e he r hr=>?_,fun r hr=>?_⟩,hprofile,fun r low high=>?_⟩
 · obtain ⟨e',he',heq⟩:=mem_map.1 (hrefs.subset (mem_map_of_mem he))
   rw[←heq]
   exact h.nodeFresh e' he'
 · obtain ⟨n,-,hmem'⟩:=(hcontents e.2).1 ⟨e.1,he⟩
   obtain ⟨range,hs,-⟩:=Option.map_eq_some_iff.1 (h.pointer _ hmem' r hr)
   have hsub:(tree.toList.map snd).Sublist (mc.ranges.toList.map snd):=by
    rw[hsnds,hlist]
    simp
   rw[hpoint e he r hr fun e' he' hr'=>entry_eq_of_sublist h hsub he' he hr' hr,hs]
   rfl
 · have:=hprofile r
   rw[show ({mc with ranges:=tree}:Client).store r=none from h.storeFresh r hr] at this
   simpa using this
 · rw[Block,hcontents]
   constructor
   · rintro ⟨n,hne,hmem'⟩
     refine ⟨⟨n,hmem'⟩,fun hd=>hne ?_⟩
     exact congrArg fst (h.entry_eq hmem' hmem rfl hd)
   · rintro ⟨⟨n,hmem'⟩,hd⟩
     refine ⟨n,?_,hmem'⟩
     rintro rfl
     have heq:=congrArg (fun e=>e.2.data)
      (inj_on_of_nodup_map h.refsNodup hmem' hmem rfl)
     exact hd heq.symm

lemma Removal.moved {data:Option Nat} (hr:Removal mc data mc') (ref:Nat)
 (hdata:∀r,data=some r → r=ref) : Moved ref mc mc' ∧ (∀{p queued block},At mc ref p queued block →
  At mc' ref p queued (if data=some ref then none else block)) := by
 obtain ⟨tree,store,hshape⟩:=hr.shape
 have hqueue:mc'.timerQueue=mc.timerQueue:=by rw[hshape]
 refine ⟨⟨hr.tidy,fun r _=>hr.profile r,fun r hne low high=>?_,fun r _=>by rw[hqueue],
  fun hn=>hqueue▸hn,by rw[hshape];exact ⟨rfl,rfl,rfl,rfl,rfl⟩⟩,
  fun hat=>⟨(hr.profile ref).trans hat.profile,by rw[hqueue];exact hat.queue,
   fun low high=>?_⟩⟩
 · rw[hr.block]
   exact and_iff_left fun hd=>hne (hdata r hd)
 · rw[hr.block,hat.block]
   split<;>simp_all

lemma moved_releaseAt (h:Tidy mc) (hmem:(node,iv)∈mc.ranges.toList)
 (hdata:∀r,iv.data=some r → r=ref) (hat:At mc ref p queued block)
 (hblock:iv.data=some ref ∨ block=none) : Moved ref mc (releaseAt mc node ref) ∧
  At (releaseAt mc node ref) ref {p with state:=.released} queued none := by
 obtain ⟨hmoved,hstands⟩:=(removeRangeInterval_removal h hmem).moved ref hdata
 obtain ⟨hmoved',hstands'⟩:=moved_setState hmoved.tidy ref .released
 refine ⟨hmoved.trans hmoved',hstands' ?_⟩
 have hnone:(if iv.data=some ref then none else block)=none:=by
  rcases hblock with hd|hb
  · rw[if_pos hd]
  · rw[hb,ite_self]
 rw[←hnone]
 exact hstands hat

lemma Grown.ranges_eq_iff (hg:Grown mc e mc') :
 mc'.ranges.toList.length=mc.ranges.toList.length↔e.isSome=false := by
 cases hg with
 | same=>simp
 | node node low high draws tree hnode hperm=>simp[hperm.length_eq]

lemma assignInterval_trace (mc:Client) (ref attemptBase len:Nat) :
 (mc.assignInterval env ref attemptBase len).1.timerQueue=mc.timerQueue ∧
  (((mc.assignInterval env ref attemptBase len).2=false ↔
   (mc.assignInterval env ref attemptBase len).1.ranges=mc.ranges) ↔
   insertsLast env mc attemptBase len=false) := by
 rcases assignInterval_cases env mc ref attemptBase len with
  ⟨mc₁,node,low,high,hg,heq,hlast⟩ | ⟨mc₁,e,late,hg,heq,hlast⟩
 · have hne:(mc₁.own node ref).ranges≠mc.ranges:=by
    intro hsame
    have hlen:=congrArg (fun tree:Tree Nat=>tree.toList.length) hsame
    simp only[Client.own,setData_toList,length_map] at hlen
    exact absurd (hg.ranges_eq_iff.1 hlen) (by simp)
   rw[heq,hlast]
   refine ⟨by cases hg;rfl,?_⟩
   simp[hne]
 · rw[heq,hlast]
   refine ⟨by cases hg<;>rfl,?_⟩
   rw[←hg.ranges_eq_iff]
   simp only[true_iff]
   refine ⟨fun hsame=>by rw[hsame],fun hlen=>?_⟩
   cases hg with
   | same=>rfl
   | node node low high draws tree hnode hperm=>simp[hperm.length_eq] at hlen

def asking (env:Env) (mc:Client) (sender:Nat) : Client :=
 withRange {mc with maxid:=mc.maxid+1} (newRange env mc (mc.maxid+1) sender)

theorem failure_leaves_no_trace {env:Env} {mc:Client} (hid:0 ≤ mc.maxid) : (∀ref attemptBase len,
  (mc.assignInterval env ref attemptBase len).1.timerQueue=mc.timerQueue ∧
   (((mc.assignInterval env ref attemptBase len).2=false ↔
    (mc.assignInterval env ref attemptBase len).1.ranges=mc.ranges) ↔
    insertsLast env mc attemptBase len=false)) ∧
  ∀sender attemptBase length,
   insertsLast env (asking env mc sender) attemptBase (uint16 length)=false →
   (maapReserveRange env mc sender attemptBase length).2 = -1 →
    (maapReserveRange env mc sender attemptBase length).1.ranges=mc.ranges ∧
     (maapReserveRange env mc sender attemptBase length).1.timerQueue=mc.timerQueue := by
 refine ⟨assignInterval_trace env mc,fun sender attemptBase length hlast hret=>?_⟩
 obtain ⟨hqueue,hranges⟩:=assignInterval_trace env (asking env mc sender) mc.mallocs attemptBase
  (uint16 length)
 have hsame:=hranges.2 hlast
 unfold maapReserveRange at hret ⊢
 split_ifs at hret ⊢ with hinit hbig hmalloc
 · exact ⟨rfl,rfl⟩
 · exact ⟨rfl,rfl⟩
 · exact ⟨rfl,rfl⟩
 · unfold asking at hqueue hsame
   simp only[reserveFresh] at hret ⊢
   generalize Client.assignInterval _ _ _ _ _=assigned at hqueue hsame hret ⊢
   obtain ⟨mc₁,found⟩:=assigned
   cases found with
   | true=>
    have hret:mc.maxid+1 = -1:=hret
    omega
   | false=>exact ⟨hsame.1 rfl,hqueue⟩

def unluckyEnv : Env where
 random := fun n=>n/1000
 clock:=fun _=>⟨0,0⟩
 malloc:=fun _=>true
def crowded (rangeLen:Nat) : Client :=
 (maapReserveRange unluckyEnv (maapInitClient (blank 0 0) 0 0 rangeLen).1 0 0 1).1

theorem full_pool_leaves_no_trace : (maapReserveRange unluckyEnv (crowded 1) 0 5 1).1.ranges=(crowded 1).ranges ∧
  (maapReserveRange unluckyEnv (crowded 1) 0 5 1).1.timerQueue=(crowded 1).timerQueue :=
 (failure_leaves_no_trace (by decide)).2 0 5 1 (by decide +kernel) (by decide +kernel)

theorem failed_reservation_leaves_block : (maapReserveRange unluckyEnv (crowded 2) 0 5 1).2 = -1 ∧
  (maapReserveRange unluckyEnv (crowded 2) 0 5 1).1.ranges.toList.length=(crowded 2).ranges.toList.length+1 := by
 decide +kernel

end MaapBlocks

end OpenAvnu
