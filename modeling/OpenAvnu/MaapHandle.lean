import Mathlib.Data.List.TakeWhile
import OpenAvnu.MaapReaction

/-!
# The loops of `maap_handle_packet`

The first flags the ranges that overlap the packet, the second handles them one by one.
-/

namespace OpenAvnu

open List

open Intervals IntervalOrder IntervalSearch MaapClient MaapDaemon MaapFrame MaapStore MaapHoldings

namespace MaapOverlaps

open MaapConflict

variable {mc:Client}

def touches (start count:Nat) (e:Entry Nat) : Bool := intervalCheckOverlap e.2 start count
def touchesBlock (start count:Nat) (x:Holding) : Bool := intervalCheckOverlap x.block start count
def flagEntry (mc:Client) (e:Entry Nat) : Client :=
 match e.2.data with
 | some ref=>setOverlapping mc ref true
 | none=>mc
lemma flagEntry_ranges (mc:Client) (e:Entry Nat) : (flagEntry mc e).ranges=mc.ranges := by
 unfold flagEntry
 split<;>rfl

variable {done todo:List (Entry Nat)} {fuel:Nat} {e:Entry Nat}

lemma flagOverlaps_eq (start count:Nat) (mc:Client) (num:Nat) (hn:RefsNodup mc.ranges)
 (h:mc.ranges.toList=done++todo) (hfuel:todo.length≤fuel) :
 flagOverlaps start count fuel todo.head? mc num=((todo.takeWhile (touches start count)).foldl flagEntry mc,
   num+(todo.takeWhile (touches start count)).length) := by
 induction todo generalizing done fuel mc num with
 | nil=>cases fuel<;>rfl
 | cons e todo ih=>
  obtain ⟨node,iv⟩:=e
  cases fuel with
  | zero=>simp at hfuel
  | succ fuel=>
   by_cases ht:intervalCheckOverlap iv start count
   · have hranges:=flagEntry_ranges mc (node,iv)
     have hnext:nextInterval mc.ranges node=todo.head?:=nextInterval_at hn h
     have hstep:flagOverlaps start count (fuel+1) ((node,iv)::todo).head? mc num=
      flagOverlaps start count fuel (nextInterval (flagEntry mc (node,iv)).ranges node)
       (flagEntry mc (node,iv)) (num+1):=by
      simp only[head?_cons,flagOverlaps,ht]
      rfl
     have hsplit:(flagEntry mc (node,iv)).ranges.toList=(done++[(node,iv)])++todo:=by
      rw[hranges,h]
      simp
     rw[hstep,hranges,hnext,ih _ _ (by rwa[hranges]) hsplit (by simpa using hfuel)]
     rw[takeWhile_cons_of_pos (by simpa[touches] using ht)]
     simp only[foldl_cons,length_cons,Prod.mk.injEq,true_and]
     omega
   · have ht':touches start count (node,iv)=false:=by simpa[touches] using ht
     simp[flagOverlaps,ht,ht']

variable {es:List (Entry Nat)} {start count:Nat}

lemma mem_takeWhile_touches (hsorted:es.Pairwise fun a b=>a.2.high<b.2.low)
 (hproper:∀a∈es,a.2.low≤a.2.high) (hstart:∀a∈es,start≤a.2.high) (he:e∈es)
 (hte:touches start count e=true) : e∈es.takeWhile (touches start count) := by
 induction es with
 | nil=>simp at he
 | cons b es ih=>
  have hs:=pairwise_cons.1 hsorted
  by_cases hb:touches start count b=true
  · rw[takeWhile_cons_of_pos hb]
    rcases mem_cons.1 he with rfl|he
    · simp
    · exact mem_cons_of_mem _ (ih hs.2 (fun c hc=>hproper c (by simp[hc]))
       (fun c hc=>hstart c (by simp[hc])) he)
  · exfalso
    rcases mem_cons.1 he with rfl|he
    · exact hb hte
    · have hnext:=hs.1 e he
      have hp:=hproper b (by simp)
      have hst:=hstart b (by simp)
      have hb':=(overlaps_eq_false_iff b.2 start (lastOf start count)).1
       (by simpa[touches,intervalCheckOverlap] using hb)
      have hte':=(overlaps_iff e.2 start (lastOf start count)).1 hte
      omega

lemma takeWhile_touches {before after:List (Entry Nat)} (ho:Ordered mc.ranges)
 (h:mc.ranges.toList=before++e::after)
 (hbefore:∀a∈before,touches start count a=false) (he:touches start count e=true)
 (a:Entry Nat) : a∈(e::after).takeWhile (touches start count) ↔
  a∈mc.ranges.toList ∧ touches start count a=true := by
 have hsorted:=ho.sorted
 rw[h] at hsorted
 have hafter:=(pairwise_append.1 hsorted).2.1
 have hproper:∀a∈e::after,a.2.low≤a.2.high:=
  fun a ha=>ho.proper a (by rw[h];exact mem_append_right _ ha)
 have hstart:∀a∈e::after,start≤a.2.high:=by
  have he':=(overlaps_iff e.2 start (lastOf start count)).1 he
  intro a ha
  rcases mem_cons.1 ha with rfl|ha
  · exact he'.2
  · have:=(pairwise_cons.1 hafter).1 a ha
    have:=hproper a (by simp[ha])
    omega
 rw[h]
 constructor
 · intro ha
   exact ⟨mem_append_right _ ((takeWhile_sublist _).subset ha),mem_takeWhile_imp ha⟩
 · rintro ⟨ha,hta⟩
   rcases mem_append.1 ha with ha|ha
   · rw[hbefore a ha] at hta
     cases hta
   · exact mem_takeWhile_touches hafter hproper hstart ha hta

def rangesOf (es:List (Entry Nat)) : List Nat := es.filterMap fun e=>e.2.data
lemma mem_rangesOf {r:Nat} : r∈rangesOf es ↔ ∃e∈es,e.2.data=some r := by
 simp[rangesOf]

lemma map_data_eq (h:∀e∈es,∃r,e.2.data=some r) : es.map (fun e=>e.2.data)=(rangesOf es).map some := by
 induction es with
 | nil=>rfl
 | cons e es ih=>
  obtain ⟨r,hr⟩:=h e (by simp)
  rw[map_cons,ih fun e' he'=>h e' (by simp[he'])]
  simp[rangesOf,hr]

def flagAll (refs:List Nat) (store:Nat → Option Range) (r:Nat) : Option Range :=
 if r∈refs then (store r).map fun range=>{range with overlapping:=true} else store r

lemma foldl_flagEntry (es:List (Entry Nat)) (mc:Client) :
 es.foldl flagEntry mc = {mc with store:=flagAll (rangesOf es) mc.store} := by
 induction es generalizing mc with
 | nil=>
  rfl
 | cons e es ih=>
  obtain ⟨node,low,high,data⟩:=e
  rw[foldl_cons,ih]
  cases data with
  | none=>simp[flagEntry,rangesOf]
  | some ref=>
   have hstep:flagAll (rangesOf es) (flagEntry mc (node,⟨low,high,some ref⟩)).store=
    flagAll (rangesOf ((node,⟨low,high,some ref⟩)::es)) mc.store:=by
    funext r
    have hmem:r∈rangesOf ((node,⟨low,high,some ref⟩)::es) ↔
     r=ref ∨ r∈rangesOf es:=by simp[rangesOf]
    simp only[flagAll,hmem,flagEntry,setOverlapping,store_modifyRange]
    by_cases hr:r=ref<;>by_cases hin:r∈rangesOf es <;>
     simp[hr,Function.comp_def]
   rw[hstep]
   rfl

structure Flagged (mc:Client) (start count:Nat) (mc':Client) (num:Nat) : Prop where
 consistent:Consistent .closed mc'
 config:SameConfig mc mc'
 holds:∀z,Holds mc' z↔Holds mc {z with flagged := false} ∧
  z.flagged=touchesBlock start count z
 counted:∃todo : List Nat,todo.Nodup ∧ todo.length=num ∧
  ∀r,r∈todo ↔ ∃z,Holds mc' z ∧ z.flagged=true ∧ z.ref=r
 queued:mc'.queued=mc.queued
 late:mc'.late=mc.late
 mallocs:mc'.mallocs=mc.mallocs

def Calm (mc:Client) : Prop := ∀z,Holds mc z → z.flagged=false

lemma consistent_flagAll {gaps:Gaps} (h:Consistent gaps mc) (refs:List Nat) :
 Consistent gaps {mc with store:=flagAll refs mc.store} := by
 refine h.congr rfl rfl rfl le_rfl ?_ ?_
 · intro r range hr
   simp only[flagAll] at hr
   split at hr
   · obtain ⟨range',hr',-⟩:=Option.map_eq_some_iff.1 hr
     exact h.storeFresh r range' hr'
   · exact h.storeFresh r range hr
 · intro r range _ hr
   simp only[flagAll]
   split
   · exact ⟨{range with overlapping:=true},by rw[hr];rfl,.of_eq rfl rfl⟩
   · exact ⟨range,hr,.of_eq rfl rfl⟩

lemma holds_flagAll {refs:List Nat} (hcalm:Calm mc)
 (hmem:∀z:Holding,(∃n,(n,z.block)∈mc.ranges.toList) →
  (z.ref∈refs↔touchesBlock start count z=true))
 (z:Holding) : Holds {mc with store:=flagAll refs mc.store} z ↔
  Holds mc {z with flagged:=false} ∧ z.flagged=touchesBlock start count z := by
 constructor
 · rintro ⟨hin,range,hs,hst,hfl⟩
   have hiff:=hmem z hin
   simp only[flagAll] at hs
   split at hs
   · rename_i hr
     obtain ⟨range',hs',rfl⟩:=Option.map_eq_some_iff.1 hs
     have hz:Holds mc ⟨z.ref,z.state,range'.overlapping,z.low,z.high⟩:=
      ⟨hin,range',hs',hst,rfl⟩
     have hcleared:range'.overlapping=false:=hcalm _ hz
     rw[hcleared] at hz
     exact ⟨hz,by rw[hiff.1 hr,←hfl]⟩
   · rename_i hr
     have hz:Holds mc z:=⟨hin,range,hs,hst,hfl⟩
     have hflag:=hcalm z hz
     refine ⟨by rwa[←hflag],?_⟩
     rw[hflag]
     exact (Bool.eq_false_iff.2 fun ht=>hr (hiff.2 ht)).symm
 · rintro ⟨⟨hin,range,hs,hst,hfl⟩,htouch⟩
   have hiff:=hmem z hin
   refine ⟨hin,?_⟩
   simp only[flagAll]
   split_ifs with hr
   · rw[hs]
     exact ⟨_,rfl,hst,by rw[htouch,hiff.1 hr]⟩
   · refine ⟨range,hs,hst,?_⟩
     rw[htouch,Bool.eq_false_iff.2 fun ht=>hr (hiff.2 ht)]
     exact hfl

lemma flagged_of_touching (h:Consistent .closed mc) (hcalm:Calm mc)
 (hsub:es.Sublist mc.ranges.toList)
 (hes:∀e,e∈es↔e∈mc.ranges.toList ∧ touches start count e=true) :
 Flagged mc start count (es.foldl flagEntry mc) es.length := by
 have hdata:∀e∈es,∃r,e.2.data=some r:=by
  intro e he
  rcases h.owner e ((hes e).1 he).1 with ⟨hhole,-⟩|⟨r,hr,-⟩
  · cases hhole
  · exact ⟨r,hr⟩
 have hmem:∀z:Holding,(∃n,(n,z.block)∈mc.ranges.toList) →
  (z.ref∈rangesOf es↔touchesBlock start count z=true):=by
  rintro z ⟨n,hn⟩
  rw[mem_rangesOf]
  constructor
  · rintro ⟨e,he,hd⟩
    obtain ⟨hin,ht⟩:=(hes e).1 he
    obtain rfl:=h.entry_eq_of_data hin hn hd
    exact ht
  · exact fun ht=>⟨_,(hes _).2 ⟨hn,ht⟩,rfl⟩
 have hholds:=holds_flagAll hcalm hmem
 rw[foldl_flagEntry]
 refine ⟨consistent_flagAll h _,⟨rfl,rfl,rfl,rfl,rfl⟩,hholds,⟨rangesOf es,?_,?_,fun r=>?_⟩,rfl,rfl,rfl⟩
 · have hnodup:(es.map fun e=>e.2.data).Nodup:=Nodup.sublist (hsub.map _) h.data_nodup
   rw[map_data_eq hdata] at hnodup
   exact hnodup.of_map
 · simpa using (congrArg List.length (map_data_eq hdata)).symm
 · rw[mem_rangesOf]
   constructor
   · rintro ⟨e,he,hd⟩
     obtain ⟨hin,ht⟩:=(hes e).1 he
     have hold:=holds_of_entry h hin hd
     have hcleared:(mc.range r).overlapping=false:=hcalm _ hold
     rw[hcleared] at hold
     obtain ⟨node,low,high,data⟩:=e
     exact ⟨⟨r,(mc.range r).state,true,low,high⟩,(hholds _).2 ⟨hold,ht.symm⟩,rfl,rfl⟩
   · rintro ⟨z,hz,hfl,rfl⟩
     obtain ⟨hold,heq⟩:=(hholds z).1 hz
     exact mem_rangesOf.1 ((hmem z hold.1).2 (heq.symm.trans hfl))

lemma search_cases (h:Consistent .closed mc) (start count:Nat) : (searchInterval mc.ranges start count=none ∧
  ∀e∈mc.ranges.toList,touches start count e=false) ∨
 ∃before e after,mc.ranges.toList=before++e::after ∧
  searchInterval mc.ranges start count=(e::after).head? ∧
  (∀a∈before,touches start count a=false) ∧ touches start count e=true := by
 rw[searchInterval_eq_find? h.ordered h.refsNodup]
 cases hf:mc.ranges.toList.find? fun e=>e.2.overlaps start (lastOf start count) with
 | none=>
  refine .inl ⟨rfl,fun e he=>?_⟩
  simpa[touches,intervalCheckOverlap] using find?_eq_none.1 hf e he
 | some e=>
  obtain ⟨ht,before,after,hlist,hbefore⟩:=find?_eq_some_iff_append.1 hf
  refine .inr ⟨before,e,after,hlist,rfl,fun a ha=>?_,ht⟩
  simpa[touches,intervalCheckOverlap] using hbefore a ha

lemma flagOverlaps_spec (h:Consistent .closed mc) (hcalm:Calm mc) (start count:Nat) : Flagged mc start count
  (flagOverlaps start count mc.ranges.size (searchInterval mc.ranges start count) mc 0).1
  (flagOverlaps start count mc.ranges.size (searchInterval mc.ranges start count) mc 0).2 := by
 rcases search_cases h start count with ⟨hnone,hfree⟩|⟨before,e,after,hlist,hsome,hbefore,he⟩
 · have hloop:flagOverlaps start count mc.ranges.size none mc 0=(mc,0):=by
    cases mc.ranges.size<;>rfl
   rw[hnone,hloop]
   refine flagged_of_touching h hcalm (nil_sublist _) fun e=>?_
   simp only[not_mem_nil,false_iff,not_and]
   exact fun he=>by simp[hfree e he]
 · have hsub:(e::after).Sublist mc.ranges.toList:=by
    rw[hlist]
    exact sublist_append_right _ _
   rw[hsome,flagOverlaps_eq start count mc 0 h.refsNodup hlist
    (by rw[←toList_length];exact hsub.length_le),Nat.zero_add]
   exact flagged_of_touching h hcalm ((takeWhile_sublist _).trans hsub)
    (takeWhile_touches h.ordered hlist hbefore he)

def flaggedEntry (mc:Client) (e:Entry Nat) : Option (Nat×Interval Nat×Nat) :=
 match e.2.data with
 | some ref=>if (mc.range ref).overlapping then some (e.1,e.2,ref) else none
 | none=>none

lemma findFlagged_eq (hn:RefsNodup mc.ranges) (h:mc.ranges.toList=done++todo)
 (hfuel:todo.length≤fuel) : findFlagged mc fuel todo.head? = todo.findSome? (flaggedEntry mc) := by
 induction todo generalizing done fuel with
 | nil=>cases fuel<;>rfl
 | cons e todo ih=>
  obtain ⟨node,iv⟩:=e
  cases fuel with
  | zero=>simp at hfuel
  | succ fuel=>
   have hnext:nextInterval mc.ranges node=todo.head?:=nextInterval_at hn h
   have hrest:findFlagged mc fuel todo.head? = todo.findSome? (flaggedEntry mc):=
    ih (show mc.ranges.toList=(done++[(node,iv)])++todo by simp[h])
     (by simpa using hfuel)
   cases hd:iv.data with
   | none=>simp[findFlagged,flaggedEntry,hd,hnext,hrest]
   | some ref=>
    by_cases hfl:(mc.range ref).overlapping
    · simp[findFlagged,flaggedEntry,hd,hfl]
    · simp[findFlagged,flaggedEntry,hd,hfl,hnext,hrest]

lemma findFlagged_spec (h:Consistent .closed mc) (start count:Nat) {x:Holding}
 (hx:Holds mc x) (hflag:x.flagged=true) (htouch:touchesBlock start count x=true) :
 ∃(node:Nat) (y:Holding),(node,y.block)∈mc.ranges.toList ∧ Holds mc y ∧
  y.flagged=true ∧ findFlagged mc mc.ranges.size (searchInterval mc.ranges start count)=
   some (node,y.block,y.ref) := by
 obtain ⟨⟨n,hn⟩,range,hs,-,hfl⟩:=hx
 have htouch':touches start count (n,x.block)=true:=htouch
 rcases search_cases h start count with ⟨-,hfree⟩|⟨before,e,after,hlist,hsome,hbefore,-⟩
 · rw[hfree _ hn] at htouch'
   cases htouch'
 have hrange:flaggedEntry mc (n,x.block)=some (n,x.block,x.ref):=by
  simp[flaggedEntry,Holding.block,range_eq hs,hfl,hflag]
 -- the block lies behind the start of the search, so the loop finds some flagged entry
 have hafter:(n,x.block)∈e::after:=by
  rw[hlist,mem_append] at hn
  refine hn.resolve_left fun hin=>?_
  rw[hbefore _ hin] at htouch'
  cases htouch'
 have hsub:(e::after).Sublist mc.ranges.toList:=by
  rw[hlist]
  exact sublist_append_right _ _
 rw[hsome,findFlagged_eq h.refsNodup hlist (by rw[←toList_length];exact hsub.length_le)]
 cases hfind:(e::after).findSome? (flaggedEntry mc) with
 | none=>
  rw[findSome?_eq_none_iff] at hfind
  rw[hfind _ hafter] at hrange
  cases hrange
 | some found=>
  obtain ⟨⟨node,iv⟩,hmem,hfound⟩:=exists_of_findSome?_eq_some hfind
  cases hd:iv.data with
  | none=>simp[flaggedEntry,hd] at hfound
  | some ref=>
   by_cases hov:(mc.range ref).overlapping
   · have hentry:=hsub.subset hmem
     have hold:=holds_of_entry h hentry hd
     simp only[flaggedEntry,hd,hov,if_true,Option.some.injEq] at hfound
     obtain ⟨low,high,data⟩:=iv
     obtain rfl:data=some ref:=hd
     exact ⟨node,⟨ref,(mc.range ref).state,(mc.range ref).overlapping,low,high⟩,hentry,
      hold,hov,congrArg some hfound.symm⟩
   · simp[flaggedEntry,hd,hov] at hfound

end MaapOverlaps

/-! ## What a received packet does to a client -/

namespace MaapHandle

open MaapPacket MaapConflict
open MaapReaction MaapOverlaps

variable {mc mc' mc'':Client}

structure Survives (p:Packet) (mc mc':Client) (z:Holding) : Prop where
 probing:z.state=.probing → p.messageType=maapProbe
 defending:z.state=.defending → p.messageType=maapProbe →
  packMaap (defendFor mc z.low z.high p)∈mc'.queued

def Queueable (p:Packet) (mc:Client) (bytes:List UInt8) : Prop :=
 (∃y:Holding,y.low≤y.high ∧ y.high < mc.rangeLen ∧ y.high<y.low+65535 ∧
  bytes=probeFor mc y) ∨
 ∃low high,bytes=packMaap (defendFor mc low high p) ∧ p.messageType=maapProbe

structure Settles (p:Packet) (mc mc':Client) : Prop where
 consistent:Consistent .closed mc'
 calm:Calm mc'
 config:SameConfig mc mc'
 fate:∀z,Holds mc' z → Holds mc z ∨
  (Holds mc {z with flagged := true} ∧ Survives p mc mc' z) ∨
  (z.state=.probing ∧ probeFor mc z∈mc'.queued)
 queued:∃packets,mc'.queued=mc.queued++packets ∧ ∀b∈packets,Queueable p mc b
 late:mc'.late=mc.late

lemma defendFor_config (h:SameConfig mc mc') (low high:Nat) (p:Packet) :
 defendFor mc' low high p=defendFor mc low high p := by
 simp only[defendFor,h.destMac,h.srcMac,h.addressBase]
lemma probeFor_config (h:SameConfig mc mc') (y:Holding) : probeFor mc' y=probeFor mc y := by
 rw[probeFor,probeFor,claimFor_config h]

structure ResolvedOnce (p:Packet) (mc:Client) (x:Holding) (mc':Client) : Prop where
 consistent:Consistent .closed mc'
 config:SameConfig mc mc'
 fate:∀z,Holds mc' z → (Holds mc z ∧ z.ref≠x.ref) ∨
  (z.flagged=false ∧ ({z with flagged := x.flagged}=x ∧ Survives p mc mc' z ∨
   z.state=.probing ∧ probeFor mc z∈mc'.queued))
 keeps:∀z,Holds mc z → z.ref≠x.ref → Holds mc' z
 queued:∃packets,mc'.queued=mc.queued++packets ∧ ∀b∈packets,Queueable p mc b
 late:mc'.late=mc.late

variable {p:Packet} {x:Holding}

lemma Effect.once {fresh:Option Holding} {packets:List (List UInt8)}
 (heff:Effect mc x.ref fresh packets mc')
 (hfresh:∀z,fresh=some z → z.flagged=false ∧
  ({z with flagged:=x.flagged}=x ∧ Survives p mc mc' z ∨
   z.state=.probing ∧ probeFor mc z∈mc'.queued))
 (hpackets:∀b∈packets,Queueable p mc b) : ResolvedOnce p mc x mc' :=
 ⟨heff.consistent,heff.config,fun z hz=>((heff.holds z).1 hz).imp_right (hfresh z),
  fun z hz hne=>(heff.holds z).2 (.inl ⟨hz,hne⟩),⟨packets,heff.queued,hpackets⟩,heff.late⟩

lemma Effect.once_acquired {x y:Holding} (heff:Effect mc x.ref (some y) [probeFor mc y] mc')
 (hacq:Acquires mc y) : ResolvedOnce p mc x mc' := by
 refine Effect.once heff ?_ ?_
 · rintro z ⟨⟩
   refine ⟨hacq.flagged,.inr ⟨hacq.state,?_⟩⟩
   rw[heff.queued]
   simp
 · intro b hb
   obtain rfl:=mem_singleton.1 hb
   exact .inl ⟨y,hacq.proper,hacq.fits,hacq.small,rfl⟩

lemma Effect.once_released (heff:Effect mc x.ref none [] mc') : ResolvedOnce p mc x mc' :=
 Effect.once heff (by rintro z ⟨⟩) (by simp)

lemma Resolution.once (h:Resolution p mc x mc') : ResolvedOnce p mc x mc' := by
 cases h with
 | keep hwins hwhy heff=>
  refine Effect.once heff ?_ (by simp)
  rintro z ⟨⟩
  refine ⟨rfl,.inl ⟨rfl,⟨fun hs=>?_,fun hs hp=>?_⟩⟩⟩
  · rcases hwhy with hw|hw
    · exact hw.2
    · exact absurd (hw.1.symm.trans hs) (by decide)
  · rcases hwhy with hw|hw
    · exact absurd (hw.1.symm.trans hs) (by decide)
    · exact absurd hp hw.2
 | defend hstate hp heff=>
  refine Effect.once heff ?_ fun b hb=>.inr ⟨x.low,x.high,mem_singleton.1 hb,hp⟩
  rintro z ⟨⟩
  refine ⟨rfl,.inl ⟨rfl,⟨fun _=>hp,fun _ _=>?_⟩⟩⟩
  rw[heff.queued]
  simp
 | move y hstate hlost href hacq heff=>exact Effect.once_acquired heff hacq
 | giveUp hstate hlost heff hrel=>exact Effect.once_released heff
 | yield fresh packets hstate hp hlost hcase heff hrel=>
  rcases hcase with ⟨rfl,rfl⟩|⟨y,rfl,rfl,-,hacq⟩
  · exact Effect.once_released heff
  · exact Effect.once_acquired heff hacq

/-- `todo` are the flagged ranges; their blocks touch the packet. -/
structure Waits (p:Packet) (start:Nat) (todo:List Nat) (mc:Client) : Prop where
 consistent:Consistent .closed mc
 nodup:todo.Nodup
 mem:∀r,r∈todo ↔ ∃z,Holds mc z ∧ z.flagged=true ∧ z.ref=r
 touch:∀z,Holds mc z → z.flagged=true → touchesBlock start p.requestedCount z=true

variable {start num:Nat} {todo:List Nat}

lemma waits_of_flagged (h:Flagged mc start p.requestedCount mc' num) :
 ∃todo,todo.length=num ∧ Waits p start todo mc' := by
 obtain ⟨todo,hnodup,hlen,hmem⟩:=h.counted
 exact ⟨todo,hlen,h.consistent,hnodup,hmem,
  fun z hz hflag=>((h.holds z).1 hz).2.symm.trans hflag⟩

lemma ResolvedOnce.holds_flagged (h:ResolvedOnce p mc x mc') {z:Holding}
 (hflag:z.flagged=true) : Holds mc' z↔Holds mc z ∧ z.ref≠x.ref := by
 refine ⟨fun hz=>?_,fun hz=>h.keeps z hz.1 hz.2⟩
 rcases h.fate z hz with hold|⟨hclear,-⟩
 · exact hold
 · rw[hflag] at hclear
   cases hclear

lemma Waits.erase (h:Waits p start todo mc) (honce:ResolvedOnce p mc x mc') :
 Waits p start (todo.erase x.ref) mc' := by
 refine ⟨honce.consistent,h.nodup.erase _,fun r=>?_,fun z hz hflag=>
  h.touch z ((honce.holds_flagged hflag).1 hz).1 hflag⟩
 rw[h.nodup.mem_erase_iff,h.mem]
 constructor
 · rintro ⟨hne,z,hz,hflag,rfl⟩
   exact ⟨z,honce.keeps z hz hne,hflag,rfl⟩
 · rintro ⟨z,hz,hflag,rfl⟩
   obtain ⟨hold,hne⟩:=(honce.holds_flagged hflag).1 hz
   exact ⟨hne,z,hold,hflag,rfl⟩

variable (env:Env)

lemma Waits.round (h:Waits p start todo mc) (hlen:todo.length=num+1)
 (hlate:(resolveConflicts env p start (num+1) mc).late=false) :
 ∃(node:Nat) (y:Holding),(node,y.block)∈mc.ranges.toList ∧ Holds mc y ∧
  y.flagged=true ∧
  findFlagged mc mc.ranges.size (searchInterval mc.ranges start p.requestedCount)=some (node,y.block,y.ref) ∧
  Resolution p mc y (resolveConflict env p mc node y.block y.ref) ∧
  (todo.erase y.ref).length=num := by
 obtain ⟨r,todo,rfl⟩:=exists_cons_of_length_eq_add_one hlen
 obtain ⟨x,hx,hxf,-⟩:=(h.mem r).1 mem_cons_self
 obtain ⟨node,y,hnode,hy,hyf,hfind⟩:=
  findFlagged_spec h.consistent start p.requestedCount hx hxf (h.touch x hx hxf)
 simp only[resolveConflicts,hfind] at hlate
 have hlate':(resolveConflict env p mc node y.block y.ref).late=false:=by
  refine Bool.eq_false_iff.2 fun hl=>?_
  rw[late_resolveConflicts env p start num hl] at hlate
  cases hlate
 refine ⟨node,y,hnode,hy,hyf,hfind,resolveConflict_spec env p h.consistent hnode hy hlate',?_⟩
 rw[length_erase_of_mem ((h.mem y.ref).2 ⟨y,hy,hyf,rfl⟩),hlen]
 rfl

lemma ResolvedOnce.settles (hflag:x.flagged=true) (h:ResolvedOnce p mc x mc')
 (hrest:Settles p mc' mc'') (hx:Holds mc x) : Settles p mc mc'' := by
 obtain ⟨packets,hq,hpackets⟩:=h.queued
 obtain ⟨packets',hq',hpackets'⟩:=hrest.queued
 have hmem:∀b,b∈mc'.queued → b∈mc''.queued:=by
  intro b hb
  rw[hq']
  exact mem_append_left _ hb
 have hsurvives:∀{z},Survives p mc' mc'' z → Survives p mc mc'' z:=by
  intro z hz
  refine ⟨hz.probing,fun hs hp=>?_⟩
  rw[←defendFor_config h.config]
  exact hz.defending hs hp
 refine ⟨hrest.consistent,hrest.calm,h.config.trans hrest.config,fun z hz=>?_,
  ⟨packets++packets',by rw[hq',hq,append_assoc],fun b hb=>?_⟩,hrest.late.trans h.late⟩
 · rcases hrest.fate z hz with hz'|⟨hz',hsv⟩|⟨hst,hpr⟩
   · rcases h.fate z hz' with ⟨hz',-⟩|⟨hfl,⟨hzx,hsv⟩|⟨hst,hpr⟩⟩
     · exact .inl hz'
     · refine .inr (.inl ⟨?_,hsv.probing,fun hs hp=>hmem _ (hsv.defending hs hp)⟩)
       rw[hflag] at hzx
       rw[hzx]
       exact hx
     · exact .inr (.inr ⟨hst,hmem _ hpr⟩)
   · rcases h.fate _ hz' with ⟨hz',-⟩|⟨hfl,-⟩
     · exact .inr (.inl ⟨hz',hsurvives hsv⟩)
     · cases hfl
   · rw[probeFor_config h.config] at hpr
     exact .inr (.inr ⟨hst,hpr⟩)
 · rcases mem_append.1 hb with hb|hb
   · exact hpackets b hb
   · rcases hpackets' b hb with ⟨y,hle,hin,hsm,heq⟩|⟨low,high,heq,hp⟩
     · rw[h.config.rangeLen] at hin
       exact .inl ⟨y,hle,hin,hsm,by rw[heq,probeFor_config h.config]⟩
     · exact .inr ⟨low,high,by rw[heq,defendFor_config h.config],hp⟩

lemma resolveConflicts_spec (h:Waits p start todo mc) (hlen:todo.length=num)
 (hlate:(resolveConflicts env p start num mc).late=false) :
 Settles p mc (resolveConflicts env p start num mc) := by
 induction num generalizing mc todo with
 | zero=>
  obtain rfl:=length_eq_zero_iff.1 hlen
  refine ⟨h.consistent,fun z hz=>?_,.refl mc,fun z hz=>.inl hz,⟨[],?_,by simp⟩,rfl⟩
  · refine Bool.eq_false_iff.2 fun hfl=>?_
    simpa using (h.mem z.ref).2 ⟨z,hz,hfl,rfl⟩
  · exact (append_nil _).symm
 | succ num ih=>
  obtain ⟨node,y,-,hy,hyf,hfind,hres,hlen'⟩:=h.round env hlen hlate
  have honce:=Resolution.once hres
  simp only[resolveConflicts,hfind] at hlate ⊢
  exact honce.settles hyf (ih (h.erase honce) hlen' hlate) hy

structure Reacts (p:Packet) (mc mc':Client) : Prop where
 consistent:Consistent .closed mc'
 calm:Calm mc'
 config:SameConfig mc mc'
 fate:∀z,Holds mc' z →
  (Holds mc z ∧ (touchesBlock (packetStart mc p) p.requestedCount z=true →
   Survives p mc mc' z)) ∨
  (z.state=.probing ∧ probeFor mc z∈mc'.queued)
 queued:∃packets,mc'.queued=mc.queued++packets ∧ ∀b∈packets,Queueable p mc b
 late:mc'.late=mc.late

lemma handleOverlaps_spec (p:Packet) (h:Consistent .closed mc) (hcalm:Calm mc)
 (hlate:(handleOverlaps env mc p).late=false) : Reacts p mc (handleOverlaps env mc p) := by
 have hflag:Flagged mc (packetStart mc p) p.requestedCount (flagPacket mc p).1
  (flagPacket mc p).2:=flagOverlaps_spec h hcalm (packetStart mc p) p.requestedCount
 unfold handleOverlaps at hlate ⊢
 generalize flagPacket mc p=flagged at hflag hlate ⊢
 obtain ⟨todo,hlen,hwaits⟩:=waits_of_flagged hflag
 have hset:=resolveConflicts_spec env hwaits hlen hlate
 refine ⟨hset.consistent,hset.calm,hflag.config.trans hset.config,fun z hz=>?_,?_,hset.late.trans hflag.late⟩
 · have hcleared:{z with flagged:=false}=z:=by rw[←hset.calm z hz]
   rcases hset.fate z hz with hz'|⟨hz',hsv⟩|⟨hst,hpr⟩
   · obtain ⟨hold,htouch⟩:=(hflag.holds z).1 hz'
     rw[hcleared] at hold
     refine .inl ⟨hold,fun ht=>?_⟩
     rw[hset.calm z hz,ht] at htouch
     cases htouch
   · obtain ⟨hold,-⟩:=(hflag.holds _).1 hz'
     rw[hcleared] at hold
     refine .inl ⟨hold,fun _=>⟨hsv.probing,fun hs hp=>?_⟩⟩
     rw[←defendFor_config hflag.config]
     exact hsv.defending hs hp
   · rw[probeFor_config hflag.config] at hpr
     exact .inr ⟨hst,hpr⟩
 · obtain ⟨packets,hq,hpackets⟩:=hset.queued
   refine ⟨packets,by rw[hq,hflag.queued],fun b hb=>?_⟩
   rcases hpackets b hb with ⟨y,hle,hin,hsm,heq⟩|⟨low,high,heq,hp⟩
   · rw[hflag.config.rangeLen] at hin
     exact .inl ⟨y,hle,hin,hsm,by rw[heq,probeFor_config hflag.config]⟩
   · exact .inr ⟨low,high,by rw[heq,defendFor_config hflag.config],hp⟩

lemma Reacts.startTimer (h:Reacts p mc mc') : Reacts p mc mc'.startTimer := by
 obtain ⟨timer,heq⟩:=startTimer_eq mc'
 rw[heq]
 exact ⟨h.consistent.congr_store le_rfl rfl rfl,h.calm,⟨h.config.1,h.config.2,h.config.3,h.config.4,h.config.5⟩,
  fun z hz=>(h.fate z hz).imp_left fun hz'=>⟨hz'.1,fun ht=>⟨(hz'.2 ht).1,(hz'.2 ht).2⟩⟩,h.queued,h.late⟩

lemma maapHandlePacket_spec (stream:List UInt8) (h:Consistent .closed mc) (hcalm:Calm mc)
 (hlate:(maapHandlePacket env mc stream).1.late=false) : (maapHandlePacket env mc stream).1=mc ∨
  (recognized (unpackMaap stream)=true ∧ outsidePool mc (unpackMaap stream)=false ∧
   Reacts (unpackMaap stream) mc (maapHandlePacket env mc stream).1) := by
 unfold maapHandlePacket at hlate ⊢
 by_cases hshort:stream.length < maapPktSize
 · exact .inl (by rw[if_pos hshort])
 rw[if_neg hshort] at hlate ⊢
 by_cases hrec:recognized (unpackMaap stream)
 · by_cases hout:outsidePool mc (unpackMaap stream)
   · exact .inl (by simp[hrec,hout])
   · simp only[hrec,hout] at hlate ⊢
     refine .inr ⟨trivial,trivial,Reacts.startTimer (handleOverlaps_spec env _ h hcalm ?_)⟩
     obtain ⟨timer,heq⟩:=startTimer_eq (handleOverlaps env mc (unpackMaap stream))
     rw[heq] at hlate
     exact hlate
 · exact .inl (by simp[hrec])

end MaapHandle

end OpenAvnu
