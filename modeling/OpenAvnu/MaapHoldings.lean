import OpenAvnu.MaapPlacement

/-!
# The MAAP store invariant

While a call is at work the invariant holds up to named gaps.
-/

namespace OpenAvnu

open Intervals IntervalOrder MaapTimer MaapClient MaapDaemon MaapFrame MaapPlacement List

namespace MaapStore

def Live (range:Range) : Prop := range.state=.probing ∨ range.state=.defending

/-- A node without a range, a queued range without a node, a range with a node that is not queued.
-/
structure Gaps where
 (hole homeless unqueued:Option Nat)

def Gaps.closed : Gaps := ⟨none,none,none⟩
def Owns (gaps:Gaps) (mc:Client) (r node:Nat) : Prop :=
 ∃range,mc.store r=some range ∧ Live range ∧ range.interval=some node ∧
  (r∈mc.timerQueue ∨ gaps.unqueued=some r)
def Settled (gaps:Gaps) (mc:Client) (r:Nat) : Prop := ∃range,mc.store r=some range ∧ (range.state=.released ∨
  Live range ∧ (gaps.homeless=some r ∨ ∃e∈mc.ranges.toList,e.2.data=some r))

structure Consistent (gaps:Gaps) (mc:Client) : Prop where
 ordered:Ordered mc.ranges
 refsNodup:RefsNodup mc.ranges
 nodeFresh:∀e∈mc.ranges.toList,e.1 < mc.callocs
 inPool:∀e∈mc.ranges.toList,e.2.high < mc.rangeLen
 small:∀e∈mc.ranges.toList,e.2.high<e.2.low+65535
 poolSize:mc.rangeLen<2^32
 owner:∀e∈mc.ranges.toList,(gaps.hole=some e.1 ∧ e.2.data=none) ∨
  ∃r,e.2.data=some r ∧ Owns gaps mc r e.1
 settled:∀r∈mc.timerQueue,Settled gaps mc r
 queueNodup:mc.timerQueue.Nodup
 storeFresh:∀r range,mc.store r=some range → r < mc.mallocs

namespace Consistent

variable {gaps:Gaps} {mc mc':Client} {e' e:Entry Nat} {range:Range}
 {homeless hole unqueued:Option Nat} {ref node:Nat} {iv:Interval Nat} {r:Nat}

section
variable (h:Consistent gaps mc) (he:e∈mc.ranges.toList) (he':e'∈mc.ranges.toList)
include h he he'

lemma entry_eq
 (href:e.1=e'.1) : e=e' := inj_on_of_nodup_map h.refsNodup he he' href

lemma entry_eq_of_data (hdata:e.2.data=e'.2.data) : e=e' := by
 refine h.entry_eq he he' ?_
 rcases h.owner e he with ⟨hole,hnone⟩|⟨r,hr,range,hs,-,hi,-⟩
 · rcases h.owner e' he' with ⟨hole',-⟩|⟨r',hr',-⟩
   · exact Option.some.inj (hole.symm.trans hole')
   · rw[←hdata,hnone] at hr'
     cases hr'
 · rcases h.owner e' he' with ⟨-,hnone'⟩|⟨r',hr',range',hs',-,hi',-⟩
   · rw[←hdata,hr] at hnone'
     cases hnone'
   · obtain rfl:r=r':=Option.some.inj (hr.symm.trans (hdata.trans hr'))
     obtain rfl:range=range':=Option.some.inj (hs.symm.trans hs')
     exact Option.some.inj (hi.symm.trans hi')

end

lemma data_nodup (h:Consistent gaps mc) : (mc.ranges.toList.map fun e=>e.2.data).Nodup :=
 Nodup.map_on (fun _ he _ he'=>h.entry_eq_of_data he he') h.refsNodup.of_map
def Referenced (mc:Client) (r:Nat) : Prop := r∈mc.timerQueue ∨ ∃e∈mc.ranges.toList,e.2.data=some r

structure Stands (range range':Range) : Prop where
 live:Live range → Live range'
 released:range.state=.released → range'.state=.released
 interval:range'.interval=range.interval

lemma Stands.of_eq {range':Range} (hs:range'.state=range.state)
 (hi:range'.interval=range.interval) : Stands range range' := ⟨fun h=>by rwa[Live,hs],fun h=>hs.trans h,hi⟩

lemma congr (h:Consistent gaps mc) (hranges:mc'.ranges=mc.ranges)
 (hqueue:mc'.timerQueue=mc.timerQueue) (hlen:mc'.rangeLen=mc.rangeLen)
 (hcallocs:mc.callocs ≤ mc'.callocs) (hfresh:∀r range,mc'.store r=some range → r < mc'.mallocs)
 (hstands:∀r range,Referenced mc r → mc.store r=some range →
  ∃range',mc'.store r=some range' ∧ Stands range range') : Consistent gaps mc' := by
 refine ⟨hranges▸h.ordered,hranges▸h.refsNodup,?_,?_,hranges▸h.small,
  hlen▸h.poolSize,?_,?_,hqueue▸h.queueNodup,hfresh⟩
 · rw[hranges]
   exact fun e he=>lt_of_lt_of_le (h.nodeFresh e he) hcallocs
 · rw[hranges,hlen]
   exact h.inPool
 · rw[hranges]
   intro e he
   refine (h.owner e he).imp_right ?_
   rintro ⟨r,hr,range,hs,hlive,hi,hq⟩
   obtain ⟨range',hs',hst⟩:=hstands r range (.inr ⟨e,he,hr⟩) hs
   exact ⟨r,hr,range',hs',hst.live hlive,hst.interval.trans hi,hqueue▸hq⟩
 · rw[hqueue]
   intro r hr
   obtain ⟨range,hs,hcase⟩:=h.settled r hr
   obtain ⟨range',hs',hst⟩:=hstands r range (.inl hr) hs
   refine ⟨range',hs',?_⟩
   rw[hranges]
   exact hcase.imp hst.released (And.imp_left hst.live)

lemma congr_store (h:Consistent gaps mc) (hcallocs:mc.callocs ≤ mc'.callocs)
 (hmallocs:mc'.mallocs=mc.mallocs) (hsame:tables mc'=tables mc) : Consistent gaps mc' := by
 simp only[tables,Prod.mk.injEq] at hsame
 obtain ⟨hranges,hstore,hqueue,-,-,-,-,hlen⟩:=hsame
 exact h.congr hranges hqueue hlen hcallocs (by rw[hstore,hmallocs];exact h.storeFresh)
  fun r range _ hr=>⟨range,by rw[hstore,hr],.of_eq rfl rfl⟩

lemma modify (h:Consistent gaps mc) (ref:Nat) {f:Range → Range}
 (hf:∀range,mc.store ref=some range → Stands range (f range)) : Consistent gaps (mc.modifyRange ref f) := by
 refine h.congr rfl rfl rfl le_rfl ?_ ?_
 · intro r range hr
   rw[store_modifyRange] at hr
   split at hr
   · obtain ⟨range',hr',-⟩:=Option.map_eq_some_iff.1 hr
     exact h.storeFresh r range' hr'
   · exact h.storeFresh r range hr
 · intro r range _ hr
   rw[store_modifyRange]
   by_cases href:r=ref
   · subst href
     exact ⟨f range,by simp[hr],hf range hr⟩
   · exact ⟨range,by simp[href,hr],.of_eq rfl rfl⟩

section
variable (h:Consistent ⟨hole,homeless,unqueued⟩ mc)
include h

lemma place {start len:Nat}
 (hp:Placed mc ref start len node mc') (hlen:1≤len) (hsmall:len≤65535)
 (hs:mc.store ref=some range) (hlive:Live range)
 (hnew:∀e∈mc.ranges.toList,e.2.data≠some ref)
 (hq:ref∈mc.timerQueue ∨ unqueued=some ref) (hhome:∀r,homeless=some r → r=ref) :
 Consistent ⟨hole,none,unqueued⟩ mc' := by
 have hother:∀r,r≠ref → mc'.store r=mc.store r:=by
  intro r hr
  rw[hp.store]
  simp[hr]
 have hself:mc'.store ref=some {range with interval:=some node}:=by
  rw[hp.store]
  simp[hs]
 have hforall:∀P:Entry Nat → Prop,P (node,blockAt start len (some ref)) →
  (∀e∈mc.ranges.toList,P e) → ∀e∈mc'.ranges.toList,P e:=by
  intro P hnode hold e he
  rcases (hp.entries e).1 he with rfl|he
  · exact hnode
  · exact hold e he
 have hfits:=hp.fits
 refine ⟨hp.ordered,hp.refsNodup,?_,?_,?_,hp.config.rangeLen▸h.poolSize,?_,?_,hp.timerQueue▸h.queueNodup,?_⟩
 · refine hforall _ (by simp[hp.callocs]) fun e he=>?_
   have:=h.nodeFresh e he
   have:=hp.fresh
   rw[hp.callocs]
   omega
 · rw[hp.config.rangeLen]
   refine hforall _ ?_ h.inPool
   simp only[blockAt]
   omega
 · refine hforall _ ?_ h.small
   simp only[blockAt]
   omega
 · refine hforall _ ?_ fun e he=>?_
   · exact .inr ⟨ref,rfl,_,hself,hlive,rfl,hp.timerQueue▸hq⟩
   · refine (h.owner e he).imp_right ?_
     rintro ⟨r,hr,range',hs',hlive',hi,hq'⟩
     have hne:r≠ref:=fun heq=>hnew e he (heq▸hr)
     exact ⟨r,hr,range',(hother r hne).trans hs',hlive',hi,hp.timerQueue▸hq'⟩
 · rw[hp.timerQueue]
   intro r hr
   by_cases hne:r=ref
   · subst hne
     exact ⟨_,hself,.inr ⟨hlive,.inr ⟨_,(hp.entries _).2 (.inl rfl),rfl⟩⟩⟩
   · obtain ⟨range',hs',hcase⟩:=h.settled r hr
     refine ⟨range',(hother r hne).trans hs',hcase.imp_right ?_⟩
     rintro ⟨hlive',hhl|⟨e,he,hd⟩⟩
     · exact absurd (hhome r hhl) hne
     · exact ⟨hlive',.inr ⟨e,(hp.entries e).2 (.inr he),hd⟩⟩
 · intro r range' hr
   rw[hp.mallocs]
   by_cases hne:r=ref
   · subst hne
     exact h.storeFresh r range hs
   · exact h.storeFresh r range' ((hother r hne)▸hr)

lemma unplace {homeless':Option Nat}
 (hu:Unplaced mc node mc') (hmem:(node,iv)∈mc.ranges.toList)
 (hhole:∀n,hole=some n → n=node)
 (hhome:∀r,homeless=some r ∨ iv.data=some r → homeless'=some r) : Consistent ⟨none,homeless',unqueued⟩ mc' := by
 have hback:∀e∈mc'.ranges.toList,∃n,n≠node ∧ (n,e.2)∈mc.ranges.toList:=
  fun e he=>(hu.contents e.2).1 ⟨e.1,he⟩
 refine ⟨hu.ordered,hu.refsNodup,?_,?_,?_,hu.config.rangeLen▸h.poolSize,?_,?_,hu.timerQueue▸h.queueNodup,?_⟩
 · intro e he
   obtain ⟨e',he',heq⟩:=hu.refs e he
   rw[hu.callocs,←heq]
   exact h.nodeFresh e' he'
 · intro e he
   obtain ⟨n,-,hn⟩:=hback e he
   rw[hu.config.rangeLen]
   exact h.inPool (n,e.2) hn
 · intro e he
   obtain ⟨n,-,hn⟩:=hback e he
   exact h.small (n,e.2) hn
 · intro e he
   obtain ⟨n,hne,hn⟩:=hback e he
   rcases h.owner _ hn with ⟨hhn,-⟩|⟨r,hr,range,hs,hlive,-,hq⟩
   · exact absurd (hhole n hhn) hne
   · obtain ⟨range',hs',hess⟩:=hu.sameRanges.get hs
     refine .inr ⟨r,hr,range',hs',?_,hu.pointers e he r range' hr hs',hu.timerQueue▸hq⟩
     rwa[Live,state_of_essence hess]
 · rw[hu.timerQueue]
   intro r hr
   obtain ⟨range,hs,hcase⟩:=h.settled r hr
   obtain ⟨range',hs',hess⟩:=hu.sameRanges.get hs
   refine ⟨range',hs',?_⟩
   rw[Live,state_of_essence hess]
   refine hcase.imp_right (And.imp_right ?_)
   rintro (hhl|⟨e,he,hd⟩)
   · exact .inl (hhome r (.inl hhl))
   · by_cases hn:e.1=node
     · obtain rfl:=h.entry_eq he hmem hn
       exact .inl (hhome r (.inr hd))
     · obtain ⟨n',hn'⟩:=(hu.contents e.2).2 ⟨e.1,hn,he⟩
       exact .inr ⟨_,hn',hd⟩
 · intro r range hr
   obtain ⟨range',hr',-⟩:=hu.sameRanges.symm.get hr
   rw[hu.mallocs]
   exact h.storeFresh r range' hr'

lemma schedule (hsch:Scheduled mc ref mc')
 (hset:Settled ⟨hole,homeless,unqueued⟩ mc ref) (hunq:∀r,unqueued=some r → r=ref) :
 Consistent ⟨hole,homeless,none⟩ mc' := by
 obtain ⟨due,hqueue⟩:=hsch.queue
 have hstands:∀{r range},mc.store r=some range →
  ∃range',mc'.store r=some range' ∧ range'.state=range.state ∧
   range'.interval=range.interval:=by
  intro r range hr
  obtain ⟨range',hr',hess⟩:=hsch.sameRanges.get hr
  have hi:=hsch.interval r
  rw[hr,hr'] at hi
  exact ⟨range',hr',state_of_essence hess,Option.some.inj hi⟩
 refine ⟨hsch.ranges▸h.ordered,hsch.ranges▸h.refsNodup,?_,?_,hsch.ranges▸h.small,
  hsch.config.rangeLen▸h.poolSize,?_,?_,?_,?_⟩
 · rw[hsch.ranges,hsch.callocs]
   exact h.nodeFresh
 · rw[hsch.ranges,hsch.config.rangeLen]
   exact h.inPool
 · rw[hsch.ranges]
   intro e he
   refine (h.owner e he).imp_right ?_
   rintro ⟨r,hr,range,hs,hlive,hi,hq⟩
   obtain ⟨range',hs',hst,hin⟩:=hstands hs
   refine ⟨r,hr,range',hs',by rwa[Live,hst],hin.trans hi,.inl ?_⟩
   rw[hqueue,mem_requeueTimer]
   exact hq.symm.imp (hunq r) id
 · intro r hr
   rw[hqueue,mem_requeueTimer] at hr
   obtain ⟨range,hs,hcase⟩:Settled ⟨hole,homeless,unqueued⟩ mc r:=by
    rcases hr with rfl|hr
    · exact hset
    · exact h.settled r hr
   obtain ⟨range',hs',hst,-⟩:=hstands hs
   refine ⟨range',hs',?_⟩
   rwa[Live,hst,hsch.ranges]
 · rw[hqueue]
   exact nodup_requeueTimer h.queueNodup
 · intro r range hr
   obtain ⟨range',hr',-⟩:=hsch.sameRanges.symm.get hr
   rw[hsch.mallocs]
   exact h.storeFresh r range' hr'

end

lemma detach (h:Consistent .closed mc) (hmem:(node,iv)∈mc.ranges.toList)
 (hdata:iv.data=some r) : Consistent ⟨some node,some r,none⟩ {mc with ranges:=mc.ranges.setData node none} := by
 have hentries:∀e,e∈(mc.ranges.setData node none).toList ↔
  e=(node,{iv with data:=none}) ∨ e.1≠node ∧ e∈mc.ranges.toList:=by
  intro e
  simp only[setData_toList,mem_map]
  constructor
  · rintro ⟨e',he',rfl⟩
    by_cases hn:e'.1=node
    · obtain rfl:=h.entry_eq he' hmem hn
      exact .inl (by simp)
    · exact .inr (by simpa[hn] using he')
  · rintro (rfl|⟨hn,he⟩)
    · exact ⟨_,hmem,by simp⟩
    · exact ⟨e,he,by simp[hn]⟩
 have hforall:∀P:Entry Nat → Prop,P (node,{iv with data:=none}) →
  (∀e∈mc.ranges.toList,e.1≠node → P e) →
  ∀e∈(mc.ranges.setData node none).toList,P e:=by
  intro P hnode hold e he
  rcases (hentries e).1 he with rfl|⟨hn,he⟩
  · exact hnode
  · exact hold e he hn
 refine ⟨ordered_setData node none h.ordered,refsNodup_setData node none h.refsNodup,?_,?_,?_,
  h.poolSize,?_,?_,h.queueNodup,h.storeFresh⟩
 · exact hforall _ (h.nodeFresh (node,iv) hmem) fun e he _=>h.nodeFresh e he
 · exact hforall _ (h.inPool (node,iv) hmem) fun e he _=>h.inPool e he
 · exact hforall _ (h.small (node,iv) hmem) fun e he _=>h.small e he
 · refine hforall _ (.inl ⟨rfl,rfl⟩) fun e he _=>?_
   rcases h.owner e he with ⟨hhole,-⟩|⟨r',hr',range,hs,hlive,hi,hq⟩
   · cases hhole
   · exact .inr ⟨r',hr',range,hs,hlive,hi,hq⟩
 · intro r' hr'
   obtain ⟨range,hs,hcase⟩:=h.settled r' hr'
   refine ⟨range,hs,hcase.imp_right (And.imp_right ?_)⟩
   rintro (hhome|⟨e,he,hd⟩)
   · cases hhome
   · by_cases hn:e.1=node
     · obtain rfl:=h.entry_eq he hmem hn
       exact .inl (hdata.symm.trans hd)
     · exact .inr ⟨e,(hentries e).2 (.inr ⟨hn,he⟩),hd⟩

lemma release (h:Consistent ⟨hole,homeless,none⟩ mc)
 (hhome:∀r',homeless=some r' → r'=r) (hfree:∀e∈mc.ranges.toList,e.2.data≠some r) :
 Consistent ⟨hole,none,none⟩ (setState mc r .released) := by
 have hstore:∀r',(setState mc r .released).store r'=
  if r'=r then (mc.store r').map fun range=>{range with state:=.released}
  else mc.store r':=fun _=>rfl
 refine ⟨h.ordered,h.refsNodup,h.nodeFresh,h.inPool,h.small,h.poolSize,?_,?_,h.queueNodup,?_⟩
 · intro e he
   refine (h.owner e he).imp_right ?_
   rintro ⟨r',hr',range,hs,hlive,hi,hq⟩
   have hne:r'≠r:=fun heq=>hfree e he (heq▸hr')
   exact ⟨r',hr',range,by simp[hstore,hne,hs],hlive,hi,hq⟩
 · intro r' hr'
   obtain ⟨range,hs,hcase⟩:=h.settled r' hr'
   by_cases hne:r'=r
   · subst hne
     exact ⟨_,by rw[hstore,if_pos rfl,hs];rfl,.inl rfl⟩
   · refine ⟨range,by simp[hstore,hne,hs],hcase.imp_right (And.imp_right ?_)⟩
     rintro (hhl|hent)
     · exact absurd (hhome r' hhl) hne
     · exact .inr hent
 · intro r' range hr'
   rw[hstore] at hr'
   split at hr'
   · obtain ⟨range',hs,-⟩:=Option.map_eq_some_iff.1 hr'
     exact h.storeFresh r' range' hs
   · exact h.storeFresh r' range hr'

lemma allow_unqueued (h:Consistent .closed mc) (r:Nat) : Consistent ⟨none,none,some r⟩ mc := by
 refine ⟨h.ordered,h.refsNodup,h.nodeFresh,h.inPool,h.small,h.poolSize,?_,h.settled,h.queueNodup,h.storeFresh⟩
 intro e he
 refine (h.owner e he).imp_right ?_
 rintro ⟨r',hr',range,hs,hlive,hi,hq⟩
 exact ⟨r',hr',range,hs,hlive,hi,.inl (hq.resolve_right (by rintro ⟨⟩))⟩

lemma pop {rest:List Nat} (h:Consistent .closed mc) (hqueue:mc.timerQueue=ref::rest) :
 Consistent ⟨none,none,some ref⟩ {mc with timerQueue:=rest} := by
 have hnodup:=h.queueNodup
 rw[hqueue,nodup_cons] at hnodup
 refine ⟨h.ordered,h.refsNodup,h.nodeFresh,h.inPool,h.small,h.poolSize,?_,?_,hnodup.2,h.storeFresh⟩
 · intro e he
   refine (h.owner e he).imp_right ?_
   rintro ⟨r,hr,range,hs,hlive,hi,hq⟩
   refine ⟨r,hr,range,hs,hlive,hi,?_⟩
   rw[hqueue,mem_cons] at hq
   rcases hq with (rfl|hq)|hq
   · exact .inr rfl
   · exact .inl hq
   · cases hq
 · intro r hr
   exact h.settled r (by rw[hqueue];exact mem_cons_of_mem _ hr)

lemma drop_unqueued (h:Consistent ⟨none,none,some ref⟩ mc) (hfree:¬Referenced mc ref) :
 Consistent .closed mc := by
 refine ⟨h.ordered,h.refsNodup,h.nodeFresh,h.inPool,h.small,h.poolSize,?_,h.settled,h.queueNodup,h.storeFresh⟩
 intro e he
 refine (h.owner e he).imp_right ?_
 rintro ⟨r,hr,range,hs,hlive,hi,hq⟩
 refine ⟨r,hr,range,hs,hlive,hi,hq.imp_right fun hunq=>?_⟩
 cases hunq
 exact absurd (.inr ⟨e,he,hr⟩) hfree

end Consistent

end MaapStore

/-! ## The addresses a MAAP client holds -/

namespace MaapHoldings

open MaapPacket MaapStore

structure Holding where
 ref:Nat
 state:MaapState
 flagged:Bool
 (low high:Nat)
 deriving DecidableEq

def Holding.block (x:Holding) : Interval Nat := ⟨x.low,x.high,some x.ref⟩
def Matches (range:Range) (x:Holding) : Prop := range.state=x.state ∧ range.overlapping=x.flagged
def Holds (mc:Client) (x:Holding) : Prop := (∃node,(node,x.block)∈mc.ranges.toList) ∧
  ∃range,mc.store x.ref=some range ∧ Matches range x
instance (range:Range) (x:Holding) : Decidable (Matches range x) := inferInstanceAs (Decidable (_ ∧ _))

instance (mc:Client) (x:Holding) : Decidable (Holds mc x) :=
 decidable_of_iff ((∃e∈mc.ranges.toList,e.2=x.block) ∧
  ∃range∈mc.store x.ref,Matches range x) <| by
  constructor
  · rintro ⟨⟨e,he,hblock⟩,range,hs,hmatch⟩
    exact ⟨⟨e.1,hblock▸he⟩,range,hs,hmatch⟩
  · rintro ⟨⟨node,hmem⟩,range,hs,hmatch⟩
    exact ⟨⟨_,hmem,rfl⟩,range,hs,hmatch⟩

variable {gaps:Gaps} {mc mc':Client} {range:Range} {node ref r:Nat} {y:Holding}

lemma matches_of_essence {range':Range} (h:essence range'=essence range) {x:Holding} :
 Matches range' x↔Matches range x := by
 rw[Matches,Matches,state_of_essence h,overlapping_of_essence h]

lemma matches_store_iff (h:SameRanges mc mc') (x:Holding) :
 (∃range,mc'.store x.ref=some range ∧ Matches range x) ↔
  ∃range,mc.store x.ref=some range ∧ Matches range x := by
 constructor
 · rintro ⟨range,hr,hm⟩
   obtain ⟨range',hr',hess⟩:=h.symm.get hr
   exact ⟨range',hr',(matches_of_essence hess).2 hm⟩
 · rintro ⟨range,hr,hm⟩
   obtain ⟨range',hr',hess⟩:=h.get hr
   exact ⟨range',hr',(matches_of_essence hess).2 hm⟩

lemma holds_congr (hranges:mc'.ranges=mc.ranges) (h:SameRanges mc mc') (x:Holding) : Holds mc' x↔Holds mc x := by
 rw[Holds,Holds,hranges,matches_store_iff h]

lemma holds_placed {start len:Nat} (hp:Placed mc ref start len node mc')
 (hs:mc.store ref=some range) (x:Holding) : Holds mc' x↔Holds mc x ∨
  x=⟨ref,range.state,range.overlapping,start,start+len-1⟩ := by
 rw[Holds,matches_store_iff hp.sameRanges]
 constructor
 · rintro ⟨⟨n,hn⟩,range',hs',hm⟩
   rcases (hp.entries _).1 hn with heq|hold
   · right
     obtain ⟨r,st,fl,low,high⟩:=x
     simp only[Holding.block] at heq
     obtain ⟨-,rfl,rfl,rfl⟩:=heq
     obtain rfl:=Option.some.inj (hs.symm.trans hs')
     obtain ⟨hst,hfl⟩:=hm
     rw[hst,hfl]
   · exact .inl ⟨⟨n,hold⟩,range',hs',hm⟩
 · rintro (⟨⟨n,hn⟩,hr⟩|rfl)
   · exact ⟨⟨n,(hp.entries _).2 (.inr hn)⟩,hr⟩
   · exact ⟨⟨node,(hp.entries _).2 (.inl rfl)⟩,range,hs,rfl,rfl⟩

variable {iv:Interval Nat}

lemma holds_unplaced (h:Consistent gaps mc) (hu:Unplaced mc node mc')
 (hmem:(node,iv)∈mc.ranges.toList) (x:Holding) : Holds mc' x↔Holds mc x ∧ iv.data≠some x.ref := by
 rw[Holds,matches_store_iff hu.sameRanges,hu.contents]
 constructor
 · rintro ⟨⟨n,hne,hn⟩,hr⟩
   refine ⟨⟨⟨n,hn⟩,hr⟩,fun hd=>hne ?_⟩
   exact congrArg Prod.fst (h.entry_eq_of_data hn hmem hd.symm)
 · rintro ⟨⟨⟨n,hn⟩,hr⟩,hd⟩
   refine ⟨⟨n,?_,hn⟩,hr⟩
   rintro rfl
   have heq:=congrArg (fun e=>e.2.data) (h.entry_eq hn hmem rfl)
   exact hd heq.symm

lemma holds_detached (h:Consistent gaps mc) (hmem:(node,iv)∈mc.ranges.toList)
 (hdata:iv.data=some r) (x:Holding) :
 Holds {mc with ranges:=mc.ranges.setData node none} x↔Holds mc x ∧ x.ref≠r := by
 simp only[Holds,setData_toList,mem_map]
 constructor
 · rintro ⟨⟨n,e,he,heq⟩,hr⟩
   split_ifs at heq with hn
   · simpa[Holding.block] using congrArg (fun e=>e.2.data) heq
   · subst heq
     refine ⟨⟨⟨n,he⟩,hr⟩,fun hxr=>hn ?_⟩
     have hd:x.block.data=iv.data:=by rw[hdata,←hxr];rfl
     exact congrArg Prod.fst (h.entry_eq_of_data he hmem hd)
 · rintro ⟨⟨⟨n,hn⟩,hr⟩,hne⟩
   refine ⟨⟨n,(n,x.block),hn,?_⟩,hr⟩
   have hnode:n≠node:=by
    rintro rfl
    have heq:=congrArg (fun e=>e.2.data) (h.entry_eq hn hmem rfl)
    rw[show (n,iv).2.data=some r from hdata] at heq
    exact hne (Option.some.inj heq)
   simp[hnode]

lemma holds_of_agree (mc mc':Client) (hranges:mc'.ranges=mc.ranges)
 (hagree:∀e∈mc.ranges.toList,∀r,e.2.data=some r → mc'.store r=mc.store r)
 (x:Holding) : Holds mc' x↔Holds mc x := by
 rw[Holds,hranges]
 refine and_congr_right ?_
 rintro ⟨n,hn⟩
 rw[hagree _ hn x.ref rfl]

variable {f:Range → Range}

lemma holds_modify_free (hfree:∀e∈mc.ranges.toList,e.2.data≠some ref) (x:Holding) :
 Holds (mc.modifyRange ref f) x↔Holds mc x := by
 refine holds_of_agree mc (mc.modifyRange ref f) rfl (fun e he r hr=>?_) x
 have hne:r≠ref:=fun heq=>hfree e he (heq▸hr)
 simp[store_modifyRange,hne]

lemma holds_modify_same
 (hf:∀range,(f range).state=range.state ∧ (f range).overlapping=range.overlapping)
 (x:Holding) : Holds (mc.modifyRange ref f) x↔Holds mc x := by
 refine and_congr_right fun _=>?_
 rw[store_modifyRange]
 split_ifs with hr
 · cases mc.store x.ref with
   | none=>simp
   | some range=>simp[Matches,hf range]
 · rfl

lemma holds_unique (h:Consistent gaps mc) {x:Holding} (hx:Holds mc x) (hy:Holds mc y)
 (href:x.ref=y.ref) : x=y := by
 obtain ⟨⟨n,hn⟩,range,hs,hst,hfl⟩:=hx
 obtain ⟨⟨n',hn'⟩,range',hs',hst',hfl'⟩:=hy
 have hblock:x.block=y.block:=congrArg Prod.snd
  (h.entry_eq_of_data hn hn' (by simp[Holding.block,href]))
 rw[href] at hs
 obtain rfl:=Option.some.inj (hs.symm.trans hs')
 obtain ⟨r,st,fl,low,high⟩:=x
 obtain ⟨r',st',fl',low',high'⟩:=y
 obtain ⟨rfl,rfl,rfl⟩:=hblock
 simp only at hst hfl hst' hfl'
 rw[←hst,←hfl,←hst',←hfl']

lemma holds_modify_held {x:Holding} (h:Consistent gaps (mc.modifyRange x.ref f))
 (hx:Holds mc x) (href:y.ref=x.ref) (hblock:y.block=x.block)
 (hf:∀range,Matches range x → Matches (f range) y) (z:Holding) :
 Holds (mc.modifyRange x.ref f) z↔(Holds mc z ∧ z.ref≠x.ref) ∨ some y=some z := by
 have hy:Holds (mc.modifyRange x.ref f) y:=by
  obtain ⟨⟨n,hn⟩,range,hs,hm⟩:=hx
  exact ⟨⟨n,by rw[hblock];exact hn⟩,f range,by simp[store_modifyRange,href,hs],hf range hm⟩
 by_cases hz:z.ref=x.ref
 · simp only[hz,ne_eq,not_true_eq_false,and_false,false_or,Option.some.injEq]
   constructor
   · exact fun hz'=>holds_unique h hy hz' (href.trans hz.symm)
   · rintro rfl
     exact hy
 · have hother:Holds (mc.modifyRange x.ref f) z↔Holds mc z:=by
    refine and_congr_right fun _=>?_
    rw[store_modifyRange,if_neg hz]
   rw[hother]
   constructor
   · exact fun hh=>.inl ⟨hh,hz⟩
   · rintro (hh|heq)
     · exact hh.1
     · rw[←Option.some.inj heq] at hz
       exact absurd href hz

lemma intervalOf_eq (h:Consistent gaps mc) (hmem:(node,iv)∈mc.ranges.toList)
 (hdata:iv.data=some r) : mc.intervalOf r=iv := by
 rcases h.owner _ hmem with ⟨-,hnone⟩|⟨r',hr',range,hs,-,hi,-⟩
 · rw[show (node,iv).2.data=some r from hdata] at hnone
   cases hnone
 · obtain rfl:r=r':=Option.some.inj (hdata.symm.trans hr')
   have hlookup:mc.ranges.lookup node=some iv:=by
    obtain ⟨before,after,hlist⟩:=append_of_mem hmem
    have hn:=h.refsNodup
    rw[RefsNodup,hlist] at hn
    have hbefore:before.lookup node=none:=by
     rw[lookup_eq_none_iff]
     intro e he
     simp only[map_append,nodup_append] at hn
     have:=hn.2.2 e.1 (mem_map_of_mem he) node (by simp)
     simpa using fun heq=>this heq.symm
    rw[Intervals.Tree.lookup,hlist,lookup_append,hbefore]
    simp
   simp[Client.intervalOf,range_eq hs,hi,hlookup]

def claimFor (mc:Client) (messageType low high:Nat) : Packet :=
 {initPacket mc.destMac mc.srcMac with
   messageType:=messageType
   requestedStartAddress:=uint64 (mc.addressBase+low)
   requestedCount:=uint16 (uint32 (high+1+(2^32-low)))}
lemma claimFor_config (h:SameConfig mc mc') (messageType low high:Nat) :
 claimFor mc' messageType low high=claimFor mc messageType low high := by
 simp only[claimFor,h.destMac,h.srcMac,h.addressBase]

lemma claimPacket_eq (h:Consistent gaps mc) {x:Holding} (hx:Holds mc x)
 (messageType:Nat) : mc.claimPacket messageType x.ref=claimFor mc messageType x.low x.high := by
 obtain ⟨⟨n,hn⟩,-⟩:=hx
 have hiv:mc.intervalOf x.ref=x.block:=intervalOf_eq h hn rfl
 rw[Client.claimPacket,Client.getStartAddress,Client.getCount,hiv]
 rfl

end MaapHoldings

end OpenAvnu
