import Mathlib.Algebra.Order.BigOperators.Group.List
import OpenAvnu.Linked
import OpenAvnu.MrpRuns

/-!
# Attribute lists in memory

Insertion, reclaiming and pruning assign links; everything else changes attributes in place.
-/

namespace OpenAvnu.MrpLinked

open Mrp MrpEvents MrpLaws MrpSteps Linked List

variable {α κ τ:Type} [DecidableEq τ]

structure Allocator where
 malloc:List Nat → Nat
 fresh:∀live,malloc live∉live

instance : Inhabited Allocator := ⟨⟨fun live=>live.sum+1,fun _ h=>Nat.not_succ_le_self _ (le_sum_of_mem h)⟩⟩

/-- The loop of `msrp_add`, `mmrp_add` and `mvrp_add`, with the tail it remembers. -/
def addWalk (type:α → τ) (key:α → Nat) (q:Nat) (rattrib:Attribute α) :
 Nat → Option Nat → Option Nat → Chain (Attribute α) → Chain (Attribute α)
 | 0, _, _, c=>c
 | _+1, tail, none, c=>c.append q rattrib tail
 | n+1, tail, some p, c=>
  match c.cells p with
  | none=>c
  | some a=>
   if type a.item.value=type rattrib.value then
    if key a.item.value<key rattrib.value then
     match a.next with
     | none=>c.insertAfter q rattrib p
     | some next=>
      match c.cells next with
      | none=>c
      | some b=>
       if type b.item.value=type rattrib.value then
        addWalk type key q rattrib n tail (some next) c
       else c.insertAfter q rattrib p
    else c.insertBefore q rattrib p
   else addWalk type key q rattrib n (some p) a.next c

def linkedAdd (type:α → τ) (key:α → Nat) (q:Nat) (rattrib:Attribute α)
 (c:Chain (Attribute α)) : Chain (Attribute α) := addWalk type key q rattrib (c.size+1) none c.head c

variable {c:Chain (Attribute α)}

lemma addWalk_represents (type:α → τ) (key:α → Nat) {q:Nat} (r:Attribute α)
 {done todo:List (Nat×Attribute α)} {n:Nat} {tail:Option Nat} (hn:todo.length<n)
 (h:Represents c (done++todo)) (hq:q∉addresses (done++todo))
 (htail:tail=lastOf none done ∨ ∃e∈todo.head?,type e.2.value=type r.value) :
 ∃before after,todo=before++after ∧
  Represents (addWalk type key q r n tail (firstOf todo) c) (done++(before++(q,r)::after)) ∧
  items (before++(q,r)::after)=addGrouped type key r (items todo) := by
 induction todo generalizing done n tail with
 | nil=>
  obtain ⟨n,rfl⟩:∃m,n=m+1:=⟨n-1,by omega⟩
  obtain rfl:tail=lastOf none done:=htail.resolve_right (by simp)
  rw[append_nil] at h hq
  exact ⟨[],[],rfl,append_represents h hq,rfl⟩
 | cons e todo ih=>
  obtain ⟨p,a⟩:=e
  obtain ⟨n,rfl⟩:∃m,n=m+1:=⟨n-1,by omega⟩
  have hcell:=h.split.2.1
  have hnext:Represents c ((done++[(p,a)])++todo):=by simpa using h
  have hqnext:q∉addresses ((done++[(p,a)])++todo):=by simpa using hq
  have hn':todo.length<n:=Nat.lt_of_succ_lt_succ hn
  -- going on behind `p`
  have hlater:∀tail,(tail=lastOf none (done++[(p,a)]) ∨
   ∃e∈todo.head?,type e.2.value=type r.value) →
   ∃before after,(p,a)::todo=before++after ∧
    Represents (addWalk type key q r n tail (firstOf todo) c)
     (done++(before++(q,r)::after)) ∧
    items (before++(q,r)::after)=a::addGrouped type key r (items todo):=by
   intro tail htail
   obtain ⟨before,after,hsplit,hl,hitems⟩:=ih hn' hnext hqnext htail
   refine ⟨(p,a)::before,after,by rw[hsplit];rfl,by simpa using hl,?_⟩
   rw[cons_append,items_cons,hitems]
  change ∃before after,_ ∧ Represents (addWalk type key q r (n+1) tail (some p) c) _ ∧ _
  rw[addWalk,hcell,items_cons,addGrouped.eq_def]
  dsimp only
  split_ifs with htype hkey
  · have hafter:Represents (c.insertAfter q r p) (done++(p,a)::(q,r)::todo):=
     insertAfter_represents h hq
    cases todo with
    | nil=>exact ⟨[(p,a)],[],rfl,hafter,rfl⟩
    | cons e todo=>
     obtain ⟨p',b⟩:=e
     have hcell':=hnext.split.2.1
     change ∃before after,_ ∧
      Represents (match c.cells p' with | none=>c | some _=>_) _ ∧ _
     rw[hcell',items_cons]
     dsimp only
     split_ifs with hblock
     · exact hlater tail (.inr ⟨(p',b),rfl,hblock⟩)
     · exact ⟨[(p,a)],_,rfl,hafter,rfl⟩
  · exact ⟨[],_,rfl,insertBefore_represents h hq,rfl⟩
  · exact hlater (some p) (.inl (by simp))

variable {l:List (Nat×Attribute α)}

lemma linkedAdd_represents (type:α → τ) (key:α → Nat) {q:Nat} (r:Attribute α)
 (h:Represents c l) (hq:q∉addresses l) : ∃before after,l=before++after ∧
  Represents (linkedAdd type key q r c) (before++(q,r)::after) ∧
  items (before++(q,r)::after)=addGrouped type key r (items l) := by
 have hhead:c.head=firstOf l:=(segment_start h.linked).trans (Option.or_none ..)
 rw[linkedAdd,hhead,h.size]
 exact @addWalk_represents α τ _ c type key q r [] l _ none (Nat.lt_succ_self _) h hq (.inl rfl)

/-- A database whose attributes are in a linked list; the list of `control` is not used. -/
structure LinkedDatabase (α:Type) where
 control:Database α
 chain:Chain (Attribute α)

def LinkedDatabase.attribs (s:LinkedDatabase α) : List (Attribute α) := items s.chain.list
def LinkedDatabase.view (s:LinkedDatabase α) : Database α :=
 {s.control with attribList:=s.attribs}
def inPlace (f:Database α → Database α) (s:LinkedDatabase α) : LinkedDatabase α :=
 ⟨f s.view,s.chain.overwrite (f s.view).attribList⟩

section Model
variable (app:Application α) (add:Nat → Attribute α → Chain (Attribute α) → Chain (Attribute α))
 (allocator:Allocator) (p2pmac:Nat)

def linkedNotify (s:LinkedDatabase α) : LinkedDatabase α := inPlace (fun db=>(notifyAll db [] []).db) s

def linkedSettle (event:Event) (p:Nat) (s:LinkedDatabase α) : LinkedDatabase α :=
 match s.chain.cells p with
 | none=>s
 | some a=>
  let started:=registrarStartsLeave (remap event a.item.registrar.mrpState) a.item.registrar
  let control:={s.control with lvTimerRunning:=s.control.lvTimerRunning||started}
  let chain:=s.chain.write p (attributePass p2pmac event)
  if app.reclaims&&reclaimable (attributePass p2pmac event a.item) then
   linkedNotify ⟨control,chain.unlink p⟩
  else linkedNotify ⟨control,chain⟩

def linkedAttributeEvent (event:Event) (rattrib:Attribute α) (s:LinkedDatabase α) : LinkedDatabase α :=
 let s:={s with control:=jointimerStart s.control}
 match s.chain.list.find? fun e=>app.sameAttribute rattrib.value e.2.value with
 | none=>
  if event=.RMT then s
  else
   let q:=allocator.malloc (addresses s.chain.list)
   linkedSettle app p2pmac event q {s with chain:=add q rattrib s.chain}
 | some (p,_)=>
  linkedSettle app p2pmac event p
   {s with chain:=s.chain.write p (app.merge s.attribs rattrib)}

/-- The registrars are run and unused attributes reclaimed in one loop. -/
def linkedLvTimer (s:LinkedDatabase α) : LinkedDatabase α := linkedNotify ⟨lvtimerStop s.control,
  Chain.sweep (registrarPass .LVTIMER) (fun a=>app.reclaims&&reclaimable a) s.chain.size
   s.chain.head s.chain⟩

def linkedEvent (event:Event) (rattrib:Option (Attribute α)) (s:LinkedDatabase α) : LinkedDatabase α :=
 match event, rattrib with
 | .LVTIMER, _=>linkedLvTimer app s
 | e, some r=>
  if isAttributeEvent e then linkedAttributeEvent app add allocator p2pmac e r s
  else inPlace (fun db=>(MrpEvents.event app p2pmac e (some r) db).db) s
 | e, none=>inPlace (fun db=>(MrpEvents.event app p2pmac e none db).db) s

def linkedReclaim (s:LinkedDatabase α) : LinkedDatabase α :=
 {s with chain:=Chain.sweep id reclaimable s.chain.size s.chain.head s.chain}

end Model

structure Refines (s:LinkedDatabase α) (db:Database α) : Prop where
 wellFormed:∃l,Represents s.chain l
 view:s.view=db

variable {s:LinkedDatabase α}

lemma Represents.attribs (h:Represents s.chain l) : s.attribs=items l := by
 rw[LinkedDatabase.attribs,h.list_eq]
lemma refines_of_represents (control:Database α) (h:Represents c l) {xs:List (Attribute α)}
 (hxs:items l=xs) : Refines ⟨control,c⟩ {control with attribList:=xs} := by
 refine ⟨⟨l,h⟩,?_⟩
 rw[←hxs,← @Represents.attribs α l ⟨control,c⟩ h]
 rfl

variable {db:Database α}

lemma inPlace_refines {f:Database α → Database α} (h:Refines s db)
 (hlength:(f db).attribList.length=db.attribList.length) : Refines (inPlace f s) (f db) := by
 obtain ⟨⟨l,hl⟩,rfl⟩:=h
 have hitems:s.view.attribList=items l:=Represents.attribs hl
 have hlength':(f s.view).attribList.length=l.length:=by
  rw[hlength,hitems,items,length_map]
 exact refines_of_represents (f s.view) (overwrite_represents hl hlength') (items_zip hlength')

lemma linkedNotify_refines (h:Refines s db) : Refines (linkedNotify s) (notifyAll db [] []).db :=
 inPlace_refines h (by simp[notifyAll])
lemma linkedReclaim_refines (h:Refines s db) : Refines (linkedReclaim s) (reclaim db).db := by
 obtain ⟨⟨l,hl⟩,rfl⟩:=h
 refine refines_of_represents s.control (sweep_represents id reclaimable hl) ?_
 rw[items_sweep,map_id,←Represents.attribs hl]
 rfl

variable {app:Application α}

lemma linkedLvTimer_refines (h:Refines s db) : Refines (linkedLvTimer app s) (lvTimerEvent app db).db := by
 obtain ⟨⟨l,hl⟩,rfl⟩:=h
 have hswept:=linkedNotify_refines (refines_of_represents (lvtimerStop s.control)
  (sweep_represents (registrarPass .LVTIMER) (fun a=>app.reclaims&&reclaimable a) hl)
  (items_sweep (registrarPass .LVTIMER) (fun a=>app.reclaims&&reclaimable a) l))
 rw[←Represents.attribs hl] at hswept
 refine Eq.subst (motive:=Refines (linkedLvTimer app s)) ?_ hswept
 unfold lvTimerEvent
 split
 · next hreclaims=>
    rw[hreclaims]
    rfl
 · next hreclaims=>
    simp only[hreclaims,Bool.false_and,Bool.not_false,filter_true]
    rfl

lemma linkedSettle_refines {p2pmac:Nat} {e:Event} {v:α}
 {pre post:List (Nat×Attribute α)} {p:Nat} {a:Attribute α}
 (h:Represents s.chain (pre++(p,a)::post))
 (hpre:∀x∈items pre,app.sameAttribute v x.value=false)
 (ha:app.sameAttribute v a.value=true) :
 Refines (linkedSettle app p2pmac e p s) (settle app p2pmac e v s.view).db := by
 have hview:s.view.attribList=items pre++a::items post:=by
  refine (Represents.attribs h).trans ?_
  rw[items_append,items_cons]
 have hwritten:=write_represents h (attributePass p2pmac e)
 obtain ⟨left,hleft,hsettle⟩:=@settle_split α app p2pmac e v s.view _ _ a hpre ha hview
 unfold linkedSettle
 rw[h.split.2.1,hsettle]
 dsimp only
 split
 · next hreclaim=>
    rw[if_pos hreclaim] at hleft
    subst hleft
    exact linkedNotify_refines (refines_of_represents _ (unlink_represents hwritten) (by simp))
 · next hreclaim=>
    rw[if_neg hreclaim] at hleft
    subst hleft
    exact linkedNotify_refines (refines_of_represents _ hwritten (by simp))

lemma find_cases (app:Application α) (v:α) (l:List (Nat×Attribute α)) :
 (l.find? (fun e=>app.sameAttribute v e.2.value)=none ∧ lookup app v (items l)=none ∧
  ∀x∈items l,app.sameAttribute v x.value=false) ∨
  ∃pre p a post,l=pre++(p,a)::post ∧
   l.find? (fun e=>app.sameAttribute v e.2.value)=some (p,a) ∧
   lookup app v (items l)=some a ∧
   (∀x∈items pre,app.sameAttribute v x.value=false) ∧
   app.sameAttribute v a.value=true := by
 cases hfind:l.find? fun e=>app.sameAttribute v e.2.value with
 | none=>
  left
  have hnone:∀x∈items l,app.sameAttribute v x.value=false:=by
   intro x hx
   obtain ⟨e,he,rfl⟩:=mem_map.1 hx
   simpa using find?_eq_none.1 hfind e he
  refine ⟨rfl,?_,hnone⟩
  rw[MrpEvents.lookup]
  simpa using hnone
 | some e=>
  right
  obtain ⟨p,a⟩:=e
  obtain ⟨ha,pre,post,hsplit,hpre⟩:=find?_eq_some_iff_append.1 hfind
  have hother:∀x∈items pre,app.sameAttribute v x.value=false:=fun x hx=>by
   obtain ⟨e,he,rfl⟩:=mem_map.1 hx
   simpa using hpre e he
  refine ⟨pre,p,a,post,hsplit,rfl,?_,hother,ha⟩
  rw[hsplit,items_append]
  exact lookup_split hother ha

section Events
variable {app:Application α} {allocator:Allocator} {p2pmac:Nat}
 {add:Nat → Attribute α → Chain (Attribute α) → Chain (Attribute α)}

def AddRefines (app:Application α)
 (add:Nat → Attribute α → Chain (Attribute α) → Chain (Attribute α)) : Prop :=
 ∀{c l} (q:Nat) (r:Attribute α),Represents c l → q∉addresses l →
  ∃before after,l=before++after ∧ Represents (add q r c) (before++(q,r)::after) ∧
   items (before++(q,r)::after)=app.add r (items l)

lemma linkedAttributeEvent_refines (hlawful:Lawful app) (hadd:AddRefines app add) (e:Event)
 (r:Attribute α) {s:LinkedDatabase α} {db:Database α} (h:Refines s db) :
 Refines (linkedAttributeEvent app add allocator p2pmac e r s)
  (attributeEvent app p2pmac e r db).db := by
 obtain ⟨⟨l,hl⟩,rfl⟩:=h
 have hattribs:s.attribs=items l:=Represents.attribs hl
 have hjoin:(jointimerStart s.view).attribList=items l:=hattribs
 unfold linkedAttributeEvent attributeEvent place
 dsimp only
 rw[hl.list_eq,hjoin]
 rcases find_cases app r.value l with ⟨hfind,hlookup,hother⟩ |
  ⟨pre,p,a,post,hsplit,hfind,hlookup,hpre,ha⟩
 · rw[hfind,hlookup]
   by_cases hrmt:e=.RMT
   · rw[if_pos hrmt,if_pos hrmt]
     exact ⟨⟨l,hl⟩,rfl⟩
   · rw[if_neg hrmt,if_neg hrmt]
     obtain ⟨before,after,rfl,hinserted,hitems⟩:=hadd (allocator.malloc (addresses l)) r hl
      (allocator.fresh _)
     have hbefore:∀x∈items before,app.sameAttribute r.value x.value=false:=fun x hx=>
      hother x (by rw[items_append];exact mem_append_left _ hx)
     rw[←hitems]
     have hview:=(refines_of_represents (jointimerStart s.control) hinserted rfl).view
     refine Eq.subst (motive:=fun db=>Refines _ (settle app p2pmac e r.value db).db) hview ?_
     exact linkedSettle_refines hinserted hbefore (hlawful.same_refl _)
 · rw[hfind,hlookup]
   subst hsplit
   have hmerged:=write_represents hl (app.merge (items (pre++(p,a)::post)) r)
   have hupdate:updateFound app r.value (app.merge (items (pre++(p,a)::post)) r)
    (items (pre++(p,a)::post))=items (pre++(p,app.merge (items (pre++(p,a)::post)) r a)::post):=by
    rw[items_append,items_append]
    exact updateFound_split hpre ha _
   have hview:=(refines_of_represents (jointimerStart s.control) hmerged hupdate.symm).view
   refine Eq.subst (motive:=fun db=>Refines _ (settle app p2pmac e r.value db).db) hview ?_
   change Refines (linkedSettle app p2pmac e p ⟨jointimerStart s.control,
    s.chain.write p (app.merge s.attribs r)⟩) _
   rw[hattribs]
   exact linkedSettle_refines hmerged hpre (hlawful.same_merge _ r a ha)

lemma event_length (hlawful:Lawful app) {e:Event} (he:e ≠ .LVTIMER)
 {r:Option (Attribute α)} (hr:∀a,r=some a → isAttributeEvent e=false) (db:Database α) :
 (event app p2pmac e r db).db.attribList.length=db.attribList.length := by
 have hlength:∀{o:Outcome α} {sweep:List (Entry α) → List (Entry α)} {join lv:Bool},
  Swept db o sweep join lv → (sweep (entries db)).length=(entries db).length →
  o.db.attribList.length=db.attribList.length:=by
  intro o sweep join lv hswept hsame
  have:=congrArg length hswept.entries
  rwa[hsame,entries,entries,length_map,length_map] at this
 have hhandled:=event_handled app p2pmac e r db
 generalize event app p2pmac e r db=o at hhandled ⊢
 cases hhandled with
 | lvaTimer=>exact hlength (lvaTimerEvent_swept hlawful.sends p2pmac db) (length_map _)
 | leaveAll=>
  cases hscope:app.leaveAllScope (r.map (·.value)) with
  | none=>exact hlength (leaveAllEvent_refused p2pmac hscope db) rfl
  | some scope=>exact hlength (leaveAllEvent_swept p2pmac hscope db) (length_map _)
 | tx=>exact hlength (txEvent_swept hlawful.sends p2pmac db) (length_map _)
 | lvTimer=>exact absurd rfl he
 | periodic=>
  refine hlength (periodicEvent_swept p2pmac db) ?_
  split
  · exact length_map _
  · rfl
 | concerns r hconcerns=>exact absurd (hr r rfl) (by simp[hconcerns])
 | missing=>
  split<;>rfl
 | ignored=>simp[notifyAll]

lemma linkedEvent_refines (hlawful:Lawful app) (hadd:AddRefines app add) (e:Event)
 (r:Option (Attribute α)) {s:LinkedDatabase α} {db:Database α} (h:Refines s db) :
 Refines (linkedEvent app add allocator p2pmac e r s) (event app p2pmac e r db).db := by
 by_cases hlv:e=.LVTIMER
 · subst hlv
   exact linkedLvTimer_refines h
 cases r with
 | none=>
  have heq:linkedEvent app add allocator p2pmac e none s=inPlace (fun db=>(event app p2pmac e none db).db) s:=by
   cases e<;>first | rfl | exact absurd rfl hlv
  rw[heq]
  exact inPlace_refines h (event_length hlawful hlv (by simp) db)
 | some r=>
  have heq:linkedEvent app add allocator p2pmac e (some r) s=
   if isAttributeEvent e then linkedAttributeEvent app add allocator p2pmac e r s
   else inPlace (fun db=>(event app p2pmac e (some r) db).db) s:=by
   cases e<;>first | rfl | exact absurd rfl hlv
  rw[heq]
  split
  · next he=>
     rw[event_concerns app p2pmac he]
     exact linkedAttributeEvent_refines hlawful hadd e r h
  · next he=>
     exact inPlace_refines h (event_length hlawful hlv (fun _ _=>Bool.not_eq_true _▸he) db)

end Events

end OpenAvnu.MrpLinked
