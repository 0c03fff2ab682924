import Mathlib.Data.List.Basic
import Mathlib.Data.List.Nodup
import Mathlib.Logic.Function.Basic

/-!
# Doubly linked lists

The operations assign single links; results are about the sequence the list represents.
-/

namespace OpenAvnu.Linked

open List Function

variable {β:Type}

structure Cell (β:Type) where
 item:β
 (prev next:Option Nat)

/-- A memory with the head of a list; `size` counts the cells in use and bounds every walk. -/
structure Chain (β:Type) where
 cells:Nat → Option (Cell β)
 head:Option Nat
 size:Nat

def modify (p:Nat) (f:Cell β → Cell β) (cells:Nat → Option (Cell β)) : Nat → Option (Cell β)
 := update cells p ((cells p).map f)
def setItem (item:β) (c:Cell β) : Cell β := {c with item:=item}
def setPrev (prev:Option Nat) (c:Cell β) : Cell β := {c with prev:=prev}
def setNext (next:Option Nat) (c:Cell β) : Cell β := {c with next:=next}

/-- The cells from `start` on are those of `l`, each linked back; the last one leads to `stop`. -/
def Segment (cells:Nat → Option (Cell β)) : Option Nat → Option Nat → List (Nat×β) →
 Option Nat → Prop
 | _, start, [], stop=>start=stop
 | back, start, (p,item)::l, stop=>
  start=some p ∧ ∃next,cells p=some ⟨item,back,next⟩ ∧ Segment cells (some p) next l stop
def addresses (l:List (Nat×β)) : List Nat := l.map Prod.fst
def items (l:List (Nat×β)) : List β := l.map Prod.snd
@[simp] lemma addresses_nil : addresses ([]:List (Nat×β))=[] := rfl

variable (p:Nat)

@[simp] lemma addresses_cons (x:β) (l:List (Nat×β)) : addresses ((p,x)::l)=p::addresses l := rfl
@[simp] lemma addresses_append (l l':List (Nat×β)) : addresses (l++l')=addresses l++addresses l' := map_append
@[simp] lemma items_cons (x:β) (l:List (Nat×β)) : items ((p,x)::l)=x::items l := rfl
@[simp] lemma items_append (l l':List (Nat×β)) : items (l++l')=items l++items l' := map_append

/-- A well-formed list: the links lead through `l` and back, from the head to the end, and no cell
occurs twice. -/
structure Represents (c:Chain β) (l:List (Nat×β)) : Prop where
 linked:Segment c.cells none c.head l none
 nodup:(addresses l).Nodup
 size:c.size=l.length

def lastOf (back:Option Nat) (l:List (Nat×β)) : Option Nat := (l.getLast?.map Prod.fst).or back

variable (back:Option Nat)

@[simp] lemma lastOf_nil : lastOf back ([]:List (Nat×β))=back := rfl
@[simp] lemma lastOf_concat (l:List (Nat×β)) (p:Nat) (x:β) : lastOf back (l++[(p,x)])=some p := by
 simp[lastOf]
lemma lastOf_cons (p:Nat) (x:β) (l:List (Nat×β)) : lastOf back ((p,x)::l)=lastOf (some p) l := by
 cases l with
 | nil=>rfl
 | cons y l=>simp[lastOf,getLast?_cons]

section Segments
variable {cells:Nat → Option (Cell β)} {back start stop:Option Nat} {l l':List (Nat×β)}

lemma segment_append : Segment cells back start (l++l') stop ↔
 ∃mid,Segment cells back start l mid ∧ Segment cells (lastOf back l) mid l' stop := by
 induction l generalizing back start with
 | nil=>simp[Segment]
 | cons e l ih=>
  obtain ⟨p,item⟩:=e
  simp only[cons_append,Segment,ih,lastOf_cons]
  constructor
  · rintro ⟨hstart,next,hcell,mid,hl,hl'⟩
    exact ⟨mid,⟨hstart,next,hcell,hl⟩,hl'⟩
  · rintro ⟨mid,⟨hstart,next,hcell,hl⟩,hl'⟩
    exact ⟨hstart,next,hcell,mid,hl,hl'⟩

lemma segment_congr {cells':Nat → Option (Cell β)}
 (h:∀p∈addresses l,cells' p=cells p) : Segment cells' back start l stop↔Segment cells back start l stop := by
 induction l generalizing back start with
 | nil=>exact Iff.rfl
 | cons e l ih=>
  obtain ⟨p,item⟩:=e
  have hp:=h p (by simp)
  have hl:=fun {back start}=>@ih back start fun q hq=>h q (by simp[hq])
  simp only[Segment,hp,hl]

variable {p:Nat}

variable (hp:p∉addresses l)
include hp

lemma segment_modify (f:Cell β → Cell β) :
 Segment (modify p f cells) back start l stop↔Segment cells back start l stop := by
 refine segment_congr fun q hq=>update_of_ne ?_ _ _
 rintro rfl
 exact hp hq
lemma segment_update (v:Option (Cell β)) :
 Segment (update cells p v) back start l stop↔Segment cells back start l stop := by
 refine segment_congr fun q hq=>update_of_ne ?_ _ _
 rintro rfl
 exact hp hq

lemma segment_setNext {x:β}
 (h:Segment cells back start (l++[(p,x)]) stop) (stop':Option Nat) :
 Segment (modify p (setNext stop') cells) back start (l++[(p,x)]) stop' := by
 obtain ⟨mid,hl,rfl,next,hcell,-⟩:=segment_append.1 h
 refine segment_append.2 ⟨some p,(segment_modify hp _).2 hl,rfl,stop',?_,rfl⟩
 simp[modify,hcell,setNext]

lemma segment_setPrev {x:β}
 (h:Segment cells back start ((p,x)::l) stop) (back':Option Nat) :
 Segment (modify p (setPrev back') cells) back' start ((p,x)::l) stop := by
 obtain ⟨rfl,next,hcell,hl⟩:=h
 refine ⟨rfl,next,?_,(segment_modify hp _).2 hl⟩
 simp[modify,hcell,setPrev]

end Segments

def firstOf (l:List (Nat×β)) : Option Nat := l.head?.map Prod.fst
def Chain.leadTo (u v:Option Nat) (c:Chain β) : Chain β :=
 match u with
 | some u=>{c with cells:=modify u (setNext v) c.cells}
 | none=>{c with head:=v}
def Chain.backTo (w b:Option Nat) (c:Chain β) : Chain β :=
 match w with
 | some w=>{c with cells:=modify w (setPrev b) c.cells}
 | none=>c
def Chain.store (q:Nat) (cell:Cell β) (c:Chain β) : Chain β :=
 {c with cells:=update c.cells q (some cell),size:=c.size+1}
def Chain.free (p:Nat) (c:Chain β) : Chain β :=
 {c with cells:=update c.cells p none,size:=c.size-1}

section Links
variable {c:Chain β} {back start stop:Option Nat} {pre post l:List (Nat×β)}

lemma segment_start (h:Segment c.cells back start l stop) : start=(firstOf l).or stop := by
 cases l with
 | nil=>exact h
 | cons e l=>exact h.1
lemma lastOf_mem {u:Nat} (h:lastOf none l=some u) : u∈addresses l := by
 simp only[lastOf,Option.or_none,Option.map_eq_some_iff] at h
 obtain ⟨e,he,rfl⟩:=h
 exact mem_map_of_mem (mem_of_getLast? he)
lemma firstOf_mem {w:Nat} (h:firstOf l=some w) : w∈addresses l := by
 simp only[firstOf,Option.map_eq_some_iff] at h
 obtain ⟨e,he,rfl⟩:=h
 exact mem_map_of_mem (mem_of_head? he)

lemma leadTo_segment (h:Segment c.cells none c.head pre stop) (hnodup:(addresses pre).Nodup)
 (v:Option Nat) :
 Segment (c.leadTo (lastOf none pre) v).cells none (c.leadTo (lastOf none pre) v).head pre v := by
 rcases eq_nil_or_concat pre with rfl|⟨front,⟨u,x⟩,rfl⟩
 · rfl
 · rw[concat_eq_append] at h hnodup ⊢
   rw[lastOf_concat]
   refine segment_setNext (fun hu=>?_) h v
   rw[addresses,map_append,nodup_append] at hnodup
   exact hnodup.2.2 u hu u (by simp) rfl

lemma leadTo_other {u:Option Nat} (hu:∀a,u=some a → a∉addresses l) (v:Option Nat)
 (h:Segment c.cells back start l stop) : Segment (c.leadTo u v).cells back start l stop := by
 cases u with
 | none=>exact h
 | some a=>exact (segment_modify (hu a rfl) _).2 h
lemma backTo_segment (h:Segment c.cells back start post none) (hnodup:(addresses post).Nodup)
 (b:Option Nat) : Segment (c.backTo (firstOf post) b).cells b start post none := by
 cases post with
 | nil=>exact h
 | cons e post=>exact segment_setPrev (nodup_cons.1 hnodup).1 h b
lemma backTo_other {w:Option Nat} (hw:∀a,w=some a → a∉addresses l) (b:Option Nat)
 (h:Segment c.cells back start l stop) : Segment (c.backTo w b).cells back start l stop := by
 cases w with
 | none=>exact h
 | some a=>exact (segment_modify (hw a rfl) _).2 h

@[simp] lemma backTo_head (w b:Option Nat) (c:Chain β) : (c.backTo w b).head=c.head := by
 cases w<;>rfl
@[simp] lemma backTo_size (w b:Option Nat) (c:Chain β) : (c.backTo w b).size=c.size := by
 cases w<;>rfl
@[simp] lemma leadTo_size (u v:Option Nat) (c:Chain β) : (c.leadTo u v).size=c.size := by
 cases u<;>rfl

variable {p:Nat}

lemma Represents.split {x:β} (h:Represents c (pre++(p,x)::post)) : Segment c.cells none c.head pre (some p) ∧
  c.cells p=some ⟨x,lastOf none pre,firstOf post⟩ ∧
  Segment c.cells (some p) (firstOf post) post none := by
 obtain ⟨mid,hpre,rfl,next,hcell,hpost⟩:=segment_append.1 h.linked
 have hnext:next=firstOf post:=(segment_start hpost).trans (Option.or_none ..)
 subst hnext
 exact ⟨hpre,hcell,hpost⟩

lemma nodup_split {x:β} (h:(addresses (pre++(p,x)::post)).Nodup) :
 (addresses pre).Nodup ∧ (addresses post).Nodup ∧ p∉addresses pre ∧ p∉addresses post ∧
  ∀a∈addresses pre,a∉addresses post := by
 simp only[addresses,map_append,map_cons,nodup_append,nodup_cons,mem_cons] at h ⊢
 obtain ⟨hpre,⟨hp,hpost⟩,hcross⟩:=h
 exact ⟨hpre,hpost,fun ha=>hcross p ha p (.inl rfl) rfl,hp,
  fun a ha ha'=>hcross a ha a (.inr ha') rfl⟩

end Links

def Chain.insertBefore (q:Nat) (r:β) (p:Nat) (c:Chain β) : Chain β :=
 match c.cells p with
 | none=>c
 | some a=>
  ((c.store q ⟨r,a.prev,some p⟩).backTo (some p) (some q)).leadTo a.prev (some q)
def Chain.insertAfter (q:Nat) (r:β) (p:Nat) (c:Chain β) : Chain β :=
 match c.cells p with
 | none=>c
 | some a=>
  ((c.store q ⟨r,some p,a.next⟩).leadTo (some p) (some q)).backTo a.next (some q)

def Chain.append (q:Nat) (r:β) (tail:Option Nat) (c:Chain β) : Chain β :=
 (c.store q ⟨r,tail,none⟩).leadTo tail (some q)
def Chain.unlink (p:Nat) (c:Chain β) : Chain β :=
 match c.cells p with
 | none=>c
 | some a=>((c.leadTo a.prev a.next).backTo a.next a.prev).free p
def Chain.write (p:Nat) (f:β → β) (c:Chain β) : Chain β :=
 {c with cells:=modify p (fun a=>setItem (f a.item) a) c.cells}

section Operations
variable {c:Chain β} {p q:Nat} {x r:β} {pre post l:List (Nat×β)}

lemma store_segment {cell:Cell β} {back start stop:Option Nat} (hq:q∉addresses l)
 (h:Segment c.cells back start l stop) : Segment (c.store q cell).cells back start l stop :=
 (segment_update hq _).2 h
lemma store_cell (r:β) (back next:Option Nat) :
 Segment (c.store q ⟨r,back,next⟩).cells back (some q) [(q,r)] next := ⟨rfl,next,update_self ..,rfl⟩
lemma last_not_mem (hcross:∀a∈addresses pre,a∉addresses l) (a:Nat)
 (ha:lastOf none pre=some a) : a∉addresses l := hcross a (lastOf_mem ha)
lemma not_mem_split (hq:q∉addresses (pre++(p,x)::post)) : q∉addresses pre ∧ q≠p ∧ q∉addresses post := by
 simpa using hq
lemma nodup_insert (h:(addresses (pre++l)).Nodup) (hq:q∉addresses (pre++l)) :
 (addresses (pre++(q,r)::l)).Nodup := by
 simp only[addresses,map_append] at h hq ⊢
 exact nodup_middle.2 (nodup_cons.2 ⟨hq,h⟩)

section
variable (h:Represents c (pre++(p,x)::post)) (hq:q∉addresses (pre++(p,x)::post))
include h hq

lemma insertBefore_represents : Represents (c.insertBefore q r p) (pre++(q,r)::(p,x)::post) := by
 obtain ⟨hpre,hcell,hpost⟩:=h.split
 obtain ⟨hnpre,hnpost,hppre,hppost,hcross⟩:=nodup_split h.nodup
 obtain ⟨hqpre,hqp,hqpost⟩:=not_mem_split hq
 have hbehind:Segment c.cells (lastOf none pre) (some p) ((p,x)::post) none:=
  ⟨rfl,_,hcell,hpost⟩
 have hqbehind:q∉addresses ((p,x)::post):=by simp[hqp,hqpost]
 have hcross':∀a∈addresses pre,a∉addresses ((p,x)::post):=fun a ha=>by
  have hne:a≠p:=fun hap=>hppre (hap▸ha)
  simp[hne,hcross a ha]
 have hfirst:∀a,some p=some a → a∉addresses pre:=by
  rintro _ ⟨⟩
  exact hppre
 unfold Chain.insertBefore
 rw[hcell]
 refine ⟨segment_append.2 ⟨some q,?_,segment_append (l:=[(q,r)]).2 ⟨some p,?_,?_⟩⟩,nodup_insert h.nodup hq,?_⟩
 · have hfront:=backTo_other hfirst (some q)
    (@store_segment _ c q pre ⟨r,lastOf none pre,some p⟩ _ _ _ hqpre hpre)
   exact leadTo_segment hfront hnpre (some q)
 · apply leadTo_other (last_not_mem fun a ha=>?_)
   · apply backTo_other
     · rintro _ ⟨⟩
       simpa using hqp.symm
     · exact store_cell r _ _
   · rintro hmem
     obtain rfl:=mem_singleton.1 hmem
     exact hqpre ha
 · apply leadTo_other (last_not_mem hcross')
   exact backTo_segment (store_segment hqbehind hbehind) (nodup_cons.2 ⟨hppost,hnpost⟩) (some q)
 · simp[Chain.store,h.size,Nat.add_assoc]

lemma insertAfter_represents : Represents (c.insertAfter q r p) (pre++(p,x)::(q,r)::post) := by
 obtain ⟨hpre,hcell,hpost⟩:=h.split
 obtain ⟨hnpre,hnpost,hppre,hppost,hcross⟩:=nodup_split h.nodup
 obtain ⟨hqpre,hqp,hqpost⟩:=not_mem_split hq
 have hfront:Segment c.cells none c.head (pre++[(p,x)]) (firstOf post):=
  segment_append.2 ⟨some p,hpre,rfl,_,hcell,rfl⟩
 have hnfront:(addresses (pre++[(p,x)])).Nodup:=by
  rw[addresses_append]
  refine nodup_append.2 ⟨hnpre,nodup_singleton p,fun a ha b hb hab=>?_⟩
  obtain rfl:=mem_singleton.1 hb
  exact hppre (hab▸ha)
 have hqfront:q∉addresses (pre++[(p,x)]):=by simp[hqpre,hqp]
 have hfirst:∀a,firstOf post=some a → a∉addresses (pre++[(p,x)]):=by
  intro a ha hmem
  have hapost:=firstOf_mem ha
  rcases mem_append.1 (addresses_append pre _▸hmem) with hapre|hap
  · exact hcross a hapre hapost
  · obtain rfl:=mem_singleton.1 hap
    exact hppost hapost
 have happend:pre++(p,x)::(q,r)::post=(pre++[(p,x)])++(q,r)::post:=by simp
 unfold Chain.insertAfter
 rw[hcell,happend]
 refine ⟨segment_append.2 ⟨some q,?_,segment_append (l:=[(q,r)]).2 ⟨firstOf post,?_,?_⟩⟩,
  nodup_insert (by simpa using h.nodup) (by simpa using hq),?_⟩
 · apply backTo_other hfirst
   rw[backTo_head,←lastOf_concat none pre p x]
   exact leadTo_segment (store_segment hqfront hfront) hnfront (some q)
 · rw[lastOf_concat]
   apply backTo_other
   · intro a ha hmem
     obtain rfl:=mem_singleton.1 hmem
     exact hqpost (firstOf_mem ha)
   · apply leadTo_other
     · rintro _ ⟨⟩ hmem
       exact hqp (mem_singleton.1 hmem).symm
     · exact store_cell r _ _
 · have hbehind:=leadTo_other (u:=some p) (by rintro _ ⟨⟩;exact hppost) (some q)
    (@store_segment _ c q post ⟨r,some p,firstOf post⟩ _ _ _ hqpost hpost)
   exact backTo_segment hbehind hnpost (some q)
 · simp[Chain.store,h.size,Nat.add_assoc]

end

lemma append_represents (h:Represents c l) (hq:q∉addresses l) :
 Represents (c.append q r (lastOf none l)) (l++[(q,r)]) := by
 refine ⟨segment_append.2 ⟨some q,?_,?_⟩,nodup_insert (by simpa using h.nodup) (by simpa using hq),?_⟩
 · exact leadTo_segment (store_segment hq h.linked) h.nodup (some q)
 · apply leadTo_other (last_not_mem fun a ha hmem=>?_)
   · exact store_cell r _ _
   · obtain rfl:=mem_singleton.1 hmem
     exact hq ha
 · simp[Chain.append,Chain.store,h.size]

lemma unlink_represents (h:Represents c (pre++(p,x)::post)) : Represents (c.unlink p) (pre++post) := by
 obtain ⟨hpre,hcell,hpost⟩:=h.split
 obtain ⟨hnpre,hnpost,hppre,hppost,hcross⟩:=nodup_split h.nodup
 unfold Chain.unlink
 rw[hcell]
 refine ⟨segment_append.2 ⟨firstOf post,(segment_update hppre none).2 ?_,
  (segment_update hppost none).2 ?_⟩,?_,?_⟩
 · apply backTo_other (fun a ha hmem=>hcross a hmem (firstOf_mem ha))
   change Segment _ none (Chain.backTo _ _ _).head pre _
   rw[backTo_head]
   exact leadTo_segment hpre hnpre (firstOf post)
 · exact backTo_segment (leadTo_other (last_not_mem hcross) _ hpost) hnpost (lastOf none pre)
 · rw[addresses_append]
   exact nodup_append.2 ⟨hnpre,hnpost,fun a ha b hb hab=>hcross a ha (hab▸hb)⟩
 · simp[Chain.free,h.size]

lemma write_represents (h:Represents c (pre++(p,x)::post)) (f:β → β) :
 Represents (c.write p f) (pre++(p,f x)::post) := by
 obtain ⟨hpre,hcell,hpost⟩:=h.split
 obtain ⟨hnpre,hnpost,hppre,hppost,hcross⟩:=nodup_split h.nodup
 refine ⟨segment_append.2 ⟨some p,(segment_modify hppre _).2 hpre,rfl,firstOf post,?_,
  (segment_modify hppost _).2 hpost⟩,by simpa using h.nodup,by simpa[Chain.write] using h.size⟩
 simp[Chain.write,modify,hcell,setItem]

end Operations

def Chain.walk (c:Chain β) : Nat → Option Nat → List (Nat×β)
 | 0, _=>[]
 | _+1, none=>[]
 | n+1, some p=>
  match c.cells p with
  | none=>[]
  | some a=>(p,a.item)::c.walk n a.next

def Chain.list (c:Chain β) : List (Nat×β) := c.walk c.size c.head
def Chain.overwrite (c:Chain β) (xs:List β) : Chain β :=
 ((addresses c.list).zip xs).foldl (fun c e=>c.write e.1 fun _=>e.2) c

/-- Change every item in place, and unlink the cells whose new items are to be dropped. -/
def Chain.sweep (f:β → β) (drop:β → Bool) : Nat → Option Nat → Chain β → Chain β
 | 0, _, c=>c
 | _+1, none, c=>c
 | n+1, some p, c=>
  match c.cells p with
  | none=>c
  | some a=>
   let c:=c.write p f
   if drop (f a.item) then Chain.sweep f drop n a.next (c.unlink p)
   else Chain.sweep f drop n a.next c

section Walks
variable {c:Chain β} {l done todo:List (Nat×β)}

lemma walk_segment {back start:Option Nat} {n:Nat} (h:Segment c.cells back start l none)
 (hn:l.length≤n) : c.walk n start=l := by
 induction l generalizing back start n with
 | nil=>
  obtain rfl:start=none:=h
  cases n<;>rfl
 | cons e l ih=>
  obtain ⟨rfl,next,hcell,hl⟩:=h
  cases n with
  | zero=>exact absurd hn (by simp)
  | succ n=>simp[Chain.walk,hcell,ih hl (Nat.le_of_succ_le_succ hn)]

lemma Represents.list_eq (h:Represents c l) : c.list=l := walk_segment h.linked (Nat.le_of_eq h.size.symm)

lemma overwrite_step (xs:List β) (hlength:xs.length=todo.length)
 (h:Represents c (done++todo)) : Represents (((addresses todo).zip xs).foldl (fun c e=>c.write e.1 fun _=>e.2) c)
  (done++(addresses todo).zip xs) := by
 induction todo generalizing c done xs with
 | nil=>simpa using h
 | cons e todo ih=>
  obtain ⟨p,x⟩:=e
  cases xs with
  | nil=>cases hlength
  | cons y xs=>
   have hwritten:=write_represents h fun _=>y
   have hstep:=@ih _ (done++[(p,y)]) xs (Nat.succ.inj hlength) (by simpa using hwritten)
   simpa using hstep

variable {xs:List β}

lemma overwrite_represents (h:Represents c l) (hlength:xs.length=l.length) :
 Represents (c.overwrite xs) ((addresses l).zip xs) := by
 have:=@overwrite_step β c [] l xs hlength h
 rwa[←h.list_eq] at this ⊢
lemma items_zip (hlength:xs.length=l.length) : items ((addresses l).zip xs)=xs := by
 apply map_snd_zip
 simp[addresses,hlength]

variable (f:β → β)

lemma sweep_step (drop:β → Bool) {n:Nat} (hn:todo.length≤n)
 (h:Represents c (done++todo)) : Represents (Chain.sweep f drop n (firstOf todo) c)
  (done++(todo.map fun e=>(e.1,f e.2)).filter fun e=>!drop e.2) := by
 induction todo generalizing c done n with
 | nil=>cases n<;>simpa[firstOf,Chain.sweep] using h
 | cons e todo ih=>
  obtain ⟨p,x⟩:=e
  obtain ⟨n,rfl⟩:∃m,n=m+1:=⟨n-1,by simp at hn;omega⟩
  have hcell:=h.split.2.1
  have hwritten:=write_represents h f
  have hn':todo.length≤n:=Nat.le_of_succ_le_succ hn
  change Represents (Chain.sweep f drop (n+1) (some p) c) _
  rw[Chain.sweep,hcell,map_cons,filter_cons]
  dsimp only
  cases drop (f x) with
  | true=>exact ih hn' (unlink_represents hwritten)
  | false=>
   have hstep:=@ih _ (done++[(p,f x)]) n hn' (by simpa using hwritten)
   simpa using hstep

lemma sweep_represents (drop:β → Bool) (h:Represents c l) : Represents (Chain.sweep f drop c.size c.head c)
  ((l.map fun e=>(e.1,f e.2)).filter fun e=>!drop e.2) := by
 have hhead:c.head=firstOf l:=(segment_start h.linked).trans (Option.or_none ..)
 rw[hhead]
 exact @sweep_step β c [] l f drop _ (Nat.le_of_eq h.size.symm) h

lemma items_sweep (drop:β → Bool) (l:List (Nat×β)) :
 items ((l.map fun e=>(e.1,f e.2)).filter fun e=>!drop e.2)=((items l).map f).filter fun x=>!drop x := by
 induction l with
 | nil=>rfl
 | cons e l ih=>
  obtain ⟨p,x⟩:=e
  simp only[map_cons,filter_cons,items_cons]
  cases drop (f x) with
  | true=>simpa using ih
  | false=>simpa using ih

end Walks

end OpenAvnu.Linked
