import OpenAvnu.Linked

/-!
# The list of the AVDECC code

`openavb_list.c`: doubly linked, with a tail and one iterator. `OpenavbList` carries the proof that
the links agree with the nodes.
-/

namespace OpenAvnu.OpenavbList

open Linked List Function Option

variable {α:Type}

/-- `next` is the address that the next allocation gives. -/
structure Raw (α:Type) where
 chain:Chain α
 (tail iter:Option Nat)
 next:Nat

def Raw.newList : Raw α := ⟨⟨fun _=>none,none,0⟩,none,none,0⟩

def Raw.add (data:α) (l:Raw α) : Raw α :=
 match l.chain.head with
 | none=>
  {l with chain:=l.chain.append l.next data none,tail:=some l.next,next:=l.next+1}
 | some _=>
  {l with chain:=l.chain.append l.next data l.tail,tail:=some l.next,next:=l.next+1}

def Raw.delete (node:Nat) (l:Raw α) : Raw α :=
 match l.chain.cells node with
 | none=>l
 | some a=>
  let head:=if l.chain.head=some node then a.next else l.chain.head
  let tail:=if l.tail=some node then a.prev else l.tail
  let cells:=match a.prev with
   | some prev=>modify prev (setNext a.next) l.chain.cells
   | none=>l.chain.cells
  let cells:=match a.next with
   | some next=>modify next (setPrev a.prev) cells
   | none=>cells
  {l with
    chain:=⟨update cells node none,head,l.chain.size-1⟩
    tail:=tail}

def Raw.data (l:Raw α) (node:Nat) : Option α := (l.chain.cells node).map Cell.item
def Raw.iterFirst (l:Raw α) : Raw α×Option Nat := ({l with iter:=l.chain.head},l.chain.head)

def Raw.iterNext (l:Raw α) : Raw α×Option Nat :=
 match l.iter with
 | none=>(l,none)
 | some p=>
  let next:=(l.chain.cells p).bind Cell.next
  ({l with iter:=next},next)

/-- `while (node) { if (p(data)) break; node = openavbListIterNext(list); }` -/
def Raw.search (p:α → Bool) : Nat → Raw α×Option Nat → Raw α×Option Nat
 | 0, r=>r
 | _+1, (l,none)=>(l,none)
 | n+1, (l,some node)=>
  if (l.data node).any p then (l,some node) else Raw.search p n l.iterNext

/-- `while (node && count-- > 0) node = openavbListIterNext(list);` -/
def Raw.skip : Nat → Raw α×Option Nat → Raw α×Option Nat
 | 0, r=>r
 | _+1, (l,none)=>(l,none)
 | n+1, (l,some _)=>Raw.skip n l.iterNext

/-- The links lead through the nodes `l`, and no other node is allocated. -/
structure Holds (raw:Raw α) (l:List (Nat×α)) : Prop where
 represents:Represents raw.chain l
 tail:raw.tail=lastOf none l
 fresh:∀p∈addresses l,p < raw.next
 owned:∀p,raw.chain.cells p≠none → p∈addresses l

variable {raw:Raw α} {l:List (Nat×α)}

lemma holds_newList : Holds (Raw.newList:Raw α) [] := ⟨⟨rfl,nodup_nil,rfl⟩,rfl,by simp,fun _ h=>absurd rfl h⟩
lemma Holds.head_eq (h:Holds raw l) : raw.chain.head=firstOf l :=
 (segment_start h.represents.linked).trans (or_none ..)

variable {pre post:List (Nat×α)} {p:Nat} {x:α}

lemma Holds.cell (h:Holds raw (pre++(p,x)::post)) :
 raw.chain.cells p=some ⟨x,lastOf none pre,firstOf post⟩ := h.represents.split.2.1

variable {q:Nat} {c:Chain α} {β:Type} (f:Nat×α → β)

lemma modify_ne_none {cells:Nat → Option (Cell α)} {f:Cell α → Cell α} {p:Nat}
 (h:modify p f cells q≠none) : cells q≠none := by
 rw[Linked.modify,update_apply] at h
 split_ifs at h with hq
 · subst hq
   intro hnone
   rw[hnone] at h
   exact h rfl
 · exact h

lemma append_cells {p:Nat} {r:α} {tail:Option Nat}
 (h:(c.append q r tail).cells p≠none) : p=q ∨ c.cells p≠none := by
 have hstored:(c.store q ⟨r,tail,none⟩).cells p≠none:=by
  cases tail with
  | none=>exact h
  | some u=>exact modify_ne_none h
 by_cases hp:p=q
 · exact .inl hp
 · rw[Chain.store] at hstored
   simp only[update_of_ne hp] at hstored
   exact .inr hstored

lemma holds_add (h:Holds raw l) (data:α) : Holds (raw.add data) (l++[(raw.next,data)]) := by
 have hnew:raw.next∉addresses l:=fun hmem=>Nat.lt_irrefl _ (h.fresh _ hmem)
 have hadd:raw.add data = {raw with
  chain:=raw.chain.append raw.next data (lastOf none l)
  tail:=some raw.next
  next:=raw.next+1}:=by
  rw[Raw.add,h.head_eq,←h.tail]
  cases l with
  | nil=>rw[h.tail];rfl
  | cons e l=>rfl
 rw[hadd]
 constructor
 · exact append_represents h.represents hnew
 · rw[lastOf_concat]
 · intro p hp
   simp only[addresses_append,mem_append,addresses_cons,addresses_nil,mem_singleton] at hp
   rcases hp with hp|rfl
   · exact Nat.lt_succ_of_lt (h.fresh p hp)
   · exact Nat.lt_succ_self _
 · intro p hp
   simp only[addresses_append,mem_append,addresses_cons,addresses_nil,mem_singleton]
   rcases append_cells hp with rfl|hp
   · exact .inr rfl
   · exact .inl (h.owned p hp)

lemma delete_chain (h:Holds raw (pre++(p,x)::post)) : (raw.delete p).chain=raw.chain.unlink p := by
 have hcell:=h.cell
 have hhead:=h.head_eq
 rw[Raw.delete,Chain.unlink,hcell]
 rcases eq_nil_or_concat pre with rfl|⟨front,⟨u,y⟩,rfl⟩
 · have hfirst:raw.chain.head=some p:=hhead
   simp only[hfirst]
   cases firstOf post<;>rfl
 · rw[concat_eq_append] at *
   obtain ⟨-,-,hp,-,-⟩:=nodup_split h.represents.nodup
   have hother:raw.chain.head≠some p:=by
    intro hfirst
    rw[hfirst] at hhead
    apply hp
    cases front with
    | nil=>
     simp only[firstOf,nil_append,cons_append,head?_cons,map_some,some.injEq] at hhead
     simp[hhead]
    | cons e front=>
     simp only[firstOf,cons_append,head?_cons,map_some,some.injEq] at hhead
     simp[addresses,hhead]
   simp only[lastOf_concat,if_neg hother]
   cases firstOf post<;>rfl

lemma unlink_cells {p:Nat} (h:(c.unlink p).cells q≠none) :
 q≠p ∧ c.cells q≠none ∨ c.cells p=none ∧ c.cells q≠none := by
 cases hp:c.cells p with
 | none=>
  rw[Chain.unlink,hp] at h
  exact .inr ⟨rfl,h⟩
 | some a=>
  rw[Chain.unlink,hp] at h
  by_cases hq:q=p
  · subst hq
    simp[Chain.free] at h
  · refine .inl ⟨hq,?_⟩
    simp only[Chain.free,update_of_ne hq] at h
    have hlead:(c.leadTo a.prev a.next).cells q≠none:=by
     cases hnext:a.next with
     | none=>
      rw[hnext] at h
      exact h
     | some w=>
      rw[hnext] at h
      exact modify_ne_none h
    cases hprev:a.prev with
    | none=>
     rw[hprev] at hlead
     exact hlead
    | some u=>
     rw[hprev] at hlead
     exact modify_ne_none hlead

lemma holds_delete (h:Holds raw (pre++(p,x)::post)) : Holds (raw.delete p) (pre++post) := by
 have hcell:=h.cell
 obtain ⟨-,-,hppre,hppost,-⟩:=nodup_split h.represents.nodup
 have hchain:=delete_chain h
 constructor
 · rw[hchain]
   exact unlink_represents h.represents
 · have htail:=h.tail
   rw[Raw.delete,hcell]
   rcases eq_nil_or_concat post with rfl|⟨front,⟨u,y⟩,rfl⟩
   · simp[htail]
   · rw[concat_eq_append] at *
     have hsplit:pre++(p,x)::(front++[(u,y)])=(pre++(p,x)::front)++[(u,y)]:=by
      simp
     rw[hsplit,lastOf_concat] at htail
     have hup:u≠p:=by
      rintro rfl
      simp at hppost
     have hne:¬(some u=some p):=by simpa using hup
     simp only[htail,if_neg hne]
     rw[←append_assoc,lastOf_concat]
 · intro q hq
   rw[show (raw.delete p).next=raw.next by rw[Raw.delete,hcell]]
   apply h.fresh
   simp only[addresses_append,mem_append,addresses_cons,mem_cons] at hq ⊢
   rcases hq with hq|hq
   · exact .inl hq
   · exact .inr (.inr hq)
 · intro q hq
   rw[hchain] at hq
   rcases unlink_cells hq with ⟨hqp,hq⟩|⟨hnone,-⟩
   · have hmem:=h.owned q hq
     simp only[addresses_append,mem_append,addresses_cons,mem_cons] at hmem ⊢
     rcases hmem with hmem|rfl|hmem
     · exact .inl hmem
     · exact absurd rfl hqp
     · exact .inr hmem
   · rw[hcell] at hnone
     cases hnone

lemma mem_addresses_iff : p∈addresses l ↔ ∃x,(p,x)∈l := by
 simp[addresses]
lemma Holds.data_eq (h:Holds raw l) (hmem:(p,x)∈l) : raw.data p=some x := by
 obtain ⟨pre,post,rfl⟩:=append_of_mem hmem
 rw[Raw.data,h.cell]
 rfl

/-- The data of a node can be changed in place. -/
def Raw.write (node:Nat) (f:α → α) (l:Raw α) : Raw α :=
 {l with chain:=l.chain.write node f}

lemma lastOf_map (back:Option Nat) (l:List (Nat×α)) : lastOf back (l.map fun e=>(e.1,f e))=lastOf back l := by
 simp only[lastOf,getLast?_map,Option.map_map]
 rfl
lemma addresses_map (l:List (Nat×α)) : addresses (l.map fun e=>(e.1,f e))=addresses l := by
 simp[addresses]

lemma map_write_absent {f:α → α} (hp:p∉addresses l) : l.map (fun e=>(e.1,if e.1=p then f e.2 else e.2))=l := by
 conv_rhs=>rw[←map_id l]
 apply map_congr_left
 intro e he
 have hne:e.1≠p:=by
  rintro rfl
  exact hp (mem_map_of_mem he)
 rw[if_neg hne]
 rfl

lemma map_write_split {f:α → α} (hnodup:(addresses (pre++(p,x)::post)).Nodup) :
 (pre++(p,x)::post).map (fun e=>(e.1,if e.1=p then f e.2 else e.2))=pre++(p,f x)::post := by
 obtain ⟨-,-,hpre,hpost,-⟩:=nodup_split hnodup
 rw[map_append,map_cons,map_write_absent hpre,map_write_absent hpost,if_pos rfl]

lemma holds_write (h:Holds raw l) (p:Nat) (f:α → α) :
 Holds (raw.write p f) (l.map fun e=>(e.1,if e.1=p then f e.2 else e.2)) := by
 have hcells:∀q,(raw.write p f).chain.cells q≠none → raw.chain.cells q≠none:=
  fun q hq=>modify_ne_none hq
 constructor
 · by_cases hmem:p∈addresses l
   · obtain ⟨x,hx⟩:=mem_addresses_iff.1 hmem
     obtain ⟨pre,post,rfl⟩:=append_of_mem hx
     rw[map_write_split h.represents.nodup]
     exact write_represents h.represents f
   · have hnone:raw.chain.cells p=none:=by
      by_contra hsome
      exact hmem (h.owned p hsome)
     have hchain:(raw.write p f).chain=raw.chain:=by
      simp only[Raw.write,Chain.write,Linked.modify,hnone,map_none]
      rw[←hnone,update_eq_self]
     rw[map_write_absent hmem,hchain]
     exact h.represents
 · rw[lastOf_map]
   exact h.tail
 · rw[addresses_map]
   exact h.fresh
 · intro q hq
   rw[addresses_map]
   exact h.owned q (hcells q hq)

section Iterator
variable {pre post:List (Nat×α)} {q:Nat} {x:α}

lemma Holds.iterNext_eq (h:Holds raw (pre++(q,x)::post)) (hiter:raw.iter=some q) :
 raw.iterNext=({raw with iter:=firstOf post},firstOf post) := by
 simp[Raw.iterNext,hiter,h.cell]
lemma Holds.moved {iter:Option Nat} (h:Holds raw (pre++(q,x)::post)) :
 Holds {raw with iter:=iter} ((pre++[(q,x)])++post) := by
 rw[append_assoc]
 exact ⟨h.represents,h.tail,h.fresh,h.owned⟩

end Iterator

lemma search_from {p:α → Bool} {n:Nat} (h:Holds raw (pre++post))
 (hiter:raw.iter=firstOf post) (hn:post.length≤n) :
 ((Raw.search p n (raw,firstOf post)).2=(post.find? fun e=>p e.2).map Prod.fst) := by
 induction post generalizing raw pre n with
 | nil=>cases n<;>rfl
 | cons e post ih=>
  obtain ⟨q,x⟩:=e
  obtain ⟨n,rfl⟩:∃m,n=m+1:=⟨n-1,by simp at hn;omega⟩
  have hdata:raw.data q=some x:=h.data_eq (by simp)
  have hfirst:firstOf ((q,x)::post)=some q:=rfl
  rw[hfirst] at hiter ⊢
  rw[Raw.search,hdata,find?_cons]
  cases hp:p x with
  | true=>simp[hp]
  | false=>
   simp only[any_some,hp,h.iterNext_eq hiter]
   exact ih h.moved rfl (Nat.le_of_succ_le_succ hn)

lemma skip_from {k:Nat} (h:Holds raw (pre++post)) (hiter:raw.iter=firstOf post) :
 (Raw.skip k (raw,firstOf post)).2=(post[k]?).map Prod.fst := by
 induction k generalizing raw pre post with
 | zero=>
  cases post with
  | nil=>rfl
  | cons e post=>rfl
 | succ k ih=>
  cases post with
  | nil=>rfl
  | cons e post=>
   obtain ⟨q,x⟩:=e
   have hfirst:firstOf ((q,x)::post)=some q:=rfl
   rw[hfirst] at hiter ⊢
   rw[Raw.skip,h.iterNext_eq hiter]
   exact ih h.moved rfl

lemma Holds.self (h:Holds raw l) : Holds raw raw.chain.list := by
 rwa[h.represents.list_eq]

structure Nodes (α:Type) where
 raw:Raw α
 holds:Holds raw raw.chain.list

def Nodes.entries (list:Nodes α) : List (Nat×α) := list.raw.chain.list
def Nodes.toList (list:Nodes α) : List α := items list.entries
def openavbListNewList : Nodes α := ⟨.newList,holds_newList.self⟩
def openavbListNew (list:Nodes α) (data:α) : Nodes α := ⟨list.raw.add data,(holds_add list.holds data).self⟩

lemma holds_delete_filter (h:Holds raw l) (p:Nat) : Holds (raw.delete p) (l.filter fun e=>decide (e.1≠p)) := by
 have habsent:∀l:List (Nat×α),p∉addresses l → l.filter (fun e=>decide (e.1≠p))=l:= by
  intro l hp
  apply filter_eq_self.2
  intro e he
  apply decide_eq_true
  rintro rfl
  exact hp (mem_map_of_mem he)
 by_cases hmem:p∈addresses l
 · obtain ⟨x,hx⟩:=mem_addresses_iff.1 hmem
   obtain ⟨pre,post,rfl⟩:=append_of_mem hx
   obtain ⟨-,-,hpre,hpost,-⟩:=nodup_split h.represents.nodup
   rw[filter_append,filter_cons_of_neg (by simp),habsent pre hpre,habsent post hpost]
   exact holds_delete h
 · have hnone:raw.chain.cells p=none:=by
    by_contra hsome
    exact hmem (h.owned p hsome)
   have hsame:raw.delete p=raw:=by rw[Raw.delete,hnone]
   rw[habsent l hmem,hsame]
   exact h

def openavbListDelete (list:Nodes α) (node:Nat) : Nodes α :=
 ⟨list.raw.delete node,(holds_delete_filter list.holds node).self⟩
def Nodes.write (list:Nodes α) (node:Nat) (f:α → α) : Nodes α :=
 ⟨list.raw.write node f,(holds_write list.holds node f).self⟩
def openavbListData (list:Nodes α) (node:Nat) : Option α := list.raw.data node
def openavbListFirst (list:Nodes α) : Option Nat := list.raw.chain.head

/-- Every loop sets the iterator before it uses it, so it is not kept. -/
def Nodes.find (list:Nodes α) (p:α → Bool) : Option Nat :=
 (Raw.search p list.raw.chain.size list.raw.iterFirst).2
def Nodes.nth (list:Nodes α) (k:Nat) : Option Nat := (Raw.skip k list.raw.iterFirst).2

variable {list:Nodes α}

@[simp] lemma entries_newList : (openavbListNewList:Nodes α).entries=[] := rfl

section
variable (list:Nodes α)

@[simp] lemma entries_new (data:α) : (openavbListNew list data).entries=list.entries++[(list.raw.next,data)] :=
 (holds_add list.holds data).represents.list_eq
@[simp] lemma entries_delete (p:Nat) :
 (openavbListDelete list p).entries=list.entries.filter fun e=>decide (e.1≠p) :=
 (holds_delete_filter list.holds p).represents.list_eq
@[simp] lemma entries_write (p:Nat) (f:α → α) :
 (list.write p f).entries=list.entries.map fun e=>(e.1,if e.1=p then f e.2 else e.2) :=
 (holds_write list.holds p f).represents.list_eq
lemma Nodes.nodup : (addresses list.entries).Nodup := list.holds.represents.nodup

end

lemma Nodes.lt_next (h:p∈addresses list.entries) : p<list.raw.next := list.holds.fresh p h

section
variable (list:Nodes α)

lemma first_eq : openavbListFirst list=firstOf list.entries := list.holds.head_eq
lemma Nodes.iterFirst_eq : list.raw.iterFirst=
  ({list.raw with iter:=firstOf list.entries},firstOf list.entries) := by
 rw[Raw.iterFirst,list.holds.head_eq]
 rfl
lemma Nodes.holds_iter (iter:Option Nat) : Holds {list.raw with iter:=iter} ([]++list.entries) :=
 ⟨list.holds.represents,list.holds.tail,list.holds.fresh,list.holds.owned⟩
lemma find_eq (p:α → Bool) : list.find p=(list.entries.find? fun e=>p e.2).map Prod.fst := by
 rw[Nodes.find,list.iterFirst_eq]
 exact search_from (list.holds_iter _) rfl (Nat.le_of_eq list.holds.represents.size.symm)
lemma nth_eq (k:Nat) : list.nth k=(list.entries[k]?).map Prod.fst := by
 rw[Nodes.nth,list.iterFirst_eq]
 exact skip_from (list.holds_iter _) rfl
@[simp] lemma next_new (data:α) : (openavbListNew list data).raw.next=list.raw.next+1 := by
 simp only[openavbListNew,Raw.add]
 cases list.raw.chain.head<;>rfl
@[simp] lemma next_delete (p:Nat) : (openavbListDelete list p).raw.next=list.raw.next := by
 simp only[openavbListDelete,Raw.delete]
 cases list.raw.chain.cells p<;>rfl

end

lemma data_of_mem (h:(p,x)∈list.entries) : openavbListData list p=some x := list.holds.data_eq h

lemma find_some {p:α → Bool} {node:Nat} (h:list.find p=some node) : ∃x,(node,x)∈list.entries ∧ p x=true := by
 rw[find_eq,map_eq_some_iff] at h
 obtain ⟨⟨q,x⟩,hfind,rfl⟩:=h
 have hp:=find?_some hfind
 exact ⟨x,mem_of_find?_eq_some hfind,hp⟩

lemma delete_split (h:(p,x)∈list.entries) : ∃pre post,list.entries=pre++(p,x)::post ∧
  (openavbListDelete list p).entries=pre++post := by
 obtain ⟨pre,post,hsplit⟩:=append_of_mem h
 refine ⟨pre,post,hsplit,?_⟩
 have hholds:Holds list.raw (pre++(p,x)::post):=hsplit▸list.holds
 exact (holds_delete hholds).represents.list_eq

lemma entries_unique {x y:α} (hx:(p,x)∈list.entries) (hy:(p,y)∈list.entries) : x=y :=
 some.inj ((data_of_mem hx).symm.trans (data_of_mem hy))

end OpenAvnu.OpenavbList
