import Mathlib.Data.List.Basic
import Mathlib.Data.List.Nodup
import Mathlib.Data.List.TakeWhile
import Mathlib.Logic.Function.Basic

/-!
# Singly linked lists

Results are about the list of cells that the links lead through.
-/

namespace OpenAvnu.SinglyLinked

open List Function

structure Links where
 head:Option Nat
 next:Nat → Option Nat

def Links.setNext (links:Links) (p:Nat) (v:Option Nat) : Links :=
 {links with next:=update links.next p v}

/-- Step forward from `p` to the last cell before the end, or before a cell that `stop` holds. -/
def walk (next:Nat → Option Nat) (stop:Nat → Bool) : Nat → Nat → Option Nat
 | 0, _=>none
 | fuel+1, p=>
  match next p with
  | none=>some p
  | some q=>if stop q then some p else walk next stop fuel q

def Links.pop (links:Links) : Links :=
 match links.head with
 | none=>links
 | some p=>{links with head:=links.next p}.setNext p none

def Links.unlink (fuel ref:Nat) (links:Links) : Option Links :=
 match links.head with
 | none=>some links
 | some p=>
  if p=ref then some {links with head:=links.next ref}
  else (walk links.next (fun q=>decide (q=ref)) fuel p).map fun prev=>
   if links.next prev=some ref then
    (links.setNext prev (links.next ref)).setNext ref none
   else links

def Links.push (ref:Nat) (links:Links) : Links :=
 {links.setNext ref links.head with head:=some ref}

/-- Put a cell in front of the head if `first` holds of it, else in front of the next cell that
`stop` holds. -/
def Links.insert (fuel ref:Nat) (first stop:Nat → Bool) (links:Links) : Option Links :=
 match links.head with
 | none=>some (links.push ref)
 | some p=>
  if first p then some (links.push ref)
  else (walk links.next stop fuel p).map fun rp=>
   (links.setNext ref (links.next rp)).setNext rp (some ref)

def Leads (next:Nat → Option Nat) : Option Nat → List Nat → Option Nat → Prop
 | start, [], stop=>start=stop
 | start, p::l, stop=>start=some p ∧ Leads next (next p) l stop

/-- From the head through `l` to the end, and through no cell twice. -/
structure Represents (links:Links) (l:List Nat) : Prop where
 leads:Leads links.next links.head l none
 nodup:l.Nodup

section Leads
variable {next next':Nat → Option Nat} {start stop:Option Nat} {l l':List Nat} {p:Nat}

lemma leads_append : Leads next start (l++l') stop ↔
 ∃mid,Leads next start l mid ∧ Leads next mid l' stop := by
 induction l generalizing start with
 | nil=>simp[Leads]
 | cons p l ih=>simp only[cons_append,Leads,ih,and_assoc,exists_and_left]
lemma leads_congr (h:∀p∈l,next' p=next p) : Leads next' start l stop↔Leads next start l stop := by
 induction l generalizing start with
 | nil=>exact Iff.rfl
 | cons p l ih=>simp only[Leads,h p (by simp),ih fun q hq=>h q (by simp[hq])]
lemma leads_update (hp:p∉l) (v:Option Nat) : Leads (update next p v) start l stop↔Leads next start l stop := by
 refine leads_congr fun q hq=>update_of_ne ?_ _ _
 rintro rfl
 exact hp hq
lemma leads_start (h:Leads next start l none) : start=l.head? := by
 cases l with
 | nil=>exact h
 | cons p l=>exact h.1

end Leads

variable {links:Links} {l pre post:List Nat} {p ref fuel:Nat}

lemma walk_leads {next:Nat → Option Nat} (stop:Nat → Bool)
 (h:Leads next (some p) (p::l) none) (hfuel:l.length<fuel) :
 ∃front q,p::l.takeWhile (fun a=>!stop a)=front++[q] ∧
  (p::l=front++q::l.dropWhile fun a=>!stop a) ∧
  walk next stop fuel p=some q ∧ next q=(l.dropWhile fun a=>!stop a).head? := by
 suffices hwalk:∃front q,p::l.takeWhile (fun a=>!stop a)=front++[q] ∧
  walk next stop fuel p=some q ∧ next q=(l.dropWhile fun a=>!stop a).head? by
  obtain ⟨front,q,hfront,hwalk⟩:=hwalk
  refine ⟨front,q,hfront,?_,hwalk⟩
  rw[append_cons,←hfront,cons_append,takeWhile_append_dropWhile]
 induction l generalizing p fuel with
 | nil=>
  obtain ⟨fuel,rfl⟩:∃n,fuel=n+1:=⟨fuel-1,by simp at hfuel;omega⟩
  have hnext:next p=none:=h.2
  exact ⟨[],p,rfl,by simp[walk,hnext],hnext⟩
 | cons q l ih=>
  obtain ⟨fuel,rfl⟩:∃n,fuel=n+1:=⟨fuel-1,by omega⟩
  have hnext:next p=some q:=h.2.1
  cases hstop:stop q with
  | true=>exact ⟨[],p,by simp[hstop],by simp[walk,hnext,hstop],by simp[hstop,hnext]⟩
  | false=>
   obtain ⟨front,last,hfront,hwalk,hlast⟩:=ih ⟨rfl,h.2.2⟩ (by simpa using hfuel)
   exact ⟨p::front,last,by simp[hstop,hfront],by simp[walk,hnext,hstop,hwalk],
    by simp[hstop,hlast]⟩

lemma represents_pop (h:Represents links (p::l)) : Represents links.pop l := by
 obtain ⟨hp,hl⟩:=nodup_cons.1 h.nodup
 have hhead:links.head=some p:=h.leads.1
 refine ⟨?_,hl⟩
 simp only[Links.pop,hhead,Links.setNext]
 exact (leads_update hp none).2 h.leads.2

lemma represents_push (h:Represents links l) (href:ref∉l) : Represents (links.push ref) (ref::l) := by
 refine ⟨⟨rfl,?_⟩,nodup_cons.2 ⟨href,h.nodup⟩⟩
 simp only[Links.push,Links.setNext,update_self]
 exact (leads_update href _).2 h.leads

lemma represents_behind (h:Represents links (pre++p::post))
 (href:ref∉pre++p::post) : Represents ((links.setNext ref (links.next p)).setNext p (some ref))
  (pre++p::ref::post) := by
 obtain ⟨mid,hpre,rfl,hpost⟩:=leads_append.1 h.leads
 have hnodup:(pre++p::ref::post).Nodup:=by
  have hperm:(pre++p::ref::post).Perm (ref::(pre++p::post)):=by
   have hmiddle:=@perm_middle _ ref (pre++[p]) post
   simpa using hmiddle
  exact hperm.nodup_iff.2 (nodup_cons.2 ⟨href,h.nodup⟩)
 have hsplit:=hnodup
 simp only[nodup_append,nodup_cons,mem_cons,not_or] at hsplit
 obtain ⟨-,⟨⟨hpref,hppost⟩,hrpost,-⟩,hcross⟩:=hsplit
 have hppre:p∉pre:=fun hmem=>hcross p hmem p (.inl rfl) rfl
 have hrpre:ref∉pre:=fun hmem=>hcross ref hmem ref (.inr (.inl rfl)) rfl
 refine ⟨leads_append.2 ⟨some p,?_,rfl,?_,?_⟩,hnodup⟩
 · exact (leads_update hppre _).2 ((leads_update hrpre _).2 hpre)
 · simp[Links.setNext]
 · simp only[Links.setNext,update_of_ne (Ne.symm hpref),update_self]
   exact (leads_update hppost _).2 ((leads_update hrpost _).2 hpost)

lemma represents_cut (h:Represents links (pre++p::ref::post)) :
 Represents ((links.setNext p (links.next ref)).setNext ref none) (pre++p::post) := by
 obtain ⟨mid,hpre,rfl,hnext,hpost⟩:=leads_append.1 h.leads
 have hsplit:=h.nodup
 simp only[nodup_append,nodup_cons,mem_cons,not_or] at hsplit
 obtain ⟨-,⟨⟨hpref,hppost⟩,hrpost,-⟩,hcross⟩:=hsplit
 have hppre:p∉pre:=fun hmem=>hcross p hmem p (.inl rfl) rfl
 have hrpre:ref∉pre:=fun hmem=>hcross ref hmem ref (.inr (.inl rfl)) rfl
 refine ⟨leads_append.2 ⟨some p,?_,rfl,?_⟩,?_⟩
 · exact (leads_update hrpre _).2 ((leads_update hppre _).2 hpre)
 · simp only[Links.setNext,update_of_ne hpref,update_self]
   exact (leads_update hrpost _).2 ((leads_update hppost _).2 hpost)
 · exact h.nodup.sublist (Sublist.append_left (.cons_cons p (sublist_cons_self _ _)) pre)

lemma represents_unlink (h:Represents links l) (hfuel:l.length≤fuel) (ref:Nat) :
 ∃links',links.unlink fuel ref=some links' ∧ Represents links' (l.erase ref) := by
 have hhead:=leads_start h.leads
 cases l with
 | nil=>exact ⟨links,by simp[Links.unlink,hhead],h⟩
 | cons p l=>
  by_cases hp:p=ref
  · refine ⟨{links with head:=links.next ref},by simp[Links.unlink,hhead,hp],?_⟩
    rw[hp,erase_cons_head]
    exact ⟨hp▸h.leads.2,(nodup_cons.1 h.nodup).2⟩
  · obtain ⟨front,q,-,hsplit,hwalk,hnext⟩:=
     walk_leads (fun a=>decide (a=ref)) ⟨rfl,h.leads.2⟩ (Nat.lt_of_succ_le hfuel)
    simp only[Links.unlink,hhead,head?_cons,hp,if_false,hwalk,Option.map_some,hnext]
    cases hrest:l.dropWhile fun a=>!decide (a=ref) with
    | nil=>
     have hout:ref∉l:=fun hmem=>by
      simpa using dropWhile_eq_nil_iff.1 hrest ref hmem
     refine ⟨links,by simp,?_⟩
     rw[erase_of_not_mem (by simp[hout,Ne.symm hp])]
     exact h
    | cons a post=>
     obtain rfl:a=ref:=by
      have hstop:=head?_dropWhile_not (fun a=>!decide (a=ref)) l
      rw[hrest] at hstop
      simpa using hstop
     rw[hrest] at hsplit
     refine ⟨_,by rw[head?_cons,if_pos rfl],?_⟩
     rw[hsplit] at h ⊢
     have hout:a∉front++[q]:=by
      have hnodup:=h.nodup
      rw[append_cons] at hnodup
      exact fun hmem=>(nodup_append.1 hnodup).2.2 a hmem a (by simp) rfl
     rw[append_cons,erase_append_right _ hout,erase_cons_head,← append_cons]
     exact represents_cut h

def insertAt (ref:Nat) (first stop:Nat → Bool) : List Nat → List Nat
 | []=>[ref]
 | p::l=>
  if first p then ref::p::l
  else p::(l.takeWhile (fun a=>!stop a)++ref::l.dropWhile fun a=>!stop a)

lemma represents_insert (h:Represents links l) (href:ref∉l) (hfuel:l.length≤fuel)
 (first stop:Nat → Bool) : ∃links',links.insert fuel ref first stop=some links' ∧
  Represents links' (insertAt ref first stop l) := by
 have hhead:=leads_start h.leads
 cases l with
 | nil=>exact ⟨links.push ref,by simp[Links.insert,hhead],represents_push h href⟩
 | cons p l=>
  cases hfirst:first p with
  | true=>
   refine ⟨links.push ref,by simp[Links.insert,hhead,hfirst],?_⟩
   simp only[insertAt,hfirst,if_true]
   exact represents_push h href
  | false=>
   obtain ⟨front,q,hfront,hsplit,hwalk,-⟩:=
    walk_leads stop ⟨rfl,h.leads.2⟩ (Nat.lt_of_succ_le hfuel)
   have hinsert:insertAt ref first stop (p::l)=front++q::ref::l.dropWhile fun a=>!stop a:=by
    rw[append_cons,←hfront,cons_append,insertAt,hfirst]
    rfl
   rw[hsplit] at h href
   refine ⟨_,by simp only[Links.insert,hhead,head?_cons,hfirst,hwalk];rfl,?_⟩
   rw[hinsert]
   exact represents_behind h href

end OpenAvnu.SinglyLinked
