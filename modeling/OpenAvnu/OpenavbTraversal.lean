import OpenAvnu.OpenavbList
import OpenAvnu.Runs

/-!
# The list as a sequence, and its traversals

`openavb_list.c` over whole histories. Allocations succeed, and an address is given once.
-/

namespace OpenAvnu.OpenavbTraversal

open List Linked OpenavbList Runs

variable {α:Type}

inductive Input (α:Type) where
 | add (data:α)
 | new (size:Nat) (data:α)
 | delete (node:Nat)

/-- `openavbListNew` adds its allocated data, and nothing if the size is zero. -/
def step : Input α → Raw α → Raw α
 | .add data, list=>list.add data
 | .new size data, list=>if size≠0 then list.add data else list
 | .delete node, list=>list.delete node

/-- The nodes added and not deleted, and the address of the next one. -/
def sequence : Input α → Nat×List (Nat×α) → Nat×List (Nat×α)
 | .add data, (next,l)=>(next+1,l++[(next,data)])
 | .new size data, (next,l)=>if size≠0 then (next+1,l++[(next,data)]) else (next,l)
 | .delete node, (next,l)=>(next,l.filter fun e=>decide (e.1≠node))

/-- A list under traversal, with the nodes that the iterator returned. -/
structure Traversal (α:Type) where
 list:Raw α
 seen:List Nat

inductive Move (α:Type) where
 | add (data:α)
 | advance

def Traversal.start (first:Raw α×Option Nat) : Traversal α := ⟨first.1,first.2.toList⟩
def move (iterate:Raw α → Raw α×Option Nat) : Move α → Traversal α → Traversal α
 | .add data, t=>{t with list:=t.list.add data}
 | .advance, t=>⟨(iterate t.list).1,t.seen++(iterate t.list).2.toList⟩

structure Follows (list:Raw α) (s:Nat×List (Nat×α)) : Prop where
 next:list.next=s.1
 holds:Holds list s.2

section
variable {raw:Raw α} {l pre post:List (Nat×α)} {p q:Nat} {x:α}

lemma add_next (data:α) : (raw.add data).next=raw.next+1 := by
 rw[Raw.add]
 cases raw.chain.head<;>rfl
lemma delete_next (node:Nat) : (raw.delete node).next=raw.next := by
 rw[Raw.delete]
 cases raw.chain.cells node<;>rfl

lemma step_follows (i:Input α) (list:Raw α) (s:Nat×List (Nat×α)) (h:Follows list s) :
 Follows (step i list) (sequence i s) := by
 obtain ⟨next,l⟩:=s
 obtain ⟨rfl,h⟩:=h
 have hadd:∀data,Follows (list.add data) (list.next+1,l++[(list.next,data)]):=
  fun data=>⟨add_next data,holds_add h data⟩
 cases i with
 | add data=>exact hadd data
 | new size data=>
  rw[step,sequence]
  split_ifs
  · exact hadd data
  · exact ⟨rfl,h⟩
 | delete node=>exact ⟨delete_next node,holds_delete_filter h node⟩

end

/-- The loop of `openavbListDeleteList`. -/
def deleteList : Nat → Raw α → Raw α
 | 0, list=>list
 | n+1, list=>
  match list.chain.head with
  | none=>list
  | some node=>deleteList n (list.delete node)

lemma deleteList_holds {raw:Raw α} {l:List (Nat×α)} (h:Holds raw l) (k:Nat) :
 Holds (deleteList (l.length+k) raw) [] := by
 induction l generalizing raw with
 | nil=>
  have hhead:raw.chain.head=none:=h.head_eq
  cases k<;>simpa[deleteList,hhead] using h
 | cons e l ih=>
  have hhead:raw.chain.head=some e.1:=h.head_eq
  rw[length_cons,Nat.succ_add,deleteList,hhead]
  have hfirst:Holds raw ([]++e::l):=h
  exact ih (holds_delete hfirst)

theorem deleteList_frees (inputs:List (Input α)) (k:Nat) :
 let left:=deleteList ((run sequence inputs (0,[])).2.length+k) (run step inputs (Raw.newList:Raw α))
 left.chain.head=none ∧ ∀p,left.chain.cells p=none := by
 intro left
 have hrun:Follows (run step inputs (Raw.newList:Raw α)) (run sequence inputs (0,[])):=
  run_related step_follows inputs ⟨rfl,holds_newList⟩
 have hempty:Holds left []:=deleteList_holds hrun.holds k
 refine ⟨hempty.head_eq,fun p=>?_⟩
 by_contra hleft
 cases hempty.owned p hleft

end OpenAvnu.OpenavbTraversal
