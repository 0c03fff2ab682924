import Mathlib.Algebra.Group.Nat.Defs
import Mathlib.Data.List.Basic

/-!
# Interval trees

`maap/common/intervals.c`. A node keeps its address: clients point to nodes, and `remove_interval`
may free another than it was given.
-/

namespace OpenAvnu.Intervals

def uint32 (n:Nat) : Nat := n%2^32

structure Interval (α:Type) where
 (low high:Nat)
 data:Option α
 deriving DecidableEq, Repr

abbrev Entry (α:Type) := Nat×Interval α

inductive Tree (α:Type) where
 | nil
 | node (ref:Nat) (iv:Interval α) (left right:Tree α)
 deriving DecidableEq, Repr

variable {α:Type}

def lastOf (start count:Nat) : Nat := uint32 (start+count+(2^32-1))
def Interval.overlaps (iv:Interval α) (low high:Nat) : Bool := decide (iv.low≤high)&&decide (low ≤ iv.high)
def checkOverlap (a b:Interval α) : Bool := a.overlaps b.low b.high
def intervalCheckOverlap (iv:Interval α) (start count:Nat) : Bool := iv.overlaps start (lastOf start count)
def allocInterval (start count:Nat) : Interval α :=
 {low:=uint32 start,high:=lastOf start count,data:=none}

namespace Tree

def toList : Tree α → List (Entry α)
 | nil=>[]
 | node ref iv left right=>left.toList++(ref,iv)::right.toList
def size : Tree α → Nat
 | nil=>0
 | node _ _ left right=>left.size+right.size+1
def lookup (tree:Tree α) (ref:Nat) : Option (Interval α) := tree.toList.lookup ref
def setData (ref:Nat) (data:Option α) : Tree α → Tree α
 | nil=>nil
 | node r iv left right=>
  node r (if r=ref then {iv with data:=data} else iv)
   (left.setData ref data) (right.setData ref data)

end Tree

/-- `insert_interval`; `none` is `INTERVAL_OVERLAP`. -/
def insertInterval (ref:Nat) (iv:Interval α) : Tree α → Option (Tree α)
 | .nil=>some (.node ref iv .nil .nil)
 | .node r current left right=>
  if checkOverlap current iv then none
  else if iv.low<current.low then
   (insertInterval ref iv left).map fun left'=>.node r current left' right
  else
   (insertInterval ref iv right).map fun right'=>.node r current left right'

def minimumInterval : Tree α → Option (Entry α)
 | .nil=>none
 | .node ref iv .nil _=>some (ref,iv)
 | .node _ _ left _=>minimumInterval left
def maximumInterval : Tree α → Option (Entry α)
 | .nil=>none
 | .node ref iv _ .nil=>some (ref,iv)
 | .node _ _ _ right=>maximumInterval right

/-- One link from a child to its parent, with the parent's other subtree. -/
structure Crumb (α:Type) where
 fromRight:Bool
 parent:Entry α
 sibling:Tree α

def locate (ref:Nat) : Tree α → List (Crumb α) → Option (Tree α×List (Crumb α))
 | .nil, _=>none
 | .node r iv left right, path=>
  if r=ref then some (.node r iv left right,path)
  else (locate ref left (⟨false,(r,iv),right⟩::path)).or
   (locate ref right (⟨true,(r,iv),left⟩::path))

def climb (side:Bool) : List (Crumb α) → Option (Entry α)
 | []=>none
 | crumb::path=>if crumb.fromRight=side then climb side path else some crumb.parent
def nextInterval (tree:Tree α) (ref:Nat) : Option (Entry α) :=
 match locate ref tree [] with
 | some (.node _ _ _ .nil,path)=>climb true path
 | some (.node _ _ _ right,_)=>minimumInterval right
 | _=>none
def prevInterval (tree:Tree α) (ref:Nat) : Option (Entry α) :=
 match locate ref tree [] with
 | some (.node _ _ .nil _,path)=>climb false path
 | some (.node _ _ left _,_)=>maximumInterval left
 | _=>none

/-- Unlink the leftmost node; it has no left child, so its right child replaces it. -/
def snipMinimum : Tree α → Option (Entry α×Tree α)
 | .nil=>none
 | .node ref iv .nil right=>some ((ref,iv),right)
 | .node ref iv left right=>
  (snipMinimum left).map fun (snip,left')=>(snip,.node ref iv left' right)

/-- A node with two children receives the contents of its successor, whose node is snipped. -/
def removeRoot (ref:Nat) (iv:Interval α) : Tree α → Tree α → Tree α×Entry α
 | .nil, right=>(right,(ref,iv))
 | left, .nil=>(left,(ref,iv))
 | left, right=>
  match snipMinimum right with
  | some ((snip,siv),right')=>
   (.node ref siv left right',(snip,{siv with data:=iv.data}))
  | none=>(left,(ref,iv))

/-- `remove_interval`: the remaining tree and the node to free. -/
def removeInterval (ref:Nat) : Tree α → Option (Tree α×Entry α)
 | .nil=>none
 | .node r iv left right=>
  if r=ref then some (removeRoot r iv left right)
  else match removeInterval ref left with
   | some (left',freed)=>some (.node r iv left' right,freed)
   | none=>(removeInterval ref right).map fun (right',freed)=>
    (.node r iv left right',freed)

/-- First loop of `search_interval`. -/
def descend (low high:Nat) : Tree α → Option (Entry α)
 | .nil=>none
 | .node ref iv left right=>
  if iv.overlaps low high then some (ref,iv)
  else if low < iv.low then descend low high left
  else descend low high right

/-- Second loop of `search_interval`: step back while the predecessor matches. -/
def rewind (tree:Tree α) (low high:Nat) : Nat → Entry α → Entry α
 | 0, current=>current
 | fuel+1, current=>
  match prevInterval tree current.1 with
  | some test=>if test.2.overlaps low high then rewind tree low high fuel test else current
  | none=>current

def searchInterval (tree:Tree α) (start count:Nat) : Option (Entry α) :=
 (descend start (lastOf start count) tree).map
  (rewind tree start (lastOf start count) tree.size)

end OpenAvnu.Intervals

namespace OpenAvnu

-- Mathlib has a `Tree` and an `Interval` of its own
export Intervals (Tree Interval)

end OpenAvnu
