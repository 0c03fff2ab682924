import Mathlib.Data.List.Nodup
import Mathlib.Tactic.Common
import OpenAvnu.Intervals
import OpenAvnu.Runs

/-! # What the interval tree operations do to the in-order contents -/

namespace OpenAvnu.IntervalOrder

open Intervals List

variable {α:Type}

/-- A search tree of pairwise disjoint, nonempty intervals. -/
structure Ordered (tree:Tree α) : Prop where
 proper:∀e∈tree.toList,e.2.low≤e.2.high
 sorted:tree.toList.Pairwise fun a b=>a.2.high<b.2.low

def RefsNodup (tree:Tree α) : Prop := (tree.toList.map Prod.fst).Nodup
lemma overlaps_iff (iv:Interval α) (low high:Nat) : iv.overlaps low high=true↔iv.low≤high ∧ low ≤ iv.high := by
 simp[Intervals.Interval.overlaps]
lemma overlaps_eq_false_iff (iv:Interval α) (low high:Nat) :
 iv.overlaps low high=false↔high < iv.low ∨ iv.high<low := by
 rw[←Bool.not_eq_true,overlaps_iff]
 omega
@[simp] lemma toList_nil : (Intervals.Tree.nil:Tree α).toList=[] := rfl
@[simp] lemma toList_node (ref:Nat) (iv:Interval α) (left right:Tree α)
 : (Intervals.Tree.node ref iv left right).toList=left.toList++(ref,iv)::right.toList := rfl

lemma toList_length (tree:Tree α) : tree.toList.length=tree.size := by
 induction tree with
 | nil=>rfl
 | node ref iv left right ihl ihr=>
  simp only[toList_node,length_append,length_cons,Intervals.Tree.size]
  omega

lemma ordered_nil : Ordered (Intervals.Tree.nil:Tree α) := ⟨by simp,by simp⟩

lemma ordered_node_iff (ref:Nat) (iv:Interval α) (left right:Tree α) :
 Ordered (Intervals.Tree.node ref iv left right) ↔
  Ordered left ∧ Ordered right ∧ iv.low ≤ iv.high ∧
  (∀e∈left.toList,e.2.high < iv.low) ∧
  (∀e∈right.toList,iv.high<e.2.low) := by
 constructor
 · rintro ⟨proper,sorted⟩
   simp only[toList_node,mem_append,mem_cons,pairwise_append,pairwise_cons] at proper sorted
   obtain ⟨sortedLeft,⟨above,sortedRight⟩,below⟩:=sorted
   refine ⟨⟨fun e he=>proper e (.inl he),sortedLeft⟩,
    ⟨fun e he=>proper e (.inr (.inr he)),sortedRight⟩,proper _ (.inr (.inl rfl)),
    fun e he=>below e he _ (.inl rfl),above⟩
 · rintro ⟨⟨properLeft,sortedLeft⟩,⟨properRight,sortedRight⟩,hiv,below,above⟩
   constructor
   · simp only[toList_node,mem_append,mem_cons]
     rintro e (he|rfl|he)
     · exact properLeft e he
     · exact hiv
     · exact properRight e he
   · simp only[toList_node,pairwise_append,pairwise_cons,mem_cons]
     refine ⟨sortedLeft,⟨above,sortedRight⟩,?_⟩
     rintro a ha b (rfl|hb)
     · exact below a ha
     · have:=below a ha
       have:=above b hb
       omega

/-- Everything left of a node ends before it, everything right of it starts after it. -/
def SearchTree : Tree α → Prop
 | .nil=>True
 | .node _ iv left right=>
  SearchTree left ∧ SearchTree right ∧ (∀e∈left.toList,e.2.high < iv.low) ∧
   ∀e∈right.toList,iv.high<e.2.low

lemma Ordered.searchTree {tree:Tree α} (h:Ordered tree) : SearchTree tree := by
 induction tree with
 | nil=>trivial
 | node ref iv left right ihl ihr=>
  obtain ⟨hleft,hright,-,below,above⟩:=(ordered_node_iff ref iv left right).1 h
  exact ⟨ihl hleft,ihr hright,below,above⟩

variable {tree tree':Tree α} {iv:Interval α} {ref:Nat}

lemma insertInterval_perm (h:insertInterval ref iv tree=some tree') :
 tree'.toList.Perm ((ref,iv)::tree.toList) := by
 induction tree generalizing tree' with
 | nil=>
  obtain rfl:Intervals.Tree.node ref iv .nil .nil=tree':=by simpa[insertInterval] using h
  exact List.Perm.refl _
 | node r current left right ihl ihr=>
  simp only[insertInterval] at h
  split_ifs at h
  · obtain ⟨left',hins,rfl⟩:=Option.map_eq_some_iff.1 h
    exact (ihl hins).append_right _
  · obtain ⟨right',hins,rfl⟩:=Option.map_eq_some_iff.1 h
    have hright:=((ihr hins).cons (r,current)).append_left left.toList
    exact hright.trans ((Perm.swap _ _ _).append_left left.toList |>.trans perm_middle)

lemma insertInterval_some (ho:Ordered tree) (hiv:iv.low ≤ iv.high)
 (h:insertInterval ref iv tree=some tree') : ∃before after,tree.toList=before++after ∧
  tree'.toList=before++(ref,iv)::after ∧
  (∀e∈before,e.2.high < iv.low) ∧ (∀e∈after,iv.high<e.2.low) := by
 induction tree generalizing tree' with
 | nil=>
  obtain rfl:Intervals.Tree.node ref iv .nil .nil=tree':=by simpa[insertInterval] using h
  exact ⟨[],[],by simp⟩
 | node r current left right ihl ihr=>
  obtain ⟨hleft,hright,hcur,below,above⟩:=(ordered_node_iff _ _ _ _).1 ho
  simp only[insertInterval] at h
  by_cases hov:checkOverlap current iv
  · simp[hov] at h
  have hdis:=(overlaps_eq_false_iff current iv.low iv.high).1 (by simpa[checkOverlap] using hov)
  split_ifs at h with hlt
  · obtain ⟨left',hins,rfl⟩:=Option.map_eq_some_iff.1 h
    obtain ⟨before,after,heq,heq',hb,ha⟩:=ihl hleft hins
    refine ⟨before,after++(r,current)::right.toList,by simp[heq],by simp[heq'],hb,?_⟩
    simp only[mem_append,mem_cons]
    rintro e (he|rfl|he)
    · exact ha e he
    · change iv.high<current.low
      omega
    · have:=above e he
      omega
  · obtain ⟨right',hins,rfl⟩:=Option.map_eq_some_iff.1 h
    obtain ⟨before,after,heq,heq',hb,ha⟩:=ihr hright hins
    refine ⟨left.toList++(r,current)::before,after,by simp[heq],by simp[heq'],?_,ha⟩
    simp only[mem_append,mem_cons]
    rintro e (he|rfl|he)
    · have:=below e he
      omega
    · change current.high < iv.low
      omega
    · exact hb e he

variable {before after:List (Entry α)} {freed:Entry α}

section
variable (ho:Ordered tree) (hiv:iv.low ≤ iv.high)
include ho hiv

lemma ordered_insert_between
 (heq:tree.toList=before++after) (heq':tree'.toList=before++(ref,iv)::after)
 (hb:∀e∈before,e.2.high < iv.low) (ha:∀e∈after,iv.high<e.2.low) : Ordered tree' := by
 have hs:=ho.sorted
 have hp:=ho.proper
 rw[heq] at hs hp
 simp only[pairwise_append,mem_append] at hs hp
 constructor
 · rw[heq']
   simp only[mem_append,mem_cons]
   rintro e (he|rfl|he)
   · exact hp e (.inl he)
   · exact hiv
   · exact hp e (.inr he)
 · rw[heq']
   simp only[pairwise_append,pairwise_cons,mem_cons]
   refine ⟨hs.1,⟨ha,hs.2.1⟩,?_⟩
   rintro a hae b (rfl|hbe)
   · exact hb a hae
   · exact hs.2.2 a hae b hbe

section
variable (h:insertInterval ref iv tree=some tree')
include h

lemma ordered_insertInterval : Ordered tree' := by
 obtain ⟨before,after,heq,heq',hb,ha⟩:=insertInterval_some ho hiv h
 exact ordered_insert_between ho hiv heq heq' hb ha
lemma mem_insertInterval (e:Entry α) : e∈tree'.toList↔e=(ref,iv) ∨ e∈tree.toList := by
 obtain ⟨before,after,heq,heq',-,-⟩:=insertInterval_some ho hiv h
 simp only[heq,heq',mem_append,mem_cons]
 tauto

lemma insertInterval_disjoint {e:Entry α} (he:e∈tree.toList) : e.2.high < iv.low ∨ iv.high<e.2.low := by
 obtain ⟨before,after,heq,-,hb,ha⟩:=insertInterval_some ho hiv h
 rw[heq,mem_append] at he
 rcases he with he|he
 · exact .inl (hb e he)
 · exact .inr (ha e he)

end

lemma refsNodup_insertInterval (hn:RefsNodup tree)
 (hfresh:∀e∈tree.toList,e.1≠ref) (h:insertInterval ref iv tree=some tree') : RefsNodup tree' := by
 obtain ⟨before,after,heq,heq',-,-⟩:=insertInterval_some ho hiv h
 have hperm:(tree'.toList.map Prod.fst).Perm (ref::tree.toList.map Prod.fst):=by
  rw[heq,heq']
  simp
 refine hperm.nodup_iff.2 (nodup_cons.2 ⟨?_,hn⟩)
 intro hmem
 obtain ⟨e,he,rfl⟩:=mem_map.1 hmem
 exact hfresh e he rfl

end

lemma snipMinimum_toList {snip:Entry α} (h:snipMinimum tree=some (snip,tree')) :
 tree.toList=snip::tree'.toList := by
 induction tree generalizing tree' with
 | nil=>simp[snipMinimum] at h
 | node ref iv left right ihl _=>
  cases left with
  | nil=>
   obtain ⟨rfl,rfl⟩:=h
   simp
  | node r jv l m=>
   obtain ⟨⟨s,left'⟩,hs,heq⟩:=Option.map_eq_some_iff.1 h
   obtain ⟨rfl,rfl⟩:=Prod.mk.inj heq
   rw[toList_node,ihl hs]
   rfl

lemma snipMinimum_eq_none {tree:Tree α} (h:snipMinimum tree=none) : tree=.nil
 := by
 induction tree with
 | nil=>rfl
 | node ref iv left right ihl _=>
  cases left with
  | nil=>simp[snipMinimum] at h
  | node r jv l m=>
   have:=ihl (by simpa[snipMinimum] using h)
   cases this

/-- Of `before ++ (ref, iv) :: after`: the node is freed, or takes over the contents of the next
one, which is freed. -/
inductive Removed (before:List (Entry α)) (ref:Nat) (iv:Interval α)
 (after:List (Entry α)) (rest:List (Entry α)) (freed:Entry α) : Prop where
 | here (hrest:rest=before++after) (hfreed:freed=(ref,iv))
 | next (snip:Nat) (siv:Interval α) (after':List (Entry α))
  (hafter:after=(snip,siv)::after') (hrest:rest=before++(ref,siv)::after')
  (hfreed:freed=(snip,{siv with data := iv.data}))

lemma removeRoot_spec (ref:Nat) (iv:Interval α) (left right:Tree α) :
 Removed left.toList ref iv right.toList (removeRoot ref iv left right).1.toList
  (removeRoot ref iv left right).2 := by
 cases left with
 | nil=>exact .here (by simp[removeRoot]) (by simp[removeRoot])
 | node lr liv ll lright=>
  cases right with
  | nil=>exact .here (by simp[removeRoot]) (by simp[removeRoot])
  | node rr riv rl rright=>
   cases hs:snipMinimum (Intervals.Tree.node rr riv rl rright) with
   | none=>cases snipMinimum_eq_none hs
   | some found=>
    obtain ⟨⟨snip,siv⟩,right'⟩:=found
    refine .next snip siv right'.toList (snipMinimum_toList hs) ?_ ?_
    · simp[removeRoot,hs]
    · simp only[removeRoot,hs]

lemma Removed.extend {rest:List (Entry α)} (h:Removed before ref iv after rest freed)
 (pre post:List (Entry α)) : Removed (pre++before) ref iv (after++post) (pre++(rest++post)) freed := by
 cases h with
 | here hrest hfreed=>exact .here (by simp[hrest]) hfreed
 | next snip siv after' hafter hrest hfreed=>
  exact .next snip siv (after'++post) (by simp[hafter]) (by simp[hrest]) hfreed

lemma removeInterval_isSome {tree:Tree α} (h:ref∈tree.toList.map Prod.fst) :
 ∃result,removeInterval ref tree=some result := by
 induction tree with
 | nil=>simp at h
 | node r iv left right ihl ihr=>
  simp only[removeInterval]
  by_cases hr:r=ref
  · simp[hr]
  · rw[if_neg hr]
    cases hl:removeInterval ref left with
    | some result=>exact ⟨_,rfl⟩
    | none=>
     have hright:ref∈right.toList.map Prod.fst:=by
      simp only[toList_node,map_append,map_cons,mem_append,mem_cons] at h
      rcases h with h|h|h
      · obtain ⟨result,hres⟩:=ihl h
        rw[hl] at hres
        cases hres
      · exact absurd h.symm hr
      · exact h
     obtain ⟨result,hres⟩:=ihr hright
     exact ⟨_,by rw[hres];rfl⟩

lemma removeInterval_some (h:removeInterval ref tree=some (tree',freed)) :
 ∃before iv after,tree.toList=before++(ref,iv)::after ∧
  Removed before ref iv after tree'.toList freed := by
 induction tree generalizing tree' with
 | nil=>simp[removeInterval] at h
 | node r iv left right ihl ihr=>
  simp only[removeInterval] at h
  split_ifs at h with hr
  · subst hr
    have hspec:=removeRoot_spec r iv left right
    rw[Option.some.inj h] at hspec
    exact ⟨left.toList,iv,right.toList,rfl,hspec⟩
  · cases hl:removeInterval ref left with
    | some result=>
     obtain ⟨left',f⟩:=result
     rw[hl] at h
     obtain ⟨rfl,rfl⟩:Intervals.Tree.node r iv left' right=tree' ∧ f=freed:=by
      simpa using h
     obtain ⟨before,jv,after,heq,hrem⟩:=ihl hl
     refine ⟨before,jv,after++(r,iv)::right.toList,by simp[heq],?_⟩
     simpa using hrem.extend [] ((r,iv)::right.toList)
    | none=>
     rw[hl] at h
     obtain ⟨⟨right',f⟩,hres,heq⟩:=Option.map_eq_some_iff.1 h
     obtain ⟨rfl,rfl⟩:=Prod.mk.inj heq
     obtain ⟨before,jv,after,heq,hrem⟩:=ihr hres
     refine ⟨left.toList++(r,iv)::before,jv,after,by simp[heq],?_⟩
     simpa using hrem.extend (left.toList++[(r,iv)]) []

lemma insertInterval_none (h:insertInterval ref iv tree=none) :
 ∃e∈tree.toList,e.2.overlaps iv.low iv.high=true := by
 induction tree with
 | nil=>cases h
 | node r current left right ihl ihr=>
  simp only[insertInterval] at h
  split_ifs at h with hover hlow
  · exact ⟨(r,current),by simp,hover⟩
  · obtain ⟨e,he,hoverlap⟩:=ihl (Option.map_eq_none_iff.1 h)
    exact ⟨e,by simp[he],hoverlap⟩
  · obtain ⟨e,he,hoverlap⟩:=ihr (Option.map_eq_none_iff.1 h)
    exact ⟨e,by simp[he],hoverlap⟩

lemma removeInterval_at (hn:RefsNodup tree) (hmem:(ref,iv)∈tree.toList) :
 ∃before after tree' freed,removeInterval ref tree=some (tree',freed) ∧
  tree.toList=before++(ref,iv)::after ∧
  tree'.toList.map Prod.snd=(before++after).map Prod.snd ∧
  (tree'.toList.map Prod.fst).Sublist (tree.toList.map Prod.fst) := by
 obtain ⟨⟨tree',freed⟩,hrem⟩:=removeInterval_isSome (mem_map.2 ⟨_,hmem,rfl⟩)
 obtain ⟨before,jv,after,hlist,hremoved⟩:=removeInterval_some hrem
 have hjv:(ref,jv)∈tree.toList:=by simp[hlist]
 obtain rfl:iv=jv:=congrArg Prod.snd (inj_on_of_nodup_map hn hmem hjv rfl)
 refine ⟨before,after,tree',freed,hrem,hlist,?_⟩
 cases hremoved with
 | here hrest _=>simp[hrest,hlist]
 | next snip siv after' hafter hrest _=>simp[hrest,hlist,hafter]

lemma ordered_of_contents_sublist (ho:Ordered tree)
 (h:(tree'.toList.map Prod.snd).Sublist (tree.toList.map Prod.snd)) : Ordered tree' := by
 constructor
 · intro e he
   obtain ⟨e',he',heq⟩:=mem_map.1 (h.subset (mem_map_of_mem he))
   rw[←heq]
   exact ho.proper e' he'
 · have hs:(tree.toList.map Prod.snd).Pairwise fun a b=>a.high<b.low:=
    pairwise_map.2 ho.sorted
   exact pairwise_map.1 (hs.sublist h)

end OpenAvnu.IntervalOrder

/-! ## Traversal and search in interval trees -/

namespace OpenAvnu.IntervalSearch

open Intervals IntervalOrder List

variable {α:Type}

def entriesBefore : List (Crumb α) → List (Entry α)
 | []=>[]
 | crumb::path=>
  if crumb.fromRight then entriesBefore path++(crumb.sibling.toList++[crumb.parent])
  else entriesBefore path
def entriesAfter : List (Crumb α) → List (Entry α)
 | []=>[]
 | crumb::path=>
  if crumb.fromRight then entriesAfter path
  else crumb.parent::(crumb.sibling.toList++entriesAfter path)

variable (path:List (Crumb α)) {fuel:Nat}

lemma climb_true : climb true path=(entriesAfter path).head? := by
 induction path with
 | nil=>rfl
 | cons crumb path ih=>
  obtain ⟨fromRight,parent,sibling⟩:=crumb
  cases fromRight<;>simp[climb,entriesAfter,ih]

lemma climb_false : climb false path=(entriesBefore path).getLast? := by
 induction path with
 | nil=>rfl
 | cons crumb path ih=>
  obtain ⟨fromRight,parent,sibling⟩:=crumb
  cases fromRight with
  | false=>simpa[climb,entriesBefore] using ih
  | true=>
   simp only[entriesBefore,if_true,←append_assoc,getLast?_concat]
   rfl

lemma minimumInterval_eq_head? (tree:Tree α) : minimumInterval tree=tree.toList.head? := by
 induction tree with
 | nil=>rfl
 | node ref iv left right ihl _=>
  cases left with
  | nil=>rfl
  | node r jv l m=>
   rw[minimumInterval,ihl]
   · simp
   · simp

lemma maximumInterval_eq_getLast? (tree:Tree α) : maximumInterval tree=tree.toList.getLast? := by
 induction tree with
 | nil=>rfl
 | node ref iv left right _ ihr=>
  cases right with
  | nil=>simp[maximumInterval]
  | node r jv l m=>
   rw[maximumInterval,ihr]
   · simp[getLast?_cons]
   · simp

variable {ref:Nat}

lemma locate_some {tree sub:Tree α} {path path':List (Crumb α)}
 (h:locate ref tree path=some (sub,path')) : (∃iv left right,sub=.node ref iv left right) ∧
  entriesBefore path++(tree.toList++entriesAfter path)=
   entriesBefore path'++(sub.toList++entriesAfter path') := by
 induction tree generalizing path with
 | nil=>simp[locate] at h
 | node r iv left right ihl ihr=>
  simp only[locate] at h
  split_ifs at h with hr
  · obtain ⟨rfl,rfl⟩:Intervals.Tree.node r iv left right=sub ∧ path=path':=by simpa using h
    exact ⟨⟨iv,left,right,by rw[hr]⟩,rfl⟩
  · rcases Option.or_eq_some_iff.1 h with hl|⟨-,hrt⟩
    · obtain ⟨hshape,heq⟩:=ihl hl
      refine ⟨hshape,?_⟩
      rw[←heq]
      simp[entriesBefore,entriesAfter]
    · obtain ⟨hshape,heq⟩:=ihr hrt
      refine ⟨hshape,?_⟩
      rw[←heq]
      simp[entriesBefore,entriesAfter]

variable {tree:Tree α}

lemma locate_isSome (h:ref∈tree.toList.map Prod.fst) (path:List (Crumb α)) :
 ∃found,locate ref tree path=some found := by
 induction tree generalizing path with
 | nil=>simp at h
 | node r iv left right ihl ihr=>
  simp only[locate]
  by_cases hr:r=ref
  · simp[hr]
  · rw[if_neg hr]
    simp only[toList_node,map_append,map_cons,mem_append,mem_cons] at h
    rcases h with h|h|h
    · obtain ⟨found,hfound⟩:=ihl h (⟨false,(r,iv),right⟩::path)
      exact ⟨found,by rw[hfound];rfl⟩
    · exact absurd h.symm hr
    · obtain ⟨found,hfound⟩:=ihr h (⟨true,(r,iv),left⟩::path)
      rw[hfound]
      cases locate ref left (⟨false,(r,iv),right⟩::path)<;>simp

lemma split_unique {before before' after after':List (Entry α)} {iv iv':Interval α}
 (hn:((before++(ref,iv)::after).map Prod.fst).Nodup)
 (h:before++(ref,iv)::after=before'++(ref,iv')::after') : before=before' ∧ iv=iv' ∧ after=after' := by
 induction before generalizing before' with
 | nil=>
  cases before' with
  | nil=>simpa using h
  | cons e before'=>
   obtain ⟨rfl,rfl⟩:=h
   simp at hn
 | cons e before ih=>
  cases before' with
  | nil=>
   obtain ⟨rfl,rfl⟩:=h
   simp at hn
  | cons e' before'=>
   simp only[cons_append,List.cons.injEq] at h
   obtain ⟨rfl,h⟩:=h
   obtain ⟨rfl,hiv,ha⟩:=ih (by simpa using (nodup_cons.1 hn).2) h
   exact ⟨rfl,hiv,ha⟩

variable {before after:List (Entry α)} {iv:Interval α}

section
variable (hn:RefsNodup tree) (h:tree.toList=before++(ref,iv)::after)
include hn h

lemma locate_at : ∃left right path,locate ref tree []=some (.node ref iv left right,path) ∧
  before=entriesBefore path++left.toList ∧ after=right.toList++entriesAfter path := by
 have hmem:ref∈tree.toList.map Prod.fst:=by simp[h]
 obtain ⟨⟨sub,path⟩,hfound⟩:=locate_isSome hmem []
 obtain ⟨⟨jv,left,right,rfl⟩,heq⟩:=locate_some hfound
 have hlist:before++(ref,iv)::after=
  (entriesBefore path++left.toList)++(ref,jv)::(right.toList++entriesAfter path):=by
  rw[←h]
  simpa[entriesBefore,entriesAfter] using heq
 obtain ⟨hb,rfl,ha⟩:=split_unique (by simpa[RefsNodup,h] using hn) hlist
 exact ⟨left,right,path,hfound,hb,ha⟩

lemma nextInterval_at : nextInterval tree ref=after.head? := by
 obtain ⟨left,right,path,hloc,-,rfl⟩:=locate_at hn h
 cases right with
 | nil=>
  simp[nextInterval,hloc,climb_true]
 | node r jv l m=>
  simp only[nextInterval,hloc,minimumInterval_eq_head?]
  simp

lemma prevInterval_at : prevInterval tree ref=before.getLast? := by
 obtain ⟨left,right,path,hloc,rfl,-⟩:=locate_at hn h
 cases left with
 | nil=>
  simp[prevInterval,hloc,climb_false]
 | node r jv l m=>
  simp only[prevInterval,hloc,maximumInterval_eq_getLast?]
  simp[getLast?_cons]

end

variable {low high:Nat}

lemma descend_eq_none (ho:Ordered tree) (h:descend low high tree=none) :
 ∀e∈tree.toList,e.2.overlaps low high=false := by
 induction tree with
 | nil=>simp
 | node ref iv left right ihl ihr=>
  obtain ⟨hleft,hright,hiv,below,above⟩:=(ordered_node_iff _ _ _ _).1 ho
  simp only[descend] at h
  split_ifs at h with hov hlt
  · have hroot:=(overlaps_eq_false_iff iv low high).1 (by simpa using hov)
    simp only[toList_node,mem_append,mem_cons]
    rintro e (he|rfl|he)
    · exact ihl hleft h e he
    · simpa using hov
    · have:=above e he
      exact (overlaps_eq_false_iff _ _ _).2 (by omega)
  · simp only[toList_node,mem_append,mem_cons]
    rintro e (he|rfl|he)
    · have:=below e he
      exact (overlaps_eq_false_iff _ _ _).2 (by omega)
    · simpa using hov
    · exact ihr hright h e he

variable {e:Entry α}

lemma locate_toList {sub:Tree α} {path:List (Crumb α)}
 (h:locate ref tree []=some (sub,path)) : tree.toList=entriesBefore path++(sub.toList++entriesAfter path) := by
 simpa[entriesBefore,entriesAfter] using (locate_some h).2

lemma nextInterval_mem (h:nextInterval tree ref=some e) : e∈tree.toList := by
 unfold nextInterval at h
 split at h
 · next path hloc=>
    rw[climb_true] at h
    rw[locate_toList hloc]
    simp[mem_of_mem_head? h]
 · next right path hne hloc=>
    rw[minimumInterval_eq_head?] at h
    rw[locate_toList hloc]
    simp[mem_of_mem_head? h]
 · cases h

lemma prevInterval_mem (h:prevInterval tree ref=some e) : e∈tree.toList := by
 unfold prevInterval at h
 split at h
 · next path hloc=>
    rw[climb_false] at h
    rw[locate_toList hloc]
    simp[mem_of_getLast? h]
 · next left path hne hloc=>
    rw[maximumInterval_eq_getLast?] at h
    rw[locate_toList hloc]
    simp[mem_of_getLast? h]
 · cases h

lemma descend_eq_some (h:descend low high tree=some e) : e∈tree.toList ∧ e.2.overlaps low high=true := by
 induction tree with
 | nil=>simp[descend] at h
 | node ref iv left right ihl ihr=>
  simp only[descend] at h
  split_ifs at h with hov hlt
  · cases h
    exact ⟨by simp,hov⟩
  · exact ⟨by simp[(ihl h).1],(ihl h).2⟩
  · exact ⟨by simp[(ihr h).1],(ihr h).2⟩

variable {current:Entry α}

lemma not_overlaps_before {test:Entry α} (ho:Ordered tree)
 (h:tree.toList=before++test::current::after) (hcur:current.2.overlaps low high=true)
 (htest:test.2.overlaps low high=false) : ∀e∈before,e.2.overlaps low high=false := by
 intro e he
 have hs:=ho.sorted
 rw[h,pairwise_append] at hs
 have hbefore:=hs.2.2 e he test (by simp)
 have hnext:=(pairwise_cons.1 hs.2.1).1 current (by simp)
 have hproper:=ho.proper test (by simp[h])
 have hcur':=(overlaps_iff _ _ _).1 hcur
 have htest':=(overlaps_eq_false_iff _ _ _).1 htest
 exact (overlaps_eq_false_iff _ _ _).2 (by omega)

lemma rewind_spec (ho:Ordered tree) (hn:RefsNodup tree)
 (h:tree.toList=before++current::after) (hfuel:before.length≤fuel)
 (hcur:current.2.overlaps low high=true) : tree.toList.find? (fun e=>e.2.overlaps low high)=
  some (rewind tree low high fuel current) := by
 induction fuel generalizing before after current with
 | zero=>
  obtain rfl:before=[]:=length_eq_zero_iff.1 (by omega)
  simp[rewind,h,hcur]
 | succ fuel ih=>
  have hprev:prevInterval tree current.1=before.getLast?:=prevInterval_at hn h
  rcases eq_nil_or_concat before with rfl|⟨before',test,rfl⟩
  · simp only[rewind,hprev]
    simp[h,hcur]
  · simp only[concat_eq_append] at h hprev hfuel ⊢
    simp only[rewind,hprev,getLast?_concat]
    have hsplit:tree.toList=before'++test::current::after:=by simpa using h
    by_cases htest:test.2.overlaps low high
    · rw[if_pos htest]
      refine ih hsplit ?_ htest
      simp only[length_append,length_singleton] at hfuel
      omega
    · have htest':test.2.overlaps low high=false:=by simpa using htest
      have hnone:before'.find? (fun e=>e.2.overlaps low high)=none:=by
       rw[find?_eq_none]
       intro e he
       simp[not_overlaps_before ho hsplit hcur htest' e he]
      simp[hsplit,hnone,htest',hcur]

lemma searchInterval_eq_find? (ho:Ordered tree) (hn:RefsNodup tree) (start count:Nat) :
 searchInterval tree start count=tree.toList.find? (fun e=>e.2.overlaps start (lastOf start count)) := by
 cases h:descend start (lastOf start count) tree with
 | none=>
  simp only[searchInterval,h,Option.map_none]
  symm
  rw[find?_eq_none]
  intro e he
  simp[descend_eq_none ho h e he]
 | some current=>
  obtain ⟨hmem,hov⟩:=descend_eq_some h
  obtain ⟨before,after,heq⟩:=append_of_mem hmem
  simp only[searchInterval,h]
  refine (rewind_spec ho hn heq ?_ hov).symm
  rw[←toList_length,heq]
  simp

lemma rewind_mem (fuel:Nat) (he:e∈tree.toList) : rewind tree low high fuel e∈tree.toList := by
 induction fuel generalizing e with
 | zero=>exact he
 | succ fuel ih=>
  unfold rewind
  split
  · next test hprev=>
     split
     · exact ih (prevInterval_mem hprev)
     · exact he
  · exact he

lemma searchInterval_mem {start count:Nat} (h:searchInterval tree start count=some e) : e∈tree.toList := by
 obtain ⟨first,hdesc,rfl⟩:=Option.map_eq_some_iff.1 h
 exact rewind_mem _ (descend_eq_some hdesc).1

end OpenAvnu.IntervalSearch
