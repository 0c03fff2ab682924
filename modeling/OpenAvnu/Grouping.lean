import Mathlib.Data.List.Basic

/-! # Lists grouped by a type and sorted by a key -/

namespace OpenAvnu.Grouping

open List

variable {α τ:Type}

/-- Elements of one type form one block: if a type occurs again, it occurs next. -/
def Grouped (type:α → τ) : List α → Prop
 | []=>True
 | a::l=>(∀b∈l,type b=type a → l.head?.map type=some (type a)) ∧ Grouped type l
def SortedWithin (type:α → τ) (key:α → Nat) (l:List α) : Prop := l.Pairwise fun a b=>type a=type b → key a<key b
def SortedOn (type:α → τ) (key:α → Nat) (t:τ) (l:List α) : Prop :=
 l.Pairwise fun a b=>type a=t → type b=t → key a<key b

structure Arranged (type:α → τ) (key:α → Nat) (l:List α) : Prop where
 grouped:Grouped type l
 sorted:SortedWithin type key l

variable {type:α → τ} {key:α → Nat} {β:Type} (f:β → α) {l l':List α}

lemma grouped_map (l:List β) : Grouped type (l.map f)↔Grouped (fun b=>type (f b)) l := by
 induction l with
 | nil=>exact Iff.rfl
 | cons b l ih=>
  simp only[map_cons,Grouped,ih,List.forall_mem_map,head?_map,Option.map_map]
  rfl

lemma arranged_map (l:List β) :
 Arranged type key (l.map f)↔Arranged (fun b=>type (f b)) (fun b=>key (f b)) l := by
 constructor
 · rintro ⟨hgrouped,hsorted⟩
   exact ⟨(grouped_map f l).1 hgrouped,pairwise_map.1 hsorted⟩
 · rintro ⟨hgrouped,hsorted⟩
   exact ⟨(grouped_map f l).2 hgrouped,pairwise_map.2 hsorted⟩

lemma sortedWithin_iff : SortedWithin type key l↔∀t,SortedOn type key t l := by
 simp only[SortedWithin,SortedOn,pairwise_iff_forall_sublist]
 constructor
 · intro h t a b hab ha hb
   exact h hab (ha.trans hb.symm)
 · intro h a b hab hsame
   exact h (type b) hab hsame rfl

lemma Arranged.tail {a:α} (h:Arranged type key (a::l)) : Arranged type key l := ⟨h.grouped.2,h.sorted.tail⟩

lemma grouped_iff_triples : Grouped type l↔∀a b c,[a,b,c].Sublist l → type a=type c → type b=type a := by
 induction l with
 | nil=>simp[Grouped]
 | cons x l ih=>
  constructor
  · rintro ⟨hhead,hl⟩ a b c hsub hac
    have hlater:=ih.1 hl
    cases hsub with
    | cons _ h=>exact hlater a b c h hac
    | cons_cons _ h=>
     have hc:c∈l:=h.subset (by simp)
     obtain ⟨y,l,rfl⟩:=exists_cons_of_ne_nil (ne_nil_of_mem hc)
     have hy:type y=type x:=by simpa using hhead c hc hac.symm
     cases h with
     | cons _ h=>rw[hlater y b c (h.cons_cons y) (hy.trans hac),hy]
     | cons_cons _ h=>exact hy
  · intro h
    refine ⟨fun b hb hbx=>?_,ih.2 fun a b c hsub=>h a b c (hsub.cons x)⟩
    obtain ⟨y,l,rfl⟩:=exists_cons_of_ne_nil (ne_nil_of_mem hb)
    rw[head?_cons,Option.map_some]
    rcases mem_cons.1 hb with rfl|hb
    · rw[hbx]
    · have hsub:[x,y,b].Sublist (x::y::l):=
       ((singleton_sublist.2 hb).cons_cons y).cons_cons x
      rw[h x y b hsub hbx.symm]

lemma Grouped.sublist (h:Grouped type l) (hsub:l'.Sublist l) : Grouped type l' :=
 grouped_iff_triples.2 fun a b c habc=>grouped_iff_triples.1 h a b c (habc.trans hsub)
lemma Arranged.sublist (h:Arranged type key l) (hsub:l'.Sublist l) : Arranged type key l' :=
 ⟨h.grouped.sublist hsub,h.sorted.sublist hsub⟩

end OpenAvnu.Grouping
