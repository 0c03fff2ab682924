import Mathlib.Data.List.Nodup
import Mathlib.Data.List.Perm.Basic

/-!
# Owners of resources

Every resource in use has exactly one holder.
-/

namespace OpenAvnu.Owners

open List

variable {α κ ρ:Type} [DecidableEq κ] (key:α → κ) (held:α → Option ρ)

def replace (x:α) (l:List α) : List α := l.map fun y=>if key y=key x then x else y
def remove (k:κ) (l:List α) : List α := l.filter fun y=>decide (key y≠k)

/-- The resources in use are those held, and none is held twice. -/
structure Once (l:List α) (used:ρ → Prop) : Prop where
 nodup:(l.filterMap held).Nodup
 used_iff:∀r,used r↔r∈l.filterMap held

variable {key held} {l:List α} {x x':α} {r:ρ} {used used':ρ → Prop} {k:κ} {y:α}

lemma map_ne {l:List α} (h:k∉l.map key) (x':α) (hk:key x'=k) : replace key x' l=l ∧ remove key k l=l:=by
 have hne:∀y∈l,key y≠k:=fun y hy heq=>h (heq▸mem_map_of_mem hy)
 constructor
 · conv_rhs=>rw[←map_id l]
   exact map_congr_left fun y hy=>if_neg (hk▸hne y hy)
 · exact filter_eq_self.2 fun y hy=>decide_eq_true (hne y hy)

lemma split_of_mem (hkeys:(l.map key).Nodup) (hx:x∈l) : ∃a b,l=a++x::b ∧ remove key (key x) l=a++b ∧
  ∀x',key x'=key x → replace key x' l=a++x'::b := by
 obtain ⟨a,b,rfl⟩:=append_of_mem hx
 rw[map_append,map_cons,nodup_middle,nodup_cons] at hkeys
 have ha:key x∉a.map key:=fun h=>hkeys.1 (mem_append_left _ h)
 have hb:key x∉b.map key:=fun h=>hkeys.1 (mem_append_right _ h)
 refine ⟨a,b,rfl,?_,fun x' hk=>?_⟩
 · have hself:remove key (key x) [x]=[]:=by simp[remove]
   calc
    remove key (key x) (a++x::b)=remove key (key x) a++(remove key (key x) [x]++remove key (key x) b):=by
     rw[append_cons a x b]
     simp only[remove,filter_append,append_assoc]
    _=a++b:=by rw[(map_ne ha x rfl).2,(map_ne hb x rfl).2,hself,nil_append]
 · have hself:replace key x' [x]=[x']:=by simp[replace,hk]
   calc
    replace key x' (a++x::b)=replace key x' a++(replace key x' [x]++replace key x' b):=by
     rw[append_cons a x b]
     simp only[replace,map_append,append_assoc]
    _=a++x'::b:=by rw[(map_ne ha x' hk).1,(map_ne hb x' hk).1,hself,singleton_append]

lemma replace_keys (hkeys:(l.map key).Nodup) (hx:x∈l) (hk:key x'=key x) :
 (replace key x' l).map key=l.map key := by
 obtain ⟨a,b,heq,-,hrep⟩:=split_of_mem hkeys hx
 rw[hrep x' hk,heq,map_append,map_append,map_cons,map_cons,hk]

lemma mem_replace (hx:x∈l) (hk:key x'=key x) : y∈replace key x' l↔y=x' ∨ y∈l ∧ key y≠key x := by
 simp only[replace,mem_map]
 constructor
 · rintro ⟨z,hz,rfl⟩
   split_ifs with heq
   · exact .inl rfl
   · exact .inr ⟨hz,hk▸heq⟩
 · rintro (rfl|⟨hy,hne⟩)
   · exact ⟨x,hx,if_pos hk.symm⟩
   · exact ⟨y,hy,if_neg (hk▸hne)⟩

lemma mem_remove : y∈remove key k l↔y∈l ∧ key y≠k := by
 simp[remove]

variable (h:Once held l used)
include h

lemma Once.unique (hkeys:(l.map key).Nodup) (hx:x∈l) (hy:y∈l)
 (hheldx:held x=some r) (hheldy:held y=some r) : x=y := by
 obtain ⟨a,b,heq,-⟩:=split_of_mem hkeys hx
 have hnodup:=h.nodup
 rw[heq,filterMap_append,filterMap_cons_some hheldx,nodup_middle,nodup_cons,←filterMap_append] at hnodup
 rw[heq,mem_append,mem_cons] at hy
 have hother:∀z∈a++b,held z=some r → x=z:=fun z hz hheld=>
  absurd (mem_filterMap.2 ⟨z,hz,hheld⟩) hnodup.1
 rcases hy with hy|rfl|hy
 · exact hother y (mem_append_left _ hy) hheldy
 · rfl
 · exact hother y (mem_append_right _ hy) hheldy

lemma Once.used_of_held (hx:x∈l) (hheld:held x=some r) : used r :=
 (h.used_iff r).2 (mem_filterMap.2 ⟨x,hx,hheld⟩)
lemma Once.append (hheld:held x=none) : Once held (l++[x]) used := by
 have heq:(l++[x]).filterMap held=l.filterMap held:=by simp[hheld]
 exact ⟨heq▸h.nodup,heq▸h.used_iff⟩

section
variable (hkeys:(l.map key).Nodup) (hx:x∈l) (hk:key x'=key x)
include hkeys hx hk

lemma Once.replace_same (hheld:held x'=held x) : Once held (replace key x' l) used := by
 obtain ⟨a,b,heq,-,hrep⟩:=split_of_mem hkeys hx
 have hsame:(replace key x' l).filterMap held=l.filterMap held:=by
  rw[hrep x' hk,heq,filterMap_append,filterMap_append,filterMap_cons,filterMap_cons,hheld]
 exact ⟨hsame▸h.nodup,hsame▸h.used_iff⟩

lemma Once.replace_acquire (hnone:held x=none) (hheld:held x'=some r) (hfree:¬used r)
 (hused:∀s,used' s↔used s ∨ s=r) : Once held (replace key x' l) used' := by
 obtain ⟨a,b,heq,-,hrep⟩:=split_of_mem hkeys hx
 have hperm:((replace key x' l).filterMap held).Perm (r::l.filterMap held):=by
  rw[hrep x' hk,heq,filterMap_append,filterMap_append,filterMap_cons_some hheld,filterMap_cons_none hnone]
  exact perm_middle
 constructor
 · rw[hperm.nodup_iff,nodup_cons]
   exact ⟨fun hmem=>hfree ((h.used_iff r).2 hmem),h.nodup⟩
 · intro s
   rw[hperm.mem_iff,mem_cons,hused s,h.used_iff s]
   exact or_comm

end

lemma used_of_perm {l':List α}
 (hperm:(l.filterMap held).Perm (r::l'.filterMap held))
 (hused:∀s,used' s↔used s ∧ s≠r) (s:ρ) : used' s↔s∈l'.filterMap held := by
 have hnodup:=hperm.nodup_iff.1 h.nodup
 rw[nodup_cons] at hnodup
 rw[hused s,h.used_iff s,hperm.mem_iff,mem_cons]
 constructor
 · rintro ⟨rfl|hs,hne⟩
   · exact absurd rfl hne
   · exact hs
 · intro hs
   exact ⟨.inr hs,fun heq=>hnodup.1 (heq▸hs)⟩

lemma Once.replace_release (hkeys:(l.map key).Nodup) (hx:x∈l)
 (hk:key x'=key x) (hheld:held x=some r) (hnone:held x'=none)
 (hused:∀s,used' s↔used s ∧ s≠r) : Once held (replace key x' l) used' := by
 obtain ⟨a,b,heq,-,hrep⟩:=split_of_mem hkeys hx
 have hperm:(l.filterMap held).Perm (r::(replace key x' l).filterMap held):=by
  rw[hrep x' hk,heq,filterMap_append,filterMap_append,filterMap_cons_some hheld,filterMap_cons_none hnone]
  exact perm_middle
 exact ⟨(nodup_cons.1 (hperm.nodup_iff.1 h.nodup)).2,used_of_perm h hperm hused⟩

lemma Once.remove (hkeys:(l.map key).Nodup) (hx:x∈l)
 (hused:∀s,used' s↔used s ∧ held x≠some s) : Once held (remove key (key x) l) used' := by
 obtain ⟨a,b,heq,hrem,-⟩:=split_of_mem hkeys hx
 cases hheld:held x with
 | none=>
  have hsame:(Owners.remove key (key x) l).filterMap held=l.filterMap held:=by
   rw[hrem,heq,filterMap_append,filterMap_append,filterMap_cons_none hheld]
  refine ⟨hsame▸h.nodup,fun s=>?_⟩
  rw[hsame,hused s,hheld,h.used_iff s]
  simp
 | some r=>
  have hperm:(l.filterMap held).Perm (r::(Owners.remove key (key x) l).filterMap held):=by
   rw[hrem,heq,filterMap_append,filterMap_append,filterMap_cons_some hheld]
   exact perm_middle
  refine ⟨(nodup_cons.1 (hperm.nodup_iff.1 h.nodup)).2,fun s=>?_⟩
  have hused':∀s,used' s↔used s ∧ s≠r:=fun s=>by
   rw[hused s,hheld,ne_eq,Option.some.injEq,eq_comm]
  exact used_of_perm h hperm hused' s

end OpenAvnu.Owners
