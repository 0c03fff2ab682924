import Mathlib.Data.List.Dedup
import Mathlib.Data.List.Find
import Mathlib.Data.List.Induction
import Mathlib.Data.List.Perm.Subperm

/-!
# A roster

Keys join and leave.  The roster lists those that are in, in the order in which they joined.
-/

namespace OpenAvnu.Roster

open List Option

variable {κ:Type} [DecidableEq κ]

inductive Op (κ:Type) where
 | join (k:κ)
 | leave (k:κ)
 deriving DecidableEq

def Op.key : Op κ → κ
 | join k=>k
 | leave k=>k
def apply (members:List κ) : Op κ → List κ
 | .join k=>if k∈members then members else members++[k]
 | .leave k=>members.erase k
def roster (ops:List (Op κ)) : List κ := ops.foldl apply []
def lastOf (k:κ) (ops:List (Op κ)) : Option (Op κ) := (ops.filter fun op=>decide (op.key=k)).getLast?

/-- The first operation by which the key joined without having left since. -/
def joinedAt (k:κ) (ops:List (Op κ)) : Option Nat := (List.range ops.length).find? fun n=>
  decide (ops[n]? = some (.join k))&&decide (Op.leave k∉ops.drop n)

variable {k:κ} {op:Op κ} {ops:List (Op κ)} {members:List κ}

lemma roster_snoc (ops:List (Op κ)) (op:Op κ) : roster (ops++[op])=apply (roster ops) op := foldl_concat ..

lemma apply_nodup (h:members.Nodup) (op:Op κ) : (apply members op).Nodup := by
 cases op with
 | join k=>
  rw[apply]
  split
  · exact h
  · rename_i hnot
    exact Nodup.append h (nodup_singleton k) (by simpa using hnot)
 | leave k=>exact h.erase k

lemma roster_nodup (ops:List (Op κ)) : (roster ops).Nodup := by
 induction ops using List.reverseRecOn with
 | nil=>exact nodup_nil
 | append_singleton ops op ih=>
  rw[roster_snoc]
  exact apply_nodup ih op

lemma mem_apply_iff (h:members.Nodup) : k∈apply members op↔if op.key=k then op=.join k else k∈members := by
 cases op with
 | join j=>
  rw[apply]
  by_cases hkey:j=k
  · subst hkey
    simp only[Op.key,if_true,iff_true]
    split
    · assumption
    · exact mem_append_right _ (mem_singleton_self j)
  · simp only[Op.key,hkey,if_false]
    split
    · exact Iff.rfl
    · simp[Ne.symm hkey]
 | leave j=>
  simp only[apply,Op.key,h.mem_erase_iff]
  by_cases hkey:j=k
  · simp[hkey]
  · simp[hkey,Ne.symm hkey]

lemma lastOf_snoc (k:κ) (ops:List (Op κ)) (op:Op κ) :
 lastOf k (ops++[op])=if op.key=k then some op else lastOf k ops := by
 rw[lastOf,filter_append]
 split
 · rename_i hkey
   simp[hkey]
 · rename_i hkey
   simp[hkey,lastOf]

lemma mem_roster_iff (ops:List (Op κ)) : k∈roster ops↔lastOf k ops=some (.join k) := by
 induction ops using List.reverseRecOn with
 | nil=>simp[roster,lastOf]
 | append_singleton ops op ih=>
  rw[roster_snoc,mem_apply_iff (roster_nodup ops),lastOf_snoc]
  split
  · exact (some_inj).symm
  · exact ih

lemma key_mem_of_mem_roster (h:k∈roster ops) : k∈ops.map Op.key := by
 have hlast:=(mem_roster_iff ops).1 h
 have hmem:=mem_of_getLast? hlast
 exact mem_map.2 ⟨.join k,(mem_filter.1 hmem).1,rfl⟩
lemma roster_length_le {keys:List κ} (h:ops.map Op.key ⊆ keys) : (roster ops).length≤keys.dedup.length := by
 apply (subperm_of_subset (roster_nodup ops) _).length_le
 intro k hk
 exact mem_dedup.2 (h (key_mem_of_mem_roster hk))
lemma joinedAt_lt {n:Nat} (h:joinedAt k ops=some n) : n<ops.length := mem_range.1 (mem_of_find?_eq_some h)

lemma joinedAt_snoc_leave (k:κ) (ops:List (Op κ)) : joinedAt k (ops++[.leave k])=none := by
 rw[joinedAt,find?_eq_none]
 intro n hn
 rw[length_append,length_singleton,mem_range] at hn
 have hleave:Op.leave k∈(ops++[Op.leave k]).drop n:=by
  rw[drop_append_of_le_length (by omega)]
  exact mem_append_right _ (mem_singleton_self _)
 simp[hleave]

lemma joinedAt_snoc (h:op ≠ .leave k) : joinedAt k (ops++[op])=
  if op=.join k then (joinedAt k ops).or (some ops.length) else joinedAt k ops := by
 have hearlier:(range ops.length).find? (fun n=>
  decide ((ops++[op])[n]? = some (.join k))&&decide (Op.leave k∉(ops++[op]).drop n))=joinedAt k ops:=by
  apply find?_congr
  intro n hn
  have hlt:=mem_range.1 hn
  rw[getElem?_append_left hlt,drop_append_of_le_length (Nat.le_of_lt hlt)]
  simp[Ne.symm h]
 have hlast:(ops++[op])[ops.length]? = some op:=getElem?_concat_length ..
 have hdrop:(ops++[op]).drop ops.length=[op]:=drop_left ..
 rw[joinedAt,length_append,length_singleton,range_succ,find?_append,hearlier,find?_singleton,hlast,hdrop]
 split<;>simp_all

lemma mem_roster_iff_joinedAt (ops:List (Op κ)) : k∈roster ops↔(joinedAt k ops).isSome := by
 induction ops using List.reverseRecOn with
 | nil=>simp[roster,joinedAt]
 | append_singleton ops op ih=>
  rw[roster_snoc,mem_apply_iff (roster_nodup ops)]
  by_cases hleave:op=.leave k
  · subst hleave
    simp[Op.key,joinedAt_snoc_leave]
  · rw[joinedAt_snoc hleave]
    cases op with
    | join j=>
     by_cases hkey:j=k
     · simp[Op.key,hkey]
     · simp[Op.key,hkey,ih]
    | leave j=>
     have hkey:j≠k:=fun h=>hleave (congrArg Op.leave h)
     simp[Op.key,hkey,ih]

def Earlier (ops:List (Op κ)) (j k:κ) : Prop := ∃m n,joinedAt j ops=some m ∧ joinedAt k ops=some n ∧ m<n

lemma joinedAt_snoc_of_mem (h:k∈roster ops) (hstill:k∈roster (ops++[op])) :
 joinedAt k (ops++[op])=joinedAt k ops := by
 have hleave:op ≠ .leave k:=by
  rintro rfl
  rw[mem_roster_iff_joinedAt,joinedAt_snoc_leave] at hstill
  cases hstill
 obtain ⟨n,hn⟩:=isSome_iff_exists.1 ((mem_roster_iff_joinedAt ops).1 h)
 rw[joinedAt_snoc hleave,hn]
 split<;>rfl

lemma Earlier.snoc {j:κ} (h:Earlier ops j k) (hj:j∈roster ops) (hk:k∈roster ops)
 (hj':j∈roster (ops++[op])) (hk':k∈roster (ops++[op])) : Earlier (ops++[op]) j k := by
 rw[Earlier,joinedAt_snoc_of_mem hj hj',joinedAt_snoc_of_mem hk hk']
 exact h

lemma earlier_of_join {j:κ} (hj:j∈roster ops) (hk:k∉roster ops)
 (hj':j∈roster (ops++[.join k])) : Earlier (ops++[.join k]) j k := by
 obtain ⟨m,hm⟩:=isSome_iff_exists.1 ((mem_roster_iff_joinedAt ops).1 hj)
 have hnone:joinedAt k ops=none:=by
  rw[mem_roster_iff_joinedAt,Bool.not_eq_true,isSome_eq_false_iff,isNone_iff_eq_none] at hk
  exact hk
 refine ⟨m,ops.length,?_,?_,joinedAt_lt hm⟩
 · rw[joinedAt_snoc_of_mem hj hj',hm]
 · rw[joinedAt_snoc (by simp),if_pos rfl,hnone]
   rfl

lemma roster_ordered (ops:List (Op κ)) : (roster ops).Pairwise (Earlier ops) := by
 induction ops using List.reverseRecOn with
 | nil=>exact List.Pairwise.nil
 | append_singleton ops op ih=>
  have hkept:∀{l:List κ},l.Sublist (roster ops) → l ⊆ roster (ops++[op]) →
   l.Pairwise (Earlier (ops++[op])):=by
   intro l hsub hstill
   apply (ih.sublist hsub).imp_of_mem
   intro j k hj hk hearlier
   exact hearlier.snoc (hsub.subset hj) (hsub.subset hk) (hstill hj) (hstill hk)
  rw[roster_snoc] at hkept ⊢
  cases op with
  | leave k=>exact hkept erase_sublist (List.Subset.refl _)
  | join k=>
   simp only[apply] at hkept ⊢
   split at hkept
   · rename_i hin
     rw[if_pos hin]
     exact hkept (Sublist.refl _) (List.Subset.refl _)
   · rename_i hout
     rw[if_neg hout,pairwise_append]
     refine ⟨hkept (Sublist.refl _) (subset_append_left _ _),pairwise_singleton _ _,?_⟩
     intro j hj x hx
     rw[mem_singleton.1 hx]
     apply earlier_of_join hj hout
     rw[roster_snoc,apply,if_neg hout]
     exact mem_append_left _ hj

end OpenAvnu.Roster
