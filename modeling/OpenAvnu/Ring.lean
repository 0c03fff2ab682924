import Mathlib.Data.List.Range
import Mathlib.Tactic.SplitIfs

/-!
# Positions in a ring

The positions of a ring of `n` slots, counted from a starting slot.
-/

namespace OpenAvnu.Ring

open List

def next (n i:Nat) : Nat := if n ≤ i+1 then 0 else i+1
def pos (n i k:Nat) : Nat := (i+k)%n
def span (n i k:Nat) : List Nat := (List.range k).map fun j=>pos n i j

variable {n i j k:Nat}

section
variable (hi:i<n)
include hi

lemma pos_zero : pos n i 0=i := Nat.mod_eq_of_lt hi
lemma pos_full : pos n i n=i := by
 rw[pos,Nat.add_mod_right,Nat.mod_eq_of_lt hi]
lemma pos_cases (hk:k≤n) : pos n i k=if i+k<n then i+k else i+k-n := by
 rw[pos]
 split_ifs with h
 · exact Nat.mod_eq_of_lt h
 · rw[Nat.mod_eq_sub_mod (by omega),Nat.mod_eq_of_lt (by omega)]

lemma next_lt : next n i<n := by
 rw[next]
 split_ifs<;>omega
lemma next_pos (hk:k<n) : next n (pos n i k)=pos n i (k+1) := by
 rw[next,pos_cases hi (by omega),pos_cases hi (by omega)]
 split_ifs<;>omega
lemma pos_next (hk:k<n) : pos n (next n i) k=pos n i (k+1) := by
 rw[pos_cases (next_lt hi) (by omega),pos_cases hi (by omega),next]
 split_ifs<;>omega
lemma pos_ne (hjk:j<k) (hk:k<j+n) (hkn:k≤n) : pos n i j≠pos n i k := by
 rw[pos_cases hi (by omega),pos_cases hi hkn]
 split_ifs<;>omega

lemma pos_eq_start_iff (hk:0<k) (hkn:k≤n) : pos n i k=i↔k=n := by
 constructor
 · intro h
   by_contra hne
   apply pos_ne hi hk (by omega) hkn
   rw[pos_zero hi,h]
 · rintro rfl
   exact pos_full hi

end

lemma span_succ (n i k:Nat) : span n i (k+1)=span n i k++[pos n i k] := by
 simp[span,range_succ]

lemma span_succ_first (hi:i<n) (hk:k<n) : span n i (k+1)=i::span n (next n i) k := by
 rw[span,range_succ_eq_map,map_cons,pos_zero hi,map_map]
 congr 1
 apply map_congr_left
 intro j hj
 have hjk:=mem_range.1 hj
 exact (pos_next hi (by omega)).symm

lemma not_mem_span (hi:i<n) (hk:k<n) : pos n i k∉span n i k := by
 intro h
 obtain ⟨j,hj,heq⟩:=mem_map.1 h
 exact pos_ne hi (mem_range.1 hj) (by omega) (by omega) heq

lemma not_mem_span_next (hi:i<n) (hk:k<n) : i∉span n (next n i) k := by
 intro h
 obtain ⟨j,hj,heq⟩:=mem_map.1 h
 have hjk:=mem_range.1 hj
 rw[pos_next hi (by omega),pos_eq_start_iff hi (by omega) (by omega)] at heq
 omega

end OpenAvnu.Ring
