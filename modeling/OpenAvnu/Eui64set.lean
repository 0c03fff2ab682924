import Mathlib.Data.List.Perm.Basic
import Mathlib.Data.List.Sort
import OpenAvnu.Runs

/-!
# The set of EUI-64 values

`eui64set.c`: an array that is sorted anew after every change. Of `qsort` and `bsearch` only their
promises are assumed.
-/

namespace OpenAvnu.Eui64set

open Runs List Function

structure Entry (π:Type) where
 eui64:BitVec 64
 p:π
 deriving DecidableEq

variable {π:Type}

def Sorted (l:List (Entry π)) : Prop := l.Pairwise fun a b=>a.eui64≤b.eui64

structure Library (π:Type) where
 qsort:List (Entry π) → List (Entry π)
 bsearch:BitVec 64 → List (Entry π) → Option Nat
 sorted:∀l,Sorted (qsort l)
 perm:∀l,(qsort l).Perm l
 found:∀v l i,bsearch v l=some i → ∃e,l[i]? = some e ∧ e.eui64=v
 absent:∀v l,Sorted l → bsearch v l=none → ∀e∈l,e.eui64≠v

/-- The first `num_entries` entries of the storage. -/
structure Set (π:Type) where
 maxEntries:Nat
 entries:List (Entry π)

variable (lib:Library π)

def eui64setInsertAndSort (v:BitVec 64) (p:π) (s:Set π) : Set π×Bool :=
 if s.entries.length<s.maxEntries then
  ({s with entries:=lib.qsort (s.entries++[⟨v,p⟩])},true)
 else (s,false)
def eui64setFind (v:BitVec 64) (s:Set π) : Option (Entry π) :=
 (lib.bsearch v s.entries).bind fun i=>s.entries[i]?
def highest : BitVec 64 := ~~~0
def eui64setRemoveAndSort (v:BitVec 64) (s:Set π) : Set π :=
 match lib.bsearch v s.entries with
 | none=>s
 | some i=>
  {s with entries:=(lib.qsort (s.entries.modify i fun e=>{e with eui64:=highest})).dropLast}

inductive Call (π:Type) where
 | insert (v:BitVec 64) (p:π)
 | remove (v:BitVec 64)
 | clear

/-- The set, and the pointers of the values that were inserted and not removed since. -/
structure Session (π:Type) where
 set:Set π
 pointer:BitVec 64 → Option π

def step (call:Call π) (s:Session π) : Session π :=
 match call with
 | .insert v p=>
  let result:=eui64setInsertAndSort lib v p s.set
  ⟨result.1,if result.2 then update s.pointer v (some p) else s.pointer⟩
 | .remove v=>⟨eui64setRemoveAndSort lib v s.set,update s.pointer v none⟩
 | .clear=>⟨{s.set with entries:=[]},fun _=>none⟩

def start (maxEntries:Nat) : Session π := ⟨⟨maxEntries,[]⟩,fun _=>none⟩

/-- New values are inserted, and none is removed while the highest one is another entry. -/
def Allowed (call:Call π) (s:Session π) : Prop :=
 match call with
 | .insert v _=>s.pointer v=none
 | .remove v=>v=highest ∨ s.pointer v=none ∨ s.pointer highest=none
 | .clear=>True

structure Maps (s:Session π) : Prop where
 sorted:Sorted s.set.entries
 nodup:(s.set.entries.map Entry.eui64).Nodup
 pointers:∀e,e∈s.set.entries↔s.pointer e.eui64=some e.p
 bounded:s.set.entries.length ≤ s.set.maxEntries

variable {lib} {s:Session π} {l rest:List (Entry π)} {e:Entry π}

lemma Maps.find (h:Maps s) (v:BitVec 64) : eui64setFind lib v s.set=(s.pointer v).map fun p=>⟨v,p⟩ := by
 unfold eui64setFind
 cases hsearch:lib.bsearch v s.set.entries with
 | none=>
  cases hpointer:s.pointer v with
  | none=>rfl
  | some p=>
   have hmem:=(h.pointers ⟨v,p⟩).2 hpointer
   exact absurd rfl (lib.absent v _ h.sorted hsearch _ hmem)
 | some i=>
  obtain ⟨e,hget,rfl⟩:=lib.found v _ i hsearch
  have hpointer:=(h.pointers e).1 (mem_of_getElem? hget)
  rw[Option.bind_some,hget,hpointer]
  rfl

lemma eq_highest {v:BitVec 64} (h:highest≤v) : v=highest := by
 have hmax:highest.toNat=2^64-1:=by decide
 rw[BitVec.le_def] at h
 exact BitVec.eq_of_toNat_eq (by omega)

lemma dropLast_qsort (lib:Library π) (hl:l.Perm (e::rest)) (he:e.eui64=highest)
 (hrest:∀x∈rest,x.eui64≠highest) : (lib.qsort l).dropLast.Perm rest := by
 have hperm:=(lib.perm l).trans hl
 have hmem:e∈lib.qsort l:=hperm.mem_iff.2 mem_cons_self
 have hsorted:=lib.sorted l
 generalize lib.qsort l=q at *
 cases q using List.reverseRecOn with
 | nil=>cases hmem
 | append_singleton q last=>
  have hlast:last=e:=by
   rcases mem_append.1 hmem with hin|hin
   · have hle:=(pairwise_append.1 hsorted).2.2 e hin last mem_cons_self
     have hhighest:=eq_highest (he▸hle)
     have hlast:=hperm.mem_iff.1 (mem_append_right q mem_cons_self)
     exact (mem_cons.1 hlast).resolve_right fun hin=>hrest last hin hhighest
   · exact (mem_singleton.1 hin).symm
  rw[dropLast_concat]
  rw[hlast] at hperm
  exact ((perm_append_singleton e q).symm.trans hperm).cons_inv

lemma Maps.insert (h:Maps s) {v:BitVec 64} (p:π) (hv:s.pointer v=none) : Maps (step lib (.insert v p) s) := by
 by_cases hroom:s.set.entries.length<s.set.maxEntries
 · simp only[step,eui64setInsertAndSort,if_pos hroom,if_true]
   have hperm:=(lib.perm (s.set.entries++[⟨v,p⟩])).trans (perm_append_singleton _ _)
   have hnew:∀e∈s.set.entries,e.eui64≠v:=fun e he heq=>by
    have hpointer:=(h.pointers e).1 he
    rw[heq,hv] at hpointer
    cases hpointer
   refine ⟨lib.sorted _,?_,fun e=>?_,?_⟩
   · rw[(hperm.map Entry.eui64).nodup_iff,map_cons,nodup_cons,mem_map]
     exact ⟨fun ⟨e,he,heq⟩=>hnew e he heq,h.nodup⟩
   · rw[hperm.mem_iff,mem_cons,h.pointers]
     obtain ⟨v',p'⟩:=e
     by_cases heq:v'=v
     · subst heq
       simp[hv,eq_comm]
     · simp[heq]
   · rw[hperm.length_eq]
     exact hroom
 · simp only[step,eui64setInsertAndSort,if_neg hroom,Bool.false_eq_true,if_false]
   exact h

lemma Maps.remove (h:Maps s) {v:BitVec 64}
 (hv:v=highest ∨ s.pointer v=none ∨ s.pointer highest=none) : Maps (step lib (.remove v) s) := by
 cases hsearch:lib.bsearch v s.set.entries with
 | none=>
  have hnone:s.pointer v=none:=Option.eq_none_iff_forall_ne_some.2 fun p hp=>
   lib.absent v _ h.sorted hsearch _ ((h.pointers ⟨v,p⟩).2 hp) rfl
  have hsame:update s.pointer v none=s.pointer:=by rw[←hnone,update_eq_self]
  simp only[step,eui64setRemoveAndSort,hsearch,hsame]
  exact h
 | some i=>
  obtain ⟨e,hget,rfl⟩:=lib.found v _ i hsearch
  obtain ⟨hi,hei⟩:=List.getElem?_eq_some_iff.1 hget
  have hold:=(getElem_cons_eraseIdx_perm hi).symm
  rw[hei] at hold
  have hmark:s.set.entries.modify i (fun e=>{e with eui64:=highest})=
   s.set.entries.set i {e with eui64:=highest}:=by
   rw[List.modify_eq_set_getElem?,hget]
   rfl
  have hset:=set_perm_cons_eraseIdx hi {e with eui64:=highest}
  generalize s.set.entries.eraseIdx i=rest at *
  have hkeys:=(hold.map Entry.eui64).nodup_iff.1 h.nodup
  rw[map_cons,nodup_cons] at hkeys
  have hother:∀x∈rest,x.eui64≠e.eui64:=fun x hx heq=>
   hkeys.1 (heq▸mem_map_of_mem hx)
  have hpointer:∀x,x=e ∨ x∈rest↔s.pointer x.eui64=some x.p:=fun x=>by
   rw[←h.pointers,hold.mem_iff,mem_cons]
  have hrest:∀x∈rest,x.eui64≠highest:=by
   intro x hx hhighest
   have hx':=(hpointer x).1 (.inr hx)
   rcases hv with hv|hv|hv
   · exact hother x hx (hhighest.trans hv.symm)
   · cases hv.symm.trans ((hpointer e).1 (.inl rfl))
   · rw[hhighest,hv] at hx'
     cases hx'
  have hperm:=dropLast_qsort lib hset rfl hrest
  simp only[step,eui64setRemoveAndSort,hsearch,hmark]
  refine ⟨(lib.sorted _).sublist (dropLast_sublist _),?_,fun x=>?_,?_⟩
  · exact (hperm.map Entry.eui64).nodup_iff.2 hkeys.2
  · dsimp only
    rw[hperm.mem_iff]
    by_cases heq:x.eui64=e.eui64
    · rw[heq,update_self]
      exact iff_of_false (fun hx=>hother x hx heq) nofun
    · rw[update_of_ne heq,←hpointer]
      exact (or_iff_right fun hxe=>heq (congrArg Entry.eui64 hxe)).symm
  · have hlength:=hold.length_eq
    have hbound:=h.bounded
    rw[length_cons] at hlength
    dsimp only
    rw[hperm.length_eq]
    omega

theorem set_is_sorted_map (lib:Library π) (maxEntries:Nat) (calls:List (Call π))
 (h:Along (step lib) Allowed calls (start maxEntries)) (s:Session π)
 (hs:run (step lib) calls (start maxEntries)=s) : Sorted s.set.entries ∧ s.set.entries.length ≤ s.set.maxEntries ∧
  ∀v,eui64setFind lib v s.set=(s.pointer v).map fun p=>⟨v,p⟩ := by
 have hmaps:Maps s:=hs▸(throughout_of_along (fun call s hcall hs=>by
  cases call with
  | insert v p=>exact hs.insert p hcall
  | remove v=>exact hs.remove hcall
  | clear=>exact ⟨List.Pairwise.nil,nodup_nil,by simp[step],Nat.zero_le _⟩)
  ⟨List.Pairwise.nil,nodup_nil,by simp[start],Nat.zero_le _⟩ h).last
 exact ⟨hmaps.sorted,hmaps.bounded,hmaps.find⟩

instance : Std.Total fun a b : Entry π=>a.eui64≤b.eui64 := ⟨fun _ _=>BitVec.le_total _ _⟩

instance : IsTrans (Entry π) fun a b=>a.eui64≤b.eui64 := ⟨fun _ _ _=>BitVec.le_trans⟩

def stableLibrary : Library Nat where
 qsort := List.insertionSort fun a b=>a.eui64≤b.eui64
 bsearch v l:=l.findIdx? fun e=>e.eui64=v
 sorted:=List.pairwise_insertionSort _
 perm:=List.perm_insertionSort _
 found v l i h:=by
  obtain ⟨hi,hv,-⟩:=List.findIdx?_eq_some_iff_getElem.1 h
  exact ⟨l[i],List.getElem?_eq_getElem hi,of_decide_eq_true hv⟩
 absent v l _ h e he:=of_decide_eq_false (List.findIdx?_eq_none_iff.1 h e he)

theorem set_is_sorted_map_two : eui64setFind stableLibrary 3
 (run (step stableLibrary) [.insert 7 1,.insert 3 2,.remove 7] (start 4)).set=some ⟨3,2⟩ :=
 (set_is_sorted_map stableLibrary 4 [.insert 7 1,.insert 3 2,.remove 7]
  ⟨rfl,rfl,.inr (.inr rfl),trivial⟩ _ rfl).2.2 3

theorem highest_found_as_removed : eui64setFind stableLibrary highest
 (run (step stableLibrary) [.insert 3 1,.insert highest 2,.remove 3] (start 4)).set=some ⟨highest,1⟩ := by
 decide

end OpenAvnu.Eui64set
