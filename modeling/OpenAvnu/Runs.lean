import Mathlib.Data.List.Induction

/-! # Runs of a deterministic system -/

namespace OpenAvnu.Runs

variable {ι σ:Type} (step:ι → σ → σ)

def run : List ι → σ → σ
 | [], s=>s
 | i::inputs, s=>run inputs (step i s)

/-- Every input meets the condition in the state in which it arrives. -/
def Along (cond:ι → σ → Prop) : List ι → σ → Prop
 | [], _=>True
 | i::inputs, s=>cond i s ∧ Along cond inputs (step i s)

instance decidableAlong (cond:ι → σ → Prop) [∀i s,Decidable (cond i s)] :
 (inputs:List ι) → (s:σ) → Decidable (Along step cond inputs s)
 | [], _=>isTrue trivial
 | i::inputs, s=>
  have:=decidableAlong cond inputs (step i s)
  inferInstanceAs (Decidable (_ ∧ _))

def Throughout (P:σ → Prop) : List ι → σ → Prop
 | [], s=>P s
 | i::inputs, s=>P s ∧ Throughout P inputs (step i s)

variable {step} {cond:ι → σ → Prop} {P:σ → Prop} {inputs:List ι} {s:σ}

lemma run_append (inputs later:List ι) (s:σ) :
 run step (inputs++later) s=run step later (run step inputs s) := by
 induction inputs generalizing s with
 | nil=>rfl
 | cons i inputs ih=>exact ih (step i s)
lemma run_invariant (hstep:∀i s,P s → P (step i s)) (inputs:List ι) (hs:P s) : P (run step inputs s) := by
 induction inputs generalizing s with
 | nil=>exact hs
 | cons i inputs ih=>exact ih (hstep i s hs)

lemma run_related {σ':Type} {step':ι → σ' → σ'} {R:σ → σ' → Prop} {s':σ'}
 (hstep:∀i s s',R s s' → R (step i s) (step' i s')) (inputs:List ι) (hs:R s s') :
 R (run step inputs s) (run step' inputs s') := by
 induction inputs generalizing s s' with
 | nil=>exact hs
 | cons i inputs ih=>exact ih (hstep i s s' hs)

lemma run_history {I:List ι → σ → Prop}
 (hstep:∀earlier i s,I earlier s → I (earlier++[i]) (step i s)) (inputs:List ι)
 (hs:I [] s) : I inputs (run step inputs s) := by
 induction inputs using List.reverseRecOn with
 | nil=>exact hs
 | append_singleton earlier i ih=>
  rw[run_append]
  exact hstep earlier i _ ih

lemma along_of_forall (h:∀i∈inputs,∀s,cond i s) : Along step cond inputs s := by
 induction inputs generalizing s with
 | nil=>trivial
 | cons i inputs ih=>
  exact ⟨h i List.mem_cons_self s,ih fun j hj=>h j (List.mem_cons_of_mem _ hj)⟩
lemma along_iff_forall {p:ι → Prop} : Along step (fun i _=>p i) inputs s↔∀i∈inputs,p i := by
 induction inputs generalizing s with
 | nil=>simp[Along]
 | cons i inputs ih=>simp[Along,ih]

variable {cond':ι → σ → Prop} {S:σ → Prop}

lemma along_congr (h:∀i s,cond i s↔cond' i s) : Along step cond inputs s↔Along step cond' inputs s := by
 induction inputs generalizing s with
 | nil=>exact Iff.rfl
 | cons i inputs ih=>exact and_congr (h i s) ih
lemma throughout_of_along (hstep:∀i s,cond i s → P s → P (step i s)) (hs:P s)
 (h:Along step cond inputs s) : Throughout step P inputs s := by
 induction inputs generalizing s with
 | nil=>exact hs
 | cons i inputs ih=>exact ⟨hs,ih (hstep i s h.1 hs) h.2⟩
lemma throughout_of_invariant (hstep:∀i s,P s → P (step i s)) (hs:P s) : Throughout step P inputs s := by
 induction inputs generalizing s with
 | nil=>exact hs
 | cons i inputs ih=>exact ⟨hs,ih (hstep i s hs)⟩

lemma Along.imp_of_invariant (hstep:∀i s,cond i s → P s → P (step i s))
 (himp:∀i s,P s → cond i s → cond' i s) (hs:P s) (h:Along step cond inputs s) : Along step cond' inputs s := by
 induction inputs generalizing s with
 | nil=>trivial
 | cons i inputs ih=>exact ⟨himp i s hs h.1,ih (hstep i s h.1 hs) h.2⟩

lemma Throughout.imp {Q:σ → Prop} (hPQ:∀s,P s → Q s) (h:Throughout step P inputs s) :
 Throughout step Q inputs s := by
 induction inputs generalizing s with
 | nil=>exact hPQ s h
 | cons i inputs ih=>exact ⟨hPQ s h.1,ih h.2⟩

lemma Throughout.first (h:Throughout step P inputs s) : P s := by
 cases inputs with
 | nil=>exact h
 | cons i inputs=>exact h.1
lemma Throughout.last (h:Throughout step P inputs s) : P (run step inputs s) := by
 induction inputs generalizing s with
 | nil=>exact h
 | cons i inputs ih=>exact ih h.2

/-- Within a domain of inputs, `S` holds as long as the condition is met. -/
lemma throughout_iff_along_within {domain:ι → σ → Prop} (hweak:∀s,S s → P s)
 (hkeep:∀i s,S s → domain i s → cond i s → S (step i s))
 (hneeds:∀i s,S s → domain i s → P (step i s) → cond i s) (hs:S s)
 (hdomain:Along step domain inputs s) : Throughout step P inputs s↔Along step cond inputs s := by
 induction inputs generalizing s with
 | nil=>exact iff_of_true (hweak s hs) trivial
 | cons i inputs ih=>
  constructor
  · rintro ⟨-,h⟩
    have hcond:=hneeds i s hs hdomain.1 h.first
    exact ⟨hcond,(ih (hkeep i s hs hdomain.1 hcond) hdomain.2).1 h⟩
  · rintro ⟨hcond,h⟩
    exact ⟨hweak s hs,(ih (hkeep i s hs hdomain.1 hcond) hdomain.2).2 h⟩

lemma throughout_iff_along_of_stronger (hweak:∀s,S s → P s)
 (hkeep:∀i s,S s → cond i s → S (step i s)) (hneeds:∀i s,S s → P (step i s) → cond i s)
 (hs:S s) : Throughout step P inputs s↔Along step cond inputs s :=
 throughout_iff_along_within hweak (fun i s hS _=>hkeep i s hS) (fun i s hS _=>hneeds i s hS) hs
  ((along_iff_forall (p:=fun _=>True)).2 fun _ _=>trivial)

/-- If every other input destroys the property, the condition is exact; `J` holds in any case. -/
lemma throughout_iff_along_of {J:σ → Prop} (hinv:∀i s,J s → J (step i s))
 (hstep:∀i s,J s → P s → (P (step i s)↔cond i s)) (hj:J s) (hs:P s) :
 Throughout step P inputs s↔Along step cond inputs s :=
 throughout_iff_along_of_stronger (S:=fun s=>J s ∧ P s) (fun _ h=>h.2)
  (fun i s h hcond=>⟨hinv i s h.1,(hstep i s h.1 h.2).2 hcond⟩)
  (fun i s h=>(hstep i s h.1 h.2).1) ⟨hj,hs⟩

lemma throughout_iff_along (hstep:∀i s,P s → (P (step i s)↔cond i s)) (hs:P s) :
 Throughout step P inputs s↔Along step cond inputs s :=
 throughout_iff_along_of_stronger (fun _=>id) (fun i s h=>(hstep i s h).2)
  (fun i s h=>(hstep i s h).1) hs

/-- If no input restores the property, it holds at the end exactly if every input met the condition. -/
lemma run_iff_along {J:σ → Prop} {domain:ι → Prop}
 (hstep:∀i s,domain i → J s → J (step i s) ∧ (P (step i s)↔P s ∧ cond i s))
 (hdomain:∀i∈inputs,domain i) (hj:J s) : P (run step inputs s)↔P s ∧ Along step cond inputs s := by
 induction inputs generalizing s with
 | nil=>exact (and_iff_left trivial).symm
 | cons i inputs ih=>
  obtain ⟨hi,hrest⟩:=List.forall_mem_cons.1 hdomain
  obtain ⟨hkept,hiff⟩:=hstep i s hi hj
  rw[run,ih hrest hkept,hiff,and_assoc]
  rfl

end OpenAvnu.Runs
