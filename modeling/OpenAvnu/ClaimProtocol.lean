import Mathlib.Tactic.Common

/-! # Claiming blocks by probing -/

namespace OpenAvnu.ClaimProtocol

variable {β:Type}

inductive Message (β:Type) where
 | probe (block:β)
 | answer (block:β)

/-- What a station claims, and which of its messages are still under way. -/
structure Station (β:Type) where
 defends:β → Prop
 probes:β → Prop
 sent:Message β → Prop

def Station.Quiet (x:Station β) : Prop := ∀m,¬x.sent m

/-- A station acts on its own: it starts to probe, or defends what it probed for. -/
structure Moves (x x':Station β) : Prop where
 defends:∀r,x'.defends r → x.defends r ∨ x.probes r ∧ x'.sent (.answer r)
 probes:∀r,x'.probes r → x.probes r ∨ x'.sent (.probe r)

structure Loses (m:Message β) (x x':Station β) : Prop where
 defends:∀r,x'.defends r → x.defends r
 probes:∀r,x'.probes r → x.probes r
 sent:∀m',x.sent m' → x'.sent m' ∨ m'=m

section Conflict
variable (conflict:β → β → Prop)

/-- A station hears a message: it answers probes for what it defends and drops its own
probes when someone insists. -/
structure Hears (m:Message β) (y y':Station β) : Prop where
 defends:∀s,y'.defends s →
  y.defends s ∧ ∀b,m=.probe b → conflict s b → y'.sent (.answer b)
 probes:∀s,y'.probes s →
  (y.probes s ∧ ∀b,m=.answer b → ¬conflict b s) ∨ y'.sent (.probe s)
 sent:∀m',y.sent m' → y'.sent m'

/-- Two stations and the messages between them; stations act when all is quiet, and
messages arrive in any order. -/
inductive Step : Station β×Station β → Station β×Station β → Prop
 | moveLeft {x x' y:Station β} (hx:x.Quiet) (hy:y.Quiet) (h:Moves x x') : Step (x,y) (x',y)
 | moveRight {x y y':Station β} (hx:x.Quiet) (hy:y.Quiet) (h:Moves y y') : Step (x,y) (x,y')
 | toRight {x x' y y':Station β} (m:Message β) (h:Loses m x x')
  (h':Hears conflict m y y') : Step (x,y) (x',y')
 | toLeft {x x' y y':Station β} (m:Message β) (h:Hears conflict m x x')
  (h':Loses m y y') : Step (x,y) (x',y')

/-- What conflicts with `x` is only probed for, and a message that settles it is under way. -/
def Guarded (x y:Station β) : Prop := ∀r s,x.defends r → conflict r s → ¬y.defends s ∧
  (y.probes s → (∃b,x.sent (.answer b) ∧ conflict b s) ∨ y.sent (.probe s))
def Safe (network:Station β×Station β) : Prop :=
 Guarded conflict network.1 network.2 ∧ Guarded conflict network.2 network.1

variable {conflict} {x x' y y':Station β} {m:Message β}

lemma Guarded.quiet (h:Guarded conflict x y) (hx:x.Quiet) (hy:y.Quiet) {r s:β}
 (hr:x.defends r) (hrs:conflict r s) : ¬y.defends s ∧ ¬y.probes s := by
 refine ⟨(h r s hr hrs).1,fun hs=>?_⟩
 rcases (h r s hr hrs).2 hs with ⟨b,hb,-⟩|hs
 · exact hx _ hb
 · exact hy _ hs

lemma Guarded.moves_left (hsymm:∀a b,conflict a b → conflict b a)
 (h:Guarded conflict x y) (h':Guarded conflict y x) (hx:x.Quiet) (hy:y.Quiet)
 (hmoves:Moves x x') : Guarded conflict x' y := by
 intro r s hr hrs
 rcases hmoves.defends r hr with hr|⟨hr,hsent⟩
 · have hfree:=h.quiet hx hy hr hrs
   exact ⟨hfree.1,fun hs=>absurd hs hfree.2⟩
 · exact ⟨fun hs=>(h'.quiet hy hx hs (hsymm r s hrs)).2 hr,fun _=>.inl ⟨r,hsent,hrs⟩⟩

lemma Guarded.moves_right (h:Guarded conflict y x) (hx:x.Quiet) (hy:y.Quiet)
 (hmoves:Moves x x') : Guarded conflict y x' := by
 intro s r hs hsr
 have hfree:=h.quiet hy hx hs hsr
 refine ⟨fun hr=>?_,fun hr=>?_⟩
 · rcases hmoves.defends r hr with hr|⟨hr,-⟩
   · exact hfree.1 hr
   · exact hfree.2 hr
 · rcases hmoves.probes r hr with hr|hr
   · exact absurd hr hfree.2
   · exact .inr hr

lemma Guarded.deliver (h:Guarded conflict x y) (hloses:Loses m x x')
 (hhears:Hears conflict m y y') : Guarded conflict x' y' := by
 intro r s hr hrs
 obtain ⟨hdef,hguard⟩:=h r s (hloses.defends r hr) hrs
 refine ⟨fun hs=>hdef (hhears.defends s hs).1,fun hs=>?_⟩
 rcases hhears.probes s hs with ⟨hs,hdropped⟩|hs
 · rcases hguard hs with ⟨b,hb,hbs⟩|hsent
   · rcases hloses.sent _ hb with hb|hm
     · exact .inl ⟨b,hb,hbs⟩
     · exact absurd hbs (hdropped b hm.symm)
   · exact .inr (hhears.sent _ hsent)
 · exact .inr hs

lemma Guarded.receive (hrefl:∀b,conflict b b) (h:Guarded conflict y x)
 (hloses:Loses m x x') (hhears:Hears conflict m y y') : Guarded conflict y' x' := by
 intro s r hs hsr
 obtain ⟨hs,hanswered⟩:=hhears.defends s hs
 obtain ⟨hdef,hguard⟩:=h s r hs hsr
 refine ⟨fun hr=>hdef (hloses.defends r hr),fun hr=>?_⟩
 rcases hguard (hloses.probes r hr) with ⟨b,hb,hbr⟩|hsent
 · exact .inl ⟨b,hhears.sent _ hb,hbr⟩
 · rcases hloses.sent _ hsent with hsent|hm
   · exact .inr hsent
   · exact .inl ⟨r,hanswered r hm.symm hsr,hrefl r⟩

lemma Safe.step (hrefl:∀b,conflict b b) (hsymm:∀a b,conflict a b → conflict b a)
 {n n':Station β×Station β} (h:Safe conflict n) (hstep:Step conflict n n') : Safe conflict n' := by
 cases hstep with
 | moveLeft hx hy hmoves=>
  exact ⟨h.1.moves_left hsymm h.2 hx hy hmoves,h.2.moves_right hx hy hmoves⟩
 | moveRight hx hy hmoves=>
  exact ⟨h.1.moves_right hy hx hmoves,h.2.moves_left hsymm h.1 hy hx hmoves⟩
 | toRight m hloses hhears=>
  exact ⟨h.1.deliver hloses hhears,h.2.receive hrefl hloses hhears⟩
 | toLeft m hhears hloses=>
  exact ⟨h.1.receive hrefl hloses hhears,h.2.deliver hloses hhears⟩

end Conflict

end OpenAvnu.ClaimProtocol
