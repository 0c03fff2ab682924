import OpenAvnu.AcmpListener
import OpenAvnu.AcmpTalker

/-! # The loops of the ACMP state machines -/

namespace OpenAvnu.AcmpLoops

open Acmp List

section Listener

open AcmpListener

inductive Busy where
 | connectRxCommand (m:CommandResponse)
 | connectTxResponse (m:CommandResponse)
 | getState (m:CommandResponse)
 | disconnectRxCommand (m:CommandResponse)
 | disconnectTxResponse (m:CommandResponse)
 | connectTxTimeout (active:Option InflightCommand)
 | disconnectTxTimeout (active:Option InflightCommand)

/-- One turn of the loop; without a state it waits. -/
def turn (cfg:Config) (env:Env) : Option Busy×State → Option Busy×State
 | (none,s)=>(none,s)
 | (some (.connectRxCommand m),s)=>(none,connectRxCommandState m env s)
 | (some (.connectTxResponse m),s)=>(none,connectTxResponseState cfg m env s)
 | (some (.getState m),s)=>(none,getStateState m s)
 | (some (.disconnectRxCommand m),s)=>(none,disconnectRxCommandState cfg m env s)
 | (some (.disconnectTxResponse m),s)=>
  if validListenerUnique m.listenerUniqueId s then (none,disconnectTxResponseState m s)
  else (some (.disconnectTxResponse m),s)
 | (some (.connectTxTimeout active),s)=>
  (none,active.elim s fun f=>connectTxTimeoutState f env s)
 | (some (.disconnectTxTimeout active),s)=>
  (none,active.elim s fun f=>disconnectTxTimeoutState f env s)

variable (cfg:Config) (env:Env) {m:CommandResponse} {s:State}

lemma iterate_turn_spins (h:validListenerUnique m.listenerUniqueId s=false) (n:Nat) :
 (turn cfg env)^[n] (some (.disconnectTxResponse m),s)=(some (.disconnectTxResponse m),s) :=
 Function.iterate_fixed (by simp[turn,h]) n

lemma waits_again_iff (busy:Busy) (s:State) : (∃n,((turn cfg env)^[n] (some busy,s)).1.isNone) ↔
  ∀m,busy=.disconnectTxResponse m → validListenerUnique m.listenerUniqueId s := by
 constructor
 · rintro ⟨n,hn⟩ m rfl
   by_contra hinvalid
   rw[iterate_turn_spins cfg env (Bool.eq_false_of_not_eq_true hinvalid)] at hn
   cases hn
 · intro h
   refine ⟨1,?_⟩
   cases busy with
   | disconnectTxResponse m=>simp[turn,h m rfl]
   | _=>rfl

end Listener

section Talker

open AcmpTalker

variable {stream:Nat} {s:State}

def updateLoop (stream:Nat) (s:State) : Nat → Nat → Option State
 | 0, _=>none
 | fuel+1, i=>
  if i<s.talkerStreamInfos.length then
   if awaits stream s i then
    if (s.streams stream).destValid then some (openavbAcmpSMTalkerUpdateStreamInfo stream s)
    else updateLoop stream s fuel i
   else updateLoop stream s fuel (i+1)
  else some s

lemma updateLoop_returns (h:(s.streams stream).destValid ∨
  ∀i<s.talkerStreamInfos.length,awaits stream s i=false) {fuel i:Nat}
 (hfuel:s.talkerStreamInfos.length<fuel+i) (hle:i ≤ s.talkerStreamInfos.length)
 (hi:∀j < i,awaits stream s j=false) :
 updateLoop stream s fuel i=some (openavbAcmpSMTalkerUpdateStreamInfo stream s) := by
 induction fuel generalizing i with
 | zero=>omega
 | succ fuel ih=>
  rw[updateLoop]
  split_ifs with hlt hawaits hvalid
  · rfl
  · rw[h.resolve_left hvalid i hlt] at hawaits
    cases hawaits
  · refine ih (by omega) hlt fun j hj=>?_
    rcases Nat.lt_succ_iff_lt_or_eq.1 hj with hj|rfl
    · exact hi j hj
    · exact Bool.eq_false_of_not_eq_true hawaits
  · have hnone:(range s.talkerStreamInfos.length).find? (awaits stream s)=none:=by
     simp only[find?_eq_none,mem_range]
     intro j hj
     simp[hi j (by omega)]
    rw[openavbAcmpSMTalkerUpdateStreamInfo,hnone]

lemma updateLoop_spins {k:Nat} (hlt:k<s.talkerStreamInfos.length)
 (hk:awaits stream s k=true) (hvalid:(s.streams stream).destValid=false) {fuel i:Nat}
 (hi:i≤k) : updateLoop stream s fuel i=none := by
 induction fuel generalizing i with
 | zero=>rfl
 | succ fuel ih=>
  rw[updateLoop,if_pos (by omega)]
  split_ifs with hawaits hdest
  · rw[hvalid] at hdest
    cases hdest
  · exact ih hi
  · refine ih (Nat.lt_of_le_of_ne hi ?_)
    rintro rfl
    exact hawaits hk

lemma update_returns_iff (stream:Nat) (s:State) :
 (∃fuel,updateLoop stream s fuel 0=some (openavbAcmpSMTalkerUpdateStreamInfo stream s)) ↔
  (s.streams stream).destValid ∨ ∀i<s.talkerStreamInfos.length,awaits stream s i=false := by
 refine ⟨fun ⟨fuel,hfuel⟩=>?_,fun h=>⟨_,updateLoop_returns h (Nat.lt_succ_self _) (Nat.zero_le _) nofun⟩⟩
 by_contra hnot
 obtain ⟨hvalid,k,hlt,hk⟩:=by simpa only[not_or,not_forall] using hnot
 rw[updateLoop_spins hlt (by simpa using hk) (by simpa using hvalid) (Nat.zero_le k)] at hfuel
 cases hfuel

end Talker

/-- But for a DISCONNECT_TX_RESPONSE to an unknown listener, and an invalid destination that is
waited for. -/
theorem loops_end_iff (cfg:AcmpListener.Config) (env:AcmpListener.Env) (busy:Busy)
 (s:AcmpListener.State) (stream:Nat) (t:AcmpTalker.State) : ((∃n,((turn cfg env)^[n] (some busy,s)).1.isNone) ↔
  ∀m,busy=.disconnectTxResponse m →
   AcmpListener.validListenerUnique m.listenerUniqueId s) ∧
 ((∃fuel,updateLoop stream t fuel 0=some (AcmpTalker.openavbAcmpSMTalkerUpdateStreamInfo stream t)) ↔
  (t.streams stream).destValid ∨
   ∀i<t.talkerStreamInfos.length,AcmpTalker.awaits stream t i=false) :=
 ⟨waits_again_iff cfg env busy s,update_returns_iff stream t⟩

theorem unknown_listener_spins : ¬∃n,((turn ⟨0,false⟩ ⟨0,0,true,true,true,true⟩)^[n]
  (some (.disconnectTxResponse ⟨3,0,0,0,0,0,0,0,0,0,0,0,0⟩),.initial [])).1.isNone := by
 rintro ⟨n,hn⟩
 rw[iterate_turn_spins _ _ rfl] at hn
 cases hn

end OpenAvnu.AcmpLoops
