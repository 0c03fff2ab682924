import OpenAvnu.TalkerTx

/-!
# Accounts of the ring socket

`ring_rawsock.c` with one buffer at a time in the client's hands, and any `errno` left behind.
-/

namespace OpenAvnu.RingSocket

open Runs List TalkerTx

variable (sock:Socket)

def ringRawsockRelTxFrame (r:Rawsock) : Rawsock := {r with buffersOut:=r.buffersOut-1}

/-- `busy` is a call that does not block and finds the next buffer with the kernel. -/
inductive Call where
 | getTxFrame (busy:Bool)
 | txFrameReady (eintr:Bool)
 | relTxFrame
 | send (eintr:Bool)

/-- `held` is the client's buffer, `handed` has all the buffers it was given. -/
structure Session where
 rawsock:Rawsock
 held:Option Nat
 handed:List Nat

def ringRawsockOpen : Session := ⟨⟨0,0,0,0,0⟩,none,[]⟩

def step (call:Call) (s:Session) : Session :=
 match call, s.held with
 | .getTxFrame false, none=>
  let got:=ringRawsockGetTxFrame sock s.rawsock
  ⟨got.1,got.2,s.handed++got.2.toList⟩
 | .txFrameReady eintr, some _=>
  {s with rawsock:=ringRawsockTxFrameReady sock eintr s.rawsock,held:=none}
 | .relTxFrame, some _=>{s with rawsock:=ringRawsockRelTxFrame s.rawsock,held:=none}
 | .send eintr, _=>{s with rawsock:=ringRawsockSend eintr s.rawsock}
 | _, _=>s

structure Accounts (s:Session) : Prop where
 cyclic:s.handed=(range s.handed.length).map (·%sock.frameCount)
 index:s.rawsock.blockIndex*(sock.frameCount/sock.blockCount)+s.rawsock.bufferIndex=
  s.handed.length%sock.frameCount
 buffer:s.rawsock.bufferIndex<sock.frameCount/sock.blockCount
 block:s.rawsock.blockIndex<sock.blockCount
 out:s.rawsock.buffersOut=s.rawsock.buffersReady+s.held.toList.length
 bounded:s.rawsock.buffersOut ≤ sock.frameCount

variable {sock} {s:Session}

lemma advance {b p i j:Nat} (hi:i<b) (hj:j<p) :
 (if j+1 ≥ p then (if i+1 ≥ b then 0 else i+1) else i)*p+(if j+1 ≥ p then 0 else j+1)=(i*p+j+1)%(b*p) := by
 have hrow:(i+1)*p≤b*p:=Nat.mul_le_mul_right p hi
 rw[Nat.add_one_mul] at hrow
 split_ifs with hwraps hlast
 · have hend:i*p+j+1=b*p:=by
    rw[show b=i+1 by omega,Nat.add_one_mul]
    omega
   rw[hend,Nat.mod_self,Nat.zero_mul]
 · have hmore:(i+2)*p≤b*p:=Nat.mul_le_mul_right p (by omega)
   rw[Nat.add_mul] at hmore
   rw[Nat.mod_eq_of_lt (by omega),Nat.add_one_mul]
   omega
 · rw[Nat.mod_eq_of_lt (by omega),Nat.add_assoc]

lemma Accounts.get (h:Accounts sock s) (hdiv:sock.blockCount ∣ sock.frameCount)
 (hheld:s.held=none) : Accounts sock (step sock (.getTxFrame false) s) := by
 obtain ⟨r,held,handed⟩:=s
 subst hheld
 unfold step ringRawsockGetTxFrame
 by_cases hfull:r.buffersOut ≥ sock.frameCount
 · simp only[if_pos hfull,Option.toList_none,append_nil]
   exact h
 simp only[if_neg hfull,Option.toList_some]
 refine ⟨?_,?_,?_,?_,?_,Nat.lt_of_not_le hfull⟩
 · rw[length_append,length_singleton,range_succ,map_append,map_singleton,←h.cyclic,←h.index]
 · have hnext:=advance h.block h.buffer
   rw[Nat.mul_div_cancel' hdiv,h.index,Nat.mod_add_mod] at hnext
   rw[length_append,length_singleton]
   exact hnext
 · have hbuffer:=h.buffer
   dsimp only at hbuffer ⊢
   split_ifs<;>omega
 · have hblock:=h.block
   dsimp only at hblock ⊢
   split_ifs<;>omega
 · have hout:=h.out
   simpa using hout

lemma Accounts.send (h:Accounts sock s) (eintr:Bool) :
 Accounts sock {s with rawsock:=ringRawsockSend eintr s.rawsock} := by
 cases eintr with
 | true=>exact h
 | false=>
  have hout:=h.out
  have hbounded:=h.bounded
  refine ⟨h.cyclic,h.index,h.buffer,h.block,?_,?_⟩ <;>
   simp only[ringRawsockSend,Bool.false_eq_true,if_false]<;>omega

lemma Accounts.step (h:Accounts sock s) (hdiv:sock.blockCount ∣ sock.frameCount)
 (call:Call) : Accounts sock (step sock call s) := by
 obtain ⟨r,held,handed⟩:=s
 have hout:=h.out
 have hbounded:=h.bounded
 rcases call with busy|eintr|_|eintr
 · cases busy<;>cases held
   · exact h.get hdiv rfl
   all_goals exact h
 · cases held with
   | none=>exact h
   | some buffer=>
    have hready:Accounts sock ⟨{r with buffersReady:=r.buffersReady+1},none,handed⟩:=
     ⟨h.cyclic,h.index,h.buffer,h.block,hout,hbounded⟩
    simp only[RingSocket.step,ringRawsockTxFrameReady]
    split_ifs
    · exact hready.send eintr
    · exact hready
 · cases held with
   | none=>exact h
   | some buffer=>
    refine ⟨h.cyclic,h.index,h.buffer,h.block,?_,Nat.le_trans (Nat.sub_le _ 1) hbounded⟩
    exact Nat.sub_eq_of_eq_add hout
 · exact h.send eintr

lemma opened_accounts (hdiv:sock.blockCount ∣ sock.frameCount) : Accounts sock ringRawsockOpen := by
 have hblocks:0<sock.blockCount:=Nat.pos_of_dvd_of_pos hdiv sock.frameCount_pos
 refine ⟨rfl,?_,Nat.div_pos (Nat.le_of_dvd sock.frameCount_pos hdiv) hblocks,hblocks,rfl,Nat.zero_le _⟩
 simp[ringRawsockOpen]

/-- A send with no buffer held empties the accounts exactly when `errno` is not `EINTR`, or nothing
is waiting. -/
theorem ring_accounting (sock:Socket) (calls:List Call) (eintr:Bool)
 (hdiv:sock.blockCount ∣ sock.frameCount) :
 let s:=run (step sock) calls ringRawsockOpen
 let sent:=(step sock (.send eintr) s).rawsock
 s.handed=(range s.handed.length).map (·%sock.frameCount) ∧
 s.rawsock.blockIndex<sock.blockCount ∧
 s.rawsock.bufferIndex<sock.frameCount/sock.blockCount ∧
 s.rawsock.buffersReady ≤ s.rawsock.buffersOut ∧ s.rawsock.buffersOut ≤ sock.frameCount ∧
 (s.held=none → (sent.buffersOut=0 ∧ sent.buffersReady=0 ↔
  eintr=false ∨ s.rawsock.buffersReady=0)) := by
 intro s sent
 have h:Accounts sock s:=
  run_invariant (P:=Accounts sock) (fun call _ h=>h.step hdiv call) calls
   (opened_accounts hdiv)
 have hout:=h.out
 refine ⟨h.cyclic,h.block,h.buffer,by omega,h.bounded,fun hheld=>?_⟩
 have hall:s.rawsock.buffersOut=s.rawsock.buffersReady:=by simpa[hheld] using hout
 cases eintr with
 | true=>
  have hsame:sent=s.rawsock:=rfl
  rw[hsame,hall,and_self]
  simp
 | false=>
  have hempty:sent=ringRawsockSend false s.rawsock:=rfl
  simp[hempty,ringRawsockSend,hall]

theorem ring_accounting_two : 2 ∣ 4 ∧
 let s:=run (step ⟨.ring,4,2,by decide⟩) [.getTxFrame false,.txFrameReady true] ringRawsockOpen
 s.handed=(range s.handed.length).map (·%4) :=
 ⟨by decide,(ring_accounting ⟨.ring,4,2,by decide⟩ [.getTxFrame false,.txFrameReady true] true
  (by decide)).1⟩

theorem stale_errno_keeps_buffers :
 (run (step ⟨.ring,4,2,by decide⟩) [.getTxFrame false,.txFrameReady true,.send true]
  ringRawsockOpen).rawsock=⟨1,1,1,0,0⟩ := by
 decide

end OpenAvnu.RingSocket
