import OpenAvnu.MaapStation

/-!
# Two stations on one network

Two clients that share a pool implement the claim protocol.
-/

namespace OpenAvnu.MaapNetwork

open ClaimProtocol MaapClient MaapDaemon MaapHoldings MaapHandle MaapCommands MaapRuns MaapWire
open MaapStation

variable {mc mc':Client}

/-- Packets arrive in any order; commands and timers run when none is in flight. -/
inductive NetworkStep (envA envB:Env) : Client×Client → Client×Client → Prop
 | callA {a a' b:Client} (c:Call) (ha:a.queued=[]) (hb:b.queued=[])
  (h:c.run envA a=some a') : NetworkStep envA envB (a,b) (a',b)
 | callB {a b b':Client} (c:Call) (ha:a.queued=[]) (hb:b.queued=[])
  (h:c.run envB b=some b') : NetworkStep envA envB (a,b) (a,b')
 | toB {a b:Client} (bytes:List UInt8) (hmem:bytes∈a.queued) :
  NetworkStep envA envB (a,b) (taken a bytes,(maapHandlePacket envB b bytes).1)
 | toA {a b:Client} (bytes:List UInt8) (hmem:bytes∈b.queued) :
  NetworkStep envA envB (a,b) ((maapHandlePacket envA a bytes).1,taken b bytes)

inductive NetworkReachable (envA envB:Env) (addressBase rangeLen:Nat) : Client×Client → Prop
 | init (destMac srcA srcB senderA senderB:Nat) (hmac:srcA%2^48≠srcB%2^48)
  (hbase:addressBase<2^64) (hlen:rangeLen<2^32) : NetworkReachable envA envB addressBase rangeLen
   ((maapInitClient (blank destMac srcA) senderA addressBase rangeLen).1,
    (maapInitClient (blank destMac srcB) senderB addressBase rangeLen).1)
 | step {n n':Client×Client} (hrun:NetworkReachable envA envB addressBase rangeLen n)
  (hstep:NetworkStep envA envB n n') (hlateA:n'.1.late=false)
  (hlateB:n'.2.late=false) : NetworkReachable envA envB addressBase rangeLen n'

inductive Action where
 | callA (c:Call)
 | callB (c:Call)
 | toB
 | toA

def perform (envA envB:Env) (n:Client×Client) : Action → Option (Client×Client)
 | .callA c=>
  if n.1.queued=[] ∧ n.2.queued=[] then (c.run envA n.1).map fun a=>(a,n.2) else none
 | .callB c=>
  if n.1.queued=[] ∧ n.2.queued=[] then (c.run envB n.2).map fun b=>(n.1,b) else none
 | .toB=>n.1.queued.head?.map fun bytes=>
  (taken n.1 bytes,(maapHandlePacket envB n.2 bytes).1)
 | .toA=>n.2.queued.head?.map fun bytes=>
  ((maapHandlePacket envA n.1 bytes).1,taken n.2 bytes)

variable {n n':Client×Client} {envA envB:Env}

lemma perform_step {action:Action} (h:perform envA envB n action=some n') : NetworkStep envA envB n n' := by
 cases action with
 | callA c=>
  simp only[perform,Option.ite_none_right_eq_some,Option.map_eq_some_iff] at h
  obtain ⟨⟨ha,hb⟩,a,hrun,rfl⟩:=h
  exact .callA c ha hb hrun
 | callB c=>
  simp only[perform,Option.ite_none_right_eq_some,Option.map_eq_some_iff] at h
  obtain ⟨⟨ha,hb⟩,b,hrun,rfl⟩:=h
  exact .callB c ha hb hrun
 | toB=>
  obtain ⟨bytes,hhead,rfl⟩:=Option.map_eq_some_iff.1 h
  exact .toB bytes (List.mem_of_mem_head? hhead)
 | toA=>
  obtain ⟨bytes,hhead,rfl⟩:=Option.map_eq_some_iff.1 h
  exact .toA bytes (List.mem_of_mem_head? hhead)

def performAll (envA envB:Env) : List Action → Client×Client → Option (Client×Client)
 | [], n=>some n
 | action::actions, n=>do
  let n' ← perform envA envB n action
  if n'.1.late ∨ n'.2.late then none else performAll envA envB actions n'

variable {addressBase rangeLen:Nat} (actions:List Action) {address:Nat}

lemma performAll_reachable (hrun:NetworkReachable envA envB addressBase rangeLen n)
 (h:performAll envA envB actions n=some n') : NetworkReachable envA envB addressBase rangeLen n' := by
 induction actions generalizing n with
 | nil=>exact Option.some.inj h▸hrun
 | cons action actions ih=>
  obtain ⟨n₁,hstep,hrest⟩:=Option.bind_eq_some_iff.1 h
  split_ifs at hrest with hlate
  rw[not_or,Bool.not_eq_true,Bool.not_eq_true] at hlate
  exact ih (.step hrun (perform_step hstep) hlate.1 hlate.2) hrest

structure Paired (addressBase rangeLen:Nat) (n:Client×Client) : Prop where
 readyA:Ready n.1
 readyB:Ready n.2
 baseA:n.1.addressBase=addressBase
 baseB:n.2.addressBase=addressBase
 lenA:n.1.rangeLen=rangeLen
 lenB:n.2.rangeLen=rangeLen

lemma NetworkStep.simulates (h:Paired addressBase rangeLen n)
 (hstep:NetworkStep envA envB n n') (hlateA:n'.1.late=false) (hlateB:n'.2.late=false) :
 Paired addressBase rangeLen n' ∧
  ClaimProtocol.Step Block.Overlaps (station n.1,station n.2) (station n'.1,station n'.2) := by
 obtain ⟨hreadyA,hreadyB,hbaseA,hbaseB,hlenA,hlenB⟩:=h
 cases hstep with
 | callA c ha hb hcall=>
  have hadv:=Call.advances hcall hlateA hreadyA.consistent hreadyA.calm
  exact ⟨⟨Advances.ready hreadyA hadv,hreadyB,hadv.config.addressBase.trans hbaseA,hbaseB,
   hadv.config.rangeLen.trans hlenA,hlenB⟩,
   .moveLeft (station_quiet ha) (station_quiet hb) (Advances.moves hreadyA hadv)⟩
 | callB c ha hb hcall=>
  have hadv:=Call.advances hcall hlateB hreadyB.consistent hreadyB.calm
  exact ⟨⟨hreadyA,Advances.ready hreadyB hadv,hbaseA,hadv.config.addressBase.trans hbaseB,
   hlenA,hadv.config.rangeLen.trans hlenB⟩,
   .moveRight (station_quiet ha) (station_quiet hb) (Advances.moves hreadyB hadv)⟩
 | toB bytes hmem=>
  obtain ⟨m,hm⟩:=hreadyA.packets bytes hmem
  have hm':=hm.of_same_pool (hbaseB.trans hbaseA.symm) (hlenB.trans hlenA.symm)
  have hreact:=maapHandlePacket_reacts envB hreadyB hm' hlateB
  exact ⟨⟨taken_ready hreadyA bytes,Reacts.ready hreadyB hm' hreact,hbaseA,
   hreact.config.addressBase.trans hbaseB,hlenA,hreact.config.rangeLen.trans hlenB⟩,
   .toRight m (taken_loses hm) (Reacts.hears hreadyB hm' hreact)⟩
 | toA bytes hmem=>
  obtain ⟨m,hm⟩:=hreadyB.packets bytes hmem
  have hm':=hm.of_same_pool (hbaseA.trans hbaseB.symm) (hlenA.trans hlenB.symm)
  have hreact:=maapHandlePacket_reacts envA hreadyA hm' hlateA
  exact ⟨⟨Reacts.ready hreadyA hm' hreact,taken_ready hreadyB bytes,
   hreact.config.addressBase.trans hbaseA,hbaseB,hreact.config.rangeLen.trans hlenA,hlenB⟩,
   .toLeft m (Reacts.hears hreadyA hm' hreact) (taken_loses hm)⟩

lemma ready_init (destMac srcMac sender:Nat) (hpool:addressBase+rangeLen≤2^48)
 (hlen:rangeLen<2^32) : Ready (maapInitClient (blank destMac srcMac) sender addressBase rangeLen).1 := by
 obtain ⟨hcons,hcalm⟩:=consistent_of_empty
  (maapInitClient (blank destMac srcMac) sender addressBase rangeLen).1
  rfl rfl (fun _=>rfl) hlen
 exact ⟨hcons,hcalm,⟨hpool,hlen⟩,by rintro bytes ⟨⟩⟩

lemma NetworkReachable.safe {n:Client×Client} (hpool:addressBase+rangeLen≤2^48)
 (h:NetworkReachable envA envB addressBase rangeLen n) :
 Paired addressBase rangeLen n ∧ Safe Block.Overlaps (station n.1,station n.2) := by
 induction h with
 | init destMac srcA srcB senderA senderB hmac hbase hlen=>
  have hempty:∀srcMac sender r,¬(station (maapInitClient (blank destMac srcMac) sender
   addressBase rangeLen).1).defends r:=by
   rintro srcMac sender r ⟨z,⟨⟨node,hmem⟩,-⟩,-⟩
   cases hmem
  exact ⟨⟨ready_init destMac srcA senderA hpool hlen,ready_init destMac srcB senderB hpool hlen,rfl,rfl,rfl,rfl⟩,
   fun r s hr=>absurd hr (hempty _ _ r),fun r s hr=>absurd hr (hempty _ _ r)⟩
 | step hrun hstep hlateA hlateB ih=>
  obtain ⟨hpaired,hsim⟩:=hstep.simulates ih.1 hlateA hlateB
  exact ⟨hpaired,ih.2.step Block.overlaps_refl Block.overlaps_symm hsim⟩

def Covers (mc:Client) (state:MaapState) (address:Nat) : Prop :=
 ∃z,Holds mc z ∧ z.state=state ∧ mc.addressBase+z.low≤address ∧
  address ≤ mc.addressBase+z.high
lemma Covers.block {state:MaapState} (h:Covers mc state address) :
 ∃b,HoldsBlock mc state b ∧ mc.addressBase+b.low≤address ∧
  address ≤ mc.addressBase+b.high := by
 obtain ⟨z,hz,hst,hlow,hhigh⟩:=h
 exact ⟨⟨z.low,z.high,by omega⟩,⟨z,hz,hst,rfl,rfl⟩,hlow,hhigh⟩

lemma not_covers_of_guarded {a b:Client} (hbase:b.addressBase=a.addressBase)
 (ha:a.queued=[]) (hb:b.queued=[]) (h:Guarded Block.Overlaps (station a) (station b))
 (hcovers:Covers a .defending address) : ¬Covers b .defending address ∧ ¬Covers b .probing address := by
 obtain ⟨r,hr,hlow,hhigh⟩:=hcovers.block
 have hfree:∀s:Block,b.addressBase+s.low≤address → address≤b.addressBase+s.high →
  ¬HoldsBlock b .defending s ∧ ¬HoldsBlock b .probing s:=by
  intro s hslow hshigh
  have hover:r.Overlaps s:=⟨by omega,by omega⟩
  exact h.quiet (station_quiet ha) (station_quiet hb) hr hover
 constructor
 · intro hc
   obtain ⟨s,hs,hslow,hshigh⟩:=hc.block
   exact (hfree s hslow hshigh).1 hs
 · intro hc
   obtain ⟨s,hs,hslow,hshigh⟩:=hc.block
   exact (hfree s hslow hshigh).2 hs

theorem defended_addresses_unique {envA envB:Env} {addressBase rangeLen:Nat}
 {n:Client×Client} (hpool:addressBase+rangeLen≤2^48)
 (h:NetworkReachable envA envB addressBase rangeLen n) (ha:n.1.queued=[])
 (hb:n.2.queued=[]) (address:Nat) : (Covers n.1 .defending address →
  ¬Covers n.2 .defending address ∧ ¬Covers n.2 .probing address) ∧
 (Covers n.2 .defending address →
  ¬Covers n.1 .defending address ∧ ¬Covers n.1 .probing address) := by
 obtain ⟨hpaired,hsafe⟩:=NetworkReachable.safe hpool h
 have hbase:n.2.addressBase=n.1.addressBase:=hpaired.baseB.trans hpaired.baseA.symm
 exact ⟨not_covers_of_guarded hbase ha hb hsafe.1,not_covers_of_guarded hbase.symm hb ha hsafe.2⟩

def acquireA (attemptBase:Nat) : List Action :=
 [.callA (.reserve 0 attemptBase 8),.toB,.callA (.timer 2),.toB,.callA (.timer 2),.toB,
  .callA (.timer 2),.toB,.callA (.timer 2),.toB]
def initialPair (addressBase rangeLen:Nat) : Client×Client :=
 ((maapInitClient (blank 0x91E0F000FF00 0x0200000000AA) 0 addressBase rangeLen).1,
  (maapInitClient (blank 0x91E0F000FF00 0x0200000000BB) 0 addressBase rangeLen).1)

lemma exists_reachable (test:Client×Client → Bool) (hbase:addressBase<2^64)
 (hlen:rangeLen<2^32)
 (h:(performAll steadyEnv steadyEnv actions (initialPair addressBase rangeLen)).any test=
  true) : ∃n,NetworkReachable steadyEnv steadyEnv addressBase rangeLen n ∧ test n=true := by
 obtain ⟨n,hn,htest⟩:=(Option.any_eq_true test _).1 h
 exact ⟨n,performAll_reachable actions (.init _ _ _ _ _ (by decide) hbase hlen) hn,htest⟩

theorem defended_addresses_unique_acquired : ∃n : Client×Client,Covers n.1 .defending 0x91E0F0000010 ∧
  ¬Covers n.2 .defending 0x91E0F0000010 ∧ ¬Covers n.2 .probing 0x91E0F0000010 := by
 obtain ⟨n,hn,htest⟩:=exists_reachable (acquireA 0x91E0F0000010)
  (fun n=>decide (n.1.queued=[] ∧ n.2.queued=[] ∧ n.1.addressBase=0x91E0F0000000 ∧
   Holds n.1 ⟨0,.defending,false,16,23⟩))
  (show 0x91E0F0000000<2^64 by decide) (show 0xFE00<2^32 by decide) (by decide +kernel)
 obtain ⟨ha,hb,hbase,hx⟩:=of_decide_eq_true htest
 have hcovers:Covers n.1 .defending 0x91E0F0000010:=
  ⟨_,hx,rfl,by rw[hbase];decide,by rw[hbase];decide⟩
 exact ⟨n,hcovers,(defended_addresses_unique (by decide) hn ha hb _).1 hcovers⟩

/-- A pool at `2 ^ 48`: packets lose the top bit, so peers take them for another pool's. -/
theorem defended_address_probed_by_peer :
 ∃n,NetworkReachable steadyEnv steadyEnv (2^48) 0xFE00 n ∧ n.1.queued=[] ∧
  n.2.queued=[] ∧ Covers n.1 .defending (2^48) ∧ Covers n.2 .probing (2^48) := by
 obtain ⟨n,hn,htest⟩:=exists_reachable
  (acquireA (2^48)++[.callB (.reserve 0 (2^48) 8),.toA])
  (fun n=>decide (n.1.queued=[] ∧ n.2.queued=[] ∧ n.1.addressBase=2^48 ∧
   n.2.addressBase=2^48 ∧ Holds n.1 ⟨0,.defending,false,0,7⟩ ∧
   Holds n.2 ⟨0,.probing,false,0,7⟩))
  (show 2^48<2^64 by decide) (show 0xFE00<2^32 by decide) (by decide +kernel)
 obtain ⟨ha,hb,hbaseA,hbaseB,hx,hy⟩:=of_decide_eq_true htest
 exact ⟨n,hn,ha,hb,⟨_,hx,rfl,by rw[hbaseA];decide,by rw[hbaseA];decide⟩,
  ⟨_,hy,rfl,by rw[hbaseB];decide,by rw[hbaseB];decide⟩⟩

end OpenAvnu.MaapNetwork
