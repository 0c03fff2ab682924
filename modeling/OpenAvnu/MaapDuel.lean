import Mathlib.Data.List.Pairwise
import OpenAvnu.MaapStation

/-! # Two defenders of overlapping blocks -/

namespace OpenAvnu.MaapDuel

open Intervals MaapPacket MaapClient MaapDaemon MaapFrame MaapStore MaapHoldings MaapConflict List
open MaapReaction MaapOverlaps MaapHandle MaapRuns MaapWire

variable {mc mc':Client} {p:Packet} {x:Holding}

def Overlap (x y:Holding) : Prop := x.low≤y.high ∧ y.low≤x.high
def Yielded (mc:Client) (x:Holding) : Prop :=
 Released mc x.ref ∧ ∀e∈mc.ranges.toList,e.2.high<x.low ∨ x.high<e.2.low

variable {y z:Holding} (env:Env) {x:Holding} {a b:Client}

section
variable (h:Consistent .closed mc)
include h

lemma holds_disjoint (hy:Holds mc y) (hz:Holds mc z)
 (hne:z.ref≠y.ref) : z.high<y.low ∨ y.high<z.low := by
 obtain ⟨⟨node,hnode⟩,-⟩:=hy
 obtain ⟨⟨node',hnode'⟩,-⟩:=hz
 have hne':(node',z.block)≠(node,y.block):=by
  intro heq
  have hdata:some z.ref=some y.ref:=congrArg (fun e:Entry Nat=>e.2.data) heq
  exact hne (Option.some.inj hdata)
 have hsymm:Std.Symm fun a b:Entry Nat=>a.2.high<b.2.low ∨ b.2.high<a.2.low:=
  ⟨fun _ _=>Or.symm⟩
 have hpairs:mc.ranges.toList.Pairwise fun a b=>a.2.high<b.2.low ∨ b.2.high<a.2.low:=
  h.ordered.sorted.imp Or.inl
 exact hpairs.forall hnode' hnode hne'

lemma holds_entry {e:Entry Nat} (he:e∈mc.ranges.toList) : ∃z,Holds mc z ∧ z.low=e.2.low ∧ z.high=e.2.high := by
 rcases h.owner _ he with ⟨hhole,-⟩|⟨r,hr,-⟩
 · cases hhole
 · exact ⟨_,holds_of_entry h he hr,rfl,rfl⟩

lemma Resolution.defended (hx:Holds mc x)
 (hstate:x.state=.defending) (hp:p.messageType≠maapProbe)
 (hres:Resolution p mc x mc') :
 (Wins mc p ∧ Holds mc' {x with flagged:=false}) ∨ (¬Wins mc p ∧ Yielded mc' x) := by
 cases hres with
 | keep hwins hwhy heff=>exact .inl ⟨hwins,(heff.holds _).2 (.inr rfl)⟩
 | defend hdef hprobe heff=>exact absurd hprobe hp
 | move y hprobing hlost href hacq heff=>exact absurd (hstate.symm.trans hprobing) (by decide)
 | giveUp hprobing hlost heff hrel=>exact absurd (hstate.symm.trans hprobing) (by decide)
 | yield fresh packets hdef hprobe hlost hfresh heff hrel=>
  refine .inr ⟨hlost,hrel,fun e he=>?_⟩
  obtain ⟨z,hz,hlow,hhigh⟩:=holds_entry heff.consistent he
  rw[←hlow,←hhigh]
  rcases (heff.holds z).1 hz with ⟨hz,hne⟩|rfl
  · exact holds_disjoint h hx hz hne
  · obtain ⟨hnone,-⟩|⟨y,hy,-,-,hacq⟩:=hfresh
    · cases hnone
    · cases hy
      exact (hacq.free x hx).symm

lemma handleOverlaps_defended (hcalm:Calm mc) (hx:Holds mc x)
 (hstate:x.state=.defending) (hp:p.messageType≠maapProbe) (htouch:∀z,Holds mc z →
  (touchesBlock (packetStart mc p) p.requestedCount z=true↔z=x))
 (hlate:(handleOverlaps env mc p).late=false) : (Wins mc p ∧ Holds (handleOverlaps env mc p) x) ∨
  (¬Wins mc p ∧ Yielded (handleOverlaps env mc p) x) := by
 have hflag:Flagged mc (packetStart mc p) p.requestedCount (flagPacket mc p).1
  (flagPacket mc p).2:=flagOverlaps_spec h hcalm (packetStart mc p) p.requestedCount
 have hcleared:{x with flagged:=false}=x:=by rw[←hcalm x hx]
 unfold handleOverlaps at hlate ⊢
 generalize flagPacket mc p=flagged at hflag hlate ⊢
 obtain ⟨mc₁,num⟩:=flagged
 -- the first loop flags `x` alone
 have hxt:=(htouch x hx).2 rfl
 have hflagged:∀z,Holds mc₁ z → z.flagged=true → z = {x with flagged:=true}:=by
  intro z hz hzf
  obtain ⟨hold,heq⟩:=(hflag.holds z).1 hz
  have hzx:{z with flagged:=false}=x:=(htouch _ hold).1 (heq.symm.trans hzf)
  rw[←hzx,←hzf]
 have hx₁:Holds mc₁ {x with flagged:=true}:=by
  refine (hflag.holds _).2 ⟨?_,hxt.symm⟩
  rwa[hcleared]
 obtain ⟨todo,hnodup,hlen,htodo⟩:=hflag.counted
 have hone:num=1:=by
  have hperm:todo.Perm [x.ref]:=by
   refine (perm_ext_iff_of_nodup hnodup (nodup_singleton _)).2 fun r=>?_
   rw[htodo,mem_singleton]
   constructor
   · rintro ⟨z,hz,hzf,rfl⟩
     rw[hflagged z hz hzf]
   · rintro rfl
     exact ⟨_,hx₁,rfl,rfl⟩
  exact hlen.symm.trans hperm.length_eq
 subst hone
 obtain ⟨node,y,hnode,hy,hyf,hfind⟩:=
  findFlagged_spec hflag.consistent (packetStart mc p) p.requestedCount hx₁ rfl hxt
 obtain rfl:=hflagged y hy hyf
 simp only[resolveConflicts,hfind] at hlate ⊢
 have hres:=resolveConflict_spec env p hflag.consistent hnode hy hlate
 have hwins:Wins mc₁ p↔Wins mc p:=by rw[Wins,Wins,hflag.config.srcMac]
 have:=Resolution.defended hflag.consistent hy hstate hp hres
 rw[hwins] at this
 rw[←hcleared]
 exact this

end

/-- Two blocks with all the other blocks of the two clients apart. -/
structure Contested (a b:Client) (x y:Holding) : Prop where
 holdsA:Holds a x
 holdsB:Holds b y
 defendingA:x.state=.defending
 defendingB:y.state=.defending
 overlap:Overlap x y
 only:∀x' y',Holds a x' → Holds b y' → Overlap x' y' → x'=x ∧ y'=y

lemma Contested.symm (h:Contested a b x y) : Contested b a y x :=
 ⟨h.holdsB,h.holdsA,h.defendingB,h.defendingA,⟨h.overlap.2,h.overlap.1⟩,
  fun y' x' hy' hx' hover=>(h.only x' y' hx' hy' ⟨hover.2,hover.1⟩).symm⟩
def announce (mc:Client) (x:Holding) : List UInt8 := packMaap (mc.claimPacket maapAnnounce x.ref)
def hear (env:Env) (bytes:List UInt8) (mc:Client) : Client := (maapHandlePacket env mc bytes).1

lemma hears_announce (ha:Consistent .closed a) (hcalm:Calm a) (hb:Consistent .closed b)
 (hbase:b.addressBase=a.addressBase) (hlen:b.rangeLen=a.rangeLen)
 (hpool:a.addressBase+a.rangeLen≤2^48) (h:Contested a b x y)
 (hlate:(hear env (announce b y) a).late=false) :
 (compareMacAddresses a.srcMac b.srcMac=true ∧ Holds (hear env (announce b y) a) x) ∨
  (compareMacAddresses a.srcMac b.srcMac=false ∧ Yielded (hear env (announce b y) a) x) := by
 have hfitsA:PoolFits a:=⟨hpool,ha.poolSize⟩
 have hfitsB:PoolFits b:=⟨by rw[hbase,hlen];exact hpool,hb.poolSize⟩
 have hbuilt:=built_claimFor b y.low y.high (.inr rfl:maapAnnounce=maapProbe ∨ _)
 have hunpack:unpackMaap (announce b y)=onWire (claimFor b maapAnnounce y.low y.high):=by
  rw[announce,claimPacket_eq hb h.holdsB,unpackMaap_packMaap hbuilt]
 have hnames:Names a (unpackMaap (announce b y)) ⟨y.low,y.high,holds_low_le_high hb h.holdsB⟩
   := by
  rw[hunpack]
  exact (names_claimFor (b:=⟨y.low,y.high,_⟩) hfitsB maapAnnounce
   (holds_in_pool hb h.holdsB) (holds_small hb h.holdsB)).of_same_pool hbase.symm hlen.symm
 have heq:(maapHandlePacket env a (announce b y)).1=
  (handleOverlaps env a (unpackMaap (announce b y))).startTimer:=by
  have hlength:¬(announce b y).length < maapPktSize:=by
   exact lt_irrefl _
  have hrec:recognized (unpackMaap (announce b y))=true:=by
   rw[hunpack]
   exact recognized_onWire hbuilt
  simp[maapHandlePacket,hlength,hrec,hnames.inside hfitsA]
 have hwins:Wins a (unpackMaap (announce b y)) ↔
  compareMacAddresses a.srcMac b.srcMac=true:=by
  rw[hunpack,Wins,compareMacAddresses_onWire]
  rfl
 obtain ⟨timer,htimer⟩:=startTimer_eq (handleOverlaps env a (unpackMaap (announce b y)))
 rw[hear,heq,htimer] at hlate ⊢
 have hduel:=handleOverlaps_defended env ha hcalm h.holdsA h.defendingA
  (by rw[hunpack];exact (by decide:maapAnnounce≠maapProbe)) (fun z hz=>?_) hlate
 · rw[hwins,Bool.not_eq_true] at hduel
   exact hduel
 · rw[hnames.touchesBlock_iff hfitsA]
   exact ⟨fun hover=>(h.only z y hz h.holdsB hover).1,fun hzx=>hzx▸h.overlap⟩

inductive Order where
 | announceAFirst
 | announceBFirst
 deriving DecidableEq

def deliverBoth (order:Order) (hearA hearB:Client → Client) (n:Client×Client) : Client×Client :=
 match order with
 | .announceAFirst=>
  let n:=(n.1,hearB n.2)
  (hearA n.1,n.2)
 | .announceBFirst=>
  let n:=(hearA n.1,n.2)
  (n.1,hearB n.2)

lemma deliverBoth_eq (order:Order) (hearA hearB:Client → Client) (a b:Client) :
 deliverBoth order hearA hearB (a,b)=(hearA a,hearB b) := by
 cases order<;>rfl
def duel (envA envB:Env) (order:Order) (a b:Client) (x y:Holding) : Client×Client :=
 deliverBoth order (hear envA (announce b y)) (hear envB (announce a x)) (a,b)

theorem duel_decisive (envA envB:Env) (order:Order) {a b:Client} {x y:Holding}
 (ha:Consistent .closed a) (hcalmA:Calm a) (hb:Consistent .closed b) (hcalmB:Calm b)
 (hbase:b.addressBase=a.addressBase) (hlen:b.rangeLen=a.rangeLen)
 (hpool:a.addressBase+a.rangeLen≤2^48) (hmac:a.srcMac%2^48≠b.srcMac%2^48)
 (h:Contested a b x y) (hlateA:(duel envA envB order a b x y).1.late=false)
 (hlateB:(duel envA envB order a b x y).2.late=false) :
 if compareMacAddresses a.srcMac b.srcMac then
  Holds (duel envA envB order a b x y).1 x ∧ Yielded (duel envA envB order a b x y).2 y
 else
  Yielded (duel envA envB order a b x y).1 x ∧ Holds (duel envA envB order a b x y).2 y := by
 have hduel:=deliverBoth_eq order (hear envA (announce b y)) (hear envB (announce a x)) a b
 rw[←duel] at hduel
 have hstrict:=compareMacAddresses_strict hmac
 have hpoolB:b.addressBase+b.rangeLen≤2^48:=by rw[hbase,hlen];exact hpool
 have hA:=hears_announce envA ha hcalmA hb hbase hlen hpool h
 have hB:=hears_announce envB hb hcalmB ha hbase.symm hlen.symm hpoolB h.symm
 generalize hear envA (announce b y) a=a' at hduel hA
 generalize hear envB (announce a x) b=b' at hduel hB
 rw[hduel] at hlateA hlateB ⊢
 rcases hA hlateA with ⟨hwin,hx⟩|⟨hlost,hx⟩
 · rw[if_pos hwin]
   rcases hB hlateB with ⟨hwin',-⟩|⟨-,hy⟩
   · rw[hwin,hwin'] at hstrict
     cases hstrict
   · exact ⟨hx,hy⟩
 · rw[hlost]
   rcases hB hlateB with ⟨-,hy⟩|⟨hlost',-⟩
   · exact ⟨hx,hy⟩
   · rw[hlost,hlost'] at hstrict
     cases hstrict

def defender (srcMac addressBase attemptBase:Nat) : Option Client :=
 runCalls steadyEnv [.reserve 0 attemptBase 8,.timer 2,.timer 2,.timer 2,.timer 2]
  (maapInitClient (blank 0x91E0F000FF00 srcMac) 0 addressBase 0xFE00).1
def duelists (addressBase:Nat) : Option (Client×Client) :=
 (defender 0x0200000000AA addressBase addressBase).bind fun a=>
  (defender 0x0200000000BB addressBase (addressBase+4)).map fun b=>(a,b)
def lowerBlock : Holding := ⟨0,.defending,false,0,7⟩
def upperBlock : Holding := ⟨0,.defending,false,4,11⟩

def Squared (addressBase:Nat) (n:Client×Client) : Prop :=
 n.1.addressBase=addressBase ∧ n.2.addressBase=addressBase ∧ n.1.rangeLen=0xFE00 ∧
  n.2.rangeLen=0xFE00 ∧ n.1.srcMac=0x0200000000AA ∧ n.2.srcMac=0x0200000000BB ∧
  n.1.ranges.toList.map Prod.snd=[lowerBlock.block] ∧
  n.2.ranges.toList.map Prod.snd=[upperBlock.block] ∧
  Holds n.1 lowerBlock ∧ Holds n.2 upperBlock

instance (addressBase:Nat) (n:Client×Client) : Decidable (Squared addressBase n) :=
 inferInstanceAs (Decidable (_ ∧ _))

lemma exists_duelists (addressBase:Nat) (test:Client×Client → Bool)
 (hbase:addressBase<2^64) (h:(duelists addressBase).any test=true) :
 ∃n : Client×Client,Reachable steadyEnv n.1 ∧ Reachable steadyEnv n.2 ∧ test n=true := by
 obtain ⟨n,hn,htest⟩:=(Option.any_eq_true test _).1 h
 obtain ⟨a,ha,hrest⟩:=Option.bind_eq_some_iff.1 hn
 obtain ⟨b,hb,rfl⟩:=Option.map_eq_some_iff.1 hrest
 exact ⟨(a,b),runCalls_reachable _ (.init _ _ _ _ _ hbase (by decide)) ha,
  runCalls_reachable _ (.init _ _ _ _ _ hbase (by decide)) hb,htest⟩

lemma holds_single (h:Consistent .closed mc) (hx:Holds mc x)
 (hlist:mc.ranges.toList.map Prod.snd=[x.block]) (hz:Holds mc z) : z=x := by
 obtain ⟨⟨node,hnode⟩,-⟩:=id hz
 have hmem:z.block∈mc.ranges.toList.map Prod.snd:=mem_map.2 ⟨_,hnode,rfl⟩
 rw[hlist,mem_singleton] at hmem
 have hdata:some z.ref=some x.ref:=congrArg Intervals.Interval.data hmem
 exact holds_unique h hz hx (Option.some.inj hdata)

lemma Squared.contested {addressBase:Nat} {n:Client×Client}
 (ha:Consistent .closed n.1) (hb:Consistent .closed n.2) (h:Squared addressBase n) :
 Contested n.1 n.2 lowerBlock upperBlock := by
 obtain ⟨-,-,-,-,-,-,hlistA,hlistB,hx,hy⟩:=h
 exact ⟨hx,hy,rfl,rfl,⟨by decide,by decide⟩,
  fun _ _ hx' hy' _=>⟨holds_single ha hx hlistA hx',holds_single hb hy hlistB hy'⟩⟩

theorem duel_decisive_squared : ∃n : Client×Client,∀order,
  Holds (duel steadyEnv steadyEnv order n.1 n.2 lowerBlock upperBlock).1 lowerBlock ∧
  Yielded (duel steadyEnv steadyEnv order n.1 n.2 lowerBlock upperBlock).2 upperBlock := by
 obtain ⟨n,hna,hnb,htest⟩:=exists_duelists 0x91E0F0000000
  (fun n=>decide (Squared 0x91E0F0000000 n ∧
   (hear steadyEnv (announce n.2 upperBlock) n.1).late=false ∧
   (hear steadyEnv (announce n.1 lowerBlock) n.2).late=false)) (by decide) (by decide +kernel)
 obtain ⟨hsq,hlateA,hlateB⟩:=of_decide_eq_true htest
 obtain ⟨ha,hcalmA⟩:=hna.consistent
 obtain ⟨hb,hcalmB⟩:=hnb.consistent
 have hcontested:=hsq.contested ha hb
 obtain ⟨hbaseA,hbaseB,hlenA,hlenB,hmacA,hmacB,-⟩:=hsq
 refine ⟨n,fun order=>?_⟩
 have hduel:duel steadyEnv steadyEnv order n.1 n.2 lowerBlock upperBlock=_:=
  deliverBoth_eq order _ _ n.1 n.2
 have hres:=duel_decisive steadyEnv steadyEnv order ha hcalmA hb hcalmB
  (by rw[hbaseA,hbaseB]) (by rw[hlenA,hlenB]) (by rw[hbaseA,hlenA];decide)
  (by rw[hmacA,hmacB];decide) hcontested (by rw[hduel];exact hlateA)
  (by rw[hduel];exact hlateB)
 rwa[hmacA,hmacB] at hres

/-- With a pool that starts at `2 ^ 48` both go on defending. -/
theorem duel_undecided : ∃n : Client×Client,Reachable steadyEnv n.1 ∧ Reachable steadyEnv n.2 ∧
  n.2.addressBase=n.1.addressBase ∧ n.2.rangeLen=n.1.rangeLen ∧
  n.1.srcMac%2^48≠n.2.srcMac%2^48 ∧
  Contested n.1 n.2 lowerBlock upperBlock ∧ ∀order,
   Holds (duel steadyEnv steadyEnv order n.1 n.2 lowerBlock upperBlock).1 lowerBlock ∧
   Holds (duel steadyEnv steadyEnv order n.1 n.2 lowerBlock upperBlock).2 upperBlock := by
 obtain ⟨n,hna,hnb,htest⟩:=exists_duelists (2^48)
  (fun n=>decide (Squared (2^48) n ∧
   Holds (hear steadyEnv (announce n.2 upperBlock) n.1) lowerBlock ∧
   Holds (hear steadyEnv (announce n.1 lowerBlock) n.2) upperBlock)) (by decide)
  (by decide +kernel)
 obtain ⟨hsq,hx,hy⟩:=of_decide_eq_true htest
 have hcontested:=hsq.contested hna.consistent.1 hnb.consistent.1
 obtain ⟨hbaseA,hbaseB,hlenA,hlenB,hmacA,hmacB,-⟩:=hsq
 refine ⟨n,hna,hnb,by rw[hbaseA,hbaseB],by rw[hlenA,hlenB],
  by rw[hmacA,hmacB];decide,hcontested,fun order=>?_⟩
 have hduel:duel steadyEnv steadyEnv order n.1 n.2 lowerBlock upperBlock=_:=
  deliverBoth_eq order _ _ n.1 n.2
 rw[hduel]
 exact ⟨hx,hy⟩

end OpenAvnu.MaapDuel
