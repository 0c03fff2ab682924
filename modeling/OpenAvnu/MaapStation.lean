import OpenAvnu.ClaimProtocol
import OpenAvnu.MaapRuns

/-!
# What stations tell each other

Within the 48-bit address space a peer reads the block that a packet was sent for.
-/

namespace OpenAvnu

open List

open Intervals IntervalOrder ClaimProtocol MaapPacket MaapClient MaapDaemon MaapFrame MaapHoldings

namespace MaapWire

open MaapReaction MaapOverlaps MaapHandle MaapCommands

variable {mc mc':Client} {p:Packet}

@[ext] structure Block where
 low:Nat
 high:Nat
 proper:low≤high

def Block.Overlaps (a b:Block) : Prop := a.low≤b.high ∧ b.low≤a.high
lemma Block.overlaps_refl (a:Block) : a.Overlaps a := ⟨a.proper,a.proper⟩
lemma Block.overlaps_symm (a b:Block) (h:a.Overlaps b) : b.Overlaps a := ⟨h.2,h.1⟩

structure PoolFits (mc:Client) : Prop where
 addresses:mc.addressBase+mc.rangeLen≤2^48
 size:mc.rangeLen<2^32

lemma PoolFits.config (h:PoolFits mc) (hconfig:SameConfig mc mc') : PoolFits mc' := by
 constructor
 · rw[hconfig.addressBase,hconfig.rangeLen]
   exact h.addresses
 · rw[hconfig.rangeLen]
   exact h.size

structure Names (mc:Client) (p:Packet) (b:Block) : Prop where
 start:p.requestedStartAddress=mc.addressBase+b.low
 count:b.low+p.requestedCount=b.high+1
 fits:b.high < mc.rangeLen
 small:p.requestedCount<2^16

lemma Names.unique {b b':Block} (h:Names mc p b) (h':Names mc p b') : b=b' := by
 have hlow:b.low=b'.low:=by
  have:=h.start.symm.trans h'.start
  omega
 have hhigh:b.high=b'.high:=by
  have:=h.count
  have:=h'.count
  omega
 exact Block.ext hlow hhigh

variable {b:Block}

lemma Names.of_same_pool (h:Names mc p b) (hbase:mc'.addressBase=mc.addressBase)
 (hlen:mc'.rangeLen=mc.rangeLen) : Names mc' p b :=
 ⟨by rw[hbase,h.start],h.count,by rw[hlen];exact h.fits,h.small⟩

section
variable (hpool:PoolFits mc) (h:Names mc p b)
include hpool h

lemma Names.inside : outsidePool mc p=false := by
 obtain ⟨haddr,hsize⟩:=hpool
 obtain ⟨hstart,hcount,hfits,hsmall⟩:=h
 have hproper:=b.proper
 simp only[outsidePool,hstart,Bool.or_eq_false_iff,decide_eq_false_iff_not,uint64]
 omega

lemma Names.packetStart_eq : packetStart mc p=b.low := by
 obtain ⟨haddr,hsize⟩:=hpool
 have hfits:=h.fits
 have hproper:=b.proper
 simp only[packetStart,h.start,uint32]
 omega

lemma Names.touchesBlock_iff (z:Holding) : touchesBlock (packetStart mc p) p.requestedCount z=true ↔
  z.low≤b.high ∧ b.low≤z.high := by
 have hsize:=hpool.size
 have hcount:=h.count
 have hfits:=h.fits
 have hlast:lastOf b.low p.requestedCount=b.high:=by
  rw[lastOf,uint32]
  omega
 rw[h.packetStart_eq hpool,touchesBlock,intervalCheckOverlap,hlast]
 exact overlaps_iff z.block b.low b.high

end

lemma built_claimFor {messageType:Nat} (mc:Client) (low high:Nat)
 (ht:messageType=maapProbe ∨ messageType=maapAnnounce) : Built (claimFor mc messageType low high) :=
 ⟨rfl,rfl,rfl,rfl,rfl,rfl,ht.imp_right Or.inr⟩
lemma built_defendFor (mc:Client) (low high:Nat) (p:Packet) : Built (defendFor mc low high p) :=
 ⟨rfl,rfl,rfl,rfl,rfl,rfl,.inr (.inl rfl)⟩
lemma recognized_onWire (h:Built p) : recognized (onWire p)=true := by
 obtain ⟨het,hsub,-,hver,-,hcdl,htype⟩:=h
 simp only[recognized,onWire,het,hsub,hver,hcdl]
 rcases htype with ht|ht|ht<;>simp[ht,maapProbe,maapDefend,maapAnnounce]

lemma names_claimFor (hpool:PoolFits mc) (messageType:Nat) (hfits:b.high < mc.rangeLen)
 (hsmall:b.high<b.low+65535) : Names mc (onWire (claimFor mc messageType b.low b.high)) b := by
 obtain ⟨haddr,hsize⟩:=hpool
 have hproper:=b.proper
 constructor
 · simp only[onWire,claimFor,uint64]
   omega
 · simp only[onWire,claimFor,uint16,uint32]
   omega
 · exact hfits
 · simp only[onWire]
   omega

lemma names_defendFor (hpool:PoolFits mc) (low high:Nat) (h:Names mc p b) :
 Names mc (onWire (defendFor mc low high p)) b := by
 obtain ⟨haddr,hsize⟩:=hpool
 obtain ⟨hstart,hcount,hfits,hsmall⟩:=h
 have hproper:=b.proper
 constructor
 · simp only[onWire,defendFor]
   omega
 · simp only[onWire,defendFor]
   rw[Nat.mod_eq_of_lt hsmall,hcount]
 · exact hfits
 · simp only[onWire]
   omega

/-- The bytes are a packet that peers understand, about a block of the pool. -/
structure Carries (mc:Client) (bytes:List UInt8) (m:Message Block) : Prop where
 length:¬bytes.length < maapPktSize
 recognized:recognized (unpackMaap bytes)=true
 names:∃b,Names mc (unpackMaap bytes) b ∧
  m=if (unpackMaap bytes).messageType=maapProbe then .probe b else .answer b

variable {bytes:List UInt8}

lemma Carries.unique {m m':Message Block} (h:Carries mc bytes m) (h':Carries mc bytes m') : m=m' := by
 obtain ⟨b,hb,rfl⟩:=h.names
 obtain ⟨b',hb',rfl⟩:=h'.names
 rw[hb.unique hb']
lemma Carries.of_same_pool {m:Message Block} (h:Carries mc bytes m)
 (hbase:mc'.addressBase=mc.addressBase) (hlen:mc'.rangeLen=mc.rangeLen) : Carries mc' bytes m := by
 obtain ⟨b,hb,hm⟩:=h.names
 exact ⟨h.length,h.recognized,b,hb.of_same_pool hbase hlen,hm⟩

lemma carries_packMaap (hbuilt:Built p) (hnames:Names mc (onWire p) b) :
 Carries mc (packMaap p) (if p.messageType=maapProbe then .probe b else .answer b) := by
 refine ⟨by rw[packMaap_length];exact lt_irrefl _,?_,b,?_⟩
 · rw[unpackMaap_packMaap hbuilt]
   exact recognized_onWire hbuilt
 · rw[unpackMaap_packMaap hbuilt]
   exact ⟨hnames,rfl⟩

variable (hpool:PoolFits mc)
include hpool

section
variable (hfits:b.high < mc.rangeLen) (hsmall:b.high<b.low+65535)
include hfits hsmall

lemma carries_probe : Carries mc (packMaap (claimFor mc maapProbe b.low b.high)) (.probe b) :=
 carries_packMaap (built_claimFor mc b.low b.high (.inl rfl))
  (names_claimFor hpool maapProbe hfits hsmall)
lemma carries_announce : Carries mc (packMaap (claimFor mc maapAnnounce b.low b.high)) (.answer b) :=
 carries_packMaap (built_claimFor mc b.low b.high (.inr rfl))
  (names_claimFor hpool maapAnnounce hfits hsmall)

end

lemma carries_defend (low high:Nat) (h:Names mc p b) :
 Carries mc (packMaap (defendFor mc low high p)) (.answer b) :=
 carries_packMaap (built_defendFor mc low high p) (names_defendFor hpool low high h)
lemma ClaimBytes.carries (h:ClaimBytes mc bytes) : ∃m,Carries mc bytes m := by
 obtain ⟨messageType,low,high,rfl|rfl,hle,hfits,hsmall,rfl⟩:=h
 · exact ⟨_,carries_probe (b:=⟨low,high,hle⟩) hpool hfits hsmall⟩
 · exact ⟨_,carries_announce (b:=⟨low,high,hle⟩) hpool hfits hsmall⟩
lemma Queueable.carries (hp:Names mc p b) (h:Queueable p mc bytes) : ∃m,Carries mc bytes m := by
 rcases h with ⟨y,hle,hfits,hsmall,rfl⟩|⟨low,high,rfl,-⟩
 · exact ⟨_,carries_probe (b:=⟨y.low,y.high,hle⟩) hpool hfits hsmall⟩
 · exact ⟨_,carries_defend hpool low high hp⟩

end MaapWire

/-! ## A client as a station of the claim protocol -/

namespace MaapStation

open MaapStore MaapConflict
open MaapOverlaps MaapHandle MaapCommands MaapWire

variable {mc mc':Client}

def HoldsBlock (mc:Client) (state:MaapState) (b:Block) : Prop :=
 ∃z,Holds mc z ∧ z.state=state ∧ z.low=b.low ∧ z.high=b.high
def station (mc:Client) : Station Block where
 defends := HoldsBlock mc .defending
 probes:=HoldsBlock mc .probing
 sent:=fun m=>∃bytes∈mc.queued,Carries mc bytes m

structure Ready (mc:Client) : Prop where
 consistent:Consistent .closed mc
 calm:Calm mc
 pool:PoolFits mc
 packets:∀bytes∈mc.queued,∃m,Carries mc bytes m

lemma HoldsBlock.bounds (h:Consistent .closed mc) {state:MaapState} {b:Block}
 (hb:HoldsBlock mc state b) : b.high < mc.rangeLen ∧ b.high<b.low+65535 := by
 obtain ⟨z,hz,-,hlow,hhigh⟩:=hb
 rw[←hlow,←hhigh]
 exact ⟨holds_in_pool h hz,holds_small h hz⟩
lemma station_quiet (hqueue:mc.queued=[]) : (station mc).Quiet := by
 rintro m ⟨bytes,hmem,-⟩
 rw[hqueue] at hmem
 cases hmem

lemma Advances.ready (h:Ready mc) (hadv:Advances mc mc') : Ready mc' := by
 refine ⟨hadv.consistent,hadv.calm,h.pool.config hadv.config,fun bytes hmem=>?_⟩
 obtain ⟨packets,hq,hpackets⟩:=hadv.queued
 rw[hq] at hmem
 have hcarried:∃m,Carries mc bytes m:=by
  rcases mem_append.1 hmem with hmem|hmem
  · exact h.packets bytes hmem
  · exact ClaimBytes.carries h.pool (hpackets bytes hmem)
 obtain ⟨m,hm⟩:=hcarried
 exact ⟨m,hm.of_same_pool hadv.config.addressBase hadv.config.rangeLen⟩

lemma Advances.moves (h:Ready mc) (hadv:Advances mc mc') : Moves (station mc) (station mc') := by
 have hready:=Advances.ready h hadv
 constructor
 · rintro b ⟨z,hz,hst,hlow,hhigh⟩
   rcases hadv.fate z hz with hold|⟨hprobing,-⟩|⟨-,hold,hann⟩
   · exact .inl ⟨z,hold,hst,hlow,hhigh⟩
   · exact absurd (hst.symm.trans hprobing) (by decide)
   · refine .inr ⟨⟨_,hold,rfl,hlow,hhigh⟩,announceFor mc z,hann,?_⟩
     obtain ⟨hfits,hsmall⟩:=HoldsBlock.bounds hready.consistent ⟨z,hz,hst,hlow,hhigh⟩
     rw[←announceFor_config hadv.config,announceFor,hlow,hhigh]
     exact carries_announce hready.pool hfits hsmall
 · rintro b ⟨z,hz,hst,hlow,hhigh⟩
   rcases hadv.fate z hz with hold|⟨-,hprobe⟩|⟨hdefending,-⟩
   · exact .inl ⟨z,hold,hst,hlow,hhigh⟩
   · refine .inr ⟨probeFor mc z,hprobe,?_⟩
     obtain ⟨hfits,hsmall⟩:=HoldsBlock.bounds hready.consistent ⟨z,hz,hst,hlow,hhigh⟩
     rw[←probeFor_config hadv.config,probeFor,hlow,hhigh]
     exact carries_probe hready.pool hfits hsmall
   · exact absurd (hst.symm.trans hdefending) (by decide)

def taken (mc:Client) (bytes:List UInt8) : Client :=
 {mc with queued:=mc.queued.erase bytes}
lemma taken_ready (h:Ready mc) (bytes:List UInt8) : Ready (taken mc bytes) := by
 refine ⟨h.consistent.congr_store le_rfl rfl rfl,h.calm,⟨h.pool.addresses,h.pool.size⟩,fun bytes' hmem=>?_⟩
 obtain ⟨m,hm⟩:=h.packets bytes' (mem_of_mem_erase hmem)
 exact ⟨m,hm.of_same_pool rfl rfl⟩

variable {bytes:List UInt8} {m:Message Block}

lemma taken_loses (hm:Carries mc bytes m) : Loses m (station mc) (station (taken mc bytes)) := by
 refine ⟨fun _ hr=>hr,fun _ hr=>hr,?_⟩
 rintro m' ⟨bytes',hmem,hm'⟩
 by_cases heq:bytes'=bytes
 · subst heq
   exact .inr (hm'.unique hm)
 · exact .inl ⟨bytes',(mem_erase_of_ne heq).2 hmem,hm'.of_same_pool rfl rfl⟩

lemma maapHandlePacket_reacts (env:Env) (h:Ready mc) (hm:Carries mc bytes m)
 (hlate:(maapHandlePacket env mc bytes).1.late=false) :
 Reacts (unpackMaap bytes) mc (maapHandlePacket env mc bytes).1 := by
 obtain ⟨b,hb,-⟩:=hm.names
 have heq:(maapHandlePacket env mc bytes).1=(handleOverlaps env mc (unpackMaap bytes)).startTimer:=by
  simp[maapHandlePacket,hm.length,hm.recognized,hb.inside h.pool]
 rw[heq] at hlate ⊢
 refine Reacts.startTimer (handleOverlaps_spec env _ h.consistent h.calm ?_)
 obtain ⟨timer,htimer⟩:=startTimer_eq (handleOverlaps env mc (unpackMaap bytes))
 rw[htimer] at hlate
 exact hlate

variable (h:Ready mc) (hm:Carries mc bytes m) (hreact:Reacts (unpackMaap bytes) mc mc')
include h hm hreact

lemma Reacts.ready : Ready mc' := by
 refine ⟨hreact.consistent,hreact.calm,h.pool.config hreact.config,fun bytes' hmem=>?_⟩
 obtain ⟨b,hb,-⟩:=hm.names
 obtain ⟨packets,hq,hpackets⟩:=hreact.queued
 rw[hq] at hmem
 have hcarried:∃m,Carries mc bytes' m:=by
  rcases mem_append.1 hmem with hmem|hmem
  · exact h.packets bytes' hmem
  · exact Queueable.carries h.pool hb (hpackets bytes' hmem)
 obtain ⟨m',hm'⟩:=hcarried
 exact ⟨m',hm'.of_same_pool hreact.config.addressBase hreact.config.rangeLen⟩

lemma Reacts.hears : Hears Block.Overlaps m (station mc) (station mc') := by
 have hready:=Reacts.ready h hm hreact
 have hconfig:=hreact.config
 obtain ⟨b,hb,hmsg⟩:=hm.names
 have htouch:=hb.touchesBlock_iff h.pool
 constructor
 · rintro s ⟨z,hz,hst,hlow,hhigh⟩
   rcases hreact.fate z hz with ⟨hold,hsurvives⟩|⟨hprobing,-⟩
   · refine ⟨⟨z,hold,hst,hlow,hhigh⟩,fun b' hb' hover=>?_⟩
     by_cases hprobe:(unpackMaap bytes).messageType=maapProbe
     · rw[hmsg,if_pos hprobe] at hb'
       obtain rfl:b=b':=by injection hb'
       have hanswer:=(hsurvives ((htouch z).2 (by rw[hlow,hhigh];exact hover))).defending
        hst hprobe
       refine ⟨_,hanswer,?_⟩
       rw[←defendFor_config hconfig]
       exact carries_defend hready.pool z.low z.high
        (hb.of_same_pool hconfig.addressBase hconfig.rangeLen)
     · rw[hmsg,if_neg hprobe] at hb'
       cases hb'
   · exact absurd (hst.symm.trans hprobing) (by decide)
 · rintro s ⟨z,hz,hst,hlow,hhigh⟩
   rcases hreact.fate z hz with ⟨hold,hsurvives⟩|⟨-,hsent⟩
   · refine .inl ⟨⟨z,hold,hst,hlow,hhigh⟩,fun b' hb' hover=>?_⟩
     by_cases hprobe:(unpackMaap bytes).messageType=maapProbe
     · rw[hmsg,if_pos hprobe] at hb'
       cases hb'
     · rw[hmsg,if_neg hprobe] at hb'
       obtain rfl:b=b':=by injection hb'
       have hover':=Block.overlaps_symm _ _ hover
       exact hprobe ((hsurvives ((htouch z).2 (by rw[hlow,hhigh];exact hover'))).probing hst)
   · refine .inr ⟨probeFor mc z,hsent,?_⟩
     obtain ⟨hfits,hsmall⟩:=HoldsBlock.bounds hready.consistent ⟨z,hz,hst,hlow,hhigh⟩
     rw[←probeFor_config hconfig,probeFor,hlow,hhigh]
     exact carries_probe hready.pool hfits hsmall
 · rintro m' ⟨bytes',hmem,hm'⟩
   obtain ⟨packets,hq,-⟩:=hreact.queued
   exact ⟨bytes',by rw[hq];exact mem_append_left _ hmem,hm'.of_same_pool hconfig.addressBase hconfig.rangeLen⟩

end MaapStation

end OpenAvnu
