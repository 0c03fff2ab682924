import OpenAvnu.Bytes

/-!
# MAAP packets

`maap/common/maap_packet.c`.
-/

namespace OpenAvnu.MaapPacket

open Bytes List

def maapProbe : Nat := 1
def maapDefend : Nat := 2
def maapAnnounce : Nat := 3
def maapType : Nat := 0x22F0
def maapSubtype : Nat := 0xFE
def maapPktSize : Nat := 42

structure Packet where
 (da sa ethertype subtype sv version messageType maapVersion controlDataLength streamId:Nat)
 (requestedStartAddress requestedCount conflictStartAddress conflictCount:Nat)
 deriving DecidableEq, Repr

def initPacket (destMac srcMac:Nat) : Packet where
 da := destMac
 sa:=srcMac
 ethertype:=maapType
 subtype:=maapSubtype
 sv:=0
 version:=0
 messageType:=0
 maapVersion:=1
 controlDataLength:=16
 streamId:=0
 requestedStartAddress:=0
 requestedCount:=0
 conflictStartAddress:=0
 conflictCount:=0

def packMaap (p:Packet) : List UInt8 :=
 beBytes 6 p.da++(beBytes 6 p.sa++(beBytes 2 p.ethertype++(beBytes 1 p.subtype++
 (beBytes 1 ((p.sv <<< 7) ||| ((p.version &&& 0x07) <<< 4) ||| (p.messageType &&& 0x0f))++
 (beBytes 2 (((p.maapVersion &&& 0x1f) <<< 11) ||| (p.controlDataLength &&& 0x07ff))++
 (beBytes 8 p.streamId++(beBytes 6 p.requestedStartAddress++
 (beBytes 2 p.requestedCount++(beBytes 6 p.conflictStartAddress++beBytes 2 p.conflictCount)))))))))

def unpackMaap (stream:List UInt8) : Packet :=
 let (da,stream):=takeField 6 stream
 let (sa,stream):=takeField 6 stream
 let (ethertype,stream):=takeField 2 stream
 let (subtype,stream):=takeField 1 stream
 let (flags,stream):=takeField 1 stream
 let maapVersion:=(takeField 1 stream).1
 let (lengths,stream):=takeField 2 stream
 let (streamId,stream):=takeField 8 stream
 let (requestedStartAddress,stream):=takeField 6 stream
 let (requestedCount,stream):=takeField 2 stream
 let (conflictStartAddress,stream):=takeField 6 stream
 let (conflictCount,_):=takeField 2 stream
 {da, sa, ethertype, subtype, streamId, requestedStartAddress, requestedCount,conflictStartAddress, conflictCount
  sv:=(flags &&& 0x80) >>> 7
  version:=(flags &&& 0x70) >>> 4
  messageType:=flags &&& 0x0f
  maapVersion:=(maapVersion &&& 0xf8) >>> 3
  controlDataLength:=lengths &&& 0x07ff}

/-- Bytes are compared from the least significant one; a tie keeps the local claim. -/
def compareBytes : Nat → Nat → Nat → Bool
 | 0, _, _=>true
 | n+1, localMac, remoteMac=>
  if localMac%256 < remoteMac%256 then true
  else if remoteMac%256<localMac%256 then false
  else compareBytes n (localMac/256) (remoteMac/256)

def compareMacAddresses (localMac remoteMac:Nat) : Bool := compareBytes 6 localMac remoteMac

structure Built (p:Packet) : Prop where
 ethertype:p.ethertype=maapType
 subtype:p.subtype=maapSubtype
 sv:p.sv=0
 version:p.version=0
 maapVersion:p.maapVersion=1
 controlDataLength:p.controlDataLength=16
 messageType:p.messageType=maapProbe ∨ p.messageType=maapDefend ∨
  p.messageType=maapAnnounce

/-- What of a packet survives the wire: 48-bit addresses and 16-bit counts. -/
def onWire (p:Packet) : Packet :=
 {p with
   da:=p.da%2^48
   sa:=p.sa%2^48
   streamId:=p.streamId%2^64
   requestedStartAddress:=p.requestedStartAddress%2^48
   requestedCount:=p.requestedCount%2^16
   conflictStartAddress:=p.conflictStartAddress%2^48
   conflictCount:=p.conflictCount%2^16}

variable (p:Packet) (n a b:Nat)

@[simp] lemma onWire_messageType : (onWire p).messageType=p.messageType := rfl
lemma packMaap_length : (packMaap p).length=maapPktSize := by
 simp[packMaap,maapPktSize]

lemma unpackMaap_packMaap {p:Packet} (h:Built p) : unpackMaap (packMaap p)=onWire p := by
 obtain ⟨het,hsub,hsv,hver,hmv,hcdl,htype⟩:=h
 obtain ⟨da,sa,et,sub,sv,ver,mt,mv,cdl,sid,rs,rc,cs,cc⟩:=p
 subst het hsub hsv hver hmv hcdl
 rcases htype with rfl|rfl|rfl <;>
  simp[unpackMaap,packMaap,onWire,takeField_one_beBytes,maapType,maapSubtype,maapProbe,maapDefend,maapAnnounce]

structure FitsWire (p:Packet) : Prop where
 da:p.da<2^48
 sa:p.sa<2^48
 ethertype:p.ethertype<2^16
 subtype:p.subtype<2^8
 sv:p.sv<2
 version:p.version<8
 messageType:p.messageType<16
 maapVersion:p.maapVersion<32
 controlDataLength:p.controlDataLength<2048
 streamId:p.streamId<2^64
 requestedStartAddress:p.requestedStartAddress<2^48
 requestedCount:p.requestedCount<2^16
 conflictStartAddress:p.conflictStartAddress<2^48
 conflictCount:p.conflictCount<2^16

lemma flags_read : ∀sv<2,∀version<8,∀messageType<16,
 let flags:=(sv <<< 7 ||| (version &&& 0x07) <<< 4 ||| messageType &&& 0x0f)%256
 (flags &&& 0x80) >>> 7=sv ∧ (flags &&& 0x70) >>> 4=version ∧
  flags &&& 0x0f=messageType := by
 decide

lemma flags_written : ∀flags<256,
 ((flags &&& 0x80) >>> 7) <<< 7 ||| ((flags &&& 0x70) >>> 4 &&& 0x07) <<< 4 |||
  flags &&& 0x0f &&& 0x0f=flags := by
 decide +kernel
lemma highBits : ∀byte<256,(byte &&& 0xf8) >>> 3=byte/8 := by
 decide +kernel

lemma lengths_eq {maapVersion:Nat} (hv:maapVersion<32) (length:Nat) :
 (maapVersion &&& 0x1f) <<< 11 ||| length &&& 0x07ff=maapVersion*2048+length%2048 := by
 have hversion:maapVersion &&& 0x1f=maapVersion:=
  (Nat.and_two_pow_sub_one_eq_mod maapVersion 5).trans (Nat.mod_eq_of_lt hv)
 have hlength:length &&& 0x07ff=length%2048:=Nat.and_two_pow_sub_one_eq_mod length 11
 rw[hversion,hlength,←Nat.shiftLeft_add_eq_or_of_lt (Nat.mod_lt _ (by decide)),Nat.shiftLeft_eq]

lemma flags_rewritten (stream:List UInt8) :
 let flags:=(takeField 1 stream).1
 ((flags &&& 0x80) >>> 7) <<< 7 ||| ((flags &&& 0x70) >>> 4 &&& 0x07) <<< 4 |||
  flags &&& 0x0f &&& 0x0f=flags := by
 apply flags_written
 cases stream with
 | nil=>decide
 | cons b rest=>simpa[takeField,beValue] using b.toNat_lt

lemma lengths_rewritten {stream:List UInt8} (h:2 ≤ stream.length) :
 ((((takeField 1 stream).1 &&& 0xf8) >>> 3) &&& 0x1f) <<< 11 |||
  (takeField 2 stream).1 &&& 0x07ff &&& 0x07ff=(takeField 2 stream).1 := by
 match stream, h with
 | b::b'::rest, _=>
  have hb:=b.toNat_lt
  have hb':=b'.toNat_lt
  simp only[takeField,beValue,take_succ_cons,take_zero,foldl_cons,foldl_nil,Nat.zero_mul,Nat.zero_add]
  rw[highBits _ hb,lengths_eq (by omega),Nat.and_two_pow_sub_one_eq_mod _ 11]
  omega

theorem maap_packet_roundtrip {p:Packet} (h:FitsWire p) {stream:List UInt8}
 (hlen:stream.length=maapPktSize) : unpackMaap (packMaap p)=p ∧ packMaap (unpackMaap stream)=stream := by
 constructor
 · have hflags:=flags_read p.sv h.sv p.version h.version p.messageType h.messageType
   have hlengths:=lengths_eq h.maapVersion p.controlDataLength
   have hv:=h.maapVersion
   have hc:=h.controlDataLength
   simp only[unpackMaap,packMaap,takeField_beBytes,takeField_beBytes_end,
    takeField_one_beBytes,pow_one] at hflags hlengths hv hc ⊢
   rw[hlengths,highBits _ (Nat.mod_lt _ (by decide)),Nat.and_two_pow_sub_one_eq_mod _ 11,
    hflags.1,hflags.2.1,hflags.2.2,Packet.mk.injEq]
   exact ⟨Nat.mod_eq_of_lt h.da,Nat.mod_eq_of_lt h.sa,Nat.mod_eq_of_lt h.ethertype,
    Nat.mod_eq_of_lt h.subtype,rfl,rfl,rfl,by omega,by omega,Nat.mod_eq_of_lt h.streamId,
    Nat.mod_eq_of_lt h.requestedStartAddress,Nat.mod_eq_of_lt h.requestedCount,
    Nat.mod_eq_of_lt h.conflictStartAddress,Nat.mod_eq_of_lt h.conflictCount⟩
 · rw[maapPktSize] at hlen
   simp only[packMaap,unpackMaap,flags_rewritten]
   rw[lengths_rewritten (by simp[takeField,hlen])]
   simp (disch:=simp[takeField,hlen]) only [beBytes_takeField_end,beBytes_takeField]

theorem maap_packet_roundtrip_set :
 let p:Packet:=⟨2^48-1,1,2,255,1,5,9,31,2047,2^64-1,3,4,5,65535⟩
 unpackMaap (packMaap p)=p ∧
  packMaap (unpackMaap (replicate 42 0xa5))=replicate 42 0xa5 :=
 maap_packet_roundtrip (by constructor<;>decide) (by decide)

lemma compareBytes_strict (h:a%256^n≠b%256^n) : compareBytes n a b = !compareBytes n b a := by
 induction n generalizing a b with
 | zero=>simp[Nat.mod_one] at h
 | succ n ih=>
  simp only[compareBytes]
  rcases Nat.lt_trichotomy (a%256) (b%256) with hlt|heq|hgt
  · simp[hlt,Nat.not_lt_of_gt hlt]
  · have hrest:a/256%256^n≠b/256%256^n:=by
     intro hsame
     apply h
     rw[Nat.pow_succ',Nat.mod_mul,Nat.mod_mul,heq,hsame]
    simpa[heq] using ih _ _ hrest
  · simp[hgt,Nat.not_lt_of_gt hgt]

lemma compareMacAddresses_strict {a b:Nat} (h:a%2^48≠b%2^48) :
 compareMacAddresses a b = !compareMacAddresses b a := compareBytes_strict 6 a b h

lemma compareBytes_mod : compareBytes n a (b%256^n)=compareBytes n a b := by
 induction n generalizing a b with
 | zero=>rfl
 | succ n ih=>
  have hlow:b%256^(n+1)%256=b%256:=
   Nat.mod_mod_of_dvd b (Dvd.intro_left (256^n) rfl)
  have hhigh:b%256^(n+1)/256=b/256%256^n:=by
   rw[Nat.pow_succ',Nat.mod_mul_right_div_self]
  simp only[compareBytes,hlow,hhigh,ih]

lemma compareMacAddresses_onWire (localMac:Nat) (p:Packet) :
 compareMacAddresses localMac (onWire p).sa=compareMacAddresses localMac p.sa := compareBytes_mod 6 localMac p.sa

end OpenAvnu.MaapPacket
