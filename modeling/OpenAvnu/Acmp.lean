import OpenAvnu.Bytes

/-!
# ACMP messages and AVDECC buffers

`openavb_avdecc.h`: bit fields are or-ed into a cleared buffer.
-/

namespace OpenAvnu.AvdeccBuffer

open Bytes List

structure Cursor where
 (written rest:List UInt8)
 deriving DecidableEq

namespace Cursor

def zeroed (size:Nat) : Cursor := ⟨[],List.replicate size 0⟩
def frame (c:Cursor) : List UInt8 := c.written++c.rest
def advance (c:Cursor) (inc:Nat) : Cursor := ⟨c.written++c.rest.take inc,c.rest.drop inc⟩
def merge (c:Cursor) (value:List UInt8) : Cursor :=
 {c with
  rest:=List.zipWith (· ||| ·) (c.rest.take value.length) value++c.rest.drop value.length}
def bitD2BHTONB (c:Cursor) (s shf inc:Nat) : Cursor := (c.merge (beBytes 1 (s <<< shf))).advance inc
def bitD2BHTONS (c:Cursor) (s shf inc:Nat) : Cursor := (c.merge (beBytes 2 (s <<< shf))).advance inc
def octD2BMEMCP (c:Cursor) (bytes:List UInt8) : Cursor := ⟨c.written++bytes,c.rest.drop bytes.length⟩
def octD2BHTONS (c:Cursor) (s:Nat) : Cursor := c.octD2BMEMCP (beBytes 2 s)

end Cursor

/-- The mask is cut to the type that is read. -/
def bitB2DNTOHB (src:List UInt8) (msk shf inc:Nat) : Nat×List UInt8 :=
 ((beValue (src.take 1) &&& msk%2^8) >>> shf,src.drop inc)
def bitB2DNTOHS (src:List UInt8) (msk shf inc:Nat) : Nat×List UInt8 :=
 ((beValue (src.take 2) &&& msk%2^16) >>> shf,src.drop inc)
def octB2DMEMCP (src:List UInt8) (size:Nat) : Nat×List UInt8 := takeField size src
def octB2DNTOHS (src:List UInt8) : Nat×List UInt8 := takeField 2 src

end OpenAvnu.AvdeccBuffer

/-! ## ACMP messages -/

namespace OpenAvnu.Acmp

open Bytes AvdeccBuffer List

def acmpAvtpSubtype : UInt8 := 0x7C
def acmpPduLen : Nat := 12+44

structure ControlHeader where
 (cd subtype sv version:UInt8)
 controlDataLength:UInt16
 deriving DecidableEq

/-- The header that `openavbAcmpStart` fills in. -/
def controlHeader : ControlHeader := ⟨1,acmpAvtpSubtype,0,0,44⟩

/-- Arrays of bytes are numbers, the first byte being the most significant one. -/
structure CommandResponse where
 (messageType status:UInt8)
 (streamId controllerEntityId talkerEntityId listenerEntityId:BitVec 64)
 (talkerUniqueId listenerUniqueId:UInt16)
 streamDestMac:BitVec 48
 (connectionCount sequenceId flags streamVlanId:UInt16)
 deriving DecidableEq

def openavbAcmpMessageTxFrame (messageType:UInt8) (r:CommandResponse) (status:UInt8) : List UInt8 :=
 let h:=controlHeader
 let c:=Cursor.zeroed acmpPduLen
 let c:=c.bitD2BHTONB h.cd.toNat 7 0
 let c:=c.bitD2BHTONB h.subtype.toNat 0 1
 let c:=c.bitD2BHTONB h.sv.toNat 7 0
 let c:=c.bitD2BHTONB h.version.toNat 4 0
 let c:=c.bitD2BHTONB messageType.toNat 0 1
 let c:=c.bitD2BHTONS status.toNat 11 0
 let c:=c.bitD2BHTONS h.controlDataLength.toNat 0 2
 let c:=c.octD2BMEMCP (beBytes 8 r.streamId.toNat)
 let c:=c.octD2BMEMCP (beBytes 8 r.controllerEntityId.toNat)
 let c:=c.octD2BMEMCP (beBytes 8 r.talkerEntityId.toNat)
 let c:=c.octD2BMEMCP (beBytes 8 r.listenerEntityId.toNat)
 let c:=c.octD2BHTONS r.talkerUniqueId.toNat
 let c:=c.octD2BHTONS r.listenerUniqueId.toNat
 let c:=c.octD2BMEMCP (beBytes 6 r.streamDestMac.toNat)
 let c:=c.octD2BHTONS r.connectionCount.toNat
 let c:=c.octD2BHTONS r.sequenceId.toNat
 let c:=c.octD2BHTONS r.flags.toNat
 let c:=c.octD2BHTONS r.streamVlanId.toNat
 c.frame

/-- `openavbAcmpMessageRxFrameParse`, up to the call of a state machine. -/
def openavbAcmpMessageRxFrameParse (payload:List UInt8) : ControlHeader×CommandResponse :=
 let (cd,src):=bitB2DNTOHB payload 0x80 7 0
 let (subtype,src):=bitB2DNTOHB src 0x7f 0 1
 let (sv,src):=bitB2DNTOHB src 0x80 7 0
 let (version,src):=bitB2DNTOHB src 0x70 4 0
 let (messageType,src):=bitB2DNTOHB src 0x0f 0 1
 let (status,src):=bitB2DNTOHB src 0xf800 11 0
 let (controlDataLength,src):=bitB2DNTOHS src 0x07ff 0 2
 let (streamId,src):=octB2DMEMCP src 8
 let (controllerEntityId,src):=octB2DMEMCP src 8
 let (talkerEntityId,src):=octB2DMEMCP src 8
 let (listenerEntityId,src):=octB2DMEMCP src 8
 let (talkerUniqueId,src):=octB2DNTOHS src
 let (listenerUniqueId,src):=octB2DNTOHS src
 let (streamDestMac,src):=octB2DMEMCP src 6
 let (connectionCount,src):=octB2DNTOHS src
 let (sequenceId,src):=octB2DNTOHS src
 let (flags,src):=octB2DNTOHS src
 let (streamVlanId,_):=octB2DNTOHS src
 (⟨.ofNat cd,.ofNat subtype,.ofNat sv,.ofNat version,.ofNat controlDataLength⟩,
  {messageType:=.ofNat messageType
   status:=.ofNat status
   streamId:=.ofNat 64 streamId
   controllerEntityId:=.ofNat 64 controllerEntityId
   talkerEntityId:=.ofNat 64 talkerEntityId
   listenerEntityId:=.ofNat 64 listenerEntityId
   talkerUniqueId:=.ofNat talkerUniqueId
   listenerUniqueId:=.ofNat listenerUniqueId
   streamDestMac:=.ofNat 48 streamDestMac
   connectionCount:=.ofNat connectionCount
   sequenceId:=.ofNat sequenceId
   flags:=.ofNat flags
   streamVlanId:=.ofNat streamVlanId})

inductive Receiver where
 | talkerConnectTXCmd | talkerDisconnectTXCmd | talkerGetTXState | talkerGetTXConnectionCmd
 | listenerConnectTXResp | listenerDisconnectTXResp | listenerConnectRXCmd
 | listenerDisconnectRXCmd | listenerGetRXState
 | controllerResponse
 deriving DecidableEq

def dispatch (messageType:UInt8) : Option Receiver :=
 match messageType.toNat with
 | 0=>some .talkerConnectTXCmd
 | 1=>some .listenerConnectTXResp
 | 2=>some .talkerDisconnectTXCmd
 | 3=>some .listenerDisconnectTXResp
 | 4=>some .talkerGetTXState
 | 6=>some .listenerConnectRXCmd
 | 8=>some .listenerDisconnectRXCmd
 | 10=>some .listenerGetRXState
 | 12=>some .talkerGetTXConnectionCmd
 | 5 | 7 | 9 | 11 | 13=>some .controllerResponse
 | _=>none

def connectTxCommand : UInt8 := 0
def connectTxResponse : UInt8 := 1
def disconnectTxCommand : UInt8 := 2
def disconnectTxResponse : UInt8 := 3
def getTxStateResponse : UInt8 := 5
def connectRxResponse : UInt8 := 7
def disconnectRxResponse : UInt8 := 9
def getRxStateResponse : UInt8 := 11
def getTxConnectionResponse : UInt8 := 13

def statusSuccess : UInt8 := 0
def statusListenerUnknownId : UInt8 := 1
def statusTalkerUnknownId : UInt8 := 2
def statusListenerTalkerTimeout : UInt8 := 7
def statusListenerExclusive : UInt8 := 8
def statusNotConnected : UInt8 := 10
def statusNoSuchConnection : UInt8 := 11
def statusCouldNotSendMessage : UInt8 := 12
def statusTalkerMisbehaving : UInt8 := 13
def statusListenerMisbehaving : UInt8 := 14
def flagFastConnect : UInt16 := 0x0002
def flagSavedState : UInt16 := 0x0004
def flagStreamingWait : UInt16 := 0x0008

structure Sent where
 messageType:UInt8
 message:CommandResponse
 status:UInt8
 deriving DecidableEq

lemma octD2BMEMCP_zeros (written bytes:List UInt8) (n:Nat) :
 Cursor.octD2BMEMCP ⟨written,replicate n 0⟩ bytes=⟨written++bytes,replicate (n-bytes.length) 0⟩ := by
 simp[Cursor.octD2BMEMCP]

variable (messageType:UInt8) (r:CommandResponse) (status:UInt8)

lemma header_cursor : ((((((((Cursor.zeroed acmpPduLen).bitD2BHTONB controlHeader.cd.toNat 7 0).bitD2BHTONB
  controlHeader.subtype.toNat 0 1).bitD2BHTONB controlHeader.sv.toNat 7 0).bitD2BHTONB
  controlHeader.version.toNat 4 0).bitD2BHTONB messageType.toNat 0 1).bitD2BHTONS
  status.toNat 11 0).bitD2BHTONS controlHeader.controlDataLength.toNat 0 2)=
 ⟨[0xFC,messageType,UInt8.ofNat (status.toNat <<< 11/256),
  UInt8.ofNat (status.toNat <<< 11) ||| 44],replicate 52 0⟩ := by
 simp[Cursor.zeroed,acmpPduLen,Cursor.bitD2BHTONB,Cursor.bitD2BHTONS,Cursor.merge,
  Cursor.advance,beBytes,controlHeader,acmpAvtpSubtype,replicate]
 rfl

lemma frame_eq : openavbAcmpMessageTxFrame messageType r status=
  0xFC::messageType::UInt8.ofNat (status.toNat <<< 11/256) ::
   (UInt8.ofNat (status.toNat <<< 11) ||| 44) ::
   (beBytes 8 r.streamId.toNat++(beBytes 8 r.controllerEntityId.toNat++
   (beBytes 8 r.talkerEntityId.toNat++(beBytes 8 r.listenerEntityId.toNat++
   (beBytes 2 r.talkerUniqueId.toNat++(beBytes 2 r.listenerUniqueId.toNat++
   (beBytes 6 r.streamDestMac.toNat++(beBytes 2 r.connectionCount.toNat++
   (beBytes 2 r.sequenceId.toNat++(beBytes 2 r.flags.toNat++
   (beBytes 2 r.streamVlanId.toNat++[0,0]))))))))))) := by
 simp only[openavbAcmpMessageTxFrame,header_cursor,Cursor.octD2BHTONS,octD2BMEMCP_zeros,
  beBytes_length,Cursor.frame,append_assoc]
 rfl

lemma bitB2DNTOHB_cons (b:UInt8) (src:List UInt8) (msk shf inc:Nat) :
 bitB2DNTOHB (b::src) msk shf inc=((b.toNat &&& msk%2^8) >>> shf,(b::src).drop inc) := by
 simp[bitB2DNTOHB,beValue]
lemma octB2DMEMCP_beBytes (width value:Nat) (rest:List UInt8) :
 octB2DMEMCP (beBytes width value++rest) width=(value%256^width,rest) := takeField_beBytes width value rest
lemma octB2DNTOHS_beBytes (value:Nat) (rest:List UInt8) :
 octB2DNTOHS (beBytes 2 value++rest)=(value%256^2,rest) := takeField_beBytes 2 value rest
lemma ofNat_short (x:UInt16) : UInt16.ofNat (x.toNat%256^2)=x := by
 have hlt:x.toNat<256^2:=x.toNat_lt
 rw[Nat.mod_eq_of_lt hlt,UInt16.ofNat_toNat]
lemma ofNat_nibble {x:UInt8} (h:x.toNat<16) : UInt8.ofNat ((x.toNat &&& 0x0f%2^8) >>> 0)=x := by
 have hmask:x.toNat &&& 15=x.toNat:=
  (Nat.and_two_pow_sub_one_eq_mod x.toNat 4).trans (Nat.mod_eq_of_lt h)
 rw[show 0x0f%2^8=15 from rfl,hmask,Nat.shiftRight_zero,UInt8.ofNat_toNat]

/-- Everything but the status arrives: its mask has no bits in the byte that is read. -/
lemma parse_frame (hm:messageType.toNat<16) :
 (openavbAcmpMessageRxFrameParse (openavbAcmpMessageTxFrame messageType r status)).2=
  {r with messageType:=messageType,status:=0} := by
 simp only[frame_eq,openavbAcmpMessageRxFrameParse,bitB2DNTOHB_cons,bitB2DNTOHS,
  drop_succ_cons,drop_zero,octB2DMEMCP_beBytes,octB2DNTOHS_beBytes,ofNat_short,ofNat_nibble hm]
 simp only[ofNat_field (show 256^8=2^64 from rfl),
  ofNat_field (show 256^6=2^48 from rfl),show 0xf800%2^8=0 from rfl,Nat.and_zero]
 rfl

theorem roundTrip_iff_success (messageType:UInt8) (r:CommandResponse) (status:UInt8)
 (hm:messageType.toNat≤13) (_:status.toNat<32) :
 (openavbAcmpMessageRxFrameParse (openavbAcmpMessageTxFrame messageType r status)).2=
  {r with messageType:=messageType,status:=status}↔status=0 := by
 rw[parse_frame messageType r status (by omega)]
 constructor
 · intro h
   exact (congrArg CommandResponse.status h).symm
 · rintro rfl
   rfl

def connectResponse : CommandResponse :=
 ⟨1,0,0x0202020202020001,0x0A0B0C0D0E0F1011,0x0202020202FFFE01,0x0404040404FFFE01,1,2,
  0x91E0F0000001,1,0x0102,0x0002,2⟩

theorem roundTrip_iff_success_connect :
 (openavbAcmpMessageRxFrameParse (openavbAcmpMessageTxFrame 1 connectResponse 0)).2=
  connectResponse := (roundTrip_iff_success 1 connectResponse 0 (by decide) (by decide)).2 rfl

theorem no_bandwidth_received_as_success :
 (openavbAcmpMessageRxFrameParse (openavbAcmpMessageTxFrame 1 connectResponse 5)).2.status=0 ∧
 (openavbAcmpMessageRxFrameParse (openavbAcmpMessageTxFrame 1 connectResponse 5)).2 ≠
  {connectResponse with messageType:=1,status:=5} := by
 decide +kernel

end OpenAvnu.Acmp
