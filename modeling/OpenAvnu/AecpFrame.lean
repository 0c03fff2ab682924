import OpenAvnu.Acmp
import OpenAvnu.AecpEntity

/-!
# AECP responses on the wire

`openavbAecpMessageTxFrame`. The length of the control data is or-ed into the word of the command.
-/

namespace OpenAvnu.Aecp

open Bytes AvdeccBuffer List

def aecpFrameLen : Nat := 18+12+1480

abbrev EthHdr := {bytes:List UInt8 // bytes.length=14 ∨ bytes.length=18}
def DescriptorId.fields (d:DescriptorId) : List (List UInt8) :=
 [beBytes 2 d.descriptorType.toNat,beBytes 2 d.descriptorIndex.toNat]

def StreamInfo.fields (info:StreamInfo) : List (List UInt8) :=
 [beBytes 4 info.flags.toNat,beBytes 8 info.streamFormat.toNat,beBytes 8 info.streamId.toNat,
  beBytes 4 info.msrpAccumulatedLatency.toNat,beBytes 6 info.streamDestMac.toNat,
  beBytes 1 info.msrpFailureCode.toNat,beBytes 1 info.reserved1.toNat,
  beBytes 8 info.msrpFailureBridgeId.toNat,beBytes 2 info.streamVlanId.toNat,beBytes 2 info.reserved2.toNat]

/-- What is copied behind the command type. SET_CONTROL clears the count before its loop;
GET_CONTROL writes nothing. -/
def CommandData.fields : CommandData → List (List UInt8)
 | .acquireEntity flags ownerId d=>[beBytes 4 flags.toNat,beBytes 8 ownerId.toNat]++d.fields
 | .readDescriptor configurationIndex reserved _ descriptorData=>
  [beBytes 2 configurationIndex.toNat,beBytes 2 reserved.toNat,(descriptorData.map Subtype.val).getD []]
 | .setStreamFormat d streamFormat | .getStreamFormat d streamFormat=>
  d.fields++[beBytes 8 streamFormat.toNat]
 | .setStreamInfo d info | .getStreamInfo d info=>d.fields++info.fields
 | .setSamplingRate d samplingRate | .getSamplingRate d samplingRate=>
  d.fields++[beBytes 4 samplingRate.toNat]
 | .setClockSource d clockSourceIndex reserved | .getClockSource d clockSourceIndex reserved=>
  d.fields++[beBytes 2 clockSourceIndex.toNat,beBytes 2 reserved.toNat]
 | .setControl d _ _ | .startStreaming d | .stopStreaming d=>d.fields
 | .getCounters d countersValid countersBlock=>
  d.fields++[beBytes 4 countersValid.toNat,beBytes 128 countersBlock.toNat]
 | .lockEntity | .entityAvailable | .getControl .. | .other _=>[]

def copyFields (fields:List (List UInt8)) (c:Cursor) : Cursor := fields.foldl Cursor.octD2BMEMCP c
def seek (offset:Nat) (c:Cursor) : Cursor := ⟨c.frame.take offset,c.frame.drop offset⟩

def txHeader (r:AEMCommandResponse) (c:Cursor) : Cursor :=
 let c:=c.bitD2BHTONB r.cd.toNat 7 0
 let c:=c.bitD2BHTONB r.subtype.toNat 0 1
 let c:=c.bitD2BHTONB r.sv.toNat 7 0
 let c:=c.bitD2BHTONB r.version.toNat 4 0
 let c:=c.bitD2BHTONB r.messageType.toNat 0 1
 let c:=c.bitD2BHTONS r.status.code 11 0
 let c:=c.bitD2BHTONS r.controlDataLength.toNat 0 2
 c.octD2BMEMCP (beBytes 8 r.targetEntityId.toNat)

def txBody (r:AEMCommandResponse) (c:Cursor) : Cursor :=
 let c:=c.octD2BMEMCP (beBytes 8 r.controllerEntityId.toNat)
 let c:=c.octD2BHTONS r.sequenceId.toNat
 if r.messageType=messageTypeAemResponse then
  let c:=c.bitD2BHTONS r.u.toNat 15 0
  let c:=c.bitD2BHTONS r.commandData.commandType.toNat 0 2
  copyFields r.commandData.fields c
 else c

/-- `pduEnd` is the end of the data, before short frames are padded. -/
structure Tx where
 frame:List UInt8
 pduEnd:Nat

def openavbAecpMessageTxFrame (ethHdr:EthHdr) (r:AEMCommandResponse) : Tx :=
 let c:=Cursor.zeroed aecpFrameLen
 let c:=c.octD2BMEMCP (beBytes 6 r.host.toNat++ethHdr.1.drop 6)
 let c:=txHeader r c
 let startMarker:=c.written.length
 let c:=txBody r c
 let pduEnd:=c.written.length
 let c:=(seek (ethHdr.1.length+2) c).bitD2BHTONS (pduEnd-startMarker) 0 2
 ⟨c.frame.take (max pduEnd 64),pduEnd⟩

variable (k a b:Nat) (written rest:List UInt8) (r:AEMCommandResponse) (ethHdr:EthHdr)

lemma or_div_pow (k:Nat) : (a ||| b)/256^k=a/256^k ||| b/256^k := by
 have hpow:256^k=2^(8*k):=by rw[Nat.pow_mul]
 rw[hpow,←Nat.shiftRight_eq_div_pow,←Nat.shiftRight_eq_div_pow,←Nat.shiftRight_eq_div_pow,
  Nat.shiftRight_or_distrib]

lemma zipWith_or_beBytes : List.zipWith (· ||| ·) (beBytes k a) (beBytes k b)=beBytes k (a ||| b) := by
 induction k with
 | zero=>rfl
 | succ k ih=>
  rw[beBytes,beBytes,beBytes,zipWith_cons_cons,ih,or_div_pow,UInt8.ofNat_or]

lemma beBytes_zero : beBytes k 0=replicate k 0 := by
 induction k with
 | zero=>rfl
 | succ k ih=>rw[beBytes,ih,Nat.zero_div];rfl
lemma merge_beBytes (k a b:Nat) : (⟨written,beBytes k a++rest⟩:Cursor).merge (beBytes k b)=
  ⟨written,beBytes k (a ||| b)++rest⟩ := by
 simp[Cursor.merge,zipWith_or_beBytes]
lemma advance_beBytes (k a:Nat) :
 (⟨written,beBytes k a++rest⟩:Cursor).advance k=⟨written++beBytes k a,rest⟩ := by
 simp[Cursor.advance]
lemma advance_zero (c:Cursor) : c.advance 0=c := by
 simp[Cursor.advance]
lemma octD2BMEMCP_zeros_of_le (bytes:List UInt8) (n:Nat) :
 (⟨written,replicate (bytes.length+n) 0⟩:Cursor).octD2BMEMCP bytes=⟨written++bytes,replicate n 0⟩ := by
 simp[Cursor.octD2BMEMCP]

lemma copyFields_zeros (fields:List (List UInt8)) (written:List UInt8) (n:Nat) :
 copyFields fields ⟨written,replicate (fields.flatten.length+n) 0⟩=⟨written++fields.flatten,replicate n 0⟩ := by
 induction fields generalizing written with
 | nil=>simp[copyFields]
 | cons field fields ih=>
  have hlength:(field::fields).flatten.length+n=field.length+(fields.flatten.length+n):=by
   simp[Nat.add_assoc]
  rw[hlength,copyFields,foldl_cons,octD2BMEMCP_zeros_of_le]
  have hrest:=ih (written++field)
  rw[copyFields] at hrest
  rw[hrest,flatten_cons,append_assoc]

def flagOctets (r:AEMCommandResponse) : List UInt8 := beBytes 1 (r.cd.toNat <<< 7 ||| r.subtype.toNat <<< 0)++
  beBytes 1 (r.sv.toNat <<< 7 ||| r.version.toNat <<< 4 ||| r.messageType.toNat <<< 0)
def statusWord (r:AEMCommandResponse) : Nat := r.status.code <<< 11 ||| r.controlDataLength.toNat <<< 0
def typeWord (r:AEMCommandResponse) : Nat := r.u.toNat <<< 15 ||| r.commandData.commandType.toNat <<< 0

lemma txHeader_zeros (written:List UInt8) (n:Nat) : txHeader r ⟨written,replicate (12+n) 0⟩=
  ⟨written++(flagOctets r++(beBytes 2 (statusWord r)++beBytes 8 r.targetEntityId.toNat)),replicate n 0⟩ := by
 have hzeros:replicate (12+n) (0:UInt8)=beBytes 1 0++(beBytes 1 0++(beBytes 2 0++replicate (8+n) 0)):=by
  simp only[beBytes_zero,replicate_append_replicate]
  congr 1
  omega
 have htarget:=fun written=>
  octD2BMEMCP_zeros_of_le written (beBytes 8 r.targetEntityId.toNat) n
 simp only[beBytes_length] at htarget
 rw[hzeros]
 simp[txHeader,Cursor.bitD2BHTONB,Cursor.bitD2BHTONS,merge_beBytes,advance_beBytes,
  advance_zero,htarget,flagOctets,statusWord]

lemma txBody_zeros (h:r.messageType=messageTypeAemResponse) (written:List UInt8) (n:Nat) :
 txBody r ⟨written,replicate (12+(r.commandData.fields.flatten.length+n)) 0⟩=
  ⟨written++(beBytes 8 r.controllerEntityId.toNat++(beBytes 2 r.sequenceId.toNat++
   (beBytes 2 (typeWord r)++r.commandData.fields.flatten))),replicate n 0⟩ := by
 have hcontroller:=fun written=>octD2BMEMCP_zeros_of_le written
  (beBytes 8 r.controllerEntityId.toNat) (4+(r.commandData.fields.flatten.length+n))
 have hsequence:=fun written=>octD2BMEMCP_zeros_of_le written
  (beBytes 2 r.sequenceId.toNat) (2+(r.commandData.fields.flatten.length+n))
 simp only[beBytes_length,←Nat.add_assoc] at hcontroller hsequence
 have hzeros:replicate (2+r.commandData.fields.flatten.length+n) (0:UInt8)=
  beBytes 2 0++replicate (r.commandData.fields.flatten.length+n) 0:=by
  rw[beBytes_zero,replicate_append_replicate,Nat.add_assoc]
 simp only[txBody,if_pos h,Cursor.octD2BHTONS,←Nat.add_assoc,hcontroller,hsequence,hzeros,
  Cursor.bitD2BHTONS,merge_beBytes,advance_beBytes,advance_zero,copyFields_zeros,Nat.zero_or,
  typeWord,append_assoc]

lemma fields_length_le (data:CommandData) : data.fields.flatten.length≤512 := by
 cases data
 case readDescriptor configurationIndex reserved d descriptorData=>
  cases descriptorData with
  | none=>simp[CommandData.fields]
  | some bytes=>
   simp only[CommandData.fields,Option.map_some,Option.getD_some,flatten_cons,
    flatten_nil,append_nil,length_append,beBytes_length]
   omega
 all_goals simp[CommandData.fields,DescriptorId.fields,StreamInfo.fields]

def sentHdr (ethHdr:EthHdr) (r:AEMCommandResponse) : List UInt8 := beBytes 6 r.host.toNat++ethHdr.1.drop 6
def dataLength (r:AEMCommandResponse) : Nat := 12+r.commandData.fields.flatten.length
lemma sentHdr_length (r:AEMCommandResponse) : (sentHdr ethHdr r).length=ethHdr.1.length := by
 simp only[sentHdr,length_append,beBytes_length,length_drop]
 omega
lemma dataLength_lt : dataLength r<2^11 := by
 have hle:=fields_length_le r.commandData
 rw[dataLength]
 omega
def responseBytes (ethHdr:EthHdr) (r:AEMCommandResponse) (rest:List UInt8) : List UInt8 :=
 sentHdr ethHdr r++(flagOctets r++(beBytes 2 (statusWord r ||| dataLength r)++
  (beBytes 8 r.targetEntityId.toNat++(beBytes 8 r.controllerEntityId.toNat++
  (beBytes 2 r.sequenceId.toNat++(beBytes 2 (typeWord r)++(r.commandData.fields.flatten++rest)))))))

lemma txFrame_eq (r:AEMCommandResponse) (h:r.messageType=messageTypeAemResponse) :
 ∃rest,(openavbAecpMessageTxFrame ethHdr r).frame=
  (responseBytes ethHdr r rest).take (max (ethHdr.1.length+12+dataLength r) 64) ∧
  (openavbAecpMessageTxFrame ethHdr r).pduEnd=ethHdr.1.length+12+dataLength r := by
 have hfields:=fields_length_le r.commandData
 have hhdr:=sentHdr_length ethHdr r
 have hflags:(flagOctets r).length=2:=by simp[flagOctets]
 obtain ⟨n,hn⟩:∃n,aecpFrameLen=(sentHdr ethHdr r).length+(12+(12+(r.commandData.fields.flatten.length+n))):=by
  refine ⟨aecpFrameLen-((sentHdr ethHdr r).length+24 +
   r.commandData.fields.flatten.length),?_⟩
  rw[aecpFrameLen]
  omega
 have hstart:(Cursor.zeroed aecpFrameLen).octD2BMEMCP (sentHdr ethHdr r)=⟨sentHdr ethHdr r,
   replicate (12+(12+(r.commandData.fields.flatten.length+n))) 0⟩:=by
  rw[Cursor.zeroed,hn,octD2BMEMCP_zeros_of_le,nil_append]
 -- the pointer goes back to the word behind the flags
 have hseek:∀a b c d:List UInt8,a.length=ethHdr.1.length → b.length=2 →
  seek (ethHdr.1.length+2) ⟨a++(b++c),d⟩=⟨a++b,c++d⟩:=by
  intro a b c d ha hb
  have hsplit:a++(b++c)++d=(a++b)++(c++d):=by simp
  have hoffset:ethHdr.1.length+2=(a++b).length:=by rw[length_append,ha,hb]
  rw[seek,Cursor.frame,hsplit,hoffset,take_left,drop_left]
 have hend:∀a:List UInt8,a.length=ethHdr.1.length →
  (a++(flagOctets r++(beBytes 2 (statusWord r)++(beBytes 8 r.targetEntityId.toNat++
   (beBytes 8 r.controllerEntityId.toNat++(beBytes 2 r.sequenceId.toNat++
   (beBytes 2 (typeWord r)++r.commandData.fields.flatten))))))).length=ethHdr.1.length+12+dataLength r:=by
  intro a ha
  simp only[length_append,beBytes_length,dataLength]
  omega
 have hmarker:(sentHdr ethHdr r++(flagOctets r++(beBytes 2 (statusWord r)++
  beBytes 8 r.targetEntityId.toNat))).length=ethHdr.1.length+12:=by
  simp[hhdr,hflags]
 refine ⟨replicate n 0,?_⟩
 simp only[openavbAecpMessageTxFrame]
 rw[←sentHdr,hstart,txHeader_zeros,txBody_zeros r h]
 rw[hmarker]
 simp only[append_assoc]
 rw[hend _ hhdr,hseek _ _ _ _ hhdr hflags,Nat.add_sub_cancel_left]
 simp only[Cursor.bitD2BHTONS,append_assoc,merge_beBytes,advance_beBytes,Cursor.frame,
  Nat.shiftLeft_zero,responseBytes,and_self]

def field (frame:List UInt8) (offset width:Nat) : Nat := beValue ((frame.drop offset).take width)

lemma field_eq {a rest:List UInt8} {k v n:Nat} (hn:a.length+k≤n) :
 field ((a++(beBytes k v++rest)).take n) a.length k=v%256^k := by
 have hdrop:((a++(beBytes k v++rest)).take n).drop a.length=(beBytes k v++rest).take (n-a.length):=by
  rw[drop_take,drop_left]
 have hk:k≤n-a.length:=by omega
 rw[field,hdrop,take_take,Nat.min_eq_left hk,take_append_of_le_length (by simp),
  take_of_length_le (by simp),beValue_beBytes]

def Tx.following (ethHdr:EthHdr) (tx:Tx) : Nat := tx.pduEnd-(ethHdr.1.length+12)

structure WellFormed (ethHdr:EthHdr) (m r:AEMCommandResponse) (tx:Tx) : Prop where
 controlDataLength:field tx.frame (ethHdr.1.length+2) 2%2^11=tx.following ethHdr
 status:field tx.frame (ethHdr.1.length+2) 2/2^11=r.status.code
 controllerEntityId:field tx.frame (ethHdr.1.length+12) 8=m.controllerEntityId.toNat
 sequenceId:field tx.frame (ethHdr.1.length+20) 2=m.sequenceId.toNat
 commandType:field tx.frame (ethHdr.1.length+22) 2%2^15=m.commandData.commandType.toNat

lemma shiftLeft_or_parts {a b k:Nat} (hb:b<2^k) : (a <<< k ||| b)%2^k=b ∧ (a <<< k ||| b)/2^k=a := by
 rw[←Nat.shiftLeft_add_eq_or_of_lt hb,Nat.shiftLeft_eq]
 constructor
 · rw[Nat.mul_comm,Nat.mul_add_mod,Nat.mod_eq_of_lt hb]
 · rw[Nat.mul_comm,Nat.mul_add_div (Nat.two_pow_pos k),Nat.div_eq_of_lt hb,Nat.add_zero]

lemma Status.code_lt (status:Status) : status.code<2^5 := by
 cases status<;>decide

lemma statusWord_parts : (statusWord r ||| dataLength r)%256^2%2^11=
  (r.controlDataLength.toNat ||| dataLength r) ∧
  (statusWord r ||| dataLength r)%256^2/2^11=r.status.code := by
 have hlow:(r.controlDataLength.toNat ||| dataLength r)<2^11:=
  Nat.or_lt_two_pow r.controlDataLength.isLt (dataLength_lt r)
 have hword:statusWord r ||| dataLength r=
  r.status.code <<< 11 ||| (r.controlDataLength.toNat ||| dataLength r):=by
  rw[statusWord,Nat.shiftLeft_zero,Nat.or_assoc]
 have hlt:statusWord r ||| dataLength r<256^2:=by
  rw[hword]
  apply Nat.or_lt_two_pow (n:=16)
  · have hcode:=Status.code_lt r.status
    omega
  · omega
 rw[Nat.mod_eq_of_lt hlt,hword]
 exact shiftLeft_or_parts hlow

lemma typeWord_type : typeWord r%256^2%2^15=r.commandData.commandType.toNat := by
 have htype:=r.commandData.commandType.isLt
 have hdvd:2^15 ∣ 256^2:=by decide
 rw[Nat.mod_mod_of_dvd _ hdvd]
 exact (shiftLeft_or_parts htype).1

section Fields
variable (ethHdr:EthHdr) {r:AEMCommandResponse}

lemma tx_following (h:r.messageType=messageTypeAemResponse) :
 (openavbAecpMessageTxFrame ethHdr r).following ethHdr=dataLength r := by
 obtain ⟨rest,-,hend⟩:=txFrame_eq ethHdr r h
 rw[Tx.following,hend,Nat.add_sub_cancel_left]

lemma tx_fields (h:r.messageType=messageTypeAemResponse) :
 let frame:=(openavbAecpMessageTxFrame ethHdr r).frame
 field frame (ethHdr.1.length+2) 2=(statusWord r ||| dataLength r)%256^2 ∧
  field frame (ethHdr.1.length+12) 8=r.controllerEntityId.toNat%256^8 ∧
  field frame (ethHdr.1.length+20) 2=r.sequenceId.toNat%256^2 ∧
  field frame (ethHdr.1.length+22) 2=typeWord r%256^2 := by
 obtain ⟨rest,hframe,-⟩:=txFrame_eq ethHdr r h
 have hhdr:=sentHdr_length ethHdr r
 have hflags:(flagOctets r).length=2:=by simp[flagOctets]
 have hread:∀(a later:List UInt8) (k v offset:Nat),a.length=ethHdr.1.length+offset →
  offset+k≤24 → responseBytes ethHdr r rest=a++(beBytes k v++later) →
  field ((responseBytes ethHdr r rest).take (max (ethHdr.1.length+12+dataLength r) 64))
   (ethHdr.1.length+offset) k=v%256^k:=by
  intro a later k v offset ha hk hbytes
  rw[hbytes,←ha]
  apply field_eq
  omega
 rw[hframe]
 refine ⟨?_,?_,?_,?_⟩
 · apply hread (sentHdr ethHdr r++flagOctets r) _ 2 _ 2 (by simp[hhdr,hflags]) (by omega)
   simp only[append_assoc]
   rfl
 · apply hread (sentHdr ethHdr r++flagOctets r++beBytes 2 (statusWord r ||| dataLength r)++
    beBytes 8 r.targetEntityId.toNat) _ 8 _ 12 (by simp[hhdr,hflags]) (by omega)
   simp only[append_assoc]
   rfl
 · apply hread (sentHdr ethHdr r++flagOctets r++beBytes 2 (statusWord r ||| dataLength r)++
    beBytes 8 r.targetEntityId.toNat++beBytes 8 r.controllerEntityId.toNat) _ 2 _ 20
    (by simp[hhdr,hflags]) (by omega)
   simp only[append_assoc]
   rfl
 · apply hread (sentHdr ethHdr r++flagOctets r++beBytes 2 (statusWord r ||| dataLength r)++
    beBytes 8 r.targetEntityId.toNat++beBytes 8 r.controllerEntityId.toNat++
    beBytes 2 r.sequenceId.toNat) _ 2 _ 22 (by simp[hhdr,hflags]) (by omega)
   simp only[append_assoc]
   rfl

end Fields

theorem response_wellFormed_iff (ethHdr:EthHdr) (env:Env) (m:AEMCommandResponse) (e:Entity)
 : WellFormed ethHdr m (handle env m e).2 (openavbAecpMessageTxFrame ethHdr (handle env m e).2) ↔
  m.controlDataLength.toNat ||| dataLength (handle env m e).2=dataLength (handle env m e).2 := by
 have hanswers:=handle_answers env m e
 obtain ⟨hword,hcontroller,hsequence,htype⟩:=tx_fields ethHdr hanswers.messageType
 obtain ⟨hlength,hstatus⟩:=statusWord_parts (handle env m e).2
 have hfollowing:=tx_following ethHdr hanswers.messageType
 rw[←hanswers.controlDataLength,←hlength]
 constructor
 · intro h
   rw[←hword,h.controlDataLength,hfollowing]
 · intro h
   refine ⟨?_,?_,?_,?_,?_⟩
   · rw[hword,h,hfollowing]
   · rw[hword,hstatus]
   · rw[hcontroller,hanswers.controllerEntityId]
     exact Nat.mod_eq_of_lt m.controllerEntityId.isLt
   · rw[hsequence,hanswers.sequenceId]
     exact Nat.mod_eq_of_lt m.sequenceId.isLt
   · rw[htype,typeWord_type,hanswers.commandType]

def getControlCommand : AEMCommandResponse :=
 ⟨0x020304050607,1,0x7b,0,0,messageTypeAemCommand,.success,16,1,2,3,0,.getControl ⟨descriptorControl,0⟩ []⟩
def plainEthHdr : EthHdr := ⟨List.replicate 14 0,by decide⟩

theorem get_control_length_wrong :
 let r:=(handle ⟨true,none,(0,0)⟩ getControlCommand
  ⟨false,0,false,0,⟨1,1,[],[],[],[],[]⟩,[]⟩).2
 let tx:=openavbAecpMessageTxFrame plainEthHdr r
 tx.following plainEthHdr=12 ∧ field tx.frame 16 2%2^11=28 ∧
  ¬WellFormed plainEthHdr getControlCommand r tx := by
 refine ⟨by decide +kernel,by decide +kernel,fun h=>?_⟩
 exact absurd h.controlDataLength (by decide +kernel)

end OpenAvnu.Aecp
