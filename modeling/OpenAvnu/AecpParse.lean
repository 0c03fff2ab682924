import OpenAvnu.AecpEntity
import OpenAvnu.Bytes

/-!
# Received AECP messages

`openavbAecpMessageRxFrameParse`. Only at the end is the pointer compared with the length of the
payload.
-/

namespace OpenAvnu.Aecp

open Bytes List

abbrev Memory := Nat → UInt8
def octets (mem:Memory) (pos width:Nat) : Nat := beValue ((List.range width).map fun i=>mem (pos+i))

/-- `BIT_B2DNTOHB` and `BIT_B2DNTOHS`; the mask is cut to the type that is read. -/
def readBits (mem:Memory) (pos width msk shf:Nat) : Nat := (octets mem pos width &&& msk%256^width) >>> shf
def readDescriptorId (mem:Memory) (pos:Nat) : DescriptorId :=
 ⟨.ofNat 16 (octets mem pos 2),.ofNat 16 (octets mem (pos+2) 2)⟩

def readStreamInfo (mem:Memory) (pos:Nat) : StreamInfo where
 flags := .ofNat 32 (octets mem pos 4)
 streamFormat:=.ofNat 64 (octets mem (pos+4) 8)
 streamId:=.ofNat 64 (octets mem (pos+12) 8)
 msrpAccumulatedLatency:=.ofNat 32 (octets mem (pos+20) 4)
 streamDestMac:=.ofNat 48 (octets mem (pos+24) 6)
 msrpFailureCode:=.ofNat 8 (octets mem (pos+30) 1)
 reserved1:=.ofNat 8 (octets mem (pos+31) 1)
 msrpFailureBridgeId:=.ofNat 64 (octets mem (pos+32) 8)
 streamVlanId:=.ofNat 16 (octets mem (pos+40) 2)
 reserved2:=.ofNat 16 (octets mem (pos+42) 2)

def StreamInfo.zero : StreamInfo := ⟨0,0,0,0,0,0,0,0,0,0⟩

/-- The data behind the command type at `pos` and the position behind them, without the values of
SET_CONTROL. -/
def readCommandData (mem:Memory) (commandType:BitVec 15) (pos:Nat) : CommandData×Nat :=
 let d:=readDescriptorId mem pos
 if h:commandType∈handledTypes then
  match commandType.toNat with
  | 0x00=>
   (.acquireEntity (.ofNat 32 (octets mem pos 4)) (.ofNat 64 (octets mem (pos+4) 8))
    (readDescriptorId mem (pos+12)),pos+16)
  | 0x01=>(.lockEntity,pos)
  | 0x02=>(.entityAvailable,pos)
  | 0x04=>
   (.readDescriptor (.ofNat 16 (octets mem pos 2)) (.ofNat 16 (octets mem (pos+2) 2))
    (readDescriptorId mem (pos+4)) none,pos+8)
  | 0x08=>(.setStreamFormat d (.ofNat 64 (octets mem (pos+4) 8)),pos+12)
  | 0x09=>(.getStreamFormat d 0,pos+4)
  | 0x0e=>(.setStreamInfo d (readStreamInfo mem (pos+4)),pos+48)
  | 0x0f=>(.getStreamInfo d .zero,pos+4)
  | 0x14=>(.setSamplingRate d (.ofNat 32 (octets mem (pos+4) 4)),pos+8)
  | 0x15=>(.getSamplingRate d 0,pos+4)
  | 0x16=>
   (.setClockSource d (.ofNat 16 (octets mem (pos+4) 2)) (.ofNat 16 (octets mem (pos+6) 2)),pos+8)
  | 0x17=>(.getClockSource d 0 0,pos+4)
  | 0x18=>(.setControl d [] 0,pos+4)
  | 0x19=>(.getControl d [],pos+4)
  | 0x22=>(.startStreaming d,pos+4)
  | 0x23=>(.stopStreaming d,pos+4)
  | _=>(.getCounters d 0 0,pos+4)
 else (.other ⟨commandType,h⟩,pos)

inductive Abi where
 | bits32 | bits64
deriving DecidableEq, Repr

def Abi.pointerSize : Abi → Nat
 | .bits32=>4
 | .bits64=>8

def ControlValueType.elementSize : ControlValueType → Nat
 | .linearInt8 | .linearUint8=>1
 | .linearInt16 | .linearUint16=>2
 | .linearInt32 | .linearUint32 | .linearFloat=>4
 | .linearInt64 | .linearUint64 | .linearDouble=>8
 | .notLinear _=>0

def ControlValueType.capacity : ControlValueType → Nat
 | .linearInt8 | .linearUint8=>40
 | .linearInt16 | .linearUint16=>25
 | .linearInt32 | .linearUint32 | .linearFloat=>14
 | .linearInt64 | .linearUint64 | .linearDouble=>7
 | .notLinear _=>0

/-- `OCT_B2DMEMCP` takes the size of its first argument, here the address of an element. -/
def ControlValueType.stride (abi:Abi) : ControlValueType → Option Nat
 | .linearInt8 | .linearUint8=>some 1
 | .linearInt16 | .linearUint16=>some 2
 | .linearInt32 | .linearUint32=>some 4
 | .linearInt64 | .linearUint64 | .linearFloat | .linearDouble=>some abi.pointerSize
 | .notLinear _=>none

/-- The types that the switch lists as not yet supported. -/
def ControlValueType.isListed : ControlValueType → Bool
 | .notLinear code=>decide (0x000a ≤ code ∧ code≤0x0023 ∨ code=0x3ffe)
 | _=>false

/-- What is left in an element: the bytes that were copied into it, and 0 behind them. -/
def valueAt (abi:Abi) (t:ControlValueType) (mem:Memory) (pos:Nat) : BitVec 64 :=
 let copied:=min t.elementSize ((t.stride abi).getD 0)
 .ofNat 64 (octets mem pos copied*256^(t.elementSize-copied))

/-- `while ((pSrc < pSrcEnd) || bDone)`, with the position and the values behind it. -/
def valueLoop (abi:Abi) (t:ControlValueType) (mem:Memory) (srcEnd:Nat) :
 Nat → Bool → Nat → List (BitVec 64) → Option (Nat×List (BitVec 64))
 | 0, _, _, _=>none
 | fuel+1, done, pos, values=>
  if pos<srcEnd ∨ done=true then
   match t.stride abi with
   | some stride=>
    valueLoop abi t mem srcEnd fuel done (pos+stride) (values++[valueAt abi t mem pos])
   | none=>valueLoop abi t mem srcEnd fuel (done||t.isListed) pos values
  else some (pos,values)

def readValues (abi:Abi) (ds:Descriptors) (mem:Memory) (srcEnd fuel:Nat) :
 CommandData×Nat → Option (CommandData×Nat)
 | (.setControl d values valuesCount,pos)=>
  match ds.control d with
  | none=>some (.setControl d values valuesCount,pos)
  | some c=>
   (valueLoop abi c.controlValueType mem srcEnd fuel false pos []).map fun r=>
    (.setControl d r.2 r.2.length,r.1)
 | read=>some read

def avtpSubtype : BitVec 7 := 0x7b

/-- The status that a number in the header stands for; reserved numbers are not told apart. -/
def Status.ofCode (code:Nat) : Status :=
 [.success,.notImplemented,.noSuchDescriptor,.entityLocked,.entityAcquired,.notAuthenticated,
  .authenticationDisabled,.badArguments,.noResources,.inProgress,.entityMisbehaving,
  .notSupported,.streamIsRunning].getD code .success
def readSubtype (mem:Memory) : BitVec 7 := .ofNat 7 (readBits mem 0 1 0x7f 0)
def readMessageType (mem:Memory) : BitVec 4 := .ofNat 4 (readBits mem 1 1 0x0f 0)
def readControlDataLength (mem:Memory) : BitVec 11 := .ofNat 11 (readBits mem 2 2 0x07ff 0)
def readCommandType (mem:Memory) : BitVec 15 := .ofNat 15 (readBits mem 22 2 0x7fff 0)

def readCommand (host:BitVec 48) (mem:Memory) (commandData:CommandData) : AEMCommandResponse where
 host := host
 cd:=.ofNat 1 (readBits mem 0 1 0x80 7)
 subtype:=readSubtype mem
 sv:=.ofNat 1 (readBits mem 1 1 0x80 7)
 version:=.ofNat 3 (readBits mem 1 1 0x70 4)
 messageType:=readMessageType mem
 status:=.ofCode (readBits mem 2 1 0xf800 11)
 controlDataLength:=readControlDataLength mem
 targetEntityId:=.ofNat 64 (octets mem 4 8)
 controllerEntityId:=.ofNat 64 (octets mem 12 8)
 sequenceId:=.ofNat 16 (octets mem 20 2)
 u:=.ofNat 1 (readBits mem 22 2 0x8000 15)
 commandData:=commandData

/-- The command read, if there is one, the offsets inspected, and whether the state machine gets it.
-/
structure Parsed where
 command:Option AEMCommandResponse
 inspected:Nat
 notified:Bool

/-- `openavbAecpMessageRxFrameParse`; without a result, the loop has not ended within `fuel`
turns. -/
def openavbAecpMessageRxFrameParse (abi:Abi) (ds:Descriptors) (host:BitVec 48) (mem:Memory)
 (payloadLen fuel:Nat) : Option Parsed :=
 if readSubtype mem≠avtpSubtype then some ⟨none,12,false⟩
 else if readMessageType mem≠messageTypeAemCommand then some ⟨none,22,false⟩
 else
  (readValues abi ds mem (24+(readControlDataLength mem).toNat) fuel
   (readCommandData mem (readCommandType mem) 24)).map fun r=>
    ⟨some (readCommand host mem r.1),r.2,decide (r.2≤payloadLen)⟩

lemma readCommandData_commandType (mem:Memory) (commandType:BitVec 15) (pos:Nat) :
 (readCommandData mem commandType pos).1.commandType=commandType := by
 unfold readCommandData
 by_cases h:commandType∈handledTypes
 · simp only[handledTypes,mem_cons,not_mem_nil,or_false] at h
   rcases h with rfl|rfl|rfl|rfl|rfl|rfl|rfl|rfl|rfl|rfl|rfl|rfl|rfl|rfl |
    rfl | rfl | rfl<;>rfl
 · rw[dif_neg h]
   rfl

/-- The values that the control data length counts, from offset 28 on. -/
def carriedValues (t:ControlValueType) (mem:Memory) (controlDataLength:Nat) : List (BitVec 64) :=
 (List.range ((controlDataLength-16)/t.elementSize)).map fun i=>
  .ofNat 64 (octets mem (28+i*t.elementSize) t.elementSize)
def turns (stride size:Nat) : Nat := (size+stride-1)/stride
def storedValues (abi:Abi) (t:ControlValueType) (mem:Memory) (stride pos size:Nat) :
 List (BitVec 64) := (List.range (turns stride size)).map fun i=>valueAt abi t mem (pos+i*stride)

variable {stride size:Nat} {abi:Abi} {controlDataLength fuel:Nat} {c:Control}

lemma turns_zero (h:0<stride) : turns stride 0=0 := Nat.div_eq_of_lt (by omega)

lemma turns_succ (h:0<stride) (hsize:0<size) : turns stride size=turns stride (size-stride)+1 := by
 unfold turns
 by_cases hle:stride ≤ size
 · have hsplit:size+stride-1=(size-stride+stride-1)+stride:=by omega
   rw[hsplit,Nat.add_div_right _ h]
 · have hfirst:(size+stride-1)/stride=1:=by
    apply Nat.div_eq_of_lt_le<;>omega
   have hrest:(size-stride+stride-1)/stride=0:=by
    apply Nat.div_eq_of_lt
    omega
   rw[hfirst,hrest]

lemma storedValues_succ (abi:Abi) (t:ControlValueType) (mem:Memory) (pos:Nat)
 (h:0<stride) (hsize:0<size) : storedValues abi t mem stride pos size=
  valueAt abi t mem pos::storedValues abi t mem stride (pos+stride) (size-stride) := by
 unfold storedValues
 rw[turns_succ h hsize,range_succ_eq_map,map_cons,map_map,Nat.zero_mul]
 congr 2
 funext i
 simp only[Function.comp_apply,Nat.succ_eq_add_one]
 congr 1
 rw[Nat.add_mul]
 omega

/-! ## Bounds of the AECP parser -/

section Loop
variable {abi:Abi} {t:ControlValueType} {mem:Memory} {srcEnd:Nat} {pos:Nat}

lemma valueLoop_end (h:srcEnd≤pos) (fuel:Nat) (values:List (BitVec 64)) :
 valueLoop abi t mem srcEnd (fuel+1) false pos values=some (pos,values) := by
 rw[valueLoop,if_neg (by simp;omega)]

lemma valueLoop_stuck (ht:t.stride abi=none) (h:pos<srcEnd) (fuel:Nat) (done:Bool)
 (values:List (BitVec 64)) : valueLoop abi t mem srcEnd fuel done pos values=none := by
 induction fuel generalizing done with
 | zero=>rfl
 | succ fuel ih=>
  rw[valueLoop,if_pos (.inl h),ht]
  exact ih _

lemma valueLoop_eq {stride:Nat} (ht:t.stride abi=some stride) (hstride:0<stride)
 (fuel pos:Nat) (values:List (BitVec 64)) : valueLoop abi t mem srcEnd fuel false pos values=
  if turns stride (srcEnd-pos)<fuel then
   some (pos+turns stride (srcEnd-pos)*stride,values++storedValues abi t mem stride pos (srcEnd-pos))
  else none := by
 induction fuel generalizing pos values with
 | zero=>rfl
 | succ fuel ih=>
  by_cases hpos:pos<srcEnd
  · have hsize:0<srcEnd-pos:=by omega
    have hrest:srcEnd-(pos+stride)=srcEnd-pos-stride:=by omega
    have hend:pos+stride+turns stride (srcEnd-pos-stride)*stride=
     pos+(turns stride (srcEnd-pos-stride)+1)*stride:=by
     rw[Nat.add_mul]
     omega
    rw[valueLoop,if_pos (.inl hpos),ht]
    dsimp only
    rw[ih,hrest,turns_succ hstride hsize,storedValues_succ abi t mem pos hstride hsize,hend,
     append_assoc,singleton_append]
    simp
  · have hsize:srcEnd-pos=0:=by omega
    rw[valueLoop_end (by omega),hsize,storedValues,turns_zero hstride]
    simp

end Loop

variable {t:ControlValueType}

lemma stride_pos (h:t.stride abi=some stride) : 0<stride := by
 cases t<;>cases abi<;>cases h<;>decide

lemma turns_ne_carried (h:t.stride abi=some stride) (hlength:4<controlDataLength)
 (hfloat:¬(abi=.bits64 ∧ t=.linearFloat)) :
 turns stride (controlDataLength-4)≠(controlDataLength-16)/t.elementSize := by
 cases t<;>cases abi<;>cases h <;>
  simp only[turns,ControlValueType.elementSize,Abi.pointerSize,true_and,not_true_eq_false] at hfloat ⊢<;>omega

variable {abi:Abi} {ds:Descriptors} {host:BitVec 48} {mem:Memory} {payloadLen:Nat}

def namedControl (ds:Descriptors) (mem:Memory) : Option Control :=
 if readSubtype mem=avtpSubtype ∧ readMessageType mem=messageTypeAemCommand ∧
  readCommandType mem=0x18 then
  ds.control (readDescriptorId mem 24)
 else none
def fixedEnd (mem:Memory) : Nat :=
 if readSubtype mem≠avtpSubtype then 12
 else if readMessageType mem≠messageTypeAemCommand then 22
 else (readCommandData mem (readCommandType mem) 24).2
def StoresValues (ds:Descriptors) (mem:Memory) (p:Parsed) : Prop :=
 ∀m d values valuesCount c,p.command=some m → m.commandData=.setControl d values valuesCount →
  ds.control d=some c →
  values=carriedValues c.controlValueType mem m.controlDataLength.toNat ∧
   valuesCount=values.length ∧ valuesCount ≤ c.controlValueType.capacity

def ParsesWell (abi:Abi) (ds:Descriptors) (host:BitVec 48) (mem:Memory)
 (payloadLen:Nat) : Prop := ∃fuel p,openavbAecpMessageRxFrameParse abi ds host mem payloadLen fuel=some p ∧
  p.inspected≤payloadLen ∧ StoresValues ds mem p

lemma readValues_eq {srcEnd:Nat} {read:CommandData×Nat}
 (h:∀d values valuesCount,read.1=.setControl d values valuesCount → ds.control d=none) :
 readValues abi ds mem srcEnd fuel read=some read := by
 obtain ⟨data,pos⟩:=read
 cases data
 case setControl d values valuesCount=>simp only[readValues,h d values valuesCount rfl]
 all_goals rfl

variable {values:List (BitVec 64)}

lemma readCommandData_setControl {d:DescriptorId} {valuesCount:Nat} {commandType:BitVec 15}
 (h:(readCommandData mem commandType 24).1=.setControl d values valuesCount) :
 commandType=0x18 ∧ d=readDescriptorId mem 24 := by
 have htype:commandType=0x18:=by
  rw[←readCommandData_commandType mem commandType 24,h]
  rfl
 subst htype
 cases h
 exact ⟨rfl,rfl⟩

variable (abi host payloadLen) in
lemma parse_unnamed (hnamed:namedControl ds mem=none) (fuel:Nat) :
 ∃p,openavbAecpMessageRxFrameParse abi ds host mem payloadLen fuel=some p ∧
  p.inspected=fixedEnd mem ∧ StoresValues ds mem p := by
 unfold openavbAecpMessageRxFrameParse fixedEnd
 by_cases hsubtype:readSubtype mem=avtpSubtype
 · by_cases hmessage:readMessageType mem=messageTypeAemCommand
   · have hcontrol:∀d values valuesCount,
      (readCommandData mem (readCommandType mem) 24).1=.setControl d values valuesCount →
      ds.control d=none:=by
      intro d values valuesCount hdata
      obtain ⟨htype,rfl⟩:=readCommandData_setControl hdata
      rwa[namedControl,if_pos ⟨hsubtype,hmessage,htype⟩] at hnamed
     rw[if_neg (not_not.2 hsubtype),if_neg (not_not.2 hmessage),if_neg (not_not.2 hsubtype),
      if_neg (not_not.2 hmessage),readValues_eq hcontrol]
     refine ⟨_,rfl,rfl,?_⟩
     intro m d values valuesCount c hm hdata hc
     cases hm
     rw[hcontrol d values valuesCount hdata] at hc
     cases hc
   · rw[if_neg (not_not.2 hsubtype),if_pos hmessage,if_neg (not_not.2 hsubtype),if_pos hmessage]
     refine ⟨_,rfl,rfl,?_⟩
     intro m d values valuesCount c hm
     cases hm
 · rw[if_pos hsubtype,if_pos hsubtype]
   refine ⟨_,rfl,rfl,?_⟩
   intro m d values valuesCount c hm
   cases hm

variable (abi host payloadLen) in
lemma parse_named (hnamed:namedControl ds mem=some c) (fuel:Nat) :
 fixedEnd mem=28 ∧ ds.control (readDescriptorId mem 24)=some c ∧
  openavbAecpMessageRxFrameParse abi ds host mem payloadLen fuel=
   (valueLoop abi c.controlValueType mem (24+(readControlDataLength mem).toNat) fuel false 28
    []).map fun r=>
     ⟨some (readCommand host mem (.setControl (readDescriptorId mem 24) r.2 r.2.length)),r.1,
      decide (r.1≤payloadLen)⟩ := by
 unfold namedControl at hnamed
 split at hnamed
 · next h=>
   obtain ⟨hsubtype,hmessage,htype⟩:=h
   have hread:readCommandData mem (readCommandType mem) 24=(.setControl (readDescriptorId mem 24) [] 0,28):=by
    rw[htype]
    rfl
   refine ⟨?_,hnamed,?_⟩
   · rw[fixedEnd,if_neg (not_not.2 hsubtype),if_neg (not_not.2 hmessage),hread]
   · rw[openavbAecpMessageRxFrameParse,if_neg (not_not.2 hsubtype),if_neg (not_not.2 hmessage),hread]
     simp only[readValues,hnamed,Option.map_map]
     rfl
 · cases hnamed

lemma storesValues_iff {inspected:Nat} {b:Bool}
 (hcontrol:ds.control (readDescriptorId mem 24)=some c) : StoresValues ds mem
  ⟨some (readCommand host mem (.setControl (readDescriptorId mem 24) values values.length)),inspected,b⟩ ↔
  values=carriedValues c.controlValueType mem (readControlDataLength mem).toNat ∧
   values.length ≤ c.controlValueType.capacity := by
 constructor
 · intro h
   obtain ⟨hvalues,-,hroom⟩:=h _ _ _ _ c rfl rfl hcontrol
   exact ⟨hvalues,hroom⟩
 · rintro ⟨hvalues,hroom⟩ m d stored valuesCount c' hm hdata hc
   cases hm
   cases hdata
   rw[hcontrol] at hc
   cases hc
   exact ⟨hvalues,rfl,hroom⟩

/-- With pointers of 8 bytes, the first halves of what is taken are the floats carried. -/
def FloatsAgree (abi:Abi) (t:ControlValueType) (mem:Memory) (payloadLen:Nat) : Prop :=
 let length:=(readControlDataLength mem).toNat
 abi=.bits64 ∧ t=.linearFloat ∧ length∈[28,32,33,34,35,37,38,39] ∧
  28+(length-16)/4*8≤payloadLen ∧
  ∀i < (length-16)/4,octets mem (28+i*8) 4=octets mem (28+i*4) 4

lemma octets_lt (mem:Memory) (pos:Nat) : octets mem pos 4<2^64 := by
 have hlt:=takeField_lt 4 ((range 4).map fun i=>mem (pos+i))
 rw[takeField,take_of_length_le (by simp)] at hlt
 exact hlt.trans (by decide)

lemma floats_agree_iff (h:4<controlDataLength) :
 storedValues .bits64 .linearFloat mem 8 28 (controlDataLength-4)=
  carriedValues .linearFloat mem controlDataLength ↔
 controlDataLength∈[28,32,33,34,35,37,38,39] ∧
  ∀i < (controlDataLength-16)/4,octets mem (28+i*8) 4=octets mem (28+i*4) 4 := by
 have hturns:turns 8 (controlDataLength-4)=(controlDataLength-16)/4 ↔
  controlDataLength∈[28,32,33,34,35,37,38,39]:=by
  simp only[turns,mem_cons,not_mem_nil,or_false]
  omega
 have hvalue:∀pos pos',valueAt .bits64 .linearFloat mem pos=.ofNat 64 (octets mem pos' 4) ↔
  octets mem pos 4=octets mem pos' 4:=by
  intro pos pos'
  have hcopied:valueAt .bits64 .linearFloat mem pos=.ofNat 64 (octets mem pos 4*256^0):=rfl
  rw[hcopied,←BitVec.toNat_inj,BitVec.toNat_ofNat,BitVec.toNat_ofNat,Nat.pow_zero,Nat.mul_one,
   Nat.mod_eq_of_lt (octets_lt mem pos),Nat.mod_eq_of_lt (octets_lt mem pos')]
 rw[←hturns]
 constructor
 · intro heq
   have hlength:=congrArg List.length heq
   simp only[storedValues,carriedValues,length_map,length_range,ControlValueType.elementSize] at hlength
   refine ⟨hlength,fun i hi=>(hvalue _ _).1 ?_⟩
   rw[storedValues,carriedValues,hlength] at heq
   exact map_inj_left.1 heq i (mem_range.2 hi)
 · rintro ⟨hlength,hbytes⟩
   rw[storedValues,carriedValues,hlength]
   exact map_congr_left fun i hi=>(hvalue _ _).2 (hbytes i (mem_range.1 hi))
lemma carriedValues_short (t:ControlValueType) (h:controlDataLength≤4) :
 carriedValues t mem controlDataLength=[] := by
 rw[carriedValues,Nat.sub_eq_zero_of_le (by omega),Nat.zero_div]
 rfl

lemma parsesWell_named (hnamed:namedControl ds mem=some c) : ParsesWell abi ds host mem payloadLen ↔
  ∃fuel pos values,valueLoop abi c.controlValueType mem
   (24+(readControlDataLength mem).toNat) fuel false 28 []=some (pos,values) ∧
   pos≤payloadLen ∧
   values=carriedValues c.controlValueType mem (readControlDataLength mem).toNat ∧
   values.length ≤ c.controlValueType.capacity := by
 constructor
 · rintro ⟨fuel,p,hparse,hinspected,hstores⟩
   obtain ⟨-,hcontrol,heq⟩:=parse_named abi host payloadLen hnamed fuel
   rw[heq,Option.map_eq_some_iff] at hparse
   obtain ⟨⟨pos,values⟩,hloop,rfl⟩:=hparse
   exact ⟨fuel,pos,values,hloop,hinspected,(storesValues_iff hcontrol).1 hstores⟩
 · rintro ⟨fuel,pos,values,hloop,hpos,hvalues⟩
   obtain ⟨-,hcontrol,heq⟩:=parse_named abi host payloadLen hnamed fuel
   rw[hloop] at heq
   exact ⟨fuel,_,heq,hpos,(storesValues_iff hcontrol).2 hvalues⟩

lemma loop_agrees {pos:Nat}
 (hloop:valueLoop abi t mem (24+(readControlDataLength mem).toNat) fuel false 28 []=
  some (pos,values)) (hpos:pos≤payloadLen)
 (hvalues:values=carriedValues t mem (readControlDataLength mem).toNat)
 (hroom:values.length≤t.capacity) :
 28≤payloadLen ∧ ((readControlDataLength mem).toNat≤4 ∨ FloatsAgree abi t mem payloadLen) := by
 have hsize:24+(readControlDataLength mem).toNat-28=(readControlDataLength mem).toNat-4:=by omega
 by_cases hshort:(readControlDataLength mem).toNat≤4
 · cases fuel with
   | zero=>cases hloop
   | succ fuel=>
    rw[valueLoop_end (by omega)] at hloop
    cases hloop
    exact ⟨hpos,.inl hshort⟩
 · cases hstride:t.stride abi with
   | none=>
    rw[valueLoop_stuck hstride (by omega)] at hloop
    cases hloop
   | some stride=>
    rw[valueLoop_eq hstride (stride_pos hstride),hsize] at hloop
    split at hloop
    · cases hloop
      refine ⟨by omega,.inr ?_⟩
      by_cases hfloat:abi=.bits64 ∧ t=.linearFloat
      · obtain ⟨rfl,rfl⟩:=hfloat
        cases hstride
        have hlength:=congrArg List.length hvalues
        simp only[nil_append,storedValues,carriedValues,length_map,length_range] at hlength
        obtain ⟨hmem,hbytes⟩:=(floats_agree_iff (by omega)).1 hvalues
        exact ⟨rfl,rfl,hmem,hlength▸hpos,hbytes⟩
      · have hlength:=congrArg List.length hvalues
        simp only[nil_append,storedValues,carriedValues,length_map,length_range] at hlength
        exact absurd hlength (turns_ne_carried hstride (by omega) hfloat)
    · cases hloop

lemma loop_of_agrees (hfits:28≤payloadLen)
 (hcond:(readControlDataLength mem).toNat≤4 ∨ FloatsAgree abi t mem payloadLen) :
 ∃fuel pos values,valueLoop abi t mem (24+(readControlDataLength mem).toNat) fuel false 28 []=
  some (pos,values) ∧
  pos≤payloadLen ∧ values=carriedValues t mem (readControlDataLength mem).toNat ∧
  values.length≤t.capacity := by
 rcases hcond with hshort|⟨rfl,rfl,hmem,hpos,hbytes⟩
 · refine ⟨1,28,[],valueLoop_end (by omega) 0 [],hfits,?_,by simp⟩
   rw[carriedValues_short _ hshort]
 · have hsize:24+(readControlDataLength mem).toNat-28=(readControlDataLength mem).toNat-4:=by omega
   have hlengths:4 < (readControlDataLength mem).toNat ∧
    turns 8 ((readControlDataLength mem).toNat-4)=((readControlDataLength mem).toNat-16)/4 ∧
    ((readControlDataLength mem).toNat-16)/4≤14:=by
    simp only[mem_cons,not_mem_nil,or_false] at hmem
    simp only[turns]
    omega
   refine ⟨turns 8 ((readControlDataLength mem).toNat-4)+1,_,_,?_,hlengths.2.1▸hpos,
    (floats_agree_iff hlengths.1).2 ⟨hmem,hbytes⟩,by
     rw[storedValues,length_map,length_range,hlengths.2.1]
     exact hlengths.2.2⟩
   rw[valueLoop_eq rfl (by decide),Abi.pointerSize,hsize,if_pos (Nat.lt_succ_self _),nil_append]

/-- Exactly if the fixed part is inside the payload and a SET_CONTROL has no room for values, up to
floats that agree. -/
theorem parsesWell_iff (abi:Abi) (ds:Descriptors) (host:BitVec 48) (mem:Memory)
 (payloadLen:Nat) : ParsesWell abi ds host mem payloadLen ↔
  fixedEnd mem≤payloadLen ∧ ∀c,namedControl ds mem=some c →
   (readControlDataLength mem).toNat≤4 ∨
    FloatsAgree abi c.controlValueType mem payloadLen := by
 cases hnamed:namedControl ds mem with
 | none=>
  constructor
  · rintro ⟨fuel,p,hparse,hinspected,-⟩
    obtain ⟨q,hq,hend,-⟩:=parse_unnamed abi host payloadLen hnamed fuel
    rw[hparse] at hq
    cases hq
    refine ⟨hend▸hinspected,?_⟩
    intro c hc
    cases hc
  · rintro ⟨hfits,-⟩
    obtain ⟨p,hparse,hend,hstores⟩:=parse_unnamed abi host payloadLen hnamed 0
    exact ⟨0,p,hparse,hend.trans_le hfits,hstores⟩
 | some c=>
  have hfixed:fixedEnd mem=28:=(parse_named abi host payloadLen hnamed 0).1
  rw[parsesWell_named hnamed,hfixed]
  constructor
  · rintro ⟨fuel,pos,values,hloop,hpos,hvalues,hroom⟩
    obtain ⟨hfits,hcond⟩:=loop_agrees hloop hpos hvalues hroom
    refine ⟨hfits,?_⟩
    rintro _ ⟨⟩
    exact hcond
  · rintro ⟨hfits,hcond⟩
    exact loop_of_agrees hfits (hcond c rfl)

def setControlMessage : Memory :=
 fun i=>[0xfb,0x00,0x00,17,0,0,0,0,0,0,0,1,0,0,0,0,0,0,0,2,0,7,0x00,0x18,0x00,0x1a,0,0,9].getD i 0
def oneControl (t:ControlValueType) : Descriptors := ⟨1,1,[],[],[],[],[⟨t,1,[5]⟩]⟩

/-- 13 values of one byte, a loop for a selector that never ends, and an empty payload. -/
theorem set_control_parse_fails :
 (openavbAecpMessageRxFrameParse .bits64 (oneControl .linearUint8) 0 setControlMessage 29 20).map
  (fun p=>(p.command.map AEMCommandResponse.commandData,p.inspected))=
  some (some (.setControl ⟨descriptorControl,0⟩ (9::replicate 12 0) 13),41) ∧
 carriedValues .linearUint8 setControlMessage 17=[9] ∧
 (∀fuel,openavbAecpMessageRxFrameParse .bits64 (oneControl (.notLinear 0x000a)) 0
  setControlMessage 29 fuel=none) ∧
 (openavbAecpMessageRxFrameParse .bits64 (oneControl .linearUint8) 0 (fun _=>0) 0 1).map
  Parsed.inspected=some 12 ∧
 (∀t∈[.linearUint8,.notLinear 0x000a],¬ParsesWell .bits64 (oneControl t) 0 setControlMessage 29) ∧
 ¬ParsesWell .bits64 (oneControl .linearUint8) 0 (fun _=>0) 0 := by
 have hnamed:∀t,namedControl (oneControl t) setControlMessage=some ⟨t,1,[5]⟩:=fun t=>rfl
 have hlong:28<24+(readControlDataLength setControlMessage).toNat:=by decide +kernel
 refine ⟨by decide +kernel,by decide +kernel,fun fuel=>?_,by decide +kernel,fun t ht hparses=>?_,?_⟩
 · rw[(parse_named .bits64 0 29 (hnamed _) fuel).2.2,valueLoop_stuck rfl hlong]
   rfl
 · obtain ⟨fuel,pos,values,hloop,hpos,hvalues,hroom⟩:=(parsesWell_named (hnamed t)).1 hparses
   rcases (loop_agrees hloop hpos hvalues hroom).2 with hshort|hfloats
   · omega
   · obtain rfl:t=.linearFloat:=hfloats.2.1
     simp at ht
 · rintro ⟨fuel,p,hparse,hinspected,-⟩
   have hnone:namedControl (oneControl .linearUint8) (fun _=>0)=none:=rfl
   obtain ⟨q,hq,hend,-⟩:=parse_unnamed .bits64 0 0 hnone fuel
   rw[hparse] at hq
   cases hq
   have hfixed:fixedEnd (fun _=>0)=12:=rfl
   omega

end OpenAvnu.Aecp
