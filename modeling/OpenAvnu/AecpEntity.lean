import OpenAvnu.AemStreamIo

/-!
# AECP messages and the entity they are about

`openavb_aecp.h` and what AEM commands use of the entity model. Bytes are a `BitVec`, the first one
on the left.
-/

namespace OpenAvnu.Aecp

open AemStreamIo

inductive Status where
 | success | notImplemented | noSuchDescriptor | entityLocked | entityAcquired | notAuthenticated
 | authenticationDisabled | badArguments | noResources | inProgress | entityMisbehaving
 | notSupported | streamIsRunning
deriving DecidableEq, Repr

def Status.code : Status → Nat
 | .success=>0
 | .notImplemented=>1
 | .noSuchDescriptor=>2
 | .entityLocked=>3
 | .entityAcquired=>4
 | .notAuthenticated=>5
 | .authenticationDisabled=>6
 | .badArguments=>7
 | .noResources=>8
 | .inProgress=>9
 | .entityMisbehaving=>10
 | .notSupported=>11
 | .streamIsRunning=>12

structure DescriptorId where
 (descriptorType descriptorIndex:BitVec 16)
deriving DecidableEq, Repr

def descriptorEntity : BitVec 16 := 0x0000
def descriptorAudioUnit : BitVec 16 := 0x0002
def descriptorStreamInput : BitVec 16 := 0x0005
def descriptorStreamOutput : BitVec 16 := 0x0006
def descriptorAvbInterface : BitVec 16 := 0x0009
def descriptorControl : BitVec 16 := 0x001a
def descriptorClockDomain : BitVec 16 := 0x0024

structure StreamInfo where
 flags:BitVec 32
 (streamFormat streamId:BitVec 64)
 msrpAccumulatedLatency:BitVec 32
 streamDestMac:BitVec 48
 (msrpFailureCode reserved1:BitVec 8)
 msrpFailureBridgeId:BitVec 64
 (streamVlanId reserved2:BitVec 16)
deriving DecidableEq, Repr

abbrev DescriptorData := {data:List UInt8 // data.length≤508}
def handledTypes : List (BitVec 15) :=
 [0x00,0x01,0x02,0x04,0x08,0x09,0x0e,0x0f,0x14,0x15,0x16,0x17,0x18,0x19,0x22,0x23,0x29]
abbrev UnhandledType := {commandType:BitVec 15 // commandType∉handledTypes}

/-- Members that a command does not carry are 0; `descriptorData` stands for the descriptor. -/
inductive CommandData where
 | acquireEntity (flags:BitVec 32) (ownerId:BitVec 64) (d:DescriptorId)
 | lockEntity
 | entityAvailable
 | readDescriptor (configurationIndex reserved:BitVec 16) (d:DescriptorId)
  (descriptorData:Option DescriptorData)
 | setStreamFormat (d:DescriptorId) (streamFormat:BitVec 64)
 | getStreamFormat (d:DescriptorId) (streamFormat:BitVec 64)
 | setStreamInfo (d:DescriptorId) (info:StreamInfo)
 | getStreamInfo (d:DescriptorId) (info:StreamInfo)
 | setSamplingRate (d:DescriptorId) (samplingRate:BitVec 32)
 | getSamplingRate (d:DescriptorId) (samplingRate:BitVec 32)
 | setClockSource (d:DescriptorId) (clockSourceIndex reserved:BitVec 16)
 | getClockSource (d:DescriptorId) (clockSourceIndex reserved:BitVec 16)
 | setControl (d:DescriptorId) (values:List (BitVec 64)) (valuesCount:Nat)
 | getControl (d:DescriptorId) (values:List (BitVec 64))
 | startStreaming (d:DescriptorId)
 | stopStreaming (d:DescriptorId)
 | getCounters (d:DescriptorId) (countersValid:BitVec 32) (countersBlock:BitVec 1024)
 | other (commandType:UnhandledType)
deriving DecidableEq

def CommandData.commandType : CommandData → BitVec 15
 | .acquireEntity ..=>0x00
 | .lockEntity=>0x01
 | .entityAvailable=>0x02
 | .readDescriptor ..=>0x04
 | .setStreamFormat ..=>0x08
 | .getStreamFormat ..=>0x09
 | .setStreamInfo ..=>0x0e
 | .getStreamInfo ..=>0x0f
 | .setSamplingRate ..=>0x14
 | .getSamplingRate ..=>0x15
 | .setClockSource ..=>0x16
 | .getClockSource ..=>0x17
 | .setControl ..=>0x18
 | .getControl ..=>0x19
 | .startStreaming _=>0x22
 | .stopStreaming _=>0x23
 | .getCounters ..=>0x29
 | .other commandType=>commandType.1

def messageTypeAemCommand : BitVec 4 := 0
def messageTypeAemResponse : BitVec 4 := 1

structure AEMCommandResponse where
 host:BitVec 48
 cd:BitVec 1
 subtype:BitVec 7
 sv:BitVec 1
 version:BitVec 3
 messageType:BitVec 4
 status:Status
 controlDataLength:BitVec 11
 (targetEntityId controllerEntityId:BitVec 64)
 sequenceId:BitVec 16
 u:BitVec 1
 commandData:CommandData
deriving DecidableEq

inductive ClientState where
 | unknown | stopped | stoppedUnexpectedly | running | paused
deriving DecidableEq, Repr

def ClientState.isRunning : ClientState → Bool
 | .running | .paused=>true
 | .unknown | .stopped | .stoppedUnexpectedly=>false

/-- `client` is the last state a connected client reported; `saved`: the saved state has an entry.
-/
structure Stream where
 client:Option ClientState
 streamAddr:Option (BitVec 48)
 streamUid:BitVec 16
 destAddr:Option (BitVec 48)
 vlanId:BitVec 16
 saved:Bool
deriving DecidableEq, Repr

structure StreamIo where
 currentFormat:BitVec 112
 fastConnectStatus:FastConnectStatus
 acmpFlags:BitVec 16
 acmpStreamId:BitVec 64
 acmpDestAddr:BitVec 48
 acmpStreamVlanId:BitVec 16
 stream:Option Stream
deriving DecidableEq, Repr

/-- `openavb_aem_sampling_rate_t`; three bytes of padding follow `pull`. -/
structure SamplingRate where
 pull:BitVec 8
 padding:BitVec 24
 base:BitVec 32
deriving DecidableEq, Repr

def SamplingRate.memory (r:SamplingRate) : BitVec 64 :=
 r.pull++r.padding++r.base.extractLsb' 0 8++r.base.extractLsb' 8 8++
  r.base.extractLsb' 16 8++r.base.extractLsb' 24 8

/-- `control_value_type`; the types that are not linear are all treated alike. -/
inductive ControlValueType where
 | linearInt8 | linearUint8 | linearInt16 | linearUint16 | linearInt32 | linearUint32
 | linearInt64 | linearUint64 | linearFloat | linearDouble
 | notLinear (code:BitVec 16)
deriving DecidableEq, Repr

def ControlValueType.isLinear : ControlValueType → Bool
 | .notLinear _=>false
 | _=>true

structure Control where
 controlValueType:ControlValueType
 numberOfValues:Nat
 currents:List (BitVec 64)
deriving DecidableEq, Repr

structure Descriptors where
 (entities avbInterfaces:Nat)
 (streamInputs streamOutputs:List StreamIo)
 audioUnits:List SamplingRate
 clockDomains:List (BitVec 16)
 controls:List Control
deriving DecidableEq, Repr

inductive Request where
 | talkerStreamID (stream:BitVec 16) (classB:Bool) (streamId:Option (BitVec 64))
  (streamDest:Option (BitVec 48)) (streamVlanId:Option (BitVec 16))
 | change (stream:DescriptorId) (desiredState:ClientState)
deriving DecidableEq, Repr

structure Entity where
 entityAcquired:Bool
 acquiredControllerId:BitVec 64
 entityLocked:Bool
 lockedControllerId:BitVec 64
 descriptors:Descriptors
 requests:List Request
deriving DecidableEq, Repr

def Descriptors.streamIo (ds:Descriptors) (d:DescriptorId) : Option StreamIo :=
 if d.descriptorType=descriptorStreamInput then ds.streamInputs[d.descriptorIndex.toNat]?
 else if d.descriptorType=descriptorStreamOutput then ds.streamOutputs[d.descriptorIndex.toNat]?
 else none
def Descriptors.audioUnit (ds:Descriptors) (d:DescriptorId) : Option SamplingRate :=
 if d.descriptorType=descriptorAudioUnit then ds.audioUnits[d.descriptorIndex.toNat]? else none
def Descriptors.clockDomain (ds:Descriptors) (d:DescriptorId) : Option (BitVec 16) :=
 if d.descriptorType=descriptorClockDomain then ds.clockDomains[d.descriptorIndex.toNat]?
 else none
def Descriptors.control (ds:Descriptors) (d:DescriptorId) : Option Control :=
 if d.descriptorType=descriptorControl then ds.controls[d.descriptorIndex.toNat]? else none

/-! ## The AECP entity state machine: commands -/

/-- Whether messages reach the process of a stream, what `openavbAemSerializeDescriptor` gives, and
the counters. -/
structure Env where
 delivered:Bool
 serialized:Option DescriptorData
 counters:BitVec 32×BitVec 1024

def flagRelease : BitVec 32 := 0x80000000

def acquireEntity (m:AEMCommandResponse) (flags:BitVec 32) (ownerId:BitVec 64)
 (d:DescriptorId) (e:Entity) : Entity×Status×BitVec 64 :=
 if d.descriptorType≠descriptorEntity then (e,.notSupported,ownerId)
 else if flags &&& flagRelease≠0 then ({e with entityAcquired:=false},m.status,ownerId)
 else if e.entityAcquired then
  if e.acquiredControllerId≠m.controllerEntityId then
   (e,.entityAcquired,e.acquiredControllerId)
  else (e,.success,ownerId)
 else
  ({e with entityAcquired:=true,acquiredControllerId:=m.controllerEntityId},m.status,m.controllerEntityId)

def processCommandCheckRestrictionCorrectController (m:AEMCommandResponse) (e:Entity) : Bool :=
 if e.entityAcquired then decide (e.acquiredControllerId=m.controllerEntityId)
 else if e.entityLocked then decide (e.lockedControllerId=m.controllerEntityId)
 else true
def openavbAVDECCGetStreamingState (io:StreamIo) : ClientState :=
 match io.stream.bind Stream.client with
 | some lastReportedState=>lastReportedState
 | none=>.unknown
def processCommandCheckRestrictionStreamNotRunning (d:DescriptorId) (e:Entity) : Bool :=
 match e.descriptors.streamIo d with
 | some io=>!(openavbAVDECCGetStreamingState io).isRunning
 | none=>true
def DescriptorId.isStream (d:DescriptorId) : Bool :=
 decide (d.descriptorType=descriptorStreamInput ∨ d.descriptorType=descriptorStreamOutput)

/-- The comparison takes all of the structure; behind the 8 bytes of the command the union is 0. -/
def setStreamFormat (m:AEMCommandResponse) (d:DescriptorId) (streamFormat:BitVec 64)
 (e:Entity) : Status×BitVec 64 :=
 let status:=
  if !processCommandCheckRestrictionCorrectController m e then .entityAcquired
  else if !processCommandCheckRestrictionStreamNotRunning d e then .streamIsRunning
  else if !d.isStream then .notImplemented
  else match e.descriptors.streamIo d with
   | some io=>if io.currentFormat=streamFormat++0#48 then .success else .notSupported
   | none=>.noSuchDescriptor
 match e.descriptors.streamIo d with
 | some io=>(status,io.currentFormat.extractLsb' 48 64)
 | none=>(status,streamFormat)

def getStreamFormat (d:DescriptorId) (streamFormat:BitVec 64) (e:Entity) : Status×BitVec 64 :=
 match e.descriptors.streamIo d with
 | some io=>
  (.success,if d.descriptorType=descriptorStreamInput then openavbAemStreamFormatToBuf io.currentFormat
   else io.currentFormat.extractLsb' 48 64)
 | none=>(.noSuchDescriptor,streamFormat)

def flagClassB : BitVec 32 := 0x00000001
def flagFastConnect : BitVec 32 := 0x00000002
def flagSavedState : BitVec 32 := 0x00000004
def flagStreamingWait : BitVec 32 := 0x00000008
def flagEncryptedPdu : BitVec 32 := 0x00000010
def flagStreamVlanIdValid : BitVec 32 := 0x02000000
def flagConnected : BitVec 32 := 0x04000000
def flagMsrpFailureValid : BitVec 32 := 0x08000000
def flagStreamDestMacValid : BitVec 32 := 0x10000000
def flagMsrpAccLatValid : BitVec 32 := 0x20000000
def flagStreamIdValid : BitVec 32 := 0x40000000
def flagStreamFormatValid : BitVec 32 := 0x80000000
def StreamInfo.has (info:StreamInfo) (flag:BitVec 32) : Bool := decide (info.flags &&& flag≠0)

/-- With the result and the message sent. The stream id is taken from the stream format. -/
def openavbAVDECCSetTalkerStreamInfo (env:Env) (d:DescriptorId) (info:StreamInfo)
 (io:StreamIo) : Bool×List Request :=
 if (io.stream.bind Stream.client).isSome&&env.delivered then
  (true,[.talkerStreamID d.descriptorIndex (info.has flagClassB)
   (if info.has flagStreamIdValid then some info.streamFormat else none)
   (if info.has flagStreamDestMacValid then some info.streamDestMac else none)
   (if info.has flagStreamVlanIdValid then some info.streamVlanId else none)])
 else (false,[])

/-- SET_STREAM_INFO behind the lookup. What follows the stream format in memory is the stream id. -/
def setStreamInfoOf (env:Env) (d:DescriptorId) (info:StreamInfo) (io:StreamIo) :
 Status×StreamInfo×List Request :=
 let rsp:={info with
  flags:=info.flags &&& ~~~flagMsrpAccLatValid &&& ~~~flagMsrpFailureValid
  msrpAccumulatedLatency:=0
  msrpFailureCode:=0
  msrpFailureBridgeId:=0}
 let changed:=io.currentFormat≠info.streamFormat++info.streamId.extractLsb' 16 48
 if info.has flagStreamFormatValid ∧ changed ∨ info.has flagEncryptedPdu then
  (.notSupported,rsp,[])
 else if d.descriptorType=descriptorStreamInput then
  if info.has flagStreamIdValid||info.has flagStreamDestMacValid ||
   info.has flagStreamVlanIdValid then
   (.badArguments,rsp,[])
  else (.success,rsp,[])
 else
  let sent:=openavbAVDECCSetTalkerStreamInfo env d info io
  (if sent.1 then .success else .notSupported,rsp,sent.2)

def setStreamInfo (env:Env) (m:AEMCommandResponse) (d:DescriptorId) (info:StreamInfo)
 (e:Entity) : Status×StreamInfo×List Request :=
 if !processCommandCheckRestrictionCorrectController m e then (.entityAcquired,info,[])
 else if !processCommandCheckRestrictionStreamNotRunning d e then (.streamIsRunning,info,[])
 else if !d.isStream then (.notImplemented,info,[])
 else match e.descriptors.streamIo d with
  | some io=>setStreamInfoOf env d info io
  | none=>(.noSuchDescriptor,info,[])

def StreamInfo.set (info:StreamInfo) (flag:BitVec 32) : StreamInfo :=
 {info with flags:=info.flags ||| flag}
def StreamInfo.setIf (info:StreamInfo) (b:Bool) (flag:BitVec 32) : StreamInfo :=
 if b then info.set flag else info

/-- `memcmp(pRsp->stream_id, zeros, 6) != 0`, which is also the test for the destination address. -/
def StreamInfo.sourceSet (info:StreamInfo) : Bool := decide (info.streamId.extractLsb' 16 48≠0)

def listenerStreamInfo (io:StreamIo) (rsp:StreamInfo) : StreamInfo :=
 let rsp:={rsp with streamId:=io.acmpStreamId}
 let rsp:=rsp.setIf (decide (rsp.streamId≠0)) flagStreamIdValid
 let rsp:={rsp with streamDestMac:=io.acmpDestAddr}
 let rsp:=rsp.setIf rsp.sourceSet flagStreamDestMacValid
 if rsp.has flagStreamIdValid&&rsp.has flagStreamDestMacValid then
  {rsp with streamVlanId:=io.acmpStreamVlanId}.set flagStreamVlanIdValid
 else rsp

/-- What a talker uses.  The unique id overwrites the first two bytes of the address. -/
def talkerStreamInfo (stream:Stream) (rsp:StreamInfo) : StreamInfo :=
 let rsp:=match stream.streamAddr with
  | some mac=>
   let streamId:BitVec 64:=
    stream.streamUid++mac.extractLsb' 0 32++rsp.streamId.extractLsb' 0 16
   {rsp with streamId:=streamId}.setIf (decide (streamId≠0)) flagStreamIdValid
  | none=>rsp
 let rsp:=match stream.destAddr with
  | some mac=>{rsp with streamDestMac:=mac}.setIf rsp.sourceSet flagStreamDestMacValid
  | none=>rsp
 if stream.vlanId≠0 then
  {rsp with streamVlanId:=stream.vlanId}.set flagStreamVlanIdValid
 else rsp

def getStreamInfoOf (d:DescriptorId) (io:StreamIo) (stream:Stream) (info:StreamInfo) : StreamInfo :=
 let clientState:=openavbAVDECCGetStreamingState io
 let rsp:={info with flags:=0}
 let rsp:=rsp.setIf io.fastConnectStatus.started flagFastConnect
 let rsp:=rsp.setIf stream.saved flagSavedState
 let rsp:=
  if clientState.isRunning then
   let rsp:=(rsp.set (io.acmpFlags.setWidth 32 &&& 0x33)).set flagConnected
   let rsp:=rsp.setIf (decide (clientState=.paused)) flagStreamingWait
   if d.descriptorType=descriptorStreamInput then listenerStreamInfo io rsp else rsp
  else rsp
 let rsp:=if d.descriptorType=descriptorStreamOutput then talkerStreamInfo stream rsp else rsp
 {rsp with streamFormat:=openavbAemStreamFormatToBuf io.currentFormat}.set flagStreamFormatValid

def getStreamInfo (d:DescriptorId) (info:StreamInfo) (e:Entity) : Status×StreamInfo :=
 match e.descriptors.streamIo d with
 | none=>(.noSuchDescriptor,info)
 | some io=>
  match io.stream with
  | none=>(.noSuchDescriptor,info)
  | some stream=>(.success,getStreamInfoOf d io stream info)

/-- The shape of SET_SAMPLING_RATE and SET_CLOCK_SOURCE: only the value that is set already is
accepted. -/
def setSame {δ:Type} (m:AEMCommandResponse) (e:Entity) (descriptor:Option δ)
 (kind:Bool) (same:δ → Bool) : Status :=
 if !processCommandCheckRestrictionCorrectController m e then .entityAcquired
 else if !kind then .notImplemented
 else match descriptor with
  | some value=>if same value then .success else .notSupported
  | none=>.noSuchDescriptor

/-- The comparison and the copy take the structure in memory, of 8 bytes. -/
def setSamplingRate (m:AEMCommandResponse) (d:DescriptorId) (samplingRate:BitVec 32)
 (e:Entity) : Status×BitVec 32 :=
 let status:=setSame m e (e.descriptors.audioUnit d)
  (decide (d.descriptorType=descriptorAudioUnit))
  (fun rate=>decide (rate.memory=samplingRate++0#32))
 match e.descriptors.audioUnit d with
 | some rate=>(status,rate.memory.extractLsb' 32 32)
 | none=>(status,samplingRate)

def getSamplingRate (d:DescriptorId) (samplingRate:BitVec 32) (e:Entity) : Status×BitVec 32 :=
 match e.descriptors.audioUnit d with
 | some rate=>(.success,(rate.pull.setWidth 32 <<< 29) ||| rate.base)
 | none=>(.noSuchDescriptor,samplingRate)

def setClockSource (m:AEMCommandResponse) (d:DescriptorId) (clockSourceIndex:BitVec 16)
 (e:Entity) : Status×BitVec 16 :=
 let status:=setSame m e (e.descriptors.clockDomain d)
  (decide (d.descriptorType=descriptorClockDomain)) (fun index=>decide
    (index=clockSourceIndex))
 (status,(e.descriptors.clockDomain d).getD clockSourceIndex)

def getClockSource (d:DescriptorId) (clockSourceIndex:BitVec 16) (e:Entity) : Status×BitVec 16 :=
 match e.descriptors.clockDomain d with
 | some index=>(.success,index)
 | none=>(.noSuchDescriptor,clockSourceIndex)

/-- The two loops over the values write the linear types only. -/
def Control.store (values:List (BitVec 64)) (valuesCount:Nat) (c:Control) : Control :=
 {c with
   numberOfValues:=valuesCount
   currents:=
    if c.controlValueType.isLinear then values.take valuesCount++c.currents.drop valuesCount
    else c.currents}

def Control.load (values:List (BitVec 64)) (c:Control) : List (BitVec 64) :=
 if c.controlValueType.isLinear then
  c.currents.take c.numberOfValues++values.drop c.numberOfValues
 else values

def setControl (m:AEMCommandResponse) (d:DescriptorId) (values:List (BitVec 64))
 (valuesCount:Nat) (e:Entity) : Entity×Status×List (BitVec 64) :=
 if !processCommandCheckRestrictionCorrectController m e then
  (e,.entityAcquired,match e.descriptors.control d with
   | some c=>c.load values
   | none=>values)
 else if d.descriptorType≠descriptorControl then (e,.notImplemented,values)
 else match e.descriptors.control d with
  | some c=>
   let c:=c.store values valuesCount
   ({e with descriptors:={e.descriptors with
    controls:=e.descriptors.controls.set d.descriptorIndex.toNat c}},.success,c.load values)
  | none=>(e,.noSuchDescriptor,values)

/-- The status of GET_CONTROL is not set to SUCCESS. -/
def getControl (d:DescriptorId) (values:List (BitVec 64)) (e:Entity) : Status×List (BitVec 64) :=
 match e.descriptors.control d with
 | some c=>(.noSuchDescriptor,c.load values)
 | none=>(.noSuchDescriptor,values)
def openavbAVDECCPauseStream (env:Env) (d:DescriptorId) (io:StreamIo) (pause:Bool) : List Request :=
 let needed:ClientState:=if pause then .running else .paused
 let desired:ClientState:=if pause then .paused else .running
 if io.stream.bind Stream.client=some needed ∧ env.delivered then [.change d desired] else []

def setStreaming (env:Env) (m:AEMCommandResponse) (d:DescriptorId) (pause:Bool)
 (e:Entity) : Status×List Request :=
 if !processCommandCheckRestrictionCorrectController m e then (.entityAcquired,[])
 else if !d.isStream then (.notImplemented,[])
 else match e.descriptors.streamIo d with
  | some io=>(.success,openavbAVDECCPauseStream env d io pause)
  | none=>(.noSuchDescriptor,[])

def getCounters (d:DescriptorId) (e:Entity) : Status :=
 let ds:=e.descriptors
 let index:=d.descriptorIndex.toNat
 let exists_:Bool:=
  if d.descriptorType=descriptorEntity then decide (index<ds.entities)
  else if d.descriptorType=descriptorAvbInterface then decide (index<ds.avbInterfaces)
  else if d.descriptorType=descriptorClockDomain then decide (index<ds.clockDomains.length)
  else if d.descriptorType=descriptorStreamInput then decide (index<ds.streamInputs.length)
  else false
 if exists_ then .success else .noSuchDescriptor

def DescriptorId.bytes (d:DescriptorId) : DescriptorData :=
 ⟨[.ofBitVec (d.descriptorType.extractLsb' 8 8),.ofBitVec (d.descriptorType.extractLsb' 0 8),
  .ofBitVec (d.descriptorIndex.extractLsb' 8 8),.ofBitVec (d.descriptorIndex.extractLsb' 0 8)],
  by simp⟩

def readDescriptor (env:Env) (configurationIndex reserved:BitVec 16) (d:DescriptorId) : Status×CommandData :=
 match env.serialized with
 | some descriptorData=>
  (.success,.readDescriptor configurationIndex reserved d (some descriptorData))
 | none=>(.noSuchDescriptor,.readDescriptor configurationIndex 0 d (some d.bytes))

def respond (m:AEMCommandResponse) (status:Status) (commandData:CommandData) : AEMCommandResponse :=
 {m with messageType:=messageTypeAemResponse,status:=status,commandData:=commandData}
def Entity.request (e:Entity) (requests:List Request) : Entity :=
 {e with requests:=e.requests++requests}

/-- `processCommand`; ACQUIRE_ENTITY and LOCK_ENTITY do not get here. -/
def processCommand (env:Env) (m:AEMCommandResponse) (e:Entity) : Entity×AEMCommandResponse
 :=
 match m.commandData with
 | .entityAvailable=>(e,respond m .success m.commandData)
 | .readDescriptor configurationIndex reserved d _=>
  let r:=readDescriptor env configurationIndex reserved d
  (e,respond m r.1 r.2)
 | .setStreamFormat d streamFormat=>
  let r:=setStreamFormat m d streamFormat e
  (e,respond m r.1 (.setStreamFormat d r.2))
 | .getStreamFormat d streamFormat=>
  let r:=getStreamFormat d streamFormat e
  (e,respond m r.1 (.getStreamFormat d r.2))
 | .setStreamInfo d info=>
  let r:=setStreamInfo env m d info e
  (e.request r.2.2,respond m r.1 (.setStreamInfo d r.2.1))
 | .getStreamInfo d info=>
  let r:=getStreamInfo d info e
  (e,respond m r.1 (.getStreamInfo d r.2))
 | .setSamplingRate d samplingRate=>
  let r:=setSamplingRate m d samplingRate e
  (e,respond m r.1 (.setSamplingRate d r.2))
 | .getSamplingRate d samplingRate=>
  let r:=getSamplingRate d samplingRate e
  (e,respond m r.1 (.getSamplingRate d r.2))
 | .setClockSource d clockSourceIndex reserved=>
  let r:=setClockSource m d clockSourceIndex e
  (e,respond m r.1 (.setClockSource d r.2 reserved))
 | .getClockSource d clockSourceIndex reserved=>
  let r:=getClockSource d clockSourceIndex e
  (e,respond m r.1 (.getClockSource d r.2 reserved))
 | .setControl d values valuesCount=>
  let r:=setControl m d values valuesCount e
  (r.1,respond m r.2.1 (.setControl d r.2.2 valuesCount))
 | .getControl d values=>
  let r:=getControl d values e
  (e,respond m r.1 (.getControl d r.2))
 | .startStreaming d=>
  let r:=setStreaming env m d false e
  (e.request r.2,respond m r.1 (.startStreaming d))
 | .stopStreaming d=>
  let r:=setStreaming env m d true e
  (e.request r.2,respond m r.1 (.stopStreaming d))
 | .getCounters d _ _=>
  (e,respond m (getCounters d e) (.getCounters d env.counters.1 env.counters.2))
 | .acquireEntity .. | .lockEntity | .other _=>(e,respond m .notImplemented m.commandData)

/-- One turn of the loop of the received-command state, for a command to this entity. -/
def handle (env:Env) (m:AEMCommandResponse) (e:Entity) : Entity×AEMCommandResponse :=
 match m.commandData with
 | .acquireEntity flags ownerId d=>
  let r:=acquireEntity m flags ownerId d e
  (r.1,respond m r.2.1 (.acquireEntity flags r.2.2 d))
 | .lockEntity=>(e,respond m .notImplemented m.commandData)
 | _=>processCommand env m e

def receivedCommand (myEntityID:BitVec 64) (env:Env) (m:AEMCommandResponse) (e:Entity) :
 Entity×Option AEMCommandResponse :=
 if m.targetEntityId≠myEntityID then (e,none)
 else
  let r:=handle env m e
  (r.1,some r.2)

/-- Only the first byte of the id is written and compared. -/
def openavbAemAcquire (flag:Bool) (e:Entity) : Entity :=
 if flag then
  if e.entityAcquired then e
  else
   {e with
     acquiredControllerId:=0#8++e.acquiredControllerId.extractLsb' 0 56
     entityAcquired:=true}
 else if e.entityAcquired ∧ e.acquiredControllerId.extractLsb' 56 8=0 then
  {e with entityAcquired:=false}
 else e

structure Answers (m r:AEMCommandResponse) : Prop where
 host:r.host=m.host
 controlDataLength:r.controlDataLength=m.controlDataLength
 targetEntityId:r.targetEntityId=m.targetEntityId
 controllerEntityId:r.controllerEntityId=m.controllerEntityId
 sequenceId:r.sequenceId=m.sequenceId
 u:r.u=m.u
 messageType:r.messageType=messageTypeAemResponse
 commandType:r.commandData.commandType=m.commandData.commandType

lemma respond_answers {m:AEMCommandResponse} {status:Status} {commandData:CommandData}
 (h:commandData.commandType=m.commandData.commandType) : Answers m (respond m status commandData) :=
 ⟨rfl,rfl,rfl,rfl,rfl,rfl,rfl,h⟩

variable (env:Env)

lemma readDescriptor_commandType (configurationIndex reserved:BitVec 16) (d:DescriptorId) :
 (readDescriptor env configurationIndex reserved d).2.commandType=0x04 := by
 unfold readDescriptor
 split<;>rfl

lemma handle_answers (m:AEMCommandResponse) (e:Entity) : Answers m (handle env m e).2 := by
 unfold handle processCommand
 cases hdata:m.commandData
 case readDescriptor configurationIndex reserved d data=>
  apply respond_answers
  rw[hdata]
  exact readDescriptor_commandType env configurationIndex reserved d
 all_goals exact respond_answers (by simp[hdata,CommandData.commandType])

end OpenAvnu.Aecp
