import OpenAvnu.Acmp
import OpenAvnu.OpenavbList
import OpenAvnu.Runs

/-!
# The ACMP talker state machine

`openavb_acmp_sm_talker.c`, one command or stream update at a time.
-/

namespace OpenAvnu.AcmpTalker

open Acmp OpenavbList

structure ListenerPair where
 listenerEntityId:BitVec 64
 listenerUniqueId:UInt16
 deriving DecidableEq

structure TalkerStreamInfo where
 streamId:BitVec 64
 streamDestMac:BitVec 48
 connectionCount:UInt16
 connectedListeners:Option (Nodes ListenerPair)
 streamVlanId:UInt16
 waitingOnTalker:Option CommandResponse

def TalkerStreamInfo.zero : TalkerStreamInfo := ⟨0,0,0,none,0,none⟩

/-- What ACMP reads of a stream's configuration. Addresses are valid if set and not zero. -/
structure StreamCfg where
 streamAddrSet:Bool
 streamAddr:BitVec 48
 streamUid:UInt16
 destAddrSet:Bool
 destAddr:BitVec 48
 vlanId:UInt16

def StreamCfg.destValid (c:StreamCfg) : Bool := c.destAddrSet&&decide (c.destAddr≠0)
def StreamCfg.streamId (c:StreamCfg) : BitVec 64 := c.streamAddr++c.streamUid.toBitVec

/-- What ACMP uses of a STREAM_OUTPUT descriptor; `stream` is which configuration it points to. -/
structure StreamOutput where
 stream:Option Nat
 acmpFlags:UInt16
 acmpStreamId:BitVec 64
 acmpDestAddr:BitVec 48
 acmpStreamVlanId:UInt16

/-- `spinning` is a loop that is not left, with the lock. -/
inductive Control where
 | waiting | spinning
 deriving DecidableEq

structure State where
 talkerStreamInfos:List TalkerStreamInfo
 streamOutputs:List StreamOutput
 streams:Nat → StreamCfg
 control:Control
 sent:List Sent

/-- `allocated` is the outcome of allocating `waiting_on_talker`. -/
structure Env where
 (runTalker stopTalker allocated:Bool)

def State.initial (streamOutputs:List StreamOutput) (streams:Nat → StreamCfg) : State where
 talkerStreamInfos := List.replicate streamOutputs.length .zero
 streamOutputs:=streamOutputs
 streams:=streams
 control:=.waiting
 sent:=[]

def pairOf (command:CommandResponse) : ListenerPair := ⟨command.listenerEntityId,command.listenerUniqueId⟩
def findListenerPairNodeFromCommand (command:CommandResponse) (info:TalkerStreamInfo) : Option Nat :=
 info.connectedListeners.bind fun list=>list.find fun pair=>decide (pair=pairOf command)
def validTalkerUnique (talkerUniqueId:UInt16) (s:State) : Bool := (s.streamOutputs[talkerUniqueId.toNat]?).isSome
def txResponse (messageType:UInt8) (response:CommandResponse) (error:UInt8) (s:State) : State :=
 {s with sent:=s.sent++[⟨messageType,response,error⟩]}

/-- Class B, fast connect, saved state, supports encrypted and encrypted PDU. -/
def connectFlagsMask : UInt16 := 0x0001 ||| 0x0002 ||| 0x0004 ||| 0x0010 ||| 0x0020
def setInfo (i:Nat) (info:TalkerStreamInfo) (s:State) : State :=
 {s with talkerStreamInfos:=s.talkerStreamInfos.set i info}
def listenersOrNew (info:TalkerStreamInfo) : Nodes ListenerPair :=
 info.connectedListeners.getD openavbListNewList

def connectTalker (command:CommandResponse) (env:Env) (s:State) : State×CommandResponse×UInt8 :=
 let i:=command.talkerUniqueId.toNat
 match s.talkerStreamInfos[i]? with
 | none=>(s,command,statusTalkerUnknownId)
 | some info=>
  match findListenerPairNodeFromCommand command info with
  | some _=>
   if info.streamId=0 ∨ info.streamDestMac=0 then
    -- a duplicate while the talker is being started: there is no answer yet
    (s,command,statusSuccess)
   else
    let flags:=match s.streamOutputs[i]? with
     | some output=>output.acmpFlags &&& connectFlagsMask
     | none=>command.flags
    let command:={command with
     flags:=flags
     streamId:=info.streamId
     streamDestMac:=info.streamDestMac
     streamVlanId:=info.streamVlanId
     connectionCount:=info.connectionCount}
    (txResponse connectTxResponse command statusSuccess s,command,statusSuccess)
  | none=>
   let info:={info with
    connectedListeners:=some (openavbListNew (listenersOrNew info) (pairOf command))
    connectionCount:=info.connectionCount+1}
   match s.streamOutputs[i]? with
   | none=>(setInfo i info s,command,statusTalkerMisbehaving)
   | some _=>
    if env.runTalker then
     let command:={command with connectionCount:=info.connectionCount}
     if info.waitingOnTalker.isSome||env.allocated then
      (setInfo i {info with waitingOnTalker:=some command} s,command,statusSuccess)
     else (setInfo i info s,command,statusTalkerMisbehaving)
    else (setInfo i info s,command,statusTalkerMisbehaving)

/-- `openavbAVDECCGetTalkerStreamInfo`, which stops at the first address that is not valid. -/
def openavbAVDECCGetTalkerStreamInfo (output:StreamOutput) (streams:Nat → StreamCfg)
 (info:TalkerStreamInfo) : TalkerStreamInfo :=
 match output.stream with
 | none=>info
 | some stream=>
  let cfg:=streams stream
  if cfg.destValid then
   let info:={info with streamDestMac:=cfg.destAddr}
   if cfg.streamAddrSet&&decide (cfg.streamAddr≠0) then
    {info with streamId:=cfg.streamId,streamVlanId:=cfg.vlanId}
   else info
  else info

def disconnectTalker (command:CommandResponse) (env:Env) (s:State) : State×CommandResponse×UInt8 :=
 let i:=command.talkerUniqueId.toNat
 match s.talkerStreamInfos[i]? with
 | none=>(s,command,statusTalkerUnknownId)
 | some info=>
  match findListenerPairNodeFromCommand command info with
  | none=>
   (s,{command with
    streamId:=info.streamId
    streamDestMac:=info.streamDestMac
    connectionCount:=info.connectionCount},statusSuccess)
  | some node=>
   let info:={info with
    connectedListeners:=info.connectedListeners.map fun l=>openavbListDelete l node
    connectionCount:=info.connectionCount-1}
   match s.streamOutputs[i]? with
   | none=>(setInfo i info s,command,statusTalkerMisbehaving)
   | some output=>
    let info:=openavbAVDECCGetTalkerStreamInfo output s.streams info
    if 0 < info.connectionCount ∨ env.stopTalker=true then
     (setInfo i info s,{command with
      streamId:=info.streamId
      streamDestMac:=info.streamDestMac
      connectionCount:=info.connectionCount},statusSuccess)
    else (setInfo i info s,command,statusTalkerMisbehaving)

def getState (command:CommandResponse) (s:State) : State×CommandResponse×UInt8 :=
 let i:=command.talkerUniqueId.toNat
 match s.talkerStreamInfos[i]?, s.streamOutputs[i]? with
 | some info, some output=>
  let info:=openavbAVDECCGetTalkerStreamInfo output s.streams info
  (setInfo i info s,{command with
   streamId:=info.streamId
   streamDestMac:=info.streamDestMac
   streamVlanId:=info.streamVlanId
   connectionCount:=info.connectionCount},statusSuccess)
 | _, _=>(s,command,statusTalkerMisbehaving)

def getConnection (command:CommandResponse) (s:State) : CommandResponse×UInt8 :=
 match s.talkerStreamInfos[command.talkerUniqueId.toNat]? with
 | none=>(command,statusTalkerMisbehaving)
 | some info=>
  let pair:=info.connectedListeners.bind fun list=>
   (list.nth command.connectionCount.toNat).bind (openavbListData list)
  match pair with
  | some pair=>
   ({command with
    streamId:=info.streamId
    streamDestMac:=info.streamDestMac
    streamVlanId:=info.streamVlanId
    connectionCount:=info.connectionCount
    listenerEntityId:=pair.listenerEntityId
    listenerUniqueId:=pair.listenerUniqueId},statusSuccess)
  | none=>(command,statusNoSuchConnection)

def connectState (m:CommandResponse) (env:Env) (s:State) : State :=
 if validTalkerUnique m.talkerUniqueId s then
  let (s,response,error):=connectTalker m env s
  if error≠statusSuccess then txResponse connectTxResponse response error s else s
 else txResponse connectTxResponse m statusTalkerUnknownId s
def disconnectState (m:CommandResponse) (env:Env) (s:State) : State :=
 if validTalkerUnique m.talkerUniqueId s then
  let (s,response,error):=disconnectTalker m env s
  txResponse disconnectTxResponse response error s
 else txResponse disconnectTxResponse m statusTalkerUnknownId s
def getStateState (m:CommandResponse) (s:State) : State :=
 if validTalkerUnique m.talkerUniqueId s then
  let (s,response,error):=getState m s
  txResponse getTxStateResponse response error s
 else txResponse getTxStateResponse m statusTalkerUnknownId s

def getConnectionState (m:CommandResponse) (s:State) : State :=
 let (response,error):=
  if validTalkerUnique m.talkerUniqueId s then getConnection m s else (m,statusTalkerUnknownId)
 txResponse getTxConnectionResponse response error s
def awaits (stream:Nat) (s:State) (i:Nat) : Bool :=
 (s.talkerStreamInfos[i]?).any (fun info=>info.waitingOnTalker.isSome) &&
  (s.streamOutputs[i]?).any fun output=>decide (output.stream=some stream)
def withStream (cfg:StreamCfg) (info:TalkerStreamInfo) : TalkerStreamInfo :=
 {info with streamId:=cfg.streamId,streamDestMac:=cfg.destAddr,streamVlanId:=cfg.vlanId}

def saveStream (response:CommandResponse) (output:StreamOutput) : StreamOutput :=
 {output with
   acmpFlags:=response.flags
   acmpStreamId:=response.streamId
   acmpDestAddr:=response.streamDestMac
   acmpStreamVlanId:=response.streamVlanId}

def deferredResponse (info:TalkerStreamInfo) (response:CommandResponse) : CommandResponse :=
 {response with
   streamId:=info.streamId
   streamDestMac:=info.streamDestMac
   streamVlanId:=info.streamVlanId
   connectionCount:=info.connectionCount}

/-- For an invalid address the source goes on with the loop without a step to the next element. -/
def openavbAcmpSMTalkerUpdateStreamInfo (stream:Nat) (s:State) : State :=
 match (List.range s.talkerStreamInfos.length).find? (awaits stream s) with
 | none=>s
 | some i=>
  if (s.streams stream).destValid then
   match s.talkerStreamInfos[i]? with
   | none=>s
   | some info=>
    match info.waitingOnTalker with
    | none=>s
    | some waiting=>
     let info:=withStream (s.streams stream) {info with waitingOnTalker:=none}
     let response:=deferredResponse info waiting
     txResponse connectTxResponse response statusSuccess
      {setInfo i info s with
        streamOutputs:=s.streamOutputs.modify i (saveStream response)}
  else {s with control:=.spinning}

inductive Event where
 | receive (m:CommandResponse)
 | update (stream:Nat) (cfg:StreamCfg)

def receive (myId:BitVec 64) (m:CommandResponse) (env:Env) (s:State) : State :=
 if m.talkerEntityId=myId then
  match dispatch m.messageType with
  | some .talkerConnectTXCmd=>connectState m env s
  | some .talkerDisconnectTXCmd=>disconnectState m env s
  | some .talkerGetTXState=>getStateState m s
  | some .talkerGetTXConnectionCmd=>getConnectionState m s
  | _=>s
 else s

def step (myId:BitVec 64) (input:Event×Env) (s:State) : State :=
 match s.control with
 | .waiting=>
  match input.1 with
  | .receive m=>receive myId m input.2 s
  | .update stream cfg=>
   openavbAcmpSMTalkerUpdateStreamInfo stream
    {s with streams:=Function.update s.streams stream cfg}
 | .spinning=>s

def exampleOutput : StreamOutput := ⟨some 0,0,0,0,0⟩
def exampleStreams (_:Nat) : StreamCfg := ⟨true,0x0a,1,true,0x91e0f0,2⟩

def exampleCommand (messageType:UInt8) (listener:BitVec 64) (sequenceId:UInt16) : CommandResponse where
 messageType := messageType
 status:=0
 streamId:=0
 controllerEntityId:=7
 talkerEntityId:=1
 listenerEntityId:=listener
 talkerUniqueId:=0
 listenerUniqueId:=0
 streamDestMac:=0
 connectionCount:=0
 sequenceId:=sequenceId
 flags:=0
 streamVlanId:=0

def exampleEnv : Env := ⟨true,true,true⟩

end OpenAvnu.AcmpTalker
