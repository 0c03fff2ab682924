import OpenAvnu.Acmp
import OpenAvnu.AemStreamIo
import OpenAvnu.OpenavbList
import OpenAvnu.Runs

/-!
# The ACMP listener state machine

`openavb_acmp_sm_listener.c`, one message or timeout at a time. Times are nanoseconds.
-/

namespace OpenAvnu.AcmpListener

open Acmp OpenavbList AemStreamIo

structure ListenerStreamInfo where
 talkerEntityId:BitVec 64
 talkerUniqueId:UInt16
 connected:Bool
 streamId:BitVec 64
 streamDestMac:BitVec 48
 controllerEntityId:BitVec 64
 (flags streamVlanId:UInt16)
 deriving DecidableEq

def ListenerStreamInfo.zero : ListenerStreamInfo := ⟨0,0,false,0,0,0,0,0⟩

structure InflightCommand where
 timer:Nat
 retried:Bool
 command:CommandResponse
 originalSequenceId:UInt16
 deriving DecidableEq

/-- What ACMP uses of a STREAM_INPUT descriptor; `stream` is whether it has a stream. -/
structure StreamInput where
 stream:Bool
 fastConnectStatus:FastConnectStatus
 acmpFlags:UInt16
 acmpStreamId:BitVec 64
 acmpDestAddr:BitVec 48
 acmpStreamVlanId:UInt16
 deriving DecidableEq

/-- Where the thread is: `spinning` is a state that is not left, `stopped` the end of the thread. -/
inductive Control where
 | waiting | spinning | stopped
 deriving DecidableEq

structure State where
 inflight:Nodes InflightCommand
 listenerStreamInfos:List ListenerStreamInfo
 streamInputs:List StreamInput
 control:Control
 /-- what has been handed to `openavbAcmpMessageSend`, but for the commands that it refused -/
 sent:List Sent

structure Config where
 myId:BitVec 64
 fastConnectSupported:Bool

/-- What the surroundings answer during one event. `openavbAcmpMessageSend` reports success whatever
becomes of the frame. -/
structure Env where
 (now clock:Nat)
 (sendOk runListener stopListener saveState:Bool)

def State.initial (streamInputs:List StreamInput) : State where
 inflight := openavbListNewList
 listenerStreamInfos:=List.replicate streamInputs.length .zero
 streamInputs:=streamInputs
 control:=.waiting
 sent:=[]

def sameExchange (command:CommandResponse) (f:InflightCommand) : Bool :=
 decide (f.command.talkerEntityId=command.talkerEntityId ∧
  f.command.talkerUniqueId=command.talkerUniqueId ∧
  f.command.sequenceId=command.sequenceId)
def findInflightNodeFromCommand (command:CommandResponse) (s:State) : Option Nat :=
 s.inflight.find (sameExchange command)
def validListenerUnique (listenerUniqueId:UInt16) (s:State) : Bool :=
 (s.streamInputs[listenerUniqueId.toNat]?).isSome

/-- Connected to a stream source other than the one of the command. -/
def listenerIsConnected (command:CommandResponse) (s:State) : Bool :=
 (s.listenerStreamInfos[command.listenerUniqueId.toNat]?).any fun info=>
  info.connected&&!decide (info.talkerEntityId=command.talkerEntityId ∧
   info.talkerUniqueId=command.talkerUniqueId)

def txResponse (messageType:UInt8) (response:CommandResponse) (error:UInt8) (s:State) : State :=
 {s with sent:=s.sent++[⟨messageType,response,error⟩]}
def commandTimeout (messageType:UInt8) : Nat := (if messageType=connectTxCommand then 2000
 else if messageType=disconnectTxCommand then 200
 else 4500)*1000000
def removeInflight (command:CommandResponse) (s:State) : State :=
 match findInflightNodeFromCommand command s with
 | some node=>{s with inflight:=openavbListDelete s.inflight node}
 | none=>s

def txCommand (messageType:UInt8) (command:CommandResponse) (retry:Bool) (env:Env)
 (s:State) : State :=
 if env.sendOk then
  let s:={s with sent:=s.sent++[⟨messageType,command,statusSuccess⟩]}
  let timer:=env.clock+commandTimeout messageType
  if retry then
   match findInflightNodeFromCommand command s with
   | some node=>
    {s with
      inflight:=s.inflight.write node fun f=>{f with retried:=true,timer:=timer}}
   | none=>s
  else
   {s with
     inflight:=openavbListNew s.inflight
      ⟨timer,false,{command with messageType:=messageType},command.sequenceId⟩}
 else
  let s:=txResponse (messageType+1) command statusCouldNotSendMessage s
  if retry then removeInflight command s else s

def connectedInfo (response:CommandResponse) : ListenerStreamInfo where
 talkerEntityId := response.talkerEntityId
 talkerUniqueId:=response.talkerUniqueId
 connected:=true
 streamId:=response.streamId
 streamDestMac:=response.streamDestMac
 controllerEntityId:=response.controllerEntityId
 flags:=response.flags
 streamVlanId:=response.streamVlanId

def connectListener (response:CommandResponse) (env:Env) (s:State) : State×UInt8 :=
 let i:=response.listenerUniqueId.toNat
 if i<s.listenerStreamInfos.length then
  ({s with listenerStreamInfos:=s.listenerStreamInfos.set i (connectedInfo response)},
   if !validListenerUnique response.listenerUniqueId s then statusListenerUnknownId
   else if env.runListener then statusSuccess
   else statusListenerMisbehaving)
 else (s,statusListenerUnknownId)

def disconnectListener (response:CommandResponse) (env:Env) (s:State) : State×UInt8 :=
 let i:=response.listenerUniqueId.toNat
 if i<s.listenerStreamInfos.length then
  ({s with listenerStreamInfos:=s.listenerStreamInfos.set i .zero},
   if !validListenerUnique response.listenerUniqueId s then statusListenerUnknownId
   else if env.stopListener then statusSuccess
   else statusListenerMisbehaving)
 else (s,statusListenerUnknownId)

def getState (command:CommandResponse) (s:State) : CommandResponse×UInt8 :=
 match s.listenerStreamInfos[command.listenerUniqueId.toNat]? with
 | some info=>
  ({command with
   streamId:=info.streamId
   talkerEntityId:=info.talkerEntityId
   talkerUniqueId:=info.talkerUniqueId
   streamDestMac:=info.streamDestMac
   connectionCount:=if info.connected then 1 else 0
   flags:=info.flags
   streamVlanId:=info.streamVlanId},statusSuccess)
 | none=>(command,statusListenerMisbehaving)

def connectRxCommandState (m:CommandResponse) (env:Env) (s:State) : State :=
 if validListenerUnique m.listenerUniqueId s then
  if !listenerIsConnected m s then txCommand connectTxCommand m false env s
  else txResponse connectTxResponse m statusListenerExclusive s
 else txResponse connectTxResponse m statusListenerUnknownId s

/-- What is kept for a fast connect and for GET_STREAM_INFO, and the flags of the response. -/
def saveConnection (cfg:Config) (m:CommandResponse) (env:Env) (input:StreamInput) : StreamInput×UInt16 :=
 if input.stream then
  let saving:=cfg.fastConnectSupported&&decide (m.flags &&& flagStreamingWait=0)
  let flags:=if saving&&env.saveState then m.flags ||| flagSavedState else m.flags
  ({input with
   fastConnectStatus:=
    if saving&&input.fastConnectStatus.started then .succeeded else input.fastConnectStatus
   acmpFlags:=flags
   acmpStreamId:=m.streamId
   acmpDestAddr:=m.streamDestMac
   acmpStreamVlanId:=m.streamVlanId},flags)
 else (input,m.flags)

def answeredSequenceId (m:CommandResponse) (s:State) : UInt16 :=
 match (findInflightNodeFromCommand m s).bind (openavbListData s.inflight) with
 | some f=>f.originalSequenceId
 | none=>m.sequenceId

def connectTxResponseState (cfg:Config) (m:CommandResponse) (env:Env) (s:State) : State :=
 match s.streamInputs[m.listenerUniqueId.toNat]? with
 | none=>s
 | some input=>
  let (s,status):=if m.status=statusSuccess then connectListener m env s else (s,m.status)
  let (input,flags):=
   if status=statusSuccess then saveConnection cfg m env input else (input,m.flags)
  let s:={s with streamInputs:=s.streamInputs.set m.listenerUniqueId.toNat input}
  let response:={m with flags:=flags,sequenceId:=answeredSequenceId m s}
  txResponse connectRxResponse response status (removeInflight m s)

def getStateState (m:CommandResponse) (s:State) : State :=
 let (response,error):=
  if validListenerUnique m.listenerUniqueId s then getState m s
  else (m,statusListenerUnknownId)
 txResponse getRxStateResponse response error s
def clearConnection (cfg:Config) (input:StreamInput) : StreamInput :=
 if cfg.fastConnectSupported&&input.stream then {input with fastConnectStatus:=.notAvailable}
 else input

def disconnectRxCommandState (cfg:Config) (m:CommandResponse) (env:Env) (s:State) : State :=
 match s.streamInputs[m.listenerUniqueId.toNat]? with
 | none=>txResponse disconnectRxResponse m statusNotConnected s
 | some input=>
  let (s,status):=disconnectListener m env s
  let s:=
   if status=statusSuccess then txCommand disconnectTxCommand m false env s
   else txResponse disconnectRxResponse m status s
  {s with
    streamInputs:=s.streamInputs.set m.listenerUniqueId.toNat (clearConnection cfg input)}

/-- The machine goes back to waiting for a known listener only. -/
def disconnectTxResponseState (m:CommandResponse) (s:State) : State :=
 if validListenerUnique m.listenerUniqueId s then
  let response:={m with sequenceId:=answeredSequenceId m s}
  txResponse disconnectRxResponse response m.status (removeInflight m s)
 else {s with control:=.spinning}
def timeOutFastConnect (input:StreamInput) : StreamInput :=
 if input.fastConnectStatus=.inProgress then {input with fastConnectStatus:=.timedOut}
 else input

def connectTxTimeoutState (f:InflightCommand) (env:Env) (s:State) : State :=
 if f.retried then
  if f.command.flags &&& flagFastConnect≠0 then
   removeInflight f.command
    {s with
      streamInputs:=s.streamInputs.modify f.command.listenerUniqueId.toNat timeOutFastConnect}
  else
   removeInflight f.command
    (txResponse connectRxResponse {f.command with sequenceId:=f.originalSequenceId}
     statusListenerTalkerTimeout s)
 else txCommand connectTxCommand f.command true env s

def disconnectTxTimeoutState (f:InflightCommand) (env:Env) (s:State) : State :=
 if f.retried then
  removeInflight f.command
   (txResponse disconnectRxResponse {f.command with sequenceId:=f.originalSequenceId}
    statusListenerTalkerTimeout s)
 else txCommand disconnectTxCommand f.command true env s

inductive Event where
 | receive (m:CommandResponse)
 | expire

def timedOut (env:Env) (s:State) : Option Nat := s.inflight.find fun f=>decide (f.timer≤env.now)

def receive (cfg:Config) (m:CommandResponse) (env:Env) (s:State) : State :=
 if m.listenerEntityId=cfg.myId then
  match dispatch m.messageType with
  | some .listenerConnectRXCmd=>connectRxCommandState m env s
  | some .listenerConnectTXResp=>connectTxResponseState cfg m env s
  | some .listenerGetRXState=>getStateState m s
  | some .listenerDisconnectRXCmd=>disconnectRxCommandState cfg m env s
  | some .listenerDisconnectTXResp=>disconnectTxResponseState m s
  | _=>s
 else s

def expire (env:Env) (s:State) : State :=
 match (timedOut env s).bind (openavbListData s.inflight) with
 | none=>s
 | some f=>
  if f.command.messageType=connectTxCommand then connectTxTimeoutState f env s
  else if f.command.messageType=disconnectTxCommand then disconnectTxTimeoutState f env s
  else {s with control:=.stopped}

def step (cfg:Config) (input:Event×Env) (s:State) : State :=
 match s.control with
 | .waiting=>
  match input.1 with
  | .receive m=>receive cfg m input.2 s
  | .expire=>expire input.2 s
 | .spinning | .stopped=>s

end OpenAvnu.AcmpListener
