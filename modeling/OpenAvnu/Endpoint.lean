import OpenAvnu.Owners
import OpenAvnu.Qmgr

/-!
# The endpoint

`openavb_endpoint.c` and `openavb_endpoint_server.c` over SRP and MAAP. Handlers run one at a time;
`Outside` is what other parties answer.
-/

namespace OpenAvnu.Endpoint

open Qmgr

abbrev EtherAddr := BitVec 48

structure StreamID where
 addr:EtherAddr
 uniqueID:BitVec 16
 deriving DecidableEq

def StreamID.bytes (s:StreamID) : BitVec 64 := s.addr++s.uniqueID

structure TSpec where
 (maxFrameSize maxIntervalFrames:UInt16)
 deriving DecidableEq

inductive Role where
 | talker | listener
 deriving DecidableEq

/-- `openavbSrpLsnrDeclSubtype_t`: `None` and `Ignore` are one value. -/
def ldStNone : Nat := 0x00
def ldStReady : Nat := 0x02
def ldStReadyFailed : Nat := 0x03
def ldStStreamInfo : Nat := 0xFE
def ldStInterest : Nat := 0xFF

structure ClientStream where
 address:Nat
 clientHandle:Int
 streamID:StreamID
 role:Role
 tSpec:TSpec := ⟨0,0⟩
 srClass:Nat := 0
 srRank:Nat := 0
 latency:Nat := 0
 txRate:Nat := 0
 priority:Nat := 0
 vlanID:Nat := 0
 classRate:Nat := 0
 hndMaap:Option Nat := none
 destAddr:EtherAddr := 0
 hndShaper:Option Nat := none
 fwmark:Nat := invalidFwmark

/-- `strElem_t`.  `client` is the client for whose message the element was made. -/
structure StrElem where
 avtpHandle:Nat
 talker:Bool
 streamId:BitVec 64
 destAddr:EtherAddr := 0
 vlanId:Nat := 0
 maxFrameSize:Nat := 0
 maxIntervalFrames:Nat := 0
 priority:Nat := 0
 latency:Nat := 0
 subtype:Nat
 client:Int

structure MaapAlloc where
 destAddr:EtherAddr
 taken:Bool

inductive Told where
 | talkerCallback (clientHandle:Int) (streamID:StreamID) (destAddr:EtherAddr) (lsnrDecl:Nat)
  (srClass classRate vlanID priority fwmark:Nat)
 | listenerCallback (clientHandle:Int) (streamID:StreamID) (destAddr:EtherAddr)
  (advertise:Bool) (tSpec:TSpec) (srClass latency:Nat)

structure Config where
 noSrp:Bool
 ifmac:EtherAddr

structure Domain where
 (classAPriority classAVid classBPriority classBVid:Nat)

structure Outside where
 domain:Domain
 (maapDaemonAvailable shaperDaemonAvailable:Bool)
 shaperHandle:Option Nat
 qdisc:Qdisc
 advertiseFails:Bool

structure State where
 streamList:List ClientStream
 nextAddress:Nat
 qmgr:Tables
 maapAllocList:Nat → MaapAlloc
 strElemList:List StrElem
 told:List Told

def State.initial : State where
 streamList := []
 nextAddress:=0
 qmgr:=.initial
 maapAllocList i:=⟨0x91e0f000fe80+BitVec.ofNat 48 i,false⟩
 strElemList:=[]
 told:=[]

def addStream (h:Int) (streamID:StreamID) (role:Role) (e:State) : State×ClientStream :=
 let ps:ClientStream:={address:=e.nextAddress,clientHandle:=h,streamID,role}
 ({e with streamList:=e.streamList++[ps],nextAddress:=e.nextAddress+1},ps)
def delStream (ps:ClientStream) (e:State) : State :=
 {e with streamList:=Owners.remove ClientStream.address ps.address e.streamList}
def write (ps:ClientStream) (e:State) : State :=
 {e with streamList:=Owners.replace ClientStream.address ps e.streamList}

/-- An empty MAC in the stream id is replaced by that of the interface. -/
def fillMac (cfg:Config) (streamID:StreamID) : StreamID :=
 if streamID.addr=0 then {streamID with addr:=cfg.ifmac} else streamID

def findStream (streamID:StreamID) (e:State) : Option ClientStream :=
 e.streamList.find? fun p=>decide (p.streamID=streamID)
def findStreamMaap (hndMaap:Nat) (e:State) : Option ClientStream :=
 e.streamList.find? fun p=>decide (p.hndMaap=some hndMaap)
def openavbMaapAllocate (e:State) : Option Nat :=
 (List.range maxAvbStreams).find? fun i=>!(e.maapAllocList i).taken
def setTaken (i:Nat) (taken:Bool) (e:State) : State :=
 {e with maapAllocList:=
  Function.update e.maapAllocList i {e.maapAllocList i with taken:=taken}}
def openavbMaapRelease (handle:Option Nat) (e:State) : State :=
 match handle with
 | none=>e
 | some i=>setTaken i false e
def openavbSrpGetClassParams (domain:Domain) (srClass:Nat) : Option (Nat×Nat×Nat) :=
 if srClass=srClassA then some (domain.classAPriority,domain.classAVid,8000)
 else if srClass=srClassB then some (domain.classBPriority,domain.classBVid,4000)
 else none

/-- The element is added first and stays if the registration fails. -/
def openavbSrpRegisterStream (o:Outside) (ps:ClientStream) (e:State) : State×Bool :=
 let class?:=openavbSrpGetClassParams o.domain ps.srClass
 let elem:StrElem:=
  {avtpHandle:=ps.address, talker:=true, streamId:=ps.streamID.bytes
   destAddr:=ps.destAddr
   vlanId:=(class?.map fun c=>c.2.1).getD 0
   maxFrameSize:=ps.tSpec.maxFrameSize.toNat
   maxIntervalFrames:=ps.tSpec.maxIntervalFrames.toNat
   priority:=(class?.map fun c=>c.1).getD 0
   latency:=ps.latency, subtype:=ldStNone, client:=ps.clientHandle}
 ({e with strElemList:=e.strElemList++[elem]},class?.isSome&&!o.advertiseFails)

def dropElem (streamID:StreamID) (e:State) : State :=
 {e with strElemList:=e.strElemList.eraseP fun elem=>decide (elem.streamId=streamID.bytes)}
def openavbSrpDeregisterStream (streamID:StreamID) (e:State) : State := dropElem streamID e

def openavbSrpAttachStream (ps:ClientStream) (streamID:StreamID) (type:Nat) (e:State) : State :=
 if e.strElemList.any fun elem=>decide (elem.streamId=streamID.bytes) then e
 else
  let elem:StrElem:=
   {avtpHandle:=ps.address, talker:=false, streamId:=streamID.bytes, subtype:=type
    client:=ps.clientHandle}
  {e with strElemList:=e.strElemList++[elem]}

def openavbSrpDetachStream (streamID:StreamID) (e:State) : State := dropElem streamID e

/-- A mark that a record holds lies inside the tables. -/
def removeMark (fwmark:Nat) (q:Tables) : Tables := (openavbQmgrRemoveStream q fwmark).getD q

def setupQueues (o:Outside) (ps:ClientStream) (q:Tables) : Tables×ClientStream×Bool :=
 if ps.fwmark≠invalidFwmark then (q,ps,true)
 else match openavbSrpGetClassParams o.domain ps.srClass with
  | none=>(q,ps,false)
  | some (priority,vlanID,classRate)=>
   let added:=openavbQmgrAddStream o.qdisc q ps.srClass classRate
    ps.tSpec.maxIntervalFrames.toNat ps.tSpec.maxFrameSize.toNat
   (added.1,{ps with priority,vlanID,classRate,fwmark:=added.2},decide (added.2≠invalidFwmark))

def teardownQueues (ps:ClientStream) (q:Tables) : Tables×ClientStream×Bool :=
 if ps.fwmark≠invalidFwmark then
  (removeMark ps.fwmark q,{ps with fwmark:=invalidFwmark},true)
 else (q,ps,true)
def openavbEptSrvrNotifyTlkrOfSrpCb (ps:ClientStream) (lsnrDecl:Nat) : Told :=
 .talkerCallback ps.clientHandle ps.streamID ps.destAddr lsnrDecl ps.srClass ps.classRate ps.vlanID
  ps.priority ps.fwmark
def requeue (o:Outside) (ps:ClientStream) (lsnrDecl:Nat) (q:Tables) : Tables×ClientStream×Bool :=
 if lsnrDecl=ldStReady ∨ lsnrDecl=ldStReadyFailed then setupQueues o ps q
 else teardownQueues ps q
def strmAttachCb (o:Outside) (ps:ClientStream) (lsnrDecl:Nat) (e:State) : State :=
 let r:=requeue o ps lsnrDecl e.qmgr
 {write r.2.1 e with
   qmgr:=r.1
   told:=if r.2.2 then openavbEptSrvrNotifyTlkrOfSrpCb r.2.1 lsnrDecl::e.told else e.told}
def deref (address:Nat) (e:State) : Option ClientStream := e.streamList.find? fun p=>decide (p.address=address)

/-- Reading a record that was freed is undefined; here nothing happens then. -/
def mrpAttachCb (o:Outside) (streamid:BitVec 64) (subtype:Nat) (e:State) : State :=
 let mine:=fun elem:StrElem=>elem.talker&&decide (elem.streamId=streamid)
 match e.strElemList.find? mine with
 | none=>e
 | some elem=>
  let e:=match deref elem.avtpHandle e with
   | none=>e
   | some ps=>strmAttachCb o ps subtype e
  {e with strElemList:=
   e.strElemList.replaceF fun x=>if mine x then some {x with subtype} else none}

def maapRestartCallback (cfg:Config) (o:Outside) (handle:Nat) (addr:EtherAddr) (e:State) : State :=
 match findStreamMaap handle e with
 | none=>e
 | some ps=>
  let ps:={ps with destAddr:=addr}
  -- pretend that the listeners went away
  let e:=strmAttachCb o ps 0 (write ps e)
  if cfg.noSrp then e
  else (openavbSrpRegisterStream o ps (openavbSrpDeregisterStream ps.streamID e)).1

def xTalkerDeregister (cfg:Config) (ps:ClientStream) (e:State) : State :=
 let e:=if cfg.noSrp then e else openavbSrpDeregisterStream ps.streamID e
 let e:={e with qmgr:=(teardownQueues ps e.qmgr).1}
 delStream ps (openavbMaapRelease ps.hndMaap e)
def xListenerDetach (cfg:Config) (ps:ClientStream) (e:State) : State :=
 delStream ps (if cfg.noSrp then e else openavbSrpDetachStream ps.streamID e)
def leave (cfg:Config) (ps:ClientStream) (e:State) : State :=
 match ps.role with
 | .talker=>xTalkerDeregister cfg ps e
 | .listener=>xListenerDetach cfg ps e

structure TalkerRegister where
 destAddr:EtherAddr
 noMaapAllocate:Bool
 tSpec:TSpec
 (srClass srRank:UInt8)
 (latency txRate:UInt32)

def registerShaped (cfg:Config) (o:Outside) (ps:ClientStream) (e:State) : State×Bool :=
 let ps:=if o.shaperDaemonAvailable&&ps.txRate != 0 then {ps with hndShaper:=o.shaperHandle}
  else ps
 let e:=write ps e
 if cfg.noSrp then (strmAttachCb o ps ldStReady e,true)
 else
  let r:=openavbSrpRegisterStream o ps e
  if r.2 then (r.1,true) else (delStream ps (openavbMaapRelease ps.hndMaap r.1),false)

/-- The record gets its address, from MAAP if that is available or no address was given. -/
def registerAddressed (cfg:Config) (o:Outside) (m:TalkerRegister) (ps:ClientStream)
 (e:State) : State×Bool :=
 if (!m.noMaapAllocate&&o.maapDaemonAvailable)||decide (m.destAddr=0) then
  match openavbMaapAllocate e with
  | none=>(delStream ps e,false)
  | some i=>
   let ps:={ps with hndMaap:=some i,destAddr:=(e.maapAllocList i).destAddr}
   let e:=write ps (setTaken i true e)
   registerShaped cfg o ps (strmAttachCb o ps ldStStreamInfo e)
 else
  let ps:={ps with destAddr:=m.destAddr,hndMaap:=none}
  registerShaped cfg o ps (write ps e)

def TalkerRegister.fill (m:TalkerRegister) (ps:ClientStream) : ClientStream :=
 {ps with
   tSpec:=m.tSpec, srClass:=m.srClass.toNat, srRank:=m.srRank.toNat
   latency:=m.latency.toNat, txRate:=m.txRate.toNat, fwmark:=invalidFwmark}

def openavbEptSrvrRegisterStream (cfg:Config) (o:Outside) (h:Int) (streamID:StreamID)
 (m:TalkerRegister) (e:State) : State×Bool :=
 let streamID:=fillMac cfg streamID
 if (findStream streamID e).any fun ps=>decide (ps.clientHandle≠h) then (e,false)
 else
  let added:=addStream h streamID .talker e
  registerAddressed cfg o m (m.fill added.2) (write (m.fill added.2) added.1)

/-- The answer for a preconfigured stream, when SRP is not in use. -/
def strmRegCb (ps:ClientStream) : Told :=
 .listenerCallback ps.clientHandle ps.streamID 0 true ⟨0,0⟩ maxAvbSrClasses 1

/-- A record of the client is used again, also a talker's. -/
def findOrAdd (h:Int) (streamID:StreamID) (e:State) : State×ClientStream :=
 match findStream streamID e with
 | some ps=>(e,ps)
 | none=>addStream h streamID .listener e

def openavbEptSrvrAttachStream (cfg:Config) (h:Int) (streamID:StreamID) (ld:Nat)
 (e:State) : State×Bool :=
 let streamID:=fillMac cfg streamID
 if (findStream streamID e).any fun ps=>decide (ps.clientHandle≠h) then (e,false)
 else
  let r:=findOrAdd h streamID e
  if cfg.noSrp then
   (if ld=ldStInterest then {r.1 with told:=strmRegCb r.2::r.1.told} else r.1,true)
  else (openavbSrpAttachStream r.2 streamID ld r.1,true)

def openavbEptSrvrStopStream (cfg:Config) (h:Int) (streamID:StreamID) (e:State) : State×Bool :=
 match findStream (fillMac cfg streamID) e with
 | none=>(e,false)
 | some ps=>if ps.clientHandle≠h then (e,false) else (leave cfg ps e,true)

/-- The loop ends with the first record of the client. -/
def openavbEptSrvrCloseClientConnection (cfg:Config) (h:Int) (e:State) : State :=
 match e.streamList.find? fun p=>decide (p.clientHandle=h) with
 | none=>e
 | some ps=>leave cfg ps e

inductive Handler where
 | talkerRegister (h:Int) (streamID:StreamID) (m:TalkerRegister)
 | listenerAttach (h:Int) (streamID:StreamID) (ld:Nat)
 | clientStop (h:Int) (streamID:StreamID)
 | closeClientConnection (h:Int)
 | attachCb (address lsnrDecl:Nat)
 | maapRestart (slot:Fin maxAvbStreams) (addr:EtherAddr)

/-- SRP calls back for talker records only. -/
def handle (cfg:Config) (input:Outside×Handler) (e:State) : State :=
 match input.2 with
 | .talkerRegister h streamID m=>(openavbEptSrvrRegisterStream cfg input.1 h streamID m e).1
 | .listenerAttach h streamID ld=>(openavbEptSrvrAttachStream cfg h streamID ld e).1
 | .clientStop h streamID=>(openavbEptSrvrStopStream cfg h streamID e).1
 | .closeClientConnection h=>openavbEptSrvrCloseClientConnection cfg h e
 | .attachCb address lsnrDecl=>
  match deref address e with
  | none=>e
  | some ps=>if ps.role=.talker then strmAttachCb input.1 ps lsnrDecl e else e
 | .maapRestart slot addr=>
  -- `process_maap_notify` stores the new address of the slot first
  let alloc:=e.maapAllocList slot
  let e:={e with maapAllocList:=Function.update e.maapAllocList slot ⟨addr,alloc.taken⟩}
  if alloc.taken then maapRestartCallback cfg input.1 slot addr e else e

end OpenAvnu.Endpoint
