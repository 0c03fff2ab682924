import OpenAvnu.Mmrp

/-!
# MSRP

A talker changes its type in place, so both types share the stream identifier as key.
-/

namespace OpenAvnu.Msrp

open Bytes Mrp MrpEvents MrpEncode MrpDecode
open Mmrp (incrementMacaddr)

inductive MsrpType where
 | talkerAdv
 | talkerFailed
 | listener
 | domain
 deriving DecidableEq, Repr

inductive Operation where
 | register
 | declare
 deriving DecidableEq, Repr

structure TalkListen where
 streamId:BitVec 64
 destAddr:BitVec 48
 (vlanId maxFrameSize maxIntervalFrames:BitVec 16)
 priorityAndRank:BitVec 8
 accumulatedLatency:BitVec 32
 bridgeId:BitVec 64
 failureCode:BitVec 8
 deriving DecidableEq, Repr

structure Domain where
 (srClassId srClassPriority neighborSrClassPriority:BitVec 8)
 srClassVid:BitVec 16
 deriving DecidableEq, Repr

/-- `talkListen` is meaningful for talkers and listeners, `domain` for domains. -/
structure MsrpValue where
 type:MsrpType
 talkListen:TalkListen
 domain:Domain
 substate:BitVec 32
 operation:Operation
 deriving DecidableEq, Repr

def emptyTalkListen : TalkListen := ⟨0,0,0,0,0,0,0,0,0⟩
def emptyDomain : Domain := ⟨0,0,0,0⟩
def blank (type:MsrpType) : MsrpValue := ⟨type,emptyTalkListen,emptyDomain,0,.register⟩
def MsrpType.isTalker : MsrpType → Bool
 | .talkerAdv | .talkerFailed=>true
 | .listener | .domain=>false
def MsrpValue.streamId (v:MsrpValue) : BitVec 64 := v.talkListen.streamId

/-- The carry stops at the second byte: the first one never changes. -/
def incrementStreamid (streamId:BitVec 64) : BitVec 64 :=
 streamId.extractLsb' 56 8++(streamId.extractLsb' 0 56+1)
def listenerAskFailed : BitVec 32 := 1
def msrpAddr : List UInt8 := [0x01,0x80,0xC2,0x00,0x00,0x0E]
def msrpEtype : List UInt8 := [0x22,0xEA]

/-- The comparison of `msrp_lookup`: talkers of either type are the same attribute. -/
def sameMsrpAttribute (rattrib a:MsrpValue) : Bool :=
 (rattrib.type=a.type||(rattrib.type.isTalker&&a.type.isTalker)) &&
  if a.type=.domain then a.domain.srClassId=rattrib.domain.srClassId
  else a.streamId=rattrib.streamId

/-- A domain as the byte string that is compared: class, priorities, then the VID in memory order. -/
def Domain.key (d:Domain) : Nat := beValue ([UInt8.ofNat d.srClassId.toNat,UInt8.ofNat d.srClassPriority.toNat,
  UInt8.ofNat d.neighborSrClassPriority.toNat]++(beBytes 2 d.srClassVid.toNat).reverse)

def MsrpValue.key (v:MsrpValue) : Nat :=
 if v.type=.domain then v.domain.key else v.streamId.toNat
def msrpAdd (rattrib:Attribute MsrpValue) (l:List (Attribute MsrpValue)) :
 List (Attribute MsrpValue) := addGrouped MsrpValue.type MsrpValue.key rattrib l
def hasTalker (streamId:BitVec 64) (l:List (Attribute MsrpValue)) : Bool :=
 l.any fun a=>a.value.type.isTalker&&a.value.streamId=streamId
def hasListener (streamId:BitVec 64) (l:List (Attribute MsrpValue)) : Bool :=
 l.any fun a=>a.value.type=.listener&&a.value.streamId=streamId
def forceNotify (a:Attribute MsrpValue) : Attribute MsrpValue :=
 {a with registrar:={a.registrar with mrpState:=.MT}}

def mergeTalker (rattrib a:Attribute MsrpValue) : Attribute MsrpValue :=
 if rattrib.value.operation=a.value.operation then
  let t:={a.value.talkListen with
   failureCode:=rattrib.value.talkListen.failureCode
   bridgeId:=rattrib.value.talkListen.bridgeId}
  if a.value.type≠rattrib.value.type then
   forceNotify {a with value:={a.value with talkListen:=t,type:=rattrib.value.type}}
  else {a with value:={a.value with talkListen:=t}}
 else a

def mergeListener (l:List (Attribute MsrpValue)) (rattrib a:Attribute MsrpValue) : Attribute MsrpValue :=
 if a.value.substate≠rattrib.value.substate then
  if a.value.substate=listenerAskFailed&&!hasTalker a.value.streamId l then a
  else if rattrib.value.operation=a.value.operation then
   forceNotify {a with value:={a.value with substate:=rattrib.value.substate}}
  else forceNotify a
 else a

def mergeDomain (rattrib a:Attribute MsrpValue) : Attribute MsrpValue :=
 if a.value.domain.srClassPriority≠rattrib.value.domain.srClassPriority ||
  a.value.domain.srClassVid≠rattrib.value.domain.srClassVid then
  forceNotify {a with value:={a.value with
   domain:={a.value.domain with
    neighborSrClassPriority:=rattrib.value.domain.srClassPriority
    srClassVid:=rattrib.value.domain.srClassVid}}}
 else a

def msrpMerge (l:List (Attribute MsrpValue)) (rattrib a:Attribute MsrpValue) : Attribute MsrpValue :=
 let a:={a with registrar:={a.registrar with macaddr:=rattrib.registrar.macaddr}}
 match a.value.type with
 | .talkerAdv | .talkerFailed=>mergeTalker rattrib a
 | .listener=>mergeListener l rattrib a
 | .domain=>mergeDomain rattrib a

def TalkListen.advance (t:TalkListen) : TalkListen :=
 {t with streamId:=incrementStreamid t.streamId,destAddr:=incrementMacaddr t.destAddr}
def advanceTalkListen (v:MsrpValue) : MsrpValue := {v with talkListen:=v.talkListen.advance}
def advanceStream (v:MsrpValue) : MsrpValue :=
 {v with talkListen:={v.talkListen with streamId:=incrementStreamid v.streamId}}
def talkerBytes (t:TalkListen) : List UInt8 :=
 beBytes 8 t.streamId.toNat++beBytes 6 t.destAddr.toNat++beBytes 2 t.vlanId.toNat++
  beBytes 2 t.maxFrameSize.toNat++beBytes 2 t.maxIntervalFrames.toNat++
  beBytes 1 t.priorityAndRank.toNat++beBytes 4 t.accumulatedLatency.toNat
def failureBytes (t:TalkListen) : List UInt8 := beBytes 8 t.bridgeId.toNat++beBytes 1 t.failureCode.toNat
def vectorizeTalker (expected candidate:MsrpValue) : Bool := candidate.talkListen=expected.talkListen

def talkerAdvFormat : Format MsrpValue where
 attributeType := 1
 attributeLength:=25
 vectorSize:=28
 listLength:=true
 selects:=fun v=>v.type=.talkerAdv
 firstValue:=fun v=>talkerBytes v.talkListen
 eventsAt:=25
 advance:=advanceTalkListen
 continues:=vectorizeTalker
 joinsByHead:=false
 runSlack:=2
 padding:=[0,0]
 lvaOnce:=true
 emptyLeaveAll:=true
 fourPacked:=none

def talkerFailedFormat : Format MsrpValue where
 attributeType := 2
 attributeLength:=34
 vectorSize:=37
 listLength:=true
 selects:=fun v=>v.type=.talkerFailed
 firstValue:=fun v=>talkerBytes v.talkListen++failureBytes v.talkListen
 eventsAt:=34
 advance:=advanceTalkListen
 continues:=vectorizeTalker
 joinsByHead:=false
 runSlack:=2
 padding:=[0,0]
 lvaOnce:=true
 emptyLeaveAll:=true
 fourPacked:=none

def listenFormat : Format MsrpValue where
 attributeType := 3
 attributeLength:=8
 vectorSize:=13
 listLength:=true
 selects:=fun v=>v.type=.listener
 firstValue:=fun v=>beBytes 8 v.streamId.toNat
 eventsAt:=8
 advance:=advanceStream
 continues:=fun expected v=>v.streamId=expected.streamId
 joinsByHead:=false
 runSlack:=2
 padding:=[0,0]
 lvaOnce:=true
 emptyLeaveAll:=true
 fourPacked:=some fun v=>v.substate.toNat

def domainFormat : Format MsrpValue where
 attributeType := 4
 attributeLength:=4
 vectorSize:=5
 listLength:=true
 selects:=fun v=>v.type=.domain
 firstValue:=fun v=>beBytes 1 v.domain.srClassId.toNat++
  beBytes 1 v.domain.srClassPriority.toNat++beBytes 2 v.domain.srClassVid.toNat
 eventsAt:=4
 advance:=fun v=>v
 continues:=fun _ _=>false
 joinsByHead:=false
 runSlack:=2
 padding:=[0,0]
 lvaOnce:=true
 emptyLeaveAll:=true
 fourPacked:=none

def msrpEmitTalkervectors (fmt:Format MsrpValue) (lva flag:Bool) (base:Nat)
 (attribList:List (Attribute MsrpValue)) : Emitted MsrpValue :=
 emitVectors fmt maxFrameSize base lva flag attribList
def markListeners (l:List (Attribute MsrpValue)) : List (Attribute MsrpValue) :=
 l.map fun a=>if a.value.type=.listener then setTx true a else a
def msrpEmitListenvectors (lva flag:Bool) (base:Nat) (attribList:List (Attribute MsrpValue)) :
 Emitted MsrpValue :=
 if maxFrameSize<base+listenFormat.vectorSize then ⟨false,[],attribList,0,[]⟩
 else emitVectors listenFormat maxFrameSize base lva flag (markListeners attribList)
def msrpEmitDomainvectors (lva flag:Bool) (base:Nat) (attribList:List (Attribute MsrpValue)) :
 Emitted MsrpValue := emitVectors domainFormat maxFrameSize base lva flag attribList

def msrpBuild (db:Database MsrpValue) : Building MsrpValue :=
 let lva:=db.lva.tx
 let flag:=db.sendEmptyLeaveAllFlag
 let b:=(Building.start db.attribList).append (msrpEmitTalkervectors talkerAdvFormat lva flag)
 let b:=b.append (msrpEmitTalkervectors talkerFailedFormat lva flag)
 let b:=b.requireRoom.append (msrpEmitListenvectors lva flag)
 b.append (msrpEmitDomainvectors lva flag)

def msrpTxpdu (station:BitVec 48) (db:Database MsrpValue) :
 Database MsrpValue×Option (List UInt8) := (spent db (msrpBuild db).attribList,
  (msrpBuild db).frame (frameHeader msrpAddr msrpEtype station))

structure Interest where
 enablePruning:Bool
 interestingStreamIds:List (BitVec 64)
 deriving DecidableEq, Repr

def msrpApplication (station:BitVec 48) : Application MsrpValue where
 sameAttribute := sameMsrpAttribute
 add:=msrpAdd
 merge:=msrpMerge
 leaveAllScope:=fun probe=>probe.map fun v a=>a.type=v.type
 periodic:=false
 reclaims:=true
 joinFirst:=false
 txpdu:=msrpTxpdu station

def eui64setFind (set:List (BitVec 64)) (streamId:BitVec 64) : Bool := decide (streamId∈set)

variable (set:List (BitVec 64)) (streamId:BitVec 64)

@[simp] lemma eui64setFind_iff : eui64setFind set streamId=true↔streamId∈set := decide_eq_true_iff
@[simp] lemma eui64setFind_eq_false_iff :
 eui64setFind set streamId=false↔streamId∉set := decide_eq_false_iff_not
def interested (interest:Interest) (v:MsrpValue) (l:List (Attribute MsrpValue)) : Bool :=
 !(v.type.isTalker&&interest.enablePruning &&
  !eui64setFind interest.interestingStreamIds v.streamId&&!hasListener v.streamId l)

def msrpEvent (station:BitVec 48) (p2pmac:Nat) (interest:Interest) (event:Event)
 (rattrib:Option (Attribute MsrpValue)) (db:Database MsrpValue) : Outcome MsrpValue :=
 match rattrib with
 | some r=>
  if isAttributeEvent event&&!interested interest r.value db.attribList then
   notifyAll db [] []
  else MrpEvents.event (msrpApplication station) p2pmac event rattrib db
 | none=>MrpEvents.event (msrpApplication station) p2pmac event none db

def readTalker (bytes:List UInt8) : TalkListen :=
 let (streamId,bytes):=takeField 8 bytes
 let (destAddr,bytes):=takeField 6 bytes
 let (vlanId,bytes):=takeField 2 bytes
 let (maxFrameSize,bytes):=takeField 2 bytes
 let (maxIntervalFrames,bytes):=takeField 2 bytes
 let (priorityAndRank,bytes):=takeField 1 bytes
 let (accumulatedLatency,bytes):=takeField 4 bytes
 let (bridgeId,bytes):=takeField 8 bytes
 let (failureCode,_):=takeField 1 bytes
 {streamId:=BitVec.ofNat 64 streamId
  destAddr:=BitVec.ofNat 48 destAddr
  vlanId:=BitVec.ofNat 16 vlanId
  maxFrameSize:=BitVec.ofNat 16 maxFrameSize
  maxIntervalFrames:=BitVec.ofNat 16 maxIntervalFrames
  priorityAndRank:=BitVec.ofNat 8 priorityAndRank
  accumulatedLatency:=BitVec.ofNat 32 accumulatedLatency
  bridgeId:=BitVec.ofNat 64 bridgeId
  failureCode:=BitVec.ofNat 8 failureCode}

/-- An advertisement has no failure information: behind its last byte nothing is read. -/
def talkerReader (type:MsrpType) (firstLength:Nat) : Reader MsrpType MsrpValue where
 kind := type
 firstLength:=firstLength
 first:=fun bytes=>{blank type with talkListen:=readTalker bytes}
 accepts:=fun _=>true
 advance:=advanceTalkListen
 strict:=true
 once:=true
 skipsEmpty:=true
 fourPacked:=none

def listenReader : Reader MsrpType MsrpValue where
 kind := .listener
 firstLength:=8
 first:=fun bytes=>{blank .listener with
  talkListen:={emptyTalkListen with streamId:=BitVec.ofNat 64 (beValue bytes)}}
 accepts:=fun _=>true
 advance:=advanceStream
 strict:=true
 once:=true
 skipsEmpty:=true
 fourPacked:=some fun substate v=>{v with substate:=BitVec.ofNat 32 substate}

def readDomain (bytes:List UInt8) : Domain :=
 let (srClassId,bytes):=takeField 1 bytes
 let (srClassPriority,bytes):=takeField 1 bytes
 let (srClassVid,_):=takeField 2 bytes
 {srClassId:=BitVec.ofNat 8 srClassId
  srClassPriority:=BitVec.ofNat 8 srClassPriority
  neighborSrClassPriority:=BitVec.ofNat 8 srClassPriority
  srClassVid:=BitVec.ofNat 16 srClassVid}

def domainReader : Reader MsrpType MsrpValue where
 kind := .domain
 firstLength:=4
 first:=fun bytes=>{blank .domain with domain:=readDomain bytes}
 accepts:=fun _=>true
 advance:=fun v=>{v with domain:={v.domain with
  srClassId:=v.domain.srClassId+1
  srClassPriority:=v.domain.srClassPriority+1
  neighborSrClassPriority:=v.domain.srClassPriority+1}}
 strict:=true
 once:=true
 skipsEmpty:=true
 fourPacked:=none

/-- From the AttributeListLength on; `none` if it reads behind the frame. -/
def checkAttribListLen (attribLen:Nat) (data:List UInt8) : Option Bool :=
 match data with
 | l0::l1::_=>
  let listLen:=l0.toNat*256+l1.toNat
  if listLen<attribLen+2+1 then some false
  else if data.length≤listLen then some false
  else if data.getD listLen 0≠0 then some false
  else if data.length≤listLen+1 then none
  else some (data.getD (listLen+1) 0=0)
 | _=>none

/-- A message of a known type: its vectors, or the step over one vector if the list length is
wrong. -/
def msrpMessage (r:Reader MsrpType MsrpValue) (skipped:Nat → Nat) (length:UInt8)
 (data:List UInt8) : Dispatch MsrpType MsrpValue :=
 if length.toNat≠r.firstLength then .stop .malformed
 else
  match checkAttribListLen r.firstLength data with
  | none=>.stop .overread
  | some true=>.vectors r (data.drop 2)
  | some false=>
   match data.drop 2 with
   | h0::h1::rest=>
    .resume (rest.drop (r.firstLength+skipped ((h0.toNat*256+h1.toNat)%8192)))
   | _=>.stop .overread

def msrpDispatch (_version type length:UInt8) (data:List UInt8) : Dispatch MsrpType MsrpValue :=
 if type=4 then msrpMessage domainReader (fun n=>(n+2)/3) length data
 else if type=3 then
  msrpMessage listenReader (fun n=>(n+2)/3+(n+3)/4) length data
 else if type=1 then
  msrpMessage (talkerReader .talkerAdv 25) (fun n=>(n+2)/3) length data
 else if type=2 then
  msrpMessage (talkerReader .talkerFailed 34) (fun n=>(n+2)/3) length data
 else .stop .malformed

def msrpParse (frame:List UInt8) : List (Call MsrpType MsrpValue)×Except Stop Unit :=
 parseFrame msrpAddr msrpEtype msrpDispatch frame
def msrpRecvMsg (station:BitVec 48) (p2pmac:Nat) (interest:Interest) (frame:List UInt8)
 (db:Database MsrpValue) : Outcome MsrpValue :=
 raiseCalls (msrpEvent station p2pmac interest) (fun type=>some (blank type))
  (frameSource frame) (msrpParse frame).1 db

end OpenAvnu.Msrp

/-! ## MSRP client commands -/

namespace OpenAvnu.MsrpCommands

open Mrp MrpEvents Msrp

structure Client where
 addr:BitVec 32
 port:BitVec 16
 deriving DecidableEq, Repr

structure MsrpDatabase where
 mrp:Database MsrpValue
 clients:List Client
 interest:Interest
 maxEntries:Nat
 deriving DecidableEq, Repr

inductive Command where
 /-- `S++` (`new`) and `S+?`, with or without failure information -/
 | joinOrNewStream (new failed:Bool) (talker:TalkListen)
 /-- `S--` -/
 | leaveStream (streamId:BitVec 64)
 /-- `S+L` -/
 | reportListenerStatus (streamId:BitVec 64) (substate:BitVec 32)
 /-- `S-L` -/
 | withdrawListenerStatus (streamId:BitVec 64)
 /-- `S+D` (`report`) and `S-D` -/
 | reportDomainStatus (report:Bool) (srClassId srClassPriority:BitVec 8)
  (srClassVid:BitVec 16)
 /-- `I+S` -/
 | addInteresting (streamId:BitVec 64)
 /-- `I-S` -/
 | removeInteresting (streamId:BitVec 64)
 /-- `I-A` -/
 | removeAllInteresting
 /-- `S??`, and every text that is rejected -/
 | other
 deriving DecidableEq, Repr

/-- Clients are told apart by their port when one is added, by address and port when one is
deleted. -/
def clientAdd (client:Client) (clients:List Client) : List Client :=
 if clients.any fun c=>c.port=client.port then clients else clients++[client]

def clientDelete (client:Client) (clients:List Client) : List Client := clients.erase client
def declaredTalker (failed:Bool) (talker:TalkListen) : MsrpValue :=
 if failed then ⟨.talkerFailed,talker,emptyDomain,0,.declare⟩
 else ⟨.talkerAdv,{talker with bridgeId:=0,failureCode:=0},emptyDomain,0,.declare⟩
def streamValue (type:MsrpType) (streamId:BitVec 64) : MsrpValue :=
 {blank type with talkListen:={emptyTalkListen with streamId:=streamId}}
def declaredListener (streamId:BitVec 64) (substate:BitVec 32) : MsrpValue :=
 {streamValue .listener streamId with substate:=substate,operation:=.declare}

/-- A withdrawn listener keeps the substate it has in the database. -/
def withdrawnListener (streamId:BitVec 64) (l:List (Attribute MsrpValue)) : MsrpValue :=
 let v:=streamValue .listener streamId
 match l.find? fun a=>sameMsrpAttribute v a.value with
 | some a=>{v with substate:=a.value.substate}
 | none=>v
def domainValue (srClassId srClassPriority:BitVec 8) (srClassVid:BitVec 16) : MsrpValue :=
 {blank .domain with domain:=⟨srClassId,srClassPriority,srClassPriority,srClassVid⟩}
def pruneTalkers (streamId:BitVec 64) (db:Database MsrpValue) : Database MsrpValue :=
 {db with attribList:=db.attribList.filter fun a=>
  !(a.value.type.isTalker&&a.value.streamId=streamId)}

section
variable (station:BitVec 48) (p2pmac:Nat)

def commandEvent (event:Event) (value:MsrpValue) (db:MsrpDatabase) : MsrpDatabase :=
 {db with mrp:=
  (msrpEvent station p2pmac db.interest event (some (alloc value 0)) db.mrp).db}

def runCommand (command:Command) (db:MsrpDatabase) : MsrpDatabase :=
 match command with
 | .joinOrNewStream new failed talker=>
  commandEvent station p2pmac (if new then .NEW else .JOIN) (declaredTalker failed talker) db
 | .leaveStream streamId=>
  commandEvent station p2pmac .LV (streamValue .talkerAdv streamId) db
 | .reportListenerStatus streamId substate=>
  commandEvent station p2pmac .NEW (declaredListener streamId substate) db
 | .withdrawListenerStatus streamId=>
  let db:=commandEvent station p2pmac .LV
   (withdrawnListener streamId db.mrp.attribList) db
  if db.interest.enablePruning&&!eui64setFind db.interest.interestingStreamIds streamId then
   {db with mrp:=pruneTalkers streamId db.mrp}
  else db
 | .reportDomainStatus report srClassId srClassPriority srClassVid=>
  commandEvent station p2pmac (if report then .JOIN else .LV)
   (domainValue srClassId srClassPriority srClassVid) db
 | .addInteresting streamId=>
  if db.interest.enablePruning &&
   !eui64setFind db.interest.interestingStreamIds streamId &&
   decide (db.interest.interestingStreamIds.length<db.maxEntries) then
   {db with interest:={db.interest with
    interestingStreamIds:=streamId::db.interest.interestingStreamIds}}
  else db
 | .removeInteresting streamId=>
  if db.interest.enablePruning&&eui64setFind db.interest.interestingStreamIds streamId then
   let db:={db with interest:={db.interest with
    interestingStreamIds:=db.interest.interestingStreamIds.erase streamId}}
   if hasListener streamId db.mrp.attribList then db
   else {db with mrp:=pruneTalkers streamId db.mrp}
  else db
 | .removeAllInteresting=>
  {db with interest:={db.interest with interestingStreamIds:=[]}}
 | .other=>db

/-- With pruning enabled only one client is served. -/
def msrpRecvCmd (client:Client) (command:Command) (db:MsrpDatabase) : MsrpDatabase :=
 let clients:=clientAdd client db.clients
 if db.interest.enablePruning&&decide (1<clients.length) then
  {db with clients:=clientDelete client clients}
 else runCommand station p2pmac command {db with clients:=clients}
def msrpBye (client:Client) (db:MsrpDatabase) : MsrpDatabase :=
 {db with clients:=clientDelete client db.clients}

end

def msrpInit (maxInterestingStreamIds:Nat) (enablePruning:Bool) : MsrpDatabase where
 mrp := initialDatabase
 clients:=[]
 interest:=⟨enablePruning,[]⟩
 maxEntries:=max 8 maxInterestingStreamIds

end OpenAvnu.MsrpCommands
