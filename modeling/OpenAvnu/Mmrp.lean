import OpenAvnu.MrpCodec

/-!
# MMRP

Service requirements and MAC addresses in one list, grouped by type.
-/

namespace OpenAvnu.Mmrp

open Bytes Mrp MrpEvents MrpEncode MrpDecode

inductive MmrpType where
 | svcreq
 | macvec
 deriving DecidableEq, Repr

inductive MmrpValue where
 | svcreq (service:BitVec 8)
 | macvec (macaddr:BitVec 48)
 deriving DecidableEq, Repr

def MmrpValue.type : MmrpValue → MmrpType
 | .svcreq _=>.svcreq
 | .macvec _=>.macvec
def MmrpValue.key : MmrpValue → Nat
 | .svcreq service=>service.toNat
 | .macvec macaddr=>macaddr.toNat

/-- The carry stops at the second byte: the first one never changes. -/
def incrementMacaddr (macaddr:BitVec 48) : BitVec 48 := macaddr.extractLsb' 40 8++(macaddr.extractLsb' 0 40+1)

def mmrpAddr : List UInt8 := [0x01,0x80,0xC2,0x00,0x00,0x20]
def mmrpEtype : List UInt8 := [0x88,0xF6]
def mmrpAdd (rattrib:Attribute MmrpValue) (l:List (Attribute MmrpValue)) :
 List (Attribute MmrpValue) := addGrouped MmrpValue.type MmrpValue.key rattrib l
def mmrpMerge (_:List (Attribute MmrpValue)) (rattrib a:Attribute MmrpValue) : Attribute MmrpValue :=
 {a with registrar:={a.registrar with macaddr:=rattrib.registrar.macaddr}}

/-- The first event byte is at index 2 behind a value of one byte, and unused events of it are
uninitialised (`stack`). -/
def svcFormat (stack:List Nat) : Format MmrpValue where
 attributeType := 1
 attributeLength:=1
 vectorSize:=6
 listLength:=false
 selects:=fun v=>v.type=.svcreq
 firstValue:=fun v=>match v with
  | .svcreq service=>beBytes 1 service.toNat
  | .macvec _=>[]
 eventsAt:=2
 advance:=fun v=>match v with
  | .svcreq service=>.svcreq (service+1)
  | v=>v
 continues:=fun expected v=>v=expected
 joinsByHead:=false
 runSlack:=2
 padding:=stack
 lvaOnce:=true
 emptyLeaveAll:=true
 fourPacked:=none

/-- A join inside a run reports the head's registrar, every vector repeats the LeaveAll flag, and
there is no empty LeaveAll. -/
def macFormat : Format MmrpValue where
 attributeType := 2
 attributeLength:=6
 vectorSize:=11
 listLength:=false
 selects:=fun v=>v.type=.macvec
 firstValue:=fun v=>match v with
  | .macvec macaddr=>beBytes 6 macaddr.toNat
  | .svcreq _=>[]
 eventsAt:=6
 advance:=fun v=>match v with
  | .macvec macaddr=>.macvec (incrementMacaddr macaddr)
  | v=>v
 continues:=fun expected v=>v=expected
 joinsByHead:=true
 runSlack:=11
 padding:=[0,0]
 lvaOnce:=false
 emptyLeaveAll:=false
 fourPacked:=none

def mmrpEmitMacvectors (lva flag:Bool) (base:Nat) (attribList:List (Attribute MmrpValue)) :
 Emitted MmrpValue := emitVectors macFormat maxFrameSize base lva flag attribList
def mmrpEmitSvcvectors (stack:List Nat) (lva flag:Bool) (base:Nat)
 (attribList:List (Attribute MmrpValue)) : Emitted MmrpValue :=
 emitVectors (svcFormat stack) maxFrameSize base lva flag attribList
def mmrpBuild (stack:List Nat) (db:Database MmrpValue) : Building MmrpValue :=
 let mac:=(Building.start db.attribList).append
  (mmrpEmitMacvectors db.lva.tx db.sendEmptyLeaveAllFlag)
 mac.requireRoom.append (mmrpEmitSvcvectors stack db.lva.tx db.sendEmptyLeaveAllFlag)
def mmrpTxpdu (station:BitVec 48) (stack:List Nat) (db:Database MmrpValue) :
 Database MmrpValue×Option (List UInt8) := (spent db (mmrpBuild stack db).attribList,
  (mmrpBuild stack db).frame (frameHeader mmrpAddr mmrpEtype station))

def mmrpApplication (station:BitVec 48) (stack:List Nat) : Application MmrpValue where
 sameAttribute := fun v v'=>v'=v
 add:=mmrpAdd
 merge:=mmrpMerge
 leaveAllScope:=fun probe=>probe.map fun v a=>a.type=v.type
 periodic:=true
 reclaims:=false
 joinFirst:=true
 txpdu:=mmrpTxpdu station stack

def mmrpEvent (station:BitVec 48) (stack:List Nat) (p2pmac:Nat) :
 Event → Option (Attribute MmrpValue) → Database MmrpValue → Outcome MmrpValue :=
 MrpEvents.event (mmrpApplication station stack) p2pmac

def svcReader : Reader MmrpType MmrpValue where
 kind := .svcreq
 firstLength:=1
 first:=fun bytes=>.svcreq (BitVec.ofNat 8 (beValue bytes))
 accepts:=fun v=>match v with
  | .svcreq service=>service.toNat≤1
  | .macvec _=>true
 advance:=fun v=>match v with
  | .svcreq service=>.svcreq (service+1)
  | v=>v
 strict:=false
 once:=true
 skipsEmpty:=false
 fourPacked:=none

def macReader : Reader MmrpType MmrpValue where
 kind := .macvec
 firstLength:=6
 first:=fun bytes=>.macvec (BitVec.ofNat 48 (beValue bytes))
 accepts:=fun _=>true
 advance:=fun v=>match v with
  | .macvec macaddr=>.macvec (incrementMacaddr macaddr)
  | v=>v
 strict:=false
 once:=false
 skipsEmpty:=false
 fourPacked:=none

def mmrpDispatch (_version type length:UInt8) (data:List UInt8) : Dispatch MmrpType MmrpValue :=
 if type=1 then
  if length≠1 then .stop .malformed else .vectors svcReader data
 else if type=2 then
  if length≠6 then .stop .malformed else .vectors macReader data
 else .stop .malformed

def mmrpParse (frame:List UInt8) : List (Call MmrpType MmrpValue)×Except Stop Unit :=
 parseFrame mmrpAddr mmrpEtype mmrpDispatch frame

/-- A LeaveAll is raised with a fresh attribute of the type. -/
def mmrpProbe : MmrpType → Option MmrpValue
 | .svcreq=>some (.svcreq 0)
 | .macvec=>some (.macvec 0)

def mmrpRecvMsg (station:BitVec 48) (stack:List Nat) (p2pmac:Nat) (frame:List UInt8)
 (db:Database MmrpValue) : Outcome MmrpValue :=
 raiseCalls (mmrpEvent station stack p2pmac) mmrpProbe (frameSource frame)
  (mmrpParse frame).1 db
def mmrpCmd (station:BitVec 48) (stack:List Nat) (p2pmac:Nat) (value:MmrpValue)
 (event:Event) (db:Database MmrpValue) : Outcome MmrpValue :=
 mmrpEvent station stack p2pmac event (some (alloc value 0)) db

end OpenAvnu.Mmrp
