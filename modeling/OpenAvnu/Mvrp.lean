import OpenAvnu.MrpCodec

/-!
# MVRP

VLAN registration: one attribute type, the VID, kept in a list sorted by VID.
-/

namespace OpenAvnu.Mvrp

open Bytes Mrp MrpEvents MrpEncode MrpDecode

def mvrpCustomerBridgeAddr : List UInt8 := [0x01,0x80,0xC2,0x00,0x00,0x21]
def mvrpEtype : List UInt8 := [0x88,0xF5]
def mvrpAdd (rattrib:Attribute (BitVec 16)) (l:List (Attribute (BitVec 16))) :
 List (Attribute (BitVec 16)) := addGrouped (fun _=>()) BitVec.toNat rattrib l
def mvrpMerge (_:List (Attribute (BitVec 16))) (rattrib a:Attribute (BitVec 16)) : Attribute (BitVec 16) :=
 {a with registrar:={a.registrar with macaddr:=rattrib.registrar.macaddr}}

def vidFormat : Format (BitVec 16) where
 attributeType := 1
 attributeLength:=2
 vectorSize:=6
 listLength:=false
 selects:=fun _=>true
 firstValue:=fun vid=>beBytes 2 vid.toNat
 eventsAt:=2
 advance:=fun vid=>vid+1
 continues:=fun expected vid=>vid=expected
 joinsByHead:=false
 runSlack:=2
 padding:=[0,0]
 lvaOnce:=true
 emptyLeaveAll:=true
 fourPacked:=none

def mvrpEmitVidvectors (lva flag:Bool) (base:Nat) (attribList:List (Attribute (BitVec 16))) :
 Emitted (BitVec 16) := emitVectors vidFormat maxFrameSize base lva flag attribList
def mvrpBuild (db:Database (BitVec 16)) : Building (BitVec 16) :=
 (Building.start db.attribList).append (mvrpEmitVidvectors db.lva.tx db.sendEmptyLeaveAllFlag)
def mvrpTxpdu (station:BitVec 48) (db:Database (BitVec 16)) :
 Database (BitVec 16)×Option (List UInt8) := (spent db (mvrpBuild db).attribList,
  (mvrpBuild db).frame (frameHeader mvrpCustomerBridgeAddr mvrpEtype station))

def mvrpApplication (station:BitVec 48) : Application (BitVec 16) where
 sameAttribute := fun vid vid'=>vid'=vid
 add:=mvrpAdd
 merge:=mvrpMerge
 leaveAllScope:=fun _=>some fun _=>true
 periodic:=true
 reclaims:=true
 joinFirst:=true
 txpdu:=mvrpTxpdu station

def mvrpEvent (station:BitVec 48) (p2pmac:Nat) :
 Event → Option (Attribute (BitVec 16)) → Database (BitVec 16) → Outcome (BitVec 16) :=
 MrpEvents.event (mvrpApplication station) p2pmac

def vidReader : Reader Unit (BitVec 16) where
 kind := ()
 firstLength:=2
 first:=fun bytes=>BitVec.ofNat 16 (beValue bytes)
 accepts:=fun vid=>vid.toNat≤0xFFF
 advance:=fun vid=>vid+1
 strict:=false
 once:=true
 skipsEmpty:=false
 fourPacked:=none

/-- An unknown attribute type is skipped in a newer protocol version only. -/
def mvrpDispatch (version type length:UInt8) (data:List UInt8) : Dispatch Unit (BitVec 16) :=
 if type=1 then
  if length≠2 then .stop .malformed else .vectors vidReader data
 else if version=0 then .stop .malformed
 else
  match data with
  | h0::h1::rest=>
   let numvalues:=(h0.toNat*256+h1.toNat)%8192
   .resume (rest.drop (length.toNat+(numvalues+2)/3))
  | _=>.stop .overread

def mvrpParse (frame:List UInt8) : List (Call Unit (BitVec 16))×Except Stop Unit :=
 parseFrame mvrpCustomerBridgeAddr mvrpEtype mvrpDispatch frame
def mvrpRecvMsg (station:BitVec 48) (p2pmac:Nat) (frame:List UInt8)
 (db:Database (BitVec 16)) : Outcome (BitVec 16) :=
 raiseCalls (mvrpEvent station p2pmac) (fun _=>none) (frameSource frame) (mvrpParse frame).1 db
def mvrpCmdVid (station:BitVec 48) (p2pmac:Nat) (vid:BitVec 16) (event:Event)
 (db:Database (BitVec 16)) : Outcome (BitVec 16) := mvrpEvent station p2pmac event (some (alloc vid 0)) db

end OpenAvnu.Mvrp
