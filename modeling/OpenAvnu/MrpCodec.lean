import OpenAvnu.Bytes
import OpenAvnu.Mrp
import OpenAvnu.PackedDigits

/-!
# Vector encoding and frame parsing

The encoders walk the list once, extending vectors over consecutive values. The buffer ends at
`eof`; `reach` is one past the highest offset written.
-/

namespace OpenAvnu.MrpEncode

open Bytes PackedDigits Mrp

inductive PduEvent where
 | NEW | JOININ | IN | JOINMT | MT | LV
 deriving DecidableEq, Repr

def PduEvent.code : PduEvent → Nat
 | .NEW=>0
 | .JOININ=>1
 | .IN=>2
 | .JOINMT=>3
 | .MT=>4
 | .LV=>5

def PduEvent.ofCode : Nat → Option PduEvent
 | 0=>some .NEW
 | 1=>some .JOININ
 | 2=>some .IN
 | 3=>some .JOINMT
 | 4=>some .MT
 | 5=>some .LV
 | _=>none

def pduEvent (registrarIsIn:Bool) : SendMsg → Option PduEvent
 | .IN=>some (if registrarIsIn then .IN else .MT)
 | .NEW=>some .NEW
 | .LV=>some .LV
 | .JOIN=>some (if registrarIsIn then .JOININ else .JOINMT)
 | .LVA | .NULL | .NONE=>none

structure Format (α:Type) where
 attributeType:UInt8
 attributeLength:Nat
 /-- the room an encoder asks for before it starts a vector -/
 vectorSize:Nat
 /-- whether an AttributeListLength field precedes the vectors -/
 listLength:Bool
 /-- the attributes this encoder sends -/
 selects:α → Bool
 firstValue:α → List UInt8
 /-- index of the first packed event byte after the vector header -/
 eventsAt:Nat
 advance:α → α
 /-- whether a candidate continues a vector that expects the first value next -/
 continues:α → α → Bool
 /-- whether a joining attribute of a run reports the registrar of the run's head -/
 joinsByHead:Bool
 /-- bytes that must stay free behind a growing run -/
 runSlack:Nat
 /-- what the unused events of the first packed byte hold -/
 padding:List Nat
 /-- whether only the first vector carries the LeaveAll flag -/
 lvaOnce:Bool
 /-- whether a LeaveAll without attributes can be sent -/
 emptyLeaveAll:Bool
 /-- the value packed four to a byte behind the events -/
 fourPacked:Option (α → Nat)

variable {α:Type}

def ownEvent (a:Attribute α) : Option PduEvent := pduEvent (registrarIn a.registrar) a.applicant.sndmsg
def runEvent (fmt:Format α) (head a:Attribute α) : Option PduEvent :=
 if fmt.joinsByHead&&a.applicant.sndmsg=.JOIN then
  pduEvent (registrarIn head.registrar) .JOIN
 else ownEvent a
def setTx (tx:Bool) (a:Attribute α) : Attribute α :=
 {a with applicant:={a.applicant with tx:=tx}}
def vectorHeader (numvalues:Nat) (lva:Bool) : List UInt8 := beBytes 2 (numvalues%8192+if lva then 8192 else 0)

structure Grown (α:Type) where
 packer:Packer
 members:List (Attribute α)
 rest:List (Attribute α)
 ok:Bool

def growVector (fmt:Format α) (eof fv:Nat) (head:Attribute α) :
 α → Packer → List (Attribute α) → List (Attribute α) → Grown α
 | _, packer, members, []=>⟨packer,members,[],true⟩
 | expected, packer, members, v::rest=>
  if !fmt.selects v.value||!v.applicant.tx then ⟨packer,members,v::rest,true⟩
  else
   let expected:=fmt.advance expected
   if !fmt.continues expected v.value then ⟨packer,members,v::rest,true⟩
   else
    match runEvent fmt head v with
    | none=>⟨packer,members,setTx false v::rest,false⟩
    | some e=>
     let packer:=packer.push 6 3 e.code
     if eof<fv+fmt.eventsAt+packer.bytes.length+fmt.runSlack then
      ⟨packer,members++[v],setTx false v::rest,false⟩
     else
      let g:=growVector fmt eof fv head expected packer (members++[v]) rest
      {g with rest:=setTx false v::g.rest}

/-- Pack values four to a byte from offset `pos` on, checking the room around full bytes. -/
def packFours (eof:Nat) : Nat → List Nat → List UInt8×Bool
 | pos, w::x::y::z::rest=>
  if eof<pos+2 then ([],false)
  else
   let byte:=UInt8.ofNat (packDigits 4 [w,x,y,z])
   if eof<pos+1+3 then ([byte],false)
   else
    let r:=packFours eof (pos+1) rest
    (byte::r.1,r.2)
 | _, [x,y,z]=>([UInt8.ofNat (packDigits 4 [x,y,z,0])],true)
 | _, [x,y]=>([UInt8.ofNat (packDigits 4 [x,y,0,0])],true)
 | _, [x]=>([UInt8.ofNat (packDigits 4 [x,0,0,0])],true)
 | _, []=>([],true)

def fours (fmt:Format α) (members:List (Attribute α)) : List Nat :=
 match fmt.fourPacked with
 | none=>[]
 | some f=>members.map fun a=>f a.value

/-- The encoder's cursor, its output so far and, vector by vector, the attributes in it. -/
structure Emission (α:Type) where
 (ptr vec:Nat)
 body:List UInt8
 (lva found:Bool)
 reach:Nat
 encoded:List (List (Attribute α))

def Emission.touch (st:Emission α) (pos n:Nat) : Emission α :=
 if n=0 then st else {st with reach:=max st.reach (pos+n)}
def firstBytes (fmt:Format α) (value:α) : List UInt8 :=
 fmt.firstValue value++List.replicate (fmt.eventsAt-(fmt.firstValue value).length) 0

def emitVector (fmt:Format α) (eof:Nat) (st:Emission α) (head:Attribute α)
 (rest:List (Attribute α)) : Emission α×List (Attribute α)×Bool :=
 let fv:=st.vec+2
 let st:={st.touch fv (fmt.firstValue head.value).length with found:=true}
 match ownEvent head with
 | none=>(st,rest,false)
 | some e=>
  let g:=growVector fmt eof fv head head.value (Packer.start e.code fmt.padding) [head] rest
  let st:=st.touch (fv+fmt.eventsAt) g.packer.bytes.length
  if !g.ok then (st,g.rest,false)
  else
   let packed:=g.packer.finish 6
   let st:=st.touch (fv+fmt.eventsAt) packed.length
   let pos:=fv+fmt.eventsAt+packed.length
   let four:=packFours eof pos (fours fmt g.members)
   let st:=st.touch pos four.1.length
   if !four.2 then (st,g.rest,false)
   else
    let pos:=pos+four.1.length
    if eof<pos+2 then (st,g.rest,false)
    else
     ({st with
      ptr:=pos
      vec:=pos
      body:=st.body++vectorHeader g.members.length st.lva++firstBytes fmt head.value++packed++four.1
      lva:=st.lva&&!fmt.lvaOnce
      encoded:=st.encoded++[g.members]},g.rest,true)

def emitLoop (fmt:Format α) (eof:Nat) :
 Nat → Emission α → List (Attribute α) → Emission α×List (Attribute α)×Bool
 | 0, st, todo=>(st,todo,true)
 | _+1, st, []=>(st,[],true)
 | fuel+1, st, a::rest=>
  if eof ≤ st.ptr+fmt.vectorSize+2 then (st,a::rest,true)
  else if !fmt.selects a.value||!a.applicant.tx then
   let r:=emitLoop fmt eof fuel st rest
   (r.1,a::r.2.1,r.2.2)
  else if a.applicant.encode=.OPTIONAL then
   let r:=emitLoop fmt eof fuel st rest
   (r.1,setTx false a::r.2.1,r.2.2)
  else
   let v:=emitVector fmt eof st a rest
   if v.2.2 then
    let r:=emitLoop fmt eof fuel v.1 v.2.1
    (r.1,setTx false a::r.2.1,r.2.2)
   else (v.1,setTx false a::v.2.1,false)

structure Emitted (α:Type) where
 ok:Bool
 bytes:List UInt8
 attribList:List (Attribute α)
 reach:Nat
 encoded:List (List (Attribute α))

def dataAt (fmt:Format α) (base:Nat) : Nat := base+if fmt.listLength then 4 else 2
def message (fmt:Format α) (body:List UInt8) : List UInt8 :=
 [fmt.attributeType,UInt8.ofNat fmt.attributeLength]++
  (if fmt.listLength then beBytes 2 (body.length+2) else [])++body++[0,0]

def emitEmptyLeaveAll (fmt:Format α) (flag:Bool) (st:Emission α) : Emission α :=
 if !st.found&&flag&&fmt.emptyLeaveAll then
  {st.touch st.vec 2 with
    ptr:=st.vec+2+fmt.attributeLength
    vec:=st.vec+2+fmt.attributeLength
    body:=st.body++vectorHeader 0 true++List.replicate fmt.attributeLength 0}
 else st

def emitVectors (fmt:Format α) (eof base:Nat) (lva flag:Bool)
 (attribList:List (Attribute α)) : Emitted α :=
 if eof<base+fmt.vectorSize then ⟨false,[],attribList,0,[]⟩
 else
  let r:=emitLoop fmt eof attribList.length
   ⟨base,dataAt fmt base,[],lva,false,base+2,[]⟩ attribList
  if !r.2.2 then ⟨false,[],r.2.1,r.1.reach,[]⟩
  else
   let st:=emitEmptyLeaveAll fmt flag r.1
   if st.vec=dataAt fmt base then ⟨true,[],r.2.1,st.reach,[]⟩
   else ⟨true,message fmt st.body,r.2.1,(st.touch st.ptr 2).reach,st.encoded⟩

def maxFrameSize : Nat := 2000
def messageListAt : Nat := 15
def frameHeader (destaddr typelen:List UInt8) (station:BitVec 48) : List UInt8 :=
 destaddr++beBytes 6 station.toNat++typelen++[0]

/-- A frame under construction; `messages` is `none` once an encoder has failed. -/
structure Building (α:Type) where
 messages:Option (List UInt8)
 attribList:List (Attribute α)
 reach:Nat
 encoded:List (List (Attribute α))

def Building.start (attribList:List (Attribute α)) : Building α := ⟨some [],attribList,messageListAt,[]⟩

def Building.append (b:Building α) (emit:Nat → List (Attribute α) → Emitted α) : Building α :=
 match b.messages with
 | none=>b
 | some messages=>
  let e:=emit (messageListAt+messages.length) b.attribList
  if e.ok then
   ⟨some (messages++e.bytes),e.attribList,max b.reach e.reach,b.encoded++e.encoded⟩
  else ⟨none,e.attribList,max b.reach e.reach,[]⟩

def Building.requireRoom (b:Building α) : Building α :=
 match b.messages with
 | none=>b
 | some messages=>
  if maxFrameSize ≤ messageListAt+messages.length+2 then {b with messages:=none} else b

/-- Close the message list, if there is a message and the end mark fits. -/
def Building.frame (b:Building α) (header:List UInt8) : Option (List UInt8) :=
 match b.messages with
 | none=>none
 | some messages=>
  if messages=[] then none
  else if messageListAt+messages.length+2 < maxFrameSize then
   some (header++messages++[0,0])
  else none

def Building.lastReach (b:Building α) : Nat :=
 match b.messages with
 | none=>b.reach
 | some messages=>
  if messages=[] then b.reach
  else if messageListAt+messages.length+2 < maxFrameSize then
   max b.reach (messageListAt+messages.length+2)
  else b.reach

/-- The database once a frame was built: the LeaveAll request is taken and `tx` flags are used
up. -/
def spent (db:Database α) (attribList:List (Attribute α)) : Database α :=
 {db with lva:={db.lva with tx:=false}, attribList:=attribList}

end OpenAvnu.MrpEncode

/-! ## Frame parsing -/

namespace OpenAvnu.MrpDecode

open Bytes PackedDigits Mrp MrpEncode MrpEvents

/-- An event a received frame raises: a LeaveAll for one attribute type, or an attribute event. -/
inductive Call (κ α:Type) where
 | leaveAll (kind:κ)
 | attribute (event:PduEvent) (value:α)
 deriving DecidableEq, Repr

inductive Stop where
 | malformed
 | overread
 | fuel
 deriving DecidableEq, Repr

structure Reader (κ α:Type) where
 kind:κ
 firstLength:Nat
 first:List UInt8 → α
 /-- values that are reported; at any other value the walk stands still -/
 accepts:α → Bool
 advance:α → α
 /-- whether a byte whose first event is out of range is discarded -/
 strict:Bool
 /-- whether LeaveAll is raised once per frame only -/
 once:Bool
 /-- whether an empty vector is stepped over; otherwise it ends the parse -/
 skipsEmpty:Bool
 /-- whether four-packed values follow, set in each attribute by this function -/
 fourPacked:Option (Nat → α → α)

variable {κ α:Type}

def packedBytes (width numvalues:Nat) : Nat :=
 if numvalues≠numvalues/width*width then numvalues/width+1 else numvalues/width

def eventWalk (r:Reader κ α) : List Nat → α → List (Call κ α)×α
 | [], value=>([],value)
 | code::codes, value=>
  if r.accepts value then
   let w:=eventWalk r codes (r.advance value)
   match PduEvent.ofCode code with
   | none=>w
   | some e=>(.attribute e value::w.1,w.2)
  else eventWalk r codes value

def valueWalk (r:Reader κ α) : Nat → List UInt8 → α → List (Call κ α)
 | _, [], _=>[]
 | numvalues, byte::bytes, value=>
  let codes:=unpackDigits 6 3 byte.toNat
  if r.strict&&5<byte.toNat/36 then valueWalk r (numvalues-3) bytes value
  else
   let w:=eventWalk r (codes.take numvalues) value
   w.1++valueWalk r (numvalues-3) bytes w.2

/-- As `eventWalk`, with a four-packed value for each attribute; zero stands for no attribute. -/
def listenWalk (r:Reader κ α) (set:Nat → α → α) : List Nat → List Nat → α → List (Call κ α)×List Nat×α
 | [], subs, value=>([],subs,value)
 | _::codes, [], value=>listenWalk r set codes [] (r.advance value)
 | code::codes, sub::subs, value=>
  let w:=listenWalk r set codes subs (r.advance value)
  if sub=0 then w
  else
   match PduEvent.ofCode code with
   | none=>w
   | some e=>(.attribute e (set sub value)::w.1,w.2)

def listenValues (r:Reader κ α) (set:Nat → α → α) : Nat → List UInt8 → List Nat → α → List (Call κ α)
 | _, [], _, _=>[]
 | numvalues, byte::bytes, subs, value=>
  let codes:=unpackDigits 6 3 byte.toNat
  if r.strict&&5<byte.toNat/36 then listenValues r set (numvalues-3) bytes subs value
  else
   let w:=listenWalk r set (codes.take numvalues) subs value
   w.1++listenValues r set (numvalues-3) bytes w.2.1 w.2.2

def readBody (r:Reader κ α) (numvalues:Nat) (body:List UInt8) : List (Call κ α)×Except Stop (List UInt8) :=
 let threes:=packedBytes 3 numvalues
 match r.fourPacked with
 | none=>
  if body.length≤numvalues/3 then ([],.error .malformed)
  else
   let calls:=valueWalk r numvalues ((body.drop r.firstLength).take (threes+1))
    (r.first (body.take r.firstLength))
   -- the loop reads one byte behind the vector
   if body.length < r.firstLength+threes+1 then (calls,.error .overread)
   else (calls,.ok (body.drop (r.firstLength+threes)))
 | some set=>
  let foursCount:=packedBytes 4 numvalues
  if body.length≤numvalues/3+numvalues/4 then ([],.error .malformed)
  else if body.length < r.firstLength then ([],.error .overread)
  else if body.length ≤ r.firstLength+threes+foursCount then ([],.error .malformed)
  else
   let subs:=(unpackBytes 4 4 ((body.drop (r.firstLength+threes)).take foursCount)).take numvalues
   let calls:=listenValues r set numvalues ((body.drop r.firstLength).take (threes+1)) subs
    (r.first (body.take r.firstLength))
   (calls,.ok (body.drop (r.firstLength+threes+foursCount)))

def readVectors [DecidableEq κ] (r:Reader κ α) :
 Nat → List κ → List UInt8 → List (Call κ α)×Except Stop (List κ×List UInt8)
 | 0, _, _=>([],.error .fuel)
 | fuel+1, seen, h0::h1::body=>
  if h0=0 ∧ h1=0 then ([],.ok (seen,h0::h1::body))
  else
   let header:=h0.toNat*256+h1.toNat
   let numvalues:=header%8192
   let flagged:=decide (header/8192=1)&&!(r.once&&decide (r.kind∈seen))
   let heard:List (Call κ α):=if flagged then [.leaveAll r.kind] else []
   let seen:=if flagged then r.kind::seen else seen
   if numvalues=0 then
    if r.skipsEmpty then
     let rest:=readVectors r fuel seen (body.drop r.firstLength)
     (heard++rest.1,rest.2)
    else (heard,.error .malformed)
   else
    let b:=readBody r numvalues body
    match b.2 with
    | .error stop=>(heard++b.1,.error stop)
    | .ok next=>
     let rest:=readVectors r fuel seen next
     (heard++b.1++rest.1,rest.2)
 | _+1, _, _=>([],.error .overread)

inductive Dispatch (κ α:Type) where
 | vectors (r:Reader κ α) (rest:List UInt8)
 | resume (rest:List UInt8)
 | stop (why:Stop)

def readMessages [DecidableEq κ] (dispatch:UInt8 → UInt8 → List UInt8 → Dispatch κ α) :
 Nat → Nat → List κ → List UInt8 → List (Call κ α)×Except Stop Unit
 | 0, _, _, _=>([],.error .fuel)
 | fuel+1, endmarks, seen, type::length::data=>
  if data=[] then ([],.ok ())
  else if type=0 ∧ length=0 then
   if endmarks+1<2 then readMessages dispatch fuel (endmarks+1) seen data
   else ([],.ok ())
  else
   match dispatch type length data with
   | .stop why=>([],.error why)
   | .resume rest=>readMessages dispatch fuel 0 seen rest
   | .vectors r rest=>
    let v:=readVectors r (rest.length+1) seen rest
    match v.2 with
    | .error stop=>(v.1,.error stop)
    | .ok (seen,rest)=>
     let m:=readMessages dispatch fuel 0 seen rest
     (v.1++m.1,m.2)
 | _+1, _, _, _=>([],.ok ())

structure Ethernet where
 (destaddr srcaddr typelen:List UInt8)
 protocolVersion:UInt8
 deriving DecidableEq, Repr

def splitFrame (frame:List UInt8) : Option (Ethernet×List UInt8) :=
 if frame.length<17 then none
 else some (⟨frame.take 6,(frame.drop 6).take 6,(frame.drop 12).take 2,frame.getD 14 0⟩,frame.drop 15)

def parseFrame [DecidableEq κ] (destaddr typelen:List UInt8)
 (dispatch:UInt8 → UInt8 → UInt8 → List UInt8 → Dispatch κ α) (frame:List UInt8) :
 List (Call κ α)×Except Stop Unit :=
 match splitFrame frame with
 | none=>([],.error .malformed)
 | some (eth,messages)=>
  if eth.typelen≠typelen then ([],.error .malformed)
  else if eth.destaddr≠destaddr then ([],.error .malformed)
  else readMessages (dispatch eth.protocolVersion) (messages.length+1) 0 [] messages

def receivedEvent : PduEvent → Event
 | .NEW=>.RNEW
 | .JOININ=>.RJOININ
 | .IN=>.RIN
 | .JOINMT=>.RJOINMT
 | .MT=>.RMT
 | .LV=>.RLV

/-- The event and attribute of one call; `probe` is the attribute a LeaveAll is raised with. -/
def Call.arguments (probe:κ → Option α) (srcaddr:BitVec 48) : Call κ α → Event×Option (Attribute α)
 | .leaveAll kind=>(.RLA,(probe kind).map fun value=>alloc value 0)
 | .attribute e value=>(receivedEvent e,some (alloc value srcaddr))

def raiseCalls (handle:Event → Option (Attribute α) → Database α → Outcome α)
 (probe:κ → Option α) (srcaddr:BitVec 48) : List (Call κ α) → Database α → Outcome α
 | [], db=>⟨db,[],[]⟩
 | c::calls, db=>
  let o:=handle (c.arguments probe srcaddr).1 (c.arguments probe srcaddr).2 db
  let rest:=raiseCalls handle probe srcaddr calls o.db
  ⟨rest.db,o.sent++rest.sent,o.notices++rest.notices⟩

def frameSource (frame:List UInt8) : BitVec 48 := BitVec.ofNat 48 (beValue ((frame.drop 6).take 6))

end OpenAvnu.MrpDecode
