import Mathlib.Data.List.Basic

/-!
# Applicant, registrar and leave-all state machines

The machines shared by MVRP, MMRP and MSRP. A timer is its running flag.
-/

namespace OpenAvnu.Mrp

inductive ApplicantState where
 | VO | VP | VN | AN | AA | QA | LA | AO | QO | AP | QP | LO
 deriving DecidableEq, Repr

inductive RegistrarState where
 | IN | LV | MT
 deriving DecidableEq, Repr

inductive Event where
 | BEGIN | NEW | JOIN | LV | TX | TXLA | TXLAF
 | RNEW | RJOININ | RIN | RJOINMT | RMT | RLV | RLA
 | FLUSH | REDECLARE | PERIODIC | PERIODICENABLE | PERIODICDISABLE | LVTIMER | LVATIMER
 deriving DecidableEq, Repr

inductive SendMsg where
 | NEW | JOIN | IN | LV | LVA | NULL | NONE
 deriving DecidableEq, Repr

inductive Encode where
 | YES | OPTIONAL
 deriving DecidableEq, Repr

inductive Notify where
 | NONE | NEW | JOIN | LV
 deriving DecidableEq, Repr

/-- `mrpPreviousState` is `none` until the state machine has run once. -/
structure Applicant where
 mrpState:ApplicantState
 tx:Bool
 sndmsg:SendMsg
 encode:Encode
 mrpPreviousState:Option ApplicantState
 deriving DecidableEq, Repr

structure Registrar where
 mrpState:RegistrarState
 notify:Notify
 macaddr:BitVec 48
 deriving DecidableEq, Repr

structure Attribute (α:Type) where
 value:α
 applicant:Applicant
 registrar:Registrar
 deriving DecidableEq, Repr

def alloc {α:Type} (value:α) (macaddr:BitVec 48) : Attribute α where
 value := value
 applicant:=⟨.VO,false,.NULL,.OPTIONAL,none⟩
 registrar:=⟨.MT,.NONE,macaddr⟩

structure ApplicantStep where
 mrpState:ApplicantState
 tx:Bool
 sndmsg:SendMsg
 encode:Encode

def applicantNew : ApplicantState → ApplicantState
 | .VN=>.VN
 | .AN=>.AN
 | _=>.VN

def applicantJoin : ApplicantState → ApplicantState
 | .LO | .VO=>.VP
 | .LA=>.AA
 | .AO=>.AP
 | .QO=>.QP
 | s=>s

def applicantLv : ApplicantState → ApplicantState
 | .VN | .AN | .AA | .QA=>.LA
 | .VP=>.VO
 | .AP=>.AO
 | .QP=>.QO
 | s=>s

def applicantTxla : ApplicantState → ApplicantStep
 | .VO=>⟨.LO,true,.IN,.OPTIONAL⟩
 | .VP=>⟨.AA,true,.IN,.YES⟩
 | .VN=>⟨.AN,true,.NEW,.YES⟩
 | .AN=>⟨.QA,true,.NEW,.YES⟩
 | .QP | .AP | .AA=>⟨.QA,true,.JOIN,.YES⟩
 | .QA=>⟨.QA,true,.JOIN,.YES⟩
 | .LA | .AO | .QO=>⟨.LO,true,.IN,.OPTIONAL⟩
 | .LO=>⟨.LO,true,.IN,.OPTIONAL⟩

def applicantTxlaf : ApplicantState → ApplicantState
 | .VO=>.LO
 | .LO=>.LO
 | .VP=>.VP
 | .VN=>.VN
 | .AN=>.VN
 | .QP | .AP | .AA | .QA=>.VP
 | .QO | .AO | .LA=>.LO

def applicantTx (registrarIsIn:Bool) : ApplicantState → ApplicantStep
 | .VO=>⟨.VO,true,.IN,.OPTIONAL⟩
 | .VP=>⟨.AA,true,.JOIN,.YES⟩
 | .VN=>⟨.AN,true,.NEW,.YES⟩
 | .AN=>⟨if registrarIsIn then .QA else .AA,true,.NEW,.YES⟩
 | .AP | .AA=>⟨.QA,true,.JOIN,.YES⟩
 | .QA=>⟨.QA,true,.JOIN,.OPTIONAL⟩
 | .LA=>⟨.VO,true,.LV,.YES⟩
 | .AO=>⟨.AO,true,.IN,.OPTIONAL⟩
 | .QO=>⟨.QO,true,.IN,.OPTIONAL⟩
 | .QP=>⟨.QP,true,.IN,.OPTIONAL⟩
 | .LO=>⟨.VO,true,.IN,.YES⟩

def applicantRjoinin (p2pmac:Nat) : ApplicantState → ApplicantState
 | .VO=>if p2pmac=0 then .AO else .VO
 | .VP=>if p2pmac=0 then .AP else .VP
 | .AA=>.QA
 | .AO=>.QO
 | .AP=>.QP
 | s=>s

def applicantRin (p2pmac:Nat) : ApplicantState → ApplicantState
 | .AA=>if p2pmac=1 then .QA else .AA
 | s=>s

def applicantRmt : ApplicantState → ApplicantState
 | .QA=>.AA
 | .QO=>.AO
 | .QP=>.AP
 | .LO=>.VO
 | s=>s

def applicantRlv : ApplicantState → ApplicantState
 | .VO=>.LO
 | .AN=>.VN
 | .QA | .AA=>.VP
 | .AO | .QO=>.LO
 | .AP | .QP=>.VP
 | s=>s

def applicantPeriodic : ApplicantState → ApplicantState
 | .QA=>.AA
 | .QP=>.AP
 | s=>s

def applicantStep (p2pmac:Nat) (event:Event) (registrarIsIn:Bool) (s:ApplicantState) : Option ApplicantStep :=
 match event with
 | .BEGIN=>some ⟨.VO,false,.NULL,.YES⟩
 | .NEW=>some ⟨applicantNew s,false,.NULL,.YES⟩
 | .JOIN=>some ⟨applicantJoin s,false,.NULL,.YES⟩
 | .LV=>some ⟨applicantLv s,false,.NULL,.YES⟩
 | .TXLA=>some (applicantTxla s)
 | .TXLAF=>some ⟨applicantTxlaf s,false,.NULL,.YES⟩
 | .TX=>some (applicantTx registrarIsIn s)
 | .RNEW=>some ⟨s,false,.NULL,.YES⟩
 | .RJOININ=>some ⟨applicantRjoinin p2pmac s,false,.NULL,.YES⟩
 | .RIN=>some ⟨applicantRin p2pmac s,false,.NULL,.YES⟩
 | .RJOINMT | .RMT=>some ⟨applicantRmt s,false,.NULL,.YES⟩
 | .RLV | .RLA | .REDECLARE=>some ⟨applicantRlv s,false,.NULL,.YES⟩
 | .PERIODIC=>some ⟨applicantPeriodic s,false,.NULL,.YES⟩
 | .FLUSH | .PERIODICENABLE | .PERIODICDISABLE | .LVTIMER | .LVATIMER=>none

def applicantFsm (p2pmac:Nat) (event:Event) (registrarIsIn:Bool) (a:Applicant) : Applicant :=
 match applicantStep p2pmac event registrarIsIn a.mrpState with
 | none=>a
 | some step=>
  {mrpState:=step.mrpState
   tx:=step.tx
   sndmsg:=step.sndmsg
   encode:=step.encode
   mrpPreviousState:=some a.mrpState}

def applicantStateTransitionImpliesTx (a:Applicant) : Bool :=
 if a.mrpPreviousState=some a.mrpState then false
 else match a.mrpState with
  | .VP | .VN | .AN | .AA | .LA=>true
  | .VO | .QA | .AO | .QO | .AP | .QP | .LO=>false

structure RegistrarStep where
 mrpState:RegistrarState
 notify:Notify
 startsLeave:Bool

def registrarLeave (notify:Notify) : RegistrarState → RegistrarStep
 | .IN=>⟨.LV,notify,true⟩
 | .LV=>⟨.LV,notify,false⟩
 | .MT=>⟨.MT,notify,false⟩

def registrarStep (event:Event) (s:RegistrarState) : Option RegistrarStep :=
 match event with
 | .BEGIN=>some ⟨.MT,.NONE,false⟩
 | .RLV=>some (registrarLeave .LV s)
 | .TXLA | .RLA | .REDECLARE=>some (registrarLeave .NONE s)
 | .RNEW=>some ⟨.IN,.NEW,false⟩
 | .RJOININ | .RJOINMT=>
  some (match s with
   | .MT=>⟨.IN,.JOIN,false⟩
   | .IN=>⟨.IN,.NONE,false⟩
   | .LV=>⟨.IN,.JOIN,false⟩)
 | .LVTIMER=>
  some (match s with
   | .LV=>⟨.MT,.LV,false⟩
   | .MT=>⟨.MT,.NONE,false⟩
   | .IN=>⟨.IN,.NONE,false⟩)
 | .FLUSH=>some ⟨.MT,.LV,false⟩
 | .RMT | .RIN=>some ⟨s,.NONE,false⟩
 | _=>none

def registrarFsm (event:Event) (r:Registrar) : Registrar :=
 match registrarStep event r.mrpState with
 | none=>r
 | some step=>{r with mrpState:=step.mrpState,notify:=step.notify}
def registrarStartsLeave (event:Event) (r:Registrar) : Bool :=
 match registrarStep event r.mrpState with
 | none=>false
 | some step=>step.startsLeave
def registrarIn (r:Registrar) : Bool := r.mrpState=.IN

inductive TimerState where
 | PASSIVE | ACTIVE
 deriving DecidableEq, Repr

structure LvaTimer where
 state:TimerState
 tx:Bool
 sndmsg:SendMsg
 deriving DecidableEq, Repr

structure Database (α:Type) where
 lva:LvaTimer
 (joinTimerRunning lvTimerRunning lvaTimerRunning:Bool)
 attribList:List (Attribute α)
 sendEmptyLeaveAllFlag:Bool
 deriving DecidableEq, Repr

variable {α:Type}

def jointimerStart (db:Database α) : Database α := {db with joinTimerRunning:=true}
def jointimerStop (db:Database α) : Database α := {db with joinTimerRunning:=false}
abbrev lvtimerStart (leaving:Bool) (db:Database α) : Database α :=
 {db with lvTimerRunning:=db.lvTimerRunning||leaving}
def lvtimerStop (db:Database α) : Database α := {db with lvTimerRunning:=false}
def lvatimerStart (db:Database α) : Database α := {db with lvaTimerRunning:=true}
def lvatimerStop (db:Database α) : Database α := {db with lvaTimerRunning:=false}

def lvatimerFsm (event:Event) (db:Database α) : Database α :=
 match event with
 | .BEGIN=>{lvatimerStart db with lva:=⟨.PASSIVE,false,.NONE⟩}
 | .TX=>
  if db.lva.state=.ACTIVE then {db with lva:=⟨.PASSIVE,true,.LVA⟩}
  else {db with lva:=⟨db.lva.state,false,.NONE⟩}
 | .RLA=>{lvatimerStart (lvatimerStop db) with lva:=⟨.PASSIVE,false,.NONE⟩}
 | .LVATIMER=>{lvatimerStart (lvatimerStop db) with lva:=⟨.ACTIVE,false,.NONE⟩}
 | _=>db

def initialDatabase : Database α := lvatimerFsm .BEGIN ⟨⟨.PASSIVE,false,.NEW⟩,false,false,false,[],false⟩

end OpenAvnu.Mrp

/-! ## Database events -/

namespace OpenAvnu.MrpEvents

open Mrp

variable {α:Type}

/-- Everything a call does: the new database, the frames it sends and the notifications it
raises, in order. -/
structure Outcome (α:Type) where
 db:Database α
 sent:List (List UInt8)
 notices:List (Attribute α×Notify)

structure Application (α:Type) where
 /-- the key comparison of `lookup`, the attribute looked for first -/
 sameAttribute:α → α → Bool
 add:Attribute α → List (Attribute α) → List (Attribute α)
 /-- `merge list rattrib attrib` -/
 merge:List (Attribute α) → Attribute α → Attribute α → Attribute α
 /-- the attributes a received LeaveAll applies to; `none` if it is refused -/
 leaveAllScope:Option α → Option (α → Bool)
 /-- whether the PERIODIC event is handled -/
 periodic:Bool
 /-- whether the leave timer and attribute events reclaim -/
 reclaims:Bool
 /-- whether the join timer is started before the attribute is checked -/
 joinFirst:Bool
 txpdu:Database α → Database α×Option (List UInt8)

def applicantPass (p2pmac:Nat) (event:Event) (a:Attribute α) : Attribute α :=
 {a with applicant:=applicantFsm p2pmac event (registrarIn a.registrar) a.applicant}
def registrarPass (event:Event) (a:Attribute α) : Attribute α :=
 {a with registrar:=registrarFsm event a.registrar}

def remap (event:Event) (s:RegistrarState) : Event :=
 match event with
 | .NEW=>.BEGIN
 | .JOIN=>if s=.IN then .RJOININ else .RJOINMT
 | .LV=>.RLV
 | e=>e

def attributePass (p2pmac:Nat) (event:Event) (a:Attribute α) : Attribute α :=
 let a:=applicantPass p2pmac event a
 let a:=registrarPass (remap event a.registrar.mrpState) a
 if event=.NEW then {a with registrar:={a.registrar with notify:=.NEW}} else a
def reclaimable (a:Attribute α) : Bool := a.registrar.mrpState=.MT &&
  (a.applicant.mrpState=.VO||a.applicant.mrpState=.AO||a.applicant.mrpState=.QO)
def lookup (app:Application α) (value:α) (l:List (Attribute α)) : Option (Attribute α) :=
 l.find? fun a=>app.sameAttribute value a.value

/-- Walk to the first attribute of the type, then through the block that starts there. -/
def addGrouped {τ:Type} [DecidableEq τ] (type:α → τ) (key:α → Nat) (rattrib:Attribute α) :
 List (Attribute α) → List (Attribute α)
 | []=>[rattrib]
 | a::rest=>
  if type a.value=type rattrib.value then
   if key a.value<key rattrib.value then
    match rest with
    | []=>[a,rattrib]
    | next::_=>
     if type next.value=type rattrib.value then a::addGrouped type key rattrib rest
     else a::rattrib::rest
   else rattrib::a::rest
  else a::addGrouped type key rattrib rest

def updateFound (app:Application α) (value:α) (f:Attribute α → Attribute α) :
 List (Attribute α) → List (Attribute α)
 | []=>[]
 | a::rest=>
  if app.sameAttribute value a.value then f a::rest
  else a::updateFound app value f rest

def conditionalReclaim (app:Application α) (value:α) :
 List (Attribute α) → List (Attribute α)×List (Attribute α×Notify)
 | []=>([],[])
 | a::rest=>
  if app.sameAttribute value a.value then
   if reclaimable a then (rest,[(a,.LV)]) else (a::rest,[])
  else
   let r:=conditionalReclaim app value rest
   (a::r.1,r.2)

def reclaimList (l:List (Attribute α)) : List (Attribute α)×List (Attribute α×Notify) :=
 (l.filter fun a=>!reclaimable a,(l.filter reclaimable).map fun a=>(a,.LV))

def ageAll (p2pmac:Nat) (event:Event) (scope:α → Bool) (db:Database α) : Database α :=
 let leaving:=db.attribList.any fun a=>scope a.value&&registrarStartsLeave event a.registrar
 {lvtimerStart leaving db with
   attribList:=db.attribList.map fun a=>
    if scope a.value then registrarPass event (applicantPass p2pmac event a) else a}

def notifyAll (db:Database α) (sent:List (List UInt8))
 (notices:List (Attribute α×Notify)) : Outcome α where
 db := {db with
  attribList:=db.attribList.map fun a=>
   {a with registrar:={a.registrar with notify:=.NONE}}}
 sent:=sent
 notices:=notices++(db.attribList.filter fun a=>a.registrar.notify ≠ .NONE).map fun a=>
   (a,a.registrar.notify)

section Events
variable (app:Application α) (p2pmac:Nat)

def lvaTimerEvent (db:Database α) : Outcome α :=
 let db:=jointimerStop (lvatimerStop db)
 let db:=ageAll p2pmac .TXLA (fun _=>true) db
 let db:=lvatimerFsm .LVATIMER db
 let db:={db with sendEmptyLeaveAllFlag:=true}
 let db:=lvatimerFsm .TX db
 let r:=app.txpdu db
 notifyAll {r.1 with sendEmptyLeaveAllFlag:=false} r.2.toList []

def leaveAllEvent (rattrib:Option (Attribute α)) (db:Database α) : Outcome α :=
 let db:=jointimerStart db
 match app.leaveAllScope (rattrib.map (·.value)) with
 | none=>⟨db,[],[]⟩
 | some scope=>notifyAll (lvatimerFsm .RLA (ageAll p2pmac .RLA scope db)) [] []

def txEvent (db:Database α) : Outcome α :=
 let db:=jointimerStop db
 let db:={db with attribList:=db.attribList.map (applicantPass p2pmac .TX)}
 let count:Nat:=db.attribList.countP fun (a:Attribute α)=>applicantStateTransitionImpliesTx
   a.applicant
 let r:=app.txpdu db
 notifyAll (if count≠0 then jointimerStart r.1 else r.1) r.2.toList []

def lvTimerEvent (db:Database α) : Outcome α :=
 let db:=lvtimerStop db
 let l:=db.attribList.map (registrarPass .LVTIMER)
 if app.reclaims then
  notifyAll {db with attribList:=(reclaimList l).1} [] (reclaimList l).2
 else
  notifyAll {db with attribList:=l} [] []

def periodicEvent (db:Database α) : Outcome α :=
 if app.periodic then
  let db:=if db.attribList.isEmpty then db else jointimerStart db
  notifyAll {db with attribList:=db.attribList.map (applicantPass p2pmac .PERIODIC)} [] []
 else notifyAll db [] []

/-- Insert or merge `rattrib`; `none` if the event is dropped. -/
def place (event:Event) (rattrib:Attribute α) (l:List (Attribute α)) : Option (List (Attribute α)) :=
 match lookup app rattrib.value l with
 | none=>if event=.RMT then none else some (app.add rattrib l)
 | some _=>some (updateFound app rattrib.value (app.merge l rattrib) l)

def settle (event:Event) (value:α) (db:Database α) : Outcome α :=
 let started:=(lookup app value db.attribList).any fun a=>
  registrarStartsLeave (remap event a.registrar.mrpState) a.registrar
 let l:=updateFound app value (attributePass p2pmac event) db.attribList
 let db:=lvtimerStart started db
 if app.reclaims then
  let r:=conditionalReclaim app value l
  notifyAll {db with attribList:=r.1} [] r.2
 else
  notifyAll {db with attribList:=l} [] []

def attributeEvent (event:Event) (rattrib:Attribute α) (db:Database α) : Outcome α :=
 let db:=jointimerStart db
 match place app event rattrib db.attribList with
 | none=>⟨db,[],[]⟩
 | some l=>settle app p2pmac event rattrib.value {db with attribList:=l}
def isAttributeEvent : Event → Bool
 | .NEW | .JOIN | .RNEW | .RJOININ | .RJOINMT | .LV | .RIN | .RMT | .RLV=>true
 | _=>false

def event (event:Event) (rattrib:Option (Attribute α)) (db:Database α) : Outcome α :=
 match event, rattrib with
 | .LVATIMER, _=>lvaTimerEvent app p2pmac db
 | .RLA, r=>leaveAllEvent app p2pmac r db
 | .TX, _=>txEvent app p2pmac db
 | .LVTIMER, _=>lvTimerEvent app db
 | .PERIODIC, _=>periodicEvent app p2pmac db
 | e, some r=>if isAttributeEvent e then attributeEvent app p2pmac e r db else notifyAll db [] []
 | e, none=>
  if isAttributeEvent e then
   ⟨if app.joinFirst then jointimerStart db else db,[],[]⟩
  else notifyAll db [] []

def reclaim (db:Database α) : Outcome α :=
 let r:=reclaimList db.attribList
 ⟨{db with attribList:=r.1},[],r.2⟩

end Events

end OpenAvnu.MrpEvents
