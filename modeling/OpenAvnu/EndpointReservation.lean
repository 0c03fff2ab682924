import OpenAvnu.EndpointClose
import OpenAvnu.MrpNotices

/-!
# Reservations and listeners

From mrpd through `process_mrp_msg` and the SRP elements to the record of a talker.
-/

namespace OpenAvnu.EndpointReservation

open Qmgr Endpoint EndpointOwners EndpointClose Mrp Msrp MsrpText MrpClient MrpNotices Runs List

def mrpRegisterCb (streamid:BitVec 64) (join:Bool) (destaddr:BitVec 48)
 (maxFrameSize maxIntervalFrames latency:BitVec 32) (e:State) : State :=
 let mine:=fun elem:StrElem=>!elem.talker&&decide (elem.streamId=streamid)
 match e.strElemList.find? mine with
 | none=>e
 | some elem=>
  let told:=match deref elem.avtpHandle e with
   | none=>e.told
   | some ps=>
    let tSpec:=⟨UInt16.ofNat maxFrameSize.toNat,UInt16.ofNat maxIntervalFrames.toNat⟩
    .listenerCallback ps.clientHandle ps.streamID destaddr join tSpec 0 latency.toNat::e.told
  {e with
    told:=told
    strElemList:=e.strElemList.replaceF fun x=>
     if mine x then some {x with subtype:=join.toNat} else none}

def callBack (o:Outside) (e:State) : Callback → State
 | .attach streamid subtype=>mrpAttachCb o streamid subtype.toNat e
 | .register streamid join destaddr maxFrameSize maxIntervalFrames _ latency=>
  mrpRegisterCb streamid join destaddr maxFrameSize maxIntervalFrames latency e

structure Process where
 client:Globals
 endpoint:State

def receive (o:Outside) (locals:Locals) (buf:List Char) (p:Process) : Process :=
 match processMrpMsg buf p.client locals with
 | none=>p
 | some r=>⟨r.client,r.callbacks.foldl (callBack o) p.endpoint⟩

/-- A line about a listener attribute, with what the rest of the world answers meanwhile. -/
structure Line (streamId:BitVec 64) where
 outside:Outside
 locals:Locals
 attr:Attribute MsrpValue
 notify:Notify
 listener:attr.value.type=.listener
 stream:attr.value.talkListen.streamId=streamId
 small:attr.value.substate.toNat<4
 sent:notify ≠ .NONE

variable {streamId:BitVec 64}

def Line.substate (line:Line streamId) : Nat := line.attr.value.substate.toNat

/-- The process and the latest line.  The log of messages starts anew with each line. -/
structure Watched (streamId:BitVec 64) where
 process:Process
 latest:Option (Line streamId)

def quiet (p:Process) : Process := {p with endpoint:={p.endpoint with told:=[]}}

def hear (line:Line streamId) (w:Watched streamId) : Watched streamId where
 process :=
  match msrpSendNotifications line.attr line.notify with
  | none=>w.process
  | some text=>receive line.outside line.locals text (quiet w.process)
 latest:=some line

/-- The stream was registered: its first talker element leads to its record. -/
structure Registered (streamID:StreamID) (address:Nat) (e:State) : Prop where
 element:∃elem,(e.strElemList.find? fun x=>x.talker&&decide (x.streamId=streamID.bytes))=
  some elem ∧ elem.avtpHandle=address
 record:∃ps,deref address e=some ps ∧ ps.streamID=streamID

/-- A reservation is held only for a ready listener, and after a leave the client knows. -/
structure Follows (address:Nat) (line:Line streamId) (e:State) : Prop where
 held:∀ps,deref address e=some ps → ps.fwmark≠invalidFwmark →
  line.notify ≠ .LV ∧ (line.substate=2 ∨ line.substate=3)
 left:line.notify=.LV → ∃ps lsnrDecl,deref address e=some ps ∧ ps.fwmark=invalidFwmark ∧
  e.told=[openavbEptSrvrNotifyTlkrOfSrpCb ps lsnrDecl] ∧
  lsnrDecl≠ldStReady ∧ lsnrDecl≠ldStReadyFailed

def FollowsLatest (address:Nat) (w:Watched streamId) : Prop :=
 ∀line∈w.latest,Follows address line w.process.endpoint

variable {streamID:StreamID} {address:Nat} {e:State} {ps:ClientStream}

lemma deref_address (h:deref address e=some ps) : ps.address=address := by
 have htest:=find?_some h
 exact of_decide_eq_true htest

lemma deref_write (h:deref address e=some ps) {ps':ClientStream} (hps':ps'.address=address) :
 deref address (write ps' e)=some ps' := by
 have hsame:(fun p:ClientStream=>decide (p.address=address)) ∘
  (fun y=>if y.address=ps'.address then ps' else y)=
  fun p=>decide (p.address=address):=by
  funext y
  by_cases hy:y.address=address<;>simp[hps',hy]
 simp only[deref,write,Owners.replace,find?_map,hsame]
 rw[show e.streamList.find? (fun p=>decide (p.address=address))=some ps from h,Option.map_some,
  if_pos ((deref_address h).trans hps'.symm)]

lemma find?_replaceF {α:Type} {p:α → Bool} {f:α → α} (hf:∀x,p x=true → p (f x)=true)
 {l:List α} {x:α} (h:l.find? p=some x) :
 (l.replaceF fun y=>if p y then some (f y) else none).find? p=some (f x) := by
 induction l with
 | nil=>cases h
 | cons y l ih=>
  cases hy:p y with
  | true=>
   rw[find?_cons_of_pos hy] at h
   cases h
   simp[hy,hf x hy]
  | false=>
   rw[find?_cons_of_neg (by simp[hy])] at h
   simp[hy,ih h]

lemma mrpAttachCb_registered (h:Registered streamID address e) (o:Outside) (subtype:Nat) :
 ∃ps,deref address e=some ps ∧
  let r:=requeue o ps subtype e.qmgr
  let e':=mrpAttachCb o streamID.bytes subtype e
  deref address e'=some r.2.1 ∧ Registered streamID address e' ∧
   e'.told=if r.2.2 then openavbEptSrvrNotifyTlkrOfSrpCb r.2.1 subtype::e.told else e.told := by
 obtain ⟨⟨elem,hfind,haddr⟩,ps,hps,hstream⟩:=h
 obtain ⟨_,_,_,_,hrecord⟩:=requeue_record o ps subtype e.qmgr
 have haddress:ps.address=address:=deref_address hps
 have hnew:deref address (strmAttachCb o ps subtype e)=some (requeue o ps subtype e.qmgr).2.1:=
  deref_write hps ((congrArg ClientStream.address hrecord).trans haddress)
 have hattach:mrpAttachCb o streamID.bytes subtype e=
  {strmAttachCb o ps subtype e with
    strElemList:=e.strElemList.replaceF fun x=>
     if x.talker&&decide (x.streamId=streamID.bytes) then some {x with subtype}
     else none}:=by
  simp only[mrpAttachCb,hfind,haddr,hps]
  rfl
 have helem:=find?_replaceF (p:=fun x:StrElem=>x.talker&&decide (x.streamId=streamID.bytes))
  (f:=fun x:StrElem=>{x with subtype}) (fun _ hx=>hx) hfind
 refine ⟨ps,hps,?_⟩
 simp only[hattach]
 exact ⟨hnew,⟨⟨_,helem,haddr⟩,_,hnew,(congrArg ClientStream.streamID hrecord).trans hstream⟩,rfl⟩

variable {cfg:Config} {o:Outside} {p:ClientStream} {m:TalkerRegister}

lemma registered_registerShaped (hsrp:cfg.noSrp=false) (hold:deref address e=some p)
 (haddr:ps.address=address) (hstream:ps.streamID=streamID)
 (hnone:∀elem∈e.strElemList,elem.streamId≠streamID.bytes)
 (hok:(registerShaped cfg o ps e).2=true) : Registered streamID address (registerShaped cfg o ps e).1 := by
 obtain ⟨shaped,heq,haddress,hid⟩:∃shaped:ClientStream,
  (if o.shaperDaemonAvailable&&ps.txRate != 0 then {ps with hndShaper:=o.shaperHandle}
   else ps)=shaped ∧ shaped.address=address ∧ shaped.streamID=streamID:=by
  split_ifs
  · exact ⟨_,rfl,haddr,hstream⟩
  · exact ⟨_,rfl,haddr,hstream⟩
 have hsuccess:(openavbSrpRegisterStream o shaped (write shaped e)).2=true:=by
  by_contra hfail
  simp only[registerShaped,heq,hsrp,Bool.false_eq_true,if_false,hfail] at hok
 simp only[registerShaped,heq,hsrp,Bool.false_eq_true,if_false,hsuccess,if_true]
 have hbefore:((write shaped e).strElemList.find? fun x=>
  x.talker&&decide (x.streamId=streamID.bytes))=none:=by
  rw[find?_eq_none]
  intro elem helem
  have hother:=hnone elem helem
  simp[hother]
 simp only[openavbSrpRegisterStream]
 constructor
 · rw[find?_append,hbefore,hid,find?_singleton,if_pos (by simp)]
   exact ⟨_,rfl,haddress⟩
 · exact ⟨shaped,deref_write hold haddress,hid⟩

lemma deref_strmAttachCb (hold:deref address e=some p) (haddr:ps.address=address)
 (o:Outside) (lsnrDecl:Nat) : ∃p',deref address (strmAttachCb o ps lsnrDecl e)=some p' := by
 obtain ⟨_,_,_,_,hrecord⟩:=requeue_record o ps lsnrDecl e.qmgr
 exact ⟨_,deref_write hold ((congrArg ClientStream.address hrecord).trans haddr)⟩

lemma registered_registerAddressed (hsrp:cfg.noSrp=false) (hold:deref address e=some ps)
 (hstream:ps.streamID=streamID) (hnone:∀elem∈e.strElemList,elem.streamId≠streamID.bytes)
 (hok:(registerAddressed cfg o m ps e).2=true) :
 Registered streamID address (registerAddressed cfg o m ps e).1 := by
 have haddr:=deref_address hold
 simp only[registerAddressed] at hok ⊢
 split_ifs at hok ⊢ with hmaap
 · cases halloc:openavbMaapAllocate e with
   | none=>simp[halloc] at hok
   | some i=>
    simp only[halloc] at hok ⊢
    set taken:ClientStream:=
     {ps with hndMaap:=some i,destAddr:=(e.maapAllocList i).destAddr} with htaken
    have hwritten:deref address (write taken (setTaken i true e))=some taken:=
     deref_write hold haddr
    obtain ⟨p',hp'⟩:=deref_strmAttachCb hwritten (show taken.address=address from haddr) o ldStStreamInfo
    exact registered_registerShaped hsrp hp' haddr hstream hnone hok
 · exact registered_registerShaped hsrp (deref_write hold haddr) haddr hstream hnone hok

lemma registered_register (howned:Owned e) (hsrp:cfg.noSrp=false) {h:Int}
 (hid:fillMac cfg streamID=streamID)
 (hnone:∀elem∈e.strElemList,elem.streamId≠streamID.bytes)
 (hok:(openavbEptSrvrRegisterStream cfg o h streamID m e).2=true) :
 Registered streamID e.nextAddress (openavbEptSrvrRegisterStream cfg o h streamID m e).1 := by
 have hbefore:deref e.nextAddress e=none:=by
  rw[deref,find?_eq_none]
  intro p hp
  have hlt:=howned.fresh p hp
  simp only[decide_eq_true_eq]
  omega
 have hadded:deref e.nextAddress (addStream h streamID .talker e).1=some (addStream h streamID .talker e).2:=by
  simp only[deref] at hbefore
  simp only[deref,addStream,find?_append,hbefore]
  simp
 have hfilled:deref e.nextAddress (write (m.fill (addStream h streamID .talker e).2)
  (addStream h streamID .talker e).1)=some (m.fill (addStream h streamID .talker e).2):=
  deref_write hadded rfl
 have hregister:openavbEptSrvrRegisterStream cfg o h streamID m e=
  registerAddressed cfg o m (m.fill (addStream h streamID .talker e).2)
   (write (m.fill (addStream h streamID .talker e).2) (addStream h streamID .talker e).1):=by
  rw[openavbEptSrvrRegisterStream] at hok ⊢
  simp only[hid] at hok ⊢
  split_ifs at hok ⊢
  rfl
 rw[hregister] at hok ⊢
 exact registered_registerAddressed hsrp hfilled rfl hnone hok

lemma hear_endpoint (line:Line streamId) (w:Watched streamId) : (hear line w).process.endpoint=
  mrpAttachCb line.outside streamId line.substate {w.process.endpoint with told:=[]} := by
 have hheard:=heard_listener line.listener line.sent (quiet w.process).client line.locals
 rw[heard,Option.bind_eq_some_iff] at hheard
 obtain ⟨text,htext,hread⟩:=hheard
 obtain ⟨r,hr,hcallbacks⟩:=Option.map_eq_some_iff.1 hread
 simp only[hear,htext,receive,hr,hcallbacks,expected,line.listener,line.stream]
 rfl

lemma registered_quiet (h:Registered streamID address e) :
 Registered streamID address {e with told:=[]} := ⟨h.element,h.record⟩

lemma requeue_ready {o:Outside} {subtype:Nat} {q:Tables}
 (hready:¬(subtype=2 ∨ subtype=3)) :
 (requeue o ps subtype q).2.1.fwmark=invalidFwmark ∧ (requeue o ps subtype q).2.2=true := by
 have hteardown:requeue o ps subtype q=teardownQueues ps q:=if_neg hready
 rw[hteardown]
 refine ⟨teardownQueues_fwmark ps q,?_⟩
 rw[teardownQueues]
 split_ifs<;>rfl

lemma hear_follows {w:Watched streamID.bytes}
 (h:Registered streamID address w.process.endpoint) (line:Line streamID.bytes) :
 Registered streamID address (hear line w).process.endpoint ∧
  (FollowsLatest address (hear line w)↔(line.notify=.LV → line.substate≤1)) := by
 obtain ⟨ps,-,hnew,hkept,htold⟩:=
  mrpAttachCb_registered (registered_quiet h) line.outside line.substate
 rw[←hear_endpoint line w] at hnew hkept htold
 refine ⟨hkept,?_⟩
 have hsmall:line.substate<4:=line.small
 have hlatest:FollowsLatest address (hear line w) ↔
  Follows address line (hear line w).process.endpoint:=by
  simp[FollowsLatest,hear]
 rw[hlatest]
 constructor
 · intro hfollows hleave
   obtain ⟨ps',lsnrDecl,-,-,hmessage,hnone,hfailed⟩:=hfollows.left hleave
   -- the declaration of the message is the substate of the line
   rw[htold] at hmessage
   by_contra hlarge
   split_ifs at hmessage
   · obtain ⟨hdecl,-⟩:=List.cons.inj hmessage
     have heq:line.substate=lsnrDecl:=by
      simp only[openavbEptSrvrNotifyTlkrOfSrpCb,Told.talkerCallback.injEq] at hdecl
      exact hdecl.2.2.2.1
     have hcases:line.substate=2 ∨ line.substate=3:=by omega
     exact hcases.elim (fun h2=>hnone (heq▸h2)) fun h3=>hfailed (heq▸h3)
 · intro hcond
   constructor
   · intro ps' hps' hmark
     rw[hnew] at hps'
     cases hps'
     by_cases hready:line.substate=2 ∨ line.substate=3
     · exact ⟨fun hleave=>by have:=hcond hleave;omega,hready⟩
     · exact absurd (requeue_ready hready).1 hmark
   · intro hleave
     have hready:¬(line.substate=2 ∨ line.substate=3):=by
      have:=hcond hleave
      omega
     obtain ⟨hmark,hdone⟩:(requeue line.outside ps line.substate
       w.process.endpoint.qmgr).2.1.fwmark=invalidFwmark ∧ _:=requeue_ready hready
     refine ⟨_,line.substate,hnew,hmark,?_,fun h2=>hready (.inl h2),fun h3=>hready
       (.inr h3)⟩
     rw[htold]
     exact if_pos hdone

/-- Exactly if no leave carries a ready substate: the endpoint is not given the kind of the line. -/
theorem reservation_follows_iff {w:Watched streamID.bytes} (hlatest:w.latest=none)
 (h:Registered streamID address w.process.endpoint) (lines:List (Line streamID.bytes)) :
 Throughout hear (FollowsLatest address) lines w ↔
  ∀line∈lines,line.notify=.LV → line.substate≤1 := by
 have hall:Along hear (fun line _=>line.notify=.LV → line.substate≤1) lines w ↔
  ∀line∈lines,line.notify=.LV → line.substate≤1:=along_iff_forall
 rw[←hall]
 apply throughout_iff_along_of (J:=fun w=>Registered streamID address w.process.endpoint)
 · intro line w h
   exact (hear_follows h line).1
 · intro line w h _
   exact (hear_follows h line).2
 · exact h
 · intro line hline
   rw[hlatest] at hline
   cases hline

def exampleLine (notify:Notify) (sent:notify ≠ .NONE) (substate:Fin 4) : Line (StreamID.mk 1 1).bytes where
 outside := exampleOutside
 locals:=exampleLocals
 attr:=
  {value:=
   {blank .listener with
    talkListen:={emptyTalkListen with streamId:=(StreamID.mk 1 1).bytes}
    substate:=BitVec.ofNat 32 substate}
   applicant:=⟨.QO,false,.NULL,.OPTIONAL,none⟩
   registrar:=⟨.IN,notify,0x0007EA123456⟩}
 notify:=notify
 listener:=rfl
 stream:=rfl
 small:=by
  rw[BitVec.toNat_ofNat,Nat.mod_eq_of_lt (by omega)]
  exact substate.isLt
 sent:=sent

def exampleStart : Watched (StreamID.mk 1 1).bytes where
 process :=
  {client:=exampleClient
   endpoint:=(openavbEptSrvrRegisterStream ⟨false,1⟩ exampleOutside 5 ⟨1,1⟩ exampleRegister .initial).1}
 latest:=none

theorem ready_then_left_follows :
 Throughout hear (FollowsLatest 0) [exampleLine .NEW (by decide) 2,exampleLine .LV (by decide) 0]
  exampleStart := (reservation_follows_iff rfl (registered_register owned_initial rfl (by decide)
  (by simp[State.initial]) (by decide +kernel)) _).2 (by
   intro line hline hleave
   simp only[mem_cons,not_mem_nil,or_false] at hline
   rcases hline with rfl|rfl
   · cases hleave
   · decide)

def declared : Told → Option Nat
 | .talkerCallback _ _ _ lsnrDecl _ _ _ _ _=>some lsnrDecl
 | .listenerCallback _ _ _ _ _ _ _=>none

/-- A ready listener leaves with its last substate: the client is told that it is ready. -/
theorem leave_keeps_reservation :
 let w:=run hear [exampleLine .NEW (by decide) 2,exampleLine .LV (by decide) 2] exampleStart
 (w.latest.map Line.notify=some .LV) ∧
  (w.process.endpoint.streamList.map fun ps=>decide (ps.fwmark≠invalidFwmark))=[true] ∧
  w.process.endpoint.told.map declared=[some ldStReady] := by
 decide +kernel

end OpenAvnu.EndpointReservation
