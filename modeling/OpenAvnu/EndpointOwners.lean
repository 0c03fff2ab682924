import OpenAvnu.Endpoint

/-!
# Who owns the endpoint's resources

Marks of the queue manager and slots of MAAP are held by records, each by one.
-/

namespace OpenAvnu.EndpointOwners

open Qmgr Endpoint Owners Runs List Function ClientStream

lemma reserved_add (qdisc:Qdisc) (q:Tables)
 (nClass classRate maxIntervalFrames maxFrameSize:Nat) :
 let added:=openavbQmgrAddStream qdisc q nClass classRate maxIntervalFrames maxFrameSize
 added=(q,invalidFwmark) ∨
  added.2≠invalidFwmark ∧ ¬Reserved q added.2 ∧
   ∀m,Reserved added.1 m↔Reserved q m ∨ m=added.2 := by
 rcases openavbQmgrAddStream_cases qdisc q nClass classRate maxIntervalFrames maxFrameSize with
  heq | ⟨s,hc,hs,hfree,hbytes,heq⟩
 · exact .inl heq
 · right
   rw[heq]
   refine ⟨mark_valid _ hs,fun h=>hfree ((reserved_mark hs).1 h),fun m=>?_⟩
   constructor
   · rintro ⟨c',s',huse,rfl⟩
     rcases (inUse_book hc hs hbytes).1 huse with hold|⟨rfl,rfl⟩
     · exact .inl ⟨c',s',hold,rfl⟩
     · exact .inr rfl
   · rintro (⟨c',s',huse,rfl⟩|rfl)
     · exact ⟨c',s',(inUse_book hc hs hbytes).2 (.inl huse),rfl⟩
     · exact ⟨nClass,s,(inUse_book hc hs hbytes).2 (.inr ⟨rfl,rfl⟩),rfl⟩

lemma reserved_remove {q:Tables} {m:Nat} (h:Reserved q m) : openavbQmgrRemoveStream q m=some (removeMark m q) ∧
  ∀m',Reserved (removeMark m q) m'↔Reserved q m' ∧ m'≠m := by
 obtain ⟨c,s,huse,rfl⟩:=h
 have heq:=openavbQmgrRemoveStream_mark huse
 have hrem:removeMark (tcAvbMark c s) q=unbook q c (slotIndex c s):=by
  rw[removeMark,heq,Option.getD_some]
 rw[hrem]
 refine ⟨heq,fun m'=>⟨?_,?_⟩⟩
 · rintro ⟨c',s',hin,rfl⟩
   obtain ⟨hold,hother⟩:=(inUse_unbook huse.2.1).1 hin
   exact ⟨⟨c',s',hold,rfl⟩,fun hmark=>hother (mark_injective hin.2.1 huse.2.1 hmark)⟩
 · rintro ⟨⟨c',s',hold,rfl⟩,hne⟩
   refine ⟨c',s',(inUse_unbook huse.2.1).2 ⟨hold,?_⟩,rfl⟩
   rintro ⟨rfl,rfl⟩
   exact hne rfl

def mark (ps:ClientStream) : Option Nat :=
 if ps.fwmark=invalidFwmark then none else some ps.fwmark
def Taken (e:State) (i:Nat) : Prop := i < maxAvbStreams ∧ (e.maapAllocList i).taken=true

structure Owned (e:State) : Prop where
 addresses:(e.streamList.map address).Nodup
 fresh:∀ps∈e.streamList,ps.address<e.nextAddress
 marks:Once mark e.streamList (Reserved e.qmgr)
 slots:Once hndMaap e.streamList (Taken e)
 listeners:∀ps∈e.streamList,ps.role=.listener →
  ps.fwmark=invalidFwmark ∧ ps.hndMaap=none

lemma owned_initial : Owned .initial := by
 refine ⟨nodup_nil,by simp[State.initial],⟨nodup_nil,fun m=>?_⟩,⟨nodup_nil,fun i=>?_⟩,by simp[State.initial]⟩
 · refine ⟨?_,by simp[State.initial]⟩
   rintro ⟨c,s,huse,-⟩
   exact absurd rfl huse.2.2
 · simp[Taken,State.initial]

variable {e:State} {ps p:ClientStream} {cfg:Config} {o:Outside}

lemma mark_none (h:ps.fwmark=invalidFwmark) : mark ps=none := if_pos h
lemma mark_some (h:ps.fwmark≠invalidFwmark) : mark ps=some ps.fwmark := if_neg h
lemma Owned.reserved (h:Owned e) (hps:ps∈e.streamList) (hmark:ps.fwmark≠invalidFwmark) :
 Reserved e.qmgr ps.fwmark := h.marks.used_of_held hps (mark_some hmark)

section
variable (h:Owned e) (hp:p∈e.streamList) (haddr:ps.address=p.address)
include h hp haddr

lemma Owned.keys : ((replace address ps e.streamList).map address).Nodup ∧
  ∀x∈replace address ps e.streamList,x.address<e.nextAddress := by
 refine ⟨(replace_keys h.addresses hp haddr).symm▸h.addresses,fun x hx=>?_⟩
 rcases (mem_replace hp haddr).1 hx with rfl|⟨hx,-⟩
 · exact haddr▸h.fresh p hp
 · exact h.fresh x hx

lemma Owned.talker_replaced
 (htalker:ps.role=.talker) : ∀x∈replace address ps e.streamList,x.role=.listener →
  x.fwmark=invalidFwmark ∧ x.hndMaap=none := by
 intro x hx hrole
 rcases (mem_replace hp haddr).1 hx with rfl|⟨hx,-⟩
 · rw[htalker] at hrole
   cases hrole
 · exact h.listeners x hx hrole

lemma owned_write
 (hmark:ps.fwmark=p.fwmark) (hslot:ps.hndMaap=p.hndMaap) (htalker:ps.role=.talker) : Owned (write ps e) := by
 obtain ⟨haddresses,hfresh⟩:=h.keys hp haddr
 refine ⟨haddresses,hfresh,?_,h.slots.replace_same h.addresses hp haddr hslot,h.talker_replaced hp haddr htalker⟩
 exact h.marks.replace_same h.addresses hp haddr (by rw[mark,mark,hmark])

end

lemma mem_write (hp:p∈e.streamList) (haddr:ps.address=p.address) : ps∈(write ps e).streamList :=
 (mem_replace hp haddr).2 (.inl rfl)

lemma owned_addStream (h:Owned e) (hd:Int) (streamID:StreamID) (role:Role) :
 Owned (addStream hd streamID role e).1 := by
 refine ⟨?_,?_,h.marks.append (mark_none rfl),h.slots.append rfl,?_⟩
 · simp only[addStream,map_append]
   rw[nodup_append]
   refine ⟨h.addresses,nodup_singleton _,fun a ha b hb=>?_⟩
   obtain ⟨ps,hps,rfl⟩:=mem_map.1 ha
   have hlt:=h.fresh ps hps
   have hb':b=e.nextAddress:=mem_singleton.1 hb
   omega
 · intro ps hps
   rcases mem_append.1 hps with hps|hps
   · exact Nat.lt_succ_of_lt (h.fresh ps hps)
   · rw[mem_singleton.1 hps]
     exact Nat.lt_succ_self _
 · intro ps hps hrole
   rcases mem_append.1 hps with hps|hps
   · exact h.listeners ps hps hrole
   · rw[mem_singleton.1 hps]
     exact ⟨rfl,rfl⟩

lemma requeue_record (o:Outside) (ps:ClientStream) (lsnrDecl:Nat) (q:Tables) :
 ∃priority vlanID classRate fwmark,
  (requeue o ps lsnrDecl q).2.1 = {ps with priority, vlanID, classRate, fwmark} := by
 rw[requeue,setupQueues,teardownQueues]
 split
 · split
   · exact ⟨_,_,_,_,rfl⟩
   · split<;>exact ⟨_,_,_,_,rfl⟩
 · split<;>exact ⟨_,_,_,_,rfl⟩

lemma setupQueues_marks (o:Outside) (ps:ClientStream) (q:Tables) :
 let r:=setupQueues o ps q
 (r.1=q ∧ r.2.1.fwmark=ps.fwmark) ∨
  ps.fwmark=invalidFwmark ∧ r.2.1.fwmark≠invalidFwmark ∧ ¬Reserved q r.2.1.fwmark ∧
   ∀m,Reserved r.1 m↔Reserved q m ∨ m=r.2.1.fwmark := by
 simp only[setupQueues]
 by_cases hmark:ps.fwmark=invalidFwmark
 · rw[if_neg (not_not.2 hmark)]
   split
   · exact .inl ⟨rfl,rfl⟩
   · rename_i classRate _
     rcases reserved_add o.qdisc q ps.srClass classRate ps.tSpec.maxIntervalFrames.toNat
      ps.tSpec.maxFrameSize.toNat with heq | ⟨hvalid,hfree,hadd⟩
     · rw[heq]
       exact .inl ⟨rfl,hmark.symm⟩
     · exact .inr ⟨hmark,hvalid,hfree,hadd⟩
 · rw[if_pos hmark]
   exact .inl ⟨rfl,rfl⟩

lemma teardownQueues_fwmark (ps:ClientStream) (q:Tables) : (teardownQueues ps q).2.1.fwmark=invalidFwmark := by
 rw[teardownQueues]
 split_ifs with hmark
 · rfl
 · exact not_not.1 hmark

section
variable (h:Owned e)
include h

lemma teardownQueues_marks (hps:ps∈e.streamList) :
 let r:=teardownQueues ps e.qmgr
 (r.1=e.qmgr ∧ ps.fwmark=invalidFwmark) ∨
  ps.fwmark≠invalidFwmark ∧
   ∀m,Reserved r.1 m↔Reserved e.qmgr m ∧ m≠ps.fwmark := by
 simp only[teardownQueues]
 by_cases hmark:ps.fwmark=invalidFwmark
 · rw[if_neg (not_not.2 hmark)]
   exact .inl ⟨rfl,hmark⟩
 · rw[if_pos hmark]
   exact .inr ⟨hmark,(reserved_remove (h.reserved hps hmark)).2⟩

lemma owned_requeued {q:Tables} (hp:p∈e.streamList)
 (haddr:ps.address=p.address) (hslot:ps.hndMaap=p.hndMaap) (htalker:ps.role=.talker)
 (hmarks:(q=e.qmgr ∧ ps.fwmark=p.fwmark) ∨
  (p.fwmark=invalidFwmark ∧ ps.fwmark≠invalidFwmark ∧ ¬Reserved e.qmgr ps.fwmark ∧
   ∀m,Reserved q m↔Reserved e.qmgr m ∨ m=ps.fwmark) ∨
  p.fwmark≠invalidFwmark ∧ ps.fwmark=invalidFwmark ∧
   ∀m,Reserved q m↔Reserved e.qmgr m ∧ m≠p.fwmark) (told:List Told) : Owned {write ps e with qmgr:=q,told} := by
 obtain ⟨haddresses,hfresh⟩:=h.keys hp haddr
 refine ⟨haddresses,hfresh,?_,h.slots.replace_same h.addresses hp haddr hslot,h.talker_replaced hp haddr htalker⟩
 rcases hmarks with ⟨rfl,hsame⟩|⟨hold,hnew,hfree,hadd⟩|⟨hold,hnew,hrem⟩
 · exact h.marks.replace_same h.addresses hp haddr (by rw[mark,mark,hsame])
 · exact h.marks.replace_acquire h.addresses hp haddr (mark_none hold) (mark_some hnew) hfree hadd
 · exact h.marks.replace_release h.addresses hp haddr (mark_some hold) (mark_none hnew) hrem

lemma owned_strmAttachCb (hps:ps∈e.streamList) (htalker:ps.role=.talker)
 (o:Outside) (lsnrDecl:Nat) : Owned (strmAttachCb o ps lsnrDecl e) := by
 obtain ⟨_,_,_,_,hrec⟩:=requeue_record o ps lsnrDecl e.qmgr
 have haddr:(requeue o ps lsnrDecl e.qmgr).2.1.address=ps.address:=by rw[hrec]
 have hslot:(requeue o ps lsnrDecl e.qmgr).2.1.hndMaap=ps.hndMaap:=by rw[hrec]
 have hrole:(requeue o ps lsnrDecl e.qmgr).2.1.role=.talker:=by rw[hrec,htalker]
 apply owned_requeued h hps haddr hslot hrole
 rw[requeue]
 split_ifs
 · rcases setupQueues_marks o ps e.qmgr with hsame|hadd
   · exact .inl hsame
   · exact .inr (.inl hadd)
 · rcases teardownQueues_marks h hps with ⟨hq,hmark⟩|⟨hmark,hrem⟩
   · exact .inl ⟨hq,(teardownQueues_fwmark ps e.qmgr).trans hmark.symm⟩
   · exact .inr (.inr ⟨hmark,teardownQueues_fwmark ps e.qmgr,hrem⟩)

lemma owned_srp (elems:List StrElem) : Owned {e with strElemList:=elems} :=
 ⟨h.addresses,h.fresh,h.marks,h.slots,h.listeners⟩
lemma owned_told (told:List Told) : Owned {e with told} := ⟨h.addresses,h.fresh,h.marks,h.slots,h.listeners⟩

lemma owned_gone {e':State} (hps:ps∈e.streamList)
 (hlist:e'.streamList=remove address ps.address e.streamList)
 (hnext:e'.nextAddress=e.nextAddress)
 (hmarks:∀m,Reserved e'.qmgr m↔Reserved e.qmgr m ∧ mark ps≠some m)
 (hslots:∀i,Taken e' i↔Taken e i ∧ ps.hndMaap≠some i) : Owned e' := by
 refine ⟨?_,?_,?_,?_,?_⟩
 · rw[hlist]
   exact h.addresses.sublist (filter_sublist.map _)
 · rw[hlist,hnext]
   exact fun x hx=>h.fresh x (mem_remove.1 hx).1
 · rw[hlist]
   exact h.marks.remove h.addresses hps hmarks
 · rw[hlist]
   exact h.slots.remove h.addresses hps hslots
 · rw[hlist]
   exact fun x hx=>h.listeners x (mem_remove.1 hx).1

end

variable {i:Nat}

lemma taken_setTaken {j:Nat} (hi:i < maxAvbStreams) (taken:Bool) :
 Taken (setTaken i taken e) j↔if j=i then taken=true else Taken e j := by
 by_cases hj:j=i
 · subst hj
   simp[Taken,setTaken,hi]
 · simp[Taken,setTaken,hj]

lemma taken_release (handle:Option Nat) (i:Nat) :
 Taken (openavbMaapRelease handle e) i↔Taken e i ∧ handle≠some i := by
 cases handle with
 | none=>simp[openavbMaapRelease]
 | some j=>
  by_cases hi:i=j
  · simp[openavbMaapRelease,Taken,setTaken,hi]
  · simp[openavbMaapRelease,Taken,setTaken,hi,Ne.symm hi]

lemma xTalkerDeregister_eq (cfg:Config) (ps:ClientStream) (e:State) : xTalkerDeregister cfg ps e=
  {e with
    streamList:=remove address ps.address e.streamList
    maapAllocList:=(openavbMaapRelease ps.hndMaap e).maapAllocList
    qmgr:=(teardownQueues ps e.qmgr).1
    strElemList:=if cfg.noSrp then e.strElemList else (dropElem ps.streamID e).strElemList} := by
 cases hsrp:cfg.noSrp<;>cases hslot:ps.hndMaap <;>
  simp[xTalkerDeregister,hsrp,hslot,delStream,openavbMaapRelease,setTaken,dropElem,openavbSrpDeregisterStream]

lemma xListenerDetach_eq (cfg:Config) (ps:ClientStream) (e:State) : xListenerDetach cfg ps e=
  {e with
    streamList:=remove address ps.address e.streamList
    strElemList:=if cfg.noSrp then e.strElemList else (dropElem ps.streamID e).strElemList} := by
 cases hsrp:cfg.noSrp<;>simp[xListenerDetach,hsrp,delStream,dropElem,openavbSrpDetachStream]

lemma leave_resources (h:Owned e) (hps:ps∈e.streamList) (cfg:Config) :
 (leave cfg ps e).streamList=remove address ps.address e.streamList ∧
  (leave cfg ps e).nextAddress=e.nextAddress ∧
  (∀m,Reserved (leave cfg ps e).qmgr m↔Reserved e.qmgr m ∧ mark ps≠some m) ∧
  ∀i,Taken (leave cfg ps e) i↔Taken e i ∧ ps.hndMaap≠some i := by
 cases hrole:ps.role with
 | talker=>
  simp only[leave,hrole,xTalkerDeregister_eq]
  refine ⟨trivial,trivial,fun m=>?_,taken_release ps.hndMaap⟩
  rcases teardownQueues_marks h hps with ⟨hq,hmark⟩|⟨hmark,hrem⟩
  · simp[hq,mark_none hmark]
  · simp[hrem,mark_some hmark,eq_comm]
 | listener=>
  obtain ⟨hmark,hslot⟩:=h.listeners ps hps hrole
  simp only[leave,hrole,xListenerDetach_eq]
  refine ⟨trivial,trivial,fun m=>?_,fun i=>?_⟩
  · simp[mark_none hmark]
  · simp[hslot,Taken]

lemma owned_leave (h:Owned e) (hps:ps∈e.streamList) (cfg:Config) : Owned (leave cfg ps e) := by
 obtain ⟨hlist,hnext,hmarks,hslots⟩:=leave_resources h hps cfg
 exact owned_gone h hps hlist hnext hmarks hslots
lemma openavbMaapAllocate_some (h:openavbMaapAllocate e=some i) :
 i < maxAvbStreams ∧ (e.maapAllocList i).taken=false := by
 have htest:=find?_some h
 exact ⟨mem_range.1 (mem_of_find?_eq_some h),by simpa using htest⟩

lemma owned_take (h:Owned e) (hp:p∈e.streamList) (haddr:ps.address=p.address)
 (hmark:ps.fwmark=p.fwmark) (htalker:ps.role=.talker) (hnone:p.hndMaap=none)
 (hslot:ps.hndMaap=some i) (hfree:openavbMaapAllocate e=some i) : Owned (write ps (setTaken i true e)) := by
 obtain ⟨hi,hnot⟩:=openavbMaapAllocate_some hfree
 obtain ⟨haddresses,hfresh⟩:=h.keys hp haddr
 refine ⟨haddresses,hfresh,?_,?_,h.talker_replaced hp haddr htalker⟩
 · exact h.marks.replace_same h.addresses hp haddr (by rw[mark,mark,hmark])
 · apply h.slots.replace_acquire h.addresses hp haddr hnone hslot
   · rintro ⟨-,htaken⟩
     rw[hnot] at htaken
     cases htaken
   · intro j
     rw[show Taken (write ps (setTaken i true e)) j↔Taken (setTaken i true e) j from Iff.rfl,taken_setTaken hi]
     split_ifs with hj
     · simp[hj]
     · simp[hj]

lemma mem_strmAttachCb_info (hmark:ps.fwmark=invalidFwmark) (hps:ps∈e.streamList) :
 ps∈(strmAttachCb o ps ldStStreamInfo e).streamList := by
 have hrec:(requeue o ps ldStStreamInfo e.qmgr).2.1=ps:=by
  rw[requeue,if_neg (by decide),teardownQueues,if_neg (not_not.2 hmark)]
 rw[strmAttachCb,hrec]
 exact mem_write hps rfl

lemma owned_withdrawn (h:Owned e) (hps:ps∈e.streamList) (hmark:ps.fwmark=invalidFwmark)
 : Owned (delStream ps (openavbMaapRelease ps.hndMaap e)) := by
 have hfields:delStream ps (openavbMaapRelease ps.hndMaap e)=
  {e with
    streamList:=remove address ps.address e.streamList
    maapAllocList:=(openavbMaapRelease ps.hndMaap e).maapAllocList}:=by
  cases hslot:ps.hndMaap<;>rfl
 rw[hfields]
 apply owned_gone h hps
 · rfl
 · rfl
 · simp[mark_none hmark]
 · exact taken_release ps.hndMaap

section
variable (h:Owned e) (hps:ps∈e.streamList) (htalker:ps.role=.talker)
 (hmark:ps.fwmark=invalidFwmark)
include h hps htalker hmark

lemma owned_registerShaped (cfg:Config) (o:Outside) : Owned (registerShaped cfg o ps e).1 := by
 obtain ⟨shaped,heq,haddr,hfields⟩:∃shaped:ClientStream,
  (if o.shaperDaemonAvailable&&ps.txRate != 0 then {ps with hndShaper:=o.shaperHandle}
   else ps)=shaped ∧ shaped.address=ps.address ∧ shaped.fwmark=ps.fwmark ∧
    shaped.hndMaap=ps.hndMaap ∧ shaped.role=ps.role:=by
  split<;>exact ⟨_,rfl,rfl,rfl,rfl,rfl⟩
 obtain ⟨hfwmark,hslot,hrole⟩:=hfields
 have hwritten:=owned_write h hps haddr hfwmark hslot (hrole.trans htalker)
 have hmem:shaped∈(write shaped e).streamList:=mem_write hps haddr
 simp only[registerShaped,heq]
 split_ifs
 · exact owned_strmAttachCb hwritten hmem (hrole.trans htalker) o ldStReady
 · exact owned_srp hwritten _
 · exact owned_withdrawn (owned_srp hwritten _) hmem (hfwmark.trans hmark)

lemma owned_registerAddressed (hslot:ps.hndMaap=none)
 (cfg:Config) (o:Outside) (m:TalkerRegister) : Owned (registerAddressed cfg o m ps e).1 := by
 simp only[registerAddressed]
 split_ifs
 · split
   · have hgone:=owned_withdrawn h hps hmark
     rwa[hslot] at hgone
   · rename_i i hfree
     have htaken:Owned (write
      {ps with hndMaap:=some i,destAddr:=(e.maapAllocList i).destAddr}
      (setTaken i true e)):=owned_take h hps rfl rfl htalker hslot rfl hfree
     exact owned_registerShaped (owned_strmAttachCb htaken (mem_write hps rfl) htalker o _)
      (mem_strmAttachCb_info hmark (mem_write hps rfl)) htalker hmark cfg o
 · have hwritten:Owned (write {ps with destAddr:=m.destAddr,hndMaap:=none} e):=
    owned_write h hps rfl rfl hslot.symm htalker
   exact owned_registerShaped hwritten (mem_write hps rfl) htalker hmark cfg o

end

lemma owned_register (h:Owned e) (cfg:Config) (o:Outside) (hd:Int) (streamID:StreamID)
 (m:TalkerRegister) : Owned (openavbEptSrvrRegisterStream cfg o hd streamID m e).1 := by
 simp only[openavbEptSrvrRegisterStream]
 split_ifs
 · exact h
 · have hnew:(addStream hd (fillMac cfg streamID) .talker e).2 ∈
    (addStream hd (fillMac cfg streamID) .talker e).1.streamList:=
    mem_append_right _ (mem_singleton.2 rfl)
   have hwritten:Owned (write (m.fill (addStream hd (fillMac cfg streamID) .talker e).2)
    (addStream hd (fillMac cfg streamID) .talker e).1):=
    owned_write (owned_addStream h hd (fillMac cfg streamID) .talker) hnew rfl rfl rfl rfl
   exact owned_registerAddressed hwritten (mem_write hnew rfl) rfl rfl rfl cfg o m

lemma owned_attach (h:Owned e) (cfg:Config) (hd:Int) (streamID:StreamID) (ld:Nat) :
 Owned (openavbEptSrvrAttachStream cfg hd streamID ld e).1 := by
 have hrecord:Owned (findOrAdd hd (fillMac cfg streamID) e).1:=by
  rw[findOrAdd]
  split
  · exact h
  · exact owned_addStream h hd _ .listener
 simp only[openavbEptSrvrAttachStream,openavbSrpAttachStream]
 split_ifs
 · exact h
 · exact owned_told hrecord _
 · exact hrecord
 · exact hrecord
 · exact owned_srp hrecord _

lemma owned_restart (h:Owned e) (cfg:Config) (o:Outside) (slot:Nat) (addr:EtherAddr) :
 Owned (maapRestartCallback cfg o slot addr e) := by
 simp only[maapRestartCallback]
 cases hfound:findStreamMaap slot e with
 | none=>exact h
 | some ps=>
  have hps:ps∈e.streamList:=mem_of_find?_eq_some hfound
  have hslot:ps.hndMaap=some slot:=by
   have htest:=find?_some hfound
   exact of_decide_eq_true htest
  have htalker:ps.role=.talker:=by
   cases hrole:ps.role with
   | talker=>rfl
   | listener=>rw[(h.listeners ps hps hrole).2] at hslot;cases hslot
  have hwritten:Owned (write {ps with destAddr:=addr} e):=
   owned_write h hps rfl rfl rfl htalker
  have hcb:=owned_strmAttachCb hwritten (mem_write hps rfl) htalker o 0
  split_ifs
  · exact hcb
  · exact owned_srp hcb _

structure OneOwner (e:State) : Prop where
 marks:∀m,Reserved e.qmgr m↔m≠invalidFwmark ∧ ∃ps∈e.streamList,ps.fwmark=m
 distinct:((e.streamList.map fwmark).filter fun m=>decide
   (m≠invalidFwmark)).Nodup
 slots:∀i < maxAvbStreams,(e.maapAllocList i).taken=true ↔
  ∃! ps, ps∈e.streamList ∧ ps.hndMaap=some i

lemma Owned.oneOwner (h:Owned e) : OneOwner e := by
 have hheld:∀l:List ClientStream,l.filterMap mark=(l.map fwmark).filter fun m=>decide (m≠invalidFwmark):=by
  intro l
  induction l with
  | nil=>rfl
  | cons ps l ih=>
   by_cases hmark:ps.fwmark=invalidFwmark
   · simp[mark_none hmark,hmark,ih]
   · simp[mark_some hmark,hmark,ih]
 refine ⟨fun m=>?_,hheld _▸h.marks.nodup,fun i hi=>?_⟩
 · rw[h.marks.used_iff m,hheld]
   simp[and_comm]
 · have hused:=h.slots.used_iff i
   simp only[Taken,hi,true_and,mem_filterMap] at hused
   rw[hused]
   constructor
   · rintro ⟨ps,hps,hslot⟩
     refine ⟨ps,⟨hps,hslot⟩,?_⟩
     rintro p ⟨hp,hslot'⟩
     exact h.slots.unique h.addresses hp hps hslot' hslot
   · rintro ⟨ps,⟨hps,hslot⟩,-⟩
     exact ⟨ps,hps,hslot⟩

lemma owned_handle (h:Owned e) (cfg:Config) (input:Outside×Handler) : Owned (handle cfg input e) := by
 obtain ⟨o,handler⟩:=input
 cases handler with
 | talkerRegister hd streamID m=>exact owned_register h cfg o hd streamID m
 | listenerAttach hd streamID ld=>exact owned_attach h cfg hd streamID ld
 | clientStop hd streamID=>
  simp only[handle,openavbEptSrvrStopStream]
  split
  · exact h
  · rename_i ps hfound
    split_ifs
    · exact h
    · exact owned_leave h (mem_of_find?_eq_some hfound) cfg
 | closeClientConnection hd=>
  simp only[handle,openavbEptSrvrCloseClientConnection]
  split
  · exact h
  · rename_i ps hfound
    exact owned_leave h (mem_of_find?_eq_some hfound) cfg
 | attachCb address lsnrDecl=>
  simp only[handle]
  split
  · exact h
  · rename_i ps hfound
    split_ifs with htalker
    · exact owned_strmAttachCb h (mem_of_find?_eq_some hfound) htalker o lsnrDecl
    · exact h
 | maapRestart slot addr=>
  have hmoved:Owned {e with
   maapAllocList:=
    update e.maapAllocList slot ⟨addr,(e.maapAllocList slot).taken⟩}:=by
   refine ⟨h.addresses,h.fresh,h.marks,⟨h.slots.nodup,fun i=>?_⟩,h.listeners⟩
   rw[←h.slots.used_iff i]
   simp only[Taken]
   by_cases hi:i=slot
   · rw[hi,update_self]
   · rw[update_of_ne hi]
  simp only[handle]
  split_ifs
  · exact owned_restart hmoved cfg o slot addr
  · exact hmoved

theorem one_owner_throughout (cfg:Config) (inputs:List (Outside×Handler)) :
 Throughout (handle cfg) OneOwner inputs .initial := by
 have howned:Throughout (handle cfg) Owned inputs .initial:=
  throughout_of_invariant (fun input e h=>owned_handle h cfg input) owned_initial
 exact howned.imp fun e h=>h.oneOwner

end OpenAvnu.EndpointOwners
