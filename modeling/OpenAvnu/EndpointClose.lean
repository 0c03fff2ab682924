import OpenAvnu.EndpointOwners

/-! # What a closed connection leaves behind -/

namespace OpenAvnu.EndpointClose

open Qmgr Endpoint EndpointOwners Owners Runs List

/-- Nothing of the client remains, and nothing else has changed in the list. -/
structure Gone (h:Int) (before after:State) : Prop where
 records:∀ps∈after.streamList,ps.clientHandle≠h
 elements:∀elem∈after.strElemList,elem.client≠h
 marks:∀ps∈before.streamList,ps.clientHandle=h → ps.fwmark≠invalidFwmark →
  ¬Reserved after.qmgr ps.fwmark
 slots:∀ps∈before.streamList,ps.clientHandle=h → ∀i,ps.hndMaap=some i →
  ¬Taken after i
 others:after.streamList.filter (fun ps=>decide (ps.clientHandle≠h))=
  before.streamList.filter fun ps=>decide (ps.clientHandle≠h)

/-- At most one record and one element, the first one of the record's stream. -/
structure Single (h:Int) (e:State) : Prop where
 records:(e.streamList.filter fun ps=>decide (ps.clientHandle=h)).length≤1
 elements:(e.strElemList.filter fun elem=>decide (elem.client=h)).length≤1
 first:∀elem∈e.strElemList,elem.client=h →
  ∃ps∈e.streamList,ps.clientHandle=h ∧ ps.streamID.bytes=elem.streamId ∧
   (e.strElemList.find? fun x=>decide (x.streamId=elem.streamId))=some elem

variable {e:State} {ps:ClientStream} {cfg:Config} {h:Int}

lemma leave_strElemList (cfg:Config) (ps:ClientStream) (e:State) : (leave cfg ps e).strElemList=
  if cfg.noSrp then e.strElemList else (dropElem ps.streamID e).strElemList := by
 cases hrole:ps.role with
 | talker=>simp only[leave,hrole,xTalkerDeregister_eq]
 | listener=>simp only[leave,hrole,xListenerDetach_eq]
lemma registerShaped_strElemList (hsrp:cfg.noSrp=true) (o:Outside) (ps:ClientStream)
 (e:State) : (registerShaped cfg o ps e).1.strElemList=e.strElemList := by
 simp only[registerShaped,hsrp]
 rfl

lemma handle_strElemList (hsrp:cfg.noSrp=true) (input:Outside×Handler) (e:State) :
 (handle cfg input e).strElemList=e.strElemList := by
 obtain ⟨o,handler⟩:=input
 cases handler with
 | talkerRegister hd streamID m=>
  simp only[handle,openavbEptSrvrRegisterStream,registerAddressed]
  split_ifs
  · rfl
  · split
    · rfl
    · exact registerShaped_strElemList hsrp o _ _
  · exact registerShaped_strElemList hsrp o _ _
 | listenerAttach hd streamID ld=>
  have hrecord:(findOrAdd hd (fillMac cfg streamID) e).1.strElemList=e.strElemList:=by
   rw[findOrAdd]
   split<;>rfl
  simp only[handle,openavbEptSrvrAttachStream]
  split_ifs
  · rfl
  · exact hrecord
  · exact hrecord
 | clientStop hd streamID=>
  simp only[handle,openavbEptSrvrStopStream]
  split
  · rfl
  · split_ifs
    · rfl
    · rw[leave_strElemList,if_pos hsrp]
 | closeClientConnection hd=>
  simp only[handle,openavbEptSrvrCloseClientConnection]
  split
  · rfl
  · rw[leave_strElemList,if_pos hsrp]
 | attachCb address lsnrDecl=>
  simp only[handle]
  split
  · rfl
  · split_ifs<;>rfl
 | maapRestart slot addr=>
  simp only[handle,maapRestartCallback]
  split_ifs
  · split<;>rfl
  · rfl

structure Kept (cfg:Config) (e:State) : Prop where
 owned:Owned e
 noSrp:cfg.noSrp=true → e.strElemList=[]

lemma kept_run (cfg:Config) (inputs:List (Outside×Handler)) : Kept cfg (run (handle cfg) inputs .initial) := by
 apply run_invariant (P:=Kept cfg)
 · intro input e hkept
   refine ⟨owned_handle hkept.owned cfg input,fun hsrp=>?_⟩
   rw[handle_strElemList hsrp,hkept.noSrp hsrp]
 · exact ⟨owned_initial,fun _=>rfl⟩

lemma filter_length_le_one {α:Type} {p:α → Bool} {a b:List α} {x:α} (hx:p x=true) :
 ((a++x::b).filter p).length≤1↔∀y∈a++b,p y=false := by
 rw[filter_append,filter_cons_of_pos hx,length_append,length_cons]
 constructor
 · intro hle y hy
   have hzero:((a++b).filter p).length=0:=by
    rw[filter_append,length_append]
    omega
   have hnot:=filter_eq_nil_iff.1 (length_eq_zero_iff.1 hzero) y hy
   simpa using hnot
 · intro hall
   have hnil:(a++b).filter p=[]:=
    filter_eq_nil_iff.2 fun y hy=>by simp[hall y hy]
   have hlen:=congrArg List.length hnil
   rw[filter_append,length_append,length_nil] at hlen
   omega

lemma dropped_iff {streamId:BitVec 64} {elems:List StrElem} :
 (∀elem∈elems.eraseP (fun x=>decide (x.streamId=streamId)),elem.client≠h) ↔
  (elems.filter fun elem=>decide (elem.client=h)).length≤1 ∧
  ∀elem∈elems,elem.client=h → streamId=elem.streamId ∧
   (elems.find? fun x=>decide (x.streamId=elem.streamId))=some elem := by
 by_cases hnone:∀x∈elems,x.streamId≠streamId
 · rw[eraseP_of_forall_not fun x hx=>by simpa using hnone x hx]
   constructor
   · intro hall
     rw[filter_eq_nil_iff.2 fun elem helem=>by simpa using hall elem helem]
     exact ⟨Nat.zero_le 1,fun elem helem hclient=>absurd hclient (hall elem helem)⟩
   · rintro ⟨-,hfirst⟩ elem helem hclient
     exact hnone elem helem (hfirst elem helem hclient).1.symm
 · obtain ⟨y,hy,hys⟩:∃y∈elems,y.streamId=streamId:=by simpa using hnone
   obtain ⟨x,a,b,hbefore,hx,rfl,herase⟩:=
    exists_of_eraseP (p:=fun x:StrElem=>decide (x.streamId=streamId)) hy (by simpa using hys)
   simp only[decide_eq_true_eq] at hbefore hx
   subst hx
   rw[herase]
   have hfind:((a++x::b).find? fun z=>decide (z.streamId=x.streamId))=some x:=by
    rw[find?_append,find?_eq_none.2 fun z hz=>by simpa using hbefore z hz]
    simp
   constructor
   · intro hall
     have hmiddle:∀elem∈a++x::b,elem.client=h → elem=x:=by
      intro elem helem hclient
      rcases mem_append.1 helem with hin|hin
      · exact absurd hclient (hall elem (mem_append_left _ hin))
      · rcases mem_cons.1 hin with rfl|hin
        · rfl
        · exact absurd hclient (hall elem (mem_append_right _ hin))
     constructor
     · by_cases hclient:x.client=h
       · rw[filter_length_le_one (by simpa using hclient)]
         exact fun elem helem=>by simpa using hall elem helem
       · rw[filter_eq_nil_iff.2 fun elem helem=>by
          simpa using fun heq=>hclient (hmiddle elem helem heq▸heq)]
         exact Nat.zero_le 1
     · intro elem helem hclient
       rw[hmiddle elem helem hclient]
       exact ⟨rfl,hfind⟩
   · rintro ⟨hlen,hfirst⟩ elem helem hclient
     have hmem:elem∈a++x::b:=by
      rcases mem_append.1 helem with hin|hin
      · exact mem_append_left _ hin
      · exact mem_append_right _ (mem_cons_of_mem x hin)
     obtain ⟨hstream,hfound⟩:=hfirst elem hmem hclient
     rw[←hstream,hfind] at hfound
     cases hfound
     have hother:=(filter_length_le_one (by simpa using hclient)).1 hlen x helem
     simp[hclient] at hother

lemma gone_of_no_record (hnone:∀ps∈e.streamList,ps.clientHandle≠h) : Gone h e e↔Single h e := by
 constructor
 · intro hgone
   refine ⟨?_,?_,fun elem helem hclient=>absurd hclient (hgone.elements elem helem)⟩
   · rw[filter_eq_nil_iff.2 fun ps hps=>by simpa using hnone ps hps]
     exact Nat.zero_le 1
   · rw[filter_eq_nil_iff.2 fun elem helem=>by simpa using hgone.elements elem helem]
     exact Nat.zero_le 1
 · intro hsingle
   refine ⟨hnone,fun elem helem hclient=>?_,fun ps hps hh=>absurd hh (hnone ps hps),
    fun ps hps hh=>absurd hh (hnone ps hps),rfl⟩
   obtain ⟨ps,hps,hh,-⟩:=hsingle.first elem helem hclient
   exact hnone ps hps hh

lemma gone_of_record (hkept:Kept cfg e) (hps:ps∈e.streamList) (hh:ps.clientHandle=h) :
 Gone h e (leave cfg ps e)↔Single h e := by
 obtain ⟨hlist,-,hmarks,hslots⟩:=leave_resources hkept.owned hps cfg
 obtain ⟨a,b,hsplit,hremoved,-⟩:=split_of_mem hkept.owned.addresses hps
 have hrest:(leave cfg ps e).streamList=a++b:=hlist.trans hremoved
 have hrecords:(∀p∈(leave cfg ps e).streamList,p.clientHandle≠h) ↔
  (e.streamList.filter fun p=>decide (p.clientHandle=h)).length≤1:=by
  rw[hrest,hsplit,filter_length_le_one (by simpa using hh)]
  simp
 have hothers:(leave cfg ps e).streamList.filter (fun p=>decide (p.clientHandle≠h))=
  e.streamList.filter fun p=>decide (p.clientHandle≠h):=by
  rw[hrest,hsplit,filter_append,filter_append,filter_cons_of_neg (by simp[hh])]
 -- with one record only, the stream of the client is the one whose element was dropped
 have hone:(∀p∈(leave cfg ps e).streamList,p.clientHandle≠h) →
  ∀p∈e.streamList,p.clientHandle=h → p=ps:=by
  intro hnone p hp hph
  rw[hsplit] at hp
  rcases mem_append.1 hp with hp|hp
  · exact absurd hph (hnone p (hrest▸mem_append_left _ hp))
  · rcases mem_cons.1 hp with rfl|hp
    · rfl
    · exact absurd hph (hnone p (hrest▸mem_append_right _ hp))
 have helements:(∀elem∈(leave cfg ps e).strElemList,elem.client≠h) ↔
  (e.strElemList.filter fun elem=>decide (elem.client=h)).length≤1 ∧
  ∀elem∈e.strElemList,elem.client=h → ps.streamID.bytes=elem.streamId ∧
   (e.strElemList.find? fun x=>decide (x.streamId=elem.streamId))=some elem:=by
  rw[leave_strElemList]
  split_ifs with hsrp
  · simp[hkept.noSrp hsrp]
  · exact dropped_iff
 constructor
 · intro hgone
   obtain ⟨hlen,hfirst⟩:=helements.1 hgone.elements
   exact ⟨hrecords.1 hgone.records,hlen,fun elem helem hclient=>
    ⟨ps,hps,hh,hfirst elem helem hclient⟩⟩
 · intro hsingle
   have hnone:=hrecords.2 hsingle.records
   refine ⟨hnone,helements.2 ⟨hsingle.elements,?_⟩,?_,?_,hothers⟩
   · intro elem helem hclient
     obtain ⟨p,hp,hph,hstream⟩:=hsingle.first elem helem hclient
     rwa[hone hnone p hp hph] at hstream
   · intro p hp hph hmark hreserved
     rw[hone hnone p hp hph] at hmark hreserved
     exact ((hmarks ps.fwmark).1 hreserved).2 (mark_some hmark)
   · intro p hp hph i hslot htaken
     rw[hone hnone p hp hph] at hslot
     exact ((hslots i).1 htaken).2 hslot

theorem gone_iff_single (cfg:Config) (inputs:List (Outside×Handler)) (h:Int) :
 Gone h (run (handle cfg) inputs .initial)
  (openavbEptSrvrCloseClientConnection cfg h (run (handle cfg) inputs .initial)) ↔
  Single h (run (handle cfg) inputs .initial) := by
 have hkept:=kept_run cfg inputs
 rw[openavbEptSrvrCloseClientConnection]
 cases hfound:(run (handle cfg) inputs .initial).streamList.find?
  fun ps=>decide (ps.clientHandle=h) with
 | none=>
  apply gone_of_no_record
  intro ps hps
  simpa using find?_eq_none.1 hfound ps hps
 | some ps=>
  have htest:=find?_some hfound
  exact gone_of_record hkept (mem_of_find?_eq_some hfound) (of_decide_eq_true htest)

def exampleRegister : TalkerRegister := ⟨0x91e0f0000001,true,⟨100,1⟩,0,1,0,0⟩
def exampleOutside : Outside := ⟨⟨3,2,2,2⟩,false,false,none,⟨.disabled,fun _ _=>true⟩,false⟩

theorem second_stream_stays :
 (let e:=run (handle ⟨false,1⟩)
   [(exampleOutside,.talkerRegister 5 ⟨1,1⟩ exampleRegister),
    (exampleOutside,.talkerRegister 5 ⟨1,2⟩ exampleRegister)] .initial
  let after:=openavbEptSrvrCloseClientConnection ⟨false,1⟩ 5 e
  after.streamList.map ClientStream.clientHandle=[5] ∧
   after.strElemList.map StrElem.client=[5]) ∧
 (let e:=run (handle ⟨false,1⟩)
   [({exampleOutside with advertiseFails:=true},.talkerRegister 5 ⟨1,1⟩ exampleRegister)] .initial
  let after:=openavbEptSrvrCloseClientConnection ⟨false,1⟩ 5 e
  after.streamList.length=0 ∧ after.strElemList.map StrElem.client=[5]) := by
 decide +kernel

end OpenAvnu.EndpointClose
