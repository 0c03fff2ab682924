import OpenAvnu.EndpointClose

/-!
# The SRP element list and the stream list

While SRP refuses nothing, the elements lead, in order, to the records.
-/

namespace OpenAvnu.EndpointSrp

open Endpoint EndpointOwners EndpointClose Owners Runs List

abbrev Key := Nat×StreamID×Int
def key (ps:ClientStream) : Key := (ps.address,ps.streamID,ps.clientHandle)
def keys (e:State) : List Key := e.streamList.map key
def ref (k:Key) : Nat×BitVec 64 := (k.1,k.2.1.bytes)
def refs (e:State) : List (Nat×BitVec 64) := e.strElemList.map fun elem=>(elem.avtpHandle,elem.streamId)

/-- Only this record may have the address. -/
def Alone (k:Key) (ks:List Key) : Prop := ∀k'∈ks,k'.1=k.1 → k'=k

variable {e:State} {ps:ClientStream} {cfg:Config} {o:Outside}
 {ks:List Key} {k:Key}

lemma keys_write (hkey:key ps=k) (hkeys:keys e=ks) (h:Alone k ks) : keys (write ps e)=ks := by
 subst hkey hkeys
 simp only[keys,write,Owners.replace,map_map]
 refine map_congr_left fun p hp=>?_
 simp only[Function.comp_apply]
 split_ifs with haddr
 · exact (h (key p) (mem_map_of_mem hp) haddr).symm
 · rfl

lemma keys_strmAttachCb (hkey:key ps=k) (hkeys:keys e=ks) (h:Alone k ks)
 (lsnrDecl:Nat) : keys (strmAttachCb o ps lsnrDecl e)=ks := by
 obtain ⟨_,_,_,_,hrec⟩:=requeue_record o ps lsnrDecl e.qmgr
 exact keys_write (by rw[hrec];exact hkey) hkeys h
lemma keys_delStream (ps:ClientStream) (e:State) :
 keys (delStream ps e)=(keys e).filter fun k=>decide (k.1≠ps.address) := by
 simp only[keys,delStream,remove,filter_map]
 rfl

/-- Registering the stream succeeds unless mrpd refuses or the class is unknown. -/
def Advertised (o:Outside) (srClass:Nat) : Prop :=
 o.advertiseFails=false ∧ (openavbSrpGetClassParams o.domain srClass).isSome

lemma registerShaped_lists (hsrp:cfg.noSrp=false) (hadv:Advertised o ps.srClass)
 (hkey:key ps=k) (hkeys:keys e=ks) (h:Alone k ks) :
 keys (registerShaped cfg o ps e).1=ks ∧ refs (registerShaped cfg o ps e).1=refs e++[ref k] := by
 obtain ⟨shaped,heq,hsame,hclass⟩:∃shaped:ClientStream,
  (if o.shaperDaemonAvailable&&ps.txRate != 0 then {ps with hndShaper:=o.shaperHandle}
   else ps)=shaped ∧ key shaped=key ps ∧ shaped.srClass=ps.srClass:=by
  split<;>exact ⟨_,rfl,rfl,rfl⟩
 have hdone:(openavbSrpRegisterStream o shaped (write shaped e)).2=true:=by
  simp only[openavbSrpRegisterStream,hclass,hadv.1,hadv.2]
  rfl
 simp only[registerShaped,heq,hsrp,Bool.false_eq_true,if_false,hdone,if_true]
 refine ⟨keys_write (hsame.trans hkey) hkeys h,?_⟩
 rw[←hkey,←hsame]
 simp[refs,openavbSrpRegisterStream,write,ref,key]

variable {h:Int} {streamID:StreamID} {m:TalkerRegister}

lemma registerAddressed_lists (hsrp:cfg.noSrp=false) (hadv:Advertised o ps.srClass)
 (hkey:key ps=k) (hkeys:keys e=ks) (h:Alone k ks) :
 let e':=(registerAddressed cfg o m ps e).1
 keys e'=keys (delStream ps e) ∧ refs e'=refs e ∨ keys e'=ks ∧ refs e'=refs e++[ref k] := by
 simp only[registerAddressed]
 split_ifs
 · split
   · exact .inl ⟨rfl,rfl⟩
   · refine .inr (registerShaped_lists hsrp hadv hkey ?_ h)
     refine keys_strmAttachCb (k:=k) ?_ (keys_write (k:=k) ?_ ?_ h) h _
     · exact hkey
     · exact hkey
     · exact hkeys
 · exact .inr (registerShaped_lists hsrp hadv hkey (keys_write hkey hkeys h) h)

lemma register_lists (hsrp:cfg.noSrp=false) (hadv:Advertised o m.srClass.toNat)
 (hfresh:∀k∈keys e,k.1<e.nextAddress) {sid:StreamID} (hsid:fillMac cfg streamID=sid) :
 let e':=(openavbEptSrvrRegisterStream cfg o h streamID m e).1
 keys e'=keys e ∧ refs e'=refs e ∨
  ((findStream sid e).any fun ps=>decide (ps.clientHandle≠h))=false ∧
  keys e'=keys e++[(e.nextAddress,sid,h)] ∧ refs e'=refs e++[(e.nextAddress,sid.bytes)] := by
 have halone:Alone (e.nextAddress,sid,h) (keys e++[(e.nextAddress,sid,h)]):=by
  intro k hk heq
  rcases mem_append.1 hk with hk|hk
  · exact absurd heq (Nat.ne_of_lt (hfresh k hk))
  · exact mem_singleton.1 hk
 have hadded:keys (addStream h sid .talker e).1=keys e++[(e.nextAddress,sid,h)]:=by
  simp[keys,addStream,key]
 have hkey:key (m.fill (addStream h sid .talker e).2)=(e.nextAddress,sid,h):=rfl
 have hwritten:=keys_write hkey hadded halone
 simp only[openavbEptSrvrRegisterStream,hsid]
 split_ifs with hrefused
 · exact .inl ⟨rfl,rfl⟩
 refine (registerAddressed_lists (m:=m) hsrp hadv hkey hwritten halone).imp ?_ ?_
 · rintro ⟨hk,hr⟩
   refine ⟨?_,hr⟩
   rw[hk,keys_delStream,hwritten,filter_append,
    filter_cons_of_neg (by simp[addStream,TalkerRegister.fill]),filter_nil,append_nil]
   exact filter_eq_self.2 fun k hk=>decide_eq_true (Nat.ne_of_lt (hfresh k hk))
 · exact fun hlists=>⟨by simpa using hrefused,hlists⟩

lemma bytes_injective {a b:StreamID} (h:a.bytes=b.bytes) : a=b := by
 have haddr:=congrArg (BitVec.extractLsb' 16 48) h
 have hid:=congrArg (BitVec.extractLsb' 0 16) h
 simp only[StreamID.bytes,BitVec.extractLsb'_append_eq_left,BitVec.extractLsb'_append_eq_right] at haddr hid
 cases a
 cases b
 simp_all

/-- The elements are those of the records, and the records of a stream belong to one client. -/
structure Paired (ks:List Key) (rs:List (Nat×BitVec 64)) : Prop where
 refs:rs=ks.map ref
 clients:∀k∈ks,∀k'∈ks,k.2.1=k'.2.1 → k.2.2=k'.2.2

variable {rs:List (Nat×BitVec 64)} {sid:StreamID}

lemma Paired.append (hp:Paired ks rs) (hclient:∀k∈ks,k.2.1=sid → k.2.2=h) (n:Nat) :
 Paired (ks++[(n,sid,h)]) (rs++[(n,sid.bytes)]) := by
 refine ⟨by rw[hp.refs,map_append];rfl,fun k hk k' hk' heq=>?_⟩
 rcases mem_append.1 hk with hk|hk<;>rcases mem_append.1 hk' with hk'|hk'
 · exact hp.clients k hk k' hk' heq
 · cases mem_singleton.1 hk'
   exact hclient k hk heq
 · cases mem_singleton.1 hk
   exact (hclient k' hk' heq.symm).symm
 · rw[mem_singleton.1 hk,mem_singleton.1 hk']

lemma Paired.remove (hp:Paired ks rs) (hnodup:(ks.map Prod.fst).Nodup)
 (hk:ks.find? (fun x=>decide (x.2.1=k.2.1))=some k) :
 Paired (ks.filter fun x=>decide (x.1≠k.1)) (rs.eraseP fun r=>decide (r.2=k.2.1.bytes)) := by
 refine ⟨?_,fun x hx y hy=>hp.clients x (mem_of_mem_filter hx) y (mem_of_mem_filter hy)⟩
 obtain ⟨-,a,b,rfl,ha⟩:=find?_eq_some_iff_append.1 hk
 rw[map_append,map_cons,nodup_middle,nodup_cons,←map_append] at hnodup
 have hks:(a++k::b).filter (fun x=>decide (x.1≠k.1))=a++b:=by
  rw[filter_append,filter_cons_of_neg (by simp),←filter_append]
  exact filter_eq_self.2 fun x hx=>decide_eq_true fun heq=>hnodup.1 (heq▸mem_map_of_mem hx)
 have hbefore:∀r∈a.map ref,¬decide (r.2=k.2.1.bytes)=true:=by
  intro r hr hbytes
  obtain ⟨x,hx,rfl⟩:=mem_map.1 hr
  have hother:=ha x hx
  simp[bytes_injective (of_decide_eq_true hbytes)] at hother
 rw[hks,hp.refs,map_append,map_cons,eraseP_append_right _ hbefore,eraseP_cons_of_pos (by simp[ref]),map_append]

lemma find?_keys (sid:StreamID) (e:State) :
 (keys e).find? (fun k=>decide (k.2.1=sid))=(findStream sid e).map key := find?_map

lemma paired_leave (hown:Owned e) (hp:Paired (keys e) (refs e)) (hsrp:cfg.noSrp=false)
 (hfirst:findStream ps.streamID e=some ps) : Paired (keys (leave cfg ps e)) (refs (leave cfg ps e)) := by
 have hkeys:keys (leave cfg ps e)=(keys e).filter fun k=>decide (k.1≠(key ps).1):=by
  rw[keys,(leave_resources hown (mem_of_find?_eq_some hfirst) cfg).1]
  exact keys_delStream ps e
 have hrefs:refs (leave cfg ps e)=(refs e).eraseP fun r=>decide (r.2=(key ps).2.1.bytes):=by
  rw[refs,leave_strElemList,hsrp,if_neg Bool.false_ne_true,refs,eraseP_map]
  rfl
 rw[hkeys,hrefs]
 refine hp.remove ?_ ?_
 · rw[keys,map_map]
   exact hown.addresses
 · rw[find?_keys]
   exact congrArg (Option.map key) hfirst

lemma client_of_allowed (hp:Paired (keys e) (refs e))
 (h':((findStream sid e).any fun ps=>decide (ps.clientHandle≠h))=false) : ∀k∈keys e,k.2.1=sid → k.2.2=h := by
 intro k hk hsid
 obtain ⟨ps,hps,rfl⟩:=mem_map.1 hk
 cases hfind:findStream sid e with
 | none=>exact absurd hsid (by simpa[key] using find?_eq_none.1 hfind ps hps)
 | some first=>
  have hstream:=find?_some hfind
  have hclient:first.clientHandle=h:=by simpa[hfind] using h'
  exact hclient▸hp.clients _ hk (key first) (mem_map_of_mem (mem_of_find?_eq_some hfind))
   (hsid.trans (of_decide_eq_true hstream).symm)

lemma paired_attach (hp:Paired (keys e) (refs e)) (hsrp:cfg.noSrp=false) (ld:Nat) :
 Paired (keys (openavbEptSrvrAttachStream cfg h streamID ld e).1)
  (refs (openavbEptSrvrAttachStream cfg h streamID ld e).1) := by
 simp only[openavbEptSrvrAttachStream,hsrp,Bool.false_eq_true,if_false]
 generalize fillMac cfg streamID=sid
 split_ifs with hrefused
 · exact hp
 have hany:(e.strElemList.any fun elem=>decide (elem.streamId=sid.bytes))=(findStream sid e).isSome:=by
  have hmem:(∃r∈refs e,r.2=sid.bytes) ↔ ∃k∈keys e,k.2.1.bytes=sid.bytes:=by
   simp[hp.refs,ref]
  simp only[refs,keys,key,mem_map,exists_exists_and_eq_and] at hmem
  rw[Bool.eq_iff_iff,any_eq_true,findStream,find?_isSome]
  simp only[decide_eq_true_eq]
  rw[hmem]
  exact exists_congr fun ps=>and_congr_right fun _=>⟨bytes_injective,congrArg _⟩
 cases hfind:findStream sid e with
 | some ps=>
  simp only[findOrAdd,hfind,openavbSrpAttachStream,hany,Option.isSome_some,if_true]
  exact hp
 | none=>
  have helems:(addStream h sid .listener e).1.strElemList=e.strElemList:=rfl
  simp only[findOrAdd,hfind,openavbSrpAttachStream,helems,hany,Option.isSome_none,Bool.false_eq_true,if_false]
  have hadd:=hp.append (client_of_allowed hp (by simpa using hrefused)) e.nextAddress
  simpa[keys,refs,addStream,key] using hadd

/-- Registrations are not refused, and MAAP does not move an address. -/
def Served (input:Outside×Handler) : Prop :=
 match input.2 with
 | .talkerRegister _ _ m=>Advertised input.1 m.srClass.toNat
 | .attachCb .. | .maapRestart ..=>False
 | _=>True

lemma paired_handle (hown:Owned e) (hp:Paired (keys e) (refs e)) (hsrp:cfg.noSrp=false)
 {input:Outside×Handler} (hserved:Served input) :
 Paired (keys (handle cfg input e)) (refs (handle cfg input e)) := by
 obtain ⟨o,handler⟩:=input
 cases handler with
 | talkerRegister h streamID m=>
  have hfresh:∀k∈keys e,k.1<e.nextAddress:=by
   intro k hk
   obtain ⟨ps,hps,rfl⟩:=mem_map.1 hk
   exact hown.fresh ps hps
  rcases @register_lists e cfg o h streamID m hsrp hserved hfresh _ rfl with
   ⟨hk,hr⟩ | ⟨hallowed,hk,hr⟩
  · exact hk.symm▸hr.symm▸hp
  · rw[handle,hk,hr]
    exact hp.append (client_of_allowed hp hallowed) _
 | listenerAttach h streamID ld=>exact paired_attach hp hsrp ld
 | clientStop h streamID=>
  simp only[handle,openavbEptSrvrStopStream]
  split
  · exact hp
  next ps hfound=>
   have hstream:=find?_some hfound
   split_ifs
   · exact hp
   · exact paired_leave hown hp hsrp (of_decide_eq_true hstream▸hfound)
 | closeClientConnection h=>
  simp only[handle,openavbEptSrvrCloseClientConnection]
  split
  · exact hp
  next ps hfound=>
   -- the first record of the client is the first of its stream: that has one client
   refine paired_leave hown hp hsrp (find?_eq_some_iff_append.2 ⟨decide_eq_true rfl,?_⟩)
   obtain ⟨hclient,a,b,hsplit,ha⟩:=find?_eq_some_iff_append.1 hfound
   refine ⟨a,b,hsplit,fun q hq=>?_⟩
   have hmem:∀x∈a++ps::b,key x∈keys e:=fun x hx=>mem_map_of_mem (hsplit▸hx)
   have hother:=ha q hq
   simp only[Bool.not_eq_true',decide_eq_false_iff_not,decide_eq_true_eq] at hother hclient ⊢
   exact fun hsame=>hother ((hp.clients (key q) (hmem q (mem_append_left _ hq)) (key ps)
    (hmem ps (by simp)) hsame).trans hclient)
 | attachCb address lsnrDecl=>exact hserved.elim
 | maapRestart slot addr=>exact hserved.elim

theorem srp_elements_live (cfg:Config) (inputs:List (Outside×Handler))
 (hserved:∀input∈inputs,Served input) :
 let e:=run (handle cfg) inputs .initial
 ∀elem∈e.strElemList,
  ∃ps∈e.streamList,ps.address=elem.avtpHandle ∧ ps.streamID.bytes=elem.streamId := by
 intro e elem helem
 cases hsrp:cfg.noSrp with
 | true=>
  rw[(kept_run cfg inputs).noSrp hsrp] at helem
  cases helem
 | false=>
  have hrun:Owned e ∧ Paired (keys e) (refs e):=
   (throughout_of_along (P:=fun e=>Owned e ∧ Paired (keys e) (refs e))
    (fun input e hinput h=>⟨owned_handle h.1 cfg input,paired_handle h.1 h.2 hsrp hinput⟩)
    ⟨owned_initial,rfl,nofun⟩ (along_iff_forall.2 hserved)).last
  have href:(elem.avtpHandle,elem.streamId)∈refs e:=mem_map_of_mem helem
  rw[hrun.2.refs,keys,map_map] at href
  obtain ⟨ps,hps,heq⟩:=mem_map.1 href
  exact ⟨ps,hps,Prod.mk.inj heq⟩

def servedRun : List (Outside×Handler) := [.talkerRegister 5 ⟨1,1⟩ exampleRegister,
  .talkerRegister 5 ⟨1,2⟩ exampleRegister,.listenerAttach 6 ⟨1,3⟩ ldStReady,
  .clientStop 5 ⟨1,1⟩,.closeClientConnection 6].map fun handler=>(exampleOutside,handler)

theorem srp_elements_live_served : let e:=run (handle ⟨false,1⟩) servedRun .initial
 e.strElemList.map StrElem.avtpHandle=[1] ∧ ∀elem∈e.strElemList,
  ∃ps∈e.streamList,ps.address=elem.avtpHandle ∧ ps.streamID.bytes=elem.streamId := by
 have hregistered:Advertised exampleOutside exampleRegister.srClass.toNat:=⟨rfl,rfl⟩
 refine ⟨by decide +kernel,srp_elements_live ⟨false,1⟩ servedRun ?_⟩
 simp[servedRun,Served,hregistered]

/-- mrpd refuses the first registration: the record goes, the element stays. -/
theorem refused_element_dangles :
 let e:=run (handle ⟨false,1⟩)
  [({exampleOutside with advertiseFails:=true},.talkerRegister 5 ⟨1,1⟩ exampleRegister)] .initial
 e.strElemList.map StrElem.avtpHandle=[0] ∧ e.streamList.length=0 := by
 decide +kernel

end OpenAvnu.EndpointSrp
