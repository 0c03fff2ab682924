import OpenAvnu.MrpNotices

/-!
# Commands of the endpoint to mrpd

What `mrp_client.c` builds and `msrp_recv_cmd` makes of it.
-/

namespace OpenAvnu.MrpRequests

open CText Parse Mrp Msrp MsrpCommands MsrpText MrpNotices List

/-- The integers are `int`. -/
def streamText (command:List Char) (streamid:BitVec 64) (destaddr:BitVec 48) (vlan:BitVec 16)
 (pktsz interval priority latency:BitVec 32) : List Char :=
 datagram (command++['S','=']++hex64 true streamid++[',','A','=']++hex48 true destaddr++
  [',','V','=']++formatHex true 4 vlan.toNat++[',','Z','=']++formatDec pktsz.toInt++
  [',','I','=']++formatDec interval.toInt++[',','P','=']++formatDec (priority <<< 5).toInt++
  [',','L','=']++formatDec latency.toInt)

def mrpAdvertiseStream := streamText ['S','+','+',':']
def mrpUnadvertiseStream := streamText ['S','-','-',':']
def mrpRegisterDomain (classId priority:BitVec 32) (vid:BitVec 16) : List Char :=
 datagram (['S','+','D',':','C','=']++formatDec classId.toInt++
  [',','P','=']++formatDec priority.toInt++[',','V','=']++formatHex false 4 vid.toNat)
def mrpSendReady (streamId:BitVec 64) : List Char :=
 datagram (['S','+','L',':','L','=']++hex64 false streamId++[',',' ','D','=','2'])
def mrpSendLeave (streamId:BitVec 64) : List Char :=
 datagram (['S','-','L',':','L','=']++hex64 false streamId++[',',' ','D','=','3'])

variable {head text:List Char} {least:Nat} (upper:Bool) (x:BitVec 64) (t:TalkListen)
 (streamId:BitVec 64)

lemma cmdParams_datagram (hleast:least ≤ maxMrpdCmdsz) (specs:List ParseParam)
 (hhead:head.length=4) (hplain:Plain text) (hlen:text.length<1000) :
 cmdParams least specs (datagram (head++text))=parseParams specs text := by
 have hzeros:maxMrpdCmdsz-(head++text).length=(maxMrpdCmdsz-(head++text).length-1) +
   1:=by
  simp only[length_append,maxMrpdCmdsz]
  omega
 have hlong:¬(datagram (head++text)).length<least:=by
  simp only[datagram,length_append,length_replicate]
  omega
 have hdrop:(datagram (head++text)).drop 4=
  text++replicate (maxMrpdCmdsz-(head++text).length-1+1) (Char.ofNat 0):=by
  rw[datagram,←hzeros,append_assoc,drop_left' hhead]
 rw[cmdParams,if_neg hlong,hdrop,parse,if_pos (by simp),cString_append fun c hc=>(hplain c hc).2]

lemma comma_not_mem_hexText (bytes:List UInt8) : delimiter∉hexText upper bytes :=
 fun hc=>of_mem_hexText (P:=fun x=>x≠delimiter)
  ((show ∀u:Bool,∀d<16,digitChar u d≠delimiter by decide) upper) bytes _ hc rfl
lemma comma_not_mem_formatHex (width n:Nat) : delimiter∉formatHex upper width n :=
 fun hc=>of_mem_formatHex (P:=fun x=>x≠delimiter)
  ((show ∀u:Bool,∀d<16,digitChar u d≠delimiter by decide) upper) width n _ hc rfl
lemma comma_not_mem_formatDec (n:Int) : delimiter∉formatDec n := not_mem_formatDec (by decide) (by decide) n
lemma convert_c64 : convert .c64 (hex64 upper x)=some x.toNat := by
 exact convert_bytes (k:=8) (by decide) rfl (by decide) upper x
lemma convert_mac (x:BitVec 48) : convert .mac (hex48 upper x)=some x.toNat := by
 exact convert_bytes (k:=6) (by decide) rfl (by decide) upper x
lemma convert_u16 (x:BitVec 16) : convert .u16 (formatDec x.toNat)=some x.toNat := by
 rw[convert,stored_dec]
 simp
lemma convert_u8 (x:BitVec 8) : convert .u8 (formatDec x.toNat)=some x.toNat := by
 rw[convert,stored_dec]
 simp
lemma convert_u32 (x:BitVec 32) : convert .u32 (formatDec x.toInt)=some x.toNat := by
 rw[convert,stored_dec]
 simp

lemma talkerText_eq : talkerText upper t=
  ['S','=']++hex64 upper t.streamId++delimiter::(['A','=']++hex48 upper t.destAddr++
   delimiter::(['V','=']++formatHex upper 4 t.vlanId.toNat++
    delimiter::(['Z','=']++formatDec t.maxFrameSize.toNat++
     delimiter::(['I','=']++formatDec t.maxIntervalFrames.toNat++
      delimiter::(['P','=']++formatDec t.priorityAndRank.toNat++
       delimiter::(['L','=']++formatDec t.accumulatedLatency.toInt)))))) := by
 simp[talkerText,delimiter]

lemma comma_not_mem_hex64 : delimiter∉hex64 upper x := comma_not_mem_hexText upper _
lemma comma_not_mem_hex48 (x:BitVec 48) : delimiter∉hex48 upper x := comma_not_mem_hexText upper _

lemma parseParams_talkerText : parseParams talkerSpecs (talkerText upper t)=
  some [t.streamId.toNat,t.destAddr.toNat,t.vlanId.toNat,t.maxFrameSize.toNat,
   t.maxIntervalFrames.toNat,t.priorityAndRank.toNat,t.accumulatedLatency.toNat] := by
 rw[talkerText_eq,talkerSpecs,parseParams_next (by simp) (comma_not_mem_hex64 upper _) (convert_c64 upper _),
  parseParams_next (by simp) (comma_not_mem_hex48 upper _) (convert_mac upper _),
  parseParams_next (by simp) (comma_not_mem_formatHex upper 4 _) (convert_hex upper _),
  parseParams_next (by simp) (comma_not_mem_formatDec _) (convert_u16 _),
  parseParams_next (by simp) (comma_not_mem_formatDec _) (convert_u16 _),
  parseParams_next (by simp) (comma_not_mem_formatDec _) (convert_u8 _),
  parseParams_last (by simp) (comma_not_mem_formatDec _) (convert_u32 _)]
 rfl

lemma strstr_talkerText (hhead: '='∉head) (upper:Bool) (t:TalkListen) :
 strstr ['B','='] (head++talkerText upper t)=none := by
 have hhex:∀bytes,'='∉hexText upper bytes:=fun bytes hc=>
  of_mem_hexText (P:=fun x=>x ≠ '=')
   ((show ∀u:Bool,∀d<16,digitChar u d ≠ '=' by decide) upper) bytes _ hc rfl
 have hvlan: '='∉formatHex upper 4 t.vlanId.toNat:=fun hc=>
  of_mem_formatHex (P:=fun x=>x ≠ '=')
   ((show ∀u:Bool,∀d<16,digitChar u d ≠ '=' by decide) upper) _ _ _ hc rfl
 have hdec:∀n,'='∉formatDec n:=not_mem_formatDec (by decide) (by decide)
 -- between the fields stand tags, none of which is a B
 have htag:∀(tag:Char) (rest:List Char),tag ≠ 'B' →
  strstr ['B','='] (',' :: tag :: '=' :: rest)=strstr ['B','='] rest:=by
  intro tag rest htag
  simp[strstr,htag]
 have hfirst:∀rest,strstr ['B','='] ('S' :: '=' :: rest)=strstr ['B','='] rest:=by
  simp[strstr]
 have hlast:strstr ['B','='] (formatDec t.accumulatedLatency.toInt)=none:=by
  have hskip:=strstr_pair_skip (a:= 'B') (t:=[]) (hdec t.accumulatedLatency.toInt) (by simp)
  rw[append_nil] at hskip
  rw[hskip]
  rfl
 simp only[talkerText,hex64,hex48,append_assoc,cons_append,nil_append]
 rw[strstr_pair_skip hhead (by simp),hfirst,strstr_pair_skip (hhex _) (by simp),
  htag 'A' _ (by decide),strstr_pair_skip (hhex _) (by simp),htag 'V' _ (by decide),
  strstr_pair_skip hvlan (by simp),htag 'Z' _ (by decide),strstr_pair_skip (hdec _) (by simp),
  htag 'I' _ (by decide),strstr_pair_skip (hdec _) (by simp),htag 'P' _ (by decide),
  strstr_pair_skip (hdec _) (by simp),htag 'L' _ (by decide),hlast]

/-- What the endpoint asks for, with values that fit their fields in MSRP. -/
inductive Request where
 | advertiseStream (streamid:BitVec 64) (destaddr:BitVec 48) (vlan pktsz interval:BitVec 16)
  (priority:Fin 8) (latency:BitVec 32)
 | unadvertiseStream (streamid:BitVec 64) (destaddr:BitVec 48) (vlan pktsz interval:BitVec 16)
  (priority:Fin 8) (latency:BitVec 32)
 | registerDomain (classId priority:BitVec 8) (vid:BitVec 16)
 | sendReady (streamId:BitVec 64)
 | sendLeave (streamId:BitVec 64)

def Request.sent : Request → List Char
 | .advertiseStream streamid destaddr vlan pktsz interval priority latency=>
  mrpAdvertiseStream streamid destaddr vlan (pktsz.setWidth 32) (interval.setWidth 32)
   (BitVec.ofNat 32 priority) latency
 | .unadvertiseStream streamid destaddr vlan pktsz interval priority latency=>
  mrpUnadvertiseStream streamid destaddr vlan (pktsz.setWidth 32) (interval.setWidth 32)
   (BitVec.ofNat 32 priority) latency
 | .registerDomain classId priority vid=>
  mrpRegisterDomain (classId.setWidth 32) (priority.setWidth 32) vid
 | .sendReady streamId=>mrpSendReady streamId
 | .sendLeave streamId=>mrpSendLeave streamId

def Request.event : Request → Event
 | .advertiseStream ..=>.NEW
 | .unadvertiseStream ..=>.LV
 | .registerDomain ..=>.JOIN
 | .sendReady _=>.NEW
 | .sendLeave _=>.LV

def Request.Means (v:MsrpValue) : Request → Prop
 | .advertiseStream streamid destaddr vlan pktsz interval priority latency=>
  v.type=.talkerAdv ∧ v.talkListen.streamId=streamid ∧ v.talkListen.destAddr=destaddr ∧
   v.talkListen.vlanId=vlan ∧ v.talkListen.maxFrameSize=pktsz ∧
   v.talkListen.maxIntervalFrames=interval ∧
   v.talkListen.priorityAndRank.toNat=priority*32 ∧
   v.talkListen.accumulatedLatency=latency
 | .unadvertiseStream streamid _ _ _ _ _ _=>v.type=.talkerAdv ∧ v.talkListen.streamId=streamid
 | .registerDomain classId priority vid=>
  v.type=.domain ∧ v.domain.srClassId=classId ∧ v.domain.srClassPriority=priority ∧
   v.domain.srClassVid=vid
 | .sendReady streamId=>v.type=.listener ∧ v.talkListen.streamId=streamId ∧ v.substate=2
 | .sendLeave streamId=>v.type=.listener ∧ v.talkListen.streamId=streamId

def Request.command : Request → Command
 | .advertiseStream streamid destaddr vlan pktsz interval priority latency=>
  .joinOrNewStream true false
   ⟨streamid,destaddr,vlan,pktsz,interval,BitVec.ofNat 8 (priority*32),latency,0,0⟩
 | .unadvertiseStream streamid _ _ _ _ _ _=>.leaveStream streamid
 | .registerDomain classId priority vid=>.reportDomainStatus true classId priority vid
 | .sendReady streamId=>.reportListenerStatus streamId 2
 | .sendLeave streamId=>.withdrawListenerStatus streamId

lemma toInt_setWidth {w:Nat} (hw:w<32) (x:BitVec w) : (x.setWidth 32).toInt=x.toNat := by
 have hlt:x.toNat<2^31:=x.isLt.trans_le (Nat.pow_le_pow_right (by decide) (by omega))
 have hwide:(x.setWidth 32).toNat=x.toNat:=by
  rw[BitVec.toNat_setWidth,Nat.mod_eq_of_lt (by omega)]
 rw[BitVec.toInt_eq_toNat_of_lt (by omega),hwide]

lemma streamText_eq (command:List Char) (streamid:BitVec 64) (destaddr:BitVec 48)
 (vlan pktsz interval:BitVec 16) (priority:Fin 8) (latency:BitVec 32) :
 streamText command streamid destaddr vlan (pktsz.setWidth 32) (interval.setWidth 32)
  (BitVec.ofNat 32 priority) latency=datagram (command++talkerText true
   ⟨streamid,destaddr,vlan,pktsz,interval,BitVec.ofNat 8 (priority*32),latency,0,0⟩) := by
 have hrank:∀p:Fin 8,(BitVec.ofNat 32 p <<< 5).toInt=(BitVec.ofNat 8 (p*32)).toNat:=by
  decide
 simp only[streamText,talkerText,toInt_setWidth (show 16<32 by decide),hrank,append_assoc]

lemma plain_talkerText : Plain (talkerText upper t) := by
 simp[talkerText,hex64,hex48]
lemma cString_datagram (hplain:Plain text) (hlen:text.length<1000) : cString (datagram text)=text := by
 obtain ⟨zeros,hzeros⟩:∃zeros,maxMrpdCmdsz-text.length=zeros+1:=
  ⟨maxMrpdCmdsz-text.length-1,by rw[maxMrpdCmdsz];omega⟩
 rw[datagram,hzeros,cString_append fun c hc=>(hplain c hc).2]

lemma parseCmd_advertise : parseCmd (datagram (['S','+','+',':']++talkerText true t))=
  some (.joinOrNewStream true false {t with bridgeId:=0,failureCode:=0}) := by
 have hlen:=talkerText_length true t
 have hplain:=plain_talkerText true t
 have hparams:=cmdParams_datagram (show 22 ≤ maxMrpdCmdsz by decide) talkerSpecs
  (show ['S','+','+',':'].length=4 from rfl) hplain (by omega)
 have htext:cString (datagram (['S','+','+',':']++talkerText true t))=['S','+','+',':']++talkerText true t:=by
  apply cString_datagram
  · simp[hplain]
  · simp only[length_append,length_cons,length_nil]
    omega
 have htake:(datagram (['S','+','+',':']++talkerText true t)).take 3=['S','+','+']:=rfl
 simp only[parseCmd,htake,htext,strstr_talkerText (show '='∉['S','+','+',':'] by decide),
  msrpCmdParseJoinOrNewStream,hparams,parseParams_talkerText]
 simp[talkerParam]

lemma parseCmd_unadvertise :
 parseCmd (datagram (['S','-','-',':']++talkerText true t))=some (.leaveStream t.streamId)
   := by
 have hlen:=talkerText_length true t
 have hparams:=cmdParams_datagram (show 22 ≤ maxMrpdCmdsz by decide) [⟨['S','='],.c64⟩]
  (show ['S','-','-',':'].length=4 from rfl) (plain_talkerText true t) (by omega)
 have htake:(datagram (['S','-','-',':']++talkerText true t)).take 3=['S','-','-']:=rfl
 have hfirst:parseParams [⟨['S','='],.c64⟩] (talkerText true t)=some [t.streamId.toNat]:=by
  rw[talkerText_eq,parseParams_next (by simp) (comma_not_mem_hex64 true _) (convert_c64 true _)]
  rfl
 simp only[parseCmd,htake,msrpCmdParseLeaveStream,hparams,hfirst]
 simp

lemma parseCmd_domain (classId priority:BitVec 8) (vid:BitVec 16) :
 parseCmd (mrpRegisterDomain (classId.setWidth 32) (priority.setWidth 32) vid)=
  some (.reportDomainStatus true classId priority vid) := by
 have h1:=formatDec_natCast_length 2 (by decide) classId
 have h2:=formatDec_natCast_length 2 (by decide) priority
 have h3:(formatHex false 4 vid.toNat).length=4:=
  formatHex_length false 3 (by simpa using vid.isLt)
 have htext:mrpRegisterDomain (classId.setWidth 32) (priority.setWidth 32) vid=
  datagram (['S','+','D',':']++(['C','=']++formatDec classId.toNat++delimiter ::
   (['P','=']++formatDec priority.toNat++delimiter ::
    (['V','=']++formatHex false 4 vid.toNat)))):=by
  simp[mrpRegisterDomain,toInt_setWidth (show 8<32 by decide),delimiter]
 have hparams:=cmdParams_datagram (show 18 ≤ maxMrpdCmdsz by decide)
  [⟨['C','='],.u8⟩,⟨['P','='],.u8⟩,⟨['V','='],.u16_04x⟩]
  (show ['S','+','D',':'].length=4 from rfl)
  (show Plain (['C','=']++formatDec classId.toNat++delimiter ::
   (['P','=']++formatDec priority.toNat++delimiter ::
    (['V','=']++formatHex false 4 vid.toNat))) by simp[delimiter])
  (by simp only[length_append,length_cons,length_nil];omega)
 rw[parseParams_next (by simp) (comma_not_mem_formatDec _) (convert_u8 _),
  parseParams_next (by simp) (comma_not_mem_formatDec _) (convert_u8 _),
  parseParams_last (by simp) (comma_not_mem_formatHex false 4 _) (convert_hex false _)] at hparams
 rw[htext]
 set buf:=datagram (['S','+','D',':']++(['C','=']++formatDec classId.toNat++delimiter ::
  (['P','=']++formatDec priority.toNat++delimiter ::
   (['V','=']++formatHex false 4 vid.toNat)))) with hbuf
 have htake:buf.take 3=['S','+','D']:=rfl
 simp only[parseCmd,htake,msrpCmdParseDomainStatus,hparams]
 simp

lemma cmdParams_listener (hleast:least ≤ maxMrpdCmdsz) (specs:List ParseParam)
 (hhead:head.length=4) (streamId:BitVec 64) {digit:Char}
 (hdigit:digit ≠ '\n' ∧ digit≠Char.ofNat 0) : cmdParams least (⟨['L','='],.c64⟩::specs)
  (datagram (head++(['L','=']++hex64 false streamId++[',',' ','D','=',digit])))=
  (parseParams specs [' ','D','=',digit]).map fun vs=>streamId.toNat::vs := by
 have hlen:=hex64_length false streamId
 have hplain:Plain (['L','=']++hex64 false streamId++[',',' ','D','=',digit]):=by
  simp[hex64,hdigit]
 rw[cmdParams_datagram hleast _ hhead hplain (by simp[hlen])]
 exact parseParams_next (by simp) (comma_not_mem_hex64 false _) (convert_c64 false _) _

lemma parseCmd_ready : parseCmd (mrpSendReady streamId)=some (.reportListenerStatus streamId 2) := by
 have hparams:=cmdParams_listener (show 26 ≤ maxMrpdCmdsz by decide) [⟨['D','='],.u32⟩]
  (show ['S','+','L',':'].length=4 from rfl) streamId (show '2' ≠ '\n' ∧ '2' ≠ Char.ofNat 0 by decide)
 have hdecl:parseParams [⟨['D','='],.u32⟩] [' ','D','=','2']=some [2]:=by decide
 have htake:(mrpSendReady streamId).take 3=['S','+','L']:=rfl
 have htext:mrpSendReady streamId=
  datagram (['S','+','L',':']++(['L','=']++hex64 false streamId++[',',' ','D','=',
    '2'])):=
  rfl
 rw[hdecl,←htext] at hparams
 simp only[parseCmd,htake,msrpCmdParseReportListenerStatus,hparams]
 simp

lemma parseCmd_leave : parseCmd (mrpSendLeave streamId)=some (.withdrawListenerStatus streamId) := by
 have hparams:=cmdParams_listener (show 22 ≤ maxMrpdCmdsz by decide) []
  (show ['S','-','L',':'].length=4 from rfl) streamId (show '3' ≠ '\n' ∧ '3' ≠ Char.ofNat 0 by decide)
 have htake:(mrpSendLeave streamId).take 3=['S','-','L']:=rfl
 have htext:mrpSendLeave streamId=
  datagram (['S','-','L',':']++(['L','=']++hex64 false streamId++[',',' ','D','=',
    '3'])):=
  rfl
 rw[←htext] at hparams
 simp only[parseCmd,htake,msrpCmdParseWithdrawListenerStatus,hparams,parseParams]
 simp

lemma parseCmd_sent (r:Request) : parseCmd r.sent=some r.command := by
 cases r with
 | advertiseStream streamid destaddr vlan pktsz interval priority latency=>
  rw[Request.sent,mrpAdvertiseStream,streamText_eq,parseCmd_advertise]
  rfl
 | unadvertiseStream streamid destaddr vlan pktsz interval priority latency=>
  rw[Request.sent,mrpUnadvertiseStream,streamText_eq,parseCmd_unadvertise]
  rfl
 | registerDomain classId priority vid=>exact parseCmd_domain classId priority vid
 | sendReady streamId=>exact parseCmd_ready streamId
 | sendLeave streamId=>exact parseCmd_leave streamId

theorem request_understood (station:BitVec 48) (p2pmac:Nat) (client:Client)
 {db:MsrpDatabase}
 (hpruning:db.interest.enablePruning=false) (r:Request) :
 let received:=msrpRecvText station p2pmac client r.sent db
 received.accepted=true ∧ ∃v,received.events=[(r.event,v)] ∧ r.Means v ∧
  received.db=commandEvent station p2pmac r.event v
   {db with clients:=clientAdd client db.clients} := by
 have hreceived:msrpRecvText station p2pmac client r.sent db=
  ⟨!refused r.command {db with clients:=clientAdd client db.clients},
   raised r.command {db with clients:=clientAdd client db.clients},
   runCommand station p2pmac r.command {db with clients:=clientAdd client db.clients}⟩:=by
  simp[msrpRecvText,hpruning,parseCmd_sent]
 have hkept:({db with clients:=clientAdd client db.clients} :
   MsrpDatabase).interest.enablePruning=false:=hpruning
 have hrun:=runCommand_raised station p2pmac hkept r.command (by cases r<;>simp
   [Request.command])
 simp only[hreceived,hrun]
 cases r with
 | advertiseStream streamid destaddr vlan pktsz interval priority latency=>
  refine ⟨rfl,_,rfl,⟨rfl,rfl,rfl,rfl,rfl,rfl,?_,rfl⟩,rfl⟩
  exact Nat.mod_eq_of_lt (show priority.val*32<2^8 by omega)
 | unadvertiseStream streamid destaddr vlan pktsz interval priority latency=>
  exact ⟨rfl,_,rfl,⟨rfl,rfl⟩,rfl⟩
 | registerDomain classId priority vid=>exact ⟨rfl,_,rfl,⟨rfl,rfl,rfl,rfl⟩,rfl⟩
 | sendReady streamId=>exact ⟨rfl,_,rfl,⟨rfl,rfl,rfl⟩,rfl⟩
 | sendLeave streamId=>
  refine ⟨rfl,_,rfl,?_,rfl⟩
  simp only[withdrawnListener]
  split<;>exact ⟨rfl,rfl⟩

def exampleRequest : Request := .advertiseStream 0xABCDEF00000BAD0F 0x91E0F0000ABE 0x0B0A 1480 16 7 0xFFFFFFFF

theorem example_request_understood :
 (msrpRecvText 0x0007EA123456 0 ⟨0x7F000001,40000⟩ exampleRequest.sent (msrpInit 8 false)).accepted=true ∧
  ∃v,(msrpRecvText 0x0007EA123456 0 ⟨0x7F000001,40000⟩ exampleRequest.sent
   (msrpInit 8 false)).events=[(.NEW,v)] ∧ exampleRequest.Means v := by
 obtain ⟨haccepted,v,hevents,hmeans,-⟩:=request_understood 0x0007EA123456 0 ⟨0x7F000001,40000⟩
  (show (msrpInit 8 false).interest.enablePruning=false from rfl) exampleRequest
 exact ⟨haccepted,v,hevents,hmeans⟩

end OpenAvnu.MrpRequests
