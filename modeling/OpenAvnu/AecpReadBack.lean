import OpenAvnu.AecpOwner

/-!
# Reading back what was set

SET_STREAM_INFO sends the values to the talker, whose answer changes what is reported.
-/

namespace OpenAvnu.Aecp

open List AemStreamIo

/-- The configuration of a talker; a value that was set over keeps the one before as backup. -/
structure TalkerCfg where
 streamId:BitVec 64
 destAddr:BitVec 48
 vlanId:BitVec 16
 backupStreamId:Option (BitVec 64)
 backupDestAddr:Option (BitVec 48)
 backupVlanId:BitVec 16
 backupVlanIdValid:Bool

/-- Zero restores the backup. -/
def setOver {w:Nat} (value:Option (BitVec w)) (current:BitVec w) (backup:Option (BitVec w))
 : BitVec w×Option (BitVec w) :=
 match value with
 | none=>(current,backup)
 | some value=>
  if value=0 then
   match backup with
   | some old=>(old,none)
   | none=>(current,none)
  else (value,some (backup.getD current))

/-- `openavbAvdeccMsgClntHndlTalkerStreamIDFromServer`.  The backup of the VLAN id is not written. -/
def talkerStreamIDFromServer (streamId:Option (BitVec 64)) (streamDest:Option (BitVec 48))
 (streamVlanId:Option (BitVec 16)) (cfg:TalkerCfg) : TalkerCfg :=
 let id:=setOver streamId cfg.streamId cfg.backupStreamId
 let dest:=setOver streamDest cfg.destAddr cfg.backupDestAddr
 let cfg:={cfg with
  streamId:=id.1, backupStreamId:=id.2, destAddr:=dest.1, backupDestAddr:=dest.2}
 match streamVlanId with
 | none=>cfg
 | some value=>
  if value≠0 then {cfg with vlanId:=value,backupVlanIdValid:=true}
  else if cfg.backupVlanIdValid then
   {cfg with vlanId:=cfg.backupVlanId,backupVlanIdValid:=false}
  else cfg

/-- `openavbAvdeccMsgClntTalkerStreamID`, as `openavbAvdeccMsgSrvrHndlTalkerStreamIDFromClient`
takes it over. -/
def talkerStreamIDFromClient (cfg:TalkerCfg) (stream:Stream) : Stream :=
 {stream with
   streamAddr:=some (cfg.streamId.extractLsb' 16 48)
   streamUid:=cfg.streamId.extractLsb' 0 16
   destAddr:=some cfg.destAddr
   vlanId:=if cfg.vlanId=0 then 2 else cfg.vlanId}

def Entity.answered (cfg:TalkerCfg) (e:Entity) : Request → Entity
 | .talkerStreamID index _ streamId streamDest streamVlanId=>
  {e with descriptors:={e.descriptors with
    streamOutputs:=e.descriptors.streamOutputs.modify index.toNat fun io=>{io with
     stream:=io.stream.map (talkerStreamIDFromClient
      (talkerStreamIDFromServer streamId streamDest streamVlanId cfg))}}}
 | .change ..=>e

variable {d:DescriptorId} {e:Entity} {info asked:StreamInfo}

structure Reports (info rsp:StreamInfo) : Prop where
 streamId:info.has flagStreamIdValid → rsp.has flagStreamIdValid ∧ rsp.streamId=info.streamId
 streamDestMac:info.has flagStreamDestMacValid →
  rsp.has flagStreamDestMacValid ∧ rsp.streamDestMac=info.streamDestMac
 streamVlanId:info.has flagStreamVlanIdValid →
  rsp.has flagStreamVlanIdValid ∧ rsp.streamVlanId=info.streamVlanId

/-- Two bytes of the talker's, its bytes 3 to 6, and the last two of the GET_STREAM_INFO command. -/
def shownId (streamId asked:BitVec 64) : BitVec 64 :=
 streamId.extractLsb' 0 16++(streamId.extractLsb' 16 48).extractLsb' 0 32++asked.extractLsb' 0 16

/-- What the talker uses then: of the values set, the stream id is what stands in the stream format. -/
def nextId (cfg:TalkerCfg) (info:StreamInfo) : BitVec 64 :=
 if !info.has flagStreamIdValid then cfg.streamId
 else if info.streamFormat=0 then cfg.backupStreamId.getD cfg.streamId else info.streamFormat

/-- An address of zero is read back if the one that it restores is zero. -/
structure Readable (cfg:TalkerCfg) (info asked:StreamInfo) : Prop where
 streamId:info.has flagStreamIdValid →
  info.streamId≠0 ∧ info.streamId=shownId (nextId cfg info) asked.streamId
 streamDestMac:info.has flagStreamDestMacValid →
  (shownId (nextId cfg info) asked.streamId).extractLsb' 16 48≠0 ∧
   (info.streamDestMac=0 → cfg.backupDestAddr.getD cfg.destAddr=0)
 streamVlanId:info.has flagStreamVlanIdValid → info.streamVlanId≠0

@[simp] lemma setIf_streamId (info:StreamInfo) (b:Bool) (flag:BitVec 32) :
 (info.setIf b flag).streamId=info.streamId := by cases b<;>rfl
@[simp] lemma setIf_streamDestMac (info:StreamInfo) (b:Bool) (flag:BitVec 32) :
 (info.setIf b flag).streamDestMac=info.streamDestMac := by cases b<;>rfl
@[simp] lemma setIf_flags (info:StreamInfo) (b:Bool) (flag:BitVec 32) :
 (info.setIf b flag).flags=info.flags ||| if b then flag else 0 := by cases b<;>simp[StreamInfo.setIf,StreamInfo.set]

variable {cfg:TalkerCfg} (stream:Stream) {rsp:StreamInfo} {io:StreamIo}

lemma talkerStreamInfo_spec (hid:rsp.has flagStreamIdValid=false)
 (hdest:rsp.has flagStreamDestMacValid=false) :
 let r:=talkerStreamInfo (talkerStreamIDFromClient cfg stream) rsp
 r.streamId=shownId cfg.streamId rsp.streamId ∧ r.has flagStreamIdValid=decide (r.streamId≠0) ∧
 r.streamDestMac=cfg.destAddr ∧ r.has flagStreamDestMacValid=decide (r.streamId.extractLsb' 16 48≠0) ∧
 r.streamVlanId=(if cfg.vlanId=0 then 2 else cfg.vlanId) ∧ r.has flagStreamVlanIdValid=true := by
 intro r
 have hvlan:(talkerStreamIDFromClient cfg stream).vlanId≠0:=by
  rw[talkerStreamIDFromClient]
  dsimp only
  split_ifs with h
  · decide
  · exact h
 have hid:rsp.flags &&& flagStreamIdValid=0:=by simpa[StreamInfo.has] using hid
 have hdest:rsp.flags &&& flagStreamDestMacValid=0:=by simpa[StreamInfo.has] using hdest
 have hr:r.streamId=shownId cfg.streamId rsp.streamId ∧ r.streamDestMac=cfg.destAddr ∧
  r.streamVlanId=(if cfg.vlanId=0 then 2 else cfg.vlanId) ∧
  r.flags=(rsp.flags ||| (if shownId cfg.streamId rsp.streamId=0 then 0 else flagStreamIdValid)) |||
   (if (shownId cfg.streamId rsp.streamId).extractLsb' 16 48=0 then 0 else flagStreamDestMacValid) |||
   flagStreamVlanIdValid:=by
  simp only[r]
  rw[talkerStreamInfo,if_pos hvlan]
  simp[talkerStreamIDFromClient,StreamInfo.set,StreamInfo.sourceSet,shownId]
  rfl
 obtain ⟨hstream,hmac,hvlanId,hflags⟩:=hr
 refine ⟨hstream,?_,hmac,?_,hvlanId,?_⟩
 all_goals
  rw[StreamInfo.has,hflags,BitVec.and_or_distrib_right,BitVec.and_or_distrib_right,BitVec.and_or_distrib_right]
  try rw[hstream]
  try rw[hid]
  try rw[hdest]
  split_ifs<;>simp_all[flagStreamIdValid,flagStreamDestMacValid,flagStreamVlanIdValid]

def talkerMessage (d:DescriptorId) (info:StreamInfo) : Request :=
 .talkerStreamID d.descriptorIndex (info.has flagClassB)
  (if info.has flagStreamIdValid then some info.streamFormat else none)
  (if info.has flagStreamDestMacValid then some info.streamDestMac else none)
  (if info.has flagStreamVlanIdValid then some info.streamVlanId else none)

variable {env:Env} {m:AEMCommandResponse}

lemma setTalkerStreamInfo_sent (h:(openavbAVDECCSetTalkerStreamInfo env d info io).1=true) :
 (openavbAVDECCSetTalkerStreamInfo env d info io).2=[talkerMessage d info] ∧
 ∃stream,io.stream=some stream := by
 have heq:openavbAVDECCSetTalkerStreamInfo env d info io=
  if (io.stream.bind Stream.client).isSome&&env.delivered then (true,[talkerMessage d info])
  else (false,[]):=rfl
 rw[heq] at h ⊢
 split_ifs at h ⊢ with hclient
 cases hstream:io.stream with
 | none=>simp[hstream] at hclient
 | some stream=>exact ⟨rfl,stream,rfl⟩

lemma setStreamInfo_success (hd:d.descriptorType=descriptorStreamOutput)
 (h:(setStreamInfo env m d info e).1=.success) : (setStreamInfo env m d info e).2.2=[talkerMessage d info] ∧
 ∃io stream,e.descriptors.streamIo d=some io ∧ io.stream=some stream ∧
  (openavbAVDECCGetStreamingState io).isRunning=false := by
 have hinput:d.descriptorType≠descriptorStreamInput:=by
  rw[hd]
  decide
 unfold setStreamInfo at h ⊢
 split_ifs at h ⊢ with _ hidle
 cases hio:e.descriptors.streamIo d with
 | none=>
  rw[hio] at h
  cases h
 | some io=>
  rw[hio] at h
  simp only[setStreamInfoOf,if_neg hinput] at h ⊢
  split_ifs at h ⊢ with _ hsent
  obtain ⟨hmessage,stream,hstream⟩:=setTalkerStreamInfo_sent hsent
  exact ⟨hmessage,io,stream,rfl,hstream,by simpa[processCommandCheckRestrictionStreamNotRunning,hio] using hidle⟩

def Stream.answered (cfg:TalkerCfg) (info:StreamInfo) (stream:Stream) : Stream :=
 talkerStreamIDFromClient (talkerStreamIDFromServer
  (if info.has flagStreamIdValid then some info.streamFormat else none)
  (if info.has flagStreamDestMacValid then some info.streamDestMac else none)
  (if info.has flagStreamVlanIdValid then some info.streamVlanId else none) cfg) stream

lemma streamIo_answered (hd:d.descriptorType=descriptorStreamOutput) {stream:Stream}
 (hio:e.descriptors.streamIo d=some io) (hstream:io.stream=some stream) (cfg:TalkerCfg) :
 (e.answered cfg (talkerMessage d info)).descriptors.streamIo d=
  some {io with stream:=some (stream.answered cfg info)} := by
 have hinput:descriptorStreamOutput≠descriptorStreamInput:=by decide
 simp only[Descriptors.streamIo,hd,if_neg hinput,if_true] at hio ⊢
 simp only[Entity.answered,talkerMessage,getElem?_modify_eq,hio]
 simp only[Option.map_eq_map,Option.map_some,hstream]
 rfl

lemma fromServer_set (id:Option (BitVec 64)) (dest:Option (BitVec 48))
 (vlan:Option (BitVec 16)) (cfg:TalkerCfg) : (talkerStreamIDFromServer id dest vlan cfg).streamId=
  (setOver id cfg.streamId cfg.backupStreamId).1 ∧
 (talkerStreamIDFromServer id dest vlan cfg).destAddr=(setOver dest cfg.destAddr cfg.backupDestAddr).1 := by
 cases vlan with
 | none=>exact ⟨rfl,rfl⟩
 | some value=>
  simp only[talkerStreamIDFromServer]
  split_ifs<;>exact ⟨rfl,rfl⟩

lemma setOver_some {w:Nat} (value current:BitVec w) (backup:Option (BitVec w)) :
 (setOver (some value) current backup).1=if value=0 then backup.getD current else value := by
 cases backup<;>simp only[setOver]<;>split_ifs<;>rfl

lemma fromServer_values (cfg:TalkerCfg) (info:StreamInfo) :
 let cfg':=talkerStreamIDFromServer
  (if info.has flagStreamIdValid then some info.streamFormat else none)
  (if info.has flagStreamDestMacValid then some info.streamDestMac else none)
  (if info.has flagStreamVlanIdValid then some info.streamVlanId else none) cfg
 cfg'.streamId=nextId cfg info ∧
 (info.has flagStreamDestMacValid → cfg'.destAddr=
  if info.streamDestMac=0 then cfg.backupDestAddr.getD cfg.destAddr else info.streamDestMac) ∧
 (info.has flagStreamVlanIdValid → info.streamVlanId≠0 → cfg'.vlanId=info.streamVlanId) := by
 intro cfg'
 obtain ⟨hid,hdest⟩:=fromServer_set (if info.has flagStreamIdValid then some info.streamFormat else none)
  (if info.has flagStreamDestMacValid then some info.streamDestMac else none)
  (if info.has flagStreamVlanIdValid then some info.streamVlanId else none) cfg
 refine ⟨hid.trans ?_,fun hf=>hdest.trans ?_,fun hf hv=>?_⟩
 · rw[nextId]
   cases info.has flagStreamIdValid with
   | false=>rfl
   | true=>exact setOver_some ..
 · rw[hf]
   exact setOver_some ..
 · simp only[cfg',talkerStreamIDFromServer,hf,if_true]
   rw[if_pos hv]

lemma getStreamInfoOf_output (hd:d.descriptorType=descriptorStreamOutput)
 (hidle:(openavbAVDECCGetStreamingState io).isRunning=false) (stream:Stream) (asked:StreamInfo) :
 ∃rsp : StreamInfo,rsp.streamId=asked.streamId ∧ rsp.has flagStreamIdValid=false ∧
  rsp.has flagStreamDestMacValid=false ∧ getStreamInfoOf d io stream asked=
   {talkerStreamInfo stream rsp with
     streamFormat:=openavbAemStreamFormatToBuf io.currentFormat}.set flagStreamFormatValid := by
 simp only[getStreamInfoOf,hd,hidle,if_true]
 refine ⟨_,?_,?_,?_,rfl⟩
 · simp
 all_goals
  simp only[StreamInfo.has,Bool.false_eq_true,if_false,setIf_flags]
  split_ifs<;>decide

lemma reports_format (format:BitVec 64) : Reports info ({rsp with streamFormat:=format}.set flagStreamFormatValid) ↔
  Reports info rsp := by
 have hhas:∀flag,flagStreamFormatValid &&& flag=0 →
  ({rsp with streamFormat:=format}.set flagStreamFormatValid).has flag=rsp.has flag:=by
  intro flag hflag
  simp[StreamInfo.has,StreamInfo.set,BitVec.and_or_distrib_right,hflag]
 constructor
 · rintro ⟨hid,hdest,hvlan⟩
   rw[hhas _ (by decide)] at hid hdest hvlan
   exact ⟨hid,hdest,hvlan⟩
 · rintro ⟨hid,hdest,hvlan⟩
   refine ⟨?_,?_,?_⟩<;>rwa[hhas _ (by decide)]

lemma getStreamInfoOf_reports (hd:d.descriptorType=descriptorStreamOutput)
 (hidle:(openavbAVDECCGetStreamingState io).isRunning=false) (cfg:TalkerCfg) (stream:Stream) :
 Reports info (getStreamInfoOf d io (stream.answered cfg info) asked) ↔ Readable cfg info asked := by
 obtain ⟨hnextId,hnextDest,hnextVlan⟩:=fromServer_values cfg info
 unfold Stream.answered
 generalize talkerStreamIDFromServer _ _ _ cfg=cfg' at *
 obtain ⟨rsp,hasked,hid,hdest,heq⟩:=getStreamInfoOf_output hd hidle (talkerStreamIDFromClient cfg' stream) asked
 obtain ⟨hstream,hstreamFlag,hmac,hmacFlag,hvlan,hvlanFlag⟩:=@talkerStreamInfo_spec cfg' stream rsp hid hdest
 rw[heq,reports_format]
 rw[hasked,hnextId] at hstream
 constructor
 · rintro ⟨hrid,hrdest,hrvlan⟩
   rw[hstreamFlag,hstream] at hrid
   rw[hmacFlag,hstream,hmac] at hrdest
   rw[hvlan] at hrvlan
   refine ⟨fun hf=>?_,fun hf=>?_,fun hf hzero=>?_⟩
   · obtain ⟨hflag,hvalue⟩:=hrid hf
     exact ⟨hvalue▸of_decide_eq_true hflag,hvalue.symm⟩
   · obtain ⟨hflag,hvalue⟩:=hrdest hf
     refine ⟨of_decide_eq_true hflag,fun hzero=>?_⟩
     rw[hnextDest hf,if_pos hzero,hzero] at hvalue
     exact hvalue
   · have hvalue:=(hrvlan hf).2
     rw[hzero] at hvalue
     split_ifs at hvalue with hnone
     · exact absurd hvalue (by decide)
     · exact hnone hvalue
 · rintro ⟨hrid,hrdest,hrvlan⟩
   refine ⟨fun hf=>?_,fun hf=>?_,fun hf=>⟨hvlanFlag,?_⟩⟩
   · obtain ⟨hne,hvalue⟩:=hrid hf
     rw[hstreamFlag,hstream,←hvalue]
     exact ⟨decide_eq_true hne,rfl⟩
   · obtain ⟨hne,hzero⟩:=hrdest hf
     rw[hmacFlag,hstream,hmac,hnextDest hf]
     refine ⟨decide_eq_true hne,?_⟩
     split_ifs with h
     · rw[hzero h,h]
     · rfl
   · rw[hvlan,hnextVlan hf (hrvlan hf),if_neg (hrvlan hf)]

lemma tail_zero_iff (format:BitVec 112) :
 format=format.extractLsb' 48 64++0#48 ↔ format.extractLsb' 0 48=0 := by
 have hsplit:format.extractLsb' 48 64++format.extractLsb' 0 48=format.extractLsb' 0 112:=
  BitVec.extractLsb'_append_extractLsb'_eq_extractLsb' rfl
 rw[BitVec.extractLsb'_eq_self] at hsplit
 constructor
 · intro h
   rw[h]
   exact BitVec.extractLsb'_append_eq_right
 · intro h
   rw[h] at hsplit
   exact hsplit.symm

lemma isStream_of_streamIo (h:e.descriptors.streamIo d=some io) : d.isStream=true := by
 unfold Descriptors.streamIo at h
 split_ifs at h with hin hout
 · exact decide_eq_true (.inl hin)
 · exact decide_eq_true (.inr hout)

/-- Stream values exactly if they are readable; controls never; formats only with zeros behind what
is reported. -/
theorem set_reads_back (e:Entity) (d:DescriptorId) (cfg:TalkerCfg) :
 (∀env env' m m' info asked,m.commandData=.setStreamInfo d info →
  m'.commandData=.getStreamInfo d asked → d.descriptorType=descriptorStreamOutput →
  (processCommand env m e).2.status=.success →
  ∃rsp,(Reports info rsp ↔ Readable cfg info asked) ∧ (processCommand env' m'
   ((setStreamInfo env m d info e).2.2.foldl (Entity.answered cfg) (processCommand env m e).1)).2=
    respond m' .success (.getStreamInfo d rsp)) ∧
 (∀env m values,m.commandData=.getControl d values →
  (processCommand env m e).2.status=.noSuchDescriptor) ∧
 (∀env env' m m' asked format,m.commandData=.getStreamFormat d asked →
  (processCommand env m e).2=respond m .success (.getStreamFormat d format) →
  m'.commandData=.setStreamFormat d format →
  processCommandCheckRestrictionCorrectController m' e=true →
  processCommandCheckRestrictionStreamNotRunning d e=true →
  ((processCommand env' m' (processCommand env m e).1).2.status=.success ↔
   ∃io,e.descriptors.streamIo d=some io ∧ if d.descriptorType=descriptorStreamInput then
    io.currentFormat=0 else io.currentFormat.extractLsb' 0 48=0)) := by
 refine ⟨fun env env' m m' info asked hm hm' hd hsuccess=>?_,
  fun env m values hm=>?_,
  fun env env' m m' asked format hm hget hm' hcontroller hrunning=>?_⟩
 · simp only[processCommand,hm] at hsuccess
   obtain ⟨hmessage,io,stream,hio,hstream,hidle⟩:=setStreamInfo_success hd hsuccess
   have hset:(processCommand env m e).1=e.request [talkerMessage d info]:=by
    simp only[processCommand,hm]
    rw[hmessage]
   have hafter:((e.request [talkerMessage d info]).answered cfg
    (talkerMessage d info)).descriptors.streamIo d=_:=streamIo_answered hd hio hstream cfg
   have hidle:(openavbAVDECCGetStreamingState
    {io with stream:=some (stream.answered cfg info)}).isRunning=false:=by
    rw[openavbAVDECCGetStreamingState,hstream] at hidle
    exact hidle
   refine ⟨_,getStreamInfoOf_reports hd hidle cfg stream,?_⟩
   rw[hset,hmessage,foldl_cons,foldl_nil]
   generalize Entity.answered cfg _ (talkerMessage d info)=after at hafter ⊢
   simp only[processCommand,hm',getStreamInfo,hafter]
 · simp only[processCommand,hm,getControl]
   cases e.descriptors.control d<;>rfl
 · simp only[processCommand,hm,hm',respond,setStreamFormat,hcontroller,hrunning] at hget ⊢
   cases hio:e.descriptors.streamIo d with
   | none=>simp[getStreamFormat,hio] at hget
   | some io=>
    simp only[getStreamFormat,hio,AEMCommandResponse.mk.injEq,CommandData.getStreamFormat.injEq,true_and] at hget
    have hcurrent:(io.currentFormat=format++0#48 ↔ if d.descriptorType=descriptorStreamInput then
     io.currentFormat=0 else io.currentFormat.extractLsb' 0 48=0):=by
     rw[←hget]
     split_ifs
     · exact toBuf_fixed_iff _
     · exact tail_zero_iff _
    simp only[isStream_of_streamIo hio,Option.some.injEq,exists_eq_left',←hcurrent]
    by_cases hformat:io.currentFormat=format++0#48<;>simp[hformat]

def exampleTalker : Entity :=
 {exampleEntity with descriptors:={exampleEntity.descriptors with streamOutputs:=
  [⟨0,.unknown,0,0,0,0,some ⟨some .stopped,some 0x020304050607,1,none,2,false⟩⟩]}}
def exampleCfg : TalkerCfg := ⟨0x0203040506070001,0x91E0F0000001,2,none,none,0,false⟩
def examplePdu (commandData:CommandData) : AEMCommandResponse :=
 ⟨0,1,0x7b,0,0,messageTypeAemCommand,.success,28,1,2,7,0,commandData⟩
def noInfo : StreamInfo := ⟨0,0,0,0,0,0,0,0,0,0⟩
def output : DescriptorId := ⟨descriptorStreamOutput,0⟩
def getOutput : AEMCommandResponse := examplePdu (.getStreamInfo output noInfo)
def readBack (info:StreamInfo) : AEMCommandResponse :=
 let m:=examplePdu (.setStreamInfo output info)
 (processCommand exampleEnv getOutput
  ((setStreamInfo exampleEnv m output info exampleTalker).2.2.foldl (Entity.answered exampleCfg)
   (processCommand exampleEnv m exampleTalker).1)).2
def newAddress : StreamInfo :=
 {noInfo with flags:=flagStreamDestMacValid,streamDestMac:=0x91E0F000FE01}

theorem set_reads_back_address : ∃rsp,rsp.streamDestMac=0x91E0F000FE01 ∧
  readBack newAddress=respond getOutput .success (.getStreamInfo output rsp) := by
 obtain ⟨rsp,hreports,hresponse⟩:=(set_reads_back exampleTalker output exampleCfg).1 exampleEnv
  exampleEnv (examplePdu (.setStreamInfo output newAddress)) getOutput newAddress noInfo rfl rfl rfl
  (by decide +kernel)
 have hread:Readable exampleCfg newAddress noInfo:=⟨by decide,by decide +kernel,by decide⟩
 exact ⟨rsp,((hreports.2 hread).streamDestMac (by decide)).2,hresponse⟩

def newStreamId : StreamInfo :=
 {noInfo with flags:=flagStreamIdValid,streamId:=0x0A0B0C0D0E0F0007}
def controlSet : Entity×AEMCommandResponse :=
 processCommand exampleEnv (examplePdu (.setControl ⟨descriptorControl,0⟩ [9] 1)) exampleEntity

theorem set_not_read_back : controlSet.2.status=.success ∧ (processCommand exampleEnv
  (examplePdu (.getControl ⟨descriptorControl,0⟩ [])) controlSet.1).2.status=.noSuchDescriptor ∧
 (processCommand exampleEnv (examplePdu (.setStreamInfo output newStreamId))
  exampleTalker).2.status=.success ∧
 readBack newStreamId=respond getOutput .success (.getStreamInfo output
  ⟨flagStreamFormatValid ||| flagStreamIdValid ||| flagStreamDestMacValid ||| flagStreamVlanIdValid,
   0,0x0001040506070000,0,0x91E0F0000001,0,0,0,2,0⟩) := by
 decide +kernel

end OpenAvnu.Aecp
