import OpenAvnu.MsrpText

/-!
# The client of mrpd

`process_mrp_msg` of `mrp_client.c`. Reading behind the buffer is `none`.
-/

namespace OpenAvnu.MrpClient

open Bytes CText List

structure ClassDomain where
 valid:Bool
 (id priority:BitVec 32)
 vid:BitVec 16
 deriving DecidableEq, Repr

structure Globals where
 (mrpError mrpOkay listeners:Bool)
 monitorStreamId:BitVec 64
 (domainClassA domainClassB:ClassDomain)
 deriving DecidableEq, Repr

/-- The local variables, which have any value before they are set. -/
structure Locals where
 (id priority vid maxFrameSize maxIntervalFrames priorityAndRank latency substate:BitVec 32)
 deriving DecidableEq, Repr

inductive Callback where
 | attach (streamid:BitVec 64) (subtype:BitVec 32)
 | register (streamid:BitVec 64) (join:Bool) (destaddr:BitVec 48)
  (maxFrameSize maxIntervalFrames:BitVec 32) (vid:BitVec 16) (latency:BitVec 32)
 deriving DecidableEq, Repr

structure Reading where
 client:Globals
 locals:Locals
 callbacks:List Callback
 deriving DecidableEq, Repr

/-- `while (buf[i] != c) i++;` -/
def skipTo (c:Char) : List Char → Option (List Char)
 | []=>none
 | x::s=>if x=c then some (x::s) else skipTo c s
def convert (read:Option (Int×List Char)) (old:BitVec 32) : BitVec 32 :=
 match read with
 | some (n,_)=>BitVec.ofInt 32 n
 | none=>old

/-- The loop that reads bytes, two characters each, and the last value of `id`. -/
def readBytes : Nat → List Char → BitVec 32 → List UInt8×BitVec 32
 | 0, _, id=>([],id)
 | count+1, s, id=>
  let id:=convert (scanWidth 16 2 s) id
  (UInt8.ofNat id.toNat::(readBytes count (s.drop 2) id).1,(readBytes count (s.drop 2) id).2)

def readListener (s:List Char) (l:Locals) : Option (BitVec 64×Locals) := do
 let s ← skipTo 'D' s
 let l:={l with substate:=convert (scan 10 (s.drop 2)) l.substate}
 let s ← skipTo 'S' (s.drop 2)
 let r:=readBytes 8 (s.drop 2) l.id
 pure (BitVec.ofNat 64 (beValue r.1),{l with id:=r.2})

def talkerFormat : List Directive :=
 [.literal 'V',.literal '=',.decimal,.literal ',',.literal 'Z',.literal '=',.decimal,
  .literal ',',.literal 'I',.literal '=',.decimal,.literal ',',.literal 'P',.literal '=',
  .decimal,.literal ',',.literal 'L',.literal '=',.decimal]
def assigned (values:List Int) (i:Nat) (old:BitVec 32) : BitVec 32 := (values[i]?).elim old (BitVec.ofInt 32)

def readTalker (s:List Char) (l:Locals) : Option (BitVec 64×BitVec 48×Locals) := do
 let s ← skipTo 'S' s
 let stream:=readBytes 8 (s.drop 2) l.id
 let s ← skipTo 'A' (s.drop 2)
 let dest:=readBytes 6 (s.drop 2) stream.2
 let values:=sscanf talkerFormat ((s.drop 2).drop (6*2+1))
 pure (BitVec.ofNat 64 (beValue stream.1),BitVec.ofNat 48 (beValue dest.1),
  {l with
    id:=dest.2
    vid:=assigned values 0 l.vid
    maxFrameSize:=assigned values 1 l.maxFrameSize
    maxIntervalFrames:=assigned values 2 l.maxIntervalFrames
    priorityAndRank:=assigned values 3 l.priorityAndRank
    latency:=assigned values 4 l.latency})

def listenerAskFailed : BitVec 32 := 1
def listenerHere (streamid:BitVec 64) (l:Locals) (r:Reading) : Reading :=
 {client:=if listenerAskFailed<l.substate ∧ streamid=r.client.monitorStreamId then
  {r.client with listeners:=true} else r.client
  locals:=l
  callbacks:=r.callbacks++[.attach streamid l.substate]}
def listenerGone (streamid:BitVec 64) (l:Locals) (r:Reading) : Reading :=
 {client:=if streamid=r.client.monitorStreamId then {r.client with listeners:=false}
  else r.client
  locals:=l
  callbacks:=r.callbacks++[.attach streamid l.substate]}

def talkerKnown (join:Bool) (read:BitVec 64×BitVec 48×Locals) (r:Reading) : Reading :=
 let l:=read.2.2
 {r with
   locals:=l
   callbacks:=r.callbacks++[.register read.1 join read.2.1 l.maxFrameSize l.maxIntervalFrames
    (l.vid.setWidth 16) l.latency]}

def readDomain (s:List Char) (r:Reading) : Option Reading := do
 let l:={r.locals with id:=convert (scan 10 (s.drop 4)) r.locals.id}
 let s ← skipTo 'P' (s.drop 4)
 let l:={l with priority:=convert (scan 10 (s.drop 2)) l.priority}
 let s ← skipTo 'V' (s.drop 2)
 let l:={l with vid:=convert (scan 16 (s.drop 2)) l.vid}
 let domain:ClassDomain:=⟨true,l.id,l.priority,l.vid.setWidth 16⟩
 pure {r with
  locals:=l
  client:=if l.id=6 then {r.client with domainClassA:=domain}
   else {r.client with domainClassB:=domain}}

def readEvent (s:List Char) (r:Reading) : Option Reading := do
 let kind ← s[1]?
 let what ← s[4]?
 if what = 'L' then
  let read ← readListener (s.drop 5) r.locals
  if kind = 'L' then pure (listenerGone read.1 read.2 r)
  else if kind = 'J' ∨ kind = 'N' then pure (listenerHere read.1 read.2 r)
  else pure {r with locals:=read.2}
 else if what = 'T' then
  let read ← readTalker (s.drop 5) r.locals
  pure (talkerKnown (decide (kind = 'J' ∨ kind = 'N')) read r)
 else pure r

def readLine (s:List Char) (r:Reading) : Option Reading := do
 let first ← s[0]?
 if first = 'E' then pure {r with client:={r.client with mrpError:=true}}
 else if first = 'O' then pure {r with client:={r.client with mrpOkay:=true}}
 else if first = 'L' then
  let read ← readListener s r.locals
  pure (listenerHere read.1 read.2 r)
 else if first = 'D' then readDomain s r
 else if first = 'T' then
  let read ← readTalker s r.locals
  pure (talkerKnown false read r)
 else if first = 'S' then readEvent s r
 else pure r

def nextLine : List Char → List Char
 | []=>[]
 | c::s=>if c = '\n' then s else if c=Char.ofNat 0 then c::s else nextLine s

def readLines : Nat → List Char → Reading → Option Reading
 | 0, _, r=>some r
 | fuel+1, s, r=>
  match s with
  | []=>some r
  | c::_=>
   if c=Char.ofNat 0 then some r
   else do
    let r ← readLine s r
    readLines fuel (nextLine s) r

def processMrpMsg (buf:List Char) (client:Globals) (locals:Locals) : Option Reading :=
 readLines buf.length buf ⟨client,locals,[]⟩

lemma skipTo_append {c:Char} {before:List Char} (h:c∉before) (s:List Char) :
 skipTo c (before++s)=skipTo c s := by
 induction before with
 | nil=>rfl
 | cons x before ih=>
  rw[mem_cons,not_or] at h
  rw[cons_append,skipTo,if_neg (Ne.symm h.1),ih h.2]

lemma skipTo_self (c:Char) (s:List Char) : skipTo c (c::s)=some (c::s) := if_pos rfl

lemma readBytes_hexText (upper:Bool) (bytes:List UInt8) (rest:List Char) (id:BitVec 32) :
 (readBytes bytes.length (hexText upper bytes++rest) id).1=bytes := by
 induction bytes generalizing id with
 | nil=>rfl
 | cons b bytes ih=>
  have hscan:scanWidth 16 2 (hexText upper (b::bytes)++rest)=some ((b.toNat:Int),hexText upper bytes++rest):=by
   rw[hexText_cons,append_assoc]
   exact scanWidth_formatHex upper 0 b.toNat_lt _
  have hdrop:(hexText upper (b::bytes)++rest).drop 2=hexText upper bytes++rest:=by
   have hlen:(formatHex upper 2 b.toNat).length=2:=by
    rw[formatHex,length_map,(hexByte_spec b).2.2]
   rw[hexText_cons,append_assoc,drop_left' hlen]
  have hbyte:UInt8.ofNat (BitVec.ofInt 32 (b.toNat:Int)).toNat=b:=by
   have hlt:=b.toNat_lt
   rw[BitVec.ofInt_natCast,BitVec.toNat_ofNat,Nat.mod_eq_of_lt (by omega),UInt8.ofNat_toNat]
  rw[length_cons,readBytes,hscan,hdrop,ih,convert,hbyte]

lemma processMrpMsg_line {line:List Char} {zeros:Nat} (hne:line≠[])
 (hplain:∀c∈line,c ≠ '\n' ∧ c≠Char.ofNat 0) (client:Globals) (locals:Locals) :
 processMrpMsg (line ++ '\n' :: replicate zeros (Char.ofNat 0)) client locals=
  readLine (line ++ '\n' :: replicate zeros (Char.ofNat 0)) ⟨client,locals,[]⟩ := by
 have hnext:∀l:List Char,(∀c∈l,c ≠ '\n' ∧ c≠Char.ofNat 0) →
  nextLine (l ++ '\n' :: replicate zeros (Char.ofNat 0))=replicate zeros (Char.ofNat 0):=by
  intro l hl
  induction l with
  | nil=>rfl
  | cons c l ih=>
   obtain ⟨hnewline,hzero⟩:=hl c mem_cons_self
   rw[cons_append,nextLine,if_neg hnewline,if_neg hzero]
   exact ih fun x hx=>hl x (mem_cons_of_mem c hx)
 have hdone:∀fuel r,readLines fuel (replicate zeros (Char.ofNat 0)) r=some r:=by
  intro fuel r
  cases fuel with
  | zero=>rfl
  | succ fuel=>cases zeros<;>rfl
 obtain ⟨c,tail,rfl⟩:=exists_cons_of_ne_nil hne
 have hzero:=(hplain c mem_cons_self).2
 have hrest:=hnext (c::tail) hplain
 simp only[cons_append] at hrest
 simp only[processMrpMsg,cons_append,length_cons,readLines,if_neg hzero,hrest,hdone]
 exact bind_pure _

end OpenAvnu.MrpClient

/-! ## Notifications between mrpd and its client -/

namespace OpenAvnu.MrpNotices

open Bytes CText Mrp Msrp MsrpText MrpClient PackedDigits List

def expected (v:MsrpValue) (notify:Notify) : Callback :=
 match v.type with
 | .listener=>.attach v.talkListen.streamId v.substate
 | _=>
  let t:=v.talkListen
  .register t.streamId (decide (notify ≠ .LV)) t.destAddr (t.maxFrameSize.setWidth 32)
   (t.maxIntervalFrames.setWidth 32) t.vlanId t.accumulatedLatency

def heard (a:Attribute MsrpValue) (notify:Notify) (client:Globals) (locals:Locals) :
 Option (List Callback) := (msrpSendNotifications a notify).bind fun text=>
  (processMrpMsg text client locals).map Reading.callbacks
def Plain (s:List Char) : Prop := ∀c∈s,c ≠ '\n' ∧ c≠Char.ofNat 0
@[simp] lemma plain_nil : Plain [] := by simp[Plain]

variable {c:Char} {s:List Char} (upper:Bool) (x:BitVec 64) {w:Nat} (t:TalkListen)
 (v:MsrpValue) (a:Attribute MsrpValue) {kind:List Char} (rest:List Char) {vlan:Nat}

@[simp] lemma plain_cons : Plain (c::s)↔(c ≠ '\n' ∧ c≠Char.ofNat 0) ∧ Plain s := by
 simp[Plain]

@[simp] lemma plain_append {t:List Char} : Plain (s++t)↔Plain s ∧ Plain t := by
 constructor
 · intro h
   exact ⟨fun c hc=>h c (mem_append_left t hc),fun c hc=>h c (mem_append_right s hc)⟩
 · rintro ⟨hs,ht⟩ c hc
   exact (mem_append.1 hc).elim (hs c) (ht c)

@[simp] lemma plain_hexText (bytes:List UInt8) : Plain (hexText upper bytes) := by
 apply of_mem_hexText
 have h:∀u:Bool,∀d<16,digitChar u d ≠ '\n' ∧ digitChar u d≠Char.ofNat 0:=by decide
 exact h upper
@[simp] lemma plain_formatHex (width n:Nat) : Plain (formatHex upper width n) := by
 apply of_mem_formatHex
 have h:∀u:Bool,∀d<16,digitChar u d ≠ '\n' ∧ digitChar u d≠Char.ofNat 0:=by decide
 exact h upper
@[simp] lemma plain_formatDec (n:Int) : Plain (formatDec n) := by
 apply of_mem_formatDec
 · decide
 · decide
lemma hex64_length : (hex64 upper x).length=16 := by
 rw[hex64,hexText_length,beBytes_length]
lemma hex48_length (x:BitVec 48) : (hex48 upper x).length=12 := by
 rw[hex48,hexText_length,beBytes_length]
lemma formatDec_natCast_length (k:Nat) (hk:2^w≤10^(k+1)) (x:BitVec w) : (formatDec x.toNat).length≤k+2 :=
 formatDec_length k (by rw[Int.natAbs_natCast];exact x.isLt.trans_le hk)
lemma formatDec_toInt_length (x:BitVec 32) : (formatDec x.toInt).length≤11 := by
 apply formatDec_length 9
 have hle:=BitVec.two_mul_toInt_le (x:=x)
 have hlt:=BitVec.le_two_mul_toInt (x:=x)
 omega

lemma talkerText_length : (talkerText upper t).length≤79 := by
 have h1:=hex64_length upper t.streamId
 have h2:=hex48_length upper t.destAddr
 have h3:(formatHex upper 4 t.vlanId.toNat).length=4:=
  formatHex_length upper 3 (by simpa using t.vlanId.isLt)
 have h4:=formatDec_natCast_length 4 (by decide) t.maxFrameSize
 have h5:=formatDec_natCast_length 4 (by decide) t.maxIntervalFrames
 have h6:=formatDec_natCast_length 2 (by decide) t.priorityAndRank
 have h7:=formatDec_toInt_length t.accumulatedLatency
 simp only[talkerText,length_append,length_cons,length_nil]
 omega

lemma variantText_length : (variantText v).length≤107 := by
 have h1:=hex64_length false v.talkListen.streamId
 have h2:=talkerText_length false v.talkListen
 have h3:=hex64_length false v.talkListen.bridgeId
 have h4:=formatDec_natCast_length 2 (by decide) v.talkListen.failureCode
 have h5:=formatDec_toInt_length v.substate
 have h6:=formatDec_natCast_length 2 (by decide) v.domain.srClassId
 have h7:=formatDec_natCast_length 2 (by decide) v.domain.srClassPriority
 have h8:=formatDec_natCast_length 2 (by decide) v.domain.neighborSrClassPriority
 have h9:(formatHex false 4 v.domain.srClassVid.toNat).length=4:=
  formatHex_length false 3 (by simpa using v.domain.srClassVid.isLt)
 cases htype:v.type <;>
  simp only[variantText,htype,length_append,length_cons,length_nil]<;>omega

lemma snprintf_eq {size:Nat} {text:List Char} (h:text.length ≤ size-1) :
 snprintf size text=text := take_of_length_le h
def origin (a:Attribute MsrpValue) : List Char := [' ','R','=']++hex48 false a.registrar.macaddr++[' ']++
  mrpDecodeState a.registrar.mrpState a.applicant.mrpState

lemma plain_decodeState (r:RegistrarState) (s:ApplicantState) :
 Plain (mrpDecodeState r s) ∧ (mrpDecodeState r s).length=5 := by
 constructor
 · cases r<;>cases s <;>
    simp[mrpDecodeState,snprintf,applicantText,registrarText]
 · cases r<;>cases s<;>rfl

lemma originText_eq : originText a=origin a++['\n'] := by
 have hlen:=hex48_length false a.registrar.macaddr
 rw[originText,snprintf_eq (by simp[hlen]),origin]
 simp
lemma plain_origin : Plain (origin a) ∧ (origin a).length=21 := by
 obtain ⟨hplain,hlen⟩:=plain_decodeState a.registrar.mrpState a.applicant.mrpState
 constructor
 · simp[origin,hex48,hplain]
 · simp[origin,hlen,hex48_length]
lemma plain_variantText : Plain (variantText v) := by
 cases htype:v.type<;>simp[variantText,htype,talkerText,hex64,hex48]

variable {notify:Notify}

lemma msrpSendNotifications_eq (hkind:kindText notify=some kind) :
 ∃zeros,msrpSendNotifications a notify=some ((kind++variantText a.value++origin a)++
   '\n' :: replicate zeros (Char.ofNat 0)) := by
 have hvariant:=variantText_length a.value
 have horigin:=(plain_origin a).2
 have hlen:kind.length=4:=by cases notify<;>cases hkind<;>rfl
 refine ⟨maxMrpdCmdsz-(kind++variantText a.value++(origin a++['\n'])).length,?_⟩
 have hkept:snprintf 127 (variantText a.value)=variantText a.value:=snprintf_eq
   (hvariant.trans (by decide))
 have hfits:(kind++variantText a.value++(origin a++['\n'])).length ≤ maxMrpdCmdsz-1-1
   := by
  simp only[length_append,length_singleton,maxMrpdCmdsz]
  omega
 rw[msrpSendNotifications,hkind,Option.map_some,hkept,originText_eq,snprintf_eq hfits,datagram]
 simp

lemma heard_eq (hkind:kindText notify=some kind) (client:Globals) (locals:Locals) :
 ∃zeros,heard a notify client locals=(readEvent (kind++variantText a.value++origin a++
   '\n' :: replicate zeros (Char.ofNat 0)) ⟨client,locals,[]⟩).map Reading.callbacks := by
 obtain ⟨zeros,htext⟩:=msrpSendNotifications_eq a hkind
 have hline:Plain (kind++variantText a.value++origin a):=by
  rw[plain_append,plain_append]
  refine ⟨⟨?_,plain_variantText a.value⟩,(plain_origin a).1⟩
  cases notify<;>cases hkind<;>simp
 have hne:kind++variantText a.value++origin a≠[]:=by
  cases notify<;>cases hkind<;>simp
 refine ⟨zeros,?_⟩
 rw[heard,htext,Option.bind_some,processMrpMsg_line hne hline]
 cases notify<;>cases hkind<;>rfl

lemma hex_stops : Stops 10 (',' :: rest) ∧ Stops 16 (',' :: rest) := by
 constructor<;>intro c hc<;>cases hc<;>decide
lemma beValue_bytes {k:Nat} (hw:256^k=2^w) (x:BitVec w) : BitVec.ofNat w (beValue (beBytes k x.toNat))=x := by
 rw[beValue_beBytes]
 exact ofNat_field hw x

lemma readBytes_hex64 (id:BitVec 32) : BitVec.ofNat 64 (beValue (readBytes 8 (hex64 false x++rest) id).1)=x := by
 have hread:=readBytes_hexText false (beBytes 8 x.toNat) rest id
 rw[beBytes_length] at hread
 rw[hex64,hread]
 exact beValue_bytes (by norm_num) x

lemma readBytes_hex48 (x:BitVec 48) (rest:List Char) (id:BitVec 32) :
 BitVec.ofNat 48 (beValue (readBytes 6 (hex48 false x++rest) id).1)=x := by
 have hread:=readBytes_hexText false (beBytes 6 x.toNat) rest id
 rw[beBytes_length] at hread
 rw[hex48,hread]
 exact beValue_bytes (by norm_num) x

lemma not_mem_formatDec (h:∀d<16,digitChar false d≠c) (hminus: '-' ≠ c) (n:Int) :
 c∉formatDec n := fun hc=>of_mem_formatDec (P:=fun x=>x≠c) h hminus n c hc rfl
lemma not_mem_hexText (h:∀d<16,digitChar false d≠c) (bytes:List UInt8) :
 c∉hexText false bytes := fun hc=>of_mem_hexText (P:=fun x=>x≠c) h bytes c hc rfl

lemma readListener_text (substate:BitVec 32) (streamId:BitVec 64) (rest:List Char)
 (l:Locals) : ∃id,readListener ([':','D','=']++formatDec substate.toInt++[',','S','=']++
  hex64 false streamId++rest) l=some (streamId,{l with substate, id}) := by
 have htext:[':','D','=']++formatDec substate.toInt++[',','S','=']++hex64 false streamId++rest=
  ':' :: 'D' :: '=' :: (formatDec substate.toInt++
   ',' :: 'S' :: '=' :: (hex64 false streamId++rest)):=by
  simp[append_assoc,cons_append]
 have hstate:scan 10 (formatDec substate.toInt++
  ',' :: 'S' :: '=' :: (hex64 false streamId++rest))=some (substate.toInt,_):=
  scan_formatDec _ (hex_stops _).1
 have hstream:skipTo 'S' (formatDec substate.toInt++
  ',' :: 'S' :: '=' :: (hex64 false streamId++rest))=some ('S' :: '=' :: (hex64 false streamId++rest)):=by
  rw[skipTo_append (not_mem_formatDec (by decide) (by decide) _),skipTo,if_neg (by decide),skipTo_self]
 refine ⟨(readBytes 8 (hex64 false streamId++rest) l.id).2,?_⟩
 rw[htext,readListener,skipTo,if_neg (by decide),skipTo_self]
 simp[hstate,hstream,convert,readBytes_hex64]

lemma heard_listener {a:Attribute MsrpValue} (htype:a.value.type=.listener)
 (hnotify:notify ≠ .NONE) (client:Globals) (locals:Locals) :
 heard a notify client locals=some [expected a.value notify] := by
 obtain ⟨kind,hkind⟩:∃kind,kindText notify=some kind:=by
  cases notify
  · exact absurd rfl hnotify
  all_goals exact ⟨_,rfl⟩
 obtain ⟨zeros,heq⟩:=heard_eq a hkind client locals
 obtain ⟨id,hread⟩:=readListener_text a.value.substate a.value.talkListen.streamId
  (origin a ++ '\n' :: replicate zeros (Char.ofNat 0)) locals
 have hvariant:variantText a.value = 'L' :: ([':','D','=']++formatDec a.value.substate.toInt
++[',','S','=']++hex64 false a.value.talkListen.streamId):=by
  simp[variantText,htype]
 rw[heq,hvariant]
 cases notify<;>cases hkind
 all_goals
  simp only[cons_append,nil_append,append_assoc] at hread ⊢
  simp[readEvent,hread,listenerHere,listenerGone,expected,htype]

/-- The VLAN identifier as the client reads it: the digits before the first letter. -/
def vlanRead (vlan:Nat) : Nat := packDigits 10 ((padded 4 (numeral 16 vlan)).takeWhile fun d=>decide (d<10))

lemma vlan_digits (h:vlan<4096) : ∃x y z,padded 4 (numeral 16 vlan)=[0,x,y,z] ∧ x<16 ∧ y<16 ∧ z<16 ∧
  vlan=(x*16+y)*16+z := by
 obtain ⟨hvalue,hdigits,hlen⟩:=padded_spec 3 (show vlan<16^(3+1) by omega)
 match hpadded:padded (3+1) (numeral 16 vlan), hlen with
 | [w,x,y,z], _=>
  rw[hpadded] at hvalue hdigits
  have hw:(((0*16+w)*16+x)*16+y)*16+z=vlan:=hvalue
  have hx:=hdigits x (by simp)
  have hy:=hdigits y (by simp)
  have hz:=hdigits z (by simp)
  obtain rfl:w=0:=by omega
  exact ⟨x,y,z,rfl,hx,hy,hz,by omega⟩

lemma vlanRead_eq_iff (h:vlan<4096) : vlanRead vlan<10000 ∧ (vlanRead vlan=vlan↔vlan<10) := by
 obtain ⟨x,y,z,hdigits,hx,hy,hz,hvlan⟩:=vlan_digits h
 rw[vlanRead,hdigits]
 by_cases hx':x<10<;>by_cases hy':y<10<;>by_cases hz':z<10 <;>
  simp[packDigits,hx',hy',hz']<;>omega

lemma scan_vlan (h:vlan<4096) (rest:List Char) :
 ∃tail,scan 10 (formatHex false 4 vlan ++ ',' :: rest)=some ((vlanRead vlan:Int),tail) ∧
  (vlan<10 → tail = ',' :: rest) := by
 obtain ⟨x,y,z,hdigits,hx,hy,hz,hvlan⟩:=vlan_digits h
 refine ⟨([0,x,y,z].dropWhile fun d=>decide (d<10)).map (digitChar false) ++ ',' :: rest,?_,?_⟩
 · rw[formatHex,vlanRead,hdigits]
   apply scan_hex_as_decimal
   · intro d hd
     simp only[mem_cons,not_mem_nil,or_false] at hd
     omega
   · simp
   · simp
   · exact (hex_stops rest).1
 · intro hsmall
   have hx':x<10:=by omega
   have hy':y<10:=by omega
   have hz':z<10:=by omega
   simp[hx',hy',hz']

lemma sscanf_talker (h:vlan<4096) (size frames rank:Nat) (latency:Int) {rest:List Char}
 (hstop:Stops 10 rest) : ∃values,sscanf talkerFormat ('V' :: '=' :: (formatHex false 4 vlan++
  ',' :: 'Z' :: '=' :: (formatDec size ++ ',' :: 'I' :: '=' :: (formatDec frames++
   ',' :: 'P' :: '=' :: (formatDec rank ++ ',' :: 'L' :: '=' :: (formatDec latency++rest))))))=
  (vlanRead vlan:Int)::values ∧
  (vlan<10 → values=[(size:Int),frames,rank,latency]) := by
 obtain ⟨tail,hscan,htail⟩:=scan_vlan h ('Z' :: '=' :: (formatDec size++
  ',' :: 'I' :: '=' :: (formatDec frames ++ ',' :: 'P' :: '=' :: (formatDec rank++
   ',' :: 'L' :: '=' :: (formatDec latency++rest)))))
 refine ⟨sscanf (talkerFormat.drop 3) tail,?_,?_⟩
 · simp[talkerFormat,sscanf,hscan]
 · intro hsmall
   rw[htail hsmall]
   simp[talkerFormat,sscanf,scan_formatDec _ (hex_stops _).1,scan_formatDec latency hstop]

lemma readTalker_text {rest:List Char} (hstop:Stops 10 rest) (l:Locals)
 (hvlan:t.vlanId.toNat<4096) :
 ∃l',MrpClient.readTalker (':' :: (talkerText false t++rest)) l=some (t.streamId,t.destAddr,l') ∧
  l'.vid=BitVec.ofNat 32 (vlanRead t.vlanId.toNat) ∧
  (t.vlanId.toNat<10 → l'.maxFrameSize=t.maxFrameSize.setWidth 32 ∧
   l'.maxIntervalFrames=t.maxIntervalFrames.setWidth 32 ∧
   l'.latency=t.accumulatedLatency) := by
 obtain ⟨values,hvalues,hall⟩:=sscanf_talker hvlan t.maxFrameSize.toNat
  t.maxIntervalFrames.toNat t.priorityAndRank.toNat t.accumulatedLatency.toInt hstop
 set others:= 'V' :: '=' :: (formatHex false 4 t.vlanId.toNat ++ ',' :: 'Z' :: '=' ::
  (formatDec t.maxFrameSize.toNat ++ ',' :: 'I' :: '=' :: (formatDec t.maxIntervalFrames.toNat++
   ',' :: 'P' :: '=' :: (formatDec t.priorityAndRank.toNat ++ ',' :: 'L' :: '=' ::
    (formatDec t.accumulatedLatency.toInt++rest))))) with hothers
 have htext: ':' :: (talkerText false t++rest) = ':' :: 'S' :: '=' :: (hex64 false t.streamId++
  ',' :: 'A' :: '=' :: (hex48 false t.destAddr ++ ',' :: others)):=by
  simp[talkerText,hothers]
 have hdest:skipTo 'A' (hex64 false t.streamId++
  ',' :: 'A' :: '=' :: (hex48 false t.destAddr ++ ',' :: others))=
  some ('A' :: '=' :: (hex48 false t.destAddr ++ ',' :: others)):=by
  have hnot: 'A'∉hex64 false t.streamId:=not_mem_hexText (by decide) _
  rw[skipTo_append hnot,skipTo,if_neg (by decide),skipTo_self]
 have hdrop:(hex48 false t.destAddr ++ ',' :: others).drop (6*2+1)=others:=by
  rw[←drop_drop,drop_left' (hex48_length false t.destAddr)]
  rfl
 rw[htext,MrpClient.readTalker,skipTo,if_neg (by decide),skipTo_self]
 simp only[Option.bind_eq_bind,Option.bind_some,drop_succ_cons,
  drop_zero,hdest,hdrop,hvalues,readBytes_hex64,readBytes_hex48]
 refine ⟨_,rfl,by simp[assigned],?_⟩
 intro hsmall
 rw[hall hsmall]
 simp[assigned]

lemma variantText_talker {v:MsrpValue} (htype:v.type=.talkerAdv ∨ v.type=.talkerFailed) :
 ∃more,variantText v = 'T' :: ':' :: (talkerText false v.talkListen++more) ∧
  (more=[] ∨ more.head? = some ',') := by
 rcases htype with htype|htype
 · exact ⟨[],by simp[variantText,htype],.inl rfl⟩
 · refine ⟨[',','B','=']++hex64 false v.talkListen.bridgeId++
    [',','C','=']++formatDec v.talkListen.failureCode.toNat,?_,.inr rfl⟩
   simp[variantText,htype]

lemma heard_talker {a:Attribute MsrpValue}
 (htype:a.value.type=.talkerAdv ∨ a.value.type=.talkerFailed) (hnotify:notify ≠ .NONE)
 (hvlan:a.value.talkListen.vlanId.toNat<4096) (client:Globals) (locals:Locals) :
 heard a notify client locals=some [expected a.value notify] ↔
  a.value.talkListen.vlanId.toNat<10 := by
 set t:=a.value.talkListen with ht
 obtain ⟨kind,hkind⟩:∃kind,kindText notify=some kind:=by
  cases notify
  · exact absurd rfl hnotify
  all_goals exact ⟨_,rfl⟩
 obtain ⟨zeros,heq⟩:=heard_eq a hkind client locals
 obtain ⟨more,hvariant,hmore⟩:=variantText_talker htype
 have hstop:Stops 10 (more++(origin a ++ '\n' :: replicate zeros (Char.ofNat 0))):=by
  rcases hmore with rfl|hcomma
  · intro c hc
    cases hc
    decide
  · obtain ⟨tail,rfl⟩:=head?_eq_some_iff.1 hcomma
    exact (hex_stops _).1
 obtain ⟨l',hread,hvid,hothers⟩:=readTalker_text t hstop locals hvlan
 obtain ⟨hbound,hexact⟩:=vlanRead_eq_iff hvlan
 have hheard:heard a notify client locals=
  some [.register t.streamId (decide (notify ≠ .LV)) t.destAddr l'.maxFrameSize
   l'.maxIntervalFrames (l'.vid.setWidth 16) l'.latency]:=by
  rw[heq,hvariant,←ht]
  cases notify<;>cases hkind
  all_goals
   simp[readEvent,hread,talkerKnown]
 have hexpected:expected a.value notify=.register t.streamId (decide (notify ≠ .LV)) t.destAddr
  (t.maxFrameSize.setWidth 32) (t.maxIntervalFrames.setWidth 32) t.vlanId
  t.accumulatedLatency:=by
  rcases htype with htype|htype<;>simp only[expected,htype,ht]
 have hvlanEq:l'.vid.setWidth 16=t.vlanId↔t.vlanId.toNat<10:=by
  rw[hvid,←BitVec.toNat_inj]
  simp only[BitVec.toNat_setWidth,BitVec.toNat_ofNat]
  omega
 rw[hheard,hexpected]
 constructor
 · intro h
   simp only[Option.some.injEq,List.cons.injEq,Callback.register.injEq] at h
   exact hvlanEq.1 h.1.2.2.2.2.2.1
 · intro hsmall
   obtain ⟨h1,h2,h3⟩:=hothers hsmall
   rw[h1,h2,h3,hvlanEq.2 hsmall]

/-- Listeners, and VLAN identifiers of one digit: mrpd writes it in hexadecimal, its client reads a
decimal. -/
theorem heard_iff_readable {a:Attribute MsrpValue} (htype:a.value.type ≠ .domain)
 {notify:Notify} (hnotify:notify ≠ .NONE) (hvlan:a.value.talkListen.vlanId.toNat<4096)
 (client:Globals) (locals:Locals) : heard a notify client locals=some [expected a.value notify] ↔
  a.value.type=.listener ∨ a.value.talkListen.vlanId.toNat<10 := by
 cases hcases:a.value.type
 case domain=>exact absurd hcases htype
 case listener=>simp[heard_listener hcases hnotify]
 case talkerAdv=>simpa using heard_talker (.inl hcases) hnotify hvlan client locals
 case talkerFailed=>simpa using heard_talker (.inr hcases) hnotify hvlan client locals

def talkerOn (vlan:BitVec 16) : Attribute MsrpValue :=
 {value:=
  {blank .talkerAdv with
   talkListen:=⟨0x0007EA1234560001,0x91E0F0000E80,vlan,224,1,96,3900,0,0⟩}
  applicant:=⟨.QA,false,.NULL,.OPTIONAL,none⟩
  registrar:=⟨.IN,.JOIN,0x0007EA123456⟩}

def exampleClient : Globals := ⟨false,false,false,0,⟨false,0,0,0⟩,⟨false,0,0,0⟩⟩
def exampleLocals : Locals := ⟨0,0,0,0,0,0,0,0⟩

theorem default_vlan_heard : heard (talkerOn 2) .JOIN exampleClient exampleLocals=
  some [expected (talkerOn 2).value .JOIN] :=
 (heard_iff_readable (a:=talkerOn 2) (by decide) (by decide) (by decide) exampleClient
  exampleLocals).2 (.inr (by decide))

theorem vlan_read_in_other_base : heard (talkerOn 16) .JOIN exampleClient exampleLocals=
  some [.register 0x0007EA1234560001 true 0x91E0F0000E80 224 1 10 3900] ∧
  expected (talkerOn 16).value .JOIN=
   .register 0x0007EA1234560001 true 0x91E0F0000E80 224 1 16 3900 := by
 decide +kernel

end OpenAvnu.MrpNotices
