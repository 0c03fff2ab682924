import OpenAvnu.CText
import OpenAvnu.Msrp

/-!
# Command parameters and texts

`parse.c`: a parameter is looked up by name and converted up to the next delimiter.
-/

namespace OpenAvnu.Parse

open Bytes CText List

inductive ParamType where
 | u8 | u16 | u16_04x | u32 | u64 | h64 | c64 | mac
 deriving DecidableEq, Repr

structure ParseParam where
 name:List Char
 type:ParamType
 deriving DecidableEq, Repr

/-- A conversion into an unsigned variable of `bits` bits, which is then stored in a field. -/
def stored (bits field:Nat) (read:Option (Int×List Char)) : Option Nat :=
 read.map fun r=>((BitVec.ofInt bits r.1).setWidth field).toNat

def convert : ParamType → List Char → Option Nat
 | .u8, data=>stored 32 8 (scan 10 data)
 | .u16, data=>stored 32 16 (scan 10 data)
 | .u16_04x, data=>stored 32 16 (scanWidth 16 4 data)
 | .u32, data=>stored 32 32 (scan 10 data)
 | .u64, data=>stored 64 64 (scan 10 data)
 | .h64, data=>stored 64 64 (scan 16 data)
 | .c64, data=>stored 64 64 (scan 16 data)
 | .mac, data=>stored 64 48 (scan 16 data)

def delimiter : Char := ','

def parseParams : List ParseParam → List Char → Option (List Nat)
 | [], _=>some []
 | spec::specs, s=>do
  let param ← strstr spec.name s
  let data:=param.drop spec.name.length
  let field:=data.takeWhile fun c=>decide (c≠delimiter)
  let v ← convert spec.type field
  -- without another delimiter the next search starts where this one did
  let vs ← parseParams specs (if field.length<data.length then data.drop (field.length+1) else s)
  pure (v::vs)

/-- The buffer must hold a terminator somewhere. -/
def parse (s:List Char) (specs:List ParseParam) : Option (List Nat) :=
 if s.contains (Char.ofNat 0) then parseParams specs (cString s) else none

variable {name field:List Char} {type:ParamType} {v:Nat} {specs:List ParseParam}

section
variable (hname:name≠[]) (hfield:delimiter∉field) (hvalue:convert type field=some v)
include hname hfield hvalue

lemma parseParams_next (rest:List Char) : parseParams (⟨name,type⟩::specs) (name++field++delimiter::rest)=
  (parseParams specs rest).map fun vs=>v::vs := by
 have htake:(field++delimiter::rest).takeWhile (fun c=>decide (c≠delimiter))=field:=by
  rw[takeWhile_append_of_pos]
  · simp
  · intro c hc
    exact decide_eq_true fun heq=>hfield (heq▸hc)
 have hdrop:(field++delimiter::rest).drop (field.length+1)=rest:=by
  rw[←drop_drop,drop_left]
  rfl
 rw[append_assoc,parseParams,strstr_here hname]
 simp only[Option.bind_eq_bind,Option.bind_some,drop_left,htake,hvalue,hdrop,
  if_pos (show field.length<(field++delimiter::rest).length by simp)]
 cases parseParams specs rest<;>rfl

lemma parseParams_last : parseParams [⟨name,type⟩] (name++field)=some [v] := by
 have htake:field.takeWhile (fun c=>decide (c≠delimiter))=field:=
  takeWhile_eq_self_iff.2 fun c hc=>decide_eq_true fun heq=>hfield (heq▸hc)
 rw[parseParams,strstr_here hname]
 simp only[Option.bind_eq_bind,Option.bind_some,drop_left,htake,hvalue,parseParams,Option.pure_def]

end

lemma stops_nil (base:Nat) : Stops base [] := fun c hc=>by cases hc

lemma convert_bytes {bits field k:Nat} (hk:k≠0) (hfield:field=8*k) (hbits:field ≤
 bits)
 (upper:Bool) (x:BitVec field) :
 stored bits field (scan 16 (hexText upper (beBytes k x.toNat)))=some x.toNat := by
 have hne:beBytes k x.toNat≠[]:=ne_nil_of_length_pos (by rw[beBytes_length];omega)
 have hscan:=scan_hexText upper hne (stops_nil 16)
 have hvalue:beValue (beBytes k x.toNat)=x.toNat:=by
  rw[beValue_beBytes,Nat.mod_eq_of_lt]
  calc x.toNat<2^field:=x.isLt
   _=256^k:=by rw[hfield,pow_mul];norm_num
 rw[append_nil,hvalue] at hscan
 have hsmall:x.toNat<2^bits:=x.isLt.trans_le (Nat.pow_le_pow_right (by decide) hbits)
 rw[hscan,stored,Option.map_some,BitVec.ofInt_natCast,BitVec.toNat_setWidth,BitVec.toNat_ofNat,
  Nat.mod_eq_of_lt hsmall,Nat.mod_eq_of_lt x.isLt]

lemma convert_hex (upper:Bool) (x:BitVec 16) : convert .u16_04x (formatHex upper 4 x.toNat)=some x.toNat := by
 have hscan:=scanWidth_formatHex upper 2 (show x.toNat<16^(2+2) from x.isLt) []
 rw[append_nil] at hscan
 rw[convert,hscan,stored,Option.map_some,BitVec.ofInt_natCast,BitVec.toNat_setWidth,
  BitVec.toNat_ofNat,Nat.mod_eq_of_lt (x.isLt.trans (by decide)),Nat.mod_eq_of_lt x.isLt]

lemma stored_dec (field:Nat) (n:Int) :
 stored 32 field (scan 10 (formatDec n))=some ((BitVec.ofInt 32 n).setWidth field).toNat := by
 have hscan:=scan_formatDec n (stops_nil 10)
 rw[append_nil] at hscan
 rw[hscan,stored,Option.map_some]

end OpenAvnu.Parse

/-! ## The text protocol of mrpd -/

namespace OpenAvnu.MsrpText

open Bytes CText Mrp Msrp MsrpCommands Parse List

def maxMrpdCmdsz : Nat := 1500
def datagram (text:List Char) : List Char := text++List.replicate (maxMrpdCmdsz-text.length) (Char.ofNat 0)

/-- `snprintf` with a size: one character less, for the terminator. -/
def snprintf (size:Nat) (text:List Char) : List Char := text.take (size-1)
def registrarText : RegistrarState → List Char
 | .IN=>['I','N']
 | .LV=>['L','V']
 | .MT=>['M','T']

def applicantText : ApplicantState → List Char
 | .VO=>['V','O']
 | .VP=>['V','P']
 | .VN=>['V','N']
 | .AN=>['A','N']
 | .AA=>['A','A']
 | .QA=>['Q','A']
 | .LA=>['L','A']
 | .AO=>['A','O']
 | .QO=>['Q','O']
 | .AP=>['A','P']
 | .QP=>['Q','P']
 | .LO=>['L','O']

/-- The buffer of the caller has eight bytes. -/
def mrpDecodeState (r:RegistrarState) (a:ApplicantState) : List Char :=
 snprintf 7 (applicantText a++['/']++snprintf 7 (registrarText r))
def hex64 (upper:Bool) (x:BitVec 64) : List Char := hexText upper (beBytes 8 x.toNat)
def hex48 (upper:Bool) (x:BitVec 48) : List Char := hexText upper (beBytes 6 x.toNat)

def talkerText (upper:Bool) (t:TalkListen) : List Char := ['S','=']++hex64 upper t.streamId++
 [',','A','=']++hex48 upper t.destAddr++[',','V','=']++formatHex upper 4 t.vlanId.toNat++
 [',','Z','=']++formatDec t.maxFrameSize.toNat++[',','I','=']++formatDec t.maxIntervalFrames.toNat++
 [',','P','=']++formatDec t.priorityAndRank.toNat++[',','L','=']++formatDec t.accumulatedLatency.toInt

def variantText (v:MsrpValue) : List Char :=
 match v.type with
 | .listener=>
  ['L',':','D','=']++formatDec v.substate.toInt++[',','S','=']++hex64 false v.talkListen.streamId
 | .domain=>
  ['D',':','C','=']++formatDec v.domain.srClassId.toNat++
  [',','P','=']++formatDec v.domain.srClassPriority.toNat++
  [',','V','=']++formatHex false 4 v.domain.srClassVid.toNat++
  [',','N','=']++formatDec v.domain.neighborSrClassPriority.toNat
 | .talkerAdv=>['T',':']++talkerText false v.talkListen
 | .talkerFailed=>
  ['T',':']++talkerText false v.talkListen++[',','B','=']++hex64 false v.talkListen.bridgeId++
  [',','C','=']++formatDec v.talkListen.failureCode.toNat

def kindText : Notify → Option (List Char)
 | .NEW=>some ['S','N','E',' ']
 | .JOIN=>some ['S','J','O',' ']
 | .LV=>some ['S','L','E',' ']
 | .NONE=>none

def originText (a:Attribute MsrpValue) : List Char :=
 [' ']++snprintf 127 (['R','=']++hex48 false a.registrar.macaddr)++
 [' ']++mrpDecodeState a.registrar.mrpState a.applicant.mrpState++['\n']
def msrpSendNotifications (a:Attribute MsrpValue) (notify:Notify) : Option (List Char) :=
 (kindText notify).map fun kind=>
  datagram (snprintf (maxMrpdCmdsz-1) (kind++snprintf 127 (variantText a.value)++originText a))
def cmdParams (least:Nat) (specs:List ParseParam) (buf:List Char) : Option (List Nat) :=
 if buf.length<least then none else parse (buf.drop 4) specs
def talkerSpecs : List ParseParam := [⟨['S','='],.c64⟩,⟨['A','='],.mac⟩,⟨['V','='],.u16_04x⟩,⟨['Z','='],.u16⟩,
  ⟨['I','='],.u16⟩,⟨['P','='],.u8⟩,⟨['L','='],.u32⟩]
def failureSpecs : List ParseParam := [⟨['B','='],.c64⟩,⟨['C','='],.u8⟩]

/-- The fields in the order of the parameters, the last two only with failure information. -/
def talkerParam (values:List Nat) : TalkListen where
 streamId := BitVec.ofNat 64 (values.getD 0 0)
 destAddr:=BitVec.ofNat 48 (values.getD 1 0)
 vlanId:=BitVec.ofNat 16 (values.getD 2 0)
 maxFrameSize:=BitVec.ofNat 16 (values.getD 3 0)
 maxIntervalFrames:=BitVec.ofNat 16 (values.getD 4 0)
 priorityAndRank:=BitVec.ofNat 8 (values.getD 5 0)
 accumulatedLatency:=BitVec.ofNat 32 (values.getD 6 0)
 bridgeId:=BitVec.ofNat 64 (values.getD 7 0)
 failureCode:=BitVec.ofNat 8 (values.getD 8 0)

def msrpCmdParseJoinOrNewStream (buf:List Char) : Option TalkListen :=
 (cmdParams 22 talkerSpecs buf).map talkerParam
def msrpCmdParseJoinOrNewStreamFailure (buf:List Char) : Option TalkListen :=
 (cmdParams 47 (talkerSpecs++failureSpecs) buf).map talkerParam
def msrpCmdParseLeaveStream (buf:List Char) : Option (BitVec 64) :=
 (cmdParams 22 [⟨['S','='],.c64⟩] buf).map fun values=>BitVec.ofNat 64 (values.getD 0 0)
def msrpCmdParseStreamId (buf:List Char) : Option (BitVec 64) :=
 (cmdParams 20 [⟨['S','='],.c64⟩] buf).map fun values=>BitVec.ofNat 64 (values.getD 0 0)
def msrpCmdParseReportListenerStatus (buf:List Char) : Option (BitVec 64×BitVec 32) :=
 (cmdParams 26 [⟨['L','='],.c64⟩,⟨['D','='],.u32⟩] buf).map fun values=>
  (BitVec.ofNat 64 (values.getD 0 0),BitVec.ofNat 32 (values.getD 1 0))
def msrpCmdParseWithdrawListenerStatus (buf:List Char) : Option (BitVec 64) :=
 (cmdParams 22 [⟨['L','='],.c64⟩] buf).map fun values=>BitVec.ofNat 64 (values.getD 0 0)
def msrpCmdParseDomainStatus (buf:List Char) : Option (BitVec 8×BitVec 8×BitVec 16) :=
 (cmdParams 18 [⟨['C','='],.u8⟩,⟨['P','='],.u8⟩,⟨['V','='],.u16_04x⟩] buf).map fun values=>
  (BitVec.ofNat 8 (values.getD 0 0),BitVec.ofNat 8 (values.getD 1 0),BitVec.ofNat 16 (values.getD 2 0))

def parseCmd (buf:List Char) : Option Command :=
 let head:=buf.take 3
 if head=['S','?','?'] then some .other
 else if head=['S','-','L'] then
  (msrpCmdParseWithdrawListenerStatus buf).map .withdrawListenerStatus
 else if head=['S','-','D'] then
  (msrpCmdParseDomainStatus buf).map fun d=>.reportDomainStatus false d.1 d.2.1 d.2.2
 else if head=['S','-','-'] then (msrpCmdParseLeaveStream buf).map .leaveStream
 else if head=['S','+','L'] then
  (msrpCmdParseReportListenerStatus buf).map fun r=>.reportListenerStatus r.1 r.2
 else if head=['S','+','D'] then
  (msrpCmdParseDomainStatus buf).map fun d=>.reportDomainStatus true d.1 d.2.1 d.2.2
 else if head=['S','+','?'] ∨ head=['S','+','+'] then
  let new:=decide (head=['S','+','+'])
  match strstr ['B','='] (cString buf) with
  | some _=>(msrpCmdParseJoinOrNewStreamFailure buf).map (.joinOrNewStream new true)
  | none=>(msrpCmdParseJoinOrNewStream buf).map (.joinOrNewStream new false)
 else if head=['I','+','S'] then (msrpCmdParseStreamId buf).map .addInteresting
 else if head=['I','-','S'] then (msrpCmdParseStreamId buf).map .removeInteresting
 else if head=['I','-','A'] then some .removeAllInteresting
 else none

/-- The commands about interesting streams have errors of their own. -/
def refused (command:Command) (db:MsrpDatabase) : Bool :=
 match command with
 | .addInteresting streamId=>
  !db.interest.enablePruning||eui64setFind db.interest.interestingStreamIds streamId ||
   decide (db.maxEntries≤db.interest.interestingStreamIds.length)
 | .removeInteresting streamId=>
  !db.interest.enablePruning||!eui64setFind db.interest.interestingStreamIds streamId
 | _=>false

def raised (command:Command) (db:MsrpDatabase) : List (Event×MsrpValue) :=
 match command with
 | .joinOrNewStream new failed talker=>
  [(if new then .NEW else .JOIN,declaredTalker failed talker)]
 | .leaveStream streamId=>[(.LV,streamValue .talkerAdv streamId)]
 | .reportListenerStatus streamId substate=>[(.NEW,declaredListener streamId substate)]
 | .withdrawListenerStatus streamId=>[(.LV,withdrawnListener streamId db.mrp.attribList)]
 | .reportDomainStatus report srClassId srClassPriority srClassVid=>
  [(if report then .JOIN else .LV,domainValue srClassId srClassPriority srClassVid)]
 | _=>[]

structure Received where
 accepted:Bool
 events:List (Event×MsrpValue)
 db:MsrpDatabase

def msrpRecvText (station:BitVec 48) (p2pmac:Nat) (client:Client) (buf:List Char)
 (db:MsrpDatabase) : Received :=
 let clients:=clientAdd client db.clients
 if db.interest.enablePruning&&decide (1<clients.length) then
  ⟨false,[],{db with clients:=clientDelete client clients}⟩
 else
  let db:={db with clients:=clients}
  match parseCmd buf with
  | none=>⟨false,[],db⟩
  | some command=>⟨!refused command db,raised command db,runCommand station p2pmac command db⟩

lemma runCommand_raised (station:BitVec 48) (p2pmac:Nat) {db:MsrpDatabase}
 (hpruning:db.interest.enablePruning=false) (command:Command)
 (hinterest:command ≠ .removeAllInteresting) : runCommand station p2pmac command db=
  (raised command db).foldl (fun db e=>commandEvent station p2pmac e.1 e.2 db) db := by
 cases command
 case removeAllInteresting=>exact absurd rfl hinterest
 all_goals simp[runCommand,raised,hpruning,commandEvent]

end OpenAvnu.MsrpText
