import OpenAvnu.MrpNotices

/-!
# The text buffers of mrpd

`parse` writes into its text, and a dump has one line for each attribute.
-/

namespace OpenAvnu.MrpdBuffers

open CText Parse List

def terminator : Char := Char.ofNat 0

/-- What becomes of the text from `s` on.  A parameter without a type is `parse_null`. -/
def parseLoop : (result:Bool) → List (List Char×Option ParamType) → (s:List Char) →
 Bool×List Char
 | _, [], s=>(true,s)
 | result, (name,type)::specs, s=>
  match strstr name s with
  | none=>(false,s)
  | some param=>
   let data:=param.drop name.length
   let field:=data.takeWhile fun c=>decide (c≠delimiter)
   let delimited:=decide (field.length<data.length)
   let rest:=data.drop (field.length+1)
   let front:=s.take (s.length-(rest.length+1))
   -- without a conversion the result is still that of the parameter before
   if (type.map fun t=>(convert t field).isSome).getD result then
    if delimited then
     let parsed:=parseLoop true specs rest
     (parsed.1,front++delimiter::parsed.2)
    else parseLoop true specs s
   else (false,if delimited then front++terminator::rest else s)

def parseBuffer (s:List Char) (len:Nat) (specs:List (List Char×Option ParamType)) : Bool×List Char :=
 if terminator∈s.take len then
  let parsed:=parseLoop false specs (cString s)
  (parsed.1,parsed.2++s.drop (cString s).length)
 else (false,s)

/-- What stands behind the name of a parameter. -/
def dataOf (name s:List Char) : Option (List Char) := (strstr name s).map (drop name.length)
def fieldOf (data:List Char) : List Char := data.takeWhile fun c=>decide (c≠delimiter)

/-- A field is read if it is converted, and by `parse_null` behind another parameter. -/
def isRead (behind:Bool) (type:Option ParamType) (data:List Char) : Bool :=
 (type.map fun t=>(convert t (fieldOf data)).isSome).getD behind

/-- Where the next parameter is looked for. -/
def textAfter (data s:List Char) : List Char :=
 if delimiter∈data then data.drop ((fieldOf data).length+1) else s
def textBehind : (behind:Bool) → List (List Char×Option ParamType) → List Char → Option (List Char)
 | _, [], s=>some s
 | behind, (name,type)::specs, s=>(dataOf name s).bind fun data=>
  if isRead behind type data then textBehind true specs (textAfter data s) else none

/-- No delimiter follows the first field that is not read. -/
def EndsUnread (behind:Bool) (specs:List (List Char×Option ParamType)) (s:List Char) : Prop :=
 ∀before name type after,specs=before++(name,type)::after → ∀text∈textBehind behind before s,
  ∀data∈dataOf name text,isRead (behind||!before.isEmpty) type data=false → delimiter∉data

lemma endsUnread_cons {behind:Bool} {name:List Char} {type:Option ParamType}
 {specs:List (List Char×Option ParamType)} {s:List Char} :
 EndsUnread behind ((name,type)::specs) s ↔ ∀data∈dataOf name s,
  if isRead behind type data then EndsUnread true specs (textAfter data s) else delimiter∉data := by
 constructor
 · intro h data hdata
   split_ifs with hread
   · intro before name' type' after hsplit text htext data' hdata' hunread
     refine h ((name,type)::before) name' type' after (by rw[hsplit];rfl) text ?_ data' hdata'
      (by simpa using hunread)
     rw[textBehind,Option.mem_def.1 hdata,Option.bind_some,if_pos hread]
     exact htext
   · exact h [] name type specs rfl s rfl data hdata (by simpa using hread)
 · rintro h before name' type' after hsplit text htext data' hdata' hunread
   cases before with
   | nil=>
    cases hsplit
    cases htext
    have hhead:=h data' hdata'
    rwa[if_neg (by simpa using hunread)] at hhead
   | cons spec before=>
    cases hsplit
    obtain ⟨data,hdata,hnext⟩:=Option.bind_eq_some_iff.1 htext
    have hrest:=h data hdata
    split_ifs at hnext hrest
    exact hrest before name' type' after rfl text hnext data' hdata' (by simpa using hunread)

lemma fieldOf_lt_iff (data:List Char) : (fieldOf data).length<data.length↔delimiter∈data := by
 induction data with
 | nil=>simp[fieldOf]
 | cons c data ih=>
  by_cases hc:c=delimiter
  · simp[fieldOf,hc]
  · simpa[fieldOf,hc,Ne.symm hc] using ih

lemma front_delimiter {s data field:List Char} (hdata:data <:+ s)
 (hfield:data.takeWhile (fun c=>decide (c≠delimiter))=field)
 (hlength:field.length<data.length) : s.take (s.length-((data.drop (field.length+1)).length+1))++
  delimiter::data.drop (field.length+1)=s := by
 obtain ⟨before,rfl⟩:=hdata
 have hsplit:=takeWhile_append_dropWhile (p:=fun c=>decide (c≠delimiter)) (l:=data)
 have hhead:=head?_dropWhile_not (fun c=>decide (c≠delimiter)) data
 rw[hfield] at hsplit
 cases hrest:data.dropWhile (fun c=>decide (c≠delimiter)) with
 | nil=>
  rw[hrest,append_nil] at hsplit
  exact absurd hlength (hsplit▸Nat.lt_irrefl _)
 | cons c rest=>
  rw[hrest] at hsplit hhead
  have hc:c=delimiter:=by simpa using hhead
  rw[←hsplit,hc]
  simp[←append_assoc]

lemma parseLoop_restores_iff (specs:List (List Char×Option ParamType)) (result:Bool)
 (s:List Char) : (parseLoop result specs s).2=s↔EndsUnread result specs s := by
 induction specs generalizing result s with
 | nil=>exact iff_of_true rfl fun before name type after h=>absurd h (by simp)
 | cons spec specs ih=>
  obtain ⟨name,type⟩:=spec
  rw[endsUnread_cons,parseLoop,dataOf]
  cases hfound:strstr name s with
  | none=>simp
  | some param=>
   have hsuffix:=(drop_suffix name.length param).trans (strstr_suffix hfound)
   simp only[Option.map_some,Option.mem_def,Option.some.injEq,forall_eq',isRead]
   generalize param.drop name.length=data at *
   have hdelimited:=fieldOf_lt_iff data
   simp only[textAfter,fieldOf] at hdelimited ⊢
   obtain ⟨field,hfield⟩:∃field,data.takeWhile (fun c=>decide (c≠delimiter))=field:=⟨_,rfl⟩
   simp only[hfield] at hdelimited ⊢
   by_cases hlength:field.length<data.length
   · have hs:=front_delimiter hsuffix hfield hlength
     generalize s.take (s.length-((data.drop (field.length+1)).length+1))=front at *
     generalize data.drop (field.length+1)=rest at *
     simp only[hlength,decide_true,if_true,hdelimited.1 hlength,←hs]
     split_ifs
     · rw[append_cancel_left_eq,List.cons.injEq,ih]
       exact and_iff_right rfl
     · refine iff_of_false (fun heq=>?_) (by simp)
       rw[append_cancel_left_eq] at heq
       cases heq
   · have hnone:delimiter∉data:=fun h=>hlength (hdelimited.2 h)
     simp only[hlength,decide_false,Bool.false_eq_true,if_false,hnone]
     split_ifs
     · exact ih true s
     · simp

/-- Exactly if it holds no terminator or the first field not read is the last of the text. -/
theorem parse_restores_iff (s:List Char) (len:Nat)
 (specs:List (List Char×Option ParamType)) :
 (parseBuffer s len specs).2=s↔(terminator∈s.take len → EndsUnread false specs (cString s)) := by
 unfold parseBuffer
 split_ifs with hterminated
 · have hprefix:cString s <+: s:= takeWhile_prefix _
   have hsplit:=prefix_iff_eq_append.1 hprefix
   have hloop:=parseLoop_restores_iff specs false (cString s)
   generalize s.drop (cString s).length=rest at *
   generalize cString s=text at *
   rw[forall_prop_of_true hterminated,←hloop,←hsplit,append_cancel_right_eq]
 · simp[hterminated]

def unreadCommand : List Char := ['D','=','x',',','S','=','1',terminator]

theorem parse_leaves_terminator : (parseBuffer unreadCommand 8
 [(['D','='],some .u8),(['S','='],some .c64)]).2≠unreadCommand := by
 decide

open Mrp Msrp Mmrp MsrpText MrpNotices

section Dumps
variable {α:Type}

def dumptable (empty:List Char) (line:Attribute α → List Char) (l:List (Attribute α)) : List Char :=
 if l=[] then empty else l.flatMap line
def stateLine (variant:List Char) (a:Attribute α) : List Char :=
 variant++[' ','R','=']++hex48 false a.registrar.macaddr++[' ']++
  mrpDecodeState a.registrar.mrpState a.applicant.mrpState++['\n']

/-- Talkers of either type are dumped with their failure information. -/
def dumpVariant (v:MsrpValue) : List Char :=
 variantText (if v.type=.talkerAdv then {v with type:=.talkerFailed} else v)

def msrpDumptable : List (Attribute MsrpValue) → List Char :=
 dumptable ['M','S','R','P',':','E','m','p','t','y','\n'] fun a=>
  stateLine (dumpVariant a.value) a
def mvrpDumptable : List (Attribute (BitVec 16)) → List Char :=
 dumptable ['M','V','R','P',':','E','m','p','t','y','\n'] fun a=>
  stateLine (['V',':','I','=']++formatHex false 4 a.value.toNat) a
def mmrpVariant : MmrpValue → List Char
 | .svcreq service=>['S','=']++formatDec service.toNat
 | .macvec macaddr=>['M','=']++hex48 false macaddr
def mmrpLine (a:Attribute MmrpValue) : List Char :=
 ['M']++registrarText a.registrar.mrpState++[' ']++mmrpVariant a.value++
  [' ','R','=']++hex48 false a.registrar.macaddr++['\n']
def mmrpDumptable : List (Attribute MmrpValue) → List Char :=
 dumptable ['M','M','R','P',':','E','m','p','t','y','\n'] mmrpLine
def FitsReply (text:List Char) : Prop := text.length+1 ≤ maxMrpdCmdsz

/-- The line of a dump behind its variant has 22 characters. -/
def msrpLineLength (v:MsrpValue) : Nat :=
 match v.type with
 | .talkerAdv | .talkerFailed=>98+(formatDec v.talkListen.maxFrameSize.toNat).length+
  (formatDec v.talkListen.maxIntervalFrames.toNat).length+
  (formatDec v.talkListen.priorityAndRank.toNat).length+
  (formatDec v.talkListen.accumulatedLatency.toInt).length+(formatDec v.talkListen.failureCode.toNat).length
 | .listener=>45+(formatDec v.substate.toInt).length
 | .domain=>39+(formatDec v.domain.srClassId.toNat).length+(formatDec v.domain.srClassPriority.toNat).length+
  (formatDec v.domain.neighborSrClassPriority.toNat).length
def mmrpLineLength : MmrpValue → Nat
 | .svcreq service=>22+(formatDec service.toNat).length
 | .macvec _=>34

lemma dumptable_fits_iff {empty:List Char} (hempty:empty.length=11) {line:Attribute α → List Char}
 {n:α → Nat} (hline:∀a,(line a).length=n a.value) (l:List (Attribute α)) :
 FitsReply (dumptable empty line l)↔(l.map fun a=>n a.value).sum<1500 := by
 have hlength:(l.flatMap line).length=(l.map fun a=>n a.value).sum:=by
  simp only[length_flatMap,hline]
 rw[←hlength,FitsReply,dumptable]
 split_ifs with hl
 · simp[hl,hempty,maxMrpdCmdsz]
 · exact Nat.succ_le_iff

lemma stateLine_length (variant:List Char) (a:Attribute α) : (stateLine variant a).length=variant.length+22 := by
 have hstate:=(plain_decodeState a.registrar.mrpState a.applicant.mrpState).2
 simp[stateLine,hex48_length,hstate]
lemma formatHex_vlan_length (vlanId:BitVec 16) : (formatHex false 4 vlanId.toNat).length=4 :=
 formatHex_length false 3 (by simpa using vlanId.isLt)

lemma msrpLine_length (a:Attribute MsrpValue) :
 (stateLine (dumpVariant a.value) a).length=msrpLineLength a.value := by
 rw[stateLine_length,dumpVariant,msrpLineLength]
 cases htype:a.value.type <;>
  simp[variantText,talkerText,htype,hex64_length,hex48_length,formatHex_vlan_length]<;>omega

lemma mmrpLine_length (a:Attribute MmrpValue) : (mmrpLine a).length=mmrpLineLength a.value := by
 have hstate:(registrarText a.registrar.mrpState).length=2:=by
  cases a.registrar.mrpState<;>rfl
 cases hvalue:a.value with
 | svcreq service=>
  simp only[mmrpLine,mmrpVariant,mmrpLineLength,hvalue,length_append,length_cons,length_nil,hex48_length,hstate]
  omega
 | macvec macaddr=>simp[mmrpLine,mmrpVariant,mmrpLineLength,hvalue,hex48_length,hstate]

lemma mvrpDumptable_fits_iff (l:List (Attribute (BitVec 16))) : FitsReply (mvrpDumptable l)↔l.length≤49 := by
 have hline:∀a:Attribute (BitVec 16),
  (stateLine (['V',':','I','=']++formatHex false 4 a.value.toNat) a).length=30:=by
  intro a
  rw[stateLine_length,length_append,formatHex_vlan_length]
  rfl
 rw[mvrpDumptable,dumptable_fits_iff rfl (n:=fun _=>30) hline,map_const',sum_replicate_nat]
 omega

end Dumps

theorem dumps_fit_iff (msrp:List (Attribute MsrpValue)) (mvrp:List (Attribute (BitVec 16)))
 (mmrp:List (Attribute MmrpValue)) :
 (FitsReply (msrpDumptable msrp)↔(msrp.map fun a=>msrpLineLength a.value).sum<1500) ∧
 (FitsReply (mvrpDumptable mvrp)↔mvrp.length≤49) ∧
 (FitsReply (mmrpDumptable mmrp)↔(mmrp.map fun a=>mmrpLineLength a.value).sum<1500) :=
 ⟨dumptable_fits_iff rfl msrpLine_length msrp,mvrpDumptable_fits_iff mvrp,
  dumptable_fits_iff rfl mmrpLine_length mmrp⟩

theorem fifty_vlans_overflow :
 ¬FitsReply (mvrpDumptable ((range 50).map fun n=>alloc (BitVec.ofNat 16 n) 0)) := by
 rw[mvrpDumptable_fits_iff]
 simp

end OpenAvnu.MrpdBuffers
