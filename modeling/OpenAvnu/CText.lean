import Mathlib.Data.List.TakeWhile
import OpenAvnu.Bytes
import OpenAvnu.PackedDigits

/-!
# Numbers in text

`%d`, `%u` and `%x` with field widths, in `printf` and `scanf`.
-/

namespace OpenAvnu.CText

open Bytes PackedDigits List

def digitChar (upper:Bool) (d:Nat) : Char :=
 if d<10 then Char.ofNat (48+d) else Char.ofNat ((if upper then 55 else 87)+d)
def numeralAux (base:Nat) : Nat → Nat → List Nat
 | 0, _=>[]
 | fuel+1, n=>if n<base then [n] else numeralAux base fuel (n/base)++[n%base]
def numeral (base n:Nat) : List Nat := numeralAux base (n+1) n
def padded (width:Nat) (digits:List Nat) : List Nat := List.replicate (width-digits.length) 0++digits
def formatHex (upper:Bool) (width n:Nat) : List Char := (padded width (numeral 16 n)).map (digitChar upper)
def formatDec (n:Int) : List Char := (if n<0 then ['-'] else [])++(numeral 10 n.natAbs).map (digitChar false)
def digitValue (c:Char) : Option Nat :=
 if '0' ≤ c ∧ c ≤ '9' then some (c.toNat-48)
 else if 'a' ≤ c ∧ c ≤ 'f' then some (c.toNat-87)
 else if 'A' ≤ c ∧ c ≤ 'F' then some (c.toNat-55)
 else none

def isDigit (base:Nat) (c:Char) : Bool :=
 match digitValue c with
 | some d=>decide (d<base)
 | none=>false
def isSpace (c:Char) : Bool := c = ' '||c = '\t'||c = '\n'||c=Char.ofNat 11||c=Char.ofNat 12||c = '\r'

def spanDigits (base:Nat) : Nat → List Char → List Nat×List Char
 | width+1, c::s=>
  if isDigit base c then
   ((digitValue c).getD 0::(spanDigits base width s).1,(spanDigits base width s).2)
  else ([],c::s)
 | _, s=>([],s)

def takeSign : Nat → List Char → Bool×Nat×List Char
 | width+1, '-' :: s=>(true,width,s)
 | width+1, '+' :: s=>(false,width,s)
 | width, s=>(false,width,s)
def takeRadix (base width:Nat) (s:List Char) : Nat×List Char :=
 if base=16 ∧ 2≤width ∧ s.head? = some '0' ∧ (s[1]? = some 'x' ∨ s[1]? = some 'X') then
  (width-2,s.drop 2)
 else (width,s)

def scanWidth (base width:Nat) (s:List Char) : Option (Int×List Char) :=
 let signed:=takeSign width (s.dropWhile isSpace)
 let rest:=takeRadix base signed.2.1 signed.2.2
 let digits:=spanDigits base rest.1 rest.2
 if digits.1=[] then none
 else some (if signed.1 then -packDigits base digits.1 else packDigits base digits.1,digits.2)

def scan (base:Nat) (s:List Char) : Option (Int×List Char) := scanWidth base s.length s

inductive Directive where
 | literal (c:Char)
 | decimal

/-- The values that were converted before the first mismatch. -/
def sscanf : List Directive → List Char → List Int
 | [], _=>[]
 | .literal c::format, s=>
  match s with
  | x::s=>if x=c then sscanf format s else []
  | []=>[]
 | .decimal::format, s=>
  match scan 10 s with
  | some (n,s)=>n::sscanf format s
  | none=>[]

def cString (s:List Char) : List Char := s.takeWhile fun c=>decide (c≠Char.ofNat 0)
def strstr (needle:List Char) : List Char → Option (List Char)
 | []=>if needle=[] then some [] else none
 | c::s=>if (c::s).take needle.length=needle then some (c::s) else strstr needle s

variable {base width d:Nat} {upper:Bool} {digits:List Nat} {rest:List Char}

lemma digitValue_digitChar (hd:d<16) : digitValue (digitChar upper d)=some d := by
 have h:∀u:Bool,∀d<16,digitValue (digitChar u d)=some d:=by decide
 exact h upper d hd

lemma digitChar_ordinary (upper:Bool) (hd:d<16) :
 isSpace (digitChar upper d)=false ∧ digitChar upper d ≠ '-' ∧ digitChar upper d ≠ '+' ∧
  digitChar upper d ≠ 'x' ∧ digitChar upper d ≠ 'X' := by
 have h:∀u:Bool,∀d<16,isSpace (digitChar u d)=false ∧ digitChar u d ≠ '-' ∧
  digitChar u d ≠ '+' ∧ digitChar u d ≠ 'x' ∧ digitChar u d ≠ 'X':=by decide
 exact h upper d hd

lemma isDigit_digitChar (hd:d<base) (hbase:base≤16) : isDigit base (digitChar upper d)=true := by
 rw[isDigit,digitValue_digitChar (hd.trans_le hbase)]
 exact decide_eq_true hd
def Stops (base:Nat) (rest:List Char) : Prop := ∀c∈rest.head?,isDigit base c=false

lemma spanDigits_map (hbase:base≤16) (hdigits:∀d∈digits,d<base)
 (hle:digits.length≤width) (hstop:digits.length=width ∨ Stops base rest) :
 spanDigits base width (digits.map (digitChar upper)++rest)=(digits,rest) := by
 induction digits generalizing width with
 | nil=>
  cases width with
  | zero=>simp[spanDigits]
  | succ width=>
   cases rest with
   | nil=>rfl
   | cons c rest=>
    have hc:=(hstop.resolve_left (by simp)) c rfl
    simp[spanDigits,hc]
 | cons d digits ih=>
  obtain ⟨width,rfl⟩:∃w,width=w+1:=⟨width-1,by simp at hle;omega⟩
  have hd:=hdigits d mem_cons_self
  rw[map_cons,cons_append,spanDigits,if_pos (isDigit_digitChar hd hbase),
   ih (fun x hx=>hdigits x (mem_cons_of_mem _ hx)) (by simpa using hle) (by simpa using hstop),
   digitValue_digitChar (hd.trans_le hbase),Option.getD_some]

lemma takeSign_digit (hd:d<16) (width:Nat) (s:List Char) :
 takeSign width (digitChar upper d::s)=(false,width,digitChar upper d::s) := by
 obtain ⟨-,hminus,hplus,-⟩:=digitChar_ordinary upper hd
 rw[takeSign]
 · rintro w s'-heq
   exact hminus (List.cons.inj heq).1
 · rintro w s'-heq
   exact hplus (List.cons.inj heq).1

section
variable (hdigits:∀d∈digits,d<base) (hbase:base≤16) (hlong:base=16 → 2≤digits.length)
include hdigits hbase hlong

lemma takeRadix_digits (width:Nat) (rest:List Char) :
 takeRadix base width (digits.map (digitChar upper)++rest)=(width,digits.map (digitChar upper)++rest) := by
 apply if_neg
 rintro ⟨h16,-,-,hx⟩
 -- the second character is a digit
 match digits, hlong h16 with
 | d::d'::digits, _=>
  have hd':d'<16:=(hdigits d' (by simp)).trans_le hbase
  obtain ⟨-,-,-,hlower,hupper⟩:=digitChar_ordinary upper hd'
  simp only[map_cons,cons_append,getElem?_cons_succ,getElem?_cons_zero,Option.some.injEq] at hx
  exact hx.elim hlower hupper

lemma scanWidth_digits (hne:digits≠[]) (hle:digits.length≤width)
 (hstop:digits.length=width ∨ Stops base rest) : scanWidth base width (digits.map (digitChar upper)++rest)=
  some ((packDigits base digits:Int),rest) := by
 obtain ⟨d,tail,rfl⟩:=exists_cons_of_ne_nil hne
 have hd:d<16:=(hdigits d mem_cons_self).trans_le hbase
 have hspace:=(digitChar_ordinary upper hd).1
 have hdrop:(((d::tail).map (digitChar upper))++rest).dropWhile isSpace=(d::tail).map (digitChar upper)++rest:=by
  rw[map_cons,cons_append,dropWhile_cons_of_neg (by simp[hspace])]
 have hsign:takeSign width ((d::tail).map (digitChar upper)++rest)=
  (false,width,(d::tail).map (digitChar upper)++rest):=takeSign_digit hd width _
 simp only[scanWidth,hdrop,hsign,takeRadix_digits hdigits hbase hlong,spanDigits_map hbase hdigits hle hstop]
 simp

end

lemma packDigits_append (base:Nat) (digits:List Nat) (d:Nat) :
 packDigits base (digits++[d])=packDigits base digits*base+d := by
 rw[packDigits,foldl_append]
 rfl

variable {n fuel:Nat} (k:Nat) (bytes:List UInt8) {needle s:List Char}

lemma numeralAux_spec (hbase:2≤base) (hfuel:n<fuel) :
 packDigits base (numeralAux base fuel n)=n ∧ (∀d∈numeralAux base fuel n,d<base) ∧
  numeralAux base fuel n≠[] := by
 induction fuel generalizing n with
 | zero=>omega
 | succ fuel ih=>
  rw[numeralAux]
  split_ifs with hsmall
  · exact ⟨by simp[packDigits],by simpa using hsmall,cons_ne_nil _ _⟩
  · have hdiv:n/base<n:=Nat.div_lt_self (by omega) hbase
    obtain ⟨hvalue,hdigits,-⟩:=ih (n:=n/base) (by omega)
    have hmod:n%base<base:=Nat.mod_lt n (by omega)
    refine ⟨?_,?_,by simp⟩
    · rw[packDigits_append,hvalue,Nat.mul_comm]
      exact Nat.div_add_mod n base
    · intro d hd
      rcases mem_append.1 hd with hd|hd
      · exact hdigits d hd
      · rw[mem_singleton.1 hd]
        exact hmod

lemma numeral_spec (hbase:2≤base) (n:Nat) : packDigits base (numeral base n)=n ∧ (∀d∈numeral base n,d<base) ∧
  numeral base n≠[] := numeralAux_spec hbase (Nat.lt_succ_self n)

lemma numeralAux_length (hn:n<base^(k+1)) : (numeralAux base fuel n).length≤k+1 := by
 induction k generalizing fuel n with
 | zero=>
  cases fuel with
  | zero=>exact Nat.zero_le _
  | succ fuel=>
   rw[numeralAux,if_pos (by simpa using hn)]
   exact Nat.le_refl 1
 | succ k ih=>
  cases fuel with
  | zero=>exact Nat.zero_le _
  | succ fuel=>
   rw[numeralAux]
   split_ifs
   · simp
   · have hdiv:n/base<base^(k+1):=
      Nat.div_lt_of_lt_mul (by rwa[pow_succ,Nat.mul_comm] at hn)
     simpa using ih hdiv

lemma packDigits_padded (base width:Nat) (digits:List Nat) :
 packDigits base (padded width digits)=packDigits base digits := by
 rw[padded]
 generalize width-digits.length=k
 induction k with
 | zero=>rfl
 | succ k ih=>
  rw[replicate_succ,cons_append,packDigits,foldl_cons,Nat.zero_mul]
  exact ih

lemma padded_spec (width:Nat) (hn:n<16^(width+1)) : packDigits 16 (padded (width+1) (numeral 16 n))=n ∧
  (∀d∈padded (width+1) (numeral 16 n),d<16) ∧
  (padded (width+1) (numeral 16 n)).length=width+1 := by
 obtain ⟨hvalue,hdigits,-⟩:=numeral_spec (show 2≤16 by decide) n
 have hlen:(numeral 16 n).length≤width+1:=numeralAux_length width hn
 refine ⟨(packDigits_padded 16 _ _).trans hvalue,?_,?_⟩
 · intro d hd
   rcases mem_append.1 hd with hd|hd
   · rw[eq_of_mem_replicate hd]
     decide
   · exact hdigits d hd
 · rw[padded,length_append,length_replicate]
   omega

lemma scanWidth_formatHex (upper:Bool) (width:Nat) (hn:n<16^(width+2))
 (rest:List Char) : scanWidth 16 (width+2) (formatHex upper (width+2) n++rest)=some ((n:Int),rest) := by
 obtain ⟨hvalue,hdigits,hlen⟩:=padded_spec (width+1) hn
 rw[formatHex,scanWidth_digits hdigits (by decide) (fun _=>by omega)
  (ne_nil_of_length_pos (by omega)) (by omega) (.inl hlen),hvalue]

lemma scan_formatDec (n:Int) (hstop:Stops 10 rest) : scan 10 (formatDec n++rest)=some (n,rest) := by
 obtain ⟨hvalue,hdigits,hne⟩:=numeral_spec (show 2≤10 by decide) n.natAbs
 rw[scan,formatDec]
 split_ifs with hneg
 · -- the sign is consumed first
   have hdrop:(['-']++(numeral 10 n.natAbs).map (digitChar false)++rest).dropWhile isSpace=
    '-' :: ((numeral 10 n.natAbs).map (digitChar false)++rest):=
    dropWhile_cons_of_neg (by decide)
   have hradix:∀(w:Nat) (s:List Char),takeRadix 10 w s=(w,s):=fun w s=>
    if_neg (by simp)
   have hlen:(['-']++(numeral 10 n.natAbs).map (digitChar false)++rest).length=
    ((numeral 10 n.natAbs).map (digitChar false)++rest).length+1:=by
    simp
   have hspan:spanDigits 10 ((numeral 10 n.natAbs).map (digitChar false)++rest).length
    ((numeral 10 n.natAbs).map (digitChar false)++rest)=(numeral 10 n.natAbs,rest):=
    spanDigits_map (by decide) hdigits (by simp) (.inr hstop)
   simp only[scanWidth,hdrop,hlen,takeSign,hradix,if_true,hspan,if_neg hne,hvalue]
   rw[show -((n.natAbs:Nat):Int)=n by omega]
 · rw[nil_append,scanWidth_digits hdigits (by decide) (by simp) hne (by simp)
    (.inr hstop),hvalue,Int.natAbs_of_nonneg (by omega)]

lemma scan_hex_as_decimal (upper:Bool) (hdigits:∀d∈digits,d<16)
 (hfirst:∀d∈digits.head?,d<10) (hne:digits≠[]) (hstop:Stops 10 rest) :
 scan 10 (digits.map (digitChar upper)++rest)=
  some ((packDigits 10 (digits.takeWhile fun d=>decide (d<10)):Int),
   (digits.dropWhile fun d=>decide (d<10)).map (digitChar upper)++rest) := by
 set before:=digits.takeWhile fun d=>decide (d<10) with hbefore
 set after:=digits.dropWhile fun d=>decide (d<10) with hafter
 have hsplit:digits=before++after:=(takeWhile_append_dropWhile).symm
 have hsmall:∀d∈before,d<10:=fun d hd=>by
  simpa using mem_takeWhile_imp hd
 have hsome:before≠[]:=by
  obtain ⟨d,tail,rfl⟩:=exists_cons_of_ne_nil hne
  have hd:=hfirst d rfl
  simp[hbefore,hd]
 have hstops:Stops 10 (after.map (digitChar upper)++rest):=by
  cases hcases:after with
  | nil=>simpa using hstop
  | cons d tail=>
   -- a letter comes next
   have hlarge:¬d<10:=by
    have hnot:=head?_dropWhile_not (fun d=>decide (d<10)) digits
    rw[←hafter,hcases] at hnot
    simpa using hnot
   have hd:d<16:=hdigits d (hsplit▸by simp[hcases])
   intro c hc
   cases hc
   rw[isDigit,digitValue_digitChar hd]
   exact decide_eq_false hlarge
 conv_lhs=>rw[hsplit,map_append,append_assoc]
 exact scanWidth_digits hsmall (by decide) (by simp) hsome (by simp) (.inr hstops)

def hexText (upper:Bool) (bytes:List UInt8) : List Char := bytes.flatMap fun b=>formatHex upper 2 b.toNat
def hexDigits (bytes:List UInt8) : List Nat := bytes.flatMap fun b=>padded 2 (numeral 16 b.toNat)
lemma hexText_eq (upper:Bool) (bytes:List UInt8) :
 hexText upper bytes=(hexDigits bytes).map (digitChar upper) := by
 rw[hexDigits,map_flatMap]
 rfl
lemma hexText_cons (upper:Bool) (b:UInt8) (bytes:List UInt8) :
 hexText upper (b::bytes)=formatHex upper 2 b.toNat++hexText upper bytes := rfl
lemma hexByte_spec (b:UInt8) : packDigits 16 (padded 2 (numeral 16 b.toNat))=b.toNat ∧
  (∀d∈padded 2 (numeral 16 b.toNat),d<16) ∧
  (padded 2 (numeral 16 b.toNat)).length=2 := padded_spec 1 b.toNat_lt
lemma hexDigits_lt : ∀d∈hexDigits bytes,d<16 := by
 intro d hd
 obtain ⟨b,-,hd⟩:=mem_flatMap.1 hd
 exact (hexByte_spec b).2.1 d hd

lemma hexDigits_length : (hexDigits bytes).length=2*bytes.length := by
 induction bytes with
 | nil=>rfl
 | cons b bytes ih=>
  rw[hexDigits,flatMap_cons,length_append,(hexByte_spec b).2.2,length_cons,← hexDigits]
  omega

lemma hexText_length (upper:Bool) (bytes:List UInt8) : (hexText upper bytes).length=2*bytes.length := by
 rw[hexText_eq,length_map,hexDigits_length]

lemma foldl_hexDigits (acc:Nat) : (hexDigits bytes).foldl (fun acc d=>acc*16+d) acc=
  bytes.foldl (fun acc b=>acc*256+b.toNat) acc := by
 induction bytes generalizing acc with
 | nil=>rfl
 | cons b bytes ih=>
  obtain ⟨hvalue,-,hlen⟩:=hexByte_spec b
  rw[hexDigits,flatMap_cons,foldl_append,←hexDigits,ih,foldl_digits,hlen,hvalue]
  norm_num

lemma scan_hexText (upper:Bool) {bytes:List UInt8} (hne:bytes≠[])
 (hstop:Stops 16 rest) : scan 16 (hexText upper bytes++rest)=some ((beValue bytes:Int),rest) := by
 have hpos:=length_pos_of_ne_nil hne
 have hlen:=hexDigits_length bytes
 rw[scan,hexText_eq,scanWidth_digits (hexDigits_lt bytes) (by decide) (fun _=>by omega)
  (ne_nil_of_length_pos (by omega)) (by simp) (.inr hstop)]
 rw[packDigits,foldl_hexDigits,beValue]

variable {P:Char → Prop}

section
variable (h:∀d<16,P (digitChar upper d))
include h

lemma of_mem_digits (hdigits:∀d∈digits,d<16) : ∀c∈digits.map (digitChar upper),P c := by
 intro c hc
 obtain ⟨d,hd,rfl⟩:=mem_map.1 hc
 exact h d (hdigits d hd)
lemma of_mem_hexText (bytes:List UInt8) : ∀c∈hexText upper bytes,P c := by
 rw[hexText_eq]
 exact of_mem_digits h (hexDigits_lt bytes)

lemma of_mem_formatHex (width n:Nat) : ∀c∈formatHex upper width n,P c := by
 obtain ⟨-,hdigits,-⟩:=numeral_spec (show 2≤16 by decide) n
 apply of_mem_digits h
 intro d hd
 rcases mem_append.1 hd with hd|hd
 · rw[eq_of_mem_replicate hd]
   decide
 · exact hdigits d hd

end

lemma of_mem_formatDec (h:∀d<16,P (digitChar false d)) (hminus:P '-') (n:Int) : ∀c∈formatDec n,P c := by
 obtain ⟨-,hdigits,-⟩:=numeral_spec (show 2≤10 by decide) n.natAbs
 intro c hc
 rcases mem_append.1 hc with hc|hc
 · split_ifs at hc
   · exact mem_singleton.1 hc▸hminus
   · cases hc
 · exact of_mem_digits h (fun d hd=>(hdigits d hd).trans (by decide)) c hc

lemma formatHex_length (upper:Bool) (width:Nat) (hn:n<16^(width+1)) :
 (formatHex upper (width+1) n).length=width+1 := by
 rw[formatHex,length_map,(padded_spec width hn).2.2]
lemma formatDec_length {n:Int} (hn:n.natAbs<10^(k+1)) : (formatDec n).length≤k+2 := by
 have hlen:(numeral 10 n.natAbs).length≤k+1:=numeralAux_length k hn
 have hsign:(if n<0 then ['-'] else []).length≤1:=by split_ifs<;>simp
 rw[formatDec,length_append,length_map]
 omega
lemma cString_append {text:List Char} (h:∀c∈text,c≠Char.ofNat 0) (zeros:Nat) :
 cString (text++replicate (zeros+1) (Char.ofNat 0))=text := by
 rw[cString,takeWhile_append_of_pos fun c hc=>decide_eq_true (h c hc)]
 simp

lemma strstr_suffix {found:List Char} (h:strstr needle s=some found) : found <:+ s := by
 induction s with
 | nil=>
  simp only[strstr,Option.ite_none_right_eq_some] at h
  exact Option.some.inj h.2▸suffix_rfl
 | cons c s ih=>
  rw[strstr] at h
  split_ifs at h
  · exact Option.some.inj h▸suffix_rfl
  · exact (ih h).trans (suffix_cons c s)

lemma strstr_here (hne:needle≠[]) (rest:List Char) : strstr needle (needle++rest)=some (needle++rest) := by
 obtain ⟨c,needle,rfl⟩:=exists_cons_of_ne_nil hne
 rw[cons_append,strstr,if_pos]
 exact take_left' rfl

lemma strstr_pair_skip {a b:Char} {t:List Char} (hs:b∉s) (ht:t.head? ≠ some b) :
 strstr [a,b] (s++t)=strstr [a,b] t := by
 induction s with
 | nil=>rfl
 | cons c s ih=>
  rw[mem_cons,not_or] at hs
  have hhead:(c::(s++t)).take [a,b].length≠[a,b]:=by
   intro htake
   cases s with
   | nil=>
    cases t with
    | nil=>simp at htake
    | cons d t=>simp_all
   | cons d s=>simp_all
  rw[cons_append,strstr,if_neg hhead]
  exact ih hs.2

end OpenAvnu.CText
