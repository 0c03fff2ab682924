import Mathlib.Data.List.Basic
import Mathlib.Tactic.Ring

/-!
# Digits packed into bytes

Most significant first. Unpacking does not reduce the first digit, so it may be out of range.
-/

namespace OpenAvnu.PackedDigits

open List

def packDigits (base:Nat) (digits:List Nat) : Nat := digits.foldl (fun acc digit=>acc*base+digit) 0
def unpackDigits (base:Nat) : Nat → Nat → List Nat
 | 0, _=>[]
 | width+1, value=>value/base^width::unpackDigits base width (value%base^width)
def unpackBytes (base width:Nat) (bytes:List UInt8) : List Nat :=
 bytes.flatMap fun byte=>unpackDigits base width byte.toNat

/-- Finished bytes, the digits of the byte under construction, and how many of them are set. -/
structure Packer where
 bytes:List UInt8
 slots:List Nat
 used:Nat
 deriving DecidableEq, Repr

/-- A packer whose first digit is already in place and whose other slots hold `rest`. -/
def Packer.start (digit:Nat) (rest:List Nat) : Packer := ⟨[],digit::rest,1⟩

def Packer.push (base width:Nat) (p:Packer) (digit:Nat) : Packer :=
 let slots:=p.slots.set p.used digit
 if width≤p.used+1 then
  ⟨p.bytes++[UInt8.ofNat (packDigits base slots)],List.replicate width 0,0⟩
 else
  ⟨p.bytes,slots,p.used+1⟩

def Packer.finish (base:Nat) (p:Packer) : List UInt8 :=
 if 0<p.used then p.bytes++[UInt8.ofNat (packDigits base p.slots)] else p.bytes

section Digits
variable {base:Nat}

lemma foldl_digits (base:Nat) (digits:List Nat) (acc:Nat) :
 digits.foldl (fun acc digit=>acc*base+digit) acc=acc*base^digits.length+packDigits base digits := by
 induction digits generalizing acc with
 | nil=>simp[packDigits]
 | cons digit digits ih=>
  have hpack:packDigits base (digit::digits)=digit*base^digits.length+packDigits base digits:=by
   simpa[packDigits] using ih digit
  rw[foldl_cons,ih,hpack,length_cons]
  ring

lemma packDigits_cons (digit:Nat) (digits:List Nat) :
 packDigits base (digit::digits)=digit*base^digits.length+packDigits base digits := by
 simpa[packDigits] using foldl_digits base digits digit

variable (digits:List Nat) {width:Nat}

lemma packDigits_lt (hdigits:∀d∈digits,d<base) : packDigits base digits<base^digits.length := by
 induction digits with
 | nil=>simp[packDigits]
 | cons digit digits ih=>
  have htail:=ih fun d hd=>hdigits d (mem_cons_of_mem _ hd)
  have hhead:(digit+1)*base^digits.length≤base*base^digits.length:=
   Nat.mul_le_mul_right _ (hdigits digit mem_cons_self)
  rw[packDigits_cons,length_cons,pow_succ,Nat.mul_comm (base^_) base]
  rw[Nat.add_mul] at hhead
  omega

lemma unpackDigits_packDigits (hdigits:∀d∈digits,d<base) :
 unpackDigits base digits.length (packDigits base digits)=digits := by
 induction digits with
 | nil=>rfl
 | cons digit digits ih=>
  have htail:∀d∈digits,d<base:=fun d hd=>hdigits d (mem_cons_of_mem _ hd)
  have hlt:=packDigits_lt digits htail
  rw[length_cons,unpackDigits,packDigits_cons]
  rw[Nat.mul_comm,Nat.mul_add_div (by omega),Nat.div_eq_of_lt hlt,Nat.add_zero,
   Nat.mul_add_mod_self_left,Nat.mod_eq_of_lt hlt,ih htail]

@[simp] lemma unpackDigits_length (width value:Nat) : (unpackDigits base width value).length=width := by
 induction width generalizing value with
 | zero=>rfl
 | succ width ih=>simp[unpackDigits,ih]

lemma unpackBytes_singleton (hfits:base^width≤256) {digits:List Nat}
 (hlength:digits.length=width) (hdigits:∀d∈digits,d<base) :
 unpackBytes base width [UInt8.ofNat (packDigits base digits)]=digits := by
 have hlt:=packDigits_lt digits hdigits
 have hbyte:(UInt8.ofNat (packDigits base digits)).toNat=packDigits base digits:=by
  exact Nat.mod_eq_of_lt (by rw[hlength] at hlt;omega)
 subst hlength
 simp[unpackBytes,hbyte,unpackDigits_packDigits digits hdigits]

lemma packByte_lt {digits:List Nat} (hlength:digits.length=width)
 (hdigits:∀d∈digits,d<base) : (UInt8.ofNat (packDigits base digits)).toNat<base^width := by
 have hlt:=packDigits_lt digits hdigits
 rw[←hlength]
 exact Nat.lt_of_le_of_lt (Nat.mod_le _ _) hlt

end Digits

section Packing
variable {base width:Nat}

structure Packer.Sized (width:Nat) (p:Packer) (count:Nat) : Prop where
 full:p.slots.length=width
 open_:p.used<width
 total:p.bytes.length*width+p.used=count

/-- The packer has taken exactly `digits` and every slot holds a proper digit. -/
structure Packer.Carries (base width:Nat) (p:Packer) (digits:List Nat) : Prop where
 sized:p.Sized width digits.length
 taken:unpackBytes base width p.bytes++p.slots.take p.used=digits
 proper:∀d∈p.slots,d<base
 small:∀b∈p.bytes,b.toNat<base^width

def Packer.pushAll (base width:Nat) (p:Packer) (digits:List Nat) : Packer :=
 digits.foldl (Packer.push base width) p
@[simp] lemma Packer.pushAll_nil (p:Packer) : p.pushAll base width []=p := rfl
@[simp] lemma Packer.pushAll_cons (p:Packer) (digit:Nat) (digits:List Nat) :
 p.pushAll base width (digit::digits)=(p.push base width digit).pushAll base width digits := rfl
lemma unpackBytes_append (left right:List UInt8) : unpackBytes base width (left++right)=
  unpackBytes base width left++unpackBytes base width right := by
 simp[unpackBytes]
lemma unpackBytes_cons (byte:UInt8) (bytes:List UInt8) : unpackBytes base width (byte::bytes)=
  unpackDigits base width byte.toNat++unpackBytes base width bytes := by
 simp[unpackBytes]

variable {rest:List Nat}

lemma Packer.start_sized (digit:Nat) (hwidth:rest.length+1=width) (hmore:1<width) :
 (Packer.start digit rest).Sized width 1 where
 full := by simpa[Packer.start] using hwidth
 open_:=hmore
 total:=by simp[Packer.start]

lemma Packer.start_carries {digit:Nat} (hwidth:rest.length+1=width) (hmore:1<width)
 (hdigit:digit<base) (hrest:∀d∈rest,d<base) : (Packer.start digit rest).Carries base width [digit] where
 sized := Packer.start_sized digit hwidth hmore
 taken:=by simp[Packer.start,unpackBytes]
 proper:=by
  intro d hd
  rcases mem_cons.1 hd with rfl|hd
  · exact hdigit
  · exact hrest d hd
 small:=by simp[Packer.start]

variable {p:Packer} {count:Nat}

lemma Packer.Sized.push (base:Nat) (h:p.Sized width count) (digit:Nat) :
 (p.push base width digit).Sized width (count+1) := by
 have hopen:=h.open_
 have htotal:=h.total
 by_cases hlast:width≤p.used+1
 · constructor
   · simp[Packer.push,if_pos hlast]
   · simp only[Packer.push,if_pos hlast];omega
   · simp only[Packer.push,if_pos hlast,length_append,length_singleton]
     rw[←htotal,Nat.add_mul]
     omega
 · constructor
   · simpa[Packer.push,if_neg hlast] using h.full
   · simp only[Packer.push,if_neg hlast];omega
   · simp only[Packer.push,if_neg hlast];omega

variable {digits:List Nat}

lemma Packer.Carries.push {digit:Nat} (h:p.Carries base width digits)
 (hfits:base^width≤256) (hdigit:digit<base) :
 (p.push base width digit).Carries base width (digits++[digit]) := by
 have hset:(p.slots.set p.used digit).length=width:=by simpa using h.sized.full
 have hproper:∀d∈p.slots.set p.used digit,d<base:=by
  intro d hd
  rcases mem_or_eq_of_mem_set hd with hd|rfl
  · exact h.proper d hd
  · exact hdigit
 have hfilled:(p.slots.set p.used digit).take (p.used+1)=p.slots.take p.used++[digit]:=by
  have hused:p.used<p.slots.length:=by rw[h.sized.full];exact h.sized.open_
  rw[take_add_one,take_set_of_le (Nat.le_refl _)]
  simp[hused]
 have hsized:(p.push base width digit).Sized width (digits++[digit]).length:=by
  simpa using h.sized.push base digit
 refine ⟨hsized,?_,?_,?_⟩
 · by_cases hlast:width≤p.used+1
   · have hall:p.slots.take p.used++[digit]=p.slots.set p.used digit:=by
      rw[←hfilled,take_of_length_le (by omega)]
     simp only[Packer.push,if_pos hlast,unpackBytes_append,
      unpackBytes_singleton hfits hset hproper,take_zero,append_nil]
     rw[←hall,←append_assoc,h.taken]
   · simp only[Packer.push,if_neg hlast,hfilled]
     rw[←append_assoc,h.taken]
 · intro d hd
   by_cases hlast:width≤p.used+1
   · simp only[Packer.push,if_pos hlast,mem_replicate] at hd
     omega
   · exact hproper d (by simpa only[Packer.push,if_neg hlast] using hd)
 · intro b hb
   by_cases hlast:width≤p.used+1
   · simp only[Packer.push,if_pos hlast,mem_append,mem_singleton] at hb
     rcases hb with hb|rfl
     · exact h.small b hb
     · exact packByte_lt hset hproper
   · exact h.small b (by simpa only[Packer.push,if_neg hlast] using hb)

lemma Packer.Sized.pushAll (base:Nat) (h:p.Sized width count) (digits:List Nat) :
 (p.pushAll base width digits).Sized width (count+digits.length) := by
 induction digits generalizing p count with
 | nil=>simpa using h
 | cons digit digits ih=>
  have:=ih (h.push base digit)
  rwa[Nat.add_assoc,Nat.add_comm 1] at this

lemma Packer.Carries.pushAll {taken:List Nat} (h:p.Carries base width taken)
 (hfits:base^width≤256) (digits:List Nat) (hdigits:∀d∈digits,d<base) :
 (p.pushAll base width digits).Carries base width (taken++digits) := by
 induction digits generalizing p taken with
 | nil=>simpa using h
 | cons digit digits ih=>
  have hpush:=h.push hfits (hdigits digit mem_cons_self)
  have:=ih hpush fun d hd=>hdigits d (mem_cons_of_mem _ hd)
  simpa using this

lemma Packer.Carries.unpack_finish (h:p.Carries base width digits)
 (hfits:base^width≤256) : (unpackBytes base width (p.finish base)).take digits.length=digits := by
 have hlength:(unpackBytes base width p.bytes).length+p.used=digits.length:=by
  have hused:p.used≤p.slots.length:=by rw[h.sized.full];exact Nat.le_of_lt h.sized.open_
  have:=congrArg List.length h.taken
  simpa[Nat.min_eq_left hused] using this
 unfold Packer.finish
 split
 · rw[unpackBytes_append,unpackBytes_singleton hfits h.sized.full h.proper,←hlength,
    take_append,take_of_length_le (by omega),Nat.add_sub_cancel_left,h.taken]
 · have:p.used=0:=by omega
   have htaken:=h.taken
   rw[this,take_zero,append_nil] at htaken
   rw[htaken,take_length]

lemma Packer.Carries.finish_lt (h:p.Carries base width digits) : ∀b∈p.finish base,b.toNat<base^width := by
 intro b hb
 unfold Packer.finish at hb
 split at hb
 · simp only[mem_append,mem_singleton] at hb
   rcases hb with hb|rfl
   · exact h.small b hb
   · exact packByte_lt h.sized.full h.proper
 · exact h.small b hb

lemma Packer.Sized.finish_length (base:Nat) (h:p.Sized width count) :
 (p.finish base).length=(count+(width-1))/width := by
 have hopen:=h.open_
 have htotal:=h.total
 have hpos:0<width:=by omega
 unfold Packer.finish
 split
 · have:count+(width-1)=(p.used-1)+width*(p.bytes.length+1):=by
    rw[←htotal,Nat.mul_comm p.bytes.length,Nat.mul_add]
    omega
   rw[this,Nat.add_mul_div_left _ _ hpos,Nat.div_eq_of_lt (by omega)]
   simp
 · have:count+(width-1)=(width-1)+width*p.bytes.length:=by
    rw[←htotal,Nat.mul_comm p.bytes.length]
    omega
   rw[this,Nat.add_mul_div_left _ _ hpos,Nat.div_eq_of_lt (by omega)]
   simp

lemma Packer.Sized.bytes_length (h:p.Sized width count) : p.bytes.length=count/width := by
 have hopen:=h.open_
 rw[←h.total,Nat.add_comm,Nat.add_mul_div_right _ _ (by omega),Nat.div_eq_of_lt hopen]
 simp

end Packing

end OpenAvnu.PackedDigits
