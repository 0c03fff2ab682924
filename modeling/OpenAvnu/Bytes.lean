import Mathlib.Data.List.Basic
import Mathlib.Tactic.Ring

/-!
# Big-endian fields

Written by appending, and read by advancing through the string.
-/

namespace OpenAvnu.Bytes

open List

def beBytes : Nat → Nat → List UInt8
 | 0, _=>[]
 | width+1, value=>UInt8.ofNat (value/256^width)::beBytes width value
def beValue (bytes:List UInt8) : Nat := bytes.foldl (fun acc b=>acc*256+b.toNat) 0
def takeField (width:Nat) (stream:List UInt8) : Nat×List UInt8 := (beValue (stream.take width),stream.drop width)

variable (width value:Nat) (rest bytes:List UInt8) {stream:List UInt8}

@[simp] lemma beBytes_length : (beBytes width value).length=width := by
 induction width with
 | zero=>rfl
 | succ width ih=>simp[beBytes,ih]

variable (acc:Nat)

lemma foldl_beBytes : (beBytes width value).foldl (fun acc b=>acc*256+b.toNat) acc=
  acc*256^width+value%256^width := by
 induction width generalizing acc with
 | zero=>simp[beBytes,Nat.mod_one]
 | succ width ih=>
  have hbyte:(UInt8.ofNat (value/256^width)).toNat=value/256^width%256:=rfl
  rw[beBytes,foldl_cons,ih,hbyte,Nat.mod_pow_succ]
  ring

@[simp] lemma beValue_beBytes : beValue (beBytes width value)=value%256^width := by
 simpa[beValue] using foldl_beBytes width value 0
@[simp] lemma takeField_beBytes : takeField width (beBytes width value++rest)=(value%256^width,rest) := by
 simp[takeField]
@[simp] lemma takeField_beBytes_end : takeField width (beBytes width value)=(value%256^width,[]) := by
 simpa using takeField_beBytes width value []
lemma beBytes_two {value:Nat} (hlt:value<65536) :
 ∃b0 b1,beBytes 2 value=[b0,b1] ∧ b0.toNat*256+b1.toNat=value := by
 refine ⟨_,_,rfl,?_⟩
 rw[UInt8.toNat_ofNat',UInt8.toNat_ofNat',pow_one,pow_zero,Nat.div_one]
 omega
lemma takeField_one_beBytes : (takeField 1 (beBytes (width+1) value++rest)).1=value/256^width%256 := by
 simp[takeField,beBytes,beValue]

lemma foldl_div : bytes.foldl (fun acc b=>acc*256+b.toNat) acc/256^bytes.length=acc := by
 induction bytes generalizing acc with
 | nil=>simp
 | cons b bytes ih=>
  have hb:=b.toNat_lt
  rw[foldl_cons,length_cons,pow_succ,←Nat.div_div_eq_div_mul,ih]
  omega

lemma takeField_lt (stream:List UInt8) : (takeField width stream).1<256^width := by
 have hlt:beValue (stream.take width)<256^(stream.take width).length:=
  (Nat.div_eq_zero_iff.1 (foldl_div (stream.take width) 0)).resolve_left (by simp)
 exact hlt.trans_le (Nat.pow_le_pow_right (by decide) (length_take_le width stream))

lemma beBytes_foldl : beBytes bytes.length (bytes.foldl (fun acc b=>acc*256+b.toNat) acc)=bytes := by
 induction bytes generalizing acc with
 | nil=>rfl
 | cons b bytes ih=>
  have hb:UInt8.ofNat (acc*256+b.toNat)=b:=by
   rw[←UInt8.toNat_inj,UInt8.toNat_ofNat']
   have hlt:=b.toNat_lt
   omega
  rw[foldl_cons,length_cons,beBytes,foldl_div,ih,hb]

lemma beBytes_takeField {width:Nat} (h:width ≤ stream.length) :
 beBytes width (takeField width stream).1++(takeField width stream).2=stream := by
 have hback:=beBytes_foldl (stream.take width) 0
 rw[length_take_of_le h] at hback
 exact (congrArg (· ++ stream.drop width) hback).trans (take_append_drop width stream)

lemma beBytes_takeField_end {width:Nat} (h:stream.length=width) :
 beBytes width (takeField width stream).1=stream := by
 have hback:=beBytes_takeField h.ge
 rwa[takeField,drop_eq_nil_of_le h.le,append_nil] at hback
lemma ofNat_field {width bits:Nat} (hbits:256^width=2^bits) (x:BitVec bits) :
 BitVec.ofNat bits (x.toNat%256^width)=x := by
 rw[hbits,Nat.mod_eq_of_lt x.isLt,BitVec.ofNat_toNat,BitVec.setWidth_eq]

end OpenAvnu.Bytes
