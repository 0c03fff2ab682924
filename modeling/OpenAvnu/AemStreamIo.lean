import Mathlib.Data.Fintype.Basic
import Mathlib.Tactic.FinCases

/-!
# Stream descriptors

What AECP and ACMP use of `openavb_descriptor_stream_io.c`. A format is 14 bytes, the first one on
the left.
-/

namespace OpenAvnu.AemStreamIo

/-- In the order of the source, which compares them. -/
inductive FastConnectStatus where
 | unknown | notAvailable | inProgress | timedOut | succeeded
deriving DecidableEq, Repr

def FastConnectStatus.started : FastConnectStatus → Bool
 | .unknown | .notAvailable=>false
 | .inProgress | .timedOut | .succeeded=>true

def octet (format:BitVec 112) (k:Nat) : BitVec 8 := format.extractLsb' (8*(13-k)) 8

/-- The counters are in the byte order of the host, which is little-endian. -/
def counter (format:BitVec 112) (k:Nat) : BitVec 32 := (octet format (k+1)++octet format k).setWidth 32

def buf (b₀ b₁ b₂ b₃ b₄ b₅ b₆ b₇:BitVec 8) : BitVec 64 := b₀++b₁++b₂++b₃++b₄++b₅++b₆++b₇

/-- The subtypes of IEC 61883 and IIDC, where `sf` is the third byte and `fmt` the fourth. -/
def iecToBuf (o:Nat → BitVec 8) : BitVec 64 :=
 let head:=(o 2 <<< 7) ||| (o 3 <<< 1)
 let fdf:=(o 4 <<< 3) ||| o 5
 let nb:=(o 7 <<< 7) ||| (o 8 <<< 6)
 if o 2=0 then buf 0 0 0 0 0 (o 3) (o 4) (o 5)
 else if o 3=0x20 then buf 0 head 0 0 0 0 0 0
 else if o 3=0x10 then
  if o 4=0x06 ∨ o 4=0x04 then buf 0 head fdf (o 6) nb 0 0 0
  else if o 4=0x00 then buf 0 head fdf (o 6) nb (o 9) (o 10) ((o 11 <<< 4) ||| o 12)
  else buf 0 0 0 0 0 0 0 0
 else if o 3=0x01 then buf 0 head 0 0 0 (o 4) (o 5) (o 6)
 else buf 0 0 0 0 0 0 0 0

def openavbAemStreamFormatToBuf (format:BitVec 112) : BitVec 64 :=
 let o:=octet format
 let (v,subtype):=(o 0,o 1)
 if v≠0 then buf (v <<< 7) 0 (o 2) (o 3) (o 4) (o 5) (o 6) (o 7)
 else if subtype=0x00 then iecToBuf o
 else if subtype=0x02 then
  let counts:=(counter format 6 <<< 22) ||| (counter format 8 <<< 12)
  buf subtype (o 2) (o 3) (o 4) (counts.extractLsb' 24 8) (counts.extractLsb' 16 8)
   (counts.extractLsb' 8 8) (counts.extractLsb' 0 8)
 else if subtype=0x03 then buf subtype (o 2) 0 0 0 0 0 0
 else if subtype=0x04 then buf subtype (o 2 <<< 4) (o 3) (o 4) (o 5) (o 6) (o 7) (o 8)
 else if subtype=0x6f then buf subtype 0 (o 2) (o 3) (o 4) (o 5) (o 6) (o 7)
 else buf subtype 0 0 0 0 0 0 0

lemma octet_buf {format:BitVec 112} {b₀ b₁ b₂ b₃ b₄ b₅ b₆ b₇:BitVec 8}
 (h:format=buf b₀ b₁ b₂ b₃ b₄ b₅ b₆ b₇++0#48) (k:Fin 8) : octet format k=[b₀,b₁,b₂,b₃,b₄,b₅,b₆,b₇].get k := by
 have hhigh:octet format k=(buf b₀ b₁ b₂ b₃ b₄ b₅ b₆ b₇).extractLsb' (8*(7-k)) 8:=by
  rw[h,octet,BitVec.extractLsb'_append_eq_of_le (by omega)]
  congr 1
  omega
 rw[hhigh,buf]
 fin_cases k
 all_goals
  dsimp only
  repeat rw[BitVec.extractLsb'_append_eq_of_le (by omega)]
  try rw[BitVec.extractLsb'_append_eq_right]
  simp

lemma iecToBuf_fixed {format:BitVec 112} (hsubtype:octet format 1=0)
 (h:format=iecToBuf (octet format)++0#48) : format=0 := by
 have hhead:∀sf fmt:BitVec 8,fmt <<< 1≠0 → (sf <<< 7) ||| (fmt <<< 1)≠0:=
  fun sf fmt hfmt h=>hfmt (BitVec.or_eq_zero_iff.1 h).2
 unfold iecToBuf at h
 dsimp only at h
 split_ifs at h with hsf hfmt hfmt hevt hevt hfmt
 · have hthree:octet format 3=0:=octet_buf h 3
   have hfour:octet format 4=0:=octet_buf h 4
   have hfive:octet format 5=octet format 3:=octet_buf h 5
   rw[hfive,hfour,hthree] at h
   exact h.trans (by decide)
 · exact absurd ((octet_buf h 1).symm.trans hsubtype) (hhead _ _ (by rw[hfmt];decide))
 · exact absurd ((octet_buf h 1).symm.trans hsubtype) (hhead _ _ (by rw[hfmt];decide))
 · exact absurd ((octet_buf h 1).symm.trans hsubtype) (hhead _ _ (by rw[hfmt];decide))
 · exact absurd (octet_buf h 2) hsf
 · exact absurd ((octet_buf h 1).symm.trans hsubtype) (hhead _ _ (by rw[hfmt];decide))
 · exact absurd (octet_buf h 2) hsf

lemma toBuf_fixed_iff (format:BitVec 112) : format=openavbAemStreamFormatToBuf format++0#48 ↔ format=0 := by
 constructor
 · intro h
   have hshift:∀v:BitVec 8,v=v <<< 7 → v=0:=by decide
   unfold openavbAemStreamFormatToBuf at h
   dsimp only at h
   split_ifs at h with hv hsub
   · exact absurd (hshift _ (octet_buf h 0)) hv
   · exact iecToBuf_fixed hsub h
   -- the first byte is the subtype, which is not zero
   all_goals exact absurd ((octet_buf h 0).symm.trans (not_not.1 hv)) hsub
 · rintro rfl
   decide

end OpenAvnu.AemStreamIo
