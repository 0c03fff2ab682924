import Mathlib.Algebra.GroupWithZero.Nat
import OpenAvnu.AemRegistry

/-!
# Lookups with values from the network

`openavb_aem.c` on any type that a command names, and the lengths of `ToBuf`. The outer `none` is a
read beyond a table.
-/

namespace OpenAvnu.Aem

open Runs List Option

def readTable (table:DescriptorType → Option (OpenavbArray Descriptor))
 (descriptorType descriptorIdx:Nat) : Option (Option Descriptor) :=
 if h:descriptorType<0x26 then
  some ((table ⟨descriptorType,h⟩).bind (openavbArrayDataIdx · descriptorIdx))
 else none

/-- `openavbAemFindDescriptor`, with a type that need not be known. -/
def findDescriptor (configIdx descriptorType descriptorIdx:Nat) (model:EntityModel) :
 Option (Option Descriptor) :=
 let config:=if configIdx=descriptorInvalid then none
  else openavbArrayDataIdx model.aemConfigurations configIdx
 if descriptorType=descriptorEntity.val then
  some ((some model.pDescriptorEntity).filter (model.descriptorIndex · = descriptorIdx))
 else if descriptorType=descriptorConfiguration.val then
  some ((config.map Configuration.pDescriptorConfiguration).filter
   (model.descriptorIndex · = descriptorIdx))
 else
  let found:=match config with
   | none=>some none
   | some config=>readTable config.descriptorsArray descriptorType descriptorIdx
  found.bind fun retDescriptor=>
   if retDescriptor.isSome then some retDescriptor
   else readTable model.aemNonTopLevelDescriptorsArray descriptorType descriptorIdx

def named : List Nat := [2,2,64,2]

/-- `BASE_LENGTH` and the widths that `ToBuf` copies before the elements. The one for CONTROL copies
`&control_type`. -/
def layout (pointerSize:Nat) : Nat → Option (Nat×List Nat)
 | 0x00=>some (312,[2,2,8,8,4,2,2,2,2,4,4,8,64,2,2,64,64,64,2,2])
 | 0x01=>some (74,named++[2,2])
 | 0x02=>some (144,named++replicate 33 2++[4,2,2])
 | 0x05 | 0x06=>some (132,named++[2,2,8,2,2,8,2,8,2,8,2,8,2,2,4])
 | 0x07 | 0x08=>some (78,named++[2,2,2,2])
 | 0x09=>some (98,named++[6,2,8,1,1,2,1,1,1,1,1,1,2])
 | 0x0a=>some (86,named++[2,2,8,2,2])
 | 0x0c=>some (72,[2,2,64,2,2])
 | 0x0d=>some (452,[2,2,7*64])
 | 0x0e | 0x0f=>some (20,replicate 10 2)
 | 0x10 | 0x11=>some (24,replicate 9 2++[4,2])
 | 0x14=>some (87,named++[2,2,2,4,4,2,1])
 | 0x17=>some (8,[2,2,2,2])
 | 0x1a=>some (104,named++[4,4,2,2,pointerSize,4,2,2,2,2,2])
 | 0x24=>some (76,named++[2,2,2])
 | _=>none

def descriptorControl : Nat := 0x1a

structure Contents where
 (count controlValueType:Nat)

/-- From `LINEAR_INT64` on the source copies the size of a pointer. -/
def controlValueLength (pointerSize controlValueType:Nat) : Nat :=
 if controlValueType<2 then 9
 else if controlValueType<4 then 14
 else if controlValueType<6 then 24
 else if controlValueType<10 then 6*pointerSize+2
 else 0

def elementsLength (pointerSize descriptorType:Nat) (contents:Contents) : Nat :=
 contents.count*match descriptorType with
  | 0x01 | 0x02=>4
  | 0x05 | 0x06 | 0x17=>8
  | 0x1a=>controlValueLength pointerSize contents.controlValueType
  | 0x24=>2
  | _=>0

/-- The octets that `ToBuf` writes; the one for CONTROL looks at the base length only. -/
def toBuf (pointerSize descriptorType:Nat) (contents:Contents) (bufLength:Nat) : Option Nat :=
 (layout pointerSize descriptorType).bind fun layout=>
  let elements:=if descriptorType=descriptorControl then 0
   else elementsLength pointerSize descriptorType contents
  if bufLength<layout.1+elements then none
  else some (layout.2.sum+elementsLength pointerSize descriptorType contents)

def openavbAemSerializeDescriptor (pointerSize:Nat) (update:Descriptor → Bool) (contents:Descriptor → Contents)
 (configIdx descriptorType descriptorIdx bufSize:Nat) (model:EntityModel) : Option (Option Nat) :=
 (findDescriptor configIdx descriptorType descriptorIdx model).map fun found=>
  found.bind fun descriptor=>
   if update descriptor then
    toBuf pointerSize descriptor.descriptorType (contents descriptor) bufSize
   else none

variable {update:Descriptor → Bool} {contents:Descriptor → Contents} {bufSize pointerSize:Nat}
 {model:EntityModel} {c t i:Nat}

lemma findDescriptor_eq (h:t<0x26) :
 findDescriptor c t i model=some (openavbAemFindDescriptor c ⟨t,h⟩ i model) := by
 have hentity:(⟨t,h⟩:DescriptorType)=descriptorEntity↔t=descriptorEntity.val:=
  Fin.ext_iff
 have hconfiguration:
  (⟨t,h⟩:DescriptorType)=descriptorConfiguration↔t=descriptorConfiguration.val:=
  Fin.ext_iff
 simp only[findDescriptor,openavbAemFindDescriptor,readTable,dif_pos h,hentity,hconfiguration]
 split_ifs
 · rfl
 · rfl
 · rfl
 · rfl
 · cases openavbArrayDataIdx model.aemConfigurations c with
   | none=>rfl
   | some config=>
    simp only[bind_some]
    cases (config.descriptorsArray ⟨t,h⟩).bind (openavbArrayDataIdx · i)<;>rfl

lemma findDescriptor_isSome_iff : (findDescriptor c t i model).isSome↔t<0x26 := by
 refine ⟨fun hsome=>?_,fun h=>by rw[findDescriptor_eq h];rfl⟩
 by_contra h
 have hentity:t≠descriptorEntity.val:=by rintro rfl;exact h (by decide)
 have hconfiguration:t≠descriptorConfiguration.val:=by rintro rfl;exact h (by decide)
 simp only[findDescriptor,if_neg hentity,if_neg hconfiguration,readTable,dif_neg h] at hsome
 generalize (if c=descriptorInvalid then none
  else openavbArrayDataIdx model.aemConfigurations c)=config at hsome
 cases config<;>simp at hsome

lemma toBuf_le_iff {descriptorType size:Nat} {contents:Contents}
 (h:toBuf pointerSize descriptorType contents bufSize=some size) : size≤bufSize ↔
 (descriptorType=descriptorControl →
  96+pointerSize+elementsLength pointerSize descriptorType contents≤bufSize) := by
 obtain ⟨⟨base,fields⟩,hlayout,h⟩:=bind_eq_some_iff.1 h
 obtain ⟨hle,hsize⟩:=ite_none_left_eq_some.1 h
 rw[←some.inj hsize]
 by_cases ht:descriptorType=descriptorControl
 · have hsum:fields.sum=96+pointerSize:=by
    rw[ht,descriptorControl] at hlayout
    cases hlayout
    simp only[named,sum_append,sum_cons,sum_nil]
    omega
   rw[hsum]
   exact ⟨fun h _=>h,fun h=>h ht⟩
 · have hsum:fields.sum=base:=by
    unfold layout at hlayout
    split at hlayout<;>first | exact absurd rfl ht | (cases hlayout<;>rfl)
   rw[if_neg ht] at hle
   rw[hsum]
   exact iff_of_true (Nat.not_lt.1 hle) fun h=>absurd h ht

def Holds (known:Descriptor → Prop) (t:DescriptorType)
 (descriptors:Option (OpenavbArray Descriptor)) : Prop :=
 ∀idx d,descriptors.bind (openavbArrayDataIdx · idx)=some d → known d ∧ d.descriptorType=t

structure Sound (known:Descriptor → Prop) (model:EntityModel) : Prop where
 entity:known model.pDescriptorEntity ∧
  model.pDescriptorEntity.descriptorType=descriptorEntity
 configurations:∀c config,openavbArrayDataIdx model.aemConfigurations c=some config →
  (known config.pDescriptorConfiguration ∧
   config.pDescriptorConfiguration.descriptorType=descriptorConfiguration) ∧
  ∀t,Holds known t (config.descriptorsArray t)
 others:∀t,Holds known t (model.aemNonTopLevelDescriptorsArray t)

variable {known:Descriptor → Prop}

lemma Sound.find (h:Sound known model) {t:DescriptorType} {d:Descriptor}
 (hfind:openavbAemFindDescriptor c t i model=some d) : known d ∧ d.descriptorType=t := by
 unfold openavbAemFindDescriptor at hfind
 generalize hc:(if c=descriptorInvalid then none
  else openavbArrayDataIdx model.aemConfigurations c)=found at hfind
 have hconfig:∀config,found=some config → _:=fun config hfound=>
  h.configurations c config (ite_none_left_eq_some.1 (hc.trans hfound)).2
 split_ifs at hfind with hentity hconfiguration
 · obtain ⟨he,-⟩:=filter_eq_some_iff.1 hfind
   exact hentity▸some.inj he▸h.entity
 · obtain ⟨hd,-⟩:=filter_eq_some_iff.1 hfind
   obtain ⟨config,hfound,rfl⟩:=map_eq_some_iff.1 hd
   exact hconfiguration▸(hconfig config hfound).1
 · rcases or_eq_some_iff.1 hfind with hd|⟨-,hd⟩
   · obtain ⟨array,harray,hd⟩:=bind_eq_some_iff.1 hd
     obtain ⟨config,hfound,harray⟩:=bind_eq_some_iff.1 harray
     exact (hconfig config hfound).2 t i d (by rw[harray];exact hd)
   · exact h.others t i d hd

lemma openavbArrayAdd_dataIdx {α:Type} {array array':OpenavbArray α} {data x:α}
 {idx idx':Nat} (hadd:openavbArrayAdd array data=some (array',idx'))
 (hx:openavbArrayDataIdx array' idx=some x) : x=data ∨ openavbArrayDataIdx array idx=some x := by
 unfold openavbArrayAdd at hadd
 split_ifs at hadd
 · obtain ⟨at',-,hset⟩:=map_eq_some_iff.1 hadd
   cases hset
   simp only[openavbArrayDataIdx,getElem?_set] at hx ⊢
   grind
 · cases hadd
   simp only[openavbArrayDataIdx,getElem?_append] at hx ⊢
   grind

lemma Holds.add {table:DescriptorType → Option (OpenavbArray Descriptor)}
 {array:OpenavbArray Descriptor} {d:Descriptor} {idx:Nat} (h:∀t,Holds known t (table t))
 (hd:known d) (hadd:addToArray (table d.descriptorType) d=some (array,idx))
 (t:DescriptorType) : Holds known t (Function.update table d.descriptorType (some array) t) := by
 by_cases ht:t=d.descriptorType
 · subst ht
   rw[Function.update_self]
   intro i x hx
   obtain ⟨-,hadd⟩:=ite_none_left_eq_some.1 hadd
   rcases openavbArrayAdd_dataIdx hadd hx with rfl|hx
   · exact ⟨hd,rfl⟩
   · cases hbefore:table d.descriptorType with
     | none=>simp[hbefore,openavbArrayDataIdx,openavbArrayNewArray] at hx
     | some before=>exact h _ i x (by simpa[hbefore] using hx)
 · rw[Function.update_of_ne ht]
   exact h t

lemma Sound.modifyConfiguration (h:Sound known model) {f:Configuration → Configuration}
 (hf:∀config,openavbArrayDataIdx model.aemConfigurations c=some config →
  (f config).pDescriptorConfiguration=config.pDescriptorConfiguration ∧
  ∀t,Holds known t ((f config).descriptorsArray t)) : Sound known (model.modifyConfiguration c f) := by
 refine ⟨h.entity,fun c' config hconfig=>?_,h.others⟩
 simp only[openavbArrayDataIdx,EntityModel.modifyConfiguration,getElem?_modify] at hconfig
 by_cases hc:c=c'
 · subst hc
   obtain ⟨before,hbefore,rfl⟩:∃before,
    openavbArrayDataIdx model.aemConfigurations c=some before ∧ f before=config:=by
    simp only[openavbArrayDataIdx]
    cases hget:model.aemConfigurations.elemArray[c]? with
    | none=>simp[hget] at hconfig
    | some slot=>simpa[hget] using hconfig
   obtain ⟨hsame,hholds⟩:=hf before hbefore
   exact ⟨hsame▸(h.configurations c before hbefore).1,hholds⟩
 · simp only[if_neg hc,id_map'] at hconfig
   exact h.configurations c' config hconfig

lemma Sound.addToConfiguration (h:Sound known model) (t:DescriptorType) (c:Nat) :
 Sound known (openavbAemAddDescriptorToConfiguration t c model).1 := by
 unfold openavbAemAddDescriptorToConfiguration
 split_ifs
 · exact h
 · exact h
 · refine h.modifyConfiguration ?_
   exact fun config hconfig=>⟨rfl,(h.configurations c config hconfig).2⟩

lemma Sound.add (h:Sound known model) {d:Descriptor} (hd:known d) (c:Nat) :
 Sound known (openavbAemAddDescriptor d c model).1 := by
 unfold openavbAemAddDescriptor
 dsimp only
 split_ifs with hentity hconfiguration htop
 · exact h
 · unfold openavbAemAddDescriptorConfiguration
   split
   · exact h
   next configurations retIdx hadd=>
    refine ⟨h.entity,fun c config hconfig=>?_,h.others⟩
    rcases openavbArrayAdd_dataIdx hadd hconfig with rfl|hconfig
    · exact ⟨⟨hd,hconfiguration⟩,fun t i d hnone=>by cases hnone⟩
    · exact h.configurations c config hconfig
 · split
   · exact h
   next config hconfig=>
    split
    · exact h
    next descriptors idx hadd=>
     refine Sound.addToConfiguration (Sound.modifyConfiguration ?_ ?_) _ c
     · exact ⟨h.entity,h.configurations,h.others⟩
     · intro config' hc
       obtain rfl:=some.inj (hconfig.symm.trans hc)
       exact ⟨rfl,Holds.add (h.configurations c config hconfig).2 hd hadd⟩
 · split
   · exact h
   next descriptors idx hadd=>
    exact ⟨h.entity,h.configurations,Holds.add h.others hd hadd⟩

def entityDescriptor (address:Nat) : Descriptor := ⟨address,descriptorEntity,true⟩

/-- The entity model after `openavbAemCreate` and any calls of `openavbAemAddDescriptor`. -/
def built (address:Nat) (descriptorIndex:Descriptor → Nat) (calls:List (Descriptor×Nat)) :
 EntityModel := (run step calls (start (entityDescriptor address) descriptorIndex)).model

lemma built_sound (address:Nat) (descriptorIndex:Descriptor → Nat)
 (calls:List (Descriptor×Nat)) : Sound (fun d=>d=entityDescriptor address ∨ d∈calls.map Prod.fst)
  (built address descriptorIndex calls) := by
 refine (throughout_of_along (P:=fun s:Session=>Sound _ s.model) (fun call s hcall h=>?_) ?_
  (along_iff_forall.2 fun _ hcall=>hcall)).last
 · have hmodel:(step call s).model=(openavbAemAddDescriptor call.1 call.2 s.model).1:=by
    unfold step
    dsimp only
    split<;>rfl
   rw[hmodel]
   exact h.add (.inr (mem_map_of_mem hcall)) call.2
 · refine ⟨⟨.inl rfl,rfl⟩,fun c config hc=>?_,fun t i d hd=>?_⟩
   · cases hc
   · cases hd

/-- In every built model only known types stay inside the tables, and only a CONTROL may not fit. -/
theorem lookups_total_iff (address:Nat) (descriptorIndex:Descriptor → Nat)
 (calls:List (Descriptor×Nat)) (update:Descriptor → Bool) (contents:Descriptor → Contents)
 (pointerSize configIdx descriptorType descriptorIdx bufSize:Nat) :
 let found:=findDescriptor configIdx descriptorType descriptorIdx
  (built address descriptorIndex calls)
 let serialized:=openavbAemSerializeDescriptor pointerSize update contents configIdx
  descriptorType descriptorIdx bufSize (built address descriptorIndex calls)
 (found.isSome↔descriptorType<0x26) ∧ (serialized.isSome↔descriptorType<0x26) ∧
 ∀d,found=some (some d) → d.descriptorType.val=descriptorType ∧
  (d=entityDescriptor address ∨ d∈calls.map Prod.fst) ∧
  ∀size,serialized=some (some size) → (size≤bufSize↔(descriptorType=descriptorControl →
   96+pointerSize+elementsLength pointerSize descriptorType (contents d)≤bufSize)) := by
 refine ⟨findDescriptor_isSome_iff,?_,fun d hd=>?_⟩
 · rw[openavbAemSerializeDescriptor,isSome_map]
   exact findDescriptor_isSome_iff
 · have ht:=findDescriptor_isSome_iff.1 (isSome_of_eq_some hd)
   rw[findDescriptor_eq ht,some_inj] at hd
   obtain ⟨hknown,htype⟩:=(built_sound address descriptorIndex calls).find hd
   have hval:d.descriptorType.val=descriptorType:=congrArg Fin.val htype
   refine ⟨hval,hknown,fun size hsize=>?_⟩
   rw[openavbAemSerializeDescriptor,findDescriptor_eq ht,hd,map_some,some_inj,bind_some] at hsize
   obtain ⟨-,hsize⟩:=ite_none_right_eq_some.1 hsize
   rw[hval] at hsize
   exact toBuf_le_iff hsize

theorem type_beyond_tables : findDescriptor 0 0x26 0 (built 0 (fun _=>0) [])=none ∧
 openavbAemSerializeDescriptor 8 (fun _=>true) (fun _=>⟨14,8⟩) 0 0x1a 0 508
  (built 0 (fun _=>0) [(⟨1,1,true⟩,0),(⟨2,0x1a,true⟩,0)])=some (some 804) := by
 decide

end OpenAvnu.Aem
