import Mathlib.Data.List.Nodup
import Mathlib.Logic.Function.Basic
import OpenAvnu.Runs

/-!
# The registry of AEM descriptors

`openavb_aem.c` over `openavb_array.c`. The entity model exists and memory is available;
configurations are new when added.
-/

namespace OpenAvnu.Aem

open Runs List Function

structure OpenavbArray (α:Type) where
 elemArray:List (Option α)
 count:Nat

variable {α:Type}

def openavbArrayNewArray : OpenavbArray α := ⟨[],0⟩
def openavbArrayAdd (array:OpenavbArray α) (data:α) : Option (OpenavbArray α×Nat) :=
 if array.count<array.elemArray.length then
  (array.elemArray.findIdx? Option.isNone).map fun idx=>
   (⟨array.elemArray.set idx (some data),array.count+1⟩,idx)
 else some (⟨array.elemArray++[some data],array.count+1⟩,array.elemArray.length)
def openavbArrayDataIdx (array:OpenavbArray α) (idx:Nat) : Option α := array.elemArray[idx]?.join
def openavbArrayFindData [DecidableEq α] (array:OpenavbArray α) (data:α) : Option Nat :=
 array.elemArray.findIdx? (· = some data)

abbrev DescriptorType := Fin 0x26
def descriptorEntity : DescriptorType := 0
def descriptorConfiguration : DescriptorType := 1
def descriptorInvalid : Nat := 0xffff

structure Descriptor where
 address:Nat
 descriptorType:DescriptorType
 bTopLevel:Bool
deriving DecidableEq

structure Configuration where
 pDescriptorConfiguration:Descriptor
 descriptorCounts:List (DescriptorType×Nat)
 descriptorsArray:DescriptorType → Option (OpenavbArray Descriptor)

/-- `descriptorIndex` is the field `descriptor_index` of every descriptor. -/
structure EntityModel where
 pDescriptorEntity:Descriptor
 aemConfigurations:OpenavbArray Configuration
 aemNonTopLevelDescriptorsArray:DescriptorType → Option (OpenavbArray Descriptor)
 descriptorIndex:Descriptor → Nat

def openavbAemFindDescriptor (configIdx:Nat) (descriptorType:DescriptorType)
 (descriptorIdx:Nat) (model:EntityModel) : Option Descriptor :=
 let config:=if configIdx=descriptorInvalid then none
  else openavbArrayDataIdx model.aemConfigurations configIdx
 if descriptorType=descriptorEntity then
  (some model.pDescriptorEntity).filter (model.descriptorIndex · = descriptorIdx)
 else if descriptorType=descriptorConfiguration then
  (config.map Configuration.pDescriptorConfiguration).filter
   (model.descriptorIndex · = descriptorIdx)
 else
  ((config.bind (·.descriptorsArray descriptorType)).bind (openavbArrayDataIdx · descriptorIdx)).or
   ((model.aemNonTopLevelDescriptorsArray descriptorType).bind
    (openavbArrayDataIdx · descriptorIdx))

def openavbAemGetDescriptor (configIdx:Nat) (descriptorType:DescriptorType)
 (descriptorIdx:Nat) (model:EntityModel) : Option Descriptor :=
 openavbAemFindDescriptor configIdx descriptorType descriptorIdx model

/-- `openavbAemGetDescriptorIndex`, whose loop starts at `descriptorIdx = 0`. -/
def openavbAemGetDescriptorIndex (configIdx:Nat) (pDescriptor:Descriptor)
 (model:EntityModel) : (fuel descriptorIdx:Nat) → Option Nat
 | 0, _=>none
 | fuel+1, descriptorIdx=>
  match openavbAemFindDescriptor configIdx pDescriptor.descriptorType descriptorIdx model with
  | none=>some descriptorInvalid
  | some pTest=>
   if pTest=pDescriptor then some descriptorIdx
   else openavbAemGetDescriptorIndex configIdx pDescriptor model fuel
    ((descriptorIdx+1)%0x10000)

/-- A new array, which the source makes of a missing one, never refuses. -/
def addToArray (descriptors:Option (OpenavbArray Descriptor)) (pDescriptor:Descriptor) :
 Option (OpenavbArray Descriptor×Nat) :=
 let descriptors:=descriptors.getD openavbArrayNewArray
 if (openavbArrayFindData descriptors pDescriptor).isSome then none
 else openavbArrayAdd descriptors pDescriptor
def EntityModel.modifyConfiguration (model:EntityModel) (configIdx:Nat)
 (f:Configuration → Configuration) : EntityModel :=
 {model with aemConfigurations:={model.aemConfigurations with
   elemArray:=model.aemConfigurations.elemArray.modify configIdx (Option.map f)}}

/-- The array `descriptor_counts` has 108 entries, more than there are types. -/
def bumpCount (descriptorType:DescriptorType) : List (DescriptorType×Nat) → List (DescriptorType×Nat)
 | []=>[(descriptorType,1)]
 | (t,count)::counts=>
  if t=descriptorType then (t,(count+1)%0x10000)::counts
  else (t,count)::bumpCount descriptorType counts

def openavbAemAddDescriptorToConfiguration (descriptorType:DescriptorType) (configIdx:Nat)
 (model:EntityModel) : EntityModel×Bool :=
 if configIdx=descriptorInvalid then (model,false)
 else if (openavbArrayDataIdx model.aemConfigurations configIdx).isNone then (model,false)
 else (model.modifyConfiguration configIdx fun config=>
  {config with descriptorCounts:=bumpCount descriptorType config.descriptorCounts},true)

def openavbAemAddDescriptorConfiguration (pDescriptor:Descriptor) (model:EntityModel) : EntityModel×Option Nat :=
 match openavbArrayAdd model.aemConfigurations ⟨pDescriptor,[],fun _=>none⟩ with
 | none=>(model,none)
 | some (configurations,retIdx)=>
  ({model with aemConfigurations:=configurations},some (retIdx%0x10000))

/-- The model, and the index that is reported by a call that returns TRUE. -/
def openavbAemAddDescriptor (pDescriptor:Descriptor) (configIdx:Nat) (model:EntityModel) :
 EntityModel×Option Nat :=
 let descriptorType:=pDescriptor.descriptorType
 if descriptorType=descriptorEntity then (model,none)
 else if descriptorType=descriptorConfiguration then
  openavbAemAddDescriptorConfiguration pDescriptor model
 else if pDescriptor.bTopLevel then
  match openavbArrayDataIdx model.aemConfigurations configIdx with
  | none=>(model,none)
  | some config=>
   match addToArray (config.descriptorsArray descriptorType) pDescriptor with
   | none=>(model,none)
   | some (descriptors,idx)=>
    let model:={model with
     descriptorIndex:=update model.descriptorIndex pDescriptor (idx%0x10000)}
    let model:=model.modifyConfiguration configIdx fun config=>{config with
     descriptorsArray:=update config.descriptorsArray descriptorType descriptors}
    let result:=openavbAemAddDescriptorToConfiguration descriptorType configIdx model
    (result.1,if result.2 then some (idx%0x10000) else none)
 else
  match addToArray (model.aemNonTopLevelDescriptorsArray descriptorType) pDescriptor with
  | none=>(model,none)
  | some (descriptors,idx)=>
   ({model with
      aemNonTopLevelDescriptorsArray:=
       update model.aemNonTopLevelDescriptorsArray descriptorType descriptors
      descriptorIndex:=update model.descriptorIndex pDescriptor (idx%0x10000)},some (idx%0x10000))

structure Entry where
 descriptor:Descriptor
 (configIdx index:Nat)

/-- A type, and the configuration if it is top level: there is an array for each. -/
abbrev Place := Option Nat×DescriptorType
def place (d:Descriptor) (configIdx:Nat) : Place :=
 (if d.bTopLevel then some configIdx else none,d.descriptorType)

structure Session where
 model:EntityModel
 added:List Entry

def step (call:Descriptor×Nat) (s:Session) : Session :=
 let result:=openavbAemAddDescriptor call.1 call.2 s.model
 match result.2 with
 | none=>⟨result.1,s.added⟩
 | some index=>⟨result.1,if call.1.descriptorType=descriptorConfiguration then s.added
  else s.added++[⟨call.1,call.2,index⟩]⟩

def Entry.place (e:Entry) : Place := Aem.place e.descriptor e.configIdx
def registered (added:List Entry) (p:Place) : List Entry := added.filter (·.place=p)
def names (added:List Entry) (p:Place) : List Descriptor := (registered added p).map Entry.descriptor
def ofList (l:List α) : OpenavbArray α := ⟨l.map some,l.length⟩
@[simp] lemma openavbArrayDataIdx_ofList (l:List α) (idx:Nat) : openavbArrayDataIdx (ofList l) idx=l[idx]? := by
 simp only[openavbArrayDataIdx,ofList,getElem?_map]
 cases l[idx]?<;>rfl
@[simp] lemma openavbArrayAdd_ofList (l:List α) (data:α) :
 openavbArrayAdd (ofList l) data=some (ofList (l++[data]),l.length) := by
 simp[openavbArrayAdd,ofList]
def arrayOf (l:List Descriptor) : Option (OpenavbArray Descriptor) :=
 if l=[] then none else some (ofList l)
lemma arrayOf_bind (l:List Descriptor) (idx:Nat) : (arrayOf l).bind (openavbArrayDataIdx · idx)=l[idx]? := by
 cases l<;>simp[arrayOf]

lemma addToArray_arrayOf (l:List Descriptor) (d:Descriptor) :
 addToArray (arrayOf l) d=if d∈l then none else some (ofList (l++[d]),l.length) := by
 have hget:(arrayOf l).getD openavbArrayNewArray=ofList l:=by
  cases l<;>simp[arrayOf,openavbArrayNewArray,ofList]
 have hfind:(openavbArrayFindData (ofList l) d).isSome↔d∈l:=by
  simp[openavbArrayFindData,ofList]
 simp[addToArray,hget,hfind]

variable {added:List Entry} {s:Session} {e:Entry} {c:Nat} {t:DescriptorType}
 {p:Place}

lemma registered_append (added:List Entry) (e:Entry) (p:Place) :
 registered (added++[e]) p=registered added p++if e.place=p then [e] else [] := by
 by_cases h:e.place=p<;>simp[registered,h]
lemma names_append (added:List Entry) (e:Entry) (p:Place) :
 names (added++[e]) p=names added p++if e.place=p then [e.descriptor] else [] := by
 rw[names,registered_append]
 split_ifs<;>simp[names]

/-- The log numbers the descriptors of every array, and has none of them twice. -/
structure Logged (added:List Entry) : Prop where
 numbered:∀p idx e,(registered added p)[idx]? = some e → e.index=idx%0x10000
 nodup:∀p,(names added p).Nodup

lemma Logged.append (h:Logged added)
 (hindex:e.index=(names added e.place).length%0x10000)
 (hnew:e.descriptor∉names added e.place) : Logged (added++[e]) := by
 refine ⟨fun p idx e' hget=>?_,fun p=>?_⟩
 · by_cases hp:e.place=p
   · rw[registered_append,getElem?_append] at hget
     split_ifs at hget with hlt
     · exact h.numbered p idx e' hget
     · obtain ⟨hidx,rfl⟩:idx-(registered added p).length=0 ∧ e=e':=by
        simpa[getElem?_singleton] using hget
       rw[hindex,hp,names,length_map]
       congr 1
       omega
   · rw[registered_append,if_neg hp,append_nil] at hget
     exact h.numbered p idx e' hget
 · rw[names_append]
   split_ifs with hp
   · exact (h.nodup p).append (nodup_singleton _) (disjoint_singleton.mpr (hp▸hnew))
   · rw[append_nil]
     exact h.nodup p

def arraysOf (added:List Entry) (c:Option Nat) (t:DescriptorType) :
 Option (OpenavbArray Descriptor) := arrayOf (names added (c,t))

lemma arraysOf_append (added:List Entry) (e:Entry) (c:Option Nat) :
 arraysOf (added++[e]) c=if e.place.1=c then update (arraysOf added c) e.place.2
  (ofList (names added e.place++[e.descriptor])) else arraysOf added c := by
 funext t
 unfold arraysOf
 rw[names_append]
 by_cases hc:e.place.1=c
 · by_cases ht:e.place.2=t
   · subst hc ht
     simp[arrayOf]
   · rw[if_pos hc,update_of_ne (Ne.symm ht),if_neg fun hp=>ht (congrArg Prod.snd hp),append_nil]
 · rw[if_neg hc,if_neg fun hp=>hc (congrArg Prod.fst hp),append_nil]

def countsOf (added:List Entry) (c:Nat) : List (DescriptorType×Nat) :=
 (added.filter (·.place.1=some c)).foldl (fun counts e=>bumpCount e.place.2 counts) []
lemma countsOf_append (added:List Entry) (e:Entry) (c:Nat) : countsOf (added++[e]) c=
 if e.place.1=some c then bumpCount e.place.2 (countsOf added c) else countsOf added c := by
 by_cases h:e.place.1=some c<;>simp[countsOf,h]

def configurationOf (added:List Entry) (c:Nat) (d:Descriptor) : Configuration :=
 ⟨d,countsOf added c,arraysOf added (some c)⟩

structure Mirrors (s:Session) : Prop where
 logged:Logged s.added
 others:s.model.aemNonTopLevelDescriptorsArray=arraysOf s.added none
 configurations:∃ds : List Descriptor,
  s.model.aemConfigurations=ofList (ds.mapIdx (configurationOf s.added)) ∧
  ∀e∈s.added,∀c,e.place.1=some c → c<ds.length

lemma configurationOf_new (h:∀e∈added,e.place.1≠some c) (d:Descriptor) :
 configurationOf added c d=⟨d,[],fun _=>none⟩ := by
 have hcounts:added.filter (·.place.1=some c)=[]:=
  filter_eq_nil_iff.mpr fun e he=>by simpa using h e he
 have hnames:∀t,registered added (some c,t)=[]:=fun t=>
  filter_eq_nil_iff.mpr fun e he hp=>
   h e he (congrArg Prod.fst (of_decide_eq_true hp))
 simp only[configurationOf,countsOf,hcounts,foldl_nil,Configuration.mk.injEq,true_and]
 funext t
 rw[arraysOf,names,hnames]
 rfl

lemma configurationOf_append_other (h:e.place.1=none) : configurationOf (added++[e])=configurationOf added := by
 funext c d
 simp[configurationOf,countsOf_append,arraysOf_append,h]

lemma modify_configurationOf (ds:List Descriptor) (h:e.place.1=some c) :
 (ds.mapIdx (configurationOf added)).modify c (fun config=>
  ⟨config.pDescriptorConfiguration,bumpCount e.place.2 config.descriptorCounts,
   update config.descriptorsArray e.place.2
    (ofList (names added e.place++[e.descriptor]))⟩)=ds.mapIdx (configurationOf (added++[e])) := by
 refine ext_getElem? fun i=>?_
 rw[getElem?_modify,getElem?_mapIdx,getElem?_mapIdx]
 cases ds[i]? with
 | none=>rfl
 | some d=>
  simp only[Option.map_some,configurationOf,countsOf_append,arraysOf_append,h,Option.some.injEq]
  split_ifs<;>rfl

variable {model:EntityModel} {l:List Configuration}

lemma modifyConfiguration_ofList (h:model.aemConfigurations=ofList l)
 (f:Configuration → Configuration) :
 (model.modifyConfiguration c f).aemConfigurations=ofList (l.modify c f) := by
 simp only[EntityModel.modifyConfiguration,h,ofList,length_modify]
 congr 1
 refine ext_getElem? fun i=>?_
 rw[getElem?_modify,getElem?_map,getElem?_map,getElem?_modify]
 cases l[i]? with
 | none=>rfl
 | some config=>by_cases hi:c=i<;>simp[hi]

lemma addDescriptorToConfiguration_eq (h:model.aemConfigurations=ofList l) (hc:c<l.length)
 (hsize:l.length≤0xffff) :
 openavbAemAddDescriptorToConfiguration t c model=(model.modifyConfiguration c fun config=>
  {config with descriptorCounts:=bumpCount t config.descriptorCounts},true) := by
 have hvalid:c≠descriptorInvalid:=by
  unfold descriptorInvalid
  omega
 rw[openavbAemAddDescriptorToConfiguration,if_neg hvalid,h,openavbArrayDataIdx_ofList,getElem?_eq_getElem hc]
 rfl

lemma Mirrors.step (h:Mirrors s)
 (hsize:s.model.aemConfigurations.elemArray.length≤0xffff) (d:Descriptor) (c:Nat) : Mirrors (step (d,c) s) := by
 obtain ⟨ds,hds,hlt⟩:=h.configurations
 rw[hds,ofList] at hsize
 obtain ⟨e,he⟩:∃e:Entry,e=⟨d,c,(names s.added (place d c)).length%0x10000⟩:=
  ⟨_,rfl⟩
 have hlogged:d∉names s.added (place d c) → Logged (s.added++[e]):=fun hnew=>
  h.logged.append (by rw[he];rfl) (by rwa[he])
 unfold Aem.step openavbAemAddDescriptor
 by_cases hentity:d.descriptorType=descriptorEntity
 · simp only[if_pos hentity]
   exact h
 by_cases hconfiguration:d.descriptorType=descriptorConfiguration
 · simp only[if_neg hentity,if_pos hconfiguration,openavbAemAddDescriptorConfiguration,hds,
    openavbArrayAdd_ofList]
   have hnew:=configurationOf_new (fun e he hc=>Nat.lt_irrefl _ (hlt e he _ hc)) d
   refine ⟨h.logged,h.others,ds++[d],?_,fun e he c hc=>?_⟩
   · rw[mapIdx_concat,hnew]
   · rw[length_append]
     exact Nat.lt_add_right _ (hlt e he c hc)
 simp only[if_neg hentity,if_neg hconfiguration]
 cases htop:d.bTopLevel with
 | true=>
  have hplace:place d c=(some c,d.descriptorType):=by rw[place,htop];rfl
  simp only[hds,openavbArrayDataIdx_ofList,getElem?_mapIdx]
  cases hc:ds[c]? with
  | none=>exact h
  | some config=>
   have hlen:=(List.getElem?_eq_some_iff.mp hc).1
   simp only[Option.map_some,configurationOf,arraysOf,addToArray_arrayOf,←hplace]
   by_cases hmem:d∈names s.added (place d c)
   · simp only[if_pos hmem]
     exact h
   · simp only[if_neg hmem]
     generalize hmodel:EntityModel.modifyConfiguration _ c _=model
     have hplaced:model.aemConfigurations=ofList (List.modify _ c _):=
      hmodel▸modifyConfiguration_ofList rfl _
     rw[addDescriptorToConfiguration_eq hplaced (by simpa using hlen) (by simpa using hsize)]
     simp only[if_true,←he]
     have hfirst:e.place.1=some c:=by rw[he];exact congrArg Prod.fst hplace
     refine ⟨hlogged hmem,?_,ds,?_,List.forall_mem_append.mpr ⟨hlt,List.forall_mem_singleton.mpr fun c' hc'=>?_⟩⟩
     · rw[arraysOf_append,hfirst]
       exact hmodel▸h.others
     · rw[←modify_configurationOf ds hfirst,modifyConfiguration_ofList hplaced,List.modify_modify_eq,he]
       rfl
     · exact Option.some.inj (hfirst.symm.trans hc')▸hlen
 | false=>
  have hplace:place d c=(none,d.descriptorType):=by rw[place,htop];rfl
  simp only[Bool.false_eq_true,if_false,h.others,arraysOf,addToArray_arrayOf,←hplace]
  by_cases hmem:d∈names s.added (place d c)
  · simp only[if_pos hmem]
    exact h
  · have hfirst:e.place.1=none:=by rw[he];exact congrArg Prod.fst hplace
    simp only[if_neg hmem,←he]
    refine ⟨hlogged hmem,?_,ds,?_,List.forall_mem_append.mpr ⟨hlt,List.forall_mem_singleton.mpr fun c' hc'=>?_⟩⟩
    · rw[arraysOf_append,if_pos hfirst,he]
      rfl
    · rw[configurationOf_append_other hfirst]
      exact hds
    · cases hfirst.symm.trans hc'

lemma size_add_le (d:Descriptor) (c:Nat) (model:EntityModel) : model.aemConfigurations.elemArray.length ≤
  (openavbAemAddDescriptor d c model).1.aemConfigurations.elemArray.length := by
 unfold openavbAemAddDescriptor
 dsimp only
 split_ifs
 · exact Nat.le_refl _
 · unfold openavbAemAddDescriptorConfiguration openavbArrayAdd
   split_ifs
   · cases List.findIdx? Option.isNone model.aemConfigurations.elemArray<;>simp
   · simp
 · split
   · exact Nat.le_refl _
   · split
     · exact Nat.le_refl _
     · unfold openavbAemAddDescriptorToConfiguration
       split_ifs<;>simp[EntityModel.modifyConfiguration]
 · split<;>exact Nat.le_refl _

def start (entity:Descriptor) (descriptorIndex:Descriptor → Nat) : Session :=
 ⟨⟨entity,openavbArrayNewArray,fun _=>none,descriptorIndex⟩,[]⟩

variable {top:DescriptorType → Bool}

def Levels (top:DescriptorType → Bool) (added:List Entry) : Prop :=
 ∀e∈added,e.descriptor.bTopLevel=top e.descriptor.descriptorType

lemma run_mirrors {calls:List (Descriptor×Nat)} {entity:Descriptor}
 {descriptorIndex:Descriptor → Nat}
 (hlevel:∀call∈calls,call.1.bTopLevel=top call.1.descriptorType)
 (hs:run step calls (start entity descriptorIndex)=s) :
 Levels top s.added ∧ (s.model.aemConfigurations.elemArray.length≤0xffff → Mirrors s) := by
 subst hs
 refine (throughout_of_along (P:=fun s=>Levels top s.added ∧
  (s.model.aemConfigurations.elemArray.length≤0xffff → Mirrors s))
  (fun call s hcall h=>⟨?_,fun hsize=>?_⟩) ⟨?_,fun _=>?_⟩
  (along_iff_forall.mpr hlevel)).last
 · unfold step
   dsimp only
   split
   · exact h.1
   · split_ifs
     · exact h.1
     · exact List.forall_mem_append.mpr ⟨h.1,List.forall_mem_singleton.mpr hcall⟩
 · have hmodel:(step call s).model=(openavbAemAddDescriptor call.1 call.2 s.model).1:=by
    unfold step
    dsimp only
    split<;>rfl
   have hbefore:=Nat.le_trans (size_add_le call.1 call.2 s.model) (hmodel▸hsize)
   exact (h.2 hbefore).step hbefore call.1 call.2
 · exact List.forall_mem_nil _
 · exact ⟨⟨nofun,fun _=>nodup_nil⟩,rfl,[],rfl,nofun⟩

lemma Levels.registered_nil (h:Levels top added) (hp:p.1.isSome≠top p.2) : registered added p=[] := by
 refine filter_eq_nil_iff.mpr fun e he hplace=>hp ?_
 rw[←of_decide_eq_true hplace,Entry.place,place,←h e he]
 cases e.descriptor.bTopLevel<;>rfl

lemma Mirrors.find (h:Mirrors s) (hlevels:Levels top s.added)
 (hsize:s.model.aemConfigurations.elemArray.length≤0xffff) (hentity:t≠descriptorEntity)
 (hconfiguration:t≠descriptorConfiguration) (c idx:Nat) : openavbAemFindDescriptor c t idx s.model=
  (names s.added (if top t then some c else none,t))[idx]? := by
 obtain ⟨ds,hds,hlt⟩:=h.configurations
 rw[hds,ofList,length_map,length_mapIdx] at hsize
 have hconfig:(if c=descriptorInvalid then none else ds[c]?.map (configurationOf s.added c))=
  ds[c]?.map (configurationOf s.added c):=by
  split_ifs with hc
  · rw[getElem?_eq_none (hc▸hsize)]
    rfl
  · rfl
 have hsome:((ds[c]?.map (configurationOf s.added c)).bind (·.descriptorsArray t)).bind
  (openavbArrayDataIdx · idx)=(names s.added (some c,t))[idx]?:=by
  cases hc:ds[c]? with
  | none=>
   have hnone:registered s.added (some c,t)=[]:=
    filter_eq_nil_iff.mpr fun e he hplace=>Nat.not_lt.mpr (List.getElem?_eq_none_iff.mp hc)
     (hlt e he c (congrArg Prod.fst (of_decide_eq_true hplace)))
   simp[names,hnone]
  | some d=>exact arrayOf_bind _ _
 simp only[openavbAemFindDescriptor,if_neg hentity,if_neg hconfiguration,hds,h.others,
  openavbArrayDataIdx_ofList,getElem?_mapIdx,hconfig,hsome,arraysOf,arrayOf_bind]
 cases htop:top t with
 | true=>simp[names,hlevels.registered_nil (p:=(none,t)) (by simp[htop])]
 | false=>simp[names,hlevels.registered_nil (p:=(some c,t)) (by simp[htop])]

lemma getDescriptorIndex_spec {l:List Descriptor} {d:Descriptor}
 (hfind:∀i,openavbAemFindDescriptor c d.descriptorType i model=l[i]?) (hnodup:l.Nodup)
 (hlen:l.length<0xffff) (fuel idx:Nat) (hfuel:l.length < idx+fuel) (hidx:idx≤l.length)
 (hearlier:∀i,i < idx → l[i]? ≠ some d) : ∃r,openavbAemGetDescriptorIndex c d model fuel idx=some r ∧
  ∀i,l[i]? = some d↔i=r ∧ r≠descriptorInvalid := by
 induction fuel generalizing idx with
 | zero=>omega
 | succ fuel ih=>
  rw[openavbAemGetDescriptorIndex,hfind]
  cases hget:l[idx]? with
  | none=>
   refine ⟨_,rfl,fun i=>⟨fun hi=>?_,fun h=>absurd rfl h.2⟩⟩
   have hlast:=List.getElem?_eq_none_iff.mp hget
   have hi':=(List.getElem?_eq_some_iff.mp hi).1
   exact absurd hi (hearlier i (by omega))
  | some pTest=>
   have hlt:=(List.getElem?_eq_some_iff.mp hget).1
   by_cases hd:pTest=d
   · subst hd
     refine ⟨idx,if_pos rfl,fun i=>⟨fun hi=>⟨?_,?_⟩,fun h=>h.1▸hget⟩⟩
     · exact ((getElem?_inj hlt hnodup).mp (hget.trans hi.symm)).symm
     · unfold descriptorInvalid
       omega
   · have hnext:(idx+1)%0x10000=idx+1:=Nat.mod_eq_of_lt (by omega)
     simp only[if_neg hd,hnext]
     refine ih (idx+1) (by omega) hlt fun i hi=>?_
     rcases Nat.lt_succ_iff_lt_or_eq.mp hi with hi|rfl
     · exact hearlier i hi
     · exact fun h=>hd (Option.some.inj (hget.symm.trans h))

lemma Mirrors.refused (h:Mirrors s) {d:Descriptor}
 (hconfiguration:d.descriptorType≠descriptorConfiguration)
 (hd:d∈names s.added (place d c)) : (openavbAemAddDescriptor d c s.model).2=none := by
 obtain ⟨ds,hds,-⟩:=h.configurations
 unfold openavbAemAddDescriptor
 simp only[hds,h.others,openavbArrayDataIdx_ofList,getElem?_mapIdx]
 split_ifs with _ htop
 · rfl
 · cases ds[c]? with
   | none=>rfl
   | some config=>
    rw[place,if_pos htop] at hd
    simp[configurationOf,arraysOf,addToArray_arrayOf,if_pos hd]
 · rw[place,if_neg htop] at hd
   simp only[arraysOf,addToArray_arrayOf,if_pos hd]

lemma bumpCount_map {types:List DescriptorType} {n:DescriptorType → Nat}
 (hnodup:types.Nodup) (hzero:t∉types → n t=0) : ∃types' : List DescriptorType,
 types'.Nodup ∧ (∀t',t'∈types'↔t'∈types ∨ t'=t) ∧
  bumpCount t (types.map fun t'=>(t',n t'))=types'.map fun t'=>(t',update n t ((n t+1)%0x10000) t') := by
 induction types with
 | nil=>exact ⟨[t],nodup_singleton t,by simp,by simp[bumpCount,hzero]⟩
 | cons t' types ih=>
  obtain ⟨hnot,hnodup⟩:=nodup_cons.mp hnodup
  by_cases ht:t'=t
  · subst ht
    refine ⟨t'::types,nodup_cons.mpr ⟨hnot,hnodup⟩,by simp,?_⟩
    simp only[map_cons,bumpCount,if_true,update_self]
    congr 1
    refine map_congr_left fun x hx=>?_
    have hne:x≠t':=fun heq=>hnot (heq▸hx)
    rw[update_of_ne hne]
  · simp only[mem_cons,Ne.symm ht,false_or] at hzero
    obtain ⟨types',hnodup',hmem,hbump⟩:=ih hnodup hzero
    refine ⟨t'::types',nodup_cons.mpr ⟨?_,hnodup'⟩,fun x=>?_,?_⟩
    · rw[hmem]
      exact not_or.mpr ⟨hnot,ht⟩
    · rw[mem_cons,mem_cons,hmem,or_assoc]
    · simp[bumpCount,if_neg ht,hbump,update_of_ne ht]

lemma countsOf_eq (added:List Entry) (c:Nat) : ∃types : List DescriptorType,
 types.Nodup ∧ (∀t,t∈types↔names added (some c,t)≠[]) ∧
  countsOf added c=types.map fun t=>(t,(names added (some c,t)).length%0x10000) := by
 induction added using List.reverseRecOn with
 | nil=>exact ⟨[],nodup_nil,fun t=>iff_of_false nofun (· rfl),rfl⟩
 | append_singleton added e ih=>
  obtain ⟨types,hnodup,hmem,hcounts⟩:=ih
  rw[countsOf_append]
  by_cases hc:e.place.1=some c
  · have hnames:∀t,names (added++[e]) (some c,t)=
     names added (some c,t)++if t=e.place.2 then [e.descriptor] else []:=fun t=>by
     simp[names_append,Prod.ext_iff,hc,eq_comm]
    have hzero:e.place.2∉types → (names added (some c,e.place.2)).length%0x10000=0:=by
     intro hnot
     rw[hmem,not_not] at hnot
     rw[hnot]
     rfl
    obtain ⟨types',hnodup',hmem',hbump⟩:=bumpCount_map
     (n:=fun t=>(names added (some c,t)).length%0x10000) hnodup hzero
    refine ⟨types',hnodup',fun t=>?_,?_⟩
    · rw[hmem',hmem,hnames]
      by_cases ht:t=e.place.2<;>simp[ht]
    · rw[if_pos hc,hcounts,hbump]
      refine map_congr_left fun t _=>?_
      rw[hnames]
      by_cases ht:t=e.place.2
      · subst ht
        simp
      · simp[ht]
  · have hne:∀t,e.place≠(some c,t):=fun t hp=>hc (congrArg Prod.fst hp)
    simp only[if_neg hc,names_append,if_neg (hne _),append_nil]
    exact ⟨types,hnodup,hmem,hcounts⟩

theorem registry_faithful (entity:Descriptor) (descriptorIndex:Descriptor → Nat)
 (top:DescriptorType → Bool) (calls:List (Descriptor×Nat)) (s:Session)
 (hlevel:∀call∈calls,call.1.bTopLevel=top call.1.descriptorType)
 (hs:run step calls (start entity descriptorIndex)=s)
 (hconfigurations:s.model.aemConfigurations.elemArray.length≤65534)
 (htypes:∀t,(s.added.filter (·.descriptor.descriptorType=t)).length≤65534) :
 (∀c t idx,t≠descriptorEntity → t≠descriptorConfiguration →
  openavbAemGetDescriptor c t idx s.model=
   (registered s.added (if top t then some c else none,t))[idx]?.map Entry.descriptor) ∧
 (∀p idx (e:Entry),(registered s.added p)[idx]? = some e → e.index=idx) ∧
 (∀c d,d.descriptorType≠descriptorConfiguration → d∈names s.added (place d c) →
  (openavbAemAddDescriptor d c s.model).2=none) ∧
 (∀c d fuel,d.descriptorType≠descriptorEntity → d.descriptorType≠descriptorConfiguration →
  0xffff≤fuel → ∃r,openavbAemGetDescriptorIndex c d s.model fuel 0=some r ∧ ∀idx,
   openavbAemGetDescriptor c d.descriptorType idx s.model=some d ↔
    idx=r ∧ r≠descriptorInvalid) ∧
 ∀c config,openavbArrayDataIdx s.model.aemConfigurations c=some config →
  ∃types : List DescriptorType,types.Nodup ∧
   (∀t,t∈types↔registered s.added (some c,t)≠[]) ∧
   config.descriptorCounts=types.map fun t=>(t,(registered s.added (some c,t)).length) := by
 have hsize:s.model.aemConfigurations.elemArray.length≤0xffff:=by omega
 obtain ⟨hlevels,h⟩:=run_mirrors hlevel hs
 specialize h hsize
 have hfew:∀p,(registered s.added p).length≤65534:=fun p=>
  Nat.le_trans (monotone_filter_right s.added fun _ he=>
   decide_eq_true (congrArg Prod.snd (of_decide_eq_true he))).length_le (htypes p.2)
 have hmod:∀p,(registered s.added p).length%0x10000=(registered s.added p).length:=fun p=>
  Nat.mod_eq_of_lt (Nat.lt_of_le_of_lt (hfew p) (by decide))
 refine ⟨fun c t idx hentity hconfiguration=>?_,fun p idx e hget=>?_,
  fun c d=>h.refused,fun c d fuel hentity hconfiguration hfuel=>?_,fun c config hconfig=>?_⟩
 · exact (h.find hlevels hsize hentity hconfiguration c idx).trans getElem?_map
 · have hlt:=(List.getElem?_eq_some_iff.mp hget).1
   have hle:=hfew p
   rw[h.logged.numbered p idx e hget,Nat.mod_eq_of_lt (by omega)]
 · have hfind:=h.find hlevels hsize hentity hconfiguration c
   have hle:=hfew (if top d.descriptorType then some c else none,d.descriptorType)
   rw[←length_map Entry.descriptor] at hle
   obtain ⟨r,hr,hiff⟩:=getDescriptorIndex_spec hfind (h.logged.nodup _) (Nat.lt_succ_of_le hle)
    fuel 0 (by unfold names;omega) (Nat.zero_le _) nofun
   refine ⟨r,hr,fun idx=>?_⟩
   rw[openavbAemGetDescriptor,hfind]
   exact hiff idx
 · obtain ⟨ds,hds,-⟩:=h.configurations
   rw[hds,openavbArrayDataIdx_ofList,getElem?_mapIdx] at hconfig
   obtain ⟨d,-,rfl⟩:=Option.map_eq_some_iff.mp hconfig
   obtain ⟨types,hnodup,hmem,hcounts⟩:=countsOf_eq s.added c
   simp only[names,length_map,hmod,ne_eq,map_eq_nil_iff] at hmem hcounts
   exact ⟨types,hnodup,hmem,hcounts⟩

def exampleCalls : List (Descriptor×Nat) :=
 [(⟨1,descriptorConfiguration,true⟩,0),(⟨2,5,true⟩,0),(⟨3,14,false⟩,0),(⟨4,5,true⟩,0)]

theorem registry_faithful_second : openavbAemGetDescriptor 0 5 1
 (run step exampleCalls (start ⟨0,0,true⟩ fun _=>0)).model=some ⟨4,5,true⟩ :=
 (registry_faithful ⟨0,0,true⟩ (fun _=>0) (· ≠ 14) exampleCalls _ (by decide) rfl
  (by decide +kernel) (by decide +kernel)).1 0 5 1 (by decide) (by decide)

end OpenAvnu.Aem
