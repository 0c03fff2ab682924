import Mathlib.Logic.Function.Basic
import OpenAvnu.Runs

/-!
# Bandwidth accounting of the shaper

`process_command` of `shaper_daemon.c` on a parsed command, which brings its bandwidth and the calls
of `system` that fail.
-/

namespace OpenAvnu.Shaper

open List Function Runs

structure CmdIp where
 (reserveBw unreserveBw classA classB deleteQdisc quit:Bool)
 (interface streamDa:List Char)
 (measurementInterval maxFrameSize maxFrameInterval:Int)

inductive Tc where
 | rootQdisc
 | classQdisc
 | filterDel
 deriving DecidableEq

structure Command where
 input:CmdIp
 bandwidth:Nat
 fails:Tc → Bool

inductive ClassId where
 | a48
 | a44
 | b48
 | b44
 deriving DecidableEq

structure StreamDa where
 destAddr:List Char
 bandwidth:Int
 classId:ClassId
 filterHandle:Nat

/-- `classBw` and `used` are the variables `classa_bw_48` and `classa_48` with their siblings. -/
structure Daemon where
 head:List StreamDa
 classBw:ClassId → Int
 used:ClassId → Bool
 (srClassa srClassb:Bool)
 (filterhandleClassa filterhandleClassb:Nat)
 interface:List Char

def initial : Daemon := ⟨[],fun _=>0,fun _=>false,false,false,1,20,[]⟩

def refused (input:CmdIp) : Bool := input.reserveBw&&input.unreserveBw ||
 input.reserveBw&&(input.maxFrameSize==0||input.measurementInterval==0 ||
  input.maxFrameInterval==0||(!input.classA&&!input.classB) ||
  input.classA&&input.classB) ||
 (input.quit||input.deleteQdisc)&&(input.reserveBw||input.unreserveBw)

def deleteAll (s:Daemon) : Daemon :=
 if s.srClassa||s.srClassb then
  {s with
   head:=[]
   classBw:=fun _=>0
   used:=fun _=>false
   srClassa:=false
   srClassb:=false}
 else s

def initQdisc (c:Command) (s:Daemon) : Option Daemon :=
 if s.srClassa||s.srClassb then some s
 else if c.input.interface=[] ∨ c.fails .rootQdisc then none
 else some {s with interface:=c.input.interface}

def classOf (input:CmdIp) : Option ClassId :=
 if input.classA then
  if input.measurementInterval=125 then some .a48
  else if input.measurementInterval=136 then some .a44 else none
 else if input.measurementInterval=250 then some .b48
 else if input.measurementInterval=272 then some .b44 else none

def srClass (classA:Bool) (s:Daemon) : Bool := if classA then s.srClassa else s.srClassb
def startClass (classA:Bool) (s:Daemon) : Daemon :=
 if classA then {s with srClassa:=true} else {s with srClassb:=true}

def insertStreamDa (c:Command) (id:ClassId) (s:Daemon) : Daemon :=
 let handle:=if c.input.classA then s.filterhandleClassa else s.filterhandleClassb
 {s with
  head:=s.head++[⟨c.input.streamDa,c.bandwidth,id,handle⟩]
  classBw:=update s.classBw id (s.classBw id+c.bandwidth)
  used:=update s.used id true
  filterhandleClassa:=if c.input.classA then handle+1 else s.filterhandleClassa
  filterhandleClassb:=if c.input.classA then s.filterhandleClassb else handle+1}

def atAddr (addr:List Char) (d:StreamDa) : Bool := decide (d.destAddr=addr)

def reserve (c:Command) (s:Daemon) : Int×Daemon :=
 if s.head.any (atAddr c.input.streamDa) then (1,s)
 else
  let started:=startClass c.input.classA s
  if !srClass c.input.classA s&&c.fails .classQdisc then (-1,started)
  else
   match classOf c.input with
   | none=>(-1,started)
   | some id=>(1,insertStreamDa c id started)

/-- The total is reduced before the filter is deleted, and the stream removed after that. -/
def unreserve (c:Command) (s:Daemon) : Int×Daemon :=
 match s.head.find? (atAddr c.input.streamDa) with
 | none=>(1,s)
 | some d=>
  let s:={s with classBw:=update s.classBw d.classId (s.classBw d.classId-d.bandwidth)}
  if c.fails .filterDel then (-1,s) else (1,{s with head:=s.head.eraseP (atAddr d.destAddr)})

def serve (c:Command) (s:Daemon) : Int×Daemon :=
 match initQdisc c s with
 | none=>(-1,s)
 | some s=>
  if c.input.reserveBw then reserve c s
  else if c.input.unreserveBw then unreserve c s
  else (1,s)

def processCommand (c:Command) (s:Daemon) : Int×Daemon :=
 if refused c.input then (-1,s)
 else if c.input.quit then (0,deleteAll s)
 else serve c (if c.input.deleteQdisc then deleteAll s else s)
def total (id:ClassId) : List StreamDa → Int
 | []=>0
 | d::l=>(if d.classId=id then d.bandwidth else 0)+total id l

/-- The totals are those of the list, in which no address occurs twice. -/
structure Accounts (head:List StreamDa) (classBw:ClassId → Int) : Prop where
 totals:∀id,classBw id=total id head
 distinct:(head.map StreamDa.destAddr).Nodup

/-- The daemon, and whether its last command, if it was refused, left list and totals alone. -/
structure Served where
 daemon:Daemon
 left:Prop

def step (c:Command) (t:Served) : Served :=
 let r:=processCommand c t.daemon
 ⟨r.2,r.1= -1 → r.2.head=t.daemon.head ∧ r.2.classBw=t.daemon.classBw⟩

/-- A stream that keeps its place although its bandwidth was given back. -/
def Strands (c:Command) (s:Daemon) : Prop :=
 c.input.unreserveBw=true ∧ initQdisc c s≠none ∧ c.fails .filterDel=true ∧
 ∃d,s.head.find? (atAddr c.input.streamDa)=some d ∧ d.bandwidth≠0

/-- A deletion of all streams that ends as an error, as it does without an interface. -/
def Clears (c:Command) (s:Daemon) : Prop :=
 c.input.quit=false ∧ c.input.deleteQdisc=true ∧ (deleteAll s).head≠s.head ∧
 initQdisc c (deleteAll s)=none

section
variable {id:ClassId} {l:List StreamDa} {d:StreamDa}

lemma total_append (id:ClassId) (l:List StreamDa) (d:StreamDa) :
 total id (l++[d])=total id l+if d.classId=id then d.bandwidth else 0 := by
 induction l with
 | nil=>simp[total]
 | cons e l ih=>
  rw[cons_append,total,ih,total]
  omega

lemma update_total {bw:ClassId → Int} (h:∀id,bw id=total id l) (id:ClassId) (x:Int)
 (id':ClassId) : update bw id (bw id+x) id'=total id' l+if id=id' then x else 0 := by
 by_cases hid:id=id'
 · rw[hid,update_self,if_pos rfl,h]
 · rw[update_of_ne (Ne.symm hid),if_neg hid,h,Int.add_zero]

lemma total_eraseP {p:StreamDa → Bool} (hfind:l.find? p=some d) (id:ClassId) :
 total id (l.eraseP p)=total id l+if d.classId=id then -d.bandwidth else 0 := by
 induction l with
 | nil=>cases hfind
 | cons e l ih=>
  rw[find?_cons] at hfind
  cases hp:p e with
  | true=>
   rw[hp] at hfind
   cases hfind
   rw[eraseP_cons_of_pos hp,total]
   split_ifs<;>omega
  | false=>
   rw[hp] at hfind
   rw[eraseP_cons_of_neg (by rw[hp];exact Bool.false_ne_true),total,ih hfind,total]
   omega

end

section
variable {c:Command} {s s':Daemon}

/-- The books are right behind a command, and as they were if it was refused. -/
def Right (s:Daemon) (r:Int×Daemon) : Prop := Accounts r.2.head r.2.classBw ∧
 (r.1= -1 → r.2.head=s.head ∧ r.2.classBw=s.classBw)
lemma one_ne_error : (1:Int)≠ -1 := by decide
lemma right_same {r:Int×Daemon} (h:Accounts s.head s.classBw) (hhead:r.2.head=s.head)
 (hbw:r.2.classBw=s.classBw) : Right s r := ⟨by rwa[hhead,hbw],fun _=>⟨hhead,hbw⟩⟩

lemma deleteAll_accounts (h:Accounts s.head s.classBw) : Accounts (deleteAll s).head (deleteAll s).classBw := by
 unfold deleteAll
 split_ifs
 · exact ⟨fun _=>rfl,nodup_nil⟩
 · exact h

lemma initQdisc_some (h:initQdisc c s=some s') : s'.head=s.head ∧ s'.classBw=s.classBw := by
 unfold initQdisc at h
 split_ifs at h<;>cases h<;>exact ⟨rfl,rfl⟩

lemma insertStreamDa_accounts (h:Accounts s.head s.classBw)
 (hnew:¬s.head.any (atAddr c.input.streamDa)=true) (id:ClassId) :
 Accounts (insertStreamDa c id s).head (insertStreamDa c id s).classBw := by
 constructor
 · intro id'
   rw[insertStreamDa,total_append]
   exact update_total h.totals id c.bandwidth id'
 · rw[insertStreamDa,map_append]
   refine nodup_append.mpr ⟨h.distinct,by simp,fun a ha b hb=>?_⟩
   rw[mem_singleton.mp hb]
   rintro rfl
   obtain ⟨d,hd,hdest⟩:=mem_map.mp ha
   exact hnew (any_eq_true.mpr ⟨d,hd,decide_eq_true hdest⟩)

lemma reserve_right (c:Command) (h:Accounts s.head s.classBw) : Right s (reserve c s) := by
 have hbooks:(startClass c.input.classA s).head=s.head ∧
   (startClass c.input.classA s).classBw=s.classBw:=by
  cases c.input.classA<;>exact ⟨rfl,rfl⟩
 unfold reserve
 generalize startClass c.input.classA s=started at hbooks ⊢
 obtain ⟨hhead,hbw⟩:=hbooks
 dsimp only
 split_ifs with hany
 · exact right_same h rfl rfl
 · exact right_same h hhead hbw
 · cases classOf c.input with
   | none=>exact right_same h hhead hbw
   | some id=>
    rw[←hhead,←hbw] at h
    exact ⟨insertStreamDa_accounts h (by rwa[hhead]) id,fun herror=>absurd herror one_ne_error⟩

lemma unreserve_right (h:Accounts s.head s.classBw) : Right s (unreserve c s) ↔
 ¬(c.fails .filterDel=true ∧ ∃d,s.head.find? (atAddr c.input.streamDa)=some d ∧
  d.bandwidth≠0) := by
 unfold unreserve
 cases hfind:s.head.find? (atAddr c.input.streamDa) with
 | none=>exact iff_of_true (right_same h rfl rfl) fun ⟨_,d,hd,_⟩=>nomatch hd
 | some d=>
  dsimp only
  split_ifs with hfails
  · rw[hfails]
    constructor
    · rintro ⟨-,hsame⟩ ⟨-,_,⟨⟩,hne⟩
      have hbw:s.classBw d.classId-d.bandwidth=s.classBw d.classId:=
       (update_self ..).symm.trans (congrFun (hsame rfl).2 d.classId)
      omega
    · intro hzero
      have hnone:d.bandwidth=0:=not_not.mp fun hne=>hzero ⟨rfl,d,rfl,hne⟩
      refine right_same h rfl ?_
      rw[hnone,Int.sub_zero,update_eq_self]
  · refine iff_of_true ⟨⟨fun id=>?_,?_⟩,fun herror=>absurd herror one_ne_error⟩
     fun hfail=>hfails hfail.1
    · have hat:atAddr c.input.streamDa d=true:=find?_some hfind
      have hdest:d.destAddr=c.input.streamDa:=of_decide_eq_true hat
      rw[hdest,total_eraseP hfind]
      exact update_total h.totals d.classId (-d.bandwidth) id
    · exact h.distinct.sublist (eraseP_sublist.map _)

lemma serve_right (h:Accounts s.head s.classBw) :
 Right s (serve c s)↔¬(c.input.reserveBw=false ∧ Strands c s) := by
 unfold serve
 cases hinit:initQdisc c s with
 | none=>exact iff_of_true (right_same h rfl rfl) fun hs=>hs.2.2.1 hinit
 | some s'=>
  obtain ⟨hhead,hbw⟩:=initQdisc_some hinit
  have hright:∀r,Right s r↔Right s' r:=fun r=>by rw[Right,Right,hhead,hbw]
  rw[←hhead,←hbw] at h
  dsimp only
  split_ifs with hreserve hunreserve
  · exact iff_of_true ((hright _).mpr (reserve_right c h)) fun hs=>by simp_all
  · rw[hright,unreserve_right h,hhead]
    simp[Strands,hreserve,hunreserve,hinit]
  · exact iff_of_true ((hright _).mpr (right_same h rfl rfl)) fun hs=>hunreserve hs.2.1

lemma processCommand_right (c:Command) (h:Accounts s.head s.classBw) :
 Right s (processCommand c s)↔refused c.input=true ∨ ¬Strands c s ∧ ¬Clears c s := by
 unfold processCommand
 cases hrefused:refused c.input with
 | true=>exact iff_of_true (right_same h rfl rfl) (.inl rfl)
 | false=>
  simp only[refused,Bool.or_eq_false_iff] at hrefused
  obtain ⟨⟨hboth,-⟩,halone⟩:=hrefused
  have hstrands:Strands c s → c.input.reserveBw=false:=fun hs=>by simpa[hs.1] using hboth
  have hdelete:c.input.quit=true ∨ c.input.deleteQdisc=true →
    c.input.reserveBw=false ∧ c.input.unreserveBw=false:=by
   rintro (hon|hon)<;>simpa[hon] using halone
  cases hquit:c.input.quit with
  | true=>
   refine iff_of_true ⟨deleteAll_accounts h,fun herror=>absurd herror (show (0:Int)≠ -1 by decide)⟩
    (.inr ⟨fun hs=>?_,fun hc=>?_⟩)
   · exact Bool.false_ne_true ((hdelete (.inl hquit)).2.symm.trans hs.1)
   · exact Bool.false_ne_true (hc.1.symm.trans hquit)
  | false=>
   cases hall:c.input.deleteQdisc with
   | false=>
    have hclears:¬Clears c s:=fun hc=>Bool.false_ne_true (hall.symm.trans hc.2.1)
    simpa[hclears] using (serve_right h).trans (not_congr (and_iff_right_of_imp hstrands))
   | true=>
    obtain ⟨hreserve,hunreserve⟩:=hdelete (.inr hall)
    have hnone:¬Strands c s:=fun hs=>Bool.false_ne_true (hunreserve.symm.trans hs.1)
    have hbooks:=deleteAll_accounts h
    cases hinit:initQdisc c (deleteAll s) with
    | none=>
     have hsame:Right s (-1,deleteAll s)↔(deleteAll s).head=s.head:=by
      refine ⟨fun hr=>(hr.2 rfl).1,fun hhead=>right_same h hhead ?_⟩
      funext id
      rw[hbooks.totals,h.totals,hhead]
     simpa[serve,hinit,hnone,Clears,hquit,hall] using hsame
    | some s'=>
     obtain ⟨hhead,hbw⟩:=initQdisc_some hinit
     rw[←hhead,←hbw] at hbooks
     simpa[serve,hinit,hnone,Clears,hreserve,hunreserve,Right] using hbooks

end

/-- Exactly if no deletion of a filter fails and no deletion of all streams ends as an error. -/
theorem shaper_accounts_iff (commands:List Command) :
 Throughout step (fun t=>Accounts t.daemon.head t.daemon.classBw ∧ t.left) commands ⟨initial,True⟩ ↔
 Along step (fun c t=>refused c.input=true ∨ ¬Strands c t.daemon ∧ ¬Clears c t.daemon) commands
  ⟨initial,True⟩ := throughout_iff_along (fun c _ h=>processCommand_right c h.1) ⟨⟨fun _=>rfl,nodup_nil⟩,trivial⟩

theorem shaper_strands_stream :
 let command (reserve unreserve:Bool) : Command:=
  ⟨⟨reserve,unreserve,true,false,false,false,['e'],['a'],125,74,1⟩,592000,fun _=>unreserve⟩
 let s:=(processCommand (command false true) (processCommand (command true false) initial).2).2
 s.head.map StreamDa.bandwidth=[592000] ∧ s.classBw .a48=0 ∧ total .a48 s.head=592000 := by
 decide

end OpenAvnu.Shaper
