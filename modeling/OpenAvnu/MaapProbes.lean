import OpenAvnu.MaapHistory
import OpenAvnu.MaapStation

/-!
# Probing before claiming

The log of a run is followed back from the notification that a block is acquired.
-/

namespace OpenAvnu

open Intervals MaapPacket MaapClient MaapDaemon MaapFrame MaapHoldings MaapTurns MaapRounds List

namespace MaapProbes

open MaapHistory MaapRelease Option

/-- A received packet that overlaps the `count` addresses at `start`: a DEFEND, an ANNOUNCE, or a
PROBE that wins. -/
def Disputes (srcMac start count:Nat) (stream:List UInt8) : Prop :=
 maapPktSize ≤ stream.length ∧ recognized (unpackMaap stream)=true ∧
 (∃a,start≤a ∧ a<start+count ∧ (unpackMaap stream).requestedStartAddress≤a ∧
  a<(unpackMaap stream).requestedStartAddress+(unpackMaap stream).requestedCount) ∧
 ((unpackMaap stream).messageType=maapDefend ∨ (unpackMaap stream).messageType=maapAnnounce ∨
  (unpackMaap stream).messageType=maapProbe ∧
   compareMacAddresses srcMac (unpackMaap stream).sa=false)

def sentBy (id:Int) (log:List Event) : List (List UInt8) := log.filterMap fun
  | .sent i bytes=>if i=id then some bytes else none
  | _=>none
def names (bytes:List UInt8) : Nat×Nat×Nat :=
 ((unpackMaap bytes).messageType,(unpackMaap bytes).requestedStartAddress,(unpackMaap bytes).requestedCount)

/-- Since the block was given, four probes were sent and nothing was heard against it. -/
structure Probed (srcMac:Nat) (id:Int) (start count:Nat) (since:List Event) : Prop where
 last:∀note,.told note∈since → note.2.id=id → note.2.kind ≠ .acquiring
 probes:(sentBy id since).map names=List.replicate 4 (maapProbe,start,count)
 undisputed:∀stream,.heard stream∈since → ¬Disputes srcMac start count stream

/-- Every block that is reported as acquired was probed for since it was last given. -/
def ProbedFirst (srcMac:Nat) (log:List Event) : Prop := ∀before after sender id start count,
  log=before ++ .told (sender,⟨.acquired,id,start,count,.none⟩)::after →
  ∃pre owner since,
   before=pre ++ .told (owner,⟨.acquiring,id,start,count,.none⟩)::since ∧
    Probed srcMac id start count since

variable {env:Env} {mc mc':Client} {id:Int} {log:List Event} {act:Act} {x y:Seat}
 {pending pending':List Nat} {stream:List UInt8}

lemma sentBy_append (id:Int) (log log':List Event) :
 sentBy id (log++log')=sentBy id log++sentBy id log' := filterMap_append

lemma sentBy_other (h:act.id≠some id) : sentBy id (actLog mc act)=[] := by
 refine filterMap_eq_nil_iff.2 fun event hevent=>?_
 cases event with
 | sent i bytes=>
  have hne:i≠id:=by
   rintro rfl
   exact h (sent_mem_actLog hevent)
  simp[hne]
 | told note=>rfl
 | heard stream=>rfl

lemma sentBy_own (h:act.id=some id) : sentBy id (actLog mc act)=(act.packets mc).map packMaap := by
 rw[actLog,h]
 simp[sentBy]
lemma heard_not_mem_actLog : .heard stream∉actLog mc act := by
 simp[actLog]
def startOf (mc:Client) (x:Seat) : Nat := (seatNote mc .acquiring x .none).start
def countOf (mc:Client) (x:Seat) : Nat := (seatNote mc .acquiring x .none).count
def Roomy (mc:Client) (x:Seat) : Prop := x.low≤x.high ∧ x.high < mc.rangeLen ∧ x.high<x.low+65535

/-- How far a probing range has come. Only `stream` may dispute its block, if its reaction is
`pending`. -/
structure Claim (mc:Client) (log:List Event) (pending:List Nat) (stream:List UInt8)
 (x:Seat) (since:List Event) : Prop where
 given:∃pre,log=pre ++ .told (x.sender,seatNote mc .acquiring x .none)::since
 last:∀note,.told note∈since → note.2.id=x.id → note.2.kind ≠ .acquiring
 probes:∃n,n+x.counter=4 ∧
  sentBy x.id since=List.replicate n (packMaap (claimFor mc maapProbe x.low x.high))
 heard:∀s,.heard s∈since → Disputes mc.srcMac (startOf mc x) (countOf mc x) s →
  s=stream ∧ x.ref∈pending

def Claims (mc:Client) (log:List Event) (pending:List Nat) (stream:List UInt8) : Prop :=
 ∀x,Sits mc x → x.state=.probing →
  Roomy mc x ∧ ∃since,Claim mc log pending stream x since
lemma startOf_config (h:SameConfig mc mc') (x:Seat) : startOf mc' x=startOf mc x := by
 rw[startOf,seatNote_config h,startOf]

variable {since:List Event}

abbrev Contests (mc:Client) (x:Seat) (stream:List UInt8) : Prop :=
 Disputes mc.srcMac (startOf mc x) (countOf mc x) stream

lemma Claim.weaken (hc:Claim mc log pending stream x since)
 (hsub:x.ref∈pending → Contests mc x stream →
  x.ref∈pending') : Claim mc log pending' stream x since := by
 refine ⟨hc.given,hc.last,hc.probes,fun s hs hd=>?_⟩
 obtain ⟨rfl,hmem⟩:=hc.heard s hs hd
 exact ⟨rfl,hsub hmem hd⟩

lemma claim_other (h:Turn mc act mc') (hact:act.id≠some x.id)
 (hc:Claim mc log pending stream x since) :
 Claim mc' (log++actLog mc act) pending stream x (since++actLog mc act) := by
 obtain ⟨pre,hlog⟩:=hc.given
 refine ⟨⟨pre,?_⟩,fun note hnote hid=>?_,?_,fun s hs hd=>?_⟩
 · rw[hlog,seatNote_config h.config,append_assoc,cons_append]
 · rcases mem_append.1 hnote with hold|hnew
   · exact hc.last note hold hid
   · have hans:=(notes_of_other h hact (told_mem_actLog.1 hnew) hid).1
     intro hkind
     simp[answers,hkind] at hans
 · obtain ⟨n,hn,hsent⟩:=hc.probes
   refine ⟨n,hn,?_⟩
   rw[sentBy_append,hsent,sentBy_other hact,append_nil,claimFor_config h.config]
 · rw[h.config.srcMac,startOf_config h.config] at hd
   rcases mem_append.1 hs with hold|hnew
   · exact hc.heard s hold hd
   · exact absurd hnew heard_not_mem_actLog

lemma claim_placed (h:Turn mc act mc') (hy:act.placed=some y) (log:List Event)
 (pending:List Nat) (stream:List UInt8) :
 y.state=.probing ∧ ∃since,Claim mc' (log++actLog mc act) pending stream y since := by
 have hvalid:=h.valid
 obtain ⟨notes,hlog,hst,hcount⟩:∃notes,actLog mc act=notes++[.told (y.sender,seatNote mc .acquiring y .none),
   .sent y.id (packMaap (claimFor mc maapProbe y.low y.high))] ∧ y.state=.probing ∧
  y.counter=maapProbeRetransmits:=by
  cases act<;>cases hy
  case reserve=>exact ⟨[],rfl,hvalid.1,hvalid.2.1⟩
  case move x=>
   refine ⟨[],?_,by rw[hvalid.2];exact hvalid.1,by rw[hvalid.2]⟩
   have hid:x.id=y.id:=by rw[hvalid.2]
   simp[actLog,Act.notes,Act.packets,Act.id,Act.seat,hid]
  case replace x=>
   refine ⟨[.told (x.sender,seatNote mc .yielded x .none)],?_,hvalid.2.2.2.1,hvalid.2.2.2.2⟩
   simp[actLog,Act.notes,Act.packets,Act.id,Act.seat,hvalid.2.1]
 refine ⟨hst,[.sent y.id (packMaap (claimFor mc maapProbe y.low y.high))],
  ⟨log++notes,?_⟩,by simp,⟨1,by rw[hcount];rfl,?_⟩,by simp⟩
 · rw[hlog,seatNote_config h.config]
   simp
 · simp[sentBy,claimFor_config h.config]

lemma claim_probe (h:Turn mc (.probe x) mc') (hc:Claim mc log [] stream x since) :
 Claim mc' (log++actLog mc (.probe x)) [] stream {x with counter:=x.counter-1}
  (since++actLog mc (.probe x)) := by
 have hpos:0<x.counter:=h.valid.2
 obtain ⟨pre,hlog⟩:=hc.given
 obtain ⟨n,hn,hsent⟩:=hc.probes
 refine ⟨⟨pre,?_⟩,fun note hnote hid=>?_,⟨n+1,?_,?_⟩,fun s hs hd=>?_⟩
 · rw[hlog,show seatNote mc' .acquiring {x with counter:=x.counter-1} .none=
    seatNote mc .acquiring x .none from seatNote_config h.config _ _ _,append_assoc,cons_append]
 · rcases mem_append.1 hnote with hold|hnew
   · exact hc.last note hold hid
   · exact absurd (told_mem_actLog.1 hnew) (by simp[Act.notes])
 · simp only
   omega
 · rw[sentBy_append,hsent,sentBy_own rfl,claimFor_config h.config,replicate_succ']
   rfl
 · rw[h.config.srcMac,startOf_config h.config] at hd
   rcases mem_append.1 hs with hold|hnew
   · exact hc.heard s hold hd
   · exact absurd hnew heard_not_mem_actLog

lemma claims_turn (h:Turn mc act mc') (hnum:Numbered mc) (hc:Claims mc log pending stream)
 (hroom:∀y,act.placed=some y → Roomy mc' y) (htimed:act.timed=true → pending=[])
 (hdrop:∀x,Sits mc x → x.state=.probing → act.id≠some x.id → x.ref∈pending →
  Contests mc x stream → x.ref∈pending') : Claims mc' (log++actLog mc act) pending' stream := by
 intro y hy hst
 by_cases hid:act.id=some y.id
 · rcases (h.swap y).1 hy with ⟨hsits,hout⟩|hnew
   · -- the seat of the act stays only when it is announced or defended
     exfalso
     have hvalid:=h.valid
     have hsame:∀x,act.seat=some x → act.id=some x.id → x=y:=fun x hx hxid=>
      hnum.one x y (h.sat x hx) hsits (some.inj (hxid.symm.trans hid))
     cases act with
     | answer=>cases hid
     | reserve z=>
      have hbound:=(hnum.issued y hsits).2
      have hgt:=hvalid.2.2.1
      rw[some.inj hid] at hgt
      omega
     | announce x | defend x=>
      have hdef:x.state=.defending:=by first | exact hvalid | exact hvalid.1
      rw[hsame x rfl rfl,hst] at hdef
      cases hdef
     | move x | fail x | replace x | lose x | release x | probe x | acquire x=>
      exact hout x rfl (congrArg Seat.ref (hsame x rfl rfl)).symm
   · cases hplaced:act.placed with
     | some z=>
      obtain rfl:z=y:=by
       cases act<;>cases hplaced<;>exact some.inj hnew
      exact ⟨hroom z hplaced,(claim_placed h hplaced log pending' stream).2⟩
     | none=>
      cases act with
      | reserve | move | replace=>cases hplaced
      | answer | fail | lose | release | announce | defend=>cases hnew
      | probe x=>
       cases hnew
       obtain ⟨hfits,since,hclaim⟩:=hc x (h.sat x rfl) h.valid.1
       obtain rfl:=htimed rfl
       refine ⟨⟨hfits.1,?_,hfits.2.2⟩,_,(claim_probe h hclaim).weaken (by simp)⟩
       rw[h.config.rangeLen]
       exact hfits.2.1
      | acquire x=>
       cases hnew
       cases hst
 · have hsits:=(h.sits_other hid).1 hy
   obtain ⟨hfits,since,hclaim⟩:=hc y hsits hst
   refine ⟨⟨hfits.1,?_,hfits.2.2⟩,_,(claim_other h hid hclaim).weaken fun hmem hd=>?_⟩
   · rw[h.config.rangeLen]
     exact hfits.2.1
   · rw[Contests,h.config.srcMac,startOf_config h.config] at hd
     exact hdrop y hsits hst hid hmem hd

lemma claims_hear (hc:Claims mc log [] stream) (hlist:∀x,Sits mc x → x.state=.probing →
 Contests mc x stream → x.ref∈pending) : Claims mc (log++[.heard stream]) pending stream := by
 intro x hx hst
 obtain ⟨hfits,since,hclaim⟩:=hc x hx hst
 obtain ⟨pre,hlog⟩:=hclaim.given
 obtain ⟨n,hn,hsent⟩:=hclaim.probes
 refine ⟨hfits,since++[.heard stream],⟨pre,?_⟩,fun note hnote hid=>?_,⟨n,hn,?_⟩,
  fun s hs hd=>?_⟩
 · rw[hlog,append_assoc,cons_append]
 · exact hclaim.last note (by simpa using hnote) hid
 · rw[sentBy_append,hsent]
   exact append_nil _
 · rcases mem_append.1 hs with hold|hnew
   · cases (hclaim.heard s hold hd).2
   · obtain rfl:s=stream:=by simpa using hnew
     exact ⟨rfl,hlist x hx hst hd⟩

lemma ProbedFirst.append {srcMac:Nat} {extra:List Event} (h:ProbedFirst srcMac log)
 (hextra:∀first after sender id start count,
  extra=first ++ .told (sender,⟨.acquired,id,start,count,.none⟩)::after →
  ∃pre owner since,log++first=pre ++ .told (owner,⟨.acquiring,id,start,count,.none⟩)::since ∧
    Probed srcMac id start count since) : ProbedFirst srcMac (log++extra) := by
 intro before after sender id start count heq
 rcases append_eq_append_iff.1 heq with ⟨first,rfl,hsplit⟩|⟨rest,hlog,hsplit⟩
 · exact hextra first after sender id start count hsplit
 · cases rest with
   | nil=>
    rw[←append_nil before,←hlog,←append_nil log]
    exact hextra [] after sender id start count hsplit.symm
   | cons event rest=>
    obtain ⟨rfl,-⟩:=List.cons.inj hsplit
    exact h before rest sender id start count hlog

lemma names_probe (hpool:MaapWire.PoolFits mc) (hfits:Roomy mc x) :
 names (packMaap (claimFor mc maapProbe x.low x.high))=(maapProbe,startOf mc x,countOf mc x) := by
 obtain ⟨haddr,hsize⟩:=hpool
 obtain ⟨hproper,hin,hsmall⟩:=hfits
 rw[names,unpackMaap_packMaap (MaapWire.built_claimFor mc x.low x.high (.inl rfl))]
 simp only[onWire,claimFor,startOf,countOf,seatNote,uint64,uint32,uint16,Prod.mk.injEq,true_and]
 constructor<;>omega

lemma Claim.probed (hpool:MaapWire.PoolFits mc) (hfits:Roomy mc x)
 (hc:Claim mc log [] stream x since) (hcount:x.counter=0) :
 Probed mc.srcMac x.id (startOf mc x) (countOf mc x) since := by
 refine ⟨hc.last,?_,fun s hs hd=>by cases (hc.heard s hs hd).2⟩
 obtain ⟨n,hn,hsent⟩:=hc.probes
 obtain rfl:n=4:=by omega
 rw[hsent,map_replicate,names_probe hpool hfits]

lemma probedFirst_turn (h:Turn mc act mc') (hpool:MaapWire.PoolFits mc)
 (hc:Claims mc log pending stream) (htimed:act.timed=true → pending=[])
 (hlog:ProbedFirst mc.srcMac log) : ProbedFirst mc'.srcMac (log++actLog mc act) := by
 rw[h.config.srcMac]
 refine hlog.append fun first after sender id start count heq=>?_
 have hmem:.told (sender,⟨.acquired,id,start,count,.none⟩)∈actLog mc act:=by
  rw[heq]
  simp
 have hnote:=told_mem_actLog.1 hmem
 have hvalid:=h.valid
 cases act with
 | answer notes=>
  have hans:=(hvalid _ hnote).1
  simp[answers] at hans
 | acquire x=>
  obtain rfl:=htimed rfl
  obtain ⟨hfits,since,hclaim⟩:=hc x (h.sat x rfl) hvalid.1
  obtain ⟨pre,hgiven⟩:=hclaim.given
  have hprobed:=hclaim.probed hpool hfits hvalid.2
  -- the notification is the first event of the turn
  obtain rfl:first=[]:=by
   cases first with
   | nil=>rfl
   | cons event first=>
    obtain ⟨-,htail⟩:=List.cons.inj heq
    have hsplit:[Event.sent x.id (packMaap (claimFor mc maapAnnounce x.low x.high))]=
     first ++ .told (sender,⟨.acquired,id,start,count,.none⟩)::after:=htail
    rcases append_eq_singleton_iff.1 hsplit.symm with ⟨-,hlate⟩|⟨-,hlate⟩ <;>
     cases hlate
  obtain ⟨hfirst,-⟩:=List.cons.inj heq
  obtain ⟨rfl,rfl,rfl,rfl⟩:=hfirst
  exact ⟨pre,x.sender,since,by rw[append_nil,hgiven];rfl,hprobed⟩
 | _=>simp[Act.notes,seatNote] at hnote

end MaapProbes

/-! ## Runs probe before they claim -/

namespace MaapProbeRuns

open IntervalOrder MaapTimer MaapStore Option
open MaapHoldings MaapOverlaps MaapHandle MaapCommands MaapSeats MaapTurns MaapRounds
open MaapConflictTurns MaapHistory MaapRelease MaapRuns MaapWire MaapProbes

variable {env:Env} {mc mc':Client} {log:List Event} {act:Act} {x y:Seat}
 {pending pending':List Nat} {stream:List UInt8}

structure Probing (mc:Client) (log:List Event) (pending:List Nat) (stream:List UInt8) : Prop where
 sound:Sound mc
 numbered:Numbered mc
 pool:PoolFits mc
 claims:Claims mc log pending stream
 first:ProbedFirst mc.srcMac log

lemma Probing.turn (h:Probing mc log pending stream) (ht:Turn mc act mc')
 (hroom:∀y,act.placed=some y → Roomy mc' y) (htimed:act.timed=true → pending=[])
 (hdrop:∀x,Sits mc x → x.state=.probing → act.id≠some x.id → x.ref∈pending →
  Contests mc x stream → x.ref∈pending') : Probing mc' (log++actLog mc act) pending' stream :=
 ⟨ht.sound,ht.numbered h.numbered,h.pool.config ht.config,
  claims_turn ht h.numbered h.claims hroom htimed hdrop,probedFirst_turn ht h.pool h.claims htimed h.first⟩

lemma Probing.silent (h:Probing mc log pending stream) (ht:Turn mc (.answer []) mc') :
 Probing mc' log pending stream := by
 have hnext:Probing mc' (log++actLog mc (.answer [])) pending stream:=
  h.turn ht (by rintro y ⟨⟩) (by rintro ⟨⟩) fun _ _ _ _ hmem _=>hmem
 simpa[actLog,Act.notes,Act.packets] using hnext

lemma Probing.restart (h:Probing mc log [] stream) (pending:List Nat)
 (stream':List UInt8) : Probing mc log pending stream' := by
 refine ⟨h.sound,h.numbered,h.pool,fun x hx hst=>?_,h.first⟩
 obtain ⟨hfits,since,hclaim⟩:=h.claims x hx hst
 exact ⟨hfits,since,hclaim.given,hclaim.last,hclaim.probes,
  fun s hs hd=>by cases (hclaim.heard s hs hd).2⟩

lemma sits_of_placed (ht:Turn mc act mc') (hy:act.placed=some y) : Sits mc' y := by
 refine (ht.swap y).2 (.inr ?_)
 cases act<;>cases hy<;>rfl
lemma roomy_of_consistent {gaps:Gaps} (h:Consistent gaps mc) (hx:Sits mc x) : Roomy mc x := by
 obtain ⟨node,hmem⟩:=hx.block
 exact ⟨h.ordered.proper _ hmem,h.inPool _ hmem,h.small _ hmem⟩
lemma Probing.hear (h:Probing mc log [] stream) (hlist:∀x,Sits mc x → x.state=.probing →
 Contests mc x stream → x.ref∈pending) : Probing mc (log++[.heard stream]) pending stream := by
 refine ⟨h.sound,h.numbered,h.pool,claims_hear h.claims hlist,h.first.append ?_⟩
 intro first after sender id start count heq
 rcases append_eq_singleton_iff.1 heq.symm with ⟨-,hone⟩|⟨-,hone⟩<;>cases hone

lemma Probing.react (h:Probing mc log pending stream) (ht:Turn mc act mc') {ref:Nat}
 (hreact:Reaction (unpackMaap stream) mc ref act) (hcons:Consistent .closed mc') :
 Probing mc' (log++actLog mc act) (pending.erase ref) stream := by
 refine h.turn ht (fun y hy=>roomy_of_consistent hcons (sits_of_placed ht hy))
  (fun htimed=>by rw[hreact.timed] at htimed;cases htimed) fun x hx hst hid hmem hd=>?_
 by_cases href:x.ref=ref
 · -- the range at hand stays as it is only against a probe that loses
   have hnone:act.id=none:=by
    cases hact:act.id with
    | none=>rfl
    | some i=>
     refine absurd (hact.trans ?_) hid
     rw[hreact.id i hact,←href]
     exact congrArg some (congrArg Profile.id hx.range)
   obtain ⟨hprobe,hwins⟩:=hreact.stays hnone x hx href hst
   obtain ⟨-,-,-,hdef|hann|⟨-,hlost⟩⟩:=hd
   · rw[hprobe] at hdef
     cases hdef
   · rw[hprobe] at hann
     cases hann
   · rw[hwins] at hlost
     cases hlost
 · exact (mem_erase_of_ne href).2 hmem

lemma resolveConflicts_probing (env:Env) {start num:Nat} {todo:List Nat}
 (h:Waits (unpackMaap stream) start todo mc) (hlen:todo.length=num)
 (hlate:(resolveConflicts env (unpackMaap stream) start num mc).late=false)
 (hprobing:Probing mc log todo stream) : Probing (resolveConflicts env (unpackMaap stream) start num mc)
  (log++resolveLog env (unpackMaap stream) start num mc) [] stream := by
 -- the induction of the loop: the ranges still flagged are those whose claims may be disputed
 induction num generalizing mc todo log with
 | zero=>
  obtain rfl:=length_eq_zero_iff.1 hlen
  simpa[resolveLog,resolveConflicts] using hprobing
 | succ num ih=>
  obtain ⟨node,y,hnode,-,-,hfind,hres,hlen'⟩:=h.round env hlen hlate
  have honce:=Resolution.once hres
  simp only[resolveConflicts,resolveLog,hfind] at hlate ⊢
  obtain ⟨act,hturn,hlog,hreact⟩:=resolveConflict_turn env (unpackMaap stream)
   hprobing.sound hnode rfl
  rw[hlog,←append_assoc]
  exact ih (h.erase honce) hlen' hlate (hprobing.react hturn hreact honce.consistent)

/-- A packet that asks for addresses of the pool asks for none in front of it. -/
def located (mc:Client) (p:Packet) : Bool := decide (p.requestedStartAddress < mc.addressBase+mc.rangeLen →
  mc.addressBase<p.requestedStartAddress+p.requestedCount →
  mc.addressBase≤p.requestedStartAddress ∧
   p.requestedStartAddress-mc.addressBase+p.requestedCount≤2^32)

lemma Disputes.touches (hpool:PoolFits mc) (hfits:Roomy mc x)
 (hloc:located mc (unpackMaap stream)=true)
 (h:Contests mc x stream) : outsidePool mc (unpackMaap stream)=false ∧ ∀flagged,
  touchesBlock (packetStart mc (unpackMaap stream)) (unpackMaap stream).requestedCount
   ⟨x.ref,x.state,flagged,x.low,x.high⟩=true := by
 obtain ⟨-,-,⟨a,hfrom,hto,hlow,hhigh⟩,-⟩:=h
 obtain ⟨haddr,hsize⟩:=hpool
 obtain ⟨hproper,hin,hsmall⟩:=hfits
 simp only[startOf,countOf,seatNote,uint64,uint32] at hfrom hto
 obtain ⟨hbase,hend⟩:=of_decide_eq_true hloc (by omega) (by omega)
 constructor
 · simp only[outsidePool,uint64,Bool.or_eq_false_iff]
   constructor<;>exact decide_eq_false (by omega)
 · simp only[touchesBlock,intervalCheckOverlap,overlaps_iff,packetStart,lastOf,uint32,Holding.block]
   omega

lemma sits_holds (hcalm:Calm mc) (hx:Sits mc x) : Holds mc ⟨x.ref,x.state,false,x.low,x.high⟩ := by
 obtain ⟨range,hs,hp⟩:=map_eq_some_iff.1 hx.2.profile
 have hold:Holds mc ⟨x.ref,x.state,range.overlapping,x.low,x.high⟩:=
  ⟨hx.block,range,hs,congrArg Profile.state hp,rfl⟩
 have hflag:range.overlapping=false:=hcalm _ hold
 rwa[hflag] at hold

lemma maapHandlePacket_probing (env:Env) (h:Consistent .closed mc) (hcalm:Calm mc)
 (hlate:(maapHandlePacket env mc stream).1.late=false)
 (hprobing:∀pending,(∀x,Sits mc x → x.state=.probing →
  located mc (unpackMaap stream)=true →
  Contests mc x stream → x.ref∈pending) →
  Probing mc log pending stream) :
 Probing (maapHandlePacket env mc stream).1 (log++packetLog env mc stream) [] stream := by
 have hstart:=hprobing mc.timerQueue fun x hx _ _ _=>hx.queued
 have htouches:∀x,Sits mc x → x.state=.probing → located mc (unpackMaap stream)=true →
  Contests mc x stream → _:=fun x hx hst hloc hd=>
  Disputes.touches hstart.pool (hstart.claims x hx hst).1 hloc hd
 simp only[maapHandlePacket,packetLog] at hlate ⊢
 split_ifs at hlate ⊢ with hshort hrec hout
 · simpa using hprobing [] fun x _ _ _ hd=>absurd hd.1 (Nat.not_le.2 hshort)
 · simpa using hprobing [] fun x _ _ _ hd=>by simp[hd.2.1] at hrec
 · refine (append_nil log).symm▸hprobing [] fun x hx hst hloc hd=>?_
   rw[(htouches x hx hst hloc hd).1] at hout
   cases hout
 · have hflag:Flagged mc (packetStart mc (unpackMaap stream)) (unpackMaap stream).requestedCount
    (flagPacket mc (unpackMaap stream)).1 (flagPacket mc (unpackMaap stream)).2:=
    flagOverlaps_spec h hcalm _ _
   obtain ⟨todo,hlen,hwaits⟩:=waits_of_flagged hflag
   have hlist:∀x,Sits mc x → x.state=.probing → located mc (unpackMaap stream)=true →
    Contests mc x stream → x.ref∈todo:=by
    intro x hx hst hloc hd
    refine (hwaits.mem x.ref).2 ⟨⟨x.ref,x.state,true,x.low,x.high⟩,(hflag.holds _).2 ⟨?_,?_⟩,rfl,rfl⟩
    · exact sits_holds hcalm hx
    · exact ((htouches x hx hst hloc hd).2 true).symm
   have hsilent:Turn mc (.answer []) (flagPacket mc (unpackMaap stream)).1:=
    flagOverlaps_silent _ _ _ _ _ hstart.sound
   have hloop:=resolveConflicts_probing env hwaits hlen ?_ ((hprobing todo hlist).silent hsilent)
   · exact hloop.silent (turn_startTimer hloop.sound)
   · obtain ⟨timer,heq⟩:=startTimer_eq (handleOverlaps env mc (unpackMaap stream))
     rw[heq] at hlate
     exact hlate

lemma handleTimers_probing (env:Env) (currenttime:Time) (fuel:Nat)
 (h:Probing mc log [] stream) (hrun:handleTimers env currenttime fuel mc=some mc') :
 Probing mc' (log++timerLog env currenttime fuel mc) [] stream := by
 refine handleTimers_invariant env currenttime (I:=fun mc log=>Probing mc log [] stream)
  (fun hqueue h=>?_) fuel h hrun
 obtain ⟨act,hturn,hid,hplaced⟩:=turn_due env h.sound hqueue
 rw[roundLog_turn hturn hid]
 refine h.turn hturn (fun y hy=>?_) (fun _=>rfl) fun x _ _ _ hmem _=>hmem
 rw[hplaced] at hy
 cases hy

lemma maapHandleTimer_probing (env:Env) (fuel:Nat) (h:Probing mc log [] stream)
 (hrun:maapHandleTimer env fuel mc=some mc') : Probing mc' (log++timerLog env (env.clock mc.readings) fuel
  {mc with readings:=mc.readings+1}) [] stream := by
 obtain ⟨mc₁,hloop,rfl⟩:=map_eq_some_iff.1 hrun
 have hrounds:=handleTimers_probing env _ fuel (h.silent (turn_read h.sound)) hloop
 exact hrounds.silent (turn_startTimer hrounds.sound)

lemma Probing.one (h:Probing mc log [] stream) (ht:Turn mc act mc') {id:Int}
 (hid:∀i,act.id=some i → i=id) (hroom:∀y,act.placed=some y → Roomy mc' y) :
 Probing mc' (log++roundLog id mc mc') [] stream := by
 rw[roundLog_turn ht hid]
 exact h.turn ht hroom (fun _=>rfl) fun _ _ _ _ hmem _=>hmem

lemma maapYieldRange_probing (env:Env) (sender:Nat) (id:Int) (hcons:Consistent .closed mc)
 (hcalm:Calm mc) (hlate:(maapYieldRange env mc sender id).1.late=false)
 (h:Probing mc log [] stream) :
 Probing (maapYieldRange env mc sender id).1 (log++yieldLog env mc sender id) [] stream := by
 rcases yield_cases env mc sender id with
  ⟨error,hanswers,herror,heq,hlog⟩ | ⟨ref,handled,hhandled,heq,hlog⟩
 · rw[heq,hlog]
   exact h.one (turn_answer h.sound sender hanswers herror) (by rintro i ⟨⟩) (by rintro y ⟨⟩)
 · have hprobing:=fun
    (hlate:(maapHandlePacket env mc (packMaap (yieldPacket mc ref))).1.late=false)=>
     maapHandlePacket_probing env hcons hcalm hlate fun pending _=>h.restart pending _
   rw[hhandled] at hprobing
   rw[heq] at hlate ⊢
   rw[hlog]
   exact (hprobing hlate).restart [] stream

/-- Calls within their documented bounds, and packets that do not reach into the pool from below. -/
def proper (mc:Client) : Input → Bool
 | .reserve _ attemptBase length=>decide (1≤length ∧ attemptBase+length≤2^64)
 | .packet stream=>located mc (unpackMaap stream)
 | _=>true
def meets (env:Env) : List Input → Client → Bool
 | [], _=>true
 | i::inputs, mc=>proper mc i &&
  (i.run env mc).all fun mc'=>!mc'.late&&meets env inputs mc'

structure Steady (mc:Client) (log:List Event) : Prop where
 consistent:Consistent .closed mc
 calm:Calm mc
 initialized:mc.initialized=true
 probing:Probing mc log [] []

lemma reserve_advances (env:Env) (sender:Nat) {attemptBase length:Nat}
 (h:Consistent .closed mc) (hcalm:Calm mc) (hinit:mc.initialized=true)
 (hlen:1≤length) (hattempt:attemptBase+length≤2^64)
 (hlate:(maapReserveRange env mc sender attemptBase length).1.late=false) :
 Advances mc (maapReserveRange env mc sender attemptBase length).1 := by
 by_cases hsmall:length≤65535
 · exact maapReserveRange_advances env sender h hcalm hlen hsmall hattempt hlate
 · have hbig:0xFFFF<length ∨ mc.rangeLen<length:=.inl (by omega)
   simp only[maapReserveRange,hinit,hbig]
   exact advances_notify h hcalm _

lemma init_advances (h:Consistent .closed mc) (hcalm:Calm mc) (hinit:mc.initialized=true)
 (sender addressBase rangeLen:Nat) : Advances mc (maapInitClient mc sender addressBase rangeLen).1 := by
 unfold maapInitClient
 split_ifs<;>exact advances_notify h hcalm _

variable (i:Input)

lemma Input.consistent (hproper:proper mc i=true) (h:Consistent .closed mc)
 (hcalm:Calm mc) (hinit:mc.initialized=true) (hrun:i.run env mc=some mc')
 (hlate:mc'.late=false) : Consistent .closed mc' ∧ Calm mc' := by
 have hcall:∀c:Call,c.run env mc=some mc' → Consistent .closed mc' ∧ Calm mc':=
  fun c hc=>(Step.call c hc).consistent hlate h hcalm
 cases i with
 | init sender addressBase rangeLen=>
  cases hrun
  have hadv:=init_advances h hcalm hinit sender addressBase rangeLen
  exact ⟨hadv.consistent,hadv.calm⟩
 | reserve sender attemptBase length=>
  cases hrun
  obtain ⟨hlen,hattempt⟩:=of_decide_eq_true hproper
  have hadv:=reserve_advances env sender h hcalm hinit hlen hattempt hlate
  exact ⟨hadv.consistent,hadv.calm⟩
 | release sender id=>exact hcall (.release sender id) hrun
 | status sender id=>exact hcall (.status sender id) hrun
 | yield sender id=>exact hcall (.yield sender id) hrun
 | timer fuel=>exact hcall (.timer fuel) hrun
 | packet stream=>
  cases hrun
  exact (Step.packet stream).consistent hlate h hcalm

section
variable (hproper:proper mc i=true) (h:Steady mc log) (hrun:i.run env mc=some mc')
 (hlate:mc'.late=false)
include hproper h hrun hlate

lemma Input.probing (hcons:Consistent .closed mc') : Probing mc' (log++i.log env mc) [] [] := by
 have hp:=h.probing
 have hinit:=h.initialized
 cases i with
 | init sender addressBase rangeLen=>
  cases hrun
  obtain ⟨notes,hturn⟩:=maapInitClient_turn sender addressBase rangeLen hp.sound hinit
  exact hp.one hturn (by rintro i ⟨⟩) (by rintro y ⟨⟩)
 | reserve sender attemptBase length=>
  cases hrun
  obtain ⟨act,hturn,hid⟩:=turn_maapReserveRange env hp.sound sender attemptBase length
  exact hp.one hturn hid fun y hy=>roomy_of_consistent hcons (sits_of_placed hturn hy)
 | release sender id=>
  cases hrun
  rcases turn_maapReleaseRange hp.sound sender id with ⟨x,rfl,hturn,-⟩|⟨note,hturn,-⟩
  · exact hp.one hturn (fun i hi=>(some.inj hi).symm) (by rintro y ⟨⟩)
  · exact hp.one hturn (by rintro i ⟨⟩) (by rintro y ⟨⟩)
 | status sender id=>
  cases hrun
  obtain ⟨notes,hturn⟩:=maapRangeStatus_turn sender id hp.sound
  exact hp.one hturn (by rintro i ⟨⟩) (by rintro y ⟨⟩)
 | yield sender id=>
  cases hrun
  exact maapYieldRange_probing env sender id h.consistent h.calm hlate hp
 | packet stream=>
  cases hrun
  have hloop:=maapHandlePacket_probing env h.consistent h.calm hlate fun pending hlist=>
   (hp.restart [] stream).hear fun x hx hst hd=>hlist x hx hst hproper hd
  rw[append_assoc] at hloop
  exact hloop.restart [] []
 | timer fuel=>exact maapHandleTimer_probing env fuel hp hrun

lemma Steady.step : Steady mc' (log++i.log env mc) := by
 obtain ⟨hcons,hcalm⟩:=Input.consistent i hproper h.consistent h.calm h.initialized hrun hlate
 obtain ⟨acts,hturns⟩:=i.turns h.probing.sound h.initialized hrun
 exact ⟨hcons,hcalm,hturns.config.initialized.trans h.initialized,Input.probing i hproper h hrun hlate hcons⟩

end

lemma Steady.run (inputs:List Input) (hmeets:meets env inputs mc=true)
 (h:Steady mc log) (hrun:runInputs env inputs mc=some mc') : Steady mc' (log++runLog env inputs mc) := by
 induction inputs generalizing mc log with
 | nil=>simpa[runLog] using some.inj hrun▸h
 | cons i inputs ih=>
  obtain ⟨mc₁,hfirst,hrest⟩:=bind_eq_some_iff.1 hrun
  simp only[meets,hfirst,all_some,Bool.and_eq_true,Bool.not_eq_true'] at hmeets
  obtain ⟨hproper,hlate,hnext⟩:=hmeets
  have hlast:=ih hnext (h.step i hproper hfirst hlate) hrest
  rw[runLog,hfirst]
  simpa using hlast

lemma started_steady (destMac srcMac sender:Nat) {addressBase rangeLen:Nat}
 (haddr:addressBase+rangeLen≤2^48) (hlen:rangeLen<2^32) :
 Steady (started destMac srcMac sender addressBase rangeLen) [] := by
 obtain ⟨hcons,hcalm⟩:=consistent_of_empty (started destMac srcMac sender addressBase rangeLen)
  rfl rfl (fun _=>rfl) hlen
 obtain ⟨hsound,hnum⟩:=started_sound destMac srcMac sender addressBase rangeLen
 refine ⟨hcons,hcalm,rfl,hsound,hnum,⟨haddr,hlen⟩,fun x hx=>?_,fun before after=>?_⟩
 · cases hx.queued
 · intro _ _ _ _ heq
   simp at heq

/-- Every block acquired was probed for four times since it was given, and nothing was heard against
it. -/
theorem acquired_after_undisputed_probes (env:Env)
 (destMac srcMac sender addressBase rangeLen:Nat) (inputs:List Input) (mc:Client)
 (haddr:addressBase+rangeLen≤2^48) (hlen:rangeLen<2^32)
 (hmeets:meets env inputs (started destMac srcMac sender addressBase rangeLen)=true)
 (hrun:runInputs env inputs (started destMac srcMac sender addressBase rangeLen)=some mc) : ProbedFirst srcMac
  (runLog env inputs (started destMac srcMac sender addressBase rangeLen)) := by
 have hsteady:=(started_steady destMac srcMac sender haddr hlen).run inputs hmeets hrun
 obtain ⟨acts,hturns⟩:=runInputs_turns inputs (started_sound _ _ _ _ _).1 rfl hrun
 have hfirst:=hsteady.probing.first
 rwa[hturns.config.srcMac] at hfirst

theorem acquired_after_undisputed_probes_four :
 meets steadyEnv [.reserve 0 0x91E0F0000000 8,.timer 2,.timer 2,.timer 2,.timer 2] pool=true ∧
 ProbedFirst 0x0200000000AA (runLog steadyEnv
  [.reserve 0 0x91E0F0000000 8,.timer 2,.timer 2,.timer 2,.timer 2] pool) := by
 have hmeets:meets steadyEnv
  [.reserve 0 0x91E0F0000000 8,.timer 2,.timer 2,.timer 2,.timer 2] pool=true:=by
  decide +kernel
 obtain ⟨mc,hmc⟩:=isSome_iff_exists.1 (show (runInputs steadyEnv
  [.reserve 0 0x91E0F0000000 8,.timer 2,.timer 2,.timer 2,.timer 2] pool).isSome=true by
   decide +kernel)
 exact ⟨hmeets,acquired_after_undisputed_probes steadyEnv _ _ _ _ _ _ mc (by decide) (by decide)
  hmeets hmc⟩

def announceBelow : List UInt8 := packMaap {initPacket 0x91E0F000FF00 0x0200000000BB with
  messageType:=maapAnnounce
  requestedStartAddress:=0x91E0EFFFFFFC
  requestedCount:=8}
def disputedRun : List Input :=
 [.reserve 0 0x91E0F0000000 8,.packet announceBelow,.timer 2,.timer 2,.timer 2,.timer 2]

theorem acquired_despite_announce : (runInputs steadyEnv disputedRun pool).isSome=true ∧
  ¬ProbedFirst 0x0200000000AA (runLog steadyEnv disputedRun pool) := by
 refine ⟨by decide +kernel,fun hfirst=>?_⟩
 obtain ⟨pre,owner,since,hbefore,hprobed⟩:=hfirst
  ((runLog steadyEnv disputedRun pool).take 6) ((runLog steadyEnv disputedRun pool).drop 7) 0 1
  0x91E0F0000000 8 (by decide +kernel)
 have hdisputes:Disputes 0x0200000000AA 0x91E0F0000000 8 announceBelow:=
  ⟨by decide,by decide,⟨0x91E0F0000000,by decide⟩,.inr (.inl (by decide))⟩
 -- the block is given by the first event, and no later event gives it again
 have hheard:Event.heard announceBelow∈((runLog steadyEnv disputedRun pool).take 6).tail:=by
  decide +kernel
 have hgiven:∀event∈((runLog steadyEnv disputedRun pool).take 6).tail,event.note=none:=by
  decide +kernel
 rw[hbefore] at hheard hgiven
 cases pre with
 | nil=>exact hprobed.undisputed _ hheard hdisputes
 | cons event pre=>simpa[Event.note] using hgiven _ (mem_append_right pre (.head since))

end MaapProbeRuns

end OpenAvnu
