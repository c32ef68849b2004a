import ArduinoNfc.Foundation.Protocol
import ArduinoNfc.Sketch.Runtime
import ArduinoNfc.Tags.Chunks

/-!
# The commands of a sketch

`NfcTags` accepts a command in some of its states only, and the sketches do not ask for
the state: they rely on the callbacks.  `sketch_conforms` says that this is enough.  As
long as every callback reports a success, whatever the controller sends, each command
that a sketch calls is accepted, and the calls follow the order that `NfcTags` is made
for: a reset, a discovery, and then each tag dumped at most once before it is
deactivated.
-/

namespace ArduinoNfc
namespace Sketch

open Foundation Nci Tags Log

/-! ## The order of the commands -/

/-- How far the use of `NfcTags` is. -/
inductive Phase where
  /-- Before the reset. -/
  | fresh
  /-- The reset is under way or done. -/
  | ready
  /-- The discovery is under way, or has found a tag. -/
  | searching
  /-- The tag that was found is dumped. -/
  | dumped
  deriving DecidableEq, Repr

/-- The commands that may follow; only `TagDump` dumps. -/
def usage (k : Kind) : Protocol Phase AppCmd where
  step
    | .fresh, .cmdReset => some .ready
    | .ready, .cmdDiscover => some .searching
    | .searching, .cmdDump => if k = .tagDump then some .dumped else none
    | .searching, .cmdDeactivate => some .searching
    | .dumped, .cmdDeactivate => some .searching
    | _, _ => none

/-- The phase that a sketch is in.  Before a deactivation, the stack knows whether the tag
was dumped. -/
def Runtime.phase (r : Runtime) : Phase :=
  match r.app with
  | .reset => .fresh
  | .resetResponse => .ready
  | .discover => .ready
  | .dumpResponse => .dumped
  | .deactivate => if r.stack.tags.state = .dump then .dumped else .searching
  | _ => .searching

/-- A command among what is observed. -/
def LoopOutput.cmd : LoopOutput → Option AppCmd
  | .command cmd _ => some cmd
  | _ => none

/-- What the stack shows of an event. -/
def Runtime.stackOut (r : Runtime) : LoopEvent → List StackOutput
  | .app => []
  | .tags hw junk => (r.stack.handleEvent hw junk).2
  | .nci pkt garbage => (r.stack.receive pkt garbage).2

/-- Every call on the application's callback object reports a success. -/
def CallsOk (r : Runtime) (e : LoopEvent) : Prop := ∀ c ∈ callsOf (r.stackOut e), c.status = .ok

instance (r : Runtime) (e : LoopEvent) : Decidable (CallsOk r e) :=
  inferInstanceAs (Decidable (∀ c ∈ _, _))

/-! ## The invariant -/

/-- There is no interface, and no dump in progress. -/
structure Free (t : NfcTags) : Prop where
  intf : t.pTagIntf = none
  idle : t.tag2.state = .none

/-- The application waits for the callback that the stack is working on. -/
inductive Waits (k : Kind) (s : Stack) : AppState → Prop where
  | reset (free : Free s.tags) (id_eq : s.tags.id = .reset)
      (state : s.tags.state = .initReset ∧ s.nci.state = .none ∨ s.tags.state = .initInit) :
      Waits k s .resetResponse
  | discover (free : Free s.tags) (id_eq : s.tags.id = .discover)
      (state : s.tags.state = .discoverMap ∨ s.tags.state = .discover) :
      Waits k s .discoverResponse
  | discovering (free : Free s.tags) (id_eq : s.tags.id = .discover)
      (state : s.tags.state = .discoverNtf) : Waits k s .discovering
  | dump (sketch : k = .tagDump) (id_eq : s.tags.id = .dump) (state : s.tags.state = .dump)
      (intf : s.tags.pTagIntf = some .tag2) (tag2_id : s.tags.tag2.id = .dump)
      (busy : s.tags.tag2.state ≠ .none) : Waits k s .dumpResponse
  | deactivate (free : Free s.tags) (id_eq : s.tags.id = .deactivate)
      (state : s.tags.state = .deactivate ∨ s.tags.state = .deactivateRsp) :
      Waits k s .deactivateResponse

/-- The application is about to call a command, and the stack is ready for it. -/
inductive Finds (k : Kind) (s : Stack) : AppState → Prop where
  | reset (free : Free s.tags) (state : s.nci.state = .none) : Finds k s .reset
  | discover (free : Free s.tags) (state : s.tags.state = .initDone) : Finds k s .discover
  | dump (sketch : k = .tagDump) (state : s.tags.state = .discoverActivated)
      (intf : s.tags.pTagIntf = some .tag2) (idle : s.tags.tag2.state = .none) :
      Finds k s .dump
  | deactivate (state : s.tags.state = .discoverActivated ∨
      k = .tagDump ∧ s.tags.state = .dump) (idle : s.tags.tag2.state = .none) :
      Finds k s .deactivate

/-- The controller has deactivated the tag in the middle of a dump: the next poll fails. -/
structure Lost (k : Kind) (s : Stack) (app : AppState) : Prop where
  sketch : k = .tagDump
  app_eq : app = .dumpResponse
  id_eq : s.tags.id = .dump
  state : s.tags.state = .deactivateRsp

/-- What holds between the application and the stack, by whose turn it is. -/
def Staged (k : Kind) (r : Runtime) : Prop :=
  match r.turn with
  | .app => Finds k r.stack r.app ∨ Waits k r.stack r.app ∨ Lost k r.stack r.app
  | .tags => Waits k r.stack r.app ∨ Lost k r.stack r.app
  | .nci => Waits k r.stack r.app

variable {k : Kind} {s t : Stack} {app : AppState}

theorem staged_init : Staged k Runtime.init := Or.inl (.reset ⟨rfl, rfl⟩ rfl)

/-- The wait goes on while what it depends on stays as it is. -/
theorem Waits.congr (h : Waits k s app) (hid : t.tags.id = s.tags.id)
    (hstate : t.tags.state = s.tags.state) (hintf : t.tags.pTagIntf = s.tags.pTagIntf)
    (htag2 : t.tags.tag2.id = s.tags.tag2.id ∧ t.tags.tag2.state = s.tags.tag2.state)
    (hnci : t.nci.state = s.nci.state) : Waits k t app := by
  have hfree : Free s.tags → Free t.tags := fun free =>
    ⟨hintf.trans free.intf, htag2.2.trans free.idle⟩
  cases h with
  | reset free id_eq state =>
      exact .reset (hfree free) (hid.trans id_eq) (by rwa [hstate, hnci])
  | discover free id_eq state =>
      exact .discover (hfree free) (hid.trans id_eq) (by rwa [hstate])
  | discovering free id_eq state =>
      exact .discovering (hfree free) (hid.trans id_eq) (hstate.trans state)
  | dump sketch id_eq state intf tag2_id busy =>
      exact .dump sketch (hid.trans id_eq) (hstate.trans state) (hintf.trans intf)
        (htag2.1.trans tag2_id) (by rwa [htag2.2])
  | deactivate free id_eq state =>
      exact .deactivate (hfree free) (hid.trans id_eq) (by rwa [hstate])

/-- While it waits, the switch does nothing. -/
theorem Waits.action (h : Waits k s app) : k.action app = .wait := by
  cases h with
  | dump sketch => rw [sketch]; rfl
  | _ => cases k <;> rfl

theorem Lost.action (h : Lost k s app) : k.action app = .wait := by
  rw [h.sketch, h.app_eq]
  rfl

/-! ## The turn of the application -/

theorem appRun_accepted {r : Runtime} {cmd : AppCmd} {next : AppState}
    (haction : k.action r.app = .call cmd next) (hstatus : (r.stack.tags.exec cmd).1 = .ok) :
    r.appRun k = ⟨next, (r.stack.tags.exec cmd).2, some (cmd, .ok), []⟩ := by
  simp [Runtime.appRun, Kind.handleEvent, haction, hstatus]

theorem appRun_waits {r : Runtime} (haction : k.action r.app = .wait) :
    r.appRun k = ⟨r.app, r.stack.tags, none, []⟩ := by
  simp [Runtime.appRun, Kind.handleEvent, haction]

theorem exec_discover {t : NfcTags} (h : t.state = .initDone) :
    t.exec .cmdDiscover = (.ok, { t with state := .discoverMap, id := .discover }) :=
  if_neg (not_not.mpr h)

theorem exec_deactivate {t : NfcTags} (h : t.state = .discoverActivated ∨ t.state = .dump) :
    t.exec .cmdDeactivate =
      (.ok, { t with state := .deactivate, id := .deactivate, pTagIntf := none }) :=
  if_pos h

theorem exec_dump {t : NfcTags} (hstate : t.state = .discoverActivated)
    (hintf : t.pTagIntf = some .tag2) (hidle : t.tag2.state = .none) :
    t.exec .cmdDump = (.ok, { t with
      state := .dump, id := .dump
      tag2 := { t.tag2 with id := .dump, state := .dump, block := memoryFirstBlock } }) := by
  simp [NfcTags.exec, NfcTags.cmdDump, hstate, hintf, NfcTags.intfCmdDump,
    NfcTagsIntfType2.cmdDump, hidle]

/-- The command that is called is accepted, and its answer is waited for. -/
theorem Finds.called (h : Finds k s app) :
    ∃ cmd next, k.action app = .call cmd next ∧ (s.tags.exec cmd).1 = .ok ∧
      Waits k { s with tags := (s.tags.exec cmd).2 } next ∧
      (usage k).step (Runtime.phase ⟨app, s, .app⟩) cmd =
        some (Runtime.phase ⟨next, { s with tags := (s.tags.exec cmd).2 }, .tags⟩) := by
  cases h with
  | reset free state =>
      exact ⟨.cmdReset, .resetResponse, by cases k <;> rfl, rfl,
        .reset ⟨rfl, free.idle⟩ rfl (Or.inl ⟨rfl, state⟩), rfl⟩
  | discover free state =>
      have hrun := exec_discover state
      refine ⟨.cmdDiscover, .discoverResponse, by cases k <;> rfl, by rw [hrun], ?_, rfl⟩
      rw [hrun]
      exact .discover ⟨free.intf, free.idle⟩ rfl (Or.inl rfl)
  | dump sketch state intf idle =>
      subst sketch
      have hrun := exec_dump state intf idle
      refine ⟨.cmdDump, .dumpResponse, rfl, by rw [hrun], ?_, rfl⟩
      rw [hrun]
      exact .dump rfl rfl rfl intf rfl nofun
  | deactivate state idle =>
      have hsource : s.tags.state = .discoverActivated ∨ s.tags.state = .dump :=
        state.imp_right And.right
      have hrun := exec_deactivate hsource
      refine ⟨.cmdDeactivate, .deactivateResponse, by cases k <;> rfl, by rw [hrun], ?_, ?_⟩
      · rw [hrun]
        exact .deactivate ⟨rfl, idle⟩ rfl (Or.inl rfl)
      · rcases hsource with hstate | hstate <;> simp [Runtime.phase, hstate, usage]

/-! ## The turn of `NfcTags` -/

/-- A handler that ends with a failure does not report a success only. -/
theorem failure_not_ok {out : List StackOutput} (hok : ∀ c ∈ callsOf out, c.status = .ok)
    {method : TagsCb} {id : TagsId} {status : TagsStatus} (hstatus : status ≠ .ok)
    (before : List StackOutput) (hout : out = before ++ [failureCall method id status]) :
    False := by
  have hmem : failureCall method id status ∈ out := by
    rw [hout]
    exact List.mem_append_right _ (List.mem_singleton.mpr rfl)
  exact hstatus (hok ⟨method, status, id, none⟩ (List.mem_filterMap.mpr ⟨_, hmem, rfl⟩))

/-- After the loss of the tag, the dump handler gives up. -/
theorem Lost.poll (h : Lost k s app) (hw : HwWrite) (junk : UInt8) :
    (s.handleEvent hw junk).2 = [failureCall .cbDump .dump .rejected] := by
  simp [Stack.handleEvent, h.id_eq, Stack.handleDump, h.state, failureCall]

/-- The pending command is on its way, and the wait goes on. -/
theorem Waits.issued (h : Waits k s app) {nci : NfcNci} (hnci : nci.state = s.nci.state) :
    Waits k ⟨s.tags.issued, nci⟩ app := by
  by_cases hid : s.tags.id = .dump
  · cases h with
    | dump sketch id_eq state intf tag2_id _ =>
        have hissued : s.tags.issued =
            { s.tags with tag2 := { s.tags.tag2 with state := .dumpRsp } } := if_pos hid
        rw [hissued]
        exact .dump sketch id_eq state intf tag2_id nofun
    | reset _ id_eq _ => exact absurd (id_eq.symm.trans hid) nofun
    | discover _ id_eq _ => exact absurd (id_eq.symm.trans hid) nofun
    | discovering _ id_eq _ => exact absurd (id_eq.symm.trans hid) nofun
    | deactivate _ id_eq _ => exact absurd (id_eq.symm.trans hid) nofun
  · have hissued : s.tags.issued = s.tags := if_neg hid
    rw [hissued]
    exact h.congr rfl rfl rfl ⟨rfl, rfl⟩ hnci

/-- A poll that reports no failure calls nothing back, and the wait goes on. -/
theorem waits_poll (hagrees : s.Agrees) (h : Waits k s app ∨ Lost k s app) {hw : HwWrite}
    {junk : UInt8} (hok : ∀ c ∈ callsOf (s.handleEvent hw junk).2, c.status = .ok) :
    callsOf (s.handleEvent hw junk).2 = [] ∧ Waits k (s.handleEvent hw junk).1 app := by
  rcases h with h | h
  swap
  · exact (failure_not_ok hok (by decide) [] (h.poll hw junk)).elim
  cases poll_cases s hw junk with
  | issued cmd _ stack_eq out_eq =>
      obtain ⟨status, hstatus, hout⟩ := out_eq
      rw [stack_eq]
      refine ⟨?_, h.issued (exec_state _ _ _)⟩
      by_cases hsent : (s.nci.exec hw cmd).status = nciStatusOk
      · rw [hout, if_pos hsent]
        rfl
      · rw [if_neg hsent] at hout
        exact (failure_not_ok hok hstatus [_] hout).elim
  | idle _ stack_eq out_eq =>
      rw [stack_eq, out_eq]
      exact ⟨rfl, h⟩
  | deactivated _ _ state_eq _ _ => exact absurd (Or.inl state_eq) hagrees.used
  | failed _ _ status status_ne out_eq =>
      exact (failure_not_ok hok status_ne [] out_eq).elim

/-! ## The turn of `NfcNci` -/

/-- What `Staged` asks for when it is the application's turn. -/
def Ready (k : Kind) (s : Stack) (app : AppState) : Prop :=
  Finds k s app ∨ Waits k s app ∨ Lost k s app

/-- After a packet, it is the application's turn again, in the same phase. -/
def Advances (k : Kind) (s : Stack) (app : AppState) (garbage : NciRfIntf)
    (run : Stack × List StackOutput) : Prop :=
  Ready k run.1 (k.called run.1 garbage app run.2).1 ∧
    Runtime.phase ⟨(k.called run.1 garbage app run.2).1, run.1, .app⟩ =
      Runtime.phase ⟨app, s, .app⟩

/-- The state that a sketch leaves `DISCOVERING` for. -/
def Kind.found (k : Kind) (s : Stack) : AppState :=
  if k = .tagDump ∧ s.tags.pTagIntf = some .tag2 then .dump else .deactivate

theorem called_activated (garbage : NciRfIntf) :
    k.called s garbage app [.call ⟨.cbDiscoverNtf, .ok, .discoverActivated, none⟩ []] =
      (k.found s, detected s garbage) := by
  rw [called_call]
  cases k with
  | tagDetect => rfl
  | tagDump =>
      simp only [Kind.callback, Kind.cbDiscoverNtf, TagDump.cbDiscoverNtf, responded, Kind.found]
      cases hintf : s.tags.pTagIntf with
      | none => simp [NfcTags.getInterface, hintf]
      | some intf => cases intf <;> simp [NfcTags.getInterface, hintf, Stack.getType,
          NfcTagsIntfType2.getType, NfcTagsIntfMifare.getType]

/-- A tag that is found can be dumped or deactivated. -/
theorem finds_activated (hstate : s.tags.state = .discoverActivated)
    (hidle : s.tags.tag2.state = .none) :
    Finds k s (k.found s) ∧ Runtime.phase ⟨k.found s, s, .app⟩ = .searching := by
  unfold Kind.found
  split_ifs with h
  · exact ⟨.dump h.1 hstate h.2 hidle, rfl⟩
  · exact ⟨.deactivate (Or.inl hstate) hidle, by simp [Runtime.phase, hstate]⟩

/-- A message that `NfcNci` accepts lets the application go on, or wait for the next
one. -/
theorem ready_accepted (hagrees : s.Agrees) (h : Waits k s app) {m : NciMsg} {pkt : Packet}
    (haccepts : m.Accepts s.nci.state pkt) (hstate : t.tags.state = targetState m)
    (hid : t.tags.id = targetId m s.tags.id) (htag2 : s.tags.tag2.UpToRf t.tags.tag2)
    (hintf : m ≠ .ntfRfIntfActivated → t.tags.pTagIntf = s.tags.pTagIntf)
    (garbage : NciRfIntf) {out : List StackOutput}
    (hout : out = if Reported m then [.call ⟨reportMethod m, .ok, reportId m, none⟩ []]
      else []) : Advances k s app garbage (t, out) := by
  have hsource : m.source = s.nci.state := haccepts.1.symm
  have hfree : Free s.tags → m ≠ .ntfRfIntfActivated → Free t.tags := fun free hm =>
    ⟨(hintf hm).trans free.intf, htag2.state_eq.trans free.idle⟩
  have hidle : Free s.tags → t.tags.tag2.state = .none := fun free =>
    htag2.state_eq.trans free.idle
  have hactivated : m = .ntfRfIntfActivated →
      out = [.call ⟨.cbDiscoverNtf, .ok, .discoverActivated, none⟩ []] := by
    rintro rfl
    exact hout
  cases h with
  | reset free id_eq state =>
      subst hout
      rcases state with ⟨-, hnci⟩ | hinit
      · obtain rfl : m = .rspCoreReset := by
          rw [hnci] at hsource
          cases m <;> first | rfl | cases hsource
        exact ⟨Or.inr (Or.inl (.reset (hfree free nofun) (hid.trans id_eq) (Or.inr hstate))), rfl⟩
      · obtain rfl : m = .rspCoreInit := by
          rw [hagrees.agree _ (by rw [hinit]; rfl)] at hsource
          cases m <;> first | rfl | cases hsource
        exact ⟨Or.inl (.discover (hfree free nofun) hstate), rfl⟩
  | discover free id_eq state =>
      have hnci : s.nci.state = .rfstIdle := by
        rcases state with hs | hs <;> exact hagrees.agree _ (by rw [hs]; rfl)
      rw [hnci] at hsource
      cases m with
      | rspRfDiscoverMap =>
          subst hout
          exact ⟨Or.inr (Or.inl (.discover (hfree free nofun) (hid.trans id_eq)
            (Or.inr hstate))), rfl⟩
      | rspRfDiscover =>
          subst hout
          exact ⟨Or.inr (Or.inl (.discovering (hfree free nofun) (hid.trans id_eq) hstate)), rfl⟩
      | _ => cases hsource
  | discovering free id_eq state =>
      rw [hagrees.agree _ (by rw [state]; rfl)] at hsource
      cases m with
      | ntfRfIntfActivated =>
          obtain ⟨hfinds, hphase⟩ := finds_activated hstate (hidle free)
          rw [Advances, hactivated rfl, called_activated]
          exact ⟨Or.inl hfinds, hphase⟩
      | ntfRfDeactivate =>
          subst hout
          exact ⟨Or.inr (Or.inl (.discovering (hfree free nofun) hid hstate)), rfl⟩
      | _ => cases hsource
  | dump sketch id_eq state intf tag2_id busy =>
      obtain rfl : m = .rspRfDeactivate := by
        rw [hagrees.agree _ (by rw [state]; rfl)] at hsource
        cases m <;> first | rfl | cases hsource
      subst hout
      exact ⟨Or.inr (Or.inr ⟨sketch, rfl, hid.trans id_eq, hstate⟩), rfl⟩
  | deactivate free id_eq state =>
      rcases state with hs | hs
      · obtain rfl : m = .rspRfDeactivate := by
          rw [hagrees.agree _ (by rw [hs]; rfl)] at hsource
          cases m <;> first | rfl | cases hsource
        subst hout
        exact ⟨Or.inr (Or.inl (.deactivate (hfree free nofun) (hid.trans id_eq)
          (Or.inr hstate))), rfl⟩
      · rw [hagrees.agree _ (by rw [hs]; rfl)] at hsource
        cases m with
        | ntfRfIntfActivated =>
            obtain ⟨hfinds, hphase⟩ := finds_activated hstate (hidle free)
            rw [Advances, hactivated rfl, called_activated]
            exact ⟨Or.inl hfinds, hphase⟩
        | ntfRfDeactivate =>
            subst hout
            exact ⟨Or.inr (Or.inl (.discovering (hfree free nofun) hid hstate)), rfl⟩
        | _ => cases hsource

/-- A chunk lets the dump go on, or ends it. -/
theorem ready_chunk (h : Waits k s app) (hintf : s.tags.pTagIntf = some .tag2) {pkt : Packet}
    {run : Stack × List StackOutput} (hconsumed : Consumed s pkt run) (garbage : NciRfIntf) :
    Advances k s app garbage run := by
  have hnone : Free s.tags → False := fun free => absurd (free.intf.symm.trans hintf) nofun
  cases h with
  | reset free _ _ => exact (hnone free).elim
  | discover free _ _ => exact (hnone free).elim
  | discovering free _ _ => exact (hnone free).elim
  | deactivate free _ _ => exact (hnone free).elim
  | dump sketch id_eq state intf tag2_id busy =>
      subst sketch
      have hstate := hconsumed.state_eq.trans state
      have htag2 := hconsumed.tag2_eq
      have htag2_id : run.1.tags.tag2.id = .dump := by
        rw [htag2, NfcTagsIntfType2.chunked_id, tag2_id]
      rw [Advances, hconsumed.out_eq, called_call]
      -- more data is announced exactly when another `READ` is due
      by_cases hmore : (s.tags.tag2.chunked pkt).dump.more = 0
      · have hdone : (s.tags.tag2.chunked pkt).state = .none := by
          unfold NfcTagsIntfType2.chunked at hmore ⊢
          split_ifs at hmore ⊢
          · cases hmore
          · rfl
          · rfl
        have happ : (Kind.callback .tagDump run.1 garbage .dumpResponse
            ⟨.cbDump, .ok, .dump, some (s.tags.tag2.chunked pkt).dump⟩
            (if ValidChunk pkt then pkt.payload.take 16 else [])).1 = .deactivate := by
          simp [Kind.callback, Kind.cbDump, TagDump.cbDump, responded, hmore]
        rw [happ]
        exact ⟨Or.inl (.deactivate (Or.inr ⟨rfl, hstate⟩) (by rw [htag2, hdone])),
          by simp [Runtime.phase, hstate]⟩
      · have hgoes : (s.tags.tag2.chunked pkt).state ≠ .none := by
          unfold NfcTagsIntfType2.chunked at hmore ⊢
          split_ifs at hmore ⊢
          · exact nofun
          · exact absurd rfl hmore
          · exact absurd rfl hmore
        have happ : (Kind.callback .tagDump run.1 garbage .dumpResponse
            ⟨.cbDump, .ok, .dump, some (s.tags.tag2.chunked pkt).dump⟩
            (if ValidChunk pkt then pkt.payload.take 16 else [])).1 = .dumpResponse := by
          simp [Kind.callback, Kind.cbDump, TagDump.cbDump, responded, hmore]
        rw [happ]
        exact ⟨Or.inr (Or.inl (.dump rfl (hconsumed.id_eq.trans id_eq) hstate
          (hconsumed.intf_eq.trans intf) htag2_id (by rwa [htag2]))), rfl⟩

/-- A packet that goes unnoticed lets the application wait. -/
theorem ready_quiet (h : Waits k s app) (garbage : NciRfIntf) {run : Stack × List StackOutput}
    (hout : run.2 = []) (hid : run.1.tags.id = s.tags.id)
    (hstate : run.1.tags.state = s.tags.state) (hintf : run.1.tags.pTagIntf = s.tags.pTagIntf)
    (htag2 : run.1.tags.tag2 = s.tags.tag2) (hnci : run.1.nci.state = s.nci.state) :
    Advances k s app garbage run := by
  rw [Advances, hout]
  exact ⟨Or.inr (Or.inl (h.congr hid hstate hintf (by rw [htag2]; exact ⟨rfl, rfl⟩) hnci)),
    by simp [Runtime.phase, hstate]⟩

/-- A packet that no failure is reported of leaves the application waiting, or about to
call the next command. -/
theorem ready_receive (hagrees : s.Agrees) (h : Waits k s app) {pkt : Packet}
    {garbage : NciRfIntf} (hok : ∀ c ∈ callsOf (s.receive pkt garbage).2, c.status = .ok) :
    Advances k s app garbage (s.receive pkt garbage) := by
  cases stack_receive_cases hagrees.registered pkt garbage with
  | accepted m carries accepts nci_eq state_eq id_eq tag2_eq intf_eq out_eq =>
      exact ready_accepted hagrees h accepts state_eq id_eq tag2_eq
        (fun hm => intf_eq.trans (if_neg hm)) garbage out_eq
  | refused m _ _ _ _ _ _ _ status failed out_eq =>
      exact (failure_not_ok hok failed [] out_eq).elim
  | chunk isData intf _ _ _ _ _ _ =>
      have htag2_id : s.tags.tag2.id = .dump := by
        cases h with
        | dump _ _ _ _ tag2_id _ => exact tag2_id
        | reset free _ _ => exact absurd (free.intf.symm.trans intf) nofun
        | discover free _ _ => exact absurd (free.intf.symm.trans intf) nofun
        | discovering free _ _ => exact absurd (free.intf.symm.trans intf) nofun
        | deactivate free _ _ => exact absurd (free.intf.symm.trans intf) nofun
      exact ready_chunk h intf
        (receive_consumed hagrees.registered ⟨isData, intf, htag2_id⟩ garbage) garbage
  | dropped _ _ nci_eq state_eq id_eq tag2_eq intf_eq out_eq =>
      exact ready_quiet h garbage out_eq id_eq state_eq intf_eq tag2_eq (by rw [nci_eq]; rfl)
  | other _ _ nci_eq tags_eq out_eq =>
      refine ready_quiet h garbage out_eq ?_ ?_ ?_ ?_ (by rw [nci_eq]; rfl) <;> rw [tags_eq]

end Sketch
end ArduinoNfc
