import ArduinoNfc.Sketch.Conformance
import ArduinoNfc.Sketch.Field

/-!
# One event in the field

What one event comes to while a sketch, its controller and the tags are linked: they stay
linked, every callback reports a success, what is logged goes on record, and one of the
calls until the sketch waits for a tag is made.  There is one lemma for each kind of
event; `moves` puts them together.
-/

namespace ArduinoNfc
namespace Sketch

open Foundation Nci Tags Log Controller

/-! ## What an event comes to -/

/-- The turns of `NfcNci` until the sketch waits for a tag. -/
def Field.rounds (f : Field) : ℕ :=
  match f.loop.app with
  | .reset => 4
  | .resetResponse => if f.loop.stack.tags.state = .initReset then 4 else 3
  | .discover => 2
  | .discoverResponse => if f.loop.stack.tags.state = .discoverMap then 2 else 1
  | .dump => 6
  | .dumpResponse => 6 - (f.nfcc.visits.head?.elim 0 Visit.answered)
  | .deactivate => 2
  | .deactivateResponse => if f.loop.stack.tags.state = .deactivate then 2 else 1
  | _ => 0

/-- The calls before the next turn of `NfcNci`. -/
def Turn.rest : Turn → ℕ
  | .app => 2
  | .tags => 1
  | .nci => 0

/-- The calls until the sketch waits for a tag. -/
def Field.calls (f : Field) : ℕ := 3 * f.rounds + f.loop.turn.rest

/-- The calls that an event asks for. -/
def FieldEvent.cost : FieldEvent → ℕ
  | .activate _ _ => 21
  | .credits _ _ => 3
  | _ => 0

/-- What an event in the field comes to. -/
structure Moves (k : Kind) (f : Field) (e : FieldEvent) : Prop where
  callsOk : CallsOk f.loop e.loop
  linked : Linked k ((fieldSystem k).next f e)
  logged : ((fieldSystem k).next f e).logged =
    f.logged ++ ((fieldSystem k).emit f e).filterMap LoopOutput.printed
  paid : ((fieldSystem k).next f e).calls + 1 ≤ f.calls + e.cost

variable {k : Kind} {s : Stack} {c : Nfcc} {app : AppState}

/-- Outside of a dump, little is to be said. -/
theorem linked_off_dump {turn : Turn} (happ : app ≠ .dumpResponse) (hturn : turn ≠ .nci)
    (hnamed : rfNamed s.nci.state = some c.rf)
    (hleaving : c.leaving = true ↔ s.tags.state = .deactivateRsp)
    (hunanswered : c.unanswered = []) (hreads : c.reads = [])
    (hvisiting : Visiting k ⟨⟨app, s, turn⟩, c⟩) : Linked k ⟨⟨app, s, turn⟩, c⟩ where
  named := hnamed
  leaving := hleaving
  unanswered := hunanswered.trans (if_neg hturn).symm
  reads := hreads.trans (if_neg fun h => happ h.1).symm
  asked := fun h => absurd h hturn
  dumped := fun h => absurd h happ
  visiting := hvisiting

/-- Its turn leads to these, without a line. -/
theorem moves_app_of {app' : AppState} {tags : NfcTags} {called : Option (AppCmd × TagsStatus)}
    (hrun : Runtime.appRun k ⟨app, s, .app⟩ = ⟨app', tags, called, []⟩)
    (hlinked : Linked k ⟨⟨app', { s with tags }, .tags⟩, c⟩)
    (hstart : app'.startLines = app.startLines)
    (hrounds : Field.rounds ⟨⟨app', { s with tags }, .tags⟩, c⟩ ≤
      Field.rounds ⟨⟨app, s, .app⟩, c⟩) : Moves k ⟨⟨app, s, .app⟩, c⟩ .app := by
  have hnext : (fieldSystem k).next ⟨⟨app, s, .app⟩, c⟩ .app =
      ⟨⟨app', { s with tags }, .tags⟩, c⟩ := by
    show Field.mk ((loopSystem k).next ⟨app, s, .app⟩ .app) c = _
    rw [loop_next_app, hrun]
  have hemit : ((fieldSystem k).emit ⟨⟨app, s, .app⟩, c⟩ .app).filterMap LoopOutput.printed =
      [] := by
    show ((loopSystem k).emit ⟨app, s, .app⟩ .app).filterMap LoopOutput.printed = []
    rw [loop_emit_app, hrun]
    cases called <;> rfl
  refine ⟨List.forall_mem_nil _, ?_, ?_, ?_⟩
  · rw [hnext]
    exact hlinked
  · rw [hnext, hemit, List.append_nil, Field.logged, Field.logged, hstart]
  · rw [hnext]
    simp only [Field.calls, Turn.rest, FieldEvent.cost]
    omega

/-- A command is accepted. -/
theorem moves_called {cmd : AppCmd} {next : AppState} {tags : NfcTags}
    (haction : k.action app = .call cmd next) (hexec : s.tags.exec cmd = (.ok, tags))
    (hlinked : Linked k ⟨⟨next, { s with tags }, .tags⟩, c⟩)
    (hstart : next.startLines = app.startLines)
    (hrounds : Field.rounds ⟨⟨next, { s with tags }, .tags⟩, c⟩ ≤
      Field.rounds ⟨⟨app, s, .app⟩, c⟩) : Moves k ⟨⟨app, s, .app⟩, c⟩ .app := by
  have hrun := appRun_accepted (r := ⟨app, s, .app⟩) haction (by rw [hexec])
  rw [hexec] at hrun
  exact moves_app_of hrun hlinked hstart hrounds

theorem moves_finds (hagrees : s.Agrees) (h : Linked k ⟨⟨app, s, .app⟩, c⟩)
    (hfinds : Finds k s app) : Moves k ⟨⟨app, s, .app⟩, c⟩ .app := by
  have hunanswered : c.unanswered = [] := h.unanswered
  have hreads : app ≠ .dumpResponse → c.reads = [] := fun happ =>
    h.reads.trans (if_neg fun hand => happ hand.1)
  -- no deactivation is under way
  have hstays : ∀ {state}, s.tags.state ≠ .deactivateRsp → state ≠ TagsState.deactivateRsp →
      (c.leaving = true ↔ state = .deactivateRsp) := fun hold hnew =>
    (h.leaving.trans (iff_false_intro hold)).trans (iff_false_intro hnew).symm
  cases hfinds with
  | reset free state =>
      have hold : s.tags.state ≠ .deactivateRsp := by
        intro hrsp
        have hnci := hagrees.agree .rfstDiscovery (by rw [hrsp]; rfl)
        exact absurd (state.symm.trans hnci) (by decide)
      have haction : k.action .reset = .call .cmdReset .resetResponse := by cases k <;> rfl
      exact moves_called haction rfl
        (linked_off_dump nofun nofun h.named (hstays hold nofun) hunanswered (hreads nofun)
          h.visiting) rfl (le_refl _)
  | discover free state =>
      have haction : k.action .discover = .call .cmdDiscover .discoverResponse := by
        cases k <;> rfl
      exact moves_called haction (exec_discover state)
        (linked_off_dump nofun nofun h.named (hstays (by rw [state]; decide) nofun) hunanswered
          (hreads nofun) h.visiting) rfl (le_refl _)
  | deactivate state idle =>
      have hsource : s.tags.state = .discoverActivated ∨ s.tags.state = .dump :=
        state.imp_right And.right
      have hold : s.tags.state ≠ .deactivateRsp := by
        rcases hsource with hstate | hstate <;> rw [hstate] <;> decide
      have haction : k.action .deactivate = .call .cmdDeactivate .deactivateResponse := by
        cases k <;> rfl
      exact moves_called haction (exec_deactivate hsource)
        (linked_off_dump nofun nofun h.named (hstays hold nofun) hunanswered (hreads nofun)
          h.visiting) rfl (le_refl _)
  | dump sketch state intf idle =>
      subst sketch
      obtain ⟨v, past, hvisits, hdumps, hanswered, hdone⟩ := h.visiting
      have hblock : memoryFirstBlock = chunkBlock v.answered := by
        rw [hanswered]
        rfl
      have haction : Kind.action .tagDump .dump = .call .cmdDump .dumpResponse := rfl
      refine moves_called haction (exec_dump state intf idle) ?_ rfl ?_
      · refine ⟨h.named, hstays (by rw [state]; decide) nofun, hunanswered, ?_, nofun,
          fun _ => rfl, ⟨v, past, hvisits, hdumps, by omega, hblock, hdone⟩⟩
        exact (hreads nofun).trans (if_neg fun hand => absurd hand.2 nofun).symm
      · exact Nat.sub_le _ _

theorem moves_app {f : Field} (hstaged : Staged k f.loop) (hagrees : f.loop.stack.Agrees)
    (h : Linked k f) (hturn : f.loop.turn = .app) : Moves k f .app := by
  obtain ⟨⟨app, s, turn⟩, c⟩ := f
  obtain rfl : turn = .app := hturn
  rcases hstaged with hfinds | hwaits | hlost
  · exact moves_finds hagrees h hfinds
  · have hlinked : Linked k ⟨⟨app, s, .tags⟩, c⟩ :=
      ⟨h.named, h.leaving, h.unanswered, h.reads, nofun, h.dumped, h.visiting⟩
    exact moves_app_of (appRun_waits hwaits.action) hlinked rfl (le_refl _)
  · exact absurd ((h.dumped hlost.app_eq).symm.trans hlost.state) nofun

/-! ## The turn of `NfcTags` -/

theorem visiting_congr {t : Stack} {c' : Nfcc} {turn turn' : Turn}
    (h : Visiting k ⟨⟨app, s, turn⟩, c⟩) (hblock : t.tags.tag2.block = s.tags.tag2.block)
    (hvisits : c'.visits = c.visits) : Visiting k ⟨⟨app, t, turn'⟩, c'⟩ := by
  unfold Visiting at h ⊢
  dsimp only at h ⊢
  rwa [hblock, hvisits]

/-- A transport that takes every byte gets the pending command. -/
theorem exec_written {nci : NfcNci} {cmd : NciCmd} (hw : HwWrite) (h : nci.state = cmd.guard)
    (hparams : cmd.ParamsOk) : ∃ bytes, (nci.exec hw cmd).written = some bytes := by
  obtain ⟨bytes, len, hsent⟩ := exec_sent hw h hparams
  rw [hsent]
  exact ⟨_, rfl⟩

theorem Waits.app_of_dump (h : Waits k s app) (hid : s.tags.id = .dump) : app = .dumpResponse := by
  cases h with
  | dump => rfl
  | reset _ id_eq _ => exact absurd (id_eq.symm.trans hid) nofun
  | discover _ id_eq _ => exact absurd (id_eq.symm.trans hid) nofun
  | discovering _ id_eq _ => exact absurd (id_eq.symm.trans hid) nofun
  | deactivate _ id_eq _ => exact absurd (id_eq.symm.trans hid) nofun

theorem Waits.id_of_dump (h : Waits k s .dumpResponse) : s.tags.id = .dump := by
  cases h with
  | dump _ id_eq _ _ _ _ => exact id_eq

/-- The block of the next `READ` is in the memory. -/
theorem Linked.block_le {turn : Turn} (h : Linked k ⟨⟨.dumpResponse, s, turn⟩, c⟩) :
    s.tags.tag2.block ≤ memoryLastBlock + 1 - memoryReadBlock := by
  obtain ⟨v, past, -, -, hlt, hblock, -⟩ := h.visiting
  have hblock' : s.tags.tag2.block = chunkBlock v.answered := hblock
  rw [hblock']
  interval_cases v.answered <;> decide

/-- While the application waits, a poll sends what is pending, or there is nothing to do. -/
theorem Waits.polled (h : Waits k s app) (hagrees : s.Agrees)
    (hblock : app = .dumpResponse →
      s.tags.tag2.block ≤ memoryLastBlock + 1 - memoryReadBlock) (junk : UInt8) :
    (∃ cmd, s.tags.pending = some cmd ∧ s.nci.state = cmd.guard) ∨
      (s.tags.pending = none ∧ s.handleEvent acceptAll junk = (s, []) ∧
        (app = .dumpResponse → s.tags.tag2.state = .dumpRsp)) := by
  have hguard : ∀ {state nci}, s.tags.state = state → state.nciState = some nci →
      s.nci.state = nci := fun hstate hnci => hagrees.agree _ (by rw [hstate]; exact hnci)
  cases h with
  | reset _ id_eq state =>
      left
      rcases state with ⟨hstate, hnci⟩ | hstate
      · exact ⟨.cmdCoreReset nciResetTypeKeepCfg, by simp [NfcTags.pending, id_eq, hstate], hnci⟩
      · exact ⟨.cmdCoreInit, by simp [NfcTags.pending, id_eq, hstate], hguard hstate rfl⟩
  | discover _ id_eq state =>
      left
      rcases state with hstate | hstate
      · exact ⟨cmdDiscoverMaps, by simp [NfcTags.pending, id_eq, hstate], hguard hstate rfl⟩
      · exact ⟨cmdDiscoverConfs, by simp [NfcTags.pending, id_eq, hstate], hguard hstate rfl⟩
  | discovering _ id_eq state =>
      refine Or.inr ⟨by simp [NfcTags.pending, id_eq, state], ?_, fun h => absurd h (by decide)⟩
      simp [Stack.handleEvent, id_eq, Stack.handleDiscover, state, Stack.notify]
  | dump _ id_eq state intf _ busy =>
      by_cases hdue : s.tags.tag2.state = .dump
      · exact Or.inl ⟨_, pending_read id_eq state intf hdue (hblock rfl), hguard state rfl⟩
      · have hrsp : s.tags.tag2.state = .dumpRsp := by
          cases hstate : s.tags.tag2.state with
          | none => exact absurd hstate busy
          | dump => exact absurd hstate hdue
          | dumpRsp => rfl
        refine Or.inr ⟨by simp [NfcTags.pending, id_eq, state, hdue], ?_, fun _ => hrsp⟩
        rw [poll_not_due id_eq state intf hdue, if_pos (Or.inl hrsp)]
  | deactivate _ id_eq state =>
      rcases state with hstate | hstate
      · exact Or.inl ⟨.cmdRfDeactivate nciDeactivateTypeDiscovery,
          by simp [NfcTags.pending, id_eq, hstate], hguard hstate rfl⟩
      · refine Or.inr ⟨by simp [NfcTags.pending, id_eq, hstate], ?_, fun h => absurd h (by decide)⟩
        simp [Stack.handleEvent, id_eq, Stack.handleDeactivate, hstate, Stack.notify]

/-- What a poll comes to that calls nothing back. -/
theorem moves_tags_of {junk : UInt8} {t : Stack} {out : List StackOutput}
    (hrun : s.handleEvent acceptAll junk = (t, out)) (hcalls : callsOf out = [])
    (hstate : t.tags.state = s.tags.state)
    (hlinked : Linked k ⟨⟨app, t, .nci⟩, c.sent out⟩) :
    Moves k ⟨⟨app, s, .tags⟩, c⟩ (.tags junk) := by
  have hcalled : k.called t NciRfIntf.zero app out = (app, []) := called_of_callsOf_nil _ hcalls
  have hnext : (fieldSystem k).next ⟨⟨app, s, .tags⟩, c⟩ (.tags junk) =
      ⟨⟨app, t, .nci⟩, c.sent out⟩ := by
    show Field.mk ((loopSystem k).next ⟨app, s, .tags⟩ (.tags acceptAll junk))
      (c.sent (s.handleEvent acceptAll junk).2) = _
    rw [loop_next_tags, Runtime.handled, hrun, hcalled]
  have hemit : ((fieldSystem k).emit ⟨⟨app, s, .tags⟩, c⟩ (.tags junk)).filterMap
      LoopOutput.printed = [] := by
    show ((loopSystem k).emit ⟨app, s, .tags⟩ (.tags acceptAll junk)).filterMap _ = []
    rw [loop_emit_tags, shown_printed, hrun, hcalled]
  refine ⟨?_, ?_, ?_, ?_⟩
  · show ∀ call ∈ callsOf (s.handleEvent acceptAll junk).2, call.status = .ok
    rw [hrun, hcalls]
    exact List.forall_mem_nil _
  · rw [hnext]
    exact hlinked
  · rw [hnext, hemit, List.append_nil]
    rfl
  · have hrounds : Field.rounds ⟨⟨app, t, .nci⟩, c.sent out⟩ =
        Field.rounds ⟨⟨app, s, .tags⟩, c⟩ := by
      unfold Field.rounds
      dsimp only
      rw [hstate]
      rfl
    rw [hnext, Field.calls, Field.calls, hrounds]
    exact le_refl _

/-- A command that the controller answers is sent. -/
theorem linked_sent {cmd : NciCmd} {bytes : List UInt8} (h : Linked k ⟨⟨app, s, .tags⟩, c⟩)
    (hwaits : Waits k s app) (hpending : s.tags.pending = some cmd)
    (hresponse : (response cmd).isSome) (hid : s.tags.id ≠ .dump) {nci : NfcNci}
    (hnci : nci.state = s.nci.state) :
    Linked k ⟨⟨app, ⟨s.tags.issued, nci⟩, .nci⟩,
      c.sent [.nciCmd cmd nciStatusOk (some bytes)]⟩ := by
  have hissued : s.tags.issued = s.tags := if_neg hid
  have happ : app ≠ .dumpResponse := by
    rintro rfl
    exact hid hwaits.id_of_dump
  have hcmd : sentCmd (.nciCmd cmd nciStatusOk (some bytes)) = some cmd :=
    if_pos ⟨rfl, hresponse⟩
  have hread : sentRead (.nciCmd cmd nciStatusOk (some bytes)) = none := by
    cases cmd with
    | dataSend _ _ => cases hresponse
    | _ => rfl
  have hunanswered : c.unanswered = [] := h.unanswered
  have hreads : c.reads = [] := h.reads.trans (if_neg fun hand => happ hand.1)
  rw [hissued]
  refine ⟨(congrArg rfNamed hnci).trans h.named, h.leaving, ?_, ?_,
    fun _ hdump => absurd hdump happ, fun hdump => absurd hdump happ,
    visiting_congr h.visiting rfl rfl⟩
  · simp [Nfcc.sent, hcmd, hunanswered, hpending]
  · simp [Nfcc.sent, hread, hreads, happ]

/-- A `READ` is sent. -/
theorem linked_read (h : Linked k ⟨⟨.dumpResponse, s, .tags⟩, c⟩)
    (hid : s.tags.id = .dump) (htag2 : s.tags.tag2.state = .dump) {nci : NfcNci}
    (hnci : nci.state = s.nci.state) :
    Linked k ⟨⟨.dumpResponse, ⟨s.tags.issued, nci⟩, .nci⟩, c.sent
      [.nciCmd (NfcTagsIntfType2.readBlock s.tags.tag2.block) nciStatusOk
        (some (readPacket s.tags.tag2.block))]⟩ := by
  have hissued : s.tags.issued = { s.tags with tag2 := { s.tags.tag2 with state := .dumpRsp } } :=
    if_pos hid
  have hreads : c.reads = [] := by
    refine h.reads.trans (if_neg ?_)
    rintro ⟨-, hrsp⟩
    exact absurd (htag2.symm.trans hrsp) nofun
  have hunanswered : c.unanswered = [] := h.unanswered
  have hstate : s.tags.state = .dump := h.dumped rfl
  have hpending : NfcTags.pending
      { s.tags with tag2 := { s.tags.tag2 with state := .dumpRsp } } = none := by
    simp [NfcTags.pending, hid, hstate]
  rw [hissued]
  refine ⟨(congrArg rfNamed hnci).trans h.named, h.leaving, ?_, ?_, fun _ _ => rfl, h.dumped,
    visiting_congr h.visiting rfl rfl⟩
  · simp [Nfcc.sent, hunanswered, hpending, sentCmd, NfcTagsIntfType2.readBlock, response]
  · simp [Nfcc.sent, hreads, sentRead, NfcTagsIntfType2.readBlock, readOf_readPacket]

theorem moves_tags {f : Field} (hstaged : Staged k f.loop) (hagrees : f.loop.stack.Agrees)
    (h : Linked k f) (hturn : f.loop.turn = .tags) (junk : UInt8) : Moves k f (.tags junk) := by
  obtain ⟨⟨app, s, turn⟩, c⟩ := f
  obtain rfl : turn = .tags := hturn
  have hwaits : Waits k s app := by
    rcases hstaged with hwaits | hlost
    · exact hwaits
    · exact absurd ((h.dumped hlost.app_eq).symm.trans hlost.state) nofun
  have hblock : app = .dumpResponse →
      s.tags.tag2.block ≤ memoryLastBlock + 1 - memoryReadBlock := by
    rintro rfl
    exact h.block_le
  rcases hwaits.polled hagrees hblock junk with ⟨cmd, hpending, hguard⟩ | ⟨hpending, hidle, hasked⟩
  · obtain ⟨bytes, hwritten⟩ := exec_written acceptAll hguard (pending_paramsOk hpending)
    have hrun := poll_sent hpending hguard junk
    rw [hwritten] at hrun
    have hsent : (response cmd).isSome → s.tags.id ≠ .dump → Linked k
        ⟨⟨app, ⟨s.tags.issued, (s.nci.exec acceptAll cmd).nci⟩, .nci⟩,
          c.sent [.nciCmd cmd nciStatusOk (some bytes)]⟩ := fun hresponse hid =>
      linked_sent h hwaits hpending hresponse hid (exec_state _ _ _)
    refine moves_tags_of hrun rfl (issued_state _) ?_
    cases pending_cases hpending with
    | coreReset id_eq => exact hsent rfl (by rw [id_eq]; decide)
    | coreInit id_eq => exact hsent rfl (by rw [id_eq]; decide)
    | discoverMap id_eq => exact hsent rfl (by rw [id_eq]; decide)
    | discover id_eq => exact hsent rfl (by rw [id_eq]; decide)
    | deactivate id_eq => exact hsent rfl (by rw [id_eq]; decide)
    | read id_eq state_eq intf tag2_eq _ =>
        obtain rfl := hwaits.app_of_dump id_eq
        rw [read_written hguard] at hwritten
        obtain rfl := Option.some.inj hwritten
        exact linked_read h id_eq tag2_eq (exec_state _ _ _)
  · refine moves_tags_of hidle rfl rfl ⟨h.named, h.leaving, ?_, ?_, fun _ => hasked, h.dumped,
      visiting_congr h.visiting rfl rfl⟩
    · have hunanswered : c.unanswered = [] := h.unanswered
      simp [Nfcc.sent, hunanswered, hpending]
    · exact (List.append_nil _).trans h.reads

/-! ## The turn of `NfcNci` -/

/-- What a packet comes to. -/
theorem moves_nci_of {e : FieldEvent} {pkt : Packet} {garbage : NciRfIntf} {app' : AppState}
    {lines : List Line} {c' : Nfcc} (hloop : e.loop = .nci pkt garbage)
    (hnfcc : ((fieldSystem k).next ⟨⟨app, s, .nci⟩, c⟩ e).nfcc = c')
    (hok : ∀ call ∈ callsOf (s.receive pkt garbage).2, call.status = .ok)
    (hcalled : k.called (s.receive pkt garbage).1 garbage app (s.receive pkt garbage).2 =
      (app', lines))
    (hlinked : Linked k ⟨⟨app', (s.receive pkt garbage).1, .app⟩, c'⟩)
    (hlogged : Field.logged ⟨⟨app', (s.receive pkt garbage).1, .app⟩, c'⟩ =
      Field.logged ⟨⟨app, s, .nci⟩, c⟩ ++ lines)
    (hrounds : 3 * Field.rounds ⟨⟨app', (s.receive pkt garbage).1, .app⟩, c'⟩ + 3 ≤
      3 * Field.rounds ⟨⟨app, s, .nci⟩, c⟩ + e.cost) : Moves k ⟨⟨app, s, .nci⟩, c⟩ e := by
  have hnext : (fieldSystem k).next ⟨⟨app, s, .nci⟩, c⟩ e =
      ⟨⟨app', (s.receive pkt garbage).1, .app⟩, c'⟩ := by
    have hrun : ((fieldSystem k).next ⟨⟨app, s, .nci⟩, c⟩ e).loop =
        ⟨app', (s.receive pkt garbage).1, .app⟩ := by
      show (loopSystem k).next ⟨app, s, .nci⟩ e.loop = _
      rw [hloop, loop_next_nci, Runtime.handled, hcalled]
    rw [← hrun, ← hnfcc]
  have hemit : ((fieldSystem k).emit ⟨⟨app, s, .nci⟩, c⟩ e).filterMap LoopOutput.printed =
      lines := by
    show ((loopSystem k).emit ⟨app, s, .nci⟩ e.loop).filterMap _ = lines
    rw [hloop, loop_emit_nci, shown_printed, hcalled]
  refine ⟨?_, ?_, ?_, ?_⟩
  · rw [hloop]
    exact hok
  · rw [hnext]
    exact hlinked
  · rw [hnext, hemit, hlogged]
  · rw [hnext]
    simp only [Field.calls, Turn.rest]
    omega

/-- A response, or an activation, moves the controller as it moves the host. -/
theorem after_named {m : NciMsg} (hm : m ≠ .ntfRfDeactivate) {rf : RfState}
    (h : rfNamed m.source = some rf) : rf.after m = rfNamed m.target := by
  revert hm h
  cases m <;> cases rf <;> decide

/-- Only the response to a deactivation leads to `DEACTIVATE_RSP`. -/
theorem targetState_eq_deactivateRsp (m : NciMsg) :
    targetState m = .deactivateRsp ↔ m = .rspRfDeactivate := by
  cases m <;> decide

/-- The command that is pending is the one that is answered. -/
theorem pending_of_owed (h : Linked k ⟨⟨app, s, .nci⟩, c⟩) {m : NciMsg} (howed : m ∈ c.owed) :
    ∃ cmd, s.tags.pending = some cmd ∧ response cmd = some m ∧ c.unanswered = [cmd] := by
  have hunanswered : c.unanswered = s.tags.pending.toList := h.unanswered
  obtain ⟨cmd, hcmd, hresponse⟩ := Option.bind_eq_some_iff.mp howed
  rw [hunanswered] at hcmd ⊢
  cases hpending : s.tags.pending with
  | none =>
      rw [hpending] at hcmd
      cases hcmd
  | some cmd' =>
      rw [hpending] at hcmd
      cases hcmd
      exact ⟨_, rfl, hresponse, rfl⟩

/-- The controller and the host after the answer. -/
theorem linked_answered (h : Linked k ⟨⟨app, s, .nci⟩, c⟩) (hagrees : s.Agrees) {m : NciMsg}
    {pkt : Packet} (garbage : NciRfIntf) (howed : m ∈ c.owed) (hcarries : pkt.Carries m)
    (haccepts : m.Accepts s.nci.state pkt) (happ : app ≠ .dumpResponse)
    (hstate : s.tags.state ≠ .deactivateRsp) {app' : AppState} (happ' : app' ≠ .dumpResponse)
    (hvisiting : Visiting k ⟨⟨app', (s.receive pkt garbage).1, .app⟩, c.perform m⟩) :
    Linked k ⟨⟨app', (s.receive pkt garbage).1, .app⟩, c.perform m⟩ := by
  obtain ⟨cmd, -, hresponse, hunanswered⟩ := pending_of_owed h howed
  obtain ⟨hnci, htags, -, -⟩ := receive_of_accepts hagrees.registered hcarries haccepts garbage
  have hm : m ≠ .ntfRfDeactivate := by
    rintro rfl
    cases cmd <;> cases hresponse
  have hnamed : rfNamed m.source = some c.rf := by
    rw [← haccepts.1]
    exact h.named
  have hquiet : c.leaving = false := by
    rw [← Bool.not_eq_true]
    exact fun hleaving => hstate (h.leaving.mp hleaving)
  refine linked_off_dump happ' nofun ?_ ?_ ?_ ?_ hvisiting
  · show rfNamed (s.receive pkt garbage).1.nci.state = some ((c.rf.after m).getD c.rf)
    rw [hnci, NciMsg.accepted_state haccepts, after_named hm hnamed]
    cases m <;> rfl
  · show (c.leaving || decide (m = .rspRfDeactivate)) = true ↔ _
    rw [htags, targetState_eq_deactivateRsp, hquiet, Bool.false_or, decide_eq_true_iff]
  · show c.unanswered.tail = []
    rw [hunanswered]
    rfl
  · exact h.reads.trans (if_neg fun hand => happ hand.1)

/-- The answer to the pending command. -/
theorem moves_answered (h : Linked k ⟨⟨app, s, .nci⟩, c⟩) (hagrees : s.Agrees) {m : NciMsg}
    {pkt : Packet} {garbage : NciRfIntf} (howed : m ∈ c.owed) (hcarries : pkt.Carries m)
    (haccepts : m.Accepts s.nci.state pkt) (happ : app ≠ .dumpResponse)
    (hstate : s.tags.state ≠ .deactivateRsp) {app' : AppState} {lines : List Line}
    (hcalled : k.called (s.receive pkt garbage).1 garbage app
      (if Reported m then [.call ⟨reportMethod m, .ok, reportId m, none⟩ []] else []) =
        (app', lines))
    (happ' : app' ≠ .dumpResponse)
    (hvisiting : Visiting k ⟨⟨app', (s.receive pkt garbage).1, .app⟩, c.perform m⟩)
    (hlogged : Field.logged ⟨⟨app', (s.receive pkt garbage).1, .app⟩, c.perform m⟩ =
      Field.logged ⟨⟨app, s, .nci⟩, c⟩ ++ lines)
    (hrounds : (s.receive pkt garbage).1.tags.state = targetState m →
      Field.rounds ⟨⟨app', (s.receive pkt garbage).1, .app⟩, c.perform m⟩ + 1 ≤
        Field.rounds ⟨⟨app, s, .nci⟩, c⟩) :
    Moves k ⟨⟨app, s, .nci⟩, c⟩ (.answer pkt garbage) := by
  obtain ⟨-, htags, -, hout⟩ := receive_of_accepts hagrees.registered hcarries haccepts garbage
  have hperformed : ((fieldSystem k).next ⟨⟨app, s, .nci⟩, c⟩ (.answer pkt garbage)).nfcc =
      c.perform m := by
    have howed' : c.owed = some m := howed
    simp only [fieldSystem, howed']
  refine moves_nci_of rfl hperformed ?_ ?_
    (linked_answered h hagrees garbage howed hcarries haccepts happ hstate happ' hvisiting)
    hlogged ?_
  · rw [hout]
    split_ifs
    · exact List.forall_mem_singleton.mpr rfl
    · exact List.forall_mem_nil _
  · rw [hout]
    exact hcalled
  · have hless := hrounds htags
    simp only [FieldEvent.cost]
    omega

theorem moves_answer {f : Field} (hstaged : Staged k f.loop) (hagrees : f.loop.stack.Agrees)
    (h : Linked k f) {pkt : Packet} {garbage : NciRfIntf}
    (hen : (fieldSystem k).enabled f (.answer pkt garbage)) :
    Moves k f (.answer pkt garbage) := by
  obtain ⟨⟨app, s, turn⟩, c⟩ := f
  obtain ⟨hturn, m, howed, hcarries, hform, -⟩ := hen
  obtain rfl : turn = .nci := hturn
  obtain ⟨cmd, hpending, hresponse, -⟩ := pending_of_owed h howed
  have hguard : ∀ {state nci}, s.tags.state = state → state.nciState = some nci →
      s.nci.state = nci := fun hstate hnci => hagrees.agree _ (by rw [hstate]; exact hnci)
  have hwaits : Waits k s app := hstaged
  -- where no callback is made, the application goes on waiting
  have hsilent : k.called (s.receive pkt garbage).1 garbage app [] = (app, []) :=
    called_nil _ _ _
  cases hwaits with
  | reset _ id_eq state =>
      have hnone : c.visits = [] := h.visiting
      rcases state with ⟨hstate, hnci⟩ | hstate
      · simp only [NfcTags.pending, id_eq, hstate, Option.some.injEq] at hpending
        subst hpending
        cases hresponse
        refine moves_answered h hagrees howed hcarries ⟨hnci, hform⟩ (by decide)
          (by rw [hstate]; decide) hsilent (by decide) hnone (List.append_nil _).symm
          fun htags => ?_
        simp [Field.rounds, hstate, htags, targetState]
      · simp only [NfcTags.pending, id_eq, hstate, Option.some.injEq] at hpending
        subst hpending
        cases hresponse
        have hcalled : k.called (s.receive pkt garbage).1 garbage .resetResponse
            [.call ⟨.cbReset, .ok, .reset, none⟩ []] =
              (.discover, [.i "TagDetect: NFC stack and HW reseted\n" []]) := called_call _ _ _ _ _
        refine moves_answered h hagrees howed hcarries ⟨hguard hstate rfl, hform⟩ (by decide)
          (by rw [hstate]; decide) hcalled (by decide) hnone ?_ fun _ => ?_
        · simp [Field.logged, Nfcc.perform, hnone, AppState.startLines]
        · simp [Field.rounds, hstate]
  | discover _ id_eq state =>
      have hnone : c.visits = [] := h.visiting
      rcases state with hstate | hstate
      · simp only [NfcTags.pending, id_eq, hstate, Option.some.injEq] at hpending
        subst hpending
        cases hresponse
        refine moves_answered h hagrees howed hcarries ⟨hguard hstate rfl, hform⟩ (by decide)
          (by rw [hstate]; decide) hsilent (by decide) hnone (List.append_nil _).symm
          fun htags => ?_
        simp [Field.rounds, hstate, htags, targetState]
      · simp only [NfcTags.pending, id_eq, hstate, Option.some.injEq] at hpending
        subst hpending
        cases hresponse
        have hcalled : k.called (s.receive pkt garbage).1 garbage .discoverResponse
            [.call ⟨.cbDiscover, .ok, .discover, none⟩ []] =
              (.discovering, [.i "TagDetect: NFC stack discovering tags...\n" []]) :=
          called_call _ _ _ _ _
        have hdone : k.AllDone c.visits := by
          rw [hnone]
          exact List.forall_mem_nil _
        refine moves_answered h hagrees howed hcarries ⟨hguard hstate rfl, hform⟩ (by decide)
          (by rw [hstate]; decide) hcalled (by decide) hdone ?_ fun _ => ?_
        · simp [Field.logged, Nfcc.perform, hnone, AppState.startLines]
        · simp [Field.rounds, hstate]
  | discovering _ id_eq state =>
      simp [NfcTags.pending, id_eq, state] at hpending
  | dump _ id_eq state _ _ _ =>
      have hrsp : s.tags.tag2.state = .dumpRsp := h.asked rfl rfl
      simp [NfcTags.pending, id_eq, state, hrsp] at hpending
  | deactivate _ id_eq state =>
      rcases state with hstate | hstate
      · simp only [NfcTags.pending, id_eq, hstate, Option.some.injEq] at hpending
        subst hpending
        cases hresponse
        refine moves_answered h hagrees howed hcarries ⟨hguard hstate rfl, hform⟩ (by decide)
          (by rw [hstate]; decide) hsilent (by decide) h.visiting (List.append_nil _).symm
          fun htags => ?_
        simp [Field.rounds, hstate, htags, targetState]
      · simp [NfcTags.pending, id_eq, hstate] at hpending

/-- While a `READ` is on its way, the sketch is in the dump of the last tag. -/
theorem dumping_of_reads (hstaged : Staged k ⟨app, s, .nci⟩) (h : Linked k ⟨⟨app, s, .nci⟩, c⟩)
    (hreads : c.reads ≠ []) :
    app = .dumpResponse ∧ s.tags.tag2.state = .dumpRsp ∧ c.reads = [s.tags.tag2.block] ∧
      c.unanswered = [] ∧ s.tags.state = .dump ∧ s.tags.pTagIntf = some .tag2 ∧
      s.tags.tag2.id = .dump := by
  have hreads' : c.reads = if app = .dumpResponse ∧ s.tags.tag2.state = .dumpRsp then
      [s.tags.tag2.block] else [] := h.reads
  have hunanswered : c.unanswered = s.tags.pending.toList := h.unanswered
  split_ifs at hreads' with hdump
  · obtain ⟨rfl, hrsp⟩ := hdump
    have hwaits : Waits k s .dumpResponse := hstaged
    cases hwaits with
    | dump _ id_eq state intf tag2_id _ =>
        refine ⟨rfl, hrsp, hreads', ?_, state, intf, tag2_id⟩
        simp [hunanswered, NfcTags.pending, id_eq, state, hrsp]
  · exact absurd hreads' hreads

/-- In a dump, a reception that leaves the state alone leaves the host where it is. -/
theorem named_of_dump {t : Stack} (hagrees : s.Agrees) (hagrees' : t.Agrees)
    (hstate : s.tags.state = .dump) (hstate' : t.tags.state = .dump)
    (hnamed : rfNamed s.nci.state = some c.rf) : rfNamed t.nci.state = some c.rf := by
  rw [← hnamed, hagrees.agree .rfstPollActive (by rw [hstate]; rfl),
    hagrees'.agree .rfstPollActive (by rw [hstate']; rfl)]

/-- Credits change nothing but the receive buffer. -/
theorem moves_credits {f : Field} (hagrees : f.loop.stack.Agrees) (h : Linked k f)
    {pkt : Packet} {garbage : NciRfIntf} (hen : (fieldSystem k).enabled f (.credits pkt garbage)) :
    Moves k f (.credits pkt garbage) := by
  obtain ⟨⟨app, s, turn⟩, c⟩ := f
  obtain ⟨hturn, hcredits, hunanswered⟩ := hen
  obtain rfl : turn = .nci := hturn
  obtain ⟨htags, hstate, hout⟩ := receive_credits hagrees.registered hcredits garbage
  have hcalled : k.called (s.receive pkt garbage).1 garbage app (s.receive pkt garbage).2 =
      (app, []) := by
    rw [hout, called_nil]
  have hrounds : Field.rounds ⟨⟨app, (s.receive pkt garbage).1, .app⟩, c⟩ =
      Field.rounds ⟨⟨app, s, .nci⟩, c⟩ := by
    unfold Field.rounds
    rw [htags]
  refine moves_nci_of rfl rfl ?_ hcalled ?_ (List.append_nil _).symm
    (Nat.add_le_add_right (Nat.mul_le_mul_left 3 hrounds.le) 3)
  · rw [hout]
    exact List.forall_mem_nil _
  · refine ⟨?_, ?_, hunanswered, ?_, nofun, ?_, ?_⟩
    · show rfNamed (s.receive pkt garbage).1.nci.state = _
      rw [hstate]
      exact h.named
    · show c.leaving = true ↔ (s.receive pkt garbage).1.tags.state = _
      rw [htags]
      exact h.leaving
    · show c.reads = if _ ∧ (s.receive pkt garbage).1.tags.tag2.state = _ then
        [(s.receive pkt garbage).1.tags.tag2.block] else []
      rw [htags]
      exact h.reads
    · intro happ
      show (s.receive pkt garbage).1.tags.state = .dump
      rw [htags]
      exact h.dumped happ
    · exact visiting_congr h.visiting (by rw [htags]) rfl

/-- One more chunk of the last tag is logged. -/
theorem logged_chunk {app' : AppState} {t : Stack} {turn turn' : Turn} {v : Visit}
    {past : List Visit} (hvisits : c.visits = v :: past)
    (hstart : app'.startLines = app.startLines) :
    Field.logged ⟨⟨app', t, turn'⟩, c.read⟩ =
      Field.logged ⟨⟨app, s, turn⟩, c⟩ ++ [v.tag.chunk v.answered] := by
  simp [Field.logged, Nfcc.read, hvisits, hstart, Tag.report, List.range_succ]

/-- A chunk of the last tag has arrived, the one that the oldest `READ` asked for. -/
structure Arrived (s : Stack) (c : Nfcc) (v : Visit) (past : List Visit) (pkt : Packet)
    (r : Stack × List StackOutput) : Prop where
  visits : c.visits = v :: past
  dumps : Kind.Dumps .tagDump v.tag
  past_done : Kind.AllDone .tagDump past
  lt : v.answered < 4
  block_eq : s.tags.tag2.block = chunkBlock v.answered
  unanswered : c.unanswered = []
  reads : c.reads.tail = []
  valid : ValidChunk pkt
  state_eq : r.1.tags.state = .dump
  tag2_eq : r.1.tags.tag2 = s.tags.tag2.chunked pkt
  named : rfNamed r.1.nci.state = some c.rf
  leaving : c.leaving = true ↔ r.1.tags.state = .deactivateRsp
  out_eq : r.2 = [.call ⟨.cbDump, .ok, .dump, some (s.tags.tag2.chunked pkt).dump⟩
    (v.tag.memory.read (chunkBlock v.answered))]

theorem arrived {f : Field} (hstaged : Staged k f.loop) (hagrees : f.loop.stack.Agrees)
    (h : Linked k f) {pkt : Packet} {garbage : NciRfIntf}
    (hen : (fieldSystem k).enabled f (.chunk pkt garbage)) :
    k = .tagDump ∧ f.loop.app = .dumpResponse ∧ f.loop.turn = .nci ∧
      ∃ v past, Arrived f.loop.stack f.nfcc v past pkt (f.loop.stack.receive pkt garbage) := by
  obtain ⟨⟨app, s, turn⟩, c⟩ := f
  obtain ⟨hturn, hdata, block, hblock, v, hv, hpayload⟩ := hen
  obtain rfl : turn = .nci := hturn
  have hreads : c.reads ≠ [] := by
    rintro hnil
    have hhead : c.reads.head? = some block := hblock
    rw [hnil] at hhead
    cases hhead
  obtain ⟨rfl, hrsp, hreads, hunanswered, hstate, hintf, hid⟩ :=
    dumping_of_reads hstaged h hreads
  obtain ⟨v', past, hvisits, hdumps, hlt, hat, hdone⟩ := h.visiting
  have hvisits' : c.visits = v' :: past := hvisits
  obtain rfl : v' = v := by
    have hhead : c.visits.head? = some v := hv
    rw [hvisits'] at hhead
    exact Option.some.inj hhead
  have hblock' : s.tags.tag2.block = chunkBlock v'.answered := hat
  rw [hblock'] at hreads
  obtain rfl : k = .tagDump := hdumps.1
  -- the packet answers the `READ`, as in a session of the dump
  have hanswers : Session.AnsweredBy ⟨s, c.reads, v'.answered⟩ v'.tag.memory pkt :=
    ⟨hdata, block, hblock, hpayload⟩
  obtain ⟨hvalid, hbytes⟩ := hanswers.chunk hlt hreads
  have hconsumed := receive_consumed hagrees.registered ⟨hdata, hintf, hid⟩ garbage
  have hstate' := hconsumed.state_eq.trans hstate
  have hout := hconsumed.out_eq
  rw [if_pos hvalid, hbytes] at hout
  refine ⟨rfl, rfl, rfl, v', past, hvisits', hdumps, hdone, hlt, hblock', hunanswered, ?_,
    hvalid, hstate', hconsumed.tag2_eq, ?_, ?_, hout⟩
  · exact congrArg List.tail hreads
  · exact named_of_dump hagrees (agrees_receive hagrees pkt garbage) hstate hstate' h.named
  · rw [hconsumed.state_eq]
    exact h.leaving

section

variable {v : Visit} {past : List Visit} {pkt : Packet} {garbage : NciRfIntf}

/-- One more answer of the last tag is on record. -/
theorem Arrived.read_visits {r : Stack × List StackOutput} (h : Arrived s c v past pkt r) :
    c.read.visits = { v with answered := v.answered + 1 } :: past := by
  simp [Nfcc.read, h.visits]

/-- What the chunk comes to, by the state that its callback leads to. -/
theorem Arrived.moves (h : Arrived s c v past pkt (s.receive pkt garbage)) {app' : AppState}
    (hcalled : Kind.called .tagDump (s.receive pkt garbage).1 garbage .dumpResponse
      (s.receive pkt garbage).2 = (app', [v.tag.chunk v.answered]))
    (hstart : app'.startLines = AppState.dumpResponse.startLines)
    (hlinked : Linked .tagDump ⟨⟨app', (s.receive pkt garbage).1, .app⟩, c.read⟩)
    (hrounds : Field.rounds ⟨⟨app', (s.receive pkt garbage).1, .app⟩, c.read⟩ + 1 ≤
      6 - v.answered) :
    Moves .tagDump ⟨⟨.dumpResponse, s, .nci⟩, c⟩ (.chunk pkt garbage) := by
  have hnfcc : ((fieldSystem .tagDump).next ⟨⟨.dumpResponse, s, .nci⟩, c⟩
      (.chunk pkt garbage)).nfcc = c.read := rfl
  refine moves_nci_of rfl hnfcc ?_ hcalled hlinked (logged_chunk h.visits hstart) ?_
  · rw [h.out_eq]
    exact List.forall_mem_singleton.mpr rfl
  · have hbefore : Field.rounds ⟨⟨.dumpResponse, s, .nci⟩, c⟩ = 6 - v.answered := by
      simp [Field.rounds, h.visits]
    rw [hbefore]
    simp only [FieldEvent.cost]
    omega

/-- One of the first three chunks asks for the next one. -/
theorem Arrived.next (h : Arrived s c v past pkt (s.receive pkt garbage))
    (hmore : v.answered < 3) :
    Moves .tagDump ⟨⟨.dumpResponse, s, .nci⟩, c⟩ (.chunk pkt garbage) := by
  obtain ⟨hdue, hnext, hdump⟩ := chunked_next h.valid hmore h.block_eq
  have htag2 := h.tag2_eq
  have hcalled : Kind.called .tagDump (s.receive pkt garbage).1 garbage .dumpResponse
      (s.receive pkt garbage).2 = (.dumpResponse, [v.tag.chunk v.answered]) := by
    rw [h.out_eq, hdump]
    exact called_call _ _ _ _ _
  refine h.moves hcalled rfl ?_ ?_
  · refine ⟨h.named, h.leaving, h.unanswered, ?_, nofun, fun _ => h.state_eq,
      ⟨_, past, h.read_visits, h.dumps, Nat.succ_lt_succ hmore, ?_, h.past_done⟩⟩
    · refine h.reads.trans (if_neg ?_).symm
      rintro ⟨-, hstill⟩
      have hstill' : (s.receive pkt garbage).1.tags.tag2.state = .dumpRsp := hstill
      rw [htag2, hdue] at hstill'
      cases hstill'
    · show (s.receive pkt garbage).1.tags.tag2.block = _
      rw [htag2, hnext]
  · simp [Field.rounds, h.read_visits]
    omega

/-- The fourth one ends the dump. -/
theorem Arrived.last (h : Arrived s c v past pkt (s.receive pkt garbage))
    (hlast : v.answered = 3) :
    Moves .tagDump ⟨⟨.dumpResponse, s, .nci⟩, c⟩ (.chunk pkt garbage) := by
  have hblock := h.block_eq
  rw [hlast] at hblock
  obtain ⟨-, hdump⟩ := chunked_last h.valid hblock
  have hcalled : Kind.called .tagDump (s.receive pkt garbage).1 garbage .dumpResponse
      (s.receive pkt garbage).2 = (.deactivate, [v.tag.chunk v.answered]) := by
    rw [h.out_eq, hdump]
    exact called_call _ _ _ _ _
  refine h.moves hcalled rfl ?_ ?_
  · refine linked_off_dump nofun nofun h.named h.leaving h.unanswered h.reads ?_
    show Kind.AllDone .tagDump c.read.visits
    rw [h.read_visits]
    refine List.forall_mem_cons.mpr ⟨?_, h.past_done⟩
    rw [hlast, Kind.chunks, if_pos h.dumps]
  · simp [Field.rounds, hlast]

end

theorem moves_chunk {f : Field} (hstaged : Staged k f.loop) (hagrees : f.loop.stack.Agrees)
    (h : Linked k f) {pkt : Packet} {garbage : NciRfIntf}
    (hen : (fieldSystem k).enabled f (.chunk pkt garbage)) : Moves k f (.chunk pkt garbage) := by
  obtain ⟨rfl, happ, hturn, v, past, harrived⟩ := arrived hstaged hagrees h hen
  obtain ⟨⟨app, s, turn⟩, c⟩ := f
  obtain rfl : app = .dumpResponse := happ
  obtain rfl : turn = .nci := hturn
  by_cases hmore : v.answered < 3
  · exact harrived.next hmore
  · have hlt := harrived.lt
    exact harrived.last (by omega)

/-- The tag has left: the sketch waits for the next one. -/
theorem moves_deactivated {f : Field} (hstaged : Staged k f.loop)
    (hagrees : f.loop.stack.Agrees) (h : Linked k f) {pkt : Packet} {garbage : NciRfIntf}
    (hen : (fieldSystem k).enabled f (.deactivated pkt garbage)) :
    Moves k f (.deactivated pkt garbage) := by
  obtain ⟨⟨app, s, turn⟩, c⟩ := f
  obtain ⟨hturn, hleft, hcarries, hform⟩ := hen
  obtain rfl : turn = .nci := hturn
  have hstate : s.tags.state = .deactivateRsp := h.leaving.mp hleft
  have hnci : s.nci.state = .rfstDiscovery := hagrees.agree _ (by rw [hstate]; rfl)
  obtain ⟨hrun, htags, -, hout⟩ :=
    receive_of_accepts hagrees.registered hcarries ⟨hnci, hform⟩ garbage
  have hwaits : Waits k s app := hstaged
  have hne : ∀ {state}, s.tags.state = state → state ≠ .deactivateRsp → False :=
    fun hs hne => hne (hs.symm.trans hstate)
  cases hwaits with
  | reset _ _ state =>
      rcases state with ⟨hs, -⟩ | hs
      · exact (hne hs nofun).elim
      · exact (hne hs nofun).elim
  | discover _ _ state =>
      rcases state with hs | hs
      · exact (hne hs nofun).elim
      · exact (hne hs nofun).elim
  | discovering _ _ state => exact (hne state nofun).elim
  | dump _ _ state _ _ _ => exact (hne state nofun).elim
  | deactivate _ id_eq _ =>
      have hcalled : k.called (s.receive pkt garbage).1 garbage .deactivateResponse
          (s.receive pkt garbage).2 = (.discovering, []) := by
        rw [hout]
        exact called_call _ _ _ _ _
      have hunanswered : c.unanswered = s.tags.pending.toList := h.unanswered
      refine moves_nci_of rfl rfl ?_ hcalled ?_ (List.append_nil _).symm ?_
      · rw [hout]
        exact List.forall_mem_singleton.mpr rfl
      · refine linked_off_dump nofun nofun ?_ ?_ ?_ (h.reads.trans (if_neg nofun)) h.visiting
        · have hnamed : rfNamed s.nci.state = some c.rf := h.named
          rw [hnci] at hnamed
          rw [hrun, NciMsg.accepted_state ⟨hnci, hform⟩]
          exact hnamed
        · rw [htags]
          exact iff_of_false nofun nofun
        · exact hunanswered.trans (by simp [NfcTags.pending, id_eq, hstate])
      · simp [Field.rounds, hstate, FieldEvent.cost]

/-! ## The activation of a tag -/

theorem carries_ofMsg (m : NciMsg) {payload : List UInt8} (hle : payload.length ≤ 255)
    (hne : payload ≠ []) : (Packet.ofMsg m payload hle).Carries m := by
  have hheader : prsPbf (bldHdr0 m.mt m.gid) = nciPbfNoOrLast ∧
      prsMt (bldHdr0 m.mt m.gid) = m.mt ∧ prsGid (bldHdr0 m.mt m.gid) = m.gid ∧
      prsOid m.oid = m.oid := by
    cases m <;> decide
  exact ⟨⟨hne, hheader.1⟩, hheader.2⟩

namespace Tag

variable (tag : Tag)

theorem carries : tag.record.packet.Carries .ntfRfIntfActivated :=
  carries_ofMsg _ tag.record.payload_le (List.cons_ne_nil _ _)

theorem wellFormed : NciMsg.ntfRfIntfActivated.WellFormed tag.record.packet := by
  show 11 ≤ tag.record.payload.length
  rw [tag.record.payload_length]
  omega

theorem nestedFits : tag.record.packet.NestedFits := tag.record.nestedFits rfl

/-- The identifier in the notification is that of the tag. -/
theorem nfcidOf_packet {intf : TagIntf} (h : tag.intf = some intf) :
    nfcidOf tag.record.packet = tag.nfcid := by
  have hmode : tag.record.tech.mode = nciDiscoveryTypePollA := (params_of_classify h).2
  unfold nfcid
  cases htech : tag.record.tech with
  | other mode block mode_ne _ =>
      rw [htech] at hmode
      exact absurd hmode mode_ne
  | pollA p =>
      have hpayload : tag.record.packet.payload.drop 10 =
          p.nfcid ++ (p.selResBytes ++ tag.record.tail) := by
        show tag.record.payload.drop 10 = _
        simp [ActivationRecord.payload, htech, TechParams.bytes, PollAParams.bytes]
      have hlen : tag.record.packet.byte 9 = UInt8.ofNat p.nfcid.length := by
        show tag.record.payload.getD 9 0 = _
        simp [ActivationRecord.payload, htech, TechParams.bytes, PollAParams.bytes]
      rw [nfcidOf, hpayload, hlen, p.nfcidLen_toNat, List.take_left]

end Tag

/-- The host after the activation of a tag: its interface is that of the tag, and the sketch
logs what the tag is. -/
theorem activated_tag (hagrees : s.Agrees) (hnci : s.nci.state = .rfstDiscovery)
    (hintf : s.tags.pTagIntf = none) (tag : Tag) (garbage : NciRfIntf) :
    (s.receive tag.record.packet garbage).1.tags.pTagIntf = tag.intf ∧
      detected (s.receive tag.record.packet garbage).1 garbage = tag.found := by
  have hactivates : s.nci.Activates tag.record.packet := ⟨tag.carries, hnci, tag.wellFormed⟩
  have hclass : (s.receive tag.record.packet garbage).1.tags.pTagIntf = tag.intf := by
    cases stack_receive_cases hagrees.registered tag.record.packet garbage with
    | accepted m carries accepts nci_eq _ _ _ intf_eq _ =>
        obtain rfl := tag.carries.unique carries
        rw [intf_eq, if_pos rfl, hintf, identified_none, nci_eq]
        exact recognised_activated tag.nestedFits tag.record.byte_techLen_ne _
    | refused m carries refuses _ _ _ _ _ _ _ _ =>
        obtain rfl := tag.carries.unique carries
        exact absurd hactivates.2 refuses
    | chunk isData _ _ _ _ _ _ _ => exact absurd isData tag.carries.not_isData
    | dropped isData _ _ _ _ _ _ _ => exact absurd isData tag.carries.not_isData
    | other noMsg _ _ _ _ => exact absurd tag.carries (noMsg _)
  refine ⟨hclass, ?_⟩
  rw [detected, NfcTags.getInterface, hclass, Tag.found]
  cases hkind : tag.intf with
  | none => rfl
  | some intf =>
      obtain ⟨hptr, hholds⟩ := nfcid_activation hagrees hactivates tag.nestedFits garbage hkind
      have hbuf : (s.receive tag.record.packet garbage).1.getNfcidBuf intf = some .rfIntf := by
        cases intf with
        | tag2 => exact congrArg nfcidBuf hptr
        | tagMifare => exact congrArg nfcidBuf hptr
      have hbytes := (nfcid_of_holds hptr hholds garbage).2
      rw [tag.nfcidOf_packet hkind] at hbytes
      simp only [hbuf, hbytes]
      cases intf <;> rfl

/-- A tag is activated only while the sketch waits for one. -/
theorem discovering_of_rf (hagrees : s.Agrees) (hwaits : Waits k s app)
    (h : Linked k ⟨⟨app, s, .nci⟩, c⟩) (hrf : c.rf = .discovery) (hstays : c.leaving = false) :
    app = .discovering ∧ Free s.tags ∧ s.tags.pending = none ∧ s.tags.state = .discoverNtf := by
  have hnci : s.nci.state = .rfstDiscovery := by
    have hnamed : rfNamed s.nci.state = some c.rf := h.named
    rw [hrf] at hnamed
    exact eq_of_rfNamed_discovery hnamed
  have hnot : ∀ {state nci}, s.tags.state = state → state.nciState = some nci →
      nci ≠ .rfstDiscovery → False := fun hstate hstate' hne =>
    hne ((hagrees.agree _ (by rw [hstate]; exact hstate')).symm.trans hnci)
  cases hwaits with
  | discovering free id_eq state =>
      exact ⟨rfl, free, by simp [NfcTags.pending, id_eq, state], state⟩
  | reset _ _ state =>
      rcases state with ⟨-, hnone⟩ | hstate
      · exact absurd (hnone.symm.trans hnci) (by decide)
      · exact (hnot hstate rfl (by decide)).elim
  | discover _ _ state =>
      rcases state with hstate | hstate
      · exact (hnot hstate rfl (by decide)).elim
      · exact (hnot hstate rfl (by decide)).elim
  | dump _ _ state _ _ _ => exact (hnot state rfl (by decide)).elim
  | deactivate _ _ state =>
      rcases state with hstate | hstate
      · exact (hnot hstate rfl (by decide)).elim
      · exact absurd (hstays.symm.trans (h.leaving.mpr hstate)) (by decide)

/-- The new tag is the last one, and no chunk of it has been read. -/
theorem visiting_activated {t : Stack} {tag : Tag} (hdone : k.AllDone c.visits)
    (hclass : t.tags.pTagIntf = tag.intf) :
    Visiting k ⟨⟨k.found t, t, .app⟩,
      { c with rf := .pollActive, visits := ⟨tag, 0⟩ :: c.visits }⟩ := by
  by_cases hdumps : k.Dumps tag
  · have hfound : k.found t = .dump := if_pos (by rw [hclass]; exact hdumps)
    rw [hfound]
    exact ⟨_, _, rfl, hdumps, rfl, hdone⟩
  · have hfound : k.found t = .deactivate := if_neg (by rw [hclass]; exact hdumps)
    rw [hfound]
    exact List.forall_mem_cons.mpr ⟨(if_neg hdumps).symm, hdone⟩

theorem moves_activate {f : Field} (hstaged : Staged k f.loop) (hagrees : f.loop.stack.Agrees)
    (h : Linked k f) {tag : Tag} {garbage : NciRfIntf}
    (hen : (fieldSystem k).enabled f (.activate tag garbage)) :
    Moves k f (.activate tag garbage) := by
  obtain ⟨⟨app, s, turn⟩, c⟩ := f
  obtain ⟨hturn, hrf, hstays⟩ := hen
  obtain rfl : turn = .nci := hturn
  obtain ⟨rfl, free, hpending, hstate⟩ := discovering_of_rf hagrees hstaged h hrf hstays
  have hnci : s.nci.state = .rfstDiscovery := hagrees.agree _ (by rw [hstate]; rfl)
  have haccepts : NciMsg.ntfRfIntfActivated.Accepts s.nci.state tag.record.packet :=
    ⟨hnci, tag.wellFormed⟩
  obtain ⟨hrun, htags, -, hout⟩ :=
    receive_of_accepts hagrees.registered tag.carries haccepts garbage
  obtain ⟨hclass, hdetected⟩ := activated_tag hagrees hnci free.intf tag garbage
  let t := (s.receive tag.record.packet garbage).1
  have hcalled : k.called t garbage .discovering (s.receive tag.record.packet garbage).2 =
      (k.found t, tag.found) := by
    rw [hout, ← hdetected]
    exact called_activated garbage
  have happ : k.found t = .dump ∨ k.found t = .deactivate := ite_eq_or_eq _ _ _
  have hquiet : c.leaving ≠ true := ne_true_of_eq_false hstays
  have hunanswered : c.unanswered = s.tags.pending.toList := h.unanswered
  have hnfcc : ((fieldSystem k).next ⟨⟨.discovering, s, .nci⟩, c⟩ (.activate tag garbage)).nfcc =
      { c with rf := .pollActive, visits := ⟨tag, 0⟩ :: c.visits } := rfl
  refine moves_nci_of rfl hnfcc ?_ hcalled ?_ ?_ ?_
  · rw [hout]
    exact List.forall_mem_singleton.mpr rfl
  · refine linked_off_dump (by rcases happ with h | h <;> rw [h] <;> decide) nofun ?_ ?_ ?_
      (h.reads.trans (if_neg nofun)) (visiting_activated h.visiting hclass)
    · rw [hrun, NciMsg.accepted_state haccepts]
      rfl
    · rw [htags]
      exact iff_of_false hquiet nofun
    · rw [hpending] at hunanswered
      exact hunanswered
  · have hstart : (k.found t).startLines = AppState.discovering.startLines := by
      rcases happ with h | h <;> rw [h] <;> rfl
    simp [Field.logged, hstart, Tag.report]
  · rcases happ with h | h <;> simp [Field.rounds, h, FieldEvent.cost]

/-! ## Any event -/

theorem moves {f : Field} {e : FieldEvent} (hsteady : Steady k f.loop) (h : Linked k f)
    (hen : (fieldSystem k).enabled f e) : Moves k f e := by
  have hagrees := hsteady.1.agrees
  cases e with
  | app => exact moves_app hsteady.2 hagrees h hen
  | tags junk => exact moves_tags hsteady.2 hagrees h hen junk
  | answer pkt garbage => exact moves_answer hsteady.2 hagrees h hen
  | activate tag garbage => exact moves_activate hsteady.2 hagrees h hen
  | credits pkt garbage => exact moves_credits hagrees h hen
  | chunk pkt garbage => exact moves_chunk hsteady.2 hagrees h hen
  | deactivated pkt garbage => exact moves_deactivated hsteady.2 hagrees h hen

end Sketch
end ArduinoNfc
