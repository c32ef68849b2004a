import ArduinoNfc.Foundation.Channel
import ArduinoNfc.Foundation.Protocol
import ArduinoNfc.Foundation.Simulation
import ArduinoNfc.Hw.PacketReads
import ArduinoNfc.Sketch.Commands

/-!
# A sketch on the bus

The loop of a sketch over `NfcHw_pn7120` and `Wire`.  The controller has a packet to be read
whenever it likes; on the bus there are only bytes, which `NfcNci` takes off in two requests
for each packet.  A command is one transmission, of which the controller gets what was queued
and acknowledged.

`bus_refines` takes this down to the loop: every run on the bus is a run of `loopSystem`,
so that whatever is proved of the sketches there holds here.  The packets arrive in the
order in which they were sent, each once and as a whole, and so do the commands.
-/

namespace ArduinoNfc

open Foundation Nci Hw

/-- `NfcNci::handleEvent` on any reads. -/
def Tags.Stack.handleReception (s : Tags.Stack) (hw : Reception) (garbage : NciRfIntf) :
    Tags.Stack × List Tags.StackOutput :=
  let h := s.nci.handleEvent hw
  let s := { s with nci := h.nci }
  match h.call with
  | none => (s, [])
  | some c => s.callback garbage c

namespace Sketch

open Tags Log

/-- A sketch, and what is on its bus. -/
structure OnBus where
  loop : Runtime
  /-- The bytes that the controller has to be read. -/
  toHost : List UInt8
  /-- The transmissions that the controller got. -/
  toNfcc : List (List UInt8)

def OnBus.init : OnBus := ⟨Runtime.init, [], []⟩

/-- What happens on the bus. -/
inductive BusEvent where
  | app
  /-- `_tags.handleEvent()`, with the controller as it is at that moment. -/
  | tags (dev : WireDevice) (junk : UInt8)
  /-- `_nci.handleEvent()`, once the controller has something to be read. -/
  | nci (garbage : NciRfIntf)
  /-- The controller has another packet. -/
  | send (pkt : Packet)

/-- What a command hands to the transport. -/
def LoopOutput.written : LoopOutput → Option (List UInt8)
  | .stack (.nciCmd _ _ written) => written
  | _ => none

/-- The events of the loop that carry a packet. -/
def packets : Inbox LoopEvent Packet NciRfIntf where
  event := .nci
  content
    | .nci pkt _ => some pkt
    | _ => none
  content_event _ _ := rfl

variable (k : Kind) (wire : Wire)

/-- The reads of `NfcNci`. -/
def OnBus.received (b : OnBus) (garbage : NciRfIntf) : Stack × List StackOutput :=
  b.loop.stack.handleReception (reception wire b.toHost) garbage

/-- The sketch on the bus. -/
def busSystem : LabelledSystem OnBus BusEvent LoopOutput where
  enabled b e :=
    match e with
    | .app => b.loop.turn = .app
    | .tags _ _ => b.loop.turn = .tags
    | .nci _ => b.loop.turn = .nci ∧ b.toHost ≠ [] ∧
        (b.loop.stack.nci.handleEvent (reception wire b.toHost)).nfcidStored ≤ nciRfPaNfcidLength
    | .send pkt => Fits wire pkt
  next b e :=
    match e with
    | .app => { b with loop := (loopSystem k).next b.loop .app }
    | .tags dev junk =>
        let e := LoopEvent.tags (transport wire dev) junk
        { b with
          loop := (loopSystem k).next b.loop e
          toNfcc := b.toNfcc ++
            (((loopSystem k).emit b.loop e).filterMap LoopOutput.written).map (reached wire dev) }
    | .nci garbage =>
        { b with
          loop := b.loop.handled k .app garbage (b.received wire garbage)
          toHost := unread wire b.loop.stack.nci b.toHost }
    | .send pkt => { b with toHost := b.toHost ++ packetBytes pkt }
  emit b e :=
    match e with
    | .app => (loopSystem k).emit b.loop .app
    | .tags dev junk => (loopSystem k).emit b.loop (.tags (transport wire dev) junk)
    | .nci garbage => b.loop.shown k garbage (b.received wire garbage)
    | .send _ => []

instance (b : OnBus) : ∀ e, Decidable ((busSystem k wire).enabled b e)
  | .app => inferInstanceAs (Decidable (b.loop.turn = .app))
  | .tags _ _ => inferInstanceAs (Decidable (b.loop.turn = .tags))
  | .nci _ => inferInstanceAs (Decidable (_ = _ ∧ b.toHost ≠ [] ∧ _ ≤ _))
  | .send pkt => inferInstanceAs (Decidable (Fits wire pkt))

/-- The packet that is sent. -/
def BusEvent.sent : BusEvent → Option Packet
  | .send pkt => some pkt
  | _ => none

/-- The same, over packets. -/
def BusEvent.over : BusEvent → ChannelEvent LoopEvent Packet NciRfIntf
  | .app => .step .app
  | .tags dev junk => .step (.tags (transport wire dev) junk)
  | .nci garbage => .receive garbage
  | .send pkt => .send pkt

variable {k wire}

/-! ## Bytes and packets -/

/-- The bytes on the bus are those of packets, which the driver can hand on. -/
structure Carrying (wire : Wire) (b : OnBus) (t : Runtime × List Packet) : Prop where
  loop_eq : b.loop = t.1
  bytes_eq : b.toHost = t.2.flatMap packetBytes
  fits : ∀ pkt ∈ t.2, Fits wire pkt
  reachable : t.1.stack.Reachable

theorem carrying_init : Carrying wire OnBus.init (Runtime.init, []) where
  loop_eq := rfl
  bytes_eq := rfl
  fits := List.forall_mem_nil _
  reachable := ⟨[], trivial, rfl⟩

/-- The first packet is what the next reception is about. -/
theorem received_packet (hcap : nciMsgHdrSize ≤ wire.capacity) {b : OnBus} {r : Runtime}
    {pkt : Packet} {queue : List Packet} (h : Carrying wire b (r, pkt :: queue)) :
    r.stack.nci.handleEvent (reception wire b.toHost) = r.stack.nci.receive pkt ∧
      (∀ garbage, b.received wire garbage = r.stack.receive pkt garbage) ∧
      unread wire r.stack.nci b.toHost = queue.flatMap packetBytes := by
  obtain ⟨loop, toHost, toNfcc⟩ := b
  obtain rfl : loop = r := h.loop_eq
  obtain rfl : toHost = packetBytes pkt ++ queue.flatMap packetBytes := h.bytes_eq
  obtain ⟨hhandled, hrest⟩ := reception_whole h.reachable.agrees.registered hcap
    (h.fits pkt List.mem_cons_self) (queue.flatMap packetBytes)
  refine ⟨hhandled, fun garbage => ?_, hrest⟩
  show Stack.handleReception _ _ garbage = _
  rw [Stack.handleReception, hhandled]
  rfl

theorem carrying_send {b : OnBus} {r : Runtime} {queue : List Packet} {pkt : Packet}
    (h : Carrying wire b (r, queue)) (hfits : Fits wire pkt) :
    Carrying wire { b with toHost := b.toHost ++ packetBytes pkt } (r, queue ++ [pkt]) where
  loop_eq := h.loop_eq
  bytes_eq := by
    show b.toHost ++ packetBytes pkt = (queue ++ [pkt]).flatMap packetBytes
    rw [h.bytes_eq, List.flatMap_append, List.flatMap_singleton]
  fits := List.forall_mem_append.mpr ⟨h.fits, List.forall_mem_singleton.mpr hfits⟩
  reachable := h.reachable

/-- On the bus, the loop does what it does with packets out of a queue. -/
theorem bus_simulates (hcap : nciMsgHdrSize ≤ wire.capacity) :
    Simulation (busSystem k wire) ((loopSystem k).channel packets) (Carrying wire)
      (BusEvent.over wire) id where
  enabled := by
    rintro b ⟨r, queue⟩ e h hen
    cases e with
    | app => exact ⟨rfl, h.loop_eq ▸ hen⟩
    | tags dev junk => exact ⟨rfl, h.loop_eq ▸ hen⟩
    | nci garbage =>
        obtain ⟨hturn, hsome, hstored⟩ := hen
        cases queue with
        | nil => exact absurd h.bytes_eq hsome
        | cons pkt queue =>
            obtain ⟨hhandled, -, -⟩ := received_packet hcap h
            rw [h.loop_eq] at hturn hstored
            rw [hhandled] at hstored
            exact ⟨pkt, rfl, hturn, hstored⟩
    | send pkt => trivial
  next := by
    rintro ⟨loop, toHost, toNfcc⟩ ⟨r, queue⟩ e h hen
    obtain rfl : loop = r := h.loop_eq
    cases e with
    | app =>
        have hreachable := stack_reachable_next (k := k) (e := .app) h.reachable hen
        exact ⟨rfl, h.bytes_eq, h.fits, hreachable⟩
    | tags dev junk =>
        have hreachable := stack_reachable_next (k := k) (e := .tags (transport wire dev) junk)
          h.reachable hen
        exact ⟨rfl, h.bytes_eq, h.fits, hreachable⟩
    | nci garbage =>
        obtain ⟨hturn, hsome, hstored⟩ := hen
        cases queue with
        | nil => exact absurd h.bytes_eq hsome
        | cons pkt queue =>
            obtain ⟨hhandled, hreceived, hrest⟩ := received_packet hcap h
            refine ⟨?_, hrest, fun p hp => h.fits p (List.mem_cons_of_mem _ hp), ?_⟩
            · exact congrArg (loop.handled k .app garbage) (hreceived garbage)
            · refine stack_reachable_next (k := k) (e := .nci pkt garbage) h.reachable ⟨hturn, ?_⟩
              have hstored' := hstored
              rwa [hhandled] at hstored'
    | send pkt => exact carrying_send h hen
  emit := by
    rintro ⟨loop, toHost, toNfcc⟩ ⟨r, queue⟩ e h hen
    obtain rfl : loop = r := h.loop_eq
    cases e with
    | app => exact (List.map_id _).symm
    | tags dev junk => exact (List.map_id _).symm
    | nci garbage =>
        obtain ⟨hturn, hsome, hstored⟩ := hen
        cases queue with
        | nil => exact absurd h.bytes_eq hsome
        | cons pkt queue =>
            obtain ⟨-, hreceived, -⟩ := received_packet hcap h
            refine Eq.trans ?_ (List.map_id _).symm
            exact congrArg (loop.shown k garbage) (hreceived garbage)
    | send pkt => rfl

/-! ## Commands -/

/-- The longest command of `NfcTags` sets three discovery maps. -/
theorem pending_packet_le {t : NfcTags} {cmd : NciCmd} (h : t.pending = some cmd) :
    cmd.packet.length ≤ 13 := by
  cases pending_cases h with
  | coreReset => decide
  | coreInit => decide
  | discoverMap => decide
  | discover => decide
  | deactivate => decide
  | read =>
      show 5 ≤ 13
      decide

/-- What a command hands to the transport is its packet. -/
theorem written_eq_packet {nci : NfcNci} {hw : HwWrite} {cmd : NciCmd} {bytes : List UInt8}
    (hle : cmd.packet.length ≤ 13) (h : (nci.exec hw cmd).written = some bytes) :
    bytes = cmd.packet := by
  by_cases hissues : nci.Issues cmd
  · rw [exec_send hw hissues, send_written hw (hle.trans (by decide))] at h
    exact (Option.some.inj h).symm
  · obtain ⟨status, -, hrefused⟩ := exec_not_issues hw hissues
    rw [hrefused] at h
    cases h

theorem shown_written (r : Runtime) (garbage : NciRfIntf) (run : Stack × List StackOutput) :
    (r.shown k garbage run).filterMap LoopOutput.written = writesOf run.2 := by
  rw [Runtime.shown, List.filterMap_append, lines_none (fun _ => rfl), List.append_nil,
    List.filterMap_map]
  refine List.filterMap_congr fun o _ => ?_
  cases o <;> rfl

/-- Every transmission of a poll is short. -/
theorem poll_written_le (s : Stack) (hw : HwWrite) (junk : UInt8) :
    ∀ bytes ∈ writesOf (s.handleEvent hw junk).2, bytes.length ≤ 13 := by
  cases poll_cases s hw junk with
  | issued cmd pending _ out_eq =>
      obtain ⟨status, -, hout⟩ := out_eq
      have hle := pending_packet_le pending
      intro bytes hbytes
      rw [hout] at hbytes
      obtain ⟨o, ho, hwritten⟩ := List.mem_filterMap.mp hbytes
      rcases List.mem_cons.mp ho with rfl | ho
      · rw [written_eq_packet hle hwritten]
        exact hle
      · split_ifs at ho
        · cases ho
        · obtain rfl := List.mem_singleton.mp ho
          cases hwritten
  | idle _ _ out_eq => rw [out_eq]; exact List.forall_mem_nil _
  | deactivated _ _ _ _ out_eq => rw [out_eq]; exact List.forall_mem_nil _
  | failed _ _ _ _ out_eq => rw [out_eq]; exact List.forall_mem_nil _

/-- A packet makes `NfcNci` send nothing. -/
theorem receive_written {s : Stack} (hcb : s.nci.cbRegistered = true) (pkt : Packet)
    (garbage : NciRfIntf) : writesOf (s.receive pkt garbage).2 = [] := by
  refine List.filterMap_eq_nil_iff.mpr fun o ho => ?_
  obtain ⟨c, bytes, rfl⟩ := receive_calls hcb pkt garbage ho
  rfl

/-- The controller acknowledges what it is sent. -/
def BusEvent.Acked : BusEvent → Prop
  | .tags dev _ => ∀ bytes, dev.acked bytes = bytes.length
  | _ => True

/-- The controller gets what the step hands to the transport. -/
theorem toNfcc_next (hcap : 13 ≤ wire.capacity) {b : OnBus} {t : Runtime × List Packet}
    (h : Carrying wire b t) {e : BusEvent} (hen : (busSystem k wire).enabled b e)
    (hacked : e.Acked) :
    ((busSystem k wire).next b e).toNfcc =
      b.toNfcc ++ ((busSystem k wire).emit b e).filterMap LoopOutput.written := by
  have hnone : ((busSystem k wire).emit b e).filterMap LoopOutput.written = [] →
      ((busSystem k wire).next b e).toNfcc = b.toNfcc →
      ((busSystem k wire).next b e).toNfcc =
        b.toNfcc ++ ((busSystem k wire).emit b e).filterMap LoopOutput.written := by
    intro hemit hnext
    rw [hemit, hnext, List.append_nil]
  cases e with
  | app =>
      refine hnone (List.filterMap_eq_nil_iff.mpr fun o ho => ?_) rfl
      rcases List.mem_append.mp ho with ho | ho
      · obtain ⟨_, -, rfl⟩ := List.mem_map.mp ho
        rfl
      · obtain ⟨_, -, rfl⟩ := List.mem_map.mp ho
        rfl
  | tags dev junk =>
      refine congrArg (b.toNfcc ++ ·) ((List.map_congr_left fun bytes hbytes => ?_).trans
        (List.map_id _))
      rw [loop_emit_tags, shown_written] at hbytes
      have hle := poll_written_le _ _ _ bytes hbytes
      exact (reached_eq_iff wire dev bytes).mpr ⟨hle.trans hcap, hacked bytes⟩
  | nci garbage =>
      obtain ⟨r, queue⟩ := t
      refine hnone ?_ rfl
      cases queue with
      | nil => exact absurd h.bytes_eq hen.2.1
      | cons pkt queue =>
          obtain ⟨-, hreceived, -⟩ := received_packet (le_trans (by decide) hcap) h
          show (b.loop.shown k garbage (b.received wire garbage)).filterMap _ = []
          rw [shown_written, hreceived]
          exact receive_written h.reachable.agrees.registered pkt garbage
  | send pkt => exact hnone rfl rfl

/-! ## Whole runs -/

/-- The controller gets what a run hands to the transport. -/
theorem toNfcc_run (hcap : 13 ≤ wire.capacity) {es : List BusEvent}
    (hlegal : (busSystem k wire).Legal OnBus.init es) (hacked : ∀ e ∈ es, e.Acked) :
    ((busSystem k wire).run OnBus.init es).toNfcc =
      ((busSystem k wire).trace OnBus.init es).filterMap LoopOutput.written :=
  LabelledSystem.trace_recorded (I := fun b => ∃ t, Carrying wire b t)
    (fun _ _ ⟨_, h⟩ hen _ => ⟨_, (bus_simulates (le_trans (by decide) hcap)).next h hen⟩)
    (fun _ _ ⟨_, h⟩ hen he => toNfcc_next hcap h hen he) ⟨_, carrying_init⟩ hlegal
    (LabelledSystem.along_of_forall hacked OnBus.init)

/-- What a run on the bus comes to: a run of the loop, in which every packet arrives as a
whole, and so does every command. -/
structure Refines (k : Kind) (wire : Wire) (es : List BusEvent) (fs : List LoopEvent)
    (pending : List Packet) : Prop where
  legal : (loopSystem k).Legal Runtime.init fs
  run_eq : (loopSystem k).run Runtime.init fs = ((busSystem k wire).run OnBus.init es).loop
  trace_eq : (loopSystem k).trace Runtime.init fs = (busSystem k wire).trace OnBus.init es
  /-- No packet is lost, doubled or overtaken. -/
  packets_eq : es.filterMap BusEvent.sent = fs.filterMap packets.content ++ pending
  toHost_eq : ((busSystem k wire).run OnBus.init es).toHost = pending.flatMap packetBytes
  /-- The controller gets the commands. -/
  toNfcc_eq : (∀ e ∈ es, e.Acked) → ((busSystem k wire).run OnBus.init es).toNfcc =
    ((loopSystem k).trace Runtime.init fs).filterMap LoopOutput.written

/-- Over the driver, a sketch does what it does when packets and commands are handed over as a
whole, as long as the buffer of `Wire` is large enough for them. -/
theorem bus_refines (hcap : 13 ≤ wire.capacity) {es : List BusEvent}
    (hlegal : (busSystem k wire).Legal OnBus.init es) :
    ∃ fs pending, Refines k wire es fs pending := by
  have hsim : Simulation (busSystem k wire) ((loopSystem k).channel packets) (Carrying wire)
      (BusEvent.over wire) id := bus_simulates (le_trans (by decide) hcap)
  have hcarrying := hsim.run carrying_init hlegal
  have htrace := hsim.trace carrying_init hlegal
  obtain ⟨fs, hfs⟩ := LabelledSystem.channel_run (hsim.legal carrying_init hlegal)
  rw [List.map_id] at htrace
  have hsent : (es.map (BusEvent.over wire)).filterMap ChannelEvent.sent =
      es.filterMap BusEvent.sent := by
    rw [List.filterMap_map]
    refine List.filterMap_congr fun e _ => ?_
    cases e <;> rfl
  refine ⟨fs, _, hfs.legal, hfs.run_eq.trans hcarrying.loop_eq.symm, hfs.trace_eq.trans
    htrace.symm, hsent.symm.trans hfs.queue_eq, hcarrying.bytes_eq, fun hacked => ?_⟩
  rw [toNfcc_run hcap hlegal hacked, hfs.trace_eq, htrace]

/-- Two responses that are on the bus at once. -/
def twoOnBus : List BusEvent :=
  [.app, .tags (offering 0 []) 0, .send (.minimal .rspCoreReset), .send (.minimal .rspCoreInit),
    .nci NciRfIntf.zero, .app, .tags (offering 0 []) 0, .nci NciRfIntf.zero]

theorem bus_refines_two : ∃ fs pending, Refines .tagDump ⟨32, [], []⟩ twoOnBus fs pending :=
  bus_refines (by decide) (by decide +kernel)

end Sketch
end ArduinoNfc
