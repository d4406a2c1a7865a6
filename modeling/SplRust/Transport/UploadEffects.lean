import SplRust.Core.DemuxWrites
import SplRust.Transport.CoordinatorStep

/-! What a step of the coordinator does to the uploads, and which packets it hands to the
writer. Apart from a turn of `pump_ready` and an open, a step leaves the progress of every
upload alone and hands over control frames only. -/

namespace SplRust.Transport
open SplRust.Lib SplRust.Core List

/-- Two states of an upload between which it was neither opened nor closed. -/
structure SameProgress (before after : WindowedUpload) : Prop where
  opened : after.opened = before.opened
  closed : after.closed = before.closed

theorem SameProgress.refl (upload : WindowedUpload) : SameProgress upload upload := ⟨rfl, rfl⟩

theorem SameProgress.trans {fst mid last : WindowedUpload} (early : SameProgress fst mid)
    (late : SameProgress mid last) : SameProgress fst last :=
  ⟨late.opened.trans early.opened, late.closed.trans early.closed⟩

variable {cr : UInt32}

theorem SameProgress.grant {upload next : WindowedUpload}
    (granted : upload.grant cr = .ok next) : SameProgress upload next := by
  obtain ⟨-, -, -, -, -, -, -, opened, closed, -⟩ := WindowedUpload.grant_ok granted
  exact ⟨opened, closed⟩

theorem SameProgress.feed {upload next : WindowedUpload} {bs : Bytes}
    (fed : upload.feedBody bs = .ok next) : SameProgress upload next := by
  obtain ⟨-, -, opened, closed⟩ := WindowedUpload.feedBody_kept fed
  exact ⟨opened, closed⟩

namespace Coordinator

/-- Every stream of the later state was there before, with the same progress. -/
def UploadsKept (coord next : Coordinator) : Prop :=
  ∀ sid after, next.streams.lookup sid = some after → ∃ before, coord.streams.lookup sid = some before ∧
      after.ticket = before.ticket ∧ SameProgress before.upload after.upload

section
variable {mid : Coordinator} {res : Outcome} {last : Bool} {ph : CoordinatorPhase}
variable {coord next : Coordinator} {sid : UInt32} {kind : WriterPacket → Prop}

theorem UploadsKept.of_eq (streams : next.streams = coord.streams) : UploadsKept coord next := by
  intro sid after hp
  exact ⟨after, streams ▸ hp, rfl, .refl _⟩

theorem UploadsKept.trans (early : UploadsKept coord mid) (late : UploadsKept mid next) : UploadsKept coord next := by
  intro sid last hp
  obtain ⟨middle, there, sameTicket, later⟩ := late sid last hp
  obtain ⟨fst, fnd, tk, sooner⟩ := early sid middle there
  exact ⟨fst, fnd, sameTicket.trans tk, sooner.trans later⟩

theorem UploadsKept.setStream {pre after : StreamState} (hp : coord.streams.lookup sid = some pre)
    (tk : after.ticket = pre.ticket) (same : SameProgress pre.upload after.upload) :
    UploadsKept coord (coord.setStream sid after) := by
  intro oid s there
  by_cases own : oid = sid
  · subst own
    rw [Coordinator.setStream, Finmap.lookup_insert] at there
    cases there
    exact ⟨pre, hp, tk, same⟩
  · rw [Coordinator.setStream, Finmap.lookup_insert_of_ne _ own] at there
    exact ⟨s, there, rfl, .refl _⟩

theorem UploadsKept.erase (streams : next.streams = coord.streams.erase sid) : UploadsKept coord next := by
  intro oid s there
  rw [streams] at there
  by_cases own : oid = sid
  · subst own
    rw [Finmap.lookup_erase] at there
    cases there
  · rw [Finmap.lookup_erase_ne own] at there
    exact ⟨s, there, rfl, .refl _⟩

theorem removeState_streams (coord : Coordinator) (sid : UInt32) (s : StreamState) :
    (coord.removeState sid s).streams = coord.streams.erase sid := by
  rw [removeState_eq]

theorem forget_streams (coord : Coordinator) (sid : UInt32) (s : StreamState) :
    (coord.forget sid s).streams = coord.streams.erase sid := by
  simp only [forget, removeState_eq]

def Adds (coord next : Coordinator) (kind : WriterPacket → Prop) : Prop :=
  ∃ handed, next.writer.queue = coord.writer.queue ++ handed ∧ ∀ packet ∈ handed, kind packet

theorem Adds.of_eq (q : next.writer.queue = coord.writer.queue) : Adds coord next kind :=
  ⟨[], by rw [q, append_nil], by simp⟩

theorem Adds.one {packet : WriterPacket}
    (q : next.writer.queue = coord.writer.queue ++ [packet]) (own : kind packet) : Adds coord next kind :=
  ⟨[packet], q, by simpa using own⟩

theorem Adds.trans (early : Adds coord mid kind) (late : Adds mid next kind) : Adds coord next kind := by
  obtain ⟨fst, pre, firsts⟩ := early
  obtain ⟨snd, after, seconds⟩ := late
  refine ⟨fst ++ snd, by rw [after, pre, append_assoc], ?_⟩
  intro packet mem
  rcases mem_append.mp mem with old | new
  · exact firsts packet old
  · exact seconds packet new

theorem Adds.handedBy (adds : Adds coord res.1 kind) : ∀ packet ∈ coord.handedBy res, kind packet := by
  obtain ⟨_, q, own⟩ := adds
  rw [Coordinator.handedBy, q, drop_left]
  exact own

def IsReset (sid : UInt32) (packet : WriterPacket) : Prop :=
  frameHeader packet.bytes = some (sid, flagReset) ∧ packet.bodyLeases = []

theorem removeState_writer (coord : Coordinator) (sid : UInt32) (s : StreamState) :
    (coord.removeState sid s).writer = coord.writer := by
  rw [removeState_eq]

theorem isReset_reset (sid : UInt32) (rsn : UInt8) : IsReset sid ⟨(Frame.reset sid rsn).wire, []⟩ :=
  ⟨frameHeader_wire _, rfl⟩

theorem returnPermits_length (chs : List StreamChannels) (leases : List BodyLease) :
    (returnPermits chs leases).length = chs.length := by
  unfold returnPermits
  induction leases generalizing chs with
  | nil => rfl
  | cons lease leases ih => rw [foldl_cons, ih, length_modify]

theorem detach_length (chs : List StreamChannels) (s : StreamState) :
    (detach chs s).length = chs.length := by
  rw [detach, returnPermits_length, length_modify]

/-- What handling one stream does when it sends nothing of its upload. -/
structure Controls (coord : Coordinator) (sid : UInt32) (next : Coordinator) : Prop where
  uploads : UploadsKept coord next
  adds : Adds coord next (IsReset sid)
  length : next.channels.length = coord.channels.length

theorem Controls.trans (early : Controls coord sid mid) (late : Controls mid sid next) : Controls coord sid next :=
  ⟨early.uploads.trans late.uploads, early.adds.trans late.adds, late.length.trans early.length⟩

theorem Controls.of_eq (streams : next.streams = coord.streams) (q : next.writer.queue = coord.writer.queue)
    (length : next.channels.length = coord.channels.length) : Controls coord sid next :=
  ⟨.of_eq streams, .of_eq q, length⟩

theorem Controls.pushDelivery (coord : Coordinator) (sid : UInt32) (tk : Nat) (ev : DeliveryEvent) :
    Controls coord sid (coord.pushDelivery tk ev) :=
  .of_eq rfl rfl (length_modify _ _ _)

theorem Controls.removeState (coord : Coordinator) (sid : UInt32) (s : StreamState) :
    Controls coord sid (coord.removeState sid s) :=
  ⟨.erase (removeState_streams _ _ _), .of_eq (by rw [removeState_writer]), by
    rw [removeState_eq]
    exact detach_length _ _⟩

theorem ResetEffect.controls (eff : ResetEffect coord sid res) : Controls coord sid res.1 := by
  cases eff with
  | absent => exact .of_eq rfl rfl rfl
  | reset s _ _ sent =>
    have removed := Controls.removeState coord sid s
    have forgot : Controls coord sid (coord.forget sid s) := removed.trans (.of_eq rfl rfl rfl)
    refine forgot.trans ?_
    cases sent with
    | sent => exact ⟨.of_eq rfl, .one rfl (isReset_reset _ _), rfl⟩
    | failed => exact .of_eq rfl rfl rfl

theorem DeliverEffect.controls {ev : StreamEvent} (eff : DeliverEffect coord sid ev res) :
    Controls coord sid res.1 := by
  cases eff with
  | absent => exact .of_eq rfl rfl rfl
  | early _ _ _ _ _ _ tried _ reset =>
    rcases tried with ⟨rfl, -⟩ | ⟨rfl, -⟩ | ⟨rfl, -⟩
    · exact reset.controls
    · exact reset.controls
    · exact (Controls.pushDelivery _ _ _ _).trans reset.controls
  | pended _ hp => exact ⟨.setStream hp rfl (.refl _), .of_eq rfl, rfl⟩
  | sent => exact .pushDelivery _ _ _ _
  | ended => exact (Controls.pushDelivery _ _ _ _).trans (.removeState _ _ _)
  | closed _ _ _ _ _ _ reset => exact reset.controls

theorem EnqueueEffect.controls (eff : EnqueueEffect coord sid next) : Controls coord sid next := by
  cases eff with
  | kept => exact .of_eq rfl rfl rfl
  | queued _ hp => exact ⟨.setStream hp rfl (.refl _), .of_eq rfl, rfl⟩

theorem GrantEffect.controls (eff : GrantEffect coord sid cr res) : Controls coord sid res.1 := by
  cases eff with
  | absent | unsent => exact .of_eq rfl rfl rfl
  | granted s hp upload fits _ queued =>
    have set : Controls coord sid (coord.setStream sid { s with upload := upload }) :=
      ⟨.setStream hp rfl (.grant fits), .of_eq rfl, rfl⟩
    exact set.trans queued.controls
  | refused _ _ _ _ delivered =>
    have sent : Controls coord sid { coord.pushPacket ⟨(Frame.reset sid resetFlowControlError).wire, []⟩ with
          demux := coord.demux.removeStream sid } :=
      ⟨.of_eq rfl, .one rfl (isReset_reset _ _), rfl⟩
    exact sent.trans delivered.controls

theorem ReceiveEffect.controls (eff : ReceiveEffect coord sid last res) : Controls coord sid res.1 := by
  cases eff with
  | absent => exact .of_eq rfl rfl rfl
  | short _ _ _ _ reset | finished _ reset => exact reset.controls
  | fed _ hp _ _ _ _ _ _ fits => exact ⟨.setStream hp rfl (.feed fits), .of_eq rfl, length_modify _ _ _⟩
  | rejected => exact .of_eq rfl rfl ((length_modify _ _ _).trans (length_modify _ _ _))

theorem FlushEffect.controls (eff : FlushEffect coord sid last res) : Controls coord sid res.1 := by
  cases eff with
  | calm | full => exact .of_eq rfl rfl rfl
  | sent _ hp => exact (Controls.pushDelivery _ _ _ _).trans ⟨.setStream hp rfl (.refl _), .of_eq rfl, rfl⟩
  | ended => exact (Controls.pushDelivery _ _ _ _).trans (.removeState _ _ _)
  | closed _ _ _ _ _ reset => exact reset.controls

theorem FanoutEffect.controls {last : DeliveryEvent} (eff : FanoutEffect coord sid last next) :
    Controls coord sid next := by
  cases eff with
  | absent => exact .of_eq rfl rfl rfl
  | untold => exact .removeState _ _ _
  | told => exact (Controls.pushDelivery _ _ _ _).trans (.removeState _ _ _)

def Quits (sid : UInt32) (next : Coordinator) : Prop := ∀ s, next.streams.lookup sid = some s → s.pendingDelivery ≠ []

theorem Quits.of_gone (gone : next.streams.lookup sid = none) : Quits sid next := by
  intro s hp
  rw [gone] at hp
  cases hp

theorem enqueuePendingDelivery_ne_nil (pend : List DeliveryEvent) (ev : DeliveryEvent) :
    enqueuePendingDelivery pend ev ≠ [] := by
  unfold enqueuePendingDelivery
  split
  · simp
  · simp
  · split
    · simp
    · simp

theorem ResetEffect.gone (eff : ResetEffect coord sid res) : res.1.streams.lookup sid = none := by
  cases eff with
  | absent missing => exact missing
  | reset s _ _ sent =>
    have gone : (coord.forget sid s).streams.lookup sid = none := by rw [forget_streams, Finmap.lookup_erase]
    cases sent with
    | sent | failed => exact gone

theorem DeliverEffect.quits {ev : StreamEvent} (eff : DeliverEffect coord sid ev res)
    (reset : res.1.writer.queue ≠ coord.writer.queue ∨ (DeliveryEvent.stream ev).ends = true) : Quits sid res.1 := by
  cases eff with
  | absent missing => exact .of_gone missing
  | early _ _ _ _ _ _ _ _ reset | closed _ _ _ _ _ _ reset => exact .of_gone reset.gone
  | pended =>
    intro oid there
    rw [pend, setStream, Finmap.lookup_insert] at there
    cases there
    exact enqueuePendingDelivery_ne_nil _ _
  | sent _ _ _ _ _ going =>
    rcases reset with changed | ends
    · exact absurd rfl changed
    · rw [going] at ends
      cases ends
  | ended =>
    refine .of_gone ?_
    rw [removeState_streams, Finmap.lookup_erase]

theorem EnqueueEffect.queue_eq (eff : EnqueueEffect coord sid next) : next.writer.queue = coord.writer.queue := by
  cases eff with
  | kept | queued => rfl

theorem GrantEffect.quits (eff : GrantEffect coord sid cr res)
    (changed : res.1.writer.queue ≠ coord.writer.queue) : Quits sid res.1 := by
  cases eff with
  | absent missing => exact .of_gone missing
  | granted _ _ _ _ _ queued => exact absurd queued.queue_eq changed
  | unsent => exact absurd rfl changed
  | refused _ _ _ _ delivered => exact delivered.quits (Or.inr rfl)

theorem ReceiveEffect.quits (eff : ReceiveEffect coord sid last res)
    (changed : res.1.writer.queue ≠ coord.writer.queue) : Quits sid res.1 := by
  cases eff with
  | absent missing => exact .of_gone missing
  | short _ _ _ _ reset => exact .of_gone reset.gone
  | finished _ queued => exact absurd queued.queue_eq changed
  | fed | rejected => exact absurd rfl changed

theorem FlushEffect.quits (eff : FlushEffect coord sid last res)
    (changed : res.1.writer.queue ≠ coord.writer.queue) : Quits sid res.1 := by
  cases eff with
  | calm | full | sent => exact absurd rfl changed
  | ended =>
    refine .of_gone ?_
    rw [removeState_streams, Finmap.lookup_erase]
  | closed _ _ _ gone _ reset => exact .of_gone reset.gone

/-- The packets that are not frames of an upload. -/
inductive ControlPacket (coord next : Coordinator) (packet : WriterPacket) : Prop where
  | reset (sid : UInt32) (own : IsReset sid packet) (quits : Quits sid next)
  | answer (out : DemuxOutput) (inside : coord.phase = .reading out)
      (mem : packet.bytes ∈ out.pongs ∨ packet.bytes ∈ out.emitFrames)
      (leases : packet.bodyLeases = [])
  | window (sid : UInt32) (header : frameHeader packet.bytes = some (sid, flagWindow))
      (leases : packet.bodyLeases = [])
  | ping (header : frameHeader packet.bytes = some (0, flagPing)) (leases : packet.bodyLeases = [])

/-- What a step does to the uploads, with the packets it hands over. -/
inductive StepUploads (coord next : Coordinator) (reply : CoordinatorReply) : Prop where
  | kept (uploads : UploadsKept coord next) (opened : reply.opened = [])
      (length : next.channels.length = coord.channels.length)
      (frames : ∀ packet ∈ reply.handed, ControlPacket coord next packet)
  | sent (inside : coord.phase = .pumping ∨ ∃ ticket sid, coord.phase = .opening ticket sid)
      (stays : next.phase = coord.phase)
      (room : coord.writer.hasUploadRoom = true)
      (sid : UInt32) (ready : List UInt32) (first : coord.ready = sid :: ready)
      (s : StreamState) (hp : coord.streams.lookup sid = some s)
      (up : WindowedUpload) (fr : Bytes)
      (polled : s.upload.pollSend = (up, .ok (some fr))) (leases : List BodyLease)
      (after : StreamState) (ticket : after.ticket = s.ticket) (moved : after.upload = up)
      (streams : next.streams = coord.streams.insert sid after)
      (length : next.channels.length = coord.channels.length)
      (handed : reply.handed = [⟨fr, leases⟩]) (opened : reply.opened = [])
  | failed (error : TransportError) (stopped : next.phase = .failing error)
      (handed : reply.handed = []) (opened : reply.opened = [])
  | opens (method target : Text) (headers : Headers) (declaredBodyLen : Nat) (idle : coord.phase = .select)
      (after : next = (coord.openStreamOnCarrier method target headers
        declaredBodyLen).setPhase (.opening coord.channels.length coord.dialer.next))
      (answer : reply = { opened := [coord.dialer.next] })

theorem settled_streams (res : Outcome) (ph : CoordinatorPhase) :
    (settled res ph).streams = res.1.streams := by
  obtain ⟨_, ans⟩ := res
  cases ans with
  | ok | error => rfl

theorem settled_channels (res : Outcome) (ph : CoordinatorPhase) :
    (settled res ph).channels = res.1.channels := by
  obtain ⟨_, ans⟩ := res
  cases ans with
  | ok | error => rfl

theorem Controls.step (controls : Controls coord sid res.1)
    (quits : res.1.writer.queue ≠ coord.writer.queue → Quits sid res.1) :
    StepUploads coord (settled res ph) { handed := coord.handedBy res } := by
  have streams := settled_streams res ph
  refine .kept (controls.uploads.trans (.of_eq streams)) rfl ?_ ?_
  · rw [settled_channels]
    exact controls.length
  intro packet mem
  refine .reset sid (controls.adds.handedBy packet mem) ?_
  have changed : res.1.writer.queue ≠ coord.writer.queue := by
    intro same
    simp only [handedBy, same, drop_length] at mem
    cases mem
  intro s hp
  exact quits changed s (streams ▸ hp)

theorem handedBy_of_eq (q : res.1.writer.queue = coord.writer.queue) : coord.handedBy res = [] := by
  rw [handedBy, q, drop_length]

theorem handedBy_one {packet : WriterPacket} (q : res.1.writer.queue = coord.writer.queue ++ [packet]) :
    coord.handedBy res = [packet] := by
  rw [handedBy, q, drop_left]

theorem FrameEffect.step {frame : Bytes} {pre : Coordinator}
    (eff : FrameEffect pre frame res) (streams : pre.streams = coord.streams)
    (q : pre.writer.queue = coord.writer.queue) (chs : pre.channels = coord.channels)
    (kind : ControlPacket coord (settled res ph) ⟨frame, []⟩) : StepUploads coord (settled res ph)
      { handed := coord.handedBy res } := by
  have same : UploadsKept coord (settled res ph) := by
    refine .of_eq ((settled_streams res ph).trans ?_)
    cases eff with
    | sent | failed => exact streams
  have length : (settled res ph).channels.length = coord.channels.length := by
    rw [settled_channels]
    cases eff with
    | sent | failed => exact congrArg List.length chs
  refine .kept same rfl length ?_
  intro packet mem
  cases eff with
  | sent =>
    simp only [handedBy, pushPacket, q, drop_left, mem_singleton] at mem
    rw [mem]
    exact kind
  | failed =>
    simp only [handedBy, q, drop_length] at mem
    cases mem

theorem quiet_step {reply : CoordinatorReply} (streams : next.streams = coord.streams)
    (length : next.channels.length = coord.channels.length) (handed : reply.handed = []) (opened : reply.opened = []) :
    StepUploads coord next reply := by
  refine .kept (.of_eq streams) opened length ?_
  rw [handed]
  intro packet mem
  cases mem

theorem dropLeases_writer (coord : Coordinator) (leases : List BodyLease) :
    (coord.dropLeases leases).writer = coord.writer := by
  rw [dropLeases_eq]

/-- Queueing a stream writes its flag and nothing else. -/
theorem EnqueueEffect.insert {streams : Table UInt32 StreamState} {s : StreamState}
    (set : coord.streams = streams.insert sid s) (eff : EnqueueEffect coord sid next) :
    ∃ after, after.ticket = s.ticket ∧ after.upload = s.upload ∧ next.streams = streams.insert sid after := by
  cases eff with
  | kept => exact ⟨s, rfl, rfl, set⟩
  | queued _ hp =>
    rw [set, Finmap.lookup_insert] at hp
    cases hp
    refine ⟨{ s with readyQueued := true }, rfl, rfl, ?_⟩
    simp only [setStream, set, Finmap.insert_insert]

theorem PumpEffect.step (inside : coord.phase = .pumping ∨ ∃ tk sid, coord.phase = .opening tk sid)
    (eff : PumpEffect coord res) : StepUploads coord (settled res coord.phase)
      { handed := coord.handedBy res } := by
  cases eff with
  | stale => exact quiet_step rfl rfl (handedBy_of_eq rfl) rfl
  | idle sid ready _ s hp =>
    have kept : UploadsKept coord ({ coord with ready := ready }.setStream sid { s with readyQueued := false }) :=
      (UploadsKept.of_eq rfl).trans (.setStream hp rfl (.refl _))
    refine .kept (kept.trans (.of_eq rfl)) rfl rfl ?_
    intro packet mem
    rw [handedBy_of_eq (by rfl)] at mem
    cases mem
  | sent sid ready fst s hp room upload frame polled leases _ after queued =>
    have moved : ∃ last : StreamState, last.ticket = s.ticket ∧ last.upload = upload ∧
        after.streams = coord.streams.insert sid last := by
      split at queued
      · exact queued.insert rfl
      · refine ⟨{ s with readyQueued := false, upload := upload, stagedLeases := leases.2 }, rfl, rfl, ?_⟩
        rw [queued]
        rfl
    have q : after.writer.queue = coord.writer.queue ++ [⟨frame, leases.1⟩] := by
      split at queued
      · exact queued.queue_eq
      · rw [queued]; rfl
    have length : after.channels.length = coord.channels.length := by
      split at queued
      · exact queued.controls.length
      · rw [queued]; rfl
    obtain ⟨last, tk, own, streams⟩ := moved
    exact .sent inside rfl room sid ready fst s hp upload frame polled leases.1 last
      tk own streams length (handedBy_one q) rfl
  | unsent | underflow => exact .failed _ rfl (handedBy_of_eq (by rw [dropLeases_writer]; rfl)) rfl

theorem ReadEffect.step {out rest : DemuxOutput} (inside : coord.phase = .reading out)
    (eff : ReadEffect coord out rest res) : StepUploads coord (settled res ph)
      { handed := coord.handedBy res } := by
  cases eff with
  | pong _ _ fst _ sent => exact sent.step rfl rfl rfl (.answer out inside (Or.inl (by simp [fst])) rfl)
  | frame _ _ fst _ sent => exact sent.step rfl rfl rfl (.answer out inside (Or.inr (by simp [fst])) rfl)
  | nonce nonce =>
    have kept : (coord.receivePong nonce).streams = coord.streams ∧ (coord.receivePong nonce).writer = coord.writer ∧
        (coord.receivePong nonce).channels = coord.channels := by
      unfold receivePong
      split
      · exact ⟨rfl, rfl, rfl⟩
      · exact ⟨rfl, rfl, rfl⟩
    exact quiet_step ((settled_streams _ _).trans kept.1)
      (by rw [settled_channels, kept.2.2]) (handedBy_of_eq (by rw [kept.2.1])) rfl
  | grant _ _ _ _ _ _ granted => exact granted.controls.step granted.quits
  | event _ _ _ _ _ _ _ delivered => exact delivered.controls.step fun changed => delivered.quits (Or.inl changed)

theorem ConsumeEffect.step {bs : Nat} (eff : ConsumeEffect coord sid bs res) :
    StepUploads coord (settled res ph) { handed := coord.handedBy res } := by
  cases eff with
  | quiet => exact quiet_step (settled_streams _ _) (by rw [settled_channels]) (handedBy_of_eq rfl) rfl
  | granted dm _ consumed _ sent =>
    refine sent.step rfl rfl rfl (.window sid ?_ rfl)
    rcases coord.demux.consume_cases sid bs with ⟨-, same⟩ | ⟨st, -, -, same⟩ |
      ⟨st, win, grant, hp, -, same⟩
    · cases same.symm.trans consumed
    · cases same.symm.trans consumed
    · have ans := congrArg Prod.snd (same.symm.trans consumed)
      simp only [Except.ok.injEq] at ans
      obtain ⟨_, -, rfl⟩ := Option.map_eq_some_iff.mp ans
      exact frameHeader_wire _

theorem KeepaliveEffect.step (eff : KeepaliveEffect coord res) : StepUploads coord (settled res ph)
      { handed := coord.handedBy res } := by
  cases eff with
  | quiet => exact quiet_step (settled_streams _ _) (by rw [settled_channels]) (handedBy_of_eq rfl) rfl
  | probed =>
    refine .kept (.of_eq rfl) rfl rfl ?_
    intro packet mem
    rw [handedBy_one (by rfl), mem_singleton] at mem
    rw [mem]
    exact .ping (frameHeader_wire _) rfl

theorem step_uploads {call : CoordinatorCall} {reply : CoordinatorReply}
    (eff : StepEffect coord call next reply) : StepUploads coord next reply := by
  cases eff with
  | opens method target headers len idle => exact .opens method target headers len idle rfl rfl
  | consumes _ _ _ _ eff | ticks _ _ _ eff => exact eff.step
  | cancels _ _ _ eff | unreplied _ _ _ _ eff => exact eff.controls.step fun _ => .of_gone eff.gone
  | readTurn _ _ _ inside eff => exact eff.step inside
  | receiveTurn _ _ _ _ _ eff | flushTurn _ _ _ _ _ eff => exact eff.controls.step eff.quits
  | pumpTurn _ inside eff =>
    refine eff.step (inside.imp id ?_)
    rintro ⟨tk, sid, opening, -⟩
    exact ⟨tk, sid, opening⟩
  | openFailed _ _ _ _ _ eff failed =>
    refine .failed _ rfl ?_ rfl
    cases eff with
    | stale | idle | sent => cases failed
    | unsent | underflow => exact handedBy_of_eq (by rw [dropLeases_writer]; rfl)
  | fanout _ _ _ _ _ eff =>
    refine .kept (eff.controls.uploads.trans (.of_eq rfl)) rfl eff.controls.length ?_
    intro packet mem
    cases mem
  | writes _ _ eff =>
    cases eff with
    | took => exact quiet_step rfl rfl rfl rfl
    | wrote | failed | closed => exact quiet_step rfl (returnPermits_length _ _) rfl rfl
  | acts => exact quiet_step rfl length_set rfl rfl
  | _ => exact quiet_step rfl rfl rfl rfl

end

end Coordinator

end SplRust.Transport
