import SplRust.Transport.UploadRun

/-! The order of upload frames over whole runs: streams are opened on the wire in the order
of their ids, and once a stream is reset none of its upload frames follows. -/

namespace SplRust.Transport
open SplRust.Lib SplRust.Core List Option

namespace WriterPacket
variable {packet : WriterPacket} {sid : UInt32}

def streamOf (flags : List UInt8) (packet : WriterPacket) : Option UInt32 :=
  (frameHeader packet.bytes).bind fun header => if header.2 ∈ flags then some header.1 else none

/-- The stream that the packet opens. -/
def opens (packet : WriterPacket) : Option UInt32 := packet.streamOf [flagOpen ||| flagData]

/-- The stream whose upload the packet carries on. -/
def uploads (packet : WriterPacket) : Option UInt32 := packet.streamOf [flagOpen ||| flagData, flagData, flagClose]

/-- The stream that the packet resets. -/
def resets (packet : WriterPacket) : Option UInt32 := packet.streamOf [flagReset]

theorem streamOf_eq {flags : List UInt8} {flag : UInt8} (header : frameHeader packet.bytes = some (sid, flag)) :
    packet.streamOf flags = if flag ∈ flags then some sid else none := by
  simp only [streamOf, header, bind_some]

theorem uploads_of_opens (opened : packet.opens = some sid) : packet.uploads = some sid := by
  obtain ⟨⟨_, flag⟩, header, own⟩ := bind_eq_some_iff.mp opened
  split at own
  next mem =>
    cases own
    have only : flag = flagOpen ||| flagData := mem_singleton.mp mem
    rw [uploads, streamOf_eq header, only]
    exact if_pos mem_cons_self
  · cases own

theorem resets_of_header {other : UInt32} {flag : UInt8}
    (header : frameHeader packet.bytes = some (other, flag)) (reset : packet.resets = some sid) :
    other = sid ∧ flag = flagReset := by
  rw [resets, streamOf_eq header] at reset
  split at reset
  next mem =>
    cases reset
    exact ⟨rfl, mem_singleton.mp mem⟩
  · cases reset

theorem not_resets_of_uploads {other : UInt32} (up : packet.uploads = some sid) : packet.resets ≠ some other := by
  intro reset
  obtain ⟨⟨_, _⟩, header, _⟩ := bind_eq_some_iff.mp up
  obtain ⟨-, rfl⟩ := resets_of_header header reset
  rw [uploads, streamOf_eq header, if_neg (by decide)] at up
  cases up

end WriterPacket

/-- The ids in the order their streams were opened on the wire. -/
def opensIn (replies : List CoordinatorReply) : List UInt32 :=
  (replies.flatMap CoordinatorReply.handed).filterMap WriterPacket.opens

/-- The ids that were allocated. -/
def allocatedIn (replies : List CoordinatorReply) : List UInt32 := replies.flatMap CoordinatorReply.opened

/-- A RESET of the stream was handed to the writer after the stream was opened. -/
def ResetSince (sid : UInt32) (rs : List CoordinatorReply) : Prop :=
  ∃ early reply late, rs = early ++ reply :: late ∧ sid ∈ allocatedIn early ∧
    ∃ packet ∈ reply.handed, packet.resets = some sid

theorem opensIn_append (replies : List CoordinatorReply) (rep : CoordinatorReply) :
    opensIn (replies ++ [rep]) = opensIn replies ++ rep.handed.filterMap WriterPacket.opens := by
  simp [opensIn]

theorem allocatedIn_append (replies : List CoordinatorReply) (rep : CoordinatorReply) :
    allocatedIn (replies ++ [rep]) = allocatedIn replies ++ rep.opened := by
  simp [allocatedIn]

theorem resetSince_append {sid : UInt32} {replies : List CoordinatorReply}
    {rep : CoordinatorReply} (reset : ResetSince sid (replies ++ [rep])) :
    sid ∈ allocatedIn replies ∧ (ResetSince sid replies ∨ ∃ packet ∈ rep.handed, packet.resets = some sid) := by
  obtain ⟨early, middle, late, split, kn, fnd⟩ := reset
  rcases eq_nil_or_concat late with rfl | ⟨rest, last, rfl⟩
  · obtain ⟨rfl, same⟩ := append_inj' split rfl
    cases same
    exact ⟨kn, Or.inr fnd⟩
  · rw [concat_eq_append, ← cons_append, ← append_assoc] at split
    obtain ⟨rfl, -⟩ := append_inj' split rfl
    refine ⟨?_, Or.inl ⟨early, middle, rest, rfl, kn, fnd⟩⟩
    rw [allocatedIn, flatMap_append]
    exact mem_append_left _ kn

namespace Coordinator

def Undone (coord : Coordinator) (sid : UInt32) : Prop :=
  ∃ s, coord.streams.lookup sid = some s ∧ s.upload.isDone = false

def Ending (unread : List (UInt32 × StreamEvent)) (sid : UInt32) : Prop :=
  ∃ how, (sid, StreamEvent.ending how) ∈ unread

/-- What holds of the state and the replies so far while the coordinator is running. -/
structure Marked (coord : Coordinator) (rs : List CoordinatorReply) : Prop where
  scheduled : coord.Scheduled coord.phase.busy coord.phase.unread
  count : coord.channels.length = (allocatedIn rs).length
  known : ∀ sid ∈ allocatedIn rs, sid.toNat < 2 * coord.channels.length + 1
  control : ∀ out, coord.phase = .reading out → out.Control
  emitted : ∀ out, coord.phase = .reading out → ∀ sid, Undone coord sid →
    (∃ bytes ∈ out.emitFrames, frameHeader bytes = some (sid, flagReset)) → Ending out.streamEvents sid
  ended : ∀ sid, Undone coord sid → ResetSince sid rs → Ending coord.phase.unread sid
  below : ∀ sid ∈ opensIn rs, sid.toNat < 2 * coord.channels.length + 1 ∧
    ∀ other, coord.unopened other = true → sid.toNat < other.toNat
  started : ∀ sid s, coord.streams.lookup sid = some s → s.upload.opened = true → sid ∈ opensIn rs

section
variable {res : Outcome} {busy : Option UInt32} {unread : List (UInt32 × StreamEvent)} {rest out : DemuxOutput}
variable {coord next : Coordinator} {call : CoordinatorCall} {rep : CoordinatorReply}
  {replies : List CoordinatorReply} {sid : UInt32}

theorem running_of_settled {phase : CoordinatorPhase} (hr : (settled res phase).phase.running = true) :
    ∃ after, res = (after, .ok ()) ∧ settled res phase = after.setPhase phase := by
  obtain ⟨after, answer⟩ := res
  cases answer with
  | ok => exact ⟨after, rfl, rfl⟩
  | error => cases hr

theorem UploadsKept.undone (kept : UploadsKept coord next) (undone : Undone next sid) : Undone coord sid := by
  obtain ⟨after, there, unclosed⟩ := undone
  obtain ⟨pre, fnd, -, same⟩ := kept sid after there
  exact ⟨pre, fnd, same.closed.symm.trans unclosed⟩

theorem UploadsKept.unopened (kept : UploadsKept coord next)
    (fresh : next.unopened sid = true) : coord.unopened sid = true := by
  simp only [Coordinator.unopened, Option.any_eq_true, Bool.not_eq_true'] at fresh ⊢
  obtain ⟨after, there, unopened⟩ := fresh
  obtain ⟨pre, fnd, -, same⟩ := kept sid after there
  exact ⟨pre, fnd, same.opened.symm.trans unopened⟩

theorem ControlPacket.not_upload {packet : WriterPacket} (ctl : ∀ out, coord.phase = .reading out → out.Control)
    (kind : ControlPacket coord next packet) : packet.uploads = none := by
  have plain {sid : UInt32} {flag : UInt8} (header : frameHeader packet.bytes = some (sid, flag))
      (other : flag ∉ [flagOpen ||| flagData, flagData, flagClose]) : packet.uploads = none := by
    rw [WriterPacket.uploads, WriterPacket.streamOf_eq header, if_neg other]
  cases kind with
  | reset _ own => exact plain own.1 (by decide)
  | answer out inside mem =>
    rcases mem with pong | frame
    · exact plain ((ctl out inside).pongs _ pong) (by decide)
    · obtain ⟨sid, reset | window⟩ := (ctl out inside).frames _ frame
      · exact plain reset (by decide)
      · exact plain window (by decide)
  | window _ header | ping header => exact plain header (by decide)

theorem not_opens_of_not_uploads {packet : WriterPacket} (other : packet.uploads = none) : packet.opens = none := by
  cases opened : packet.opens with
  | none => rfl
  | some sid =>
    rw [WriterPacket.uploads_of_opens opened] at other
    cases other

/-- A frame of an upload, and whether it is the one that opens the stream. -/
theorem polled_packet {s : StreamState} {up : WindowedUpload} {frame : Bytes}
    (leases : List BodyLease) (en : Entry coord busy unread sid s)
    (polled : s.upload.pollSend = (up, .ok (some frame))) :
    (⟨frame, leases⟩ : WriterPacket).uploads = some sid ∧ (⟨frame, leases⟩ : WriterPacket).opens =
        (if s.upload.opened then none else some sid) ∧ up.opened = true ∧ s.upload.isDone = false := by
  obtain ⟨-, -, unclosed, how⟩ := WindowedUpload.pollSend_sent polled
  rcases how with ⟨ready, rfl, opened⟩ | ⟨starved, rfl, same⟩
  · have header := frameHeader_wire s.upload.dataFrame
    have flags : s.upload.dataFrame.flags = if s.upload.opened then flagData else flagOpen ||| flagData := rfl
    have named : s.upload.dataFrame.streamId = sid := en.own
    rw [flags, named] at header
    refine ⟨?_, ?_, opened, unclosed⟩
    · rw [WriterPacket.uploads, WriterPacket.streamOf_eq header, if_pos]
      split
      · decide
      · decide
    · rw [WriterPacket.opens, WriterPacket.streamOf_eq header]
      cases s.upload.opened with
      | true | false => rfl
  · have pre : s.upload.opened = true := by
      rw [← Bool.not_eq_false]
      intro fresh
      have remaining := (en.unopened fresh).2.1
      rw [WindowedUpload.available_of_head remaining] at starved
      exact starved remaining
    have header := frameHeader_wire s.upload.closeFrame
    have named : s.upload.closeFrame.streamId = sid := en.own
    rw [named] at header
    refine ⟨?_, ?_, same.trans pre, unclosed⟩
    · rw [WriterPacket.uploads, WriterPacket.streamOf_eq header]
      rfl
    · rw [WriterPacket.opens, WriterPacket.streamOf_eq header, pre]
      rfl

section
variable (sched : coord.Scheduled busy unread)
include sched

theorem Scheduled.first_unopened {ready : List UInt32} {other : UInt32} (first : coord.ready = sid :: ready)
    (fresh : coord.unopened sid = true) (their : coord.unopened other = true)
    (ne : other ≠ sid) : sid.toNat < other.toNat := by
  have wait := their
  simp only [unopened, Option.any_eq_true, Bool.not_eq_true'] at wait
  obtain ⟨s, hp, unopened⟩ := wait
  have en := sched.entry other s hp
  have count := en.queued
  rw [(en.unopened unopened).1, if_pos rfl, first, count_cons_of_ne ne.symm] at count
  have mem : other ∈ ready := by
    rw [← count_pos_iff]
    omega
  have ordered := sched.ordered
  rw [first, filter_cons_of_pos fresh, pairwise_cons] at ordered
  exact ordered.1 other (mem_filter.mpr ⟨mem, their⟩)

/-- What the frames of one step open. -/
inductive OpensEffect (coord next : Coordinator) : List UInt32 → Prop where
  | quiet (kept : ∀ sid, next.unopened sid = true → coord.unopened sid = true ∨ sid = coord.dialer.next)
      (started : ∀ sid s, next.streams.lookup sid = some s →
        s.upload.opened = true → ∃ before, coord.streams.lookup sid = some before ∧
          before.upload.opened = true) : OpensEffect coord next []
  | first (sid : UInt32) (fresh : coord.unopened sid = true)
      (bounded : sid.toNat < 2 * coord.channels.length + 1)
      (least : ∀ other, next.unopened other = true → coord.unopened other = true ∧ sid.toNat < other.toNat)
      (started : ∀ other s, next.streams.lookup other = some s →
        s.upload.opened = true → other = sid ∨ ∃ before, coord.streams.lookup other = some before ∧
            before.upload.opened = true) : OpensEffect coord next [sid]

theorem StepUploads.opens_effect (few : coord.channels.length < 2 ^ 31)
    (ctl : ∀ out, coord.phase = .reading out → out.Control)
    (hr : next.phase.running = true) (uploads : StepUploads coord next rep) :
    OpensEffect coord next (rep.handed.filterMap WriterPacket.opens) := by
  cases uploads with
  | kept uploads opened _ fs =>
    have none_opens : rep.handed.filterMap WriterPacket.opens = [] := by
      rw [filterMap_eq_nil_iff]
      intro packet mem
      exact not_opens_of_not_uploads ((fs packet mem).not_upload ctl)
    rw [none_opens]
    refine .quiet (fun sid fresh => Or.inl (uploads.unopened fresh)) ?_
    intro sid s hp opened
    obtain ⟨pre, fnd, -, same⟩ := uploads sid s hp
    exact ⟨pre, fnd, same.opened.symm.trans opened⟩
  | sent _ _ _ sid _ first s hp up _ polled leases after tk moved streams _ handed opened =>
    have en := sched.entry sid s hp
    obtain ⟨-, opens, isOpen, -⟩ := polled_packet leases en polled
    have own : next.streams.lookup sid = some after := by rw [streams, Finmap.lookup_insert]
    have others {other : UInt32} (ne : other ≠ sid) :
        next.streams.lookup other = coord.streams.lookup other := by
      rw [streams, Finmap.lookup_insert_of_ne _ ne]
    have kept {other : UInt32} (fresh : next.unopened other = true) : other ≠ sid ∧ coord.unopened other = true := by
      by_cases same : other = sid
      · subst same
        simp [unopened, own, moved, isOpen] at fresh
      · exact ⟨same, by simpa only [unopened, others same] using fresh⟩
    rw [handed, filterMap_cons, opens]
    cases pre : s.upload.opened with
    | true =>
      refine .quiet (fun other fresh => Or.inl (kept fresh).2) ?_
      intro other their there open_
      by_cases same : other = sid
      · subst same
        exact ⟨s, hp, pre⟩
      · exact ⟨their, others same ▸ there, open_⟩
    | false =>
      have fresh : coord.unopened sid = true := by simp only [unopened, hp, any_some, pre, Bool.not_false]
      refine .first sid fresh ?_ ?_ ?_
      · have number := en.number
        have bounded := en.ticket
        omega
      · intro other their
        obtain ⟨ne, unopened⟩ := kept their
        exact ⟨unopened, sched.first_unopened first fresh unopened ne⟩
      · intro other their there open_
        by_cases same : other = sid
        · exact Or.inl same
        · exact Or.inr ⟨their, others same ▸ there, open_⟩
  | failed _ stopped =>
    rw [stopped] at hr
    cases hr
  | opens method target headers len _ after answer =>
    obtain ⟨_, missing⟩ := sched.fresh few
    rw [openStreamOnCarrier_eq method target headers len missing] at after
    subst after answer
    have others {other : UInt32} (ne : other ≠ coord.dialer.next) :
        (coord.streams.insert coord.dialer.next (coord.openedState method target
          headers len)).lookup other = coord.streams.lookup other :=
      Finmap.lookup_insert_of_ne _ ne
    refine .quiet ?_ ?_
    · intro other fresh
      by_cases same : other = coord.dialer.next
      · exact Or.inr same
      · simp only [unopened, setPhase, setStream, others same] at fresh
        exact Or.inl fresh
    · intro other s there open_
      by_cases same : other = coord.dialer.next
      · subst same
        obtain rfl := some.inj ((lookup_setStream _ _ _).symm.trans there)
        cases open_
      · exact ⟨s, (others same).symm.trans there, open_⟩

/-- A stream that is not done after a step was not done before it, or the step opened it. -/
theorem StepUploads.undone (few : coord.channels.length < 2 ^ 31) (hr : next.phase.running = true)
    (uploads : StepUploads coord next rep) (undone : Undone next sid) :
    Undone coord sid ∨ sid = coord.dialer.next ∧ rep.handed = [] := by
  cases uploads with
  | kept uploads => exact Or.inl (uploads.undone undone)
  | sent _ _ _ other _ _ s hp _ _ polled _ _ _ _ streams =>
    obtain ⟨their, there, unclosed⟩ := undone
    by_cases same : sid = other
    · subst same
      exact Or.inl ⟨s, hp, (WindowedUpload.pollSend_sent polled).2.2.1⟩
    · rw [streams, Finmap.lookup_insert_of_ne _ same] at there
      exact Or.inl ⟨their, there, unclosed⟩
  | failed _ stopped =>
    rw [stopped] at hr
    cases hr
  | opens method target headers len _ after answer =>
    obtain ⟨_, missing⟩ := sched.fresh few
    rw [openStreamOnCarrier_eq method target headers len missing] at after
    subst after answer
    by_cases same : sid = coord.dialer.next
    · exact Or.inr ⟨same, rfl⟩
    · obtain ⟨their, there, unclosed⟩ := undone
      simp only [setPhase, setStream, Finmap.lookup_insert_of_ne _ same] at there
      exact Or.inl ⟨their, there, unclosed⟩

end

/-- How a step comes to be inside `handle_read`. -/
inductive ReadingStep (coord next : Coordinator) (reply : CoordinatorReply) (rest : DemuxOutput) : Prop where
  | starts (idle : coord.phase = .select) (data : Bytes) (demux : CarrierDemux)
      (fed : coord.demux.feed data = (demux, .ok rest))
      (streams : next.streams = coord.streams)
  | turns (out : DemuxOutput) (inside : coord.phase = .reading out) (after : Coordinator)
      (effect : ReadEffect coord out rest (after, .ok ()))
      (streams : next.streams = after.streams)
  | stays (inside : coord.phase = .reading rest) (handed : reply.handed = [])
      (streams : next.streams = coord.streams)

theorem reading_step (eff : StepEffect coord call next rep)
    (inside : next.phase = .reading rest) : ReadingStep coord next rep rest := by
  have settles {res : Outcome} {phase : CoordinatorPhase}
      (settled_inside : (settled res phase).phase = .reading rest) :
      phase = .reading rest := by
    obtain ⟨_, answer⟩ := res
    cases answer with
    | ok => exact settled_inside
    | error => cases settled_inside
  cases eff with
  | moves _ phase moves =>
    cases (inside : phase = .reading rest)
    cases moves
  | read data dm _ idle _ _ fed =>
    cases inside
    exact .starts idle data dm fed rfl
  | consumes | cancels | ticks | receiveTurn | unreplied | flushTurn => cases settles inside
  | readTurn out _ res within eff =>
    cases settles inside
    have hr : (settled res (.reading rest)).phase.running = true := by
      rw [inside]
      rfl
    obtain ⟨after, rfl, _⟩ := running_of_settled hr
    exact .turns out within after eff rfl
  | pumpTurn _ within =>
    have same := settles inside
    rcases within with pumping | ⟨tk, sid, opening, -⟩
    · cases pumping.symm.trans same
    · cases opening.symm.trans same
  | writes _ _ eff =>
    cases eff with
    | took | wrote | failed | closed => exact .stays inside rfl rfl
  | acts => exact .stays inside rfl rfl
  | _ => cases inside

theorem ReadEffect.output (eff : ReadEffect coord out rest res) : (∀ bs ∈ rest.pongs, bs ∈ out.pongs) ∧
      (∀ bs ∈ rest.emitFrames, bs ∈ out.emitFrames) ∧
      (rest.streamEvents = out.streamEvents ∨ rest.emitFrames = []) := by
  cases eff with
  | pong _ _ first =>
    exact ⟨fun other mem => by rw [first]; exact mem_cons_of_mem _ mem, fun _ mem => mem, Or.inl rfl⟩
  | frame _ _ first =>
    exact ⟨fun _ mem => mem, fun other mem => by rw [first]; exact mem_cons_of_mem _ mem, Or.inl rfl⟩
  | nonce | grant => exact ⟨fun _ mem => mem, fun _ mem => mem, Or.inl rfl⟩
  | event _ _ _ framed => exact ⟨fun _ mem => mem, fun _ mem => mem, Or.inr framed⟩

theorem ReadEffect.uploads (eff : ReadEffect coord out rest res) : UploadsKept coord res.1 := by
  cases eff with
  | pong _ _ _ _ sent | frame _ _ _ _ sent =>
    cases sent with
    | sent | failed => exact .of_eq rfl
  | nonce =>
    unfold receivePong
    split
    · exact .of_eq rfl
    · exact .of_eq rfl
  | grant _ _ _ _ _ _ granted => exact granted.controls.uploads
  | event _ _ _ _ _ _ _ delivered => exact delivered.controls.uploads

theorem Undone.of_streams (streams : next.streams = coord.streams) (undone : Undone next sid) : Undone coord sid := by
  obtain ⟨s, hp, unclosed⟩ := undone
  exact ⟨s, streams ▸ hp, unclosed⟩

section
variable (marked : Marked coord replies) (eff : StepEffect coord call next rep)
include marked eff

theorem Marked.control_step : ∀ out, next.phase = .reading out → out.Control := by
  intro rest inside
  cases reading_step eff inside with
  | starts _ _ _ fed => exact CarrierDemux.feed_writes fed
  | turns out within _ read =>
    have ctl := marked.control out within
    exact ⟨fun bs mem => ctl.pongs bs (read.output.1 bs mem), fun bs mem => ctl.frames bs (read.output.2.1 bs mem)⟩
  | stays within => exact marked.control rest within

theorem Marked.emitted_step : ∀ out, next.phase = .reading out → ∀ sid, Undone next sid →
      (∃ bs ∈ out.emitFrames, frameHeader bs = some (sid, flagReset)) → Ending out.streamEvents sid := by
  intro rest inside sid undone reset
  cases reading_step eff inside with
  | starts idle _ _ fed streams =>
    obtain ⟨s, hp, unclosed⟩ := Undone.of_streams streams undone
    obtain ⟨_, mem, header⟩ := reset
    have sched := marked.scheduled
    rw [idle] at sched
    have opening := ((sched.entry sid s hp).awaiting unclosed).listening
    refine CarrierDemux.feed_reset_ends ?_ fed mem header
    intro missing
    rw [missing] at opening
    cases opening
  | turns out within _ read streams =>
    obtain ⟨-, fewer, same | framed⟩ := read.output
    · rw [same]
      refine marked.emitted out within sid (read.uploads.undone (undone.of_streams streams)) ?_
      obtain ⟨bs, mem, header⟩ := reset
      exact ⟨bs, fewer bs mem, header⟩
    · obtain ⟨_, mem, -⟩ := reset
      rw [framed] at mem
      cases mem
  | stays within _ streams => exact marked.emitted rest within sid (undone.of_streams streams) reset

end

theorem Ending.reading {phase : CoordinatorPhase} (ending : Ending phase.unread sid) :
    ∃ out, phase = .reading out ∧ Ending out.streamEvents sid := by
  obtain ⟨how, mem⟩ := ending
  cases phase with
  | reading out => exact ⟨out, rfl, how, mem⟩
  | _ => cases mem

/-- `handle_read` goes on until nothing is left. -/
theorem reading_goes_on (eff : StepEffect coord call next rep)
    (inside : coord.phase = .reading out) (hr : next.phase.running = true) :
    out.streamEvents = [] ∨ ∃ rest, next.phase = .reading rest := by
  cases eff with
  | moves _ _ moves =>
    cases moves with
    | receives _ within | received within | replied _ _ within | collected _ within | flushed within
    | pumped within => cases within.symm.trans inside
    | _ => cases hr
  | read _ _ _ within | opens _ _ _ _ within | consumes _ _ _ within | cancels _ _ within | drained within
  | ticks _ _ within | receiveTurn _ _ _ _ within | unreplied _ _ _ within | flushTurn _ _ _ _ within =>
    cases within.symm.trans inside
  | unread | openFailed | fanout => cases hr
  | readDone _ at_end handled =>
    cases at_end.symm.trans inside
    exact Or.inl handled.2.2.2
  | readTurn _ rest =>
    obtain ⟨_, -, same⟩ := running_of_settled hr
    exact Or.inr ⟨rest, by rw [same]; rfl⟩
  | pumpTurn _ within =>
    rcases within with pumping | ⟨tk, sid, opening, -⟩
    · cases pumping.symm.trans inside
    · cases opening.symm.trans inside
  | writes _ _ eff =>
    refine Or.inr ⟨out, ?_⟩
    cases eff with
    | _ => exact inside
  | acts => exact Or.inr ⟨out, inside⟩

theorem ending_step (sched : coord.Scheduled coord.phase.busy coord.phase.unread)
    (eff : StepEffect coord call next rep) (hr : next.phase.running = true)
    (undone : Undone next sid) (ending : Ending coord.phase.unread sid) : Ending next.phase.unread sid := by
  obtain ⟨out, inside, left⟩ := ending.reading
  rcases reading_goes_on eff inside hr with nothing | ⟨rest, after⟩
  · obtain ⟨_, mem⟩ := left
    rw [nothing] at mem
    cases mem
  · have unread : next.phase.unread = rest.streamEvents := by
      rw [after]
      rfl
    rw [unread]
    cases reading_step eff after with
    | starts idle => cases idle.symm.trans inside
    | turns _ within _ read streams =>
      cases within.symm.trans inside
      cases read with
      | event _ event _ _ _ first _ delivered =>
        obtain ⟨how, mem⟩ := left
        rw [first] at mem
        rcases mem_cons.mp mem with now | later
        · cases now
          obtain ⟨last, hp, unclosed⟩ := undone.of_streams streams
          rw [inside] at sched
          have start : coord.Scheduled none out.streamEvents := sched
          rw [first] at start
          rw [(start.event delivered).2 last hp] at unclosed
          cases unclosed
        · exact ⟨how, later⟩
      | _ => exact left
    | stays within =>
      cases within.symm.trans inside
      exact left

theorem Marked.ended_step (marked : Marked coord replies) (few : coord.channels.length < 2 ^ 31)
    (eff : StepEffect coord call next rep) (hr : next.phase.running = true)
    (after : next.Scheduled next.phase.busy next.phase.unread) :
    ∀ sid, Undone next sid → ResetSince sid (replies ++ [rep]) → Ending next.phase.unread sid := by
  intro sid undone reset
  obtain ⟨allocated, now⟩ := resetSince_append reset
  have uploads := step_uploads eff
  have pre : Undone coord sid := by
    rcases uploads.undone marked.scheduled few hr undone with old | ⟨new, -⟩
    · exact old
    · have kn := marked.known sid allocated
      rw [new, (marked.scheduled.fresh few).1] at kn
      exact absurd kn (Nat.lt_irrefl _)
  rcases now with earlier | ⟨packet, mem, resets⟩
  · exact ending_step marked.scheduled eff hr undone (marked.ended sid pre earlier)
  · cases uploads with
    | kept _ _ _ fs =>
      cases fs packet mem with
      | reset other own quits =>
        obtain ⟨rfl, -⟩ := WriterPacket.resets_of_header own.1 resets
        obtain ⟨s, hp, unclosed⟩ := undone
        exact absurd ((after.entry other s hp).awaiting unclosed).clear (quits s hp)
      | answer out inside source =>
        have ctl := marked.control out inside
        rcases source with pong | frame
        · exact absurd (WriterPacket.resets_of_header (ctl.pongs _ pong) resets).2 (by decide)
        · have header : frameHeader packet.bytes = some (sid, flagReset) := by
            obtain ⟨other, fnd | window⟩ := ctl.frames _ frame
            · obtain ⟨rfl, -⟩ := WriterPacket.resets_of_header fnd resets
              exact fnd
            · exact absurd (WriterPacket.resets_of_header window resets).2 (by decide)
          refine ending_step marked.scheduled eff hr undone ?_
          rw [inside]
          exact marked.emitted out inside sid pre ⟨packet.bytes, frame, header⟩
      | window _ header | ping header => exact absurd (WriterPacket.resets_of_header header resets).2 (by decide)
    | sent _ _ _ other _ _ s hp _ _ polled leases _ _ _ _ _ handed =>
      rw [handed, mem_singleton] at mem
      have en := marked.scheduled.entry other s hp
      rw [mem] at resets
      exact absurd resets (WriterPacket.not_resets_of_uploads (polled_packet leases en polled).1)
    | failed _ _ handed | opens _ _ _ _ _ _ handed =>
      rw [handed] at mem
      cases mem

theorem StepUploads.counted (sched : coord.Scheduled busy unread)
    (few : coord.channels.length < 2 ^ 31) (hr : next.phase.running = true)
    (uploads : StepUploads coord next rep) : next.channels.length = coord.channels.length + rep.opened.length ∧
      ∀ sid ∈ rep.opened, sid.toNat < 2 * next.channels.length + 1 := by
  cases uploads with
  | kept _ opened length | sent _ _ _ _ _ _ _ _ _ _ _ _ _ _ _ _ length _ opened =>
    rw [opened, length]
    exact ⟨rfl, by simp⟩
  | failed _ stopped =>
    rw [stopped] at hr
    cases hr
  | opens method target headers len _ after answer =>
    obtain ⟨number, missing⟩ := sched.fresh few
    rw [openStreamOnCarrier_eq method target headers len missing] at after
    subst after answer
    refine ⟨by simp [setPhase], ?_⟩
    intro sid mem
    rw [mem_singleton.mp mem, number]
    simp [setPhase]

theorem StepUploads.not_opens (uploads : StepUploads coord next rep)
    (ctl : ∀ out, coord.phase = .reading out → out.Control) (stopped : next.phase.running = false) :
    rep.handed.filterMap WriterPacket.opens = [] := by
  cases uploads with
  | kept _ _ _ fs =>
    rw [filterMap_eq_nil_iff]
    intro packet mem
    exact not_opens_of_not_uploads ((fs packet mem).not_upload ctl)
  | sent inside stays _ _ _ _ _ _ _ _ _ _ _ tk =>
    rcases inside with pumping | ⟨tk, sid, opening⟩
    · rw [stays, pumping] at stopped
      cases stopped
    · rw [stays, opening] at stopped
      cases stopped
  | failed _ _ handed | opens _ _ _ _ _ _ handed =>
    rw [handed]
    rfl

section
variable (marked : Marked coord replies) (few : coord.channels.length < 2 ^ 31)
  (eff : StepEffect coord call next rep)
include marked few eff

theorem Marked.step (hr : next.phase.running = true) : Marked next (replies ++ [rep]) := by
  have after : next.Scheduled next.phase.busy next.phase.unread := Sound.step (fun _ => marked.scheduled) few eff hr
  have uploads := step_uploads eff
  obtain ⟨length, bounded⟩ := uploads.counted marked.scheduled few hr
  have opens := uploads.opens_effect marked.scheduled few marked.control hr
  refine ⟨after, ?_, ?_, marked.control_step eff, marked.emitted_step eff, marked.ended_step few eff hr after, ?_, ?_⟩
  · rw [length, marked.count, allocatedIn_append, length_append]
  · intro sid mem
    rw [allocatedIn_append] at mem
    rcases mem_append.mp mem with old | new
    · have kn := marked.known sid old
      omega
    · exact bounded sid new
  · rw [opensIn_append]
    generalize rep.handed.filterMap WriterPacket.opens = first at opens
    cases opens with
    | quiet kept =>
      intro sid mem
      rw [append_nil] at mem
      obtain ⟨small, pre⟩ := marked.below sid mem
      refine ⟨by omega, ?_⟩
      intro other fresh
      rcases kept other fresh with old | rfl
      · exact pre other old
      · rw [(marked.scheduled.fresh few).1]
        exact small
    | first _ _ _ least =>
      intro other mem
      rcases mem_append.mp mem with old | new
      · obtain ⟨_, pre⟩ := marked.below other old
        exact ⟨by omega, fun later unopened => pre later (least later unopened).1⟩
      · rw [mem_singleton.mp new]
        exact ⟨by omega, fun later unopened => (least later unopened).2⟩
  · rw [opensIn_append]
    generalize rep.handed.filterMap WriterPacket.opens = first at opens
    intro sid s hp opened
    cases opens with
    | quiet _ started =>
      obtain ⟨pre, fnd, already⟩ := started sid s hp opened
      exact mem_append_left _ (marked.started sid pre fnd already)
    | first _ _ _ _ started =>
      rcases started sid s hp opened with rfl | ⟨pre, fnd, already⟩
      · exact mem_append_right _ mem_cons_self
      · exact mem_append_left _ (marked.started sid pre fnd already)

/-- The streams are opened in the order of their ids. -/
theorem Marked.increasing (increasing : (opensIn replies).Pairwise fun first snd => first.toNat < snd.toNat) :
    (opensIn (replies ++ [rep])).Pairwise fun first snd => first.toNat < snd.toNat := by
  have uploads := step_uploads eff
  have first : rep.handed.filterMap WriterPacket.opens = [] ∨ ∃ sid,
      rep.handed.filterMap WriterPacket.opens = [sid] ∧ coord.unopened sid = true := by
    cases hr : next.phase.running with
    | true =>
      have opens := uploads.opens_effect marked.scheduled few marked.control hr
      generalize rep.handed.filterMap WriterPacket.opens = first at opens
      cases opens with
      | quiet => exact Or.inl rfl
      | first sid fresh => exact Or.inr ⟨sid, rfl, fresh⟩
    | false => exact Or.inl (uploads.not_opens marked.control hr)
  rw [opensIn_append]
  rcases first with nothing | ⟨sid, only, fresh⟩
  · rw [nothing, append_nil]
    exact increasing
  · rw [only, pairwise_append]
    refine ⟨increasing, pairwise_singleton _ _, ?_⟩
    intro earlier mem last own
    rw [mem_singleton.mp own]
    exact (marked.below earlier mem).2 sid fresh

end

/-- A coordinator that was torn down hands over nothing more. -/
theorem stopped_step (eff : StepEffect coord call next rep) (stopped : coord.phase.running = false) :
    rep.handed = [] ∧ next.phase.running = false := by
  have absurd_phase {phase : CoordinatorPhase} (inside : coord.phase = phase) (hr : phase.running = true) :
      rep.handed = [] ∧ next.phase.running = false := by
    rw [inside, hr] at stopped
    cases stopped
  cases eff with
  | moves _ _ moves =>
    cases moves with
    | receives _ inside | received inside | replied _ _ inside | collected _ inside | flushed inside
    | pumped inside => exact absurd_phase inside rfl
    | _ => exact ⟨rfl, rfl⟩
  | read _ _ _ inside | opens _ _ _ _ inside | consumes _ _ _ inside | cancels _ _ inside | drained inside
  | ticks _ _ inside | readDone _ inside | readTurn _ _ _ inside | receiveTurn _ _ _ _ inside
  | unreplied _ _ _ inside | openFailed _ _ _ _ inside | flushTurn _ _ _ _ inside => exact absurd_phase inside rfl
  | pumpTurn _ inside =>
    rcases inside with pumping | ⟨tk, sid, opening, -⟩
    · exact absurd_phase pumping rfl
    · exact absurd_phase opening rfl
  | writes _ _ eff =>
    cases eff with
    | _ => exact ⟨rfl, stopped⟩
  | acts => exact ⟨rfl, stopped⟩
  | _ => exact ⟨rfl, rfl⟩

theorem marked_empty : Marked {} [] where
  scheduled := ⟨rfl, by simp [Finmap.lookup_empty], by simp, List.Pairwise.nil⟩
  count := rfl
  known := by simp [allocatedIn]
  control := by simp
  emitted := by simp
  ended := by
    rintro _ ⟨_, hp, -⟩
    cases hp
  below := by simp [opensIn]
  started := by
    intro sid s hp
    cases hp

end

theorem run_marked {keepalive : KeepaliveConfig} {calls : List CoordinatorCall}
    {last : Coordinator} {replies : List CoordinatorReply}
    (ran : (coordinatorMachine keepalive).run {} calls = some (last, replies))
    (few : (allocatedIn replies).length < 2 ^ 31) :
    ((opensIn replies).Pairwise fun first snd => first.toNat < snd.toNat) ∧
      (last.phase.running = true → Marked last replies) := by
  refine Machine.run_history (coordinatorMachine keepalive) (motive := fun s _ replies =>
    (allocatedIn replies).length < 2 ^ 31 → ((opensIn replies).Pairwise fun first snd => first.toNat < snd.toNat) ∧
        (s.phase.running = true → Marked s replies)) ?_ ?_ ran few
  · intro _
    exact ⟨List.Pairwise.nil, fun _ => marked_empty⟩
  · intro s _ replies call next rep keeps hs bound
    have eff := step_effect hs
    rw [allocatedIn_append, length_append] at bound
    obtain ⟨increasing, marked⟩ := keeps (by omega)
    cases hr : s.phase.running with
    | true =>
      have pre := marked hr
      have few : s.channels.length < 2 ^ 31 := by
        rw [pre.count]
        omega
      exact ⟨pre.increasing few eff increasing, pre.step few eff⟩
    | false =>
      obtain ⟨none_handed, still⟩ := stopped_step eff hr
      refine ⟨?_, ?_⟩
      · rw [opensIn_append, none_handed]
        simpa using increasing
      · intro after
        rw [still] at after
        cases after

/-- A frame of an upload is handed over by a running coordinator, for a stream that is not
done. -/
theorem uploads_step {coord next : Coordinator} {call : CoordinatorCall}
    {rep : CoordinatorReply} {replies : List CoordinatorReply} {packet : WriterPacket} {sid : UInt32}
    (marked : coord.phase.running = true → Marked coord replies)
    (eff : StepEffect coord call next rep) (mem : packet ∈ rep.handed) (up : packet.uploads = some sid) :
    (packet.opens = some sid ∨ sid ∈ opensIn replies) ∧ ¬ ResetSince sid replies := by
  cases hr : coord.phase.running with
  | false =>
    rw [(stopped_step eff hr).1] at mem
    cases mem
  | true =>
    have pre := marked hr
    cases step_uploads eff with
    | kept _ _ _ fs =>
      rw [(fs packet mem).not_upload pre.control] at up
      cases up
    | sent inside _ _ other _ _ s hp _ _ polled leases _ tk _ _ _ handed opened =>
      rw [handed, mem_singleton] at mem
      have en := pre.scheduled.entry other s hp
      obtain ⟨own, opens, -, undone⟩ := polled_packet leases en polled
      rw [← mem] at own opens
      obtain rfl := some.inj (own.symm.trans up)
      have unread : coord.phase.unread = [] := by
        rcases inside with pumping | ⟨tk, sid, opening⟩
        · rw [pumping]
          rfl
        · rw [opening]
          rfl
      refine ⟨?_, ?_⟩
      · cases isOpen : s.upload.opened with
        | true => exact Or.inr (pre.started other s hp isOpen)
        | false => exact Or.inl (by rw [opens, isOpen]; rfl)
      · intro reset
        obtain ⟨_, left⟩ := pre.ended other ⟨s, hp, undone⟩ reset
        rw [unread] at left
        cases left
    | failed _ _ handed | opens _ _ _ _ _ _ handed =>
      rw [handed] at mem
      cases mem

end Coordinator

open Coordinator

/-- Upload scheduling over every run with fewer than 2^31 opens. At `select!` the ready queue holds a
live stream at most once, as its flag says, and every stream that could send a frame. Streams are
opened on the wire in the order of their ids, and no upload frame follows a RESET handed over for its
stream. -/
theorem upload_schedule (keepalive : KeepaliveConfig) {calls : List CoordinatorCall}
    {last : Coordinator} {replies : List CoordinatorReply}
    (ran : (coordinatorMachine keepalive).run {} calls = some (last, replies))
    (few : (allocatedIn replies).length < 2 ^ 31) :
    (last.phase = .select → ∀ streamId state, last.streams.lookup streamId = some state →
      last.ready.count streamId = (if state.readyQueued then 1 else 0) ∧
        (state.upload.Pollable → streamId ∈ last.ready)) ∧
      ((opensIn replies).Pairwise fun first second => first.toNat < second.toNat) ∧
      ∀ early reply late, replies = early ++ reply :: late → ∀ packet ∈ reply.handed,
        ∀ streamId, packet.uploads = some streamId → (packet.opens = some streamId ∨ streamId ∈ opensIn early) ∧
            ¬ ResetSince streamId early := by
  obtain ⟨increasing, marked⟩ := run_marked ran few
  refine ⟨?_, increasing, ?_⟩
  · intro idle streamId state present
    have scheduled := (marked (by rw [idle]; rfl)).scheduled
    rw [idle] at scheduled
    have entry := scheduled.entry streamId state present
    refine ⟨entry.queued, ?_⟩
    intro pollable
    rcases entry.polled pollable with queued | busy
    · rw [← count_pos_iff, entry.queued, queued]
      exact Nat.one_pos
    · cases busy
  · intro early reply late split packet mem streamId upload
    rw [split] at ran few
    obtain ⟨_, _, _, _, _, -, first, stepped, -⟩ := Machine.run_split _ ran
    have fewer : (allocatedIn early).length < 2 ^ 31 := by
      rw [allocatedIn, flatMap_append, length_append] at few
      exact Nat.lt_of_le_of_lt (Nat.le_add_right _ _) few
    exact uploads_step (run_marked first fewer).2 (step_effect stepped) mem upload

/-- The peer sends DATA on a stream that is not open yet, and then it is opened. -/
def strayThenOpened : List CoordinatorCall :=
  [.read (Frame.wire ⟨1, flagData, [0]⟩), .turn, .turn, .collect [], .turn, .turn,
    .openStream [] [] [] 0, .turn, .turn, .turn, .collect [], .turn, .turn,
    .openStream [] [] [] 0, .turn]

/-- The demultiplexer answers DATA on an unknown id with a RESET, and the stream that is
opened under the id afterwards sends its upload. -/
theorem upload_after_stray_reset : ((coordinatorMachine ⟨0, 0⟩).run {} strayThenOpened).map (fun ran =>
      (ran.2.flatMap CoordinatorReply.handed).map fun packet =>
        (packet.resets, packet.uploads)) =
      some [(some 1, none), (none, some 1), (none, some 1), (none, some 3)] := by
  decide +kernel

theorem upload_schedule_two_streams : ∃ last replies,
      (coordinatorMachine ⟨0, 0⟩).run {} strayThenOpened = some (last, replies) ∧
      opensIn replies = [1, 3] ∧
      (opensIn replies).Pairwise fun first second => first.toNat < second.toNat := by
  refine Machine.exists_run (fun ran => (opensIn ran.2, (allocatedIn ran.2).length))
    ([1, 3], 2) (by decide +kernel) fun last replies ran values => ?_
  obtain ⟨opened, allocated⟩ := Prod.mk.inj values
  refine ⟨opened, ?_⟩
  exact (upload_schedule ⟨0, 0⟩ ran (by rw [allocated]; decide)).2.1

end SplRust.Transport
