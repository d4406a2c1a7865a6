import SplRust.Core.UploadProgress
import SplRust.Transport.CoordinatorLoop

/-! What each function of the coordinator can do, said once: one inductive description per
function, over the few updates they are made of. -/

namespace SplRust.Transport
open SplRust.Lib SplRust.Core List Option

/-- Permits return to the budgets of their tickets. -/
def returnPermits (channels : List StreamChannels) (leases : List BodyLease) :
    List StreamChannels :=
  leases.foldl (fun channels lease => channels.modify lease.ticket fun entry =>
    { entry with permits := entry.permits + lease.permits }) channels

/-- The channels after the drop of a `StreamState`. -/
def detach (channels : List StreamChannels) (state : StreamState) : List StreamChannels :=
  returnPermits (channels.modify state.ticket fun entry =>
      { entry with attached := false, body := [] })
    ((channels[state.ticket]?.elim [] StreamChannels.body).map BodyChunk.lease ++ state.stagedLeases)

theorem map_modify_same {α β : Type} (view : α → β) (update : α → α) (ens : List α)
    (ix : Nat) (same : ∀ en, view (update en) = view en) :
    (ens.modify ix update).map view = ens.map view := by
  apply ext_getElem?
  intro oid
  rw [getElem?_map, getElem?_map, getElem?_modify]
  cases ens[oid]? with
  | none => rfl
  | some en =>
    split
    · exact congrArg some (same en)
    · rfl

/-- Returning permits shows in nothing but the permits. -/
theorem returnPermits_map {β : Type} (view : StreamChannels → β)
    (same : ∀ en permits, view { en with permits := permits } = view en)
    (chs : List StreamChannels) (leases : List BodyLease) :
    (returnPermits chs leases).map view = chs.map view := by
  unfold returnPermits
  induction leases generalizing chs with
  | nil => rfl
  | cons lease leases ih =>
    rw [foldl_cons, ih]
    exact map_modify_same _ _ _ _ fun en => same en _

theorem detach_map {β : Type} (view : StreamChannels → β)
    (same : ∀ en permits, view { en with permits := permits } = view en)
    (closed : ∀ en, view { en with attached := false, body := [] } = view en)
    (chs : List StreamChannels) (s : StreamState) :
    (detach chs s).map view = chs.map view := by
  unfold detach
  rw [returnPermits_map view same]
  exact map_modify_same _ _ _ _ closed

namespace Coordinator

section
variable (coord : Coordinator)
include coord

theorem dropLeases_eq (leases : List BodyLease) : coord.dropLeases leases =
      { coord with channels := returnPermits coord.channels leases } := by
  unfold dropLeases returnPermits
  induction leases generalizing coord with
  | nil => rfl
  | cons lease leases ih =>
    rw [foldl_cons, ih]
    rfl

theorem dropState_eq (s : StreamState) : coord.dropState s = { coord with channels := detach coord.channels s } := by
  rw [dropState, dropLeases_eq]
  rfl

theorem removeState_eq (sid : UInt32) (s : StreamState) : coord.removeState sid s = { coord with
        streams := coord.streams.erase sid
        channels := detach coord.channels s } := by
  rw [removeState, dropState_eq]

def pushPacket (coord : Coordinator) (packet : WriterPacket) : Coordinator :=
  { coord with writer := { coord.writer with
    queue := coord.writer.queue ++ [packet]
    inflight := coord.writer.inflight + 1 } }

/-- An event is put on a queue of deliveries. -/
def pushDelivery (coord : Coordinator) (ticket : Nat) (event : DeliveryEvent) :
    Coordinator :=
  coord.updateChannels ticket fun channels =>
    { channels with delivery := channels.delivery ++ [event] }

/-- A stream is forgotten by the table and by the demultiplexer. -/
def forget (coord : Coordinator) (sid : UInt32) (state : StreamState) : Coordinator :=
  { coord.removeState sid state with demux := coord.demux.removeStream sid }

inductive SendEffect (coord : Coordinator) (frame : Bytes) (leases : List BodyLease) : Outcome → Prop where
  | sent (room : coord.writer.inflight < writerQueue) :
      SendEffect coord frame leases (coord.pushPacket ⟨frame, leases⟩, .ok ())
  | failed (reason : String) : SendEffect coord frame leases
        (coord.dropLeases leases, .error (writerError reason))

theorem sendWriter_effect (fr : Bytes) (leases : List BodyLease) :
    SendEffect coord fr leases (coord.sendWriter fr leases) := by
  simp only [sendWriter]
  split
  · exact .failed _
  next room =>
    split
    · exact .failed _
    · split
      · exact .failed _
      · exact .sent (by simpa [CoordinatorWriter.hasRoom] using room)

/-- Sending a frame that has no leases. -/
inductive FrameEffect (coord : Coordinator) (frame : Bytes) : Outcome → Prop where
  | sent (room : coord.writer.inflight < writerQueue) :
      FrameEffect coord frame (coord.pushPacket ⟨frame, []⟩, .ok ())
  | failed (reason : String) : FrameEffect coord frame (coord, .error (writerError reason))

theorem sendWriter_frame (fr : Bytes) : FrameEffect coord fr (coord.sendWriter fr []) := by
  have eff := sendWriter_effect coord fr []
  generalize coord.sendWriter fr [] = outcome at eff
  cases eff with
  | sent room => exact .sent room
  | failed rsn => exact .failed rsn

theorem sendFrame_effect {fr : Frame} (fits : fr.Encodable) :
    FrameEffect coord fr.wire (coord.sendFrame fr) := by
  rw [sendFrame, Frame.encode_eq_ok fits]
  exact coord.sendWriter_frame fr.wire

inductive ResetEffect (coord : Coordinator) (sid : UInt32) : Outcome → Prop where
  | absent (missing : coord.streams.lookup sid = none) :
      ResetEffect coord sid (coord, .ok ())
  | reset (s : StreamState) (hp : coord.streams.lookup sid = some s)
      (res : Outcome) (sent : FrameEffect (coord.forget sid s) (Frame.reset sid resetCancel).wire res) :
      ResetEffect coord sid res

theorem resetActiveStream_effect (sid : UInt32) : ResetEffect coord sid (coord.resetActiveStream sid) := by
  unfold resetActiveStream
  split
  next missing => exact .absent missing
  next s hp => exact .reset s hp _ (sendFrame_effect _ (Frame.reset_encodable sid resetCancel))

def Receives (coord : Coordinator) (ticket : Nat) : Prop :=
  ∃ channels, coord.channels[ticket]? = some channels ∧ channels.receiving = true

/-- The queue of deliveries is full. -/
def Full (coord : Coordinator) (ticket : Nat) : Prop :=
  ∃ channels, coord.channels[ticket]? = some channels ∧ streamQueue ≤ channels.delivery.length

inductive TryEffect (coord : Coordinator) (ticket : Nat) (event : DeliveryEvent) :
    Coordinator × SendResult → Prop where
  | sent (receives : coord.Receives ticket) (room : ¬ coord.Full ticket) :
      TryEffect coord ticket event (coord.pushDelivery ticket event, .sent)
  | full (receives : coord.Receives ticket) (full : coord.Full ticket) :
      TryEffect coord ticket event (coord, .full)
  | closed (gone : ¬ coord.Receives ticket) : TryEffect coord ticket event (coord, .closed)

theorem trySend_effect (tk : Nat) (ev : DeliveryEvent) :
    TryEffect coord tk ev (coord.trySend tk ev) := by
  fun_cases trySend coord tk ev with
  | case1 missing =>
    refine .closed ?_
    rintro ⟨_, hp, -⟩
    rw [missing] at hp
    cases hp
  | case2 chs hp gone =>
    refine .closed ?_
    rintro ⟨_, fnd, receives⟩
    obtain rfl := some.inj (hp.symm.trans fnd)
    rw [gone] at receives
    cases receives
  | case3 chs hp receives full => exact .full ⟨chs, hp, by simpa using receives⟩ ⟨chs, hp, full⟩
  | case4 chs hp receives room =>
    refine .sent ⟨chs, hp, by simpa using receives⟩ ?_
    rintro ⟨_, fnd, full⟩
    obtain rfl := some.inj (hp.symm.trans fnd)
    exact room full

end

/-- What delivering one event to a stream can do. -/
inductive DeliverEffect (coord : Coordinator) (sid : UInt32) (event : StreamEvent) : Outcome → Prop where
  | absent (missing : coord.streams.lookup sid = none) :
      DeliverEffect coord sid event (coord, .ok ())
  | early (s : StreamState) (hp : coord.streams.lookup sid = some s)
      (head : HttpHead) (first : event.item = .head head) (undone : s.upload.isDone = false)
      (told : Coordinator) (tried : told = coord ∧ ¬ coord.Receives s.ticket ∨ told = coord ∧ coord.Full s.ticket ∨
        told = coord.pushDelivery s.ticket (.earlyFinal head) ∧ coord.Receives s.ticket)
      (res : Outcome) (reset : ResetEffect told sid res) :
      DeliverEffect coord sid event res
  | pended (s : StreamState) (hp : coord.streams.lookup sid = some s)
      (late : earlyHead s event = none)
      (waits : s.pendingDelivery ≠ [] ∨ coord.Full s.ticket) :
      DeliverEffect coord sid event (coord.pend sid s (.stream event), .ok ())
  | sent (s : StreamState) (hp : coord.streams.lookup sid = some s)
      (late : earlyHead s event = none) (clear : s.pendingDelivery = [])
      (receives : coord.Receives s.ticket)
      (going : (DeliveryEvent.stream event).ends = false) :
      DeliverEffect coord sid event (coord.pushDelivery s.ticket (.stream event), .ok ())
  | ended (s : StreamState) (hp : coord.streams.lookup sid = some s)
      (clear : s.pendingDelivery = []) (receives : coord.Receives s.ticket)
      (ends : (DeliveryEvent.stream event).ends = true) :
      DeliverEffect coord sid event
        ((coord.pushDelivery s.ticket (.stream event)).removeState sid s, .ok ())
  | closed (s : StreamState) (hp : coord.streams.lookup sid = some s)
      (late : earlyHead s event = none) (clear : s.pendingDelivery = [])
      (gone : ¬ coord.Receives s.ticket)
      (res : Outcome) (reset : ResetEffect coord sid res) :
      DeliverEffect coord sid event res

theorem earlyHead_some {s : StreamState} {ev : StreamEvent} {head : HttpHead}
    (early : earlyHead s ev = some head) : ev.item = .head head ∧ s.upload.isDone = false := by
  unfold earlyHead at early
  split at early
  next oid item =>
    split at early
    · cases early
    next undone =>
      cases early
      exact ⟨item, by simpa using undone⟩
  · cases early

theorem deliverStreamItem_effect (coord : Coordinator) (sid : UInt32) (ev : StreamEvent) :
    DeliverEffect coord sid ev (coord.deliverStreamItem sid ev) := by
  unfold deliverStreamItem
  split
  next missing => exact .absent missing
  next s hp =>
    split
    next head early =>
      obtain ⟨fst, undone⟩ := earlyHead_some early
      refine .early s hp head fst undone _ ?_ _ (resetActiveStream_effect _ sid)
      have tried := trySend_effect coord s.ticket (.earlyFinal head)
      generalize coord.trySend s.ticket (.earlyFinal head) = res at tried
      cases tried with
      | sent receives => exact Or.inr (Or.inr ⟨rfl, receives⟩)
      | full _ full => exact Or.inr (Or.inl ⟨rfl, full⟩)
      | closed gone => exact Or.inl ⟨rfl, gone⟩
    next late =>
      split
      next waits => exact .pended s hp late (Or.inl waits)
      next clear =>
        have empty : s.pendingDelivery = [] := not_not.mp clear
        have tried := trySend_effect coord s.ticket (.stream ev)
        simp only
        generalize coord.trySend s.ticket (.stream ev) = res at tried
        cases tried with
        | sent receives =>
          simp only
          split
          next ends => exact .ended s hp empty receives ends
          next going => exact .sent s hp late empty receives (by simpa using going)
        | full _ full => exact .pended s hp late (Or.inr full)
        | closed gone => exact .closed s hp late empty gone _ (resetActiveStream_effect _ _)

inductive EnqueueEffect (coord : Coordinator) (sid : UInt32) : Coordinator → Prop where
  | kept (idle : ∀ s, coord.streams.lookup sid = some s → s.readyQueued = true) : EnqueueEffect coord sid coord
  | queued (s : StreamState) (hp : coord.streams.lookup sid = some s)
      (idle : s.readyQueued = false) : EnqueueEffect coord sid
        { coord.setStream sid { s with readyQueued := true } with
          ready := coord.ready ++ [sid] }

theorem enqueueReady_effect (coord : Coordinator) (sid : UInt32) :
    EnqueueEffect coord sid (coord.enqueueReady sid) := by
  unfold enqueueReady
  split
  next missing =>
    refine .kept ?_
    intro s hp
    rw [missing] at hp
    cases hp
  next s hp =>
    split
    next queued =>
      refine .kept ?_
      intro oid fnd
      obtain rfl := some.inj (hp.symm.trans fnd)
      exact queued
    next idle => exact .queued s hp (by simpa using idle)

inductive GrantEffect (coord : Coordinator) (sid credit : UInt32) : Outcome → Prop where
  | absent (missing : coord.streams.lookup sid = none) :
      GrantEffect coord sid credit (coord, .ok ())
  | granted (s : StreamState) (hp : coord.streams.lookup sid = some s)
      (up : WindowedUpload) (fits : s.upload.grant credit = .ok up)
      (next : Coordinator) (queued : EnqueueEffect (coord.setStream sid { s with upload := up }) sid next) :
      GrantEffect coord sid credit (next, .ok ())
  | unsent (s : StreamState) (hp : coord.streams.lookup sid = some s)
      (reason : String) : GrantEffect coord sid credit (coord, .error (writerError reason))
  | refused (s : StreamState) (hp : coord.streams.lookup sid = some s)
      (room : coord.writer.inflight < writerQueue) (res : Outcome)
      (delivered : DeliverEffect { coord.pushPacket ⟨(Frame.reset sid resetFlowControlError).wire, []⟩ with
          demux := coord.demux.removeStream sid } sid
        (.ending (.reset .flowControlError)) res) :
      GrantEffect coord sid credit res

theorem grantWindow_effect (coord : Coordinator) (sid cr : UInt32) :
    GrantEffect coord sid cr (coord.grantWindow sid cr) := by
  unfold grantWindow
  split
  next missing => exact .absent missing
  next s hp =>
    split
    next upload fits => exact .granted s hp upload fits _ (enqueueReady_effect _ _)
    · have eff := coord.sendFrame_effect (Frame.reset_encodable sid resetFlowControlError)
      simp only
      generalize coord.sendFrame (.reset sid resetFlowControlError) = reset at eff
      cases eff with
      | sent room => exact .refused s hp room _ (deliverStreamItem_effect _ _ _)
      | failed rsn => exact .unsent s hp rsn

/-- One turn of `handle_read`: what is handled and what is left. -/
inductive ReadEffect (coord : Coordinator) (out : DemuxOutput) : DemuxOutput → Outcome → Prop where
  | pong (bytes : Bytes) (pongs : List Bytes) (first : out.pongs = bytes :: pongs)
      (res : Outcome) (sent : FrameEffect coord bytes res) :
      ReadEffect coord out { out with pongs := pongs } res
  | frame (bytes : Bytes) (frames : List Bytes) (first : out.emitFrames = bytes :: frames)
      (res : Outcome) (sent : FrameEffect coord bytes res) :
      ReadEffect coord out { out with emitFrames := frames } res
  | nonce (nonce : Bytes) (nonces : List Bytes) (first : out.inboundPongs = nonce :: nonces) :
      ReadEffect coord out { out with inboundPongs := nonces }
        (coord.receivePong nonce, .ok ())
  | grant (sid credit : UInt32) (grants : List (UInt32 × UInt32))
      (framed : out.emitFrames = []) (first : out.windowGrants = (sid, credit) :: grants)
      (res : Outcome) (granted : GrantEffect coord sid credit res) :
      ReadEffect coord out { out with windowGrants := grants } res
  | event (sid : UInt32) (event : StreamEvent) (events : List (UInt32 × StreamEvent))
      (framed : out.emitFrames = []) (granted : out.windowGrants = [])
      (first : out.streamEvents = (sid, event) :: events)
      (res : Outcome) (delivered : DeliverEffect coord sid event res) :
      ReadEffect coord out { out with streamEvents := events } res

theorem readTurn_effect {coord : Coordinator} {out : DemuxOutput}
    {turned : DemuxOutput × Outcome} (read : coord.readTurn out = some turned) :
    ReadEffect coord out turned.1 turned.2 := by
  unfold readTurn at read
  split at read
  next bs pongs fst =>
    cases read
    exact .pong bs pongs fst _ (sendWriter_frame _ _)
  next bs fs none_left fst =>
    cases read
    exact .frame bs fs fst _ (sendWriter_frame _ _)
  next nonce nonces none_left framed fst =>
    cases read
    exact .nonce nonce nonces fst
  next grant grants none_left framed nonces fst =>
    cases read
    exact .grant grant.1 grant.2 grants framed fst _ (grantWindow_effect _ _ _)
  next ev es none_left framed nonces granted fst =>
    cases read
    exact .event ev.1 ev.2 es framed granted fst _ (deliverStreamItem_effect _ _ _)
  · cases read

theorem readTurn_none {coord : Coordinator} {out : DemuxOutput} (done : coord.readTurn out = none) :
    out.pongs = [] ∧ out.emitFrames = [] ∧ out.windowGrants = [] ∧ out.streamEvents = [] := by
  unfold readTurn at done
  split at done
  · cases done
  · cases done
  · cases done
  · cases done
  · cases done
  next pongs framed nonces granted es => exact ⟨pongs, framed, granted, es⟩

inductive ReceiveEffect (coord : Coordinator) (sid : UInt32) : Bool → Outcome → Prop where
  | absent (missing : coord.streams.lookup sid = none) :
      ReceiveEffect coord sid true (coord, .ok ())
  | short (s : StreamState) (hp : coord.streams.lookup sid = some s)
      (missing : s.receivedBodyLen < s.declaredBodyLen)
      (res : Outcome) (reset : ResetEffect coord sid res) :
      ReceiveEffect coord sid true res
  | finished (next : Coordinator) (queued : EnqueueEffect coord sid next) :
      ReceiveEffect coord sid true (next, .ok ())
  | fed (s : StreamState) (hp : coord.streams.lookup sid = some s)
      (channels : StreamChannels) (there : coord.channels[s.ticket]? = some channels)
      (chunk : BodyChunk) (rest : List BodyChunk) (first : channels.body = chunk :: rest)
      (up : WindowedUpload) (fits : s.upload.feedBody chunk.bytes = .ok up) :
      ReceiveEffect coord sid false ((coord.updateChannels s.ticket fun channels =>
          { channels with body := rest }).setStream sid { s with
            upload := up
            receivedBodyLen := s.receivedBodyLen + chunk.bytes.length
            stagedLeases := s.stagedLeases ++ [chunk.lease] }, .ok ())
  | rejected (s : StreamState) (hp : coord.streams.lookup sid = some s)
      (channels : StreamChannels) (there : coord.channels[s.ticket]? = some channels)
      (chunk : BodyChunk) (rest : List BodyChunk) (first : channels.body = chunk :: rest)
      (err : UploadBodyError) (refused : s.upload.feedBody chunk.bytes = .error err) :
      ReceiveEffect coord sid true ((coord.updateChannels s.ticket fun channels =>
          { channels with body := rest }).dropLease chunk.lease,
          .error (.io .invalidInput err.reason))

theorem finishReceive_effect {coord : Coordinator} {sid : UInt32} {s : StreamState}
    {shortBody : Bool} (hp : coord.streams.lookup sid = some s)
    (missing : shortBody = true → s.receivedBodyLen < s.declaredBodyLen) :
    ReceiveEffect coord sid true (coord.finishReceive sid shortBody) := by
  unfold finishReceive
  split
  next isShort => exact .short s hp (missing isShort) _ (resetActiveStream_effect _ _)
  · exact .finished _ (enqueueReady_effect _ _)

section
variable (coord : Coordinator) (sid : UInt32)
include coord sid

theorem receiveTurn_effect : ReceiveEffect coord sid (coord.receiveTurn sid).1 (coord.receiveTurn sid).2 := by
  unfold receiveTurn
  split
  next missing => exact .absent missing
  next s hp =>
    split
    · exact finishReceive_effect hp of_decide_eq_true
    next chs there =>
      split
      · refine finishReceive_effect hp ?_
        intro isShort
        exact of_decide_eq_true (Bool.and_eq_true_iff.mp isShort).2
      next chunk rest fst =>
        split
        next err refused => exact .rejected s hp chs there chunk rest fst err refused
        next upload fits => exact .fed s hp chs there chunk rest fst upload fits

/-- One turn of `pump_ready`. -/
inductive PumpEffect (coord : Coordinator) : Outcome → Prop where
  | stale (sid : UInt32) (ready : List UInt32) (first : coord.ready = sid :: ready)
      (missing : coord.streams.lookup sid = none) :
      PumpEffect coord ({ coord with ready := ready }, .ok ())
  | idle (sid : UInt32) (ready : List UInt32) (first : coord.ready = sid :: ready)
      (s : StreamState) (hp : coord.streams.lookup sid = some s)
      (stalled : ¬ s.upload.Pollable) :
      PumpEffect coord ({ coord with ready := ready }.setStream sid { s with readyQueued := false }, .ok ())
  | sent (sid : UInt32) (ready : List UInt32) (first : coord.ready = sid :: ready)
      (s : StreamState) (hp : coord.streams.lookup sid = some s)
      (room : coord.writer.hasUploadRoom = true)
      (up : WindowedUpload) (frame : Bytes)
      (polled : s.upload.pollSend = (up, .ok (some frame)))
      (leases : List BodyLease × List BodyLease)
      (taken : takeBodyLeases s.stagedLeases (up.emittedBodyLen - s.upload.emittedBodyLen) = some leases)
      (next : Coordinator)
      (queued : if !up.isDone && !up.isBlocked then
          EnqueueEffect (({ coord with ready := ready }.setStream sid { s with
            readyQueued := false, upload := up, stagedLeases := leases.2 }).pushPacket
              ⟨frame, leases.1⟩) sid next
        else next = ({ coord with ready := ready }.setStream sid { s with
          readyQueued := false, upload := up, stagedLeases := leases.2 }).pushPacket
            ⟨frame, leases.1⟩) :
      PumpEffect coord (next, .ok ())
  | unsent (sid : UInt32) (ready : List UInt32) (first : coord.ready = sid :: ready)
      (s : StreamState) (hp : coord.streams.lookup sid = some s)
      (up : WindowedUpload) (frame : Bytes)
      (polled : s.upload.pollSend = (up, .ok (some frame)))
      (leases : List BodyLease × List BodyLease)
      (taken : takeBodyLeases s.stagedLeases (up.emittedBodyLen - s.upload.emittedBodyLen) = some leases)
      (reason : String) :
      PumpEffect coord (({ coord with ready := ready }.setStream sid { s with
        readyQueued := false, upload := up, stagedLeases := leases.2 }).dropLeases leases.1,
          .error (writerError reason))
  | underflow (sid : UInt32) (ready : List UInt32) (first : coord.ready = sid :: ready)
      (s : StreamState) (hp : coord.streams.lookup sid = some s)
      (up : WindowedUpload) (frame : Bytes)
      (polled : s.upload.pollSend = (up, .ok (some frame)))
      (missing : takeBodyLeases s.stagedLeases (up.emittedBodyLen - s.upload.emittedBodyLen) = none) :
      PumpEffect coord (({ coord with ready := ready }.setStream sid { s with
        readyQueued := false, upload := up, stagedLeases := [] }).dropLeases
          s.stagedLeases, .error budgetUnderflow)

theorem setStream_setStream (early late : StreamState) :
    (coord.setStream sid early).setStream sid late = coord.setStream sid late := by
  simp only [setStream]
  rw [Finmap.insert_insert]

/-- What `pump_upload_once` can do. -/
inductive PumpOnceEffect (coord : Coordinator) (sid : UInt32) (s : StreamState) :
    Coordinator × Except TransportError Bool → Prop where
  | idle (stalled : ¬ s.upload.Pollable) : PumpOnceEffect coord sid s
      (coord.setStream sid s, .ok false)
  | sent (up : WindowedUpload) (frame : Bytes) (polled : s.upload.pollSend = (up, .ok (some frame)))
      (leases : List BodyLease × List BodyLease)
      (taken : takeBodyLeases s.stagedLeases (up.emittedBodyLen - s.upload.emittedBodyLen) = some leases) :
      PumpOnceEffect coord sid s ((coord.setStream sid { s with
          upload := up, stagedLeases := leases.2 }).pushPacket ⟨frame, leases.1⟩, .ok true)
  | unsent (up : WindowedUpload) (frame : Bytes) (polled : s.upload.pollSend = (up, .ok (some frame)))
      (leases : List BodyLease × List BodyLease)
      (taken : takeBodyLeases s.stagedLeases (up.emittedBodyLen - s.upload.emittedBodyLen) = some leases)
      (reason : String) : PumpOnceEffect coord sid s ((coord.setStream sid { s with
          upload := up, stagedLeases := leases.2 }).dropLeases leases.1,
          .error (writerError reason))
  | underflow (up : WindowedUpload) (frame : Bytes) (polled : s.upload.pollSend = (up, .ok (some frame)))
      (missing : takeBodyLeases s.stagedLeases (up.emittedBodyLen - s.upload.emittedBodyLen) = none) :
      PumpOnceEffect coord sid s ((coord.setStream sid { s with
          upload := up, stagedLeases := [] }).dropLeases s.stagedLeases,
          .error budgetUnderflow)

theorem pumpUploadOnce_effect (s : StreamState) :
    PumpOnceEffect coord sid s (coord.pumpUploadOnce sid s) := by
  have polled := s.upload.pollSend_cases
  simp only [pumpUploadOnce]
  generalize polling : s.upload.pollSend = res at polled
  obtain ⟨upload, ans⟩ := res
  cases ans with
  | error => cases polled
  | ok fr =>
    cases fr with
    | none =>
      cases polled with
      | idle stalled => exact .idle (WindowedUpload.not_pollable_of_stalled stalled)
    | some fr =>
      cases taken : takeBodyLeases s.stagedLeases (upload.emittedBodyLen - s.upload.emittedBodyLen) with
      | none =>
        simp only [setStream_setStream]
        exact .underflow upload fr polling taken
      | some leases =>
        simp only
        have sent := sendWriter_effect (coord.setStream sid { s with
          upload := upload, stagedLeases := leases.2 }) fr leases.1
        generalize Coordinator.sendWriter _ fr leases.1 = trial at sent
        cases sent with
        | sent => exact .sent upload fr polling leases taken
        | failed rsn => exact .unsent upload fr polling leases taken rsn

end

theorem pumpTurn_effect {coord : Coordinator} {outcome : Outcome}
    (pumped : coord.pumpTurn = some outcome) : PumpEffect coord outcome := by
  unfold pumpTurn at pumped
  split at pumped
  next room =>
    split at pumped
    · cases pumped
    next sid ready fst =>
      simp only at pumped
      split at pumped
      next missing =>
        cases pumped
        exact .stale sid ready fst missing
      next s hp =>
        have once := pumpUploadOnce_effect { coord with ready := ready } sid { s with readyQueued := false }
        generalize Coordinator.pumpUploadOnce _ sid { s with readyQueued := false } = trial at once pumped
        cases once with
        | idle stalled =>
          simp only [Bool.false_and] at pumped
          cases pumped
          exact .idle sid ready fst s hp stalled
        | sent upload fr polled leases taken =>
          simp only [Bool.true_and] at pumped
          have same : s.upload.pollSend.1 = upload := congrArg Prod.fst polled
          rw [same] at pumped
          split at pumped
          next again =>
            cases pumped
            refine .sent sid ready fst s hp room upload fr polled leases taken _ ?_
            rw [if_pos again]
            exact enqueueReady_effect _ _
          next done =>
            cases pumped
            refine .sent sid ready fst s hp room upload fr polled leases taken _ ?_
            rw [if_neg done]
        | unsent upload fr polled leases taken rsn =>
          cases pumped
          exact .unsent sid ready fst s hp upload fr polled leases taken rsn
        | underflow upload fr polled missing =>
          cases pumped
          exact .underflow sid ready fst s hp upload fr polled missing
  · cases pumped

inductive FlushEffect (coord : Coordinator) (sid : UInt32) : Bool → Outcome → Prop where
  | calm (clear : ∀ s, coord.streams.lookup sid = some s →
      s.pendingDelivery = []) : FlushEffect coord sid true (coord, .ok ())
  | full (s : StreamState) (hp : coord.streams.lookup sid = some s)
      (full : coord.Full s.ticket) :
      FlushEffect coord sid true (coord, .ok ())
  | sent (s : StreamState) (hp : coord.streams.lookup sid = some s)
      (event : DeliveryEvent) (pending : List DeliveryEvent)
      (first : s.pendingDelivery = event :: pending)
      (receives : coord.Receives s.ticket) (going : event.ends = false) :
      FlushEffect coord sid false ((coord.pushDelivery s.ticket event).setStream sid
          { s with pendingDelivery := pending }, .ok ())
  | ended (s : StreamState) (hp : coord.streams.lookup sid = some s)
      (event : DeliveryEvent) (pending : List DeliveryEvent)
      (first : s.pendingDelivery = event :: pending)
      (receives : coord.Receives s.ticket) (ends : event.ends = true) :
      FlushEffect coord sid true ((coord.pushDelivery s.ticket event).removeState sid
          { s with pendingDelivery := pending }, .ok ())
  | closed (s : StreamState) (hp : coord.streams.lookup sid = some s)
      (waits : s.pendingDelivery ≠ []) (gone : ¬ coord.Receives s.ticket)
      (res : Outcome) (reset : ResetEffect coord sid res) :
      FlushEffect coord sid true res

theorem flushTurn_effect (coord : Coordinator) (sid : UInt32) : FlushEffect coord sid (coord.flushTurn sid).1
      (coord.flushTurn sid).2 := by
  unfold flushTurn
  split
  next missing =>
    refine .calm ?_
    intro s hp
    rw [missing] at hp
    cases hp
  next s hp =>
    split
    next clear =>
      refine .calm ?_
      intro oid fnd
      obtain rfl := some.inj (hp.symm.trans fnd)
      exact clear
    next ev pend fst =>
      have tried := trySend_effect coord s.ticket ev
      simp only
      generalize coord.trySend s.ticket ev = res at tried
      cases tried with
      | sent receives =>
        simp only
        split
        next ends => exact .ended s hp ev pend fst receives ends
        next going => exact .sent s hp ev pend fst receives (by simpa using going)
      | full _ full => exact .full s hp full
      | closed gone => exact .closed s hp (by simp [fst]) gone _ (resetActiveStream_effect _ _)

inductive FanoutEffect (coord : Coordinator) (sid : UInt32) (last : DeliveryEvent) :
    Coordinator → Prop where
  | absent (missing : coord.streams.lookup sid = none) : FanoutEffect coord sid last coord
  | untold (s : StreamState) (hp : coord.streams.lookup sid = some s) :
      FanoutEffect coord sid last (coord.removeState sid s)
  | told (s : StreamState) (hp : coord.streams.lookup sid = some s)
      (receives : coord.Receives s.ticket) : FanoutEffect coord sid last
        ((coord.pushDelivery s.ticket last).removeState sid s)

theorem fanout_effect (coord : Coordinator) (sid : UInt32) (last : DeliveryEvent) :
    FanoutEffect coord sid last (coord.fanout sid last) := by
  unfold fanout
  split
  next missing => exact .absent missing
  next s hp =>
    have tried := trySend_effect coord s.ticket last
    generalize coord.trySend s.ticket last = res at tried
    cases tried with
    | sent receives => exact .told s hp receives
    | full | closed => exact .untold s hp

/-- Keepalive touches its own fields and sends at most one PING. -/
inductive KeepaliveEffect (coord : Coordinator) : Outcome → Prop where
  | quiet (outstanding : Option OutstandingProbe) (missed : Nat) (nextNonce : UInt64)
      (answer : Except TransportError Unit) : KeepaliveEffect coord
        ({ coord with outstanding, missed, nextNonce }, answer)
  | probed (outstanding : Option OutstandingProbe) (missed : Nat) (nextNonce : UInt64)
      (nonce : Bytes) (room : coord.writer.inflight < writerQueue) :
      KeepaliveEffect coord ({ coord.pushPacket ⟨(Frame.controlPing nonce).wire, []⟩ with
          outstanding, missed, nextNonce }, .ok ())

theorem controlPing_encodable (nonce : UInt64) : (Frame.controlPing (nonceBytes nonce)).Encodable :=
  ⟨by simp [Frame.controlPing, nonceBytes, maxPayload], (by decide : flagPing &&& flagReservedMask = 0)⟩

theorem sendProbe_effect (coord : Coordinator) (keepalive : KeepaliveConfig) (now : Nat) :
    KeepaliveEffect coord (coord.sendProbe keepalive now) := by
  have sent := sendFrame_effect { coord with
    nextNonce := if coord.nextNonce.toNat = 2 ^ 64 - 1 then coord.nextNonce
      else coord.nextNonce + 1 } (controlPing_encodable coord.nextNonce)
  simp only [sendProbe]
  generalize Coordinator.sendFrame _ (.controlPing (nonceBytes coord.nextNonce)) = outcome at sent
  cases sent with
  | sent room => exact .probed _ _ _ _ room
  | failed => exact .quiet _ _ _ _

theorem handleKeepalive_effect (coord : Coordinator) (keepalive : KeepaliveConfig)
    (now : Nat) : KeepaliveEffect coord (coord.handleKeepalive keepalive now) := by
  unfold handleKeepalive
  split
  · exact sendProbe_effect _ _ _
  · split
    · exact .quiet _ _ _ _
    · simp only
      split
      · exact .quiet _ _ _ _
      · have probed := sendProbe_effect { coord with missed := saturatingAdd32 coord.missed 1 } keepalive now
        generalize Coordinator.sendProbe _ keepalive now = outcome at probed
        cases probed with
        | quiet => exact .quiet _ _ _ _
        | probed _ _ _ _ room => exact .probed _ _ _ _ room

end Coordinator

/-- What a request can do with the ends of its stream. -/
inductive LocalEffect (en : StreamChannels) (ticket : Nat) : LocalCall → StreamChannels × LocalReply → Prop where
  | closed (receives : en.receiving = true) (free : en.holding = none)
      (empty : en.delivery = []) (detached : en.attached = false) :
      LocalEffect en ticket .recv (en, .ended)
  | early (receives : en.receiving = true) (free : en.holding = none) (head : HttpHead)
      (rest : List DeliveryEvent) (first : en.delivery = .earlyFinal head :: rest) :
      LocalEffect en ticket .recv ({ en with delivery := rest }, .item (.head head) none)
  | unknown (receives : en.receiving = true) (free : en.holding = none)
      (rest : List DeliveryEvent) (first : en.delivery = .certificateUnknown :: rest) :
      LocalEffect en ticket .recv ({ en with delivery := rest }, .ended)
  | taken (receives : en.receiving = true) (free : en.holding = none) (event : StreamEvent)
      (rest : List DeliveryEvent) (first : en.delivery = .stream event :: rest) :
      LocalEffect en ticket .recv ({ en with delivery := rest, holding := some event }, .quiet)
  | returned (event : StreamEvent) (held : en.holding = some event) : LocalEffect en ticket .returnItem
        ({ en with holding := none }, .item event.item (some event.wireCost))
  | abandoned (sending : en.sending = true) (unsent : en.sentBodyLen < en.declaredBodyLen) :
      LocalEffect en ticket .abandonRecv ({ en with holding := none }, .quiet)
  | deafened : LocalEffect en ticket .dropReceiver ({ en with receiving := false, holding := none }, .quiet)
  | reserved (bytes : Nat) (attached : en.attached = true) (some_bytes : 0 < bytes) :
      LocalEffect en ticket (.reserve bytes)
        ({ en with reservations := en.reservations ++ [.acquiring bytes 0] }, .quiet)
  | acquired (index permits : Nat) (reservation after : Reservation)
      (found : en.reservations[index]? = some reservation)
      (gets : reservation.acquire permits = some after) (attached : en.attached = true)
      (funded : permits ≤ en.permits) :
      LocalEffect en ticket (.acquire index permits) ({ en with
          permits := en.permits - permits
          reservations := en.reservations.set index after }, .quiet)
  | released (index : Nat) (reservation : Reservation) (found : en.reservations[index]? = some reservation) :
      LocalEffect en ticket (.release index) ({ en with
          permits := en.permits + reservation.permits
          reservations := en.reservations.eraseIdx index }, .quiet)
  | retained (index : Nat) (bytes : Bytes) (reservation after : Reservation)
      (found : en.reservations[index]? = some reservation)
      (keeps : reservation.retain ticket bytes = some after) (sending : en.sending = true) :
      LocalEffect en ticket (.retain index bytes) ({ en with
          permits := en.permits + (reservation.permits - after.permits)
          reservations := en.reservations.set index after }, .quiet)
  | pushed (index : Nat) (chunk : BodyChunk) (found : en.reservations[index]? = some (.sending chunk))
      (sending : en.sending = true) (attached : en.attached = true)
      (room : en.body.length < bodyQueue) :
      LocalEffect en ticket (.push index) ({ en with
          body := en.body ++ [chunk]
          sentBodyLen := en.sentBodyLen + chunk.bytes.length
          reservations := en.reservations.eraseIdx index }, .quiet)
  | hungUp : LocalEffect en ticket .dropSender ({ en with sending := false }, .quiet)

theorem localStep_effect {en : StreamChannels} {tk : Nat} {call : LocalCall}
    {acted : StreamChannels × LocalReply} (did : en.localStep tk call = some acted) :
    LocalEffect en tk call acted := by
  revert did
  fun_cases StreamChannels.localStep en tk call with
  | case2 ready empty detached => rintro ⟨⟩; exact .closed ready.1 ready.2 empty (by simpa using detached)
  | case3 ready head rest fst => rintro ⟨⟩; exact .early ready.1 ready.2 head rest fst
  | case4 ready rest fst => rintro ⟨⟩; exact .unknown ready.1 ready.2 rest fst
  | case5 ready ev rest fst => rintro ⟨⟩; exact .taken ready.1 ready.2 ev rest fst
  | case8 ev held => rintro ⟨⟩; exact .returned ev held
  | case9 open_ => rintro ⟨⟩; exact .abandoned open_.1 open_.2
  | case11 => rintro ⟨⟩; exact .deafened
  | case12 bs open_ => rintro ⟨⟩; exact .reserved bs open_.2.1 open_.2.2.1
  | case14 ix permits =>
    intro did
    obtain ⟨reservation, fnd, rest⟩ := bind_eq_some_iff.mp did
    obtain ⟨after, gets, rest⟩ := bind_eq_some_iff.mp rest
    split at rest
    next open_ =>
      cases rest
      exact .acquired ix permits reservation after fnd gets open_.1 open_.2
    · cases rest
  | case15 ix =>
    intro did
    obtain ⟨reservation, fnd, rest⟩ := bind_eq_some_iff.mp did
    cases rest
    exact .released ix reservation fnd
  | case16 ix bs =>
    intro did
    obtain ⟨reservation, fnd, rest⟩ := bind_eq_some_iff.mp did
    obtain ⟨after, keeps, rest⟩ := bind_eq_some_iff.mp rest
    split at rest
    next sending =>
      cases rest
      exact .retained ix bs reservation after fnd keeps sending
    · cases rest
  | case17 ix =>
    intro did
    obtain ⟨reservation, fnd, rest⟩ := bind_eq_some_iff.mp did
    cases reservation with
    | acquiring | held => cases rest
    | sending chunk =>
      simp only at rest
      split at rest
      next open_ =>
        cases rest
        exact .pushed ix chunk fnd open_.1 open_.2.1 open_.2.2
      · cases rest
  | case18 => rintro ⟨⟩; exact .hungUp
  | _ => rintro ⟨⟩

end SplRust.Transport
