import SplRust.Home.Acceptor

/-! Everything the acceptor can do with one item of the wire, where an item is a
complete frame or a header with the reserved flag. Handlers only append to the output
of a call, so an item's effect is a new mux state and the output it adds. -/

namespace SplRust.Home
open SplRust.Lib SplRust.Core Option Table

theorem RefusalCounts.get_record {counts : RefusalCounts} {oid : RefusalClass}
    (cls : RefusalClass) (small : counts.get oid ≤ wordMax) : (counts.record cls).get oid =
      saturatingAdd (counts.get oid) (if cls = oid then 1 else 0) := by
  cases cls <;> cases oid <;> simp only [record, get, reduceCtorEq, if_true, if_false] at small ⊢ <;>
    exact (saturatingAdd_zero small).symm

namespace MuxOutput

instance : Append MuxOutput where
  append first second := ⟨first.frames ++ second.frames, first.events ++ second.events,
    first.refusals ++ second.refusals, first.writableStreams ++ second.writableStreams⟩

section
variable (fst second : MuxOutput)
include fst second

@[simp] theorem frames_append : (fst ++ second).frames = fst.frames ++ second.frames := rfl

@[simp] theorem events_append : (fst ++ second).events = fst.events ++ second.events := rfl

@[simp] theorem refusals_append : (fst ++ second).refusals = fst.refusals ++ second.refusals := rfl

@[simp] theorem writableStreams_append :
    (fst ++ second).writableStreams = fst.writableStreams ++ second.writableStreams := rfl

end

theorem ext_append {fst second : MuxOutput} (fs : fst.frames = second.frames)
    (es : fst.events = second.events) (refusals : fst.refusals = second.refusals)
    (writable : fst.writableStreams = second.writableStreams) : fst = second := by
  cases fst
  cases second
  simp_all

@[simp] theorem append_empty (output : MuxOutput) : output ++ ({} : MuxOutput) = output :=
  ext_append (by simp) (by simp) (by simp) (by simp)

@[simp] theorem empty_append (output : MuxOutput) : ({} : MuxOutput) ++ output = output :=
  ext_append (by simp) (by simp) (by simp) (by simp)

theorem append_assoc (fst second third : MuxOutput) : fst ++ second ++ third = fst ++ (second ++ third) :=
  ext_append (by simp) (by simp) (by simp) (by simp)

end MuxOutput

/-- What the carrier's bytes are cut into: frames, and headers with a reserved flag. -/
inductive WireItem where
  | frame (frame : Frame)
  | reserved (found : FrameViolation)
  deriving DecidableEq, Repr

namespace WireItem

def streamId : WireItem → UInt32
  | .frame whole => whole.streamId
  | .reserved found => found.streamId

/-- Stream-zero frames that are neither PING nor PONG with a nonce, and stream-zero
headers with a reserved flag, end the carrier. -/
def fatal : WireItem → Option FrameViolation
  | .frame whole =>
      if whole.streamId = 0 ∧ ¬ ((whole.flags = flagPing ∨ whole.flags = flagPong) ∧
        whole.payload.length = controlNonceLen) then some (violation whole) else none
  | .reserved found => if found.streamId = 0 then some found else none

end WireItem

namespace MuxStreams

def handleItem (mux : MuxStreams) (item : WireItem) (output : MuxOutput) : MuxStreams × Except HomeError MuxOutput :=
  match item with
  | .frame frame => mux.handleFrame frame output
  | .reserved found =>
      if found.streamId = 0 then (mux, .error (.refused ⟨.protocol, some found⟩))
      else
        let (mux, output) := mux.refuseViolation found .protocol output
        (mux, .ok output)

/-- The state after a refusal; an OPEN with a fresh id raises the high water first. -/
def refused (mux : MuxStreams) (streamId : UInt32) (refusalClass : RefusalClass)
    (highWater : Option UInt32) : MuxStreams where
  limits := mux.limits
  peerHighWater := highWater
  streams := mux.streams.erase streamId
  refusals := mux.refusals.record refusalClass

def refusalOutput (mux : MuxStreams) (found : FrameViolation) (refusalClass : RefusalClass) : MuxOutput where
  frames := [.reset found.streamId refusalClass.resetCode]
  events := if found.streamId ∈ mux.streams then
    [.reset found.streamId (.fromClass refusalClass)] else []
  refusals := [⟨refusalClass, some found⟩]

/-- An id the peer may open next. -/
def Fresh (mux : MuxStreams) (sid : UInt32) : Prop := sid % 2 = 1 ∧ ∀ highest ∈ mux.peerHighWater, sid > highest

/-- The entry of a stream once its peer has closed: none if both sides have. -/
def closedEntry (stream : StreamState) : Option StreamState :=
  if stream.localClosed then none else some { stream with peerClosed := true }

/-- The entry of a stream once a payload of it is debited and delivered. -/
def dataEntry (stream : StreamState) (window : RecvWindow) (length : Nat) (closes : Bool) :
    Option StreamState :=
  let stream := { stream with receiveWindow := window, debitedNotConsumed := stream.debitedNotConsumed + length }
  if closes then closedEntry stream else some stream

end MuxStreams

/-- Everything an item that is not fatal can do. -/
inductive ItemEffect (mux : MuxStreams) : WireItem → MuxStreams → MuxOutput → Prop where
  | control {fr : Frame} (zero : fr.streamId = 0)
      (flags : fr.flags = flagPing ∨ fr.flags = flagPong) (pongs : List Frame)
      (answers : ∀ pong ∈ pongs, pong.streamId = 0 ∧ pong.flags = flagPong) :
      ItemEffect mux (.frame fr) mux { frames := pongs }
  | refused {item : WireItem} (found : FrameViolation) (refusalClass : RefusalClass)
      (highWater : Option UInt32) (named : found.streamId = item.streamId)
      (st : found.streamId ≠ 0)
      (raised : highWater = mux.peerHighWater ∨ (mux.Fresh found.streamId ∧ highWater = some found.streamId)) :
      ItemEffect mux item (mux.refused found.streamId refusalClass highWater) (mux.refusalOutput found refusalClass)
  | tolerated {fr : Frame} (absent : mux.streams.lookup fr.streamId = none)
      (late : fr.flags = flagClose ∨ fr.flags = flagReset ∨ fr.flags = flagData ||| flagClose) :
      ItemEffect mux (.frame fr) mux {}
  | opened {fr : Frame} {window : RecvWindow} (opens : fr.flags &&& flagOpen ≠ 0)
      (st : fr.streamId ≠ 0) (fresh : mux.Fresh fr.streamId)
      (room : mux.streams.keys.card < mux.limits.maxConcurrentStreams)
      (debited : RecvWindow.new.debit fr.payload.length = .ok window) :
      ItemEffect mux (.frame fr) { mux with
          peerHighWater := some fr.streamId
          streams := mux.streams.insert fr.streamId {
            receiveWindow := window, debitedNotConsumed := fr.payload.length
            peerClosed := fr.flags &&& flagClose != 0 } }
        { events := [.opened fr.streamId] ++ (if fr.payload ≠ [] ∨ fr.flags &&& flagData ≠ 0 then
              [.data fr.streamId fr.payload] else []) ++
            (if fr.flags &&& flagClose ≠ 0 then [.readClosed fr.streamId] else []) }
  | data {fr : Frame} {st : StreamState} {window : RecvWindow} (closes : Bool)
      (live : mux.streams.lookup fr.streamId = some st)
      (reading : st.peerClosed = false)
      (debited : st.receiveWindow.debit fr.payload.length = .ok window)
      (flags : if closes then fr.flags = flagData ||| flagClose ∨ fr.flags = flagClose else fr.flags = flagData) :
      ItemEffect mux (.frame fr) { mux with
          streams := Table.assign mux.streams fr.streamId
            (MuxStreams.dataEntry st window fr.payload.length closes) }
        { events := .data fr.streamId fr.payload :: (if closes then [.readClosed fr.streamId] else []) }
  | closed {fr : Frame} {st : StreamState} (live : mux.streams.lookup fr.streamId = some st)
      (flags : fr.flags = flagClose) (bare : fr.payload = []) :
      ItemEffect mux (.frame fr) { mux with
          streams := Table.assign mux.streams fr.streamId (MuxStreams.closedEntry st) }
        { events := [.readClosed fr.streamId] }
  | reset {fr : Frame} {st : StreamState} {reason : UInt8}
      (live : mux.streams.lookup fr.streamId = some st)
      (flags : fr.flags = flagReset) (pl : fr.payload = [reason]) :
      ItemEffect mux (.frame fr) { mux with streams := Table.assign mux.streams fr.streamId none }
        { events := [.reset fr.streamId (.fromWire reason)] }
  | credited {fr : Frame} {st : StreamState} {credit : UInt32}
      (live : mux.streams.lookup fr.streamId = some st)
      (flags : fr.flags = flagWindow) (granted : fr.windowCredit = some credit)
      (capped : st.sendCredit + credit.toNat ≤ maxSendCredit) :
      ItemEffect mux (.frame fr) { mux with
          streams := Table.assign mux.streams fr.streamId
            (some { st with sendCredit := st.sendCredit + credit.toNat }) }
        { writableStreams := [fr.streamId] }

namespace MuxStreams
variable {mux : MuxStreams} {frame : Frame} {st : StreamState}

def Acts (mux : MuxStreams) (item : WireItem) (handler : MuxOutput → MuxStreams × MuxOutput) : Prop :=
  ∃ next delta, ItemEffect mux item next delta ∧ ∀ out, handler out = (next, out ++ delta)

theorem Acts.ite {item : WireItem} {c : Prop} [Decidable c]
    {yes no : MuxOutput → MuxStreams × MuxOutput} (pos : c → mux.Acts item yes) (neg : ¬ c → mux.Acts item no) :
    mux.Acts item fun output => if c then yes output else no output := by
  by_cases holds : c
  · simpa only [if_pos holds] using pos holds
  · simpa only [if_neg holds] using neg holds

theorem refuseViolation_eq (mux : MuxStreams) (fnd : FrameViolation)
    (cls : RefusalClass) (output : MuxOutput) : mux.refuseViolation fnd cls output =
      (mux.refused fnd.streamId cls mux.peerHighWater, output ++ mux.refusalOutput fnd cls) := by
  simp only [refuseViolation]
  split
  next kn => exact Prod.ext rfl (MuxOutput.ext_append rfl (by simp [refusalOutput, kn]) rfl (by simp [refusalOutput]))
  next unknown =>
    refine Prod.ext ?_ (MuxOutput.ext_append rfl (by simp [refusalOutput, unknown]) rfl (by simp [refusalOutput]))
    simp [refused, erase_of_absent _ (Finmap.lookup_eq_none.mpr unknown)]

theorem refuse_acts (mux : MuxStreams) (cls : RefusalClass) (st : frame.streamId ≠ 0) :
    mux.Acts (.frame frame) (mux.refuse frame cls) :=
  ⟨_, _, .refused (violation frame) cls _ rfl st (Or.inl rfl), fun output => mux.refuseViolation_eq _ _ output⟩

theorem markPeerClosed_eq {sid : UInt32} (live : mux.streams.lookup sid = some st)
    (output : MuxOutput) : mux.markPeerClosed sid output =
      ({ mux with streams := assign mux.streams sid (closedEntry st) },
        output ++ { events := [.readClosed sid] }) := by
  have es : ({ output with events := output.events ++ [.readClosed sid] } : MuxOutput) =
      output ++ { events := [.readClosed sid] } :=
    MuxOutput.ext_append (by simp) rfl (by simp) (by simp)
  simp only [markPeerClosed, live, closedEntry, es]
  split <;> simp [removeStream, assign, erase_insert]

theorem handleControl_cases (frame : Frame) (zero : frame.streamId = 0) :
    ((WireItem.frame frame).fatal = some (violation frame) ∧ ∀ output, handleControl frame output =
        .error (.refused ⟨.protocol, some (violation frame)⟩)) ∨
    ((WireItem.frame frame).fatal = none ∧ (frame.flags = flagPing ∨ frame.flags = flagPong) ∧
      ∃ pongs : List Frame, (∀ pong ∈ pongs, pong.streamId = 0 ∧ pong.flags = flagPong) ∧
        ∀ output, handleControl frame output = .ok (output ++ { frames := pongs })) := by
  by_cases sized : frame.payload.length = controlNonceLen
  · by_cases ping : frame.flags = flagPing
    · refine Or.inr ⟨by simp [WireItem.fatal, ping, sized], Or.inl ping,
        [⟨0, flagPong, frame.payload⟩], by simp, fun output => ?_⟩
      simp only [handleControl, Frame.controlPong, zero, ping, sized, and_self, if_true]
      exact congrArg Except.ok (MuxOutput.ext_append rfl (by simp) (by simp) (by simp))
    · by_cases pong : frame.flags = flagPong
      · refine Or.inr ⟨by simp [WireItem.fatal, pong, sized], Or.inr pong, [], by simp, fun output => ?_⟩
        simp only [handleControl, pong, sized, and_self, if_true]
        exact congrArg Except.ok (MuxOutput.append_empty output).symm
      · refine Or.inl ⟨by simp [WireItem.fatal, ping, pong, zero], fun output => ?_⟩
        simp [handleControl, ping, pong]
  · refine Or.inl ⟨by simp [WireItem.fatal, sized, zero], fun output => ?_⟩
    simp [handleControl, sized]

theorem fresh_iff {sid : UInt32} : mux.Fresh sid ↔
      sid % 2 = 1 ∧ mux.peerHighWater.all (fun highest => sid > highest) = true := by
  simp only [Fresh, all_eq_true, decide_eq_true_eq, mem_def]

theorem handleOpen_eq {win : RecvWindow} (fresh : mux.Fresh frame.streamId)
    (room : mux.streams.keys.card < mux.limits.maxConcurrentStreams)
    (debited : RecvWindow.new.debit frame.payload.length = .ok win) (output : MuxOutput) :
    mux.handleOpen frame output = ({ mux with
          peerHighWater := some frame.streamId
          streams := mux.streams.insert frame.streamId {
            receiveWindow := win, debitedNotConsumed := frame.payload.length
            peerClosed := frame.flags &&& flagClose != 0 } },
        output ++ { events := [.opened frame.streamId] ++ (if frame.payload ≠ [] ∨ frame.flags &&& flagData ≠ 0 then
            [.data frame.streamId frame.payload] else []) ++
          (if frame.flags &&& flagClose ≠ 0 then [.readClosed frame.streamId] else []) }) := by
  have valid := not_not.mpr (fresh_iff.mp fresh)
  have within : ¬ frame.payload.length > initialWindow := Nat.not_lt.mpr (RecvWindow.debit_ok debited).1
  simp only [handleOpen, if_neg valid, if_neg (Nat.not_le.mpr room), if_neg within, debited]
  by_cases closes : frame.flags &&& flagClose ≠ 0
  · rw [if_pos closes, markPeerClosed_eq (Finmap.lookup_insert _)]
    refine Prod.ext ?_ (MuxOutput.ext_append ?_ ?_ ?_ ?_)
    · simp [closedEntry, assign, Finmap.insert_insert, bne_iff_ne.mpr closes]
    all_goals split <;> simp_all
  · rw [if_neg closes]
    refine Prod.ext ?_ (MuxOutput.ext_append ?_ ?_ ?_ ?_)
    · simp [not_not.mp closes]
    all_goals split <;> simp_all

theorem handleOpen_acts (st : frame.streamId ≠ 0) (opens : frame.flags &&& flagOpen ≠ 0) :
    mux.Acts (.frame frame) (mux.handleOpen frame) := by
  by_cases fresh : mux.Fresh frame.streamId
  · have raise (cls : RefusalClass) (output : MuxOutput) :
        ({ mux with peerHighWater := some frame.streamId } : MuxStreams).refuse frame cls
          output = (mux.refused frame.streamId cls (some frame.streamId),
            output ++ mux.refusalOutput (violation frame) cls) :=
      refuseViolation_eq _ _ _ output
    have refusing (cls : RefusalClass) : ItemEffect mux (.frame frame)
        (mux.refused frame.streamId cls (some frame.streamId))
        (mux.refusalOutput (violation frame) cls) :=
      .refused (violation frame) cls _ rfl st (Or.inr ⟨fresh, rfl⟩)
    have valid := not_not.mpr (fresh_iff.mp fresh)
    by_cases room : mux.streams.keys.card ≥ mux.limits.maxConcurrentStreams
    · refine ⟨_, _, refusing .streamLimit, fun output => ?_⟩
      simp only [handleOpen, if_neg valid, if_pos room]
      exact raise .streamLimit output
    by_cases exceeds : frame.payload.length > initialWindow
    · refine ⟨_, _, refusing .flowControl, fun output => ?_⟩
      simp only [handleOpen, if_neg valid, if_neg room, if_pos exceeds]
      exact raise .flowControl output
    have fits : frame.payload.length ≤ RecvWindow.new.credit := Nat.not_lt.mp exceeds
    obtain ⟨_, debited⟩ := RecvWindow.debit_of_le fits
    exact ⟨_, _, .opened opens st fresh (Nat.not_le.mp room) debited,
      handleOpen_eq fresh (Nat.not_le.mp room) debited⟩
  · refine ⟨_, _, .refused (violation frame) .protocol _ rfl st (Or.inl rfl), fun output => ?_⟩
    have invalid := mt fresh_iff.mpr fresh
    simp only [handleOpen, if_pos invalid]
    exact refuseViolation_eq _ _ _ output

theorem handleData_eq {win : RecvWindow} (closes : Bool)
    (live : mux.streams.lookup frame.streamId = some st) (reading : st.peerClosed = false)
    (debited : st.receiveWindow.debit frame.payload.length = .ok win)
    (counted : checkedAdd st.debitedNotConsumed frame.payload.length =
      some (st.debitedNotConsumed + frame.payload.length)) (output : MuxOutput) :
    mux.handleData frame closes output = ({ mux with
          streams := assign mux.streams frame.streamId
            (dataEntry st win frame.payload.length closes) },
        output ++ { events := .data frame.streamId frame.payload ::
          (if closes then [.readClosed frame.streamId] else []) }) := by
  have still : ¬ st.peerClosed = true := by simp [reading]
  simp only [handleData, live, if_neg still, debited, counted]
  have delivered : ({ output with events := output.events ++ [.data frame.streamId frame.payload] } : MuxOutput) =
      output ++ { events := [.data frame.streamId frame.payload] } :=
    MuxOutput.ext_append (by simp) rfl (by simp) (by simp)
  cases closes with
  | false => simp [delivered, dataEntry, assign]
  | true =>
    rw [if_pos rfl, markPeerClosed_eq (Finmap.lookup_insert _), delivered, MuxOutput.append_assoc]
    refine Prod.ext ?_ rfl
    simp only [dataEntry, if_true]
    rw [show ∀ en value, assign (mux.streams.insert frame.streamId value)
      frame.streamId en = assign mux.streams frame.streamId en from
      fun en value => assign_assign mux.streams frame.streamId (some value) en]

theorem handleData_acts (closes : Bool) (nonzero : frame.streamId ≠ 0)
    (live : mux.streams.lookup frame.streamId = some st)
    (flags : if closes then frame.flags = flagData ||| flagClose ∨ frame.flags = flagClose
      else frame.flags = flagData) : mux.Acts (.frame frame) (mux.handleData frame closes) := by
  by_cases reading : st.peerClosed = true
  · obtain ⟨next, delta, eff, hd⟩ := refuse_acts mux .protocol nonzero
    exact ⟨next, delta, eff, fun output => by simp only [handleData, live, if_pos reading, hd]⟩
  cases debited : st.receiveWindow.debit frame.payload.length with
  | error =>
    obtain ⟨next, delta, eff, hd⟩ := refuse_acts mux .flowControl nonzero
    exact ⟨next, delta, eff, fun output => by
      simp only [handleData, live, if_neg reading, debited, hd]⟩
  | ok win =>
    have open_side : st.peerClosed = false := by simpa using reading
    cases counted : checkedAdd st.debitedNotConsumed frame.payload.length with
    | none =>
      -- The debited window is lost with the stream.
      refine ⟨_, _, .refused (violation frame) .internal _ rfl nonzero (Or.inl rfl), fun output => ?_⟩
      simp only [handleData, live, if_neg reading, debited, counted]
      rw [refuse, refuseViolation_eq]
      have kn : frame.streamId ∈ mux.streams := Finmap.mem_of_lookup_eq_some live
      simp [refused, refusalOutput, violation, erase_insert, kn]
    | some tot =>
      rw [checkedAdd_eq counted] at counted
      exact ⟨_, _, .data closes live open_side debited flags, handleData_eq closes live open_side debited counted⟩

theorem handleWindow_eq {cr : UInt32} (live : mux.streams.lookup frame.streamId = some st)
    (granted : frame.windowCredit = some cr)
    (capped : st.sendCredit + cr.toNat ≤ maxSendCredit) (output : MuxOutput) : mux.handleWindow frame output =
      ({ mux with
          streams := assign mux.streams frame.streamId
            (some { st with sendCredit := st.sendCredit + cr.toNat }) },
        output ++ { writableStreams := [frame.streamId] }) := by
  have counted : checkedAdd st.sendCredit cr.toNat = some (st.sendCredit + cr.toNat) := by
    apply checkedAdd_of_le
    simp only [maxSendCredit, wordMax] at capped ⊢
    omega
  simp only [handleWindow, granted, live, counted, if_neg (Nat.not_lt.mpr capped)]
  exact Prod.ext rfl (MuxOutput.ext_append (by simp) (by simp) (by simp) rfl)

section
variable (nonzero : frame.streamId ≠ 0)
include nonzero

section
variable (live : mux.streams.lookup frame.streamId = some st)
include live

theorem handleWindow_acts (flags : frame.flags = flagWindow) : mux.Acts (.frame frame) (mux.handleWindow frame) := by
  cases granted : frame.windowCredit with
  | none =>
    obtain ⟨next, delta, eff, hd⟩ := refuse_acts mux .protocol nonzero
    exact ⟨next, delta, eff, fun output => by simp only [handleWindow, granted, hd]⟩
  | some cr =>
    obtain ⟨refused, delta, eff, hd⟩ := refuse_acts mux .flowControl nonzero
    by_cases exceeds : st.sendCredit + cr.toNat > maxSendCredit
    · refine ⟨refused, delta, eff, fun output => ?_⟩
      simp only [handleWindow, granted, live]
      cases counted : checkedAdd st.sendCredit cr.toNat with
      | none => simp only [hd]
      | some tot =>
        rw [checkedAdd_eq counted]
        simp only [if_pos exceeds, hd]
    · exact ⟨_, _, .credited live flags granted (Nat.not_lt.mp exceeds),
        handleWindow_eq live granted (Nat.not_lt.mp exceeds)⟩

theorem handleReset_acts (flags : frame.flags = flagReset) : mux.Acts (.frame frame) (mux.handleReset frame) := by
  match pl : frame.payload with
  | [rsn] =>
    refine ⟨_, _, .reset live flags pl, fun output => ?_⟩
    simp only [handleReset, pl]
    exact Prod.ext rfl (MuxOutput.ext_append (by simp) rfl (by simp) (by simp))
  | [] =>
    obtain ⟨next, delta, eff, hd⟩ := refuse_acts mux .protocol nonzero
    exact ⟨next, delta, eff, fun output => by simp only [handleReset, pl, hd]⟩
  | fst :: second :: rest =>
    obtain ⟨next, delta, eff, hd⟩ := refuse_acts mux .protocol nonzero
    exact ⟨next, delta, eff, fun output => by simp only [handleReset, pl, hd]⟩

theorem handleClose_acts (flags : frame.flags = flagClose) : mux.Acts (.frame frame) (mux.handleClose frame) := by
  by_cases bare : frame.payload = []
  · refine ⟨_, _, .closed live flags bare, fun output => ?_⟩
    simp only [handleClose, if_neg (not_not.mpr bare)]
    exact markPeerClosed_eq live output
  · obtain ⟨next, delta, eff, hd⟩ := handleData_acts true nonzero live (Or.inr flags)
    exact ⟨next, delta, eff, fun output => by simp only [handleClose, if_pos bare, hd]⟩

end

end

theorem handleStreamFrame_acts (mux : MuxStreams) (nonzero : frame.streamId ≠ 0) :
    mux.Acts (.frame frame) (mux.handleStreamFrame frame) := by
  have protocol := refuse_acts mux .protocol nonzero
  refine .ite (fun _ => protocol) fun valid => ?_
  refine .ite (fun _ => protocol) fun noControl => ?_
  refine .ite (fun opens => handleOpen_acts nonzero opens) fun noOpen => ?_
  refine .ite (fun late => ?_) fun _ => ?_
  · refine ⟨_, _, .tolerated (Finmap.lookup_eq_none.mpr late.1) ?_, fun output => by simp⟩
    have allowed : flagsValid frame.flags = true := by simpa using valid
    have terminal := late.2
    rcases flagsValid_cases allowed with eq | eq | eq | eq | eq | eq | eq | eq | eq | eq | eq <;>
      rw [eq] at terminal noOpen ⊢ <;> revert terminal noOpen <;> decide
  refine .ite (fun _ => protocol) fun kn => ?_
  obtain ⟨_, live⟩ := ne_none_iff_exists'.mp (mem_iff_lookup.mp (not_not.mp kn))
  refine .ite (fun flags => handleData_acts true nonzero live (by simp [flags])) fun _ => ?_
  refine .ite (fun flags => handleData_acts false nonzero live (by simp [flags])) fun _ => ?_
  refine .ite (fun flags => handleClose_acts nonzero live flags) fun _ => ?_
  refine .ite (fun flags => handleReset_acts nonzero live flags) fun _ => ?_
  exact .ite (fun flags => handleWindow_acts nonzero live flags) fun _ => protocol

/-- Every item either ends the carrier, leaving the streams as they are, or has one of
the effects above. -/
theorem handleItem_cases (mux : MuxStreams) (item : WireItem) : (∃ fnd, item.fatal = some fnd ∧
      ∀ output, mux.handleItem item output = (mux, .error (.refused ⟨.protocol, some fnd⟩))) ∨
    (item.fatal = none ∧ ∃ next delta, ItemEffect mux item next delta ∧
      ∀ output, mux.handleItem item output = (next, .ok (output ++ delta))) := by
  cases item with
  | reserved fnd =>
    by_cases zero : fnd.streamId = 0
    · exact Or.inl ⟨fnd, if_pos zero, fun output => by simp only [handleItem, if_pos zero]⟩
    · refine Or.inr ⟨if_neg zero, _, _, .refused fnd .protocol _ rfl zero (Or.inl rfl), fun output => ?_⟩
      simp only [handleItem, if_neg zero, refuseViolation_eq]
  | frame frame =>
    by_cases zero : frame.streamId = 0
    · rcases handleControl_cases frame zero with
        ⟨fatal, hd⟩ | ⟨fine, flags, pongs, answers, hd⟩
      · exact Or.inl ⟨_, fatal, fun output => by simp only [handleItem, handleFrame, if_pos zero, hd]⟩
      · exact Or.inr ⟨fine, _, _, .control zero flags pongs answers, fun output => by
          simp only [handleItem, handleFrame, if_pos zero, hd]⟩
    · have fine : (WireItem.frame frame).fatal = none := by simp [WireItem.fatal, zero]
      obtain ⟨next, delta, eff, hd⟩ := handleStreamFrame_acts mux zero
      exact Or.inr ⟨fine, next, delta, eff, fun output => by
        simp only [handleItem, handleFrame, if_neg zero, hd]⟩

end MuxStreams

/-! ### Local calls -/

/-- The calls the embedding application makes. -/
inductive LocalCall where
  | consume (streamId : UInt32) (bytes : Nat)
  | trySendData (streamId : UInt32) (bytes : Bytes)
  | closeWrite (streamId : UInt32)
  | reset (streamId : UInt32) (reason : ResetReason)
  deriving DecidableEq, Repr

abbrev AcceptorReply := Except (Failure HomeError) (Option MuxOutput)

def MuxStreams.localCall (mux : MuxStreams) : LocalCall → MuxStreams × AcceptorReply
  | .consume streamId bytes =>
      let (mux, reply) := mux.consume streamId bytes
      (mux, reply.map some)
  | .trySendData streamId bytes =>
      let (mux, reply) := mux.trySendData streamId bytes
      (mux, reply.mapError .error)
  | .closeWrite streamId =>
      let (mux, reply) := mux.closeWrite streamId
      (mux, (reply.map some).mapError .error)
  | .reset streamId reason =>
      let (mux, reply) := mux.reset streamId reason
      (mux, (reply.map some).mapError .error)

/-- Everything a local call can do. -/
inductive LocalEffect (mux : MuxStreams) : LocalCall → MuxStreams → AcceptorReply → Prop where
  | failed {call : LocalCall} (err : HomeError) : LocalEffect mux call mux (.error (.error err))
  | panicked {sid : UInt32} {bytes : Nat} {st : StreamState}
      (live : mux.streams.lookup sid = some st)
      (fits : bytes ≤ st.debitedNotConsumed)
      (broken : st.receiveWindow.consume bytes = none) :
      LocalEffect mux (.consume sid bytes) mux (.error .panic)
  | consumed {sid : UInt32} {bytes : Nat} {st : StreamState} {window : RecvWindow}
      {grant : Option UInt32} (live : mux.streams.lookup sid = some st)
      (fits : bytes ≤ st.debitedNotConsumed)
      (taken : st.receiveWindow.consume bytes = some (window, grant)) :
      LocalEffect mux (.consume sid bytes) { mux with
          streams := Table.assign mux.streams sid (some { st with
            receiveWindow := window, debitedNotConsumed := st.debitedNotConsumed - bytes }) }
        (.ok (some { frames := (grant.map (Frame.window sid)).toList }))
  | withheld {sid : UInt32} {bytes : Bytes} : LocalEffect mux (.trySendData sid bytes) mux (.ok none)
  | sent {sid : UInt32} {bytes : Bytes} {st : StreamState} (live : mux.streams.lookup sid = some st)
      (fits : bytes.length ≤ st.sendCredit) (small : bytes.length ≤ recommendedChunk) :
      LocalEffect mux (.trySendData sid bytes) { mux with
          streams := Table.assign mux.streams sid (some { st with
            sendCredit := st.sendCredit - bytes.length }) }
        (.ok (some { frames := [⟨sid, flagData, bytes⟩] }))
  | closed {sid : UInt32} {st : StreamState} (live : mux.streams.lookup sid = some st) :
      LocalEffect mux (.closeWrite sid) { mux with
          streams := Table.assign mux.streams sid
            (if st.peerClosed then none else some { st with localClosed := true }) }
        (.ok (some { frames := [⟨sid, flagClose, []⟩] }))
  | reset {sid : UInt32} {reason : ResetReason} {st : StreamState}
      (live : mux.streams.lookup sid = some st) :
      LocalEffect mux (.reset sid reason) { mux with streams := Table.assign mux.streams sid none }
        (.ok (some { frames := [.reset sid reason.code] }))

namespace MuxStreams

section
variable (mux : MuxStreams)
include mux

theorem consume_effect (sid : UInt32) (bs : Nat) :
    LocalEffect mux (.consume sid bs) (mux.localCall (.consume sid bs)).1
      (mux.localCall (.consume sid bs)).2 := by
  simp only [localCall, consume]
  cases live : mux.streams.lookup sid with
  | none => exact .failed .closed
  | some st =>
    by_cases exceeds : bs > st.debitedNotConsumed
    · simp only [if_pos exceeds]
      exact .failed (.local .internal)
    cases taken : st.receiveWindow.consume bs with
    | none =>
      simp only [if_neg exceeds, taken]
      exact .panicked live (Nat.not_lt.mp exceeds) taken
    | some pair =>
      obtain ⟨_, _⟩ := pair
      simp only [if_neg exceeds, taken, checkedSub_of_le (Nat.not_lt.mp exceeds)]
      exact .consumed live (Nat.not_lt.mp exceeds) taken

theorem trySendData_effect (sid : UInt32) (bs : Bytes) :
    LocalEffect mux (.trySendData sid bs) (mux.localCall (.trySendData sid bs)).1
      (mux.localCall (.trySendData sid bs)).2 := by
  simp only [localCall]
  fun_cases trySendData mux sid bs with
  | case1 => exact .failed (.local .internal)
  | case2 | case3 => exact .failed .closed
  | case4 => exact .withheld
  | case5 _ _ _ _ short impossible =>
    rw [checkedSub_of_le (Nat.not_lt.mp short)] at impossible
    cases impossible
  | case6 large _ live _ short _ taken =>
    rw [checkedSub_of_le (Nat.not_lt.mp short)] at taken
    cases taken
    exact .sent live (Nat.not_lt.mp short) (Nat.not_lt.mp large)

theorem closeWrite_effect (sid : UInt32) : LocalEffect mux (.closeWrite sid) (mux.localCall (.closeWrite sid)).1
      (mux.localCall (.closeWrite sid)).2 := by
  simp only [localCall, closeWrite]
  cases live : mux.streams.lookup sid with
  | none => exact .failed .closed
  | some st =>
    by_cases done : st.localClosed = true
    · simp only [if_pos done]
      exact .failed .closed
    have eff := LocalEffect.closed live
    by_cases both : st.peerClosed = true
    · simp only [if_neg done, if_pos both, removeStream, erase_insert]
      rwa [if_pos both] at eff
    · simp only [if_neg done, if_neg both]
      rwa [if_neg both] at eff

theorem reset_effect (sid : UInt32) (rsn : ResetReason) :
    LocalEffect mux (.reset sid rsn) (mux.localCall (.reset sid rsn)).1
      (mux.localCall (.reset sid rsn)).2 := by
  simp only [localCall, reset]
  by_cases kn : sid ∈ mux.streams
  · obtain ⟨_, live⟩ := ne_none_iff_exists'.mp (mem_iff_lookup.mp kn)
    rw [if_neg (not_not.mpr kn)]
    exact .reset live
  · rw [if_pos kn]
    exact .failed .closed

theorem localCall_effect (call : LocalCall) : LocalEffect mux call (mux.localCall call).1 (mux.localCall call).2 := by
  cases call with
  | consume sid bs => exact mux.consume_effect sid bs
  | trySendData sid bs => exact mux.trySendData_effect sid bs
  | closeWrite sid => exact mux.closeWrite_effect sid
  | reset sid rsn => exact mux.reset_effect sid rsn

end

end MuxStreams

end SplRust.Home
