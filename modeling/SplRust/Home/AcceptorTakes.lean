import SplRust.Home.AcceptorStep

/-! Frames of a peer that keeps to the protocol, and what the acceptor does with them. -/

namespace SplRust.Home
open SplRust.Lib SplRust.Core

namespace MuxStreams
variable {mux : MuxStreams} {sid : UInt32} {st : StreamState} {fr : Frame}

/-- Bytes of a stream that were delivered and not yet consumed. -/
def debited (mux : MuxStreams) (sid : UInt32) : Nat :=
  ((mux.streams.lookup sid).map StreamState.debitedNotConsumed).getD 0

/-- Bytes of a stream that were consumed and not yet granted back. -/
def ungranted (mux : MuxStreams) (sid : UInt32) : Nat :=
  ((mux.streams.lookup sid).map fun stream => stream.receiveWindow.unacked).getD 0

/-- Credit the home has for sending on a stream. -/
def sendCredit (mux : MuxStreams) (sid : UInt32) : Nat := ((mux.streams.lookup sid).map StreamState.sendCredit).getD 0

theorem sendCredit_of_live (live : mux.streams.lookup sid = some st) : mux.sendCredit sid = st.sendCredit := by
  simp [sendCredit, live]

theorem sendCredit_of_absent (abs : mux.streams.lookup sid = none) : mux.sendCredit sid = 0 := by
  simp [sendCredit, abs]

theorem debited_of_live (live : mux.streams.lookup sid = some st) :
    mux.debited sid = st.debitedNotConsumed := by
  simp [debited, live]

theorem ungranted_of_live (live : mux.streams.lookup sid = some st) :
    mux.ungranted sid = st.receiveWindow.unacked := by
  simp [ungranted, live]

theorem debited_of_absent (abs : mux.streams.lookup sid = none) : mux.debited sid = 0 := by simp [debited, abs]

theorem ungranted_of_absent (abs : mux.streams.lookup sid = none) : mux.ungranted sid = 0 := by simp [ungranted, abs]

/-- A frame of a live stream goes to the handler its flags name. -/
theorem handleStreamFrame_known (kn : fr.streamId ∈ mux.streams)
    (plain : flagsValid fr.flags = true ∧ fr.flags &&& (flagPing ||| flagPong) = 0 ∧
      fr.flags &&& flagOpen = 0) (output : MuxOutput) : mux.handleStreamFrame fr output =
      if fr.flags = flagData ||| flagClose then mux.handleData fr true output
      else if fr.flags = flagData then mux.handleData fr false output
      else if fr.flags = flagClose then mux.handleClose fr output
      else if fr.flags = flagReset then mux.handleReset fr output
      else if fr.flags = flagWindow then mux.handleWindow fr output else mux.refuse fr .protocol output := by
  rw [handleStreamFrame, if_neg (by rw [plain.1]; decide), if_neg (not_not.mpr plain.2.1),
    if_neg (not_not.mpr plain.2.2), if_neg (fun late => late.1 kn), if_neg (not_not.mpr kn)]

theorem handleItem_stream (st : fr.streamId ≠ 0) (output : MuxOutput) : mux.handleItem (.frame fr) output =
      ((mux.handleStreamFrame fr output).1, .ok (mux.handleStreamFrame fr output).2) := by
  simp only [handleItem, handleFrame, if_neg st]

theorem handleItem_open {win : RecvWindow} (flags : fr.flags = flagOpen ||| flagData)
    (st : fr.streamId ≠ 0) (fresh : mux.Fresh fr.streamId)
    (room : mux.streams.keys.card < mux.limits.maxConcurrentStreams)
    (debited : RecvWindow.new.debit fr.payload.length = .ok win) (output : MuxOutput) :
    mux.handleItem (.frame fr) output = ({ mux with
          peerHighWater := some fr.streamId
          streams := mux.streams.insert fr.streamId {
            receiveWindow := win, debitedNotConsumed := fr.payload.length } },
        .ok (output ++ { events := [.opened fr.streamId, .data fr.streamId fr.payload] })) := by
  have dispatched : mux.handleStreamFrame fr output = mux.handleOpen fr output := by
    rw [handleStreamFrame, if_neg (by rw [flags]; decide), if_neg (by rw [flags]; decide),
      if_pos (by rw [flags]; decide)]
  have data : fr.flags &&& flagData ≠ 0 := by rw [flags]; decide
  have reading : ¬ fr.flags &&& flagClose ≠ 0 := by rw [flags]; decide
  have still : (fr.flags &&& flagClose != 0) = false := by rw [flags]; decide
  rw [handleItem_stream st, dispatched, handleOpen_eq fresh room debited]
  rw [if_pos (Or.inr data), if_neg reading, still]
  rfl

theorem handleItem_data {win : RecvWindow} (flags : fr.flags = flagData)
    (nz : fr.streamId ≠ 0) (live : mux.streams.lookup fr.streamId = some st)
    (reading : st.peerClosed = false) (debited : st.receiveWindow.debit fr.payload.length = .ok win)
    (counted : checkedAdd st.debitedNotConsumed fr.payload.length =
      some (st.debitedNotConsumed + fr.payload.length)) (output : MuxOutput) :
    mux.handleItem (.frame fr) output = ({ mux with
          streams := Table.assign mux.streams fr.streamId (some { st with
            receiveWindow := win
            debitedNotConsumed := st.debitedNotConsumed + fr.payload.length }) },
        .ok (output ++ { events := [.data fr.streamId fr.payload] })) := by
  have kn := Finmap.mem_of_lookup_eq_some live
  have plain : flagsValid flagData = true ∧ flagData &&& (flagPing ||| flagPong) = 0 ∧
      flagData &&& flagOpen = 0 := by decide
  rw [handleItem_stream nz, handleStreamFrame_known kn (by rw [flags]; exact plain),
    if_neg (by rw [flags]; decide), if_pos flags, handleData_eq false live reading debited counted]
  rfl

theorem handleItem_close (flags : fr.flags = flagClose) (bare : fr.payload = [])
    (nz : fr.streamId ≠ 0) (live : mux.streams.lookup fr.streamId = some st)
    (output : MuxOutput) : mux.handleItem (.frame fr) output = ({ mux with
          streams := Table.assign mux.streams fr.streamId (closedEntry st) },
        .ok (output ++ { events := [.readClosed fr.streamId] })) := by
  have kn := Finmap.mem_of_lookup_eq_some live
  have plain : flagsValid flagClose = true ∧ flagClose &&& (flagPing ||| flagPong) = 0 ∧
      flagClose &&& flagOpen = 0 := by decide
  rw [handleItem_stream nz, handleStreamFrame_known kn (by rw [flags]; exact plain),
    if_neg (by rw [flags]; decide), if_neg (by rw [flags]; decide), if_pos flags, handleClose,
    if_neg (not_not.mpr bare), markPeerClosed_eq live]

theorem handleItem_late (flags : fr.flags = flagClose ∨ fr.flags = flagReset)
    (nz : fr.streamId ≠ 0) (abs : mux.streams.lookup fr.streamId = none)
    (output : MuxOutput) : mux.handleItem (.frame fr) output = (mux, .ok output) := by
  have unknown : fr.streamId ∉ mux.streams := Finmap.lookup_eq_none.mp abs
  have plain : flagsValid fr.flags = true ∧ fr.flags &&& (flagPing ||| flagPong) = 0 ∧
      fr.flags &&& flagOpen = 0 ∧ fr.flags &&& (flagClose ||| flagReset) ≠ 0 := by
    rcases flags with eq | eq <;> rw [eq] <;> decide
  rw [handleItem_stream nz, handleStreamFrame, if_neg (by rw [plain.1]; decide),
    if_neg (not_not.mpr plain.2.1), if_neg (not_not.mpr plain.2.2.1),
    if_pos ⟨unknown, plain.2.2.2⟩]

theorem handleItem_reset {rsn : UInt8} (flags : fr.flags = flagReset)
    (pl : fr.payload = [rsn]) (nz : fr.streamId ≠ 0)
    (live : mux.streams.lookup fr.streamId = some st) (output : MuxOutput) :
    mux.handleItem (.frame fr) output = ({ mux with streams := mux.streams.erase fr.streamId },
        .ok (output ++ { events := [.reset fr.streamId (.fromWire rsn)] })) := by
  have kn := Finmap.mem_of_lookup_eq_some live
  have plain : flagsValid flagReset = true ∧ flagReset &&& (flagPing ||| flagPong) = 0 ∧
      flagReset &&& flagOpen = 0 := by decide
  rw [handleItem_stream nz, handleStreamFrame_known kn (by rw [flags]; exact plain),
    if_neg (by rw [flags]; decide), if_neg (by rw [flags]; decide), if_neg (by rw [flags]; decide),
    if_pos flags]
  simp only [handleReset, pl]
  refine Prod.ext rfl (congrArg Except.ok (MuxOutput.ext_append ?_ rfl ?_ ?_)) <;> simp

theorem handleItem_window {cr : UInt32} (flags : fr.flags = flagWindow)
    (nz : fr.streamId ≠ 0) (live : mux.streams.lookup fr.streamId = some st)
    (granted : fr.windowCredit = some cr)
    (capped : st.sendCredit + cr.toNat ≤ maxSendCredit) (output : MuxOutput) :
    mux.handleItem (.frame fr) output = ({ mux with
          streams := Table.assign mux.streams fr.streamId
            (some { st with sendCredit := st.sendCredit + cr.toNat }) },
        .ok (output ++ { writableStreams := [fr.streamId] })) := by
  have kn := Finmap.mem_of_lookup_eq_some live
  have plain : flagsValid flagWindow = true ∧ flagWindow &&& (flagPing ||| flagPong) = 0 ∧
      flagWindow &&& flagOpen = 0 := by decide
  rw [handleItem_stream nz, handleStreamFrame_known kn (by rw [flags]; exact plain),
    if_neg (by rw [flags]; decide), if_neg (by rw [flags]; decide), if_neg (by rw [flags]; decide),
    if_neg (by rw [flags]; decide), if_pos flags, handleWindow_eq live granted capped]

end MuxStreams

end SplRust.Home
