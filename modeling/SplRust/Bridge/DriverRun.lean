import SplRust.Bridge.Driver

/-! Runs of a dialer's coordinator: the commands of its streams, bytes of any peer, and
ends of its channels that go away at any time. In every reachable state the bytes a reader
still holds are exactly the ones outstanding in the stream's receive window. -/

namespace SplRust.Bridge
open SplRust.Lib SplRust.Core

inductive DriverCall where
  | openStream
  | write (streamId : UInt32) (bytes : Bytes) (reply : Nat)
  | consume (streamId : UInt32) (bytes : Nat)
  | close (streamId : UInt32)
  | resetStream (streamId : UInt32) (reason : UInt8)
  | readBytes (bytes : Bytes)
  | dropReader (streamId : UInt32)
  | dropWriter
  | retire
  deriving DecidableEq, Repr

inductive DriverReply where
  | opened (result : Except DialerError UInt32)
  | running (still : Bool)

namespace Driver

def dropReader (driver : Driver) (sid : UInt32) : Driver :=
  driver.assign sid ((driver.streams.lookup sid).map fun stream =>
    { stream with reading := false })

/-- `none` if the call panics. -/
def call (driver : Driver) : DriverCall → Option (Driver × DriverReply)
  | .openStream => some (driver.openStream.1, .opened driver.openStream.2)
  | .write sid bytes reply =>
      let (driver, still) := driver.write sid bytes reply
      some (driver, .running still)
  | .consume sid bytes => (driver.consume sid bytes).map fun (driver, still) => (driver, .running still)
  | .close sid =>
      let (driver, still) := driver.close sid
      some (driver, .running still)
  | .resetStream sid reason =>
      let (driver, still) := driver.resetStream sid reason
      some (driver, .running still)
  | .readBytes bytes =>
      let (driver, still) := driver.readBytes bytes
      some (driver, .running still)
  | .dropReader sid => some (driver.dropReader sid, .running true)
  | .dropWriter => some ({ driver with writing := false }, .running true)
  | .retire => some ({ driver with retired := true }, .running true)

end Driver

def driverMachine : Machine Driver DriverCall DriverReply where
  step := Driver.call

/-! ### Receive accounting -/

/-- What the reader has not consumed is what the window has debited. -/
def StreamState.Sound (st : StreamState) : Prop := st.receivedUnconsumed = st.receive.outstanding

def Driver.Sound (driver : Driver) : Prop := ∀ sid st, driver.streams.lookup sid = some st → st.Sound

theorem StreamState.Sound.new : StreamState.Sound {} := rfl

variable {st : StreamState}

theorem StreamState.Sound.debitReceived {next : StreamState} {bs : Nat}
    (sound : st.Sound) (debited : st.debitReceived bs = .ok next) : next.Sound := by
  unfold StreamState.debitReceived at debited
  split at debited
  · cases debited
  next win taken =>
    split at debited
    · cases debited
    next rcv counted =>
      cases debited
      show rcv = win.outstanding
      rw [RecvWindow.debit_outstanding taken, ← sound]
      exact checkedAdd_eq counted

/-- A report of consumed bytes is refused or taken; it never panics. -/
theorem StreamState.Sound.consumeReceived (sound : st.Sound) (bs : Nat) :
    st.consumeReceived bs = .error (.error .receiveConsumptionExceeded) ∨
      ∃ next grant, st.consumeReceived bs = .ok (next, grant) ∧ next.Sound := by
  unfold StreamState.consumeReceived
  split
  · exact Or.inl rfl
  next fits =>
    have owed : bs ≤ st.receive.outstanding := by
      rw [← sound]
      exact Nat.not_lt.mp fits
    obtain ⟨win, grant, taken⟩ := RecvWindow.consume_of_le owed
    rw [taken]
    refine Or.inr ⟨_, grant, rfl, ?_⟩
    show st.receivedUnconsumed - bs = win.outstanding
    rw [RecvWindow.consume_outstanding taken, ← sound]

namespace Driver

section
variable (drv : Driver)
include drv

@[simp] theorem queueFrame_streams (fr : Frame) : (drv.queueFrame fr).1.streams = drv.streams := by
  unfold queueFrame
  split
  · rfl
  · split <;> rfl

@[simp] theorem queueOk_streams (fr : Frame) :
    (drv.queueOk fr).1.streams = drv.streams := drv.queueFrame_streams fr

theorem queueFrame_inbound (fr : Frame) : (drv.queueFrame fr).1.inbound = drv.inbound := by
  unfold queueFrame
  split
  · rfl
  · split <;> rfl

@[simp] theorem queueOk_inbound (fr : Frame) :
    (drv.queueOk fr).1.inbound = drv.inbound := drv.queueFrame_inbound fr

@[simp] theorem notify_streams (sid : UInt32) (st : StreamState)
    (ev : InboundEvent) : (drv.notify sid st ev).1.streams = drv.streams := by
  unfold notify
  split <;> rfl

end

namespace Sound
variable {drv : Driver}

section
variable (sound : drv.Sound)
include sound

theorem of_streams {next : Driver} (same : next.streams = drv.streams) : next.Sound := by
  intro sid st hp
  rw [same] at hp
  exact sound sid st hp

theorem assign (sid : UInt32) {en : Option StreamState}
    (kept : ∀ st, en = some st → st.Sound) : (drv.assign sid en).Sound := by
  intro oid st hp
  by_cases same : oid = sid
  · subst same
    rw [Driver.assign, Table.lookup_assign] at hp
    exact kept st hp
  · rw [Driver.assign, Table.lookup_assign_of_ne _ same] at hp
    exact sound oid st hp

theorem remove (sid : UInt32) : (drv.assign sid none).Sound := sound.assign sid fun _ absurd => by cases absurd

theorem set (sid : UInt32) (kept : st.Sound) : (drv.assign sid (some st)).Sound := by
  apply sound.assign
  intro en same
  cases same
  exact kept

theorem queued {sid : UInt32} {fr : Frame} {after : Driver} {ans : Except DialerError Unit}
    (res : (drv.assign sid (some st)).queueFrame fr = (after, ans)) (kept : st.Sound) :
    after.Sound := by
  have same := queueFrame_streams (drv.assign sid (some st)) fr
  rw [res] at same
  exact (sound.set sid kept).of_streams same

theorem resetStream (sid : UInt32) (rsn : UInt8) : (drv.resetStream sid rsn).1.Sound := by
  unfold Driver.resetStream
  split
  · exact sound
  next st hp => exact (sound.remove sid).of_streams (by simp)

theorem openStream : drv.openStream.1.Sound := by
  unfold Driver.openStream
  split
  · exact sound
  · simp only
    split
    · exact sound.of_streams rfl
    · have queued := queueFrame_streams { drv with ids := drv.ids.allocate.1 }
        ⟨drv.ids.allocate.2, flagOpen, []⟩
      split
      next after err res =>
        rw [res] at queued
        exact sound.of_streams queued
      next after res =>
        rw [res] at queued
        exact Sound.set (sound.of_streams queued) _ .new

theorem write (sid : UInt32) (bs : Bytes) (rep : Nat) : (drv.write sid bs rep).1.Sound := by
  fun_cases Driver.write drv sid bs rep with
  | case1 | case2 => exact sound.of_streams rfl
  | case3 st hp => exact sound.set sid (sound sid st hp)
  | case4 st hp _ _ _ _ _ res | case5 st hp _ _ _ _ _ _ res =>
    exact (sound.queued res (sound sid st hp)).of_streams rfl

end

/-- Draining writes only spends send credit. -/
theorem drainFrom (sid : UInt32) (kept : st.Sound)
    (wait : List PendingWriteCommand) (sound : drv.Sound) :
    (Driver.drainFrom sid st wait drv).1.Sound := by
  induction wait generalizing st drv with
  | nil => exact sound
  | cons pend wait ih =>
    unfold Driver.drainFrom
    split
    · exact sound
    next send debited =>
      have assigned : (drv.assign sid (some { st with
          send := send, pendingWrites := wait })).Sound := sound.set sid kept
      have queued := queueFrame_streams (drv.assign sid (some { st with
        send := send, pendingWrites := wait })) ⟨sid, flagData, pend.bytes⟩
      simp only
      split
      next after res =>
        rw [res] at queued
        apply ih
        · exact kept
        · exact assigned.of_streams queued
      next after err res =>
        rw [res] at queued
        exact assigned.of_streams queued

section
variable (sound : drv.Sound)
include sound

theorem drainPendingWrites (sid : UInt32) : (drv.drainPendingWrites sid).1.Sound := by
  unfold Driver.drainPendingWrites
  split
  · exact sound
  next st hp => exact drainFrom sid (sound sid st hp) _ sound

theorem close (sid : UInt32) : (drv.close sid).1.Sound := by
  fun_cases Driver.close drv sid with
  | case1 | case2 => exact sound
  | case3 st hp _ _ _ _ res | case5 st hp _ _ _ res => exact sound.queued res (sound sid st hp)
  | case4 st hp _ _ _ res => exact (sound.queued res (sound sid st hp)).remove sid

/-- Consuming returns, whatever count is reported. -/
theorem consume (sid : UInt32) (bs : Nat) :
    ∃ next still, drv.consume sid bs = some (next, still) ∧ next.Sound := by
  unfold Driver.consume
  split
  · exact ⟨drv, true, rfl, sound⟩
  next st hp =>
    rcases (sound sid st hp).consumeReceived bs with refused | ⟨next, grant, taken, kept⟩
    · rw [refused]
      exact ⟨_, _, rfl, sound.resetStream sid resetProtocolError⟩
    · rw [taken]
      cases grant with
      | none => exact ⟨_, _, rfl, sound.set sid kept⟩
      | some grant => exact ⟨_, _, rfl, (sound.set sid kept).of_streams (queueOk_streams _ _)⟩

theorem receiveClose (fr : Frame) : (drv.receiveClose fr).1.Sound := by
  unfold Driver.receiveClose
  split
  · split
    · exact sound.resetStream fr.streamId _
    next st hp =>
      have assigned := sound.set fr.streamId (show StreamState.Sound { st with peerClosed := true } from
          sound fr.streamId st hp)
      have told := assigned.of_streams (notify_streams _ fr.streamId st (.ending .closed))
      simp only
      split
      · exact told.remove fr.streamId
      · exact told
  · exact sound

theorem receiveData (fr : Frame) : (drv.receiveData fr).1.Sound := by
  unfold Driver.receiveData
  split
  · exact sound.resetStream fr.streamId _
  next st hp =>
    split
    · exact sound.resetStream fr.streamId _
    · split
      · exact sound.resetStream fr.streamId _
      next next_ debited =>
        have assigned := sound.set fr.streamId ((sound fr.streamId st hp).debitReceived debited)
        have told := assigned.of_streams (notify_streams _ fr.streamId next_ (.data fr.payload))
        simp only
        split
        next after res =>
          rw [res] at told
          exact told.resetStream fr.streamId _
        next after res =>
          rw [res] at told
          exact told.receiveClose fr

theorem receive (fr : Frame) : (drv.receive fr).1.Sound := by
  unfold Driver.receive
  split
  · split
    · exact sound.of_streams (by simp)
    · exact sound
  split
  · exact sound.resetStream fr.streamId _
  split
  · unfold Driver.receiveWindow
    split
    · exact sound.resetStream fr.streamId _
    next cr =>
      split
      · exact sound.drainPendingWrites fr.streamId
      next st hp =>
        split
        next send granted =>
          apply drainPendingWrites
          exact sound.set fr.streamId (sound fr.streamId st hp)
        · exact sound.resetStream fr.streamId _
  split
  · unfold Driver.receiveReset
    split
    · exact sound
    next st hp => exact (sound.remove fr.streamId).of_streams (by simp)
  split
  · exact sound.receiveData fr
  · exact sound.receiveClose fr

theorem readFrames (fuel : Nat) : (Driver.readFrames fuel drv).1.Sound := by
  induction fuel generalizing drv with
  | zero => exact sound
  | succ fuel ih =>
    unfold Driver.readFrames
    split
    · exact sound.of_streams rfl
    · exact sound.of_streams rfl
    next dec fr taken =>
      have hd := Sound.receive (sound.of_streams (rfl : Driver.streams { drv with decoder := dec } = drv.streams)) fr
      split
      next after res =>
        rw [res] at hd
        exact hd
      next after res =>
        rw [res] at hd
        exact ih hd

theorem readBytes (bs : Bytes) : (drv.readBytes bs).1.Sound := by
  unfold Driver.readBytes
  have fed : Sound { drv with decoder := drv.decoder.feed bs } := sound.of_streams rfl
  exact fed.readFrames _

theorem call (call : DriverCall) : ∃ next rep, drv.call call = some (next, rep) ∧ next.Sound := by
  cases call with
  | openStream => exact ⟨_, _, rfl, sound.openStream⟩
  | write sid bs rep => exact ⟨_, _, rfl, sound.write sid bs rep⟩
  | consume sid bs =>
    obtain ⟨next, still, consumed, kept⟩ := sound.consume sid bs
    refine ⟨next, .running still, ?_, kept⟩
    rw [Driver.call, consumed]
    rfl
  | close sid => exact ⟨_, _, rfl, sound.close sid⟩
  | resetStream sid rsn => exact ⟨_, _, rfl, sound.resetStream sid rsn⟩
  | readBytes bs => exact ⟨_, _, rfl, sound.readBytes bs⟩
  | dropReader sid =>
    refine ⟨_, _, rfl, ?_⟩
    apply sound.assign
    intro en same
    obtain ⟨st, hp, rfl⟩ := Option.map_eq_some_iff.mp same
    exact sound sid st hp
  | dropWriter | retire => exact ⟨_, _, rfl, sound.of_streams rfl⟩

end

end Sound

theorem run_sound {drv : Driver} {calls : List DriverCall} {rs : List DriverReply}
    (ran : driverMachine.run {} calls = some (drv, rs)) : drv.Sound := by
  apply driverMachine.run_history (motive := fun drv _ _ => drv.Sound) _ _ ran
  · intro sid st hp
    cases hp
  · intro s calls rs call next rep sound hs
    obtain ⟨after, ans, called, kept⟩ := sound.call call
    have same : some (after, ans) = some (next, rep) := called.symm.trans hs
    cases same
    exact kept

/-- No call of a dialer's coordinator panics, whatever its streams and its peer do, and all bytes of a
stream's window are accounted for. -/
theorem calls_return (calls : List DriverCall) : ∃ driver replies, driverMachine.run {} calls = some (driver, replies) ∧
    ∀ streamId stream, driver.streams.lookup streamId = some stream →
      stream.receive.credit + stream.receive.unacked + stream.receivedUnconsumed = initialWindow := by
  induction calls using List.reverseRecOn with
  | nil => exact ⟨{}, [], rfl, fun _ _ live => by cases live⟩
  | append_singleton calls call ih =>
    obtain ⟨driver, replies, ran, -⟩ := ih
    obtain ⟨next, reply, called, sound⟩ := (run_sound ran).call call
    refine ⟨next, replies ++ [reply], driverMachine.run_append.mpr ⟨driver, replies, [reply], ran,
      driverMachine.run_cons.mpr ⟨next, reply, [], called, rfl, rfl⟩, rfl⟩, ?_⟩
    intro streamId stream live
    rw [sound streamId stream live]
    exact stream.receive.outstanding_eq

end Driver

end SplRust.Bridge
