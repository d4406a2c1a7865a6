import SplRust.Home.LaneReading
import SplRust.Home.LaneStaging

/-! What the acceptor does, seen from one lane: the items of a feed take the lane step by step,
and items of other streams leave it alone. -/

namespace SplRust.Home
open SplRust.Lib SplRust.Core List Lane MuxStreams Table

/-- Everything that holds of a lane in every run. -/
structure Lane.Sound (sid : UInt32) (lane : Lane) : Prop where
  opening : lane.Opening
  ordered : lane.Ordered
  writing : lane.Writing sid
  staged : lane.Staged
  reading : lane.Reading

namespace Lane.Sound
variable {sid : UInt32} {lane next : Lane}

theorem start (used : Bool) : Sound sid { used := used } :=
  ⟨.start used, .start used, .start used, .start used, .start used⟩

theorem step (sound : lane.Sound sid) (hs : LaneStep sid lane next) : next.Sound sid where
  opening := sound.opening.step hs
  ordered := sound.ordered.step sound.opening hs
  writing := sound.writing.step sound.opening sound.ordered hs
  staged := sound.staged.step sound.opening sound.writing hs
  reading := sound.reading.step sound.opening hs

theorem run (sound : lane.Sound sid) (path : Relation.ReflTransGen (LaneStep sid) lane next) : next.Sound sid := by
  induction path with
  | refl => exact sound
  | tail _ hs ih => exact ih.step hs

theorem since {past : Prop} {base : List Frame} (sound : lane.Sound sid)
    (since : lane.Since past base) (path : Relation.ReflTransGen (LaneStep sid) lane next) : next.Since past base := by
  induction path with
  | refl => exact since
  | tail path hs ih => exact ih.step (sound.run path).opening hs

end Lane.Sound

namespace MuxStreams

def passed (mux : MuxStreams) (sid : UInt32) : Bool := sid % 2 != 1 || decide (sid.toNat < mux.nextId)

theorem Fresh.not_passed {mux : MuxStreams} {sid : UInt32} (fresh : mux.Fresh sid) : mux.passed sid = false := by
  have free := fresh.nextId_le
  simp [passed, fresh.1, free]

theorem passed_of_used {mux : MuxStreams} {sid : UInt32} (used : sid.toNat < mux.nextId) : mux.passed sid = true := by
  simp [passed, used]

theorem passed_mono {mux next : MuxStreams} {sid : UInt32} (grows : mux.nextId ≤ next.nextId)
    (pre : mux.passed sid = true) : next.passed sid = true := by
  simp only [passed, Bool.or_eq_true, decide_eq_true_eq] at pre ⊢
  exact pre.imp_right fun used => used.trans_le grows

end MuxStreams

/-- The frames of one stream. -/
def framesOf (sid : UInt32) (frames : List Frame) : List Frame := frames.filter fun frame => frame.streamId = sid

@[simp]
theorem framesOf_append (sid : UInt32) (first second : List Frame) :
    framesOf sid (first ++ second) = framesOf sid first ++ framesOf sid second :=
  filter_append ..

/-- A lane after the acceptor took input: it is now in state `mux` and gave `output`. -/
def Lane.fed (lane : Lane) (sid : UInt32) (mux : MuxStreams) (output : MuxOutput) : Lane :=
  { (lane.report (output.eventsOf sid)).put (framesOf sid output.frames) with
    entry := mux.streams.lookup sid
    used := mux.passed sid
    ready := lane.ready || (decide (sid ∈ output.writableStreams) && lane.pending.isSome) }

@[simp]
theorem Lane.put_nil (lane : Lane) : lane.put [] = lane := by simp [Lane.put]

@[simp]
theorem Lane.report_nil (lane : Lane) : lane.report [] = lane := by simp [report]

theorem Lane.fed_eq {sid : UInt32} {mux : MuxStreams} {out : MuxOutput}
    {es : List MuxEvent} {fs : List Frame} (lane : Lane)
    (reported : out.eventsOf sid = es) (put : framesOf sid out.frames = fs)
    (unwritable : sid ∉ out.writableStreams) : lane.fed sid mux out = { (lane.report es).put fs with
        entry := mux.streams.lookup sid, used := mux.passed sid } := by
  simp [fed, reported, put, unwritable, report, Lane.put]

theorem Lane.fed_fed (lane : Lane) (sid : UInt32) (mid mux : MuxStreams) (early late : MuxOutput) :
    (lane.fed sid mid early).fed sid mux late = lane.fed sid mux (early ++ late) := by
  simp only [fed, report, Lane.put, MuxOutput.eventsOf_append, MuxOutput.frames_append,
    framesOf_append, MuxOutput.writableStreams_append, append_assoc, mem_append,
    Bool.decide_or, Bool.and_or_distrib_right, Bool.or_assoc]

theorem ItemEffect.frames_own {mux next : MuxStreams} {item : WireItem} {delta : MuxOutput}
    (eff : ItemEffect mux item next delta) : ∀ fr ∈ delta.frames, fr.streamId = item.streamId := by
  intro fr mem
  cases eff with
  | control zero _ _ answers => exact (answers fr mem).1.trans zero.symm
  | refused _ _ _ named =>
    rw [mem_singleton.mp mem, ← named]
    rfl
  | _ => cases mem

theorem ItemEffect.writable_own {mux next : MuxStreams} {item : WireItem} {delta : MuxOutput}
    (eff : ItemEffect mux item next delta) : ∀ sid ∈ delta.writableStreams, sid = item.streamId := by
  intro sid mem
  cases eff with
  | credited => exact mem_singleton.mp mem
  | _ => cases mem

section
variable {sid : UInt32} {lane : Lane} {mux next : MuxStreams} {item : WireItem} {delta : MuxOutput}

/-- An item of another stream can at most use up ids. -/
theorem ItemEffect.lane_other (eff : ItemEffect mux item next delta) (inv : mux.Inv)
    (ne : item.streamId ≠ sid) (hr : lane.running = true)
    (en : lane.entry = mux.streams.lookup sid) (used : lane.used = mux.passed sid) :
    Relation.ReflTransGen (LaneStep sid) lane (lane.fed sid next delta) := by
  have es : delta.eventsOf sid = [] := by rw [eff.eventsOf, if_neg ne]
  have fs : framesOf sid delta.frames = [] := by
    apply filter_eq_nil_iff.mpr
    intro fr mem
    simp [eff.frames_own fr mem, ne]
  have writable : sid ∉ delta.writableStreams := fun mem =>
    ne (eff.writable_own sid mem).symm
  have kept : lane.fed sid next delta = { lane with used := next.passed sid } := by
    simp [fed, report, Lane.put, es, fs, writable, eff.lookup_other (Ne.symm ne), en]
  rw [kept]
  by_cases same : next.passed sid = lane.used
  · rw [same]
  · have unused : mux.passed sid ≠ true := fun pre =>
      same ((MuxStreams.passed_mono (Reports.item inv eff).advances pre).trans (used.trans pre).symm)
    have raised : next.passed sid = true := by
      rw [used] at same
      cases after : next.passed sid <;> simp_all
    have abs : lane.entry = none := by
      rw [en]
      cases live : mux.streams.lookup sid with
      | none => rfl
      | some st => exact absurd (MuxStreams.passed_of_used (inv.used live)) unused
    rw [raised]
    exact .single (.passed hr abs)

/-- The frames a control frame is answered with. -/
theorem Lane.pongs (lane : Lane) (fs : List Frame) (pongs : ∀ fr ∈ fs, fr.flags = flagPong) :
    Relation.ReflTransGen (LaneStep sid) lane (lane.put fs) := by
  induction fs generalizing lane with
  | nil => rw [Lane.put, append_nil]
  | cons fr fs ih =>
    have fst : LaneStep sid lane (lane.put [fr]) := .control fr (pongs fr mem_cons_self)
    have rest := ih (lane.put [fr]) fun oid mem => pongs oid (mem_cons_of_mem _ mem)
    refine .head fst ?_
    simpa [Lane.put] using rest

theorem ItemEffect.lane_own (eff : ItemEffect mux item next delta) (inv : mux.Inv)
    (same : item.streamId = sid) (hr : lane.running = true)
    (en : lane.entry = mux.streams.lookup sid) (used : lane.used = mux.passed sid) :
    Relation.ReflTransGen (LaneStep sid) lane (lane.fed sid next delta) := by
  subst same
  have es : delta.eventsOf item.streamId = delta.events := by rw [eff.eventsOf, if_pos rfl]
  have fs : framesOf item.streamId delta.frames = delta.frames := by
    apply filter_eq_self.mpr
    intro fr mem
    simp [eff.frames_own fr mem]
  have kept (same : next.peerHighWater = mux.peerHighWater) : next.passed item.streamId = lane.used := by
    rw [used, MuxStreams.passed, MuxStreams.passed, nextId, nextId, same]
  cases eff with
  | control _ _ pongs answers =>
    rw [lane.fed_eq es fs not_mem_nil, kept rfl, ← en, report_nil]
    exact lane.pongs pongs fun pong mem => (answers pong mem).2
  | refused fnd cls highWater named st raised =>
    have still : mux.passed item.streamId = true →
        (mux.refused fnd.streamId cls highWater).passed item.streamId = true :=
      MuxStreams.passed_mono (Reports.item inv (.refused fnd cls highWater named st raised)).advances
    have gone : (mux.refused fnd.streamId cls highWater).streams.lookup item.streamId = none := by
      rw [← named]
      exact Finmap.lookup_erase _ _
    have kn : item.streamId ∈ mux.streams ↔ lane.entry.isSome = true := by
      rw [en, mem_iff_lookup, ← Option.ne_none_iff_isSome]
    rw [lane.fed_eq es fs not_mem_nil, gone]
    simp only [refusalOutput, named, kn]
    rw [named, ← used] at still
    exact .single (.refused hr cls _ still)
  | tolerated => rw [lane.fed_eq es fs not_mem_nil, kept rfl, ← en, report_nil, put_nil]
  | @opened fr win _ _ fresh _ debited =>
    have now : MuxStreams.passed { mux with
        peerHighWater := some fr.streamId
        streams := mux.streams.insert fr.streamId {
          receiveWindow := win, debitedNotConsumed := fr.payload.length
          peerClosed := fr.flags &&& flagClose != 0 } } fr.streamId = true :=
      MuxStreams.passed_of_used (Nat.lt_succ_self _)
    rw [lane.fed_eq es fs not_mem_nil, put_nil]
    simp only [WireItem.streamId, now, Finmap.lookup_insert]
    exact .single (.opened hr (en.trans (inv.absent fresh)) (used.trans fresh.not_passed) fr debited)
  | @data fr _ _ closes live reading debited =>
    rw [lane.fed_eq es fs not_mem_nil, kept rfl, put_nil]
    simp only [WireItem.streamId, lookup_assign]
    exact .single (.data hr fr.payload closes (en.trans live) reading debited)
  | @closed _ _ live =>
    rw [lane.fed_eq es fs not_mem_nil, kept rfl, put_nil]
    simp only [WireItem.streamId, lookup_assign]
    exact .single (.closed hr (en.trans live))
  | @reset _ _ rsn live =>
    rw [lane.fed_eq es fs not_mem_nil, kept rfl, put_nil]
    simp only [WireItem.streamId, lookup_assign]
    exact .single (.peerReset hr (.fromWire rsn) (en.trans live))
  | @credited _ _ cr live =>
    rw [fed, es, fs, kept rfl, report_nil, put_nil]
    simp only [WireItem.streamId, lookup_assign, mem_singleton, decide_true, Bool.true_and]
    exact .single (.credited hr cr.toNat (en.trans live))

theorem items_lane {items : List WireItem} {out : MuxOutput} (inv : mux.Inv)
    (hd : handleItems items mux {} = (next, .ok out))
    (hr : lane.running = true) (en : lane.entry = mux.streams.lookup sid) (used : lane.used = mux.passed sid) :
    Relation.ReflTransGen (LaneStep sid) lane (lane.fed sid next out) := by
  refine handleItems_induction (motive := fun mux _ next out => ∀ lane : Lane, mux.Inv → lane.running = true →
      lane.entry = mux.streams.lookup sid → lane.used = mux.passed sid →
      Relation.ReflTransGen (LaneStep sid) lane (lane.fed sid next out))
    ?_ ?_ hd lane inv hr en used
  · intro mux lane inv hr en used
    rw [lane.fed_eq rfl rfl not_mem_nil, ← en, ← used]
    simp only [MuxOutput.eventsOf, framesOf, filter_nil, report_nil, put_nil]
    exact .refl
  · intro mux item mid delta items next out eff _ ih lane inv hr en used
    have fst : Relation.ReflTransGen (LaneStep sid) lane (lane.fed sid mid delta) := by
      by_cases same : item.streamId = sid
      · exact eff.lane_own inv same hr en used
      · exact eff.lane_other inv same hr en used
    have rest := ih (lane.fed sid mid delta) (inv.item eff) hr rfl rfl
    rw [fed_fed] at rest
    exact fst.trans rest

end

namespace MuxStreams
variable {mux : MuxStreams} {sid : UInt32}

def Writable (mux : MuxStreams) (sid : UInt32) : Prop :=
  ∃ st, mux.streams.lookup sid = some st ∧ st.localClosed = false

theorem not_writable_of_absent (abs : mux.streams.lookup sid = none) : ¬ mux.Writable sid := by
  rintro ⟨_, live, -⟩
  rw [abs] at live
  cases live

theorem not_writable_of_closed {st : StreamState}
    (live : mux.streams.lookup sid = some st) (closed : st.localClosed = true) : ¬ mux.Writable sid := by
  rintro ⟨_, again, open_⟩
  rw [Option.some.inj (again.symm.trans live), closed] at open_
  cases open_

/-- Bytes within a chunk are refused on a closed stream, held back, or sent. -/
theorem trySendData_cases (mux : MuxStreams) (sid : UInt32) {bs : Bytes} (small : bs.length ≤ recommendedChunk) :
    (¬ mux.Writable sid ∧ mux.trySendData sid bs = (mux, .error .closed)) ∨
    ∃ st, mux.streams.lookup sid = some st ∧ st.localClosed = false ∧
      ((st.sendCredit < bs.length ∧ mux.trySendData sid bs = (mux, .ok none)) ∨
        (bs.length ≤ st.sendCredit ∧ mux.trySendData sid bs = ({ mux with
              streams := assign mux.streams sid (some { st with
                sendCredit := st.sendCredit - bs.length }) },
            .ok (some { frames := [⟨sid, flagData, bs⟩] })))) := by
  unfold trySendData
  rw [if_neg (Nat.not_lt.mpr small)]
  cases live : mux.streams.lookup sid with
  | none => exact .inl ⟨not_writable_of_absent live, rfl⟩
  | some st =>
    by_cases closed : st.localClosed = true
    · exact .inl ⟨not_writable_of_closed live closed, by simp [closed]⟩
    · refine .inr ⟨st, rfl, Bool.eq_false_iff.mpr closed, ?_⟩
      by_cases short : bs.length > st.sendCredit
      · exact .inl ⟨short, by simp [closed, short]⟩
      · refine .inr ⟨Nat.not_lt.mp short, ?_⟩
        simp only [if_neg closed, if_neg short, checkedSub_of_le (Nat.not_lt.mp short)]
        rfl

theorem closeWrite_cases (mux : MuxStreams) (sid : UInt32) :
    (¬ mux.Writable sid ∧ mux.closeWrite sid = (mux, .error .closed)) ∨
    ∃ st, mux.streams.lookup sid = some st ∧ st.localClosed = false ∧ mux.closeWrite sid = ({ mux with
            streams := assign mux.streams sid
              (if st.peerClosed then none else some { st with localClosed := true }) },
          .ok { frames := [⟨sid, flagClose, []⟩] }) := by
  unfold closeWrite
  cases live : mux.streams.lookup sid with
  | none => exact .inl ⟨not_writable_of_absent live, rfl⟩
  | some st =>
    by_cases closed : st.localClosed = true
    · exact .inl ⟨not_writable_of_closed live closed, by simp [closed]⟩
    · refine .inr ⟨st, rfl, Bool.eq_false_iff.mpr closed, ?_⟩
      by_cases both : st.peerClosed = true
      · simp only [if_neg closed, if_pos both, removeStream, erase_insert]
        rfl
      · simp only [if_neg closed, if_neg both]
        rfl

theorem reset_cases (mux : MuxStreams) (sid : UInt32) (rsn : ResetReason) :
    (mux.streams.lookup sid = none ∧ mux.reset sid rsn = (mux, .error .closed)) ∨
    ∃ st, mux.streams.lookup sid = some st ∧ mux.reset sid rsn =
      ({ mux with streams := assign mux.streams sid none }, .ok { frames := [.reset sid rsn.code] }) := by
  unfold reset
  by_cases kn : sid ∈ mux.streams
  · obtain ⟨st, live⟩ := Option.ne_none_iff_exists'.mp (mem_iff_lookup.mp kn)
    exact .inr ⟨st, live, by rw [if_neg (not_not.mpr kn)]; rfl⟩
  · exact .inl ⟨Finmap.lookup_eq_none.mpr kn, if_pos kn⟩

theorem consume_absent (abs : mux.streams.lookup sid = none) (bs : Nat) :
    mux.consume sid bs = (mux, .error (.error .closed)) := by
  simp [consume, abs]

theorem consume_fits {st : StreamState} {bs : Nat} (inv : mux.Inv) (live : mux.streams.lookup sid = some st)
    (fits : bs ≤ st.debitedNotConsumed) :
    ∃ (win : RecvWindow) (grant : Option UInt32), mux.consume sid bs = ({ mux with
          streams := assign mux.streams sid (some { st with
            receiveWindow := win, debitedNotConsumed := st.debitedNotConsumed - bs }) },
        .ok { frames := (grant.map (Frame.window sid)).toList }) := by
  cases taken : st.receiveWindow.consume bs with
  | none => exact absurd taken ((inv.sound sid st live).consume_defined fits)
  | some pair =>
    obtain ⟨win, grant⟩ := pair
    refine ⟨win, grant, ?_⟩
    simp only [consume, live, if_neg (Nat.not_lt.mpr fits), taken, checkedSub_of_le fits]
    rfl

end MuxStreams

end SplRust.Home
