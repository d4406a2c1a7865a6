import SplRust.Home.AcceptorFeed

/-! The representation invariant of the acceptor, kept by every frame a hostile peer can
send and by every local call. -/

namespace SplRust.Home
open SplRust.Lib SplRust.Core List RecvWindow MuxStreams Table MuxOutput
variable {mux : MuxStreams} {sid : UInt32} {delta : MuxOutput} {call : LocalCall}

/-- A live stream's receive window is accounted for by what was delivered and not yet
consumed, its send credit is within the protocol cap, and one side is still open. -/
structure StreamState.Sound (st : StreamState) : Prop where
  accounted : st.receiveWindow.credit + st.receiveWindow.unacked + st.debitedNotConsumed = initialWindow
  capped : st.sendCredit ≤ maxSendCredit
  open_side : ¬ (st.peerClosed = true ∧ st.localClosed = true)

namespace StreamState.Sound
variable {win : RecvWindow} {st : StreamState}

theorem opened {pl : Bytes} (peerClosed : Bool)
    (debited : new.debit pl.length = .ok win) : StreamState.Sound {
      receiveWindow := win, debitedNotConsumed := pl.length, peerClosed := peerClosed } := by
  obtain ⟨-, spent, unacked⟩ := debit_ok debited
  simp only [new] at spent unacked
  exact ⟨by simp only; omega, (by decide : initialWindow ≤ maxSendCredit), by simp⟩

section
variable (sound : st.Sound)
include sound

theorem closed {next : StreamState} (en : closedEntry st = some next) : next.Sound := by
  unfold closedEntry at en
  split at en
  · cases en
  next opened =>
    cases en
    exact ⟨sound.accounted, sound.capped, fun both => opened both.2⟩

theorem data {next : StreamState} {length : Nat} {closes : Bool}
    (debited : st.receiveWindow.debit length = .ok win)
    (en : dataEntry st win length closes = some next) : next.Sound := by
  obtain ⟨-, _, _⟩ := debit_ok debited
  have rcv : StreamState.Sound { st with
      receiveWindow := win, debitedNotConsumed := st.debitedNotConsumed + length } := by
    refine ⟨?_, sound.capped, sound.open_side⟩
    have := sound.accounted
    simp only
    omega
  cases closes with
  | true => exact rcv.closed en
  | false =>
    cases en
    exact rcv

theorem consumed {bs : Nat} {grant : Option UInt32} (fits : bs ≤ st.debitedNotConsumed)
    (taken : st.receiveWindow.consume bs = some (win, grant)) : StreamState.Sound { st with
      receiveWindow := win, debitedNotConsumed := st.debitedNotConsumed - bs } := by
  obtain ⟨-, _, _⟩ := consume_some taken
  refine ⟨?_, sound.capped, sound.open_side⟩
  have := sound.accounted
  simp only
  omega

theorem consume_defined {bs : Nat}
    (fits : bs ≤ st.debitedNotConsumed) : st.receiveWindow.consume bs ≠ none := by
  have tot := sound.accounted
  have outstanding := st.receiveWindow.outstanding_eq
  have paid : bs ≤ st.receiveWindow.outstanding := by omega
  obtain ⟨_, _, taken⟩ := consume_of_le paid
  simp [taken]

end

end StreamState.Sound

/-- The invariant of the streams of an acceptor. -/
structure MuxStreams.Inv (mux : MuxStreams) : Prop where
  sound : ∀ sid st, mux.streams.lookup sid = some st → st.Sound
  odd : ∀ sid ∈ mux.streams, sid % 2 = 1
  below : ∀ sid ∈ mux.streams, ∃ highest, mux.peerHighWater = some highest ∧ sid ≤ highest
  count : mux.streams.keys.card ≤ mux.limits.maxConcurrentStreams
  counters : ∀ refusalClass, mux.refusals.get refusalClass ≤ wordMax

namespace MuxStreams.Inv
variable {mux next : MuxStreams} {sid : UInt32}

section
variable (inv : mux.Inv)
include inv

theorem assign {st : StreamState} {en : Option StreamState} (live : mux.streams.lookup sid = some st)
    (sound : ∀ next, en = some next → next.Sound) :
    MuxStreams.Inv { mux with streams := Table.assign mux.streams sid en } := by
  have kn : sid ∈ mux.streams := Finmap.mem_of_lookup_eq_some live
  have within : ∀ oid ∈ Table.assign mux.streams sid en, oid ∈ mux.streams := by
    intro oid mem
    by_cases same : oid = sid
    · rwa [same]
    · rwa [mem_iff_lookup, lookup_assign_of_ne _ same, ← mem_iff_lookup] at mem
  refine ⟨fun oid next hp => ?_, fun oid mem => inv.odd oid (within oid mem),
    fun oid mem => inv.below oid (within oid mem), ?_, inv.counters⟩
  · by_cases same : oid = sid
    · subst same
      exact sound next (by rwa [lookup_assign] at hp)
    · rw [lookup_assign_of_ne _ same] at hp
      exact inv.sound oid next hp
  · cases en with
    | none => exact (card_erase_le _ _).trans inv.count
    | some next => exact (card_insert_of_mem _ next kn).trans_le inv.count

theorem raised (fresh : mux.Fresh sid) : ∀ oid ∈ mux.streams, oid ≤ sid := by
  intro oid mem
  obtain ⟨highest, high, bounded⟩ := inv.below oid mem
  exact UInt32.le_of_lt (UInt32.lt_of_le_of_lt bounded (fresh.2 highest high))

theorem refused {highWater : Option UInt32} (refusalClass : RefusalClass)
    (raised : highWater = mux.peerHighWater ∨ (mux.Fresh sid ∧ highWater = some sid)) :
    (mux.refused sid refusalClass highWater).Inv := by
  have within : ∀ oid ∈ mux.streams.erase sid, oid ∈ mux.streams := fun oid mem => (Finmap.mem_erase.mp mem).2
  refine ⟨fun oid next hp => ?_, fun oid mem => inv.odd oid (within oid mem),
    fun oid mem => ?_, (card_erase_le _ _).trans inv.count, fun counted => ?_⟩
  · have ne : oid ≠ sid := by
      rintro rfl
      rw [MuxStreams.refused, Finmap.lookup_erase] at hp
      cases hp
    rw [MuxStreams.refused, Finmap.lookup_erase_ne ne] at hp
    exact inv.sound oid next hp
  · rcases raised with same | ⟨fresh, same⟩
    · rw [MuxStreams.refused, same]
      exact inv.below oid (within oid mem)
    · exact ⟨sid, same, inv.raised fresh oid (within oid mem)⟩
  · rw [MuxStreams.refused, RefusalCounts.get_record _ (inv.counters counted)]
    exact Nat.min_le_right _ _

theorem item {item : WireItem} (eff : ItemEffect mux item next delta) : next.Inv := by
  cases eff with
  | control | tolerated => exact inv
  | refused _ refusalClass _ _ _ raised => exact inv.refused refusalClass raised
  | @opened fr _ _ _ fresh room debited =>
    refine ⟨fun oid next hp => ?_, fun oid mem => ?_, fun oid mem => ?_, ?_, inv.counters⟩
    · by_cases same : oid = fr.streamId
      · subst same
        rw [Finmap.lookup_insert, Option.some.injEq] at hp
        exact hp ▸ StreamState.Sound.opened _ debited
      · rw [Finmap.lookup_insert_of_ne _ same] at hp
        exact inv.sound oid next hp
    · rcases (Finmap.mem_insert).mp mem with same | kn
      · exact same ▸ fresh.1
      · exact inv.odd oid kn
    · rcases (Finmap.mem_insert).mp mem with same | kn
      · exact ⟨fr.streamId, rfl, same ▸ UInt32.le_refl _⟩
      · exact ⟨fr.streamId, rfl, inv.raised fresh oid kn⟩
    · exact (card_insert_le _ _ _).trans room
  | data _ live _ debited => exact inv.assign live fun next en => (inv.sound _ _ live).data debited en
  | closed live => exact inv.assign live fun next en => (inv.sound _ _ live).closed en
  | reset live => exact inv.assign live fun next en => by cases en
  | credited live _ _ capped =>
    refine inv.assign live fun next en => ?_
    cases en
    exact ⟨(inv.sound _ _ live).accounted, capped, (inv.sound _ _ live).open_side⟩

theorem local_call {rep : AcceptorReply} (eff : LocalEffect mux call next rep) : next.Inv := by
  cases eff with
  | failed | panicked | withheld => exact inv
  | consumed live fits taken =>
    refine inv.assign live fun next en => ?_
    cases en
    exact (inv.sound _ _ live).consumed fits taken
  | sent live =>
    refine inv.assign live fun next en => ?_
    cases en
    obtain ⟨accounted, capped, open_side⟩ := inv.sound _ _ live
    exact ⟨accounted, (Nat.sub_le _ _).trans capped, open_side⟩
  | @closed _ _ live =>
    refine inv.assign live fun next en => ?_
    obtain ⟨accounted, capped, -⟩ := inv.sound _ _ live
    split at en
    · cases en
    next reading =>
      cases en
      exact ⟨accounted, capped, fun both => reading both.1⟩
  | reset live => exact inv.assign live fun next en => by cases en

theorem no_panic {rep : AcceptorReply} (eff : LocalEffect mux call next rep) : rep ≠ .error .panic := by
  cases eff with
  | panicked live fits broken => exact absurd broken ((inv.sound _ _ live).consume_defined fits)
  | _ => simp

end

end MuxStreams.Inv

/-! ### What outputs report -/

def MuxOutput.openedIds (output : MuxOutput) : List UInt32 :=
  output.events.filterMap fun event => match event with
    | .opened sid => some sid
    | _ => none

/-- The RESET frame that answers a refused frame. -/
def Refusal.answer (refusal : Refusal) : Option Frame :=
  refusal.violation.map fun found => .reset found.streamId refusal.refusalClass.resetCode

def MuxOutput.resets (output : MuxOutput) : List Frame := output.frames.filter fun frame => frame.flags = flagReset

def MuxOutput.refusalCount (output : MuxOutput) (refusalClass : RefusalClass) : Nat :=
  output.refusals.countP fun refusal => refusal.refusalClass = refusalClass

/-- A bound below every id the peer may still open. -/
def MuxStreams.nextId (mux : MuxStreams) : Nat :=
  match mux.peerHighWater with
  | none => 0
  | some highest => highest.toNat + 1

theorem MuxStreams.Fresh.nextId_le (fresh : mux.Fresh sid) : mux.nextId ≤ sid.toNat := by
  unfold nextId
  split
  · exact Nat.zero_le _
  next highest high => exact UInt32.lt_iff_toNat_lt.mp (fresh.2 highest high)

theorem MuxStreams.Inv.used {st : StreamState} (inv : mux.Inv)
    (live : mux.streams.lookup sid = some st) : sid.toNat < mux.nextId := by
  obtain ⟨_, high, bounded⟩ := inv.below sid (Finmap.mem_of_lookup_eq_some live)
  have := UInt32.le_iff_toNat_le.mp bounded
  simp only [nextId, high]
  omega

theorem MuxStreams.Inv.absent (inv : mux.Inv) (fresh : mux.Fresh sid) : mux.streams.lookup sid = none := by
  cases live : mux.streams.lookup sid with
  | none => rfl
  | some st =>
    have := inv.used live
    have := fresh.nextId_le
    omega

/-- Each refusal is answered with a RESET, and no other RESET is sent. -/
def MuxOutput.Answered (out : MuxOutput) : Prop := out.resets.map some = out.refusals.map Refusal.answer

theorem MuxOutput.Answered.append {early late : MuxOutput} (one : early.Answered)
    (two : late.Answered) : (early ++ late).Answered := by
  unfold MuxOutput.Answered at one two ⊢
  simp [resets, ← one, ← two]

theorem ItemEffect.answered {next : MuxStreams} {item : WireItem}
    (eff : ItemEffect mux item next delta) : delta.Answered := by
  cases eff with
  | control _ _ pongs answers =>
    have none_sent : resets { frames := pongs } = [] := by
      refine filter_eq_nil_iff.mpr fun pong mem => ?_
      rw [(answers pong mem).2]
      decide
    rw [MuxOutput.Answered, none_sent]
    rfl
  | _ => rfl

theorem LocalEffect.answered {next : MuxStreams} {output : MuxOutput}
    (eff : LocalEffect mux call next (.ok (some output)))
    (oid : ∀ sid rsn, call ≠ .reset sid rsn) : output.Answered := by
  cases eff with
  | @consumed _ _ _ _ grant => cases grant <;> rfl
  | sent | closed => rfl
  | reset => exact absurd rfl (oid _ _)

/-- A transition reports the refusals it counts and opens increasing ids above all
earlier ones. -/
structure Reports (mux next : MuxStreams) (out : MuxOutput) : Prop where
  counted : ∀ refusalClass, next.refusals.get refusalClass =
    saturatingAdd (mux.refusals.get refusalClass) (out.refusalCount refusalClass)
  advances : mux.nextId ≤ next.nextId
  increasing : out.openedIds.Pairwise (· < ·)
  fresh : ∀ sid ∈ out.openedIds, mux.nextId ≤ sid.toNat ∧ sid.toNat < next.nextId

namespace Reports
variable {mux next : MuxStreams} {output : MuxOutput}

theorem refl (small : ∀ refusalClass, mux.refusals.get refusalClass ≤ wordMax) : Reports mux mux {} where
  counted refusalClass := (saturatingAdd_zero (small refusalClass)).symm
  advances := Nat.le_refl _
  increasing := .nil
  fresh := by simp [openedIds]

theorem trans {fst snd third : MuxStreams} {early late : MuxOutput}
    (one : Reports fst snd early) (two : Reports snd third late) : Reports fst third (early ++ late) where
  counted refusalClass := by
    rw [two.counted, one.counted, saturatingAdd_saturatingAdd]
    simp [refusalCount]
  advances := one.advances.trans two.advances
  increasing := by
    simp only [openedIds, events_append, filterMap_append]
    refine pairwise_append.mpr ⟨one.increasing, two.increasing, fun a pre b after => ?_⟩
    exact UInt32.lt_iff_toNat_lt.mpr (Nat.lt_of_lt_of_le (one.fresh a pre).2 (two.fresh b after).1)
  fresh := by
    intro sid mem
    simp only [openedIds, events_append, filterMap_append, mem_append] at mem
    rcases mem with pre | after
    · exact ⟨(one.fresh sid pre).1, (one.fresh sid pre).2.trans_le two.advances⟩
    · exact ⟨one.advances.trans (two.fresh sid after).1, (two.fresh sid after).2⟩

/-- A transition that refuses nothing and opens nothing. -/
theorem quiet (inv : mux.Inv) (refusals : next.refusals = mux.refusals)
    (high : next.peerHighWater = mux.peerHighWater) (none_refused : output.refusals = [])
    (none_opened : output.openedIds = []) : Reports mux next output where
  counted refusalClass := by
    rw [refusals, refusalCount, none_refused]
    exact (saturatingAdd_zero (inv.counters refusalClass)).symm
  advances := by rw [nextId, nextId, high]
  increasing := by simp [none_opened]
  fresh := by simp [none_opened]

theorem item {item : WireItem} (inv : mux.Inv)
    (eff : ItemEffect mux item next delta) : Reports mux next delta := by
  cases eff with
  | control => exact quiet inv rfl rfl rfl rfl
  | refused fnd refusalClass _ _ _ raised =>
    have none_opened : (mux.refusalOutput fnd refusalClass).openedIds = [] := by
      simp only [refusalOutput, openedIds]
      split <;> rfl
    refine ⟨fun counted => ?_, ?_, by simp [none_opened], by simp [none_opened]⟩
    · rw [MuxStreams.refused, RefusalCounts.get_record _ (inv.counters counted)]
      by_cases same : refusalClass = counted <;> simp [refusalCount, refusalOutput, same]
    · rcases raised with same | ⟨fresh, same⟩
      · exact Nat.le_of_eq (by rw [nextId, nextId, MuxStreams.refused, same])
      · have := fresh.nextId_le
        simp only [MuxStreams.refused, same, nextId] at this ⊢
        omega
  | tolerated => exact refl inv.counters
  | @opened fr _ _ _ fresh =>
    have one : openedIds { events := [.opened fr.streamId] ++ (if fr.payload ≠ [] ∨ fr.flags &&& flagData ≠ 0 then
          [.data fr.streamId fr.payload] else []) ++
        (if fr.flags &&& flagClose ≠ 0 then [.readClosed fr.streamId] else []) } =
        [fr.streamId] := by
      simp only [openedIds]
      split <;> split <;> rfl
    have above := fresh.nextId_le
    refine ⟨fun counted => (saturatingAdd_zero (inv.counters counted)).symm, ?_, ?_, ?_⟩
    · exact Nat.le_succ_of_le above
    · rw [one]
      exact pairwise_singleton _ _
    · rw [one]
      intro sid mem
      rw [mem_singleton.mp mem]
      exact ⟨above, Nat.lt_succ_self _⟩
  | data closes =>
    refine quiet inv rfl rfl rfl ?_
    cases closes <;> rfl
  | closed | reset | credited => exact quiet inv rfl rfl rfl rfl

theorem items {items : List WireItem} (inv : mux.Inv)
    (hd : handleItems items mux {} = (next, .ok output)) : Reports mux next output := by
  refine handleItems_induction (motive := fun mux _ next output => mux.Inv → Reports mux next output)
    (fun mux inv => refl inv.counters) (fun eff _ later inv => ?_) hd inv
  exact (item inv eff).trans (later (inv.item eff))

theorem local_call (inv : mux.Inv)
    (eff : LocalEffect mux call next (.ok (some output))) : Reports mux next output := by
  cases eff <;> exact quiet inv rfl rfl rfl rfl

end Reports

end SplRust.Home
