import SplRust.Bridge.Jwks

/-! Whether the keys of a fetch are still in the cache when its waiters are answered. -/

namespace SplRust.Bridge
open SplRust.Lib SplRust.Core List Entries

/-- An entry for a key that was not fetched, with no earlier expiry than the fetched ones. -/
def CachedJwk.late (expiresAt : Nat) (keys : Entries Text VerifyingKey) (entry : Text × CachedJwk) : Bool :=
  keys.get entry.1 = none ∧ expiresAt ≤ entry.2.expiresAt

namespace JwksCache
variable {expiresAt : Nat} {cache kept after : JwksCache} {keys fetched : Entries Text VerifyingKey}
  {kid : Text} {key : VerifyingKey} {en : Text × CachedJwk}

theorem exists_earliest (mem : en ∈ cache) : ∃ fst ∈ cache, cache.earliest fst.1 = true ∧
      ∀ oid ∈ cache, fst.2.expiresAt ≤ oid.2.expiresAt := by
  have some_ : cache ≠ [] := ne_nil_of_mem mem
  have least : ∀ oid ∈ cache, (cache.minOn (fun en => en.2.expiresAt) some_).2.expiresAt ≤ oid.2.expiresAt :=
    fun oid there => List.apply_minOn_le_of_mem (f := fun en => en.2.expiresAt) there
  exact ⟨_, List.minOn_mem, earliest_iff.mpr ⟨_, List.minOn_mem, rfl, least⟩, least⟩

theorem MakesRoom.sublist (room : cache.MakesRoom kid kept) : kept.Sublist cache := by
  unfold MakesRoom at room
  split at room
  · obtain ⟨_, -, rfl⟩ := room
    exact filter_sublist
  · exact room ▸ List.Sublist.refl _

theorem MakesRoom.grows (room : cache.MakesRoom kid kept) (distinct : Entries.Distinct cache)
    (value : CachedJwk) : cache.length ≤ (Entries.insert kept kid value).length := by
  have subset := room.subset
  unfold MakesRoom at room
  rw [Entries.insert, length_cons]
  cases hp : cache.get kid with
  | some en =>
    rw [hp, if_neg (by simp)] at room
    rw [room]
    exact Nat.le_of_eq (distinct.length_remove (mem_of_get hp)).symm
  | none =>
    have abs : Entries.get kept kid = none := by
      rw [get_eq_none_iff] at hp ⊢
      exact fun mem => hp (map_subset _ subset mem)
    rw [remove_of_get abs]
    split at room
    · obtain ⟨_, fst, rfl⟩ := room
      obtain ⟨_, mem, rfl, -⟩ := earliest_iff.mp fst
      exact Nat.le_of_eq (distinct.length_remove mem).symm
    · exact room ▸ Nat.le_succ _

theorem late_insert {value : CachedJwk} (own : kid ∈ fetched.map Prod.fst) :
    (Entries.insert kept kid value).countP (CachedJwk.late expiresAt fetched) =
      kept.countP (CachedJwk.late expiresAt fetched) := by
  have here : ∀ en : Text × CachedJwk, CachedJwk.late expiresAt fetched en = true → en.1 ≠ kid := by
    rintro en late rfl
    exact get_eq_none_iff.mp (of_decide_eq_true late).1 own
  rw [Entries.insert, countP_cons_of_neg fun late => here _ late rfl, remove, countP_filter]
  refine countP_congr fun en mem => ?_
  simpa using here en

variable (expiresAt) in
theorem length_of_late (distinct : Entries.Distinct cache) (absent : cache.get kid = none)
    (own : kid ∈ fetched.map Prod.fst) (unexpired : ∀ entry ∈ cache, expiresAt ≤ entry.2.expiresAt) :
    cache.length + 1 ≤ cache.countP (CachedJwk.late expiresAt fetched) + fetched.length := by
  let rest := cache.filter fun entry => ¬ CachedJwk.late expiresAt fetched entry = true
  have nodup : (kid :: rest.map Prod.fst).Nodup := by
    refine nodup_cons.mpr ⟨fun mem => ?_, distinct.sublist filter_sublist⟩
    exact get_eq_none_iff.mp absent (map_subset _ filter_sublist.subset mem)
  have covers : kid :: rest.map Prod.fst ⊆ fetched.map Prod.fst := by
    refine cons_subset.mpr ⟨own, fun other mem => ?_⟩
    obtain ⟨_, there, rfl⟩ := mem_map.mp mem
    obtain ⟨there, early⟩ := mem_filter.mp there
    by_contra unknown
    have late := decide_eq_true (And.intro (get_eq_none_iff.mpr unknown) (unexpired _ there))
    exact of_decide_eq_true early late
  have bound := (List.Nodup.subperm nodup covers).length_le
  have split := cache.length_eq_countP_add_countP (CachedJwk.late expiresAt fetched)
  rw [countP_eq_length_filter (p := fun entry => decide _)] at split
  simp only [length_cons, length_map] at bound
  change _ = _ + rest.length at split
  omega

/-- As long as there is room for the fetched keys and the late ones, none of them is evicted. -/
theorem MakesRoom.spares (room : cache.MakesRoom kid kept) (distinct : Entries.Distinct cache)
    (own : kid ∈ fetched.map Prod.fst) (spare : cache.countP (CachedJwk.late expiresAt fetched) + fetched.length ≤
      max jwksCacheLimit cache.length)
    (mem : en ∈ cache) (expires : expiresAt ≤ en.2.expiresAt) : en ∈ kept := by
  unfold MakesRoom at room
  split at room
  · next full =>
    obtain ⟨_, fst, rfl⟩ := room
    obtain ⟨_, there, rfl, least⟩ := earliest_iff.mp fst
    refine mem_remove.mpr ⟨mem, fun twin => ?_⟩
    have same := distinct.same mem there twin
    have crowded := length_of_late expiresAt distinct full.1 own fun oid there =>
      Nat.le_trans (same ▸ expires) (least oid there)
    omega
  · exact room ▸ mem

/-- The insertions lose no key that they insert, and no entry that expires later. -/
structure Keeps (expiresAt : Nat) (cache : JwksCache) (keys : Entries Text VerifyingKey)
    (after : JwksCache) : Prop where
  old : ∀ en ∈ cache, en.1 ∉ keys.map Prod.fst → expiresAt ≤ en.2.expiresAt → en ∈ after
  new : ∀ en ∈ keys, (en.1, ⟨en.2, expiresAt⟩) ∈ after

theorem Keeps.cons (rest : Keeps expiresAt (Entries.insert kept kid ⟨key, expiresAt⟩) keys after)
    (spares : ∀ en ∈ cache, expiresAt ≤ en.2.expiresAt → en ∈ kept)
    (fresh : kid ∉ keys.map Prod.fst) : Keeps expiresAt cache ((kid, key) :: keys) after where
  old en mem oid expires := by
    rw [map_cons, mem_cons, not_or] at oid
    have still := mem_remove.mpr ⟨spares en mem expires, oid.1⟩
    exact rest.old en (mem_cons_of_mem _ still) oid.2 expires
  new en mem := by
    rcases mem_cons.mp mem with rfl | later
    · exact rest.old _ mem_cons_self fresh (Nat.le_refl _)
    · exact rest.new en later

theorem Inserts.keeps (inserts : cache.Inserts expiresAt keys after)
    (distinct : Entries.Distinct cache) (once : Entries.Distinct keys) (sub : keys.map Prod.fst ⊆ fetched.map Prod.fst)
    (spare : cache.countP (CachedJwk.late expiresAt fetched) + fetched.length ≤
      max jwksCacheLimit cache.length) : Keeps expiresAt cache keys after := by
  induction keys generalizing cache with
  | nil =>
    cases inserts_nil.mp inserts
    exact ⟨fun _ mem _ _ => mem, fun _ mem => absurd mem not_mem_nil⟩
  | cons fst keys ih =>
    obtain ⟨kept, room, rest⟩ := inserts_cons.mp inserts
    obtain ⟨fresh, once⟩ := nodup_cons.mp once
    obtain ⟨own, sub⟩ := cons_subset.mp sub
    have longer := room.grows distinct ⟨fst.2, expiresAt⟩
    have fewer : kept.countP (CachedJwk.late expiresAt fetched) ≤
      cache.countP (CachedJwk.late expiresAt fetched) := room.sublist.countP_le
    have keeps := ih rest (distinct.sublist room.sublist).insert once sub (by rw [late_insert own]; omega)
    exact keeps.cons (fun _ => room.spares distinct own spare) fresh

theorem makesRoom_of_spare (spare : ¬ (cache.get kid = none ∧ cache.length ≥ jwksCacheLimit)) :
    cache.MakesRoom kid cache := by
  rw [MakesRoom, if_neg spare]

theorem makesRoom_of_full (full : cache.get kid = none ∧ cache.length ≥ jwksCacheLimit)
    {victim : Text} (fst : cache.earliest victim = true) : cache.MakesRoom kid (remove cache victim) := by
  rw [MakesRoom, if_pos full]
  exact ⟨victim, fst, rfl⟩

theorem mem_of_full (full : cache.length ≥ jwksCacheLimit) : ∃ en, en ∈ cache :=
  exists_mem_of_length_pos (Nat.lt_of_lt_of_le (by decide) full)

variable (expiresAt) in
theorem inserts_total (cache : JwksCache) (keys : Entries Text VerifyingKey) :
    ∃ after, cache.Inserts expiresAt keys after := by
  induction keys generalizing cache with
  | nil => exact ⟨cache, inserts_nil.mpr rfl⟩
  | cons first keys ih =>
    have room : ∃ kept, cache.MakesRoom first.1 kept := by
      by_cases full : cache.get first.1 = none ∧ cache.length ≥ jwksCacheLimit
      · obtain ⟨_, mem⟩ := mem_of_full full.2
        obtain ⟨_, -, earliest, -⟩ := exists_earliest mem
        exact ⟨_, makesRoom_of_full full earliest⟩
      · exact ⟨_, makesRoom_of_spare full⟩
    obtain ⟨kept, room⟩ := room
    obtain ⟨after, rest⟩ := ih (Entries.insert kept first.1 ⟨first.2, expiresAt⟩)
    exact ⟨after, inserts_cons.mpr ⟨kept, room, rest⟩⟩

section
variable (distinct : Entries.Distinct cache)
include distinct

theorem makesRoom_beside {anchor : Text × CachedJwk}
    (mem : anchor ∈ cache) (expires : anchor.2.expiresAt = expiresAt) (kid : Text) :
    ∃ kept, cache.MakesRoom kid kept ∧ ((∀ en ∈ kept, en.1 ≠ anchor.1) ∨
      ∀ en ∈ cache, expiresAt ≤ en.2.expiresAt → en ∈ kept) := by
  by_cases full : cache.get kid = none ∧ cache.length ≥ jwksCacheLimit
  · by_cases lost : cache.earliest anchor.1 = true
    · exact ⟨_, makesRoom_of_full full lost, Or.inl fun _ still => (mem_remove.mp still).2⟩
    · obtain ⟨_, there, earliest, least⟩ := exists_earliest mem
      refine ⟨_, makesRoom_of_full full earliest, Or.inr fun en old late => ?_⟩
      refine mem_remove.mpr ⟨old, fun twin => lost ?_⟩
      cases distinct.same old there twin
      exact earliest_iff.mpr ⟨anchor, mem, rfl, fun oid there =>
        Nat.le_trans (expires ▸ late) (least oid there)⟩
  · exact ⟨_, makesRoom_of_spare full, Or.inr fun _ old _ => old⟩

/-- Either the first fetched key is evicted by the others, or all of them fit. -/
theorem evicted_or_keeps (anchor : Text × CachedJwk)
    (once : Entries.Distinct keys) (mem : anchor ∈ cache) (expires : anchor.2.expiresAt = expiresAt)
    (apart : anchor.1 ∉ keys.map Prod.fst) : ∃ after, cache.Inserts expiresAt keys after ∧
      (Entries.get after anchor.1 = none ∨ Keeps expiresAt cache keys after) := by
  induction keys generalizing cache with
  | nil =>
    refine ⟨cache, inserts_nil.mpr rfl, Or.inr ⟨fun _ mem _ _ => mem, fun _ mem => ?_⟩⟩
    exact absurd mem not_mem_nil
  | cons fst keys ih =>
    obtain ⟨fresh, once⟩ := nodup_cons.mp once
    rw [map_cons, mem_cons, not_or] at apart
    obtain ⟨kept, room, lost | spares⟩ := makesRoom_beside distinct mem expires fst.1
    · obtain ⟨after, rest⟩ := inserts_total expiresAt (Entries.insert kept fst.1 ⟨fst.2, expiresAt⟩) keys
      refine ⟨after, inserts_cons.mpr ⟨kept, room, rest⟩, Or.inl ?_⟩
      refine get_eq_none_iff.mpr fun back => ?_
      obtain ⟨en, there, own⟩ := mem_map.mp back
      rcases rest.mem there with old | ⟨again, -⟩
      · rcases mem_cons.mp old with rfl | old
        · exact apart.1 own.symm
        · exact lost en (mem_remove.mp old).1 own
      · exact apart.2 (own ▸ mem_map_of_mem again)
    · have still := mem_remove.mpr ⟨spares anchor mem (Nat.le_of_eq expires.symm), apart.1⟩
      obtain ⟨after, rest, either⟩ := ih (distinct.sublist room.sublist).insert once (mem_cons_of_mem _ still) apart.2
      refine ⟨after, inserts_cons.mpr ⟨kept, room, rest⟩, either.imp id fun keeps => ?_⟩
      exact keeps.cons spares fresh

/-- A first key to insert which costs no late entry, unless all the entries are late. -/
theorem makesRoom_first (many : 2 ≤ keys.length) (crowded : max jwksCacheLimit cache.length <
      cache.countP (CachedJwk.late expiresAt keys) + keys.length) :
    ∃ fst ∈ keys, ∃ kept, cache.MakesRoom fst.1 kept ∧ max jwksCacheLimit cache.length <
      kept.countP (CachedJwk.late expiresAt keys) + keys.length := by
  by_cases hit : ∃ fst ∈ keys, cache.get fst.1 ≠ none
  · obtain ⟨fst, mem, hp⟩ := hit
    exact ⟨fst, mem, cache, makesRoom_of_spare fun full => hp full.1, crowded⟩
  · have missing : ∀ en ∈ keys, cache.get en.1 = none := fun en mem =>
      Decidable.not_not.mp fun hp => hit ⟨en, mem, hp⟩
    obtain ⟨fst, mem⟩ := exists_mem_of_length_pos (Nat.lt_of_lt_of_le Nat.zero_lt_two many)
    refine ⟨fst, mem, ?_⟩
    by_cases full : cache.length ≥ jwksCacheLimit
    · obtain ⟨en, old⟩ := mem_of_full full
      obtain ⟨early, there, earliest, least⟩ := exists_earliest old
      refine ⟨_, makesRoom_of_full ⟨missing fst mem, full⟩ earliest, ?_⟩
      have unknown : ∀ en ∈ cache, keys.get en.1 = none := by
        intro en old
        refine get_eq_none_iff.mpr fun kn => ?_
        obtain ⟨fetched, mem, own⟩ := mem_map.mp kn
        exact not_mem_of_get (missing fetched mem) en.2 (own ▸ old)
      by_cases late : expiresAt ≤ early.2.expiresAt
      · have all : (remove cache early.1).countP (CachedJwk.late expiresAt keys) = (remove cache early.1).length := by
          refine countP_eq_length.mpr fun en still => ?_
          have old := (mem_remove.mp still).1
          exact decide_eq_true ⟨unknown en old, Nat.le_trans late (least en old)⟩
        have shorter := distinct.length_remove there
        rw [all]
        omega
      · have same : (remove cache early.1).countP (CachedJwk.late expiresAt keys) =
            cache.countP (CachedJwk.late expiresAt keys) := by
          rw [remove, countP_filter]
          refine countP_congr fun en old => ?_
          rw [Bool.and_eq_true, and_iff_left_iff_imp]
          refine fun own => decide_eq_true fun twin => late ?_
          exact distinct.same old there twin ▸ (of_decide_eq_true own).2
        rwa [same]
    · exact ⟨cache, makesRoom_of_spare fun both => full both.2, crowded⟩

/-- More fetched keys and late entries than fit: some fetched key can be evicted again. -/
theorem exists_evicted (once : Entries.Distinct keys)
    (many : 2 ≤ keys.length) (crowded : max jwksCacheLimit cache.length <
      cache.countP (CachedJwk.late expiresAt keys) + keys.length) :
    ∃ order after, order.Perm keys ∧ cache.Inserts expiresAt order after ∧
      ∃ en ∈ keys, Entries.get after en.1 = none := by
  obtain ⟨fst, mem, kept, room, crowded⟩ := makesRoom_first distinct many crowded
  have order := perm_cons_erase mem
  obtain ⟨apart, once_rest⟩ := nodup_cons.mp ((order.map Prod.fst).nodup_iff.mp once)
  obtain ⟨after, rest, gone | keeps⟩ := evicted_or_keeps (distinct.sublist room.sublist).insert
    (fst.1, ⟨fst.2, expiresAt⟩) once_rest mem_cons_self rfl apart
  · exact ⟨_, after, order.symm, inserts_cons.mpr ⟨kept, room, rest⟩, fst, mem, gone⟩
  · exfalso
    let late := kept.filter (CachedJwk.late expiresAt keys)
    have unknown : ∀ en ∈ late, en.1 ∉ keys.map Prod.fst := fun en mem =>
      get_eq_none_iff.mp (of_decide_eq_true (mem_filter.mp mem).2).1
    have nodup : (late.map Prod.fst ++ keys.map Prod.fst).Nodup := by
      refine List.Nodup.append ?_ once fun kid own kn => ?_
      · exact (distinct.sublist room.sublist).sublist filter_sublist
      · obtain ⟨en, mem, rfl⟩ := mem_map.mp own
        exact unknown en mem kn
    have covers : late.map Prod.fst ++ keys.map Prod.fst ⊆ after.map Prod.fst := by
      refine append_subset.mpr ⟨fun kid own => ?_, fun kid kn => ?_⟩
      · obtain ⟨en, there, rfl⟩ := mem_map.mp own
        obtain ⟨old, expires⟩ := mem_filter.mp there
        have new := unknown en there
        refine mem_map_of_mem (keeps.old en ?_ ?_ (of_decide_eq_true expires).2)
        · refine mem_cons_of_mem _ (mem_remove.mpr ⟨old, fun own => new ?_⟩)
          exact own ▸ mem_map_of_mem mem
        · exact fun again => new (map_subset _ erase_subset again)
      · obtain ⟨en, there, rfl⟩ := mem_map.mp kn
        rcases mem_cons.mp (order.mem_iff.mp there) with rfl | later
        · exact mem_map_of_mem (keeps.old _ mem_cons_self apart (Nat.le_refl _))
        · exact mem_map_of_mem (f := Prod.fst) (keeps.new en later)
    have fits := (List.Nodup.subperm nodup covers).length_le
    have bounded := rest.length
    have first_bounded := room.length ⟨fst.2, expiresAt⟩
    rw [length_append, length_map, length_map, length_map, ← countP_eq_length_filter] at fits
    omega

end

theorem Inserts.distinct (inserts : cache.Inserts expiresAt keys after)
    (distinct : Entries.Distinct cache) : Entries.Distinct after := by
  induction keys generalizing cache with
  | nil => exact inserts_nil.mp inserts ▸ distinct
  | cons fst keys ih =>
    obtain ⟨_, room, rest⟩ := inserts_cons.mp inserts
    exact ih rest (distinct.sublist room.sublist).insert

end JwksCache

namespace JwksAggregator
variable {state : JwksAggregator} {now : Nat} {keys : Entries Text VerifyingKey}

/-- Every waiter whose key was fetched is told that key, in whatever order the keys come. -/
def AnswersFetched (s : JwksAggregator) (now : Nat) (keys : Entries Text VerifyingKey) : Prop :=
  ∀ (order : Entries Text VerifyingKey) (waiters : List JwksRequest) (victims : List Text)
    (next : JwksAggregator), order.Perm keys →
    s.complete now waiters victims (some order) = some next →
    ∃ told : JwksRequest → JwksAnswer, next.answers = s.answers ++ waiters.map told ∧
      ∀ request ∈ waiters, ∀ key, (request.kid, key) ∈ keys → told request = ⟨request.number, now, .ok key⟩

/-- The waiters get their keys if there is only one, or room for all of them beside the entries
that do not expire before them. -/
theorem answersFetched_iff (distinct : Entries.Distinct state.cache)
    (once : Entries.Distinct keys) : state.AnswersFetched now keys ↔ keys.length ≤ 1 ∨
      (pruneJwksCache state.cache now).countP (CachedJwk.late (now + jwksCacheTtl) keys) +
        keys.length ≤ max jwksCacheLimit (pruneJwksCache state.cache now).length := by
  have pruned : Entries.Distinct (pruneJwksCache state.cache now) := distinct.sublist filter_sublist
  constructor
  · intro fetched
    by_contra neither
    obtain ⟨many, crowded⟩ := not_or.mp neither
    obtain ⟨order, after, same, ⟨victims, inserted⟩, entry, mem, gone⟩ :=
      JwksCache.exists_evicted pruned once (Nat.not_le.mp many) (Nat.not_le.mp crowded)
    obtain ⟨_, answers, right⟩ := fetched order [⟨0, entry.1⟩] victims _ same
      (Option.map_eq_some_iff.mpr ⟨after, inserted, rfl⟩)
    have own := append_cancel_left answers
    rw [map_singleton, map_singleton, right _ mem_cons_self entry.2 mem] at own
    simp [answer, gone] at own
  · intro room order waiters victims next same completed
    obtain ⟨after, inserted, rfl⟩ := Option.map_eq_some_iff.mp completed
    have inserts : JwksCache.Inserts (now + jwksCacheTtl) _ order after := ⟨victims, inserted⟩
    refine ⟨answer after now, rfl, fun request waits key mem => ?_⟩
    have there : (request.kid, ⟨key, now + jwksCacheTtl⟩) ∈ after := by
      have own := same.mem_iff.mpr mem
      rcases room with few | room
      · rw [← same.length_eq] at few
        cases order with
        | nil => exact absurd own not_mem_nil
        | cons first rest =>
          cases eq_nil_of_length_eq_zero (Nat.le_zero.mp (Nat.le_of_succ_le_succ few))
          cases mem_singleton.mp own
          obtain ⟨_, -, rest⟩ := JwksCache.inserts_cons.mp inserts
          exact JwksCache.inserts_nil.mp rest ▸ mem_cons_self
      · have once_order := (same.map Prod.fst).nodup_iff.mpr once
        exact (inserts.keeps pruned once_order (same.map Prod.fst).subset room).new _ own
    rw [answer, (inserts.distinct pruned).get there]
    rfl

theorem answersFetched_single : ({} : JwksAggregator).AnswersFetched 0 [(['k'], Vector.replicate 32 7)] := by
  refine (answersFetched_iff ?_ ?_).mpr (Or.inl (Nat.le_refl 1))
  · exact nodup_nil
  · exact nodup_singleton _

/-- A document with one key more than the cache holds. -/
def manyKeys : Entries Text VerifyingKey :=
  (List.range (jwksCacheLimit + 1)).map fun number =>
    ([Char.ofNat (number + 48)], Vector.replicate 32 7)

/-- The first key was fetched and is evicted for the last one before its waiter is answered. -/
theorem fetched_key_unavailable : ¬ ({} : JwksAggregator).AnswersFetched 0 manyKeys := by
  intro fetched
  have evaluated : (complete {} 0 [⟨0, ['0']⟩] [['0']] (some manyKeys)).map
      (fun next => next.answers.map fun answer => answer.result.toOption) = some [none] := by
    decide +kernel
  obtain ⟨next, completed, unavailable⟩ := Option.map_eq_some_iff.mp evaluated
  obtain ⟨_, answers, right⟩ := fetched manyKeys _ _ next (List.Perm.refl _) completed
  have key := right _ mem_cons_self (Vector.replicate 32 7) (by decide +kernel)
  rw [answers, map_singleton, key] at unavailable
  cases unavailable

end JwksAggregator

end SplRust.Bridge
