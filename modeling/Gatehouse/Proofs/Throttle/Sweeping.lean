import Gatehouse.Proofs.Throttle.Eviction

/-!
# Whom a sweep keeps

A sweep drops the buckets that have refilled to their capacity.  What it keeps belongs to clients
that were admitted lately: a bucket lacks tokens only because calls took them, and an empty one is
full again after the time in which it gains as much as it can hold.  What links the two is that a
client finds at least as much as an empty bucket has gained since one of its admitted calls.
Neither denied calls nor sweeps change this, and where the cap takes its bucket away, the client
finds a full one.

Main results:

- `Orderly.not_mem_keys_sweep_iff`, `Orderly.count_sweep`: which buckets a sweep drops, and how
  many.
- `Orderly.sweep_sweep`: a second sweep at the same time finds nothing to drop.
- `Regained.serve`, `Regained.run`: how much a client finds, by the time of an admitted call.
- `sweep_keeps_recent_clients`: what a sweep does to the table after any run.
-/

namespace Gatehouse.Throttle

/-- A bucket is full exactly when it has refilled to the capacity. -/
theorem Bucket.Kept.isFull_iff {b : Bucket Rat} {a : ExactAllowance} {now : Rat}
    (h : b.Kept a now) : (b.isFull now).1 = true ↔ (b.refill now).tokens = a.capacity := by
  have capacity : (b.refill now).capacity = a.capacity := h.refill.capacity
  simp only [isFull, decide_eq_true_eq, capacity]
  exact ⟨fun full => le_antisymm h.refill.le_capacity full, fun full => full.ge⟩

namespace Limiter

open Keyed

variable {l : Limiter Rat} {a : ExactAllowance} {k : String} {now : Rat} {b : Bucket Rat}
  {c : TimedCall} {calls : List TimedCall} {answers : List Outcome}

/-! ## What a sweep drops -/

/-- A sweep takes the bucket of a key away exactly if it has refilled to the capacity. -/
theorem Orderly.not_mem_keys_sweep_iff (h : Orderly l a now) (found : lookup l.table k = some b) :
    k ∉ (l.sweep now).2.keys ↔ (b.refill now).tokens = a.capacity := by
  have kept : b.Kept a now := h.kept _ (mem_of_lookup found)
  rw [keys, ← lookup_eq_none_iff, h.lookup_sweep found, ← kept.isFull_iff]
  split <;> simp_all

/-- A key that has a bucket after a sweep had one that has not refilled to the capacity, and has
it still, refilled. -/
theorem Orderly.lookup_of_mem_keys_sweep (h : Orderly l a now) (found : lookup l.table k = some b)
    (stays : k ∈ (l.sweep now).2.keys) :
    (b.refill now).tokens < a.capacity ∧ lookup (l.sweep now).2.table k = some (b.refill now) := by
  have kept : b.Kept a now := h.kept _ (mem_of_lookup found)
  have short : (b.refill now).tokens ≠ a.capacity := fun full =>
    (h.not_mem_keys_sweep_iff found).2 full stays
  refine ⟨lt_of_le_of_ne kept.refill.le_capacity short, ?_⟩
  rw [h.lookup_sweep found, if_neg fun full => short (kept.isFull_iff.1 full)]

/-- A sweep counts the keys that lose their buckets. -/
theorem Orderly.count_sweep (h : Orderly l a now) :
    (l.sweep now).1 = (l.keys.filter fun k => k ∉ (l.sweep now).2.keys).length := by
  have same : l.table.filter (fun e => e.1 ∉ (l.sweep now).2.keys) =
      l.table.filter fun e => (e.2.isFull now).1 := by
    refine List.filter_congr fun e he => ?_
    rw [Bool.eq_iff_iff, decide_eq_true_iff, (h.kept e he).isFull_iff]
    exact h.not_mem_keys_sweep_iff ((lookup_eq_some_iff h.once).2 he)
  calc
    (l.sweep now).1 = (l.table.filter fun e => (e.2.isFull now).1).length := List.length_map _
    _ = ((l.table.filter fun e => e.1 ∉ (l.sweep now).2.keys).map Prod.fst).length := by
      rw [List.length_map, same]
    _ = (l.keys.filter fun k => k ∉ (l.sweep now).2.keys).length := by
      rw [show l.keys = l.table.map Prod.fst from rfl, List.filter_map]
      rfl

/-- A sweep that follows another one at once has nothing left to drop. -/
theorem Orderly.sweep_sweep (h : Orderly l a now) :
    (l.sweep now).2.sweep now = (0, (l.sweep now).2) := by
  have short : ∀ e ∈ (l.sweep now).2.table, (e.2.isFull now).1 = false ∧ e.2.refill now = e.2 := by
    intro e he
    rcases List.mem_map.1 he with ⟨e', inTable, rfl⟩
    have kept := h.kept e' (List.mem_filter.1 inTable).1
    have again : (e'.2.refill now).refill now = e'.2.refill now := kept.refill_refill le_rfl
    refine ⟨?_, again⟩
    simpa [Bucket.isFull, again] using (List.mem_filter.1 inTable).2
  have none : (l.sweep now).2.idle now = [] := by
    simp only [idle, List.map_eq_nil_iff, List.filter_eq_nil_iff]
    intro e he
    simp [(short e he).1]
  have all : (l.sweep now).2.kept now = (l.sweep now).2.table := by
    rw [Limiter.kept, List.filter_eq_self.2 fun e he => by simp [(short e he).1]]
    refine (List.map_congr_left fun e he => ?_).trans (List.map_id _)
    rw [(short e he).2, id]
  rw [Limiter.sweep, none, all]
  rfl

/-! ## How much a client finds -/

/-- What a key finds is full, or at least what an empty bucket has gained since one of the key's
admitted calls. -/
def Regained (l : Limiter Rat) (a : ExactAllowance) (k : String) (now : Rat)
    (answers : List Outcome) : Prop :=
  a.capacity ≤ (l.found k now).tokens ∨
    ∃ o ∈ answers, o.admitted = true ∧ (now - o.time) * a.rate ≤ (l.found k now).tokens

namespace Regained

/-- Before anyone called, whatever a key finds is full. -/
theorem start (a : ExactAllowance) (k : String) (now : Rat) : Regained a.limiter a k now [] := by
  rw [Regained, (orderly_limiter a now).found_of_none rfl]
  exact .inl le_rfl

/-- Finding more than enough is finding enough. -/
theorem mono {l' : Limiter Rat} (h : Regained l a k now answers)
    (more : (l.found k now).tokens ≤ (l'.found k now).tokens) : Regained l' a k now answers := by
  rcases h with full | ⟨o, given, admitted, gained⟩
  · exact .inl (full.trans more)
  · exact .inr ⟨o, given, admitted, gained.trans more⟩

/-- A client finds what its bucket gains as time passes. -/
theorem wait (h : Regained l a k now answers) (orderly : Orderly l a now) {later : Rat}
    (hl : now ≤ later) : Regained l a k later answers := by
  have tokens := (orderly.kept_found k).tokens_refill hl
  rw [orderly.refill_found k hl, orderly.refill_found k le_rfl] at tokens
  have gain : 0 ≤ (later - now) * a.rate := mul_nonneg (sub_nonneg.2 hl) a.rate_pos.le
  rw [Regained, tokens]
  rcases h with full | ⟨o, given, admitted, gained⟩
  · exact .inl (le_min (by linarith) le_rfl)
  · rcases le_total ((l.found k now).tokens + (later - now) * a.rate) a.capacity with below | above
    · refine .inr ⟨o, given, admitted, ?_⟩
      rw [min_eq_left below]
      linarith
    · exact .inl (le_min above le_rfl)

/-- An admitted call leaves at least an empty bucket, and a denied one leaves what there was. -/
theorem serve_own {admitted : Bool} (h : Regained l a k c.time answers)
    (orderly : Orderly l a c.time) (served : Serves a c.time k l (admitted, (l.serve c).2)) :
    Regained (l.serve c).2 a k c.time (answers ++ [⟨c.time, admitted⟩]) := by
  have left := served.own c.time le_rfl
  rw [(orderly.kept_found k).refill_tryTake] at left
  cases admitted with
  | true =>
    refine .inr ⟨_, List.mem_append_right _ List.mem_cons_self, rfl, ?_⟩
    rw [sub_self, zero_mul]
    exact (served.orderly.kept_found k).nonneg
  | false =>
    have denied := Bucket.tokens_tryTake (l.found k c.time) c.time
    rw [← left, ← served.decision, orderly.refill_found k le_rfl] at denied
    have same : Regained (l.serve c).2 a k c.time answers := h.mono (by simp [denied])
    exact same.imp_right fun ⟨o, given, rest⟩ => ⟨o, List.mem_append_left _ given, rest⟩

/-- A run leaves each client what its admitted calls account for. -/
theorem run (h : Regained l a k now answers) (orderly : Orderly l a now)
    (chronological : Chronological calls) (start : ∀ c ∈ calls, now ≤ c.time) {last : Rat}
    (hl : now ≤ last) (past : ∀ c ∈ calls, c.time ≤ last) :
    Regained (l.run calls) a k last (answers ++ outcomes k l calls) := by
  induction calls generalizing l now answers with
  | nil => simpa [outcomes, Limiter.run] using h.wait orderly hl
  | cons c rest ih =>
    have first := start c List.mem_cons_self
    have order := List.pairwise_cons.1 chronological
    have next := orderly.mono first
    have atCall := h.wait orderly first
    have onwards {answers : List Outcome} (h : Regained (l.serve c).2 a k c.time answers) :=
      ih h next.serve order.2 order.1 (past c List.mem_cons_self)
        fun d hd => past d (List.mem_cons_of_mem _ hd)
    by_cases own : c.call.key? = some k
    · rcases next.exists_serves own with ⟨admitted, answer, served⟩
      rw [outcomes_cons_of_eq own answer, List.append_cons]
      exact onwards (atCall.serve_own next served)
    · rw [outcomes_cons_of_ne own]
      exact onwards (atCall.mono (next.found_le_serve own))

/-- A client that does not find a full bucket was admitted since an empty bucket would have
refilled. -/
theorem exists_recent (h : Regained l a k now answers)
    (short : (l.found k now).tokens < a.capacity) :
    ∃ o ∈ answers, o.admitted = true ∧
      now - a.capacity * a.refillSeconds / a.refillTokens < o.time := by
  rcases h with full | ⟨o, given, admitted, gained⟩
  · exact absurd full (not_le.2 short)
  · refine ⟨o, given, admitted, ?_⟩
    have within : now - o.time < a.capacity / a.rate :=
      (lt_div_iff₀ a.rate_pos).2 (gained.trans_lt short)
    rw [ExactAllowance.rate, div_div_eq_mul_div] at within
    linarith

end Regained

end Limiter

open Limiter

/-- What a sweep does to the table that any run of calls and sweeps has left whose clock never went
back:

- it takes the bucket of a key away exactly if the bucket has refilled to the capacity, and leaves
  the key its refilled bucket if not; the keys that stay do so in their order, and the others are
  counted;
- a key that stays had a call admitted later than an empty bucket needs to refill, so that a key
  is gone that had none since;
- another sweep at the same time drops nothing and changes nothing. -/
theorem sweep_keeps_recent_clients (a : ExactAllowance) {calls : List TimedCall}
    (chronological : Chronological calls) {now : Rat} (past : ∀ c ∈ calls, c.time ≤ now) :
    let l := a.limiter.run calls
    let swept := (l.sweep now).2
    let since := now - a.capacity * a.refillSeconds / a.refillTokens
    (∀ k b, Keyed.lookup l.table k = some b →
      (k ∉ swept.keys ↔ (b.refill now).tokens = a.capacity) ∧
      (k ∈ swept.keys → Keyed.lookup swept.table k = some (b.refill now))) ∧
    swept.keys.Sublist l.keys ∧
    (l.sweep now).1 = (l.keys.filter fun k => k ∉ swept.keys).length ∧
    (∀ k ∈ swept.keys, ∃ o ∈ outcomes k a.limiter calls, o.admitted = true ∧ since < o.time) ∧
    (∀ k, (∀ o ∈ outcomes k a.limiter calls, o.admitted = true → o.time ≤ since) →
      k ∉ swept.keys) ∧
    swept.sweep now = (0, swept) := by
  intro l swept since
  have h : Orderly l a now := orderly_run a chronological past
  have order : swept.keys.Sublist l.keys := keys_kept_sublist l now
  have recent : ∀ k ∈ swept.keys,
      ∃ o ∈ outcomes k a.limiter calls, o.admitted = true ∧ since < o.time := by
    intro k stays
    rcases Keyed.exists_lookup_iff.2 (order.subset stays) with ⟨b, found⟩
    have short := (h.lookup_of_mem_keys_sweep found stays).1
    have regained : Regained l a k now (outcomes k a.limiter calls) := by
      rcases chronological.exists_start with ⟨start, later⟩
      exact (Regained.start a k (min start now)).run (orderly_limiter a _) chronological
        (fun c hc => (min_le_left start now).trans (later c hc)) (min_le_right start now) past
    refine regained.exists_recent ?_
    rwa [h.found_eq, found]
  refine ⟨fun k b found => ⟨h.not_mem_keys_sweep_iff found, fun stays =>
    (h.lookup_of_mem_keys_sweep found stays).2⟩, order, h.count_sweep, recent, ?_, h.sweep_sweep⟩
  intro k none stays
  rcases recent k stays with ⟨o, given, admitted, late⟩
  exact absurd late (not_lt.2 (none o given admitted))

open ExactAllowance (twoAtOnce)

/-- One client empties its bucket, and another one does so when the first has regained half of
its own. -/
def oneAfterTheOther : List TimedCall :=
  [⟨0, .attempt "a"⟩, ⟨0, .enforce "a"⟩, ⟨1, .attempt "b"⟩, ⟨1, .attempt "b"⟩, ⟨1, .attempt "b"⟩]

/-- The first client's bucket has refilled two seconds after its calls and is swept.  The other
one stays, which was admitted less than two seconds ago. -/
theorem sweep_keeps_second_client :
    let l := (twoAtOnce 1).limiter.run oneAfterTheOther
    l.keys = ["a", "b"] ∧ (l.sweep 2).1 = 1 ∧ "b" ∈ (l.sweep 2).2.keys ∧
      (∀ o ∈ outcomes "a" (twoAtOnce 1).limiter oneAfterTheOther,
        o.admitted = true → o.time ≤ 2 - 2 * 1 / 1) ∧
      "a" ∉ (l.sweep 2).2.keys ∧
      (∃ o ∈ outcomes "b" (twoAtOnce 1).limiter oneAfterTheOther,
        o.admitted = true ∧ 2 - 2 * 1 / 1 < o.time) ∧
      (l.sweep 2).2.sweep 2 = (0, (l.sweep 2).2) := by
  intro l
  have chronological : Chronological oneAfterTheOther := by decide +kernel
  have swept := sweep_keeps_recent_clients (twoAtOnce 1) chronological
    (by decide +kernel : ∀ c ∈ oneAfterTheOther, c.time ≤ 2)
  have stays : "b" ∈ (l.sweep 2).2.keys := by decide +kernel
  have long : ∀ o ∈ outcomes "a" (twoAtOnce 1).limiter oneAfterTheOther,
      o.admitted = true → o.time ≤ 2 - 2 * 1 / 1 := by decide +kernel
  exact ⟨by decide +kernel, by decide +kernel, stays, long, swept.2.2.2.2.1 "a" long,
    swept.2.2.2.1 "b" stays, swept.2.2.2.2.2⟩

end Gatehouse.Throttle
