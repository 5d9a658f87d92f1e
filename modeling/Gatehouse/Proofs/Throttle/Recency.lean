import Gatehouse.Proofs.Throttle.Calls
import Mathlib.Data.Finset.Card
import Mathlib.Data.List.Induction

/-!
# Who was here last

The table lists its clients in the order of their latest calls, those ahead that have not called
for the longest time.  A call puts its client last and leaves the others in their order, and a
sweep only leaves out some of them.

Only the first client of a full table loses its bucket to the cap.  All others of the table have
called since then, and so does the one that makes the table overflow.  So a client keeps its
bucket, unless this is full and swept, until as many others have called as there may be buckets.

Main results:

- `exists_latestTime_le`: who called since another one did so at no earlier time.
- `InCallOrder.serve`, `InCallOrder.run`: the table is in the order of the latest calls.
- `Orderly.maxBuckets_le_calledSince`: who called since the first client of a full table.
- `table_in_call_order`: what holds of the table after any run, and of the call that comes next.
-/

namespace Gatehouse.Throttle

variable {calls : List TimedCall} {c : TimedCall} {k k' key : String}

/-! ## Latest calls -/

/-- The keys that call, in the order of their calls. -/
def calledKeys (calls : List TimedCall) : List String :=
  calls.filterMap fun c => c.call.key?

/-- The keys of the calls after the latest call of a key, the latest first. -/
def calledSince (k : String) (calls : List TimedCall) : List String :=
  (calledKeys calls).reverse.takeWhile fun key => key ≠ k

/-- When a key called for the last time. -/
def latestTime (k : String) (calls : List TimedCall) : Option Rat :=
  (ownTimes k calls).getLast?

/-- A sweep calls no key. -/
theorem calledKeys_concat_of_none (none : c.call.key? = none) :
    calledKeys (calls ++ [c]) = calledKeys calls := by
  simp [calledKeys, none]

/-- A call is of its key. -/
theorem calledKeys_concat_of_some (called : c.call.key? = some key) :
    calledKeys (calls ++ [c]) = calledKeys calls ++ [key] := by
  simp [calledKeys, called]

/-- No key has called since a key that is just calling. -/
theorem calledSince_concat_self (called : c.call.key? = some k) :
    calledSince k (calls ++ [c]) = [] := by
  simp [calledSince, calledKeys_concat_of_some called]

/-- A call of another key is one since the latest call of a key. -/
theorem calledSince_concat_of_ne (called : c.call.key? = some key) (other : key ≠ k) :
    calledSince k (calls ++ [c]) = key :: calledSince k calls := by
  simp [calledSince, calledKeys_concat_of_some called, other]

/-- A key called last when it is calling. -/
theorem latestTime_concat_self (called : c.call.key? = some k) :
    latestTime k (calls ++ [c]) = some c.time := by
  simp [latestTime, ownTimes, called]

/-- What is not its call does not change when a key called last. -/
theorem latestTime_concat_of_ne (other : c.call.key? ≠ some k) :
    latestTime k (calls ++ [c]) = latestTime k calls := by
  simp [latestTime, ownTimes, other]

/-- A key that has called did so for the last time in one of the calls. -/
theorem exists_latestTime (called : k ∈ calledKeys calls) :
    ∃ c ∈ calls, latestTime k calls = some c.time := by
  induction calls using List.reverseRecOn with
  | nil => cases called
  | append_singleton calls c ih =>
    by_cases own : c.call.key? = some k
    · exact ⟨c, by simp, latestTime_concat_self own⟩
    · have before : k ∈ calledKeys calls := by
        simpa [calledKeys, own] using called
      rcases ih before with ⟨d, hd, latest⟩
      exact ⟨d, List.mem_append_left _ hd, (latestTime_concat_of_ne own).trans latest⟩

/-- Who called since another key's latest call did so at no earlier time. -/
theorem exists_latestTime_le (chronological : Chronological calls) (called : k ∈ calledKeys calls)
    (since : k' ∈ calledSince k calls) :
    ∃ t t', latestTime k calls = some t ∧ latestTime k' calls = some t' ∧ t ≤ t' := by
  induction calls using List.reverseRecOn with
  | nil => cases called
  | append_singleton calls c ih =>
    rcases List.pairwise_append.1 chronological with ⟨order, _, last⟩
    cases own : c.call.key? with
    | none =>
      have same (k : String) : latestTime k (calls ++ [c]) = latestTime k calls :=
        latestTime_concat_of_ne (by simp [own])
      rw [calledSince, calledKeys_concat_of_none own] at since
      rw [calledKeys_concat_of_none own] at called
      rw [same, same]
      exact ih order called since
    | some key =>
      by_cases self : key = k
      · subst self
        rw [calledSince_concat_self own] at since
        cases since
      · have ne : c.call.key? ≠ some k := fun given => self (Option.some.inj (own ▸ given))
        have before : k ∈ calledKeys calls := by
          simpa [calledKeys_concat_of_some own, Ne.symm self] using called
        rw [latestTime_concat_of_ne ne]
        by_cases newest : c.call.key? = some k'
        · rcases exists_latestTime before with ⟨d, hd, latest⟩
          exact ⟨d.time, c.time, latest, latestTime_concat_self newest,
            last d hd c List.mem_cons_self⟩
        · rw [latestTime_concat_of_ne newest]
          rw [calledSince_concat_of_ne own self, List.mem_cons] at since
          exact ih order before (since.resolve_left fun same => newest (same ▸ own))

namespace Limiter

variable {l : Limiter Rat} {a : ExactAllowance} {now : Rat}

/-! ## The order of the table -/

/-- The table lists keys that have called, in the order of their latest calls. -/
structure InCallOrder (l : Limiter Rat) (calls : List TimedCall) : Prop where
  called : ∀ k ∈ l.keys, k ∈ calledKeys calls
  ordered : l.keys.Pairwise fun k k' => k' ∈ calledSince k calls

/-- One step keeps the table in the order of the latest calls. -/
theorem InCallOrder.serve (order : InCallOrder l calls) (h : Orderly l a c.time) :
    InCallOrder (l.serve c).2 (calls ++ [c]) := by
  cases own : c.call.key? with
  | none =>
    have fewer : (l.serve c).2.keys.Sublist l.keys := by
      rw [Orderly.serve_of_no_key l own]
      exact keys_kept_sublist l c.time
    refine ⟨fun k hk => ?_, ?_⟩
    · rw [calledKeys_concat_of_none own]
      exact order.called k (fewer.subset hk)
    · simp only [calledSince, calledKeys_concat_of_none own]
      exact order.ordered.sublist fewer
  | some key =>
    rcases h.exists_keys_serve own with ⟨rest, sub, fresh, served, _⟩
    have other : ∀ k ∈ rest, key ≠ k := fun k hk same => fresh (same ▸ hk)
    refine ⟨fun k hk => ?_, ?_⟩
    · rw [calledKeys_concat_of_some own, List.mem_append]
      rw [served, List.mem_append] at hk
      exact hk.imp_left fun old => order.called k (sub.subset old)
    · rw [served]
      refine List.pairwise_append.2 ⟨?_, List.pairwise_singleton _ _, ?_⟩
      · refine (order.ordered.sublist sub).imp_of_mem fun hk _ since => ?_
        rw [calledSince_concat_of_ne own (other _ hk)]
        exact List.mem_cons_of_mem _ since
      · intro k hk k' hk'
        rw [calledSince_concat_of_ne own (other k hk), List.mem_singleton.1 hk']
        exact List.mem_cons_self

/-- A run keeps the table in the order of the latest calls. -/
theorem InCallOrder.run {before : List TimedCall} (order : InCallOrder l before)
    (h : Orderly l a now) (chronological : Chronological calls)
    (later : ∀ c ∈ calls, now ≤ c.time) : InCallOrder (l.run calls) (before ++ calls) := by
  induction calls generalizing l before now with
  | nil => rwa [List.append_nil]
  | cons c rest ih =>
    have inOrder := List.pairwise_cons.1 chronological
    have orderly := h.mono (later c List.mem_cons_self)
    rw [List.append_cons]
    exact ih (order.serve orderly) orderly.serve inOrder.2 inOrder.1

/-- In a table in the order of the latest calls, the times of these are in order. -/
theorem InCallOrder.times (order : InCallOrder l calls) (chronological : Chronological calls) :
    l.keys.Pairwise fun k k' =>
      ∃ t t', latestTime k calls = some t ∧ latestTime k' calls = some t' ∧ t ≤ t' :=
  order.ordered.imp_of_mem fun hk _ since =>
    exists_latestTime_le chronological (order.called _ hk) since

/-! ## Losing a bucket -/

/-- Only the first key of a full table is displaced, by a key that has no bucket. -/
theorem Orderly.exists_displaced (h : Orderly l a now) (gone : k ∈ l.displaced key now) :
    ∃ others, l.keys = k :: others ∧ key ∉ l.keys ∧ l.keys.length = a.maxBuckets := by
  rcases mem_displaced_iff.1 gone with ⟨had, lost⟩
  have new : key ∉ l.keys := fun has => by
    rw [displaced_eq_nil (.inl has)] at gone
    cases gone
  have full : l.table.length = a.maxBuckets := by
    refine h.length_le.antisymm (not_lt.1 fun room => ?_)
    rw [displaced_eq_nil (.inr (h.maxBuckets ▸ room))] at gone
    cases gone
  have touched : (l.touch key now).keys = l.keys.drop 1 ++ [key] := by
    have one : l.table.length + 1 - l.maxBuckets = 1 := by rw [h.maxBuckets]; omega
    simp [Limiter.touch, Keyed.lookup_eq_none_iff.2 new, keys, makeRoom, one]
  rcases List.exists_cons_of_ne_nil (List.ne_nil_of_mem had) with ⟨first, others, keys_eq⟩
  refine ⟨others, ?_, new, by simpa [keys] using full⟩
  rw [touched, keys_eq] at lost
  rw [keys_eq] at had ⊢
  -- the others stay
  rw [(List.mem_cons.1 had).resolve_right fun other => lost (List.mem_append_left _ other)]

/-- Since the latest call of a key that is displaced, as many others have called as there may be
buckets. -/
theorem Orderly.maxBuckets_le_calledSince (h : Orderly l a now) (order : InCallOrder l calls)
    (called : c.call.key? = some key) (gone : k ∈ l.displaced key now) :
    a.maxBuckets ≤ (calledSince k (calls ++ [c])).toFinset.card := by
  rcases h.exists_displaced gone with ⟨others, keys_eq, new, full⟩
  have once := h.once
  have ordered := order.ordered
  rw [keys_eq] at new once ordered full
  have other : key ≠ k := List.ne_of_not_mem_cons new
  have distinct : (key :: others).Nodup :=
    List.nodup_cons.2 ⟨List.not_mem_of_not_mem_cons new, (List.nodup_cons.1 once).2⟩
  rw [calledSince_concat_of_ne called other]
  calc
    a.maxBuckets = (key :: others).toFinset.card := by
      rw [List.toFinset_card_of_nodup distinct, ← full, List.length_cons, List.length_cons]
    _ ≤ (key :: calledSince k calls).toFinset.card := by
      refine Finset.card_le_card fun k' hk' => ?_
      simp only [List.mem_toFinset, List.mem_cons] at hk' ⊢
      exact hk'.imp_right fun behind => List.rel_of_pairwise_cons ordered behind

/-- A key that loses its bucket loses it to the cap, or the bucket was full. -/
theorem Orderly.found_of_lost (h : Orderly l a c.time) (lost : k ∉ (l.serve c).2.keys)
    (spared : ∀ e ∈ l.evicted c, e.key ≠ k) :
    l.found k c.time = a.bucket c.time := by
  have other : c.call.key? ≠ some k := fun own => by
    rcases h.exists_keys_serve own with ⟨rest, _, _, served, _⟩
    exact lost (served ▸ List.mem_append_right _ List.mem_cons_self)
  have alike := h.alike_serve other fun e he same => absurd same (spared e he)
  rw [← alike c.time le_rfl, h.serve.found_of_none (Keyed.lookup_eq_none_iff.2 lost)]

/-- Whatever comes next, the cap takes a bucket away only from a key that has called, and only if
since its latest call as many others have called as there may be buckets.  Any other bucket that
goes is full. -/
structure SparesRecent (l : Limiter Rat) (a : ExactAllowance) (calls : List TimedCall)
    (c : TimedCall) : Prop where
  since : ∀ e ∈ l.evicted c, e.key ∈ calledKeys calls ∧
    a.maxBuckets ≤ (calledSince e.key (calls ++ [c])).toFinset.card
  others : ∀ k ∈ l.keys, k ∉ (l.serve c).2.keys → (∀ e ∈ l.evicted c, e.key ≠ k) →
    l.found k c.time = a.bucket c.time

/-- A table that is in order, and in the order of the latest calls, spares who was there last. -/
theorem Orderly.sparesRecent (h : Orderly l a c.time) (order : InCallOrder l calls) :
    SparesRecent l a calls c := by
  refine ⟨fun e he => ?_, fun k _ lost spared => h.found_of_lost lost spared⟩
  rcases mem_evicted_iff.1 he with ⟨_, _, key, called, gone⟩
  exact ⟨order.called e.key (mem_displaced_iff.1 gone).1,
    h.maxBuckets_le_calledSince order called gone⟩

end Limiter

open Limiter

/-- What holds of the table after any run of calls and sweeps whose clock never goes back:

- no key has two buckets, there are at most as many as there may be, none is marked as evicted,
  and each holds something between nothing and its capacity and was refilled at no later time;
- the keys are in the order of their latest calls, and so are the times of these;
- whatever comes next, the cap takes a bucket away only if since the latest call of its key as
  many others have called as there may be buckets, and every other bucket that goes is full. -/
theorem table_in_call_order (a : ExactAllowance) {calls : List TimedCall}
    (chronological : Chronological calls) {now : Rat} (past : ∀ c ∈ calls, c.time ≤ now) :
    Orderly (a.limiter.run calls) a now ∧
      InCallOrder (a.limiter.run calls) calls ∧
      ((a.limiter.run calls).keys.Pairwise fun k k' =>
        ∃ t t', latestTime k calls = some t ∧ latestTime k' calls = some t' ∧ t ≤ t') ∧
      ∀ c : TimedCall, now ≤ c.time → SparesRecent (a.limiter.run calls) a calls c := by
  have orderly := orderly_run a chronological past
  have order : InCallOrder (a.limiter.run calls) calls := by
    rcases chronological.exists_start with ⟨start, later⟩
    have empty : InCallOrder a.limiter [] :=
      ⟨by simp [ExactAllowance.limiter, Limiter.empty, keys],
        by simp [ExactAllowance.limiter, Limiter.empty, keys]⟩
    exact empty.run (orderly_limiter a start) chronological later
  exact ⟨orderly, order, order.times chronological,
    fun c next => (orderly.mono next).sparesRecent order⟩

open ExactAllowance (twoAtOnce)

/-- One client calls, then another one, and then the first one again. -/
def oneAgain : List TimedCall :=
  [⟨0, .attempt "a"⟩, ⟨0, .enforce "b"⟩, ⟨1 / 2, .admitRaced "a"⟩]

/-- With room for two clients, a third one takes the bucket of the second one, since whose call
both others have called. -/
theorem third_client_displaces_second :
    ((twoAtOnce 1).limiter.run oneAgain).keys = ["b", "a"] ∧
      ((twoAtOnce 1).limiter.run oneAgain).table.length ≤ 2 ∧
      (((twoAtOnce 1).limiter.run oneAgain).evicted ⟨1, .attempt "c"⟩).map Eviction.key = ["b"] ∧
      calledSince "b" (oneAgain ++ [⟨1, .attempt "c"⟩]) = ["c", "a"] ∧
      SparesRecent ((twoAtOnce 1).limiter.run oneAgain) (twoAtOnce 1) oneAgain
        ⟨1, .attempt "c"⟩ := by
  have chronological : Chronological oneAgain := by decide +kernel
  have holds := table_in_call_order (twoAtOnce 1) chronological
    (by decide +kernel : ∀ c ∈ oneAgain, c.time ≤ 1 / 2)
  exact ⟨by decide +kernel, holds.1.length_le, by decide +kernel, by decide +kernel,
    holds.2.2.2 _ (by decide +kernel)⟩

end Gatehouse.Throttle
