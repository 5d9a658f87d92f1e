import Gatehouse.Proofs.Throttle.Serving

/-!
# Runs of calls

A limiter is called again and again, by many clients, while sweeps go on beside the calls and
some of them come between the lookup and the take of a call.  A run is the list of these, each
with the time that its clock shows; what it decides for a client, and which buckets the cap takes
away on the way, are read off it.

Main results:

- `Orderly.exists_serves`: every call serves its key, whichever it is.
- `Orderly.serve`: one step of a run keeps the table in order.
- `Orderly.alike_serve`: what one step leaves to a key that did not call.
- `Orderly.exists_keys_serve`: where a call puts its key, and what it leaves of the others.
- `Orderly.run`, `orderly_run`: the table is in order after any chronological run.
-/

namespace Gatehouse.Throttle

/-! ## Calls -/

/-- What a limiter is asked to do. -/
inductive Call
  | attempt (key : String)
  | enforce (key : String)
  /-- A call with a whole sweep between its lookup and its take. -/
  | admitRaced (key : String)
  | sweep
deriving DecidableEq, Repr

/-- The key that a call is of; a sweep is of none. -/
def Call.key? : Call → Option String
  | .attempt key | .enforce key | .admitRaced key => some key
  | .sweep => none

/-- A call at the time that the clock shows. -/
structure TimedCall where
  time : Rat
  call : Call
deriving DecidableEq, Repr

/-- The clock never goes back. -/
def Chronological (calls : List TimedCall) : Prop :=
  calls.Pairwise fun c d => c.time ≤ d.time

instance (calls : List TimedCall) : Decidable (Chronological calls) :=
  inferInstanceAs (Decidable (List.Pairwise _ _))

/-- The first call is the earliest. -/
theorem Chronological.head_le {c : TimedCall} {rest : List TimedCall}
    (h : Chronological (c :: rest)) : ∀ d ∈ c :: rest, c.time ≤ d.time := by
  intro d hd
  rcases List.mem_cons.1 hd with rfl | later
  · exact le_rfl
  · exact List.rel_of_pairwise_cons h later

/-- A run has a time before which nothing is called. -/
theorem Chronological.exists_start {calls : List TimedCall} (h : Chronological calls) :
    ∃ now, ∀ c ∈ calls, now ≤ c.time := by
  cases calls with
  | nil => exact ⟨0, by simp⟩
  | cons c rest => exact ⟨c.time, h.head_le⟩

/-- The times at which a key calls. -/
def ownTimes (k : String) (calls : List TimedCall) : List Rat :=
  calls.filterMap fun c => if c.call.key? = some k then some c.time else none

/-- A key calls at the time of its call. -/
theorem ownTimes_cons_of_eq {k : String} {c : TimedCall} (own : c.call.key? = some k)
    (rest : List TimedCall) : ownTimes k (c :: rest) = c.time :: ownTimes k rest := by
  simp [ownTimes, own]

/-- A key does not call at the time of a sweep or of another key's call. -/
theorem ownTimes_cons_of_ne {k : String} {c : TimedCall} (other : c.call.key? ≠ some k)
    (rest : List TimedCall) : ownTimes k (c :: rest) = ownTimes k rest := by
  simp [ownTimes, other]

/-- What a call of a key was answered, and when. -/
structure Outcome where
  time : Rat
  admitted : Bool
deriving DecidableEq, Repr

/-- The cap takes a bucket away: when, whose, and what its key would have found. -/
structure Eviction where
  time : Rat
  key : String
  bucket : Bucket Rat
deriving DecidableEq, Repr

namespace Limiter

/-- Do what is asked.  Calls are answered by whether they are admitted, sweeps by nothing. -/
def serve (l : Limiter Rat) (c : TimedCall) : Option Bool × Limiter Rat :=
  match c.call with
  | .attempt key =>
    let (admitted, l') := l.attempt key c.time
    (some admitted, l')
  | .enforce key =>
    let (outcome, l') := l.enforce key c.time
    (some outcome.isOk, l')
  | .admitRaced key =>
    let (admitted, _, l') := l.admitRaced key c.time
    (some admitted, l')
  | .sweep => (none, (l.sweep c.time).2)

/-- The buckets that the cap takes away when a call looks its key up.  A call that races a sweep
looks it up once more, when there is room (`Orderly.displaced_swept`). -/
def evicted (l : Limiter Rat) (c : TimedCall) : List Eviction :=
  match c.call.key? with
  | some key => (l.displaced key c.time).map fun k => ⟨c.time, k, l.found k c.time⟩
  | none => []

/-- The limiter after a run. -/
def run (l : Limiter Rat) : List TimedCall → Limiter Rat
  | [] => l
  | c :: rest => run (l.serve c).2 rest

/-- The answers that a key gets in a run. -/
def outcomes (k : String) (l : Limiter Rat) : List TimedCall → List Outcome
  | [] => []
  | c :: rest =>
    let (answer, l') := l.serve c
    let own := if c.call.key? = some k then answer.map (Outcome.mk c.time) else none
    own.toList ++ outcomes k l' rest

/-- The buckets that the cap takes away in a run. -/
def evictions (l : Limiter Rat) : List TimedCall → List Eviction
  | [] => []
  | c :: rest => l.evicted c ++ evictions (l.serve c).2 rest

/-! ## Single steps -/

/-- What lies within a list with one more element at the end, and has not that element, lies within
the list. -/
theorem sublist_of_sublist_concat {β : Type} {xs ys : List β} {y : β}
    (sub : xs.Sublist (ys ++ [y])) (other : y ∉ xs) : xs.Sublist ys := by
  rcases List.sublist_append_iff.1 sub with ⟨front, back, rfl, inFront, inBack⟩
  cases inBack with
  | cons _ none => simpa [List.sublist_nil.1 none] using inFront
  | cons_cons _ _ => exact absurd (List.mem_append_right _ List.mem_cons_self) other

/-- What the cap takes away is the bucket of a key that is displaced. -/
theorem mem_evicted_iff {l : Limiter Rat} {c : TimedCall} {e : Eviction} :
    e ∈ l.evicted c ↔ e.time = c.time ∧ e.bucket = l.found e.key c.time ∧
      ∃ key, c.call.key? = some key ∧ e.key ∈ l.displaced key c.time := by
  rcases e with ⟨time, k, bucket⟩
  cases called : c.call.key? with
  | none => simp [evicted, called]
  | some key =>
    simp only [evicted, called, List.mem_map, Eviction.mk.injEq, Option.some.injEq, exists_eq_left']
    constructor
    · intro given
      rcases given with ⟨k', gone, rfl, rfl, rfl⟩
      exact ⟨rfl, rfl, gone⟩
    · intro given
      rcases given with ⟨rfl, rfl, gone⟩
      exact ⟨k, gone, rfl, rfl, rfl⟩

namespace Orderly

variable {l : Limiter Rat} {a : ExactAllowance} {c : TimedCall} {calls : List TimedCall}
  {k : String} {now : Rat}

/-- Every call serves its key. -/
theorem exists_serves (h : Orderly l a c.time) {key : String} (called : c.call.key? = some key) :
    ∃ admitted, (l.serve c).1 = some admitted ∧
      Serves a c.time key l (admitted, (l.serve c).2) := by
  rcases c with ⟨time, call⟩
  cases call with
  | attempt key' =>
    obtain rfl : key' = key := Option.some.inj called
    exact ⟨_, rfl, h.serves_attempt key'⟩
  | enforce key' =>
    obtain rfl : key' = key := Option.some.inj called
    have refused : (l.enforce key' time).1.isOk = (l.attempt key' time).1 := by
      simp only [enforce]
      cases (l.attempt key' time).1 <;> rfl
    have served := h.serves_attempt key'
    refine ⟨(l.enforce key' time).1.isOk, rfl, ?_⟩
    rw [refused]
    exact served
  | admitRaced key' =>
    obtain rfl : key' = key := Option.some.inj called
    exact ⟨_, rfl, h.serves_admitRaced key'⟩
  | sweep => cases called

/-- What is of no key is a sweep. -/
theorem serve_of_no_key (l : Limiter Rat) (none : c.call.key? = none) :
    l.serve c = (Option.none, (l.sweep c.time).2) := by
  rcases c with ⟨time, call⟩
  cases call <;> first | rfl | cases none

/-- One step keeps the table in order. -/
theorem serve (h : Orderly l a c.time) : Orderly (l.serve c).2 a c.time := by
  cases called : c.call.key? with
  | none =>
    rw [serve_of_no_key l called]
    exact h.sweep
  | some key =>
    rcases h.exists_serves called with ⟨_, _, served⟩
    exact served.orderly

/-- A step that is not a call of a key makes no difference to the key, unless the cap takes its
bucket away when it is not full. -/
theorem alike_serve (h : Orderly l a c.time) (other : c.call.key? ≠ some k)
    (full : ∀ e ∈ l.evicted c, e.key = k → e.bucket = a.bucket e.time) :
    Alike k c.time l (l.serve c).2 := by
  cases called : c.call.key? with
  | none =>
    rw [serve_of_no_key l called]
    exact h.alike_sweep k
  | some key =>
    rcases h.exists_serves called with ⟨_, _, served⟩
    refine served.others k (fun same => other (same ▸ called)) fun gone => ?_
    exact full ⟨c.time, k, l.found k c.time⟩ (mem_evicted_iff.2 ⟨rfl, rfl, key, called, gone⟩) rfl

/-- A call puts its key behind some of the other keys that its lookup left, in their order. -/
theorem exists_keys_serve (h : Orderly l a c.time) {key : String}
    (called : c.call.key? = some key) :
    ∃ rest : List String, rest.Sublist l.keys ∧ key ∉ rest ∧
      (l.serve c).2.keys = rest ++ [key] ∧ (rest ++ [key]).Sublist (l.touch key c.time).keys := by
  rcases c with ⟨time, call⟩
  rcases exists_keys_touch l key time with ⟨first, sub, fresh, touched⟩
  have ofAttempt : (l.attempt key time).2.keys = first ++ [key] :=
    (keys_attempt l key time).trans touched
  cases call with
  | attempt key' =>
    obtain rfl : key' = key := Option.some.inj called
    exact ⟨first, sub, fresh, ofAttempt, touched ▸ List.Sublist.refl _⟩
  | enforce key' =>
    obtain rfl : key' = key := Option.some.inj called
    exact ⟨first, sub, fresh, ofAttempt, touched ▸ List.Sublist.refl _⟩
  | admitRaced key' =>
    obtain rfl : key' = key := Option.some.inj called
    -- the second lookup is of what the sweep kept of the first one
    rcases exists_keys_touch ((l.touch key' time).sweep time).2 key' time with
      ⟨rest, kept, other, again⟩
    have inFirst : rest.Sublist (first ++ [key']) :=
      touched ▸ kept.trans (keys_kept_sublist (l.touch key' time) time)
    have behind : rest.Sublist first := sublist_of_sublist_concat inFirst other
    have last : (l.admitRaced key' time).2.2.keys = rest ++ [key'] := by
      rw [h.admitRaced_eq, keys_attempt, again]
    exact ⟨rest, behind.trans sub, other, last, touched ▸ behind.append_right _⟩
  | sweep => cases called

/-- A key that is displaced has no bucket after the call. -/
theorem not_mem_keys_serve (h : Orderly l a c.time) {key : String}
    (called : c.call.key? = some key) (gone : k ∈ l.displaced key c.time) :
    k ∉ (l.serve c).2.keys := by
  rcases h.exists_keys_serve called with ⟨rest, _, _, served, sub⟩
  intro has
  exact (mem_displaced_iff.1 gone).2 (sub.subset (served ▸ has))

/-- A step gives no bucket to a key that does not call. -/
theorem mem_keys_serve (h : Orderly l a c.time) (has : k ∈ (l.serve c).2.keys) :
    k ∈ l.keys ∨ c.call.key? = some k := by
  cases called : c.call.key? with
  | none =>
    rw [serve_of_no_key l called] at has
    exact .inl ((keys_kept_sublist l c.time).subset has)
  | some key =>
    rcases h.exists_keys_serve called with ⟨rest, sub, _, served, _⟩
    rw [served, List.mem_append, List.mem_singleton] at has
    exact has.imp (fun old => sub.subset old) fun own => congrArg some own.symm

/-! ## Whole runs -/

/-- The table is in order after any run whose clock never goes back, from its last call on. -/
theorem run (h : Orderly l a now) (chronological : Chronological calls)
    (later : ∀ c ∈ calls, now ≤ c.time) {last : Rat} (hl : now ≤ last)
    (past : ∀ c ∈ calls, c.time ≤ last) : Orderly (l.run calls) a last := by
  induction calls generalizing l now with
  | nil => exact h.mono hl
  | cons c rest ih =>
    have order := List.pairwise_cons.1 chronological
    exact ih (h.mono (later c List.mem_cons_self)).serve order.2 order.1
      (past c List.mem_cons_self) fun d hd => past d (List.mem_cons_of_mem _ hd)

end Orderly

/-- What a run leaves of a limiter that no one had called is in order. -/
theorem orderly_run (a : ExactAllowance) {calls : List TimedCall}
    (chronological : Chronological calls) {now : Rat} (past : ∀ c ∈ calls, c.time ≤ now) :
    Orderly (a.limiter.run calls) a now := by
  rcases chronological.exists_start with ⟨start, later⟩
  exact (orderly_limiter a (min start now)).run chronological
    (fun c hc => (min_le_left start now).trans (later c hc)) (min_le_right start now) past

/-- A sweep answers no key, and neither does a call of another key. -/
theorem outcomes_cons_of_ne {k : String} {l : Limiter Rat} {c : TimedCall}
    (other : c.call.key? ≠ some k) (rest : List TimedCall) :
    outcomes k l (c :: rest) = outcomes k (l.serve c).2 rest := by
  simp [outcomes, other]

/-- A call answers its key. -/
theorem outcomes_cons_of_eq {k : String} {l : Limiter Rat} {c : TimedCall} {admitted : Bool}
    (own : c.call.key? = some k) (answer : (l.serve c).1 = some admitted)
    (rest : List TimedCall) :
    outcomes k l (c :: rest) = ⟨c.time, admitted⟩ :: outcomes k (l.serve c).2 rest := by
  simp [outcomes, own, answer]

end Limiter

end Gatehouse.Throttle
