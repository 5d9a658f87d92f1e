import Gatehouse.Proofs.Throttle.Refilling

/-!
# How a bucket recovers

What a bucket answers depends only on the tokens that were taken from it.  A denied call takes
none, and being refilled or asked whether it is full in between changes nothing: a bucket gains
the same whether it is refilled once or many times.  So all of this may be left out of a run, and
the rest is answered as before.

In particular a client cannot put off its own recovery.  A bucket with less than one token holds
a whole one again after a time that depends only on what it held, and until then it denies every
call, however many there are.

Main results:

- `Lightened.agree`: what takes no token makes no difference to the rest of a run.
- `one_le_tokens_refill_iff`: when a bucket holds a whole token again.
- `hammering_delays_nothing`: both of these for every run of a bucket.
-/

namespace Gatehouse.Throttle.Bucket

/-! ## Runs of a bucket -/

/-- What a bucket is used for: to take a token, to be refilled, or to tell whether it is full. -/
inductive Use
  | take
  | refill
  | probe
deriving DecidableEq, Repr

/-- A use at the time that the clock shows. -/
structure TimedUse where
  time : Rat
  use : Use
deriving DecidableEq, Repr

/-- The clock never goes back. -/
def InOrder (uses : List TimedUse) : Prop :=
  uses.Pairwise fun u v => u.time ≤ v.time

instance (uses : List TimedUse) : Decidable (InOrder uses) :=
  inferInstanceAs (Decidable (List.Pairwise _ _))

/-- A run has a time before which the bucket is not used. -/
theorem InOrder.exists_start {uses : List TimedUse} (h : InOrder uses) :
    ∃ now, ∀ u ∈ uses, now ≤ u.time := by
  cases uses with
  | nil => exact ⟨0, by simp⟩
  | cons u rest =>
    refine ⟨u.time, fun v hv => ?_⟩
    rcases List.mem_cons.1 hv with rfl | later
    · exact le_rfl
    · exact List.rel_of_pairwise_cons h later

/-- Use a bucket.  Takes are answered by whether they are admitted, probes by whether the bucket
is full, and refills by nothing. -/
def serve (b : Bucket Rat) (u : TimedUse) : Option Bool × Bucket Rat :=
  match u.use with
  | .take => (some (b.tryTake u.time).1, (b.tryTake u.time).2)
  | .refill => (none, b.refill u.time)
  | .probe => (some (b.isFull u.time).1, (b.isFull u.time).2)

/-- The bucket after a run. -/
def run (b : Bucket Rat) : List TimedUse → Bucket Rat
  | [] => b
  | u :: rest => run (b.serve u).2 rest

/-- The answers that a run gets. -/
def answers (b : Bucket Rat) : List TimedUse → List (Option Bool)
  | [] => []
  | u :: rest => (b.serve u).1 :: answers (b.serve u).2 rest

/-- A use takes no token: it is a refill, a probe, or a call that is denied. -/
def TakesNone (b : Bucket Rat) (u : TimedUse) : Prop :=
  u.use = .take → (b.tryTake u.time).1 = false

instance (b : Bucket Rat) (u : TimedUse) : Decidable (b.TakesNone u) :=
  inferInstanceAs (Decidable (_ → _))

/-- A run of a bucket becomes another one when some of its uses are left out that take no token;
with the answers that the others get while those are still there. -/
inductive Lightened : Bucket Rat → List TimedUse → List TimedUse → List (Option Bool) → Prop
  | nil (b : Bucket Rat) : Lightened b [] [] []
  | stays {b : Bucket Rat} {rest fewer : List TimedUse} {given : List (Option Bool)} (u : TimedUse)
    (h : Lightened (b.serve u).2 rest fewer given) :
    Lightened b (u :: rest) (u :: fewer) ((b.serve u).1 :: given)
  | leftOut {b : Bucket Rat} {rest fewer : List TimedUse} {given : List (Option Bool)}
    (u : TimedUse) (none : b.TakesNone u) (h : Lightened (b.serve u).2 rest fewer given) :
    Lightened b (u :: rest) fewer given

variable {b b' : Bucket Rat} {u : TimedUse} {uses fewer : List TimedUse}
  {given : List (Option Bool)} {now last : Rat}

/-- What a use does depends on the refilled bucket only. -/
theorem serve_congr (same : b.refill u.time = b'.refill u.time) : b.serve u = b'.serve u := by
  simp only [serve, tryTake, isFull, same]

/-- A use that takes no token leaves the refilled bucket. -/
theorem TakesNone.serve_eq (none : b.TakesNone u) : (b.serve u).2 = b.refill u.time := by
  rcases u with ⟨time, use⟩
  cases use with
  | take =>
    have short : ¬ 1 ≤ (b.refill time).tokens := fun whole => by
      have admitted := tryTake_admitted whole
      exact absurd (none rfl) (by simp [admitted])
    simp only [serve, tryTake_denied short]
  | refill => rfl
  | probe => rfl

/-- A bucket stays within its bounds when it is used. -/
theorem Bounded.serve (h : b.Bounded) (u : TimedUse) : (b.serve u).2.Bounded := by
  rcases u with ⟨time, use⟩
  cases use with
  | take => exact h.tryTake time
  | refill => exact h.refill time
  | probe => exact h.refill time

/-! ## Leaving out what takes nothing -/

/-- Two buckets that are the same once they are refilled answer a run alike, even if uses that take
no token are left out for one of them, and are the same afterwards. -/
theorem Lightened.agree (lightened : Lightened b uses fewer given) (h : b.Bounded) (h' : b'.Bounded)
    (order : InOrder uses) (start : ∀ u ∈ uses, now ≤ u.time)
    (same : b.refill now = b'.refill now) :
    b'.answers fewer = given ∧ ∀ last, now ≤ last → (∀ u ∈ uses, u.time ≤ last) →
      (b.run uses).refill last = (b'.run fewer).refill last := by
  induction lightened generalizing b' now with
  | nil b =>
    refine ⟨rfl, fun last hl _ => ?_⟩
    rw [run, run, ← h.refill_refill hl, same, h'.refill_refill hl]
  | @stays b rest fewer given u _ ih =>
    have inOrder := List.pairwise_cons.1 order
    have first := start u List.mem_cons_self
    have served : b'.serve u = b.serve u := by
      refine serve_congr ?_
      rw [← h.refill_refill first, same, h'.refill_refill first]
    rw [answers, run, run, served]
    have rested := ih (h.serve u) (h.serve u) inOrder.2 inOrder.1 rfl
    exact ⟨congrArg _ rested.1, fun last _ past => rested.2 last (past u List.mem_cons_self)
      fun v hv => past v (List.mem_cons_of_mem _ hv)⟩
  | @leftOut b rest fewer given u none _ ih =>
    have inOrder := List.pairwise_cons.1 order
    have first := start u List.mem_cons_self
    have sameThen : (b.serve u).2.refill u.time = b'.refill u.time := by
      rw [none.serve_eq, h.refill_refill le_rfl, ← h.refill_refill first, same,
        h'.refill_refill first]
    have rested := ih (h.serve u) h' inOrder.2 inOrder.1 sameThen
    exact ⟨rested.1, fun last _ past => rested.2 last (past u List.mem_cons_self)
      fun v hv => past v (List.mem_cons_of_mem _ hv)⟩

/-- A run all of whose calls come while a bucket holds less than one token may be left out. -/
theorem lightened_nil (h : b.Bounded) (order : InOrder uses)
    (short : ∀ u ∈ uses, u.use = .take → (b.refill u.time).tokens < 1) :
    ∃ given, Lightened b uses [] given := by
  induction uses generalizing b with
  | nil => exact ⟨[], .nil b⟩
  | cons u rest ih =>
    have inOrder := List.pairwise_cons.1 order
    have none : b.TakesNone u := fun take => by
      rw [tryTake_denied (not_le.2 (short u List.mem_cons_self take))]
    have restShort : ∀ v ∈ rest, v.use = .take → ((b.serve u).2.refill v.time).tokens < 1 := by
      intro v hv take
      rw [none.serve_eq, h.refill_refill (inOrder.1 v hv)]
      exact short v (List.mem_cons_of_mem _ hv) take
    rcases ih (h.serve u) inOrder.2 restShort with ⟨given, lightened⟩
    exact ⟨given, .leftOut u none lightened⟩

/-! ## Recovery -/

/-- When a bucket with less than one token holds a whole one again. -/
def recovery (b : Bucket Rat) : Rat :=
  b.lastRefill + (1 - b.tokens) / b.rate

/-- A bucket that is no smaller than a token holds a whole one exactly from its recovery on. -/
theorem one_le_tokens_refill_iff (h : b.Bounded) (whole : 1 ≤ b.capacity)
    (later : b.lastRefill ≤ now) : 1 ≤ (b.refill now).tokens ↔ b.recovery ≤ now := by
  rw [h.tokens_refill later, le_min_iff, and_iff_left whole, recovery, ← le_sub_iff_add_le',
    div_le_iff₀ h.rate_pos, sub_le_iff_le_add']

/-- Whatever a bucket is used for, it admits a call exactly from its recovery on, unless an earlier
call came after that. -/
theorem admits_iff_recovered (h : b.Bounded) (whole : 1 ≤ b.capacity)
    (order : InOrder uses) (start : ∀ u ∈ uses, b.lastRefill ≤ u.time) (later : b.lastRefill ≤ now)
    (past : ∀ u ∈ uses, u.time ≤ now)
    (early : ∀ u ∈ uses, u.use = .take → u.time < b.recovery) :
    ((b.run uses).tryTake now).1 = true ↔ b.recovery ≤ now := by
  have short : ∀ u ∈ uses, u.use = .take → (b.refill u.time).tokens < 1 := by
    intro u hu take
    have iff := one_le_tokens_refill_iff h whole (start u hu)
    exact not_le.1 fun enough => absurd (iff.1 enough) (not_le.2 (early u hu take))
  rcases lightened_nil h order short with ⟨given, lightened⟩
  have same : (b.run uses).refill now = b.refill now :=
    (lightened.agree h h order start rfl).2 now later past
  rw [← one_le_tokens_refill_iff h whole later, tryTake, same]
  split <;> simp_all

/-- Hammering does not delay recovery.  Of a bucket that gains tokens, holds something between
nothing and its capacity and is no smaller than a token:

- uses that take no token, which are refills, probes and denied calls, may be left out of any run
  whose clock never goes back, or put into one; the other uses are answered as before, and the
  bucket is the same when it is refilled at the end;
- in any run from its last refill on, every call is denied that comes before the time at which the
  bucket holds a whole token again, and the first call at that time or later is admitted. -/
theorem hammering_delays_nothing {b : Bucket Rat} (bounded : b.Bounded) (whole : 1 ≤ b.capacity) :
    (∀ uses fewer given, Lightened b uses fewer given → InOrder uses →
      b.answers fewer = given ∧
      ∀ last, (∀ u ∈ uses, u.time ≤ last) →
        (b.run uses).refill last = (b.run fewer).refill last) ∧
    (∀ begun time rest, InOrder (begun ++ ⟨time, .take⟩ :: rest) →
      (∀ u ∈ begun ++ ⟨time, .take⟩ :: rest, b.lastRefill ≤ u.time) →
      (time < b.lastRefill + (1 - b.tokens) / b.rate →
        ((b.run begun).serve ⟨time, .take⟩).1 = some false) ∧
      (b.lastRefill + (1 - b.tokens) / b.rate ≤ time →
        (∀ u ∈ begun, u.use = .take → u.time < b.lastRefill + (1 - b.tokens) / b.rate) →
        ((b.run begun).serve ⟨time, .take⟩).1 = some true)) := by
  refine ⟨fun uses fewer given lightened order => ?_, fun begun time rest order start => ?_⟩
  · rcases order.exists_start with ⟨first, later⟩
    have agree (now : Rat) (hn : now ≤ first) := lightened.agree bounded bounded order
      (fun u hu => hn.trans (later u hu)) (rfl : b.refill now = b.refill now)
    exact ⟨(agree first le_rfl).1, fun last past =>
      (agree (min first last) (min_le_left _ _)).2 last (min_le_right _ _) past⟩
  · rcases List.pairwise_append.1 order with ⟨inOrder, _, before⟩
    have past : ∀ u ∈ begun, u.time ≤ time := fun u hu => before u hu _ List.mem_cons_self
    have later : b.lastRefill ≤ time :=
      start ⟨time, .take⟩ (List.mem_append_right _ List.mem_cons_self)
    have admits := admits_iff_recovered bounded whole inOrder
      (fun u hu => start u (List.mem_append_left _ hu)) later past
    constructor
    · intro tooEarly
      have denied : ¬ ((b.run begun).tryTake time).1 = true := fun admitted => not_le.2 tooEarly
        ((admits fun u hu _ => (past u hu).trans_lt tooEarly).1 admitted)
      exact congrArg some (Bool.eq_false_iff.2 denied)
    · intro recovered early
      exact congrArg some ((admits early).2 recovered)

/-- A bucket with half a token. -/
def halfToken : Bucket Rat :=
  ⟨2, 1, 1 / 2, 0, false⟩

/-- A client calls before the bucket has recovered, and asks about it, and is refilled. -/
def impatience : List TimedUse :=
  [⟨1 / 4, .take⟩, ⟨1 / 3, .probe⟩, ⟨3 / 8, .refill⟩, ⟨2 / 5, .take⟩]

/-- Half a second after its last refill the bucket has recovered, whether the client waits or
not. -/
theorem half_token_recovers :
    halfToken.Bounded ∧ 1 ≤ halfToken.capacity ∧
      Lightened halfToken (impatience ++ [⟨1 / 2, .take⟩]) [⟨1 / 2, .take⟩] [some true] ∧
      halfToken.answers [⟨1 / 2, .take⟩] = [some true] ∧
      (halfToken.run (impatience ++ [⟨1 / 2, .take⟩])).refill 1 =
        (halfToken.run [⟨1 / 2, .take⟩]).refill 1 ∧
      ((halfToken.run impatience).serve ⟨9 / 20, .take⟩).1 = some false ∧
      ((halfToken.run impatience).serve ⟨1 / 2, .take⟩).1 = some true := by
  have bounded : halfToken.Bounded :=
    ⟨by decide +kernel, by decide +kernel, by decide +kernel⟩
  have whole : 1 ≤ halfToken.capacity := by decide +kernel
  have lightened : Lightened halfToken (impatience ++ [⟨1 / 2, .take⟩]) [⟨1 / 2, .take⟩]
      [some true] := by
    have admitted : ((halfToken.run impatience).serve ⟨1 / 2, .take⟩).1 = some true := by
      decide +kernel
    rw [← admitted]
    exact .leftOut _ (by decide +kernel) (.leftOut _ (by decide +kernel)
      (.leftOut _ (by decide +kernel) (.leftOut _ (by decide +kernel) (.stays _ (.nil _)))))
  have holds := hammering_delays_nothing bounded whole
  have lighter := holds.1 _ _ _ lightened (by decide +kernel)
  exact ⟨bounded, whole, lightened, lighter.1, lighter.2 1 (by decide +kernel),
    (holds.2 impatience (9 / 20) [] (by decide +kernel) (by decide +kernel)).1 (by decide +kernel),
    (holds.2 impatience (1 / 2) [] (by decide +kernel) (by decide +kernel)).2 (by decide +kernel)
      (by decide +kernel)⟩

end Gatehouse.Throttle.Bucket
