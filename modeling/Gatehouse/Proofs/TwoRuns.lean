import Gatehouse.Proofs.Flow

/-!
# Two runs of operations

Two operations are compared by running them in two worlds.  They mirror each other if, whenever
they start in worlds that are related, they end in related worlds, and either both fail in the same
way or both succeed with related answers.

Main results:

- `Matched`: outcomes that are the same but for what succeeds.
- `Mirrors`: operations that keep a relation of worlds.
- `mirrors_bind`: sequences mirror each other part by part.
- `mirrors_audited`: so do operations between the lines of their audits.
-/

namespace Gatehouse

/-- Two outcomes match: both fail in the same way, or both succeed with related answers. -/
inductive Matched {ε α : Type} (Q : α → α → Prop) : Except ε α → Except ε α → Prop
  | error (e : ε) : Matched Q (.error e) (.error e)
  | ok {a b : α} (related : Q a b) : Matched Q (.ok a) (.ok b)

namespace Matched

variable {ε ε' α : Type} {Q : α → α → Prop}

/-- An outcome matches itself, if answers are related to themselves. -/
theorem refl (hQ : ∀ a, Q a a) (outcome : Except ε α) : Matched Q outcome outcome := by
  cases outcome with
  | error e => exact .error e
  | ok a => exact .ok (hQ a)

/-- Outcomes that match with equal answers are equal. -/
theorem eq {x y : Except ε α} (h : Matched Eq x y) : x = y := by
  cases h with
  | error e => rfl
  | ok same => rw [same]

/-- Outcomes that match still do when their errors are translated. -/
theorem mapError {x y : Except ε α} (h : Matched Q x y) (f : ε → ε') :
    Matched Q (x.mapError f) (y.mapError f) := by
  cases h with
  | error e => exact .error (f e)
  | ok related => exact .ok related

/-- Outcomes that match end alike. -/
theorem ending {x y : Except Failure α} (h : Matched Q x y) :
    Audit.Ending.of x = Audit.Ending.of y := by
  cases h <;> rfl

end Matched

namespace Flow

variable {α β : Type} {R : World → World → Prop} {Q : α → α → Prop} {Q' : β → β → Prop}
  {f g : Flow α}

/-- Two operations mirror each other: from related worlds they lead to related worlds, and their
outcomes match. -/
structure Mirrors (R : World → World → Prop) (Q : α → α → Prop) (f g : Flow α) : Prop where
  outcomes : ∀ {w w'}, R w w' → Matched Q (f.runIn w).1 (g.runIn w').1
  worlds : ∀ {w w'}, R w w' → R (f.runIn w).2 (g.runIn w').2

/-- Related results mirror each other. -/
theorem mirrors_pure {a b : α} (h : Q a b) : Mirrors R Q (pure a) (pure b) :=
  ⟨fun _ => .ok h, id⟩

/-- Outcomes that match mirror each other. -/
theorem mirrors_lift {x y : Except Failure α} (h : Matched Q x y) :
    Mirrors R Q (lift x) (lift y) :=
  ⟨fun _ => h, id⟩

/-- A refusal mirrors itself. -/
theorem mirrors_refuse (c : Cause) : Mirrors R Q (refuse c) (refuse c) :=
  mirrors_lift (.error _)

/-- An outcome mirrors itself, with a fault or without. -/
theorem mirrors_liftFault (x : Except Fault α) : Mirrors R Eq (liftFault x) (liftFault x) :=
  mirrors_lift (.refl (fun _ => rfl) _)

/-- What holds of every answer of the first operation may be added to what relates the answers. -/
theorem Mirrors.and_left {P : α → Prop} (h : Mirrors R Q f g)
    (answers : ∀ w a, (f.runIn w).1 = .ok a → P a) :
    Mirrors R (fun a b => Q a b ∧ P a) f g := by
  refine ⟨fun {w w'} related => ?_, h.worlds⟩
  have matched := h.outcomes related
  have first := answers w
  generalize (f.runIn w).1 = x at matched first
  generalize (g.runIn w').1 = y at matched
  cases matched with
  | error e => exact .error e
  | ok related => exact .ok ⟨related, first _ rfl⟩

/-- Sequences mirror each other if their first parts do, and their second parts do after answers
that are related. -/
theorem mirrors_bind {f' g' : α → Flow β} (first : Mirrors R Q f g)
    (second : ∀ a b, Q a b → Mirrors R Q' (f' a) (g' b)) : Mirrors R Q' (f >>= f') (g >>= g') := by
  have both {w w' : World} (related : R w w') :
      Matched Q' ((f >>= f').runIn w).1 ((g >>= g').runIn w').1 ∧
        R ((f >>= f').runIn w).2 ((g >>= g').runIn w').2 := by
    have matched := first.outcomes related
    have worlds := first.worlds related
    rw [run_bind, run_bind]
    generalize f.runIn w = x at matched worlds
    generalize g.runIn w' = y at matched worlds
    rcases x with ⟨outcome, v⟩
    rcases y with ⟨outcome', v'⟩
    simp only at matched worlds
    -- the first parts end alike, so that both second parts run or neither does
    cases matched with
    | error e => exact ⟨.error e, worlds⟩
    | ok answers => exact ⟨(second _ _ answers).outcomes worlds, (second _ _ answers).worlds worlds⟩
  exact ⟨fun related => (both related).1, fun related => (both related).2⟩

/-- Sequences mirror each other if their first parts do with equal answers, and their second parts
do after every answer. -/
theorem mirrors_bind_same {f' g' : α → Flow β} (first : Mirrors R Eq f g)
    (second : ∀ a, Mirrors R Q' (f' a) (g' a)) : Mirrors R Q' (f >>= f') (g >>= g') :=
  mirrors_bind first fun a _ same => same ▸ second a

/-- A choice that is the same mirrors itself if what is chosen does. -/
theorem mirrors_ite {c : Prop} [Decidable c] {f' g' : Flow α} (yes : c → Mirrors R Q f g)
    (no : ¬c → Mirrors R Q f' g') :
    Mirrors R Q (if c then f else f') (if c then g else g') := by
  by_cases h : c
  · rw [if_pos h, if_pos h]
    exact yes h
  · rw [if_neg h, if_neg h]
    exact no h

end Flow

namespace Account

open Gatehouse.Flow

/-- Between the lines of their audits operations mirror each other if they do so without them. -/
theorem mirrors_audited {α : Type} {R : World → World → Prop} {Q : α → α → Prop} {f g : Flow α}
    (logged : ∀ w w' line, R w w' → R (w.logged line) (w'.logged line)) (h : Mirrors R Q f g)
    (name : String) : Mirrors R Q (audited name f) (audited name g) := by
  refine ⟨fun related => h.outcomes (logged _ _ _ related), fun {w w'} related => ?_⟩
  have started := logged _ _ (Audit.attempt name) related
  have same : Audit.Ending.of (f.runIn (w.logged (Audit.attempt name))).1 =
      Audit.Ending.of (g.runIn (w'.logged (Audit.attempt name))).1 :=
    (h.outcomes started).ending
  rw [run_audited, run_audited, same]
  exact logged _ _ _ (h.worlds started)

end Account

end Gatehouse
