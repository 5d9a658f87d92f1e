import Gatehouse.Form.Basic

/-!
# What can be found wrong with a form

A rule for a text field is broken in one of a few ways, each with a code of its own.  So the code of
a violation and the rule it breaks determine the violation, and with it the message: no part of the
value that was handed in has a place in it.  What a form finds is found under the name of one of its
fields and breaks the rule of that field.

Main results:

- `TextRule.breaks_of_check`: what a check reports is a way to break the rule.
- `TextRule.Breaks.eq_of_code`: the ways to break one rule are told apart by their codes.
- `foundIn_field`, `foundIn_both`: what the checks of fields find.
- `map_shown_eq_of_map_sign_eq`: lists of findings show the same when their places and codes are the
  same.
-/

namespace Gatehouse.Form

variable {α β : Type}

/-! ## Ways to break a rule -/

namespace TextRule

/-- The ways to break a rule.  Each has the bounds of the rule in it, and nothing of the value. -/
inductive Breaks (r : TextRule) : Violation → Prop
  | missing : Breaks r .missing
  | notText : Breaks r .notText
  | tooShort : Breaks r (.tooShort r.least)
  | tooLong {most : Nat} (bounded : r.most = some most) : Breaks r (.tooLong most)
  | notAddress : Breaks r .notAddress
  | tooManyBytes : Breaks r .tooManyBytes

variable {r : TextRule} {x y : Violation}

/-- The shape and the bytes of a text are checked for two violations. -/
theorem breaks_of_shape? {t : String} (broken : violation?.shape? r t = some x) : r.Breaks x := by
  unfold violation?.shape? at broken
  split at broken
  · rcases Option.some.inj broken with rfl
    exact .notAddress
  · split at broken
    · rcases Option.some.inj broken with rfl
      exact .tooManyBytes
    · cases broken

/-- What a text breaks is a way to break the rule. -/
theorem breaks_of_violation? {t : String} (broken : r.violation? t = some x) : r.Breaks x := by
  unfold violation? at broken
  split at broken
  · rcases Option.some.inj broken with rfl
    exact .tooShort
  · split at broken
    · next most bounded =>
      split at broken
      · rcases Option.some.inj broken with rfl
        exact .tooLong bounded
      · exact breaks_of_shape? broken
    · exact breaks_of_shape? broken

/-- What a check reports is a way to break the rule. -/
theorem breaks_of_check {v : Option Json} (reported : r.check v = .error x) : r.Breaks x := by
  unfold check at reported
  split at reported
  · rcases Except.error.inj reported with rfl
    exact .missing
  · split at reported
    · cases reported
    · next v broken =>
      rcases Except.error.inj reported with rfl
      exact breaks_of_violation? broken
  · rcases Except.error.inj reported with rfl
    exact .notText

/-- The ways to break one rule are told apart by their codes. -/
theorem Breaks.eq_of_code (hx : r.Breaks x) (hy : r.Breaks y) (code : x.code = y.code) : x = y := by
  cases hx <;> cases hy <;> simp only [Violation.code, String.reduceEq] at code
  case tooLong.tooLong bounded _ bounded' =>
    rw [bounded] at bounded'
    rw [Option.some.inj bounded']
  all_goals rfl

end TextRule

/-! ## Findings of a form -/

/-- A finding is about one of the fields with rules, and is a way to break the rule of that field,
whatever was handed in. -/
inductive FoundIn (rules : Keyed TextRule) : Finding → Prop
  | field {name : String} {rule : TextRule} {v : Violation} {input : Input}
    (listed : Keyed.lookup rules name = some rule) (breaks : rule.Breaks v) :
    FoundIn rules ⟨[.name name], v, input⟩

/-- The check of a field finds ways to break its rule. -/
theorem foundIn_field {rules : Keyed TextRule} {name : String} {rule : TextRule}
    (listed : Keyed.lookup rules name = some rule) (fields : Keyed Json) :
    ∀ f ∈ (field fields name rule).findings, FoundIn rules f := by
  intro f found
  rw [field, Checked.named] at found
  cases checked : rule.check (Keyed.lookup fields name) with
  | ok t =>
    rw [checked] at found
    cases found
  | error v =>
    rw [checked] at found
    rcases List.mem_singleton.1 found with rfl
    exact .field listed (TextRule.breaks_of_check checked)

/-- Two checks find what one of them finds. -/
theorem foundIn_both {rules : Keyed TextRule} {a : Checked α} {b : Checked β}
    (ha : ∀ f ∈ a.findings, FoundIn rules f) (hb : ∀ f ∈ b.findings, FoundIn rules f) :
    ∀ f ∈ (Checked.both a b).findings, FoundIn rules f := by
  intro f found
  rw [Checked.both_findings] at found
  rcases List.mem_append.1 found with found | found
  · exact ha f found
  · exact hb f found

/-- Filling in what was checked finds nothing more. -/
theorem foundIn_map {rules : Keyed TextRule} {a : Checked α}
    (ha : ∀ f ∈ a.findings, FoundIn rules f) (fill : α → β) :
    ∀ f ∈ Checked.findings (a.map fill), FoundIn rules f := by
  cases a with
  | ok x => exact nofun
  | error fs => exact ha

/-! ## Lists of findings -/

/-- What is told of a finding: its place and its code. -/
def Finding.sign (f : Finding) : List Place × String :=
  (f.places, f.violation.code)

/-- Where findings of a kind show what their places and their codes tell, lists of them do. -/
theorem map_shown_eq_of_map_sign_eq {P : Finding → Prop}
    (shown : ∀ f g, P f → P g → f.sign = g.sign → f.shown = g.shown) {fs gs : List Finding}
    (hfs : ∀ f ∈ fs, P f) (hgs : ∀ g ∈ gs, P g) (same : fs.map Finding.sign = gs.map Finding.sign) :
    fs.map Finding.shown = gs.map Finding.shown := by
  induction fs generalizing gs with
  | nil =>
    rcases List.map_eq_nil_iff.1 same.symm with rfl
    rfl
  | cons f fs ih =>
    cases gs with
    | nil => cases same
    | cons g gs =>
      rw [List.map_cons, List.map_cons, List.cons.injEq] at same
      rw [List.map_cons, List.map_cons,
        shown f g (hfs f List.mem_cons_self) (hgs g List.mem_cons_self) same.1,
        ih (fun x hx => hfs x (List.mem_cons_of_mem f hx))
          (fun x hx => hgs x (List.mem_cons_of_mem g hx)) same.2]

end Gatehouse.Form
