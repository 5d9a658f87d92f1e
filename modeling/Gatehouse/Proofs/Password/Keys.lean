import Gatehouse.Proofs.Password.Hashing

/-!
# Keys of secrets

The key of a secret is its bytes and a zero byte, over and over, up to 72 bytes.  A secret begins
its own key, so secrets of one length never share a key.  A shorter secret shares its key with a
longer one exactly if the longer one goes on with the zero byte and then from the start, which needs
a zero byte in it.  All secrets without a zero byte are told apart by their keys.

Main results:

- `cyclicKey_eq_iff`: exactly which secrets have one key.
- `keys_differ_unless_repeated`: what a match of another secret can come from.
- `repeated_secret_shares_key`: a secret that repeats another one is accepted for its digest.
-/

namespace Gatehouse.Password

open Gatehouse.Text

/-! ## Periods -/

/-- Bytes repeat after a period. -/
def Periodic (period : Nat) (bs : Bytes) : Prop :=
  ∀ i < bs.length - period, bs[i + period]? = bs[i]?

instance (period : Nat) (bs : Bytes) : Decidable (Periodic period bs) :=
  inferInstanceAs (Decidable (∀ i < bs.length - period, bs[i + period]? = bs[i]?))

/-- The first period of bytes determines them. -/
theorem Periodic.eq_of_take {period : Nat} {xs ys : Bytes} (positive : 0 < period)
    (hx : Periodic period xs) (hy : Periodic period ys) (length : xs.length = ys.length)
    (first : xs.take period = ys.take period) : xs = ys := by
  apply List.ext_getElem?
  intro i
  induction i using Nat.strongRecOn with
  | _ i ih =>
    by_cases early : i < period
    · have same := congrArg (·[i]?) first
      simpa only [List.getElem?_take, early, if_true] using same
    by_cases inside : i < xs.length
    · have back : i - period + period = i := Nat.sub_add_cancel (Nat.le_of_not_lt early)
      calc
        xs[i]? = xs[i - period]? := by
          have step := hx (i - period) (by omega)
          rwa [back] at step
        _ = ys[i - period]? := ih (i - period) (by omega)
        _ = ys[i]? := by
          have step := hy (i - period) (by omega)
          rw [back] at step
          exact step.symm
    · rw [List.getElem?_eq_none (Nat.le_of_not_lt inside),
        List.getElem?_eq_none (by omega)]

/-! ## Keys -/

/-- The zero byte makes a secret one byte longer. -/
theorem length_append_zero (secret : Bytes) : (secret ++ [0]).length = secret.length + 1 := by
  rw [List.length_append, List.length_singleton]

/-- A byte of a key. -/
theorem getElem?_cyclicKey {secret : Bytes} {i : Nat} (inside : i < 72) :
    (cyclicKey secret)[i]? = (secret ++ [0])[i % (secret.length + 1)]? := by
  have below : i % (secret.length + 1) < (secret ++ [0]).length := by
    rw [length_append_zero]
    exact Nat.mod_lt _ (Nat.succ_pos _)
  simp [cyclicKey, Cipher.Blowfish.cyclic, List.getElem?_range inside,
    List.getElem?_eq_getElem below]

/-- A key repeats the secret and the zero byte. -/
theorem periodic_cyclicKey (secret : Bytes) :
    Periodic (secret.length + 1) (cyclicKey secret) := by
  intro i inside
  rw [length_cyclicKey] at inside
  rw [getElem?_cyclicKey (by omega), getElem?_cyclicKey (by omega), Nat.add_mod_right]

/-- A key starts with the secret and the zero byte, as far as there is room for them. -/
theorem take_cyclicKey (secret : Bytes) :
    (cyclicKey secret).take (secret.length + 1) = (secret ++ [0]).take 72 := by
  apply List.ext_getElem?
  intro i
  rw [List.getElem?_take, List.getElem?_take]
  by_cases inside : i < 72
  · by_cases first : i < secret.length + 1
    · rw [if_pos first, if_pos inside, getElem?_cyclicKey inside, Nat.mod_eq_of_lt first]
    · rw [if_neg first, if_pos inside, List.getElem?_eq_none]
      rw [length_append_zero]
      exact Nat.le_of_not_lt first
  · rw [if_neg inside, List.getElem?_eq_none (by rw [length_cyclicKey]; omega), ite_self]

/-- A secret of at most 72 bytes begins its key. -/
theorem prefix_cyclicKey {secret : Bytes} (fits : secret.length ≤ 72) :
    secret <+: cyclicKey secret := by
  have start : (secret ++ [0]).take 72 <+: cyclicKey secret :=
    take_cyclicKey secret ▸ List.take_prefix _ _
  have cut : secret <+: (secret ++ [0]).take 72 :=
    List.prefix_take_iff.2 ⟨List.prefix_append _ _, fits⟩
  exact cut.trans start

/-- A secret of less than 72 bytes and the zero byte begin its key. -/
theorem append_zero_prefix_cyclicKey {secret : Bytes} (room : secret.length < 72) :
    secret ++ [0] <+: cyclicKey secret := by
  have whole : (secret ++ [0]).take 72 = secret ++ [0] :=
    List.take_of_length_le (by rw [length_append_zero]; exact room)
  rw [← whole, ← take_cyclicKey]
  exact List.take_prefix _ _

/-! ## Secrets with one key -/

/-- A longer secret repeats a shorter one: it goes on with the zero byte, and the whole key is the
shorter secret and the zero byte over and over. -/
structure Repeats (short long : Bytes) : Prop where
  begins : short ++ [0] <+: long
  periodic : Periodic (short.length + 1) (cyclicKey long)

instance (short long : Bytes) : Decidable (Repeats short long) :=
  decidable_of_iff (short ++ [0] <+: long ∧ Periodic (short.length + 1) (cyclicKey long))
    ⟨fun h => ⟨h.1, h.2⟩, fun h => ⟨h.begins, h.periodic⟩⟩

/-- A secret that repeats another one has a zero byte. -/
theorem Repeats.zero_mem {short long : Bytes} (h : Repeats short long) : 0 ∈ long :=
  h.begins.subset (List.mem_append_right _ List.mem_cons_self)

/-- A secret that repeats another one has the key of that one. -/
theorem Repeats.cyclicKey_eq {short long : Bytes} (fits : long.length ≤ 72)
    (h : Repeats short long) : cyclicKey short = cyclicKey long := by
  have longer := h.begins.length_le
  rw [length_append_zero] at longer
  have first : (cyclicKey short).take (short.length + 1) =
      (cyclicKey long).take (short.length + 1) := by
    rcases h.begins.trans (prefix_cyclicKey fits) with ⟨rest, whole⟩
    rw [take_cyclicKey, List.take_of_length_le (by rw [length_append_zero]; omega), ← whole,
      List.take_left' (length_append_zero short)]
  exact Periodic.eq_of_take (Nat.succ_pos _) (periodic_cyclicKey short) h.periodic
    (by rw [length_cyclicKey, length_cyclicKey]) first

/-- Of two secrets with one key, a longer one repeats the other. -/
theorem repeats_of_cyclicKey_eq {short long : Bytes} (fits : long.length ≤ 72)
    (longer : short.length < long.length) (same : cyclicKey short = cyclicKey long) :
    Repeats short long := by
  constructor
  · have begins : short ++ [0] <+: cyclicKey long :=
      same ▸ append_zero_prefix_cyclicKey (Nat.lt_of_lt_of_le longer fits)
    exact List.prefix_of_prefix_length_le begins (prefix_cyclicKey fits)
      (by rw [length_append_zero]; exact longer)
  · rw [← same]
    exact periodic_cyclicKey short

/-- Secrets of one length with one key are equal. -/
theorem eq_of_cyclicKey_eq {s t : Bytes} (fits : s.length ≤ 72) (length : s.length = t.length)
    (same : cyclicKey s = cyclicKey t) : s = t := by
  have begins : t <+: cyclicKey s := same ▸ prefix_cyclicKey (length ▸ fits)
  have inside : s <+: t :=
    List.prefix_of_prefix_length_le (prefix_cyclicKey fits) begins (Nat.le_of_eq length)
  exact inside.eq_of_length length

/-- Two secrets have one key exactly if they are equal or one repeats the other. -/
theorem cyclicKey_eq_iff {s t : Bytes} (fitsS : s.length ≤ 72) (fitsT : t.length ≤ 72) :
    cyclicKey s = cyclicKey t ↔ s = t ∨ Repeats s t ∨ Repeats t s := by
  constructor
  · intro same
    rcases Nat.lt_trichotomy s.length t.length with shorter | length | longer
    · exact .inr (.inl (repeats_of_cyclicKey_eq fitsT shorter same))
    · exact .inl (eq_of_cyclicKey_eq fitsS length same)
    · exact .inr (.inr (repeats_of_cyclicKey_eq fitsS longer same.symm))
  · rintro (rfl | repeated | repeated)
    · rfl
    · exact repeated.cyclicKey_eq fitsT
    · exact (repeated.cyclicKey_eq fitsS).symm

/-! ## Matches of other secrets -/

/-- Two secrets with different keys have one checksum. -/
def Collision (cost : Nat) (salt s t : Bytes) : Prop :=
  cyclicKey s ≠ cyclicKey t ∧ checksumOf cost salt s = checksumOf cost salt t

/-- Secrets with one key have one checksum. -/
theorem checksumOf_congr {cost : Nat} {salt s t : Bytes} (same : cyclicKey s = cyclicKey t) :
    checksumOf cost salt s = checksumOf cost salt t := by
  rw [checksumOf, checksumOf, same]

/-- Two secrets have one checksum exactly if they have one key or collide. -/
theorem checksumOf_eq_iff {cost : Nat} {salt s t : Bytes} :
    checksumOf cost salt s = checksumOf cost salt t ↔
      cyclicKey s = cyclicKey t ∨ Collision cost salt s t := by
  constructor
  · intro equal
    by_cases same : cyclicKey s = cyclicKey t
    · exact .inl same
    · exact .inr ⟨same, equal⟩
  · rintro (same | collision)
    · exact checksumOf_congr same
    · exact collision.2

/-- A secret matches the digest that another one is hashed to exactly if they have one checksum. -/
theorem matched_hashed_iff {cost : Nat} {salt : Bytes} {s t : String} (low : minCost ≤ cost)
    (high : cost ≤ maxCost) (sixteen : salt.length = 16) (fits : (utf8 t).length ≤ maxSecretBytes) :
    matched (some t) (some (Digest.ofSecret 'b' cost salt (utf8 s)).render) = .ok true ↔
      checksumOf cost salt (utf8 s) = checksumOf cost salt (utf8 t) := by
  rw [matched_eq_ok, Except.ok.injEq, accepts_eq_true_iff,
    ← verifies_ofSecret (show 'b' ∈ variants by decide) low high sixteen]
  constructor
  · rintro ⟨_, _, secret, digest, _, verified⟩
    rcases Option.some.inj secret with rfl
    rcases Option.some.inj digest with rfl
    exact verified
  · intro verified
    exact ⟨t, _, rfl, rfl, fits, verified⟩

/-- The bytes of a text determine it. -/
theorem eq_of_utf8_eq {s t : String} (same : utf8 s = utf8 t) : s = t := by
  have read := congrArg ofUtf8? same
  rwa [ofUtf8?_utf8, ofUtf8?_utf8, Option.some.injEq] at read

/-- Two different secrets that may be hashed have different keys unless one repeats the other, and
always if neither has a zero byte.  Each matches the digest of the other, at any cost and with any
salt, exactly if one repeats the other or they collide under different keys. -/
theorem keys_differ_unless_repeated {s t : String} (fitsS : (utf8 s).length ≤ 72)
    (fitsT : (utf8 t).length ≤ 72) (different : s ≠ t) :
    (cyclicKey (utf8 s) ≠ cyclicKey (utf8 t) ↔
      ¬ Repeats (utf8 s) (utf8 t) ∧ ¬ Repeats (utf8 t) (utf8 s)) ∧
    (0 ∉ utf8 s → 0 ∉ utf8 t → cyclicKey (utf8 s) ≠ cyclicKey (utf8 t)) ∧
    ∀ (cost : Nat) (salt : Bytes), minCost ≤ cost → cost ≤ maxCost → salt.length = 16 →
      ∃ digest, (Verifier.mk cost).hashWith salt (some s) = .ok digest ∧
        (matched (some t) (some digest) = .ok true ↔
          Repeats (utf8 s) (utf8 t) ∨ Repeats (utf8 t) (utf8 s) ∨
            Collision cost salt (utf8 s) (utf8 t)) := by
  have shared : cyclicKey (utf8 s) = cyclicKey (utf8 t) ↔
      Repeats (utf8 s) (utf8 t) ∨ Repeats (utf8 t) (utf8 s) := by
    rw [cyclicKey_eq_iff fitsS fitsT, or_iff_right fun same => different (eq_of_utf8_eq same)]
  refine ⟨?_, ?_, ?_⟩
  · rw [Ne, shared, not_or]
  · intro noneS noneT same
    rcases shared.1 same with repeated | repeated
    · exact noneT repeated.zero_mem
    · exact noneS repeated.zero_mem
  · intro cost salt low high sixteen
    refine ⟨_, hashWith_eq_ok fitsS, ?_⟩
    rw [matched_hashed_iff low high sixteen fitsT, checksumOf_eq_iff, shared, or_assoc]

/-- A zero byte at the end tells two secrets apart: each matches the digest of the other only under
a collision. -/
theorem zero_byte_at_end_tells_apart :
    (utf8 "é").length ≤ 72 ∧ (utf8 "é\x00").length ≤ 72 ∧ "é" ≠ "é\x00" ∧
      cyclicKey (utf8 "é") ≠ cyclicKey (utf8 "é\x00") ∧
      ∃ digest, (Verifier.mk 12).hashWith (salt 7) (some "é") = .ok digest ∧
        (matched (some "é\x00") (some digest) = .ok true ↔
          Collision 12 (salt 7) (utf8 "é") (utf8 "é\x00")) := by
  have fitsS : (utf8 "é").length ≤ 72 := by decide
  have fitsT : (utf8 "é\x00").length ≤ 72 := by decide
  have different : "é" ≠ "é\x00" := by decide
  have forward : ¬ Repeats (utf8 "é") (utf8 "é\x00") := by decide
  have backward : ¬ Repeats (utf8 "é\x00") (utf8 "é") := by decide
  rcases keys_differ_unless_repeated fitsS fitsT different with ⟨keys, _, matching⟩
  rcases matching 12 (salt 7) (by decide) (by decide) (length_salt 7) with ⟨digest, hashed, exactly⟩
  rw [or_iff_right forward, or_iff_right backward] at exactly
  exact ⟨fitsS, fitsT, different, keys.2 ⟨forward, backward⟩, digest, hashed, exactly⟩

/-- A secret that is another one, a zero byte and the other one again has the key of that one, and
is accepted for its digest. -/
theorem repeated_secret_shares_key :
    "password1" ≠ "password1\x00password1" ∧ (utf8 "password1\x00password1").length ≤ 72 ∧
      cyclicKey (utf8 "password1") = cyclicKey (utf8 "password1\x00password1") ∧
      ∃ digest, (Verifier.mk 4).hash 2 (some "password1") = .ok digest ∧
        matched (some "password1\x00password1") (some digest) = .ok true := by
  have fits : (utf8 "password1\x00password1").length ≤ 72 := by decide
  have same : cyclicKey (utf8 "password1") = cyclicKey (utf8 "password1\x00password1") := by decide
  refine ⟨by decide, fits, same, _, hashWith_eq_ok (by decide), ?_⟩
  exact (matched_hashed_iff (by decide) (by decide) (length_salt 2) fits).2 (checksumOf_congr same)

end Gatehouse.Password
