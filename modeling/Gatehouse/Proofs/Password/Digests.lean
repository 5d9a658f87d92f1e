import Gatehouse.Password.Verifier

/-!
# Digests of secrets

The text of a digest is read back as its parts, so the digest of a secret is checked with the cost
and the salt that it was made with, and the secret is accepted for it.  A text is cut by the number
of its characters: the salts that are drawn have sixteen bytes, and a checksum has twenty-three.

Main results:

- `decodeSymbols?_encodeBytes`: bytes are read back from their symbols.
- `Digest.parse?_render`: the parts of a digest are read back from its text.
- `accepts_own_digest`: a secret is accepted for its own digest.
-/

namespace Gatehouse

open Gatehouse.Text Gatehouse.Codec

/-! ## Symbols -/

namespace Codec.Sextet

/-- Every three bytes take four groups of six bits, and a rest takes one group more than it has
bytes. -/
theorem length_ofBytes (bs : Bytes) : (ofBytes bs).length = (4 * bs.length + 2) / 3 := by
  fun_induction ofBytes bs with
  | case1 => rfl
  | case2 a => simp
  | case3 a b => simp
  | case4 a b c rest ih =>
    simp only [List.length_cons, ih]
    omega

/-- Every three bytes come from four groups of six bits. -/
theorem length_toBytes (ss : List Nat) : (toBytes ss).length = 3 * ss.length / 4 := by
  fun_induction toBytes ss with
  | case1 a b c d rest ih =>
    simp only [List.length_cons, ih]
    omega
  | case2 a b c => simp
  | case3 a b => simp
  | case4 ss four three two =>
    rcases ss with _ | ⟨a, _ | ⟨b, _ | ⟨c, _ | ⟨d, rest⟩⟩⟩⟩
    · rfl
    · simp
    · exact (two a b rfl).elim
    · exact (three a b c rfl).elim
    · exact (four a b c d rest rfl).elim

end Codec.Sextet

namespace Password

/-- Sextets are read back from their symbols. -/
theorem mapM_sextet?_symbols {ss : List Nat} (small : ∀ s ∈ ss, s < 64) :
    (ss.map symbol).mapM sextet? = some ss := by
  induction ss with
  | nil => rfl
  | cons s ss ih =>
    have head := sextet?_symbol ⟨s, small s List.mem_cons_self⟩
    simp only at head
    simp [head, ih fun t ht => small t (List.mem_cons_of_mem s ht)]

/-- Bytes are read back from their symbols. -/
theorem decodeSymbols?_encodeBytes (bs : Bytes) : decodeSymbols? (encodeBytes bs) = some bs := by
  rw [decodeSymbols?, encodeBytes, mapM_sextet?_symbols (Sextet.ofBytes_lt bs), Option.map_some,
    Sextet.toBytes_ofBytes]

/-- Every three bytes take four symbols. -/
theorem length_encodeBytes (bs : Bytes) : (encodeBytes bs).length = (4 * bs.length + 2) / 3 := by
  rw [encodeBytes, List.length_map, Sextet.length_ofBytes]

/-- Every four symbols of the alphabet are three bytes. -/
theorem exists_decodeSymbols? {cs : List Char} (known : ∀ c ∈ cs, (sextet? c).isSome) :
    ∃ bs, decodeSymbols? cs = some bs ∧ bs.length = 3 * cs.length / 4 := by
  have sextets : ∃ ss, cs.mapM sextet? = some ss ∧ ss.length = cs.length := by
    induction cs with
    | nil => exact ⟨[], rfl, rfl⟩
    | cons c cs ih =>
      rcases ih fun x hx => known x (List.mem_cons_of_mem c hx) with ⟨ss, read, same⟩
      rcases Option.isSome_iff_exists.1 (known c List.mem_cons_self) with ⟨s, head⟩
      exact ⟨s :: ss, by simp [head, read], by simp [same]⟩
  rcases sextets with ⟨ss, read, same⟩
  exact ⟨Sextet.toBytes ss, by rw [decodeSymbols?, read, Option.map_some],
    by rw [Sextet.length_toBytes, same]⟩

/-! ## Salts and checksums -/

/-- A digit is a symbol. -/
theorem isSome_sextet?_of_isDigit {c : Char} (digit : c.isDigit = true) : (sextet? c).isSome := by
  rw [Char.isDigit, Bool.and_eq_true, decide_eq_true_eq, decide_eq_true_eq] at digit
  have low : 0x30 ≤ c.toNat := digit.1
  have high : c.toNat ≤ 0x39 := digit.2
  have symbols : sextet? c = some (c.toNat - 0x30 + 54) := by
    rw [sextet?, if_neg (by omega), if_neg (by omega), if_neg (by omega), if_pos ⟨low, high⟩]
  rw [symbols, Option.isSome_some]

/-- The text of a salt has 22 symbols. -/
theorem saltText_symbols (serial : Nat) :
    (saltText serial).length = 22 ∧ ∀ c ∈ saltText serial, (sextet? c).isSome := by
  constructor
  · have short : (decimalList (serial % Nat.pow 10 21)).length ≤ 21 :=
      (Nat.length_toDigits_le_iff (by decide) (by decide)).2 (Nat.mod_lt _ (by decide))
    simp only [saltText, List.length_append, length_padLeft, List.length_singleton]
    omega
  · intro c hc
    rcases List.mem_append.1 hc with hc | hc
    · apply isSome_sextet?_of_isDigit
      rcases List.mem_append.1 hc with zero | digit
      · rw [List.eq_of_mem_replicate zero]
        rfl
      · exact Nat.isDigit_of_mem_toDigits (by decide) (by decide) digit
    · rw [List.mem_singleton.1 hc]
      rfl

/-- A salt has 16 bytes. -/
theorem length_salt (serial : Nat) : (salt serial).length = 16 := by
  rcases saltText_symbols serial with ⟨length, symbols⟩
  rcases exists_decodeSymbols? symbols with ⟨bs, read, same⟩
  rw [salt, read, Option.getD_some, same, length]

/-- The costly digest has 24 bytes. -/
theorem length_blowfishDigest (cost : Nat) (salt key : Bytes) :
    (Cipher.Blowfish.digest cost salt key).length = 24 := by
  have words : (Cipher.Blowfish.digestWords cost salt key).length = 6 := by
    rw [Cipher.Blowfish.digestWords, Cipher.Blowfish.length_encrypted, length_wordsOf]
    decide
  have four : ∀ x ∈ Cipher.Blowfish.digestWords cost salt key, (bytesOf x).length = 4 :=
    fun _ _ => rfl
  rw [Cipher.Blowfish.digest, List.length_flatMap, List.map_congr_left four, List.map_const', words]
  rfl

/-- A checksum has 23 bytes. -/
theorem length_checksumOf (cost : Nat) (salt secret : Bytes) :
    (checksumOf cost salt secret).length = 23 := by
  rw [checksumOf, List.length_take, length_blowfishDigest]
  rfl

/-! ## Costs -/

/-- A number below a hundred has two digits, counting a leading zero. -/
theorem padLeft_decimalList {n : Nat} (small : n < 100) :
    padLeft 2 '0' (decimalList n) = [(n / 10).digitChar, (n % 10).digitChar] := by
  by_cases one : n < 10
  · rw [decimalList, Nat.toDigits_of_lt_base one, Nat.div_eq_of_lt one, Nat.mod_eq_of_lt one]
    rfl
  · have tens : n / 10 < 10 := by omega
    rw [decimalList, Nat.toDigits_of_base_le (by decide) (by omega), Nat.toDigits_of_lt_base tens]
    rfl

/-- A digit is read back from its character. -/
theorem digitChar_digit {n : Nat} (small : n < 10) :
    n.digitChar.isDigit = true ∧ n.digitChar.toNat - 0x30 = n := by
  have every : ∀ k : Fin 10,
      k.val.digitChar.isDigit = true ∧ k.val.digitChar.toNat - 0x30 = k.val := by decide
  exact every ⟨n, small⟩

/-- The cost of a verifier is in the supported range. -/
theorem cost_of_create {cost : Int} {v : Verifier} (created : Verifier.create cost = .ok v) :
    minCost ≤ v.cost ∧ v.cost ≤ maxCost := by
  unfold Verifier.create at created
  split at created
  · cases created
  · split at created
    · cases created
    · next ranged =>
      rcases Except.ok.inj created with rfl
      simp only
      omega

/-! ## Digests -/

/-- A digest has the form of one that is stored: its variant is known, its cost supported, and its
salt and its checksum have their lengths. -/
structure Digest.WellFormed (d : Digest) : Prop where
  variant : d.variant ∈ variants
  minCost : minCost ≤ d.cost
  maxCost : d.cost ≤ maxCost
  salt : d.salt.length = 16
  checksum : d.checksum.length = 23

/-- The parts of a digest are read back from its text. -/
theorem Digest.parse?_render {d : Digest} (h : d.WellFormed) : Digest.parse? d.render = some d := by
  have supported : d.cost < 100 := Nat.lt_of_le_of_lt h.maxCost (by decide)
  rcases digitChar_digit (show d.cost / 10 < 10 by omega) with ⟨tens, tensValue⟩
  rcases digitChar_digit (show d.cost % 10 < 10 by omega) with ⟨ones, onesValue⟩
  have cost : 10 * (d.cost / 10) + d.cost % 10 = d.cost := Nat.div_add_mod d.cost 10
  have saltLength : (encodeBytes d.salt).length = 22 := by rw [length_encodeBytes, h.salt]
  have checksumLength : (encodeBytes d.checksum).length = 31 := by
    rw [length_encodeBytes, h.checksum]
  have cut : (encodeBytes d.salt ++ encodeBytes d.checksum).take 22 = encodeBytes d.salt :=
    List.take_left' saltLength
  have rest : (encodeBytes d.salt ++ encodeBytes d.checksum).drop 22 = encodeBytes d.checksum :=
    List.drop_left' saltLength
  rw [Digest.parse?, Digest.render, String.toList_ofList, Digest.renderList,
    padLeft_decimalList supported]
  simp only [List.cons_append, List.nil_append, h.variant, tens, ones, List.length_append,
    saltLength, checksumLength, tensValue, onesValue, cost, h.minCost, h.maxCost, and_self,
    if_true, cut, rest, decodeSymbols?_encodeBytes]
  rfl

/-- Digests of that form with one text are equal. -/
theorem Digest.WellFormed.eq_of_render {d e : Digest} (hd : d.WellFormed) (he : e.WellFormed)
    (same : d.render = e.render) : d = e := by
  have read := Digest.parse?_render hd
  rw [same, Digest.parse?_render he] at read
  exact (Option.some.inj read).symm

/-- The digest of a secret has that form, with any salt of sixteen bytes. -/
theorem wellFormed_ofSecret_of_length {variant : Char} {cost : Nat} {salt : Bytes}
    (known : variant ∈ variants) (low : minCost ≤ cost) (high : cost ≤ maxCost)
    (sixteen : salt.length = 16) (secret : Bytes) :
    (Digest.ofSecret variant cost salt secret).WellFormed :=
  ⟨known, low, high, sixteen, length_checksumOf cost salt secret⟩

/-- The digest of a secret with a drawn salt has that form. -/
theorem wellFormed_ofSecret {cost : Nat} (low : minCost ≤ cost) (high : cost ≤ maxCost)
    (serial : Nat) (secret : Bytes) : (Digest.ofSecret 'b' cost (salt serial) secret).WellFormed :=
  wellFormed_ofSecret_of_length (by decide) low high (length_salt serial) secret

/-- The text of a digest is not empty. -/
theorem render_ne_empty (d : Digest) : d.render ≠ "" := by
  intro empty
  have characters := congrArg String.toList empty
  rw [Digest.render, String.toList_ofList, Digest.renderList] at characters
  cases characters

/-- No secret is accepted for an empty digest. -/
theorem ne_empty_of_accepts {secret : Option String} {digest : String}
    (accepted : accepts secret (some digest) = true) : digest ≠ "" := by
  rintro rfl
  unfold accepts at accepted
  split at accepted
  · next bytes d _ same =>
    rcases Option.some.inj same with rfl
    cases accepted
  · cases accepted

/-- A secret that may be hashed is accepted for the digest that a verifier makes of it. -/
theorem accepts_own_digest {cost : Int} {v : Verifier} (created : Verifier.create cost = .ok v)
    {secret : Option String} {bytes : Bytes} (hashable : secretBytes secret = .ok bytes)
    (serial : Nat) :
    accepts secret (some (Digest.ofSecret 'b' v.cost (salt serial) bytes).render) = true := by
  rcases cost_of_create created with ⟨low, high⟩
  have read := Digest.parse?_render (wellFormed_ofSecret low high serial bytes)
  unfold accepts verifies
  rw [hashable]
  simp only [read]
  exact decide_eq_true rfl

end Password

end Gatehouse
