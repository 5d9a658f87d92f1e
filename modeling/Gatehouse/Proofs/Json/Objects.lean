import Gatehouse.Proofs.Json.Numbers
import Gatehouse.Proofs.Json.Strings

/-!
# Objects in JSON, both ways

A value reads back when the reader, in front of its text and a character that ends a
value, gives the value and stops at that character.  Strings, the constants and floating
point numbers read back; an object whose names differ reads back when its values do.

Main results:

- `ReadsBack`: a value is read back from its text.
- `readsBack_string`, `readsBack_ofFloat`: the values that claims are made of.
- `read_render_object`: an object of such values is read back from its whole text.
-/

namespace Gatehouse.Json

open Gatehouse.Text Gatehouse.Number

/-! ## Values that read back -/

/-- In front of a character that ends a value, the text of a value is read as that value. -/
def ReadsBack (v : Json) : Prop :=
  ∀ (limit : Option Nat) (fuel depth : Nat) (c : Char) (rest : List Char), EndsValue c →
    readValue limit (fuel + 1) depth (skipBlanks (write v ++ c :: rest)) = .ok (v, c :: rest)

/-- A string is read back. -/
theorem readsBack_string (s : String) : ReadsBack (.string s) := by
  intro limit fuel depth c rest _
  have text : write (.string s) ++ c :: rest =
      '"' :: (s.toList.flatMap escapeChar ++ '"' :: c :: rest) := by
    simp [write, writeString]
  rw [text, skipBlanks_cons (by decide), readValue, readStringBody_flatMap]
  simp [Except.map]

/-! ### Words -/

/-- A word is not stripped off a text that starts with another character. -/
theorem stripWord?_of_ne {a b : Char} (h : a ≠ b) (word cs : List Char) :
    stripWord? (a :: word) (b :: cs) = none := by
  simp [stripWord?, List.isPrefixOf, h]

/-- The words by their characters. -/
theorem wordValues_eq : wordValues =
    [(['n', 'u', 'l', 'l'], .null), (['t', 'r', 'u', 'e'], .bool true),
      (['f', 'a', 'l', 's', 'e'], .bool false), (['N', 'a', 'N'], .number .nan),
      (['I', 'n', 'f', 'i', 'n', 'i', 't', 'y'], .number (.infinity false)),
      (['-', 'I', 'n', 'f', 'i', 'n', 'i', 't', 'y'], .number (.infinity true))] := rfl

/-- A value that is written as a word is read back. -/
theorem readsBack_of_word {v : Json} {d : Char} {ds : List Char} (hv : write v = d :: ds)
    (plain : isBlank d = false ∧ d ≠ '"' ∧ d ≠ '{' ∧ d ≠ '[')
    (word : ∀ more, readWord? (d :: ds ++ more) = some (v, more)) : ReadsBack v := by
  intro limit fuel depth c rest _
  have read := word (c :: rest)
  rw [List.cons_append] at read
  rw [hv, List.cons_append, skipBlanks_cons plain.1]
  simp [readValue, plain, read]

/-- The infinities are read back. -/
theorem readsBack_infinity (negative : Bool) : ReadsBack (.number (.infinity negative)) := by
  cases negative with
  | true =>
    have text :
        write (.number (.infinity true)) = ['-', 'I', 'n', 'f', 'i', 'n', 'i', 't', 'y'] := by
      rw [write]
      rfl
    apply readsBack_of_word text (by decide)
    intro more
    simp only [readWord?, wordValues_eq, List.findSome?_cons, List.cons_append,
      stripWord?_of_ne (by decide : 'n' ≠ '-'), stripWord?_of_ne (by decide : 't' ≠ '-'),
      stripWord?_of_ne (by decide : 'f' ≠ '-'), stripWord?_of_ne (by decide : 'N' ≠ '-'),
      stripWord?_of_ne (by decide : 'I' ≠ '-'), Option.map_none]
    simp [stripWord?, List.isPrefixOf]
  | false =>
    have text : write (.number (.infinity false)) = ['I', 'n', 'f', 'i', 'n', 'i', 't', 'y'] := by
      rw [write]; rfl
    apply readsBack_of_word text (by decide)
    intro more
    simp only [readWord?, wordValues_eq, List.findSome?_cons, List.cons_append,
      stripWord?_of_ne (by decide : 'n' ≠ 'I'), stripWord?_of_ne (by decide : 't' ≠ 'I'),
      stripWord?_of_ne (by decide : 'f' ≠ 'I'), stripWord?_of_ne (by decide : 'N' ≠ 'I'),
      Option.map_none]
    simp [stripWord?, List.isPrefixOf]

/-- The number that is none is read back. -/
theorem readsBack_nan : ReadsBack (.number .nan) := by
  have text : write (.number .nan) = ['N', 'a', 'N'] := by rw [write]; rfl
  apply readsBack_of_word text (by decide)
  intro more
  simp only [readWord?, wordValues_eq, List.findSome?_cons, List.cons_append,
    stripWord?_of_ne (by decide : 'n' ≠ 'N'), stripWord?_of_ne (by decide : 't' ≠ 'N'),
    stripWord?_of_ne (by decide : 'f' ≠ 'N'), Option.map_none]
  simp [stripWord?, List.isPrefixOf]

/-- The value that is none is read back. -/
theorem readsBack_null : ReadsBack .null := by
  have text : write .null = ['n', 'u', 'l', 'l'] := by rw [write]; rfl
  apply readsBack_of_word text (by decide)
  intro more
  simp only [readWord?, wordValues_eq, List.findSome?_cons]
  simp [stripWord?, List.isPrefixOf]

/-! ### Numbers -/

/-- A digit is none of the letters that words start with. -/
theorem ne_of_isDigit {d : Char} (h : d.isDigit = true) {c : Char} (hc : c.isDigit = false) :
    c ≠ d := by
  rintro rfl
  simp [h] at hc

/-- A decimal literal starts no word. -/
theorem readWord?_of_isDecimal (negative : Bool) {cs : List Char} (h : IsDecimal cs)
    (more : List Char) : readWord? (signed negative cs ++ more) = none := by
  rcases h.exists_cons with ⟨d, ds, rfl, digit⟩
  cases negative with
  | true =>
    have last : stripWord? ['-', 'I', 'n', 'f', 'i', 'n', 'i', 't', 'y']
        ('-' :: d :: (ds ++ more)) = none := by
      simp [stripWord?, List.isPrefixOf, ne_of_isDigit digit (by decide : 'I'.isDigit = false)]
    simp only [signed, if_true, List.cons_append, readWord?, wordValues_eq, List.findSome?_cons,
      stripWord?_of_ne (by decide : 'n' ≠ '-'), stripWord?_of_ne (by decide : 't' ≠ '-'),
      stripWord?_of_ne (by decide : 'f' ≠ '-'), stripWord?_of_ne (by decide : 'N' ≠ '-'),
      stripWord?_of_ne (by decide : 'I' ≠ '-'), last, Option.map_none, List.findSome?_nil]
  | false =>
    have other {a : Char} (ha : a.isDigit = false) (word : List Char) :
        stripWord? (a :: word) (d :: (ds ++ more)) = none :=
      stripWord?_of_ne (ne_of_isDigit digit ha) word _
    simp only [signed, Bool.false_eq_true, if_false, List.cons_append, readWord?, wordValues_eq,
      List.findSome?_cons, other (by decide : 'n'.isDigit = false),
      other (by decide : 't'.isDigit = false), other (by decide : 'f'.isDigit = false),
      other (by decide : 'N'.isDigit = false), other (by decide : 'I'.isDigit = false),
      other (by decide : '-'.isDigit = false), Option.map_none, List.findSome?_nil]

/-- The first character of a signed literal is a digit or the sign. -/
theorem exists_signed_eq_cons (negative : Bool) {cs : List Char} (h : IsDecimal cs) :
    ∃ d ds, signed negative cs = d :: ds ∧ (d = '-' ∨ d.isDigit = true) := by
  cases negative with
  | true => exact ⟨'-', cs, rfl, .inl rfl⟩
  | false =>
    rcases h.exists_cons with ⟨d, ds, rfl, digit⟩
    exact ⟨d, ds, rfl, .inr digit⟩

/-- A decimal literal is read back. -/
theorem readsBack_of_isDecimal (negative : Bool) {cs : List Char} (h : IsDecimal cs) :
    ReadsBack (.number (.decimal (String.ofList (signed negative cs)))) := by
  intro limit fuel depth c rest hc
  have word := readWord?_of_isDecimal negative h (c :: rest)
  have number := readNumber_of_isDecimal limit negative h hc rest
  rcases exists_signed_eq_cons negative h with ⟨d, ds, text, first⟩
  have plain : isBlank d = false ∧ d ≠ '"' ∧ d ≠ '{' ∧ d ≠ '[' := by
    rcases first with rfl | digit
    · decide
    · have ne {a : Char} (ha : a.isDigit = false) : d ≠ a := (ne_of_isDigit digit ha).symm
      refine ⟨?_, ne (by decide), ne (by decide), ne (by decide)⟩
      simp [isBlank, ne (by decide : ' '.isDigit = false), ne (by decide : '\n'.isDigit = false),
        ne (by decide : '\t'.isDigit = false), ne (by decide : '\r'.isDigit = false)]
  rw [text, List.cons_append] at word number
  rw [write, Numeral.jsonText, String.toList_ofList, text, List.cons_append,
    skipBlanks_cons plain.1]
  simp [readValue, plain, word, number, Except.map]

/-- A floating point number is read back as its literal. -/
theorem readsBack_ofFloat (x : Float) : ReadsBack (.ofFloat x) := by
  unfold ofFloat Numeral.ofFloat
  split
  · exact readsBack_nan
  · exact readsBack_infinity _
  · next negative m e hx =>
    have text : inJson.write x = String.ofList
        (signed negative (inJson.writeDecimal (shortest m e).1 (shortest m e).2)) := by
      simp [Layout.write, hx, Layout.digits, inJson, signed]
    rw [text]
    exact readsBack_of_isDecimal negative (isDecimal_writeDecimal _ _ _)

/-! ## Objects -/

/-- Storing a new name adds it at the end. -/
theorem put_of_not_mem {α : Type} {seen : Keyed α} {name : String}
    (h : name ∉ seen.map Prod.fst) (value : α) :
    Keyed.put seen name value = seen ++ [(name, value)] := by
  induction seen with
  | nil => rfl
  | cons e rest ih =>
    simp only [List.map_cons, List.mem_cons, not_or] at h
    simp [Keyed.put, Ne.symm h.1, ih h.2]

/-- What the reader of fields does behind a value, with the fields stored so far. -/
def behindField (limit : Option Nat) (fuel depth : Nat) (fields : Keyed Json) :
    List Char → Step (Keyed Json)
  | '}' :: rest => .ok (fields, rest)
  | ',' :: more => readFields limit fuel depth fields (skipBlanks more)
  | other => .error (faultAt other)

/-- One written field is read and stored, and the reader goes on behind its value. -/
theorem readFields_cons (limit : Option Nat) (fuel depth : Nat) (seen : Keyed Json) (k : String)
    {v : Json} (hv : ReadsBack v) {c : Char} (hc : EndsValue c) (after : List Char) :
    readFields limit (fuel + 2) depth seen
        (writeString k ++ ':' :: (write v ++ c :: after)) =
      behindField limit (fuel + 1) depth (Keyed.put seen k v) (skipBlanks (c :: after)) := by
  have value := hv limit fuel depth c after hc
  have text : writeString k ++ ':' :: (write v ++ c :: after) =
      '"' :: (k.toList.flatMap escapeChar ++ '"' :: ':' :: (write v ++ c :: after)) := by
    simp [writeString]
  rw [text, readFields, readStringBody_flatMap]
  simp only [skipBlanks_cons (by decide : isBlank ':' = false), value, String.ofList_toList]
  rfl

/-- The fields of an object start with the quote of the first name. -/
theorem exists_writeFields_eq_cons (f : String × Json) (fs : Keyed Json) :
    ∃ body, writeFields (f :: fs) = '"' :: body := by
  rcases f with ⟨k, v⟩
  cases fs <;> simp [writeFields, writeString]

/-- Written fields are read back behind the ones read before, if all their names differ. -/
theorem readFields_writeFields (limit : Option Nat) (depth : Nat) {fields : Keyed Json}
    (hne : fields ≠ []) (hv : ∀ f ∈ fields, ReadsBack f.2) {seen : Keyed Json}
    (names : ((seen ++ fields).map Prod.fst).Nodup) {fuel : Nat} (hf : fields.length < fuel)
    (rest : List Char) :
    readFields limit fuel depth seen (writeFields fields ++ rest) = .ok (seen ++ fields, rest) := by
  induction fields generalizing seen fuel with
  | nil => exact absurd rfl hne
  | cons f fs ih =>
    rcases f with ⟨k, v⟩
    obtain ⟨more, rfl⟩ : ∃ more, fuel = more + 2 := ⟨fuel - 2, by
      simp only [List.length_cons] at hf
      omega⟩
    have value : ReadsBack v := hv (k, v) List.mem_cons_self
    have stored : Keyed.put seen k v = seen ++ [(k, v)] := by
      apply put_of_not_mem
      rw [List.map_append, List.nodup_append] at names
      exact fun hk => names.2.2 k hk k (by simp) rfl
    cases fs with
    | nil =>
      have text : writeFields [(k, v)] ++ rest =
          writeString k ++ ':' :: (write v ++ '}' :: rest) := by
        simp [writeFields]
      rw [text, readFields_cons limit more depth seen k value (.inr (.inl rfl)), stored]
      rfl
    | cons g gs =>
      have text : writeFields ((k, v) :: g :: gs) ++ rest =
          writeString k ++ ':' :: (write v ++ ',' :: (writeFields (g :: gs) ++ rest)) := by
        simp [writeFields]
      have first : skipBlanks (writeFields (g :: gs) ++ rest) = writeFields (g :: gs) ++ rest := by
        rcases exists_writeFields_eq_cons g gs with ⟨body, h⟩
        rw [h, List.cons_append, skipBlanks_cons (by decide)]
      rw [text, readFields_cons limit more depth seen k value (.inl rfl), stored]
      rw [skipBlanks_cons (by decide : isBlank ',' = false)]
      simp only [behindField, first]
      rw [ih (by simp) (fun f hf => hv f (List.mem_cons_of_mem _ hf)) (by simpa using names)
        (by simpa using hf)]
      simp

/-- An object has at least one character for each field. -/
theorem length_le_length_writeFields (fields : Keyed Json) :
    fields.length ≤ (writeFields fields).length := by
  induction fields with
  | nil => simp
  | cons f fs ih =>
    rcases f with ⟨k, v⟩
    cases fs with
    | nil => simp [writeFields, writeString]
    | cons g gs =>
      simp only [writeFields, List.length_append, List.length_cons] at ih ⊢
      omega

/-- An object whose fields are read is read, one level further out. -/
theorem readValue_object {limit : Option Nat} {fuel inside : Nat} {body rest : List Char}
    {fields : Keyed Json}
    (h : readFields limit fuel inside [] ('"' :: body) = .ok (fields, rest)) :
    readValue limit (fuel + 1) (inside + 1) ('{' :: '"' :: body) = .ok (.object fields, rest) := by
  simp [readValue, skipBlanks_cons (by decide : isBlank '"' = false), h, Except.map]

/-- An object whose names differ and whose values read back is read back from its text, with
whatever nesting it is read. -/
theorem read_render_object {fields : Keyed Json} (names : (fields.map Prod.fst).Nodup)
    (values : ∀ f ∈ fields, ReadsBack f.2) (nesting : Nat) :
    read nesting (render (.object fields)) = .ok (.object fields) := by
  have text : (render (.object fields)).toList = '{' :: writeFields fields := by
    simp [render, write]
  have fuel := length_le_length_writeFields fields
  rw [read, text, readList]
  simp only [List.head?_cons, Option.some.injEq, (by decide : ¬ '{' = '\ufeff'), if_false]
  rw [skipBlanks_cons (by decide : isBlank '{' = false)]
  cases fields with
  | nil => rfl
  | cons f fs =>
    have names' : (([] ++ (f :: fs) : Keyed Json).map Prod.fst).Nodup := names
    have fieldsRead := readFields_writeFields (some integerLimit) nesting (List.cons_ne_nil f fs)
      values names' (show _ < 2 * (writeFields (f :: fs)).length + 2 by omega) []
    rcases exists_writeFields_eq_cons f fs with ⟨body, h⟩
    rw [List.append_nil, h] at fieldsRead
    rw [h, List.length_cons, show 2 * (('"' :: body).length + 1) + 1 =
      (2 * ('"' :: body).length + 2) + 1 by omega, readValue_object fieldsRead]
    rfl

end Gatehouse.Json
