import Gatehouse.Proofs.Json.Objects
import Gatehouse.Proofs.Text.Words
import Gatehouse.Token.Processor

/-!
# Segments, both ways

A composed token comes apart into the segments that it was made of: symbols are ASCII
characters other than the dot, a segment decodes to the bytes that it encodes, and a JSON
object is read back from them.

Main results:

- `decode?_encodeList`: a written segment decodes to its bytes.
- `pieces_three`: segments with dots between them come apart.
- `read_compose`: a composed token is read as its payload and signature.
-/

namespace Gatehouse.Token

open Gatehouse.Text Gatehouse.Codec

/-! ## ASCII text -/

/-- The bytes of ASCII text are the numbers of its characters. -/
theorem textBytes_of_ascii {cs : List Char} (h : ∀ c ∈ cs, c.toNat < 0x80) :
    textBytes cs = cs.map fun c => UInt8.ofNat c.toNat := by
  have bytes : cs.utf8Encode = (cs.map fun c => UInt8.ofNat c.toNat).toByteArray := by
    induction cs with
    | nil => rfl
    | cons c cs ih =>
      have single : c.utf8Size = 1 := by
        rw [Char.utf8Size_eq_one_iff, UInt32.le_iff_toNat_le]
        exact Nat.le_of_lt_succ (h c List.mem_cons_self)
      rw [List.utf8Encode_cons, List.utf8Encode_singleton,
        String.utf8EncodeChar_eq_singleton single, ih fun d hd => h d (List.mem_cons_of_mem _ hd),
        ← List.toByteArray_append]
      rfl
  rw [textBytes, utf8, String.toUTF8_eq_toByteArray, String.toByteArray_ofList, bytes]
  simp

/-! ## Symbols -/

/-- A symbol is an ASCII character and no dot. -/
theorem symbol_ascii : ∀ s : Fin 64,
    (Base64Url.symbol s).toNat < 0x80 ∧ Base64Url.symbol s ≠ '.' := by
  decide

/-- The characters of a segment are ASCII characters and no dots. -/
theorem ascii_of_mem_encodeList {bs : Bytes} {c : Char} (h : c ∈ Base64Url.encodeList bs) :
    c.toNat < 0x80 ∧ c ≠ '.' := by
  rcases List.mem_map.1 h with ⟨s, hs, rfl⟩
  exact symbol_ascii ⟨s, Sextet.ofBytes_lt bs s hs⟩

/-- A written segment decodes to its bytes. -/
theorem decode?_encodeList (bs : Bytes) :
    Base64Url.decode? (textBytes (Base64Url.encodeList bs)) = some bs := by
  rw [textBytes_of_ascii fun c hc => (ascii_of_mem_encodeList hc).1, Base64Url.encodeList,
    List.map_map]
  exact Base64Url.decode?_encode bs

/-- The segment of a value decodes to the text of the value. -/
theorem decode?_segment (v : Json) :
    Base64Url.decode? (textBytes (segment v)) = some (utf8 v.render) :=
  decode?_encodeList _

/-! ## Tokens -/

/-- Segments with dots between them come apart. -/
theorem pieces_three {h p s : List Char} (hh : '.' ∉ h) (hp : '.' ∉ p) (hs : '.' ∉ s) :
    pieces '.' (h ++ '.' :: p ++ '.' :: s) = [h, p, s] := by
  rw [List.append_assoc, List.cons_append, pieces_append_cons hh, pieces_append_cons hp,
    pieces_of_not_mem hs]

/-- A segment has no dot in it. -/
theorem dot_not_mem_encodeList (bs : Bytes) : '.' ∉ Base64Url.encodeList bs :=
  fun h => (ascii_of_mem_encodeList h).2 rfl

/-- No symbol is blank. -/
theorem symbol_not_blank : ∀ s : Fin 64, isBlank (Base64Url.symbol s) = false := by
  decide

/-- The characters of a segment are not blank. -/
theorem not_blank_of_mem_encodeList {bs : Bytes} {c : Char} (h : c ∈ Base64Url.encodeList bs) :
    isBlank c = false := by
  rcases List.mem_map.1 h with ⟨s, hs, rfl⟩
  exact symbol_not_blank ⟨s, Sextet.ofBytes_lt bs s hs⟩

/-- Three segments with dots between them are one word. -/
theorem isWord_three (h p s : Bytes) :
    IsWord (String.ofList (Base64Url.encodeList h ++ '.' :: Base64Url.encodeList p ++
      '.' :: Base64Url.encodeList s)) := by
  refine ⟨?_, ?_⟩
  · rw [ne_eq, ← String.toList_eq_nil_iff, String.toList_ofList]
    simp
  · intro c hc
    rw [String.toList_ofList] at hc
    simp only [List.mem_append, List.mem_cons] at hc
    rcases hc with (hc | rfl | hc) | rfl | hc
    · exact not_blank_of_mem_encodeList hc
    · rfl
    · exact not_blank_of_mem_encodeList hc
    · rfl
    · exact not_blank_of_mem_encodeList hc

/-- The header of an issued token is read back. -/
theorem headerFields?_segment_header (nesting : Nat) :
    headerFields? nesting (segment header) =
      some [("alg", .string algorithm), ("typ", .string "JWT")] := by
  have fields : Json.read nesting header.render =
      .ok (.object [("alg", .string algorithm), ("typ", .string "JWT")]) :=
    Json.read_render_object (by decide) (by simp [Json.readsBack_string]) nesting
  simp [headerFields?, decode?_segment, fields]

/-- The claims in a written payload are read back. -/
theorem payloadFields_render {claims : Keyed Json} (names : (claims.map Prod.fst).Nodup)
    (values : ∀ f ∈ claims, f.2.ReadsBack) (nesting : Nat) :
    payloadFields nesting (utf8 (Json.object claims).render) = .ok claims := by
  simp [payloadFields, Json.read_render_object names values]

/-- Three segments under the header of this service are read as their payload. -/
theorem ofSegments_header {p s : List Char} {payload signature : Bytes}
    (hp : Base64Url.decode? (textBytes p) = some payload)
    (hs : Base64Url.decode? (textBytes s) = some signature) (nesting : Nat) :
    Compact.ofSegments nesting (segment header) p s =
      (payloadFields nesting payload).map fun claims =>
        ⟨textBytes (segment header ++ '.' :: p), claims, signature⟩ := by
  rw [Compact.ofSegments, headerFields?_segment_header, hp, hs]
  cases h : payloadFields nesting payload with
  | error e => simp [h, Except.map]
  | ok claims => simp [h, Except.map, Keyed.lookup, Json.isString]

/-- A composed token is read as its payload, its signature and the text that was signed. -/
theorem read_compose {claims : Keyed Json} (names : (claims.map Prod.fst).Nodup)
    (values : ∀ f ∈ claims, f.2.ReadsBack) (signature : Bytes) (nesting : Nat) :
    Compact.read nesting (some (compose (.object claims) signature)) =
      .ok ⟨textBytes (signingText (.object claims)), claims, signature⟩ := by
  have cut : pieces '.' (compose (.object claims) signature).toList =
      [segment header, segment (.object claims), Base64Url.encodeList signature] := by
    rw [compose, String.toList_ofList, signingText]
    exact pieces_three (dot_not_mem_encodeList _) (dot_not_mem_encodeList _)
      (dot_not_mem_encodeList _)
  rw [Compact.read, cut]
  simp only
  rw [ofSegments_header (decode?_segment _) (decode?_encodeList signature),
    payloadFields_render names values]
  rfl

end Gatehouse.Token
