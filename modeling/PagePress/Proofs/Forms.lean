import Mathlib.Data.List.Basic
import PagePress.Markup.Reference
import PagePress.Service

/-!
# Reading a form back

A request to the compile service carries its named values in one text.  This file reads such a text
as the service does, and shows that nothing is lost on the way: every name and every value comes
back as it was.

* `Utf8.decode_encode` says that the bytes of a text are read back as that text.  One character is
  read by its first byte, which tells the bounds of the second, and by one step for each byte after
  it (`Utf8.decodeFrom_next`, `Utf8.decodeFrom_last`).
* `Form.read?` reads a form: fields between ampersands, a name and a value around the first equals
  sign, and in both of them bytes.
* `Form.read?_encode` concludes.  An encoded text has neither of the two separators in it, so a form
  is cut where it was joined.
* `Service.value?_compileRequest` says what the service is asked to compile.
-/

set_option autoImplicit false

namespace PagePress

/-! ## Bytes -/

namespace Utf8

/-- A first byte with one byte to follow. -/
theorem shape_two : ∀ n < 32, 2 ≤ n →
    shape (UInt8.ofNat (n + 192)) = some (1, 0x80, 0xBF) ∧
      firstBits (UInt8.ofNat (n + 192)) = n := by decide

/-- A first byte with two bytes to follow.  The bounds keep out what is shorter, and surrogates. -/
theorem shape_three : ∀ n < 16,
    shape (UInt8.ofNat (n + 224))
        = some (2, if n = 0 then 0xA0 else 0x80, if n = 13 then 0x9F else 0xBF) ∧
      firstBits (UInt8.ofNat (n + 224)) = n := by decide

/-- A first byte with three bytes to follow.  The bounds keep out what is shorter, and what is too
large. -/
theorem shape_four : ∀ n < 5,
    shape (UInt8.ofNat (n + 240))
        = some (3, if n = 0 then 0x90 else 0x80, if n = 4 then 0x8F else 0xBF) ∧
      firstBits (UInt8.ofNat (n + 240)) = n := by decide

section Continuation

variable {p : Begun} {x : Nat}

theorem toNat_continuation (hx : x < 64) : (UInt8.ofNat (x + 128)).toNat = x + 128 := by
  rw [UInt8.toNat_ofNat']
  exact Nat.mod_eq_of_lt (by omega)

theorem continuation_mem (hx : x < 64) (hlow : p.low.toNat ≤ x + 128)
    (hhigh : x + 128 ≤ p.high.toNat) :
    (p.low ≤ UInt8.ofNat (x + 128) && UInt8.ofNat (x + 128) ≤ p.high) = true := by
  simp only [Bool.and_eq_true, decide_eq_true_eq, UInt8.le_iff_toNat_le, toNat_continuation hx]
  exact ⟨hlow, hhigh⟩

/-- A byte within its bounds is taken. -/
theorem decodeFrom_next {owed : Nat} (hx : x < 64) (howed : p.owed = owed + 1)
    (hlow : p.low.toNat ≤ x + 128) (hhigh : x + 128 ≤ p.high.toNat) (position : Nat) (bs : Bytes) :
    decodeFrom position (some p) (UInt8.ofNat (x + 128) :: bs) =
      decodeFrom (position + 1)
        (some ⟨UInt8.ofNat (x + 128) :: p.bytes, p.bits * 64 + x, owed, 0x80, 0xBF⟩) bs := by
  rw [decodeFrom, if_pos (continuation_mem hx hlow hhigh)]
  simp only [howed, toNat_continuation hx, Nat.add_sub_cancel]

/-- The last byte of a character, within its bounds, gives the character. -/
theorem decodeFrom_last (hx : x < 64) (howed : p.owed = 0) (hlow : p.low.toNat ≤ x + 128)
    (hhigh : x + 128 ≤ p.high.toNat) (position : Nat) (bs : Bytes) :
    decodeFrom position (some p) (UInt8.ofNat (x + 128) :: bs) =
      (decodeFrom (position + 1) none bs).map (Char.ofNat (p.bits * 64 + x) :: ·) := by
  rw [decodeFrom, if_pos (continuation_mem hx hlow hhigh)]
  simp only [howed, toNat_continuation hx, Nat.add_sub_cancel]

end Continuation

/-- A first byte that more bytes follow opens a character. -/
theorem decodeFrom_first {b : UInt8} {owed : Nat} {low high : UInt8}
    (hshape : shape b = some (owed + 1, low, high)) (position : Nat) (bs : Bytes) :
    decodeFrom position none (b :: bs) =
      decodeFrom (position + 1) (some ⟨[b], firstBits b, owed, low, high⟩) bs := by
  rw [decodeFrom, hshape]

section Characters

variable {v : Nat} (position : Nat) (bs : Bytes)

theorem decodeFrom_one (hv : v ≤ 0x7F) :
    decodeFrom position none (UInt8.ofNat v :: bs) =
      (decodeFrom (position + 1) none bs).map (Char.ofNat v :: ·) := by
  have hnat : (UInt8.ofNat v).toNat = v := by
    rw [UInt8.toNat_ofNat']
    exact Nat.mod_eq_of_lt (by omega)
  have hshape : shape (UInt8.ofNat v) = some (0, 0x80, 0xBF) := by
    refine if_pos ?_
    rw [UInt8.lt_iff_toNat_lt, hnat]
    exact Nat.lt_succ_of_le hv
  rw [decodeFrom, hshape]
  simp only [hnat]

theorem decodeFrom_two (hv : 0x7F < v) (hv' : v ≤ 0x7FF) :
    decodeFrom position none (UInt8.ofNat (v / 64 % 32 + 192) :: UInt8.ofNat (v % 64 + 128) :: bs) =
      (decodeFrom (position + 2) none bs).map (Char.ofNat v :: ·) := by
  obtain ⟨hshape, hbits⟩ := shape_two (v / 64 % 32) (by omega) (by omega)
  have hvalue : v / 64 % 32 * 64 + v % 64 = v := by omega
  rw [decodeFrom_first hshape, hbits,
    decodeFrom_last (by omega) rfl (Nat.le_add_left _ _) (by simp; omega), hvalue]

theorem decodeFrom_three (hv : 0x7FF < v) (hv' : v ≤ 0xFFFF) (hvalid : v < 0xD800 ∨ 0xDFFF < v) :
    decodeFrom position none (UInt8.ofNat (v / 4096 % 16 + 224) ::
        UInt8.ofNat (v / 64 % 64 + 128) :: UInt8.ofNat (v % 64 + 128) :: bs) =
      (decodeFrom (position + 3) none bs).map (Char.ofNat v :: ·) := by
  obtain ⟨hshape, hbits⟩ := shape_three (v / 4096 % 16) (by omega)
  have hvalue : (v / 4096 % 16 * 64 + v / 64 % 64) * 64 + v % 64 = v := by omega
  rw [decodeFrom_first hshape, hbits, decodeFrom_next (by omega) rfl,
    decodeFrom_last (by omega) rfl (Nat.le_add_left _ _) (by simp; omega), hvalue]
  · dsimp only
    split
    · exact Nat.add_le_add_right (show 32 ≤ _ by omega) 128
    · exact Nat.le_add_left _ _
  · dsimp only
    split
    · exact Nat.add_le_add_right (show _ ≤ 31 by omega) 128
    · exact Nat.add_le_add_right (show _ ≤ 63 by omega) 128

theorem decodeFrom_four (hv : 0xFFFF < v) (hv' : v < 0x110000) :
    decodeFrom position none (UInt8.ofNat (v / 262144 % 8 + 240) ::
        UInt8.ofNat (v / 4096 % 64 + 128) :: UInt8.ofNat (v / 64 % 64 + 128) ::
        UInt8.ofNat (v % 64 + 128) :: bs) =
      (decodeFrom (position + 4) none bs).map (Char.ofNat v :: ·) := by
  obtain ⟨hshape, hbits⟩ := shape_four (v / 262144 % 8) (by omega)
  have hvalue : ((v / 262144 % 8 * 64 + v / 4096 % 64) * 64 + v / 64 % 64) * 64 + v % 64 = v := by
    omega
  rw [decodeFrom_first hshape, hbits, decodeFrom_next (by omega) rfl,
    decodeFrom_next (by omega) rfl (Nat.le_add_left _ _) (by simp; omega),
    decodeFrom_last (by omega) rfl (Nat.le_add_left _ _) (by simp; omega), hvalue]
  · dsimp only
    split
    · exact Nat.add_le_add_right (show 16 ≤ _ by omega) 128
    · exact Nat.le_add_left _ _
  · dsimp only
    split
    · exact Nat.add_le_add_right (show _ ≤ 15 by omega) 128
    · exact Nat.add_le_add_right (show _ ≤ 63 by omega) 128

end Characters

/-- **One character** is read back from its bytes.  The four cases are those of the encoding. -/
theorem decodeFrom_encodeChar (c : Char) (position : Nat) (bs : Bytes) :
    decodeFrom position none (String.utf8EncodeChar c ++ bs) =
      (decodeFrom (position + (String.utf8EncodeChar c).length) none bs).map (c :: ·) := by
  have hvalid : c.toNat < 0xD800 ∨ 0xDFFF < c.toNat ∧ c.toNat < 0x110000 := c.valid
  have hback : Char.ofNat c.toNat = c := Char.ofNat_toNat c
  have hval : c.val.toNat = c.toNat := rfl
  delta String.utf8EncodeChar
  dsimp only
  rw [hval]
  by_cases hone : c.toNat ≤ 0x7F
  · rw [if_pos hone, List.singleton_append, decodeFrom_one position bs hone, hback]
    rfl
  rw [if_neg hone]
  by_cases htwo : c.toNat ≤ 0x7FF
  · rw [if_pos htwo]
    have h := decodeFrom_two position bs (by omega) htwo
    rwa [hback] at h
  rw [if_neg htwo]
  by_cases hthree : c.toNat ≤ 0xFFFF
  · rw [if_pos hthree]
    have h := decodeFrom_three position bs (by omega) hthree (by omega)
    rwa [hback] at h
  · rw [if_neg hthree]
    have h := decodeFrom_four (v := c.toNat) position bs (by omega) (by omega)
    rwa [hback] at h

theorem decodeFrom_encode (t : Text) (position : Nat) :
    decodeFrom position none (encode t) = .ok t := by
  induction t generalizing position with
  | nil => rfl
  | cons c cs ih =>
    rw [encode, List.flatMap_cons, decodeFrom_encodeChar, ← encode, ih]
    rfl

/-- **A text is read back from its bytes.** -/
theorem decode_encode (t : Text) : decode (encode t) = .ok t := decodeFrom_encode t 0

end Utf8

/-! ## Forms -/

namespace Form

/-- The byte that a character stands for by itself. -/
def plainByte? (c : Char) : Option UInt8 :=
  if c == '+' then some 0x20 else if isPlain c then some (UInt8.ofNat c.toNat) else none

/-- The bytes that an encoded name or value stands for. -/
def bytes? : Text → Option Utf8.Bytes
  | [] => some []
  | '%' :: high :: low :: cs => do
    let high ← Markup.hexValue? high
    let low ← Markup.hexValue? low
    let bs ← bytes? cs
    return UInt8.ofNat (16 * high + low) :: bs
  | c :: cs => do
    let b ← plainByte? c
    let bs ← bytes? cs
    return b :: bs

/-- Reads a name or value. -/
def readText? (t : Text) : Option Text := do
  let bs ← bytes? t
  (Utf8.decode bs).toOption

/-- Reads a named value: its name stands before the first equals sign. -/
def readField? (t : Text) : Option (Text × Text) := do
  let name ← readText? (t.takeWhile (· != '='))
  let value ← readText? ((t.dropWhile (· != '=')).drop 1)
  return (name, value)

/-- Reads a form. -/
def read? (t : Text) : Option (List (Text × Text)) := (Text.splitOn '&' t).mapM readField?

/-! ### Encoded texts -/

theorem isPlain_bounds {c : Char} (hc : isPlain c = true) : c.toNat ≤ 0x7F := by
  simp only [isPlain, Bool.or_eq_true, beq_iff_eq] at hc
  rcases hc with (((hc | rfl) | rfl) | rfl) | rfl
  · exact Nat.le_trans (Text.isAlphanum_bounds hc).2 (by decide)
  all_goals decide

/-- The digits of a byte are plain, and have their values. -/
theorem hexDigit_upper : ∀ d < 16, isPlain (Text.hexDigit d).toUpper = true ∧
    Markup.hexValue? (Text.hexDigit d).toUpper = some d := by decide

theorem encodeByte_eq (b : UInt8) :
    encodeByte b =
      ['%', (Text.hexDigit (b.toNat / 16 % 16)).toUpper, (Text.hexDigit (b.toNat % 16)).toUpper] :=
  rfl

/-- The characters of an encoded text. -/
theorem mem_encodeText {t : Text} {c : Char} (hc : c ∈ encodeText t) :
    isPlain c = true ∨ c = '+' ∨ c = '%' := by
  obtain ⟨d, -, hc⟩ := List.mem_flatMap.1 hc
  rw [encodeChar] at hc
  split at hc
  · rename_i hplain
    exact .inl (List.mem_singleton.1 hc ▸ hplain)
  split at hc
  · exact .inr (.inl (List.mem_singleton.1 hc))
  · obtain ⟨b, -, hc⟩ := List.mem_flatMap.1 hc
    have hdigit : ∀ n, isPlain (Text.hexDigit (n % 16)).toUpper = true :=
      fun n => (hexDigit_upper _ (Nat.mod_lt _ (by decide))).1
    rw [encodeByte_eq, List.mem_cons, List.mem_pair] at hc
    rcases hc with rfl | rfl | rfl
    · exact .inr (.inr rfl)
    · exact .inl (hdigit _)
    · exact .inl (hdigit _)

/-- A character that stands by itself gives its byte. -/
theorem bytes?_cons {c : Char} {b : UInt8} (hc : plainByte? c = some b) (cs : Text) :
    bytes? (c :: cs) = (bytes? cs).map (b :: ·) := by
  rw [bytes?, hc]
  · cases bytes? cs <;> rfl
  · rintro _ _ _ rfl
    cases hc

theorem plainByte?_of_isPlain {c : Char} (hc : isPlain c = true) :
    plainByte? c = some (UInt8.ofNat c.toNat) := by
  have hplus : ¬ (c == '+') = true := by
    rw [beq_iff_eq]
    rintro rfl
    exact absurd hc (by decide)
  rw [plainByte?, if_neg hplus, if_pos hc]

theorem encode_of_isPlain {c : Char} (hc : isPlain c = true) :
    Utf8.encode [c] = [UInt8.ofNat c.toNat] := by
  rw [Utf8.encode, List.flatMap_singleton]
  delta String.utf8EncodeChar
  exact if_pos (isPlain_bounds hc)

theorem bytes?_encodeByte (b : UInt8) (cs : Text) :
    bytes? (encodeByte b ++ cs) = (bytes? cs).map (b :: ·) := by
  have hb : b.toNat < 256 := b.toNat_lt
  have hvalue : UInt8.ofNat (16 * (b.toNat / 16 % 16) + b.toNat % 16) = b := by
    rw [show 16 * (b.toNat / 16 % 16) + b.toNat % 16 = b.toNat by omega, UInt8.ofNat_toNat]
  have hdigit : ∀ n, Markup.hexValue? (Text.hexDigit (n % 16)).toUpper = some (n % 16) :=
    fun n => (hexDigit_upper _ (Nat.mod_lt _ (by decide))).2
  rw [encodeByte_eq]
  simp only [List.cons_append, List.nil_append, bytes?, hdigit, Option.bind_eq_bind,
    Option.bind_some, hvalue]
  cases bytes? cs <;> rfl

theorem bytes?_encodeBytes (bs : Utf8.Bytes) (cs : Text) :
    bytes? (bs.flatMap encodeByte ++ cs) = (bytes? cs).map (bs ++ ·) := by
  induction bs with
  | nil => simp
  | cons b bs ih =>
    rw [List.flatMap_cons, List.append_assoc, bytes?_encodeByte, ih, Option.map_map]
    rfl

/-- An encoded character stands for its bytes. -/
theorem bytes?_encodeChar (c : Char) (cs : Text) :
    bytes? (encodeChar c ++ cs) = (bytes? cs).map (Utf8.encode [c] ++ ·) := by
  rw [encodeChar]
  split
  · rename_i hplain
    rw [encode_of_isPlain hplain]
    exact bytes?_cons (plainByte?_of_isPlain hplain) cs
  split
  · rename_i hspace
    rw [beq_iff_eq.1 hspace]
    exact bytes?_cons rfl cs
  · exact bytes?_encodeBytes _ cs

theorem bytes?_encodeText (t : Text) : bytes? (encodeText t) = some (Utf8.encode t) := by
  induction t with
  | nil => rfl
  | cons c cs ih =>
    rw [encodeText, List.flatMap_cons, bytes?_encodeChar, ← encodeText, ih]
    simp [Utf8.encode]

/-- **A name or value is read back.** -/
theorem readText?_encodeText (t : Text) : readText? (encodeText t) = some t := by
  rw [readText?, bytes?_encodeText, Option.bind_eq_bind, Option.bind_some, Utf8.decode_encode]
  rfl

/-! ### Encoded fields -/

/-- A character that is neither plain nor used to encode the others. -/
theorem not_mem_encodeText {c : Char} (hc : (isPlain c || c == '+' || c == '%') = false)
    (t : Text) : c ∉ encodeText t := by
  intro hmem
  rcases mem_encodeText hmem with hplain | rfl | rfl
  · simp [hplain] at hc
  · cases hc
  · cases hc

theorem readField?_encodeField (field : Text × Text) :
    readField? (encodeField field) = some field := by
  have hname := Text.bne_of_not_mem (not_mem_encodeText (c := '=') (by decide) field.1)
  rw [readField?, encodeField, Text.takeWhile_append_stop hname (by decide),
    Text.dropWhile_append_stop hname (by decide), List.drop_one, List.tail_cons,
    readText?_encodeText, readText?_encodeText]
  rfl

theorem ampersand_not_mem_encodeField (field : Text × Text) : '&' ∉ encodeField field := by
  rw [encodeField, List.mem_append, List.mem_cons, not_or, not_or]
  exact ⟨not_mem_encodeText (by decide) _, by decide, not_mem_encodeText (by decide) _⟩

/-- **A form is read back**, unless it is empty: an empty text is a form with one field that is not
named. -/
theorem read?_encode {fields : List (Text × Text)} (hne : fields ≠ []) :
    read? (encode fields) = some fields := by
  have hsplit : Text.splitOn '&' (encode fields) = fields.map encodeField := by
    rw [encode, Text.splitOn_eq]
    refine List.splitOn_intercalate '&' (fun t ht => ?_) (by simpa using hne)
    obtain ⟨field, -, rfl⟩ := List.mem_map.1 ht
    exact ampersand_not_mem_encodeField field
  rw [read?, hsplit]
  clear hne hsplit
  induction fields with
  | nil => rfl
  | cons field fields ih =>
    rw [List.map_cons, List.mapM_cons, readField?_encodeField, ih]
    rfl

end Form

/-! ## Requests -/

/-- The value that the body of a request gives to a name. -/
def Request.value? (r : Request) (name : Text) : Option Text :=
  (Form.read? r.body).bind (·.lookup name)

/-- The script that the service is asked to compile is the one that was handed over. -/
theorem Service.value?_compileRequest (headers : List (Text × Text)) (code : Text) :
    (compileRequest headers ("js_code", code)).value? "js_code" = some code := by
  have hread : Form.read? (compileRequest headers ("js_code", code)).body = _ :=
    Form.read?_encode (by simp)
  have hother : (("js_code" : Text) == "output_format") = false ∧
      (("js_code" : Text) == "output_info") = false ∧
      (("js_code" : Text) == "compilation_level") = false := by decide
  rw [Request.value?, hread, Option.bind_some]
  simp only [List.lookup_cons, hother, beq_self_eq_true]

end PagePress
