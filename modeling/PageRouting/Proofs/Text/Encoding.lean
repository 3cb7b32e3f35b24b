import PageRouting.Text.Percent

namespace PageRouting
namespace Text

/-!
# Encoded components read back

A component of a query is written from characters through bytes to characters
again.  Both steps are undone here, each by a statement that leaves the rest of
the text open: reading what was written for one character gives the character
and goes on with whatever follows.  The alphabet of written components is what
keeps the separators of a query apart from its keys and values.
-/

/-! ## Characters as bytes -/

namespace Utf8

theorem decodeLossy_one {lead : UInt8} {rest : List UInt8}
    (announced : announcedLength lead.toNat = 1) :
    decodeLossy (lead :: rest) = Char.ofNat lead.toNat :: decodeLossy rest := by
  rw [decodeLossy.eq_def]
  simp only [announced]

theorem decodeLossy_two {lead second : UInt8} {rest : List UInt8}
    (announced : announcedLength lead.toNat = 2) (follows : mayFollow lead second = true) :
    decodeLossy (lead :: second :: rest) =
      Char.ofNat ((lead.toNat - 0xC0) * 0x40 + payload second) :: decodeLossy rest := by
  rw [decodeLossy.eq_def]
  simp only [announced, follows, if_true]

theorem decodeLossy_three {lead second third : UInt8} {rest : List UInt8}
    (announced : announcedLength lead.toNat = 3) (follows : mayFollow lead second = true)
    (continues : isTail third = true) :
    decodeLossy (lead :: second :: third :: rest) =
      Char.ofNat ((lead.toNat - 0xE0) * 0x1000 + payload second * 0x40 + payload third) ::
        decodeLossy rest := by
  rw [decodeLossy.eq_def]
  simp only [announced, follows, continues, if_true]

theorem decodeLossy_four {lead second third fourth : UInt8} {rest : List UInt8}
    (announced : announcedLength lead.toNat = 4) (follows : mayFollow lead second = true)
    (continues : isTail third = true) (ends : isTail fourth = true) :
    decodeLossy (lead :: second :: third :: fourth :: rest) =
      Char.ofNat ((lead.toNat - 0xF0) * 0x40000 + payload second * 0x1000 +
        payload third * 0x40 + payload fourth) :: decodeLossy rest := by
  rw [decodeLossy.eq_def]
  simp only [announced, follows, continues, ends, if_true]

private theorem toNat_ofNat_of_lt {value : Nat} (small : value < 256) :
    (UInt8.ofNat value).toNat = value := by
  simp only [UInt8.toNat_ofNat']
  omega

/-- A continuing byte carries six bits behind its mark. -/
private theorem isTail_ofNat {bits : Nat} (small : bits < 0x40) :
    isTail (UInt8.ofNat (0x80 + bits)) = true := by
  simp only [isTail, toNat_ofNat_of_lt (show 0x80 + bits < 256 by omega), Bool.and_eq_true,
    decide_eq_true_eq]
  omega

private theorem payload_ofNat {bits : Nat} (small : bits < 0x40) :
    payload (UInt8.ofNat (0x80 + bits)) = bits := by
  have byte := toNat_ofNat_of_lt (show 0x80 + bits < 256 by omega)
  unfold payload
  omega

/-- The ranges excluded after a first byte are those of overlong forms,
surrogates and codes beyond the last plane. -/
private theorem mayFollow_ofNat {lead bits : Nat} (leadSmall : lead < 256) (small : bits < 0x40)
    (long : lead = 0xE0 -> 0x20 ≤ bits) (surrogate : lead = 0xED -> bits < 0x20)
    (longest : lead = 0xF0 -> 0x10 ≤ bits) (last : lead = 0xF4 -> bits < 0x10) :
    mayFollow (UInt8.ofNat lead) (UInt8.ofNat (0x80 + bits)) = true := by
  simp only [mayFollow, isTail_ofNat small, toNat_ofNat_of_lt leadSmall,
    toNat_ofNat_of_lt (show 0x80 + bits < 256 by omega), Bool.and_eq_true, Bool.or_eq_true,
    bne_iff_ne, decide_eq_true_eq]
  refine ⟨⟨⟨⟨trivial, ?_⟩, ?_⟩, ?_⟩, ?_⟩ <;> omega

private theorem code_valid (c : Char) :
    c.toNat < 0xD800 ∨ (0xDFFF < c.toNat ∧ c.toNat < 0x110000) :=
  c.valid

/-- A character is read from its bytes, and reading goes on behind them.  The
cases are the four lengths an encoding can have. -/
theorem decodeLossy_encodeChar_append (c : Char) (rest : List UInt8) :
    decodeLossy (encodeChar c ++ rest) = c :: decodeLossy rest := by
  have valid := code_valid c
  have low : c.toNat % 0x40 < 0x40 := Nat.mod_lt _ (by decide)
  have middle : c.toNat / 0x40 % 0x40 < 0x40 := Nat.mod_lt _ (by decide)
  have high : c.toNat / 0x1000 % 0x40 < 0x40 := Nat.mod_lt _ (by decide)
  unfold encodeChar
  by_cases one : c.toNat < 0x80
  · have lead := toNat_ofNat_of_lt (show c.toNat < 256 by omega)
    have announced : announcedLength c.toNat = 1 := if_pos one
    rw [if_pos one, List.cons_append, List.nil_append,
      decodeLossy_one (by rw [lead, announced]), lead, Char.ofNat_toNat]
  by_cases two : c.toNat < 0x800
  · have lead := toNat_ofNat_of_lt (show 0xC0 + c.toNat / 0x40 < 256 by omega)
    have announced : announcedLength (0xC0 + c.toNat / 0x40) = 2 := by
      unfold announcedLength
      rw [if_neg (by omega), if_neg (by omega), if_pos (by omega)]
    have follows : mayFollow (UInt8.ofNat (0xC0 + c.toNat / 0x40))
        (UInt8.ofNat (0x80 + c.toNat % 0x40)) = true :=
      mayFollow_ofNat (by omega) low (by omega) (by omega) (by omega) (by omega)
    have code : (0xC0 + c.toNat / 0x40 - 0xC0) * 0x40 + c.toNat % 0x40 = c.toNat := by omega
    rw [if_neg one, if_pos two, List.cons_append, List.cons_append, List.nil_append,
      decodeLossy_two (by rw [lead, announced]) follows, lead, payload_ofNat low, code,
      Char.ofNat_toNat]
  by_cases three : c.toNat < 0x10000
  · have lead := toNat_ofNat_of_lt (show 0xE0 + c.toNat / 0x1000 < 256 by omega)
    have announced : announcedLength (0xE0 + c.toNat / 0x1000) = 3 := by
      unfold announcedLength
      rw [if_neg (by omega), if_neg (by omega), if_neg (by omega), if_pos (by omega)]
    have follows : mayFollow (UInt8.ofNat (0xE0 + c.toNat / 0x1000))
        (UInt8.ofNat (0x80 + c.toNat / 0x40 % 0x40)) = true :=
      mayFollow_ofNat (by omega) middle (by omega) (by omega) (by omega) (by omega)
    have code : (0xE0 + c.toNat / 0x1000 - 0xE0) * 0x1000 + c.toNat / 0x40 % 0x40 * 0x40 +
        c.toNat % 0x40 = c.toNat := by
      omega
    rw [if_neg one, if_neg two, if_pos three, List.cons_append, List.cons_append,
      List.cons_append, List.nil_append,
      decodeLossy_three (by rw [lead, announced]) follows (isTail_ofNat low), lead,
      payload_ofNat middle, payload_ofNat low, code, Char.ofNat_toNat]
  · have lead := toNat_ofNat_of_lt (show 0xF0 + c.toNat / 0x40000 < 256 by omega)
    have announced : announcedLength (0xF0 + c.toNat / 0x40000) = 4 := by
      unfold announcedLength
      rw [if_neg (by omega), if_neg (by omega), if_neg (by omega), if_neg (by omega),
        if_pos (by omega)]
    have follows : mayFollow (UInt8.ofNat (0xF0 + c.toNat / 0x40000))
        (UInt8.ofNat (0x80 + c.toNat / 0x1000 % 0x40)) = true :=
      mayFollow_ofNat (by omega) high (by omega) (by omega) (by omega) (by omega)
    have code : (0xF0 + c.toNat / 0x40000 - 0xF0) * 0x40000 +
        c.toNat / 0x1000 % 0x40 * 0x1000 + c.toNat / 0x40 % 0x40 * 0x40 + c.toNat % 0x40 =
        c.toNat := by
      omega
    rw [if_neg one, if_neg two, if_neg three, List.cons_append, List.cons_append,
      List.cons_append, List.cons_append, List.nil_append,
      decodeLossy_four (by rw [lead, announced]) follows (isTail_ofNat middle)
        (isTail_ofNat low),
      lead, payload_ofNat high, payload_ofNat middle, payload_ofNat low, code,
      Char.ofNat_toNat]

/-- Bytes of a text are never mended: they are read as the text, whatever follows them. -/
theorem decodeLossy_encode_append (text : List Char) (rest : List UInt8) :
    decodeLossy (encode text ++ rest) = text ++ decodeLossy rest := by
  induction text with
  | nil => rfl
  | cons c others ih =>
      change decodeLossy (encodeChar c ++ encode others ++ rest) = c :: (others ++ decodeLossy rest)
      rw [List.append_assoc, decodeLossy_encodeChar_append, ih]

end Utf8

/-! ## Bytes as escapes -/

namespace Percent

/-- Text of components as they are written: unreserved characters and escapes. -/
def isWritten (c : Char) : Bool :=
  isUnreserved c || c == '%'

theorem isWritten_upperHexDigit :
    ∀ value, value < 16 → isWritten (upperHexDigit value) = true := by
  decide

theorem isWritten_of_mem_escapeByte {byte : UInt8} {c : Char} (member : c ∈ escapeByte byte) :
    isWritten c = true := by
  have range : byte.toNat < 256 := byte.toNat_lt
  simp only [escapeByte, List.mem_cons, List.not_mem_nil, or_false] at member
  rcases member with mark | high | low
  · rw [mark]
    rfl
  · rw [high]
    exact isWritten_upperHexDigit _ (by omega)
  · rw [low]
    exact isWritten_upperHexDigit _ (by omega)

theorem isWritten_of_mem_encodeChar {c written : Char} (member : written ∈ encodeChar c) :
    isWritten written = true := by
  unfold encodeChar at member
  split at member
  · next unreserved =>
      rw [List.mem_singleton.mp member]
      simp only [isWritten, unreserved, Bool.true_or]
  · rcases List.mem_flatMap.mp member with ⟨byte, _, inEscape⟩
    exact isWritten_of_mem_escapeByte inEscape

/-- Nothing but unreserved characters and escapes is ever written, so no
separator of a query occurs in an encoded text. -/
theorem isWritten_of_mem_flatMap {text : List Char} {written : Char}
    (member : written ∈ text.flatMap encodeChar) : isWritten written = true := by
  rcases List.mem_flatMap.mp member with ⟨c, _, inChar⟩
  exact isWritten_of_mem_encodeChar inChar

theorem bytes_escapeByte_append (byte : UInt8) (rest : List Char) :
    bytes (escapeByte byte ++ rest) = byte :: bytes rest := by
  have range : byte.toNat < 256 := byte.toNat_lt
  have high := hexValue?_upperHexDigit (byte.toNat / 16) (by omega)
  have low := hexValue?_upperHexDigit (byte.toNat % 16) (by omega)
  have whole : 16 * (byte.toNat / 16) + byte.toNat % 16 = byte.toNat := by omega
  simp only [escapeByte, List.cons_append, List.nil_append, bytes, high, low, whole,
    UInt8.ofNat_toNat]

theorem bytes_flatMap_escapeByte_append (escaped : List UInt8) (rest : List Char) :
    bytes (escaped.flatMap escapeByte ++ rest) = escaped ++ bytes rest := by
  induction escaped with
  | nil => rfl
  | cons byte others ih =>
      rw [List.flatMap_cons, List.append_assoc, bytes_escapeByte_append, ih, List.cons_append]

theorem bytes_cons_of_ne {c : Char} (different : c ≠ '%') (rest : List Char) :
    bytes (c :: rest) = Utf8.encodeChar c ++ bytes rest := by
  rw [bytes]
  intro high low rest mark
  exact absurd mark different

theorem bytes_encodeChar_append (c : Char) (rest : List Char) :
    bytes (encodeChar c ++ rest) = Utf8.encodeChar c ++ bytes rest := by
  unfold encodeChar
  split
  · next unreserved =>
      have different : c ≠ '%' := by
        intro mark
        rw [mark] at unreserved
        exact absurd unreserved (by decide)
      exact bytes_cons_of_ne different rest
  · exact bytes_flatMap_escapeByte_append _ rest

theorem bytes_flatMap_encodeChar_append (text rest : List Char) :
    bytes (text.flatMap encodeChar ++ rest) = Utf8.encode text ++ bytes rest := by
  induction text with
  | nil => rfl
  | cons c others ih =>
      change bytes (encodeChar c ++ others.flatMap encodeChar ++ rest) =
        Utf8.encodeChar c ++ Utf8.encode others ++ bytes rest
      rw [List.append_assoc, List.append_assoc, bytes_encodeChar_append, ih]

/-- The sign that is read as a space is never written. -/
theorem map_plus_flatMap_encodeChar (text : List Char) :
    (text.flatMap encodeChar).map (fun c => if c == '+' then ' ' else c) =
      text.flatMap encodeChar := by
  refine (List.map_congr_left ?_).trans (List.map_id _)
  intro c member
  have different : c ≠ '+' := by
    intro plus
    have written := isWritten_of_mem_flatMap member
    rw [plus] at written
    exact absurd written (by decide)
  simp only [beq_eq_false_iff_ne.mpr different, Bool.false_eq_true, if_false, id_eq]

/-- A written text is read back, whatever follows it. -/
theorem decode_flatMap_encodeChar_append (text rest : List Char) :
    decode (text.flatMap encodeChar ++ rest) = text ++ decode rest := by
  rw [decode, List.map_append, map_plus_flatMap_encodeChar, bytes_flatMap_encodeChar_append,
    Utf8.decodeLossy_encode_append, decode]

/-- A text is read back from its written component. -/
theorem decode_flatMap_encodeChar (text : List Char) :
    decode (text.flatMap encodeChar) = text := by
  have nothing : decode [] = [] := rfl
  have alone := decode_flatMap_encodeChar_append text []
  rwa [nothing, List.append_nil, List.append_nil] at alone

end Percent

end Text
end PageRouting
