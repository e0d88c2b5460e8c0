import Multipart.Proofs.Text.Validity

/-! # ASCII bytes

A byte below 80 stands for one character wherever it occurs, and no other character is written with
it. A text is therefore cut at such characters where its bytes are cut. -/

namespace Multipart.Text.Utf8

variable {c : Char} {byte other : UInt8}

theorem utf8EncodeChar_of_ascii (h : other.toNat < 0x80) :
    String.utf8EncodeChar (Char.ofNat other.toNat) = [other] := by
  rw [utf8EncodeChar_one h, UInt8.ofNat_toNat]

theorem eq_iff_of_mem_utf8EncodeChar (h : byte ∈ String.utf8EncodeChar c)
    (hother : other.toNat < 0x80) : byte = other ↔ c = Char.ofNat other.toNat := by
  constructor
  · rintro rfl
    rw [← toNat_of_mem_utf8EncodeChar h hother, Char.ofNat_toNat]
  · rintro rfl
    rw [utf8EncodeChar_of_ascii hother] at h
    exact List.mem_singleton.mp h

theorem encode_cons (c : Char) (text : List Char) :
    encode (c :: text) = String.utf8EncodeChar c ++ encode text := rfl

/-! ## Texts cut at some characters -/

variable {p : UInt8 → Bool} {q : Char → Bool}

theorem takeWhile_encode (h : ∀ c, ∀ byte ∈ String.utf8EncodeChar c, p byte = q c)
    (text : List Char) : (encode text).takeWhile p = encode (text.takeWhile q) := by
  induction text with
  | nil => rfl
  | cons c text ih =>
      rw [encode_cons]
      by_cases hc : q c
      · rw [List.takeWhile_append_of_pos fun byte hbyte => (h c byte hbyte).trans hc, ih,
          List.takeWhile_cons_of_pos hc, encode_cons]
      · obtain ⟨first, bytes, hbytes⟩ :=
          List.exists_cons_of_ne_nil (String.utf8EncodeChar_ne_nil (c := c))
        have hfirst : ¬p first := by
          rwa [h c first (by rw [hbytes]; exact List.mem_cons_self)]
        rw [hbytes, List.cons_append, List.takeWhile_cons_of_neg hfirst,
          List.takeWhile_cons_of_neg hc]
        rfl

theorem dropWhile_encode (h : ∀ c, ∀ byte ∈ String.utf8EncodeChar c, p byte = q c)
    (text : List Char) : (encode text).dropWhile p = encode (text.dropWhile q) := by
  have hsplit : encode (text.takeWhile q) ++ (encode text).dropWhile p =
      encode (text.takeWhile q) ++ encode (text.dropWhile q) := by
    rw [← takeWhile_encode h, List.takeWhile_append_dropWhile, takeWhile_encode h,
      ← encode_append, List.takeWhile_append_dropWhile]
  exact List.append_cancel_left hsplit

/-- Nothing is replaced in the text of the bytes of a text. -/
theorem decodeLossy_encode (text : List Char) : decodeLossy (encode text) = text := by
  have hscan : scan (encode text) = text.map some := scanFrom_encode text []
  rw [decodeLossy, hscan, List.map_map]
  exact List.map_id text

end Multipart.Text.Utf8
