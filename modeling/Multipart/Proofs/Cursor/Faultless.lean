import Multipart.Proofs.Cursor.Gather
import Multipart.Proofs.Text.Lines

/-! # Streams without faults

A cursor on a stream without faults reads what the stream holds, and its end. -/

namespace Multipart.Cursor

/-- A cursor stands at an offset before a text, which is all that the stream still does. -/
structure Faces (cursor : Cursor) (offset : Nat) (text : List UInt8) : Prop where
  upcoming_eq : cursor.upcoming = text.map .byte
  position_eq : cursor.position = offset
  generous : cursor.source.Generous

variable {cursor before after : Cursor} {offset : Nat} {value : UInt8} {text bytes : List UInt8}

/-- Before anything is read a cursor faces all that a source without faults holds. -/
theorem faces_ofBytes (bytes : List UInt8) (chunk : Nat) :
    (ofSource (.ofBytes bytes) chunk).Faces 0 bytes := by
  refine ⟨?_, rfl, Source.generous_ofBytes bytes⟩
  rw [upcoming]
  exact Source.script_ofBytes bytes

theorem Faces.passes (h : cursor.Faces offset text) {moments : List Moment}
    (hpasses : Passes cursor moments after) :
    ∃ bytes rest, moments = bytes.map .byte ∧ text = bytes ++ rest ∧
      after.Faces (offset + bytes.length) rest := by
  have hsplit := hpasses.upcoming_eq
  rw [h.upcoming_eq] at hsplit
  obtain ⟨bytes, rest, rfl, hbytes, hrest⟩ := List.map_eq_append_iff.mp hsplit
  have hposition := hpasses.position_eq
  rw [← hbytes, Moment.bytes_map_byte, h.position_eq] at hposition
  exact ⟨bytes, rest, hbytes.symm, rfl, hrest.symm, hposition, hpasses.generous h.generous⟩

/-- Bytes that are read are the first of the text. -/
theorem Faces.reads (h : cursor.Faces offset text) (hreads : Reads cursor bytes after) :
    ∃ rest, text = bytes ++ rest ∧ after.Faces (offset + bytes.length) rest := by
  obtain ⟨others, rest, hbytes, htext, hafter⟩ := h.passes hreads
  have hsame := congrArg Moment.bytes hbytes
  rw [Moment.bytes_map_byte, Moment.bytes_map_byte] at hsame
  subst hsame
  exact ⟨rest, htext, hafter⟩

theorem Faces.clearMark (h : cursor.Faces offset text) : cursor.clearMark.Faces offset text :=
  ⟨h.upcoming_eq, h.position_eq, h.generous⟩

/-! ## One byte -/

theorem Faces.next_cons (h : cursor.Faces offset (value :: text)) :
    ∃ after, cursor.next = .ok (some value) after ∧ after.Faces (offset + 1) text := by
  obtain ⟨hanswer, -, -⟩ := next_eq_serve h.generous
  rw [h.upcoming_eq, List.map_cons, Moment.serve, Result.answer_ok] at hanswer
  cases hnext : cursor.next with
  | error error after => simp [hnext] at hanswer
  | ok found after =>
      rw [hnext, Result.answer_ok, Except.ok.injEq] at hanswer
      rw [hanswer] at hnext
      obtain ⟨rest, htext, hafter⟩ := h.reads (reads_of_next hnext)
      cases htext
      exact ⟨after, by rw [hanswer], hafter⟩

theorem Faces.next_nil (h : cursor.Faces offset []) :
    ∃ after, cursor.next = .ok none after ∧ after.Faces offset [] := by
  obtain ⟨hanswer, -, -⟩ := next_eq_serve h.generous
  rw [h.upcoming_eq, List.map_nil, Moment.serve, Result.answer_ok] at hanswer
  obtain ⟨moments, hpasses⟩ := passes_next cursor
  obtain ⟨bytes, rest, -, htext, hafter⟩ := h.passes hpasses
  obtain ⟨rfl, rfl⟩ := List.append_eq_nil_iff.mp htext.symm
  cases hnext : cursor.next with
  | error error after => simp [hnext] at hanswer
  | ok found after =>
      rw [hnext, Result.answer_ok, Except.ok.injEq] at hanswer
      rw [hnext, Result.state_ok] at hafter
      exact ⟨after, by rw [hanswer], hafter⟩

theorem Faces.next_ne_error (h : cursor.Faces offset text) (error : StreamError) :
    cursor.next ≠ .error error after := by
  cases text with
  | nil =>
      obtain ⟨other, hother, -⟩ := h.next_nil
      simp [hother]
  | cons value text =>
      obtain ⟨other, hother, -⟩ := h.next_cons
      simp [hother]

/-- The end is reported at the end alone. -/
theorem Faces.eq_nil_of_next_none (h : cursor.Faces offset text)
    (hend : cursor.next = .ok none after) : text = [] := by
  cases text with
  | nil => rfl
  | cons value text =>
      obtain ⟨other, hother, -⟩ := h.next_cons
      simp [hother] at hend

/-! ## A line -/

/-- The first line is read, or as much of it as the count allows. -/
theorem Faces.gatherFrom_firstLine (h : cursor.Faces offset text) (last : UInt8 → Bool)
    (count : Nat) (taken : List UInt8) :
    ∃ after, gatherFrom last count taken cursor =
        ⟨taken.reverse ++ (Text.firstLine last text).take count, none, after⟩ ∧
      after.Faces (offset + ((Text.firstLine last text).take count).length)
        (text.drop ((Text.firstLine last text).take count).length) := by
  induction count generalizing cursor offset text taken with
  | zero => exact ⟨cursor, by simp [gatherFrom], by simpa using h⟩
  | succ count ih =>
      cases text with
      | nil =>
          obtain ⟨after, hnext, hafter⟩ := h.next_nil
          exact ⟨after, by simp [gatherFrom, hnext, Text.firstLine],
            by simpa [Text.firstLine] using hafter⟩
      | cons value text =>
          obtain ⟨between, hnext, hbetween⟩ := h.next_cons
          by_cases hlast : last value
          · refine ⟨between, ?_, ?_⟩
            · simp [gatherFrom, hnext, Text.firstLine, hlast]
            · simpa [Text.firstLine, hlast] using hbetween
          · obtain ⟨after, hafter, hfaces⟩ := ih hbetween (value :: taken)
            refine ⟨after, ?_, ?_⟩
            · rw [gatherFrom, hnext]
              simp [hlast, hafter, Text.firstLine]
            · simp only [Text.firstLine, hlast, Bool.false_eq_true, ite_false,
                List.take_succ_cons, List.length_cons, List.drop_succ_cons]
              rwa [Nat.add_comm _ 1, ← Nat.add_assoc]

theorem Faces.gather_firstLine (h : cursor.Faces offset text) (last : UInt8 → Bool)
    (count : Nat) :
    ∃ after, cursor.gather last count = ⟨(Text.firstLine last text).take count, none, after⟩ ∧
      after.Faces (offset + ((Text.firstLine last text).take count).length)
        (text.drop ((Text.firstLine last text).take count).length) :=
  h.gatherFrom_firstLine last count []

end Multipart.Cursor
