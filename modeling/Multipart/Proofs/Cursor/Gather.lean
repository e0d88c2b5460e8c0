import Multipart.Proofs.Cursor.Passage

/-! # Reading several bytes

What reading up to a count or up to a byte may do, and what it does when the bytes are there. -/

namespace Multipart.Cursor

/-- One cursor leads to another over some bytes, without a fault in between. -/
abbrev Reads (cursor : Cursor) (bytes : List UInt8) (after : Cursor) : Prop :=
  Passes cursor (bytes.map .byte) after

theorem Reads.trans {a b c : Cursor} {first second : List UInt8} (hab : Reads a first b)
    (hbc : Reads b second c) : Reads a (first ++ second) c := by
  have hpasses := Passes.trans hab hbc
  rwa [← List.map_append] at hpasses

theorem Reads.position_eq {cursor after : Cursor} {bytes : List UInt8}
    (h : Reads cursor bytes after) : after.position = cursor.position + bytes.length := by
  have hposition := Passes.position_eq h
  rwa [Moment.bytes_map_byte] at hposition

inductive Gathers (cursor : Cursor) (count : Nat) : Gathered → Prop
  | full {bytes : List UInt8} {after : Cursor} : Reads cursor bytes after →
      bytes.length = count → Gathers cursor count ⟨bytes, none, after⟩
  | ended {bytes : List UInt8} {before after : Cursor} : Reads cursor bytes before →
      before.next = .ok none after → bytes.length < count →
      Gathers cursor count ⟨bytes, none, after⟩
  | failure {bytes : List UInt8} {before after : Cursor} {error : StreamError} :
      Reads cursor bytes before → before.next = .error error after →
      Gathers cursor count ⟨bytes, some error, after⟩

theorem reads_of_next {cursor after : Cursor} {value : UInt8}
    (h : cursor.next = .ok (some value) after) : Reads cursor [value] after := by
  have hnexts := nexts_next cursor
  rw [h] at hnexts
  cases hnexts with
  | byte hpasses => exact hpasses

theorem gathers_gatherFrom (count : Nat) (taken : List UInt8) (cursor : Cursor) :
    ∃ bytes failure after, Gathers cursor count ⟨bytes, failure, after⟩ ∧
      gatherFrom (fun _ => false) count taken cursor =
        ⟨taken.reverse ++ bytes, failure, after⟩ := by
  induction count generalizing taken cursor with
  | zero => exact ⟨[], none, cursor, .full (.refl cursor) rfl, by simp [gatherFrom]⟩
  | succ count ih =>
      rw [gatherFrom]
      cases hnext : cursor.next with
      | error error after =>
          exact ⟨[], some error, after, .failure (.refl cursor) hnext, by simp⟩
      | ok value after =>
          cases value with
          | none =>
              exact ⟨[], none, after, .ended (.refl cursor) hnext count.succ_pos, by simp⟩
          | some value =>
              have hfirst := reads_of_next hnext
              obtain ⟨bytes, failure, last, hlast, heq⟩ := ih (value :: taken) after
              refine ⟨value :: bytes, failure, last, ?_, by simp [heq]⟩
              cases hlast with
              | full hreads hlength => exact .full (hfirst.trans hreads) (by simp [hlength])
              | ended hreads hend hlength =>
                  exact .ended (hfirst.trans hreads) hend (by simpa using hlength)
              | failure hreads hend => exact .failure (hfirst.trans hreads) hend

theorem gathers_take (cursor : Cursor) (count : Nat) :
    Gathers cursor count (cursor.take count) := by
  obtain ⟨bytes, failure, after, hgathers, heq⟩ := gathers_gatherFrom count [] cursor
  rw [List.reverse_nil, List.nil_append] at heq
  rw [take, gather, heq]
  exact hgathers

end Multipart.Cursor
