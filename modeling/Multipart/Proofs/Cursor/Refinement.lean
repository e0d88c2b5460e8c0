import Multipart.Proofs.Cursor.Buffer
import Multipart.Proofs.Cursor.Passage
import Multipart.Proofs.Cursor.Plain

/-! # Cursors as plain cursors

What a cursor holds is the end of the text that its source has delivered. Filling forgets the
front of the buffer, passing moves bytes from one side of the position to the other, and the mark
divides what is consumed: none of this can be told from a plain cursor. -/

namespace Multipart

/-! ## What is delivered -/

namespace Source

/-- A read delivers the bytes at the front of those to come. -/
theorem bytes_read_ok {size : Nat} {source rest : Source} {bytes : List UInt8}
    (h : source.read size = .ok bytes rest) :
    Moment.bytes source.script = bytes ++ Moment.bytes rest.script := by
  have hserves := source.serves_read size
  rw [h] at hserves
  cases hserves with
  | pause hscript _ _ =>
      rw [hscript]
      rfl
  | bytes hscript _ _ _ => rw [hscript, Moment.bytes_append, Moment.bytes_map_byte]

theorem bytes_read_error {size : Nat} {source rest : Source} {error : StreamError}
    (h : source.read size = .error error rest) :
    Moment.bytes source.script = Moment.bytes rest.script := by
  have hserves := source.serves_read size
  rw [h] at hserves
  cases hserves with
  | failure hscript _ _ =>
      rw [hscript]
      rfl

theorem Delivers.bytes_eq {chunk : Nat} {source after : Source} {bytes : List UInt8}
    (h : source.Delivers chunk bytes after) :
    Moment.bytes source.script = bytes ++ Moment.bytes after.script := by
  induction h with
  | refl source => rfl
  | read hread hbytes hmore ih => rw [bytes_read_ok hread, ih, List.append_assoc]

/-- What is delivered first and what is delivered then. -/
theorem Delivers.trans {chunk : Nat} {source between after : Source}
    {first second : List UInt8} (h : source.Delivers chunk first between)
    (hthen : between.Delivers chunk second after) :
    source.Delivers chunk (first ++ second) after := by
  induction h with
  | refl source => exact hthen
  | read hread hbytes hmore ih =>
      rw [List.append_assoc]
      exact .read hread hbytes (ih hthen)

end Source

/-! ## What plain cursors may do -/

namespace Plain

variable {chunk : Nat} {plain between after : Plain} {enough : List UInt8 → Bool}
  {bytes : List UInt8} {failure : Option StreamError}

theorem Moves.refl (plain : Plain) : plain.Moves chunk [] plain :=
  ⟨⟨[], .refl plain.source, by simp⟩, List.nil_prefix, rfl, rfl⟩

theorem Moves.trans {first second : List UInt8} (h : plain.Moves chunk first between)
    (hthen : between.Moves chunk second after) : plain.Moves chunk (first ++ second) after := by
  obtain ⟨more, hmore, htext⟩ := h.delivers
  obtain ⟨further, hfurther, htext'⟩ := hthen.delivers
  refine ⟨⟨more ++ further, hmore.trans hfurther, by simp [htext, htext']⟩, ?_, ?_,
    hthen.mark?_eq.trans h.mark?_eq⟩
  · have hfirst : first <+: after.text.drop plain.offset := by
      apply h.slice.trans
      rw [htext', List.drop_append]
      exact List.prefix_append _ _
    obtain ⟨rest, hrest⟩ := hfirst
    have hsecond : second <+: rest := by
      have hslice := hthen.slice
      rwa [h.offset_eq, ← List.drop_drop, ← hrest, List.drop_left] at hslice
    rw [← hrest]
    exact (List.prefix_append_right_inj first).2 hsecond
  · rw [hthen.offset_eq, h.offset_eq, List.length_append, Nat.add_assoc]

theorem Reads.nil (plain : Plain) (henough : enough []) : plain.Reads chunk enough [] none plain :=
  .whole (.refl plain) henough (by simp)

theorem Reads.stopped {source : Source} (hend : plain.offset = plain.text.length)
    (hread : plain.source.read chunk = .ok [] source) (henough : enough [] = false) :
    plain.Reads chunk enough [] none { plain with source } :=
  .ended (.refl plain) (by simpa using henough) hend hread

theorem Reads.failed {source : Source} {error : StreamError}
    (hend : plain.offset = plain.text.length)
    (hread : plain.source.read chunk = .error error source) (henough : enough [] = false) :
    plain.Reads chunk enough [] (some error) { plain with source } :=
  .failure (.refl plain) (by simpa using henough) hend hread

/-- One byte that is not enough, and then what is read on. -/
theorem Reads.cons {value : UInt8} (hmoves : plain.Moves chunk [value] between)
    (henough : enough [] = false)
    (h : between.Reads chunk (fun bytes => enough (value :: bytes)) bytes failure after) :
    plain.Reads chunk enough (value :: bytes) failure after := by
  have hshift : ∀ {most : Nat}, (∀ k ≤ most, enough (value :: bytes.take k) = false) →
      ∀ k ≤ most + 1, enough ((value :: bytes).take k) = false := by
    intro most hbefore k hk
    cases k with
    | zero => exact henough
    | succ k => exact hbefore k (by omega)
  cases h with
  | whole hrest hwhole hbefore =>
      refine .whole (hmoves.trans hrest) hwhole ?_
      intro k hk
      cases k with
      | zero => exact henough
      | succ k => exact hbefore k (by simpa using hk)
  | ended hrest hbefore hend hread => exact .ended (hmoves.trans hrest) (hshift hbefore) hend hread
  | failure hrest hbefore hend hread =>
      exact .failure (hmoves.trans hrest) (hshift hbefore) hend hread

/-- The bytes that the source has delivered, and those it has still to deliver. -/
def whole (plain : Plain) : List UInt8 :=
  plain.text ++ Moment.bytes plain.source.script

theorem Moves.whole_eq (h : plain.Moves chunk bytes after) : after.whole = plain.whole := by
  obtain ⟨more, hmore, htext⟩ := h.delivers
  rw [whole, whole, htext, hmore.bytes_eq, List.append_assoc]

theorem Reads.whole_eq (h : plain.Reads chunk enough bytes failure after) :
    after.whole = plain.whole := by
  cases h with
  | whole hmoves _ _ => exact hmoves.whole_eq
  | ended hmoves _ _ hread =>
      rw [← hmoves.whole_eq, Plain.whole, Plain.whole, Source.bytes_read_ok hread, List.nil_append]
  | failure hmoves _ _ hread =>
      rw [← hmoves.whole_eq, Plain.whole, Plain.whole, Source.bytes_read_error hread]

theorem Fills.whole_eq (h : plain.Fills chunk failure after) : after.whole = plain.whole := by
  cases h with
  | held _ => rfl
  | read _ hread => rw [whole, whole, Source.bytes_read_ok hread, List.append_assoc]
  | failure _ hread => rw [whole, whole, Source.bytes_read_error hread]

theorem Step.whole_eq {operation : Cursor.Operation} {response : Cursor.Response}
    (h : plain.Step chunk operation response after) : after.whole = plain.whole := by
  cases h with
  | mark | clearMark | rewind _ | unmarked _ | consume => rfl
  | skip hreads | next hreads | take hreads | takeThrough hreads => exact hreads.whole_eq
  | fill hfills | fillFails hfills | readFails hfills => exact hfills.whole_eq
  | read hfills _ hafter =>
      rw [hafter]
      exact hfills.whole_eq

/-- No byte of the stream is lost, repeated or moved by operations in a row. -/
theorem Run.whole_eq {operations : List Cursor.Operation} {responses : List Cursor.Response}
    (h : plain.Run chunk operations responses after) : after.whole = plain.whole := by
  induction h with
  | nil plain => rfl
  | cons hstep hrest ih => rw [ih, hstep.whole_eq]

end Plain

namespace Cursor

/-! ## Cursors that show a plain one -/

/-- The offset of the first byte held. -/
def base (cursor : Cursor) : Nat :=
  cursor.position - cursor.consumed.length

/-- A cursor holds the end of the text that a plain cursor has, and is at its place with its
mark. -/
structure Shows (chunk : Nat) (cursor : Cursor) (plain : Plain) : Prop where
  chunk_eq : cursor.chunk = chunk
  source_eq : plain.source = cursor.source
  offset_eq : plain.offset = cursor.position
  mark?_eq : plain.mark? = cursor.marked?
  held_suffix : cursor.held <:+ plain.text
  length_eq : cursor.position + cursor.ahead.length = plain.text.length

theorem shows_ofSource (source : Source) (chunk : Nat) :
    (ofSource source chunk).Shows (max chunk 1) { source } :=
  ⟨rfl, rfl, rfl, rfl, List.suffix_refl [], rfl⟩

namespace Shows

variable {chunk : Nat} {cursor after filled : Cursor} {plain : Plain}

theorem held_eq (h : cursor.Shows chunk plain) : cursor.held = plain.text.drop cursor.base := by
  obtain ⟨before, hbefore⟩ := h.held_suffix
  have hlength := h.length_eq
  rw [← hbefore, held, List.length_append, List.length_append, List.length_reverse] at hlength
  have hbase : cursor.base = before.length := by
    simp only [base]
    omega
  rw [← hbefore, hbase, List.drop_left]

theorem ahead_eq (h : cursor.Shows chunk plain) : plain.text.drop plain.offset = cursor.ahead := by
  have hsuffix : cursor.ahead <:+ plain.text :=
    (List.suffix_append cursor.consumed.reverse cursor.ahead).trans h.held_suffix
  obtain ⟨before, hbefore⟩ := hsuffix
  have hlength := h.length_eq
  rw [← hbefore, List.length_append] at hlength
  have hoffset : plain.offset = before.length := by
    rw [h.offset_eq]
    omega
  rw [hoffset, ← hbefore, List.drop_left]

theorem consumed_le (h : cursor.Shows chunk plain) :
    cursor.consumed.length ≤ cursor.position := by
  have hsuffix := h.held_suffix.length_le
  have hlength := h.length_eq
  rw [held, List.length_append, List.length_reverse] at hsuffix
  omega

/-- The mark is among the bytes held, and they reach to the end of the text. -/
theorem base_le (h : cursor.Shows chunk plain) {offset : Nat} (hmark : plain.mark? = some offset) :
    cursor.base ≤ offset ∧ offset ≤ cursor.position := by
  rw [h.mark?_eq, marked?, Option.map_eq_some_iff] at hmark
  obtain ⟨since, hsince, rfl⟩ := hmark
  simp only [base, consumed, hsince, Option.getD_some, List.length_append]
  omega

theorem pass (h : cursor.Shows chunk plain) (bytes : List UInt8) {ahead : List UInt8}
    (hahead : cursor.ahead = bytes ++ ahead) :
    (cursor.pass bytes.reverse ahead).Shows chunk
      { plain with offset := plain.offset + bytes.length } := by
  refine ⟨?_, ?_, ?_, ?_, ?_, ?_⟩
  · rw [chunk_pass, h.chunk_eq]
  · rw [source_pass, ← h.source_eq]
  · rw [position_pass, List.length_reverse, ← h.offset_eq]
  · rw [marked?_pass, ← h.mark?_eq]
  · rw [held_pass bytes hahead]
    exact h.held_suffix
  · have hlength := h.length_eq
    rw [hahead, List.length_append] at hlength
    rw [position_pass, ahead_pass, List.length_reverse]
    change _ = plain.text.length
    omega

/-! ## Filling -/

/-- Where everything delivered is read, the buffer can be filled anew behind the mark. -/
theorem refill (h : cursor.Shows chunk plain) (hahead : cursor.ahead = []) (source : Source)
    (bytes : List UInt8) :
    Shows chunk { cursor with source, spent := [], ahead := bytes }
      { plain with source, text := plain.text ++ bytes } := by
  refine ⟨h.chunk_eq, rfl, h.offset_eq, h.mark?_eq, ?_, ?_⟩
  · obtain ⟨before, hbefore⟩ := h.held_suffix
    refine ⟨before ++ cursor.spent.reverse, ?_⟩
    rw [← hbefore]
    simp [held, consumed, hahead]
  · have hlength := h.length_eq
    rw [hahead, List.length_nil] at hlength
    change cursor.position + bytes.length = (plain.text ++ bytes).length
    rw [List.length_append]
    omega

theorem offset_eq_of_ahead_nil (h : cursor.Shows chunk plain) (hahead : cursor.ahead = []) :
    plain.offset = plain.text.length := by
  rw [h.offset_eq, ← h.length_eq, hahead, List.length_nil, Nat.add_zero]

theorem fill_ok (h : cursor.Shows chunk plain) (hfill : cursor.fill = .ok () filled) :
    ∃ between, plain.Fills chunk none between ∧ filled.Shows chunk between := by
  simp only [fill] at hfill
  split at hfill
  · rename_i hempty
    have hahead := List.isEmpty_iff.1 hempty
    split at hfill
    · rename_i bytes source hread
      rw [h.chunk_eq, ← h.source_eq] at hread
      cases hfill
      exact ⟨_, .read (h.offset_eq_of_ahead_nil hahead) hread, h.refill hahead source bytes⟩
    · contradiction
  · rename_i hahead
    cases hfill
    refine ⟨plain, .held ?_, h⟩
    have hlength := h.length_eq
    have hpos : 0 < cursor.ahead.length := by
      rw [List.length_pos_iff]
      simpa using hahead
    have hoffset := h.offset_eq
    omega

theorem fill_error {error : StreamError} (h : cursor.Shows chunk plain)
    (hfill : cursor.fill = .error error after) :
    ∃ failed, plain.Fills chunk (some error) failed ∧ after.Shows chunk failed := by
  simp only [fill] at hfill
  split at hfill
  · rename_i hempty
    have hahead := List.isEmpty_iff.1 hempty
    split at hfill
    · contradiction
    · rename_i source hread
      rw [h.chunk_eq, ← h.source_eq] at hread
      cases hfill
      refine ⟨_, .failure (h.offset_eq_of_ahead_nil hahead) hread, ?_⟩
      simpa [hahead] using h.refill hahead source []
  · contradiction

/-! ## Reading -/

theorem next_some {value : UInt8} (h : cursor.Shows chunk plain)
    (hnext : cursor.next = .ok (some value) after) :
    ∃ moved, plain.Moves chunk [value] moved ∧ after.Shows chunk moved := by
  simp only [next] at hnext
  split at hnext
  · contradiction
  · rename_i filled hfill
    obtain ⟨between, hfills, hshows⟩ := h.fill_ok hfill
    split at hnext
    · simp at hnext
    · rename_i first rest hahead
      cases hnext
      refine ⟨_, ?_, hshows.pass [value] hahead⟩
      have hslice : [value] <+: between.text.drop between.offset := by
        rw [hshows.ahead_eq, hahead]
        exact List.prefix_append [value] rest
      cases hfills with
      | held hheld => exact ⟨⟨[], .refl _, by simp⟩, hslice, rfl, rfl⟩
      | read hend hread =>
          rename_i bytes source
          -- a read that delivers nothing would leave no byte ahead
          have hbytes : bytes ≠ [] := by
            intro hnil
            have hdrop := hshows.ahead_eq
            simp [hahead, hnil, hend] at hdrop
          exact ⟨⟨bytes ++ [], .read hread hbytes (.refl _), by simp⟩, hslice, rfl, rfl⟩

theorem next_none (h : cursor.Shows chunk plain) (hnext : cursor.next = .ok none after) :
    ∃ source, plain.offset = plain.text.length ∧ plain.source.read chunk = .ok [] source ∧
      after.Shows chunk { plain with source } := by
  simp only [next] at hnext
  split at hnext
  · contradiction
  · rename_i filled hfill
    obtain ⟨between, hfills, hshows⟩ := h.fill_ok hfill
    split at hnext
    · rename_i hahead
      cases hnext
      have hend := hshows.offset_eq_of_ahead_nil hahead
      cases hfills with
      | held hheld => omega
      | read hoffset hread =>
          rename_i bytes source
          have hbytes : bytes = [] := by
            simp only [List.length_append] at hend
            exact List.length_eq_zero_iff.1 (by omega)
          subst hbytes
          exact ⟨source, hoffset, hread, by simpa using hshows⟩
    · simp at hnext

theorem next_error {error : StreamError} (h : cursor.Shows chunk plain)
    (hnext : cursor.next = .error error after) :
    ∃ source, plain.offset = plain.text.length ∧ plain.source.read chunk = .error error source ∧
      after.Shows chunk { plain with source } := by
  simp only [next] at hnext
  split at hnext
  · rename_i hfill
    cases hnext
    obtain ⟨failed, hfills, hshows⟩ := h.fill_error hfill
    cases hfills with
    | failure hend hread => exact ⟨_, hend, hread, hshows⟩
  · split at hnext <;> contradiction

/-- Bytes are read one after another until there are enough, or none follows. -/
theorem gatherFrom (h : cursor.Shows chunk plain) (count : Nat) (taken : List UInt8) :
    ∃ bytes failure last moved,
      Cursor.gatherFrom (fun _ => false) count taken cursor =
        ⟨taken.reverse ++ bytes, failure, last⟩ ∧
      plain.Reads chunk (count ≤ ·.length) bytes failure moved ∧ last.Shows chunk moved := by
  induction count generalizing cursor plain taken with
  | zero => exact ⟨[], none, cursor, plain, by simp [Cursor.gatherFrom], .nil plain (by simp), h⟩
  | succ count ih =>
      rw [Cursor.gatherFrom]
      cases hnext : cursor.next with
      | error error after =>
          obtain ⟨source, hend, hread, hshows⟩ := h.next_error hnext
          exact ⟨[], some error, after, _, by simp, .failed hend hread (by simp), hshows⟩
      | ok value after =>
          cases value with
          | none =>
              obtain ⟨source, hend, hread, hshows⟩ := h.next_none hnext
              exact ⟨[], none, after, _, by simp, .stopped hend hread (by simp), hshows⟩
          | some value =>
              obtain ⟨between, hmoves, hshows⟩ := h.next_some hnext
              obtain ⟨bytes, failure, last, moved, heq, hreads, hlast⟩ :=
                ih hshows (value :: taken)
              refine ⟨value :: bytes, failure, last, moved, by simp [heq], ?_, hlast⟩
              exact .cons hmoves (by simp) (by simpa using hreads)

theorem takeThroughFrom (h : cursor.Shows chunk plain) (stop : UInt8) (taken : List UInt8) :
    ∃ bytes failure last moved,
      Cursor.takeThroughFrom stop taken cursor = ⟨taken.reverse ++ bytes, failure, last⟩ ∧
      plain.Reads chunk (·.contains stop) bytes failure moved ∧ last.Shows chunk moved := by
  fun_induction Cursor.takeThroughFrom stop taken cursor generalizing plain with
  | case1 taken cursor error after hnext =>
      obtain ⟨source, hend, hread, hshows⟩ := h.next_error hnext
      exact ⟨[], some error, after, _, by simp, .failed hend hread rfl, hshows⟩
  | case2 taken cursor after hnext =>
      obtain ⟨source, hend, hread, hshows⟩ := h.next_none hnext
      exact ⟨[], none, after, _, by simp, .stopped hend hread rfl, hshows⟩
  | case3 taken cursor after hnext =>
      obtain ⟨between, hmoves, hshows⟩ := h.next_some hnext
      refine ⟨[stop], none, after, between, by simp, ?_, hshows⟩
      exact .cons hmoves rfl (.nil between (by simp))
  | case4 taken cursor value after hnext hvalue ih =>
      obtain ⟨between, hmoves, hshows⟩ := h.next_some hnext
      obtain ⟨bytes, failure, last, moved, heq, hreads, hlast⟩ := ih hshows
      refine ⟨value :: bytes, failure, last, moved, by simp [heq], ?_, hlast⟩
      exact .cons hmoves rfl (by simpa [Ne.symm hvalue] using hreads)

theorem take (h : cursor.Shows chunk plain) (count : Nat) :
    ∃ moved, plain.Reads chunk (count ≤ ·.length) (cursor.take count).bytes
      (cursor.take count).failure moved ∧ (cursor.take count).cursor.Shows chunk moved := by
  obtain ⟨bytes, failure, last, moved, heq, hreads, hlast⟩ := h.gatherFrom count []
  rw [Cursor.take, Cursor.gather, heq]
  exact ⟨moved, hreads, hlast⟩

theorem takeThrough (h : cursor.Shows chunk plain) (stop : UInt8) :
    ∃ moved, plain.Reads chunk (·.contains stop) (cursor.takeThrough stop).bytes
      (cursor.takeThrough stop).failure moved ∧
      (cursor.takeThrough stop).cursor.Shows chunk moved := by
  obtain ⟨bytes, failure, last, moved, heq, hreads, hlast⟩ := h.takeThroughFrom stop []
  rw [Cursor.takeThrough, heq]
  exact ⟨moved, hreads, hlast⟩

/-! ## The mark and the position -/

theorem mark (h : cursor.Shows chunk plain) :
    cursor.mark.Shows chunk { plain with mark? := some plain.offset } := by
  refine ⟨h.chunk_eq, h.source_eq, h.offset_eq, ?_, ?_, h.length_eq⟩
  · simp [Cursor.mark, markBack, marked?, divide_eq, h.offset_eq]
  · rw [Cursor.mark, held_markBack]
    exact h.held_suffix

theorem clearMark (h : cursor.Shows chunk plain) :
    cursor.clearMark.Shows chunk { plain with mark? := none } :=
  ⟨h.chunk_eq, h.source_eq, h.offset_eq, rfl, h.held_suffix, h.length_eq⟩

theorem rewind (h : cursor.Shows chunk plain) {offset : Nat} (hmark : plain.mark? = some offset) :
    ∃ after, cursor.rewind = .ok () after ∧ after.Shows chunk { plain with offset } := by
  have hmarked := h.mark?_eq
  rw [hmark, marked?] at hmarked
  obtain ⟨since, hsince, hoffset⟩ := Option.map_eq_some_iff.1 hmarked.symm
  have hconsumed := h.consumed_le
  rw [consumed, hsince, Option.getD_some, List.length_append] at hconsumed
  rw [Cursor.rewind, hsince]
  refine ⟨_, rfl, h.chunk_eq, h.source_eq, hoffset.symm, ?_, ?_, ?_⟩
  · simp [hmark, marked?, hoffset]
  · have hsuffix := h.held_suffix
    simpa [held, consumed, hsince] using hsuffix
  · have hlength := h.length_eq
    simp only [List.length_append, List.length_reverse]
    omega

theorem rewind_unmarked (h : cursor.Shows chunk plain) (hmark : plain.mark? = none) :
    cursor.rewind = .error .unmarked cursor := by
  have hmarked := h.mark?_eq
  rw [hmark, marked?] at hmarked
  have hsince := Option.map_eq_none_iff.1 hmarked.symm
  rw [Cursor.rewind, hsince]

/-- Consuming moves to the end of what is delivered at most. -/
theorem advance (h : cursor.Shows chunk plain) (count : Nat) :
    (cursor.advance count).Shows chunk
      { plain with offset := plain.offset + (cursor.ahead.take count).length } :=
  h.pass (cursor.ahead.take count) (List.take_append_drop count cursor.ahead).symm

/-! ## Operations -/

section Operations

variable {response : Response}

theorem perform_rewind (h : cursor.Shows chunk plain)
    (hperform : Operation.rewind.perform cursor = some (response, after)) :
    ∃ moved, plain.Step chunk .rewind response moved ∧ after.Shows chunk moved := by
  cases hmark : plain.mark? with
  | none =>
      rw [Operation.perform, h.rewind_unmarked hmark] at hperform
      cases hperform
      exact ⟨plain, .unmarked hmark, h⟩
  | some offset =>
      obtain ⟨rewound, hrewind, hshows⟩ := h.rewind hmark
      rw [Operation.perform, hrewind] at hperform
      cases hperform
      exact ⟨_, .rewind hmark, hshows⟩

theorem perform_next (h : cursor.Shows chunk plain)
    (hperform : Operation.next.perform cursor = some (response, after)) :
    ∃ moved, plain.Step chunk .next response moved ∧ after.Shows chunk moved := by
  rw [Operation.perform] at hperform
  split at hperform
  · rename_i value after hnext
    cases hperform
    cases value with
    | none =>
        obtain ⟨source, hend, hread, hshows⟩ := h.next_none hnext
        exact ⟨_, .next (.stopped hend hread rfl), hshows⟩
    | some value =>
        obtain ⟨moved, hmoves, hshows⟩ := h.next_some hnext
        exact ⟨moved, .next (.cons hmoves rfl (.nil moved rfl)), hshows⟩
  · rename_i error after hnext
    cases hperform
    obtain ⟨source, hend, hread, hshows⟩ := h.next_error hnext
    exact ⟨_, .next (.failed hend hread rfl), hshows⟩

theorem perform_read (h : cursor.Shows chunk plain) {size : Nat}
    (hperform : (Operation.read size).perform cursor = some (response, after)) :
    ∃ moved, plain.Step chunk (.read size) response moved ∧ after.Shows chunk moved := by
  rw [Operation.perform, read] at hperform
  cases hfill : cursor.fill with
  | ok value filled =>
      rw [hfill] at hperform
      cases hperform
      obtain ⟨between, hfills, hshows⟩ := h.fill_ok hfill
      exact ⟨_, .read hfills (by rw [hshows.ahead_eq]) rfl, hshows.advance size⟩
  | error error filled =>
      rw [hfill] at hperform
      cases hperform
      obtain ⟨failed, hfills, hshows⟩ := h.fill_error hfill
      exact ⟨failed, .readFails hfills, hshows⟩

theorem perform_fill (h : cursor.Shows chunk plain)
    (hperform : Operation.fill.perform cursor = some (response, after)) :
    ∃ moved, plain.Step chunk .fill response moved ∧ after.Shows chunk moved := by
  rw [Operation.perform] at hperform
  cases hfill : cursor.fill with
  | ok value filled =>
      rw [hfill] at hperform
      cases hperform
      obtain ⟨between, hfills, hshows⟩ := h.fill_ok hfill
      rw [← hshows.ahead_eq]
      exact ⟨between, .fill hfills, hshows⟩
  | error error filled =>
      rw [hfill] at hperform
      cases hperform
      obtain ⟨failed, hfills, hshows⟩ := h.fill_error hfill
      exact ⟨failed, .fillFails hfills, hshows⟩

theorem perform_consume (h : cursor.Shows chunk plain) {count : Nat}
    (hperform : (Operation.consume count).perform cursor = some (response, after)) :
    ∃ moved, plain.Step chunk (.consume count) response moved ∧ after.Shows chunk moved := by
  rw [Operation.perform, consume?] at hperform
  split at hperform
  · cases hperform
    have hoffset : min (plain.offset + count) plain.text.length =
        plain.offset + (cursor.ahead.take count).length := by
      rw [List.length_take, ← h.length_eq, h.offset_eq]
      omega
    refine ⟨_, .consume, ?_⟩
    rw [hoffset]
    exact h.advance count
  · contradiction

/-- What an operation does to a cursor it may do to the plain cursor that is shown. -/
theorem perform (h : cursor.Shows chunk plain) {operation : Operation}
    (hperform : operation.perform cursor = some (response, after)) :
    ∃ moved, plain.Step chunk operation response moved ∧ after.Shows chunk moved := by
  cases operation with
  | mark =>
      cases hperform
      exact ⟨_, .mark plain, h.mark⟩
  | clearMark =>
      cases hperform
      exact ⟨_, .clearMark plain, h.clearMark⟩
  | rewind => exact h.perform_rewind hperform
  | next => exact h.perform_next hperform
  | read size => exact h.perform_read hperform
  | fill => exact h.perform_fill hperform
  | consume count => exact h.perform_consume hperform
  | skip count =>
      cases hperform
      obtain ⟨moved, hreads, hshows⟩ := h.take count
      exact ⟨moved, .skip hreads, hshows⟩
  | take count =>
      cases hperform
      obtain ⟨moved, hreads, hshows⟩ := h.take count
      exact ⟨moved, .take hreads, hshows⟩
  | takeThrough stop =>
      cases hperform
      obtain ⟨moved, hreads, hshows⟩ := h.takeThrough stop
      exact ⟨moved, .takeThrough hreads, hshows⟩

end Operations

end Shows

/-- Only consuming can fail to give a result, where a sum does not fit a word. -/
theorem perform_eq_none {operation : Operation} {cursor : Cursor}
    (h : operation.perform cursor = none) :
    ∃ count, operation = .consume count ∧ maxWord < cursor.consumed.length + count := by
  cases operation with
  | consume count =>
      refine ⟨count, rfl, ?_⟩
      rw [Operation.perform, consume?] at h
      split at h
      · contradiction
      · omega
  | rewind =>
      rw [Operation.perform] at h
      split at h <;> contradiction
  | next =>
      rw [Operation.perform] at h
      split at h <;> contradiction
  | read size =>
      rw [Operation.perform] at h
      split at h <;> contradiction
  | fill =>
      rw [Operation.perform] at h
      split at h <;> contradiction
  | mark | clearMark | skip count | take count | takeThrough stop => contradiction

theorem Shows.run {chunk : Nat} {cursor after : Cursor} {plain : Plain}
    {operations : List Operation} {responses : List Response} (h : cursor.Shows chunk plain)
    (hrun : cursor.run operations = some (responses, after)) :
    ∃ moved, plain.Run chunk operations responses moved ∧ after.Shows chunk moved := by
  induction operations generalizing cursor plain responses with
  | nil =>
      cases hrun
      exact ⟨plain, .nil plain, h⟩
  | cons operation operations ih =>
      rw [Cursor.run] at hrun
      cases hperform : operation.perform cursor with
      | none => simp [hperform] at hrun
      | some result =>
          obtain ⟨response, between⟩ := result
          obtain ⟨moved, hstep, hshows⟩ := h.perform hperform
          cases hrest : between.run operations with
          | none => simp [hperform, hrest] at hrun
          | some result =>
              obtain ⟨others, last⟩ := result
              simp only [hperform, hrest, Option.some.injEq, Prod.mk.injEq] at hrun
              obtain ⟨rfl, rfl⟩ := hrun
              obtain ⟨final, hsteps, hlast⟩ := ih hshows hrest
              exact ⟨final, .cons hstep hsteps, hlast⟩

/-- A run gives no result only if it comes to a place that does not fit a word. -/
theorem run_eq_none {operations : List Operation} {cursor : Cursor}
    (h : cursor.run operations = none) :
    ∃ before count rest responses between, operations = before ++ .consume count :: rest ∧
      cursor.run before = some (responses, between) ∧
      maxWord < between.consumed.length + count := by
  induction operations generalizing cursor with
  | nil => contradiction
  | cons operation operations ih =>
      rw [run] at h
      cases hperform : operation.perform cursor with
      | none =>
          obtain ⟨count, rfl, hword⟩ := perform_eq_none hperform
          exact ⟨[], count, operations, [], cursor, rfl, rfl, hword⟩
      | some result =>
          obtain ⟨response, between⟩ := result
          cases hrest : between.run operations with
          | none =>
              obtain ⟨before, count, rest, responses, last, rfl, hbefore, hword⟩ := ih hrest
              exact ⟨operation :: before, count, rest, response :: responses, last, rfl,
                by simp [run, hperform, hbefore], hword⟩
          | some result => simp [hperform, hrest] at h

/-- Operations in a row do to a cursor what they may do to a plain one, whatever its source does and
whichever of them fail. It is at the same place with the same mark, and holds the text from some
place on, which is not behind the mark. -/
theorem run_refines_plain (source : Source) (chunk : Nat) (operations : List Operation) :
    match (ofSource source chunk).run operations with
    | some (responses, cursor) =>
        ∃ plain : Plain, Plain.Run (max chunk 1) operations { source } responses plain ∧
          plain.text ++ Moment.bytes plain.source.script = Moment.bytes source.script ∧
          cursor.Shows (max chunk 1) plain ∧
          cursor.held = plain.text.drop cursor.base ∧
          cursor.base + cursor.consumed.length = cursor.position ∧
          ∀ offset, plain.mark? = some offset → cursor.base ≤ offset ∧ offset ≤ cursor.position
    | none =>
        ∃ before count rest responses cursor, operations = before ++ .consume count :: rest ∧
          (ofSource source chunk).run before = some (responses, cursor) ∧
          maxWord < cursor.consumed.length + count := by
  cases hrun : (ofSource source chunk).run operations with
  | none => exact run_eq_none hrun
  | some result =>
      obtain ⟨responses, cursor⟩ := result
      obtain ⟨plain, hplain, hshows⟩ := (shows_ofSource source chunk).run hrun
      have hconsumed : cursor.base + cursor.consumed.length = cursor.position := by
        have hle := hshows.consumed_le
        rw [base]
        omega
      exact ⟨plain, hplain, hplain.whole_eq, hshows, hshows.held_eq, hconsumed,
        fun offset hmark => hshows.base_le hmark⟩

end Cursor

end Multipart
