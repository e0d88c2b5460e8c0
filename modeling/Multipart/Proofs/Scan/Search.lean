import Multipart.Proofs.Body
import Multipart.Proofs.Cursor.Gather
import Multipart.Proofs.Delimiter.Shifts
import Multipart.Proofs.Scan.Slide

/-! # What a scan finds

A scan stops at the first place where the delimiter stands, and the body is what stands before it.
Otherwise it reads to the end of the stream, or to an error. -/

namespace Multipart

namespace Scan

open Cursor (Reads Gathers)

/-! ## The body -/

def grow (body : Option Body) (piece : List UInt8) : Option Body :=
  body.map (·.extend piece)

theorem grow_append (body : Option Body) (first second : List UInt8) :
    grow body (first ++ second) = grow (grow body first) second := by
  cases body with
  | none => rfl
  | some body => simp [grow, body.extend_append]

def terminate (body : Option Body) (offset : Nat) : EStateM.Result Error (Option Body) Unit :=
  match body with
  | none => .ok () none
  | some body =>
      match body.terminate offset with
      | .error error body => .error error (some body)
      | .ok () body => .ok () (some body)

def Refuses (body : Option Body) (error : Error) : Prop :=
  ∃ kept, body = some kept ∧ error = .bodyTooLong kept.limit ∧ kept.Overflows

theorem emit_eq_ok {body next : Option Body} {piece : List UInt8}
    (h : emit body piece = .ok next) : next = grow body piece := by
  cases body with
  | none =>
      cases h
      rfl
  | some body =>
      simp only [emit] at h
      cases happend : body.append piece with
      | error error => simp [happend] at h
      | ok grown =>
          rw [happend] at h
          cases h
          rw [Body.append_eq_ok happend]
          rfl

theorem emit_eq_error {body : Option Body} {piece : List UInt8} {error : Error}
    (h : emit body piece = .error error) : Refuses (grow body piece) error := by
  cases body with
  | none => cases h
  | some body =>
      simp only [emit] at h
      cases happend : body.append piece with
      | ok grown => simp [happend] at h
      | error refusal =>
          rw [happend] at h
          cases h
          obtain ⟨rfl, hoverflows⟩ := Body.append_eq_error happend
          exact ⟨body.extend piece, rfl, rfl, hoverflows⟩

/-! ## The window -/

/-- Where a window that slides on from a cursor may stop. The bytes `kept` stand before the cursor
and belong to the text that is searched. -/
inductive Slides (delimiter : Delimiter) (cursor : Cursor) (body : Option Body)
    (pending kept : List UInt8) : Halt → Prop
  | matched {front read : List UInt8} {after : Cursor} {last : Option Body} :
      Reads cursor read after → kept ++ read = front ++ delimiter.bytes →
      delimiter.FreeBefore front.length (kept ++ read) →
      terminate (grow body (pending ++ front)) (cursor.position - kept.length + front.length) =
        .ok () last →
      Slides delimiter cursor body pending kept
        ⟨.matched (cursor.position - kept.length + front.length), after, last⟩
  | refused {front read : List UInt8} {after : Cursor} {last : Option Body} {error : Error} :
      Reads cursor read after → kept ++ read = front ++ delimiter.bytes →
      delimiter.FreeBefore front.length (kept ++ read) →
      terminate (grow body (pending ++ front)) (cursor.position - kept.length + front.length) =
        .error error last →
      Slides delimiter cursor body pending kept ⟨.failed error, after, last⟩
  | ended {read : List UInt8} {before after : Cursor} {place : StreamEnd} :
      Reads cursor read before → before.next = .ok none after →
      (∀ offset, ¬delimiter.OccursAt (kept ++ read) offset) →
      Slides delimiter cursor body pending kept
        ⟨.ended place, after, grow body (pending ++ (kept ++ read))⟩
  | overflow {front read : List UInt8} {between after : Cursor} {error : Error}
      {last : Option Body} :
      Reads cursor read between → front <+: kept ++ read →
      delimiter.FreeBefore front.length (kept ++ read) →
      Refuses (grow body (pending ++ front)) error →
      Slides delimiter cursor body pending kept ⟨.failed error, after, last⟩
  | overflowAtEnd {read : List UInt8} {before after : Cursor} {error : Error}
      {last : Option Body} :
      Reads cursor read before → before.next = .ok none after →
      (∀ offset, ¬delimiter.OccursAt (kept ++ read) offset) →
      Refuses (grow body (pending ++ (kept ++ read))) error →
      Slides delimiter cursor body pending kept ⟨.failed error, after, last⟩
  | failure {read : List UInt8} {before after : Cursor} {error : StreamError}
      {last : Option Body} :
      Reads cursor read before → before.next = .error error after →
      Slides delimiter cursor body pending kept ⟨.failed (.stream error), after, last⟩

variable {delimiter : Delimiter} {cursor : Cursor} {body : Option Body}
  {pending kept : List UInt8}

theorem gathers_look (delimiter : Delimiter) (cursor : Cursor) (kept : List UInt8) :
    Gathers cursor (delimiter.length - kept.length) (look delimiter cursor kept) := by
  have hmark : ∀ {bytes : List UInt8} {after : Cursor},
      Reads (cursor.markBack kept.length) bytes after → Reads cursor bytes after :=
    fun hreads => (Cursor.passes_markBack cursor kept.length).trans hreads
  have htake := Cursor.gathers_take (cursor.markBack kept.length) (delimiter.length - kept.length)
  rw [look]
  generalize (cursor.markBack kept.length).take (delimiter.length - kept.length) = result at htake
  cases htake with
  | full hreads hlength => exact .full (hmark hreads) hlength
  | ended hreads hend hlength => exact .ended (hmark hreads) hend hlength
  | failure hreads hend => exact .failure (hmark hreads) hend

/-- What holds of a window that has slid on holds of the one it has slid from. -/
theorem Slides.of_slid {later : Cursor} {read gone left : List UInt8} {halt : Halt}
    (hreads : Reads cursor read later) (hkept : kept.length ≤ cursor.position)
    (hwindow : kept ++ read = gone ++ left)
    (hfree : delimiter.FreeBefore gone.length (kept ++ read))
    (h : Slides delimiter later (grow body pending) gone left halt) :
    Slides delimiter cursor body pending kept halt := by
  have htext : ∀ more, kept ++ (read ++ more) = gone ++ (left ++ more) := by
    intro more
    rw [← List.append_assoc, hwindow, List.append_assoc]
  have hfree : ∀ more, delimiter.FreeBefore gone.length (gone ++ (left ++ more)) := by
    intro more
    rw [← htext, ← List.append_assoc]
    exact hfree.append more
  have hclear : ∀ {front more : List UInt8}, delimiter.FreeBefore front.length (left ++ more) →
      delimiter.FreeBefore (gone ++ front).length (kept ++ (read ++ more)) := by
    intro front more hmore
    rw [htext, List.length_append]
    exact (hfree more).trans hmore
  have hnone : ∀ {more : List UInt8}, (∀ offset, ¬delimiter.OccursAt (left ++ more) offset) →
      ∀ offset, ¬delimiter.OccursAt (kept ++ (read ++ more)) offset := by
    intro more hmore
    rw [htext]
    exact (hfree more).not_occursAt hmore
  have hgrow : ∀ piece, grow (grow body pending) (gone ++ piece) =
      grow body (pending ++ (gone ++ piece)) := fun piece => (grow_append body pending _).symm
  have hlength := congrArg List.length hwindow
  rw [List.length_append, List.length_append] at hlength
  have hposition := hreads.position_eq
  have hoffset : ∀ front : List UInt8, later.position - left.length + front.length =
      cursor.position - kept.length + (gone ++ front).length := by
    intro front
    rw [List.length_append]
    omega
  cases h with
  | @matched front more after last hmore hsplit hnot hlast =>
      rw [hgrow, hoffset] at hlast
      rw [hoffset]
      refine .matched (hreads.trans hmore) ?_ (hclear hnot) hlast
      rw [htext, hsplit, List.append_assoc]
  | @refused front more after last error hmore hsplit hnot hlast =>
      rw [hgrow, hoffset] at hlast
      refine .refused (hreads.trans hmore) ?_ (hclear hnot) hlast
      rw [htext, hsplit, List.append_assoc]
  | ended hmore hend hnot =>
      rw [hgrow, ← htext]
      exact .ended (hreads.trans hmore) hend (hnone hnot)
  | @overflow front more between after error last hmore hprefix hnot hrefuses =>
      rw [hgrow] at hrefuses
      refine .overflow (hreads.trans hmore) ?_ (hclear hnot) hrefuses
      rw [htext]
      exact (List.prefix_append_right_inj gone).mpr hprefix
  | overflowAtEnd hmore hend hnot hrefuses =>
      rw [hgrow, ← htext] at hrefuses
      exact .overflowAtEnd (hreads.trans hmore) hend (hnone hnot) hrefuses
  | failure hmore hend => exact .failure (hreads.trans hmore) hend

theorem slides_haltAtEnd {before after : Cursor} {read : List UInt8}
    (hreads : Reads cursor read before) (hend : before.next = .ok none after)
    (hshort : (kept ++ read).length < delimiter.length) :
    Slides delimiter cursor body pending kept (haltAtEnd after body pending (kept ++ read)) := by
  have hnone : ∀ offset, ¬delimiter.OccursAt (kept ++ read) offset := by
    intro offset hoccurs
    have hle := hoccurs.add_length_le
    omega
  simp only [haltAtEnd]
  cases hpending : emit body pending with
  | error error =>
      have hrefuses := emit_eq_error hpending
      rw [← List.append_nil pending] at hrefuses
      exact .overflow hreads List.nil_prefix (delimiter.freeBefore_zero _) hrefuses
  | ok next =>
      rw [emit_eq_ok hpending]
      simp only
      split
      · rename_i hempty
        have hgrow : grow body pending = grow body (pending ++ (kept ++ read)) := by
          rw [List.isEmpty_iff.mp hempty, List.append_nil]
        rw [hgrow]
        exact .ended hreads hend hnone
      · cases hwindow : emit (grow body pending) (kept ++ read) with
        | error error =>
            have hrefuses := emit_eq_error hwindow
            rw [← grow_append] at hrefuses
            exact .overflowAtEnd hreads hend hnone hrefuses
        | ok last =>
            rw [emit_eq_ok hwindow, ← grow_append]
            exact .ended hreads hend hnone

theorem slides_haltAtMatch {after : Cursor} {read : List UInt8} (hreads : Reads cursor read after)
    (hwindow : kept ++ read = delimiter.bytes) :
    Slides delimiter cursor body pending kept
      (haltAtMatch after body pending (cursor.position - kept.length)) := by
  have hfree := delimiter.freeBefore_zero (kept ++ read)
  cases body with
  | none => exact .matched hreads (hwindow.trans (List.nil_append _).symm) hfree rfl
  | some body =>
      simp only [haltAtMatch]
      cases happend : body.append pending with
      | error error =>
          obtain ⟨rfl, hoverflows⟩ := Body.append_eq_error happend
          refine .overflow hreads List.nil_prefix hfree ⟨body.extend pending, ?_, rfl, hoverflows⟩
          rw [List.append_nil]
          rfl
      | ok grown =>
          rw [Body.append_eq_ok happend]
          simp only
          cases hend : (body.extend pending).terminate (cursor.position - kept.length) with
          | error error last =>
              refine .refused hreads (hwindow.trans (List.nil_append _).symm) hfree ?_
              simp [terminate, grow, hend]
          | ok _ last =>
              refine .matched hreads (hwindow.trans (List.nil_append _).symm) hfree ?_
              simp [terminate, grow, hend]

theorem reads_look_of_failure {error : StreamError}
    (herror : (look delimiter cursor kept).failure = some error) :
    ∃ before, Reads cursor (look delimiter cursor kept).bytes before ∧
      before.next = .error error (look delimiter cursor kept).cursor := by
  have hlook := gathers_look delimiter cursor kept
  generalize look delimiter cursor kept = seen at hlook herror
  cases hlook with
  | full hreads hlength => cases herror
  | ended hreads hend hlength => cases herror
  | failure hreads hend =>
      cases herror
      exact ⟨_, hreads, hend⟩

theorem reads_look_of_short (hnone : (look delimiter cursor kept).failure = none)
    (hshort : (window delimiter cursor kept).length < delimiter.length) :
    ∃ before, Reads cursor (look delimiter cursor kept).bytes before ∧
      before.next = .ok none (look delimiter cursor kept).cursor := by
  have hlook := gathers_look delimiter cursor kept
  rw [window, List.length_append] at hshort
  generalize look delimiter cursor kept = seen at hlook hnone hshort
  cases hlook with
  | full hreads hlength =>
      simp only [hlength] at hshort
      omega
  | ended hreads hend hlength => exact ⟨_, hreads, hend⟩
  | failure hreads hend => cases hnone

theorem reads_look (hnone : (look delimiter cursor kept).failure = none)
    (hfull : ¬(window delimiter cursor kept).length < delimiter.length)
    (hshort : kept.length < delimiter.length) :
    Reads cursor (look delimiter cursor kept).bytes (look delimiter cursor kept).cursor ∧
      (window delimiter cursor kept).length = delimiter.length := by
  have hlook := gathers_look delimiter cursor kept
  rw [window, List.length_append] at hfull ⊢
  generalize look delimiter cursor kept = seen at hlook hnone hfull
  cases hlook with
  | full hreads hlength =>
      refine ⟨hreads, ?_⟩
      simp only [hlength]
      omega
  | ended hreads hend hlength =>
      simp only at hfull
      omega
  | failure hreads hend => cases hnone

theorem slides_slide (delimiter : Delimiter) (cursor : Cursor) (body : Option Body)
    (pending kept : List UInt8) (hshort : kept.length < delimiter.length)
    (hkept : kept.length ≤ cursor.position) :
    Slides delimiter cursor body pending kept (slide delimiter cursor body pending kept) := by
  induction cursor, body, pending, kept using slide_induction delimiter with
  | failure cursor body pending kept error herror =>
      obtain ⟨before, hreads, hend⟩ := reads_look_of_failure herror
      rw [slide_of_failure herror]
      exact .failure hreads hend
  | short cursor body pending kept hnone hfew =>
      obtain ⟨before, hreads, hend⟩ := reads_look_of_short hnone hfew
      rw [slide_of_short hnone hfew]
      exact slides_haltAtEnd hreads hend hfew
  | found cursor body pending kept hnone hfull hmatch =>
      obtain ⟨hreads, hlength⟩ := reads_look hnone hfull hshort
      rw [slide_of_match hnone hfull hmatch]
      exact slides_haltAtMatch hreads (Delimiter.eq_bytes_of_mismatch_none hlength hmatch)
  | refused cursor body pending kept index error hnone hfull hindex hbody =>
      obtain ⟨hreads, -⟩ := reads_look hnone hfull hshort
      have hrefuses := emit_eq_error hbody
      rw [slide_of_refused hnone hfull hindex hbody]
      rw [← List.append_nil pending] at hrefuses
      exact .overflow hreads List.nil_prefix (delimiter.freeBefore_zero _) hrefuses
  | slid cursor body pending kept index next hnone hfull hindex hbody ih =>
      obtain ⟨hreads, hlength⟩ := reads_look hnone hfull hshort
      have hfree := Delimiter.freeBefore_of_mismatch hlength hindex
      have hpos := delimiter.shift_pos index ((window delimiter cursor kept).getD index 0)
      have hread : (window delimiter cursor kept).length =
          kept.length + (look delimiter cursor kept).bytes.length := List.length_append
      have hposition := hreads.position_eq
      rw [slide_of_mismatch hnone hfull hindex hbody, emit_eq_ok hbody]
      rw [emit_eq_ok hbody] at ih
      refine .of_slid hreads hkept (List.take_append_drop _ _).symm hfree (ih ?_ ?_)
      · rw [List.length_drop]
        omega
      · rw [List.length_drop, hposition]
        omega

theorem slides_seek (delimiter : Delimiter) (cursor : Cursor) (body : Option Body) :
    Slides delimiter cursor body [] [] (seek delimiter cursor body) :=
  slides_slide delimiter cursor body [] [] (Nat.succ_pos _) (Nat.zero_le _)

/-! ## The scan -/

/-- A scan that finds a delimiter finds the first one, and has read its line. -/
theorem find_found {kind : DelimiterKind}
    (h : (find delimiter cursor body).outcome = .ok (.found kind)) :
    ∃ front between after, Reads cursor (front ++ delimiter.bytes) between ∧
      delimiter.FreeBefore front.length (front ++ delimiter.bytes) ∧
      terminate (grow body front) (cursor.position + front.length) =
        .ok () (find delimiter cursor body).body ∧
      delimiterLine between = .ok kind after ∧
      (find delimiter cursor body).cursor = after.clearMark := by
  have hslides := slides_seek delimiter cursor body
  simp only [find] at h ⊢
  generalize seek delimiter cursor body = halt at hslides h ⊢
  cases hslides with
  | @matched front read after last hreads hsplit hfree hlast =>
      simp only [List.nil_append, List.length_nil, Nat.sub_zero] at hsplit hfree hlast
      subst hsplit
      simp only at h ⊢
      cases hline : delimiterLine after with
      | error error failed => simp [hline] at h
      | ok found rest =>
          simp only [hline, Except.ok.injEq, Outcome.found.injEq] at h ⊢
          subst h
          exact ⟨front, after, rest, hreads, hfree, hlast, hline, rfl⟩
  | refused _ _ _ _ => simp at h
  | ended _ _ _ => simp at h
  | overflow _ _ _ _ => simp at h
  | overflowAtEnd _ _ _ _ => simp at h
  | failure _ _ => simp at h

/-- A scan that ends with the stream has met no delimiter. -/
theorem find_ended {place : StreamEnd}
    (h : (find delimiter cursor body).outcome = .ok (.ended place)) :
    ∃ read before after, Reads cursor read before ∧ before.next = .ok none after ∧
      (∀ offset, ¬delimiter.OccursAt read offset) ∧
      (find delimiter cursor body).body = grow body read ∧
      (find delimiter cursor body).cursor = after.clearMark := by
  have hslides := slides_seek delimiter cursor body
  simp only [find] at h ⊢
  generalize seek delimiter cursor body = halt at hslides h ⊢
  cases hslides with
  | @matched front read after last hreads hsplit hfree hlast =>
      simp only at h
      cases hline : delimiterLine after <;> simp [hline] at h
  | refused _ _ _ _ => simp at h
  | @ended read before after place hreads hend hnone =>
      exact ⟨read, before, after, hreads, hend, hnone, rfl, rfl⟩
  | overflow _ _ _ _ => simp at h
  | overflowAtEnd _ _ _ _ => simp at h
  | failure _ _ => simp at h

end Scan

end Multipart
