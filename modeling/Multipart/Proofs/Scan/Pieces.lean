import Multipart.Proofs.Scan.Faultless

/-! # The pieces of a body

A scan adds the bytes before the delimiter to the body piece by piece, as they leave the window.
Each piece is checked against the room that is left. Since the pieces are added up to the first that
does not fit, it makes no difference where they are cut. -/

namespace Multipart

/-! ## Adding pieces -/

namespace Body

/-- The most bytes that a body may have before its line end is taken off. -/
def capacity (limit : Nat) : Nat :=
  addCapped limit 2

/-- Adds one piece after another, up to the first that is refused. -/
def appendAll (body : Body) : List (List UInt8) → EStateM.Result Error Body Unit
  | [] => .ok () body
  | piece :: pieces =>
      match body.append piece with
      | .error error => .error error body
      | .ok next => next.appendAll pieces

/-- What a body is before any piece is added, and after each of those that are. -/
def stages (body : Body) : List (List UInt8) → List Body
  | [] => [body]
  | piece :: pieces =>
      match body.append piece with
      | .error _ => [body]
      | .ok next => body :: next.stages pieces

variable {body : Body} {pieces : List (List UInt8)}

theorem append_eq (h : body.size ≤ capacity body.limit) (piece : List UInt8) :
    body.append piece =
      if capacity body.limit < body.size + piece.length then .error (.bodyTooLong body.limit)
      else .ok (body.extend piece) := by
  rw [append, extend]
  cases piece with
  | nil =>
      have hroom : ¬capacity body.limit < body.size + ([] : List UInt8).length :=
        Nat.not_lt_of_le h
      rw [if_neg (by simp), if_neg hroom]
  | cons value piece => simp [capacity]

/-- However the pieces are cut, they are refused together if there are too many bytes in them. -/
theorem appendAll_eq (h : body.size ≤ capacity body.limit) (pieces : List (List UInt8)) :
    if capacity body.limit < body.size + pieces.flatten.length then
      ∃ last, body.appendAll pieces = .error (.bodyTooLong body.limit) last
    else body.appendAll pieces = .ok () (body.extend pieces.flatten) := by
  induction pieces generalizing body with
  | nil => simpa [appendAll] using h
  | cons piece pieces ih =>
      have hlength : (piece :: pieces).flatten.length = piece.length + pieces.flatten.length := by
        simp
      rw [appendAll, append_eq h, hlength]
      by_cases hlong : capacity body.limit < body.size + piece.length
      · rw [if_pos hlong, if_pos (by omega)]
        exact ⟨body, rfl⟩
      · rw [if_neg hlong]
        have hrest := ih (Nat.le_of_not_lt hlong : (body.extend piece).size ≤ _)
        rwa [size_extend, limit_extend, Nat.add_assoc, ← extend_append] at hrest

theorem size_empty_le (limit : Nat) : (empty limit).size ≤ capacity (empty limit).limit :=
  Nat.zero_le _

theorem appendAll_empty (limit : Nat) (pieces : List (List UInt8)) :
    if capacity limit < pieces.flatten.length then
      ∃ last, (empty limit).appendAll pieces = .error (.bodyTooLong limit) last
    else (empty limit).appendAll pieces = .ok () ((empty limit).extend pieces.flatten) := by
  have hall := appendAll_eq (size_empty_le limit) pieces
  rwa [size_empty, limit_empty, Nat.zero_add] at hall

/-- A body never has more bytes than fit. -/
theorem size_le_of_mem_stages (h : body.size ≤ capacity body.limit)
    (pieces : List (List UInt8)) :
    ∀ stage ∈ body.stages pieces, stage.size ≤ capacity body.limit := by
  induction pieces generalizing body with
  | nil => simpa [stages] using h
  | cons piece pieces ih =>
      rw [stages, append_eq h]
      by_cases hlong : capacity body.limit < body.size + piece.length
      · simpa [if_pos hlong] using h
      · have hrest := ih (Nat.le_of_not_lt hlong : (body.extend piece).size ≤ _)
        simpa [if_neg hlong] using And.intro h hrest

/-- Ending a body takes bytes off its end, if anything. -/
theorem state_terminate_prefix (body : Body) (offset : Nat) :
    (Result.state (body.terminate offset)).bytes <+: body.bytes := by
  have hless := withoutLineEnd_prefix body.bytes
  rw [terminate_eq]
  repeat' split
  · simpa using hless
  · simpa using hless
  · exact List.prefix_refl _

theorem size_terminate_le (body : Body) (offset : Nat) :
    (Result.state (body.terminate offset)).size ≤ body.size := by
  rw [size_eq_length, size_eq_length]
  exact (body.state_terminate_prefix offset).length_le

theorem state_appendAll_mem (body : Body) (pieces : List (List UInt8)) :
    Result.state (body.appendAll pieces) ∈ body.stages pieces := by
  induction pieces generalizing body with
  | nil => exact List.mem_singleton_self body
  | cons piece pieces ih =>
      rw [appendAll, stages]
      cases body.append piece with
      | error error => exact List.mem_singleton_self body
      | ok next => exact List.mem_cons_of_mem body (ih next)

end Body

/-! ## Cutting the pieces -/

namespace Scan

variable {delimiter : Delimiter} {cursor : Cursor} {body : Body} {pending kept : List UInt8}

/-- From one window to the next less is outstanding. -/
theorem outstanding_slid (hfull : ¬(window delimiter cursor kept).length < delimiter.length)
    (index : Nat) (value : UInt8) :
    (look delimiter cursor kept).cursor.outstanding +
        ((window delimiter cursor kept).drop (delimiter.shift index value)).length <
      cursor.outstanding + kept.length := by
  have hread : (look delimiter cursor kept).bytes.length +
      (look delimiter cursor kept).cursor.outstanding ≤ cursor.outstanding :=
    outstanding_window delimiter cursor kept
  have hpos := delimiter.shift_pos index value
  have hlength : 0 < delimiter.length := Nat.succ_pos _
  rw [window, List.length_append] at hfull
  rw [window, List.length_drop, List.length_append]
  omega

/-- The pieces that a window which slides on adds to the body, in order. A piece is added once the
next window is read, so there is none where reading fails. -/
def pieces (delimiter : Delimiter) (cursor : Cursor) (pending kept : List UInt8) :
    List (List UInt8) :=
  match (look delimiter cursor kept).failure with
  | some _ => []
  | none =>
      if _hshort : (window delimiter cursor kept).length < delimiter.length then
        [pending, window delimiter cursor kept]
      else
        match delimiter.mismatch (window delimiter cursor kept) with
        | none => [pending]
        | some index =>
            let shift := delimiter.shift index ((window delimiter cursor kept).getD index 0)
            pending :: pieces delimiter (look delimiter cursor kept).cursor
              ((window delimiter cursor kept).take shift)
              ((window delimiter cursor kept).drop shift)
termination_by cursor.outstanding + kept.length
decreasing_by exact outstanding_slid _hshort _ _

/-- What becomes of a body where a window stops that has none: at a delimiter it is ended. -/
def Halt.close (halt : Halt) (body : Body) : Halt :=
  match halt.stop with
  | .matched offset =>
      match body.terminate offset with
      | .error error body => ⟨.failed error, halt.cursor, some body⟩
      | .ok () body => ⟨.matched offset, halt.cursor, some body⟩
  | .ended _ | .failed _ => { halt with body := some body }

/-- A window with a body does what a window without one does, and adds its pieces to the body. It
stops early at the first piece that is refused. -/
inductive Adds (plain : Halt) (pieces : List (List UInt8)) (body : Body) : Halt → Prop
  | refused {error : Error} {last : Body} {after : Cursor} :
      body.appendAll pieces = .error error last →
      Adds plain pieces body ⟨.failed error, after, some last⟩
  | added {last : Body} : body.appendAll pieces = .ok () last →
      Adds plain pieces body (plain.close last)

theorem Adds.cons {plain halt : Halt} {pieces : List (List UInt8)} {piece : List UInt8}
    {next : Body} (happend : body.append piece = .ok next) (h : Adds plain pieces next halt) :
    Adds plain (piece :: pieces) body halt := by
  have happendAll : body.appendAll (piece :: pieces) = next.appendAll pieces := by
    rw [Body.appendAll, happend]
  cases h with
  | refused hrest => exact .refused (happendAll.trans hrest)
  | added hrest => exact .added (happendAll.trans hrest)

theorem adds_of_refused {plain : Halt} {pieces : List (List UInt8)} {piece : List UInt8}
    {error : Error} {after : Cursor} (happend : body.append piece = .error error) :
    Adds plain (piece :: pieces) body ⟨.failed error, after, some body⟩ := by
  apply Adds.refused
  rw [Body.appendAll, happend]

theorem adds_haltAtEnd (cursor : Cursor) (body : Body) (pending window : List UInt8) :
    Adds (haltAtEnd cursor none pending window) [pending, window] body
      (haltAtEnd cursor (some body) pending window) := by
  simp only [haltAtEnd, emit]
  cases hpending : body.append pending with
  | error error => exact adds_of_refused hpending
  | ok next =>
      refine .cons hpending ?_
      simp only
      split
      · rename_i hempty
        have hnil : next.appendAll [window] = .ok () next := by
          rw [List.isEmpty_iff.mp hempty]
          rfl
        exact .added hnil
      · cases hwindow : next.append window with
        | error error => exact adds_of_refused hwindow
        | ok last => exact .cons hwindow (.added rfl)

theorem adds_haltAtMatch (cursor : Cursor) (body : Body) (pending : List UInt8) (offset : Nat) :
    Adds (haltAtMatch cursor none pending offset) [pending] body
      (haltAtMatch cursor (some body) pending offset) := by
  simp only [haltAtMatch]
  cases hpending : body.append pending with
  | error error => exact adds_of_refused hpending
  | ok next => exact .cons hpending (.added rfl)

variable {index : Nat}

theorem pieces_of_failure {error : StreamError}
    (h : (look delimiter cursor kept).failure = some error) :
    pieces delimiter cursor pending kept = [] := by
  rw [pieces]
  split
  · rfl
  · simp_all

theorem pieces_of_short (h : (look delimiter cursor kept).failure = none)
    (hshort : (window delimiter cursor kept).length < delimiter.length) :
    pieces delimiter cursor pending kept = [pending, window delimiter cursor kept] := by
  rw [pieces]
  split
  · simp_all
  · rw [dif_pos hshort]

theorem pieces_of_match (h : (look delimiter cursor kept).failure = none)
    (hfull : ¬(window delimiter cursor kept).length < delimiter.length)
    (hmatch : delimiter.mismatch (window delimiter cursor kept) = none) :
    pieces delimiter cursor pending kept = [pending] := by
  rw [pieces]
  split
  · simp_all
  · rw [dif_neg hfull, hmatch]

theorem pieces_of_mismatch (h : (look delimiter cursor kept).failure = none)
    (hfull : ¬(window delimiter cursor kept).length < delimiter.length)
    (hindex : delimiter.mismatch (window delimiter cursor kept) = some index) :
    pieces delimiter cursor pending kept =
      pending :: pieces delimiter (look delimiter cursor kept).cursor
        ((window delimiter cursor kept).take
          (delimiter.shift index ((window delimiter cursor kept).getD index 0)))
        ((window delimiter cursor kept).drop
          (delimiter.shift index ((window delimiter cursor kept).getD index 0))) := by
  rw [pieces]
  split
  · simp_all
  · rw [dif_neg hfull, hindex]

/-- A window with a body adds the pieces that a window without one cuts. -/
theorem adds_slide (delimiter : Delimiter) (cursor : Cursor) (body : Body)
    (pending kept : List UInt8) :
    Adds (slide delimiter cursor none pending kept) (pieces delimiter cursor pending kept) body
      (slide delimiter cursor (some body) pending kept) := by
  generalize hkeeps : some body = keeps
  induction cursor, keeps, pending, kept using slide_induction delimiter generalizing body with
  | failure cursor _ pending kept error herror =>
      subst hkeeps
      rw [slide_of_failure herror, slide_of_failure herror, pieces_of_failure herror]
      exact .added rfl
  | short cursor _ pending kept hnone hshort =>
      subst hkeeps
      rw [slide_of_short hnone hshort, slide_of_short hnone hshort, pieces_of_short hnone hshort]
      exact adds_haltAtEnd _ body pending _
  | found cursor _ pending kept hnone hfull hmatch =>
      subst hkeeps
      rw [slide_of_match hnone hfull hmatch, slide_of_match hnone hfull hmatch,
        pieces_of_match hnone hfull hmatch]
      exact adds_haltAtMatch _ body pending _
  | refused cursor _ pending kept index error hnone hfull hindex hrefused =>
      subst hkeeps
      rw [slide_of_refused hnone hfull hindex hrefused, pieces_of_mismatch hnone hfull hindex]
      simp only [emit] at hrefused
      cases happend : body.append pending with
      | error refusal =>
          rw [happend] at hrefused
          cases hrefused
          exact adds_of_refused happend
      | ok next => simp [happend] at hrefused
  | slid cursor _ pending kept index next hnone hfull hindex hemitted ih =>
      subst hkeeps
      rw [slide_of_mismatch hnone hfull hindex rfl, slide_of_mismatch hnone hfull hindex hemitted,
        pieces_of_mismatch hnone hfull hindex]
      simp only [emit] at hemitted
      cases happend : body.append pending with
      | error refusal => simp [happend] at hemitted
      | ok grown =>
          rw [happend] at hemitted
          cases hemitted
          exact .cons happend (ih grown rfl)

/-! ## How much of a body there is -/

/-- Whatever a body is at some moment of a scan: before and after each piece, and in the end. -/
def moments (delimiter : Delimiter) (cursor : Cursor) (body : Body) : List Body :=
  body.stages (pieces delimiter cursor [] []) ++ (seek delimiter cursor (some body)).body.toList

theorem exists_body_close (halt : Halt) (body : Body) :
    ∃ last, (halt.close body).body = some last ∧ last.size ≤ body.size := by
  rw [Halt.close]
  cases halt.stop with
  | ended place => exact ⟨body, rfl, Nat.le_refl _⟩
  | failed error => exact ⟨body, rfl, Nat.le_refl _⟩
  | matched offset =>
      have hless := body.size_terminate_le offset
      simp only
      cases hend : body.terminate offset with
      | error error last =>
          rw [hend] at hless
          exact ⟨last, rfl, hless⟩
      | ok _ last =>
          rw [hend] at hless
          exact ⟨last, rfl, hless⟩

/-- Whatever the stream does, a body never has more bytes than fit. -/
theorem size_le_of_mem_moments (h : body.size ≤ Body.capacity body.limit) :
    ∀ moment ∈ moments delimiter cursor body, moment.size ≤ Body.capacity body.limit := by
  have hstages := Body.size_le_of_mem_stages h (pieces delimiter cursor [] [])
  have hlast := body.state_appendAll_mem (pieces delimiter cursor [] [])
  have hadds := adds_slide delimiter cursor body [] []
  intro moment hmem
  rcases List.mem_append.mp hmem with hmem | hmem
  · exact hstages moment hmem
  · rw [Option.mem_toList, seek] at hmem
    generalize slide delimiter cursor (some body) [] [] = halt at hadds hmem
    cases hadds with
    | refused hrefused =>
        rw [hrefused] at hlast
        cases hmem
        exact hstages _ hlast
    | @added last hadded =>
        obtain ⟨closed, hclosed, hless⟩ :=
          exists_body_close (slide delimiter cursor none [] []) last
        rw [hadded] at hlast
        rw [hclosed] at hmem
        cases hmem
        exact Nat.le_trans hless (hstages _ hlast)

/-! ## On a stream without faults -/

theorem failure_look {offset : Nat} {text : List UInt8} (h : cursor.Faces offset text)
    (delimiter : Delimiter) (kept : List UInt8) : (look delimiter cursor kept).failure = none := by
  apply Option.eq_none_iff_forall_ne_some.mpr
  intro error herror
  obtain ⟨before, hreads, hend⟩ := reads_look_of_failure herror
  obtain ⟨_, _, hbefore⟩ := h.reads hreads
  exact hbefore.next_ne_error _ hend

/-- On a stream without faults a window that is too short holds the rest of the text. -/
theorem window_of_short {offset : Nat} {text : List UInt8} (h : cursor.Faces offset text)
    (hshort : (window delimiter cursor kept).length < delimiter.length) :
    window delimiter cursor kept = kept ++ text := by
  obtain ⟨before, hreads, hend⟩ := reads_look_of_short (failure_look h delimiter kept) hshort
  obtain ⟨rest, htext, hbefore⟩ := h.reads hreads
  rw [hbefore.eq_nil_of_next_none hend, List.append_nil] at htext
  rw [window, htext]

/-- On a stream without faults the pieces make up the text before the first delimiter. -/
theorem flatten_pieces {offset : Nat} {text : List UInt8} (h : cursor.Faces offset text)
    (pending : List UInt8) (hkept : kept.length < delimiter.length) :
    (pieces delimiter cursor pending kept).flatten =
      pending ++ delimiter.textBefore (kept ++ text) := by
  -- the pieces do not depend on the body, so it is left out
  generalize hbody : (none : Option Body) = body
  induction cursor, body, pending, kept using slide_induction delimiter
    generalizing offset text with
  | failure cursor _ pending kept error herror =>
      rw [failure_look h] at herror
      cases herror
  | short cursor _ pending kept hnone hshort =>
      have hwindow := window_of_short h hshort
      have hbefore := Delimiter.textBefore_of_none (Delimiter.firstIn_of_short hshort)
      rw [pieces_of_short hnone hshort, ← hwindow, hbefore]
      simp
  | found cursor _ pending kept hnone hfull hmatch =>
      obtain ⟨hreads, hlength⟩ := reads_look hnone hfull hkept
      obtain ⟨rest, htext, -⟩ := h.reads hreads
      have hwindow := Delimiter.eq_bytes_of_mismatch_none hlength hmatch
      have hfirst : delimiter.firstIn (kept ++ text) = some 0 := by
        rw [htext, ← List.append_assoc]
        change delimiter.firstIn (window delimiter cursor kept ++ rest) = some 0
        rw [hwindow, Delimiter.firstIn_eq_some_iff]
        exact ⟨List.prefix_append _ _, fun offset hlt => absurd hlt offset.not_lt_zero⟩
      rw [pieces_of_match hnone hfull hmatch, Delimiter.textBefore_of_some hfirst]
      simp
  | refused cursor _ pending kept index error hnone hfull hindex hrefused =>
      subst hbody
      cases hrefused
  | slid cursor _ pending kept index next hnone hfull hindex hemitted ih =>
      subst hbody
      cases hemitted
      obtain ⟨hreads, hlength⟩ := reads_look hnone hfull hkept
      obtain ⟨rest, htext, hafter⟩ := h.reads hreads
      have hpos := delimiter.shift_pos index ((window delimiter cursor kept).getD index 0)
      have hfree := Delimiter.freeBefore_of_mismatch hlength hindex
      rw [pieces_of_mismatch hnone hfull hindex]
      generalize delimiter.shift index ((window delimiter cursor kept).getD index 0) = shift at *
      have hsplit : kept ++ text = (window delimiter cursor kept).take shift ++
          ((window delimiter cursor kept).drop shift ++ rest) := by
        rw [← List.append_assoc, List.take_append_drop, window, List.append_assoc, ← htext]
      have hnot : ∀ offset < ((window delimiter cursor kept).take shift).length,
          ¬delimiter.OccursAt ((window delimiter cursor kept).take shift ++
            ((window delimiter cursor kept).drop shift ++ rest)) offset := by
        intro offset hlt
        rw [← List.append_assoc, List.take_append_drop]
        exact hfree offset hlt rest
      have hfewer : ((window delimiter cursor kept).drop shift).length < delimiter.length := by
        rw [List.length_drop]
        omega
      rw [List.flatten_cons, ih hafter hfewer rfl, hsplit, Delimiter.textBefore_append hnot]

section seek

variable {offset limit index : Nat} {text : List UInt8}

theorem flatten_pieces_seek (h : cursor.Faces offset text) :
    (pieces delimiter cursor [] []).flatten = delimiter.textBefore text :=
  flatten_pieces h [] (Nat.succ_pos _)

/-- A body for which there is no room is refused, wherever the delimiter is. -/
theorem seek_of_long (h : cursor.Faces offset text)
    (hlong : Body.capacity limit < (delimiter.textBefore text).length) :
    ∃ after last, seek delimiter cursor (some (.empty limit)) =
      ⟨.failed (.bodyTooLong limit), after, some last⟩ := by
  have hadds := adds_slide delimiter cursor (.empty limit) [] []
  have hall := Body.appendAll_empty limit (pieces delimiter cursor [] [])
  rw [flatten_pieces_seek h, if_pos hlong] at hall
  obtain ⟨last, hall⟩ := hall
  rw [seek]
  generalize slide delimiter cursor (some (.empty limit)) [] [] = halt at hadds
  cases hadds with
  | @refused error other after hrefused =>
      rw [hall] at hrefused
      cases hrefused
      exact ⟨after, last, rfl⟩
  | added hadded =>
      rw [hall] at hadded
      cases hadded

/-- A body for which there is room is ended where a scan without a body ends. -/
theorem seek_of_fits (h : cursor.Faces offset text)
    (hfits : (delimiter.textBefore text).length ≤ Body.capacity limit) :
    seek delimiter cursor (some (.empty limit)) =
      (seek delimiter cursor none).close
        ((Body.empty limit).extend (delimiter.textBefore text)) := by
  have hadds := adds_slide delimiter cursor (.empty limit) [] []
  have hall := Body.appendAll_empty limit (pieces delimiter cursor [] [])
  rw [flatten_pieces_seek h, if_neg (Nat.not_lt_of_le hfits)] at hall
  rw [seek, seek]
  generalize slide delimiter cursor (some (.empty limit)) [] [] = halt at hadds
  cases hadds with
  | refused hrefused =>
      rw [hall] at hrefused
      cases hrefused
  | added hadded =>
      rw [hall] at hadded
      cases hadded
      rfl

/-- At the delimiter a body for which there was room is ended: it needs a line end, and what stands
before that must not exceed the limit. -/
theorem seek_of_found (h : cursor.Faces offset text)
    (hfits : (delimiter.textBefore text).length ≤ Body.capacity limit)
    (hindex : delimiter.firstIn text = some index) :
    ∃ after, after.Faces (offset + (index + delimiter.length))
        (text.drop (index + delimiter.length)) ∧
      seek delimiter cursor (some (.empty limit)) =
        if Body.EndsLine (delimiter.textBefore text) then
          if limit < (Body.withoutLineEnd (delimiter.textBefore text)).length then
            ⟨.failed (.bodyTooLong limit), after,
              some ((Body.empty limit).extend (Body.withoutLineEnd (delimiter.textBefore text)))⟩
          else
            ⟨.matched (offset + index), after,
              some ((Body.empty limit).extend (Body.withoutLineEnd (delimiter.textBefore text)))⟩
        else
          ⟨.failed (.delimiterInsideLine (offset + index)), after,
            some ((Body.empty limit).extend (delimiter.textBefore text))⟩ := by
  obtain ⟨after, hafter, hplain⟩ := seek_none_of_firstIn h hindex
  refine ⟨after, hafter, ?_⟩
  rw [seek_of_fits h hfits, hplain]
  simp only [Halt.close, Body.terminate_eq, Body.bytes_extend, Body.bytes_empty, List.nil_append,
    Body.limit_extend, Body.limit_empty]
  by_cases hends : Body.EndsLine (delimiter.textBefore text)
  · rw [if_pos hends, if_pos hends]
    by_cases hlong : limit < (Body.withoutLineEnd (delimiter.textBefore text)).length
    · rw [if_pos hlong, if_pos hlong]
    · rw [if_neg hlong, if_neg hlong]
  · rw [if_neg hends, if_neg hends]

/-- At the end of the stream a body for which there was room is all of the text. -/
theorem seek_of_ended (h : cursor.Faces offset text)
    (hfits : (delimiter.textBefore text).length ≤ Body.capacity limit)
    (hnone : delimiter.firstIn text = none) :
    ∃ place after, after.Faces (offset + text.length) [] ∧
      seek delimiter cursor (some (.empty limit)) =
        ⟨.ended place, after, some ((Body.empty limit).extend text)⟩ := by
  obtain ⟨place, after, hafter, hplain⟩ :=
    @seek_of_absent _ _ _ _ none h (Delimiter.firstIn_eq_none_iff.mp hnone) nofun
  refine ⟨place, after, hafter, ?_⟩
  rw [seek_of_fits h hfits, hplain, Delimiter.textBefore_of_none hnone]
  rfl

end seek

end Scan

end Multipart
