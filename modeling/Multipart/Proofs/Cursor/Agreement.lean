import Multipart.Proofs.Cursor.Offer

/-! # Streams that agree up to an offset

Two streams that do the same until they have delivered so many bytes are read alike up to there,
whatever they do afterwards. -/

namespace Multipart

open Result (Related)

namespace Moment

/-- A script up to and including its byte `count`. -/
def before : Nat → List Moment → List Moment
  | 0, _ => []
  | _ + 1, [] => []
  | count + 1, byte value :: rest => byte value :: before count rest
  | count + 1, pause :: rest => pause :: before (count + 1) rest
  | count + 1, failure error :: rest => failure error :: before (count + 1) rest

variable {count : Nat} {first second : List Moment}

theorem before_cons (count : Nat) (moment : Moment) (rest : List Moment) :
    before (count + 1) (moment :: rest) =
      moment :: before (count + 1 - (bytes [moment]).length) rest := by
  cases moment <;> rfl

/-- Scripts that agree do the same next, and agree after it. -/
theorem take_one_of_before_eq (h : before (count + 1) first = before (count + 1) second) :
    first.take 1 = second.take 1 ∧
      before (count + 1 - (bytes (first.take 1)).length) (first.drop 1) =
        before (count + 1 - (bytes (first.take 1)).length) (second.drop 1) := by
  cases first with
  | nil =>
      cases second with
      | nil => exact ⟨rfl, rfl⟩
      | cons moment rest =>
          rw [before_cons] at h
          cases h
  | cons moment rest =>
      cases second with
      | nil =>
          rw [before_cons] at h
          cases h
      | cons other later =>
          rw [before_cons, before_cons, List.cons.injEq] at h
          obtain ⟨rfl, hrest⟩ := h
          exact ⟨rfl, hrest⟩

theorem answer_serve_of_take_one_eq (h : first.take 1 = second.take 1) :
    Result.answer (serve first) = Result.answer (serve second) := by
  cases first with
  | nil =>
      cases second with
      | nil => rfl
      | cons other later => cases h
  | cons moment rest =>
      cases second with
      | nil => cases h
      | cons other later =>
          obtain rfl : moment = other := (List.cons.inj h).1
          cases moment <;> rfl

/-- What follows some bytes in one of two scripts that agree follows them in the other. -/
theorem before_eq_append {values : List UInt8} (hle : values.length ≤ count)
    (h : before count (values.map byte ++ first) = before count second) :
    ∃ later, second = values.map byte ++ later ∧
      before (count - values.length) first = before (count - values.length) later := by
  induction values generalizing count second with
  | nil => exact ⟨second, rfl, h⟩
  | cons value values ih =>
      rw [List.length_cons] at hle
      obtain ⟨count, rfl⟩ : ∃ rest, count = rest + 1 := ⟨count - 1, by omega⟩
      obtain ⟨hhead, htail⟩ := take_one_of_before_eq h
      cases second with
      | nil => cases hhead
      | cons moment rest =>
          obtain rfl : byte value = moment := (List.cons.inj hhead).1
          obtain ⟨later, hrest, hlater⟩ := ih (Nat.le_of_succ_le_succ hle) htail
          refine ⟨later, congrArg (byte value :: ·) hrest, ?_⟩
          rw [List.length_cons, Nat.succ_sub_succ]
          exact hlater

end Moment

namespace Cursor

/-- Two cursors stand at the same place of streams that agree before the offset `stop`, where the
second one hands out a byte whenever it is asked for one. It has pulled `base` more bytes than it
has consumed and holds ahead. -/
structure Agree (base stop : Nat) (a b : Cursor) : Prop where
  position_eq : a.position = b.position
  before_eq : Moment.before (stop - a.position) a.upcoming =
    Moment.before (stop - a.position) b.upcoming
  pulled_eq : b.source.pulled = base + b.position + b.ahead.length
  portion_ne : ∀ offset < stop, b.source.portion (base + offset) ≠ some 0

/-- A cursor has come to an offset, or its stream hands out nothing more. -/
def Lapsed (stop : Nat) (cursor : Cursor) : Prop :=
  stop ≤ cursor.position ∨ ∃ offset, cursor.Dry offset

variable {base stop : Nat} {a b after other : Cursor}

theorem kept_lapsed (stop : Nat) : Kept (Lapsed stop) where
  next := by
    intro cursor h
    rcases h with hle | ⟨offset, hdry⟩
    · obtain ⟨passed, hpasses⟩ := passes_next cursor
      have hposition := hpasses.position_eq
      exact .inl (by omega)
    · exact .inr ⟨offset, (kept_dry offset).next hdry⟩
  markBack := fun h distance => h.imp id fun ⟨offset, hdry⟩ =>
    ⟨offset, (kept_dry offset).markBack hdry distance⟩
  clearMark := fun h => h.imp id fun ⟨offset, hdry⟩ => ⟨offset, (kept_dry offset).clearMark hdry⟩

/-- Cursors that agree do so after the same moments. -/
theorem Agree.passes {passed : List Moment} (h : Agree base stop a b) (ha : Passes a passed after)
    (hb : Passes b passed other)
    (hbefore : Moment.before (stop - after.position) after.upcoming =
      Moment.before (stop - after.position) other.upcoming) : Agree base stop after other := by
  refine ⟨?_, hbefore, hb.balance h.pulled_eq, ?_⟩
  · rw [ha.position_eq, hb.position_eq, h.position_eq]
  · intro offset hlt
    rw [hb.portion_eq]
    exact h.portion_ne offset hlt

theorem Agree.next (h : Agree base stop a b) (hlapsed : ¬Lapsed stop (Result.state a.next)) :
    Related (Agree base stop) a.next b.next := by
  have hlapsed : ¬Lapsed stop a := fun ha => hlapsed ((kept_lapsed stop).next ha)
  have hlt : a.position < stop := Nat.lt_of_not_le fun hle => hlapsed (.inl hle)
  have ha : a.ahead = [] → a.source.portion a.source.pulled ≠ some 0 :=
    fun hahead hportion => hlapsed (.inr ⟨a.position, hahead, hportion, rfl⟩)
  have hb : b.ahead = [] → b.source.portion b.source.pulled ≠ some 0 := by
    intro hahead
    rw [h.pulled_eq, hahead, ← h.position_eq]
    exact h.portion_ne a.position hlt
  obtain ⟨hanswer, -, hpasses⟩ := next_eq_serve_of_portion ha
  obtain ⟨hanswer', -, hpasses'⟩ := next_eq_serve_of_portion hb
  obtain ⟨count, hcount⟩ : ∃ count, stop - a.position = count + 1 :=
    ⟨stop - a.position - 1, by omega⟩
  have hbefore := h.before_eq
  rw [hcount] at hbefore
  obtain ⟨hhead, htail⟩ := Moment.take_one_of_before_eq hbefore
  have hrest : ∀ {cursor after : Cursor}, Passes cursor (cursor.upcoming.take 1) after →
      after.upcoming = cursor.upcoming.drop 1 := by
    intro cursor after hserved
    have hsplit := (List.take_append_drop 1 cursor.upcoming).trans hserved.upcoming_eq
    exact (List.append_cancel_left hsplit).symm
  have hleft : stop - (Result.state a.next).position =
      count + 1 - (Moment.bytes (a.upcoming.take 1)).length := by
    rw [← hcount, hpasses.position_eq, Nat.sub_add_eq]
  refine Result.related_iff.mpr ⟨?_, h.passes hpasses (hhead ▸ hpasses') ?_⟩
  · rw [hanswer, hanswer', Moment.answer_serve_of_take_one_eq hhead]
  · rw [hrest hpasses, hrest hpasses', hleft]
    exact htail

theorem tracks_agree (base stop : Nat) : Tracks (Lapsed stop) (Agree base stop) where
  lost := kept_lapsed stop
  position_eq := Agree.position_eq
  next := Agree.next
  markBack := fun h _ => ⟨h.position_eq, h.before_eq, h.pulled_eq, h.portion_ne⟩

theorem Agree.clearMark (h : Agree base stop a b) : Agree base stop a.clearMark b.clearMark :=
  ⟨h.position_eq, h.before_eq, h.pulled_eq, h.portion_ne⟩

end Cursor

end Multipart
