import Multipart.Proofs.Cursor.Passage

/-! # Bisimulations of cursors

Whatever reads a cursor byte by byte, asks for its position and moves its mark does the same to two
cursors of a relation that these operations keep, and leaves two cursors of that relation. -/

namespace Multipart

open Result (Related)

/-- A relation between cursors that reading a byte and moving the mark keep. -/
structure Cursor.Bisimulation (R : Cursor → Cursor → Prop) : Prop where
  position_eq : ∀ {a b}, R a b → a.position = b.position
  next : ∀ {a b}, R a b → Related R a.next b.next
  markBack : ∀ {a b}, R a b → ∀ distance, R (a.markBack distance) (b.markBack distance)
  clearMark : ∀ {a b}, R a b → R a.clearMark b.clearMark

namespace Cursor

/-- A relation between cursors at the same place that reading a byte keeps. -/
structure InStep (R : Cursor → Cursor → Prop) : Prop where
  position_eq : ∀ {a b}, R a b → a.position = b.position
  next : ∀ {a b}, R a b → Related R a.next b.next

variable {R : Cursor → Cursor → Prop} {a b : Cursor}

theorem Bisimulation.inStep (hR : Bisimulation R) : InStep R :=
  ⟨hR.position_eq, hR.next⟩

/-- Two readings give the same bytes, end in the same way and leave related cursors. -/
structure Gathered.Alike (R : Cursor → Cursor → Prop) (first second : Gathered) : Prop where
  bytes_eq : first.bytes = second.bytes
  failure_eq : first.failure = second.failure
  cursor : R first.cursor second.cursor

theorem Bisimulation.gatherFrom (hR : Bisimulation R) (hab : R a b) (last : UInt8 → Bool)
    (count : Nat) (taken : List UInt8) :
    Gathered.Alike R (gatherFrom last count taken a) (gatherFrom last count taken b) := by
  induction count generalizing taken a b with
  | zero => exact ⟨rfl, rfl, hab⟩
  | succ count ih =>
      have hnext := hR.next hab
      simp only [Cursor.gatherFrom]
      generalize a.next = first at hnext
      generalize b.next = second at hnext
      cases hnext with
      | error hafter => exact ⟨rfl, rfl, hafter⟩
      | @ok value x y hafter =>
          cases value with
          | none => exact ⟨rfl, rfl, hafter⟩
          | some value =>
              simp only
              split
              · exact ⟨rfl, rfl, hafter⟩
              · exact ih hafter (value :: taken)

theorem Bisimulation.gather (hR : Bisimulation R) (hab : R a b) (last : UInt8 → Bool)
    (count : Nat) : Gathered.Alike R (a.gather last count) (b.gather last count) :=
  hR.gatherFrom hab last count []

/-! ## Conditions that are kept

That an operation keeps a condition is a relation of a cursor with itself. What two related cursors
make of an operation therefore says also what the operation keeps. -/

theorem inStep_of_keeps {P : Cursor → Prop}
    (hnext : ∀ cursor, P cursor → P (Result.state cursor.next)) :
    InStep fun a b => a = b ∧ P a where
  position_eq := by
    rintro a _ ⟨rfl, -⟩
    rfl
  next := by
    rintro a _ ⟨rfl, ha⟩
    exact Result.related_iff.mpr ⟨rfl, rfl, hnext a ha⟩

/-- A condition on a cursor that reading a byte and moving the mark keep. -/
structure Kept (P : Cursor → Prop) : Prop where
  next : ∀ {cursor}, P cursor → P (Result.state cursor.next)
  markBack : ∀ {cursor}, P cursor → ∀ distance, P (cursor.markBack distance)
  clearMark : ∀ {cursor}, P cursor → P cursor.clearMark

theorem Kept.bisimulation {P : Cursor → Prop} (hP : Kept P) :
    Bisimulation fun a b => a = b ∧ P a where
  position_eq := (inStep_of_keeps fun _ h => hP.next h).position_eq
  next := (inStep_of_keeps fun _ h => hP.next h).next
  markBack := by
    rintro a _ ⟨rfl, ha⟩ distance
    exact ⟨rfl, hP.markBack ha distance⟩
  clearMark := by
    rintro a _ ⟨rfl, ha⟩
    exact ⟨rfl, hP.clearMark ha⟩

theorem Kept.gatherFrom {P : Cursor → Prop} (hP : Kept P) (h : P a) (last : UInt8 → Bool)
    (count : Nat) (taken : List UInt8) : P (Cursor.gatherFrom last count taken a).cursor :=
  (hP.bisimulation.gatherFrom ⟨rfl, h⟩ last count taken).cursor.2

/-! ## Relations that hold for a while -/

/-- A relation between cursors that reading a byte and moving the mark keep until the first cursor
is lost. Once it is lost it stays so. -/
structure Tracks (Lost : Cursor → Prop) (R : Cursor → Cursor → Prop) : Prop where
  lost : Kept Lost
  position_eq : ∀ {a b}, R a b → a.position = b.position
  next : ∀ {a b}, R a b → ¬Lost (Result.state a.next) → Related R a.next b.next
  markBack : ∀ {a b}, R a b → ∀ distance, R (a.markBack distance) (b.markBack distance)

theorem Tracks.gatherFrom {Lost : Cursor → Prop} (hR : Tracks Lost R) (hab : R a b)
    (last : UInt8 → Bool) (count : Nat) (taken : List UInt8)
    (hlost : ¬Lost (Cursor.gatherFrom last count taken a).cursor) :
    Gathered.Alike R (Cursor.gatherFrom last count taken a)
      (Cursor.gatherFrom last count taken b) := by
  induction count generalizing taken a b with
  | zero => exact ⟨rfl, rfl, hab⟩
  | succ count ih =>
      have hnext := hR.next hab
      simp only [Cursor.gatherFrom] at hlost ⊢
      cases hread : a.next with
      | error error after =>
          rw [hread] at hnext hlost
          obtain ⟨other, hother, hafter⟩ := (hnext hlost).of_error
          rw [hother]
          exact ⟨rfl, rfl, hafter⟩
      | ok found after =>
          rw [hread] at hnext hlost
          cases found with
          | none =>
              obtain ⟨other, hother, hafter⟩ := (hnext hlost).of_ok
              rw [hother]
              exact ⟨rfl, rfl, hafter⟩
          | some value =>
              simp only at hlost
              by_cases hlast : last value
              · rw [if_pos hlast] at hlost
                obtain ⟨other, hother, hafter⟩ := (hnext hlost).of_ok
                simp only [hother, if_pos hlast]
                exact ⟨rfl, rfl, hafter⟩
              · rw [if_neg hlast] at hlost
                -- what is lost after a byte is lost at the end
                have hkept : ¬Lost after := fun hafter =>
                  hlost (hR.lost.gatherFrom hafter last count (value :: taken))
                obtain ⟨other, hother, hafter⟩ := (hnext hkept).of_ok
                simp only [hother, if_neg hlast]
                exact ih hafter (value :: taken) hlost

/-! ## Moving on -/

def Leads (cursor after : Cursor) : Prop :=
  ∃ passed, Passes cursor passed after

/-- Two cursors are one, to which some cursor leads. -/
def Ahead (start a b : Cursor) : Prop :=
  a = b ∧ Leads start a

theorem Leads.refl (cursor : Cursor) : Leads cursor cursor :=
  ⟨[], .refl cursor⟩

theorem Leads.trans {a b c : Cursor} (hab : Leads a b) (hbc : Leads b c) : Leads a c := by
  obtain ⟨first, hab⟩ := hab
  obtain ⟨second, hbc⟩ := hbc
  exact ⟨first ++ second, hab.trans hbc⟩

theorem Ahead.refl (cursor : Cursor) : Ahead cursor cursor cursor :=
  ⟨rfl, .refl cursor⟩

theorem kept_leads (start : Cursor) : Kept (Leads start) where
  next := fun hlead => hlead.trans (passes_next _)
  markBack := fun hlead distance => hlead.trans ⟨[], passes_markBack _ distance⟩
  clearMark := fun hlead => hlead.trans ⟨[], passes_clearMark _⟩

theorem bisimulation_ahead (start : Cursor) : Bisimulation (Ahead start) :=
  (kept_leads start).bisimulation

end Cursor

end Multipart
