import Multipart.Proofs.Cursor.Refinement
import Multipart.Proofs.Cursor.Registers

/-! # Registers that stand for a cursor

Registers stand for a cursor if they hold the same bytes and have the same places in them. They go
on standing for it: one lemma for each operation that touches the buffer says so, and names the sums
and the buffers that may be too large. -/

namespace Multipart.Cursor

open Breakdown (add sub within sliceFrom sliceTo Ends ends_pure ends_bind ends_check)

/-! ## Standing for a cursor -/

def registers (cursor : Cursor) : Registers where
  source := cursor.source
  chunk := cursor.chunk
  buffer := cursor.held
  place := cursor.consumed.length
  mark? := cursor.since.map fun _ => cursor.spent.length
  base := cursor.base

/-- A cursor on a stream of `total` bytes, which holds no more than a buffer has room for. -/
structure Counted (total chunk : Nat) (cursor : Cursor) : Prop where
  consumed_le : cursor.consumed.length ≤ cursor.position
  total_le : cursor.position + cursor.outstanding ≤ total
  chunk_eq : cursor.chunk = chunk
  chunk_le : chunk ≤ maxAllocation
  held_le : cursor.held.length ≤ maxAllocation

/-- A stream has more bytes than a word counts, or together with a chunk more than a buffer has room
for. -/
inductive Exceeds (total chunk : Nat) : Breakdown → Prop
  | overflow : maxWord < total → Exceeds total chunk .overflow
  | outOfMemory : maxAllocation < total + chunk → Exceeds total chunk .outOfMemory

/-- Registers answer what a cursor answers, and stand for it afterwards. -/
inductive Mirrors (total chunk : Nat) {α β : Type} (shown : α → Cursor → β) :
    Answer α → Registers.Answer β → Prop
  | ok {value : α} {after : Cursor} : after.Counted total chunk →
      Mirrors total chunk shown (.ok value after) (.ok (shown value after) after.registers)
  | error {error : StreamError} {after : Cursor} : after.Counted total chunk →
      Mirrors total chunk shown (.error error after) (.error error after.registers)

variable {total chunk count : Nat} {cursor after : Cursor}

theorem two_mul_maxAllocation : maxAllocation + maxAllocation ≤ maxWord := by decide

theorem length_held (cursor : Cursor) :
    cursor.held.length = cursor.consumed.length + cursor.ahead.length := by
  rw [held, List.length_append, List.length_reverse]

theorem drop_held (cursor : Cursor) : cursor.held.drop cursor.consumed.length = cursor.ahead := by
  rw [held, ← List.length_reverse, List.drop_left]

theorem Counted.base_add (h : cursor.Counted total chunk) :
    cursor.base + cursor.consumed.length = cursor.position := by
  have hle := h.consumed_le
  rw [base]
  omega

theorem counted_ofSource (source : Source) (h : max chunk 1 ≤ maxAllocation) :
    (ofSource source chunk).Counted source.remaining (max chunk 1) := by
  refine ⟨Nat.zero_le _, ?_, rfl, h, Nat.zero_le _⟩
  simp [ofSource, outstanding]

/-! ## Consuming -/

theorem registers_advance (cursor : Cursor) (count : Nat) :
    (cursor.advance count).registers = { cursor.registers with
      place := min (cursor.consumed.length + count) cursor.held.length } := by
  have hheld : (cursor.advance count).held = cursor.held :=
    held_pass _ (List.take_append_drop count cursor.ahead).symm
  have hplace : (cursor.advance count).consumed.length =
      min (cursor.consumed.length + count) cursor.held.length := by
    rw [length_held, advance, consumed_pass, List.length_append, List.length_reverse,
      List.length_take]
    omega
  have hbase : (cursor.advance count).base = cursor.base := by
    rw [base, base, advance, consumed_pass, position_pass, List.length_append]
    omega
  have hmark : (cursor.advance count).since.map (fun _ => (cursor.advance count).spent.length) =
      cursor.since.map fun _ => cursor.spent.length := by
    rw [advance, pass]
    split <;> simp [*]
  rw [registers, hheld, hplace, hbase, hmark, advance, source_pass, chunk_pass]
  rfl

theorem Counted.advance (h : cursor.Counted total chunk) (count : Nat) :
    (cursor.advance count).Counted total chunk := by
  have hconsumed := h.consumed_le
  have htotal := h.total_le
  have hheld : (cursor.advance count).held = cursor.held :=
    held_pass _ (List.take_append_drop count cursor.ahead).symm
  refine ⟨?_, ?_, ?_, h.chunk_le, hheld ▸ h.held_le⟩
  · rw [Cursor.advance, consumed_pass, position_pass, List.length_append]
    omega
  · rw [Cursor.advance, position_pass, outstanding_pass, List.length_reverse, List.length_take,
      List.length_drop]
    rw [outstanding] at htotal
    omega
  · rw [Cursor.advance, chunk_pass, h.chunk_eq]

/-- Consuming moves on by as many bytes as are asked for and held, unless the place and the count
together do not fit a word. -/
theorem ends_consume {P : Registers → Prop} {E : Breakdown → Prop}
    (hword : cursor.consumed.length + count ≤ maxWord → P (cursor.advance count).registers)
    (hoverflow : maxWord < cursor.consumed.length + count → E .overflow) :
    Ends P E (cursor.registers.consume count) := by
  simp only [Registers.consume, add, ends_bind, ends_check, ends_pure]
  refine ⟨fun hle => ?_, fun hlt => hoverflow (Nat.lt_of_not_le hlt)⟩
  have hafter := hword hle
  rwa [registers_advance] at hafter

/-- What is held ahead can be consumed. -/
theorem Counted.ends_consume {E : Breakdown → Prop} (h : cursor.Counted total chunk)
    (hcount : count ≤ cursor.ahead.length) :
    Ends (· = (cursor.advance count).registers) E (cursor.registers.consume count) := by
  have hheld := h.held_le
  have hword := two_mul_maxAllocation
  rw [length_held] at hheld
  exact Cursor.ends_consume (fun _ => rfl) fun hlt => absurd hlt (by omega)

/-! ## Filling -/

def forget (cursor : Cursor) : Cursor :=
  { cursor with spent := [] }

@[simp] theorem consumed_forget (cursor : Cursor) :
    cursor.forget.consumed = cursor.since.getD [] := List.append_nil _

@[simp] theorem ahead_forget (cursor : Cursor) : cursor.forget.ahead = cursor.ahead := rfl

@[simp] theorem position_forget (cursor : Cursor) : cursor.forget.position = cursor.position := rfl

theorem length_consumed (cursor : Cursor) :
    cursor.consumed.length = (cursor.since.getD []).length + cursor.spent.length :=
  List.length_append

theorem held_forget (cursor : Cursor) :
    cursor.forget.held = cursor.held.drop cursor.spent.length := by
  rw [held, consumed_forget, ahead_forget, held, consumed, List.reverse_append, List.append_assoc,
    ← List.length_reverse, List.drop_left]

theorem Counted.forget (h : cursor.Counted total chunk) : cursor.forget.Counted total chunk := by
  have hconsumed := h.consumed_le
  have hheld := h.held_le
  rw [length_consumed] at hconsumed
  refine ⟨?_, h.total_le, h.chunk_eq, h.chunk_le, ?_⟩
  · rw [consumed_forget, position_forget]
    omega
  · rw [held_forget, List.length_drop]
    omega

theorem kept_eq (cursor : Cursor) :
    cursor.registers.mark?.getD cursor.registers.place = cursor.spent.length := by
  cases hsince : cursor.since <;> simp [registers, consumed, hsince]

theorem forget_eq_self (h : cursor.spent = []) : cursor.forget = cursor := by
  rw [forget, ← h]

theorem ends_drain (h : cursor.Counted total chunk) :
    Ends (· = cursor.forget.registers) (Exceeds total chunk)
      (cursor.registers.drain cursor.spent.length) := by
  have hconsumed := length_consumed cursor
  have hheld := length_held cursor
  have hle := h.consumed_le
  have htotal := h.total_le
  have hbase : cursor.forget.base = cursor.base + cursor.spent.length := by
    rw [base, base, consumed_forget, position_forget]
    omega
  have hplace : cursor.forget.consumed.length = cursor.consumed.length - cursor.spent.length := by
    rw [consumed_forget]
    omega
  simp only [Registers.drain, add, sub, sliceFrom, ends_bind, ends_check, ends_pure]
  simp only [registers, held_forget, hbase, hplace]
  -- What is kept starts no later than the cursor, so neither the slice nor the difference can fail.
  refine ⟨fun _ => ⟨fun _ => ⟨fun _ => ?_, fun hsub => absurd hsub (by omega)⟩, fun hsum => ?_⟩,
    fun hslice => absurd hslice (by omega)⟩
  · rw [Option.map_map]
    rfl
  · rw [base] at hsum
    exact .overflow (by omega)

/-- Bytes that a source delivers come after what is held. -/
theorem Counted.load {bytes : List UInt8} {source : Source} (h : cursor.Counted total chunk)
    (hroom : cursor.held.length + chunk ≤ maxAllocation)
    (hread : cursor.source.read cursor.chunk = .ok bytes source) :
    Counted total chunk { cursor with source, ahead := bytes } := by
  have hconsumed := h.consumed_le
  have htotal := h.total_le
  have hremaining := Source.remaining_read_ok hread
  have hlength := Source.length_read_le hread
  rw [h.chunk_eq] at hlength
  rw [outstanding] at htotal
  refine ⟨hconsumed, ?_, h.chunk_eq, h.chunk_le, ?_⟩
  · simp only [outstanding]
    omega
  · rw [length_held] at hroom ⊢
    change cursor.consumed.length + bytes.length ≤ maxAllocation
    omega

theorem Counted.load_error {error : StreamError} {source : Source} (h : cursor.Counted total chunk)
    (hread : cursor.source.read cursor.chunk = .error error source) :
    Counted total chunk { cursor with source } := by
  refine ⟨h.consumed_le, ?_, h.chunk_eq, h.chunk_le, h.held_le⟩
  have htotal := h.total_le
  rw [outstanding, ← Source.remaining_read_error hread] at htotal
  exact htotal

/-- A cursor without bytes ahead asks its source for a chunk, and so do its registers. -/
theorem ends_load (h : cursor.Counted total chunk) (hahead : cursor.ahead = []) :
    Ends (Mirrors total chunk (fun _ _ => ())
      (match cursor.source.read cursor.chunk with
        | .ok bytes source => .ok () { cursor with source, ahead := bytes }
        | .error error source => .error error { cursor with source }))
      (Exceeds total chunk) cursor.registers.load := by
  have hheld := h.held_le
  have hlength := length_held cursor
  have hconsumed := h.consumed_le
  have htotal := h.total_le
  have hword := two_mul_maxAllocation
  have hchunk := h.chunk_le
  have heq := h.chunk_eq
  rw [hahead, List.length_nil] at hlength
  apply Registers.ends_load
  · intro hlt
    change maxWord < cursor.held.length + cursor.chunk at hlt
    omega
  · intro hlt
    change maxAllocation < cursor.held.length + cursor.chunk at hlt
    exact .outOfMemory (by omega)
  · intro error source hread
    change cursor.source.read cursor.chunk = .error error source at hread
    rw [hread]
    exact .error (h.load_error hread)
  · intro hroom bytes source hread
    change cursor.held.length + cursor.chunk ≤ maxAllocation at hroom
    change cursor.source.read cursor.chunk = .ok bytes source at hread
    rw [hread]
    rw [heq] at hroom
    have hbuffer : cursor.registers.buffer ++ bytes =
        held { cursor with source, ahead := bytes } := by
      rw [registers, held, hahead, List.append_nil]
      rfl
    rw [hbuffer]
    exact .ok (h.load hroom hread)

/-- Registers are filled with what the cursor is filled with. -/
theorem ends_refill (h : cursor.Counted total chunk) (hahead : cursor.ahead = []) :
    Ends (Mirrors total chunk (fun _ _ => ()) cursor.fill) (Exceeds total chunk)
      cursor.registers.refill := by
  have hfill : cursor.fill = match cursor.forget.source.read cursor.forget.chunk with
      | .ok bytes source => .ok () { cursor.forget with source, ahead := bytes }
      | .error error source => .error error { cursor.forget with source } := by
    have hempty : cursor.ahead.isEmpty := List.isEmpty_iff.mpr hahead
    rw [fill, if_pos hempty]
    rfl
  have hload : Ends (Mirrors total chunk (fun _ _ => ()) cursor.fill) (Exceeds total chunk)
      cursor.forget.registers.load := by
    rw [hfill]
    exact ends_load h.forget hahead
  -- The cursor forgets what is spent in any case, its registers only if there is something.
  rw [Registers.refill, kept_eq]
  split
  · rw [ends_bind]
    exact (ends_drain h).imp fun registers hregisters => hregisters ▸ hload
  · rename_i hspent
    rwa [forget_eq_self (List.length_eq_zero_iff.mp (by omega))] at hload

theorem ends_fill (h : cursor.Counted total chunk) :
    Ends (Mirrors total chunk (fun _ filled => filled.ahead) cursor.fill) (Exceeds total chunk)
      cursor.registers.fill := by
  have hensure : Ends (Mirrors total chunk (fun _ _ => ()) cursor.fill) (Exceeds total chunk)
      cursor.registers.ensure := by
    have hlength := length_held cursor
    rw [Registers.ensure]
    split
    · rename_i hplace
      change cursor.held.length ≤ cursor.consumed.length at hplace
      exact ends_refill h (List.length_eq_zero_iff.mp (by omega))
    · rename_i hplace
      change ¬cursor.held.length ≤ cursor.consumed.length at hplace
      have hahead : cursor.ahead ≠ [] := by
        rintro hnil
        rw [hnil] at hlength
        simp only [List.length_nil] at hlength
        omega
      rw [fill, if_neg (by simpa using hahead)]
      exact .ok h
  rw [Registers.fill, ends_bind]
  refine hensure.imp fun result hmirrors => ?_
  generalize cursor.fill = answer at hmirrors
  cases hmirrors with
  | error hcounted => exact .error hcounted
  | @ok _ filled hcounted =>
      have hplace : filled.consumed.length ≤ filled.held.length := by
        rw [length_held]
        exact Nat.le_add_right _ _
      have hslice : filled.registers.buffer.drop filled.registers.place = filled.ahead :=
        drop_held filled
      simp only [sliceFrom, ends_bind, ends_check, ends_pure, hslice]
      exact ⟨fun _ => .ok hcounted, fun hbeyond => absurd hplace hbeyond⟩

/-! ## Reading -/

theorem ends_next (h : cursor.Counted total chunk) :
    Ends (Mirrors total chunk (fun value _ => value) cursor.next) (Exceeds total chunk)
      cursor.registers.next := by
  rw [Registers.next, ends_bind, Cursor.next]
  refine (ends_fill h).imp fun result hmirrors => ?_
  generalize cursor.fill = answer at hmirrors
  cases hmirrors with
  | error hcounted => exact .error hcounted
  | @ok _ filled hcounted =>
      cases hahead : filled.ahead with
      | nil =>
          simp only [hahead]
          exact .ok hcounted
      | cons value rest =>
          have hpass : filled.advance 1 = filled.pass [value] rest := by
            rw [advance, hahead]
            rfl
          have hcount : 1 ≤ filled.ahead.length := by
            rw [hahead, List.length_cons]
            omega
          simp only [hahead, ends_bind, ends_pure]
          rw [← hpass]
          refine (hcounted.ends_consume hcount).imp fun registers hregisters => ?_
          rw [hregisters]
          exact .ok (hcounted.advance 1)

theorem take_min_length (cursor : Cursor) (size : Nat) :
    cursor.ahead.take (min cursor.ahead.length size) = cursor.ahead.take size := by
  rw [Nat.min_comm, ← List.take_eq_take_min]

theorem advance_min_length (cursor : Cursor) (size : Nat) :
    cursor.advance (min cursor.ahead.length size) = cursor.advance size := by
  rw [advance, advance, take_min_length, Nat.min_comm, ← List.drop_eq_drop_min]

theorem ends_read (h : cursor.Counted total chunk) (size : Nat) :
    Ends (Mirrors total chunk (fun bytes _ => bytes) (cursor.read size)) (Exceeds total chunk)
      (cursor.registers.read size) := by
  rw [Registers.read, ends_bind, Cursor.read]
  refine (ends_fill h).imp fun result hmirrors => ?_
  generalize cursor.fill = answer at hmirrors
  cases hmirrors with
  | error hcounted => exact .error hcounted
  | @ok _ filled hcounted =>
      have hahead := Nat.min_le_left filled.ahead.length size
      have hsize := Nat.min_le_right filled.ahead.length size
      simp only [within, sliceTo, ends_bind, ends_check, ends_pure, take_min_length]
      refine ⟨fun _ => ⟨fun _ => ?_, fun hslice => absurd hahead hslice⟩,
        fun hplace => absurd hsize hplace⟩
      refine (hcounted.ends_consume hahead).imp fun registers hregisters => ?_
      rw [hregisters, advance_min_length]
      exact .ok (hcounted.advance size)

end Multipart.Cursor
