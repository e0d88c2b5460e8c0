import Multipart.Body

/-! # Bodies and their line ends

A body grows by the pieces that are added to it, and loses the line end before the delimiter. -/

namespace Multipart.Body

theorem size_add_length (body : Body) (piece : List UInt8) :
    body.size + piece.length = (piece.reverse ++ body.latest).length := by
  rw [List.length_append, List.length_reverse, body.size_eq, Nat.add_comm]

def extend (body : Body) (piece : List UInt8) : Body :=
  ⟨piece.reverse ++ body.latest, body.size + piece.length, body.limit, body.size_add_length piece⟩

/-- A body is too large to go on with, even if its last bytes turn out to be a line end. -/
def Overflows (body : Body) : Prop :=
  addCapped body.limit 2 < body.size

/-- What may stand between a body and the delimiter. -/
inductive LineEnd (data : List UInt8) : List UInt8 → Prop
  | lf : LineEnd data [Octet.lf]
  | crlf : LineEnd data [Octet.cr, Octet.lf]
  | none : data = [] → LineEnd data []

/-- Whether bytes may stand before a delimiter: there are none, or the last ends a line. -/
def EndsLine (bytes : List UInt8) : Prop :=
  bytes = [] ∨ [Octet.lf] <:+ bytes

instance (bytes : List UInt8) : Decidable (EndsLine bytes) :=
  inferInstanceAs (Decidable (_ ∨ _))

/-- Bytes without the line end that they end in: CRLF, or else LF. -/
def withoutLineEnd (bytes : List UInt8) : List UInt8 :=
  if [Octet.cr, Octet.lf] <:+ bytes then bytes.take (bytes.length - 2)
  else if [Octet.lf] <:+ bytes then bytes.take (bytes.length - 1)
  else bytes

/-! ## Bytes and their line ends -/

theorem withoutLineEnd_prefix (bytes : List UInt8) : withoutLineEnd bytes <+: bytes := by
  rw [withoutLineEnd]
  repeat' split
  · exact List.take_prefix _ _
  · exact List.take_prefix _ _
  · exact List.prefix_refl _

theorem withoutLineEnd_crlf (data : List UInt8) :
    withoutLineEnd (data ++ [Octet.cr, Octet.lf]) = data := by
  rw [withoutLineEnd, if_pos (List.suffix_append data _), List.length_append]
  exact List.take_left

theorem withoutLineEnd_lf {data : List UInt8}
    (h : ¬[Octet.cr, Octet.lf] <:+ data ++ [Octet.lf]) :
    withoutLineEnd (data ++ [Octet.lf]) = data := by
  rw [withoutLineEnd, if_neg h, if_pos (List.suffix_append data _), List.length_append]
  exact List.take_left

theorem EndsLine.split {bytes : List UInt8} (h : EndsLine bytes) :
    ∃ lineEnd, LineEnd (withoutLineEnd bytes) lineEnd ∧
      bytes = withoutLineEnd bytes ++ lineEnd := by
  by_cases hcrlf : [Octet.cr, Octet.lf] <:+ bytes
  · obtain ⟨data, rfl⟩ := hcrlf
    rw [withoutLineEnd_crlf]
    exact ⟨[Octet.cr, Octet.lf], .crlf, rfl⟩
  · rcases h with rfl | ⟨data, rfl⟩
    · exact ⟨[], .none rfl, rfl⟩
    · rw [withoutLineEnd_lf hcrlf]
      exact ⟨[Octet.lf], .lf, rfl⟩

theorem LineEnd.length_le {data lineEnd : List UInt8} (h : LineEnd data lineEnd) :
    lineEnd.length ≤ 2 := by
  cases h <;> decide

theorem LineEnd.endsLine {data lineEnd : List UInt8} (h : LineEnd data lineEnd) :
    EndsLine (data ++ lineEnd) := by
  cases h with
  | lf => exact .inr (List.suffix_append data [Octet.lf])
  | crlf => exact .inr ⟨data ++ [Octet.cr], by simp⟩
  | none hdata => exact .inl (by rw [hdata, List.append_nil])

/-- A line end that is added is taken off again, and a CR before it may go with it. -/
theorem LineEnd.length_withoutLineEnd_le {data lineEnd : List UInt8} (h : LineEnd data lineEnd) :
    (withoutLineEnd (data ++ lineEnd)).length ≤ data.length := by
  cases h with
  | none hdata =>
      rw [hdata]
      exact Nat.le_refl _
  | crlf => exact Nat.le_of_eq (by rw [withoutLineEnd_crlf])
  | lf =>
      by_cases hcrlf : [Octet.cr, Octet.lf] <:+ data ++ [Octet.lf]
      · rw [withoutLineEnd, if_pos hcrlf, List.length_take, List.length_append]
        exact Nat.le_trans (Nat.min_le_left _ _) (Nat.pred_le _)
      · exact Nat.le_of_eq (by rw [withoutLineEnd_lf hcrlf])

/-! ## Bodies and their bytes -/

theorem eq_of_latest_eq {first second : Body} (hlatest : first.latest = second.latest)
    (hlimit : first.limit = second.limit) : first = second := by
  obtain ⟨latest, size, limit, hsize⟩ := first
  obtain ⟨latest', size', limit', hsize'⟩ := second
  cases hlatest
  cases hlimit
  cases hsize.trans hsize'.symm
  rfl

theorem eq_of_bytes_eq {first second : Body} (hbytes : first.bytes = second.bytes)
    (hlimit : first.limit = second.limit) : first = second :=
  eq_of_latest_eq (List.reverse_inj.mp hbytes) hlimit

theorem size_eq_length (body : Body) : body.size = body.bytes.length := by
  rw [bytes, List.length_reverse, body.size_eq]

@[simp] theorem bytes_empty (limit : Nat) : (empty limit).bytes = [] := rfl

@[simp] theorem size_empty (limit : Nat) : (empty limit).size = 0 := rfl

@[simp] theorem limit_empty (limit : Nat) : (empty limit).limit = limit := rfl

@[simp] theorem bytes_extend (body : Body) (piece : List UInt8) :
    (body.extend piece).bytes = body.bytes ++ piece := by
  simp [bytes, extend]

@[simp] theorem limit_extend (body : Body) (piece : List UInt8) :
    (body.extend piece).limit = body.limit := rfl

@[simp] theorem size_extend (body : Body) (piece : List UInt8) :
    (body.extend piece).size = body.size + piece.length := rfl

@[simp] theorem extend_nil (body : Body) : body.extend [] = body :=
  eq_of_bytes_eq (by simp) rfl

theorem extend_append (body : Body) (first second : List UInt8) :
    body.extend (first ++ second) = (body.extend first).extend second := by
  apply eq_of_latest_eq
  · simp [extend]
  · rfl

/-! ## Adding a piece -/

theorem append_eq_ok {body next : Body} {piece : List UInt8} (h : body.append piece = .ok next) :
    next = body.extend piece := by
  simp only [append] at h
  split at h
  · cases h
  · cases h
    rfl

theorem append_eq_error {body : Body} {piece : List UInt8} {error : Error}
    (h : body.append piece = .error error) :
    error = .bodyTooLong body.limit ∧ (body.extend piece).Overflows := by
  simp only [append] at h
  split at h
  · rename_i hlong
    cases h
    simp only [Bool.and_eq_true, decide_eq_true_eq] at hlong
    exact ⟨rfl, hlong.2⟩
  · cases h

/-! ## The line end -/

theorem suffix_reverse_iff (line latest : List UInt8) :
    line <:+ latest.reverse ↔ line.reverse <+: latest := by
  rw [← List.reverse_prefix, List.reverse_reverse]

theorem endsLine_iff {body : Body} {last : UInt8} {latest : List UInt8}
    (h : body.latest = last :: latest) : EndsLine body.bytes ↔ last = Octet.lf := by
  rw [EndsLine, bytes, h, suffix_reverse_iff]
  constructor
  · rintro (hnil | hprefix)
    · simp at hnil
    · exact (List.cons_prefix_cons.mp hprefix).1.symm
  · rintro rfl
    exact .inr (List.prefix_append [Octet.lf] latest)

theorem withoutLineEnd_reverse (latest : List UInt8) :
    withoutLineEnd latest.reverse =
      if [Octet.lf, Octet.cr] <+: latest then (latest.drop 2).reverse
      else if [Octet.lf] <+: latest then (latest.drop 1).reverse
      else latest.reverse := by
  have hcrlf := suffix_reverse_iff [Octet.cr, Octet.lf] latest
  have hlf := suffix_reverse_iff [Octet.lf] latest
  rw [withoutLineEnd, List.reverse_drop, List.reverse_drop, List.length_reverse]
  by_cases htwo : [Octet.lf, Octet.cr] <+: latest
  · rw [if_pos (hcrlf.mpr htwo), if_pos htwo]
  · rw [if_neg (fun h => htwo (hcrlf.mp h)), if_neg htwo]
    by_cases hone : [Octet.lf] <+: latest
    · rw [if_pos (hlf.mpr hone), if_pos hone]
    · rw [if_neg (fun h => hone (hlf.mp h)), if_neg hone]

/-- The line end is taken off if bytes end in one or there are none. -/
theorem dropLineEnd?_eq (body : Body) :
    body.dropLineEnd? =
      if EndsLine body.bytes then some ((empty body.limit).extend (withoutLineEnd body.bytes))
      else none := by
  have hsome : ∀ {rest : Body}, rest.bytes = withoutLineEnd body.bytes →
      rest.limit = body.limit →
      some rest = some ((empty body.limit).extend (withoutLineEnd body.bytes)) := by
    intro rest hbytes hlimit
    exact congrArg some (eq_of_bytes_eq (by simpa using hbytes) hlimit)
  simp only [dropLineEnd?]
  split
  · rename_i hlatest
    have hnil : body.bytes = [] := by simp [bytes, hlatest]
    rw [if_pos (.inl hnil)]
    refine hsome ?_ rfl
    rw [hnil]
    rfl
  · rename_i last hlatest
    by_cases hlast : last = Octet.lf
    · rw [if_pos hlast, if_pos ((endsLine_iff hlatest).mpr hlast)]
      refine hsome ?_ rfl
      rw [bytes, bytes, hlatest, hlast]
      rfl
    · rw [if_neg hlast, if_neg (fun h => hlast ((endsLine_iff hlatest).mp h))]
  · rename_i last before latest hlatest
    by_cases hlast : last = Octet.lf
    · rw [if_pos hlast, if_pos ((endsLine_iff hlatest).mpr hlast)]
      by_cases hbefore : before = Octet.cr
      · rw [if_pos hbefore]
        have hbytes : withoutLineEnd body.bytes = latest.reverse := by
          rw [bytes, hlatest, withoutLineEnd_reverse, hlast, hbefore]
          simp
        exact hsome hbytes.symm rfl
      · rw [if_neg hbefore]
        have hbytes : withoutLineEnd body.bytes = (before :: latest).reverse := by
          rw [bytes, hlatest, withoutLineEnd_reverse, hlast]
          simp [Ne.symm hbefore]
        exact hsome hbytes.symm rfl
    · rw [if_neg hlast, if_neg (fun h => hlast ((endsLine_iff hlatest).mp h))]

/-- Ending a body needs a line end, takes it off, and checks the limit. -/
theorem terminate_eq (body : Body) (offset : Nat) :
    body.terminate offset =
      if EndsLine body.bytes then
        if body.limit < (withoutLineEnd body.bytes).length then
          .error (.bodyTooLong body.limit) ((empty body.limit).extend (withoutLineEnd body.bytes))
        else .ok () ((empty body.limit).extend (withoutLineEnd body.bytes))
      else .error (.delimiterInsideLine offset) body := by
  rw [terminate, dropLineEnd?_eq]
  by_cases hends : EndsLine body.bytes
  · rw [if_pos hends, if_pos hends]
    simp only [checkLimit, size_extend, size_empty, Nat.zero_add, limit_extend, limit_empty]
    by_cases hlong : body.limit < (withoutLineEnd body.bytes).length
    · rw [if_pos hlong, if_pos hlong]
    · rw [if_neg hlong, if_neg hlong]
  · rw [if_neg hends, if_neg hends]

theorem terminate_eq_ok {body rest : Body} {offset : Nat}
    (h : body.terminate offset = .ok () rest) :
    rest.limit = body.limit ∧ rest.size ≤ rest.limit ∧
      ∃ lineEnd, LineEnd rest.bytes lineEnd ∧ body.bytes = rest.bytes ++ lineEnd := by
  rw [terminate_eq] at h
  split at h
  · rename_i hends
    split at h
    · cases h
    · rename_i hfits
      cases h
      refine ⟨rfl, ?_, ?_⟩
      · rw [size_eq_length, bytes_extend, bytes_empty, List.nil_append]
        exact Nat.le_of_not_lt hfits
      · rw [bytes_extend, bytes_empty, List.nil_append]
        exact hends.split
  · cases h

theorem terminate_eq_error {body rest : Body} {offset : Nat} {error : Error}
    (h : body.terminate offset = .error error rest) :
    error = .delimiterInsideLine offset ∨ error = .bodyTooLong body.limit := by
  rw [terminate_eq] at h
  split at h
  · split at h
    · cases h
      exact .inr rfl
    · cases h
  · cases h
    exact .inl rfl

theorem terminate_crlf {body : Body} (h : body.size ≤ body.limit) (offset : Nat) :
    (body.extend [Octet.cr, Octet.lf]).terminate offset = .ok () body := by
  have hsame : (empty body.limit).extend body.bytes = body := eq_of_bytes_eq (by simp) rfl
  rw [size_eq_length] at h
  rw [terminate_eq, bytes_extend, if_pos LineEnd.crlf.endsLine, withoutLineEnd_crlf, limit_extend,
    if_neg (Nat.not_lt_of_le h), hsame]

/-! ## Looser limits -/

/-- The bytes are the same, and the limit is no tighter. -/
structure Loosens (first second : Body) : Prop where
  latest_eq : second.latest = first.latest
  limit_le : first.limit ≤ second.limit

variable {first second next : Body}

theorem Loosens.bytes_eq (h : Loosens first second) : second.bytes = first.bytes := by
  rw [bytes, bytes, h.latest_eq]

theorem Loosens.size_eq (h : Loosens first second) : second.size = first.size := by
  rw [second.size_eq, first.size_eq, h.latest_eq]

/-- A body that has room for a piece has it within a looser limit. -/
theorem Loosens.append {piece : List UInt8} (h : Loosens first second)
    (hfits : first.append piece = .ok next) :
    ∃ other, second.append piece = .ok other ∧ Loosens next other := by
  have hlimit := h.limit_le
  have hcapped : addCapped first.limit 2 ≤ addCapped second.limit 2 := by
    simp only [addCapped]
    omega
  simp only [Body.append, h.size_eq] at hfits ⊢
  split at hfits
  · cases hfits
  · rename_i hroom
    cases hfits
    rw [if_neg]
    · exact ⟨_, rfl, by simp [h.latest_eq], hlimit⟩
    · simp only [Bool.and_eq_true, decide_eq_true_eq, not_and, Nat.not_lt] at hroom ⊢
      exact fun hpiece => Nat.le_trans (hroom hpiece) hcapped

theorem Loosens.checkLimit (h : Loosens first second) (hfits : first.checkLimit = .ok ()) :
    second.checkLimit = .ok () := by
  have hlimit := h.limit_le
  simp only [Body.checkLimit, h.size_eq] at hfits ⊢
  split at hfits
  · cases hfits
  · rw [if_neg (by omega)]

theorem Loosens.dropLineEnd? (h : Loosens first second) (hdrop : first.dropLineEnd? = some next) :
    ∃ other, second.dropLineEnd? = some other ∧ Loosens next other := by
  obtain ⟨latest, size, limit, hsize⟩ := first
  obtain ⟨_, size', limit', hsize'⟩ := second
  obtain ⟨rfl, hlimit⟩ := h
  simp only [Body.dropLineEnd?] at hdrop
  split at hdrop
  · cases hdrop
    exact ⟨_, rfl, rfl, hlimit⟩
  · split at hdrop
    · rename_i hlast
      cases hdrop
      exact ⟨_, if_pos hlast, rfl, hlimit⟩
    · cases hdrop
  · split at hdrop
    · rename_i hlast
      split at hdrop
      · rename_i hbefore
        cases hdrop
        exact ⟨_, (if_pos hlast).trans (if_pos hbefore), rfl, hlimit⟩
      · rename_i hbefore
        cases hdrop
        exact ⟨_, (if_pos hlast).trans (if_neg hbefore), rfl, hlimit⟩
    · cases hdrop

theorem Loosens.terminate {offset : Nat} (h : Loosens first second)
    (hend : first.terminate offset = .ok () next) :
    ∃ other, second.terminate offset = .ok () other ∧ Loosens next other := by
  simp only [Body.terminate] at hend ⊢
  cases hdrop : first.dropLineEnd? with
  | none => simp [hdrop] at hend
  | some dropped =>
      obtain ⟨other, hother, hloosens⟩ := h.dropLineEnd? hdrop
      cases hlimit : dropped.checkLimit with
      | error error => simp [hdrop, hlimit] at hend
      | ok _ =>
          simp only [hdrop, hlimit, EStateM.Result.ok.injEq, true_and] at hend
          subst hend
          exact ⟨other, by simp [hother, hloosens.checkLimit hlimit], hloosens⟩

end Multipart.Body
