import Multipart.Proofs.Scan.Pieces
import Multipart.Proofs.Scan.Windows

/-! # Scanning as searching place by place

On a stream without faults a scan finds what trying one place after another finds, and adds to the
body the bytes before it, each once and in order. -/

namespace Multipart

variable {delimiter : Delimiter} {cursor : Cursor} {offset index : Nat} {text : List UInt8}

/-- What a scan of a text leaves that has no delimiter: the body is the whole text. -/
def Scan.Misses (offset : Nat) (text : List UInt8) (body : Option Body) (scan : Scan) : Prop :=
  ∃ place after, scan = ⟨.ok (.ended place), after, Scan.grow body text, none⟩ ∧
    after.Faces (offset + text.length) []

/-- What a scan leaves that has found the delimiter at a place of a text: the line of the delimiter
is read from there on, whatever comes of it. -/
def Scan.Meets (delimiter : Delimiter) (offset : Nat) (text : List UInt8) (index : Nat)
    (body : Option Body) (scan : Scan) : Prop :=
  ∃ between : Cursor,
    between.Faces (offset + (index + delimiter.length)) (text.drop (index + delimiter.length)) ∧
      scan = Scan.Halt.finish ⟨.matched (offset + index), between, body⟩

/-- What a scan leaves that has found the delimiter inside a line: the body is the text before
it. -/
def Scan.BreaksLine (offset : Nat) (text : List UInt8) (index : Nat) (body : Option Body)
    (scan : Scan) : Prop :=
  ∃ after, scan = ⟨.error (.delimiterInsideLine (offset + index)), after,
    Scan.grow body (text.take index), none⟩

namespace Scan

theorem find_of_absent {body : Option Body} (h : cursor.Faces offset text)
    (hfits : ∀ kept, body = some kept → kept.size + text.length ≤ addCapped kept.limit 2)
    (hnone : delimiter.firstIn text = none) :
    (find delimiter cursor body).Misses offset text body := by
  obtain ⟨place, after, hafter, hseek⟩ :=
    seek_of_absent h (Delimiter.firstIn_eq_none_iff.mp hnone) hfits
  refine ⟨place, after.clearMark, ?_, hafter.clearMark⟩
  simp only [find, hseek]

theorem fits_of_le {limit : Nat} (hword : limit ≤ maxWord) (hlimit : text.length ≤ limit) :
    ∀ kept, some (Body.empty limit) = some kept →
      kept.size + text.length ≤ addCapped kept.limit 2 := by
  rintro _ ⟨⟩
  simp only [Body.empty, addCapped]
  omega

/-- With a body the bytes before the first delimiter are ended there. -/
theorem find_of_firstIn {limit : Nat} (h : cursor.Faces offset text) (hword : limit ≤ maxWord)
    (hlimit : text.length ≤ limit) (hindex : delimiter.firstIn text = some index) :
    if Body.EndsLine (text.take index) then
      (find delimiter cursor (some (.empty limit))).Meets delimiter offset text index
        (some ((Body.empty limit).extend (Body.withoutLineEnd (text.take index))))
    else (find delimiter cursor (some (.empty limit))).BreaksLine offset text index
      (some (.empty limit)) := by
  have htake := List.length_take_le' index text
  have hless := (Body.withoutLineEnd_prefix (text.take index)).length_le
  have hbefore := Delimiter.textBefore_of_some hindex
  have hfits : (delimiter.textBefore text).length ≤ Body.capacity limit := by
    rw [hbefore, Body.capacity, addCapped]
    omega
  have hroom : ¬limit < (Body.withoutLineEnd (text.take index)).length := by
    omega
  obtain ⟨after, hafter, hseek⟩ := seek_of_found h hfits hindex
  rw [hbefore, if_neg hroom] at hseek
  by_cases hends : Body.EndsLine (text.take index)
  · rw [if_pos hends] at hseek ⊢
    refine ⟨after, hafter, ?_⟩
    rw [find_eq_finish, hseek]
  · rw [if_neg hends] at hseek ⊢
    refine ⟨after, ?_⟩
    rw [find_eq_finish, hseek]
    rfl

/-- Without a body the first delimiter is found wherever it stands. -/
theorem find_none_of_firstIn (h : cursor.Faces offset text)
    (hindex : delimiter.firstIn text = some index) :
    (find delimiter cursor none).Meets delimiter offset text index none := by
  obtain ⟨after, hafter, hseek⟩ := seek_none_of_firstIn h hindex
  refine ⟨after, hafter, ?_⟩
  rw [find_eq_finish, hseek]

end Scan

/-- A scan of a text finds what searching place by place finds, and its body is what stands before
it, if there is room for the whole text. -/
structure FindsFirst (delimiter : Delimiter) (offset : Nat) (text : List UInt8)
    (find : Option Body → Scan) : Prop where
  absent : delimiter.firstIn text = none → ∀ limit ≤ maxWord, text.length ≤ limit →
    (find (some (.empty limit))).Misses offset text (some (.empty limit))
  present : ∀ index, delimiter.firstIn text = some index →
    ∀ limit ≤ maxWord, text.length ≤ limit →
      if Body.EndsLine (text.take index) then
        (find (some (.empty limit))).Meets delimiter offset text index
          (some ((Body.empty limit).extend (Body.withoutLineEnd (text.take index))))
      else (find (some (.empty limit))).BreaksLine offset text index (some (.empty limit))
  /-- Without a body there is no room to run out of, and the delimiter may stand anywhere. -/
  absent_none : delimiter.firstIn text = none → (find none).Misses offset text none
  present_none : ∀ index, delimiter.firstIn text = some index →
    (find none).Meets delimiter offset text index none

/-- Two windows, whatever they hold, do what one window does that slides. On a stream without faults
they find what searching place by place finds, and lose and repeat no byte. -/
theorem windows_find_first (windows : Windows delimiter) (h : cursor.Faces offset text) :
    (∀ body, (windows.find cursor body).1 = Scan.find delimiter cursor body) ∧
      FindsFirst delimiter offset text fun body => (windows.find cursor body).1 := by
  refine ⟨windows.find_eq cursor, ?_⟩
  simp only [windows.find_eq]
  constructor
  · intro hnone limit hword hlimit
    exact Scan.find_of_absent h (Scan.fits_of_le hword hlimit) hnone
  · intro index hindex limit hword hlimit
    exact Scan.find_of_firstIn h hword hlimit hindex
  · intro hnone
    exact Scan.find_of_absent h nofun hnone
  · intro index hindex
    exact Scan.find_none_of_firstIn h hindex

/-- A delimiter that overlaps itself, and windows in which an earlier scan has left it. -/
def overlapping : Delimiter := .ofBytes [Octet.dash, 65]

def leftOver : Windows overlapping :=
  ⟨[Octet.dash, Octet.dash, Octet.dash, 65], [Octet.dash, Octet.dash, Octet.dash, 65], rfl, rfl⟩

/-- Two hyphens, CRLF, the delimiter and the two hyphens that close it. -/
def hyphens : List UInt8 :=
  [Octet.dash, Octet.dash, Octet.cr, Octet.lf, Octet.dash, Octet.dash, Octet.dash, 65, Octet.dash,
    Octet.dash]

theorem windows_find_first_hyphens :
    overlapping.firstIn hyphens = some 4 ∧
      Body.EndsLine (hyphens.take 4) ∧
      FindsFirst overlapping 0 hyphens fun body =>
        (leftOver.find (.ofSource (.ofBytes hyphens) 3) body).1 :=
  ⟨by decide, by decide, (windows_find_first leftOver (Cursor.faces_ofBytes hyphens 3)).2⟩

end Multipart
