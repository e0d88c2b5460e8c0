import Multipart.Proofs.Cursor.Agreement
import Multipart.Proofs.Decoder.Following
import Multipart.Proofs.Decoder.Invariant

/-! # Streaming

A run pulls little more from a stream than it consumes, and what it shows depends only on what it
has consumed: while parts may follow, it has read up to the end of a delimiter line and asked for
nothing after it. -/

namespace Multipart

open Cursor (Agree Kept Lapsed Reads)

/-! ## Scans and header blocks -/

/-- A cursor that still moves, and comes no further than an offset, has not come to it. -/
theorem Cursor.not_lapsed {stop : Nat} {cursor after : Cursor}
    (hkept : ∀ P : Cursor → Prop, Kept P → P cursor → P after)
    (hlt : cursor.position < after.position) (hle : after.position ≤ stop) :
    ¬Lapsed stop cursor := by
  rintro (hge | ⟨offset, hdry⟩)
  · omega
  · have hafter := hkept _ (kept_dry offset) hdry
    rw [hdry.position_eq, hafter.position_eq] at hlt
    exact absurd hlt (Nat.lt_irrefl offset)

namespace Scan

variable {base stop : Nat} {delimiter : Delimiter} {a b after : Cursor} {body : Option Body}

theorem not_lapsed_of_delimiterLine (h : delimiterLine a = .ok .opening after)
    (hle : after.position ≤ stop) : ¬Lapsed stop a := by
  obtain ⟨line, hopens, hreads⟩ := opens_of_delimiterLine h
  have hposition := hreads.position_eq
  have hpos := hopens.length_pos
  refine Cursor.not_lapsed (fun P hP ha => ?_) (by omega) hle
  have hafter := (related_delimiterLine hP.bisimulation.inStep ⟨rfl, ha⟩).state.2
  rwa [h] at hafter

theorem not_lapsed_of_find (h : (find delimiter a body).outcome = .ok (.found .opening))
    (hle : (find delimiter a body).cursor.position ≤ stop) : ¬Lapsed stop a := by
  have hposition := Decoder.position_find h
  exact Cursor.not_lapsed
    (fun P hP ha => (alike_find hP.bisimulation ⟨rfl, ha⟩ delimiter body).cursor.2) (by omega) hle

/-- An opening line is read alike from every stream that agrees up to its end. -/
theorem agree_delimiterLine (h : Agree base stop a b) (hline : delimiterLine a = .ok .opening after)
    (hle : after.position ≤ stop) :
    ∃ other, delimiterLine b = .ok .opening other ∧ Agree base stop after other := by
  obtain ⟨line, hopens, hreads⟩ := opens_of_delimiterLine hline
  have hposition := hreads.position_eq
  have hbefore := h.before_eq
  rw [hreads.upcoming_eq] at hbefore
  obtain ⟨later, hlater, hrest⟩ := Moment.before_eq_append (by omega) hbefore
  have hoffers : b.Offers base line later := by
    refine ⟨hlater, h.pulled_eq, fun offset _ hlt => h.portion_ne offset ?_⟩
    rw [← h.position_eq] at hlt
    omega
  obtain ⟨other, hother, hafter⟩ := delimiterLine_of_opens hopens hoffers
  obtain ⟨passed, hpasses⟩ := Decoder.leads_delimiterLine hother
  have hupcoming : other.upcoming = later := hafter.upcoming_eq
  have hpassed := hpasses.upcoming_eq
  rw [hlater, hupcoming] at hpassed
  rw [← List.append_cancel_right hpassed] at hpasses
  refine ⟨other, hother, h.passes hreads hpasses ?_⟩
  rw [hupcoming, hposition, Nat.sub_add_eq]
  exact hrest

/-- A delimiter before a part is found alike in every stream that agrees up to the end of its
line. -/
theorem agree_find (h : Agree base stop a b) (body : Option Body)
    (hfind : (find delimiter a body).outcome = .ok (.found .opening))
    (hle : (find delimiter a body).cursor.position ≤ stop) :
    Scan.Alike (Agree base stop) (find delimiter a body) (find delimiter b body) := by
  simp only [find] at hfind hle ⊢
  cases hstop : (seek delimiter a body).stop with
  | failed error => simp [hstop] at hfind
  | ended place => simp [hstop] at hfind
  | matched offset =>
      simp only [hstop] at hfind hle ⊢
      cases hline : delimiterLine (seek delimiter a body).cursor with
      | error error failed => simp [hline] at hfind
      | ok kind after =>
          simp only [hline, Except.ok.injEq, Outcome.found.injEq] at hfind hle ⊢
          subst hfind
          have hle : after.position ≤ stop := hle
          have hseek := tracks_slide (Cursor.tracks_agree base stop) h delimiter body [] [] hstop
            (not_lapsed_of_delimiterLine hline hle)
          obtain ⟨other, hother, hafter⟩ := agree_delimiterLine hseek.cursor hline hle
          have hsame : (seek delimiter b body).stop = .matched offset :=
            hseek.stop_eq.symm.trans hstop
          have hother : delimiterLine (seek delimiter b body).cursor = .ok .opening other := hother
          simp only [hsame, hother]
          exact ⟨rfl, hseek.body_eq, rfl, hafter.clearMark⟩

end Scan

/-- While parts may follow and the stream is not read beyond an offset, all is read alike from every
stream that agrees up to there. -/
theorem Cursor.following_agree (delimiter : Delimiter) (settings : Settings) (base stop : Nat) :
    Following delimiter settings settings
      (fun phase cursor => phase.isOpen ∧ cursor.position ≤ stop) (Agree base stop) where
  loosens := ⟨Nat.le_refl _, Nat.le_refl _, id⟩
  position_eq := Agree.position_eq
  good_of_leads := by
    rintro phase earlier cursor after ⟨-, hle⟩ ⟨passed, hpasses⟩ hopen
    have hposition := hpasses.position_eq
    exact ⟨hopen, by omega⟩
  find := by
    rintro a b body other outcome hab hbody hfind ⟨hopen, hle⟩
    obtain rfl := Outcome.eq_opening_of_isOpen hopen
    have hlimit := Scan.follows_find hbody hfind
    rw [hlimit.cursor] at hle
    have halike := Scan.agree_find hab other (hlimit.outcome_eq.trans hfind) hle
    refine ⟨halike.outcome_eq.symm.trans hlimit.outcome_eq, halike.body_eq ▸ hlimit.body, ?_⟩
    rw [hlimit.cursor]
    exact halike.cursor
  readBlock := by
    rintro a b headers after body outcome hab hblock hfind ⟨hopen, hle⟩
    obtain rfl := Outcome.eq_opening_of_isOpen hopen
    exact Header.tracks_readBlock (tracks_agree base stop) hab hblock
      (Scan.not_lapsed_of_find hfind hle)

/-! ## Runs -/

/-- Another stream does the same as a stream until it has delivered so many bytes, and hands them
out when they are asked for. -/
structure Source.Agrees (count : Nat) (source other : Source) : Prop where
  before_eq : Moment.before count source.script = Moment.before count other.script
  portion_ne : ∀ offset < count, other.portion (other.pulled + offset) ≠ some 0

namespace Decoder

variable {source : Source} {text : String} {settings : Settings} {fresh : Decoder}

/-- What is pulled beyond what is consumed is held in the buffer, which takes up one chunk. -/
theorem pulls_after (hnew : ofSource source text settings = .ok fresh) (queries : List Query) :
    (fresh.after queries).cursor.Pulls source.pulled
      (max settings.readBufferSize fresh.delimiter.length) := by
  have hpulls : fresh.cursor.Pulls source.pulled
      (max settings.readBufferSize fresh.delimiter.length) := by
    simp only [ofSource] at hnew
    split at hnew
    · cases hnew
    · rename_i contentType _
      cases hnew
      have hlength : 0 < contentType.delimiter.length := Nat.succ_pos _
      exact ⟨rfl, Nat.zero_le _, Nat.max_eq_left
        (Nat.le_trans hlength (Nat.le_max_right settings.readBufferSize _))⟩
  have hinvariant := (Cursor.kept_pulls source.pulled
    (max settings.readBufferSize fresh.delimiter.length)).invariant fresh.delimiter
  exact (Meets.reached hinvariant ⟨rfl, hpulls⟩ (reached_after fresh queries)).cursor

/-- A run pulls no more than a chunk beyond what it has consumed. While no query has failed and a
part follows, what it shows is decided by what it has consumed: any stream that does the same up to
there shows the same, whatever it does after it. -/
theorem run_streams (hnew : ofSource source text settings = .ok fresh) (queries : List Query) :
    (source.pulled + (fresh.after queries).position ≤
        (fresh.after queries).cursor.source.pulled ∧
      (fresh.after queries).cursor.source.pulled ≤
        source.pulled + (fresh.after queries).position +
          max settings.readBufferSize fresh.delimiter.length) ∧
    ((∀ answer ∈ fresh.answers queries, answer.isOk) → (fresh.after queries).phase = .scanning →
      ∀ other, source.Agrees (fresh.after queries).position other →
        observe other text settings queries = observe source text settings queries) := by
  constructor
  · have hpulls := pulls_after hnew queries
    have hpulled := hpulls.pulled_eq
    have hahead := hpulls.ahead_le
    simp only [position]
    omega
  · intro hok hphase other hagrees
    have hcursors : ∀ least, Agree other.pulled (fresh.after queries).position
        (Cursor.ofSource source (max settings.readBufferSize least))
        (Cursor.ofSource other (max settings.readBufferSize least)) :=
      fun _ => ⟨rfl, hagrees.before_eq, rfl, hagrees.portion_ne⟩
    obtain ⟨twin, htwin, hfollows⟩ := follows_ofSource hnew hcursors
    have hF := Cursor.following_agree fresh.delimiter settings other.pulled
      (fresh.after queries).position
    have hopen : (fresh.after queries).phase.isOpen := by
      rw [hphase]
      rfl
    have hrun := follows_after hF hfollows hok ⟨hopen, Nat.le_refl _⟩
    rw [observe, observe, hnew, htwin]
    exact congrArg Except.ok hrun.2

/-- A stream that pauses before a header block and goes on with a second part. -/
def goesOn : Source :=
  .ofPlan [45, 45, 66, 10, 10, 114, 10, 45, 45, 66, 10, 88, 45] [⟨4, .pause, 1⟩] none

/-- The same stream up to the second part, read byte by byte, and a failure there. -/
def breaksOff : Source :=
  .ofPlan [45, 45, 66, 10, 10, 114, 10, 45, 45, 66, 10]
    [⟨4, .pause, 1⟩, ⟨11, .failure (.device .timedOut "timed out"), 1⟩] (some 1)

theorem run_streams_breaks_off :
    ∃ fresh, ofSource goesOn "multipart/mixed; boundary=B" = .ok fresh ∧
      (∀ answer ∈ fresh.answers [.root], answer.isOk) ∧
      (fresh.after [.root]).phase = .scanning ∧
      goesOn.Agrees (fresh.after [.root]).position breaksOff ∧
      (fresh.after [.root]).cursor.source.pulled ≤ (fresh.after [.root]).position + 8192 ∧
      observe breaksOff "multipart/mixed; boundary=B" {} [.root] =
        observe goesOn "multipart/mixed; boundary=B" {} [.root] := by
  obtain ⟨fresh, hnew, hcheck⟩ := exists_of_any goesOn "multipart/mixed; boundary=B" {}
    (fun fresh => (fresh.answers [.root]).all Except.isOk &&
      decide ((fresh.after [.root]).phase = .scanning ∧ (fresh.after [.root]).position = 11 ∧
        fresh.delimiter.length = 3)) (by decide +kernel)
  simp only [Bool.and_eq_true, decide_eq_true_eq, List.all_eq_true] at hcheck
  obtain ⟨hok, hphase, hposition, hlength⟩ := hcheck
  obtain ⟨⟨-, hpulled⟩, hshows⟩ := run_streams hnew [.root]
  have hagrees : goesOn.Agrees (fresh.after [.root]).position breaksOff := by
    rw [hposition]
    exact ⟨rfl, fun _ _ => by simp [breaksOff, Source.ofPlan]⟩
  rw [hlength] at hpulled
  exact ⟨fresh, hnew, hok, hphase, hagrees, by simpa [goesOn, Source.ofPlan] using hpulled,
    hshows hok hphase breaksOff hagrees⟩

end Decoder

end Multipart
