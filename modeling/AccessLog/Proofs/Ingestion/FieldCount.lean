import AccessLog.Proofs.EventToken
import AccessLog.Proofs.Ingestion.Verdict

/-!
# Settings that ask for another number of fields

The number of fields in the settings is what a line is checked for, and a record is made of five.
Where the settings ask for another number, a line with as many fields as they ask for passes the
check and is no record all the same: it misfits (`Line.Misfits`), and that is a fault and no
rejection.

Within the limit on numerals it is the only fault there is, whatever number of fields the settings
ask for (`Line.parse_or_misfits`). A line that misfits therefore ends the reading of a log, unless
it is blank, and a log without such lines is read to a result (`Ingestion.exists_read_iff_misfits`).
-/

namespace AccessLog

namespace Line

/-- **A line misfits the settings**: it has the number of fields that they ask for, and this is not
the number of fields of a record. -/
def Misfits (s : Settings) (line : List Char) : Prop :=
  ((fields s.delimiter.toList line).length : Int) = s.fieldCount ∧ s.fieldCount ≠ recordFields

instance (s : Settings) (line : List Char) : Decidable (Misfits s line) :=
  inferInstanceAs (Decidable (_ ∧ _))

/-- What the fields of a line that misfits are at fault for. -/
def misfitFault (found : Nat) : Fault :=
  if found < recordFields then .tooFewFields found else .tooManyFields

section

variable {s : Settings} (hdelimiter : s.delimiter ≠ "") {line : List Char}
include hdelimiter

/-- A line with another number of fields than the settings ask for is rejected. -/
theorem parse_of_length_ne
    (h : ((fields s.delimiter.toList line).length : Int) ≠ s.fieldCount) :
    parse s line = .error
      (.rejected (.fieldCount s.fieldCount (fields s.delimiter.toList line).length)) := by
  rw [parse, split_eq_fields hdelimiter]
  simp [h, Except.mapError, bind, Except.bind, throw, throwThe, MonadExceptOf.throw]

/-- **A line that misfits is at fault.** -/
theorem parse_of_misfits (h : Misfits s line) :
    parse s line = .error (.fault (misfitFault (fields s.delimiter.toList line).length)) := by
  obtain ⟨hcount, hother⟩ := h
  rw [parse, split_eq_fields hdelimiter]
  generalize fields s.delimiter.toList line = fs at hcount ⊢
  have hlength : (fs.map String.ofList).length = fs.length := List.length_map _
  simp only [Except.mapError, bind, Except.bind, hlength, hcount, ne_eq, not_true_eq_false,
    if_false]
  split
  · -- five fields are what a record needs
    rename_i hfive
    rw [hfive] at hlength
    rw [← hcount, ← hlength] at hother
    exact absurd rfl hother
  · rw [misfitFault]
    split <;> rfl

variable (hformat : s.dateFormat = Timestamp.logFormat)
  (hlimit : s.fieldCount = recordFields → WithinLimit s line)
include hformat hlimit

/-- **Nothing else is a fault**: within the limit on numerals, a line that does not misfit is read
or rejected. -/
theorem parse_ne_fault_of_not_misfits (h : ¬ Misfits s line) (f : Fault) :
    parse s line ≠ .error (.fault f) := by
  by_cases hcount : s.fieldCount = recordFields
  · exact parse_ne_fault ⟨hdelimiter, hcount, hformat⟩ (hlimit hcount) f
  · rw [parse_of_length_ne hdelimiter fun hlength => h ⟨hlength, hcount⟩]
    exact fun habsurd => by cases habsurd

/-- A line gets a verdict exactly if it is blank or does not misfit. -/
theorem exists_judge_iff_misfits :
    (∃ v, judge s line = .ok v) ↔ IsBlank line ∨ ¬ Misfits s line := by
  rw [judge, IsBlank, Text.strip_eq_nil_iff]
  by_cases hblank : Text.allBlank line = true
  · simp [hblank]
  · rw [if_neg hblank]
    by_cases hmisfits : Misfits s line
    · rw [parse_of_misfits hdelimiter hmisfits]
      simp [hblank, hmisfits]
    · have hfault := parse_ne_fault_of_not_misfits hdelimiter hformat hlimit hmisfits
      refine iff_of_true ?_ (Or.inr hmisfits)
      cases hp : parse s line with
      | ok p => exact ⟨.kept p, rfl⟩
      | error r =>
        cases r with
        | rejected r => exact ⟨.rejected r, rfl⟩
        | fault f => exact absurd hp (hfault f)

/-- **A line is read or rejected, or it misfits.** Whatever number of fields the settings ask for,
within the limit on numerals a line gives a record or is rejected exactly if it does not misfit. If
it does, the fault is the number of its fields, and reading a log comes to a verdict on the line
only where it is blank. -/
theorem parse_or_misfits :
    (((∃ p, parse s line = .ok p) ∨ ∃ r, parse s line = .error (.rejected r))
      ↔ ¬ Misfits s line) ∧
    (∀ f, parse s line = .error (.fault f)
      ↔ Misfits s line ∧ f = misfitFault (fields s.delimiter.toList line).length) ∧
    ((∃ v, judge s line = .ok v) ↔ IsBlank line ∨ ¬ Misfits s line) := by
  have hfault := parse_ne_fault_of_not_misfits hdelimiter hformat hlimit
  refine ⟨⟨?_, fun h => ?_⟩, fun f => ⟨fun hf => ?_, ?_⟩,
    exists_judge_iff_misfits hdelimiter hformat hlimit⟩
  · rintro hread hmisfits
    rw [parse_of_misfits hdelimiter hmisfits] at hread
    rcases hread with ⟨p, hp⟩ | ⟨r, hr⟩
    · cases hp
    · cases hr
  · cases hp : parse s line with
    | ok p => exact Or.inl ⟨p, rfl⟩
    | error r =>
      cases r with
      | rejected r => exact Or.inr ⟨r, rfl⟩
      | fault f => exact absurd hp (hfault h f)
  · have hmisfits : Misfits s line := by
      by_contra h
      exact hfault h f hf
    rw [parse_of_misfits hdelimiter hmisfits] at hf
    cases hf
    exact ⟨hmisfits, rfl⟩
  · rintro ⟨hmisfits, rfl⟩
    exact parse_of_misfits hdelimiter hmisfits

end

/-- A line of five fields where the settings ask for five, and where they ask for six, and there a
line of six. -/
theorem parse_or_misfits_five_and_six :
    let five : Settings := {}
    let six : Settings := { fieldCount := 6 }
    let line := "10.0.0.1\tann\t1.1.2020 0:0:0\tSOLVE_TASK 18\tOK".toList
    let longer := "10.0.0.1\tann\t1.1.2020 0:0:0\tSOLVE_TASK 18\tOK\tmore".toList
    (five.delimiter ≠ "" ∧ five.dateFormat = Timestamp.logFormat ∧ WithinLimit five line) ∧
    (six.delimiter ≠ "" ∧ six.dateFormat = Timestamp.logFormat ∧ six.fieldCount ≠ recordFields) ∧
    ((∃ p, parse five line = .ok p) ∨ ∃ r, parse five line = .error (.rejected r)) ∧
    ((∃ p, parse six line = .ok p) ∨ ∃ r, parse six line = .error (.rejected r)) ∧
    parse six longer = .error (.fault .tooManyFields) ∧ ¬ ∃ v, judge six longer = .ok v := by
  intro five six line longer
  have hfive : WithinLimit five line := withinLimit_of_length_le (by decide)
  have hsix : ∀ l, six.fieldCount = recordFields → WithinLimit six l := fun _ h =>
    absurd h (by decide)
  obtain ⟨hread, -, -⟩ := parse_or_misfits (s := five) (by decide) rfl fun _ => hfive
  obtain ⟨hrejected, -, -⟩ := parse_or_misfits (s := six) (by decide) rfl (hsix line)
  obtain ⟨-, hfault, hjudge⟩ := parse_or_misfits (s := six) (by decide) rfl (hsix longer)
  exact ⟨⟨by decide, rfl, hfive⟩, ⟨by decide, rfl, by decide⟩, hread.mpr (by decide),
    hrejected.mpr (by decide), (hfault .tooManyFields).mpr (by decide),
    fun h => absurd (hjudge.mp h) (by decide)⟩

/-- **Not every line is read or rejected**: three fields where the settings ask for three. -/
theorem not_parse_three_fields :
    let s : Settings := { fieldCount := 3 }
    s.delimiter ≠ "" ∧ s.dateFormat = Timestamp.logFormat ∧ WithinLimit s "a\tb\tc".toList ∧
      ¬ ((∃ p, parse s "a\tb\tc".toList = .ok p) ∨
        ∃ r, parse s "a\tb\tc".toList = .error (.rejected r)) := by
  intro s
  have hparse : parse s "a\tb\tc".toList = .error (.fault (.tooFewFields 3)) := by decide
  refine ⟨by decide, rfl, withinLimit_of_length_le (by decide), ?_⟩
  rw [hparse]
  rintro (⟨p, hp⟩ | ⟨r, hr⟩)
  · cases hp
  · cases hr

end Line

namespace Ingestion

/-- **A log is read to a result exactly if every line of it that is reached is blank or does not
misfit**, whatever number of fields the settings ask for, within the limit on numerals. -/
theorem exists_read_iff_misfits {s : Settings} {e : Encoding} (hdelimiter : s.delimiter ≠ "")
    (hformat : s.dateFormat = Timestamp.logFormat)
    (he : Encoding.ofName s.codecs s.encoding = .ok e)
    (directory : String) {entries : List Entry}
    (hlimit : ∀ l ∈ reached e directory (Place.logFiles s.extension entries),
      s.fieldCount = Line.recordFields → Line.WithinLimit s l.text) :
    (∃ p, read s directory (.folder entries) = .ok p)
      ↔ ∀ l ∈ reached e directory (Place.logFiles s.extension entries),
          Line.IsBlank l.text ∨ ¬ Line.Misfits s l.text := by
  rw [exists_read_iff he directory]
  exact forall₂_congr fun l hl => Line.exists_judge_iff_misfits hdelimiter hformat (hlimit l hl)

end Ingestion

end AccessLog
