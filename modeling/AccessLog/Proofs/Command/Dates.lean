import AccessLog.Proofs.Console.TypedDate

/-!
# Dates on the command line

A date on the command line may be spelled in several ways (`Timestamp.Spelling`). Where
the toolkit takes the day first, each of them is read, and the spellings that are read
as they are meant can stand for each other: whichever of them is used, the window is the
same and so is what the program does (`spellings_agree`). The spellings with the year
first are among these only for some days, as the other two numbers are read with the day
first.
-/

namespace AccessLog.Command

open Timestamp (Spelling DayFirst)

namespace Toolkit

variable {kit : Toolkit}

/-- A text of digits and marks is read by the toolkit. -/
theorem readDate_of_typed {text : String} (h : Timestamp.Typed text) {m : Moment}
    (hm : kit.dateOf text = .ok m) : kit.readDate text = .ok m := by
  obtain ⟨u, hu⟩ := Timestamp.read_logFormat_of_typed h
  rw [readDate, hu, hm]
  rfl

/-- **What is read of a spelling**, for an instant with a year of four digits and without
microseconds. -/
theorem readDate_text (h : DayFirst kit.dateOf) {t : Timestamp} (hy : 1000 ≤ t.year)
    (hm : t.micro = 0) (s : Spelling) : kit.readDate (s.text t) = .ok ⟨s.reading t, none⟩ := by
  by_cases hs : s = .log
  · subst hs
    show kit.readDate t.logForm = _
    rw [readDate, Timestamp.read_logForm hy hm]
    rfl
  · exact readDate_of_typed (Spelling.typed_text t hs) (Spelling.dateOf_text h hy hm hs)

end Toolkit

/-- **The same bound, perhaps spelled in another way**, where both ways mean the same
instant and are read as they are meant. -/
inductive Respelled {read : DateReader} : Option (Bound read) → Option (Bound read) → Prop
  | same (b : Option (Bound read)) : Respelled b b
  | date {b b' : Bound read} {t : Timestamp} (hy : 1000 ≤ t.year) (hm : t.micro = 0)
      {s s' : Spelling} (hb : b.text = s.text t) (hb' : b'.text = s'.text t) (hs : s.Faithful t)
      (hs' : s'.Faithful t) (hmeant : s.meant t = s'.meant t) : Respelled (some b) (some b')

/-- A bound that is spelled in another way is the same moment. -/
theorem Respelled.moment_eq {kit : Toolkit} (h : DayFirst kit.dateOf)
    {b b' : Option (Bound kit.readDate)} (hb : Respelled b b') :
    b.map Bound.moment = b'.map Bound.moment := by
  cases hb with
  | same => rfl
  | @date b b' t hy hm s s' htext htext' hs hs' hmeant =>
    have hread := Toolkit.readDate_text h hy hm s
    have hread' := Toolkit.readDate_text h hy hm s'
    rw [← htext, b.reads, Except.ok.injEq] at hread
    rw [← htext', b'.reads, Except.ok.injEq] at hread'
    rw [Option.map_some, Option.map_some, hread, hread', (s.reading_eq_meant_iff t).mpr hs,
      (s'.reading_eq_meant_iff t).mpr hs', hmeant]

/-- **What the spellings of a date mean**, where the toolkit takes the day first. Let an
instant have a year of four digits and no microseconds. Every spelling of it is read, and it
is read as it is meant exactly if the year does not come first, or the day can be no month or
is the number of the month. And windows whose bounds differ in such spellings are the same
period, so that the same job with either of them is the same run of the program. -/
theorem spellings_agree {kit : Toolkit} (h : DayFirst kit.dateOf) :
    (∀ t : Timestamp, 1000 ≤ t.year → t.micro = 0 → ∀ s : Spelling,
      kit.readDate (s.text t) = .ok ⟨s.reading t, none⟩ ∧
        (s.reading t = s.meant t ↔ s.Faithful t)) ∧
    ∀ w w' : Bounds kit.readDate, Respelled w.after w'.after → Respelled w.before w'.before →
      w.period = w'.period ∧
      ∀ (look : String → Place) (args args' : List String) (src : Source) (job : Job Unit),
        kit.call kit.readDate look args = .command src (job.map fun _ => w) →
        kit.call kit.readDate look args' = .command src (job.map fun _ => w') →
        kit.run look args = kit.run look args' := by
  refine ⟨fun t hy hm s => ⟨Toolkit.readDate_text h hy hm s, s.reading_eq_meant_iff t⟩, ?_⟩
  intro w w' hafter hbefore
  have hperiod : w.period = w'.period := by
    rw [Bounds.period, Bounds.period, hafter.moment_eq h, hbefore.moment_eq h]
  refine ⟨hperiod, fun look args args' src job hcall hcall' => ?_⟩
  have hjob : (job.map fun _ => w).map Bounds.period = (job.map fun _ => w').map Bounds.period := by
    cases job <;> simp [Job.map, hperiod]
  rw [Toolkit.run, Toolkit.run, hcall, hcall']
  show kit.write (runJob _ look src _) = kit.write (runJob _ look src _)
  rw [hjob]

/-- One window, each end spelled in two ways. -/
theorem spellings_agree_in_march :
    let kit := Console.toolkit 2026
    let look := fun path : String => if path = "logs" then Place.folder [] else .missing
    kit.readDate "2020-03-15 09:30:00" = .ok ⟨.mk 2020 3 15 9 30 0 0, none⟩ ∧
      kit.run look ["users", "--log-dir", "logs", "--after", "15.3.2020 9:30:0",
          "--before", "2020-03-20"]
        = kit.run look ["users", "--log-dir", "logs", "--after", "2020-03-15 09:30:00",
          "--before", "20/03/2020"] := by
  intro kit look
  let first : Timestamp := .mk 2020 3 15 9 30 0 0
  let last : Timestamp := .mk 2020 3 20 0 0 0 0
  let bound (s : Spelling) (t : Timestamp) (hy : 1000 ≤ t.year) (hm : t.micro = 0) :
      Bound kit.readDate :=
    ⟨s.text t, _, Toolkit.readDate_text (Console.dayFirst_dateOf 2026) hy hm s⟩
  let w : Bounds kit.readDate := ⟨some (bound .log first (by decide) rfl),
    some (bound .hyphensDay last (by decide) rfl)⟩
  let w' : Bounds kit.readDate := ⟨some (bound .hyphens first (by decide) rfl),
    some (bound .slashesDay last (by decide) rfl)⟩
  have hafter : Respelled w.after w'.after := by
    have hlog : Spelling.log.Faithful first := trivial
    have hhyphens : Spelling.hyphens.Faithful first := .inl (by decide)
    exact .date (t := first) (by decide) rfl rfl rfl hlog hhyphens rfl
  have hbefore : Respelled w.before w'.before := by
    have hhyphens : Spelling.hyphensDay.Faithful last := .inl (by decide)
    have hslashes : Spelling.slashesDay.Faithful last := trivial
    exact .date (t := last) (by decide) rfl rfl rfl hhyphens hslashes rfl
  obtain ⟨hread, hwindow⟩ := spellings_agree (Console.dayFirst_dateOf 2026)
  obtain ⟨-, hrun⟩ := hwindow w w' hafter hbefore
  refine ⟨?_, hrun look _ _ ⟨"logs", none, none, false⟩ (.list (.users none none) ()) ?_ ?_⟩
  · have hfirst : Spelling.hyphens.text first = "2020-03-15 09:30:00" := by decide
    rw [← hfirst]
    exact (hread first (by decide) rfl .hyphens).1
  · decide
  · decide

/-- The fifth of March, spelled with the year first, is read as the third of May. -/
theorem readDate_fifth_of_march :
    let kit := Console.toolkit 2026
    let t : Timestamp := .mk 2020 3 5 0 0 0 0
    Spelling.hyphensDay.text t = "2020-03-05" ∧ Spelling.hyphensDay.meant t = t ∧
      kit.readDate "2020-03-05" = .ok ⟨.mk 2020 5 3 0 0 0 0, none⟩ ∧
      kit.readDate "05/03/2020" = .ok ⟨t, none⟩ ∧
      kit.readDate "5.3.2020 0:0:0" = .ok ⟨t, none⟩ := by
  intro kit t
  have hhyphens : Spelling.hyphensDay.text t = "2020-03-05" := by decide
  have hslashes : Spelling.slashesDay.text t = "05/03/2020" := by decide
  have hlog : Spelling.log.text t = "5.3.2020 0:0:0" := by decide
  have hread := Toolkit.readDate_text (Console.dayFirst_dateOf 2026) (t := t) (by decide) rfl
  refine ⟨hhyphens, rfl, ?_, ?_, ?_⟩
  · rw [← hhyphens, hread]
    decide
  · rw [← hslashes, hread]
    rfl
  · rw [← hlog, hread]
    rfl

end AccessLog.Command
