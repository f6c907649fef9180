import AccessLog.Command.Toolkit
import AccessLog.Proofs.Conservation
import AccessLog.Proofs.Path

/-!
# Running a command

A command whose directory is read, and gives a record if a failure stops the reading, does
its job with what was read (`runJob_of_loads`). It reads timestamps in the form of the
logs, so the clocks of its records are without offsets (`Loads.offset_eq_none`).
-/

namespace AccessLog.Command

/-- **A progress that a command goes on with**: that of its directory, if nothing has
failed or there is a record. -/
structure Loads (codecs : Registry) (look : String → Place) (src : Source) (p : Progress) :
    Prop where
  read : Ingestion.read (src.settings codecs) (Path.normal src.directory)
    (look (Path.normal src.directory)) = .ok p
  usable : p.report.readError = none ∨ p.dataset.records ≠ []

section

variable {codecs : Registry} {look : String → Place} {src : Source} {p : Progress}

/-- **A command does its job with what was read.** -/
theorem runJob_of_loads (h : Loads codecs look src p) (job : Job Period) :
    runJob codecs look src job =
      { perform p job with log := shown src.verbose p.journal ++ (perform p job).log } := by
  rw [runJob, h.read]
  dsimp only
  cases herror : p.report.readError with
  | none => rfl
  | some e =>
    cases hrecords : p.dataset.records with
    | nil =>
      rcases h.usable with hnone | hsome
      · cases hnone.symm.trans herror
      · exact absurd hrecords hsome
    | cons r rs => rfl

/-- **A command goes on with the records of a log file** whose lines are short, if it is all
that is in the directory. -/
theorem exists_loads {directory : String} {f : SourceFile}
    (hnormal : Path.normal directory = directory) (hlook : look directory = .folder [.file f])
    (hext : Place.hasExtension ({} : Settings).extension f.name = true)
    (hreadable : f.interrupt = none)
    (hshort : ∀ text ∈ Text.lines (Encoding.utf8.decode f.bytes),
      text.length ≤ Text.Numeral.maxDigits) :
    ∃ p, Ingestion.read {} directory (look directory) = .ok p ∧
      Loads .empty look ⟨directory, none, none, false⟩ p ∧
      p.dataset.records = SourceLine.recordsOf {} (Ingestion.reached .utf8 directory [f]) := by
  obtain ⟨a, hread, hrecords, hreport⟩ := Archive.exists_read directory [f]
    (List.pairwise_singleton _ f) (fun _ hg => List.mem_singleton.mp hg ▸ hext)
    (List.Perm.refl [Entry.file f]) (fun _ hg => List.mem_singleton.mp hg ▸ hshort)
  obtain ⟨p, hp, rfl⟩ := Archive.exists_progress_of_read hread
  rw [← hlook] at hp
  refine ⟨p, hp, ⟨?_, .inl ?_⟩, hrecords⟩
  · show Ingestion.read {} (Path.normal directory) (look (Path.normal directory)) = .ok p
    rw [hnormal, hp]
  · rw [show p.report = _ from hreport]
    exact Ingestion.firstFailure_of_readable
      (fun _ hg => List.mem_singleton.mp hg ▸ hreadable) directory

/-- A command does the same under the normal form of its path. -/
theorem runJob_normal (codecs : Registry) (look : String → Place) (src : Source)
    (job : Job Period) :
    runJob codecs look { src with directory := Path.normal src.directory } job
      = runJob codecs look src job := by
  rw [runJob, runJob, Path.normal_normal]
  rfl

/-- What is given for a source does not change the format of dates. -/
theorem Source.dateFormat_settings (codecs : Registry) (src : Source) :
    (src.settings codecs).dateFormat = Timestamp.logFormat := by
  rw [settings]
  cases src.encoding <;> cases src.extension <;> rfl

/-- The form of the logs has no offset. -/
theorem Source.not_readsOffset (codecs : Registry) (src : Source) :
    ¬ (src.settings codecs).ReadsOffset := by
  rintro ⟨items, hitems, hoffset⟩
  rw [src.dateFormat_settings codecs, Timestamp.format_logFormat] at hitems
  cases hitems
  revert hoffset
  decide

/-- The records that a command works with are without offsets. -/
theorem Loads.offset_eq_none (h : Loads codecs look src p) :
    ∀ r ∈ p.chronicle.entries, r.offset = none :=
  Ingestion.offset_eq_none h.read (src.not_readsOffset codecs)

end

namespace Toolkit

variable {kit : Toolkit} {look : String → Place} {args : List String} {src : Source}

/-- A command that was called is run and its response printed. -/
theorem run_of_call {job : Job (Bounds kit.readDate)}
    (h : kit.call kit.readDate look args = .command src job) :
    kit.run look args = kit.write (runJob kit.codecs look src (job.map Bounds.period)) := by
  rw [run, h]

/-- Lines of the result are printed one behind the other. -/
theorem print_lines (kit : Toolkit) (o : Outcome) (ls : List String) :
    kit.print o (ls.map .line) = o.addOutput (String.join (ls.map kit.echo)) := by
  induction ls generalizing o with
  | nil => simp [print, Outcome.addOutput]
  | cons l ls ih =>
    rw [List.map_cons, print, ih, List.map_cons, String.join_cons]
    simp [Outcome.addOutput, String.append_assoc]

end Toolkit

end AccessLog.Command
