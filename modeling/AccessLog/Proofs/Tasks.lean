import AccessLog.Proofs.EventToken
import AccessLog.Proofs.Ingestion.Verdict
import AccessLog.Proofs.Predicate
import AccessLog.Proofs.Tally

/-!
# What an archive says about tasks agrees

About an event that concerns a task an archive answers several questions: how often
it happened on each task, how often on a given one, and which users did it, on any
task or on a given one. The first groups numbers, the others compare their decimal
forms, and the two agree as a number has one decimal form
(`Predicate.holds_iff_get_eq`). That nothing is left out when the tasks are put
together rests on a property of records that were read from a log: in whatever
spelling a token has the number, a record has a task exactly if its event concerns
one (`Archive.isSome_task_iff_of_read`).
-/

namespace AccessLog

namespace Archive

/-- **A record from a log has a task exactly if its event concerns one.** -/
theorem isSome_task_iff_of_read {s : Settings} {directory : String} {place : Place} {a : Archive}
    (h : Archive.read s directory place = .ok a) {r : Record} (hr : r ∈ a.dataset.records) :
    r.task.isSome ↔ ∃ e, r.event = some e ∧ e.hasTask = true := by
  obtain ⟨line, -, -, hrecord⟩ := exists_line_of_mem_records h hr
  obtain ⟨p, hp, rfl⟩ := Line.exists_parse_of_record? hrecord
  obtain ⟨ip, user, date, token, status, -, hfields⟩ := Line.exists_ofFields_of_parse hp
  exact EventToken.isSome_task_of_read (Line.activity_of_ofFields hfields)

/-- **The answers about a task event agree**: how often it happened on each task, how
often on a task that may be given, and the users that did it. -/
structure TasksAgree (a : Archive) (e : Event) (w : Window) (counts : Tally)
    (count : Option Scalar → Nat) (users : Option Scalar → List Scalar) : Prop where
  keys_nodup : (counts.map Prod.fst).Nodup
  keys_number : ∀ v k, (v, k) ∈ counts → ∃ n, v = .number n
  mem_counts : ∀ n k, (.number n, k) ∈ counts ↔ k = count (some (.number n)) ∧ 0 < k
  total : ∃ t, a.dataset.aggregate .event .tally w [] = .ok (.counts t) ∧
    counts.total = t.countOf (.event e)
  mem_users : ∀ u, u ∈ users none ↔
    ∃ n k, (.number n, k) ∈ counts ∧ u ∈ users (some (.number n))
  users_eq_nil : ∀ n, (∀ k, (.number n, k) ∉ counts) → users (some (.number n)) = []

section

variable (a : Archive) (e : Event) (w : Window)

/-- A task has an entry if a record in the window with the event has the task. -/
theorem exists_entry_iff (n : Int) :
    (∃ k, (.number n, k) ∈ a.tallyOf .task w [onEvent e]) ↔
      .number n ∈ a.dataset.values .task w [onEvent e] := by
  rw [tallyOf, ← List.count_pos_iff]
  constructor
  · rintro ⟨k, hk⟩
    obtain ⟨rfl, hpos⟩ := mem_tally.mp hk
    exact hpos
  · exact fun hpos => ⟨_, mem_tally.mpr ⟨rfl, hpos⟩⟩

/-- The users with the event, whatever the task. -/
theorem mem_usersOfTaskEvent_none {u : Scalar} :
    u ∈ a.usersOfTaskEvent e none w ↔
      ∃ r ∈ a.dataset.select w [onEvent e], r.get .user = some u := by
  rw [usersOfTaskEvent, collect, mem_distinct, Dataset.values, Dataset.project,
    List.mem_filterMap]
  rfl

/-- The users with the event on a task. -/
theorem mem_usersOfTaskEvent_some {n : Int} {u : Scalar} :
    u ∈ a.usersOfTaskEvent e (some (.number n)) w ↔
      ∃ r ∈ a.dataset.select w [onEvent e],
        r.get .task = some (.number n) ∧ r.get .user = some u := by
  rw [usersOfTaskEvent, collect, mem_distinct, Dataset.values, Dataset.project,
    List.mem_filterMap]
  show (∃ r ∈ a.dataset.select w ([onEvent e] ++ [⟨.task, some (.number n)⟩]), _) ↔ _
  rw [Dataset.select_concat]
  refine exists_congr fun r => ?_
  rw [List.mem_filter, Predicate.holds_iff_get_eq (.task n), and_assoc]

/-- **The answers about a task event agree** as soon as every record with the event
has a task. -/
theorem tasksAgree (h : ∀ r ∈ a.dataset.records, r.event = some e → r.task.isSome) :
    a.TasksAgree e w (a.tallyOf .task w [onEvent e])
      (fun task => a.count .task w [onEvent e, byTask task])
      (fun task => a.usersOfTaskEvent e task w) := by
  have hselected : ∀ r ∈ a.dataset.select w [onEvent e],
      r.task.isSome ∧ r.event = some e := by
    intro r hr
    obtain ⟨hmem, -, hholds⟩ := Dataset.mem_select.mp hr
    have hevent := onEvent_holds_iff.mp (hholds _ List.mem_cons_self)
    exact ⟨h r hmem hevent, hevent⟩
  constructor
  case keys_nodup =>
    rw [tallyOf, keys_tally]
    exact nodup_distinct _
  case keys_number =>
    intro v k hk
    obtain ⟨rfl, hpos⟩ := mem_tally.mp hk
    obtain ⟨r, -, hr⟩ := List.mem_filterMap.mp (List.count_pos_iff.mp hpos)
    cases Record.stores_of_get hr with
    | task n => exact ⟨n, rfl⟩
  case mem_counts =>
    intro n k
    have hcount : a.count .task w [onEvent e, byTask (some (.number n))]
        = (a.dataset.values .task w [onEvent e]).count (.number n) :=
      a.dataset.length_values_concat w [onEvent e] (.task n)
    rw [hcount]
    exact mem_tally
  case total =>
    refine ⟨_, rfl, ?_⟩
    rw [tallyOf, total_tally, countOf_tally, ← a.dataset.length_values_concat w [] (.event e)]
    show _ = (a.dataset.values .event w [onEvent e]).length
    rw [Dataset.length_values _ _ _ fun r hr => ?_, Dataset.length_values _ _ _ fun r hr => ?_]
    · rw [Record.get, (hselected r hr).2]
      rfl
    · rw [Record.get, Option.isSome_map]
      exact (hselected r hr).1
  case mem_users =>
    intro u
    rw [mem_usersOfTaskEvent_none]
    constructor
    · rintro ⟨r, hr, hu⟩
      obtain ⟨n, hn⟩ := Option.isSome_iff_exists.mp (hselected r hr).1
      have htask : r.get .task = some (.number n) := by rw [Record.get, hn]; rfl
      obtain ⟨k, hk⟩ := (a.exists_entry_iff e w n).mpr (List.mem_filterMap.mpr ⟨r, hr, htask⟩)
      exact ⟨n, k, hk, (a.mem_usersOfTaskEvent_some e w).mpr ⟨r, hr, htask, hu⟩⟩
    · rintro ⟨n, -, -, hu⟩
      obtain ⟨r, hr, -, hu⟩ := (a.mem_usersOfTaskEvent_some e w).mp hu
      exact ⟨r, hr, hu⟩
  case users_eq_nil =>
    intro n hnone
    refine List.eq_nil_iff_forall_not_mem.mpr fun u hu => ?_
    obtain ⟨r, hr, htask, -⟩ := (a.mem_usersOfTaskEvent_some e w).mp hu
    obtain ⟨k, hk⟩ := (a.exists_entry_iff e w n).mpr (List.mem_filterMap.mpr ⟨r, hr, htask⟩)
    exact hnone k hk

end

/-- **The answers about tasks agree on every archive.** Whatever place is read under
whatever settings: if there is an archive, then in every window the attempts at
tasks agree, and so do the completions. -/
theorem tasksAgree_of_read {s : Settings} {directory : String} {place : Place} {a : Archive}
    (h : Archive.read s directory place = .ok a) (w : Window) :
    a.TasksAgree .solveTask w (a.attempts w) (fun task => a.attemptCount task w)
        (fun task => a.solvingUsers task w) ∧
      a.TasksAgree .doneTask w (a.completions w) (fun task => a.doneCount task w)
        (fun task => a.doneUsers task w) := by
  have htask : ∀ e : Event, e.hasTask = true →
      ∀ r ∈ a.dataset.records, r.event = some e → r.task.isSome := fun e he r hr hevent =>
    (isSome_task_iff_of_read h hr).mpr ⟨e, hevent, he⟩
  exact ⟨a.tasksAgree .solveTask w (htask _ rfl), a.tasksAgree .doneTask w (htask _ rfl)⟩

/-- One task in three spellings, one of them at the end of the window, where it does
not count. -/
theorem tasksAgree_of_read_spellings :
    let bytes := fun text : String => text.toList.map (fun c => c.toNat.toUInt8)
    let first : SourceFile := ⟨"a.log", bytes (
      "10.0.0.1\tann\t1.1.2020 0:0:0\tSOLVE_TASK 018\tOK\n" ++
      "10.0.0.1\tbob\t1.1.2020 0:0:0\t+1 8 SOLVE_TASK\tOK\n"), none⟩
    let second : SourceFile := ⟨"b.log", bytes (
      "10.0.0.1\tann\t2.1.2020 0:0:0\tSOLVE_TASK 18\tOK\n" ++
      "10.0.0.1\tbob\t1.1.2020 0:0:0\tDONE_TASK -7\tOK\n"), none⟩
    let w : Window := { before := some (.mk 2020 1 2 0 0 0 0) }
    ∃ a, Archive.read {} "logs" (.folder [.file first, .file second]) = .ok a ∧
      a.attempts w = [(.number 18, 2)] ∧ a.completions w = [(.number (-7), 1)] ∧
      a.TasksAgree .solveTask w [(.number 18, 2)] (fun task => a.attemptCount task w)
        (fun task => a.solvingUsers task w) ∧
      a.TasksAgree .doneTask w [(.number (-7), 1)] (fun task => a.doneCount task w)
        (fun task => a.doneUsers task w) := by
  intro bytes first second w
  obtain ⟨a, hread, hrecords, -⟩ := exists_read "logs" [first, second] (by decide) (by decide)
    (List.Perm.refl [Entry.file first, Entry.file second]) (by decide)
  let day : Option Timestamp := some (.mk 2020 1 1 0 0 0 0)
  have hlog : a.dataset.records =
      [⟨"10.0.0.1", "ann", day, some .solveTask, some 18, some .ok⟩,
        ⟨"10.0.0.1", "bob", day, some .solveTask, some 18, some .ok⟩,
        ⟨"10.0.0.1", "ann", w.before, some .solveTask, some 18, some .ok⟩,
        ⟨"10.0.0.1", "bob", day, some .doneTask, some (-7), some .ok⟩] := by
    rw [hrecords]
    decide
  have hattempts : a.attempts w = [(.number 18, 2)] := by
    rw [attempts, tallyOf, Dataset.values, Dataset.select, hlog]
    decide
  have hcompletions : a.completions w = [(.number (-7), 1)] := by
    rw [completions, tallyOf, Dataset.values, Dataset.select, hlog]
    decide
  obtain ⟨hsolve, hdone⟩ := tasksAgree_of_read hread w
  rw [hattempts] at hsolve
  rw [hcompletions] at hdone
  exact ⟨a, hread, hattempts, hcompletions, hsolve, hdone⟩

end Archive

end AccessLog
