import AccessLog.Proofs.Command.Printing

/-!
# What the commands list

Three commands list the values of a field. Each of their options demands something of
a record (`Choice.Demands`), and so does each bound of the time window. A value is listed
if one record has it and meets the demands – not all of them, for not every option that
is given is heeded (`Listing.Heeds`). An empty user and an empty address are as good as
not given, and beside an event or a user an address is not looked at. Nothing else is left
out, whatever options are given (`run_listing`), unless a bound of the window has an offset
from universal time: then the first record with an instant ends the command.
-/

namespace AccessLog.Command

/-! ## Demands -/

/-- An option that is given for a listing, with its value. -/
inductive Choice where
  /-- A user. -/
  | user (name : String)
  /-- An event. -/
  | event (e : Event)
  /-- An address. -/
  | ip (address : String)
deriving DecidableEq, Repr

/-- **What an option demands of a record.** -/
def Choice.Demands (r : Record) : Choice → Prop
  | user name => r.user = name
  | event e => r.event = some e
  | ip address => r.ip = address

/-- **What the bounds of a time window demand of a record**: an instant behind the one and
before the other. -/
def Bounds.Demands {read : DateReader} (w : Bounds read) (r : Record) : Prop :=
  (∀ a ∈ w.after, ∃ t ∈ r.timestamp, a.moment.clock < t) ∧
    ∀ b ∈ w.before, ∃ t ∈ r.timestamp, t < b.moment.clock

namespace Listing

/-- The options that are given. -/
def choices : Listing → List Choice
  | ips user => user.toList.map .user
  | users event ip => event.toList.map .event ++ ip.toList.map .ip
  | events user ip => user.toList.map .user ++ ip.toList.map .ip

/-- **Whether an option that is given is heeded**: a user unless it is empty, and an address
unless it is empty or there is an event or a user that is heeded. -/
def Heeds (l : Listing) : Choice → Prop
  | .user name => name ≠ ""
  | .event _ => True
  | .ip address => address ≠ "" ∧ (∀ e, .event e ∉ l.choices) ∧
      ∀ name, .user name ∈ l.choices → name = ""

/-! ## Predicates -/

/-- A text that is given counts unless it is empty. -/
theorem given_cases (text : Option String) :
    given text = none ∧ (∀ value ∈ text, value = "") ∨
      ∃ value, text = some value ∧ value ≠ "" ∧ given text = some (.text value) := by
  cases text with
  | none => exact .inl ⟨rfl, fun _ h => absurd h (Option.not_mem_none _)⟩
  | some value =>
    by_cases hvalue : value = ""
    · subst hvalue
      exact .inl ⟨rfl, fun _ h => (Option.some.inj h).symm⟩
    · exact .inr ⟨value, rfl, hvalue, by simp [given, Option.filter, hvalue]⟩

/-- No listing is of dates. -/
theorem field_ne_date (l : Listing) : l.field ≠ .date := by
  cases l <;> exact Field.noConfusion

variable (r : Record)

/-- **A record satisfies the predicates of a listing** if it meets the demand of every
option that is heeded. -/
theorem all_predicates_iff (l : Listing) :
    (∀ p ∈ l.predicates, p.holds r = true) ↔ ∀ c ∈ l.choices, l.Heeds c → c.Demands r := by
  cases l with
  | ips user =>
    simp only [choices, List.forall_mem_map, Option.mem_toList]
    rcases given_cases user with ⟨hgiven, hempty⟩ | ⟨name, rfl, hname, hgiven⟩
    · simp only [predicates, hgiven, List.not_mem_nil]
      exact iff_of_true (fun _ h => h.elim) fun name h hne => absurd (hempty name h) hne
    · simp [predicates, hgiven, Heeds, hname, Choice.Demands, Archive.byUser_holds_iff]
  | users event ip =>
    cases event with
    | some e => simp [predicates, choices, Heeds, Choice.Demands, Archive.onEvent_holds_iff]
    | none =>
      simp only [choices, Option.toList_none, List.map_nil, List.nil_append, List.forall_mem_map,
        Option.mem_toList]
      rcases given_cases ip with ⟨hgiven, hempty⟩ | ⟨address, rfl, haddress, hgiven⟩
      · simp only [predicates, hgiven, List.not_mem_nil]
        exact iff_of_true (fun _ h => h.elim) fun address h hheeds =>
          absurd (hempty address h) hheeds.1
      · simp [predicates, hgiven, choices, Heeds, haddress, Choice.Demands, Archive.byIp_holds_iff]
  | events user ip =>
    rcases given_cases user with ⟨hgiven, hempty⟩ | ⟨name, rfl, hname, hgiven⟩
    · have hnone : ∀ name ∈ user, (events user ip).Heeds (.user name) → r.user = name :=
        fun name h hne => absurd (hempty name h) hne
      have huser : ∀ name, .user name ∈ (events user ip).choices → name = "" := by
        simpa [choices] using hempty
      simp only [choices, List.forall_mem_append, List.forall_mem_map, Option.mem_toList]
      refine Iff.trans ?_ (and_iff_right hnone).symm
      rcases given_cases ip with ⟨hgiven', hempty'⟩ | ⟨address, rfl, haddress, hgiven'⟩
      · simp only [predicates, hgiven, hgiven', List.not_mem_nil]
        exact iff_of_true (fun _ h => h.elim) fun address h hheeds =>
          absurd (hempty' address h) hheeds.1
      · have hheeds : (events user (some address)).Heeds (.ip address) :=
          ⟨haddress, by simp [choices], huser⟩
        simp [predicates, hgiven, hgiven', hheeds, Choice.Demands, Archive.byIp_holds_iff]
    · simp [predicates, hgiven, choices, Heeds, hname, Choice.Demands, Archive.byUser_holds_iff]

end Listing

/-! ## Listings -/

section

variable {kit : Toolkit} {look : String → Place} {args : List String} {src : Source} {l : Listing}
  {w : Bounds kit.readDate} {p : Progress}

/-- The window of the clocks of a period demands what its bounds demand. -/
theorem Bounds.contains_clocks_iff (w : Bounds kit.readDate) (r : Record) :
    w.period.clocks.Contains r.timestamp ↔ w.Demands r := by
  rw [Window.contains_iff]
  simp [Bounds.period, Period.clocks, Bounds.Demands]

/-- A bound that stands against an instant ends a listing. -/
theorem run_list_of_mixes (hcall : kit.call kit.readDate look args = .command src (.list l w))
    (hp : Loads kit.codecs look src p) (hw : w.period.Mixes p.dataset.records) :
    kit.run look args
      = { exit := 1, log := shown src.verbose p.journal, raised := some (.mixed {}) } := by
  have hvalues : p.chronicle.values l.field w.period l.predicates = .error {} := by
    rw [Chronicle.values, Chronicle.select_of_mixes hp.offset_eq_none hw]
    rfl
  rw [Toolkit.run_of_call hcall, Job.map, runJob_of_loads hp, perform, list, hvalues]
  simp [Response.ofRaised, Toolkit.write, Toolkit.print]

/-- A listing puts into a table what the records hold in its field. -/
theorem run_list_of_not_mixes
    (hcall : kit.call kit.readDate look args = .command src (.list l w))
    (hp : Loads kit.codecs look src p)
    (hw : ¬ w.period.Mixes p.dataset.records) {vs : List Scalar}
    (hvs : distinct (p.dataset.values l.field w.period.clocks l.predicates) = vs) :
    kit.run look args = kit.write
      { prints := [.table (valueTable l.title vs), .line s!"{vs.length} value(s)"],
        log := shown src.verbose p.journal } := by
  have hvalues := Chronicle.values_of_not_mixes hp.offset_eq_none hw l.field l.predicates
  subst hvs
  rw [Toolkit.run_of_call hcall, Job.map, runJob_of_loads hp, perform, list, hvalues]
  simp only [List.append_nil]
  rfl

/-- **What the commands list.** Let a command that lists the values of a field be given
options, and let its directory be read. If a bound of its window has an offset and stands
against the instant of a record, the command ends there and prints nothing. Otherwise it
prints a table and the number of its rows. The texts of these are distinct and in order, and
a value is among them if a record holds it in the field and meets the demands of the bounds
and of every option that is heeded. -/
theorem run_listing (hcall : kit.call kit.readDate look args = .command src (.list l w))
    (hp : Loads kit.codecs look src p) :
    (w.period.Mixes p.dataset.records → kit.run look args
      = { exit := 1, log := shown src.verbose p.journal, raised := some (.mixed {}) }) ∧
    (¬ w.period.Mixes p.dataset.records → ∃ us : List Scalar,
      kit.run look args = kit.write
        { prints := [.table ⟨l.title, [⟨"Value", .left⟩], us.map fun u => [u.render]⟩,
            .line s!"{us.length} value(s)"],
          log := shown src.verbose p.journal } ∧
      (us.map Scalar.render).Pairwise (· < ·) ∧
      ∀ x, x ∈ us ↔ ∃ r ∈ p.dataset.records, r.get l.field = some x ∧ w.Demands r ∧
        ∀ c ∈ l.choices, l.Heeds c → c.Demands r) := by
  refine ⟨run_list_of_mixes hcall hp, fun hw => ?_⟩
  let vs := distinct (p.dataset.values l.field w.period.clocks l.predicates)
  have hperm := List.mergeSort_perm vs printedBefore
  have hmem : ∀ x, x ∈ vs ↔ ∃ r ∈ p.dataset.records, r.get l.field = some x ∧ w.Demands r ∧
      ∀ c ∈ l.choices, l.Heeds c → c.Demands r := by
    intro x
    rw [mem_distinct, Dataset.mem_values]
    refine exists_congr fun r => and_congr_right fun _ => and_congr_right fun _ => ?_
    rw [w.contains_clocks_iff, l.all_predicates_iff]
  refine ⟨vs.mergeSort printedBefore, ?_, ?_, fun x => hperm.mem_iff.trans (hmem x)⟩
  · rw [run_list_of_not_mixes hcall hp hw rfl, valueTable, printed, List.map_map,
      hperm.length_eq]
    rfl
  · refine pairwise_render_mergeSort l.field_ne_date (nodup_distinct _) fun v hv => ?_
    obtain ⟨r, -, hget, -⟩ := (hmem v).mp hv
    exact Record.stores_of_get hget

end

/-- The last user is empty, so the address is heeded, and so is the date: one event is
listed. -/
theorem run_listing_empty_user :
    let bytes := fun text : String => text.toList.map (fun c => c.toNat.toUInt8)
    let f : SourceFile := ⟨"a.log", bytes ("10.0.0.1\tann\t1.1.2020 0:0:0\tLOGIN\tOK\n" ++
      "10.0.0.1\tbob\t2.1.2020 0:0:0\tWRITE_MESSAGE\tOK\n"), none⟩
    let look := fun path : String => if path = "logs" then .folder [.file f] else .missing
    let kit := Console.toolkit 2026
    ∃ p, Ingestion.read {} "logs" (look "logs") = .ok p ∧
      kit.run look ["events", "--user", "ann", "--log-dir", "logs", "--ip", "10.0.0.1",
          "--after", "1.1.2020 0:0:0", "--user", ""]
        = kit.write
            { prints := [.table ⟨"Events", [⟨"Value", .left⟩], [["WRITE_MESSAGE"]]⟩,
                .line "1 value(s)"],
              log := shown false p.journal } := by
  intro bytes f look kit
  have hlook : look "logs" = .folder [.file f] := rfl
  obtain ⟨p, hp, hload, hrecords⟩ := exists_loads (by decide) hlook (by decide) rfl (by decide)
  have hlog : p.dataset.records =
      [⟨"10.0.0.1", "ann", some (.mk 2020 1 1 0 0 0 0), some .login, none, some .ok⟩,
        ⟨"10.0.0.1", "bob", some (.mk 2020 1 2 0 0 0 0), some .writeMessage, none, some .ok⟩] := by
    rw [hrecords]
    decide
  let after : Bound kit.readDate :=
    ⟨"1.1.2020 0:0:0", ⟨.mk 2020 1 1 0 0 0 0, none⟩, by decide⟩
  let w : Bounds kit.readDate := ⟨some after, none⟩
  have hcall : kit.call kit.readDate look ["events", "--user", "ann", "--log-dir", "logs", "--ip",
      "10.0.0.1", "--after", "1.1.2020 0:0:0", "--user", ""]
      = .command ⟨"logs", none, none, false⟩ (.list (.events (some "") (some "10.0.0.1")) w) := by
    decide
  have hnone : ¬ w.period.Mixes p.dataset.records := by
    rintro ⟨-, -, t, -, ⟨b, hb, hoffset⟩ | ⟨-, b, hb, -⟩⟩ <;> cases hb
    cases hoffset
  obtain ⟨us, hrun, hordered, hmem⟩ := (run_listing hcall hload).2 hnone
  have hus : ∀ x, x ∈ us ↔ x = .event .writeMessage := by
    intro x
    rw [hmem, hlog]
    constructor
    · rintro ⟨r, hr, hget, ⟨hbehind, -⟩, -⟩
      rw [List.mem_cons, List.mem_singleton] at hr
      rcases hr with rfl | rfl
      · obtain ⟨t, ht, hlt⟩ := hbehind after rfl
        cases ht
        exact absurd hlt (by decide)
      · exact (Option.some.inj hget).symm
    · rintro rfl
      refine ⟨_, List.mem_cons_of_mem _ List.mem_cons_self, rfl, ⟨?_, ?_⟩, ?_⟩
      · rintro b ⟨⟩
        exact ⟨_, rfl, by decide⟩
      · rintro b ⟨⟩
      · intro c hc hheeds
        have hchoices : c = .user "" ∨ c = .ip "10.0.0.1" := by simpa [Listing.choices] using hc
        rcases hchoices with rfl | rfl
        · exact absurd rfl hheeds
        · rfl
  have hnodup : us.Nodup := .of_map _ (hordered.imp ne_of_lt)
  obtain rfl : us = [.event .writeMessage] := by
    have hperm : us.Perm [.event .writeMessage] := by
      rw [List.perm_ext_iff_of_nodup hnodup (List.nodup_singleton _)]
      simpa using hus
    exact List.perm_singleton.mp hperm
  exact ⟨p, hp, hrun⟩

/-- The users with an event at an address: the address is not heeded, and a user is
listed that was not seen from there. -/
theorem run_users_event_and_ip :
    let bytes := fun text : String => text.toList.map (fun c => c.toNat.toUInt8)
    let f : SourceFile := ⟨"a.log", bytes ("10.0.0.1\tann\t1.1.2020 0:0:0\tLOGIN\tOK\n" ++
      "10.0.0.2\tbob\t1.1.2020 0:0:0\tLOGIN\tOK\n"), none⟩
    let look := fun path : String => if path = "logs" then .folder [.file f] else .missing
    let kit := Console.toolkit 2026
    ∃ p, Ingestion.read {} "logs" (look "logs") = .ok p ∧
      kit.run look ["users", "--log-dir", "logs", "--event", "LOGIN", "--ip", "10.0.0.1"]
        = kit.write
            { prints := [.table ⟨"Users", [⟨"Value", .left⟩], [["ann"], ["bob"]]⟩,
                .line "2 value(s)"],
              log := shown false p.journal } ∧
      ¬ ∃ r ∈ p.dataset.records, r.get .user = some (.text "bob") ∧
        (Choice.event .login).Demands r ∧ (Choice.ip "10.0.0.1").Demands r := by
  intro bytes f look kit
  have hlook : look "logs" = .folder [.file f] := rfl
  obtain ⟨p, hp, hload, hrecords⟩ := exists_loads (by decide) hlook (by decide) rfl (by decide)
  have hlog : p.dataset.records =
      [⟨"10.0.0.1", "ann", some (.mk 2020 1 1 0 0 0 0), some .login, none, some .ok⟩,
        ⟨"10.0.0.2", "bob", some (.mk 2020 1 1 0 0 0 0), some .login, none, some .ok⟩] := by
    rw [hrecords]
    decide
  have hcall : kit.call kit.readDate look ["users", "--log-dir", "logs", "--event", "LOGIN",
      "--ip", "10.0.0.1"]
      = .command ⟨"logs", none, none, false⟩
          (.list (.users (some .login) (some "10.0.0.1")) {}) := by
    decide
  have hnone : ¬ ({} : Bounds kit.readDate).period.Mixes p.dataset.records := by
    rintro ⟨-, -, t, -, ⟨b, hb, -⟩ | ⟨-, b, hb, -⟩⟩ <;> cases hb
  have hvalues : distinct (p.dataset.values .user {} [Archive.onEvent .login])
      = [.text "ann", .text "bob"] := by
    rw [Dataset.values, Dataset.select, hlog]
    decide
  refine ⟨p, hp, ?_, ?_⟩
  · have hordered : [Scalar.text "ann", .text "bob"].Pairwise (printedBefore · · = true) := by
      decide
    rw [run_list_of_not_mixes hcall hload hnone hvalues, valueTable, printed,
      List.mergeSort_of_pairwise hordered]
    rfl
  · rintro ⟨r, hr, huser, -, hip⟩
    rw [hlog, List.mem_cons, List.mem_singleton] at hr
    rcases hr with rfl | rfl
    · exact absurd huser (by decide)
    · exact absurd (show "10.0.0.2" = "10.0.0.1" from hip) (by decide)

end AccessLog.Command
