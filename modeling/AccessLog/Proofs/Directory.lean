import AccessLog.Directory
import Mathlib.Data.List.Nodup

/-!
# The log files of a folder

A folder gives its entries in any order, and no two of them have one name. The
log files among them are therefore determined by what the folder holds: they
are listed strictly in the order of their names (`Place.pairwise_logFiles`),
each of them once and nothing else (`Place.mem_logFiles`), and the order of the
entries does not matter (`Place.logFiles_of_perm`). A file in place of another of
its name stands where that stood (`Place.exists_logFiles_cons`).
-/

namespace AccessLog

namespace Entry

theorem notAfter_trans {a b c : Entry} (hab : notAfter a b = true) (hbc : notAfter b c = true) :
    notAfter a c = true :=
  decide_eq_true (String.le_trans (of_decide_eq_true hab) (of_decide_eq_true hbc))

theorem notAfter_total (a b : Entry) : (notAfter a b || notAfter b a) = true := by
  rw [Bool.or_eq_true]
  exact (String.le_total a.name b.name).imp decide_eq_true decide_eq_true

/-- Two entries of a folder that do not come after one another are one. -/
theorem eq_of_notAfter {entries : List Entry} (hnames : (entries.map name).Nodup)
    {a b : Entry} (ha : a ∈ entries) (hb : b ∈ entries)
    (hab : notAfter a b = true) (hba : notAfter b a = true) : a = b :=
  List.inj_on_of_nodup_map hnames ha hb
    (String.le_antisymm (of_decide_eq_true hab) (of_decide_eq_true hba))

theorem pairwise_mergeSort (entries : List Entry) :
    (entries.mergeSort notAfter).Pairwise (fun a b => notAfter a b = true) :=
  @List.pairwise_mergeSort Entry notAfter (fun _ _ _ hab hbc => notAfter_trans hab hbc)
    notAfter_total entries

/-- **The order of the entries does not matter.** Sorting any listing of a
folder by name gives the same list. -/
theorem mergeSort_of_perm {listing entries : List Entry} (h : listing.Perm entries)
    (hnames : (entries.map name).Nodup) :
    listing.mergeSort notAfter = entries.mergeSort notAfter := by
  have hperm : (listing.mergeSort notAfter).Perm (entries.mergeSort notAfter) :=
    (List.mergeSort_perm listing _).trans (h.trans (List.mergeSort_perm entries _).symm)
  -- two sorted lists of the same entries, where no two entries tie
  refine hperm.eq_of_pairwise (fun a b ha hb => ?_)
    (pairwise_mergeSort listing) (pairwise_mergeSort entries)
  exact eq_of_notAfter hnames (h.mem_iff.mp (List.mem_mergeSort.mp ha))
    (List.mem_mergeSort.mp hb)

/-- Sorted entries with different names have ascending names. -/
theorem pairwise_name_mergeSort {entries : List Entry} (hnames : (entries.map name).Nodup) :
    (entries.mergeSort notAfter).Pairwise (fun a b => a.name < b.name) := by
  have hperm := (List.mergeSort_perm entries notAfter).map name
  have hne : (entries.mergeSort notAfter).Pairwise (fun a b => a.name ≠ b.name) :=
    List.pairwise_map.mp (hperm.nodup_iff.mpr hnames)
  refine ((pairwise_mergeSort entries).and hne).imp (fun {a b} h => ?_)
  exact Std.lt_of_le_of_ne (of_decide_eq_true h.1) h.2

/-- **Entries of one name have one position** among entries of other names. -/
theorem exists_mergeSort_cons {n : String} {others : List Entry}
    (hnames : (n :: others.map name).Nodup) :
    ∃ front back, ∀ x : Entry, x.name = n →
      (x :: others).mergeSort notAfter = front ++ x :: back := by
  have hmem : folder n ∈ (folder n :: others).mergeSort notAfter :=
    List.mem_mergeSort.mpr List.mem_cons_self
  obtain ⟨front, back, hsorted⟩ := List.append_of_mem hmem
  refine ⟨front, back, fun x hx => ?_⟩
  have hothers : (front ++ back).Perm others := by
    have hperm := List.mergeSort_perm (folder n :: others) notAfter
    rw [hsorted] at hperm
    exact (List.perm_cons (folder n)).mp (List.perm_middle.symm.trans hperm)
  have hperm : (front ++ x :: back).Perm (x :: others) :=
    List.perm_middle.trans (hothers.cons x)
  -- the order is one of names, and the names are the same
  have hpairwise : (front ++ x :: back).Pairwise (fun a b => notAfter a b = true) := by
    have hfolder := pairwise_mergeSort (folder n :: others)
    rw [hsorted] at hfolder
    have hiff : ∀ l : List Entry, l.Pairwise (fun a b => notAfter a b = true)
        ↔ (l.map name).Pairwise (fun a b => decide (a ≤ b) = true) := fun _ =>
      (List.pairwise_map (f := name) (R := fun a b => decide (a ≤ b) = true)).symm
    rw [hiff, List.map_append, List.map_cons] at hfolder ⊢
    rwa [hx]
  have hnames' : ((x :: others).map name).Nodup := by
    rwa [List.map_cons, hx]
  rw [← mergeSort_of_perm hperm hnames', List.mergeSort_of_pairwise hpairwise]

theorem eq_file_of_file? {e : Entry} {f : SourceFile} (h : e.file? = some f) : e = file f := by
  cases e with
  | file g => exact congrArg file (Option.some.inj h)
  | folder n => cases h

end Entry

namespace Place

theorem logFiles_of_perm (extension : String) {listing entries : List Entry}
    (h : listing.Perm entries) (hnames : (entries.map Entry.name).Nodup) :
    logFiles extension listing = logFiles extension entries := by
  rw [logFiles, logFiles, Entry.mergeSort_of_perm h hnames]

/-- **The log files of a folder** are the regular files in it whose names end
with the extension. -/
theorem mem_logFiles {extension : String} {entries : List Entry} {f : SourceFile} :
    f ∈ logFiles extension entries
      ↔ Entry.file f ∈ entries ∧ hasExtension extension f.name = true := by
  rw [logFiles, List.mem_filterMap]
  constructor
  · rintro ⟨e, he, hf⟩
    obtain rfl := Entry.eq_file_of_file? hf
    obtain ⟨hmem, hext⟩ := List.mem_filter.mp he
    exact ⟨List.mem_mergeSort.mp hmem, hext⟩
  · rintro ⟨hmem, hext⟩
    exact ⟨.file f, List.mem_filter.mpr ⟨List.mem_mergeSort.mpr hmem, hext⟩, rfl⟩

/-- **They are listed in the order of their names**, and no name comes twice. -/
theorem pairwise_logFiles (extension : String) {entries : List Entry}
    (hnames : (entries.map Entry.name).Nodup) :
    (logFiles extension entries).Pairwise (fun f g => f.name < g.name) := by
  have hsorted := (Entry.pairwise_name_mergeSort hnames).filter
    (fun e => hasExtension extension e.name)
  -- a file has the name of the entry it was
  refine hsorted.filterMap Entry.file? (fun a b hab f hf g hg => ?_)
  rw [Entry.eq_file_of_file? hf, Entry.eq_file_of_file? hg] at hab
  exact hab

theorem hasExtension_of_mem_logFiles {extension : String} {entries : List Entry} {f : SourceFile}
    (h : f ∈ logFiles extension entries) : hasExtension extension f.name = true :=
  (mem_logFiles.mp h).2

/-- **A folder of log files lists them all**: files with the extension, in the
order of their names, are the log files of every folder that holds nothing
else. -/
theorem logFiles_of_files {extension : String} (files : List SourceFile)
    (hsorted : files.Pairwise (fun f g => f.name < g.name))
    (hext : ∀ f ∈ files, hasExtension extension f.name = true)
    {listing : List Entry} (h : listing.Perm (files.map .file)) :
    logFiles extension listing = files := by
  have hnames : ((files.map Entry.file).map Entry.name).Nodup := by
    rw [List.map_map]
    exact List.pairwise_map.mpr (hsorted.imp (fun hlt => Std.ne_of_lt hlt))
  have hsort : (files.map Entry.file).mergeSort Entry.notAfter = files.map Entry.file :=
    List.mergeSort_of_pairwise (List.pairwise_map.mpr
      (hsorted.imp (fun hlt => decide_eq_true (Std.le_of_lt hlt))))
  rw [logFiles_of_perm extension h hnames, logFiles, hsort, List.filter_map, List.filterMap_map]
  have hfilter : files.filter (fun f => hasExtension extension f.name) = files :=
    List.filter_eq_self.mpr hext
  show (files.filter (fun f => hasExtension extension f.name)).filterMap some = files
  rw [hfilter, List.filterMap_some]

theorem logFiles_singleton {extension : String} {f : SourceFile}
    (hext : hasExtension extension f.name = true) : logFiles extension [.file f] = [f] :=
  logFiles_of_files [f] (List.pairwise_singleton _ f)
    (fun _ hg => List.mem_singleton.mp hg ▸ hext) (List.Perm.refl _)

/-- **Log files of one name have one position** among the log files of a folder. -/
theorem exists_logFiles_cons {extension n : String} (hext : hasExtension extension n = true)
    {others : List Entry} (hnames : (n :: others.map Entry.name).Nodup) :
    ∃ front back, ∀ f : SourceFile, f.name = n →
      logFiles extension (.file f :: others) = front ++ f :: back := by
  obtain ⟨front, back, hsorted⟩ := Entry.exists_mergeSort_cons hnames
  refine ⟨(front.filter fun e => hasExtension extension e.name).filterMap Entry.file?,
    (back.filter fun e => hasExtension extension e.name).filterMap Entry.file?, fun f hf => ?_⟩
  have hfile : hasExtension extension (Entry.file f).name = true := by
    show hasExtension extension f.name = true
    rwa [hf]
  have hcons : ((.file f :: back).filter fun e => hasExtension extension e.name)
      = .file f :: back.filter fun e => hasExtension extension e.name :=
    List.filter_cons_of_pos hfile
  rw [logFiles, hsorted (.file f) hf, List.filter_append, hcons, List.filterMap_append]
  rfl

/-- A place that cannot be listed has no entries that could be in the way. -/
theorem unseen?_eq_none {extension : String} {place : Place} {failure : ReadFailure}
    (h : place.discover extension = .error failure) : place.unseen? extension = none := by
  cases place with
  | guarded entries unseen => cases h
  | _ => rfl

end Place

end AccessLog
