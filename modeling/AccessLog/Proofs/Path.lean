import AccessLog.FileTree
import AccessLog.Ingestion
import AccessLog.Proofs.Text.Joined
import Mathlib.Data.String.Basic

/-!
# Paths and what they lead to

A path is brought into its normal form before it is followed. That form has the
components of the path and starts at the root if the path does
(`Path.components_normal`, `Path.root_normal`), so it is its own normal form
(`Path.normal_normal`), and it is no longer than the path.

In a tree of files the components that are left out lead nowhere. Behind a file
they fail, but a file cannot be listed anyway. So a directory is read alike under
a path and under its normal form (`FileTree.read_look_normal`).
-/

namespace AccessLog

namespace Path

/-! ## The normal form -/

/-- Whether a component of a path leads somewhere. -/
def leads (c : List Char) : Bool := !c.isEmpty && c ≠ ['.']

theorem components_eq (path : String) :
    components path = (Text.pieces ['/'] path.toList).filter leads := rfl

/-- The components of a path with slashes between them. -/
def joined (path : String) : List Char := ['/'].intercalate (components path)

theorem not_mem_of_mem_components {path : String} {c : List Char} (h : c ∈ components path) :
    '/' ∉ c :=
  Text.not_mem_of_mem_pieces (List.mem_of_mem_filter h)

/-- The first component is not empty, so what is joined does not start with a slash. -/
theorem takeWhile_joined (path : String) : (joined path).takeWhile (· == '/') = [] := by
  unfold joined
  cases h : components path with
  | nil => rfl
  | cons first rest =>
    have hmem : first ∈ components path := h ▸ List.mem_cons_self
    cases first with
    | nil => exact absurd (List.mem_filter.mp hmem).2 (by decide)
    | cons c cs =>
      have hc : c ≠ '/' := by
        rintro rfl
        exact not_mem_of_mem_components hmem List.mem_cons_self
      rw [Text.intercalate_cons_head, List.takeWhile_cons_of_neg (by simpa using hc)]

/-- What is joined has the same components. -/
theorem filter_pieces_joined (path : String) :
    (Text.pieces ['/'] (joined path)).filter leads = components path := by
  unfold joined
  cases h : components path with
  | nil => rfl
  | cons first rest =>
    rw [← h, Text.pieces_intercalate (by simp [h]) fun c hc => not_mem_of_mem_components hc,
      components_eq, List.filter_filter]
    simp

/-- A path starts at the root with one slash, with exactly two, or not at all. -/
theorem root_cases (path : String) : root path = "" ∨ root path = "/" ∨ root path = "//" := by
  unfold root
  split <;> simp

/-- The normal form is the components, joined, behind the root, or else a full
stop. -/
theorem toList_normal (path : String) :
    (normal path).toList = (root path).toList ++ joined path ∨
      normal path = "." ∧ root path = "" ∧ components path = [] := by
  have hwhole : (root path ++ "/".intercalate ((components path).map String.ofList)).toList
      = (root path).toList ++ joined path := by
    rw [String.toList_append, String.toList_intercalate, List.map_map]
    simp [joined, Function.comp_def]
  rw [normal]
  split
  · rename_i hempty
    rw [String.isEmpty_iff.mp hempty, eq_comm] at hwhole
    obtain ⟨hroot, hjoined⟩ := List.append_eq_nil_iff.mp hwhole
    refine .inr ⟨rfl, String.toList_inj.mp hroot, ?_⟩
    rw [← filter_pieces_joined, hjoined]
    rfl
  · exact .inl hwhole

theorem normal_ne_empty (path : String) : normal path ≠ "" := by
  rw [normal]
  split
  · decide
  · rename_i h
    exact fun heq => h (String.isEmpty_iff.mpr heq)

/-- The slashes that a path starts with give no components. -/
theorem filter_pieces_append {slashes : List Char} (h : ∀ c ∈ slashes, (c == '/') = true)
    (cs : List Char) :
    (Text.pieces ['/'] (slashes ++ cs)).filter leads = (Text.pieces ['/'] cs).filter leads := by
  induction slashes with
  | nil => rfl
  | cons c slashes ih =>
    obtain ⟨hc, hslashes⟩ := List.forall_mem_cons.mp h
    have hpieces : Text.pieces ['/'] (c :: (slashes ++ cs))
        = [] :: Text.pieces ['/'] (slashes ++ cs) := by
      rw [eq_of_beq hc]
      exact Text.pieces_append_cons List.not_mem_nil (slashes ++ cs)
    rw [List.cons_append, hpieces, ← ih hslashes]
    rfl

theorem slash_of_mem_root {path : String} : ∀ c ∈ (root path).toList, (c == '/') = true := by
  rcases root_cases path with h | h | h <;> simp [h]

/-- **The normal form has the components of the path.** -/
theorem components_normal (path : String) : components (normal path) = components path := by
  rcases toList_normal path with h | ⟨h, -, hnil⟩
  · rw [components_eq, h, filter_pieces_append slash_of_mem_root, filter_pieces_joined]
  · rw [h, hnil]
    decide

/-- **The normal form starts at the root if the path does.** -/
theorem root_normal (path : String) : root (normal path) = root path := by
  rcases toList_normal path with h | ⟨h, hroot, -⟩
  · have htake : (normal path).toList.takeWhile (· == '/') = (root path).toList := by
      rw [h, List.takeWhile_append_of_pos slash_of_mem_root, takeWhile_joined, List.append_nil]
    rw [root, htake]
    rcases root_cases path with h | h | h <;> rw [h] <;> rfl
  · rw [h, hroot]
    decide

/-- **The normal form is its own normal form.** -/
theorem normal_normal (path : String) : normal (normal path) = normal path := by
  rw [normal, root_normal, components_normal, ← normal]

/-! ## The length of the normal form -/

theorem slash_of_mem_takeWhile {cs : List Char} :
    ∀ c ∈ cs.takeWhile (· == '/'), (c == '/') = true :=
  fun _ hc => List.mem_takeWhile_imp (p := (· == '/')) hc

theorem toList_root_sublist (path : String) :
    (root path).toList.Sublist (path.toList.takeWhile (· == '/')) := by
  have hslashes : path.toList.takeWhile (· == '/')
      = List.replicate (path.toList.takeWhile (· == '/')).length '/' :=
    List.eq_replicate_iff.mpr ⟨rfl, fun c hc => eq_of_beq (slash_of_mem_takeWhile c hc)⟩
  rw [hslashes, root]
  split
  · exact List.nil_sublist _
  · rename_i h
    rw [h]
    exact List.Sublist.refl _
  · rename_i hne _
    exact List.singleton_sublist.mpr (List.mem_replicate.mpr ⟨hne, rfl⟩)

/-- **The normal form is no longer than the path**, unless this is empty. -/
theorem utf8ByteSize_normal_le {path : String} (h : path ≠ "") :
    (normal path).utf8ByteSize ≤ path.utf8ByteSize := by
  rcases toList_normal path with hnormal | ⟨hnormal, -, -⟩
  · -- what is joined comes of what is behind the slashes at the beginning
    have hsplit := List.takeWhile_append_dropWhile (p := (· == '/')) (l := path.toList)
    have hjoined : joined path = ['/'].intercalate
        ((Text.pieces ['/'] (path.toList.dropWhile (· == '/'))).filter leads) := by
      rw [joined, components_eq, ← hsplit, filter_pieces_append slash_of_mem_takeWhile, hsplit]
    have hrest : (joined path).Sublist (path.toList.dropWhile (· == '/')) := by
      rw [hjoined]
      refine (Text.intercalate_sublist ['/'] List.filter_sublist).trans ?_
      rw [Text.intercalate_pieces (List.cons_ne_nil _ _)]
    have hwhole : (normal path).toList.Sublist path.toList := by
      rw [hnormal, ← hsplit]
      exact (toList_root_sublist path).append hrest
    have hlength := String.utf8Len_le_of_sublist hwhole
    rwa [← String.utf8ByteSize_ofList, ← String.utf8ByteSize_ofList, String.ofList_toList,
      String.ofList_toList] at hlength
  · rw [hnormal]
    exact Nat.pos_of_ne_zero (mt String.utf8ByteSize_eq_zero_iff.mp h)

end Path

/-! ## What a path leads to -/

namespace FileTree

variable {extension : String}

/-- The log files of what a walk leads to, or why there are none. -/
def found (extension : String) (r : Except ReadFailure FileTree) :
    Except ReadFailure (List SourceFile) :=
  r.bind fun t => t.place.discover extension

/-- Whether a component leads somewhere. -/
def leads (c : String) : Bool := Path.leads c.toList

theorem leads_eq_false_iff {c : String} : leads c = false ↔ c = "" ∨ c = "." := by
  have hstop : c = "." ↔ c.toList = ['.'] := String.toList_inj.symm
  rw [leads, Path.leads, hstop]
  simp [or_iff_not_imp_left]

/-- A file is not listed, and no component leads on from it. -/
theorem found_walk_file (above : List FileTree) (bytes : List UInt8) (i : Option Interrupt)
    (cs : List String) : found extension (walk above (file bytes i) cs) = .error .notFolder := by
  cases cs <;> rfl

/-- One component, seen from a folder. -/
theorem walk_folder (above : List FileTree) (entries : List (String × FileTree)) (c : String)
    (cs : List String) :
    walk above (folder entries) (c :: cs) =
      if c = "" ∨ c = "." then walk above (folder entries) cs
      else if c = ".." then
        match above with
        | [] => walk [] (folder entries) cs
        | up :: rest => walk rest up cs
      else if maxComponent < c.utf8ByteSize then .error .nameTooLong
      else
        match entries.lookup c with
        | none => .error .missing
        | some t => walk (folder entries :: above) t cs := rfl

/-- **Components that lead nowhere do not matter** for what is found. -/
theorem found_walk_filter (above : List FileTree) (t : FileTree) (cs : List String) :
    found extension (walk above t (cs.filter leads)) = found extension (walk above t cs) := by
  induction cs generalizing above t with
  | nil => rfl
  | cons c cs ih =>
    cases t with
    | file bytes i => rw [found_walk_file, found_walk_file]
    | folder entries =>
      cases hc : leads c with
      | false =>
        rw [List.filter_cons_of_neg (by simp [hc]), ih, walk_folder,
          if_pos (leads_eq_false_iff.mp hc)]
      | true =>
        have hstays : ¬ (c = "" ∨ c = ".") := fun h => by
          rw [leads_eq_false_iff.mpr h] at hc
          cases hc
        rw [List.filter_cons_of_pos hc, walk_folder, walk_folder, if_neg hstays, if_neg hstays]
        split
        · cases above with
          | nil => exact ih [] (folder entries)
          | cons up rest => exact ih rest up
        · split
          · rfl
          · cases entries.lookup c with
            | none => rfl
            | some t => exact ih (folder entries :: above) t

/-- A path that starts with a slash is followed from the root. -/
theorem start_eq (working : List String) (path : String) :
    (match path.toList with
      | '/' :: _ => []
      | _ => working) = if Path.root path = "" then working else [] := by
  rw [Path.root]
  split
  · rename_i cs h
    rw [h, List.takeWhile_cons_of_pos rfl, List.length_cons]
    -- there is a slash, so the root is not empty
    rcases (cs.takeWhile (· == '/')).length with _ | _ | n <;> rfl
  · rename_i h
    have hnone : path.toList.takeWhile (· == '/') = [] := by
      cases hpath : path.toList with
      | nil => rfl
      | cons c cs =>
        refine List.takeWhile_cons_of_neg fun hc => ?_
        exact h cs (hpath.trans (by rw [eq_of_beq hc]))
    rw [hnone]
    rfl

/-- **What is found under a path** depends on where it starts and on its components. -/
theorem discover_look (root : FileTree) (working : List String) {path : String} (hne : path ≠ "")
    (hsize : path.utf8ByteSize ≤ maxPath) :
    (look root working path).discover extension = found extension (walk [] root
      ((if Path.root path = "" then working else []).filter leads ++
        (Path.components path).map String.ofList)) := by
  have hfilter : ((Text.pieces ['/'] path.toList).map String.ofList).filter leads
      = (Path.components path).map String.ofList := by
    rw [List.filter_map, Path.components_eq]
    refine congrArg _ (List.filter_congr fun c _ => ?_)
    simp [leads]
  rw [← hfilter, ← List.filter_append, found_walk_filter, ← start_eq, look,
    if_neg (by simpa using hne), if_neg (Nat.not_lt.mpr hsize)]
  cases walk [] root _ with
  | ok t => rfl
  | error failure => cases failure <;> rfl

/-- Whatever a tree holds can be looked at. -/
theorem unseen?_look (root : FileTree) (working : List String) (path : String) :
    (look root working path).unseen? extension = none := by
  rw [look]
  split
  · rfl
  · split
    · rfl
    · split
      · rename_i t _
        cases t <;> rfl
      · rfl
      · rfl

/-- **A directory is read alike under a path and under its normal form**, if the path
is not empty and not too long. -/
theorem read_look_normal (s : Settings) (directory : String) (root : FileTree)
    (working : List String) {path : String} (hne : path ≠ "")
    (hsize : path.utf8ByteSize ≤ maxPath) :
    Ingestion.read s directory (look root working (Path.normal path))
      = Ingestion.read s directory (look root working path) := by
  rw [Ingestion.read, Ingestion.read, unseen?_look, unseen?_look,
    discover_look root working hne hsize,
    discover_look root working (Path.normal_ne_empty path)
      ((Path.utf8ByteSize_normal_le hne).trans hsize),
    Path.root_normal, Path.components_normal]

end FileTree

end AccessLog
