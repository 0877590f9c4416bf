import TableScan.Enumeration
import TableScan.Proofs.Outcome
import TableScan.Proofs.Split.Ranges

/-!
# Enumerations

What the files of a location are is settled by four questions to the file system. It refuses one of
them, or there is nothing to read, or some files are listed, and an enumeration answers accordingly
(`eligibleFiles_eq_ok_iff`, `eligibleFiles_eq_error_iff`). Each file is cut by itself, either not at
all or into ranges that tile it (`cutInto_iff`), and the splits of the files follow one another in
the order of the files.
-/

namespace TableScan

namespace FileSystem

variable (fs : FileSystem) (location : String) (options : Options)

/-- The files at a location that take part: the location itself, whatever the options, or those of
a directory that are eligible. -/
inductive Lists : List FileStatus → Prop where
  | file {root : FileStatus} : fs.isPresent location = .ok true → fs.status location = .ok root →
      fs.isDirectory location = .ok false → Lists [root]
  | directory {root : FileStatus} {listed : List FileStatus} :
      fs.isPresent location = .ok true → fs.status location = .ok root →
      fs.isDirectory location = .ok true → fs.listFiles location options.recursive = .ok listed →
      Lists (listed.filter (isEligible root.path · options))

/-- There is nothing at a location, or no file that takes part. -/
inductive HasNothing : ConfigFault → Prop where
  | missing : fs.isPresent location = .ok false → HasNothing (.noSuchLocation location)
  | noneEligible {root : FileStatus} {listed : List FileStatus} :
      fs.isPresent location = .ok true → fs.status location = .ok root →
      fs.isDirectory location = .ok true → fs.listFiles location options.recursive = .ok listed →
      (∀ file ∈ listed, isEligible root.path file options = false) →
      HasNothing (.noReadableFiles location listed.length)

/-- The file system fails on one of the questions that come up. -/
inductive Refuses : Error → Prop where
  | isPresent {e : Error} : fs.isPresent location = .error e → Refuses e
  | status {e : Error} : fs.isPresent location = .ok true → fs.status location = .error e →
      Refuses e
  | isDirectory {root : FileStatus} {e : Error} : fs.isPresent location = .ok true →
      fs.status location = .ok root → fs.isDirectory location = .error e → Refuses e
  | listFiles {root : FileStatus} {e : Error} : fs.isPresent location = .ok true →
      fs.status location = .ok root → fs.isDirectory location = .ok true →
      fs.listFiles location options.recursive = .error e → Refuses e

end FileSystem

variable {fs : FileSystem} {location : String} {format : Format} {options : Options}
  {files : List FileStatus} {splits : List Split} {fault : ConfigFault} {e : Error}

/-! ### Files -/

theorem eligibleFiles_eq (fs : FileSystem) (location : String) (options : Options) :
    eligibleFiles fs location options =
      match fs.isPresent location, fs.status location, fs.isDirectory location,
        fs.listFiles location options.recursive with
      | .error e, _, _, _ => .error e
      | .ok false, _, _, _ => .error (.config (.noSuchLocation location))
      | .ok true, .error e, _, _ => .error e
      | .ok true, .ok _, .error e, _ => .error e
      | .ok true, .ok root, .ok false, _ => .ok [root]
      | .ok true, .ok _, .ok true, .error e => .error e
      | .ok true, .ok root, .ok true, .ok listed =>
        if listed.filter (isEligible root.path · options) = [] then
          .error (.config (.noReadableFiles location listed.length))
        else .ok (listed.filter (isEligible root.path · options)) := by
  unfold eligibleFiles
  rcases fs.isPresent location with e | _ | _
  · rfl
  · rfl
  · rcases fs.status location with e | root
    · rfl
    · rcases fs.isDirectory location with e | _ | _
      · rfl
      · rfl
      · rcases fs.listFiles location options.recursive with e | listed
        · rfl
        · simp only [bind, Except.bind, List.isEmpty_iff]
          rfl

theorem FileSystem.Lists.eligibleFiles (h : fs.Lists location options files) (some : files ≠ []) :
    eligibleFiles fs location options = .ok files := by
  rw [eligibleFiles_eq]
  cases h with
  | file present status bare => simp only [present, status, bare]
  | directory present status directory lists =>
    simp only [present, status, directory, lists]
    exact if_neg some

theorem FileSystem.HasNothing.eligibleFiles (h : fs.HasNothing location options fault) :
    eligibleFiles fs location options = .error (.config fault) := by
  rw [eligibleFiles_eq]
  cases h with
  | missing absent => simp only [absent]
  | noneEligible present status directory lists none =>
    simp only [present, status, directory, lists]
    exact if_pos (List.filter_eq_nil_iff.2 fun file hmem => by simp [none file hmem])

theorem FileSystem.Refuses.eligibleFiles (h : fs.Refuses location options e) :
    eligibleFiles fs location options = .error e := by
  rw [eligibleFiles_eq]
  cases h with
  | isPresent refused => simp only [refused]
  | status present refused => simp only [present, refused]
  | isDirectory present status refused => simp only [present, status, refused]
  | listFiles present status directory refused => simp only [present, status, directory, refused]

/-- The file system refuses, or there is nothing to read, or there are files. -/
theorem eligibleFiles_cases (fs : FileSystem) (location : String) (options : Options) :
    (∃ e, fs.Refuses location options e) ∨ (∃ fault, fs.HasNothing location options fault) ∨
      ∃ files, fs.Lists location options files ∧ files ≠ [] := by
  cases present : fs.isPresent location with
  | error e => exact .inl ⟨e, .isPresent present⟩
  | ok isThere =>
    cases isThere with
    | false => exact .inr (.inl ⟨_, .missing present⟩)
    | true =>
      cases status : fs.status location with
      | error e => exact .inl ⟨e, .status present status⟩
      | ok root =>
        cases directory : fs.isDirectory location with
        | error e => exact .inl ⟨e, .isDirectory present status directory⟩
        | ok isDirectory =>
          cases isDirectory with
          | false => exact .inr (.inr ⟨_, .file present status directory, List.cons_ne_nil _ _⟩)
          | true =>
            cases lists : fs.listFiles location options.recursive with
            | error e => exact .inl ⟨e, .listFiles present status directory lists⟩
            | ok listed =>
              by_cases none : listed.filter (isEligible root.path · options) = []
              · refine .inr (.inl ⟨_, .noneEligible present status directory lists ?_⟩)
                intro file hmem
                simpa using List.filter_eq_nil_iff.1 none file hmem
              · exact .inr (.inr ⟨_, .directory present status directory lists, none⟩)

theorem eligibleFiles_eq_ok_iff :
    eligibleFiles fs location options = .ok files ↔
      fs.Lists location options files ∧ files ≠ [] := by
  refine ⟨fun h => ?_, fun h => h.1.eligibleFiles h.2⟩
  rcases eligibleFiles_cases fs location options with ⟨e, he⟩ | ⟨fault, hf⟩ | ⟨files', hl, hne⟩
  · rw [he.eligibleFiles] at h
    cases h
  · rw [hf.eligibleFiles] at h
    cases h
  · rw [hl.eligibleFiles hne] at h
    cases h
    exact ⟨hl, hne⟩

theorem eligibleFiles_eq_error_iff :
    eligibleFiles fs location options = .error e ↔
      fs.Refuses location options e ∨
        ∃ fault, e = .config fault ∧ fs.HasNothing location options fault := by
  constructor
  · intro h
    rcases eligibleFiles_cases fs location options with ⟨e, he⟩ | ⟨fault, hf⟩ | ⟨files, hl, hne⟩
    · rw [he.eligibleFiles] at h
      cases h
      exact .inl he
    · rw [hf.eligibleFiles] at h
      cases h
      exact .inr ⟨fault, rfl, hf⟩
    · rw [hl.eligibleFiles hne] at h
      cases h
  · rintro (h | ⟨fault, rfl, h⟩)
    · exact h.eligibleFiles
    · exact h.eligibleFiles

/-- A file is read whole if nothing calls for cutting it. -/
def IsReadWhole (format : Format) (options : Options) (file : FileStatus) : Prop :=
  format ≠ .text ∨ options.maxSplitBytes = none ∨ options.maxSplitBytes = some 0 ∨
    ∃ limit, options.maxSplitBytes = some limit ∧ file.length ≤ limit

/-- How a file is cut: not at all, or into the ranges that a limit on text calls for. -/
inductive CutInto (format : Format) (options : Options) (file : FileStatus) :
    List Split → Prop where
  | whole : IsReadWhole format options file →
      CutInto format options file [.wholeFile file.path file.length]
  | ranges {limit : Nat} {splits : List Split} : format = .text →
      options.maxSplitBytes = some limit → 0 < limit → limit < file.length →
      2 ≤ splits.length → Split.Tiles file.path file.length limit 0 splits →
      CutInto format options file splits

variable {file : FileStatus}

theorem IsReadWhole.splitsOf (h : IsReadWhole format options file) :
    splitsOf format options file = [.wholeFile file.path file.length] := by
  unfold TableScan.splitsOf
  rcases h with h | h | h | ⟨limit, h, hle⟩
  · cases format with
    | text => exact absurd rfl h
    | columnar encoding => split <;> rfl
  · rw [h]
  · rw [h]
    exact ite_self _
  · rw [h]
    simp only [Split.ranges, if_pos (Or.inr hle : limit = 0 ∨ file.length ≤ limit)]
    exact ite_self _

theorem splitsOf_of_lt {limit : Nat} (set : options.maxSplitBytes = some limit)
    (positive : 0 < limit) (cut : limit < file.length) :
    splitsOf .text options file = Split.rangesFrom file.path file.length limit 0 := by
  unfold splitsOf
  rw [set]
  show Split.ranges file.path file.length limit = _
  rw [Split.ranges, if_neg (by omega)]

theorem exists_limit_of_not_isReadWhole (h : ¬ IsReadWhole format options file) :
    ∃ limit, format = .text ∧ options.maxSplitBytes = some limit ∧ 0 < limit ∧
      limit < file.length := by
  simp only [IsReadWhole, not_or, not_exists, not_and, Nat.not_le] at h
  obtain ⟨text, set, zero, cut⟩ := h
  obtain ⟨limit, hlimit⟩ := Option.ne_none_iff_exists'.1 set
  refine ⟨limit, Classical.not_not.1 text, hlimit, Nat.pos_of_ne_zero ?_, cut limit hlimit⟩
  rintro rfl
  exact zero hlimit

/-- There is one way to cut a file. -/
theorem cutInto_iff :
    CutInto format options file splits ↔ splits = splitsOf format options file := by
  constructor
  · intro h
    cases h with
    | whole whole => rw [whole.splitsOf]
    | ranges text set positive cut _ tiles =>
      rw [text, splitsOf_of_lt set positive cut, tiles.eq_rangesFrom positive]
  · rintro rfl
    by_cases whole : IsReadWhole format options file
    · rw [whole.splitsOf]
      exact .whole whole
    · obtain ⟨limit, rfl, set, positive, cut⟩ := exists_limit_of_not_isReadWhole whole
      have htiles : Split.Tiles file.path file.length limit 0 _ :=
        Split.tiles_rangesFrom positive (by omega)
      rw [splitsOf_of_lt set positive cut]
      exact .ranges rfl set positive cut (htiles.two_le_length (by omega)) htiles

theorem CutInto.ne_nil (h : CutInto format options file splits) : splits ≠ [] := by
  cases h with
  | whole => exact List.cons_ne_nil _ _
  | ranges _ _ _ _ _ tiles => exact tiles.ne_nil

theorem enumerateSplits_eq (fs : FileSystem) (location : String) (format : Format)
    (options : Options) :
    enumerateSplits fs location format options =
      (eligibleFiles fs location options).map (·.flatMap (splitsOf format options)) := by
  rw [enumerateSplits]
  cases eligibleFiles fs location options <;> rfl

/-- The splits are those of the files, one file after the other. -/
theorem enumerateSplits_eq_ok_iff :
    enumerateSplits fs location format options = .ok splits ↔
      ∃ files cut, fs.Lists location options files ∧ files ≠ [] ∧
        (∀ file, CutInto format options file (cut file)) ∧ splits = files.flatMap cut := by
  rw [enumerateSplits_eq]
  constructor
  · intro h
    obtain ⟨files, hfiles, rfl⟩ := map_eq_ok h
    obtain ⟨hlists, hne⟩ := eligibleFiles_eq_ok_iff.1 hfiles
    exact ⟨files, splitsOf format options, hlists, hne, fun _ => cutInto_iff.2 rfl, rfl⟩
  · rintro ⟨files, cut, hlists, hne, hcut, rfl⟩
    have hsame : cut = splitsOf format options := funext fun file => cutInto_iff.1 (hcut file)
    rw [hlists.eligibleFiles hne, hsame]
    rfl

theorem enumerateSplits_ne_nil (h : enumerateSplits fs location format options = .ok splits) :
    splits ≠ [] := by
  obtain ⟨files, cut, -, hne, hcut, rfl⟩ := enumerateSplits_eq_ok_iff.1 h
  obtain ⟨file, rest, rfl⟩ := List.exists_cons_of_ne_nil hne
  rw [List.flatMap_cons]
  exact List.append_ne_nil_of_left_ne_nil (hcut file).ne_nil _

theorem enumerateSplits_eq_error_iff :
    enumerateSplits fs location format options = .error e ↔
      fs.Refuses location options e ∨
        ∃ fault, e = .config fault ∧ fs.HasNothing location options fault := by
  rw [enumerateSplits_eq, ← eligibleFiles_eq_error_iff]
  refine ⟨map_eq_error, fun h => ?_⟩
  rw [h]
  rfl

end TableScan
