import TableScan.FileSystem.Host

/-!
# Trees of files and directories

What a path of names leads to in a tree (`Node.Leads`) does not depend on the order in which its
directories keep their entries (`Node.Reordered`). `Node.files` goes through a tree directory by
directory, each in the order of its names. It comes to every file once (`mem_files_iff`), and it
comes to them in the order of their paths, compared name by name (`pairwise_files`), so there is one
such list (`files_eq`).
-/

namespace TableScan.Host.Node

/-- The names lead from a node to another. -/
inductive Leads : Node → List Name → Node → Prop where
  | here (node : Node) : Leads node [] node
  | into {entries : List (Name × Node)} {name : Name} {child node : Node} {names : List Name} :
      (name, child) ∈ entries → Leads child names node →
      Leads (.directory entries) (name :: names) node

/-- There are only files and directories in the tree, and no directory has two entries of one
name. -/
inductive IsTree : Node → Prop where
  | file (data : File.Stored) : IsTree (.file data)
  | directory {entries : List (Name × Node)} : (entries.map Prod.fst).Nodup →
      (∀ entry ∈ entries, IsTree entry.2) → IsTree (.directory entries)

/-- The trees differ in nothing but the order of entries in some directories. -/
inductive Reordered : Node → Node → Prop where
  | refl (node : Node) : Reordered node node
  | entries {entries entries' : List (Name × Node)} : entries.Perm entries' →
      Reordered (.directory entries) (.directory entries')
  | inside {before after : List (Name × Node)} {name : Name} {child child' : Node} :
      Reordered child child' →
      Reordered (.directory (before ++ (name, child) :: after))
        (.directory (before ++ (name, child') :: after))
  | trans {a b c : Node} : Reordered a b → Reordered b c → Reordered a c

variable {node node' : Node} {entries : List (Name × Node)} {names : List Name}
  {data : File.Stored}

/-! ### Where names lead -/

theorem leads_file_iff : (file data).Leads names node ↔ names = [] ∧ node = .file data := by
  constructor
  · rintro ⟨⟩
    exact ⟨rfl, rfl⟩
  · rintro ⟨rfl, rfl⟩
    exact .here _

theorem leads_cons_iff {name : Name} :
    (directory entries).Leads (name :: names) node ↔
      ∃ child, (name, child) ∈ entries ∧ child.Leads names node := by
  constructor
  · rintro (_ | ⟨hmem, hleads⟩)
    exact ⟨_, hmem, hleads⟩
  · rintro ⟨child, hmem, hleads⟩
    exact .into hmem hleads

theorem Reordered.symm (h : Reordered node node') : Reordered node' node := by
  induction h with
  | refl node => exact .refl node
  | entries perm => exact .entries perm.symm
  | inside _ ih => exact .inside ih
  | trans _ _ ih ih' => exact .trans ih' ih

/-- Names lead to the same node in a reordered tree, itself reordered. -/
theorem Reordered.leads {there : Node} (h : Reordered node node')
    (hleads : node.Leads names there) :
    ∃ there', there.Reordered there' ∧ node'.Leads names there' := by
  induction h generalizing names there with
  | refl node => exact ⟨there, .refl there, hleads⟩
  | entries perm =>
    cases hleads with
    | here => exact ⟨_, .entries perm, .here _⟩
    | into hmem hchild => exact ⟨there, .refl there, .into (perm.mem_iff.1 hmem) hchild⟩
  | inside hchild ih =>
    cases hleads with
    | here => exact ⟨_, .inside hchild, .here _⟩
    | into hmem hbelow =>
      rw [List.mem_append, List.mem_cons] at hmem
      obtain hmem | hsame | hmem := hmem
      · exact ⟨there, .refl there, .into (List.mem_append_left _ hmem) hbelow⟩
      · cases hsame
        obtain ⟨there', hthere, hbelow'⟩ := ih hbelow
        exact ⟨there', hthere, .into (List.mem_append_right _ List.mem_cons_self) hbelow'⟩
      · exact ⟨there, .refl there,
          .into (List.mem_append_right _ (List.mem_cons_of_mem _ hmem)) hbelow⟩
  | trans _ _ ih ih' =>
    obtain ⟨there', hthere, hleads'⟩ := ih hleads
    obtain ⟨there'', hthere', hleads''⟩ := ih' hleads'
    exact ⟨there'', .trans hthere hthere', hleads''⟩

theorem Reordered.eq_file (h : Reordered node node') (hfile : node = .file data) :
    node' = .file data := by
  induction h with
  | refl => exact hfile
  | entries => cases hfile
  | inside => cases hfile
  | trans _ _ ih ih' => exact ih' (ih hfile)

theorem Reordered.leads_file_iff (h : Reordered node node') :
    node.Leads names (.file data) ↔ node'.Leads names (.file data) := by
  have forth {node node' : Node} (h : Reordered node node')
      (hleads : node.Leads names (.file data)) : node'.Leads names (.file data) := by
    obtain ⟨there, hthere, hleads'⟩ := h.leads hleads
    rwa [hthere.eq_file rfl] at hleads'
  exact ⟨forth h, forth h.symm⟩

theorem Reordered.isTree (h : Reordered node node') (tree : node.IsTree) : node'.IsTree := by
  induction h with
  | refl => exact tree
  | entries perm =>
    cases tree with
    | directory nodup trees =>
      exact .directory ((perm.map Prod.fst).nodup_iff.1 nodup)
        fun entry hmem => trees entry (perm.mem_iff.2 hmem)
  | @inside before after name child child' _ ih =>
    cases tree with
    | directory nodup trees =>
      refine .directory (by simpa using nodup) fun entry hmem => ?_
      rw [List.mem_append, List.mem_cons] at hmem
      obtain hmem | rfl | hmem := hmem
      · exact trees entry (List.mem_append_left _ hmem)
      · exact ih (trees _ (List.mem_append_right _ List.mem_cons_self))
      · exact trees entry (List.mem_append_right _ (List.mem_cons_of_mem _ hmem))
  | trans _ _ ih ih' => exact ih' (ih tree)

theorem Reordered.isDirectory (h : Reordered node node') :
    node'.isDirectory = node.isDirectory := by
  induction h with
  | refl => rfl
  | entries => rfl
  | inside => rfl
  | trans _ _ ih ih' => rw [ih', ih]

/-! ### The files in order -/

/-- The files of a tree with the names that lead to them: those of the entries of a directory one
after the other, in the order of the names. -/
def files : Node → List (List Name × File.Stored)
  | file data => [([], data)]
  | directory entries =>
    (byName entries).attach.flatMap fun ⟨entry, _⟩ =>
      (files entry.2).map fun f => (entry.1 :: f.1, f.2)
  | link _ => []
termination_by node => sizeOf node
decreasing_by
  rename_i hmem
  have := sizeOf_of_mem_byName hmem
  simp only [directory.sizeOf_spec]
  omega

theorem files_file (data : File.Stored) : (file data).files = [([], data)] := by rw [files]

theorem files_directory (entries : List (Name × Node)) :
    (directory entries).files =
      (byName entries).flatMap fun entry => entry.2.files.map fun f => (entry.1 :: f.1, f.2) := by
  rw [files, List.flatMap_subtype (g := fun entry : Name × Node =>
    entry.2.files.map fun f => (entry.1 :: f.1, f.2)) fun _ _ => rfl, List.unattach_attach]

theorem mem_byName_iff {entry : Name × Node} : entry ∈ byName entries ↔ entry ∈ entries :=
  List.mem_mergeSort

theorem files_link (target : List UInt8) : (link target).files = [] := by rw [files]

/-- The files of a tree are those that names lead to. -/
theorem mem_files_iff : (names, data) ∈ node.files ↔ node.Leads names (.file data) := by
  induction names generalizing node with
  | nil =>
    cases node with
    | file stored => simp [files_file, leads_file_iff]
    | directory entries =>
      simp only [files_directory, List.mem_flatMap, List.mem_map, Prod.mk.injEq, reduceCtorEq,
        false_and, and_false, exists_false, false_iff]
      rintro ⟨⟩
    | link target =>
      simp only [files_link, List.not_mem_nil, false_iff]
      rintro ⟨⟩
  | cons name names ih =>
    cases node with
    | file stored => simp [files_file, leads_file_iff]
    | directory entries =>
      rw [files_directory, leads_cons_iff, List.mem_flatMap]
      constructor
      · rintro ⟨⟨_, child⟩, hmem, hfile⟩
        obtain ⟨f, hf, hsame⟩ := List.mem_map.1 hfile
        cases hsame
        exact ⟨child, mem_byName_iff.1 hmem, ih.1 hf⟩
      · rintro ⟨child, hmem, hleads⟩
        exact ⟨(name, child), mem_byName_iff.2 hmem, List.mem_map.2 ⟨_, ih.2 hleads, rfl⟩⟩
    | link target =>
      simp only [files_link, List.not_mem_nil, false_iff]
      rintro ⟨⟩

theorem pairwise_byName (nodup : (entries.map Prod.fst).Nodup) :
    (byName entries).Pairwise fun a b => a.1 < b.1 := by
  have htrans (a b c : Name × Node) (hab : decide (a.1 ≤ b.1) = true)
      (hbc : decide (b.1 ≤ c.1) = true) : decide (a.1 ≤ c.1) = true :=
    decide_eq_true (List.le_trans (of_decide_eq_true hab) (of_decide_eq_true hbc))
  have htotal (a b : Name × Node) : (decide (a.1 ≤ b.1) || decide (b.1 ≤ a.1)) = true := by
    rw [Bool.or_eq_true, decide_eq_true_eq, decide_eq_true_eq]
    exact List.le_total a.1 b.1
  have hsorted : (byName entries).Pairwise fun a b => decide (a.1 ≤ b.1) = true :=
    List.pairwise_mergeSort htrans htotal entries
  have hdistinct : (byName entries).Pairwise fun a b => a.1 ≠ b.1 :=
    List.pairwise_map.1 (((List.mergeSort_perm entries _).map Prod.fst).nodup_iff.2 nodup)
  refine (hsorted.and hdistinct).imp fun ⟨hle, hne⟩ => ?_
  exact (List.le_iff_lt_or_eq.1 (of_decide_eq_true hle)).resolve_right hne

theorem byName_eq {sorted : List (Name × Node)} (perm : entries.Perm sorted)
    (inOrder : sorted.Pairwise fun a b => a.1 < b.1) : byName entries = sorted := by
  have hnodup : (entries.map Prod.fst).Nodup := by
    rw [(perm.map Prod.fst).nodup_iff, List.nodup_iff_pairwise_ne, List.pairwise_map]
    refine inOrder.imp fun hlt hsame => ?_
    rw [hsame] at hlt
    exact List.lt_irrefl _ hlt
  have hperm : (byName entries).Perm sorted := (List.mergeSort_perm entries _).trans perm
  exact hperm.eq_of_pairwise (fun a b _ _ hab hba => absurd hba (List.lt_asymm hab))
    (pairwise_byName hnodup) inOrder

/-- The files of a tree stand in the order of the names that lead to them. -/
theorem pairwise_files (tree : node.IsTree) : node.files.Pairwise fun a b => a.1 < b.1 := by
  induction tree with
  | file data =>
    rw [files_file]
    exact List.pairwise_singleton ..
  | directory nodup _ ih =>
    rw [files_directory, List.pairwise_flatMap]
    refine ⟨fun entry hmem => ?_, (pairwise_byName nodup).imp fun hlt => ?_⟩
    · refine List.pairwise_map.2 ((ih entry (mem_byName_iff.1 hmem)).imp fun hlt => ?_)
      exact List.cons_lt_cons_iff.2 (.inr ⟨rfl, hlt⟩)
    · intro f hf f' hf'
      obtain ⟨_, -, rfl⟩ := List.mem_map.1 hf
      obtain ⟨_, -, rfl⟩ := List.mem_map.1 hf'
      exact List.cons_lt_cons_iff.2 (.inl hlt)

theorem eq_of_pairwise_lt {files files' : List (List Name × File.Stored)}
    (sorted : files.Pairwise fun a b => a.1 < b.1) (sorted' : files'.Pairwise fun a b => a.1 < b.1)
    (same : ∀ f, f ∈ files ↔ f ∈ files') : files = files' := by
  have nodup {l : List (List Name × File.Stored)} (h : l.Pairwise fun a b => a.1 < b.1) :
      l.Nodup := by
    refine h.imp ?_
    rintro a b hlt rfl
    exact List.lt_irrefl _ hlt
  have hperm := (List.perm_ext_iff_of_nodup (nodup sorted) (nodup sorted')).2 same
  exact hperm.eq_of_pairwise (fun a b _ _ hab hba => absurd hba (List.lt_asymm hab)) sorted sorted'

/-- The order of entries does not show in the files of a tree. -/
theorem Reordered.files_eq (h : Reordered node node') (tree : node.IsTree) :
    node'.files = node.files := by
  refine eq_of_pairwise_lt (pairwise_files (h.isTree tree)) (pairwise_files tree) fun f => ?_
  exact mem_files_iff.trans (h.leads_file_iff.symm.trans mem_files_iff.symm)

end TableScan.Host.Node
