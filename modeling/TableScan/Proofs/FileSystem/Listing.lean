import TableScan.Proofs.FileSystem.Finding
import TableScan.Proofs.FileSystem.Tree
import TableScan.Proofs.Outcome
import TableScan.Proofs.Text.Utf8

/-!
# Listings of trees

A listing of a directory comes to the paths in its scope: all that lie below it, or only those
directly in it. If they are all shorter than the host's limit on paths, the listing is made of the
files of the tree in their order, and if one of them is not, it fails (`listing_of_isTree`).
-/

namespace TableScan.Host

/-- The path that names lead to from a path. -/
def pathBelow (path : List UInt8) (names : List Name) : List UInt8 := names.foldl join path

/-- What a listing says of a file below a path. -/
def statusBelow (path : List UInt8) (f : List Name × File.Stored) : FileStatus :=
  { path := Text.ofBytesLossy (pathBelow path f.1)
    length := f.2.content.length
    isDirectory := false }

/-- A listing comes to a place below the directory it begins with: to every place, or only to those
that one name leads to. -/
def InScope (recursive : Bool) (names : List Name) : Prop := recursive = true ∨ names.length ≤ 1

instance (recursive : Bool) (names : List Name) : Decidable (InScope recursive names) :=
  inferInstanceAs (Decidable (_ ∨ _))

/-- No path that a listing comes to reaches the host's limit. -/
def Fits (recursive : Bool) (path : List UInt8) (node : Node) : Prop :=
  ∀ names there, node.Leads names there → InScope recursive names →
    (pathBelow path names).length < pathLimit

/-- An entry of a directory is within the limit, and so is all that a listing comes to below it. -/
def EntryFits (recursive : Bool) (path : List UInt8) (entry : Name × Node) : Prop :=
  (join path entry.1).length < pathLimit ∧
    (recursive = true → Fits true (join path entry.1) entry.2)

def filesInScope (recursive : Bool) (node : Node) : List (List Name × File.Stored) :=
  node.files.filter fun f => InScope recursive f.1

def entryFilesInScope (recursive : Bool) (entry : Name × Node) :
    List (List Name × File.Stored) :=
  (entry.2.files.map fun f => (entry.1 :: f.1, f.2)).filter fun f => InScope recursive f.1

/-- A listing gives all the files there are if the paths fit, and otherwise nothing but an error. -/
inductive AllOrNothing (fits : Prop) (files : List FileStatus) :
    Except OsError (List FileStatus) → Prop where
  | all : fits → AllOrNothing fits files (.ok files)
  | nothing : ¬ fits → AllOrNothing fits files (.error .nameTooLong)

variable {recursive : Bool} {path : List UInt8} {node root : Node} {entries : List (Name × Node)}
  {links : Nat}

/-! ### Paths within the limit -/

theorem fits_file_iff {data : File.Stored} :
    Fits recursive path (.file data) ↔ path.length < pathLimit := by
  constructor
  · exact fun h => h [] _ (.here _) (.inr (Nat.zero_le _))
  · rintro h names there ⟨⟩ -
    exact h

theorem fits_directory_iff :
    Fits recursive path (.directory entries) ↔
      path.length < pathLimit ∧ ∀ entry ∈ entries, EntryFits recursive path entry := by
  constructor
  · intro h
    refine ⟨h [] _ (.here _) (.inr (Nat.zero_le _)), fun entry hmem => ⟨?_, ?_⟩⟩
    · exact h [entry.1] entry.2 (.into hmem (.here _)) (.inr (Nat.le_refl _))
    · rintro rfl names there hleads -
      exact h (entry.1 :: names) there (.into hmem hleads) (.inl rfl)
  · rintro ⟨hpath, hentries⟩ names there hleads hscope
    cases hleads with
    | here => exact hpath
    | @into _ name child _ names hmem hbelow =>
      obtain ⟨hentry, hinside⟩ := hentries _ hmem
      obtain rfl | hshort := hscope
      · exact hinside rfl names there hbelow (.inl rfl)
      · have hnil : names = [] := List.length_eq_zero_iff.1 (by simpa using hshort)
        rw [hnil]
        exact hentry

/-! ### Files in scope -/

theorem filesInScope_true (node : Node) : filesInScope true node = node.files :=
  List.filter_eq_self.2 fun _ _ => decide_eq_true (.inl rfl)

theorem filesInScope_directory :
    filesInScope recursive (.directory entries) =
      (byName entries).flatMap (entryFilesInScope recursive) := by
  rw [filesInScope, Node.files_directory, List.filter_flatMap]
  rfl

theorem entryFilesInScope_file (name : Name) (data : File.Stored) :
    entryFilesInScope recursive (name, .file data) = [([name], data)] := by
  simp [entryFilesInScope, Node.files_file, InScope]

theorem filesInScope_false (directory : node.isDirectory = true) :
    filesInScope false node = node.files.filter fun f => f.1.length = 1 := by
  refine List.filter_congr fun f hf => decide_eq_decide.2 ?_
  obtain ⟨names, data⟩ := f
  cases Node.mem_files_iff.1 hf with
  | here => cases directory
  | into => simp [InScope]

theorem entryFilesInScope_false (name : Name) :
    entryFilesInScope false (name, .directory entries) = [] := by
  refine List.filter_eq_nil_iff.2 fun f hf => ?_
  obtain ⟨⟨names, data⟩, hmem, rfl⟩ := List.mem_map.1 hf
  cases Node.mem_files_iff.1 hmem with
  | into => simp [InScope]

/-- A recursive listing says of the files of an entry what one that begins there says. -/
theorem map_entryFilesInScope_true (path : List UInt8) (entry : Name × Node) :
    (entryFilesInScope true entry).map (statusBelow path) =
      (filesInScope true entry.2).map (statusBelow (join path entry.1)) := by
  have hall : entryFilesInScope true entry = entry.2.files.map fun f => (entry.1 :: f.1, f.2) :=
    List.filter_eq_self.2 fun _ _ => decide_eq_true (.inl rfl)
  rw [hall, filesInScope_true, List.map_map]
  rfl

/-! ### Entry by entry -/

section ConcatMap

variable {α β ε : Type} {l : List α}

theorem concatMap_attach {f : α → Except ε (List β)} {g : { a // a ∈ l } → Except ε (List β)}
    (h : ∀ a (hmem : a ∈ l), g ⟨a, hmem⟩ = f a) : concatMap g l.attach = concatMap f l := by
  have hmap (items : List { a // a ∈ l }) : concatMap g items = concatMap f items.unattach := by
    induction items with
    | nil => rfl
    | cons item items ih =>
      rw [concatMap, ih, h item.1 item.2, List.unattach_cons, concatMap]
  rw [hmap, List.unattach_attach]

/-- All failures being alike, it does not matter which of them comes first. -/
theorem AllOrNothing.concatMap {fits : α → Prop} {files : α → List FileStatus}
    {f : α → Except OsError (List FileStatus)}
    (h : ∀ a ∈ l, AllOrNothing (fits a) (files a) (f a)) :
    AllOrNothing (∀ a ∈ l, fits a) (l.flatMap files) (concatMap f l) := by
  induction l with
  | nil => exact .all fun a hmem => absurd hmem List.not_mem_nil
  | cons a l ih =>
    rw [List.forall_mem_cons] at h
    rw [Host.concatMap, List.flatMap_cons]
    simp only [List.forall_mem_cons]
    have hfirst := h.1
    have hrest := ih h.2
    generalize f a = first at hfirst
    generalize Host.concatMap f l = rest at hrest
    cases hfirst with
    | nothing hlong => exact .nothing fun hfits => hlong hfits.1
    | all hfits =>
      cases hrest with
      | nothing hlong => exact .nothing fun hfits => hlong hfits.2
      | all hfits' => exact .all ⟨hfits, hfits'⟩

end ConcatMap

def listEntry (root : Node) (recursive : Bool) (links : Nat) (path : List UInt8)
    (around : List Node) (entry : Name × Node) : Except OsError (List FileStatus) :=
  if pathLimit ≤ (join path entry.1).length then .error .nameTooLong
  else if entry.2.isDirectory then
    if recursive then
      listing root recursive links (join path entry.1) { node := entry.2, above := around }
    else .ok []
  else .ok [statusOf (join path entry.1) entry.2]

theorem listing_eq_concatMap {above : List Node} (trees : ∀ entry ∈ entries, entry.2.IsTree) :
    listing root recursive links path { node := .directory entries, above } =
      concatMap (listEntry root recursive links path (.directory entries :: above))
        (byName entries) := by
  rw [listing]
  dsimp only
  refine concatMap_attach ?_
  rintro ⟨name, child⟩ hmem
  cases trees _ (Node.mem_byName_iff.1 hmem) with
  | file data => rfl
  | directory => rfl

theorem listEntry_of_isTree {entry : Name × Node} {around : List Node} (tree : entry.2.IsTree)
    (lists : entry.2.isDirectory = true → (join path entry.1).length < pathLimit →
      AllOrNothing (Fits true (join path entry.1) entry.2)
        ((filesInScope true entry.2).map (statusBelow (join path entry.1)))
        (listing root true links (join path entry.1) { node := entry.2, above := around })) :
    AllOrNothing (EntryFits recursive path entry)
      ((entryFilesInScope recursive entry).map (statusBelow path))
      (listEntry root recursive links path around entry) := by
  obtain ⟨name, child⟩ := entry
  unfold listEntry
  split
  · rename_i hlong
    exact .nothing fun hfits => absurd hfits.1 (Nat.not_lt_of_le hlong)
  · rename_i hlong
    have hshort := Nat.lt_of_not_le hlong
    cases tree with
    | file data =>
      rw [entryFilesInScope_file]
      exact .all ⟨hshort, fun _ => fits_file_iff.2 hshort⟩
    | directory nodup trees =>
      cases recursive with
      | false =>
        rw [entryFilesInScope_false]
        exact .all ⟨hshort, nofun⟩
      | true =>
        have hiff : EntryFits true path (name, _) ↔ Fits true (join path name) _ :=
          ⟨fun h => h.2 rfl, fun h => ⟨hshort, fun _ => h⟩⟩
        rw [map_entryFilesInScope_true, hiff]
        exact lists rfl hshort

theorem listing_of_isTree {above : List Node} (tree : node.IsTree)
    (directory : node.isDirectory = true) (short : path.length < pathLimit) :
    AllOrNothing (Fits recursive path node)
      ((filesInScope recursive node).map (statusBelow path))
      (listing root recursive links path { node, above }) := by
  induction tree generalizing recursive path above with
  | file => cases directory
  | @directory entries nodup trees ih =>
    have hentry (entry : Name × Node) (hmem : entry ∈ byName entries) :
        AllOrNothing (EntryFits recursive path entry)
          ((entryFilesInScope recursive entry).map (statusBelow path))
          (listEntry root recursive links path (.directory entries :: above) entry) := by
      have hmem := Node.mem_byName_iff.1 hmem
      exact listEntry_of_isTree (trees entry hmem) (ih entry hmem)
    have hlisting := AllOrNothing.concatMap hentry
    have hiff : Fits recursive path (.directory entries) ↔
        ∀ entry ∈ byName entries, EntryFits recursive path entry := by
      simp only [fits_directory_iff, short, true_and, Node.mem_byName_iff]
    rw [listing_eq_concatMap trees, filesInScope_directory, List.map_flatMap, hiff]
    exact hlisting

/-! ### Listings of a host -/

theorem AllOrNothing.unique {fits : Prop} {files : List FileStatus}
    {result result' : Except OsError (List FileStatus)} (h : AllOrNothing fits files result)
    (h' : AllOrNothing fits files result') : result = result' := by
  cases h with
  | all hfits =>
    cases h' with
    | all => rfl
    | nothing hlong => exact absurd hfits hlong
  | nothing hlong =>
    cases h' with
    | all hfits => exact absurd hfits hlong
    | nothing => rfl

theorem AllOrNothing.eq_ok {fits : Prop} {files : List FileStatus}
    {result : Except OsError (List FileStatus)} (h : AllOrNothing fits files result)
    (hfits : fits) : result = .ok files :=
  h.unique (.all hfits)

theorem AllOrNothing.eq_error {fits : Prop} {files : List FileStatus}
    {result : Except OsError (List FileStatus)} (h : AllOrNothing fits files result)
    (hlong : ¬ fits) : result = .error .nameTooLong :=
  h.unique (.nothing hlong)

/-- The order of entries does not show in the paths that a listing comes to. -/
theorem Node.Reordered.fits_iff {node' : Node} (h : node.Reordered node') :
    Fits recursive path node ↔ Fits recursive path node' := by
  have forth {node node' : Node} (h : node.Reordered node') (hfits : Fits recursive path node) :
      Fits recursive path node' := by
    intro names there hleads hscope
    obtain ⟨there', -, hleads'⟩ := h.symm.leads hleads
    exact hfits names there' hleads' hscope
  exact ⟨forth h, forth h.symm⟩

variable {h : Host} {location : String} {there : Position}

theorem listFiles_of_find (named : Location.hostPath location = .ok path)
    (found : h.find path = .ok (links, there)) (directory : there.node.isDirectory = true) :
    h.fileSystem.listFiles location recursive =
      match listing h.root recursive links path there with
      | .ok files => .ok files
      | .error e => .error (.fs "list" location (.os e)) := by
  have hlist : h.fileSystem.listFiles location recursive =
      reported "list" location (h.listFiles path recursive) := by
    simp only [fileSystem, named, bind, Except.bind]
  rw [hlist, listFiles, found]
  simp only [directory, if_true]
  cases listing h.root recursive links path there <;> rfl

/-- A listing of a directory of a tree is complete and in order. -/
theorem lists_files_in_order (named : Location.hostPath location = .ok path)
    (found : h.find path = .ok (links, there)) (directory : there.node.isDirectory = true)
    (tree : there.node.IsTree) :
    ∃ files : List (List Name × File.Stored),
      (∀ names data, (names, data) ∈ files ↔ there.node.Leads names (.file data)) ∧
      files.Pairwise (fun f g => f.1 < g.1) ∧
      (Fits true path there.node →
        h.fileSystem.listFiles location true = .ok (files.map (statusBelow path))) ∧
      (Fits false path there.node →
        h.fileSystem.listFiles location false =
          .ok ((files.filter fun f => f.1.length = 1).map (statusBelow path))) ∧
      (∀ recursive, ¬ Fits recursive path there.node →
        h.fileSystem.listFiles location recursive =
          .error (.fs "list" location (.os .nameTooLong))) ∧
      (∀ f ∈ files, ∀ text, pathBelow path f.1 = Text.bytesOf text →
        (statusBelow path f).path = text) ∧
      ∀ (h' : Host) (found' : Nat × Position), h'.find path = .ok found' →
        there.node.Reordered found'.2.node → ∀ recursive,
          h'.fileSystem.listFiles location recursive =
            h.fileSystem.listFiles location recursive := by
  have hlisting (recursive : Bool) :
      AllOrNothing (Fits recursive path there.node)
        ((filesInScope recursive there.node).map (statusBelow path))
        (listing h.root recursive links path there) :=
    listing_of_isTree tree directory (length_lt_of_find found)
  have hlist (recursive : Bool) : h.fileSystem.listFiles location recursive = _ :=
    listFiles_of_find named found directory
  refine ⟨there.node.files, fun _ _ => Node.mem_files_iff, Node.pairwise_files tree,
    fun hfits => ?_, fun hfits => ?_, fun recursive hlong => ?_, fun f _ text htext => ?_,
    fun h' found' hfound' hreordered recursive => ?_⟩
  · rw [hlist, (hlisting true).eq_ok hfits, filesInScope_true]
  · rw [hlist, (hlisting false).eq_ok hfits, filesInScope_false directory]
  · rw [hlist, (hlisting recursive).eq_error hlong]
  · rw [statusBelow, htext, Text.ofBytesLossy_bytesOf]
  · obtain ⟨links', there'⟩ := found'
    have hlisting' : AllOrNothing (Fits recursive path there'.node)
        ((filesInScope recursive there'.node).map (statusBelow path))
        (listing h'.root recursive links' path there') :=
      listing_of_isTree (hreordered.isTree tree) (hreordered.isDirectory.trans directory)
        (length_lt_of_find hfound')
    rw [← hreordered.fits_iff, filesInScope, hreordered.files_eq tree] at hlisting'
    rw [hlist, listFiles_of_find named hfound' (hreordered.isDirectory.trans directory),
      (hlisting recursive).unique hlisting']

def hostOf (entries : List (Name × Node)) : Host :=
  let root := Node.directory [([116], .directory entries)]
  { root, here := { node := root, above := [] } }

def placeOf (entries : List (Name × Node)) : Position :=
  { node := .directory entries, above := [(hostOf entries).root] }

theorem find_hostOf (entries : List (Name × Node)) {n : Nat} (short : n < 4095) :
    (hostOf entries).find ([116] ++ List.replicate n slash) =
      .ok (linkLimit, placeOf entries) :=
  find_entry rfl rfl nofun (.inr rfl) (by decide) (by decide) rfl rfl (by decide)
    (show 1 + n < 4096 by omega)

/-- The files `a.b` and `a/b` and an empty directory. -/
def dottedEntries : List (Name × Node) :=
  [([97, 46, 98], .file { content := [49] }), ([101], .directory []),
    ([97], .directory [([98], .file { content := [49, 50] })])]

theorem lists_files_in_order_of_dotted_names :
    Location.hostPath "t" = .ok [116] ∧
      (hostOf dottedEntries).find [116] = .ok (linkLimit, placeOf dottedEntries) ∧
      (placeOf dottedEntries).node.isDirectory = true ∧ (placeOf dottedEntries).node.IsTree ∧
      Fits true [116] (placeOf dottedEntries).node ∧
      (hostOf dottedEntries).fileSystem.listFiles "t" true =
        .ok [{ path := "t/a/b", length := 2, isDirectory := false },
          { path := "t/a.b", length := 1, isDirectory := false }] ∧
      (hostOf dottedEntries).fileSystem.listFiles "t" false =
        .ok [{ path := "t/a.b", length := 1, isDirectory := false }] ∧
      (hostOf dottedEntries.reverse).fileSystem.listFiles "t" true =
        (hostOf dottedEntries).fileSystem.listFiles "t" true := by
  have named : Location.hostPath "t" = .ok [116] := eq_ok_of_toOption (by decide +kernel)
  have found : (hostOf dottedEntries).find [116] = .ok (linkLimit, placeOf dottedEntries) :=
    find_hostOf dottedEntries (show 0 < 4095 by decide)
  have found' : (hostOf dottedEntries.reverse).find [116] =
      .ok (linkLimit, placeOf dottedEntries.reverse) :=
    find_hostOf dottedEntries.reverse (show 0 < 4095 by decide)
  have tree : (placeOf dottedEntries).node.IsTree := by
    refine .directory (by decide) ?_
    simp only [dottedEntries, List.forall_mem_cons]
    exact ⟨.file _, .directory List.nodup_nil nofun,
      .directory (by decide) (List.forall_mem_singleton.2 (.file _)), nofun⟩
  have fits : Fits true [116] (placeOf dottedEntries).node := by
    simp [placeOf, dottedEntries, fits_directory_iff, fits_file_iff, EntryFits, join, slash,
      pathLimit]
  have hfiles : (placeOf dottedEntries).node.files =
      [([[97], [98]], { content := [49, 50] }), ([[97, 46, 98]], { content := [49] })] := by
    have hsorted : byName dottedEntries = [_, _, _] :=
      Node.byName_eq (List.perm_append_singleton _ [_, _]) (by decide)
    rw [placeOf, Node.files_directory, hsorted]
    simp [Node.files_directory, Node.files_file, byName]
  obtain ⟨files, complete, ordered, hall, hdirect, -, -, hsame⟩ :=
    lists_files_in_order named found rfl tree
  have hlisted : files = (placeOf dottedEntries).node.files :=
    Node.eq_of_pairwise_lt ordered (Node.pairwise_files tree) fun f =>
      (complete f.1 f.2).trans Node.mem_files_iff.symm
  rw [hlisted, hfiles] at hall hdirect
  exact ⟨named, found, rfl, tree, fits, (hall fits).trans (congrArg _ (by decide +kernel)),
    (hdirect fun names there hleads _ => fits names there hleads (.inl rfl)).trans
      (congrArg _ (by decide +kernel)),
    hsame _ _ found' (.entries (List.reverse_perm dottedEntries).symm) true⟩

theorem encode_replicate_slash (n : Nat) :
    Text.encode (List.replicate n '/') = List.replicate n slash := by
  induction n with
  | zero => rfl
  | succ n ih =>
    have hslash : String.utf8EncodeChar '/' = [slash] := by decide
    rw [List.replicate_succ, List.replicate_succ, ← ih, Text.encode, List.flatMap_cons, hslash]
    rfl

theorem hostPath_slashes (n : Nat) :
    Location.hostPath ("t" ++ String.ofList (List.replicate n '/')) =
      .ok ([116] ++ List.replicate n slash) := by
  have hlist : ("t" ++ String.ofList (List.replicate n '/')).toList =
      't' :: List.replicate n '/' := by
    simp only [String.toList_append, String.toList_ofList]
    rfl
  have hname : String.utf8EncodeChar 't' = [116] := by decide
  simp only [Location.hostPath, hlist, Text.bytesOf]
  rw [← encode_replicate_slash, ← hname]
  rfl

def lonePart : List (Name × Node) :=
  [([112, 97, 114, 116, 45, 48], .file { content := [120, 10] })]

/-- In a directory that is spelled with slashes up to the limit of paths, a file lies beyond the
limit. It is not listed, and the listing fails. -/
theorem file_beyond_path_limit_is_not_listed :
    let h := hostOf lonePart
    let location := "t" ++ String.ofList (List.replicate 4090 '/')
    ∃ path there, Location.hostPath location = .ok path ∧ h.find path = .ok (linkLimit, there) ∧
      there.node.isDirectory = true ∧ there.node.IsTree ∧
      there.node.Leads [[112, 97, 114, 116, 45, 48]] (.file { content := [120, 10] }) ∧
      ∀ recursive, h.fileSystem.listFiles location recursive =
        .error (.fs "list" location (.os .nameTooLong)) := by
  intro h location
  have named := hostPath_slashes 4090
  have found := find_hostOf lonePart (show 4090 < 4095 by decide)
  have tree : (placeOf lonePart).node.IsTree :=
    .directory (by decide) (List.forall_mem_singleton.2 (.file _))
  have hleads : (placeOf lonePart).node.Leads [[112, 97, 114, 116, 45, 48]]
      (.file { content := [120, 10] }) :=
    .into (List.mem_singleton_self _) (.here _)
  refine ⟨_, _, named, found, rfl, tree, hleads, fun recursive => ?_⟩
  have hlong : ¬ Fits recursive ([116] ++ List.replicate 4090 slash) (placeOf lonePart).node := by
    intro hfits
    have hlength := hfits _ _ hleads (.inr (Nat.le_refl 1))
    revert hlength
    -- the path has 4097 bytes, and one more if a slash were put between
    simp only [pathBelow, List.foldl_cons, List.foldl_nil, join]
    split
    all_goals
      simp only [List.length_append, List.length_replicate, List.length_cons, List.length_nil,
        pathLimit]
      omega
  rw [listFiles_of_find named found rfl,
    (listing_of_isTree tree rfl (length_lt_of_find found)).eq_error hlong]

end TableScan.Host
