import TableScan.FileSystem.Host

/-!
# Where paths lead

A path that leads somewhere is shorter than the host's limit (`length_lt_of_find`). An entry of the
directory that relative paths begin in is found by its name, and a directory also with slashes after
its name (`find_entry`).
-/

namespace TableScan.Host

variable {h : Host} {path : List UInt8} {root : Node} {links : Nat}

theorem length_lt_of_find {found : Nat × Position} (hfind : h.find path = .ok found) :
    path.length < pathLimit := by
  unfold find at hfind
  split at hfind
  · cases hfind
  · split at hfind
    · cases hfind
    · split at hfind
      · cases hfind
      · rename_i hshort
        exact Nat.lt_of_not_le hshort

theorem walk_replicate_nil {here : Position} (directory : here.node.isDirectory = true) (n : Nat) :
    walk root links here (List.replicate n []) = .ok (links, here) := by
  induction n with
  | zero => rw [List.replicate_zero, walk]
  | succ n ih =>
    obtain ⟨node, above⟩ := here
    cases node with
    | directory entries =>
      rw [List.replicate_succ, walk]
      exact ih
    | file => cases directory
    | link => cases directory

/-- A name in a directory leads to the entry that it names, unless that is a link. -/
theorem walk_name {here : Position} {entries : List (Name × Node)} {name : Name} {node : Node}
    {rest : List Name} (around : here.node = .directory entries)
    (hname : entries.lookup name = some node) (noLink : ∀ target, node ≠ .link target)
    (hhere : isHere name = false) (habove : isAbove name = false)
    (hlength : name.length ≤ nameLimit) :
    walk root links here (name :: rest) =
      walk root links { node, above := here.node :: here.above } rest := by
  rw [walk, around]
  simp only [hhere, habove, hname, Nat.not_lt.2 hlength, if_false, Bool.false_eq_true]

theorem find_entry {entries : List (Name × Node)} {name : Name} {node : Node} {n : Nat}
    (around : h.here.node = .directory entries) (hname : entries.lookup name = some node)
    (noLink : ∀ target, node ≠ .link target) (slashes : n = 0 ∨ node.isDirectory = true)
    (plain : slash ∉ name) (hzero : 0 ∉ name) (hhere : isHere name = false)
    (habove : isAbove name = false) (hlength : name.length ≤ nameLimit)
    (hlimit : name.length + n < pathLimit) :
    h.find (name ++ List.replicate n slash) = .ok (linkLimit,
      { node, above := .directory entries :: h.here.above }) := by
  have hne : name ≠ [] := by rintro rfl; cases hhere
  obtain ⟨b, rest, rfl⟩ := List.exists_cons_of_ne_nil hne
  have hhead : (b :: rest ++ List.replicate n slash).head? ≠ some slash := fun hslash =>
    plain (List.mem_of_mem_head? hslash)
  have hbytes : 0 ∉ b :: rest ++ List.replicate n slash := by
    rw [List.mem_append, not_or]
    exact ⟨hzero, fun hmem => absurd (List.eq_of_mem_replicate hmem) (by decide)⟩
  have hshort : ¬ pathLimit ≤ (b :: rest ++ List.replicate n slash).length := by
    rw [List.length_append, List.length_replicate]
    omega
  have hwalk : walk h.root linkLimit h.here ((b :: rest) :: List.replicate n []) =
      .ok (linkLimit, { node, above := .directory entries :: h.here.above }) := by
    rw [walk_name around hname noLink hhere habove hlength, around]
    obtain rfl | directory := slashes
    · rw [List.replicate_zero, walk]
    · exact walk_replicate_nil directory n
  unfold find
  rw [if_neg (mt List.contains_iff_mem.1 hbytes), if_neg (by simp), if_neg hshort, origin,
    if_neg hhead, Text.pieces_append_replicate plain, hwalk]

end TableScan.Host
