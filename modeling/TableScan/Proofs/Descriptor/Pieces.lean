import TableScan.Proofs.Descriptor.Scans

/-!
# Pieces of descriptors

A text comes through the cutting of a descriptor whole if a scan goes over it without a cut and
stands after it where it stood before (`PassesOver`). What is inside brackets may hold separators,
since there a scan stands one level deeper (`StandsFrom`). Text that is passed over at every depth
and has no blanks at its ends may stand for a name or a type (`IsPart`). A descriptor is read back
if the name and the type of each field are found again in its entry (`IsLegible`) and its entries
are whole (`fields_render_of_isLegible`), so one made of such parts is
(`fields_render_of_hasParts`).
-/

namespace TableScan

namespace Descriptor

/-! ### Passing over -/

/-- A scan goes over a text without cutting it, and stands after it where it stood before. -/
structure PassesOver (sep : Char) (n : Nesting) (w : List Char) : Prop where
  uncut : IsUncut sep n w
  returns : w.foldl Nesting.after n = n

variable {sep c o : Char} {n : Nesting} {v w : List Char} {ps : List (List Char)}

namespace PassesOver

theorem nil : PassesOver sep n [] := ⟨rfl, rfl⟩

theorem append (hv : PassesOver sep n v) (hw : PassesOver sep n w) : PassesOver sep n (v ++ w) where
  uncut := isUncut_append.2 ⟨hv.uncut, hv.returns.symm ▸ hw.uncut⟩
  returns := by rw [List.foldl_append, hv.returns, hw.returns]

theorem singleton (hcut : cutsAt sep n c = false) (hafter : n.after c = n) :
    PassesOver sep n [c] where
  uncut := isUncut_cons.2 ⟨hcut, isUncut_nil⟩
  returns := hafter

theorem enclosed {depth : Nat} (ho : Nesting.isOpening o = true) (hc : Nesting.isClosing c = true)
    (h : PassesOver sep { depth := depth + 1 } w) :
    PassesOver sep { depth } (o :: (w ++ [c])) := by
  have hopen := after_of_isOpening ho depth
  have hclose : ({ depth := depth + 1 } : Nesting).after c = { depth } :=
    after_of_isClosing hc (depth + 1)
  have hcutOpen : cutsAt sep { depth } o = false := by simp [cutsAt, ho]
  have hcutClose : cutsAt sep { depth := depth + 1 } c = false := by simp [cutsAt, hc]
  constructor
  · rw [isUncut_cons, hopen, isUncut_append, h.returns, isUncut_cons]
    exact ⟨hcutOpen, h.uncut, hcutClose, isUncut_nil⟩
  · rw [List.foldl_cons, hopen, List.foldl_append, h.returns, List.foldl_cons, hclose,
      List.foldl_nil]

end PassesOver

theorem wholePieces_of_passesOver (h : ∀ p ∈ ps, PassesOver sep {} p) : WholePieces sep {} ps := by
  induction ps with
  | nil => exact .nil
  | cons p ps ih =>
    rw [List.forall_mem_cons] at h
    exact .cons h.1.uncut (fun _ => h.1.returns) (ih h.2)

/-! ### Depths -/

/-- A character that is no bracket, no quote and no separator. -/
def isInert (c : Char) : Bool :=
  !(Nesting.isQuote c || Nesting.isOpening c || Nesting.isClosing c || c = ',' || c = ':')

/-- Where at least `least` brackets are open, scans for commas and for colons go over the text. -/
def StandsFrom (least : Nat) (w : List Char) : Prop :=
  ∀ depth, least ≤ depth → PassesOver ',' { depth } w ∧ PassesOver ':' { depth } w

namespace StandsFrom

variable {least : Nat}

theorem mono (h : StandsFrom 0 w) (least : Nat) : StandsFrom least w :=
  fun depth _ => h depth (Nat.zero_le depth)

theorem nil : StandsFrom least [] := fun _ _ => ⟨.nil, .nil⟩

theorem append (hv : StandsFrom least v) (hw : StandsFrom least w) : StandsFrom least (v ++ w) :=
  fun depth h =>
    ⟨(hv depth h).1.append (hw depth h).1, (hv depth h).2.append (hw depth h).2⟩

theorem of_inert (h : ∀ c ∈ w, isInert c = true) : StandsFrom 0 w := by
  induction w with
  | nil => exact nil
  | cons c w ih =>
    have hc := h c List.mem_cons_self
    simp only [isInert, Bool.not_or, Bool.and_eq_true, Bool.not_eq_true', decide_eq_false_iff_not]
      at hc
    obtain ⟨⟨⟨⟨hquote, hopen⟩, hclose⟩, hcomma⟩, hcolon⟩ := hc
    have hfirst : StandsFrom 0 [c] := fun depth _ =>
      have hafter := after_of_plain hquote hopen hclose depth
      ⟨.singleton (by simp [cutsAt, hcomma]) hafter, .singleton (by simp [cutsAt, hcolon]) hafter⟩
    exact hfirst.append (ih fun c' hc' => h c' (List.mem_cons_of_mem _ hc'))

theorem separator (hc : c = ',' ∨ c = ':') : StandsFrom 1 [c] := by
  intro depth hdepth
  have hafter : ({ depth } : Nesting).after c = { depth } := by
    obtain rfl | rfl := hc <;> exact after_of_plain (by decide) (by decide) (by decide) depth
  have hcut : ∀ sep, cutsAt sep { depth } c = false := by
    intro sep
    have htop : ({ depth } : Nesting).isTop = false := by simp [Nesting.isTop]; omega
    simp [cutsAt, htop]
  exact ⟨.singleton (hcut ',') hafter, .singleton (hcut ':') hafter⟩

theorem enclosed (ho : Nesting.isOpening o = true) (hc : Nesting.isClosing c = true)
    (h : StandsFrom 1 w) : StandsFrom 0 (o :: (w ++ [c])) := fun depth _ =>
  have hw := h (depth + 1) (Nat.succ_pos depth)
  ⟨hw.1.enclosed ho hc, hw.2.enclosed ho hc⟩

theorem joined (h : ∀ p ∈ ps, StandsFrom 1 p) : StandsFrom 1 (Text.joined ',' ps) := by
  induction ps with
  | nil => exact nil
  | cons p ps ih =>
    have hp := h p List.mem_cons_self
    cases ps with
    | nil => exact hp
    | cons q ps =>
      have hrest := ih fun p' hp' => h p' (List.mem_cons_of_mem _ hp')
      rw [Text.joined, List.append_cons]
      exact (hp.append (separator (.inl rfl))).append hrest

end StandsFrom

/-! ### Parts of an entry -/

/-- Text that may stand for the name or the type of a field. -/
structure IsPart (w : List Char) : Prop where
  ne_nil : w ≠ []
  trimmed : Text.IsTrimmed w
  stands : StandsFrom 0 w

/-- A name that takes no part in the syntax of descriptors. -/
def isPlainName (name : String) : Bool :=
  name ≠ "" && Text.trimmed name = name && name.toList.all isInert

namespace IsPart

theorem of_isPlainName {name : String} (h : isPlainName name = true) : IsPart name.toList := by
  simp only [isPlainName, Bool.and_eq_true, decide_eq_true_eq, List.all_eq_true] at h
  obtain ⟨⟨hne, htrimmed⟩, hinert⟩ := h
  have htrim : Text.trim name.toList = name.toList := by
    rw [← String.toList_ofList (l := Text.trim name.toList)]
    exact congrArg String.toList htrimmed
  exact
    { ne_nil := mt String.toList_eq_nil_iff.1 hne
      trimmed := Text.trim_eq_self_iff.1 htrim
      stands := StandsFrom.of_inert hinert }

theorem enclosed (hv : IsPart v) (ho : Nesting.isOpening o = true)
    (hc : Nesting.isClosing c = true) (hw : StandsFrom 1 w) : IsPart (v ++ o :: (w ++ [c])) := by
  have hblank := isBlank_of_isClosing hc
  have hend : Text.IsTrimmed [c] := by simp [Text.IsTrimmed, hblank]
  have hends := hv.trimmed.append_append hend hv.ne_nil (List.cons_ne_nil c []) (o :: w)
  exact
    { ne_nil := by simp
      trimmed := by simpa using hends
      stands := hv.stands.append (StandsFrom.enclosed ho hc hw) }

end IsPart

/-! ### Reading what was rendered -/

def entry (f : PhysicalField) : List Char := f.name.toList ++ ':' :: f.typeName.toList

/-- The name and the type of a field are found again in its entry. -/
structure IsLegible (f : PhysicalField) : Prop where
  name : PassesOver ':' {} f.name.toList
  name_ne_nil : f.name.toList ≠ []
  name_trimmed : Text.IsTrimmed f.name.toList
  type : IsUncut ':' {} f.typeName.toList
  type_ne_nil : f.typeName.toList ≠ []
  type_trimmed : Text.IsTrimmed f.typeName.toList

variable {f : PhysicalField} {fields : List PhysicalField}

theorem IsLegible.isTrimmed_entry (h : IsLegible f) : Text.IsTrimmed (entry f) := by
  have happend :=
    h.name_trimmed.append_append h.type_trimmed h.name_ne_nil h.type_ne_nil [':']
  simpa [entry] using happend

theorem IsLegible.field?_entry (h : IsLegible f) : field? (entry f) = some f := by
  have hwhole : WholePieces ':' {} [f.name.toList, f.typeName.toList] :=
    .cons h.name.uncut (fun _ => h.name.returns) (.cons h.type (fun hne => absurd rfl hne) .nil)
  have hpieces : topLevelPieces ':' (entry f) = [f.name.toList, f.typeName.toList] := by
    apply topLevelPieces_joined (by decide) (by simp) hwhole
    simp [h.name_trimmed, h.type_trimmed]
  rw [field?, hpieces]
  simp only [h.name_ne_nil, h.type_ne_nil, or_self, if_false, String.ofList_toList]

theorem body_struct (inner : List Char) :
    body ("struct<".toList ++ inner ++ ">".toList) = inner := by
  have hword : Text.IsTrimmed "struct<".toList := Text.trim_eq_self_iff.1 (by decide)
  have hbracket : Text.IsTrimmed ">".toList := Text.trim_eq_self_iff.1 (by decide)
  have htrim :=
    Text.trim_eq_self_iff.2 (hword.append_append hbracket (by decide) (by decide) inner)
  have hshape : "struct<".toList ++ inner ++ ">".toList =
      "struct".toList ++ '<' :: (inner ++ ['>']) := by simp
  have hopen : Text.cutAtFirst? '<' ("struct".toList ++ '<' :: (inner ++ ['>'])) =
      some ("struct".toList, inner ++ ['>']) := Text.cutAtFirst?_append_cons (by decide) _
  have hclose : Text.cutAtLast? '>' (inner ++ ['>']) = some (inner, []) :=
    Text.cutAtLast?_append_cons (by simp) inner
  rw [body, htrim, hshape]
  simp only [hopen, hclose]

theorem toList_intercalate_comma (ws : List String) :
    (",".intercalate ws).toList = Text.joined ',' (ws.map String.toList) := by
  rw [String.toList_intercalate, Text.joined_eq_intercalate]
  rfl

theorem body_render (fields : List PhysicalField) :
    body (render fields).toList = Text.joined ',' (fields.map entry) := by
  rw [render, String.toList_append, String.toList_append, toList_intercalate_comma, body_struct,
    List.map_map]
  exact congrArg _ (List.map_congr_left fun f _ => by simp [entry])

/-- Rendering is undone by reading where the entries are whole and each is read as its field. -/
theorem fields_render_of_isLegible (whole : WholePieces ',' {} (fields.map entry))
    (legible : ∀ f ∈ fields, IsLegible f) : Descriptor.fields (render fields) = fields := by
  cases fields with
  | nil => decide
  | cons f fs =>
    have hpieces : topLevelPieces ',' (body (render (f :: fs)).toList) = (f :: fs).map entry := by
      rw [body_render]
      apply topLevelPieces_joined (by decide) (by simp) whole
      exact List.forall_mem_map.2 fun f' hf' => (legible f' hf').isTrimmed_entry
    have hbody : body (render (f :: fs)).toList ≠ [] := by
      intro hnil
      rw [hnil] at hpieces
      simp [topLevelPieces, rawPieces, entry] at hpieces
    rw [Descriptor.fields, fieldsOfBody, if_neg hbody, hpieces, List.filterMap_map]
    exact (List.filterMap_congr fun f' hf' => (legible f' hf').field?_entry).trans
      List.filterMap_some

theorem fields_render_of_passesOver (legible : ∀ f ∈ fields, IsLegible f)
    (name : ∀ f ∈ fields, PassesOver ',' {} f.name.toList)
    (type : ∀ f ∈ fields, PassesOver ',' {} f.typeName.toList) :
    Descriptor.fields (render fields) = fields := by
  have hcolon : PassesOver ',' {} [':'] := .singleton (by decide) (by decide)
  have hentry : ∀ f ∈ fields, PassesOver ',' {} (entry f) := by
    intro f hf
    have happend := ((name f hf).append hcolon).append (type f hf)
    simpa [entry] using happend
  apply fields_render_of_isLegible
  · exact wholePieces_of_passesOver (List.forall_mem_map.2 hentry)
  · exact legible

/-- The name and the type of a field may stand in an entry. -/
structure HasParts (f : PhysicalField) : Prop where
  name : IsPart f.name.toList
  type : IsPart f.typeName.toList

theorem HasParts.isLegible (h : HasParts f) : IsLegible f where
  name := (h.name.stands 0 le_rfl).2
  name_ne_nil := h.name.ne_nil
  name_trimmed := h.name.trimmed
  type := (h.type.stands 0 le_rfl).2.uncut
  type_ne_nil := h.type.ne_nil
  type_trimmed := h.type.trimmed

/-- Rendering is undone by reading where every name and every type may stand in an entry. -/
theorem fields_render_of_hasParts (h : ∀ f ∈ fields, HasParts f) :
    Descriptor.fields (render fields) = fields :=
  fields_render_of_passesOver (fun f hf => (h f hf).isLegible)
    (fun f hf => ((h f hf).name.stands 0 le_rfl).1) fun f hf => ((h f hf).type.stands 0 le_rfl).1

end Descriptor

end TableScan
