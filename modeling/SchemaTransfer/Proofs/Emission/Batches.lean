import Mathlib.Data.List.DropRight
import SchemaTransfer.Build.Catalog
import SchemaTransfer.Proofs.Emission.Spelling
import SchemaTransfer.Proofs.Statement.Lines

/-!
# The batches of a rendered script

A script is read again by its lines: those that read `GO` end a piece, and the blank lines around
a piece are left out. Each batch is to be found again as one piece, with the lines of its
statements. Main statement: this is so exactly when no text in a statement has a line that reads
`GO` between its first and its last.
-/

namespace SchemaTransfer

namespace Script

/-- The lines of a text. -/
def linesOf (text : String) : List (List Char) := text.toList.splitOn '\n'

/-- What stands between the lines of a text that read as a separator, and around them. -/
def pieces (text : String) : List (List (List Char)) := (linesOf text).splitOn separator.toList

/-- Lines without the blank ones at their ends. -/
def withoutBlankEnds (lines : List (List Char)) : List (List Char) :=
  (lines.dropWhile (·.isEmpty)).rdropWhile (·.isEmpty)

/-- The lines of the statements of a batch. -/
def batchOnLines (batch : List Statement) : List (List Char) :=
  batch.flatMap fun s => linesOf s.text

/-- The batches that are rendered: those of the script between the ones around it. -/
def blocks (s : Script) : List (List Statement) :=
  s.header ++ s.batches ++ [[.commitTransaction]]

/-- Whether the separators of a rendered script separate its batches and nothing else. -/
def IsSeparated (s : Script) : Prop :=
  (pieces s.render).map withoutBlankEnds = s.blocks.map batchOnLines ++ [[]]

instance (s : Script) : Decidable s.IsSeparated :=
  inferInstanceAs (Decidable (_ = _))

theorem flatten_blocks (s : Script) : s.blocks.flatten = s.rendered := by
  simp [blocks, rendered, statements]

/-! ## The lines of a script -/

theorem linesOf_append_newline (text rest : String) :
    linesOf (text ++ "\n" ++ rest) = linesOf text ++ linesOf rest := by
  have he : (text ++ "\n" ++ rest).toList = text.toList ++ '\n' :: rest.toList := by
    simp [String.append_assoc]
  rw [linesOf, he, List.splitOn_append_cons_self]
  rfl

theorem linesOf_batchLines (batch : List Statement) (rest : String) :
    linesOf (batchLines batch ++ rest) = batchOnLines batch ++ linesOf rest := by
  induction batch with
  | nil => simp [batchLines, batchOnLines]
  | cons s batch ih =>
    have he : batchLines (s :: batch) ++ rest = s.text ++ "\n" ++ (batchLines batch ++ rest) := by
      simp [batchLines, String.append_assoc]
    rw [he, linesOf_append_newline, ih]
    simp [batchOnLines]

theorem linesOf_separator (rest : String) :
    linesOf (separator ++ "\n" ++ rest) = separator.toList :: linesOf rest := by
  have hline : linesOf separator = [separator.toList] := by decide
  rw [linesOf_append_newline, hline]
  rfl

/-- A batch with its separator is rendered on lines of its own, with a blank one after them. -/
theorem linesOf_batchText (batch : List Statement) (rest : String) :
    linesOf (batchText batch ++ rest) =
      batchOnLines batch ++ [separator.toList, []] ++ linesOf rest := by
  have hends : "\n\n" = "\n" ++ ("" ++ "\n") := rfl
  have he : batchText batch ++ rest =
      batchLines batch ++ (separator ++ "\n" ++ ("" ++ "\n" ++ rest)) := by
    simp only [batchText, hends, String.append_assoc]
  have hblank : linesOf "" = [[]] := rfl
  rw [he, linesOf_batchLines, linesOf_separator, linesOf_append_newline, hblank]
  simp

/-- The lines of a rendered script. -/
theorem linesOf_render (s : Script) :
    linesOf s.render = s.blocks.flatMap fun batch =>
      batchOnLines batch ++ [separator.toList, []] := by
  -- The last separator ends its line as the others do, and what follows it is a blank line too.
  have hlast : linesOf (Statement.commitTransaction.text ++ "\n" ++ separator ++ "\n") =
      batchOnLines [.commitTransaction] ++ [separator.toList, []] := by
    decide
  rw [render, blocks, List.flatMap_append]
  induction s.header ++ s.batches with
  | nil => simpa using hlast
  | cons batch batches ih =>
    simp only [List.cons_append, List.foldr_cons, linesOf_batchText, ih, List.flatMap_cons,
      List.append_assoc]

/-! ## What stands between separators -/

/-- A text is split at each place of a mark. -/
theorem length_splitOn {α : Type} [BEq α] (a : α) (xs : List α) :
    (xs.splitOn a).length = xs.count a + 1 := by
  induction xs with
  | nil => rfl
  | cons x xs ih =>
    rw [List.splitOn_cons_eq_if_modifyHead, List.count_cons]
    split
    · rw [List.length_cons, ih]
    · rw [List.length_modifyHead, ih]

theorem separator_ne_nil : separator.toList ≠ [] := by
  decide

/-- Blank lines leave nothing. -/
theorem withoutBlankEnds_blank {blank lines : List (List Char)} (hblank : ∀ l ∈ blank, l = []) :
    withoutBlankEnds (blank ++ lines) = withoutBlankEnds lines := by
  have hdrop : (blank ++ lines).dropWhile (·.isEmpty) = lines.dropWhile (·.isEmpty) := by
    rw [List.dropWhile_append_of_pos]
    simpa using hblank
  rw [withoutBlankEnds, hdrop, withoutBlankEnds]

/-- Batches that hold no separator are found again between the separators that follow them,
whatever blank lines stand before the first one. -/
theorem map_splitOn_blocks {blank : List (List Char)} (hblank : ∀ l ∈ blank, l = [])
    {blocks : List (List (List Char))} (hnone : ∀ lines ∈ blocks, separator.toList ∉ lines) :
    ((blank ++ blocks.flatMap fun lines => lines ++ [separator.toList, []]).splitOn
        separator.toList).map withoutBlankEnds = blocks.map withoutBlankEnds ++ [[]] := by
  have hfront : separator.toList ∉ blank := fun h => separator_ne_nil (hblank _ h)
  induction blocks generalizing blank with
  | nil =>
    rw [List.flatMap_nil, List.append_nil, List.splitOn_eq_singleton hfront, List.map_singleton,
      ← List.append_nil blank, withoutBlankEnds_blank hblank]
    rfl
  | cons lines blocks ih =>
    have hfirst : separator.toList ∉ blank ++ lines := by
      simpa [hfront] using hnone lines List.mem_cons_self
    have hblankLine : ∀ l ∈ ([[]] : List (List Char)), l = [] := by simp
    have hrest := ih hblankLine (fun l hl => hnone l (List.mem_cons_of_mem lines hl)) (by decide)
    have he : blank ++ (lines :: blocks).flatMap (fun lines => lines ++ [separator.toList, []]) =
        (blank ++ lines) ++ separator.toList ::
          ([[]] ++ blocks.flatMap fun lines => lines ++ [separator.toList, []]) := by
      simp [List.append_assoc]
    rw [he, List.splitOn_append_cons_self_of_not_mem hfirst, List.map_cons, hrest,
      withoutBlankEnds_blank hblank, List.map_cons, List.cons_append]

/-- A text that begins with no end of a line begins with a line that is not blank. -/
theorem exists_splitOn_eq_cons {cs : List Char} (h : cs.head?.any isApart = true) :
    ∃ l ls, cs.splitOn '\n' = l :: ls ∧ l ≠ [] := by
  obtain ⟨c, hc, hapart⟩ := Option.any_eq_true _ _ |>.mp h
  obtain ⟨cs, rfl⟩ := List.head?_eq_some_iff.mp hc
  obtain ⟨l, ls, hl⟩ := List.exists_cons_of_ne_nil (List.splitOn_ne_nil '\n' cs)
  refine ⟨c :: l, ls, ?_, List.cons_ne_nil c l⟩
  rw [List.splitOn_cons_eq_if_modifyHead, if_neg (by simpa using (isApart_iff.mp hapart).1), hl,
    List.modifyHead_cons]

/-- A text that ends with no end of a line ends with a line that is not blank. -/
theorem exists_splitOn_eq_concat {cs : List Char} (h : cs.getLast?.any isApart = true) :
    ∃ ls l, cs.splitOn '\n' = ls ++ [l] ∧ l ≠ [] := by
  obtain ⟨c, hc, hapart⟩ := Option.any_eq_true _ _ |>.mp h
  obtain ⟨front, hcs⟩ := List.getLast?_eq_some_iff.mp hc
  have hne : c ≠ '\n' := (isApart_iff.mp hapart).1
  clear h hc
  induction front generalizing cs with
  | nil =>
    have hfeed : '\n' ∉ cs := by simpa [hcs] using hne.symm
    exact ⟨[], cs, List.splitOn_eq_singleton hfeed, by simp [hcs]⟩
  | cons d front ih =>
    obtain ⟨ls, l, hl, hlast⟩ := ih rfl
    rw [hcs, List.cons_append, List.splitOn_cons_eq_if_modifyHead, hl]
    split
    · exact ⟨[] :: ls, l, rfl, hlast⟩
    · cases ls with
      | nil => exact ⟨[], d :: l, rfl, List.cons_ne_nil d l⟩
      | cons first ls => exact ⟨(d :: first) :: ls, l, rfl, hlast⟩

/-- A statement begins and ends with lines that are not blank. -/
theorem withoutBlankEnds_batchOnLines (batch : List Statement) :
    withoutBlankEnds (batchOnLines batch) = batchOnLines batch := by
  have hfirst : (batchOnLines batch).dropWhile (·.isEmpty) = batchOnLines batch := by
    cases batch with
    | nil => rfl
    | cons s batch =>
      obtain ⟨l, ls, hl, hne⟩ := exists_splitOn_eq_cons s.isApart_text.1
      rw [batchOnLines, List.flatMap_cons, linesOf, hl, List.cons_append,
        List.dropWhile_cons_of_neg (by simpa using hne)]
  have hlast : (batchOnLines batch).rdropWhile (·.isEmpty) = batchOnLines batch := by
    rcases List.eq_nil_or_concat batch with rfl | ⟨front, s, rfl⟩
    · rfl
    · obtain ⟨ls, l, hl, hne⟩ := exists_splitOn_eq_concat s.isApart_text.2
      rw [List.concat_eq_append, batchOnLines, List.flatMap_append, List.flatMap_singleton, linesOf,
        hl, ← List.append_assoc, List.rdropWhile_concat_neg _ _ _ (by simpa using hne)]
  rw [withoutBlankEnds, hfirst, hlast]

/-- Each batch adds its separator to those that its lines hold. -/
theorem count_separator (blocks : List (List (List Char))) :
    (blocks.flatMap fun lines => lines ++ [separator.toList, []]).count separator.toList =
      blocks.flatten.count separator.toList + blocks.length := by
  have hblank : ([] : List Char) ≠ separator.toList := separator_ne_nil.symm
  induction blocks with
  | nil => rfl
  | cons lines blocks ih =>
    simp only [List.flatMap_cons, List.count_append, ih, List.flatten_cons, List.length_cons,
      List.count_cons_self, List.count_cons_of_ne hblank, List.count_nil]
    omega

/-- The separators of a rendered script separate its batches exactly when no statement has a line
that reads as one. -/
theorem isSeparated_iff_not_mem_linesOf (s : Script) :
    s.IsSeparated ↔ ∀ statement ∈ s.rendered, separator.toList ∉ linesOf statement.text := by
  have hblocks : (∀ statement ∈ s.rendered, separator.toList ∉ linesOf statement.text) ↔
      ∀ lines ∈ s.blocks.map batchOnLines, separator.toList ∉ lines := by
    rw [← flatten_blocks]
    simp only [List.mem_flatten, List.forall_mem_map, batchOnLines, List.mem_flatMap, not_exists,
      not_and, forall_exists_index, and_imp]
    exact ⟨fun h batch hb s hs => h s batch hb hs, fun h s batch hb hs => h batch hb s hs⟩
  have hpieces : pieces s.render = ((s.blocks.map batchOnLines).flatMap fun lines =>
      lines ++ [separator.toList, []]).splitOn separator.toList := by
    rw [pieces, linesOf_render, List.flatMap_map]
  rw [IsSeparated, hpieces, hblocks]
  constructor
  · intro h
    have hlength := congrArg List.length h
    rw [List.length_map, length_splitOn, count_separator, List.length_append, List.length_singleton,
      List.length_map] at hlength
    have hcount : (s.blocks.map batchOnLines).flatten.count separator.toList = 0 := by omega
    intro lines hlines hmem
    exact List.count_eq_zero.mp hcount (List.mem_flatten_of_mem hlines hmem)
  · intro h
    rw [← List.nil_append (List.flatMap _ _), map_splitOn_blocks (by simp) h]
    simp [withoutBlankEnds_batchOnLines]

end Script

namespace Emission

variable {options : EmitOptions} {k : Catalog} {script : Script}

/-- No batch of an emitted script is empty. -/
theorem batches_ne_nil (h : script ∈ (k.emit options).scripts) :
    ∀ batch ∈ script.batches, batch ≠ [] := by
  have hmade : ∃ kind parts, script = (EmittedScript.ofParts kind options parts).script := by
    cases hk : k.isEmpty with
    | true => simp [Catalog.emit, hk] at h
    | false =>
      rw [scripts_emit options hk] at h
      obtain ⟨kind, -, rfl⟩ := List.mem_map.mp h
      cases kind <;> exact ⟨_, _, rfl⟩
  obtain ⟨kind, parts, rfl⟩ := hmade
  intro batch hbatch
  simpa using (List.mem_filter.mp hbatch).2

/-- No batch of an emitted script is empty, and the separators of the rendered script separate its
batches and nothing else exactly when no text that a statement is given holds one. -/
theorem isSeparated_iff (h : script ∈ (k.emit options).scripts) :
    (∀ batch ∈ script.batches, batch ≠ []) ∧
      (script.IsSeparated ↔
        ∀ s ∈ script.rendered, ∀ p ∈ s.parts, ∀ t ∈ p.given, ¬ HoldsSeparator t) := by
  refine ⟨batches_ne_nil h, ?_⟩
  rw [Script.isSeparated_iff_not_mem_linesOf]
  refine forall₂_congr fun s _ => ?_
  rw [Script.linesOf, s.separator_mem_lines_iff]
  simp

/-- A table of one column with a description. -/
def describedRows (comment : String) : CatalogRows where
  columns := [
    { schema := "s", table := "t", column := "a", ordinal := 1, regtype := "integer"
      isNullable := true }]
  tableComments := [{ schema := "s", table := "t", comment := comment }]

/-- The script that creates the table and describes it. -/
def describedScript (comment : String) : Script :=
  (createTables {} (Catalog.build (describedRows comment) "").catalog).script

/-- A description of several lines is a batch of its own when none of them reads `GO`. -/
theorem isSeparated_describedScript :
    describedScript "stock\nGO here\nlevels" ∈
        ((Catalog.build (describedRows "stock\nGO here\nlevels") "").catalog.emit {}).scripts ∧
      (describedScript "stock\nGO here\nlevels").IsSeparated := by
  have hmem : describedScript "stock\nGO here\nlevels" ∈
      ((Catalog.build (describedRows "stock\nGO here\nlevels") "").catalog.emit {}).scripts := by
    decide +kernel
  exact ⟨hmem, (isSeparated_iff hmem).2.mpr (by decide +kernel)⟩

/-- A description with a line that reads `GO` is cut there. -/
theorem not_isSeparated_describedScript :
    describedScript "stock\nGO\nlevels" ∈
        ((Catalog.build (describedRows "stock\nGO\nlevels") "").catalog.emit {}).scripts ∧
      ¬ (describedScript "stock\nGO\nlevels").IsSeparated := by
  have hgiven : ∃ s ∈ (describedScript "stock\nGO\nlevels").rendered, ∃ p ∈ s.parts,
      ∃ t ∈ p.given, HoldsSeparator t := by
    decide +kernel
  obtain ⟨s, hs, hheld⟩ := hgiven
  refine ⟨by decide +kernel, fun h => ?_⟩
  exact (Script.isSeparated_iff_not_mem_linesOf _).mp h s hs (s.separator_mem_lines_iff.mpr hheld)

end Emission

end SchemaTransfer
