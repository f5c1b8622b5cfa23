import Mathlib.Data.List.Chain
import SchemaTransfer.Proofs.Identifier.Doubling
import SchemaTransfer.Proofs.Statement.Quoting
import SchemaTransfer.Proofs.Text.Numerals

/-!
# Lines that read as a separator

A statement is written on lines of its own, and a line that reads `GO` ends a batch. The words of
a statement and the marks around its texts keep such a line from arising between two parts, and
doubling a mark neither makes nor breaks one. Main statement: a statement has a line that reads
`GO` exactly when one of the texts that it is given has one between its first and its last line.
-/

namespace SchemaTransfer

/-- A line that reads as a separator, with the ends of the line before it and of its own. -/
def Script.separatorLine : List Char := '\n' :: separator.toList ++ ['\n']

/-- Whether a text has a line that reads as a separator after its first and before its last. -/
def HoldsSeparator (text : String) : Prop := Script.separatorLine <:+: text.toList

/-! ## The lines of a text -/

/-- Lines that begin alike, with their ends, are the same. -/
theorem line_isPrefix_iff {c : Char} {l cs rest : List Char} (hl : c ∉ l) (hcs : c ∉ cs) :
    l ++ [c] <+: cs ++ c :: rest ↔ l = cs := by
  induction l generalizing cs with
  | nil =>
    cases cs with
    | nil => simp
    | cons d cs => simp [List.cons_prefix_cons, List.ne_of_not_mem_cons hcs]
  | cons e l ih =>
    cases cs with
    | nil => simp [List.cons_prefix_cons, (List.ne_of_not_mem_cons hl).symm]
    | cons d cs =>
      simp [List.cons_prefix_cons,
        ih (List.not_mem_of_not_mem_cons hl) (List.not_mem_of_not_mem_cons hcs)]

/-- The lines of a text are what stands between two ends of lines, once there is one at both of
its own ends. -/
theorem mem_splitOn_iff {c : Char} {l : List Char} (hl : c ∉ l) (cs : List Char) :
    l ∈ cs.splitOn c ↔ c :: l ++ [c] <:+: c :: cs ++ [c] := by
  by_cases hc : c ∈ cs
  · obtain ⟨first, rest, hcs, hfirst⟩ := List.eq_append_cons_of_mem hc
    -- A line is the first one or one of the rest.
    have hwhere : c :: l ++ [c] <:+: c :: (first ++ c :: rest) ++ [c] ↔
        l = first ∨ c :: l ++ [c] <:+: c :: rest ++ [c] := by
      simp only [List.cons_append, List.append_assoc]
      rw [List.infix_cons_iff, List.cons_prefix_cons, line_isPrefix_iff hl hfirst,
        Text.cons_isInfix_append_iff hfirst]
      simp
    rw [hcs, List.splitOn_append_cons_self_of_not_mem hfirst, List.mem_cons,
      mem_splitOn_iff hl rest, hwhere]
  · rw [List.splitOn_eq_singleton hc, List.mem_singleton, List.cons_append, List.cons_append,
      List.infix_cons_iff, List.cons_prefix_cons, line_isPrefix_iff hl hc,
      Text.cons_isInfix_append_iff hc]
    simp [List.infix_cons_iff]
termination_by cs.length
decreasing_by
  rw [hcs, List.length_append, List.length_cons]
  omega

/-! ## Borders between parts -/

namespace Script

/-- Whether a character is one that no separator has. -/
def isApart (c : Char) : Bool := !separatorLine.contains c

@[simp] theorem isApart_iff {c : Char} : isApart c = true ↔ c ≠ '\n' ∧ c ≠ 'G' ∧ c ≠ 'O' := by
  have hline : separatorLine = ['\n', 'G', 'O', '\n'] := rfl
  simp only [isApart, hline, List.contains_cons, List.contains_nil, Bool.or_false,
    Bool.not_eq_true', Bool.or_eq_false_iff, beq_eq_false_iff_ne]
  exact ⟨fun h => ⟨h.1, h.2.1, h.2.2.1⟩, fun h => ⟨h.1, h.2.1, h.2.2, h.1⟩⟩

theorem not_mem_separatorLine {c : Char} (hc : isApart c = true) : c ∉ separatorLine := by
  simpa [isApart] using hc

theorem separatorLine_ne_nil : separatorLine ≠ [] := by
  simp [separatorLine]

/-- A separator stands on one side of a border if a character that it does not have is next to the
border. -/
theorem separatorLine_isInfix_append {a b : List Char}
    (h : a.getLast?.any isApart = true ∨ b.head?.any isApart = true) :
    separatorLine <:+: a ++ b ↔ separatorLine <:+: a ∨ separatorLine <:+: b := by
  rcases h with h | h
  · obtain ⟨c, hlast, hc⟩ := Option.any_eq_true _ _ |>.mp h
    obtain ⟨front, rfl⟩ := List.getLast?_eq_some_iff.mp hlast
    have hsplit {rest : List Char} : separatorLine <:+: front ++ c :: rest ↔
        separatorLine <:+: front ∨ separatorLine <:+: rest :=
      Text.isInfix_append_cons_iff separatorLine_ne_nil (not_mem_separatorLine hc)
    rw [List.append_assoc, List.singleton_append, hsplit, hsplit, List.infix_nil]
    simp [separatorLine_ne_nil]
  · obtain ⟨c, hfirst, hc⟩ := Option.any_eq_true _ _ |>.mp h
    obtain ⟨rest, rfl⟩ := List.head?_eq_some_iff.mp hfirst
    have hsplit (front : List Char) : separatorLine <:+: front ++ c :: rest ↔
        separatorLine <:+: front ∨ separatorLine <:+: rest :=
      Text.isInfix_append_cons_iff separatorLine_ne_nil (not_mem_separatorLine hc)
    have hcons := hsplit []
    rw [List.nil_append, List.infix_nil, or_iff_right separatorLine_ne_nil] at hcons
    rw [hsplit, hcons]

/-- A text that begins and ends with characters that no separator has reads as one on a line
exactly when it has one between two other lines. -/
theorem separator_mem_splitOn_iff {cs : List Char} (hfirst : cs.head?.any isApart = true)
    (hlast : cs.getLast?.any isApart = true) :
    separator.toList ∈ cs.splitOn '\n' ↔ separatorLine <:+: cs := by
  have hend : ¬ separatorLine <:+: ['\n'] := by decide
  have hline : '\n' ∉ separator.toList := by decide
  have hback : separatorLine <:+: cs ++ ['\n'] ↔ separatorLine <:+: cs := by
    rw [separatorLine_isInfix_append (Or.inl hlast), or_iff_left hend]
  have hopen : (cs ++ ['\n']).head?.any isApart = true := by
    cases cs with
    | nil => cases hfirst
    | cons c cs => exact hfirst
  rw [mem_splitOn_iff hline, ← separatorLine, ← List.singleton_append (x := '\n') (l := cs),
    List.append_assoc, separatorLine_isInfix_append (Or.inr hopen), hback, or_iff_right hend]

end Script

/-! ## Separators in quotes -/

section Quoted

variable (text : String)

instance : Decidable (HoldsSeparator text) :=
  inferInstanceAs (Decidable (Script.separatorLine <:+: text.toList))

variable {text} in
/-- A separator stands between two ends of lines. -/
theorem not_holdsSeparator_of_count_le (h : text.toList.count '\n' ≤ 1) :
    ¬ HoldsSeparator text := by
  intro hs
  have hcount : Script.separatorLine.count '\n' = 2 := by decide
  have := hs.sublist.count_le '\n'
  omega

/-- Quotes hold the separators of the text between them. -/
theorem separatorLine_isInfix_quotes {front cs : List Char} {mark : Char}
    (hfront : front.getLast?.any Script.isApart = true) (hnone : front.count '\n' = 0)
    (hmark : Script.isApart mark = true) :
    Script.separatorLine <:+: front ++ Identifier.doubling mark cs ++ [mark] ↔
      Script.separatorLine <:+: cs := by
  have hopen : ¬ Script.separatorLine <:+: front := fun h =>  by
    have hcount : Script.separatorLine.count '\n' = 2 := by decide
    have := h.sublist.count_le '\n'
    omega
  have hclose : ¬ Script.separatorLine <:+: [mark] := fun h => by
    simpa [Script.separatorLine] using h.length_le
  rw [Script.separatorLine_isInfix_append (Or.inr (by simpa using hmark)), or_iff_left hclose,
    Script.separatorLine_isInfix_append (Or.inl hfront), or_iff_right hopen,
    Identifier.isInfix_doubling_iff Script.separatorLine_ne_nil
      (Script.not_mem_separatorLine hmark)]

@[simp] theorem holdsSeparator_inBrackets :
    HoldsSeparator (Identifier.inBrackets text) ↔ HoldsSeparator text := by
  rw [HoldsSeparator, Identifier.toList_inBrackets]
  exact separatorLine_isInfix_quotes (by decide) rfl (by decide)

@[simp] theorem holdsSeparator_literal :
    HoldsSeparator (Identifier.literal text) ↔ HoldsSeparator text := by
  rw [HoldsSeparator, Identifier.toList_literal]
  exact separatorLine_isInfix_quotes (by decide) rfl (by decide)

@[simp] theorem ObjectName.holdsSeparator_text (n : ObjectName) :
    HoldsSeparator n.text ↔ HoldsSeparator n.schema ∨ HoldsSeparator n.name := by
  have hdot : ¬ Script.separatorLine <:+: ".".toList := by decide
  have hopen (text : String) : (Identifier.inBrackets text).toList.head?.any Script.isApart := by
    simp
  rw [ObjectName.text, HoldsSeparator, String.toList_append, String.toList_append,
    Script.separatorLine_isInfix_append (Or.inr (hopen n.name)),
    Script.separatorLine_isInfix_append (Or.inr (by decide)), or_iff_left hdot]
  exact or_congr (holdsSeparator_inBrackets n.schema) (holdsSeparator_inBrackets n.name)

end Quoted

namespace Part

/-- The texts that a part is given, in quotes or as they are. -/
def given : Part → List String
  | raw text => [text]
  | p => p.contents

/-- Whether a part begins with a character that no separator has, whatever its texts are. -/
def opens : Part → Bool
  | words text => text.toList.head?.any Script.isApart
  | raw _ => false
  | _ => true

/-- Whether a part ends with a character that no separator has, whatever its texts are. -/
def closes : Part → Bool
  | words text => text.toList.getLast?.any Script.isApart
  | raw _ => false
  | _ => true

/-- Whether no separator can stand across the border between two parts. -/
def AreApart (p q : Part) : Prop := p.closes = true ∨ q.opens = true

/-- Whether the words of a part end too few lines to hold a separator. -/
def isPlain : Part → Bool
  | words text => decide (text.toList.count '\n' ≤ 1)
  | keyword text => decide (text.toList.count '\n' ≤ 1)
  | _ => true

theorem head?_written {p : Part} (h : p.opens = true) :
    p.written.toList.head?.any Script.isApart = true := by
  cases p with
  | words text => exact h
  | raw text => cases h
  | _ => simp [written, ObjectName.literal]

theorem getLast?_written {p : Part} (h : p.closes = true) :
    p.written.toList.getLast?.any Script.isApart = true := by
  cases p with
  | words text => exact h
  | raw text => cases h
  | _ => simp [written, ObjectName.literal, List.getLast?_cons]

/-- Parts begin as the first of them does. -/
theorem head?_text {ps : List Part} (h : ps.head?.any opens = true) :
    (text ps).toList.head?.any Script.isApart = true := by
  obtain ⟨p, hp, hopens⟩ := Option.any_eq_true _ _ |>.mp h
  obtain ⟨rest, rfl⟩ := List.head?_eq_some_iff.mp hp
  obtain ⟨c, hc, hapart⟩ := Option.any_eq_true _ _ |>.mp (head?_written hopens)
  rw [text_cons, String.toList_append, List.head?_append, hc]
  exact hapart

/-- Parts end as the last of them does. -/
theorem getLast?_text {ps : List Part} (h : ps.getLast?.any closes = true) :
    (text ps).toList.getLast?.any Script.isApart = true := by
  obtain ⟨p, hp, hcloses⟩ := Option.any_eq_true _ _ |>.mp h
  obtain ⟨front, rfl⟩ := List.getLast?_eq_some_iff.mp hp
  obtain ⟨c, hc, hapart⟩ := Option.any_eq_true _ _ |>.mp (getLast?_written hcloses)
  rw [text_append, text_cons, text_nil, String.append_empty, String.toList_append,
    List.getLast?_append, hc]
  exact hapart

/-- A part whose words hold no separator holds those of its texts. -/
theorem holdsSeparator_written {p : Part} (h : p.isPlain = true) :
    HoldsSeparator p.written ↔ ∃ t ∈ p.given, HoldsSeparator t := by
  cases p with
  | words text =>
    simpa [given, contents, written] using
      not_holdsSeparator_of_count_le (by simpa [isPlain] using h)
  | keyword text =>
    simpa [given, contents, written] using
      not_holdsSeparator_of_count_le (by simpa [isPlain] using h)
  | name text => simp [given, contents, written]
  | literal text => simp [given, contents, written]
  | lookup object => simp [given, contents, written, ObjectName.literal, ObjectName.names]
  | raw text => simp [given, written]

/-- Parts that keep apart hold the separators of their texts and no others. -/
theorem holdsSeparator_text {ps : List Part} (hplain : ps.all isPlain = true)
    (hchain : ps.IsChain AreApart) :
    HoldsSeparator (text ps) ↔ ∃ p ∈ ps, ∃ t ∈ p.given, HoldsSeparator t := by
  induction ps with
  | nil =>
    have hnone : ¬ HoldsSeparator "" := by decide
    simpa using hnone
  | cons p ps ih =>
    simp only [List.all_cons, Bool.and_eq_true] at hplain
    have hrest := ih hplain.2 hchain.of_cons
    have hborder : HoldsSeparator (p.written ++ text ps) ↔
        HoldsSeparator p.written ∨ HoldsSeparator (text ps) := by
      cases ps with
      | nil =>
        have hnone : ¬ HoldsSeparator "" := by decide
        simp [hnone]
      | cons q ps =>
        have hpq : p.AreApart q := (List.isChain_cons_cons.mp hchain).1
        rw [HoldsSeparator, String.toList_append]
        exact Script.separatorLine_isInfix_append (hpq.imp getLast?_written fun hq => head?_text hq)
    rw [text_cons, hborder, holdsSeparator_written hplain.1, hrest]
    simp

/-! ## Lists of parts -/

/-- A list keeps its borders between two parts that keep theirs. -/
theorem isChain_around {p q : Part} {middle rest : List Part} (hmiddle : middle.IsChain AreApart)
    (hp : ∀ x ∈ middle.head?, AreApart p x) (hq : q.opens = true)
    (hrest : (q :: rest).IsChain AreApart) : (p :: (middle ++ q :: rest)).IsChain AreApart := by
  have hend : (middle ++ q :: rest).IsChain AreApart := by
    refine hmiddle.append hrest fun x _ y hy => ?_
    obtain rfl : q = y := by simpa using hy
    exact Or.inr hq
  refine hend.cons fun x hx => ?_
  cases middle with
  | nil =>
    obtain rfl : q = x := by simpa using hx
    exact Or.inr hq
  | cons y middle =>
    obtain rfl : y = x := by simpa using hx
    exact hp y (by simp)

/-- After a part that closes, a list may begin with any part. -/
theorem isChain_between {p q : Part} {middle rest : List Part} (hp : p.closes = true)
    (hmiddle : middle.IsChain AreApart) (hq : q.opens = true)
    (hrest : (q :: rest).IsChain AreApart) : (p :: (middle ++ q :: rest)).IsChain AreApart :=
  isChain_around hmiddle (fun _ _ => Or.inl hp) hq hrest

theorem isChain_separated {items : List (List Part)} (h : ∀ x ∈ items, x.IsChain AreApart) :
    (separated items).IsChain AreApart := by
  have hopen : (words ", ").opens = true := by decide
  have hclose : (words ", ").closes = true := by decide
  fun_induction separated items with
  | case1 => exact .nil
  | case2 x => exact h x (List.mem_singleton_self x)
  | case3 x y rest ih =>
    have hx := h x List.mem_cons_self
    have hrest := ih fun z hz => h z (List.mem_cons_of_mem x hz)
    refine hx.append (hrest.cons fun q _ => Or.inl hclose) ?_
    rintro p _ q hq
    obtain rfl : words ", " = q := by simpa using hq
    exact Or.inr hopen

theorem isChain_keys (columns : List IndexColumn) : (keys columns).IsChain AreApart := by
  refine isChain_separated fun x hx => ?_
  obtain ⟨c, -, rfl⟩ := List.mem_map.mp hx
  simp [AreApart, closes, opens]

theorem isChain_names (columns : List String) : (names columns).IsChain AreApart := by
  refine isChain_separated fun x hx => ?_
  obtain ⟨c, -, rfl⟩ := List.mem_map.mp hx
  exact .singleton _

theorem isChain_actions (actions? : Option ActionClause) : (actions actions?).IsChain AreApart := by
  cases actions? with
  | none => exact .nil
  | some clause => simp [actions, AreApart, closes, opens]

theorem isChain_described (column : Option String) : (described column).IsChain AreApart := by
  cases column with
  | none => exact .nil
  | some column => simp [described, AreApart, closes, opens]

/-- Each line of columns begins with blanks, so that the end of the line before it is kept apart. -/
theorem opens_of_mem_head?_columns {cs : List ColumnDefinition} {p : Part}
    (hp : p ∈ (columns cs).head?) : p.opens = true := by
  have hblank : (words "    ").opens = true := by decide
  rcases cs with - | ⟨c, - | ⟨d, cs⟩⟩
  · cases hp
  · obtain rfl : words "    " = p := by simpa [columns, column, lines] using hp
    exact hblank
  · obtain rfl : words "    " = p := by simpa [columns, column, lines] using hp
    exact hblank

theorem isChain_column (c : ColumnDefinition) : (column c).IsChain AreApart := by
  simp [column, AreApart, closes, opens]

theorem isChain_columns (cs : List ColumnDefinition) : (columns cs).IsChain AreApart := by
  have hlast (c : ColumnDefinition) : ∀ p ∈ (column c).getLast?, p.closes = true := by
    intro p hp
    obtain rfl : words (Statement.nullability c.nullable) = p := by simpa [column] using hp
    cases c.nullable <;> decide
  induction cs with
  | nil => exact .nil
  | cons c cs ih =>
    cases cs with
    | nil =>
      refine (isChain_column c).append (.singleton _) fun p hp _ _ => Or.inl (hlast c p hp)
    | cons d cs =>
      have hrest : (words ",\n" :: columns (d :: cs)).IsChain AreApart :=
        ih.cons fun q hq => Or.inr (opens_of_mem_head?_columns hq)
      refine (isChain_column c).append hrest fun p hp _ _ => Or.inl (hlast c p hp)

@[simp] theorem all_isPlain_keys (columns : List IndexColumn) :
    (keys columns).all isPlain = true := by
  refine all_separated rfl fun x hx => ?_
  obtain ⟨c, -, rfl⟩ := List.mem_map.mp hx
  cases hdirection : c.direction <;> rfl

@[simp] theorem all_isPlain_names (columns : List String) :
    (names columns).all isPlain = true := by
  refine all_separated rfl fun x hx => ?_
  obtain ⟨c, -, rfl⟩ := List.mem_map.mp hx
  rfl

@[simp] theorem all_isPlain_actions (actions? : Option ActionClause) :
    (actions actions?).all isPlain = true := by
  rcases actions? with - | ⟨onDelete, onUpdate⟩
  · rfl
  · cases onDelete <;> cases onUpdate <;> rfl

@[simp] theorem all_isPlain_columns (cs : List ColumnDefinition) :
    (columns cs).all isPlain = true := by
  have hcolumn (c : ColumnDefinition) : (column c).all isPlain = true := by
    simp only [column, isPlain, List.all_cons, List.all_nil]
    cases c.nullable <;> rfl
  induction cs with
  | nil => rfl
  | cons c cs ih =>
    cases cs with
    | nil =>
      show (column c ++ [words "\n"]).all isPlain = true
      rw [List.all_append, hcolumn]
      rfl
    | cons d cs =>
      show (column c ++ words ",\n" :: columns (d :: cs)).all isPlain = true
      rw [List.all_append, List.all_cons, hcolumn, ih]
      rfl

end Part

namespace Statement

/-- No separator can stand across the border between two parts of a statement. -/
theorem isChain_parts (s : Statement) : s.parts.IsChain Part.AreApart := by
  cases s with
  | setOption option on => cases on <;> simp [parts, Part.AreApart, Part.closes, Part.opens]
  | createSequence d =>
    have hcycle : (Part.words (if d.cycle then "CYCLE;" else "NO CYCLE;")).opens = true := by
      cases d.cycle <;> decide
    simp [parts, Part.object, Part.AreApart, Part.closes, Part.opens] at hcycle ⊢
    exact Or.inr hcycle
  | createTable name columns =>
    have hcolumns : (.words " (\n" :: (Part.columns columns ++ [.words ") ON "])).IsChain
        Part.AreApart :=
      Part.isChain_around (Part.isChain_columns columns)
        (fun _ hx => Or.inr (Part.opens_of_mem_head?_columns hx)) (by decide) (.singleton _)
    simp [parts, hcolumns, Part.object, Part.AreApart, Part.closes, Part.opens]
  | addDescription table column text =>
    have hdescribed : (.literal table.name :: (Part.described column ++ [.words ";"])).IsChain
        Part.AreApart :=
      Part.isChain_between rfl (Part.isChain_described column) (by decide) (.singleton _)
    simp [parts, hdescribed, Part.AreApart, Part.closes, Part.opens]
  | addPrimaryKey key =>
    have hkeys : (.words " PRIMARY KEY CLUSTERED (" ::
        (Part.keys key.columns ++ [.words ");"])).IsChain Part.AreApart :=
      Part.isChain_between (by decide) (Part.isChain_keys key.columns) (by decide) (.singleton _)
    simp [parts, hkeys, Part.constraint, Part.object, Part.AreApart, Part.closes, Part.opens]
  | addUnique key =>
    have hkeys : (.words " UNIQUE NONCLUSTERED (" ::
        (Part.keys key.columns ++ [.words ");"])).IsChain Part.AreApart :=
      Part.isChain_between (by decide) (Part.isChain_keys key.columns) (by decide) (.singleton _)
    simp [parts, hkeys, Part.constraint, Part.object, Part.AreApart, Part.closes, Part.opens]
  | createIndex key =>
    have hkeys : (.words " (" :: (Part.keys key.columns ++ [.words ") WITH ("])).IsChain
        Part.AreApart :=
      Part.isChain_between (by decide) (Part.isChain_keys key.columns) (by decide) (.singleton _)
    simp [parts, hkeys, Part.object, Part.AreApart, Part.closes, Part.opens]
  | addForeignKey r =>
    have hcolumns : (.words " FOREIGN KEY (" ::
        (Part.names r.columns ++ [.words ") REFERENCES "])).IsChain Part.AreApart :=
      Part.isChain_between (by decide) (Part.isChain_names r.columns) (by decide) (.singleton _)
    have hactions : (.words ")" :: (Part.actions r.actions ++ [.words ";"])).IsChain
        Part.AreApart :=
      Part.isChain_between (by decide) (Part.isChain_actions r.actions) (by decide) (.singleton _)
    have hreferenced : (.words " (" :: (Part.names r.refColumns ++
        .words ")" :: (Part.actions r.actions ++ [.words ";"]))).IsChain Part.AreApart :=
      Part.isChain_between (by decide) (Part.isChain_names r.refColumns) (by decide) hactions
    simp [parts, hcolumns, hreferenced, Part.constraint, Part.object, Part.AreApart, Part.closes,
      Part.opens]
  | _ => simp [parts, Part.object, Part.constraint, Part.AreApart, Part.closes, Part.opens]

/-- A number ends no line. -/
theorem count_number (n : Int64) : (number n).toList.count '\n' = 0 := by
  have hdigits := Text.not_mem_toDigits (c := '\n') rfl
  refine List.count_eq_zero.mpr ?_
  rw [number, Int.toString_eq_repr, Int.repr_eq_if]
  split
  · simpa using hdigits _
  · simpa using hdigits _

/-- The words of a statement hold no separator. -/
theorem all_isPlain_parts (s : Statement) : s.parts.all Part.isPlain = true := by
  cases s with
  | useDatabase name => rfl
  | beginTransaction => rfl
  | commitTransaction => rfl
  | setOption option on => cases on <;> rfl
  | createSchema name => rfl
  | createType name baseType notNull => cases notNull <;> rfl
  | dropType name => rfl
  | createSequence d =>
    have hcache : (if 1 < d.cache then "CACHE " ++ number d.cache ++ " "
        else "NO CACHE ").toList.count '\n' = 0 := by
      split
      · simp [count_number]
      · rfl
    have hcycle : (if d.cycle then "CYCLE;" else "NO CYCLE;").toList.count '\n' = 0 := by
      cases d.cycle <;> rfl
    simp [parts, Part.object, Part.isPlain, count_number, hcache, hcycle]
  | dropSequence name => rfl
  | createTable name columns =>
    simp only [parts, List.all_append, List.all_cons, Part.all_isPlain_columns]
    rfl
  | dropTable name => rfl
  | truncateTable name => rfl
  | addDefault table constraint column expression => rfl
  | addDescription table column text => cases column <;> rfl
  | addPrimaryKey key =>
    simp only [parts, List.all_append, List.all_cons, Part.all_isPlain_keys]
    rfl
  | addUnique key =>
    simp only [parts, List.all_append, List.all_cons, Part.all_isPlain_keys]
    rfl
  | createIndex key =>
    have hoptions : Part.isPlain (.words indexOptions) = true := by decide +kernel
    simp only [parts, List.all_append, List.all_cons, Part.all_isPlain_keys, hoptions]
    rfl
  | addForeignKey r =>
    simp only [parts, List.all_append, List.all_cons, Part.all_isPlain_names,
      Part.all_isPlain_actions]
    rfl
  | dropForeignKey table constraint => rfl

/-- The text of a statement begins and ends with characters that no separator has. -/
theorem isApart_text (s : Statement) : s.text.toList.head?.any Script.isApart = true ∧
    s.text.toList.getLast?.any Script.isApart = true := by
  rw [← s.text_parts]
  have hfirst : s.parts.head?.any Part.opens = true := by
    cases s <;> rfl
  have hlast : s.parts.getLast?.any Part.closes = true := by
    cases s with
    | setOption option on => cases on <;> rfl
    | createSequence d =>
      cases hcycle : d.cycle <;> simp [parts, Part.closes, List.getLast?_cons, hcycle]
    | _ => simp [parts, Part.closes, List.getLast?_cons]
  exact ⟨Part.head?_text hfirst, Part.getLast?_text hlast⟩

/-- A statement has a line that reads as a separator exactly when a text that it is given holds
one. -/
theorem separator_mem_lines_iff (s : Statement) :
    Script.separator.toList ∈ s.text.toList.splitOn '\n' ↔
      ∃ p ∈ s.parts, ∃ t ∈ p.given, HoldsSeparator t := by
  obtain ⟨hfirst, hlast⟩ := isApart_text s
  rw [Script.separator_mem_splitOn_iff hfirst hlast, ← s.text_parts]
  exact Part.holdsSeparator_text s.all_isPlain_parts s.isChain_parts

end Statement

end SchemaTransfer
