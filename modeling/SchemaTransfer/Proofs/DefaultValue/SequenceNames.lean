import SchemaTransfer.Proofs.DefaultValue.Calls
import SchemaTransfer.Proofs.DefaultValue.Literals
import SchemaTransfer.Proofs.Emission.Mentions
import SchemaTransfer.Proofs.Identifier.Splitting
import SchemaTransfer.SequenceRange

/-!
# Sequences named in calls

The source prints the name of a sequence between double quotes, with its schema or without, and the
whole as a literal. The double quotes are undone when the name is read; the single quotes are not,
so a name is read up to the first single quote in it. Main statement: a printed call refers to the
sequence that it names, for the type of a sequence as for the default that is written, exactly when
the name has no single quote, but for one coincidence.
-/

namespace SchemaTransfer

namespace DefaultValue

open Identifier

/-- The call for the next value of the sequence of a printed name, as the source prints it. -/
def nextValueCall (name : String) : String := "nextval(" ++ sourceLiteral name ++ "::regclass)"

/-- The stretch of a text before its first single quote. -/
def untilQuote (cs : List Char) : List Char := cs.takeWhile (· ≠ '\'')

theorem not_mem_untilQuote (cs : List Char) : '\'' ∉ untilQuote cs := fun h => by
  simpa using List.all_eq_true.mp List.all_takeWhile _ h

theorem untilQuote_of_not_mem {cs : List Char} (h : '\'' ∉ cs) : untilQuote cs = cs :=
  List.takeWhile_eq_self_iff.mpr fun _ hc => decide_eq_true fun he => h (he ▸ hc)

theorem untilQuote_append_of_not_mem {cs : List Char} (h : '\'' ∉ cs) (more : List Char) :
    untilQuote (cs ++ more) = cs ++ untilQuote more :=
  List.takeWhile_append_of_pos fun _ hc => decide_eq_true fun he => h (he ▸ hc)

theorem untilQuote_append_of_mem {cs : List Char} (h : '\'' ∈ cs) (more : List Char) :
    untilQuote (cs ++ more) = untilQuote cs := by
  obtain ⟨front, rest, rfl, hfront⟩ := List.eq_append_cons_of_mem h
  rw [List.append_assoc, untilQuote_append_of_not_mem hfront, untilQuote_append_of_not_mem hfront]
  simp [untilQuote]

/-- A name up to its first single quote, without the blanks before that. -/
def beforeQuote (name : String) : String :=
  if '\'' ∈ name.toList then String.ofList (Text.trimEnd (untilQuote name.toList)) else name

theorem beforeQuote_eq_self_iff {name : String} :
    beforeQuote name = name ↔ '\'' ∉ name.toList := by
  unfold beforeQuote
  split
  · rename_i hquote
    refine iff_of_false (fun h => not_mem_untilQuote name.toList ?_) fun h => h hquote
    obtain ⟨blanks, -, he⟩ := Text.exists_eq_trimEnd_append (untilQuote name.toList)
    rw [← h, String.toList_ofList] at hquote
    rw [he]
    exact List.mem_append_left _ hquote
  · rename_i hquote
    exact iff_of_true rfl hquote

/-! ## Reading a printed name -/

/-- Of a literal the reader takes the stretch before the first single quote. -/
theorem exists_doubling_eq (cs rest : List Char) :
    ∃ more, doubling '\'' cs ++ '\'' :: rest = untilQuote cs ++ '\'' :: more := by
  induction cs with
  | nil => exact ⟨rest, rfl⟩
  | cons c cs ih =>
    by_cases hc : c = '\''
    · exact ⟨'\'' :: (doubling '\'' cs ++ '\'' :: rest), by simp [doubling, untilQuote, hc]⟩
    · obtain ⟨more, he⟩ := ih
      exact ⟨more, by simpa [doubling, untilQuote, hc] using he⟩

/-- A printed call names the sequence that the name stands for up to its first single quote. -/
theorem ofText_nextValueCall {schema name a b : String}
    (h : sequenceOf? schema (untilQuote name.toList) = some (a, b)) :
    ofText schema (nextValueCall name) = nextValue a b := by
  have htrim : Text.trimList (nextValueCall name).toList = (nextValueCall name).toList := by
    have hend := Text.trimEnd_append_cons (c := ')') (by decide)
      ("nextval(" ++ sourceLiteral name ++ "::regclass").toList []
    have hstart := Text.trimStart_append (show Text.trimStart "nextval(".toList = _ from rfl)
      (by decide) ((sourceLiteral name).toList ++ "::regclass)".toList)
    have htext : (nextValueCall name).toList =
        "nextval(".toList ++ ((sourceLiteral name).toList ++ "::regclass)".toList) := by
      simp [nextValueCall]
    rw [Text.trimList, htext, hstart]
    simpa using hend
  obtain ⟨rest, he⟩ := exists_doubling_eq name.toList "::regclass)".toList
  refine ofText_eq_nextValue_iff.mpr
    ⟨[], _, rest, ?_, List.not_mem_nil, not_mem_untilQuote _, h⟩
  rw [htrim, ← he]
  simp [nextValueCall, sourceLiteral]

theorem trimEnd_quote_cons (cs : List Char) : Text.trimEnd ('"' :: cs) = '"' :: Text.trimEnd cs :=
  Text.trimEnd_append_cons (by decide) [] cs

/-- What is read of a name between double quotes: all of it, or its beginning with the quotes left
open. -/
def readQuotes (name : String) : List Char :=
  '"' :: (doubling '"' (beforeQuote name).toList ++ if '\'' ∈ name.toList then [] else ['"'])

theorem trimEnd_untilQuote_inQuotes (name : String) :
    Text.trimEnd (untilQuote (inQuotes name).toList) = readQuotes name := by
  have hquotes : untilQuote (inQuotes name).toList =
      '"' :: untilQuote (doubling '"' name.toList ++ ['"']) := by
    rw [toList_inQuotes]
    rfl
  rw [hquotes, trimEnd_quote_cons, readQuotes]
  unfold beforeQuote
  split
  · rename_i hname
    rw [untilQuote_append_of_mem (mem_doubling_iff.mpr hname), untilQuote,
      takeWhile_doubling (by decide), trimEnd_doubling (by decide), String.toList_ofList,
      List.append_nil]
    rfl
  · rename_i hname
    have hwhole : '\'' ∉ doubling '"' name.toList ++ ['"'] := by simpa using hname
    rw [untilQuote_of_not_mem hwhole]
    exact congrArg _ (Text.trimEnd_append_cons (by decide) _ [])

/-- Closed or left open, the quotes are taken off. -/
theorem splitList_readQuotes (name : String) :
    splitList (readQuotes name) = [(beforeQuote name).toList] := by
  have hopen (rest : List Char) : splitList ('"' :: rest) = splitFrom true [] rest := by
    simp [splitList, splitFrom]
  rw [readQuotes, hopen]
  split
  · rw [List.append_nil, splitFrom_doubling_open]
    rfl
  · rw [splitFrom_doubling [] _ [] (by simp)]
    simp [splitFrom]

/-- Before a dot a name between double quotes is a part of its own. -/
theorem splitList_inQuotes_dot (name : String) (rest : List Char) :
    splitList ((inQuotes name).toList ++ '.' :: rest) = name.toList :: splitList rest :=
  (PrintedPart.quoted name).splitList_text_dot rest

/-- A name that begins with a quote stands for the sequence of its parts. -/
theorem sequenceOf?_eq {schema : String} {cs rest read : List Char} (h : cs = '"' :: rest)
    (hread : Text.trimEnd cs = read) :
    sequenceOf? schema cs = sequenceOfParts? schema (splitList read) := by
  have hne : read ≠ [] := by
    rw [← hread, h, trimEnd_quote_cons]
    exact List.cons_ne_nil _ _
  rw [sequenceOf?, h, Text.trimList_cons (by decide), ← h, hread, if_neg hne]

theorem exists_untilQuote_inQuotes_append (name : String) (more : List Char) :
    ∃ rest, untilQuote ((inQuotes name).toList ++ more) = '"' :: rest :=
  ⟨untilQuote (doubling '"' name.toList ++ '"' :: more), by rw [toList_inQuotes]; simp [untilQuote]⟩

/-- A printed name without a schema names a sequence of the given one. -/
theorem ofText_nextValueCall_inQuotes (schema name : String) :
    ofText schema (nextValueCall (inQuotes name)) = nextValue schema (beforeQuote name) := by
  obtain ⟨rest, hrest⟩ := exists_untilQuote_inQuotes_append name []
  rw [List.append_nil] at hrest
  refine ofText_nextValueCall ?_
  rw [sequenceOf?_eq hrest (trimEnd_untilQuote_inQuotes name), splitList_readQuotes]
  simp [sequenceOfParts?]

/-- The printed name of a sequence with its schema. -/
def printedName (n : ObjectName) : String := inQuotes n.schema ++ "." ++ inQuotes n.name

/-- A printed name with a schema names a sequence of the schema. With a single quote in the schema
it names one of the given schema instead, by the beginning of the other. -/
theorem ofText_nextValueCall_printedName (schema : String) (n : ObjectName) :
    ofText schema (nextValueCall (printedName n)) =
      if '\'' ∈ n.schema.toList then nextValue schema (beforeQuote n.schema)
      else nextValue n.schema (beforeQuote n.name) := by
  have htext : (printedName n).toList =
      (inQuotes n.schema).toList ++ '.' :: (inQuotes n.name).toList := by
    simp [printedName]
  obtain ⟨rest, hrest⟩ :=
    exists_untilQuote_inQuotes_append n.schema ('.' :: (inQuotes n.name).toList)
  rw [← htext] at hrest
  split
  · rename_i hschema
    have hread : Text.trimEnd (untilQuote (printedName n).toList) = readQuotes n.schema := by
      rw [htext, untilQuote_append_of_mem (by simpa using hschema), trimEnd_untilQuote_inQuotes]
    refine ofText_nextValueCall ?_
    rw [sequenceOf?_eq hrest hread, splitList_readQuotes]
    simp [sequenceOfParts?]
  · rename_i hschema
    have hread : Text.trimEnd (untilQuote (printedName n).toList) =
        (inQuotes n.schema).toList ++ '.' :: readQuotes n.name := by
      have hname : untilQuote ('.' :: (inQuotes n.name).toList) =
          '.' :: untilQuote (inQuotes n.name).toList := rfl
      rw [htext, untilQuote_append_of_not_mem (by simpa using hschema), hname,
        Text.trimEnd_append_cons (by decide), trimEnd_untilQuote_inQuotes]
    refine ofText_nextValueCall ?_
    rw [sequenceOf?_eq hrest hread, splitList_inQuotes_dot, splitList_readQuotes]
    simp [sequenceOfParts?]

end DefaultValue

/-! ## What refers to a sequence -/

namespace Sequence

/-- The name of a sequence with its schema. -/
def objectName (s : Sequence) : ObjectName := ⟨s.schema, s.name⟩

variable {s : Sequence} {schema raw a b : String} {c : Column}

/-- A column feeds the sequence that its default names and no other. -/
theorem feeds_iff_of_nextValue (h : DefaultValue.ofText schema raw = .nextValue a b)
    (hc : c.defaultExpr = some raw) : s.feeds schema c = true ↔ s.objectName = ⟨a, b⟩ := by
  simp only [feeds, hc, h, beq_iff_eq, DefaultValue.nextValue.injEq, objectName,
    ObjectName.mk.injEq]
  exact and_congr eq_comm eq_comm

variable {t : Table} {before after : List Column} {earlier later : List Table}

theorem fedColumns_append_cons (ht : t.columns = before ++ c :: after) :
    s.fedColumns (earlier ++ t :: later) =
      s.fedColumns earlier ++ before.filter (s.feeds t.schema) ++
        ((if s.feeds t.schema c then [c] else []) ++ (after.filter (s.feeds t.schema) ++
          s.fedColumns later)) := by
  simp only [fedColumns, List.flatMap_append, List.flatMap_cons, ht, List.filter_append,
    List.filter_cons, List.append_assoc]
  split <;> rfl

/-- A column gives a sequence without an owner its type when it is the first that feeds the
sequence; otherwise the type is the same without the column. -/
theorem feedingType_append_cons (ht : t.columns = before ++ c :: after) :
    s.feedingType (earlier ++ t :: later) =
      if s.feeds t.schema c = true ∧ s.ownerType = none ∧
        s.fedColumns earlier ++ before.filter (s.feeds t.schema) = [] then c.elementType
      else s.feedingType (earlier ++ { t with columns := before ++ after } :: later) := by
  have hwithout : s.fedColumns (earlier ++ { t with columns := before ++ after } :: later) =
      s.fedColumns earlier ++ before.filter (s.feeds t.schema) ++
        (after.filter (s.feeds t.schema) ++ s.fedColumns later) := by
    simp [fedColumns]
  unfold feedingType
  rw [fedColumns_append_cons ht, hwithout]
  cases s.ownerType with
  | some owner => simp
  | none =>
    cases hfed : s.feeds t.schema c with
    | false => simp
    | true =>
      cases s.fedColumns earlier ++ before.filter (s.feeds t.schema) <;> simp

end Sequence

namespace DefaultValue

/-- A default refers to a sequence: a column with it feeds the sequence and no other, so it decides
the type of no other, and the default that is written takes the next value of the sequence. -/
structure RefersTo (schema raw : String) (n : ObjectName) : Prop where
  ofText_eq : ofText schema raw = nextValue n.schema n.name
  feedingType_eq : ∀ (s : Sequence) (earlier later : List Table) (t : Table)
    (before after : List Column) (c : Column), t.schema = schema →
    t.columns = before ++ c :: after → c.defaultExpr = some raw →
    s.feedingType (earlier ++ t :: later) =
      if s.objectName = n ∧ s.ownerType = none ∧
        s.fedColumns earlier ++ before.filter (s.feeds schema) = [] then c.elementType
      else s.feedingType (earlier ++ { t with columns := before ++ after } :: later)
  mem_addDefault_iff : ∀ (t : Table) (c : Column) (s : Statement), t.schema = schema →
    c.defaultExpr = some raw →
    (s ∈ (Emission.addDefault t c).batch ↔
      Identifier.isValid (Emission.defaultConstraint t c) = true ∧
        s = .addDefault (Emission.tableName t) (Emission.defaultConstraint t c) c.name
          n.nextValueText)

/-- A default refers to the sequence of which it is read as the next value. -/
theorem refersTo_iff {schema raw : String} {n : ObjectName} :
    RefersTo schema raw n ↔ ofText schema raw = nextValue n.schema n.name := by
  refine ⟨RefersTo.ofText_eq, fun h => ⟨h, ?_, ?_⟩⟩
  · rintro s earlier later t before after c rfl ht hc
    simp only [Sequence.feedingType_append_cons ht, Sequence.feeds_iff_of_nextValue h hc]
  · rintro t c s rfl hc
    have hvalue : (ofText t.schema raw).expression? = some n.nextValueText := by
      simp [h, expression?, ObjectName.nextValueText, ObjectName.text, String.append_assoc]
    rw [Emission.mem_addDefault]
    constructor
    · rintro ⟨raw', expression, hraw, hexpression, hvalid, rfl⟩
      obtain rfl := Option.some.inj (hc.symm.trans hraw)
      obtain rfl := Option.some.inj (hvalue.symm.trans hexpression)
      exact ⟨hvalid, rfl⟩
    · rintro ⟨hvalid, rfl⟩
      exact ⟨raw, _, hc, hvalue, hvalid, rfl⟩

instance (schema raw : String) (n : ObjectName) : Decidable (RefersTo schema raw n) :=
  decidable_of_iff _ refersTo_iff.symm

/-- A printed call refers to the sequence that it names exactly when there is no single quote in its
name and in its schema. A name with a schema that has one can only be met by chance: the column
stands in the same schema, and the sequence is called like its schema up to the quote. -/
theorem refersTo_nextValueCall_iff (schema : String) (n : ObjectName) :
    (RefersTo schema (nextValueCall (printedName n)) n ↔
        ('\'' ∉ n.schema.toList ∧ '\'' ∉ n.name.toList) ∨
          ('\'' ∈ n.schema.toList ∧ schema = n.schema ∧ n.name = beforeQuote n.schema)) ∧
      ∀ name, RefersTo schema (nextValueCall (Identifier.inQuotes name)) ⟨schema, name⟩ ↔
        '\'' ∉ name.toList := by
  constructor
  · rw [refersTo_iff, ofText_nextValueCall_printedName]
    by_cases hschema : '\'' ∈ n.schema.toList
    · simp [hschema, eq_comm]
    · simp [hschema, beforeQuote_eq_self_iff]
  · intro name
    rw [refersTo_iff, ofText_nextValueCall_inQuotes]
    simp [beforeQuote_eq_self_iff]

/-- Dots, double quotes and blanks in a name are read as they are. -/
example : RefersTo "sales" (nextValueCall (printedName ⟨"Bill ing", "In.voice \"1\""⟩))
    ⟨"Bill ing", "In.voice \"1\""⟩ := by
  decide

/-- A name with a single quote is cut off there, and another sequence is referred to. -/
theorem not_refersTo_nextValueCall_apostrophe :
    Identifier.isValid "s" = true ∧ Identifier.isValid "it's" = true ∧
      nextValueCall (printedName ⟨"s", "it's"⟩) = "nextval('\"s\".\"it''s\"'::regclass)" ∧
      RefersTo "s" (nextValueCall (printedName ⟨"s", "it's"⟩)) ⟨"s", "it"⟩ ∧
      ¬ RefersTo "s" (nextValueCall (printedName ⟨"s", "it's"⟩)) ⟨"s", "it's"⟩ := by
  decide

end DefaultValue

end SchemaTransfer
