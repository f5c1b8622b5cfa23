import SchemaTransfer.Document.JsonWriting
import SchemaTransfer.Proofs.Text.Numerals

/-!
# Written JSON is read back

What is written for a value is read as the tree of that value. Texts are read back character by
character, integers digit by digit, and lists and records member by member. Main statement: the
text of every value is read as its tree, and the whole text is read.
-/

namespace SchemaTransfer.Document

mutual

/-- A value as it is read. -/
def Value.node : Value → Node
  | .null => .scalar .null
  | .flag value => .scalar (.flag value)
  | .integer n => .scalar (.number (.ofInt n))
  | .text value => .scalar (.text value)
  | .list items => .list (nodesOf items) true
  | .record members => .map (entriesOf members) true

/-- The items of a list as they are read. -/
def nodesOf : List Value → List Node
  | [] => []
  | v :: vs => v.node :: nodesOf vs

/-- The members of a record as they are read. -/
def entriesOf : List (String × Value) → List (Node × Node)
  | [] => []
  | (name, v) :: ms => (.scalar (.text name), v.node) :: entriesOf ms

end

theorem nodesOf_eq_map (vs : List Value) : nodesOf vs = vs.map Value.node := by
  induction vs with
  | nil => rfl
  | cons v vs ih => rw [nodesOf, ih, List.map_cons]

theorem entriesOf_eq_map (ms : List (String × Value)) :
    entriesOf ms = ms.map fun m => (.scalar (.text m.1), m.2.node) := by
  induction ms with
  | nil => rfl
  | cons m ms ih => rw [entriesOf, ih, List.map_cons]

namespace Json

/-! ## Texts -/

/-- An escape of one character is read as the code that it stands for. -/
theorem readCodes_simpleEscape {c : Char} {n : Nat} (hn : simpleEscape? c = some n)
    (cs : List Char) :
    readCodes ('\\' :: c :: cs) = (readCodes cs).map fun r => (n :: r.1, r.2) := by
  have hu : c ≠ 'u' := by
    rintro rfl
    cases hn
  rw [readCodes]
  · rw [hn]
    cases readCodes cs <;> rfl
  · rintro _ _ _ _ _ rfl
    exact absurd rfl hu

/-- An escape of four digits is read as the code that they make. -/
theorem readCodes_hexUnit {a b c d : Char} {n : Nat} (hn : hexUnit? a b c d = some n)
    (cs : List Char) : readCodes ('\\' :: 'u' :: a :: b :: c :: d :: cs) =
      (readCodes cs).map fun r => (n :: r.1, r.2) := by
  rw [readCodes, hn]
  cases readCodes cs <;> rfl

/-- A character that needs no escape is read as its own code. -/
theorem readCodes_plain {c : Char} (hquote : c ≠ '"') (hescape : c ≠ '\\') (hc : 0x20 ≤ c.toNat)
    (cs : List Char) : readCodes (c :: cs) = (readCodes cs).map fun r => (c.toNat :: r.1, r.2) := by
  rw [readCodes]
  · rw [if_neg (Nat.not_lt.mpr hc)]
    cases readCodes cs <;> rfl
  · exact hquote
  · exact fun _ _ _ _ _ h _ => hescape h
  · exact fun _ _ h _ => hescape h

/-- The low control characters, by the two digits of base sixteen that are written for them. -/
theorem hexUnit?_hexDigit {n : Nat} (hn : n < 32) :
    hexUnit? '0' '0' (hexDigit (n / 16)) (hexDigit (n % 16)) = some n := by
  revert n
  decide

/-- A written character is read as its code. -/
theorem readCodes_writeChar (c : Char) (cs : List Char) :
    readCodes (writeChar c ++ cs) = (readCodes cs).map fun r => (c.toNat :: r.1, r.2) := by
  unfold writeChar
  split_ifs with hquote hescape _ _ _ _ _ hlow
  -- The characters that have an escape of their own.
  iterate 7
    subst c
    exact readCodes_simpleEscape rfl cs
  · exact readCodes_hexUnit (hexUnit?_hexDigit hlow) cs
  · exact readCodes_plain hquote hescape (Nat.not_lt.mp hlow) cs

/-- The characters of a text are read as their codes, up to the quote after them. -/
theorem readCodes_writeChars (text rest : List Char) :
    readCodes (text.flatMap writeChar ++ '"' :: rest) = some (text.map Char.toNat, rest) := by
  induction text with
  | nil => rfl
  | cons c text ih =>
    rw [List.flatMap_cons, List.append_assoc, readCodes_writeChar, ih]
    rfl

/-- The codes of characters stand for them: no character is one half of another. -/
theorem characters?_map_toNat (text : List Char) :
    characters? (text.map Char.toNat) = some text := by
  induction text with
  | nil => rfl
  | cons c text ih =>
    have hvalid : c.toNat < 0xD800 ∨ 0xDFFF < c.toNat ∧ c.toNat < 0x110000 := c.valid
    rw [List.map_cons, characters?.eq_def]
    dsimp only
    rw [if_neg (by omega), if_neg (by omega), ih, Option.map_some, Char.ofNat_toNat]

theorem writeText_append (s : String) (rest : List Char) :
    writeText s ++ rest = '"' :: (s.toList.flatMap writeChar ++ '"' :: rest) := by
  simp [writeText]

/-- A written text is read back. -/
theorem readText_writeText (s : String) (rest : List Char) :
    readText (s.toList.flatMap writeChar ++ '"' :: rest) = some (.text s, rest) := by
  simp only [readText, readCodes_writeChars, Option.map_some, characters?_map_toNat,
    String.ofList_toList]

/-! ## Numbers -/

/-- Whether a text does not go on with a number that ends before it. -/
def Stops (cs : List Char) : Prop :=
  ∀ c ∈ cs.head?, isDigit c = false ∧ c ≠ '.' ∧ c ≠ 'e' ∧ c ≠ 'E'

theorem isDigit_of_mem_toDigits {c : Char} {n : Nat} (hc : c ∈ Nat.toDigits 10 n) :
    isDigit c = true := by
  have hdigit := Nat.isDigit_of_mem_toDigits (by decide) (by decide) hc
  simpa [isDigit, Char.isDigit, Char.le_def] using hdigit

/-- A numeral is read up to its last digit. -/
theorem readWhole?_toDigits (n : Nat) {rest : List Char} (hrest : Stops rest) :
    readWhole? (Nat.toDigits 10 n ++ rest) = some (Nat.toDigits 10 n, rest) := by
  have hstop : ∀ c ∈ rest.head?, ¬ isDigit c = true := fun c hc => by simp [(hrest c hc).1]
  have htake : (Nat.toDigits 10 n ++ rest).takeWhile isDigit = Nat.toDigits 10 n := by
    rw [List.takeWhile_append_of_pos fun c hc => isDigit_of_mem_toDigits hc]
    cases rest with
    | nil => simp
    | cons c rest => simp [hstop c (by simp)]
  have hdrop : (Nat.toDigits 10 n ++ rest).dropWhile isDigit = rest := by
    rw [List.dropWhile_append_of_pos fun c hc => isDigit_of_mem_toDigits hc]
    cases rest with
    | nil => rfl
    | cons c rest => exact List.dropWhile_cons_of_neg (hstop c (by simp))
  obtain ⟨d, ds, hd⟩ := List.exists_cons_of_ne_nil (Nat.toDigits_ne_nil (n := n) (b := 10))
  have hdigits : readDigits? (Nat.toDigits 10 n ++ rest) = some (Nat.toDigits 10 n, rest) := by
    rw [readDigits?, htake, hdrop, hd]
  rw [readWhole?, hdigits]
  split
  · rename_i h
    exact absurd (Prod.mk.inj (Option.some.inj h)).1 (Text.toDigits_ne_zero_cons n _ _)
  · rfl

/-- Nothing but an integer is read where no point and no exponent follow. -/
theorem readMagnitude?_toDigits (negative : Bool) (n : Nat) {rest : List Char}
    (hrest : Stops rest) : readMagnitude? negative (Nat.toDigits 10 n ++ rest) =
      some (⟨negative, Nat.toDigits 10 n, [], none⟩, rest) := by
  have hfraction : readFraction? rest = some ([], rest) := by
    rw [readFraction?]
    rintro tail rfl
    exact (hrest '.' rfl).2.1 rfl
  have hexponent : readExponent? rest = some (none, rest) := by
    cases rest with
    | nil => rfl
    | cons c rest =>
      obtain ⟨-, -, he, hE⟩ := hrest c rfl
      simp [readExponent?, he, hE]
  simp only [readMagnitude?, readWhole?_toDigits n hrest, hfraction, hexponent, Option.map_some]

/-- A written integer is read back. -/
theorem readNumber?_writeInteger (n : Int) {rest : List Char} (hrest : Stops rest) :
    readNumber? (writeInteger n ++ rest) = some (.ofInt n, rest) := by
  unfold writeInteger NumberText.ofInt
  split
  case isTrue hn =>
    rw [List.cons_append, readNumber?, readMagnitude?_toDigits true n.natAbs hrest]
    simp [hn]
  case isFalse hn =>
    rw [readNumber?, readMagnitude?_toDigits false n.natAbs hrest]
    · simp [hn]
    · intro tail h
      obtain ⟨d, ds, hd⟩ := List.exists_cons_of_ne_nil
        (Nat.toDigits_ne_nil (n := n.natAbs) (b := 10))
      have hminus : '-' ∈ Nat.toDigits 10 n.natAbs := by
        rw [hd, List.cons_append] at h
        rw [hd, (List.cons.inj h).1]
        exact List.mem_cons_self
      exact Text.not_mem_toDigits rfl n.natAbs hminus

/-! ## Scalars -/

/-- An integer begins with a sign or a digit. -/
theorem exists_writeInteger_eq_cons (n : Int) :
    ∃ c cs, writeInteger n = c :: cs ∧ (c = '-' ∨ isDigit c = true) := by
  unfold writeInteger
  split
  · exact ⟨'-', _, rfl, Or.inl rfl⟩
  · obtain ⟨d, ds, hd⟩ := List.exists_cons_of_ne_nil
      (Nat.toDigits_ne_nil (n := n.natAbs) (b := 10))
    exact ⟨d, ds, hd, Or.inr (isDigit_of_mem_toDigits (hd ▸ List.mem_cons_self))⟩

/-- A sign or a digit is none of the other marks. -/
theorem ne_of_startsInteger {c d : Char} (hc : c = '-' ∨ isDigit c = true)
    (hd : d ≠ '-' ∧ isDigit d = false) : c ≠ d := by
  rintro rfl
  simp [hd] at hc

theorem isBlank_of_startsInteger {c : Char} (hc : c = '-' ∨ isDigit c = true) :
    isBlank c = false := by
  simp [isBlank, ne_of_startsInteger hc (d := ' ') (by decide),
    ne_of_startsInteger hc (d := '\n') (by decide), ne_of_startsInteger hc (d := '\t') (by decide),
    ne_of_startsInteger hc (d := '\r') (by decide)]

/-- An integer is read as no text and as none of the words. -/
theorem readScalar?_writeInteger (n : Int) {rest : List Char} (hrest : Stops rest) :
    readScalar? (writeInteger n ++ rest) = some (.number (.ofInt n), rest) := by
  obtain ⟨c, cs, hcs, hc⟩ := exists_writeInteger_eq_cons n
  have hword : readWord? (c :: cs ++ rest) = none := by
    simp [readWord?, words, Text.afterBeginning?,
      Ne.symm (ne_of_startsInteger hc (d := 'n') (by decide)),
      Ne.symm (ne_of_startsInteger hc (d := 't') (by decide)),
      Ne.symm (ne_of_startsInteger hc (d := 'f') (by decide))]
  have hnumber : readNumber? (c :: cs ++ rest) = some (.ofInt n, rest) :=
    hcs ▸ readNumber?_writeInteger n hrest
  rw [hcs, readScalar?, hword, hnumber]
  · rfl
  · intro tail h
    exact ne_of_startsInteger hc (by decide) (List.cons.inj h).1

theorem readScalar?_writeText (s : String) (rest : List Char) :
    readScalar? (writeText s ++ rest) = some (.text s, rest) := by
  rw [writeText_append, readScalar?, readText_writeText]

theorem readScalar?_null (rest : List Char) :
    readScalar? ("null".toList ++ rest) = some (.null, rest) := by
  simp [readScalar?, readWord?, words, Text.afterBeginning?]

theorem readScalar?_true (rest : List Char) :
    readScalar? ("true".toList ++ rest) = some (.flag true, rest) := by
  simp [readScalar?, readWord?, words, Text.afterBeginning?]

theorem readScalar?_false (rest : List Char) :
    readScalar? ("false".toList ++ rest) = some (.flag false, rest) := by
  simp [readScalar?, readWord?, words, Text.afterBeginning?]

/-! ## Lines -/

theorem skipBlanks_cons {c : Char} (hc : isBlank c = false) (cs : List Char) :
    skipBlanks (c :: cs) = c :: cs :=
  List.dropWhile_cons_of_neg (by simp [hc])

/-- A new line with its indentation is left out. -/
theorem skipBlanks_newLine (level : Nat) (cs : List Char) :
    skipBlanks (newLine level ++ cs) = skipBlanks cs := by
  refine List.dropWhile_append_of_pos fun c hc => ?_
  rcases List.mem_cons.mp hc with rfl | hc
  · rfl
  · rw [List.eq_of_mem_replicate hc]
    rfl

/-- Blanks before a value do not matter. -/
theorem readValue_congr {cs ds : List Char} (h : skipBlanks cs = skipBlanks ds) (fuel : Nat) :
    readValue fuel cs = readValue fuel ds := by
  cases fuel with
  | zero => rfl
  | succ fuel => rw [readValue, readValue, h]

theorem readValue_space (fuel : Nat) (cs : List Char) :
    readValue fuel (' ' :: cs) = readValue fuel cs :=
  readValue_congr (List.dropWhile_cons_of_pos rfl) fuel

theorem readItems_newLine (fuel level : Nat) (cs : List Char) :
    readItems fuel (newLine level ++ cs) = readItems fuel cs := by
  cases fuel with
  | zero => rfl
  | succ fuel => rw [readItems, readItems, readValue_congr (skipBlanks_newLine level cs)]

theorem readEntries_newLine (fuel level : Nat) (cs : List Char) :
    readEntries fuel (newLine level ++ cs) = readEntries fuel cs := by
  cases fuel with
  | zero => rfl
  | succ fuel => rw [readEntries, readEntries, skipBlanks_newLine]

/-- A value begins with a character that is no blank and closes no list. -/
theorem exists_writeValue_eq_cons (level : Nat) (v : Value) :
    ∃ c cs, writeValue level v = c :: cs ∧ isBlank c = false ∧ c ≠ ']' := by
  cases v with
  | null => exact ⟨'n', _, rfl, rfl, by decide⟩
  | flag b => cases b <;> exact ⟨_, _, rfl, rfl, by decide⟩
  | integer n =>
    obtain ⟨c, cs, hcs, hc⟩ := exists_writeInteger_eq_cons n
    exact ⟨c, cs, hcs, isBlank_of_startsInteger hc, ne_of_startsInteger hc (by decide)⟩
  | text s => exact ⟨'"', _, rfl, rfl, by decide⟩
  | list vs => cases vs <;> exact ⟨'[', _, rfl, rfl, by decide⟩
  | record ms => cases ms <;> exact ⟨'\x7b', _, rfl, rfl, by decide⟩

/-! ## Values -/

/-- Whether a value is read back wherever it is written, if there is fuel for its length. -/
def IsReadBack (v : Value) : Prop :=
  ∀ (level fuel : Nat) (rest : List Char), (writeValue level v).length ≤ fuel → Stops rest →
    readValue fuel (writeValue level v ++ rest) = (v.node, some rest)

theorem stops_cons {c : Char} (hc : isDigit c = false ∧ c ≠ '.' ∧ c ≠ 'e' ∧ c ≠ 'E')
    (cs : List Char) : Stops (c :: cs) := by
  intro d hd
  obtain rfl : c = d := by simpa using hd
  exact hc

theorem stops_newLine (level : Nat) (cs : List Char) : Stops (newLine level ++ cs) :=
  stops_cons (by decide) _

/-- An item before the closing bracket is the last one. -/
theorem readItems_last {fuel : Nat} {cs tail rest : List Char} {n : Node}
    (hn : readValue fuel cs = (n, some tail)) (htail : skipBlanks tail = ']' :: rest) :
    readItems (fuel + 1) cs = ([n], some rest) := by
  rw [readItems, hn]
  simp only [htail]

/-- After an item and a comma other items follow. -/
theorem readItems_more {fuel : Nat} {cs tail more : List Char} {n : Node} {c : Char}
    (hn : readValue fuel cs = (n, some (',' :: tail))) (htail : skipBlanks tail = c :: more)
    (hc : c ≠ ']') :
    readItems (fuel + 1) cs = (n :: (readItems fuel tail).1, (readItems fuel tail).2) := by
  rw [readItems, hn]
  simp only [skipBlanks_cons (show isBlank ',' = false from rfl), htail]
  split
  · rename_i h
    exact absurd (List.cons.inj h).1 hc
  · rfl

/-- Items are read back one after the other, up to the bracket on the line after them. -/
theorem readItems_writeItems {level outer fuel : Nat} {rest : List Char} {v : Value}
    {vs : List Value} (h : ∀ w ∈ v :: vs, IsReadBack w)
    (hfuel : (writeValue level v).length + (writeItems level vs).length < fuel) :
    readItems fuel (writeValue level v ++ (writeItems level vs ++ (newLine outer ++ ']' :: rest))) =
      (nodesOf (v :: vs), some rest) := by
  obtain ⟨fuel, rfl⟩ := Nat.exists_eq_succ_of_ne_zero (Nat.ne_zero_of_lt hfuel)
  induction vs generalizing v fuel with
  | nil =>
    rw [writeItems, List.nil_append]
    have hv := h v List.mem_cons_self level fuel _ (by omega) (stops_newLine outer (']' :: rest))
    exact readItems_last hv (skipBlanks_newLine outer _)
  | cons w ws ih =>
    let tail := newLine level ++ (writeValue level w ++
      (writeItems level ws ++ (newLine outer ++ ']' :: rest)))
    have hcomma : writeItems level (w :: ws) ++ (newLine outer ++ ']' :: rest) = ',' :: tail := by
      simp [writeItems, tail, List.append_assoc]
    simp only [writeItems, newLine, List.length_append, List.length_cons, List.length_nil] at hfuel
    obtain ⟨fuel, rfl⟩ : ∃ less, fuel = less + 1 := ⟨fuel - 1, by omega⟩
    obtain ⟨c, cs, hcs, hblank, hclose⟩ := exists_writeValue_eq_cons level w
    have htail : skipBlanks tail =
        c :: (cs ++ (writeItems level ws ++ (newLine outer ++ ']' :: rest))) := by
      rw [skipBlanks_newLine, hcs, List.cons_append, skipBlanks_cons hblank]
    have hv := h v List.mem_cons_self level (fuel + 1) (',' :: tail) (by omega)
      (stops_cons (by decide) tail)
    have hws := ih (fun u hu => h u (List.mem_cons_of_mem v hu)) fuel (by omega)
    rw [hcomma, readItems_more hv htail hclose, readItems_newLine, hws]
    rfl

/-- A member before the closing brace is the last one. -/
theorem readEntries_last {fuel : Nat} {cs tail rest : List Char} {name : String} {n : Node}
    (hn : readValue fuel cs = (n, some tail)) (htail : skipBlanks tail = '\x7d' :: rest) :
    readEntries (fuel + 1) (writeText name ++ (':' :: ' ' :: cs)) =
      ([(.scalar (.text name), n)], some rest) := by
  rw [writeText_append, readEntries, skipBlanks_cons rfl]
  simp only [readText_writeText, skipBlanks_cons (show isBlank ':' = false from rfl),
    readValue_space, hn, htail]

/-- After a member and a comma other members follow. -/
theorem readEntries_more {fuel : Nat} {cs tail : List Char} {name : String} {n : Node}
    (hn : readValue fuel cs = (n, some (',' :: tail))) :
    readEntries (fuel + 1) (writeText name ++ (':' :: ' ' :: cs)) =
      ((.scalar (.text name), n) :: (readEntries fuel tail).1, (readEntries fuel tail).2) := by
  rw [writeText_append, readEntries, skipBlanks_cons rfl]
  simp only [readText_writeText, skipBlanks_cons (show isBlank ':' = false from rfl),
    readValue_space, hn, skipBlanks_cons (show isBlank ',' = false from rfl)]

/-- Members are read back one after the other, up to the brace on the line after them. -/
theorem readEntries_writeMembers {level outer fuel : Nat} {rest : List Char}
    {m : String × Value} {ms : List (String × Value)} (h : ∀ w ∈ m :: ms, IsReadBack w.2)
    (hfuel : (writeValue level m.2).length + (writeMembers level ms).length < fuel) :
    readEntries fuel (writeText m.1 ++ (':' :: ' ' :: (writeValue level m.2 ++
      (writeMembers level ms ++ (newLine outer ++ '\x7d' :: rest))))) =
        (entriesOf (m :: ms), some rest) := by
  obtain ⟨fuel, rfl⟩ := Nat.exists_eq_succ_of_ne_zero (Nat.ne_zero_of_lt hfuel)
  induction ms generalizing m fuel with
  | nil =>
    rw [writeMembers, List.nil_append]
    have hv := h m List.mem_cons_self level fuel _ (by omega)
      (stops_newLine outer ('\x7d' :: rest))
    exact readEntries_last hv (skipBlanks_newLine outer _)
  | cons w ws ih =>
    let tail := newLine level ++ (writeText w.1 ++ (':' :: ' ' :: (writeValue level w.2 ++
      (writeMembers level ws ++ (newLine outer ++ '\x7d' :: rest)))))
    have hcomma : writeMembers level (w :: ws) ++ (newLine outer ++ '\x7d' :: rest) =
        ',' :: tail := by
      simp [writeMembers, tail, List.append_assoc]
    simp only [writeMembers, newLine, writeText, List.length_append, List.length_cons,
      List.length_nil] at hfuel
    obtain ⟨fuel, rfl⟩ : ∃ less, fuel = less + 1 := ⟨fuel - 1, by omega⟩
    have hv := h m List.mem_cons_self level (fuel + 1) (',' :: tail) (by omega)
      (stops_cons (by decide) tail)
    have hws := ih (fun u hu => h u (List.mem_cons_of_mem m hu)) fuel (by omega)
    rw [hcomma, readEntries_more hv, readEntries_newLine, hws]
    rfl

/-- A scalar is read back. -/
theorem isReadBack_scalar {v : Value} {c : Scalar} (hnode : v.node = .scalar c)
    (hread : ∀ level rest, Stops rest → readScalar? (writeValue level v ++ rest) = some (c, rest))
    (hopen : ∀ level, ∃ d cs,
      writeValue level v = d :: cs ∧ isBlank d = false ∧ d ≠ '[' ∧ d ≠ '\x7b') :
    IsReadBack v := by
  intro level fuel rest hfuel hrest
  obtain ⟨d, cs, hcs, hblank, hlist, hmap⟩ := hopen level
  rw [hcs] at hfuel
  obtain ⟨fuel, rfl⟩ := Nat.exists_eq_succ_of_ne_zero (Nat.ne_zero_of_lt hfuel)
  have hscalar := hread level rest hrest
  rw [hcs, List.cons_append] at hscalar ⊢
  rw [readValue, skipBlanks_cons hblank]
  split
  · rename_i h
    exact absurd (List.cons.inj h).1 hlist
  · rename_i h
    exact absurd (List.cons.inj h).1 hmap
  · rw [hscalar, hnode]

/-- A list that does not close at once has items. -/
theorem readValue_list {fuel : Nat} {cs more : List Char} {c : Char}
    (hcs : skipBlanks cs = c :: more) (hc : c ≠ ']') :
    readValue (fuel + 1) ('[' :: cs) =
      (.list (readItems fuel cs).1 (readItems fuel cs).2.isSome, (readItems fuel cs).2) := by
  rw [readValue, skipBlanks_cons rfl]
  simp only [hcs]
  split
  · rename_i h
    exact absurd (List.cons.inj h).1 hc
  · rfl

/-- A record that does not close at once has entries. -/
theorem readValue_map {fuel : Nat} {cs more : List Char} {c : Char}
    (hcs : skipBlanks cs = c :: more) (hc : c ≠ '\x7d') :
    readValue (fuel + 1) ('\x7b' :: cs) =
      (.map (readEntries fuel cs).1 (readEntries fuel cs).2.isSome, (readEntries fuel cs).2) := by
  rw [readValue, skipBlanks_cons rfl]
  simp only [hcs]
  split
  · rename_i h
    exact absurd (List.cons.inj h).1 hc
  · rfl

/-- A list is read back if its items are. -/
theorem isReadBack_list {vs : List Value} (h : ∀ v ∈ vs, IsReadBack v) :
    IsReadBack (.list vs) := by
  intro level fuel rest hfuel _
  cases vs with
  | nil =>
    rw [writeValue] at hfuel
    obtain ⟨fuel, rfl⟩ := Nat.exists_eq_succ_of_ne_zero (Nat.ne_zero_of_lt hfuel)
    rfl
  | cons v vs =>
    let items := writeValue (level + 1) v ++
      (writeItems (level + 1) vs ++ (newLine level ++ ']' :: rest))
    have hlist : writeValue level (.list (v :: vs)) ++ rest =
        '[' :: (newLine (level + 1) ++ items) := by
      simp [writeValue, items, List.append_assoc]
    simp only [writeValue, newLine, List.length_append, List.length_cons, List.length_nil] at hfuel
    obtain ⟨fuel, rfl⟩ : ∃ less, fuel = less + 1 := ⟨fuel - 1, by omega⟩
    obtain ⟨c, cs, hcs, hblank, hclose⟩ := exists_writeValue_eq_cons (level + 1) v
    have hopen : skipBlanks (newLine (level + 1) ++ items) =
        c :: (cs ++ (writeItems (level + 1) vs ++ (newLine level ++ ']' :: rest))) := by
      rw [skipBlanks_newLine, ← List.cons_append, ← hcs]
      simp only [items, hcs, List.cons_append, skipBlanks_cons hblank]
    have hitems : readItems fuel items = (nodesOf (v :: vs), some rest) :=
      readItems_writeItems h (by omega)
    rw [hlist, readValue_list hopen hclose, readItems_newLine, hitems]
    rfl

/-- A record is read back if the values of its members are. -/
theorem isReadBack_record {ms : List (String × Value)} (h : ∀ m ∈ ms, IsReadBack m.2) :
    IsReadBack (.record ms) := by
  intro level fuel rest hfuel _
  cases ms with
  | nil =>
    rw [writeValue] at hfuel
    obtain ⟨fuel, rfl⟩ := Nat.exists_eq_succ_of_ne_zero (Nat.ne_zero_of_lt hfuel)
    rfl
  | cons m ms =>
    let entries := writeText m.1 ++ (':' :: ' ' :: (writeValue (level + 1) m.2 ++
      (writeMembers (level + 1) ms ++ (newLine level ++ '\x7d' :: rest))))
    have hrecord : writeValue level (.record (m :: ms)) ++ rest =
        '\x7b' :: (newLine (level + 1) ++ entries) := by
      simp [writeValue, entries, List.append_assoc]
    simp only [writeValue, newLine, writeText, List.length_append, List.length_cons,
      List.length_nil] at hfuel
    obtain ⟨fuel, rfl⟩ : ∃ less, fuel = less + 1 := ⟨fuel - 1, by omega⟩
    have hopen : skipBlanks (newLine (level + 1) ++ entries) = entries := by
      rw [skipBlanks_newLine]
      rfl
    have hentries : readEntries fuel entries = (entriesOf (m :: ms), some rest) :=
      readEntries_writeMembers h (by omega)
    rw [hrecord, readValue_map hopen (by decide), readEntries_newLine, hentries]
    rfl

mutual

/-- Every value is read back. -/
theorem isReadBack : ∀ v : Value, IsReadBack v
  | .null => isReadBack_scalar rfl (fun _ rest _ => readScalar?_null rest)
      fun _ => ⟨'n', _, rfl, by decide⟩
  | .flag true => isReadBack_scalar rfl (fun _ rest _ => readScalar?_true rest)
      fun _ => ⟨'t', _, rfl, by decide⟩
  | .flag false => isReadBack_scalar rfl (fun _ rest _ => readScalar?_false rest)
      fun _ => ⟨'f', _, rfl, by decide⟩
  | .integer n => isReadBack_scalar rfl (fun _ _ hrest => readScalar?_writeInteger n hrest)
      fun _ => by
        obtain ⟨c, cs, hcs, hc⟩ := exists_writeInteger_eq_cons n
        exact ⟨c, cs, hcs, isBlank_of_startsInteger hc, ne_of_startsInteger hc (by decide),
          ne_of_startsInteger hc (by decide)⟩
  | .text s => isReadBack_scalar rfl (fun _ rest _ => readScalar?_writeText s rest)
      fun _ => ⟨'"', _, rfl, by decide⟩
  | .list vs => isReadBack_list (isReadBack_items vs)
  | .record ms => isReadBack_record (isReadBack_members ms)

theorem isReadBack_items : ∀ vs : List Value, ∀ v ∈ vs, IsReadBack v
  | [] => fun _ hv => absurd hv List.not_mem_nil
  | v :: vs => List.forall_mem_cons.mpr ⟨isReadBack v, isReadBack_items vs⟩

theorem isReadBack_members : ∀ ms : List (String × Value), ∀ m ∈ ms, IsReadBack m.2
  | [] => fun _ hm => absurd hm List.not_mem_nil
  | (_, v) :: ms => List.forall_mem_cons.mpr ⟨isReadBack v, isReadBack_members ms⟩

end

/-- What is written for a value is read as its tree, and nothing is left. -/
theorem read_write (v : Value) : read (write v) = ⟨v.node, true⟩ := by
  have hv := isReadBack v 0 (2 * (writeValue 0 v).length + 2) [] (by omega)
    (fun c hc => absurd hc (by simp))
  rw [List.append_nil] at hv
  simp only [read, write, String.toList_ofList, readList, hv]
  rfl

/-! ## Texts that are read to their end -/

/-- A value after which something is left is whole, if its items and entries are. -/
theorem isWhole_readValue {fuel : Nat} {cs : List Char}
    (hitems : ∀ cs, (readItems fuel cs).2.isSome = true → itemsWhole (readItems fuel cs).1 = true)
    (hentries : ∀ cs, (readEntries fuel cs).2.isSome = true →
      entriesWhole (readEntries fuel cs).1 = true)
    (h : (readValue (fuel + 1) cs).2.isSome = true) :
    (readValue (fuel + 1) cs).1.isWhole = true := by
  rw [readValue] at h ⊢
  split at h
  · split at h
    · rfl
    · simp_all [Node.isWhole]
  · split at h
    · rfl
    · simp_all [Node.isWhole]
  · split at h
    · rfl
    · cases h

/-- Items after which something is left are whole, if the first and the others are. -/
theorem itemsWhole_readItems {fuel : Nat} {cs : List Char}
    (hvalue : ∀ cs, (readValue fuel cs).2.isSome = true → (readValue fuel cs).1.isWhole = true)
    (hitems : ∀ cs, (readItems fuel cs).2.isSome = true → itemsWhole (readItems fuel cs).1 = true)
    (h : (readItems (fuel + 1) cs).2.isSome = true) :
    itemsWhole (readItems (fuel + 1) cs).1 = true := by
  cases hread : readValue fuel cs with
  | mk n left =>
    cases left with
    | none => simp [readItems, hread] at h
    | some rest =>
      have hn : n.isWhole = true := by simpa [hread] using hvalue cs
      simp only [readItems, hread] at h ⊢
      split at h
      · simp [itemsWhole, hn]
      · split at h
        · cases h
        · simp_all [itemsWhole]
      · cases h

/-- Entries after which something is left are whole, if the value of the first and the others
are. -/
theorem entriesWhole_readEntries {fuel : Nat} {cs : List Char}
    (hvalue : ∀ cs, (readValue fuel cs).2.isSome = true → (readValue fuel cs).1.isWhole = true)
    (hentries : ∀ cs, (readEntries fuel cs).2.isSome = true →
      entriesWhole (readEntries fuel cs).1 = true)
    (h : (readEntries (fuel + 1) cs).2.isSome = true) :
    entriesWhole (readEntries (fuel + 1) cs).1 = true := by
  rw [readEntries] at h ⊢
  split at h
  · split at h
    · cases h
    · split at h
      · rename_i rest _
        cases hread : readValue fuel rest with
        | mk n left =>
          cases left with
          | none => simp [hread] at h
          | some more =>
            have hn : n.isWhole = true := by simpa [hread] using hvalue rest
            simp only [hread] at h ⊢
            split at h
            · simp_all [entriesWhole, Node.isWhole]
            · simp_all [entriesWhole, Node.isWhole]
            · cases h
      · cases h
  · cases h

/-- Where something is left to be read, nothing before it was cut. -/
theorem isWhole_of_isSome (fuel : Nat) :
    (∀ cs, (readValue fuel cs).2.isSome = true → (readValue fuel cs).1.isWhole = true) ∧
      (∀ cs, (readItems fuel cs).2.isSome = true → itemsWhole (readItems fuel cs).1 = true) ∧
        ∀ cs, (readEntries fuel cs).2.isSome = true →
          entriesWhole (readEntries fuel cs).1 = true := by
  induction fuel with
  | zero =>
    have hnone (cs : List Char) : (readValue 0 cs).2.isSome = false ∧
        (readItems 0 cs).2.isSome = false ∧ (readEntries 0 cs).2.isSome = false := ⟨rfl, rfl, rfl⟩
    refine ⟨fun cs h => ?_, fun cs h => ?_, fun cs h => ?_⟩ <;> simp [hnone] at h
  | succ fuel ih =>
    obtain ⟨hvalue, hitems, hentries⟩ := ih
    exact ⟨fun _ h => isWhole_readValue hitems hentries h,
      fun _ h => itemsWhole_readItems hvalue hitems h,
      fun _ h => entriesWhole_readEntries hvalue hentries h⟩

/-- A text that is read to its end is read whole. -/
theorem isWhole_of_read {text : String} {n : Node} (h : read text = ⟨n, true⟩) :
    n.isWhole = true := by
  simp only [read, readList, Document.mk.injEq] at h
  obtain ⟨rfl, hend⟩ := h
  refine (isWhole_of_isSome _).1 _ ?_
  split at hend
  · rename_i hrest
    rw [hrest]
    rfl
  · cases hend

end Json

end SchemaTransfer.Document
