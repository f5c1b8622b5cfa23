import SchemaTransfer.Proofs.DefaultValue.Casts
import SchemaTransfer.Proofs.Identifier.Doubling

/-!
# Literals under a cast

The source prints a text between single quotes, with its quotes doubled, and casts it to a type. The
first double colon of such a default is that of the cast unless the text has one itself, and then
the cut leaves a literal that is not closed. Main statement: a cast literal is passed through as it
is exactly when its text has no double colon; what is passed through instead is never balanced.
-/

namespace SchemaTransfer.DefaultValue

/-- A text as the source prints it: between single quotes, each quote in it doubled. -/
def sourceLiteral (text : String) : String :=
  String.ofList ('\'' :: Identifier.doubling '\'' text.toList ++ ['\''])

/-- A literal that is cast to a type with a modifier. -/
def castLiteral (text type : String) (modifier : List Char) : String :=
  sourceLiteral text ++ "::" ++ type ++ String.ofList modifier

theorem toList_castLiteral (text type : String) (modifier : List Char) :
    (castLiteral text type modifier).toList =
      '\'' :: (Identifier.doubling '\'' text.toList ++
        '\'' :: (':' :: ':' :: (type.toList ++ modifier))) := by
  simp [castLiteral, sourceLiteral]

/-! ## The type of the cast -/

/-- The names of the types have no blanks at their ends. -/
theorem trimmed_of_mem_droppableCasts {name : String} (h : name ∈ droppableCasts) :
    name.toList ≠ [] ∧ Text.trimStart name.toList = name.toList ∧
      Text.trimEnd name.toList = name.toList := by
  have hall : (droppableCasts.all fun name => name.toList ≠ [] ∧
      Text.trimStart name.toList = name.toList ∧
      Text.trimEnd name.toList = name.toList) = true := by
    decide
  exact of_decide_eq_true (List.all_eq_true.mp hall name h)

variable {type : String} {modifier : List Char}

/-- The name of a type with a modifier ends with no blank. -/
theorem trimEnd_type_append (htype : type ∈ droppableCasts) (hmodifier : IsModifier modifier)
    (front : List Char) :
    Text.trimEnd (front ++ (type.toList ++ modifier)) = front ++ (type.toList ++ modifier) := by
  rcases hmodifier with rfl | ⟨inner, _, rfl⟩
  · obtain ⟨hne, -, hend⟩ := trimmed_of_mem_droppableCasts htype
    simpa using Text.trimEnd_append hend hne front []
  · have hclose := Text.trimEnd_append_cons (c := ')') (by decide)
      (front ++ (type.toList ++ '(' :: inner)) []
    simpa using hclose

/-- The type of a cast is read without its modifier. -/
theorem castType_type_append (htype : type ∈ droppableCasts) (hmodifier : IsModifier modifier) :
    castType (type.toList ++ modifier) = type.toList := by
  obtain ⟨hne, hstart, hend⟩ := trimmed_of_mem_droppableCasts htype
  have hname : ∀ c ∈ type.toList, decide (c ≠ '(') = true := fun c hc =>
    decide_eq_true (plain_of_mem_droppableCasts htype c hc).2.1
  have hnone : modifier.takeWhile (· ≠ '(') = [] := by
    rcases hmodifier with rfl | ⟨inner, _, rfl⟩ <;> simp
  have hwhole := trimEnd_type_append htype hmodifier []
  rw [List.nil_append] at hwhole
  rw [castType_eq hwhole, Text.trimStart_append hstart hne, List.takeWhile_append_of_pos hname,
    hnone, List.append_nil, hend]

/-! ## The cut at the first double colon -/

/-- Without a call at its beginning, a default is read by its first double colon. -/
theorem ofText_of_cutAt? (schema : String) {raw : String} {value cast : List Char}
    (hcall : Text.afterBeginning? "nextval(".toList (Text.trimList raw.toList) = none)
    (hcut : Text.cutAt? [':', ':'] (Text.trimList raw.toList) = some (value, cast)) :
    ofText schema raw =
      if String.ofList (castType cast) ∈ droppableCasts then passThrough (String.ofList value)
      else unsupported := by
  simp only [ofText, ofExpression, hcall, hcut, Option.isSome_none, Bool.false_eq_true, if_false]

/-- A cast literal is cut in its text, if that has a double colon, and else behind itself. -/
theorem cutAt?_castLiteral (text type : String) (modifier : List Char) :
    Text.cutAt? [':', ':'] (castLiteral text type modifier).toList =
      match Text.cutAt? [':', ':'] (Identifier.doubling '\'' text.toList) with
      | some (front, rest) =>
        some ('\'' :: front, rest ++ '\'' :: ':' :: ':' :: (type.toList ++ modifier))
      | none => some ((sourceLiteral text).toList, type.toList ++ modifier) := by
  have hopen := Text.cutAt?_append_cons (p := [':', ':']) (a := [])
    (b := Identifier.doubling '\'' text.toList ++ '\'' :: ':' :: ':' :: (type.toList ++ modifier))
    (show '\'' ∉ [':', ':'] by decide)
  rw [List.nil_append] at hopen
  rw [toList_castLiteral, hopen, Text.cutAt?_append_cons (by decide)]
  cases Text.cutAt? [':', ':'] (Identifier.doubling '\'' text.toList) with
  | some parts => rfl
  | none => simp [Text.cutAt?, Text.afterBeginning?, sourceLiteral]

theorem trimList_castLiteral (text : String) (htype : type ∈ droppableCasts)
    (hmodifier : IsModifier modifier) :
    Text.trimList (castLiteral text type modifier).toList =
      (castLiteral text type modifier).toList := by
  have hend := trimEnd_type_append htype hmodifier
    ('\'' :: (Identifier.doubling '\'' text.toList ++ ['\'', ':', ':']))
  rw [toList_castLiteral, Text.trimList_cons (by decide)]
  simpa using hend

/-- A cast literal without a double colon in its text is passed through; with one, what stands
before that is passed through or nothing is. -/
theorem ofText_castLiteral (schema text : String) (htype : type ∈ droppableCasts)
    (hmodifier : IsModifier modifier) :
    ofText schema (castLiteral text type modifier) =
      match Text.cutAt? [':', ':'] (Identifier.doubling '\'' text.toList) with
      | some (front, rest) =>
        if String.ofList (castType (rest ++ '\'' :: ':' :: ':' :: (type.toList ++ modifier))) ∈
            droppableCasts
        then passThrough (String.ofList ('\'' :: front)) else unsupported
      | none => passThrough (sourceLiteral text) := by
  have htrim := trimList_castLiteral text htype hmodifier
  have hcall : Text.afterBeginning? "nextval(".toList
      (Text.trimList (castLiteral text type modifier).toList) = none := by
    rw [htrim, toList_castLiteral]
    rfl
  have hcut := cutAt?_castLiteral text type modifier
  cases hinside : Text.cutAt? [':', ':'] (Identifier.doubling '\'' text.toList) with
  | some parts =>
    rw [hinside] at hcut
    exact ofText_of_cutAt? schema hcall (by rw [htrim, hcut])
  | none =>
    rw [hinside] at hcut
    rw [ofText_of_cutAt? schema hcall (by rw [htrim, hcut]),
      castType_type_append htype hmodifier, String.ofList_toList, if_pos htype,
      String.ofList_toList]

/-! ## Open literals -/

/-- A literal that is not closed keeps the reader inside. -/
theorem Nesting.readAll_doubling (depth : Nat) (cs : List Char) :
    (Nesting.mk true depth).readAll (Identifier.doubling '\'' cs) = some ⟨true, depth⟩ := by
  induction cs with
  | nil => rfl
  | cons c cs ih =>
    by_cases hc : c = '\''
    · simp only [Identifier.doubling, hc, if_true]
      exact (Nesting.readAll_doubled_quote depth _).trans ih
    · have hread : (Nesting.mk true depth).read c = some ⟨true, depth⟩ := by
        simp [Nesting.read, hc]
      simp only [Identifier.doubling, hc, if_false, Nesting.readAll_cons, hread, Option.bind_some]
      exact ih

theorem isBalanced_sourceLiteral (text : String) : IsBalanced (sourceLiteral text).toList := by
  have hopen : (Nesting.mk false 0).read '\'' = some ⟨true, 0⟩ := rfl
  rw [IsBalanced, sourceLiteral, String.toList_ofList, List.cons_append, Nesting.readAll_cons,
    hopen, Option.bind_some, Nesting.readAll_append, Nesting.readAll_doubling]
  rfl

/-- The beginning of a literal, without the quote that closes it, is not balanced. -/
theorem not_isBalanced_open (cs : List Char) :
    ¬ IsBalanced ('\'' :: Identifier.doubling '\'' cs) := by
  intro h
  have hopen : (Nesting.mk false 0).read '\'' = some ⟨true, 0⟩ := rfl
  rw [IsBalanced, Nesting.readAll_cons, hopen, Option.bind_some,
    Nesting.readAll_doubling] at h
  cases h

variable {schema text : String}

theorem cutAt?_doubling_eq_none_iff :
    Text.cutAt? [':', ':'] (Identifier.doubling '\'' text.toList) = none ↔
      ¬ [':', ':'] <:+: text.toList := by
  rw [Text.cutAt?_eq_none_iff, Identifier.isInfix_doubling_iff (by decide) (by decide)]

theorem ofText_castLiteral_of_not_isInfix (htype : type ∈ droppableCasts)
    (hmodifier : IsModifier modifier) (h : ¬ [':', ':'] <:+: text.toList) :
    ofText schema (castLiteral text type modifier) = passThrough (sourceLiteral text) := by
  rw [ofText_castLiteral schema text htype hmodifier, cutAt?_doubling_eq_none_iff.mpr h]

/-- With a double colon in the text, only the beginning of the literal can be passed through. -/
theorem not_isBalanced_of_isInfix (htype : type ∈ droppableCasts) (hmodifier : IsModifier modifier)
    (h : [':', ':'] <:+: text.toList) {v : String}
    (hv : ofText schema (castLiteral text type modifier) = passThrough v) :
    ¬ IsBalanced v.toList := by
  have hcut : Text.cutAt? [':', ':'] (Identifier.doubling '\'' text.toList) ≠ none := fun hnone =>
    cutAt?_doubling_eq_none_iff.mp hnone h
  obtain ⟨⟨front, rest⟩, hcut⟩ := Option.ne_none_iff_exists'.mp hcut
  have hparts := Text.eq_of_cutAt? hcut
  rw [List.append_assoc] at hparts
  obtain ⟨before, rfl⟩ := Identifier.exists_eq_doubling_of_append (by decide) hparts
  rw [ofText_castLiteral schema text htype hmodifier, hcut] at hv
  -- Whatever the rest of the literal is taken for, its beginning is what stands before the cut.
  dsimp only at hv
  split at hv
  · rw [← passThrough.inj hv, String.toList_ofList]
    exact not_isBalanced_open before
  · cases hv

/-- A cast literal is passed through as it is exactly when its text has no double colon. What is
passed through in its place is no balanced text. -/
theorem ofText_castLiteral_iff (htype : type ∈ droppableCasts) (hmodifier : IsModifier modifier) :
    (ofText schema (castLiteral text type modifier) = passThrough (sourceLiteral text) ↔
        ¬ [':', ':'] <:+: text.toList) ∧
      ∀ v, ofText schema (castLiteral text type modifier) = passThrough v →
        v = sourceLiteral text ∨ ¬ IsBalanced v.toList := by
  constructor
  · constructor
    · intro h hcolons
      exact not_isBalanced_of_isInfix htype hmodifier hcolons h (isBalanced_sourceLiteral text)
    · exact ofText_castLiteral_of_not_isInfix htype hmodifier
  · intro v hv
    by_cases hcolons : [':', ':'] <:+: text.toList
    · exact Or.inr (not_isBalanced_of_isInfix htype hmodifier hcolons hv)
    · rw [ofText_castLiteral_of_not_isInfix htype hmodifier hcolons] at hv
      exact Or.inl (passThrough.inj hv).symm

/-- A literal with a quote, single colons and a parenthesis in it, under a cast with a length. -/
theorem ofText_castLiteral_clock :
    "character varying" ∈ droppableCasts ∧ IsModifier "(10)".toList ∧
      ¬ [':', ':'] <:+: "it's 1:2 (".toList ∧
      castLiteral "it's 1:2 (" "character varying" "(10)".toList =
        "'it''s 1:2 ('::character varying(10)" ∧
      ofText "s" (castLiteral "it's 1:2 (" "character varying" "(10)".toList) =
        passThrough (sourceLiteral "it's 1:2 (") := by
  have htype : "character varying" ∈ droppableCasts := by decide
  have hmodifier : IsModifier "(10)".toList := Or.inr ⟨"10".toList, by decide, rfl⟩
  have hcolons : ¬ [':', ':'] <:+: "it's 1:2 (".toList := by decide
  exact ⟨htype, hmodifier, hcolons, by decide,
    (ofText_castLiteral_iff htype hmodifier).1.mpr hcolons⟩

/-- A text that reads like a cast itself is torn apart. -/
theorem not_ofText_castLiteral_nested :
    castLiteral "a::text(b)" "text" [] = "'a::text(b)'::text" ∧
      ofText "s" (castLiteral "a::text(b)" "text" []) = passThrough "'a" ∧
      ofText "s" (castLiteral "a::text(b)" "text" []) ≠
        passThrough (sourceLiteral "a::text(b)") := by
  decide

end SchemaTransfer.DefaultValue
