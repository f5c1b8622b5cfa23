import SchemaTransfer.Proofs.TypeName.Bare
import SchemaTransfer.Source

/-!
# Spellings of a type name

One type is printed in many ways: with blanks around it, with array marks after it, each after
blanks of its own, and with letters of either case. Main statement: what a name is read as depends
on none of these. A known type is known in every case; a name that is not known is kept in its own
case without what stands around it, and is its own reading. What a name becomes in the target
becomes itself again.
-/

namespace SchemaTransfer

namespace TypeName

/-- The texts that spell a name: blanks may stand around it and array marks after it. -/
inductive IsSpelling (name : String) : String → Prop
  | self : IsSpelling name name
  | blanks {text before after : String} (spelled : IsSpelling name text)
      (isBlank_before : ∀ c ∈ before.toList, Text.isBlank c = true)
      (isBlank_after : ∀ c ∈ after.toList, Text.isBlank c = true) :
      IsSpelling name (before ++ text ++ after)
  | mark {text : String} (spelled : IsSpelling name text) : IsSpelling name (text ++ "[]")

/-- A name with nothing to take off: no blank at its ends and no array mark after it. -/
def IsBare (name : String) : Prop := Text.trim name = name ∧ hasArrayMark name = false

theorem isBare_bare (name : String) : IsBare (bare name) := ⟨trim_bare name, hasArrayMark_bare name⟩

namespace IsSpelling

variable {name text : String}

/-- All spellings of a name have one bare name. -/
theorem bare_eq (h : IsSpelling name text) : bare text = bare name := by
  induction h with
  | self => rfl
  | blanks _ hbefore hafter ih =>
    rw [← ih, bare, String.toList_append, String.toList_append, bareList_append_blank hafter,
      bareList_append_of_blank hbefore, bare]
  | mark _ ih =>
    rw [← ih, bare, String.toList_append, show "[]".toList = ['[', ']'] from rfl,
      bareList_append_mark, bare]

/-- What is taken off a reversed name spells what is left of it. -/
theorem ofList_bareReversed (cs : List Char) :
    IsSpelling (String.ofList (bareReversed cs).reverse) (String.ofList cs.reverse) := by
  fun_induction bareReversed cs with
  | case1 rest ih =>
    have hmark : String.ofList (']' :: '[' :: rest).reverse =
        String.ofList rest.reverse ++ "[]" := by
      simp
    rw [hmark]
    exact ih.mark
  | case2 c rest _ hc ih =>
    have hblank : String.ofList (c :: rest).reverse =
        "" ++ String.ofList rest.reverse ++ String.ofList [c] := by
      simp
    rw [hblank]
    exact ih.blanks (by simp) (by simpa using hc)
  | case3 => exact .self
  | case4 => exact .self

/-- Every name is a spelling of its bare name. -/
theorem of_bare (text : String) : IsSpelling (bare text) text := by
  have hback : IsSpelling (bare text) (String.ofList (Text.trimStart text.toList)) := by
    have h := ofList_bareReversed (Text.trimStart text.toList).reverse
    rwa [List.reverse_reverse, ← bareList] at h
  have hfront : text = String.ofList (text.toList.takeWhile Text.isBlank) ++
      String.ofList (Text.trimStart text.toList) ++ "" := by
    simp [← String.toList_inj, Text.trimStart]
  have hblank : ∀ c ∈ (String.ofList (text.toList.takeWhile Text.isBlank)).toList,
      Text.isBlank c = true := by
    intro c hc
    rw [String.toList_ofList] at hc
    exact List.mem_takeWhile_imp hc
  have h := hback.blanks hblank (show ∀ c ∈ "".toList, Text.isBlank c = true by simp)
  rwa [← hfront] at h

end IsSpelling

theorem toList_toLower (x : String) : x.toLower.toList = x.toList.map Char.toLower := by
  unfold String.toLower
  exact String.toList_map

/-- A name in other letters is looked up under the same key, whatever stands around it. -/
theorem lookupKey_bare_congr {x y : String} (h : x.toLower = y.toLower) :
    lookupKey (bare x) = lookupKey (bare y) := by
  have hletters : x.toList.map Text.lowerLatin = y.toList.map Text.lowerLatin := by
    rw [Text.lowerLatin_eq_toLower, ← toList_toLower, ← toList_toLower, h]
  have hlowered : Text.lowered (bare x) = Text.lowered (bare y) := by
    simp only [Text.lowered, toList_bare, ← bareList_map_lowerLatin, hletters]
  rw [lookupKey, hlowered, lookupKey]

end TypeName

namespace SourceType

variable {x y name : String} {type : KnownType}

/-- A name is read by its bare name alone. -/
theorem ofName_congr (h : TypeName.bare x = TypeName.bare y) : ofName x = ofName y := by
  unfold ofName
  rw [h]

theorem ofName_eq_known_iff :
    ofName x = .known type ↔
      KnownType.names.lookup (TypeName.lookupKey (TypeName.bare x)) = some type := by
  unfold ofName
  split <;> simp [*]

theorem bare_of_other (h : ofName x = .other name) : TypeName.bare x = name := by
  unfold ofName at h
  split at h
  · exact SourceType.noConfusion h
  · exact SourceType.other.inj h

/-- A name that is kept is kept as it is. -/
theorem ofName_of_other (h : ofName x = .other name) : ofName name = .other name := by
  have hbare : TypeName.bare name = TypeName.bare x := by rw [← bare_of_other h, TypeName.bare_bare]
  rw [ofName_congr hbare, h]

end SourceType

namespace TypeMapping

variable {x name : String} {type : KnownType}

theorem target_of_known (h : SourceType.ofName x = .known type) :
    (ofName x).target = type.targetName := by
  unfold ofName
  rw [h]

theorem target_of_other (h : SourceType.ofName x = .other name) : (ofName x).target = name := by
  unfold ofName
  rw [h]

/-- A name of the target is its own name in the target. -/
theorem target_ofName_targetName (type : KnownType) :
    (ofName type.targetName).target = type.targetName := by
  cases type <;> decide +kernel

/-- What a name becomes in the target is settled. -/
theorem target_ofName_target (x : String) :
    (ofName (ofName x).target).target = (ofName x).target := by
  cases h : SourceType.ofName x with
  | known type => simp only [target_of_known h, target_ofName_targetName]
  | other name => simp only [target_of_other h, target_of_other (SourceType.ofName_of_other h)]

end TypeMapping

/-- What a name is read as depends neither on what stands around it nor on the case of its letters,
and a name that is not known is kept bare, in its own case. -/
theorem ofName_spelling (x : String) :
    (∀ y, TypeName.IsSpelling x y → SourceType.ofName y = SourceType.ofName x) ∧
      (∀ c : Column, c.sourceType = x →
        SourceType.ofName c.elementType = SourceType.ofName x) ∧
      (∀ type, SourceType.ofName x = .known type →
        ∀ y, y.toLower = x.toLower → SourceType.ofName y = .known type) ∧
      (∀ name, SourceType.ofName x = .other name →
        TypeName.IsSpelling name x ∧ TypeName.IsBare name ∧
          SourceType.ofName name = .other name) ∧
      (TypeMapping.ofName (TypeMapping.ofName x).target).target =
        (TypeMapping.ofName x).target := by
  refine ⟨fun y hy => SourceType.ofName_congr hy.bare_eq, ?_, ?_, ?_,
    TypeMapping.target_ofName_target x⟩
  · rintro c rfl
    exact SourceType.ofName_congr (TypeName.bare_bare c.sourceType)
  · intro type hx y hy
    rw [SourceType.ofName_eq_known_iff] at hx ⊢
    rw [TypeName.lookupKey_bare_congr hy, hx]
  · intro name hx
    have hbare := SourceType.bare_of_other hx
    refine ⟨?_, ?_, SourceType.ofName_of_other hx⟩
    · rw [← hbare]
      exact .of_bare x
    · rw [← hbare]
      exact TypeName.isBare_bare x

/-- A time with a precision is known with blanks and a mark around it and in capital letters; a name
that is not known keeps its capital. -/
theorem ofName_spelling_time :
    SourceType.ofName " time(3) []" = .known .time ∧
      SourceType.ofName "TIME(3)" = .known .time ∧
      TypeName.IsSpelling "Citext" "Citext []" ∧ SourceType.ofName "Citext" = .other "Citext" := by
  have hknown : SourceType.ofName "time(3)" = .known .time := by decide +kernel
  have hother : SourceType.ofName "Citext []" = .other "Citext" := by decide +kernel
  have hspelling : TypeName.IsSpelling "time(3)" (" " ++ "time(3)" ++ " " ++ "[]") := by
    refine .mark (.blanks .self ?_ ?_) <;> simp [Text.isBlank]
  have htext : " " ++ "time(3)" ++ " " ++ "[]" = " time(3) []" := by decide +kernel
  have hletters : "TIME(3)".toLower = "time(3)".toLower := by
    simp [TypeName.toList_toLower, ← String.toList_inj]
  obtain ⟨hspelled, _, hcase, _, _⟩ := ofName_spelling "time(3)"
  obtain ⟨_, _, _, hkept, _⟩ := ofName_spelling "Citext []"
  obtain ⟨hcitext, _, hagain⟩ := hkept _ hother
  exact ⟨htext ▸ (hspelled _ hspelling).trans hknown, hcase _ hknown _ hletters, hcitext, hagain⟩

end SchemaTransfer
