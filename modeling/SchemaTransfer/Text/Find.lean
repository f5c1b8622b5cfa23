/-!
# Finding a piece of a text

Cutting a text at the first place where a given piece starts, and taking a given ending off.
Main statements: the parts and the piece make up the text again.
-/

namespace SchemaTransfer.Text

/-- The rest of a text after a given beginning. -/
def afterBeginning? : List Char → List Char → Option (List Char)
  | [], cs => some cs
  | _ :: _, [] => none
  | p :: ps, c :: cs => if p = c then afterBeginning? ps cs else none

theorem afterBeginning?_eq_some_iff {p cs rest : List Char} :
    afterBeginning? p cs = some rest ↔ cs = p ++ rest := by
  fun_induction afterBeginning? p cs with
  | case1 cs => simp
  | case2 => simp
  | case3 p ps cs ih => simpa using ih
  | case4 p ps c cs h => simp [Ne.symm h]

/-- The part of a text before a given ending. -/
def beforeEnding? (ending cs : List Char) : Option (List Char) :=
  (afterBeginning? ending.reverse cs.reverse).map List.reverse

theorem beforeEnding?_eq_some_iff {ending cs front : List Char} :
    beforeEnding? ending cs = some front ↔ cs = front ++ ending := by
  simp only [beforeEnding?, Option.map_eq_some_iff, afterBeginning?_eq_some_iff]
  constructor
  · rintro ⟨rest, h, rfl⟩
    have := congrArg List.reverse h
    simpa using this
  · rintro rfl
    exact ⟨front.reverse, by simp, by simp⟩

/-- The parts before and after the first place where a piece starts. -/
def cutAt? (piece : List Char) : List Char → Option (List Char × List Char)
  | [] => (afterBeginning? piece []).map fun rest => ([], rest)
  | c :: cs =>
    match afterBeginning? piece (c :: cs) with
    | some rest => some ([], rest)
    | none => (cutAt? piece cs).map fun parts => (c :: parts.1, parts.2)

/-- Nothing is lost by a cut. -/
theorem eq_of_cutAt? {piece cs before after : List Char}
    (h : cutAt? piece cs = some (before, after)) : cs = before ++ piece ++ after := by
  induction cs generalizing before with
  | nil =>
    obtain ⟨rest, hr, he⟩ := Option.map_eq_some_iff.mp h
    rw [afterBeginning?_eq_some_iff] at hr
    simp only [Prod.mk.injEq] at he
    simp [← he.1, ← he.2, hr]
  | cons c cs ih =>
    simp only [cutAt?] at h
    split at h
    · rename_i rest hr
      rw [afterBeginning?_eq_some_iff] at hr
      simp only [Option.some.injEq, Prod.mk.injEq] at h
      rw [hr, ← h.1, ← h.2]
      simp
    · obtain ⟨parts, hp, he⟩ := Option.map_eq_some_iff.mp h
      simp only [Prod.mk.injEq] at he
      have := ih (show cutAt? piece cs = some (parts.1, after) by rw [hp, ← he.2])
      rw [← he.1, this]
      simp

/-- Whether a text begins with a piece. -/
def beginsWith (piece : List Char) (s : String) : Bool := (afterBeginning? piece s.toList).isSome

/-- Whether a text ends with a piece. -/
def endsWith (piece : List Char) (s : String) : Bool := (beforeEnding? piece s.toList).isSome

/-- A letter of the Latin alphabet in lower case; every other character as it is. -/
def lowerLatin (c : Char) : Char :=
  if 'A' ≤ c ∧ c ≤ 'Z' then Char.ofNat (c.toNat + 32) else c

/-- A text with its Latin capitals in lower case. -/
def lowered (s : String) : String := String.ofList (s.toList.map lowerLatin)

/-- Texts joined with a separator between each two. -/
def joined (separator : List Char) : List (List Char) → List Char
  | [] => []
  | [x] => x
  | x :: y :: rest => x ++ separator ++ joined separator (y :: rest)

end SchemaTransfer.Text
