/-!
# Blank characters and trimming

A character is blank when it has the Unicode property `White_Space`; trimming removes blanks
at the ends of a text and nowhere else. Main statements: what is left after trimming the start does
not begin with a blank, and trimming an end twice is trimming it once.
-/

namespace SchemaTransfer.Text

/-- The code points with the property `White_Space`. -/
def isBlank (c : Char) : Bool :=
  let n := c.toNat
  (9 ≤ n && n ≤ 13) || n == 0x20 || n == 0x85 || n == 0xA0 || n == 0x1680 ||
    (0x2000 ≤ n && n ≤ 0x200A) || n == 0x2028 || n == 0x2029 || n == 0x202F ||
    n == 0x205F || n == 0x3000

/-- Removes the blanks at the start. -/
def trimStart (cs : List Char) : List Char := cs.dropWhile isBlank

/-- Removes the blanks at the end. -/
def trimEnd (cs : List Char) : List Char := (cs.reverse.dropWhile isBlank).reverse

/-- Removes the blanks at both ends. -/
def trimList (cs : List Char) : List Char := trimEnd (trimStart cs)

/-- A text without the blanks at its ends. -/
def trim (s : String) : String := String.ofList (trimList s.toList)

@[simp] theorem trimEnd_nil : trimEnd [] = [] := rfl

/-- What trimming the start leaves begins with no blank. -/
theorem isBlank_head_trimStart {cs rest : List Char} {c : Char} (h : trimStart cs = c :: rest) :
    isBlank c = false := by
  induction cs with
  | nil => simp [trimStart] at h
  | cons d ds ih =>
    by_cases hd : isBlank d = true
    · exact ih (by simpa [trimStart, hd] using h)
    · have he : d = c ∧ ds = rest := by simpa [trimStart, hd] using h
      simpa [he.1] using hd

/-- A text that begins with no blank has nothing to trim at its start. -/
theorem trimStart_eq_self {cs : List Char} (h : ∀ c rest, cs = c :: rest → isBlank c = false) :
    trimStart cs = cs := by
  cases cs with
  | nil => rfl
  | cons c rest => simp [trimStart, h c rest rfl]

theorem trimStart_trimStart (cs : List Char) : trimStart (trimStart cs) = trimStart cs :=
  trimStart_eq_self fun _ _ h => isBlank_head_trimStart h

theorem trimEnd_trimEnd (cs : List Char) : trimEnd (trimEnd cs) = trimEnd cs := by
  have h := trimStart_trimStart cs.reverse
  simp only [trimStart] at h
  simp [trimEnd, h]

end SchemaTransfer.Text
