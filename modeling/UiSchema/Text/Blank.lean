import UiSchema.Text.Ranges

/-! White space of every script, and texts cut to what stands between white space. -/

set_option autoImplicit false

namespace UiSchema.Text

/-- Tabs and line ends, the four separators below the space, and all spaces of the other blocks.
The zero-width space and the byte order mark are not among them. -/
def blankRanges : Ranges :=
  [(9, 13), (28, 32), (133, 133), (160, 160), (5760, 5760), (8192, 8202), (8232, 8233),
   (8239, 8239), (8287, 8287), (12288, 12288)]

def isBlank (c : Char) : Bool := blankRanges.holds c.toNat

/-- White space as the Unicode property has it, without the four separators below the space. -/
def isWhiteSpace (c : Char) : Bool := isBlank c && !decide (28 ≤ c.toNat ∧ c.toNat ≤ 31)

/-- Without the characters at the end that satisfy the condition. -/
def trimEnd (drop : Char → Bool) : List Char → List Char
  | [] => []
  | c :: rest =>
    match trimEnd drop rest with
    | [] => if drop c then [] else [c]
    | kept => c :: kept

def trimWhere (drop : Char → Bool) (cs : List Char) : List Char := trimEnd drop (cs.dropWhile drop)

def trimChars (cs : List Char) : List Char := trimWhere isBlank cs

def trim (s : String) : String := String.ofList (trimChars s.toList)

/-- Nothing but white space, or nothing at all. -/
def isBlankText (s : String) : Bool := s.toList.all isBlank

theorem trimEnd_eq_nil_iff (drop : Char → Bool) (cs : List Char) :
    trimEnd drop cs = [] ↔ ∀ c ∈ cs, drop c = true := by
  induction cs with
  | nil => simp [trimEnd]
  | cons c rest ih =>
    rw [trimEnd]
    cases kept : trimEnd drop rest with
    | nil =>
      have dropped := ih.1 kept
      by_cases h : drop c = true <;> simp_all
    | cons d ds =>
      have : ¬ ∀ c ∈ rest, drop c = true := fun dropped => by simp [ih.2 dropped] at kept
      simp only [reduceCtorEq, List.mem_cons, forall_eq_or_imp, false_iff, not_and]
      exact fun _ => this

theorem trimEnd_isPrefix (drop : Char → Bool) (cs : List Char) : trimEnd drop cs <+: cs := by
  induction cs with
  | nil => exact List.prefix_refl _
  | cons c rest ih =>
    rw [trimEnd]
    cases kept : trimEnd drop rest with
    | nil => by_cases dropped : drop c = true <;> simp [dropped]
    | cons d ds => exact List.cons_prefix_cons.2 ⟨rfl, kept ▸ ih⟩

end UiSchema.Text
