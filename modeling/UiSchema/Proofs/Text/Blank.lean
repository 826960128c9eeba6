import Mathlib.Data.List.TakeWhile
import UiSchema.Text.Blank

/-! Texts with something to see in them, the effect of cutting white space twice, and texts that are
put together with a mark in between. -/

set_option autoImplicit false

namespace UiSchema.Text

/-- A character of the text is not white space. -/
def Visible (text : String) : Prop := ∃ c ∈ text.toList, isBlank c = false

theorem isBlankText_eq_false_iff (text : String) : isBlankText text = false ↔ Visible text := by
  simp [isBlankText, Visible, List.all_eq_false]

theorem Visible.ne_empty {text : String} (visible : Visible text) : text ≠ "" := by
  rintro rfl
  obtain ⟨c, member, _⟩ := visible
  simp at member

theorem notMem_of_isBlankText {blanks : String} (blank : isBlankText blanks = true) {c : Char}
    (visible : isBlank c = false) : c ∉ blanks.toList := by
  intro member
  cases visible.symm.trans (List.all_eq_true.1 blank c member)

theorem isBlankText_ofList {cs : List Char} (blank : ∀ c ∈ cs, isBlank c = true) :
    isBlankText (String.ofList cs) = true := by
  rw [isBlankText, String.toList_ofList]
  exact List.all_eq_true.2 blank

theorem trimEnd_trimEnd (drop : Char → Bool) (cs : List Char) :
    trimEnd drop (trimEnd drop cs) = trimEnd drop cs := by
  induction cs with
  | nil => rfl
  | cons c rest ih =>
    rw [trimEnd]
    cases kept : trimEnd drop rest with
    | nil => by_cases dropped : drop c = true <;> simp [dropped, trimEnd]
    | cons d ds =>
      rw [kept] at ih
      simp only [trimEnd.eq_2 drop c (d :: ds), ih]

/-- What stands in front of the first kept character stays away, however much is cut at the
end. -/
theorem dropWhile_trimEnd (drop : Char → Bool) (cs : List Char) :
    (trimEnd drop (cs.dropWhile drop)).dropWhile drop = trimEnd drop (cs.dropWhile drop) := by
  cases kept : trimEnd drop (cs.dropWhile drop) with
  | nil => rfl
  | cons c rest =>
    obtain ⟨cut, whole⟩ := kept ▸ trimEnd_isPrefix drop (cs.dropWhile drop)
    have first : (cs.dropWhile drop).head? = some c := by rw [← whole]; rfl
    have stays : ¬ drop c = true := by
      have := List.head?_dropWhile_not drop cs
      rw [first] at this
      simpa using this
    rw [List.dropWhile_cons_of_neg stays]

theorem trimChars_trimChars (cs : List Char) : trimChars (trimChars cs) = trimChars cs := by
  simp only [trimChars, trimWhere, dropWhile_trimEnd, trimEnd_trimEnd]

theorem trimEnd_concat {drop : Char → Bool} {last : Char} (kept : drop last = false)
    (cs : List Char) : trimEnd drop (cs ++ [last]) = cs ++ [last] := by
  induction cs with
  | nil => simp [trimEnd, kept]
  | cons c rest ih =>
    rw [List.cons_append, trimEnd, ih]
    cases rest <;> rfl

/-- Nothing is cut between two characters that are not white space. -/
theorem trimChars_between {first last : Char} (firstKept : isBlank first = false)
    (lastKept : isBlank last = false) (cs : List Char) :
    trimChars (first :: (cs ++ [last])) = first :: (cs ++ [last]) := by
  rw [trimChars, trimWhere, List.dropWhile_cons_of_neg (by simp [firstKept])]
  exact trimEnd_concat lastKept (first :: cs)

theorem trimEnd_append_dropped {drop : Char → Bool} {cut : List Char}
    (dropped : ∀ c ∈ cut, drop c = true) (cs : List Char) :
    trimEnd drop (cs ++ cut) = trimEnd drop cs := by
  induction cs with
  | nil => exact (trimEnd_eq_nil_iff drop cut).2 dropped
  | cons c rest ih => rw [List.cons_append, trimEnd, trimEnd, ih]

/-- White space at the end of a text is cut anyway. -/
theorem trimChars_append_blanks {blanks : List Char} (blank : ∀ c ∈ blanks, isBlank c = true)
    (cs : List Char) : trimChars (cs ++ blanks) = trimChars cs := by
  rw [trimChars, trimChars, trimWhere, trimWhere, List.dropWhile_append]
  split
  · rename_i nothing
    rw [List.isEmpty_iff.1 nothing, List.dropWhile_eq_nil_iff.2 blank]
  · exact trimEnd_append_dropped blank _

theorem trimChars_append_blank {last : Char} (blank : isBlank last = true) (cs : List Char) :
    trimChars (cs ++ [last]) = trimChars cs :=
  trimChars_append_blanks (List.forall_mem_singleton.2 blank) cs

theorem trimChars_blanks_append {blanks : List Char} (blank : ∀ c ∈ blanks, isBlank c = true)
    (cs : List Char) : trimChars (blanks ++ cs) = trimChars cs := by
  rw [trimChars, trimWhere, List.dropWhile_append_of_pos blank]
  rfl

theorem trimEnd_split (drop : Char → Bool) (cs : List Char) :
    ∃ trail, cs = trimEnd drop cs ++ trail ∧ ∀ c ∈ trail, drop c = true := by
  induction cs with
  | nil => exact ⟨[], rfl, nofun⟩
  | cons c rest ih =>
    rw [trimEnd]
    cases kept : trimEnd drop rest with
    | cons d ds =>
      obtain ⟨trail, same, dropped⟩ := ih
      exact ⟨trail, congrArg (c :: ·) (kept ▸ same), dropped⟩
    | nil =>
      have after := (trimEnd_eq_nil_iff drop rest).1 kept
      by_cases here : drop c = true
      · exact ⟨c :: rest, by simp [here], List.forall_mem_cons.2 ⟨here, after⟩⟩
      · exact ⟨rest, by simp [here], after⟩

/-- A text is what is left of it between white space. -/
theorem trimChars_split (cs : List Char) :
    ∃ lead trail, cs = lead ++ (trimChars cs ++ trail) ∧ (∀ c ∈ lead, isBlank c = true) ∧
      ∀ c ∈ trail, isBlank c = true := by
  obtain ⟨trail, same, dropped⟩ := trimEnd_split isBlank (cs.dropWhile isBlank)
  refine ⟨cs.takeWhile isBlank, trail, ?_, List.all_eq_true.1 List.all_takeWhile, dropped⟩
  have whole : trimChars cs ++ trail = cs.dropWhile isBlank := same.symm
  rw [whole, List.takeWhile_append_dropWhile]

theorem trimChars_eq_self {cs : List Char} (visible : ∀ c ∈ cs, isBlank c = false) :
    trimChars cs = cs := by
  obtain ⟨lead, trail, whole, before, after⟩ := trimChars_split cs
  have none {blanks : List Char} (blank : ∀ c ∈ blanks, isBlank c = true) (part : blanks ⊆ cs) :
      blanks = [] :=
    List.eq_nil_iff_forall_not_mem.2 fun c member =>
      absurd (blank c member) (by rw [visible c (part member)]; decide)
  have nothingBefore := none before fun c member => by rw [whole]; simp [member]
  have nothingAfter := none after fun c member => by rw [whole]; simp [member]
  rw [nothingBefore, nothingAfter, List.nil_append, List.append_nil] at whole
  exact whole.symm

theorem toList_trim (text : String) : (trim text).toList = trimChars text.toList := by
  simp [trim]

/-- What stands before and after the last mark is determined by the whole. -/
theorem split_last {α : Type} {mark : α} {a a' b b' : List α} (left : mark ∉ b) (right : mark ∉ b')
    (same : a ++ mark :: b = a' ++ mark :: b') : a = a' ∧ b = b' := by
  rcases List.append_eq_append_iff.1 same with ⟨c, longer, rest⟩ | ⟨c, longer, rest⟩
  · cases c with
    | nil =>
      rw [List.append_nil] at longer
      exact ⟨longer.symm, (List.cons.inj rest).2⟩
    | cons x c => exact absurd (by simp [(List.cons.inj rest).2]) left
  · cases c with
    | nil =>
      rw [List.append_nil] at longer
      exact ⟨longer, (List.cons.inj rest).2.symm⟩
    | cons x c => exact absurd (by simp [(List.cons.inj rest).2]) right

end UiSchema.Text
