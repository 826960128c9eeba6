import Mathlib.Data.List.Infix
import Mathlib.Data.List.TakeWhile
import UiSchema.Json.Block
import UiSchema.Proofs.Text.Blank

/-! Fences: where a fence begins, what is passed over before its body, and where the body ends. It
ends in front of the next three backticks, whatever they are part of. -/

set_option autoImplicit false

namespace UiSchema.Json.Block

def ticks : List Char := ['\x60', '\x60', '\x60']

/-- Three backticks stand somewhere in the text. -/
def HasTicks (cs : List Char) : Prop := ticks <:+: cs

instance : DecidablePred HasTicks := fun cs => inferInstanceAs (Decidable (ticks <:+: cs))

theorem untilTicks_cons (c : Char) (rest : List Char) :
    untilTicks (c :: rest) =
      if ticks <+: c :: rest then some [] else (untilTicks rest).map (c :: ·) := by
  by_cases here : ticks <+: c :: rest
  · rw [if_pos here]
    obtain ⟨more, same⟩ := here
    cases same
    rfl
  · rw [if_neg here, untilTicks]
    rintro more rfl rfl
    exact here ⟨more, rfl⟩

/-- The body of a fence is followed by ticks. -/
theorem untilTicks_eq_some {cs body : List Char} (found : untilTicks cs = some body) :
    ∃ more, cs = body ++ (ticks ++ more) := by
  induction cs generalizing body with
  | nil => cases found
  | cons c rest ih =>
    rw [untilTicks_cons] at found
    split at found
    · rename_i here
      obtain ⟨more, same⟩ := here
      cases found
      exact ⟨more, same.symm⟩
    · obtain ⟨inner, further, rfl⟩ := Option.map_eq_some_iff.1 found
      obtain ⟨more, rfl⟩ := ih further
      exact ⟨more, rfl⟩

theorem isPrefix_of_isPrefix_newline {cs rest : List Char} (here : ticks <+: cs ++ '\n' :: rest) :
    ticks <+: cs := by
  rcases Nat.lt_or_ge cs.length ticks.length with short | long
  · have line : cs ++ ['\n'] <+: cs ++ '\n' :: rest := ⟨rest, by simp⟩
    have inTicks : cs ++ ['\n'] <+: ticks :=
      List.prefix_of_prefix_length_le line here (by rw [List.length_append]; exact short)
    exact absurd (inTicks.subset (by simp)) (by decide : '\n' ∉ ticks)
  · exact List.prefix_of_prefix_length_le here (List.prefix_append _ _) long

/-- A body without ticks is read up to the end of its last line. -/
theorem untilTicks_line {cs : List Char} (none : ¬ HasTicks cs) (rest : List Char) :
    untilTicks (cs ++ '\n' :: (ticks ++ rest)) = some (cs ++ ['\n']) := by
  induction cs with
  | nil =>
    have here : ticks <+: ticks ++ rest := List.prefix_append _ _
    have first : untilTicks (ticks ++ rest) = some [] := by
      show untilTicks ('\x60' :: '\x60' :: '\x60' :: rest) = _
      rw [untilTicks_cons]
      exact if_pos here
    have other : ¬ ticks <+: '\n' :: (ticks ++ rest) := fun ⟨_, same⟩ => by cases same
    rw [List.nil_append, untilTicks_cons, if_neg other, first]
    rfl
  | cons c cs ih =>
    have noneHere : ¬ ticks <+: c :: cs ++ '\n' :: (ticks ++ rest) := fun here =>
      none (isPrefix_of_isPrefix_newline here).isInfix
    have noneAfter : ¬ HasTicks cs := fun later => none (later.trans (List.suffix_cons _ _).isInfix)
    rw [List.cons_append] at noneHere ⊢
    rw [untilTicks_cons, if_neg noneHere, ih noneAfter]
    rfl

/-- A body with ticks is cut there. -/
theorem untilTicks_cut {cs : List Char} (some : HasTicks cs) (rest : List Char) :
    ∃ body more, untilTicks (cs ++ rest) = .some body ∧ cs = body ++ (ticks ++ more) := by
  induction cs with
  | nil => exact absurd some (by simp [HasTicks, ticks])
  | cons c cs ih =>
    by_cases here : ticks <+: c :: (cs ++ rest)
    · have short : ticks <+: c :: cs :=
        List.prefix_of_prefix_length_le here ⟨rest, rfl⟩ some.length_le
      obtain ⟨more, same⟩ := short
      refine ⟨[], more, ?_, same.symm⟩
      rw [List.cons_append, untilTicks_cons, if_pos here]
    · have later : HasTicks cs := by
        rcases List.infix_cons_iff.1 some with first | later
        · exact absurd (first.trans ⟨rest, rfl⟩) here
        · exact later
      obtain ⟨body, more, found, rfl⟩ := ih later
      refine ⟨c :: body, more, ?_, rfl⟩
      rw [List.cons_append, untilTicks_cons, if_neg here, found]
      rfl

/-- Some characters are passed over, none of them a quote or a backslash. -/
def PassedOver (cs rest : List Char) : Prop :=
  ∃ front, cs = front ++ rest ∧ ∀ c ∈ front, c ≠ '"' ∧ c ≠ '\\'

theorem PassedOver.trans {first second third : List Char} (before : PassedOver first second)
    (after : PassedOver second third) : PassedOver first third := by
  obtain ⟨front, rfl, plain⟩ := before
  obtain ⟨back, rfl, plain'⟩ := after
  exact ⟨front ++ back, (List.append_assoc ..).symm, List.forall_mem_append.2 ⟨plain, plain'⟩⟩

theorem passedOver_dropWhile {drop : Char → Bool} (quote : drop '"' = false)
    (backslash : drop '\\' = false) (cs : List Char) : PassedOver cs (cs.dropWhile drop) := by
  refine ⟨cs.takeWhile drop, (List.takeWhile_append_dropWhile ..).symm, fun c member => ?_⟩
  have dropped := List.mem_takeWhile_imp member
  constructor <;> rintro rfl
  · exact absurd dropped (by simp [quote])
  · exact absurd dropped (by simp [backslash])

theorem passedOver_dropOne {c : Char} (plain : c ≠ '"' ∧ c ≠ '\\') (cs : List Char) :
    PassedOver cs (dropOne c cs) := by
  cases cs with
  | nil => exact ⟨[], rfl, nofun⟩
  | cons head rest =>
    rw [dropOne]
    split
    · subst head
      exact ⟨[c], rfl, by simpa using plain⟩
    · exact ⟨[], rfl, nofun⟩

/-- A fence is three ticks, a line without quotes, the body and three ticks again. -/
theorem fence?_eq_some {cs : List Char} {fence : Fence} (found : fence? cs = some fence) :
    ∃ line rest more, cs = ticks ++ line ∧ PassedOver line rest ∧
      rest = fence.body ++ (ticks ++ more) ∧
      fence.length =
        ticks.length + (line.length - rest.length) + fence.body.length + ticks.length := by
  unfold fence? at found
  split at found
  · rename_i line
    obtain ⟨body, read, rfl⟩ := Option.map_eq_some_iff.1 found
    obtain ⟨more, same⟩ := untilTicks_eq_some read
    refine ⟨line, _, more, rfl, ?_, same, rfl⟩
    have language : PassedOver line (line.dropWhile isLanguageChar) :=
      passedOver_dropWhile (by decide) (by decide) line
    exact language.trans ((passedOver_dropWhile (by decide) (by decide) _).trans
      ((passedOver_dropOne (by decide) _).trans (passedOver_dropOne (by decide) _)))
  · cases found

theorem fence?_eq_none {c : Char} (other : c ≠ '\x60') (rest : List Char) :
    fence? (c :: rest) = none := by
  unfold fence?
  split
  · rename_i same
    cases same
    exact absurd rfl other
  · rfl

theorem fencedFrom_prose {prose : List Char} (noTick : '\x60' ∉ prose) (position : Nat)
    (rest : List Char) :
    fencedFrom position 0 (prose ++ rest) = fencedFrom (position + prose.length) 0 rest := by
  induction prose generalizing position with
  | nil => rfl
  | cons c prose ih =>
    obtain ⟨other, noTick⟩ := not_or.1 (List.mem_cons.not.1 noTick)
    rw [List.cons_append, fencedFrom, fence?_eq_none (Ne.symm other)]
    show fencedFrom (position + 1) 0 (prose ++ rest) = _
    rw [ih noTick, List.length_cons]
    congr 1
    omega

theorem fencedFrom_skip (position more : Nat) (skipped rest : List Char) :
    fencedFrom position (skipped.length + more) (skipped ++ rest) =
      fencedFrom (position + skipped.length) more rest := by
  induction skipped generalizing position with
  | nil => simp
  | cons c skipped ih =>
    have count : (c :: skipped).length + more = skipped.length + more + 1 := by
      rw [List.length_cons]
      omega
    rw [List.cons_append, count, fencedFrom, ih, List.length_cons]
    congr 1
    omega

/-- Without three backticks there is no fence. -/
theorem fencedFrom_eq_nil {cs : List Char} (noTicks : ¬ HasTicks cs) (position : Nat) :
    fencedFrom position 0 cs = [] := by
  induction cs generalizing position with
  | nil => rfl
  | cons c cs ih =>
    have noFence : fence? (c :: cs) = none := by
      refine Option.eq_none_iff_forall_not_mem.2 fun fence found => ?_
      obtain ⟨line, _, _, same, _⟩ := fence?_eq_some found
      exact noTicks ⟨[], line, same.symm⟩
    rw [fencedFrom, noFence]
    exact ih (fun later => noTicks (later.trans (List.suffix_cons ..).isInfix)) _

/-- The opening line of a fence that names the format. -/
def opening : List Char := "\x60\x60\x60json\n".toList

theorem fence?_opening (rest : List Char) :
    fence? (opening ++ rest) = (untilTicks rest).map fun body =>
      { language := "json".toList, body, length := body.length + 11 } := by
  have letters : ∀ c ∈ "json".toList, isLanguageChar c = true := List.all_eq_true.1 (by decide)
  have line : isLanguageChar '\n' = false := by decide
  have language : ("json".toList ++ '\n' :: rest).takeWhile isLanguageChar = "json".toList := by
    rw [List.takeWhile_append_of_pos letters, List.takeWhile_cons_of_neg (by simp [line])]
    exact List.append_nil _
  have dropped : ("json".toList ++ '\n' :: rest).dropWhile isLanguageChar = '\n' :: rest := by
    rw [List.dropWhile_append_of_pos letters, List.dropWhile_cons_of_neg (by simp [line])]
  have passed : dropOne '\n' (dropOne '\r'
      (('\n' :: rest).dropWhile fun c => c == ' ' || c == '\t')) = rest := rfl
  show fence? ('\x60' :: '\x60' :: '\x60' :: ("json".toList ++ '\n' :: rest)) = _
  simp only [fence?, language, dropped, passed]
  congr 1
  funext body
  have length : ("json".toList ++ '\n' :: rest).length - rest.length = 5 := by
    simp only [List.length_append, List.length_cons]
    have : "json".toList.length = 4 := by decide
    omega
  rw [length]
  congr 1
  omega

/-- The block of a fence that names the format. -/
def named (start : Nat) (body : List Char) : Block where
  content := String.ofList (Text.trimChars body)
  kind := .named
  start
  stop := start + (body.length + 11)

/-- The first fence of a text that begins with prose is the one that names the format. -/
theorem fenced_opening {prose rest body : List Char} (noTick : '\x60' ∉ prose)
    (found : untilTicks rest = some body) (visible : Text.trimChars body ≠ []) :
    fenced (prose ++ (opening ++ rest)) = named prose.length body ::
      fencedFrom (prose.length + opening.length) (body.length + 3) rest := by
  have json : Text.lower "json" = "json" := by decide
  have block : ofFence? prose.length
      { language := "json".toList, body, length := body.length + 11 } =
        some (named prose.length body) := by
    simp [ofFence?, List.isEmpty_iff, visible, json, named]
  have fence : fence? (opening ++ rest) = some
      { language := "json".toList, body, length := body.length + 11 } := by
    rw [fence?_opening, found]
    rfl
  have after : body.length + 11 - 1 = opening.tail.length + (body.length + 3) := by
    have : opening.tail.length = 7 := by decide
    omega
  rw [fenced, fencedFrom_prose noTick, Nat.zero_add]
  -- the first backtick opens the fence, and the rest of it is skipped up to the ticks that close it
  show fencedFrom prose.length 0 ('\x60' :: (opening.tail ++ rest)) = _
  have head : fence? ('\x60' :: (opening.tail ++ rest)) = fence? (opening ++ rest) := rfl
  rw [fencedFrom, head, fence]
  dsimp only
  rw [block, after, fencedFrom_skip]
  have start : prose.length + 1 + opening.tail.length = prose.length + opening.length := by
    have : opening.tail.length + 1 = opening.length := by decide
    omega
  rw [start]
  rfl

end UiSchema.Json.Block
