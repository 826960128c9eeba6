import UiSchema.Proofs.Binding.Shown
import UiSchema.Proofs.Text.Blank

/-! Single bindings: a text that is one binding between white space leads where its path leads,
whether it is resolved, shown or taken for a condition. -/

set_option autoImplicit false

namespace UiSchema.Binding

/-- The text is one binding, with white space on its two sides. -/
structure IsSingle (text lead body trail : String) : Prop where
  whole : text = lead ++ braced body ++ trail
  isBody : IsBody body.toList
  leadBlank : Text.isBlankText lead = true
  trailBlank : Text.isBlankText trail = true

theorem not_isBlank_brace : Text.isBlank '\x7b' = false ∧ Text.isBlank '\x7d' = false := by
  decide

theorem trimChars_binding (body : List Char) :
    Text.trimChars (Piece.binding body).chars = (Piece.binding body).chars := by
  have ends : (Piece.binding body).chars =
      '\x7b' :: ('\x7b' :: (body ++ ['\x7d']) ++ ['\x7d']) := by
    simp [Piece.chars, openMark, closeMark]
  rw [ends]
  exact Text.trimChars_between not_isBlank_brace.1 not_isBlank_brace.2 _

variable {text lead body trail : String} {data : Json}

namespace IsSingle

theorem trimChars_eq (single : IsSingle text lead body trail) :
    Text.trimChars text.toList = (Piece.binding body.toList).chars := by
  rw [single.whole, String.toList_append, String.toList_append, toList_braced,
    Text.trimChars_append_blanks (List.all_eq_true.1 single.trailBlank),
    Text.trimChars_blanks_append (List.all_eq_true.1 single.leadBlank), trimChars_binding]

theorem single?_eq (single : IsSingle text lead body trail) : single? text = some body := by
  have ends : body? (body.toList ++ closeMark) = some body.toList :=
    body?_eq_some.2 ⟨single.isBody, [], by simp⟩
  have chars : (Piece.binding body.toList).chars =
      '\x7b' :: '\x7b' :: (body.toList ++ closeMark) := rfl
  rw [single?, single.trimChars_eq, chars]
  simp only [ends]
  simp [closeMark]

theorem unwrap_eq (single : IsSingle text lead body trail) : unwrap text = Text.trim body := by
  rw [unwrap, single.single?_eq, Option.getD_some]

end IsSingle

/-- A text is taken for a single binding exactly if it is one. -/
theorem single?_eq_some :
    single? text = some body ↔ ∃ lead trail, IsSingle text lead body trail := by
  constructor
  · intro found
    obtain ⟨lead, trail, whole, blankLead, blankTrail⟩ := Text.trimChars_split text.toList
    rw [single?] at found
    split at found
    · rename_i inside trimmed
      split at found
      · rename_i inner ends
        split at found
        · rename_i atEnd
          cases found
          obtain ⟨isBody, rest, rfl⟩ := body?_eq_some.1 ends
          obtain rfl : rest = [] := by simpa [closeMark] using atEnd
          refine ⟨String.ofList lead, String.ofList trail, ?_, ?_,
            Text.isBlankText_ofList blankLead, Text.isBlankText_ofList blankTrail⟩
          · apply String.toList_inj.1
            rw [whole, trimmed]
            simp [Piece.chars, openMark]
          · rw [String.toList_ofList]
            exact isBody
        · cases found
      · cases found
    · cases found
  · rintro ⟨lead, trail, single⟩
    exact single.single?_eq

theorem isBinding_iff :
    isBinding (.str text) = true ↔ ∃ lead body trail, IsSingle text lead body trail := by
  rw [isBinding, Option.isSome_iff_exists]
  constructor
  · rintro ⟨body, found⟩
    obtain ⟨lead, trail, single⟩ := single?_eq_some.1 found
    exact ⟨lead, body, trail, single⟩
  · rintro ⟨lead, body, trail, single⟩
    exact ⟨body, single.single?_eq⟩

/-- A path leads to the same with braces around it. -/
theorem resolve_braced {path : String} (isBody : IsBody path.toList) (data : Json) :
    resolve (braced path) data = resolve path data := by
  have single : IsSingle (braced path) "" path "" := ⟨by simp, isBody, rfl, rfl⟩
  have bare : single? path = none := by
    rw [Option.eq_none_iff_forall_ne_some]
    intro body found
    obtain ⟨lead, trail, inner⟩ := single?_eq_some.1 found
    refine isBody.2 ?_
    rw [inner.whole]
    simp [Piece.chars, closeMark]
  rw [resolve, resolve, single.unwrap_eq, unwrap, bare, Option.getD_none]

namespace IsSingle

theorem value?_eq (single : IsSingle text lead body trail) (data : Json) :
    value? body data = (do return (← resolve text data).toOption) := by
  rw [← value?_trim, ← single.unwrap_eq]
  rfl

theorem holds_eq (single : IsSingle text lead body trail) (data : Json) :
    holds text data = (do return ((← value? body data).map truthy).getD false) := by
  rw [holds, single.unwrap_eq, value?_trim]

theorem interpolate_eq (single : IsSingle text lead body trail) (data : Json) :
    interpolate text data = (do return lead ++ (← shownBinding body data) ++ trail) := by
  have plain {blanks : String} (blank : Text.isBlankText blanks = true) :
      interpolate blanks data = .ok blanks :=
    interpolate_plain (Text.notMem_of_isBlankText blank not_isBlank_brace.2) data
  have closed : ¬ LeftOpen lead.toList :=
    not_leftOpen (Text.notMem_of_isBlankText single.leadBlank not_isBlank_brace.1)
  rw [single.whole, interpolate_around single.isBody closed, plain single.leadBlank,
    plain single.trailBlank]
  rfl

/-- What the body leads to, from what the whole text leads to. -/
theorem value?_of_resolve (single : IsSingle text lead body trail)
    {outcome : Except Path.ResolveError Json} (resolved : resolve text data = .ok outcome) :
    value? body data = .ok outcome.toOption := by
  rw [single.value?_eq, resolved]
  rfl

theorem resolve_returns_iff (single : IsSingle text lead body trail) (data : Json) :
    (∃ outcome, resolve text data = .ok outcome) ↔ ¬ Path.Overlong body := by
  constructor
  · rintro ⟨outcome, resolved⟩
    exact (value?_eq_ok.1 (single.value?_of_resolve resolved)).1
  · intro short
    have found : value? body data = .ok (Path.find? body data) := value?_eq_ok.2 ⟨short, rfl⟩
    rw [single.value?_eq data] at found
    obtain ⟨outcome, resolved, -⟩ := Outcome.bind_eq_ok.1 found
    exact ⟨outcome, resolved⟩

end IsSingle

/-- A text is taken for a single binding exactly if it is one path in double braces between white
space. If the path leads to a value, then the text is shown as this value between the same white
space and holds as a condition if the value does; if not, it is shown as it was written and does not
hold. And the braces may as well be left out. -/
theorem single_agrees :
    (∀ text, isBinding (.str text) = true ↔ ∃ lead body trail, IsSingle text lead body trail) ∧
    (∀ text lead body trail, IsSingle text lead body trail → ∀ data,
      ((∃ outcome, resolve text data = .ok outcome) ↔ ¬ Path.Overlong body) ∧
      (∀ value, resolve text data = .ok (.ok value) →
        interpolate text data = (do return lead ++ (← display value) ++ trail) ∧
          holds text data = .ok (truthy value)) ∧
      (∀ cause, resolve text data = .ok (.error cause) →
        interpolate text data = .ok text ∧ holds text data = .ok false)) ∧
    (∀ path data, path ≠ "" → '\x7d' ∉ path.toList →
      resolve (braced path) data = resolve path data) := by
  refine ⟨fun text => isBinding_iff, ?_, ?_⟩
  · intro text lead body trail single data
    refine ⟨single.resolve_returns_iff data, ?_, ?_⟩
    · intro value resolved
      rw [single.interpolate_eq, shownBinding, single.holds_eq, single.value?_of_resolve resolved]
      exact ⟨rfl, rfl⟩
    · intro cause resolved
      rw [single.interpolate_eq, shownBinding, single.holds_eq, single.value?_of_resolve resolved,
        single.whole]
      exact ⟨rfl, rfl⟩
  · intro path data nonempty noClose
    exact resolve_braced ⟨fun empty => nonempty (String.toList_eq_nil_iff.1 empty), noClose⟩ data

theorem spaced_name_agrees :
    interpolate " \x7b\x7b name \x7d\x7d\n" (.object [("name", .str "Ada")]) = .ok " Ada\n" ∧
      holds "\x7b\x7bname.first\x7d\x7d" (.object [("name", .str "Ada")]) = .ok false ∧
      resolve (braced " name") (.object [("name", .str "Ada")]) =
        resolve " name" (.object [("name", .str "Ada")]) := by
  have spaced : IsSingle " \x7b\x7b name \x7d\x7d\n" " " " name " "\n" :=
    ⟨rfl, ⟨by decide, by decide⟩, rfl, rfl⟩
  have deeper : IsSingle "\x7b\x7bname.first\x7d\x7d" "" "name.first" "" :=
    ⟨rfl, ⟨by decide, by decide⟩, rfl, rfl⟩
  exact ⟨((single_agrees.2.1 _ _ _ _ spaced _).2.1 (.str "Ada") rfl).1,
    ((single_agrees.2.1 _ _ _ _ deeper _).2.2 _ rfl).2,
    single_agrees.2.2 " name" _ (by decide) (by decide)⟩

end UiSchema.Binding
