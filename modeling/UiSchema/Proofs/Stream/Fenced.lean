import UiSchema.Proofs.Json.Cut
import UiSchema.Proofs.Schema.RoundTrip
import UiSchema.Stream

/-! Schemas in fenced blocks. A schema that can be loaded is found in a fence that names the format,
whatever stands around the fence, if there are no three backticks in one of its texts. If there are,
the fence is cut there, and nothing in the block is found. -/

set_option autoImplicit false

namespace UiSchema.Schema

open UiSchema.Json.Block

variable {settings : Settings} {t prose after : String} {s : Schema}

/-- A text in a fence that names the format, with some prose in front of it and more text behind. -/
def fencedText (prose t after : String) : String :=
  prose ++ "```json\n" ++ t ++ "\n```" ++ after

theorem toList_fencedText (prose t after : String) :
    (fencedText prose t after).toList =
      prose.toList ++ (opening ++ (t.toList ++ '\n' :: (ticks ++ after.toList))) := by
  have last : "\n```".toList = '\n' :: ticks := by decide
  simp only [fencedText, String.toList_append, last, List.append_assoc, List.cons_append]
  rfl

/-- What loading a text took. -/
theorem load_eq_ok (loaded : load settings t = .ok (.ok s)) :
    ∃ document, Json.readChars .strict t.toList = .ok document ∧
      validate settings document = .ok (.ok s) := by
  unfold load at loaded
  split at loaded
  · cases loaded
  · split at loaded
    · cases loaded
    · rename_i document read
      exact ⟨document, Json.load_eq_ok.1 read, loaded⟩

/-- A well-formed document looks like a schema, and has a version. -/
theorem looksLike_of_isDocument {document : Json} (wellFormed : IsDocument document) :
    looksLike document = true ∧ withVersion settings document = document := by
  obtain ⟨version, given, component, _, _, _⟩ := wellFormed
  obtain ⟨own, _, _⟩ := component
  obtain ⟨_, id, _⟩ := own.id
  obtain ⟨_, type, _⟩ := own.type
  obtain ⟨_, version, _⟩ := version
  simp [looksLike, given, Entries.contains, id, type, withVersion, version]

/-- A candidate is passed over if no document in it looks like a schema. -/
theorem ofBlock?_eq_none {block : Json.Block} {content : List Char}
    (same : block.content = String.ofList content)
    (other : ∀ document, Json.readChars .strict content = .ok document →
      looksLike document = false) : ofBlock? settings block = .ok none := by
  unfold ofBlock?
  split
  · rfl
  · rename_i document loaded
    rw [Json.load_eq_ok, same, Json.read, String.toList_ofList] at loaded
    rw [if_neg (by simp [other document loaded])]

theorem ofBlock?_rootless {block : Json.Block} (rootless : block.Rootless) :
    ofBlock? settings block = .ok none := by
  obtain ⟨content, same, rootless⟩ := rootless
  refine ofBlock?_eq_none same fun document read => ?_
  cases document with
  | object members =>
    have noRoot : Entries.get? members "root" = none :=
      (Entries.get?_eq_none_iff members "root").2 fun member =>
        rootless ((Json.written_of_readChars read).2 _ member)
    simp [looksLike, noRoot]
  | _ => rfl

theorem firstOf?_eq_none {blocks : List Json.Block}
    (each : ∀ block ∈ blocks, ofBlock? settings block = .ok none) :
    firstOf? settings blocks = .ok none := by
  induction blocks with
  | nil => rfl
  | cons block rest ih =>
    obtain ⟨here, others⟩ := List.forall_mem_cons.1 each
    rw [firstOf?, here]
    exact ih others

/-- The candidate in the fence is the text itself, up to white space around it. -/
theorem ofBlock?_named (loaded : load settings t = .ok (.ok s)) (start : Nat) :
    ofBlock? settings (named start (t.toList ++ ['\n'])) = .ok (some s) := by
  obtain ⟨document, read, valid⟩ := load_eq_ok loaded
  have loadedAgain : Json.load (named start (t.toList ++ ['\n'])).content false = .ok document := by
    rw [Json.load_eq_ok, named, Json.read, String.toList_ofList,
      Text.trimChars_append_blank (by decide)]
    exact Json.readChars_trimChars read
  have outline : looksLike document = true ∧ withVersion settings document = document :=
    looksLike_of_isDocument ((check_eq_nil_iff document).1 (validate_eq_ok valid).1)
  rw [ofBlock?, loadedAgain]
  simp only [outline.1, if_true, outline.2, valid]
  rfl

theorem brace_mem_of_load (loaded : load settings t = .ok (.ok s)) : '\x7b' ∈ t.toList := by
  obtain ⟨document, read, valid⟩ := load_eq_ok loaded
  obtain ⟨⟩ := (check_eq_nil_iff document).1 (validate_eq_ok valid).1
  exact (Json.written_of_readChars read).1

theorem blocks_fencedText (noTick : '\x60' ∉ prose.toList) {body : List Char}
    (found : untilTicks (t.toList ++ '\n' :: (ticks ++ after.toList)) = some body)
    (visible : Text.trimChars body ≠ []) :
    Json.blocks (fencedText prose t after) = named prose.toList.length body ::
      fencedFrom (prose.toList.length + opening.length) (body.length + 3)
        (t.toList ++ '\n' :: (ticks ++ after.toList)) := by
  rw [Json.blocks, toList_fencedText, fenced_opening noTick found visible]

theorem visible_of_readChars {cs : List Char} {document : Json}
    (read : Json.readChars .strict cs = .ok document) : Text.trimChars (cs ++ ['\n']) ≠ [] := by
  rw [Text.trimChars_append_blank (by decide)]
  intro nothing
  have nowhere := Json.readChars_trimChars read
  rw [nothing] at nowhere
  cases nowhere

theorem extract?_of_noTicks (loaded : load settings t = .ok (.ok s))
    (noTick : '\x60' ∉ prose.toList) (noTicks : ¬ HasTicks t.toList)
    (small : (fencedText prose t after).utf8ByteSize ≤ settings.maxSchemaSize) :
    extract? settings (fencedText prose t after) = .ok (some s) := by
  obtain ⟨document, read, _⟩ := load_eq_ok loaded
  have brace : '\x7b' ∈ (fencedText prose t after).toList := by
    simp [toList_fencedText, brace_mem_of_load loaded]
  have visible := visible_of_readChars read
  rw [extract?_eq, if_pos ⟨brace, small⟩,
    blocks_fencedText noTick (untilTicks_line noTicks after.toList) visible, firstOf?,
    ofBlock?_named loaded]
  rfl

/-- The fence is cut inside of a quoted text, and all further fences begin in one. -/
theorem extract?_of_hasTicks (loaded : load settings t = .ok (.ok s))
    (noTick : '\x60' ∉ prose.toList) (hasTicks : HasTicks t.toList) :
    extract? settings (fencedText prose t "") = .ok none := by
  obtain ⟨document, read, _⟩ := load_eq_ok loaded
  -- the line end behind the document is space, so it may be counted to the document
  have clean : Json.Scan.Clean .strict .between (t.toList ++ ['\n']) :=
    (Json.clean_of_readChars read).append_line
  obtain ⟨body, more, found, cut⟩ := untilTicks_cut hasTicks ('\n' :: (ticks ++ "".toList))
  have cutLine : t.toList ++ ['\n'] = body ++ (ticks ++ (more ++ ['\n'])) := by
    rw [cut]
    simp only [List.append_assoc]
  rw [extract?_eq, blocks_fencedText noTick found (visible_of_cut clean cutLine)]
  refine (if_congr Iff.rfl (firstOf?_eq_none ?_) rfl).trans (ite_self _)
  refine List.forall_mem_cons.2 ⟨?_, fun block member => ?_⟩
  · exact ofBlock?_eq_none rfl fun _ read => absurd read (readChars_cut_ne_ok clean cutLine _)
  · have lines : t.toList ++ '\n' :: (ticks ++ "".toList) = (t.toList ++ ['\n']) ++ ticks := by
      simp
    have whole : t.toList ++ ['\n'] = [] ++ (t.toList ++ ['\n']) := rfl
    rw [lines] at member
    exact ofBlock?_rootless (rootless_fencedFrom clean whole _ _ block member)

/-- A schema that can be loaded is found in a fence around its text, whatever stands in front of the
fence and behind it, if there are no three backticks in the text. With three backticks in the text
nothing is found, even if nothing stands behind the fence. -/
theorem extract?_fencedText (loaded : load settings t = .ok (.ok s))
    (noTick : '\x60' ∉ prose.toList) :
    (¬ HasTicks t.toList → ∀ after : String,
      (fencedText prose t after).utf8ByteSize ≤ settings.maxSchemaSize →
      extract? settings (fencedText prose t after) = .ok (some s)) ∧
    (HasTicks t.toList → extract? settings (fencedText prose t "") = .ok none) :=
  ⟨fun noTicks _ small => extract?_of_noTicks loaded noTick noTicks small,
    extract?_of_hasTicks loaded noTick⟩

/-- The text of a schema that shows some code. -/
def codeText (code : String) : String :=
  "\x7b\"version\":\"1.0\",\"root\":\x7b\"id\":\"code\",\"type\":\"Text\",\"text\":\"" ++
    code ++ "\"\x7d\x7d"

/-- What can be seen of a loaded text without looking at the schema. -/
def loads (settings : Settings) (t : String) : Outcome Bool :=
  (load settings t).map fun read => read.toOption.isSome

theorem load_of_loads (seen : loads settings t = .ok true) :
    ∃ s, load settings t = .ok (.ok s) := by
  unfold loads at seen
  cases loaded : load settings t with
  | error overflow =>
    rw [loaded] at seen
    cases seen
  | ok read =>
    cases read with
    | error issues =>
      rw [loaded] at seen
      cases Except.ok.inj seen
    | ok s => exact ⟨s, rfl⟩

theorem code_found :
    ∃ s, load {} (codeText "x = 1") = .ok (.ok s) ∧ ¬ HasTicks (codeText "x = 1").toList ∧
      extract? {} (fencedText "Here:\n" (codeText "x = 1") "\nDone.") = .ok (some s) := by
  obtain ⟨s, loaded⟩ : ∃ s, load {} (codeText "x = 1") = .ok (.ok s) :=
    load_of_loads (by decide +kernel)
  have noTicks : ¬ HasTicks (codeText "x = 1").toList := by decide +kernel
  exact ⟨s, loaded, noTicks,
    (extract?_fencedText loaded (by decide)).1 noTicks "\nDone." (by decide +kernel)⟩

/-- A schema whose code is itself a fence can be loaded, and is not found in a fence. -/
theorem fence_in_code_lost :
    ∃ s, load {} (codeText "```") = .ok (.ok s) ∧
      (fencedText "" (codeText "```") "").utf8ByteSize ≤ ({} : Settings).maxSchemaSize ∧
      extract? {} (fencedText "" (codeText "```") "") = .ok none := by
  obtain ⟨s, loaded⟩ : ∃ s, load {} (codeText "```") = .ok (.ok s) :=
    load_of_loads (by decide +kernel)
  exact ⟨s, loaded, by decide +kernel,
    extract?_of_hasTicks loaded (by simp) (by decide +kernel)⟩

end UiSchema.Schema
