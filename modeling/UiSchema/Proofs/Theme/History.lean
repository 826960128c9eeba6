import UiSchema.Proofs.Theme.Activation

/-! Whole runs of a manager: which theme is active, how many changes of the packs it counts, and the
changes of the active theme it makes known. One call takes each of these a step further; a run is
its calls put together. -/

set_option autoImplicit false

namespace UiSchema

/-- A change of the set of packs is asked for. -/
def ThemeRequest.ofPacks : ThemeRequest → Bool
  | .register _ | .registerDocument _ | .unregister _ => true
  | .activate _ | .registryFor _ => false

/-- What an application does with a manager: it makes a request, during which listeners may raise,
or has one more listener told of the changes from then on. -/
inductive ThemeCall (Listener : Type) where
  | request (r : ThemeRequest)
    (raises : List (Listener × ThemeChange) → Option String := fun _ => none)
  | subscribe (listener : Listener)

namespace ThemeCall

variable {Listener : Type}

def ofPacks : ThemeCall Listener → Bool
  | .request r _ => r.ofPacks
  | .subscribe _ => false

def subscriber? : ThemeCall Listener → Option Listener
  | .request .. => none
  | .subscribe listener => some listener

end ThemeCall

/-- Each change starts from the theme before it and leads to another one. -/
def Linked : Option String → List ThemeChange → Option String → Prop
  | first, [], last => first = last
  | first, c :: rest, last => c.old = first ∧ c.old ≠ some c.new ∧ Linked (some c.new) rest last

theorem Linked.append {first middle last : Option String} {before after : List ThemeChange}
    (start : Linked first before middle) (rest : Linked middle after last) :
    Linked first (before ++ after) last := by
  induction before generalizing first with
  | nil =>
    cases start
    exact rest
  | cons c before ih =>
    obtain ⟨old, different, next⟩ := start
    exact ⟨old, different, ih next⟩

/-- Along linked changes no theme stops being active without another in its place. -/
theorem Linked.ne_none {first last : Option String} {changes : List ThemeChange}
    (linked : Linked first changes last) (active : first ≠ none) : last ≠ none := by
  induction changes generalizing first with
  | nil => exact linked ▸ active
  | cons c rest ih => exact ih linked.2.2 nofun

namespace ThemeManager

variable {Listener Other : Type}

/-- Other listeners in the place of those of a manager. -/
def withListeners (m : ThemeManager Listener) (listeners : List Other) : ThemeManager Other where
  defaultId := m.defaultId
  themes := m.themes
  active := m.active
  registry := m.registry
  generation := m.generation
  templates := m.templates
  listeners
  revision := m.revision

end ThemeManager

/-- The same step before others than a lone listener: each of them hears what it heard. -/
def ThemeStep.heardBy {Listener : Type} (step : ThemeStep Unit) (listeners : List Listener) :
    ThemeStep Listener where
  manager := step.manager.withListeners listeners
  result := step.result
  delivered := step.delivered.flatMap fun heard => listeners.map fun listener => (listener, heard.2)

namespace ThemeManager

variable {Listener : Type}

/-- The same manager with one listener. -/
def overheard (m : ThemeManager Listener) : ThemeManager Unit := m.withListeners [()]

/-- The changes of the active theme that a request makes known, as a lone listener hears them. -/
def changes (m : ThemeManager Listener) (r : ThemeRequest) : List ThemeChange :=
  (m.overheard.answer r).delivered.map (·.2)

def call (m : ThemeManager Listener) : ThemeCall Listener → ThemeStep Listener
  | .request r raises => m.answer r raises
  | .subscribe listener => { manager := m.subscribe listener, result := .ok () }

def callChanges (m : ThemeManager Listener) : ThemeCall Listener → List ThemeChange
  | .request r _ => m.changes r
  | .subscribe _ => []

/-- A change of the set of packs is asked for and made. -/
def changesPacks (m : ThemeManager Listener) (c : ThemeCall Listener) : Bool :=
  c.ofPacks && (m.call c).result.isOk

/-- The manager after a run of calls, those that fail among them. -/
def after (m : ThemeManager Listener) (calls : List (ThemeCall Listener)) : ThemeManager Listener :=
  calls.foldl (fun m c => (m.call c).manager) m

/-- Every call of a run with the manager it comes to. -/
def trace (m : ThemeManager Listener) :
    List (ThemeCall Listener) → List (ThemeManager Listener × ThemeCall Listener)
  | [] => []
  | c :: rest => (m, c) :: trace (m.call c).manager rest

/-- The changes of the active theme along a run. -/
def history (m : ThemeManager Listener) (calls : List (ThemeCall Listener)) : List ThemeChange :=
  (m.trace calls).flatMap fun moment => moment.1.callChanges moment.2

/-- How many calls of a run changed the set of packs. -/
def packChanges (m : ThemeManager Listener) (calls : List (ThemeCall Listener)) : Nat :=
  (m.trace calls).countP fun moment => moment.1.changesPacks moment.2

/-! ### Listeners -/

theorem activatePack_heardBy (m : ThemeManager Listener) (p : Pack) :
    m.activatePack p = (m.overheard.activatePack p).heardBy m.listeners := by
  rw [activatePack, activatePack]
  cases p.templateStore with
  | error cause => rfl
  | ok store =>
    simp [run_notify, ThemeStep.heardBy, announce, overheard, withListeners]

theorem activate_heardBy (m : ThemeManager Listener) (id : String) :
    m.activate id = (m.overheard.activate id).heardBy m.listeners := by
  rw [activate, activate]
  have same : m.overheard.theme? id = m.theme? id := rfl
  rw [same]
  cases m.theme? id with
  | none => rfl
  | some p =>
    by_cases active : m.active = some id
    · have active' : m.overheard.active = some id := active
      simp only [active, active', if_true]
      rfl
    · have active' : m.overheard.active ≠ some id := active
      simp only [active, active', if_false]
      exact m.activatePack_heardBy p

theorem register_overheard (m : ThemeManager Listener) (p : Pack) :
    m.overheard.register p = (m.register p).map overheard := by
  have same : m.overheard.has p.id = m.has p.id := rfl
  rw [register, register, same]
  cases m.has p.id <;> rfl

theorem registerDocument_overheard (m : ThemeManager Listener) (document : Json) :
    (m.overheard.registerDocument document).map (·.2) =
      ((m.registerDocument document).map (·.2)).map overheard := by
  rw [registerDocument, registerDocument]
  cases Pack.decode document with
  | bad problems => rfl
  | ok p =>
    dsimp only
    rw [register_overheard]
    cases m.register p <;> rfl

theorem stepTo_heardBy {m : ThemeManager Listener}
    {next : Except ThemeError (ThemeManager Listener)}
    (kept : ∀ n, next = .ok n → n.listeners = m.listeners) :
    m.stepTo next = (m.overheard.stepTo (next.map overheard)).heardBy m.listeners := by
  cases next with
  | error e => rfl
  | ok n =>
    rw [← kept n rfl]
    rfl

/-- What a manager is after a pack has been added to it. -/
theorem register_eq_ok {m n : ThemeManager Listener} {p : Pack} (added : m.register p = .ok n) :
    n = { m with themes := m.themes ++ [p], revision := m.revision + 1 } := by
  rw [register] at added
  split at added
  · cases added
  · cases added
    rfl

/-- A pack given as a document is added like any other. -/
theorem exists_register {m n : ThemeManager Listener} {document : Json}
    (added : (m.registerDocument document).map (·.2) = .ok n) : ∃ p, m.register p = .ok n := by
  cases registered : m.registerDocument document with
  | error e =>
    rw [registered] at added
    cases added
  | ok both =>
    rw [registered] at added
    cases added
    exact ⟨both.1, registerDocument_eq_ok registered⟩

theorem unregister_heardBy (m : ThemeManager Listener) (id : String) :
    m.unregister id = (m.overheard.unregister id).heardBy m.listeners := by
  have known : m.overheard.has = m.has := rfl
  have active : m.overheard.active = m.active := rfl
  have default : m.overheard.defaultId = m.defaultId := rfl
  rw [unregister, unregister, known, active, default]
  split
  · rfl
  · split
    · split
      · rfl
      · split
        · rfl
        · rw [activate_heardBy]
          dsimp only [ThemeStep.heardBy]
          cases (m.overheard.activate m.defaultId).result <;> rfl
    · rfl

/-- Who listens makes no difference to a request, and everyone hears of the same changes. -/
theorem answer_heardBy (m : ThemeManager Listener) (r : ThemeRequest) :
    m.answer r = (m.overheard.answer r).heardBy m.listeners := by
  cases r with
  | register p =>
    rw [answer, answer, register_overheard]
    refine stepTo_heardBy fun n added => ?_
    rw [register_eq_ok added]
  | registerDocument document =>
    rw [answer, answer, registerDocument_overheard]
    refine stepTo_heardBy fun n added => ?_
    obtain ⟨p, added⟩ := exists_register added
    rw [register_eq_ok added]
  | unregister id => exact m.unregister_heardBy id
  | activate id => exact m.activate_heardBy id
  | registryFor id =>
    have same : m.overheard.registryFor id = m.registryFor id := rfl
    rw [answer, answer, same]
    cases m.registryFor id <;> rfl

theorem delivered_answer (m : ThemeManager Listener) (r : ThemeRequest) :
    (m.answer r).delivered = (m.changes r).flatMap m.announce := by
  rw [answer_heardBy, changes, List.flatMap_map]
  rfl

/-! ### One call -/

/-- The active id, if there is one, is that of a pack. -/
def ActiveKnown (m : ThemeManager Listener) : Prop := ∀ id, m.active = some id → m.has id = true

theorem OnlyPacks.known {m n : ThemeManager Listener} (changed : OnlyPacks m n)
    (before : m.ActiveKnown) : n.ActiveKnown := by
  intro id active
  rw [changed.active] at active
  obtain ⟨p, found⟩ := has_iff.1 (before id active)
  exact has_iff.2 ⟨p, changed.pack id active p found⟩

theorem activatePack_known {m : ThemeManager Listener} {p : Pack}
    (found : m.theme? p.id = some p) (before : m.ActiveKnown) :
    (m.activatePack p).manager.ActiveKnown := by
  rw [activatePack]
  cases p.templateStore with
  | error cause => exact before
  | ok store =>
    rintro id ⟨⟩
    exact has_iff.2 ⟨p, found⟩

theorem answer_known {m : ThemeManager Listener} (before : m.ActiveKnown) (r : ThemeRequest) :
    (m.answer r).manager.ActiveKnown := by
  have answers := answers_answer m r
  generalize m.answer r = step at answers
  cases answers with
  | refused e target => exact before
  | packs changed target => exact changed.known before
  | halfway target refused =>
    rw [activatePack, refused]
    exact before
  | switched target found made done told changed =>
    exact changed.known (activatePack_known found before)

/-- A pack is only made active in the place of another one. -/
theorem active_ne_of_target {m : ThemeManager Listener} {r : ThemeRequest} {p : Pack}
    (target : m.target? r = some p) : m.active ≠ some p.id := by
  cases r with
  | register p => cases target
  | registerDocument document => cases target
  | registryFor id => cases target
  | activate id =>
    rw [target?] at target
    split at target
    · cases target
    · rename_i inactive
      rw [id_of_theme? target]
      exact inactive
  | unregister id =>
    rw [target?] at target
    split at target
    · rename_i falls
      rw [id_of_theme? target, falls.2.1]
      simpa using falls.2.2
    · cases target

theorem linked_answer (m : ThemeManager Listener) (r : ThemeRequest) :
    Linked m.active (m.changes r) (m.answer r).manager.active := by
  have answers := answers_answer m.overheard r
  rw [answer_heardBy, changes]
  show Linked m.overheard.active _ (m.overheard.answer r).manager.active
  generalize m.overheard.answer r = step at answers
  cases answers with
  | refused e target => rfl
  | packs changed target => exact changed.active.symm
  | halfway target refused =>
    rw [activatePack, refused]
    rfl
  | @switched p store step target found made done told changed =>
    have last : step.manager.active = some p.id := by
      rw [changed.active, activatePack, made]
    rw [told, last]
    exact ⟨rfl, active_ne_of_target target, rfl⟩

theorem revision_activatePack (m : ThemeManager Listener) (p : Pack) :
    (m.activatePack p).manager.revision = m.revision := by
  rw [activatePack]
  cases p.templateStore <;> rfl

theorem revision_activate (m : ThemeManager Listener) (id : String) :
    (m.activate id).manager.revision = m.revision := by
  rw [activate]
  cases m.theme? id with
  | none => rfl
  | some p =>
    dsimp only
    split
    · rfl
    · exact m.revision_activatePack p

theorem revision_stepTo {m : ThemeManager Listener}
    {next : Except ThemeError (ThemeManager Listener)}
    (counted : ∀ n, next = .ok n → n.revision = m.revision + 1) :
    (m.stepTo next).manager.revision =
      m.revision + if (m.stepTo next).result.isOk then 1 else 0 := by
  cases next with
  | error e => rfl
  | ok n => exact counted n rfl

theorem revision_unregister (m : ThemeManager Listener) (id : String) :
    (m.unregister id).manager.revision =
      m.revision + if (m.unregister id).result.isOk then 1 else 0 := by
  rw [unregister]
  split
  · rfl
  · split
    · split
      · rfl
      · split
        · rfl
        · have same := m.revision_activate m.defaultId
          generalize m.activate m.defaultId = step at same
          obtain ⟨next, result, delivered⟩ := step
          cases result with
          | error e => exact same
          | ok _ => exact congrArg (· + 1) same
    · rfl

theorem revision_answer (m : ThemeManager Listener) (r : ThemeRequest) :
    (m.answer r).manager.revision =
      m.revision + if r.ofPacks && (m.answer r).result.isOk then 1 else 0 := by
  cases r with
  | register p =>
    refine revision_stepTo fun n added => ?_
    rw [register_eq_ok added]
  | registerDocument document =>
    refine revision_stepTo fun n added => ?_
    obtain ⟨p, added⟩ := exists_register added
    rw [register_eq_ok added]
  | unregister id => exact m.revision_unregister id
  | activate id => exact m.revision_activate id
  | registryFor id =>
    show (m.stepTo _).manager.revision = _
    cases m.registryFor id <;> rfl

theorem call_request (m : ThemeManager Listener) (r : ThemeRequest)
    (raises : List (Listener × ThemeChange) → Option String) :
    m.call (.request r raises) = m.answer r :=
  m.answer_raises r raises

theorem revision_call (m : ThemeManager Listener) (c : ThemeCall Listener) :
    (m.call c).manager.revision = m.revision + if m.changesPacks c then 1 else 0 := by
  cases c with
  | subscribe listener => rfl
  | request r raises =>
    rw [changesPacks, call_request]
    exact m.revision_answer r

theorem listeners_call (m : ThemeManager Listener) (c : ThemeCall Listener) :
    (m.call c).manager.listeners = m.listeners ++ c.subscriber?.toList := by
  cases c with
  | subscribe listener => rfl
  | request r raises =>
    rw [call_request, answer_heardBy]
    exact (List.append_nil _).symm

theorem linked_call (m : ThemeManager Listener) (c : ThemeCall Listener) :
    Linked m.active (m.callChanges c) (m.call c).manager.active := by
  cases c with
  | request r raises =>
    rw [call_request]
    exact m.linked_answer r
  | subscribe listener => rfl

theorem delivered_call (m : ThemeManager Listener) (c : ThemeCall Listener) :
    (m.call c).delivered = (m.callChanges c).flatMap m.announce := by
  cases c with
  | request r raises =>
    rw [call_request]
    exact m.delivered_answer r
  | subscribe listener => rfl

theorem call_known {m : ThemeManager Listener} (before : m.ActiveKnown) (c : ThemeCall Listener) :
    (m.call c).manager.ActiveKnown := by
  cases c with
  | request r raises =>
    rw [call_request]
    exact answer_known before r
  | subscribe listener => exact before

/-! ### A run -/

theorem after_known {m : ThemeManager Listener} (before : m.ActiveKnown)
    (calls : List (ThemeCall Listener)) : (m.after calls).ActiveKnown := by
  induction calls generalizing m with
  | nil => exact before
  | cons c rest ih => exact ih (call_known before c)

theorem linked_history (m : ThemeManager Listener) (calls : List (ThemeCall Listener)) :
    Linked m.active (m.history calls) (m.after calls).active := by
  induction calls generalizing m with
  | nil => rfl
  | cons c rest ih => exact (m.linked_call c).append (ih (m.call c).manager)

theorem packChanges_cons (m : ThemeManager Listener) (c : ThemeCall Listener)
    (rest : List (ThemeCall Listener)) :
    m.packChanges (c :: rest) =
      (m.call c).manager.packChanges rest + if m.changesPacks c then 1 else 0 :=
  List.countP_cons

theorem revision_after (m : ThemeManager Listener) (calls : List (ThemeCall Listener)) :
    (m.after calls).revision = m.revision + m.packChanges calls := by
  induction calls generalizing m with
  | nil => rfl
  | cons c rest ih =>
    have next : (m.after (c :: rest)).revision =
        (m.call c).manager.revision + (m.call c).manager.packChanges rest := ih _
    rw [next, revision_call, packChanges_cons]
    omega

theorem listeners_after (m : ThemeManager Listener) (calls : List (ThemeCall Listener)) :
    (m.after calls).listeners = m.listeners ++ calls.filterMap ThemeCall.subscriber? := by
  induction calls generalizing m with
  | nil => simp [after]
  | cons c rest ih =>
    have next : (m.after (c :: rest)).listeners =
        (m.call c).manager.listeners ++ rest.filterMap ThemeCall.subscriber? := ih _
    rw [next, listeners_call, List.append_assoc]
    cases c <;> rfl

/-- A manager with nothing registered and nobody listening. -/
def fresh (defaultId : String) : ThemeManager Listener := { defaultId }

/-- What a run from the start leaves behind, and what the call after it delivers. -/
structure Accounted (defaultId : String) (calls : List (ThemeCall Listener)) : Prop where
  known : ∀ id, ((fresh defaultId).after calls).active = some id →
    ((fresh defaultId).after calls).has id = true
  stays : ((fresh defaultId).after calls).active ≠ none →
    ∀ more, ((fresh defaultId).after (calls ++ more)).active ≠ none
  revision : ((fresh defaultId).after calls).revision = (fresh defaultId).packChanges calls
  linked : Linked none ((fresh defaultId).history calls) ((fresh defaultId).after calls).active
  /-- Each change of the next call reaches everyone subscribed by then, once and in order, whatever
  is raised meanwhile. -/
  delivered : ∀ c, (((fresh defaultId).after calls).call c).delivered =
    (((fresh defaultId).after calls).callChanges c).flatMap fun change =>
      (calls.filterMap ThemeCall.subscriber?).map fun listener => (listener, change)
  /-- These are the calls that listeners get which raise what depends on all calls before. -/
  raising : ∀ (Cause : Type) (raises : List (Listener × ThemeChange) → Option Cause) log c,
    ((((fresh defaultId).after calls).callChanges c).forM
        (((fresh defaultId).after calls).notify raises)).run.run log =
      (.ok (), log ++ (((fresh defaultId).after calls).call c).delivered)

/-- Every run from the start is accounted for, whichever of its calls fail. -/
theorem accounted (defaultId : String) (calls : List (ThemeCall Listener)) :
    Accounted defaultId calls where
  known := after_known (m := fresh defaultId) nofun calls
  stays active more := by
    rw [after, List.foldl_append]
    exact (linked_history _ more).ne_none active
  revision := by
    rw [revision_after]
    exact Nat.zero_add _
  linked := (fresh defaultId).linked_history calls
  delivered c := by
    have subscribed := (fresh defaultId).listeners_after calls
    rw [delivered_call]
    unfold announce
    rw [subscribed]
    rfl
  raising Cause raises log c := by
    rw [run_forM_eq_ok (run_notify _ raises), delivered_call]

/-- The default theme takes over from the active one, which is then gone. -/
example :
    (fresh "b" : ThemeManager Unit).history
      [.request (.register (smallPack "a" "Text" .base)),
        .request (.register (smallPack "b" "Text" .base)), .request (.activate "a"),
        .request (.unregister "a")] = [⟨none, "a"⟩, ⟨some "a", "b"⟩] := by
  decide

end ThemeManager

end UiSchema
