import Mathlib.Logic.Basic
import UiSchema.Theme.Manager

/-! The active theme across requests: its id, its registry and its templates belong to one pack, and
a request that fails leaves them alone. Both hold along a run exactly when no request activates a
pack whose templates are refused. -/

set_option autoImplicit false

namespace UiSchema

namespace Registry

/-- Definitions of different types that are not registered yet are all registered, in order. -/
theorem registerAll_eq_ok (r : Registry) (definitions : List Definition)
    (distinct : ((r.definitions ++ definitions).map (·.type)).Nodup) :
    r.registerAll definitions = .ok { r with definitions := r.definitions ++ definitions } := by
  induction definitions generalizing r with
  | nil => simp [registerAll]
  | cons d rest ih =>
    have fresh : r.has d.type = false := by
      rw [has, get?, Option.isSome_eq_false_iff, Option.isNone_iff_eq_none, List.find?_eq_none]
      intro other member same
      rw [List.map_append, List.nodup_append] at distinct
      exact distinct.2.2 other.type (List.mem_map_of_mem member) d.type (by simp)
        (by simpa using same)
    rw [registerAll, register, fresh]
    have added := ih { r with definitions := r.definitions ++ [d] } (by simpa using distinct)
    simpa using added

end Registry

/-- No component of a pack is refused by its registry. -/
theorem Pack.registerAll_components (p : Pack) :
    ({ name := p.id } : Registry).registerAll p.components = .ok p.registry :=
  Registry.registerAll_eq_ok { name := p.id } p.components p.components_nodup

/-- A list of templates is refused exactly when one of them is. -/
theorem TemplateStore.registerAll_refuses_iff (s : TemplateStore) (name : String)
    (templates : List Template) :
    (∃ cause, s.registerAll name templates = .error cause) ↔
      ∃ t ∈ templates, t.refusal? name ≠ none := by
  induction templates generalizing s with
  | nil => simp [registerAll]
  | cons t rest ih =>
    rw [registerAll, register]
    simp only [List.mem_cons, or_and_right, exists_or, exists_eq_left]
    cases refusal : t.refusal? name with
    | some cause => simp
    | none => simp [ih]

namespace Pack

/-- Some template of the pack cannot be registered under its name. -/
def Refused (p : Pack) : Prop :=
  ∃ e ∈ p.templates, ∃ t ∈ e.2, t.refusal? e.1 ≠ none

theorem registerTemplates_refuses_iff (s : TemplateStore) (templates : Entries (List Template)) :
    (∃ cause, registerTemplates s templates = .error cause) ↔
      ∃ e ∈ templates, ∃ t ∈ e.2, t.refusal? e.1 ≠ none := by
  induction templates generalizing s with
  | nil => simp [registerTemplates]
  | cons e rest ih =>
    obtain ⟨name, listed⟩ := e
    have first := s.registerAll_refuses_iff name listed
    rw [registerTemplates]
    simp only [List.mem_cons, or_and_right, exists_or, exists_eq_left]
    cases added : s.registerAll name listed with
    | error cause =>
      rw [added] at first
      exact iff_of_true ⟨cause, rfl⟩ (.inl (first.1 ⟨cause, rfl⟩))
    | ok next =>
      rw [added] at first
      have accepted : ¬ ∃ t ∈ listed, t.refusal? name ≠ none := by
        rw [← first]
        rintro ⟨cause, failed⟩
        cases failed
      exact (ih next).trans (or_iff_right accepted).symm

theorem templateStore_refuses_iff (p : Pack) :
    (∃ cause, p.templateStore = .error cause) ↔ p.Refused :=
  registerTemplates_refuses_iff {} p.templates

end Pack

/-- What an application asks of a manager. -/
inductive ThemeRequest where
  | register (p : Pack)
  | registerDocument (document : Json)
  | unregister (id : String)
  | activate (id : String)
  | registryFor (id : String)

namespace ThemeManager

variable {Listener : Type}

/-- The step of a request that only changes the set of packs, if it changes anything. -/
def stepTo (m : ThemeManager Listener) (next : Except ThemeError (ThemeManager Listener)) :
    ThemeStep Listener :=
  match next with
  | .ok next => { manager := next, result := .ok () }
  | .error e => { manager := m, result := .error e }

def answer (m : ThemeManager Listener) (r : ThemeRequest)
    (raises : List (Listener × ThemeChange) → Option String := fun _ => none) :
    ThemeStep Listener :=
  match r with
  | .register p => m.stepTo (m.register p)
  | .registerDocument document => m.stepTo ((m.registerDocument document).map (·.2))
  | .unregister id => m.unregister id raises
  | .activate id => m.activate id raises
  | .registryFor id => m.stepTo ((m.registryFor id).map fun _ => m)

/-! ### Listeners -/

/-- Everyone subscribed hears of a change, in the order of subscription. -/
def announce (m : ThemeManager Listener) (change : ThemeChange) : List (Listener × ThemeChange) :=
  m.listeners.map fun listener => (listener, change)

/-- Calls that all come back, whatever they raise, come back one after the other. -/
theorem run_forM_eq_ok {α β Cause : Type} {act : α → ExceptT Cause (StateM (List β)) Unit}
    {record : α → List β}
    (returns : ∀ a log, (act a).run.run log = (.ok (), log ++ record a)) (as : List α)
    (log : List β) : (as.forM act).run.run log = (.ok (), log ++ as.flatMap record) := by
  induction as generalizing log with
  | nil =>
    rw [List.flatMap_nil, List.append_nil]
    rfl
  | cons a rest ih =>
    show (act a >>= fun _ => rest.forM act).run.run log = _
    rw [ExceptT.run_bind, StateT.run_bind, returns, List.flatMap_cons, ← List.append_assoc]
    exact ih (log ++ record a)

/-- Whatever the listeners raise, a notification ends well, and everyone has been called once. -/
theorem run_notify {Cause : Type} (m : ThemeManager Listener)
    (raises : List (Listener × ThemeChange) → Option Cause) (change : ThemeChange)
    (log : List (Listener × ThemeChange)) :
    (m.notify raises change).run.run log = (.ok (), log ++ m.announce change) := by
  have each (listener : Listener) (log : List (Listener × ThemeChange)) :
      (tryCatch (tell raises change listener) fun _ => pure ()).run.run log =
        (.ok (), log ++ [(listener, change)]) := by
    -- only what is raised after this very call matters
    show (tryCatch (tell (fun _ => raises (log ++ [(listener, change)])) change listener)
      fun _ => pure ()).run.run log = _
    cases raises (log ++ [(listener, change)]) <;> rfl
  rw [notify, run_forM_eq_ok each, announce, List.map_eq_flatMap]

/-- When a pack has been made active, everyone has heard of it. -/
theorem activatePack_eq_of_made {m : ThemeManager Listener} {p : Pack} {store : TemplateStore}
    (made : p.templateStore = .ok store)
    (raises : List (Listener × ThemeChange) → Option String) :
    m.activatePack p raises =
      { manager :=
          { m with
            registry := some p.registry
            generation := m.generation + 1
            templates := some store
            active := some p.id }
        result := .ok ()
        delivered := m.announce ⟨m.active, p.id⟩ } := by
  rw [activatePack, made]
  dsimp only
  rw [run_notify]
  rfl

/-- What the listeners raise makes no difference. -/
theorem activatePack_raises (m : ThemeManager Listener) (p : Pack)
    (raises : List (Listener × ThemeChange) → Option String) :
    m.activatePack p raises = m.activatePack p := by
  cases made : p.templateStore with
  | error cause => rw [activatePack, activatePack, made]
  | ok store => rw [activatePack_eq_of_made made, activatePack_eq_of_made made]

theorem answer_raises (m : ThemeManager Listener) (r : ThemeRequest)
    (raises : List (Listener × ThemeChange) → Option String) :
    m.answer r raises = m.answer r := by
  have activate (id : String) : m.activate id raises = m.activate id := by
    simp only [ThemeManager.activate, activatePack_raises]
  cases r with
  | register p => rfl
  | registerDocument document => rfl
  | unregister id => simp only [answer, unregister, activate]
  | activate id => exact activate id
  | registryFor id => rfl

/-! ### The active theme -/

/-- The active id names a pack, the registry holds the components of that pack and the store its
templates. -/
def Together (m : ThemeManager Listener) : Prop :=
  ∀ id, m.active = some id → ∃ p store, m.theme? id = some p ∧ p.templateStore = .ok store ∧
    m.registry.map (·.definitions) = some p.components ∧
    m.templates.map (·.templates) = some store.templates

/-- The same packs, the same active id, and the same contents of its registry and its templates. -/
structure Same (m n : ThemeManager Listener) : Prop where
  themes : n.themes = m.themes
  active : n.active = m.active
  registry : n.registry.map (·.definitions) = m.registry.map (·.definitions)
  templates : n.templates.map (·.templates) = m.templates.map (·.templates)

/-- After a request all of the active theme is there, and nothing has changed if it failed. -/
structure Kept (m : ThemeManager Listener) (r : ThemeRequest) : Prop where
  together : (m.answer r).manager.Together
  same : ∀ e, (m.answer r).result = .error e → m.Same (m.answer r).manager

/-- The pack that a request is about to make active. -/
def target? (m : ThemeManager Listener) : ThemeRequest → Option Pack
  | .activate id => if m.active = some id then none else m.theme? id
  | .unregister id =>
    if m.has id = true ∧ m.active = some id ∧ id ≠ m.defaultId then m.theme? m.defaultId else none
  | _ => none

/-- A request switches halfway when a template of its pack is refused: the registry is the new one
by then and the old templates are gone. It is not noticed only if the registry held the same
definitions before and there were no templates. -/
def HalfSwitches (m : ThemeManager Listener) (r : ThemeRequest) : Prop :=
  ∃ p, m.target? r = some p ∧ p.Refused ∧
    ¬ (m.registry.map (·.definitions) = some p.components ∧
      ∀ store ∈ m.templates, store.templates = [])

/-- A condition on every step of a run of requests. -/
def Along (condition : ThemeManager Listener → ThemeRequest → Prop) :
    ThemeManager Listener → List ThemeRequest → Prop
  | _, [] => True
  | m, r :: rest => condition m r ∧ Along condition (m.answer r).manager rest

theorem id_of_theme? {m : ThemeManager Listener} {id : String} {p : Pack}
    (found : m.theme? id = some p) : p.id = id := by
  simpa using List.find?_some found

theorem has_iff {m : ThemeManager Listener} {id : String} :
    m.has id = true ↔ ∃ p, m.theme? id = some p := by
  rw [has, Option.isSome_iff_exists]

theorem theme?_drop {m : ThemeManager Listener} {id other : String} (different : other ≠ id) :
    (m.drop id).theme? other = m.theme? other := by
  have kept : (fun p : Pack => decide ((p.id != id) = true ∧ (p.id == other) = true)) =
      fun p => p.id == other := by
    funext p
    by_cases same : p.id = other
    · simp [same, different]
    · simp [same]
  rw [theme?, theme?, drop, List.find?_filter, kept]

/-- At most the set of packs has changed, and the pack of the active id has not. -/
structure OnlyPacks (m n : ThemeManager Listener) : Prop where
  active : n.active = m.active
  registry : n.registry = m.registry
  templates : n.templates = m.templates
  pack : ∀ id, m.active = some id → ∀ p, m.theme? id = some p → n.theme? id = some p

namespace OnlyPacks

variable {m : ThemeManager Listener}

theorem refl (m : ThemeManager Listener) : OnlyPacks m m := ⟨rfl, rfl, rfl, fun _ _ _ found => found⟩

theorem register {n : ThemeManager Listener} {p : Pack} (added : m.register p = .ok n) :
    OnlyPacks m n := by
  rw [ThemeManager.register] at added
  split at added
  · cases added
  · cases added
    refine ⟨rfl, rfl, rfl, fun id _ q found => ?_⟩
    rw [theme?] at found ⊢
    rw [List.find?_append, found]
    rfl

theorem drop {id : String} (inactive : m.active ≠ some id) : OnlyPacks m (m.drop id) := by
  refine ⟨rfl, rfl, rfl, fun other active p found => ?_⟩
  have different : other ≠ id := by
    rintro rfl
    exact inactive active
  rw [theme?_drop different, found]

theorem together {n : ThemeManager Listener} (changed : OnlyPacks m n) (before : m.Together) :
    n.Together := by
  intro id active
  rw [changed.active] at active
  obtain ⟨p, store, found, made, registry, templates⟩ := before id active
  exact ⟨p, store, changed.pack id active p found, made, changed.registry ▸ registry,
    changed.templates ▸ templates⟩

end OnlyPacks

/-- What can come of a request: it is refused, it changes at most the set of packs, or it makes a
pack active, completely or halfway. -/
inductive Answers (m : ThemeManager Listener) (r : ThemeRequest) : ThemeStep Listener → Prop where
  | refused (e : ThemeError) (target : m.target? r = none) :
    Answers m r { manager := m, result := .error e }
  | packs {n : ThemeManager Listener} (changed : OnlyPacks m n) (target : m.target? r = none) :
    Answers m r { manager := n, result := .ok () }
  | halfway {p : Pack} {cause : TemplateError} (target : m.target? r = some p)
    (refused : p.templateStore = .error cause) : Answers m r (m.activatePack p)
  | switched {p : Pack} {store : TemplateStore} {step : ThemeStep Listener}
    (target : m.target? r = some p) (found : m.theme? p.id = some p)
    (made : p.templateStore = .ok store) (done : step.result = .ok ())
    (told : step.delivered = m.announce ⟨m.active, p.id⟩)
    (changed : OnlyPacks (m.activatePack p).manager step.manager) : Answers m r step

theorem answers_stepTo {m : ThemeManager Listener} {r : ThemeRequest}
    {next : Except ThemeError (ThemeManager Listener)} (target : m.target? r = none)
    (changed : ∀ n, next = .ok n → OnlyPacks m n) : Answers m r (m.stepTo next) := by
  cases next with
  | error e => exact .refused e target
  | ok n => exact .packs (changed n rfl) target

/-- An activation that gets as far as the pack. -/
theorem answers_activatePack {m : ThemeManager Listener} {r : ThemeRequest} {p : Pack}
    (target : m.target? r = some p) (found : m.theme? p.id = some p) :
    Answers m r (m.activatePack p) := by
  cases made : p.templateStore with
  | error cause => exact .halfway target made
  | ok store =>
    have done : (m.activatePack p).result = .ok () := by
      rw [activatePack, made]
    have told : (m.activatePack p).delivered = m.announce ⟨m.active, p.id⟩ := by
      rw [activatePack_eq_of_made made]
    exact .switched target found made done told (.refl _)

theorem answers_activate (m : ThemeManager Listener) (id : String) :
    Answers m (.activate id) (m.activate id) := by
  rw [activate]
  cases found : m.theme? id with
  | none => exact .refused _ (by simp [target?, found])
  | some p =>
    dsimp only
    split
    · rename_i active
      exact .packs (.refl m) (by simp [target?, active])
    · rename_i inactive
      have same := id_of_theme? found
      subst same
      exact answers_activatePack (by simp [target?, inactive, found]) found

/-- The default theme is made active before the old one goes. -/
theorem answers_fallBack {m : ThemeManager Listener} {id : String} {p : Pack}
    (target : m.target? (.unregister id) = some p) (found : m.theme? m.defaultId = some p)
    (active : m.active = some id) (notDefault : id ≠ m.defaultId) :
    Answers m (.unregister id)
      (match (m.activate m.defaultId).result with
        | .error e => { m.activate m.defaultId with result := .error e }
        | .ok () =>
          { m.activate m.defaultId with manager := (m.activate m.defaultId).manager.drop id }) := by
  have same := id_of_theme? found
  -- the default theme is not the active one, so it is activated in earnest
  have activated : m.activate m.defaultId = m.activatePack p := by
    rw [activate, found, active]
    simp [notDefault]
  rw [activated]
  cases made : p.templateStore with
  | error cause =>
    have failed : (m.activatePack p).result = .error (.badTemplate cause) := by
      rw [activatePack, made]
    rw [failed]
    dsimp only
    rw [← failed]
    exact .halfway target made
  | ok store =>
    have done : (m.activatePack p).result = .ok () := by
      rw [activatePack, made]
    have switched : (m.activatePack p).manager.active = some p.id := by
      rw [activatePack, made]
    have inactive : (m.activatePack p).manager.active ≠ some id := by
      rw [switched, same]
      simpa using Ne.symm notDefault
    have told : (m.activatePack p).delivered = m.announce ⟨m.active, p.id⟩ := by
      rw [activatePack_eq_of_made made]
    rw [done]
    exact .switched target (same ▸ found) made done told (.drop inactive)

theorem answers_unregister (m : ThemeManager Listener) (id : String) :
    Answers m (.unregister id) (m.unregister id) := by
  rw [unregister]
  split
  · rename_i unknown
    exact .refused _ (by simp_all [target?])
  · rename_i known
    split
    · rename_i active
      split
      · rename_i isDefault
        exact .refused _ (by simp [target?, isDefault])
      · rename_i notDefault
        split
        · rename_i noDefault
          exact .refused _ (by simp_all [target?, has])
        · rename_i hasDefault
          obtain ⟨p, found⟩ := has_iff.1 (by simpa using hasDefault)
          have target : m.target? (.unregister id) = some p := by
            rw [target?, if_pos ⟨by simpa using known, active, notDefault⟩, found]
          exact answers_fallBack target found active notDefault
    · rename_i inactive
      exact .packs (.drop inactive) (by simp [target?, inactive])

theorem registerDocument_eq_ok {m : ThemeManager Listener} {document : Json}
    {both : Pack × ThemeManager Listener} (registered : m.registerDocument document = .ok both) :
    m.register both.1 = .ok both.2 := by
  rw [registerDocument] at registered
  split at registered
  · cases registered
  · split at registered
    · rename_i added
      cases registered
      exact added
    · cases registered

/-- Every request comes to one of these. -/
theorem answers_answer (m : ThemeManager Listener) (r : ThemeRequest) :
    Answers m r (m.answer r) := by
  cases r with
  | register p => exact answers_stepTo rfl fun n added => .register added
  | registerDocument document =>
    refine answers_stepTo rfl fun n added => ?_
    cases registered : m.registerDocument document with
    | error e =>
      rw [registered] at added
      cases added
    | ok both =>
      rw [registered] at added
      cases added
      exact .register (registerDocument_eq_ok registered)
  | unregister id => exact answers_unregister m id
  | activate id => exact answers_activate m id
  | registryFor id =>
    refine answers_stepTo rfl fun n found => ?_
    cases made : m.registryFor id with
    | error e =>
      rw [made] at found
      cases found
    | ok registry =>
      rw [made] at found
      cases found
      exact .refl m

theorem Same.refl (m : ThemeManager Listener) : Same m m := ⟨rfl, rfl, rfl, rfl⟩

theorem Same.together {m n : ThemeManager Listener} (same : m.Same n) (before : m.Together) :
    n.Together := by
  intro id active
  rw [same.active] at active
  obtain ⟨p, store, found, made, registry, templates⟩ := before id active
  have found : n.theme? id = some p := by
    rw [theme?, same.themes]
    exact found
  exact ⟨p, store, found, made, same.registry.trans registry, same.templates.trans templates⟩

/-- A pack that is made active completely leaves everything together. -/
theorem activatePack_together {m : ThemeManager Listener} {p : Pack} {store : TemplateStore}
    (found : m.theme? p.id = some p) (made : p.templateStore = .ok store) :
    (m.activatePack p).manager.Together := by
  rw [activatePack, made]
  intro id active
  cases active
  exact ⟨p, store, found, made, rfl, rfl⟩

/-- A pack that is made active halfway goes unnoticed only over its own definitions and without
templates. -/
theorem activatePack_same_iff {m : ThemeManager Listener} {p : Pack} {cause : TemplateError}
    (refused : p.templateStore = .error cause) :
    m.Same (m.activatePack p).manager ↔ m.registry.map (·.definitions) = some p.components ∧
      ∀ store ∈ m.templates, store.templates = [] := by
  rw [activatePack, refused]
  have cleared : (m.templates.map TemplateStore.clear).map (·.templates) =
      m.templates.map (·.templates) ↔ ∀ store ∈ m.templates, store.templates = [] := by
    cases m.templates with
    | none => simp
    | some store => simp [TemplateStore.clear, eq_comm]
  constructor
  · rintro ⟨_, _, registry, templates⟩
    exact ⟨registry.symm, cleared.1 templates⟩
  · rintro ⟨registry, templates⟩
    exact ⟨rfl, rfl, registry.symm, cleared.2 templates⟩

theorem not_halfSwitches_of_target {m : ThemeManager Listener} {r : ThemeRequest}
    (target : m.target? r = none) : ¬ m.HalfSwitches r := by
  rintro ⟨p, found, _⟩
  rw [target] at found
  cases found

/-- One request: where everything was together, it is kept unless the request switches halfway. -/
theorem kept_iff {m : ThemeManager Listener} (before : m.Together) (r : ThemeRequest) :
    m.Kept r ↔ ¬ m.HalfSwitches r := by
  have answers := answers_answer m r
  have kept : m.Kept r ↔ (m.answer r).manager.Together ∧
      ∀ e, (m.answer r).result = .error e → m.Same (m.answer r).manager :=
    ⟨fun kept => ⟨kept.together, kept.same⟩, fun both => ⟨both.1, both.2⟩⟩
  rw [kept]
  -- only the answer that stops halfway can change what was together
  generalize m.answer r = step at answers
  cases answers with
  | refused e target =>
    exact iff_of_true ⟨before, fun _ _ => .refl m⟩ (not_halfSwitches_of_target target)
  | packs changed target =>
    exact iff_of_true ⟨changed.together before, nofun⟩ (not_halfSwitches_of_target target)
  | @halfway p cause target refused =>
    have failed : (m.activatePack p).result = .error (.badTemplate cause) := by
      rw [activatePack, refused]
    have noticed : m.HalfSwitches r ↔ ¬ m.Same (m.activatePack p).manager := by
      rw [activatePack_same_iff refused]
      constructor
      · rintro ⟨q, other, _, different⟩
        cases target.symm.trans other
        exact different
      · intro different
        exact ⟨p, target, p.templateStore_refuses_iff.1 ⟨cause, refused⟩, different⟩
    rw [noticed, not_not]
    constructor
    · exact fun kept => kept.2 _ failed
    · exact fun same => ⟨same.together before, fun _ _ => same⟩
  | switched target found made done _ changed =>
    refine iff_of_true ⟨changed.together (activatePack_together found made), ?_⟩ ?_
    · intro e failed
      cases done.symm.trans failed
    · rintro ⟨q, other, refused, _⟩
      cases target.symm.trans other
      obtain ⟨cause, failed⟩ := (Pack.templateStore_refuses_iff _).2 refused
      cases made.symm.trans failed

/-- At first no theme is active. -/
theorem Together.fresh (defaultId : String) (listeners : List Listener) :
    Together ({ defaultId, listeners } : ThemeManager Listener) := by
  intro id active
  cases active

theorem along_kept_iff_of_together {m : ThemeManager Listener} (before : m.Together)
    (requests : List ThemeRequest) :
    Along Kept m requests ↔ Along (fun m r => ¬ m.HalfSwitches r) m requests := by
  induction requests generalizing m with
  | nil => exact Iff.rfl
  | cons r rest ih =>
    rw [Along, Along, kept_iff before r]
    refine and_congr_right fun whole => ih ?_
    exact ((kept_iff before r).2 whole).together

/-- Along every run that starts with nothing registered, the active theme stays together and failed
requests leave it alone, exactly when no request switches halfway. -/
theorem along_kept_iff (defaultId : String) (listeners : List Listener)
    (requests : List ThemeRequest) :
    Along Kept { defaultId, listeners } requests ↔
      Along (fun m r => ¬ m.HalfSwitches r) { defaultId, listeners } requests :=
  along_kept_iff_of_together (.fresh defaultId listeners) requests

/-- A pack with one component and one template. -/
def smallPack (id type : String) (layer : Layer) : Pack where
  id
  name := id
  components := [{ type }]
  components_nodup := by simp
  templates := [("Card", [{ layer, schema := { root := .mk { id := "card", type } none } }])]

/-- The second pack has a template for a platform that does not say which. Its activation fails
after the registry was replaced. -/
theorem second_pack_switches_halfway :
    ¬ ∀ (defaultId : String) (listeners : List Unit) (requests : List ThemeRequest),
      Along Kept { defaultId, listeners } requests := by
  intro all
  have run := all "default" []
    [.register (smallPack "first" "Text" .base), .activate "first",
      .register (smallPack "second" "Button" .platform), .activate "second"]
  obtain ⟨_, _, _, last, _⟩ := run
  have same := (last.same (.badTemplate (.noPlatform "Card")) rfl).registry
  have types : some ["Button"] = some ["Text"] :=
    congrArg (Option.map (List.map Definition.type)) same
  exact absurd types (by decide)

end ThemeManager

end UiSchema
