import Mathlib.Data.List.Induction
import Mathlib.Data.List.Perm.Subperm
import UiSchema.Proofs.Theme.History

/-! Subscriptions and the handles that end them. A handle knows its subscription only by the
listener, so one that is called again ends another subscription of the same listener, if there is
one. That is all that can go wrong with the number of listeners. -/

set_option autoImplicit false

namespace UiSchema

/-- A subscription that was made. -/
structure Subscription (Listener : Type) where
  listener : Listener
  /-- Its handle has not been called yet. -/
  standing : Bool := true
  deriving DecidableEq

namespace Subscription

variable {Listener : Type}

/-- What is left of a subscription once its handle has been called. -/
def ended (sub : Subscription Listener) : Subscription Listener := { sub with standing := false }

/-- The listeners of the subscriptions whose handles have not been called. -/
def listening (made : List (Subscription Listener)) : List Listener :=
  (made.filter (·.standing)).map (·.listener)

theorem ended_of_ended {sub : Subscription Listener} (past : sub.standing = false) :
    sub.ended = sub := by
  rw [ended, ← past]

theorem listening_append (before after : List (Subscription Listener)) :
    listening (before ++ after) = listening before ++ listening after := by
  rw [listening, List.filter_append, List.map_append]
  rfl

theorem listening_cons (sub : Subscription Listener) (rest : List (Subscription Listener)) :
    listening (sub :: rest) =
      if sub.standing then sub.listener :: listening rest else listening rest := by
  rw [listening, List.filter_cons]
  split <;> rfl

/-- The first call of a handle takes one listener away, its own. -/
theorem perm_listening_set {made : List (Subscription Listener)} {n : Nat}
    {sub : Subscription Listener} (held : made[n]? = some sub) (standing : sub.standing = true) :
    (listening made).Perm (sub.listener :: listening (made.set n sub.ended)) := by
  induction made generalizing n with
  | nil => cases held
  | cons first rest ih =>
    cases n with
    | zero =>
      cases held
      rw [List.set_cons_zero, listening_cons, listening_cons, if_pos standing]
      exact .rfl
    | succ n =>
      rw [List.set_cons_succ, listening_cons, listening_cons]
      split
      · exact ((ih held).cons _).trans (.swap ..)
      · exact ih held

end Subscription

/-- What an application does with a manager and the handles it got from it. -/
inductive SubscriptionCall (Listener : Type) where
  | call (c : ThemeCall Listener)
  /-- The handle of the subscription with this number is called, the first one being number 0. -/
  | cancel (n : Nat)

/-- A manager with all subscriptions that were made. -/
structure Subscribed (Listener : Type) where
  manager : ThemeManager Listener
  made : List (Subscription Listener) := []

namespace Subscribed

variable {Listener : Type}

def fresh (defaultId : String) : Subscribed Listener := { manager := .fresh defaultId }

/-- The listeners that have a subscription whose handle has not been called, once for each. -/
def standing (s : Subscribed Listener) : List Listener := Subscription.listening s.made

/-- There are as many listeners as subscriptions whose handles have not been called. -/
def Counted (s : Subscribed Listener) : Prop := s.manager.listeners.length = s.standing.length

/-- A handle is called again while another subscription of its listener stands. -/
def Misfires (s : Subscribed Listener) : SubscriptionCall Listener → Prop
  | .call _ => False
  | .cancel n => ∃ sub, s.made[n]? = some sub ∧ sub.standing = false ∧ sub.listener ∈ s.standing

theorem misfires_cancel {s : Subscribed Listener} {n : Nat} {sub : Subscription Listener}
    (held : s.made[n]? = some sub) :
    s.Misfires (.cancel n) ↔ sub.standing = false ∧ sub.listener ∈ s.standing := by
  show (∃ _, s.made[n]? = some _ ∧ _) ↔ _
  rw [held]
  constructor
  · rintro ⟨_, ⟨⟩, misfires⟩
    exact misfires
  · exact fun misfires => ⟨sub, rfl, misfires⟩

variable [DecidableEq Listener]

/-- There is no handle of a subscription that was not made. -/
def cancel (s : Subscribed Listener) (n : Nat) : Subscribed Listener :=
  match s.made[n]? with
  | none => s
  | some sub =>
    { manager := s.manager.unsubscribe sub.listener, made := s.made.set n sub.ended }

def answer (s : Subscribed Listener) : SubscriptionCall Listener → Subscribed Listener
  | .call c =>
    { manager := (s.manager.call c).manager
      made := s.made ++ c.subscriber?.toList.map fun listener => { listener } }
  | .cancel n => s.cancel n

def after (s : Subscribed Listener) (calls : List (SubscriptionCall Listener)) :
    Subscribed Listener :=
  calls.foldl answer s

/-! ### One call -/

theorem standing_call (s : Subscribed Listener) (c : ThemeCall Listener) :
    (s.answer (.call c)).standing = s.standing ++ c.subscriber?.toList := by
  show Subscription.listening (s.made ++ _) = _
  rw [Subscription.listening_append]
  cases c <;> rfl

theorem listeners_call (s : Subscribed Listener) (c : ThemeCall Listener) :
    (s.answer (.call c)).manager.listeners = s.manager.listeners ++ c.subscriber?.toList :=
  s.manager.listeners_call c

theorem cancel_eq_self {s : Subscribed Listener} {n : Nat} (none : s.made[n]? = none) :
    s.cancel n = s := by
  rw [cancel, none]

theorem listeners_cancel {s : Subscribed Listener} {n : Nat} {sub : Subscription Listener}
    (held : s.made[n]? = some sub) :
    (s.cancel n).manager.listeners = s.manager.listeners.erase sub.listener := by
  rw [cancel, held]
  rfl

theorem standing_cancel {s : Subscribed Listener} {n : Nat} {sub : Subscription Listener}
    (held : s.made[n]? = some sub) (standing : sub.standing = true) :
    (s.standing.erase sub.listener).Perm (s.cancel n).standing := by
  rw [cancel, held]
  have one := (Subscription.perm_listening_set held standing).erase sub.listener
  rwa [List.erase_cons_head] at one

/-- A handle called again takes no subscription off the list of those that were made. -/
theorem made_cancel {s : Subscribed Listener} {n : Nat} {sub : Subscription Listener}
    (held : s.made[n]? = some sub) (past : sub.standing = false) :
    s.cancel n = { s with manager := s.manager.unsubscribe sub.listener } := by
  rw [cancel, held]
  obtain ⟨bound, rfl⟩ := List.getElem?_eq_some_iff.1 held
  simp only [Subscription.ended_of_ended past, List.set_getElem_self]

theorem standing_cancel_again {s : Subscribed Listener} {n : Nat} {sub : Subscription Listener}
    (held : s.made[n]? = some sub) (past : sub.standing = false) :
    (s.cancel n).standing = s.standing := by
  rw [made_cancel held past]
  rfl

/-- The listeners stay among those with a standing subscription. -/
theorem subperm_answer {s : Subscribed Listener}
    (among : s.manager.listeners.Subperm s.standing) (c : SubscriptionCall Listener) :
    (s.answer c).manager.listeners.Subperm (s.answer c).standing := by
  cases c with
  | call c =>
    rw [listeners_call, standing_call]
    exact (List.subperm_append_right _).2 among
  | cancel n =>
    show (s.cancel n).manager.listeners.Subperm (s.cancel n).standing
    cases held : s.made[n]? with
    | none => rwa [cancel_eq_self held]
    | some sub =>
      rw [listeners_cancel held]
      cases past : sub.standing with
      | true => exact (among.erase sub.listener).trans (standing_cancel held past).subperm
      | false =>
        rw [standing_cancel_again held past]
        exact (List.erase_subperm ..).trans among

/-- As long as the listeners are those with a standing subscription, one call keeps their number
right unless it misfires. -/
theorem counted_answer {s : Subscribed Listener} (agree : s.manager.listeners.Perm s.standing)
    (c : SubscriptionCall Listener) : (s.answer c).Counted ↔ ¬s.Misfires c := by
  cases c with
  | call c =>
    refine iff_of_true ?_ id
    rw [Counted, listeners_call, standing_call]
    exact (agree.append_right _).length_eq
  | cancel n =>
    show (s.cancel n).Counted ↔ _
    cases held : s.made[n]? with
    | none =>
      rw [cancel_eq_self held]
      refine iff_of_true agree.length_eq ?_
      rintro ⟨sub, other, -⟩
      cases held.symm.trans other
    | some sub =>
      rw [misfires_cancel held, Counted, listeners_cancel held]
      cases past : sub.standing with
      | true =>
        refine iff_of_true ?_ nofun
        exact ((agree.erase _).trans (standing_cancel held past)).length_eq
      | false =>
        rw [standing_cancel_again held past, ← agree.length_eq, ← agree.mem_iff]
        by_cases there : sub.listener ∈ s.manager.listeners
        · have fewer := List.length_erase_of_mem there
          have positive := List.length_pos_of_mem there
          simp only [there, and_self, not_true_eq_false, iff_false]
          omega
        · rw [List.erase_of_not_mem there]
          exact iff_of_true rfl (there ·.2)

/-! ### A run -/

theorem after_concat (s : Subscribed Listener) (calls : List (SubscriptionCall Listener))
    (c : SubscriptionCall Listener) : s.after (calls ++ [c]) = (s.after calls).answer c :=
  List.foldl_concat ..

theorem subperm_after (defaultId : String) (calls : List (SubscriptionCall Listener)) :
    ((fresh defaultId).after calls).manager.listeners.Subperm
      ((fresh defaultId).after calls).standing := by
  induction calls using List.reverseRecOn with
  | nil => exact List.nil_subperm
  | append_singleton calls c ih =>
    rw [after_concat]
    exact subperm_answer ih c

/-- Where the number of listeners is right, the listeners are. -/
theorem perm_of_counted {defaultId : String} {calls : List (SubscriptionCall Listener)}
    (counted : ((fresh defaultId).after calls).Counted) :
    ((fresh defaultId).after calls).manager.listeners.Perm
      ((fresh defaultId).after calls).standing :=
  (subperm_after defaultId calls).perm_of_length_le (Nat.le_of_eq counted.symm)

/-- The number of listeners was right all along a run just when no call of it misfired. -/
theorem counted_iff (defaultId : String) (calls : List (SubscriptionCall Listener)) :
    (∀ front, front <+: calls → ((fresh defaultId).after front).Counted) ↔
      ∀ front c, front ++ [c] <+: calls → ¬((fresh defaultId).after front).Misfires c := by
  refine ⟨fun counted front c within => ?_, fun well front within => ?_⟩
  · have before := counted front ((List.prefix_append ..).trans within)
    have next := counted (front ++ [c]) within
    rw [after_concat] at next
    exact (counted_answer (perm_of_counted before) c).1 next
  · induction front using List.reverseRecOn with
    | nil => rfl
    | append_singleton front c ih =>
      have before := ih ((List.prefix_append ..).trans within)
      rw [after_concat]
      exact (counted_answer (perm_of_counted before) c).2 (well front c within)

/-- What handles do along a run from the start. -/
structure Handled (defaultId : String) (calls : List (SubscriptionCall Listener)) : Prop where
  counted : (∀ front, front <+: calls → ((fresh defaultId).after front).Counted) ↔
    ∀ front c, front ++ [c] <+: calls → ¬((fresh defaultId).after front).Misfires c
  /-- No listener is left without a standing subscription for it. -/
  among : ((fresh defaultId).after calls).manager.listeners.Subperm
    ((fresh defaultId).after calls).standing
  /-- A handle called again changes nothing just when its listener is not listening any more. -/
  again : ∀ n sub, ((fresh defaultId).after calls).made[n]? = some sub → sub.standing = false →
    (((fresh defaultId).after calls).answer (.cancel n) = (fresh defaultId).after calls ↔
      sub.listener ∉ ((fresh defaultId).after calls).manager.listeners)

theorem cancel_again {s : Subscribed Listener} {n : Nat} {sub : Subscription Listener}
    (held : s.made[n]? = some sub) (past : sub.standing = false) :
    s.answer (.cancel n) = s ↔ sub.listener ∉ s.manager.listeners := by
  refine ⟨fun same there => ?_, fun gone => ?_⟩
  · have listeners := listeners_cancel held
    rw [show s.cancel n = s from same] at listeners
    have fewer := List.length_erase_of_mem there
    have positive := List.length_pos_of_mem there
    rw [← listeners] at fewer
    omega
  · rw [show s.answer (.cancel n) = s.cancel n from rfl, made_cancel held past,
      ThemeManager.unsubscribe, List.erase_of_not_mem gone]

theorem handled (defaultId : String) (calls : List (SubscriptionCall Listener)) :
    Handled defaultId calls where
  counted := counted_iff defaultId calls
  among := subperm_after defaultId calls
  again _ _ held past := cancel_again held past

/-- One listener is subscribed twice and the first handle called twice: nobody listens any more,
and one subscription stands. -/
theorem called_twice_ends_both :
    let s := (fresh "" : Subscribed Unit).after
      [.call (.subscribe ()), .call (.subscribe ()), .cancel 0, .cancel 0]
    s.manager.listeners.length = 0 ∧ s.standing.length = 1 := by
  decide

end Subscribed

end UiSchema
