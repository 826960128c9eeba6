import Mathlib.Data.List.Flatten
import UiSchema.Schema.Component

/-! Trees of components: the order in which they are listed, and induction over them. -/

set_option autoImplicit false

namespace UiSchema.Component

theorem subtrees_eq (children : List Component) : subtrees children = children.flatMap subtree := by
  induction children with
  | nil => rfl
  | cons child rest ih => rw [subtrees, ih, List.flatMap_cons]

theorem subtreesIn_eq (children : Option (List Component)) :
    subtreesIn children = (children.getD []).flatMap subtree := by
  cases children with
  | none => rfl
  | some children => exact subtrees_eq children

theorem subtree_mk (own : Attributes) (children : Option (List Component)) :
    (mk own children).subtree = mk own children :: (children.getD []).flatMap subtree := by
  rw [subtree, subtreesIn_eq]

/-- Induction over a tree: what holds of a component if it holds of its children holds of every
component. -/
theorem tree_induction {P : Component → Prop}
    (step : ∀ own children, (∀ child ∈ children.getD [], P child) → P (mk own children))
    (c : Component) : P c := by
  cases c with
  | mk own children =>
    apply step
    intro child member
    exact tree_induction step child
termination_by sizeOf c
decreasing_by
  -- a child is smaller than the list it stands in, and that is smaller than the component
  cases children with
  | none => cases member
  | some children =>
    have := List.sizeOf_lt_of_mem (show child ∈ children from member)
    simp only [mk.sizeOf_spec, Option.some.sizeOf_spec]
    omega

/-- What holds of everything below the children, and of the component, holds of the whole tree. -/
theorem forall_mem_subtree_mk {P : Component → Prop} {own : Attributes}
    {children : Option (List Component)} :
    (∀ c ∈ (mk own children).subtree, P c) ↔
      P (mk own children) ∧ ∀ child ∈ children.getD [], ∀ c ∈ child.subtree, P c := by
  rw [subtree_mk, List.forall_mem_cons]
  refine and_congr_right fun _ => ?_
  constructor
  · intro all child member c below
    exact all c (List.mem_flatMap.2 ⟨child, member, below⟩)
  · intro each c below
    obtain ⟨child, member, inChild⟩ := List.mem_flatMap.1 below
    exact each child member c inChild

theorem mem_subtree_self (c : Component) : c ∈ c.subtree := by
  cases c with
  | mk own children =>
    rw [subtree_mk]
    exact List.mem_cons_self

/-- A part of a tree is listed as one piece of the whole. -/
theorem subtree_sublist {c d : Component} (member : d ∈ c.subtree) :
    d.subtree.Sublist c.subtree := by
  induction c using tree_induction with
  | step own children ih =>
    rw [subtree_mk] at member
    rcases List.mem_cons.1 member with rfl | below
    · exact List.Sublist.refl _
    · obtain ⟨child, inChildren, inChild⟩ := List.mem_flatMap.1 below
      have whole := (List.singleton_sublist.2 inChildren).flatMap subtree
      rw [List.flatMap_singleton] at whole
      rw [subtree_mk]
      exact ((ih child inChildren inChild).trans whole).cons _

/-- Children stand in the order in which they are listed. -/
theorem children_sublist (c : Component) : (c.children.getD []).Sublist c.subtree := by
  cases c with
  | mk own children =>
    have each := List.Sublist.flatMap_right (children.getD []) fun child _ =>
      List.singleton_sublist.2 (mem_subtree_self child)
    rw [List.flatMap_singleton'] at each
    rw [subtree_mk]
    exact each.cons _

/-- A tree goes on below each of its components. -/
theorem mem_subtree_child {c d child : Component} (member : d ∈ c.subtree)
    (below : child ∈ d.children.getD []) : child ∈ c.subtree :=
  (subtree_sublist member).subset ((children_sublist d).subset below)

end UiSchema.Component
