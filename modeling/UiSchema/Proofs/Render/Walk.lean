import Mathlib.Data.List.Basic
import UiSchema.Render.Node

/-! Walks over a tree of nodes: every element comes before the elements right below it, and texts are
passed by. -/

set_option autoImplicit false

namespace UiSchema.Node

def children : Node → List Node
  | .text _ => []
  | .element _ _ _ children => children

def isElement : Node → Bool
  | .text _ => false
  | .element .. => true

/-- The elements right below a node. -/
def elements (node : Node) : List Node := node.children.filter isElement

theorem isElement_of_key? {node : Node} {key : String} (keyed : node.key? = some key) :
    node.isElement = true := by
  cases node with
  | text content => cases keyed
  | element => rfl

theorem walks_eq (nodes : List Node) : walks nodes = nodes.flatMap walk := by
  induction nodes with
  | nil => rfl
  | cons node rest ih => rw [walks, ih, List.flatMap_cons]

/-- A walk goes past the texts. -/
theorem flatMap_walk_filter (nodes : List Node) :
    (nodes.filter isElement).flatMap walk = nodes.flatMap walk := by
  induction nodes with
  | nil => rfl
  | cons node rest ih =>
    cases node with
    | text content => exact ih
    | element type key props children =>
      rw [List.filter_cons_of_pos rfl, List.flatMap_cons, List.flatMap_cons, ih]

theorem walk_eq {node : Node} (isElement : node.isElement = true) :
    node.walk = node :: node.elements.flatMap walk := by
  cases node with
  | text content => cases isElement
  | element type key props children => rw [walk, walks_eq, elements, flatMap_walk_filter]; rfl

theorem filterMap_key?_elements (node : Node) :
    node.elements.filterMap key? = node.children.filterMap key? := by
  rw [elements, List.filterMap_filter]
  apply List.filterMap_congr
  intro child _
  cases child <;> rfl

/-- Induction along a walk: from the elements right below a node to the node. -/
theorem walk_induction {P : Node → Prop}
    (step : ∀ node, (∀ child ∈ node.elements, P child) → P node) (node : Node) : P node := by
  apply step
  intro child member
  exact walk_induction step child
termination_by sizeOf node
decreasing_by
  cases node with
  | text content => cases member
  | element type key props children =>
    -- an element right below is one of the children, and these are smaller than the node
    have := List.sizeOf_lt_of_mem (List.mem_filter.1 member).1
    simp only [Node.children, element.sizeOf_spec] at this ⊢
    omega

/-- A walk goes on below each of its nodes. -/
theorem mem_walk_of_mem_elements {top node child : Node} (member : node ∈ top.walk)
    (below : child ∈ node.elements) : child ∈ top.walk := by
  induction top using walk_induction with
  | step top ih =>
    cases top with
    | text content => cases member
    | element type key props children =>
      rw [walk_eq rfl] at member ⊢
      apply List.mem_cons_of_mem
      rcases List.mem_cons.1 member with rfl | inside
      · -- the node is the top itself, and a walk comes by everything right below the top
        have self := walk_eq (List.mem_filter.1 below).2
        exact List.mem_flatMap.2 ⟨child, below, self ▸ List.mem_cons_self⟩
      · obtain ⟨part, inParts, inPart⟩ := List.mem_flatMap.1 inside
        exact List.mem_flatMap.2 ⟨part, inParts, ih part inParts inPart⟩

end UiSchema.Node
