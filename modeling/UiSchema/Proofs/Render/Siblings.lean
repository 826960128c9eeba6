import Mathlib.Data.List.Nodup
import UiSchema.Proofs.Render.Places

/-! Keys among siblings. A host tells the nodes below one node apart by their keys; it can, whatever
the data, if the ids of the schema are different. -/

set_option autoImplicit false

namespace UiSchema

namespace Place

variable {host : Host} {top p : Place} {node : Node}

/-- Rounds of one loop have different ids. -/
theorem round_ids_nodup (p : Place) (loop : Loop) (items : List Json) :
    ((items.zipIdx.map (p.round loop)).map fun q => q.own.id).Nodup := by
  -- the items may repeat, their indexes do not
  have indexes : (items.zipIdx.map Prod.snd).Nodup := by
    rw [List.zipIdx_map_snd]
    exact List.nodup_range'
  have differ : Function.Injective fun i => (Render.round p.own i).id :=
    fun i j same => (Render.round_id_inj same).2
  have ids := indexes.map differ
  rw [List.map_map] at ids ⊢
  exact ids

/-- What is rendered right below one place has different ids. -/
theorem Rendered.part_ids_nodup (reached : Rendered host top p node)
    (distinct : (top.component.subtree.map Component.id).Nodup) :
    ((p.parts host).map fun q => q.own.id).Nodup := by
  cases given : p.own.loop with
  | some loop =>
    rw [parts_loop given]
    exact round_ids_nodup p loop _
  | none =>
    cases known : host.registry.has p.own.type with
    | false =>
      rw [parts_unknown given known]
      exact List.nodup_nil
    | true =>
      -- children of a round are those of the component that it is a round of
      obtain ⟨c, declared, sameChildren, _⟩ := reached.visited.origin
      have within := (Component.children_sublist c).trans (Component.subtree_sublist declared)
      rw [parts_single given known, List.map_map, sameChildren]
      exact distinct.sublist (within.map Component.id)

/-- Keys of the elements right below a node stand in the order of the places right below. -/
theorem Rendered.keys_sublist (plain : host.Plain) (reached : Rendered host top p node) :
    (node.elements.filterMap Node.key?).Sublist ((p.parts host).map fun q => q.own.id) := by
  have all := reached.drawn.elements plain
  have keys : (node.elements.map Node.key?).Sublist ((p.parts host).map fun q => some q.own.id) :=
    Render.map_kept_sublist all fun q _ m rendered =>
      (drawn_of_render rendered).key? fun _ => plain.keys _
  have found := keys.filterMap id
  rw [List.filterMap_map, List.filterMap_map] at found
  rw [← List.filterMap_eq_map]
  exact found

end Place

namespace Render

/-- If no two components of a schema share an id, no two siblings in the tree rendered from it share
a key: below elements, below fragments, and in the rounds of nested loops. -/
theorem sibling_keys_nodup {host : Host} (plain : host.Plain) {schema : Schema}
    (distinct : (schema.root.subtree.map Component.id).Nodup) {data : Option Json} {root : Node}
    (rendered : render host schema data = .ok (some root)) :
    ∀ node ∈ root.walk, (node.children.filterMap Node.key?).Nodup := by
  intro node member
  have atTop : (schema.top data).render host = .ok (some root) := rendered
  obtain ⟨p, reached⟩ := (Place.mem_walk_iff plain atTop node).1 member
  rw [← Node.filterMap_key?_elements]
  exact (reached.part_ids_nodup distinct).sublist (reached.keys_sublist plain)

end Render

/-- A table with a row for each of the rows, and in it cells and a line of a type that is not
known. -/
def tableSchema : Schema where
  version := some "1.0"
  root := .mk { id := "table", type := "Row" } (some [
    .mk rowAttributes (some [cell, .mk { id := "line", type := "Line" } none])])
  data := some [("rows", .array tableRows)]

def lineNode : Node :=
  .element "Unknown" "line" [("type", .value (.str "Line")), ("id", .value (.str "line"))] []

def tableNode : Node :=
  .element "Row" "table" [] [.element "Fragment" "row" [] [.element "Row" "row-0" []
    [.element "Fragment" "cell" [] [.element "Cell" "cell-0" [] [.text "a 0"],
      .element "Cell" "cell-1" [] [.text "b 1"]], lineNode]]]

theorem table_sibling_keys_nodup :
    tableHost.Plain ∧ (tableSchema.root.subtree.map Component.id).Nodup ∧
      render tableHost tableSchema none = .ok (some tableNode) ∧
      ∀ node ∈ tableNode.walk, (node.children.filterMap Node.key?).Nodup :=
  have plain : tableHost.Plain := ⟨fun _ _ => rfl, rfl⟩
  have distinct : (tableSchema.root.subtree.map Component.id).Nodup := by decide
  have rendered : render tableHost tableSchema none = .ok (some tableNode) := rfl
  ⟨plain, distinct, rendered, Render.sibling_keys_nodup plain distinct rendered⟩

end UiSchema
