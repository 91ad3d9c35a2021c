import HotPath.Lang.Expr
import Mathlib.Data.List.Basic

/-!
A body laid out as the list of its nodes, each before its parts and these from left to right, and
the places that the nodes use. The scope check goes through the places in this order.
-/

namespace HotPath

namespace Expr

/-- The parts of a node, from left to right. -/
def parts : Expr → List Expr
  | .const _ | .readParam _ | .readLocal _ | .readCapture _ => []
  | .writeParam _ e | .writeLocal _ e | .writeCapture _ e | .unary _ e | .ret e | .raise e => [e]
  | .binary _ a b | .whileLoop a b => [a, b]
  | .ifElse a b c => [a, b, c]
  | .block items => items

mutual

/-- The nodes of a body, each before its parts and these from left to right. -/
def nodes : Expr → List Expr
  | e@(.const _) | e@(.readParam _) | e@(.readLocal _) | e@(.readCapture _) => [e]
  | e@(.writeParam _ a) | e@(.writeLocal _ a) | e@(.writeCapture _ a)
  | e@(.unary _ a) | e@(.ret a) | e@(.raise a) => e :: a.nodes
  | e@(.binary _ a b) | e@(.whileLoop a b) => e :: (a.nodes ++ b.nodes)
  | e@(.ifElse a b c) => e :: (a.nodes ++ b.nodes ++ c.nodes)
  | e@(.block items) => e :: nodesIn items

def nodesIn : List Expr → List Expr
  | [] => []
  | e :: rest => e.nodes ++ nodesIn rest

end

def place? : Expr → Option Place
  | .readParam i | .writeParam i _ => some (.param i)
  | .readLocal i | .writeLocal i _ => some (.frameLocal i)
  | .readCapture i | .writeCapture i _ => some (.capture i)
  | _ => none

/-- The place that a node itself assigns to. -/
def assigns? : Expr → Option Place
  | .writeParam i _ => some (.param i)
  | .writeLocal i _ => some (.frameLocal i)
  | .writeCapture i _ => some (.capture i)
  | _ => none

/-- The places that a body uses, in the order of its nodes. -/
def places (e : Expr) : List Place := e.nodes.filterMap place?

/-- The places that a body assigns to, in the order of its nodes. -/
def assigned (e : Expr) : List Place := e.nodes.filterMap assigns?

theorem nodesIn_eq (items : List Expr) : nodesIn items = items.flatMap nodes := by
  induction items with
  | nil => rfl
  | cons e rest ih => rw [nodesIn, ih, List.flatMap_cons]

theorem nodes_eq (e : Expr) : e.nodes = e :: e.parts.flatMap nodes := by
  cases e <;> simp [nodes, parts, nodesIn_eq]

theorem places_eq (e : Expr) : e.places = e.place?.toList ++ e.parts.flatMap places := by
  rw [places, nodes_eq, List.filterMap_cons, List.filterMap_flatMap]
  cases e.place? <;> rfl

theorem assigned_eq (e : Expr) : e.assigned = e.assigns?.toList ++ e.parts.flatMap assigned := by
  rw [assigned, nodes_eq, List.filterMap_cons, List.filterMap_flatMap]
  cases e.assigns? <;> rfl

theorem mem_places_of_place? {e : Expr} {place : Place} (uses : e.place? = some place) :
    place ∈ e.places := by
  simp [places_eq e, uses]

theorem mem_assigned_of_assigns? {e : Expr} {place : Place} (assigns : e.assigns? = some place) :
    place ∈ e.assigned := by
  simp [assigned_eq e, assigns]

theorem places_subset {e part : Expr} (member : part ∈ e.parts) : part.places ⊆ e.places := by
  intro place used
  rw [places_eq]
  exact List.mem_append_right _ (List.mem_flatMap_of_mem member used)

theorem assigned_subset {e part : Expr} (member : part ∈ e.parts) : part.assigned ⊆ e.assigned := by
  intro place assigned
  rw [assigned_eq]
  exact List.mem_append_right _ (List.mem_flatMap_of_mem member assigned)

theorem assigned_subset_places (e : Expr) : e.assigned ⊆ e.places := by
  intro place member
  obtain ⟨node, occurs, assigns⟩ := List.mem_filterMap.mp member
  refine List.mem_filterMap.mpr ⟨node, occurs, ?_⟩
  cases node <;> first | exact assigns | exact nomatch assigns

theorem sizeOf_lt_of_mem_parts {e part : Expr} (member : part ∈ e.parts) :
    sizeOf part < sizeOf e := by
  cases e with
  | block items =>
    have smaller := List.sizeOf_lt_of_mem (show part ∈ items from member)
    simp only [block.sizeOf_spec]
    omega
  | _ => grind [parts]

/-- Induction over a body by its parts. -/
theorem inductionOnParts {motive : Expr → Prop}
    (node : ∀ e : Expr, (∀ part ∈ e.parts, motive part) → motive e) (e : Expr) : motive e :=
  node e fun part _ => inductionOnParts node part
termination_by sizeOf e
decreasing_by exact sizeOf_lt_of_mem_parts ‹_›

end Expr

variable {scope : Scope}

theorem Expr.strayIn?_eq (items : List Expr) :
    strayIn? scope items = items.findSome? (stray? scope) := by
  induction items with
  | nil => rfl
  | cons e rest ih =>
    rw [strayIn?, ih, List.findSome?_cons]
    cases e.stray? scope <;> rfl

/-- The check of a node is that of its own place, then that of its parts. -/
theorem Expr.stray?_node (e : Expr) :
    e.stray? scope = (e.place?.bind scope.outside?).or (e.parts.findSome? (stray? scope)) := by
  cases e <;> simp [stray?, place?, parts, strayIn?_eq, List.findSome?_cons] <;> grind

/-- The scope check finds the first of the body's places that lies outside the scope. -/
theorem Expr.stray?_eq (e : Expr) :
    e.stray? scope = e.places.find? fun place => ¬ scope.Has place := by
  induction e using Expr.inductionOnParts with
  | node e ih =>
    rw [stray?_node, places_eq, List.find?_append, List.find?_flatMap]
    congr 1
    · cases e.place? with
      | none => rfl
      | some place => by_cases inside : scope.Has place <;> simp [Scope.outside?, inside]
    · rw [← List.head?_filterMap, ← List.head?_filterMap, List.filterMap_congr ih]

theorem Expr.stray?_eq_none {e : Expr} :
    e.stray? scope = none ↔ ∀ place ∈ e.places, scope.Has place := by
  simp [stray?_eq]

end HotPath
