/-
  EpubAccess.Navigation
  ────────────────────────────────
  Navigation trees: tables of contents, page lists and lists of figures,
  illustrations and tables.

  A tree has two kinds of node: tables, which group, and points, which lead
  into content.  `Walk` visits the descendants of a table with an explicit
  stack; `NavNode.preorder` lists them by recursion.  A walk ends because
  every step takes one node off the stack and puts its children there
  (`Walk.weight_next`).
-/
import EpubAccess.Json.Basic

namespace EpubAccess

/-- The navigation tables that a publication may have. -/
inductive NavKind where
  | tableOfContents
  | listOfFigures
  | listOfIllustrations
  | listOfTables
  | pageList
  deriving DecidableEq, Inhabited

namespace NavKind

/-- Every kind, in declaration order. -/
def all : List NavKind :=
  [.tableOfContents, .listOfFigures, .listOfIllustrations, .listOfTables, .pageList]

/-- The type that marks such a table in a navigation document. -/
def epubType : NavKind → String
  | .tableOfContents => "toc"
  | .listOfFigures => "lof"
  | .listOfIllustrations => "loi"
  | .listOfTables => "lot"
  | .pageList => "page-list"

end NavKind

/-! ## Trees. -/

/-- A node of a navigation tree. -/
inductive NavNode where
  /-- A named grouping, read from a source document. -/
  | table (type title source : String) (children : List NavNode)
  /-- A titled link into content. -/
  | point (title content : String) (children : List NavNode)
  deriving Inhabited

namespace NavNode

/-- The title of a node. -/
def title : NavNode → String
  | table _ t _ _ => t
  | point t _ _ => t

/-- The children of a node. -/
def children : NavNode → List NavNode
  | table _ _ _ cs => cs
  | point _ _ cs => cs

/-- Where a point leads; tables lead nowhere. -/
def content? : NavNode → Option String
  | table _ _ _ _ => none
  | point _ c _ => some c

/-- A node with other children. -/
def withChildren (cs : List NavNode) : NavNode → NavNode
  | table type t source _ => table type t source cs
  | point t c _ => point t c cs

/-- A node appended to the children of the node at a path of child indexes;
nothing changes where the path leads out of the tree. -/
def appendAt (child : NavNode) : List Nat → NavNode → NavNode
  | [], parent => parent.withChildren (parent.children ++ [child])
  | i :: path, parent => parent.withChildren (parent.children.modify i (appendAt child path))

mutual

/-- A node and its descendants, every node before its children. -/
def preorder : NavNode → List NavNode
  | table type t source cs => table type t source cs :: preorderList cs
  | point t c cs => point t c cs :: preorderList cs

/-- The nodes of several trees, one tree after the other. -/
def preorderList : List NavNode → List NavNode
  | [] => []
  | n :: rest => n.preorder ++ preorderList rest

end

mutual

/-- The number of nodes of a tree. -/
def weight : NavNode → Nat
  | table _ _ _ cs => 1 + weightList cs
  | point _ _ cs => 1 + weightList cs

/-- The number of nodes of several trees. -/
def weightList : List NavNode → Nat
  | [] => 0
  | n :: rest => n.weight + weightList rest

end

theorem weight_eq (n : NavNode) : n.weight = 1 + weightList n.children := by
  cases n <;> simp [weight, children]

theorem weightList_append (l r : List NavNode) :
    weightList (l ++ r) = weightList l + weightList r := by
  induction l with
  | nil => simp [weightList]
  | cons n l ih => simp [weightList, ih, Nat.add_assoc]

end NavNode

/-- The root of a navigation tree. -/
structure NavTable where
  type : String
  title : String
  source : String
  children : List NavNode
  deriving Inhabited

/-! ## Walks. -/

/-- A walk through several trees: what is still to visit, the next tree first. -/
structure Walk where
  stack : List NavNode
  deriving Inhabited

namespace Walk

/-- The nodes that a walk has still to visit. -/
def weight (w : Walk) : Nat := NavNode.weightList w.stack

/-- The next node, and the walk with its children in its place. -/
def next? : Walk → Option (NavNode × Walk)
  | ⟨[]⟩ => none
  | ⟨n :: rest⟩ => some (n, ⟨n.children ++ rest⟩)

/-- Every step leaves one node less to visit. -/
theorem weight_next {w v : Walk} {n : NavNode} (h : w.next? = some (n, v)) :
    v.weight < w.weight := by
  match w, h with
  | ⟨m :: rest⟩, h =>
    simp only [next?, Option.some.injEq, Prod.mk.injEq] at h
    obtain ⟨rfl, rfl⟩ := h
    simp only [weight, NavNode.weightList, NavNode.weightList_append, NavNode.weight_eq]
    omega

/-- Every node that the walk visits, in order. -/
def toList (w : Walk) : List NavNode :=
  match _step : w.next? with
  | none => []
  | some (n, v) => n :: v.toList
termination_by w.weight
decreasing_by exact weight_next _step

end Walk

namespace NavTable

/-- The table as a node, under which it can be nested. -/
def toNode (t : NavTable) : NavNode := .table t.type t.title t.source t.children

/-- A walk over every descendant. -/
def walk (t : NavTable) : Walk := ⟨t.children⟩

/-- The number of descendants. -/
def size (t : NavTable) : Nat := t.walk.toList.length

/-- Is there no descendant? -/
def isEmpty (t : NavTable) : Bool := t.children.isEmpty

/-- A node appended to the children of the node at a path; the empty path is
the table itself. -/
def appendAt (child : NavNode) (t : NavTable) : List Nat → NavTable
  | [] => { t with children := t.children ++ [child] }
  | i :: path => { t with children := t.children.modify i (NavNode.appendAt child path) }

end NavTable

/-! ## JSON. -/

namespace NavNode

mutual

/-- A node as a JSON object, its kind first. -/
def toJson : NavNode → Json
  | table type t source cs =>
    .object [("kind", .string "table"), ("type", .string type), ("title", .string t),
      ("sourceHref", .string source), ("children", .array (toJsonList cs))]
  | point t c cs =>
    .object [("kind", .string "point"), ("title", .string t), ("content", .string c),
      ("children", .array (toJsonList cs))]

/-- Several nodes, each as a JSON object. -/
def toJsonList : List NavNode → List Json
  | [] => []
  | n :: rest => n.toJson :: toJsonList rest

end

end NavNode

/-- A root table as a JSON object; its kind is not written. -/
def NavTable.toJson (t : NavTable) : Json :=
  .object [("type", .string t.type), ("title", .string t.title), ("sourceHref", .string t.source),
    ("children", .array (NavNode.toJsonList t.children))]

end EpubAccess
