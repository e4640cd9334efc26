import Transit.Common.Graph
import Transit.Framework.Arrays

/-!
# The arrays of `graph_find_path` (`common/graph.c`)

`graphFindPath` works on lists and on tables without an end. Here are the loops
of the same function over `prev`, `dist` and `visited`, of `node_count` elements,
over `rev[256]` and over the arrays of a `GraphPath`: `none` is an access outside
of one of them, or a search that does not end.
-/

namespace Transit

open Framework

variable {D : Type} {n : Nat}

/-- `GraphPath`. -/
structure GraphPathArrays where
  indices : FixedArray Int maxGraphPath
  segmentRoutes : FixedArray (CStr maxRouteLen) maxGraphPath
  segmentMinutes : FixedArray Int maxGraphPath
  count : Nat
  totalMinutes : Int

/-- `memset(path, 0, sizeof(*path))`. -/
def GraphPathArrays.cleared : GraphPathArrays :=
  ⟨.fill _ 0, .fill _ (.copy _ []), .fill _ 0, 0, 0⟩

structure SearchArrays (n : Nat) where
  prev : FixedArray Int n
  dist : FixedArray Int n
  visited : FixedArray Bool n

/-- `a[i]`, where `i` may be negative. -/
def readInt {α : Type} (a : FixedArray α n) (i : Int) : Option α := if i < 0 then none else a.read i.toNat

/-- The arrays as the search starts. -/
def searchInitArrays (n fromIndex : Nat) : Option (SearchArrays n) :=
  ((FixedArray.fill n inf).write fromIndex 0).bind fun dist =>
  ((FixedArray.fill n (-1 : Int)).write fromIndex fromIndex).map fun prev =>
  { prev := prev, dist := dist, visited := .fill n false }

def nearerArrays (s : SearchArrays n) (best : Int × Int) (i : Nat) : Option (Int × Int) :=
  (s.visited.read i).bind fun visited =>
  if visited then some best
  else (s.dist.read i).bind fun dist => some (if dist < best.1 then (dist, i) else best)

/-- `cur`, `-1` where no node is left. -/
def nearestArrays (s : SearchArrays n) : Option Int :=
  ((List.range n).foldlM (nearerArrays s) (inf, -1)).map Prod.snd

def relaxArrays (cur : Nat) (s : SearchArrays n) (edge : GraphEdge) : Option (SearchArrays n) :=
  (s.dist.read cur).bind fun curDist =>
  (s.visited.read edge.toIndex).bind fun visited =>
  if visited then some s
  else
    let nextDist := toInt32 (curDist + edge.weightMin)
    (s.dist.read edge.toIndex).bind fun dist =>
    if nextDist < dist then
      (s.dist.write edge.toIndex nextDist).bind fun dist =>
      (s.prev.write edge.toIndex cur).map fun prev => { s with dist := dist, prev := prev }
    else some s

/-- The search loop: the arrays at its end and `found`. -/
def searchLoopArrays (g : TransferGraph D) (toIndex : Nat) :
    Nat → SearchArrays g.nodeCount → Option (SearchArrays g.nodeCount × Bool)
  | 0, _ => none
  | fuel + 1, s =>
    (nearestArrays s).bind fun cur =>
    if cur < 0 then some (s, false)
    else
      (s.visited.write cur.toNat true).bind fun visited =>
      let s := { s with visited := visited }
      if cur = toIndex then some (s, true)
      else
        (g.nodes[cur.toNat]?).bind fun node =>
        (node.edges.foldlM (relaxArrays cur.toNat) s).bind fun s => searchLoopArrays g toIndex fuel s

/-- The loop that fills `rev` from `count` on, `room` places being left: the
array and `count` behind it. -/
def backtrackArrays (prev : FixedArray Int n) (fromIndex : Nat) :
    (room : Nat) → (rev : FixedArray Int maxGraphPath) → (count : Nat) → (cur : Int) →
    Option (FixedArray Int maxGraphPath × Nat)
  | 0, rev, count, _ => some (rev, count)
  | room + 1, rev, count, cur =>
    (rev.write count cur).bind fun rev =>
    if cur = fromIndex then some (rev, count + 1)
    else (readInt prev cur).bind fun cur => backtrackArrays prev fromIndex room rev (count + 1) cur

/-- `graph_find_edge`, of two numbers. -/
def graphFindEdgeInt (g : TransferGraph D) (fromIndex toIndex : Int) : Option GraphEdge :=
  if fromIndex < 0 ∨ fromIndex ≥ g.nodeCount then none
  else (g.edgesAt fromIndex.toNat).find? fun edge => (edge.toIndex : Int) == toIndex

/-- `path->indices[i] = rev[count - i - 1]`. -/
def copyIndex (rev : FixedArray Int maxGraphPath) (count : Nat) (path : GraphPathArrays) (i : Nat) :
    Option GraphPathArrays :=
  (rev.read (count - i - 1)).bind fun index =>
  (path.indices.write i index).map fun indices => { path with indices := indices }

/-- The time and the route of the segment behind `path->indices[i]`. -/
def fillSegment (g : TransferGraph D) (path : GraphPathArrays) (i : Nat) : Option GraphPathArrays :=
  (path.indices.read i).bind fun u =>
  (path.indices.read (i + 1)).bind fun v =>
  match graphFindEdgeInt g u v with
  | none => some path
  | some edge =>
    (path.segmentMinutes.write i edge.weightMin).bind fun segmentMinutes =>
    (path.segmentRoutes.write i edge.routeNo).map fun segmentRoutes =>
    { path with segmentMinutes := segmentMinutes, segmentRoutes := segmentRoutes }

/-- `graph_find_path`: what `path` holds, and the value returned. `path` and `rev`
are what stands in them before. -/
def graphFindPathArrays (mem : Bool) (g : TransferGraph D) (fromIndex toIndex : Int) (path : GraphPathArrays)
    (rev : FixedArray Int maxGraphPath) : Option (GraphPathArrays × Bool) :=
  if fromIndex < 0 ∨ toIndex < 0 ∨ fromIndex ≥ g.nodeCount ∨ toIndex ≥ g.nodeCount then some (path, false)
  else if !mem then some (.cleared, false)
  else
    (searchInitArrays g.nodeCount fromIndex.toNat).bind fun s =>
    (searchLoopArrays g toIndex.toNat (g.nodeCount + 1) s).bind fun (s, found) =>
    if found then
      (backtrackArrays s.prev fromIndex.toNat maxGraphPath rev 0 toIndex).bind fun (rev, count) =>
      if count > 0 then
        (rev.read (count - 1)).bind fun last =>
        if last = fromIndex then
          (readInt s.dist toIndex).bind fun totalMinutes =>
          let path := { GraphPathArrays.cleared with count := count, totalMinutes := totalMinutes }
          ((List.range count).foldlM (copyIndex rev count) path).bind fun path =>
          ((List.range (count - 1)).foldlM (fillSegment g) path).map fun path => (path, decide (path.count > 0))
        else some (.cleared, false)
      else some (.cleared, false)
    else some (.cleared, false)

end Transit
