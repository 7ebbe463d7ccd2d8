import TlaRunner.Console.Width

/-!
# Clusters

A line is cut between clusters only.  A cluster is a character that takes cells with
what is shown together with it: the characters without cells behind it, those that a
joiner hides, and the selectors that make it wide.  What stands before the first
character that takes cells is a cluster of its own, in which a joiner hides nothing.

`chop` cuts a text into pieces of a width, and `fit` cuts it to a width or fills it
up to it.  A wide cluster across the cut leaves a space in its place.
-/

namespace TlaRunner.Console

/-- A cluster. -/
structure Cluster where
  /-- Its characters, last one first. -/
  held : Text
  /-- The cells it takes. -/
  cells : Nat
  deriving DecidableEq, Repr

namespace Cluster

/-- The characters of a cluster. -/
def text (cluster : Cluster) : Text :=
  cluster.held.reverse

/-- A cluster with one more character. -/
def add (cluster : Cluster) (c : Char) : Cluster :=
  { cluster with held := c :: cluster.held }

/-- Opens a cluster without cells, or adds to one that is open. -/
def addTo (c : Char) : Option Cluster → Cluster
  | none => ⟨[c], 0⟩
  | some cluster => cluster.add c

/-- The clusters of the rest of a text.  `held` is the cluster that is still open, and
`last` its character that takes cells, unless it was widened. -/
def ofTextFrom (held : Option Cluster) (last : Option Char) : Text → List Cluster
  | [] => held.toList
  | c :: s =>
    if c = joiner then
      match held, s with
      | none, s => ofTextFrom (some ⟨[c], 0⟩) last s
      | some cluster, [] => [cluster.add c]
      | some cluster, hidden :: s => ofTextFrom (some ((cluster.add c).add hidden)) last s
    else if c = selector then
      match held, last with
      | some cluster, some d =>
        if Text.inRanges d.toNat widenedRanges then
          ofTextFrom (some ⟨c :: cluster.held, cluster.cells + 1⟩) none s
        else ofTextFrom (some (cluster.add c)) last s
      | held, last => ofTextFrom (some (addTo c held)) last s
    else
      match charWidth c with
      | 0 => ofTextFrom (some (addTo c held)) last s
      | cells => held.toList ++ ofTextFrom (some ⟨[c], cells⟩) (some c) s

/-- The clusters of a text. -/
def ofText (s : Text) : List Cluster :=
  ofTextFrom none none s

/-- The front of a text that takes a number of cells. -/
def front (cells : Nat) : List Cluster → Text
  | [] => []
  | cluster :: rest =>
    if cells = 0 then []
    else if cluster.cells ≤ cells then cluster.text ++ front (cells - cluster.cells) rest
    else [' ']

/-- Cuts clusters into pieces of a width.  `held` is the current piece, last character
first, which takes `cells` cells.  A last piece without cells is dropped. -/
def chopFrom (limit : Nat) (held : Text) (cells : Nat) : List Cluster → List Text
  | [] => if cells = 0 then [] else [held.reverse]
  | cluster :: rest =>
    if cells + cluster.cells > limit then
      held.reverse :: chopFrom limit cluster.held cluster.cells rest
    else chopFrom limit (cluster.held ++ held) (cells + cluster.cells) rest

end Cluster

/-- Cuts a text into pieces of a width. -/
def chop (limit : Nat) (s : Text) : List Text :=
  Cluster.chopFrom limit [] 0 (Cluster.ofText s)

/-- A text cut to a width, or filled up to it. -/
def fit (cells : Nat) (s : Text) : Text :=
  if cells = 0 then []
  else if width s ≤ cells then padTo cells s
  else Cluster.front cells (Cluster.ofText s)

example : chop 2 "abc".toList = ["ab".toList, "c".toList] := by decide

example : fit 2 "a世".toList = "a ".toList := by decide +kernel

end TlaRunner.Console
