import QueryDesk.Datum.Basic

namespace QueryDesk

namespace Snapshot

/-- What is at an address. A value stays as it is; the others are changed in place, and what lists,
    maps and results are made of is at addresses of its own. -/
inductive Object where
  | value (d : Datum)
  | buffer (bytes : List UInt8)
  | list (items : List Nat)
  | map (entries : List (Nat × Nat))
  | result (columns rows rowCount truncated : Nat)

namespace Object

def refs : Object → List Nat
  | value _ | buffer _ => []
  | list items => items
  | map entries => entries.flatMap fun entry => [entry.1, entry.2]
  | result columns rows rowCount truncated => [columns, rows, rowCount, truncated]

def relocate (moved : Nat → Nat) : Object → Object
  | value d => value d
  | buffer bytes => buffer bytes
  | list items => list (items.map moved)
  | map entries => map (entries.map fun entry => (moved entry.1, moved entry.2))
  | result columns rows rowCount truncated =>
    result (moved columns) (moved rows) (moved rowCount) (moved truncated)

def canBecome : Object → Object → Bool
  | buffer _, buffer _ | list _, list _ | map _, map _ | result .., result .. => true
  | _, _ => false

/-- What is seen of an object, given what is seen at the addresses that it refers to. -/
def shown (sight : Nat → Datum) : Object → Datum
  | value d => d
  | buffer bytes => .buffer bytes
  | list items => .list (items.map sight)
  | map entries => .map (entries.map fun entry => (sight entry.1, sight entry.2))
  | result columns rows rowCount truncated =>
    .tuple [sight columns, sight rows, sight rowCount, sight truncated]

end Object

structure Memory where
  objects : List Object

namespace Memory

def empty : Memory := ⟨[]⟩

def size (m : Memory) : Nat := m.objects.length

def get (m : Memory) (a : Nat) : Object := m.objects.getD a (.value .other)

def add (m : Memory) (o : Object) : Memory := ⟨m.objects ++ [o]⟩

def write (m : Memory) (a : Nat) (o : Object) : Memory := ⟨m.objects.set a o⟩

/-- What is seen at an address, down to a depth: a list that holds itself has no end. -/
def read (m : Memory) : Nat → Nat → Datum
  | 0, _ => .other
  | depth + 1, a => (m.get a).shown (m.read depth)

def expand (m : Memory) (known : List Nat) : List Nat :=
  (known.flatMap fun a => (m.get a).refs).foldr List.insert known

/-- What is reached from known addresses, in a number of rounds or until nothing is new. -/
def reachIn (m : Memory) : Nat → List Nat → List Nat
  | 0, known => known
  | rounds + 1, known =>
    let more := m.expand known
    if more.length = known.length then known else m.reachIn rounds more

def reach (m : Memory) (a : Nat) : List Nat := m.reachIn m.size [a]

def moved (m : Memory) (a b : Nat) : Nat := m.size + (m.reach a).idxOf b

/-- A deep copy: all that is reached from an address is added once more, however often it is referred
    to, and refers to copies only. -/
def copy (m : Memory) (a : Nat) : Nat × Memory :=
  (m.moved a a, ⟨m.objects ++ (m.reach a).map fun b => (m.get b).relocate (m.moved a)⟩)

end Memory

end Snapshot

end QueryDesk
