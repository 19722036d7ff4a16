/-! The kinds of collection that a data directory can hold, the byte that records each one, and
which kinds may open a directory that another one created. Two kinds are compatible exactly when
they lay out their keys in the same way, so compatibility is an equivalence. -/

namespace CollectionMarker

inductive Layout
  /-- One run of ascending keys. -/
  | sequential
  /-- A priority byte stands before each key. -/
  | prioritised
  /-- Every queue has the keys that begin with its own leading bytes. -/
  | grouped
  deriving DecidableEq

inductive Collection
  | stack
  | queue
  | priorityQueue
  | prefixQueue
  deriving DecidableEq

namespace Collection

/-- Every kind, in the order of the recorded bytes. -/
def all : List Collection := [.stack, .queue, .priorityQueue, .prefixQueue]

/-- Stacks and queues differ only in the end they pop from. -/
def layout : Collection → Layout
  | .stack | .queue => .sequential
  | .priorityQueue => .prioritised
  | .prefixQueue => .grouped

/-- A directory created for `stored` may be opened for `requested`. -/
def compatible (stored requested : Collection) : Bool :=
  stored.layout == requested.layout

/-- The byte that a marker holds. It is part of the persisted format. -/
def tag : Collection → UInt8
  | .stack => 0
  | .queue => 1
  | .priorityQueue => 2
  | .prefixQueue => 3

def ofTag? (byte : UInt8) : Option Collection :=
  all.find? (·.tag == byte)

def name : Collection → String
  | .stack => "stack"
  | .queue => "queue"
  | .priorityQueue => "priority_queue"
  | .prefixQueue => "prefix_queue"

def ofName? (text : String) : Option Collection :=
  all.find? (·.name == text)

/-- The kind's name in diagnostics. -/
def title : Collection → String
  | .stack => "Stack"
  | .queue => "Queue"
  | .priorityQueue => "PriorityQueue"
  | .prefixQueue => "PrefixQueue"

theorem mem_all (c : Collection) : c ∈ all := by cases c <;> decide

@[simp] theorem ofTag?_tag (c : Collection) : ofTag? c.tag = some c := by cases c <;> rfl

@[simp] theorem ofName?_name (c : Collection) : ofName? c.name = some c := by cases c <;> decide

@[simp] theorem compatible_self (c : Collection) : c.compatible c = true := by simp [compatible]

theorem compatible_comm (c d : Collection) : c.compatible d = d.compatible c := by
  simp only [compatible, BEq.comm]

theorem compatible_trans {c d e : Collection} (h : c.compatible d = true) (h' : d.compatible e = true) :
    c.compatible e = true := by
  simp only [compatible, beq_iff_eq] at *
  exact h.trans h'

theorem tag_of_ofTag? {byte : UInt8} {c : Collection} (h : ofTag? byte = some c) : c.tag = byte := by
  simpa using List.find?_some h

theorem name_of_ofName? {text : String} {c : Collection} (h : ofName? text = some c) : c.name = text := by
  simpa using List.find?_some h

end Collection
end CollectionMarker
