import CCheck.Declaration.Declarator
import CCheck.Text.Trie
/-!
# Scopes

What the checker remembers between lines: the struct names seen in headers, and for each
declared name the shape it was first declared with. A later declaration of the same name never
changes the stored shape, so the first binding of a name is the only one. Both are tables keyed
by the names (`Text.Trie`), so a check of many lines takes time in proportion to the lines, not
to the square of their number.
-/

namespace CCheck.Declaration

open Unicode

/-- The struct names and the declared names with their first shapes. -/
structure Scope where
  structs : Text.Trie Unit
  shapes : Text.Trie Shape

namespace Scope

def empty : Scope := ⟨.empty, .empty⟩

/-- The shape `name` was first declared with, if it was declared. -/
def shapeOf? (s : Scope) (name : List CodePoint) : Option Shape := s.shapes.find? name

def declare (s : Scope) (name : List CodePoint) (shape : Shape) : Scope :=
  { s with shapes := s.shapes.insert name shape }

def addStruct (s : Scope) (name : List CodePoint) : Scope :=
  { s with structs := s.structs.insert name () }

def isStruct (s : Scope) (name : List CodePoint) : Bool := s.structs.contains name

@[simp] theorem shapeOf?_empty (name : List CodePoint) : empty.shapeOf? name = none :=
  Text.Trie.find?_empty name

@[simp] theorem shapeOf?_declare_self (s : Scope) (name : List CodePoint) (shape : Shape) :
    (s.declare name shape).shapeOf? name = some shape :=
  Text.Trie.find?_insert_self s.shapes name shape

theorem shapeOf?_declare_of_ne (s : Scope) {name other : List CodePoint} (shape : Shape)
    (h : other ≠ name) : (s.declare name shape).shapeOf? other = s.shapeOf? other :=
  Text.Trie.find?_insert_of_ne s.shapes shape h

@[simp] theorem shapeOf?_addStruct (s : Scope) (name other : List CodePoint) :
    (s.addStruct name).shapeOf? other = s.shapeOf? other := rfl

@[simp] theorem isStruct_empty (name : List CodePoint) : empty.isStruct name = false := by
  simp [isStruct, empty, Text.Trie.contains]

@[simp] theorem isStruct_addStruct_self (s : Scope) (name : List CodePoint) :
    (s.addStruct name).isStruct name = true := by
  simp [isStruct, addStruct, Text.Trie.contains]

theorem isStruct_addStruct_of_ne (s : Scope) {name other : List CodePoint}
    (h : other ≠ name) : (s.addStruct name).isStruct other = s.isStruct other := by
  simp only [isStruct, addStruct, Text.Trie.contains, Text.Trie.find?_insert_of_ne _ _ h]

@[simp] theorem isStruct_declare (s : Scope) (name other : List CodePoint) (shape : Shape) :
    (s.declare name shape).isStruct other = s.isStruct other := rfl

end Scope

end CCheck.Declaration
