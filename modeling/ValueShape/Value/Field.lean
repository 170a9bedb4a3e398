import ValueShape.Value.Heap
import ValueShape.Value.Member

/-!
# Fields

The attributes that classes have from the beginning.

* `Kind.fields` are the fields of records and of predicates.  Each of them is either stored in the
  object or computed from it, and a value stands for it in the class.
* `Heap.start` is the heap with these attributes, and with the only object of the class of the
  absent value, which that class remembers.
-/

set_option autoImplicit false

namespace ValueShape

/-- The fields of the objects of a kind, with the kind of what stands for them in the class. -/
def Kind.fields : Kind → List (String × Kind)
  | options => [("threshold", memberField), ("max_depth", memberField)]
  | metadata => [("name", memberField), ("args", memberField)]
  | predicate =>
    [("name", computedField), ("optional", computedField), ("readonly", computedField),
      ("_check", memberField), ("_name", memberField), ("_optional", memberField),
      ("_readonly", memberField)]
  | _ => []

/-- The kind of what stands for a field or another member in the class. -/
def Kind.fieldKind (owner : Kind) (name : String) : Kind :=
  (owner.fields.lookup name).getD <|
    ((owner.memberSort? name).map MemberSort.descriptorKind).getD .memberField

/-- Whether the methods of the class of a kind are functions, which the class itself becomes the first
argument of. -/
def Kind.hasClassFunctions (owner : Kind) : Bool := owner.isAbstract || owner == .predicate

/-- The kind of a member that is read through an object. -/
def Kind.boundKind (owner : Kind) (name : String) : Kind :=
  match owner.memberSort? name with
  | some .classMethod => if owner.hasClassFunctions then .method else .builtin
  | some sort => sort.boundKind
  | none => .method

namespace Heap

/-- The name of the attribute that holds the only object of a class. -/
def instanceAttribute : String := "_instance"

/-- The attributes that stand for the fields of a kind. -/
def fieldAttributes (k : Kind) : List Attribute :=
  k.fields.map fun field => ⟨.ofClass (.kind k), field.1, .field k field.1⟩

/-- The heap in which nothing has been made yet, apart from what classes have from the beginning. -/
def start : Heap :=
  { empty with
    attributes :=
      ⟨.ofClass (.kind .undefined), instanceAttribute, .undefined⟩ ::
        Kind.all.flatMap fieldAttributes }

end Heap

end ValueShape
