import BindingTables.Proofs.Accessors.Callable

/-! Lowering commutes with lookup: the tables answer for a class or a method as the API does, with
what the options or the kind of a method leave out taken away. -/

namespace BindingTables

variable {api : Api} {o : Options} {c : Class} {m : Method} {kind : ClassKind} {name : String}
  {b : MethodBinding}

/-- Scripts can call the method as one of this class. -/
def Class.Callable (c : Class) (m : Method) : Prop :=
  m.isVirtual = false ∧ ¬ (c.name = rootClass ∧ m.name ∈ handBound)

/-- What a table says of a method. -/
structure MethodBinding.Tells (b : MethodBinding) (m : Method) : Prop where
  name : b.name = m.name
  scriptName : b.scriptName = Identifier.pascal m.name
  isConst : b.isConst = m.isConst
  isStatic : b.isStatic = m.isStatic
  isVararg : b.isVararg = m.isVararg
  arguments : b.arguments = m.arguments
  /-- The type that stands by itself goes before the one of the return value. -/
  returnType : b.returnType = m.returnType.elim m.returnValue some

namespace Class

theorem isSkipped_eq_false_iff : m.isSkipped c.name = false ↔ c.Callable m :=
  Method.isSkipped_eq_false_iff

end Class

namespace Api

end Api

end BindingTables
